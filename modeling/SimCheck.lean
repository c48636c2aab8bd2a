import SimCheck.Config.Loader
import SimCheck.Config.Toml.Writer
import SimCheck.Coordinator.Network
import SimCheck.Distribution.Binary64
import SimCheck.Fault.Message
import SimCheck.Generator
import SimCheck.Model.Rules
import SimCheck.Proofs.Agreement.Observation
import SimCheck.Proofs.Agreement.Sampling
import SimCheck.Proofs.Agreement.Sending
import SimCheck.Proofs.Delivery.Crossing
import SimCheck.Proofs.Duality
import SimCheck.Proofs.ErrorBudget.Soundness
import SimCheck.Proofs.Memo.Calls
import SimCheck.Proofs.Memo.Reverify
import SimCheck.Proofs.Path.Checkpoint
import SimCheck.Proofs.Path.Until
import SimCheck.Proofs.Precondition.Absorption
import SimCheck.Proofs.Precondition.Calls
import SimCheck.Proofs.Schedule.Admission
import SimCheck.Proofs.Schedule.Fairness
import SimCheck.Proofs.Source.Alone
import SimCheck.Proofs.Source.Directory
import SimCheck.Proofs.Spending.Budget
import SimCheck.Proofs.Test.Curtailment
import SimCheck.Proofs.Termination.Check
import SimCheck.Proofs.Test.Looser
import SimCheck.Proofs.Test.Monotone
import SimCheck.Proofs.Test.Quantile
import SimCheck.Proofs.Test.Resume
import SimCheck.Proofs.Test.Smallest
import SimCheck.Proofs.Test.Stopping
import SimCheck.Proofs.Test.Wald
import SimCheck.Proofs.Time.Translation
import SimCheck.Proofs.Truncation
import SimCheck.Proofs.Unsampled
import SimCheck.Proofs.Wire.Chunks
import SimCheck.Property.Text
import SimCheck.Scalar.Exact
import SimCheck.Test.Text
import SimCheck.Text.Quoted
import SimCheck.Verifier.Script
import SimCheck.Verifier.Text
import SimCheck.Worker.Service
