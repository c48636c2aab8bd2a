import SimCheck.Distribution.Basic
import SimCheck.Distribution.Binomial64
import SimCheck.Distribution.Student64
import SimCheck.Scalar.Binary64

/-!
# Distribution functions in binary64 arithmetic

The instance with which programs run.
-/

namespace SimCheck.Binary64

instance : Distributions Float where
  binomial := binomialTail
  studentQuantile := studentQuantile

end SimCheck.Binary64
