import SimCheck.Wire.Stream

/-!
# Workers

A worker samples the property that its coordinator has asked for last, until it is told to stop or
cannot evaluate the property.

* `Worker` is its state, `Worker.apply` is what a message of the coordinator does to it;
* `WorkerError` says why a worker gives up, `WorkerError.message` in words.
-/

namespace SimCheck

open Wire (Bytes CoordinatorMessage)

/-- The state of a worker. -/
structure Worker where
  id : ClientId
  /-- The property that is being sampled. -/
  active : Option PropertyId
  /-- Bytes that have not been decoded. -/
  incoming : Bytes

namespace Worker

/-- A worker that has just connected. -/
def create : Worker := ⟨⟨0⟩, none, []⟩

/-- What a message does to the worker. -/
def apply (w : Worker) : CoordinatorMessage → Worker
  | .register id => { w with id }
  | .start property => { w with active := some property }
  | .stop => { w with active := none }

end Worker

/-- Why a worker gives up. -/
inductive WorkerError
  /-- A block that is no message of a coordinator. -/
  | wire (e : Wire.Error)
  /-- The coordinator has closed the connection. -/
  | connectionClosed
  /-- The first message was no number. -/
  | unexpectedMessage (m : CoordinatorMessage)
  /-- A read or a write has failed; `gone` if the connection is no more. -/
  | transport (gone : Bool)

/-- Whether the coordinator has gone away, which ends the service of a worker in good order. -/
def WorkerError.isDeparture : WorkerError → Bool
  | .connectionClosed => true
  | .transport gone => gone
  | .wire _ | .unexpectedMessage _ => false

/-- A message of a coordinator in words. -/
def Wire.CoordinatorMessage.text : CoordinatorMessage → String
  | .register id => s!"Register(ClientId({id.value}))"
  | .start property => s!"Start(PropertyId({property}))"
  | .stop => "Stop"

/-- The wording of an error, but for errors of the transport, which have none of their own. -/
def WorkerError.message? : WorkerError → Option String
  | .wire e => some ("wire protocol error: " ++ e.message)
  | .connectionClosed => some "connection closed"
  | .unexpectedMessage m => some ("unexpected record: expected REGISTER, got " ++ m.text)
  | .transport _ => none

end SimCheck
