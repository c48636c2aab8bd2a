import SimCheck.Worker.Basic

/-!
# The service of a worker

A worker connects, is told its number, and then serves until the coordinator goes away: while it has
nothing to sample it waits for a message; otherwise it applies the messages that are there, makes one
observation and sends it.

* `Surroundings` are the connection and the sampler, whose answers are arbitrary;
* `Service` is a worker in its surroundings, with the history of what it has done;
* `Service.register` waits for the number, `Service.serve` serves.
-/

namespace SimCheck

open Wire (Bytes CoordinatorMessage WorkerMessage)

/-- How a read went. -/
inductive Read
  | received (bytes : Bytes)
  /-- Nothing is there yet. -/
  | nothing
  /-- The coordinator has closed the connection. -/
  | closed
  | failed (gone : Bool)

/-- The connection and the sampler of a worker, with states in `L`. -/
structure Surroundings (L : Type) where
  /-- Reads once; a read that does not wait may find nothing. -/
  read : (wait : Bool) → L → Read × L
  /-- Writes bytes; fails with whether the connection is no more. -/
  write : Bytes → L → Except Bool Unit × L
  /-- Makes an observation of a property, if it can be evaluated. -/
  sample : PropertyId → L → Option Bool × L

/-- What a worker does. -/
inductive WorkerAction
  | applied (m : CoordinatorMessage)
  | asked (property : PropertyId) (answer : Option Bool)
  | sent (m : WorkerMessage)

/-- A worker in its surroundings. -/
structure Service (L : Type) where
  worker : Worker
  surroundings : L
  /-- What the worker has done since it was registered, the latest first. -/
  history : List WorkerAction

/-- Why a service ends before its time. -/
inductive ServiceHalt
  | error (e : WorkerError)
  | outOfFuel

/-- What a worker does in its surroundings; after an error its state is still known. -/
abbrev Serving (L α : Type) := ExceptT ServiceHalt (StateM (Service L)) α

namespace Service

variable {L : Type} (env : Surroundings L)

/-- Gives up with an error. -/
def giveUp {α : Type} (e : WorkerError) : Serving L α := throw (.error e)

/-- Changes the worker. -/
def modifyWorker (f : Worker → Worker) : Serving L Unit :=
  modify fun s => { s with worker := f s.worker }

/-- Records an action. -/
def note (a : WorkerAction) : Serving L Unit := modify fun s => { s with history := a :: s.history }

/-- Reads once into the buffer.  The answer is false if the connection is closed. -/
def fill (wait : Bool) : Serving L Bool := do
  let s ← get
  let (outcome, surroundings) := env.read wait s.surroundings
  set { s with surroundings }
  match outcome with
  | .received bytes => do
    modifyWorker fun w => { w with incoming := w.incoming ++ bytes }
    return true
  | .nothing => return true
  | .closed => return false
  | .failed gone => giveUp (.transport gone)

/-- Waits for a message, for at most `fuel` reads.  There is none if the connection is closed. -/
def receive : (fuel : Nat) → Serving L (Option CoordinatorMessage)
  | 0 => throw .outOfFuel
  | fuel + 1 => do
    match Wire.decodeNext? (α := CoordinatorMessage) (← get).worker.incoming with
    | some (m, incoming) => do
      modifyWorker fun w => { w with incoming }
      match m with
      | .ok m => return some m
      | .error e => giveUp (.wire e)
    | none =>
      if ← fill env true then receive fuel else return none

/-- Applies a message. -/
def apply (m : CoordinatorMessage) : Serving L Unit := do
  modifyWorker fun w => w.apply m
  note (.applied m)

/-- Applies the messages that are there. -/
def applyReady : Serving L Unit := do
  unless ← fill env false do giveUp .connectionClosed
  let (messages, incoming, error) :=
    Wire.decodeUntilError (α := CoordinatorMessage) (← get).worker.incoming
  modifyWorker fun w => { w with incoming }
  messages.forM apply
  match error with
  | none => return ()
  | some e => giveUp (.wire e)

/-- Sends an observation. -/
def send (m : WorkerMessage) : Serving L Unit := do
  let s ← get
  let (outcome, surroundings) := env.write (Wire.encode m) s.surroundings
  set { s with surroundings }
  match outcome with
  | .ok () => note (.sent m)
  | .error gone => giveUp (.transport gone)

/-- Makes an observation of a property and sends it; without one the worker stops sampling. -/
def sampleOnce (property : PropertyId) : Serving L Unit := do
  let s ← get
  let (answer, surroundings) := env.sample property s.surroundings
  set { s with surroundings }
  note (.asked property answer)
  match answer with
  | some holds => send env (.observation property holds)
  | none => modifyWorker fun w => { w with active := none }

/-- One round of the service.  The answer is false once the connection is closed. -/
def round (fuel : Nat) : Serving L Bool := do
  match (← get).worker.active with
  | none => do
    match ← receive env fuel with
    | none => return false
    | some m =>
      apply m
      return true
  | some property => do
    applyReady env
    if (← get).worker.active = some property then sampleOnce env property
    return true

/-- Rounds until the connection is closed, at most `fuel` of them. -/
def rounds : (fuel : Nat) → Serving L Unit
  | 0 => throw .outOfFuel
  | fuel + 1 => do if ← round env fuel then rounds fuel

/-- Serves until the coordinator goes away. -/
def serve (fuel : Nat) : Serving L Unit :=
  tryCatch (rounds env fuel) fun h =>
    match h with
    | .error e => if e.isDeparture then return () else throw h
    | .outOfFuel => throw h

/-- Waits for the number of the worker. -/
def register (fuel : Nat) : Serving L Unit := do
  match ← receive env fuel with
  | some (.register id) => modifyWorker fun w => { w with id }
  | some m => giveUp (.unexpectedMessage m)
  | none => giveUp .connectionClosed

end Service

end SimCheck
