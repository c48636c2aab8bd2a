import SimCheck.Coordinator.Turn
import SimCheck.Verifier.Source

/-!
# Coordinators on a network

The sockets of a coordinator are behind a `Network`, whose answers are arbitrary: which connections
and bytes a poll finds, how much of the output a socket takes, whether a worker has been silent for
too long.  A coordinator and its network together are a `Station`.

* `Station.poll` handles what is ready; `Station.waitForClients` polls until there are enough
  workers;
* `Station.start`, `stop`, `beginRun`, `endRun` control a run;
* `Station.nextSample` gives the next observation with its producer, or asks for a simulation;
* `Station.source` is the station as a source of observations.
-/

namespace SimCheck

open Wire (Bytes)

/-- Something that is ready on a socket. -/
inductive Readiness
  /-- A worker waits to be admitted; its socket can be watched or not. -/
  | connection (watched : Bool)
  /-- Bytes have arrived from a worker, and its connection may have ended. -/
  | input (id : ClientId) (bytes : Bytes) (ended : Bool)

/-- How a poll went. -/
inductive Polled
  | ready (found : List Readiness)
  | failed

/-- How a write went. -/
inductive Written
  /-- The socket has taken so many bytes. -/
  | taken (count : Nat)
  | failed

/-- The sockets of a coordinator, with states in `N`. -/
structure Network (N : Type) where
  /-- Looks for what is ready; for a given worker the poll may wait until the worker is idle. -/
  poll : Option ClientId → N → Polled × N
  /-- Offers output to the socket of a worker. -/
  write : ClientId → Bytes → N → Written × N
  /-- Whether a worker has been silent for too long. -/
  isIdle : ClientId → N → Bool
  /-- Whether more polls would find more, while workers are waited for. -/
  hasTime : N → Bool

/-- A coordinator and its network. -/
structure Station (N : Type) where
  coordinator : Coordinator
  network : N

/-- What is offered as the next observation. -/
inductive Offer (N : Type)
  /-- A path is simulated locally. -/
  | simulate (next : Station N)
  /-- An observation of a worker. -/
  | deliver (id : ClientId) (value : Bool) (next : Station N)
  /-- The network keeps the coordinator waiting. -/
  | stalled

namespace Station

variable {N : Type} (net : Network N)

/-- Writes as much of the output to a worker as its socket takes. -/
def flush (id : ClientId) (s : Station N) : Station N :=
  match s.coordinator.peer? id with
  | none => s
  | some p =>
    if p.outgoing.isEmpty then s
    else
      match net.write id p.outgoing s.network with
      | (.taken count, network) => ⟨s.coordinator.flushed id count, network⟩
      | (.failed, network) => ⟨s.coordinator.markDead id, network⟩

/-- Writes to several workers. -/
def flushAll (ids : List ClientId) (s : Station N) : Station N :=
  ids.foldl (fun s id => flush net id s) s

/-- Writes to a worker unless it is dead. -/
def flushLive (id : ClientId) (s : Station N) : Station N :=
  match s.coordinator.peer? id with
  | some p => if p.dead then s else flush net id s
  | none => s

/-- Handles what is ready on one socket. -/
def handle (s : Station N) : Readiness → Station N
  | .connection watched =>
    if s.coordinator.isFull then s
    else if watched then
      flush net s.coordinator.nextId { s with coordinator := s.coordinator.register }
    else { s with coordinator := s.coordinator.skipNumber }
  | .input id bytes ended =>
    flushLive net id { s with coordinator := s.coordinator.receive id bytes ended }

/-- Handles all that a poll finds.  The Boolean says whether the poll went well. -/
def poll (waitingFor : Option ClientId) (s : Station N) : Bool × Station N :=
  match net.poll waitingFor s.network with
  | (.ready found, network) => (true, found.foldl (handle net) { s with network })
  | (.failed, network) => (false, { s with network })

/-- Polls until there are `count` workers, time is up or a poll fails, at most `fuel` times. -/
def waitForClients (count : Nat) : (fuel : Nat) → Station N → Station N
  | 0, s => s
  | fuel + 1, s =>
    if count ≤ s.coordinator.clientCount || !net.hasTime s.network then s
    else
      match poll net none s with
      | (true, s) => waitForClients count fuel s
      | (false, s) => s

/-- Starts a run that workers take part in. -/
def start (property : PropertyId) (s : Station N) : Station N :=
  let c := s.coordinator.start property
  flushAll net (c.live.map (·.id)) { s with coordinator := c }

/-- Ends the run in progress. -/
def stop (s : Station N) : Station N :=
  match s.coordinator.active with
  | none => s
  | some _ =>
    if s.coordinator.localOnly then { s with coordinator := s.coordinator.stopLocal }
    else
      let c := s.coordinator.stop
      let s := flushAll net (c.live.map (·.id)) { s with coordinator := c }
      { s with coordinator := s.coordinator.forgetDead }

/-- Begins a run from a state; workers take part if it has the values of the origin. -/
def beginRun (property : PropertyId) (values : Valuation) (s : Station N) : Station N :=
  let c := s.coordinator.pinOrigin values
  if c.origin = some values then start net property { s with coordinator := c }
  else { s with coordinator := c.startLocal property }

/-- Serves the head of the schedule, waiting for a worker at most `fuel` times. -/
def serve : (fuel : Nat) → Station N → Offer N
  | 0, _ => .stalled
  | fuel + 1, s =>
    match s.coordinator.turn with
    | .simulate c => .simulate { s with coordinator := c }
    | .deliver id value c => .deliver id value { s with coordinator := c }
    | .wait id c =>
      let s := { s with coordinator := c }
      if net.isIdle id s.network then serve fuel { s with coordinator := c.markDead id }
      else
        match poll net (some id) s with
        | (true, s) => serve fuel s
        | (false, s) => serve fuel { s with coordinator := s.coordinator.markDead id }

/-- The next observation.  What is ready is handled first, except in a run of its own. -/
def nextSample (fuel : Nat) (s : Station N) : Offer N :=
  if s.coordinator.localOnly then .simulate s
  else serve net fuel (poll net none s).2

/-- The station as a source of observations. -/
def source (R : Type) (fuel : Nat) : SampleSource R (Station N) where
  beginRun id state s := beginRun net id state.values s
  next s :=
    match nextSample net fuel s with
    | .simulate next => .simulate fun b => .answer b next
    | .deliver _ value next => .answer value next
    | .stalled => .stalled
  endRun _ s := stop net s

end Station

end SimCheck
