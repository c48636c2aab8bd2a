import SimCheck.Config.Settings
import SimCheck.State
import SimCheck.Wire.Stream

/-!
# Coordinators

A coordinator merges the observations of workers with its own.  It keeps a record of every worker
that has been admitted and not yet forgotten, and a schedule of producers, which are served in turn.

Workers simulate from one state, the origin.  A run that starts elsewhere is simulated locally and
does not involve them.

* `Peer` is what the coordinator knows about a worker, `Coordinator` is its state;
* `Happening` is what the coordinator has seen happen; its history has no effect on what it does;
* `Coordinator.register`, `skipNumber`, `receive`, `flushed`, `markDead`: what the sockets do to it;
* `Coordinator.start`, `stop`, `forgetDead`, `startLocal`, `setOrigin`: what its users do.
-/

namespace SimCheck

open Wire (Bytes CoordinatorMessage WorkerMessage)

/-- Where an observation comes from. -/
inductive Producer
  /-- The simulator of the coordinator. -/
  | local
  | remote (id : ClientId)
  deriving DecidableEq

/-- A worker, as its coordinator knows it. -/
structure Peer where
  id : ClientId
  /-- Bytes that are not yet a complete block. -/
  incoming : Bytes
  /-- Bytes that the socket has not yet taken. -/
  outgoing : Bytes
  /-- All messages to the worker, the latest first. -/
  queued : List CoordinatorMessage
  /-- Observations that have not been used, the earliest first. -/
  samples : List Bool
  /-- The connection has ended; what it brought is still used. -/
  dead : Bool

namespace Peer

/-- A worker that has just connected. -/
def create (id : ClientId) : Peer := ⟨id, [], [], [], [], false⟩

/-- Queues a message. -/
def queue (p : Peer) (m : CoordinatorMessage) : Peer :=
  { p with outgoing := p.outgoing ++ Wire.encode m, queued := m :: p.queued }

/-- The observation of a message, if it belongs to the active property. -/
def observation? (active : Option PropertyId) : WorkerMessage → Option Bool
  | .sample property value => if some property = active then some (value != 0) else none

/-- Takes bytes in.  The messages before a bad block count; after it the worker is dead, as it is
when its connection has ended. -/
def receive (p : Peer) (active : Option PropertyId) (bytes : Bytes) (ended : Bool) : Peer :=
  let (messages, incoming, error) :=
    Wire.decodeUntilError (α := WorkerMessage) (p.incoming ++ bytes)
  { p with
    incoming
    samples := p.samples ++ messages.filterMap (observation? active)
    dead := ended || error.isSome }

end Peer

/-- Something that has happened to a coordinator. -/
inductive Happening
  /-- A run has begun. -/
  | began (property : PropertyId)
  /-- The run has ended. -/
  | ended
  /-- A worker has been admitted under a number. -/
  | connected (id : ClientId)
  /-- Bytes of a worker have been taken in. -/
  | received (id : ClientId) (bytes : Bytes)
  /-- An observation of a worker has been used. -/
  | delivered (id : ClientId) (value : Bool)
  deriving DecidableEq

/-- The state of a coordinator. -/
structure Coordinator where
  settings : SamplingSettings
  peers : List Peer
  /-- The number of the next worker. -/
  nextId : ClientId
  /-- The producers, the one whose turn it is first. -/
  schedule : List Producer
  /-- The property whose observations are collected. -/
  active : Option PropertyId
  /-- The values workers simulate from, once they are known. -/
  origin : Option Valuation
  /-- The active run starts away from the origin. -/
  localOnly : Bool
  /-- What has happened, the latest first. -/
  history : List Happening

namespace Coordinator

/-- A coordinator without workers. -/
def create (settings : SamplingSettings) : Coordinator where
  settings
  peers := []
  nextId := ⟨0⟩
  schedule := if settings.localSampling then [.local] else []
  active := none
  origin := none
  localOnly := false
  history := []

/-- The worker with a number. -/
def peer? (c : Coordinator) (id : ClientId) : Option Peer := c.peers.find? fun p => p.id = id

/-- Changes the worker with a number. -/
def modifyPeer (c : Coordinator) (id : ClientId) (f : Peer → Peer) : Coordinator :=
  { c with peers := c.peers.map fun p => if p.id = id then f p else p }

/-- The workers that are not dead. -/
def live (c : Coordinator) : List Peer := c.peers.filter fun p => !p.dead

/-- The number of workers that are not dead. -/
def clientCount (c : Coordinator) : Nat := c.live.length

/-- The worker's connection is of no more use. -/
def markDead (c : Coordinator) (id : ClientId) : Coordinator :=
  c.modifyPeer id fun p => { p with dead := true }

/-- Forgets a worker. -/
def remove (c : Coordinator) (id : ClientId) : Coordinator :=
  { c with
    schedule := c.schedule.filter (· ≠ .remote id)
    peers := c.peers.filter fun p => p.id ≠ id }

/-- The property a worker that connects now is asked for. -/
def remoteProperty (c : Coordinator) : Option PropertyId := if c.localOnly then none else c.active

/-- A worker that connects: it is told its number, and the property of a run in progress. -/
def newPeer (c : Coordinator) : Peer :=
  let p := (Peer.create c.nextId).queue (.register c.nextId)
  match c.remoteProperty with
  | some property => p.queue (.start property)
  | none => p

/-- Adds a worker at the end of the schedule. -/
def register (c : Coordinator) : Coordinator :=
  { c with
    peers := c.peers.filter (fun p => p.id ≠ c.nextId) ++ [c.newPeer]
    schedule := c.schedule ++ [.remote c.nextId]
    nextId := c.nextId.next
    history := .connected c.nextId :: c.history }

/-- Uses up the number of a worker whose socket cannot be watched. -/
def skipNumber (c : Coordinator) : Coordinator := { c with nextId := c.nextId.next }

/-- Whether a worker that connects is turned away. -/
def isFull (c : Coordinator) : Bool := decide (c.settings.maxClients ≤ c.peers.length)

/-- Whether a worker with this number is not dead. -/
def isLive (c : Coordinator) (id : ClientId) : Bool := c.live.any fun p => p.id = id

/-- Takes bytes in from a worker that is not dead. -/
def receive (c : Coordinator) (id : ClientId) (bytes : Bytes) (ended : Bool) : Coordinator :=
  if c.isLive id then
    { c.modifyPeer id fun p => if p.dead then p else p.receive c.active bytes ended with
      history := .received id bytes :: c.history }
  else c

/-- The socket of a worker has taken bytes. -/
def flushed (c : Coordinator) (id : ClientId) (count : Nat) : Coordinator :=
  c.modifyPeer id fun p => { p with outgoing := p.outgoing.drop count }

/-- Starts a run that workers take part in. -/
def start (c : Coordinator) (property : PropertyId) : Coordinator :=
  { c with
    active := some property
    localOnly := false
    peers := c.peers.map fun p =>
      if p.dead then p else { p with samples := [] }.queue (.start property)
    history := .began property :: c.history }

/-- Tells the workers that the run has ended. -/
def stop (c : Coordinator) : Coordinator :=
  { c with
    active := none
    peers := c.peers.map fun p => if p.dead then p else p.queue .stop }

/-- Drops the observations that were not used, and the workers that are dead. -/
def forgetDead (c : Coordinator) : Coordinator :=
  let dead := (c.peers.filter (·.dead)).map (·.id)
  dead.foldl remove
    { c with
      peers := c.peers.map fun p => { p with samples := [] }
      history := .ended :: c.history }

/-- Ends a run that workers took no part in. -/
def stopLocal (c : Coordinator) : Coordinator :=
  { c with active := none, localOnly := false, history := .ended :: c.history }

/-- Starts a run that workers take no part in. -/
def startLocal (c : Coordinator) (property : PropertyId) : Coordinator :=
  { c with active := some property, localOnly := true, history := .began property :: c.history }

/-- Fixes the values workers simulate from. -/
def setOrigin (c : Coordinator) (values : Valuation) : Coordinator :=
  { c with origin := some values }

/-- Fixes the values workers simulate from, unless they are known. -/
def pinOrigin (c : Coordinator) (values : Valuation) : Coordinator :=
  c.setOrigin (c.origin.getD values)

end Coordinator

end SimCheck
