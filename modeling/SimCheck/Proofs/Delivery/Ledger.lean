import SimCheck.Proofs.Delivery.History
import Mathlib.Data.List.Nodup

/-!
# The books of a coordinator

What the workers of a coordinator have sent, what it keeps of it and what it has used agree with its
history, whatever the sockets do.

* `Orderly`: workers have different numbers and are scheduled, and what a live worker has left over
  continues its stream;
* `Peer.Accounted`: what a worker has delivered and what is kept of it is what has been decoded;
* `Balanced outputs`: what a worker has delivered and what is still kept of it is what has been decoded
  from its stream, a worker that is gone has delivered everything, and the outputs of the run are what
  has been delivered;
* `Balanced.map`, `register`, `skipNumber`, `receive`: the sockets keep the books balanced.
-/

namespace SimCheck

open Wire (Bytes WorkerMessage messages)
open History (stream decoded delivered deliveredInRun former)

/-- The observations among some outputs that come from a worker. -/
def returned (id : ClientId) (outputs : List (Producer × Bool)) : List Bool :=
  outputs.filterMap fun o => if o.1 = .remote id then some o.2 else none

/-- The workers and the history of a coordinator fit together. -/
structure Orderly (c : Coordinator) : Prop where
  distinct : (c.peers.map (·.id)).Nodup
  scheduled : ∀ q ∈ c.peers, .remote q.id ∈ c.schedule
  /-- What a live worker has left over is the rest of its stream. -/
  leftover : ∀ q ∈ c.peers, q.dead = false →
    ∃ ms : List WorkerMessage,
      Wire.decodeUntilError (stream q.id c.history) = (ms, q.incoming, none)
  connected : ∀ q ∈ c.peers, .connected q.id ∈ c.history
  numbered : ∀ id value, .delivered id value ∈ c.history → .connected id ∈ c.history
  /-- What has been used under a number has come from its workers, one after the other. -/
  total : ∀ id, deliveredInRun id c.history =
    ((former id c.history).map (delivered id)).flatten ++ delivered id c.history

/-- The observations are all accounted for, in a run that has given these outputs or between runs. -/
structure Balanced (outputs : List (Producer × Bool)) (c : Coordinator) : Prop extends Orderly c where
  /-- The observations of a worker have been used or are kept. -/
  account : ∀ q ∈ c.peers, delivered q.id c.history ++ q.samples = decoded c.active q.id c.history
  /-- The observations of a worker that is gone have been used. -/
  settled : ∀ id, id ∉ c.peers.map (·.id) → delivered id c.history = decoded c.active id c.history
  /-- The observations that have been used of a worker that lost its number were its first ones. -/
  formerly : ∀ id, ∀ h ∈ former id c.history, delivered id h <+: decoded c.active id h
  outputs : ∀ id, returned id outputs = deliveredInRun id c.history

/-- The observations of a worker since the run began have been used or are kept. -/
def Peer.Accounted (active : Option PropertyId) (h : List Happening) (q : Peer) : Prop :=
  delivered q.id h ++ q.samples = decoded active q.id h

variable {c : Coordinator} {id : ClientId} {outputs : List (Producer × Bool)}

theorem Orderly.eq_of_id_eq (h : Orderly c) {q q' : Peer} (hq : q ∈ c.peers) (hq' : q' ∈ c.peers)
    (hid : q.id = q'.id) : q = q' :=
  List.inj_on_of_nodup_map h.distinct hq hq' hid

/-- Without an active property no observations are kept. -/
theorem Balanced.samples_eq_nil (h : Balanced outputs c) (hactive : c.active = none) {q : Peer}
    (hq : q ∈ c.peers) : q.samples = [] := by
  have haccount := h.account q hq
  rw [hactive, History.decoded_none] at haccount
  exact (List.append_eq_nil_iff.1 haccount).2

/-! ### Changes of single workers -/

/-- The worker later on, when no more has come from it. -/
structure Peer.Later (q q' : Peer) : Prop where
  id : q'.id = q.id
  incoming : q'.incoming = q.incoming
  dead : q'.dead = false → q.dead = false

/-- The worker after something that concerns its output or ends its connection. -/
structure Peer.Worn (q q' : Peer) : Prop extends q.Later q' where
  samples : q'.samples = q.samples

theorem Peer.Worn.refl (q : Peer) : q.Worn q := ⟨⟨rfl, rfl, fun h => h⟩, rfl⟩

theorem Peer.worn_flushed (count : ℕ) (q : Peer) :
    q.Worn { q with outgoing := q.outgoing.drop count } := ⟨⟨rfl, rfl, fun h => h⟩, rfl⟩

theorem Peer.worn_dead (q : Peer) : q.Worn { q with dead := true } :=
  ⟨⟨rfl, rfl, fun h => (nomatch h)⟩, rfl⟩

/-- A change of one worker wears all of them. -/
theorem Peer.Worn.ite {f : Peer → Peer} (hf : ∀ q : Peer, q.Worn (f q)) (id : ClientId) (q : Peer) :
    q.Worn (if q.id = id then f q else q) := by
  split_ifs
  exacts [hf q, .refl q]

section Map

variable {f : Peer → Peer}

theorem map_id_map (hf : ∀ q : Peer, (f q).id = q.id) (peers : List Peer) :
    (peers.map f).map (·.id) = peers.map (·.id) := by
  rw [List.map_map]
  exact List.map_congr_left fun q _ => hf q

theorem Orderly.map (h : Orderly c) (hf : ∀ q : Peer, q.Later (f q)) :
    Orderly { c with peers := c.peers.map f } where
  distinct := (map_id_map (fun q => (hf q).id) c.peers).symm ▸ h.distinct
  scheduled := by
    intro q' hq'
    obtain ⟨q, hq, rfl⟩ := List.mem_map.1 hq'
    rw [(hf q).id]
    exact h.scheduled q hq
  leftover := by
    intro q' hq' hlive
    obtain ⟨q, hq, rfl⟩ := List.mem_map.1 hq'
    rw [(hf q).id, (hf q).incoming]
    exact h.leftover q hq ((hf q).dead hlive)
  connected := by
    intro q' hq'
    obtain ⟨q, hq, rfl⟩ := List.mem_map.1 hq'
    rw [(hf q).id]
    exact h.connected q hq
  numbered := h.numbered
  total := h.total

theorem Balanced.map (h : Balanced outputs c) (hf : ∀ q : Peer, q.Worn (f q)) :
    Balanced outputs { c with peers := c.peers.map f } where
  toOrderly := h.toOrderly.map fun q => (hf q).toLater
  account := by
    intro q' hq'
    obtain ⟨q, hq, rfl⟩ := List.mem_map.1 hq'
    rw [(hf q).id, (hf q).samples]
    exact h.account q hq
  settled := fun id hid => h.settled id (map_id_map (fun q => (hf q).id) c.peers ▸ hid)
  formerly := h.formerly
  outputs := h.outputs

end Map

/-! ### Connections -/

section Register

namespace Peer.Accounted

variable {active : Option PropertyId} {h : List Happening} {q : Peer} {i : ClientId}

/-- Whoever else connects. -/
theorem connected (hq : q.Accounted active h) (hi : i ≠ q.id) : q.Accounted active (.connected i :: h) := by
  unfold Accounted
  rw [delivered, if_neg hi, History.decoded_connected_of_ne _ hi]
  exact hq

end Peer.Accounted

@[simp] theorem id_newPeer (c : Coordinator) : c.newPeer.id = c.nextId := by
  unfold Coordinator.newPeer
  cases c.remoteProperty <;> rfl

@[simp] theorem samples_newPeer (c : Coordinator) : c.newPeer.samples = [] := by
  unfold Coordinator.newPeer
  cases c.remoteProperty <;> rfl

@[simp] theorem incoming_newPeer (c : Coordinator) : c.newPeer.incoming = [] := by
  unfold Coordinator.newPeer
  cases c.remoteProperty <;> rfl

/-- The workers after a connection are the new one and those with other numbers. -/
theorem mem_peers_register {q : Peer} :
    q ∈ c.register.peers ↔ (q ∈ c.peers ∧ q.id ≠ c.nextId) ∨ q = c.newPeer := by
  simp [Coordinator.register]

theorem ids_register (c : Coordinator) : c.register.peers.map (·.id)
    = (c.peers.filter fun q => q.id ≠ c.nextId).map (·.id) ++ [c.nextId] := by
  simp [Coordinator.register]

theorem accounted_newPeer (active : Option PropertyId) (c : Coordinator) :
    c.newPeer.Accounted active (.connected c.nextId :: c.history) := by
  unfold Peer.Accounted
  rw [id_newPeer, samples_newPeer, delivered, if_pos rfl, History.decoded_connected]
  rfl

/-- A worker that connects does not share its number. -/
theorem nodup_ids_register (h : (c.peers.map (·.id)).Nodup) :
    (c.register.peers.map (·.id)).Nodup := by
  rw [ids_register, List.nodup_append]
  refine ⟨h.sublist (List.filter_sublist.map _), List.nodup_singleton _, ?_⟩
  intro i hi j hj
  obtain ⟨q, hq, rfl⟩ := List.mem_map.1 hi
  rw [List.mem_singleton.1 hj]
  simpa using (List.mem_filter.1 hq).2

theorem Orderly.register (h : Orderly c) : Orderly c.register where
  distinct := nodup_ids_register h.distinct
  scheduled := by
    intro q hq
    show Producer.remote q.id ∈ c.schedule ++ [.remote c.nextId]
    rcases mem_peers_register.1 hq with ⟨hq, -⟩ | rfl
    · exact List.mem_append_left _ (h.scheduled q hq)
    · simp
  leftover := by
    intro q hq hlive
    show ∃ ms : List WorkerMessage,
      Wire.decodeUntilError (stream q.id (.connected c.nextId :: c.history)) = (ms, q.incoming, none)
    rw [stream]
    rcases mem_peers_register.1 hq with ⟨hq, hid⟩ | rfl
    · rw [if_neg (Ne.symm hid)]
      exact h.leftover q hq hlive
    · rw [id_newPeer, if_pos rfl, incoming_newPeer]
      exact ⟨[], Wire.decodeUntilError_of_none rfl⟩
  connected := by
    intro q hq
    show Happening.connected q.id ∈ .connected c.nextId :: c.history
    rcases mem_peers_register.1 hq with ⟨hq, -⟩ | rfl
    · exact List.mem_cons_of_mem _ (h.connected q hq)
    · rw [id_newPeer]
      exact List.mem_cons_self
  numbered := by
    intro id value hdelivered
    rcases List.mem_cons.1 hdelivered with heq | hdelivered
    · cases heq
    · exact List.mem_cons_of_mem _ (h.numbered id value hdelivered)
  total := fun id => History.deliveredInRun_connected (h.numbered c.nextId) (h.total id)

/-- What has been used of a worker's observations were the first ones. -/
theorem Balanced.delivered_prefix (h : Balanced outputs c) (id : ClientId) :
    delivered id c.history <+: decoded c.active id c.history := by
  by_cases hid : id ∈ c.peers.map (·.id)
  · obtain ⟨q, hq, rfl⟩ := List.mem_map.1 hid
    rw [← h.account q hq]
    exact List.prefix_append _ _
  · exact h.settled id hid ▸ List.prefix_refl _

theorem Balanced.register (h : Balanced outputs c) : Balanced outputs c.register where
  toOrderly := h.toOrderly.register
  account := by
    intro q hq
    rcases mem_peers_register.1 hq with ⟨hq, hid⟩ | rfl
    · exact Peer.Accounted.connected (h.account q hq) (Ne.symm hid)
    · exact accounted_newPeer c.active c
  settled := by
    intro id hid
    rw [ids_register, List.mem_append, not_or, List.mem_singleton] at hid
    have hne : c.nextId ≠ id := Ne.symm hid.2
    show delivered id (.connected c.nextId :: c.history)
      = decoded c.active id (.connected c.nextId :: c.history)
    rw [delivered, if_neg hne, History.decoded_connected_of_ne _ hne]
    refine h.settled id fun hmem => ?_
    obtain ⟨q, hq, rfl⟩ := List.mem_map.1 hmem
    exact hid.1 (List.mem_map_of_mem (List.mem_filter.2 ⟨hq, by simpa using hid.2⟩))
  formerly := by
    intro id h' hh'
    replace hh' : h' ∈ former id (.connected c.nextId :: c.history) := hh'
    rw [former] at hh'
    split_ifs at hh'
    · rcases List.mem_append.1 hh' with hh' | hh'
      · exact h.formerly id h' hh'
      · rw [List.mem_singleton.1 hh']
        exact h.delivered_prefix id
    · exact h.formerly id h' hh'
  outputs := h.outputs

theorem Balanced.skipNumber (h : Balanced outputs c) : Balanced outputs c.skipNumber where
  toOrderly := { h with }
  account := h.account
  settled := h.settled
  formerly := h.formerly
  outputs := h.outputs

end Register

/-! ### Bytes -/

section Receive

variable {bytes : Bytes} {ended : Bool}

theorem Peer.samples_receive (q : Peer) (active : Option PropertyId) (bytes : Bytes) (ended : Bool) :
    (q.receive active bytes ended).samples
      = q.samples ++ (messages (q.incoming ++ bytes)).filterMap (Peer.observation? active) := rfl

/-- A worker that stays alive has met no error; it keeps the bytes left over. -/
theorem Peer.decode_of_live {q : Peer} {active : Option PropertyId}
    (hlive : (q.receive active bytes ended).dead = false) :
    Wire.decodeUntilError (α := WorkerMessage) (q.incoming ++ bytes) =
      (messages (q.incoming ++ bytes), (q.receive active bytes ended).incoming, none) := by
  have herror : (Wire.decodeUntilError (α := WorkerMessage) (q.incoming ++ bytes)).2.2 = none := by
    have hdead : (ended || (Wire.decodeUntilError (α := WorkerMessage)
      (q.incoming ++ bytes)).2.2.isSome) = false := hlive
    simpa using (Bool.or_eq_false_iff.1 hdead).2
  rw [← herror]
  rfl

namespace Peer.Accounted

variable {active : Option PropertyId} {h : List Happening} {q : Peer}

/-- Whoever else sends bytes. -/
theorem received (hq : q.Accounted active h) {i : ClientId} (hi : i ≠ q.id) :
    q.Accounted active (.received i bytes :: h) := by
  unfold Accounted
  rw [delivered, History.decoded_received_of_ne _ hi]
  exact hq

/-- The observations that are new to the history are those that are now kept. -/
theorem receive (hq : q.Accounted active h) {ms : List WorkerMessage}
    (hms : Wire.decodeUntilError (stream q.id h) = (ms, q.incoming, none)) :
    (q.receive active bytes ended).Accounted active (.received q.id bytes :: h) := by
  show delivered q.id h ++ _ = decoded active q.id (.received q.id bytes :: h)
  rw [samples_receive, History.decoded_received active hms, ← hq, List.append_assoc]

end Peer.Accounted

/-- Each worker is the one the bytes have come from, which is live, or unchanged. -/
theorem Orderly.mem_peers_receive (h : Orderly c) (hlive : c.isLive id) {q' : Peer}
    (hq' : q' ∈ (c.receive id bytes ended).peers) :
    ∃ q ∈ c.peers, (q.id = id ∧ q.dead = false ∧ q' = q.receive c.active bytes ended) ∨
      (q.id ≠ id ∧ q' = q) := by
  rw [Coordinator.receive, if_pos hlive] at hq'
  obtain ⟨q, hq, rfl⟩ := List.mem_map.1 hq'
  refine ⟨q, hq, ?_⟩
  by_cases hid : q.id = id
  · obtain ⟨r, hr, hrid⟩ := List.any_eq_true.1 hlive
    obtain ⟨hr, hrlive⟩ := List.mem_filter.1 hr
    have heq : q = r := h.eq_of_id_eq hq hr (by simp_all)
    have hdead : q.dead = false := by simpa [heq] using hrlive
    left
    simp [hid, hdead]
  · right
    simp [hid]

theorem history_receive (hlive : c.isLive id) :
    (c.receive id bytes ended).history = .received id bytes :: c.history := by
  rw [Coordinator.receive, if_pos hlive]

@[simp] theorem active_receive (c : Coordinator) (id : ClientId) (bytes : Bytes) (ended : Bool) :
    (c.receive id bytes ended).active = c.active := by
  unfold Coordinator.receive
  split_ifs <;> rfl

@[simp] theorem localOnly_receive (c : Coordinator) (id : ClientId) (bytes : Bytes) (ended : Bool) :
    (c.receive id bytes ended).localOnly = c.localOnly := by
  unfold Coordinator.receive
  split_ifs <;> rfl

@[simp] theorem schedule_receive (c : Coordinator) (id : ClientId) (bytes : Bytes) (ended : Bool) :
    (c.receive id bytes ended).schedule = c.schedule := by
  unfold Coordinator.receive
  split_ifs <;> rfl

theorem ids_receive (c : Coordinator) (id : ClientId) (bytes : Bytes) (ended : Bool) :
    (c.receive id bytes ended).peers.map (·.id) = c.peers.map (·.id) := by
  unfold Coordinator.receive
  split_ifs
  · refine map_id_map (fun q => ?_) c.peers
    dsimp only
    split_ifs <;> rfl
  · rfl

theorem Orderly.receive (h : Orderly c) (id : ClientId) (bytes : Bytes) (ended : Bool) :
    Orderly (c.receive id bytes ended) := by
  by_cases hlive : c.isLive id
  swap
  · rw [Coordinator.receive, if_neg hlive]
    exact h
  refine ⟨?distinct, ?scheduled, ?leftover, ?connected, ?numbered, ?total⟩
  case distinct => exact (ids_receive c id bytes ended).symm ▸ h.distinct
  case scheduled =>
    intro q' hq'
    rw [schedule_receive]
    obtain ⟨q, hq, ⟨-, -, rfl⟩ | ⟨-, rfl⟩⟩ := h.mem_peers_receive hlive hq'
    exacts [h.scheduled q hq, h.scheduled _ hq]
  case leftover =>
    intro q' hq' hlive'
    rw [history_receive hlive, stream]
    obtain ⟨q, hq, ⟨hid, hdead, rfl⟩ | ⟨hid, rfl⟩⟩ := h.mem_peers_receive hlive hq'
    · obtain ⟨ms, hms⟩ := h.leftover q hq hdead
      have hq'id : (q.receive c.active bytes ended).id = id := hid
      rw [hq'id, if_pos rfl, ← hid, Wire.decodeUntilError_append, hms, Wire.resume,
        Peer.decode_of_live hlive']
      exact ⟨_, rfl⟩
    · rw [if_neg (Ne.symm hid)]
      exact h.leftover _ hq hlive'
  case connected =>
    intro q' hq'
    rw [history_receive hlive]
    refine List.mem_cons_of_mem _ ?_
    obtain ⟨q, hq, ⟨-, -, rfl⟩ | ⟨-, rfl⟩⟩ := h.mem_peers_receive hlive hq'
    exacts [h.connected q hq, h.connected _ hq]
  case numbered =>
    intro i value hmem
    rw [history_receive hlive] at hmem ⊢
    rcases List.mem_cons.1 hmem with heq | hmem
    · cases heq
    · exact List.mem_cons_of_mem _ (h.numbered i value hmem)
  case total =>
    intro i
    rw [history_receive hlive]
    exact h.total i

theorem Balanced.receive (h : Balanced outputs c) (id : ClientId) (bytes : Bytes) (ended : Bool) :
    Balanced outputs (c.receive id bytes ended) := by
  by_cases hlive : c.isLive id
  swap
  · rw [Coordinator.receive, if_neg hlive]
    exact h
  refine ⟨h.toOrderly.receive id bytes ended, ?account, ?settled, ?formerly, ?outputs⟩
  case account =>
    intro q' hq'
    rw [history_receive hlive, active_receive]
    obtain ⟨q, hq, ⟨rfl, hdead, rfl⟩ | ⟨hid, rfl⟩⟩ := h.mem_peers_receive hlive hq'
    · obtain ⟨ms, hms⟩ := h.leftover q hq hdead
      exact Peer.Accounted.receive (h.account q hq) hms
    · exact Peer.Accounted.received (h.account _ hq) (Ne.symm hid)
  case settled =>
    intro i hi
    rw [history_receive hlive, active_receive, delivered]
    rw [ids_receive] at hi
    have hne : id ≠ i := by
      rintro rfl
      obtain ⟨q, hq, hid⟩ := List.any_eq_true.1 hlive
      exact hi (List.mem_map.2 ⟨q, (List.mem_filter.1 hq).1, of_decide_eq_true hid⟩)
    rw [History.decoded_received_of_ne _ hne]
    exact h.settled i hi
  case formerly =>
    intro i
    rw [history_receive hlive, active_receive]
    exact h.formerly i
  case outputs =>
    intro i
    rw [history_receive hlive]
    exact h.outputs i

end Receive

end SimCheck
