import Mathlib.Data.List.Chain
import SimCheck.Coordinator.Basic
import SimCheck.Proofs.Delivery.Stream
import SimCheck.Proofs.Wire.Codec

/-!
# Messages to a worker

What a coordinator queues to a worker is its number, and then the beginnings and ends of runs in turn.
Its socket takes the bytes of these messages in order, so that what has arrived is decoded to the first
of them.

* `requested ms`: the property that a worker is asked for by the messages `ms`;
* `Follows`: which message may come after which;
* `Peer.Briefed`: a worker that has been told of the beginnings and ends of runs in turn;
* `Peer.Silent q q'`, `Peer.Drained q q'`: what can happen to it without a message;
* `messages_flatMap_encode`: messages that are encoded one after the other are decoded to themselves;
* `Peer.Briefed.messages_sent`: what has been sent is decoded to the first messages.
-/

namespace SimCheck

open Wire (Bytes CoordinatorMessage encode messages)

namespace Wire

/-! ### Sequences of messages -/

/-- The property that a worker is asked for by messages, the latest of which comes first. -/
def requested : List CoordinatorMessage → Option PropertyId
  | [] | .stop :: _ => none
  | .start p :: _ => some p
  | .register _ :: ms => requested ms

/-- A run begins when none is in progress, and ends when one is. -/
def Follows : CoordinatorMessage → CoordinatorMessage → Prop
  | .start _, .stop | .register _, .start _ | .stop, .start _ => True
  | _, _ => False

variable {ms : List CoordinatorMessage} {p : PropertyId}

/-- A worker that is asked for a property has been told so last. -/
theorem exists_of_requested_eq_some (h : ms.reverse.IsChain Follows) (hp : requested ms = some p) :
    ∃ rest, ms = .start p :: rest := by
  rw [List.isChain_reverse] at h
  cases ms with
  | nil => cases hp
  | cons m ms =>
    cases m with
    | stop => cases hp
    | start q =>
      cases hp
      exact ⟨ms, rfl⟩
    | register id =>
      -- The number comes first, so that there is no message before it.
      cases ms with
      | nil => cases hp
      | cons m ms => cases m <;> exact (List.isChain_cons_cons.1 h).1.elim

/-- After the end of a run comes the beginning of another. -/
theorem isChain_start (h : ms.reverse.IsChain Follows) (hnone : requested ms = none)
    (p : PropertyId) : (CoordinatorMessage.start p :: ms).reverse.IsChain Follows := by
  rw [List.isChain_reverse] at h ⊢
  cases ms with
  | nil => exact .singleton _
  | cons m ms =>
    refine List.isChain_cons_cons.2 ⟨?_, h⟩
    cases m with
    | register id => trivial
    | stop => trivial
    | start q => cases hnone

/-- After the beginning of a run comes its end. -/
theorem isChain_stop (h : ms.reverse.IsChain Follows) (hp : requested ms = some p) :
    (CoordinatorMessage.stop :: ms).reverse.IsChain Follows := by
  obtain ⟨rest, rfl⟩ := exists_of_requested_eq_some h hp
  rw [List.isChain_reverse] at h ⊢
  exact List.isChain_cons_cons.2 ⟨trivial, h⟩

/-! ### Decoding what was encoded -/

/-- **Messages that are encoded one after the other are decoded to themselves.** -/
theorem messages_flatMap_encode {α : Type} [Message α] [LawfulMessage α] (ms : List α) :
    messages (ms.flatMap encode) = ms := by
  unfold messages
  induction ms with
  | nil => rw [List.flatMap_nil, decodeUntilError_of_none rfl]
  | cons m ms ih => rw [List.flatMap_cons, decodeUntilError_of_ok (decodeNext?_encode m _), ih]

end Wire

/-! ### Workers that have been told of every run -/

namespace Peer

/-- The bytes of all messages to a worker. -/
def written (q : Peer) : Bytes := q.queued.reverse.flatMap encode

/-- The bytes that the socket of a worker has taken: all but those that wait, as in
`ConductedFrom.taken`. -/
def sent (q : Peer) : Bytes := q.written.take (q.written.length - q.outgoing.length)

/-- A worker has been told of the beginnings and ends of runs in turn; if it is live, the property that
it has been asked for last is the given one. -/
structure Briefed (property : Option PropertyId) (q : Peer) : Prop where
  alternating : q.queued.reverse.IsChain Wire.Follows
  current : q.dead = false → Wire.requested q.queued = property
  /-- What the socket has not taken are the last bytes. -/
  unsent : q.outgoing <:+ q.written

/-- The same worker, to which nothing is said: its output is as it was. -/
structure Silent (q q' : Peer) : Prop where
  id : q'.id = q.id
  outgoing : q'.outgoing = q.outgoing
  queued : q'.queued = q.queued
  dead : q'.dead = false → q.dead = false

namespace Silent

variable {q q' q'' : Peer}

theorem refl (q : Peer) : q.Silent q := ⟨rfl, rfl, rfl, fun h => h⟩

theorem trans (h : q.Silent q') (h' : q'.Silent q'') : q.Silent q'' where
  id := h'.id.trans h.id
  outgoing := h'.outgoing.trans h.outgoing
  queued := h'.queued.trans h.queued
  dead hlive := h.dead (h'.dead hlive)

theorem markedDead (q : Peer) : q.Silent { q with dead := true } :=
  ⟨rfl, rfl, rfl, fun h => (nomatch h)⟩

/-- The observations that are kept are no output. -/
theorem withSamples (q : Peer) (samples : List Bool) : q.Silent { q with samples } :=
  ⟨rfl, rfl, rfl, fun h => h⟩

theorem receive (q : Peer) (active : Option PropertyId) (bytes : Bytes) (ended : Bool) :
    q.Silent (if q.dead then q else q.receive active bytes ended) := by
  by_cases hdead : q.dead = true
  · rw [if_pos hdead]
    exact refl q
  · rw [if_neg hdead]
    exact ⟨rfl, rfl, rfl, fun _ => Bool.eq_false_iff.2 hdead⟩

theorem ite {f : Peer → Peer} (hf : ∀ q : Peer, q.Silent (f q)) (id : ClientId) (q : Peer) :
    q.Silent (if q.id = id then f q else q) := by
  split_ifs
  · exact hf q
  · exact refl q

end Silent

/-- The same worker with some more of its output taken, or with its connection ended. -/
structure Drained (q q' : Peer) : Prop where
  id : q'.id = q.id
  queued : q'.queued = q.queued
  outgoing : q'.outgoing <:+ q.outgoing
  dead : q'.dead = false → q.dead = false

theorem Silent.drained {q q' : Peer} (h : q.Silent q') : q.Drained q' :=
  ⟨h.id, h.queued, h.outgoing ▸ List.suffix_refl _, h.dead⟩

theorem Drained.flushed (id : ClientId) (count : ℕ) (q : Peer) :
    q.Drained (if q.id = id then { q with outgoing := q.outgoing.drop count } else q) := by
  split_ifs
  · exact ⟨rfl, rfl, List.drop_suffix _ _, fun h => h⟩
  · exact (Silent.refl q).drained

namespace Briefed

variable {property : Option PropertyId} {p : PropertyId} {q q' : Peer}

theorem drained (h : q.Briefed property) (hq : q.Drained q') : q'.Briefed property where
  alternating := hq.queued ▸ h.alternating
  current hlive := hq.queued ▸ h.current (hq.dead hlive)
  unsent := by
    unfold written
    rw [hq.queued]
    exact hq.outgoing.trans h.unsent

/-- A worker that is dead is not told of anything. -/
theorem of_dead (h : q.Briefed property) (hdead : q.dead = true) (property' : Option PropertyId) :
    q.Briefed property' :=
  { h with current := fun hlive => by rw [hdead] at hlive; cases hlive }

theorem written_queue (q : Peer) (m : CoordinatorMessage) :
    (q.queue m).written = q.written ++ encode m := by
  unfold written queue
  rw [List.reverse_cons, List.flatMap_append, List.flatMap_singleton]

theorem unsent_queue (h : q.outgoing <:+ q.written) (m : CoordinatorMessage) :
    (q.queue m).outgoing <:+ (q.queue m).written := by
  rw [written_queue]
  obtain ⟨taken, htaken⟩ := h
  refine ⟨taken, ?_⟩
  rw [← htaken]
  exact (List.append_assoc ..).symm

/-- A run begins. -/
theorem start (h : q.Briefed none) (hlive : q.dead = false) (p : PropertyId) :
    (q.queue (.start p)).Briefed (some p) where
  alternating := Wire.isChain_start h.alternating (h.current hlive) p
  current _ := rfl
  unsent := unsent_queue h.unsent _

/-- The run ends. -/
theorem stop (h : q.Briefed (some p)) (hlive : q.dead = false) : (q.queue .stop).Briefed none where
  alternating := Wire.isChain_stop h.alternating (h.current hlive)
  current _ := rfl
  unsent := unsent_queue h.unsent _

/-- A worker that connects is told its number and the property of a run in progress. -/
theorem newPeer (c : Coordinator) : c.newPeer.Briefed c.remoteProperty := by
  unfold Coordinator.newPeer
  have hregistered : ((Peer.create c.nextId).queue (.register c.nextId)).Briefed none :=
    ⟨.singleton _, fun _ => rfl, unsent_queue (List.suffix_refl _) _⟩
  cases c.remoteProperty with
  | none => exact hregistered
  | some p => exact hregistered.start rfl p

/-- What has been sent comes before what has not. -/
theorem sent_append_outgoing (h : q.Briefed property) : q.sent ++ q.outgoing = q.written := by
  obtain ⟨taken, htaken⟩ := h.unsent
  have hlength : q.written.length - q.outgoing.length = taken.length := by
    rw [← htaken, List.length_append]
    omega
  rw [sent, hlength, ← htaken, List.take_left]

/-- **What has been sent is decoded to the first messages.** -/
theorem messages_prefix (h : q.Briefed property) {bytes : Bytes} (hbytes : bytes <+: q.sent) :
    messages bytes <+: q.queued.reverse := by
  obtain ⟨rest, hrest⟩ := hbytes
  have hwritten : bytes ++ (rest ++ q.outgoing) = q.written := by
    rw [← List.append_assoc, hrest, h.sent_append_outgoing]
  have hprefix : messages bytes <+: messages (α := CoordinatorMessage) q.written := by
    rw [← hwritten]
    exact Wire.messages_prefix _ _
  rwa [written, Wire.messages_flatMap_encode] at hprefix

end Briefed

end Peer

end SimCheck
