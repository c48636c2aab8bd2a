import SimCheck.Proofs.Agreement.Conduct
import SimCheck.Proofs.Agreement.Hearing
import SimCheck.Proofs.Delivery.Fifo

/-!
# A coordinator and its worker agree

What a coordinator queues to a worker tells the runs that workers take part in, and the worker does what
it has been told.  So a worker that has applied all messages to it samples the property of the run in
progress, unless it could not evaluate it.

* `Service.activeAfter_eq_some_iff`: what a worker samples by what it has been asked for;
* `coordinator_worker_agree`: a worker that has been served by the coordinator's bytes, in order;
* `Handover`: a worker that connects before a run and has been told of it.
-/

namespace SimCheck

open Wire (Bytes CoordinatorMessage requested)

variable {L : Type}

/-! ### What has been declined -/

/-- Whether the beginning of a run is applied. -/
def WorkerAction.isStart : WorkerAction → Bool
  | applied (.start _) => true
  | applied _ | asked _ _ | sent _ => false

namespace Service

/-- The sampler could not make an observation that it was asked for since a run has begun. -/
def Declined (h : List WorkerAction) : Prop := ∃ p, .asked p none ∈ h.takeWhile fun a => !a.isStart

theorem declined_cons {a : WorkerAction} {h : List WorkerAction} (hstart : a.isStart = false) :
    Declined (a :: h) ↔ (∃ p, a = .asked p none) ∨ Declined h := by
  unfold Declined
  rw [List.takeWhile_cons_of_pos (by simp [hstart])]
  simp only [List.mem_cons, exists_or, eq_comm]

/-- **A worker samples what it has been asked for last, unless it has declined since.** -/
theorem activeAfter_eq_some_iff (h : List WorkerAction) (p : PropertyId) :
    activeAfter h = some p ↔ requested (h.filterMap (·.applied?)) = some p ∧ ¬Declined h := by
  induction h with
  | nil => simp [activeAfter, requested]
  | cons a h ih =>
    rw [activeAfter, List.filterMap_cons]
    cases a with
    | applied m =>
      cases m with
      | register id =>
        rw [declined_cons rfl]
        simpa [WorkerAction.activity, WorkerAction.applied?, requested] using ih
      | start q =>
        have hdeclined : ¬Declined (.applied (.start q) :: h) := fun ⟨_, hmem⟩ => nomatch hmem
        simp [WorkerAction.activity, WorkerAction.applied?, requested, hdeclined]
      | stop => simp [WorkerAction.activity, WorkerAction.applied?, requested]
    | asked q answer =>
      rw [declined_cons rfl]
      cases answer with
      | none => simp [WorkerAction.activity]
      | some holds => simpa [WorkerAction.activity, WorkerAction.applied?] using ih
    | sent m =>
      rw [declined_cons rfl]
      simpa [WorkerAction.activity, WorkerAction.applied?] using ih

end Service

/-! ### Both ends of a connection -/

/-- What a worker is asked for does not depend on its number. -/
theorem Wire.requested_append_register (ms : List CoordinatorMessage) (id : ClientId) :
    requested (ms ++ [.register id]) = requested ms := by
  induction ms with
  | nil => rfl
  | cons m ms ih =>
    cases m with
    | register _ => exact ih
    | start p => rfl
    | stop => rfl

theorem Job.bind_request?_eq_some {job : Option Job} {p : PropertyId} :
    job.bind Job.request? = some p ↔ job = some ⟨p, true⟩ := by
  rcases job with _ | ⟨q, _ | _⟩ <;> simp [Job.request?]

/-- **A coordinator and its worker agree on the run.**  To every worker the coordinator has queued its
number first and then, in turn, the beginning and the end of each run that workers take part in: the
beginning if the run began while the worker was live or was in progress when it connected, the end if
the worker was still live then, and nothing else.  Once a live worker has applied all that was queued,
of which it reads in order what has been sent, it samples `p` if and only if a run of `p` is in progress
that workers take part in and its sampler has not declined since the run has begun for it. -/
theorem coordinator_worker_agree {N : Type} {net : Network N} {job : Option Job} {ws : List Switch}
    {s : Station N} (hs : Conducted net job ws s) {q : Peer} (hq : q ∈ s.coordinator.peers) :
    q.queued.reverse = .register q.id
        :: (briefing ws q.id (connections q.id s.coordinator.history)).reverse ∧
      q.queued.reverse.IsChain Wire.Follows ∧
      (q.dead = false → ∀ {L : Type} {env : Surroundings L} {l : L} {running : Bool}
        {σ : Service (L × Bytes)}, Served env.recording (l, []) running σ → σ.bytesRead <+: q.sent →
        σ.applied.length + 1 = q.queued.length → ∀ p, σ.worker.active = some p ↔
          job = some ⟨p, true⟩ ∧ ¬Service.Declined σ.history) := by
  obtain ⟨initial, hfrom⟩ := hs
  have hinformed := hfrom.informed
  have hbriefed := hinformed.briefed q hq
  refine ⟨?_, hbriefed.alternating, ?_⟩
  · rw [hinformed.told q hq, List.reverse_append]
    rfl
  · intro hlive L env l running σ hserved hread hall p
    obtain ⟨⟨id, as, heard⟩, -⟩ := hserved.followed
    have hprefix : .register id :: as <+: q.queued.reverse :=
      heard.decoded.trans (hbriefed.messages_prefix hread)
    have hlength : (CoordinatorMessage.register id :: as).length = q.queued.reverse.length := by
      rw [List.length_cons, List.length_reverse, ← hall, heard.applied]
    have hqueued : q.queued = σ.history.filterMap (·.applied?) ++ [.register id] := by
      rw [← List.reverse_reverse q.queued, ← hprefix.eq_of_length hlength, ← heard.applied,
        List.reverse_cons]
      unfold Service.applied
      rw [List.reverse_reverse]
    have hrequested : requested (σ.history.filterMap (·.applied?)) = job.bind Job.request? := by
      rw [← Wire.requested_append_register _ id, ← hqueued]
      exact hbriefed.current hlive
    rw [heard.active, Service.activeAfter_eq_some_iff, hrequested, Job.bind_request?_eq_some]

/-! ### A run that a worker is told of -/

namespace Handover

/-- A worker waits to be admitted. -/
def station : Station (List (List Readiness)) :=
  ⟨.create ⟨"127.0.0.1:0", false, 1000, 4, 64⟩, [[.connection true]]⟩

/-- The worker has connected, and a run has begun. -/
def begun : Station (List (List Readiness)) :=
  (station.poll Hangup.network none).2.start Hangup.network ⟨1⟩

/-- The connection brings what it is told to, and every observation is `true`. -/
def surroundings : Surroundings (List Read) where
  read
    | _, [] => (.nothing, [])
    | _, r :: rest => (r, rest)
  write _ rest := (.ok (), rest)
  sample _ rest := (some true, rest)

/-- The two messages in one piece. -/
def reads : List Read :=
  [.received (Wire.encode (CoordinatorMessage.register ⟨0⟩)
    ++ Wire.encode (CoordinatorMessage.start ⟨1⟩))]

/-- The worker after a round. -/
def service : Service (List Read × Bytes) :=
  (Service.round surroundings.recording 1
    (Service.register surroundings.recording 2 ⟨.create, (reads, []), []⟩).2).2

/-- The worker as its coordinator knows it. -/
def peer : Peer := ⟨⟨0⟩, [], [], [.start ⟨1⟩, .register ⟨0⟩], [], false⟩

theorem peers_begun : begun.coordinator.peers = [peer] := rfl

theorem begun_conducted :
    Conducted Hangup.network (some ⟨⟨1⟩, true⟩)
      [⟨(station.poll Hangup.network none).2.coordinator, ⟨⟨1⟩, true⟩, true⟩] begun :=
  ⟨_, .start ⟨1⟩ (.poll none (.create _))⟩

theorem service_served : Served surroundings.recording (reads, []) true service := by
  have hround : Service.round surroundings.recording 1
      (Service.register surroundings.recording 2 ⟨.create, (reads, []), []⟩).2
        = (.ok true, service) := rfl
  exact .round 1 (.register 2 rfl) hround

/-- The worker has been told of the run, and samples its property. -/
theorem coordinator_worker_agree_handover :
    peer.queued.reverse = .register ⟨0⟩
        :: (briefing [⟨(station.poll Hangup.network none).2.coordinator, ⟨⟨1⟩, true⟩, true⟩] ⟨0⟩
          (connections ⟨0⟩ begun.coordinator.history)).reverse ∧
      peer.queued.reverse.IsChain Wire.Follows ∧ service.bytesRead <+: peer.sent ∧
      service.worker.active = some ⟨1⟩ := by
  have hpeer : peer ∈ begun.coordinator.peers := peers_begun ▸ List.mem_singleton_self peer
  have hread : service.bytesRead <+: peer.sent := by decide +kernel
  have hkept : ¬Service.Declined service.history := fun ⟨_, hasked⟩ => nomatch hasked
  obtain ⟨hqueued, halternating, hagree⟩ := coordinator_worker_agree begun_conducted hpeer
  exact ⟨hqueued, halternating, hread, (hagree rfl service_served hread rfl ⟨1⟩).2 ⟨rfl, hkept⟩⟩

end Handover

end SimCheck
