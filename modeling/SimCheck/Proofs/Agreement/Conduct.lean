import SimCheck.Proofs.Agreement.Briefing
import SimCheck.Proofs.Delivery.Runs

/-!
# What workers are told of runs

A coordinator begins and ends runs in turn, with workers or without.  A worker is told of every run that
workers take part in: of its beginning, if it begins while the worker is live or is in progress when the
worker connects, and of its end, if the worker is live then.

* `Job`: what a run is about; `Switch`: its beginning or its end;
* `Conducted net job switches s`: the station `s` is reached by calls that begin and end runs in turn;
  these are the `switches`, and `job` is in progress;
* `ConductedFrom net initial job switches s`: the network is in the state `initial` at first;
* `briefing`: what a worker is told because of some switches;
* `Coordinator.Silent c c'`: what can happen to a coordinator without anybody being told anything;
* `Informed`: every worker has been told that and nothing else;
* `Informed.switched`: a run begins or ends; `Stable.informed`: the sockets do something;
* `ConductedFrom.informed`: whole calls.
-/

namespace SimCheck

open Wire (Bytes CoordinatorMessage)

/-! ### Runs in turn -/

/-- A run: its property, and whether workers take part in it. -/
structure Job where
  property : PropertyId
  shared : Bool
  deriving DecidableEq

/-- The property that workers are asked for in a run. -/
def Job.request? (j : Job) : Option PropertyId := if j.shared then some j.property else none

/-- The beginning or the end of a run. -/
structure Switch where
  /-- The coordinator before it. -/
  before : Coordinator
  job : Job
  /-- Whether it is the beginning. -/
  begins : Bool

/-- What live workers are told. -/
def Switch.message? (w : Switch) : Option CoordinatorMessage :=
  if w.job.shared then some (if w.begins then .start w.job.property else .stop) else none

/-- The run that is in progress after some switches, the latest of which comes first. -/
def inProgress : List Switch → Option Job
  | [] => none
  | w :: _ => if w.begins then some w.job else none

/-- The stations that calls lead to which begin and end runs in turn, with a network that is in a state at
first, the run in progress and all switches so far, the latest first.  Sockets are polled at any time. -/
inductive ConductedFrom {N : Type} (net : Network N) (initial : N) :
    Option Job → List Switch → Station N → Prop
  | create (settings : SamplingSettings) :
      ConductedFrom net initial none [] ⟨.create settings, initial⟩
  | setOrigin {job : Option Job} {ws : List Switch} {s : Station N} (values : Valuation)
      (h : ConductedFrom net initial job ws s) :
      ConductedFrom net initial job ws { s with coordinator := s.coordinator.setOrigin values }
  | poll {job : Option Job} {ws : List Switch} {s : Station N} (waitingFor : Option ClientId)
      (h : ConductedFrom net initial job ws s) :
      ConductedFrom net initial job ws (s.poll net waitingFor).2
  | waitForClients {job : Option Job} {ws : List Switch} {s : Station N} (count fuel : ℕ)
      (h : ConductedFrom net initial job ws s) :
      ConductedFrom net initial job ws (s.waitForClients net count fuel)
  | start {ws : List Switch} {s : Station N} (p : PropertyId) (h : ConductedFrom net initial none ws s) :
      ConductedFrom net initial (some ⟨p, true⟩) (⟨s.coordinator, ⟨p, true⟩, true⟩ :: ws)
        (s.start net p)
  | beginRun {ws : List Switch} {s : Station N} (p : PropertyId) (values : Valuation) {job : Job}
      (hjob : job = ⟨p, s.coordinator.origin.getD values = values⟩)
      (h : ConductedFrom net initial none ws s) :
      ConductedFrom net initial (some job) (⟨s.coordinator, job, true⟩ :: ws) (s.beginRun net p values)
  | simulate {job : Option Job} {ws : List Switch} {s next : Station N} (fuel : ℕ)
      (h : ConductedFrom net initial job ws s) (hnext : s.nextSample net fuel = .simulate next) :
      ConductedFrom net initial job ws next
  | deliver {job : Option Job} {ws : List Switch} {s next : Station N} (fuel : ℕ) {id : ClientId}
      {value : Bool} (h : ConductedFrom net initial job ws s)
      (hnext : s.nextSample net fuel = .deliver id value next) : ConductedFrom net initial job ws next
  | stop {job : Job} {ws : List Switch} {s : Station N} (h : ConductedFrom net initial (some job) ws s) :
      ConductedFrom net initial none (⟨s.coordinator, job, false⟩ :: ws) (s.stop net)

/-- The stations that calls lead to which begin and end runs in turn, with the run in progress and all
switches so far, whatever state their network is in at first. -/
def Conducted {N : Type} (net : Network N) (job : Option Job) (ws : List Switch) (s : Station N) : Prop :=
  ∃ initial, ConductedFrom net initial job ws s

/-! ### What workers are told -/

/-- How many workers have been admitted under a number. -/
def connections (id : ClientId) (h : List Happening) : ℕ := h.count (.connected id)

/-- What the `n`-th worker under a number is told of runs because of some switches, the latest first:
what is told at the switches at which it is live, and before that of the run in progress when it
connects. -/
def briefing (ws : List Switch) (id : ClientId) (n : ℕ) : List CoordinatorMessage :=
  (ws.filter fun w => connections id w.before.history = n ∧ w.before.isLive id).filterMap
      Switch.message?
    ++ (((inProgress (ws.filter fun w => connections id w.before.history < n)).bind
      Job.request?).map .start).toList

theorem connections_cons {e : Happening} {id : ClientId} (he : e ≠ .connected id) (h : List Happening) :
    connections id (e :: h) = connections id h := List.count_cons_of_ne he

theorem connections_register (c : Coordinator) :
    connections c.nextId c.register.history = connections c.nextId c.history + 1 := List.count_cons_self

theorem connections_register_of_ne {c : Coordinator} {id : ClientId} (hid : id ≠ c.nextId) :
    connections id c.register.history = connections id c.history :=
  connections_cons (fun he => hid (Happening.connected.inj he).symm) _

theorem connections_le_register (c : Coordinator) (id : ClientId) :
    connections id c.history ≤ connections id c.register.history := List.count_le_count_cons

/-! ### Silence -/

/-- Nobody connects, nobody is told anything and no output is taken: observations come and are used,
connections end, and workers are forgotten. -/
structure Coordinator.Silent (c c' : Coordinator) : Prop where
  active : c'.active = c.active
  localOnly : c'.localOnly = c.localOnly
  connections : ∀ id, connections id c'.history = connections id c.history
  ids : (c'.peers.map (·.id)).Sublist (c.peers.map (·.id))
  peers : ∀ q' ∈ c'.peers, ∃ q ∈ c.peers, q.Silent q'

namespace Coordinator.Silent

variable {c c' c'' : Coordinator}

theorem refl (c : Coordinator) : c.Silent c :=
  ⟨rfl, rfl, fun _ => rfl, .refl _, fun q hq => ⟨q, hq, .refl q⟩⟩

theorem trans (h : c.Silent c') (h' : c'.Silent c'') : c.Silent c'' where
  active := h'.active.trans h.active
  localOnly := h'.localOnly.trans h.localOnly
  connections id := (h'.connections id).trans (h.connections id)
  ids := h'.ids.trans h.ids
  peers := by
    intro q'' hq''
    obtain ⟨q', hq', hsilent'⟩ := h'.peers q'' hq''
    obtain ⟨q, hq, hsilent⟩ := h.peers q' hq'
    exact ⟨q, hq, hsilent.trans hsilent'⟩

/-- Something happens to the workers one by one. -/
theorem map {f : Peer → Peer} (hf : ∀ q : Peer, q.Silent (f q)) (hpeers : c'.peers = c.peers.map f)
    (hactive : c'.active = c.active) (hlocal : c'.localOnly = c.localOnly)
    (hconnections : ∀ id, SimCheck.connections id c'.history = SimCheck.connections id c.history) :
    c.Silent c' := by
  refine ⟨hactive, hlocal, hconnections, ?_, ?_⟩
  · rw [hpeers, map_id_map fun q => (hf q).id]
  · intro q' hq'
    rw [hpeers] at hq'
    obtain ⟨q, hq, rfl⟩ := List.mem_map.1 hq'
    exact ⟨q, hq, hf q⟩

theorem receive (c : Coordinator) (id : ClientId) (bytes : Bytes) (ended : Bool) :
    c.Silent (c.receive id bytes ended) := by
  unfold Coordinator.receive
  split_ifs
  · exact map (.ite (fun q => .receive q c.active bytes ended) id) rfl rfl rfl
      fun _ => connections_cons Happening.noConfusion _
  · exact refl c

theorem markDead (c : Coordinator) (id : ClientId) : c.Silent (c.markDead id) :=
  map (.ite (fun q => .markedDead q) id) rfl rfl rfl fun _ => rfl

theorem remove (c : Coordinator) (id : ClientId) : c.Silent (c.remove id) :=
  ⟨rfl, rfl, fun _ => rfl, List.filter_sublist.map _,
    fun q hq => ⟨q, (List.mem_filter.1 hq).1, .refl q⟩⟩

/-- Observations that were not used and workers that are dead are forgotten. -/
theorem forgetDead (c : Coordinator) : c.Silent c.forgetDead := by
  have hcleared : c.Silent
      { c with
        peers := c.peers.map fun p => { p with samples := [] }
        history := .ended :: c.history } :=
    map (fun q => .withSamples q []) rfl rfl rfl fun _ => connections_cons Happening.noConfusion _
  exact List.foldlRecOn _ _ (motive := c.Silent) hcleared fun _ hc id _ => hc.trans (remove _ id)

theorem rotate (c : Coordinator) : c.Silent c.rotate := by
  obtain ⟨schedule, hrotate, -⟩ := rotate_eq c
  rw [hrotate]
  exact { refl c with }

theorem consume (c : Coordinator) (id : ClientId) (value : Bool) : c.Silent (c.consume id value) :=
  map (.ite (fun q => .withSamples q q.samples.tail) id) rfl rfl rfl
    fun _ => connections_cons Happening.noConfusion _

theorem dropHead (c : Coordinator) (id : ClientId) : c.Silent (c.dropHead id) := by
  have htail : c.Silent { c with schedule := c.schedule.tail } := { refl c with }
  exact htail.trans (remove _ id)

/-- To take turns is not to tell anything. -/
theorem turn (c : Coordinator) : c.turn.LeadsTo c.Silent fun _ _ => c.Silent :=
  Turn.leadsTo_of_keeps (P := c.Silent) (fun h => h.trans (rotate _))
    (fun id h => h.trans (dropHead _ id)) (fun id value h => h.trans (consume _ id value)) (refl c)

end Coordinator.Silent

/-! ### Workers that have been told -/

/-- Workers have been told of the runs so far, and nothing else. -/
structure Informed (job : Option Job) (ws : List Switch) (c : Coordinator) : Prop where
  active : c.active = job.map (·.property)
  localOnly : c.localOnly = job.any fun j => !j.shared
  inProgress : SimCheck.inProgress ws = job
  distinct : (c.peers.map (·.id)).Nodup
  past : ∀ w ∈ ws, ∀ id, connections id w.before.history ≤ connections id c.history
  told : ∀ q ∈ c.peers,
    q.queued = briefing ws q.id (connections q.id c.history) ++ [.register q.id]
  briefed : ∀ q ∈ c.peers, q.Briefed (job.bind Job.request?)

variable {c c' : Coordinator} {job job' : Option Job} {ws : List Switch}

theorem Informed.create (settings : SamplingSettings) : Informed none [] (.create settings) where
  active := rfl
  localOnly := rfl
  inProgress := rfl
  distinct := List.nodup_nil
  past := fun _ hw => (nomatch hw)
  told := fun _ hq => (nomatch hq)
  briefed := fun _ hq => (nomatch hq)

/-! ### Switches -/

theorem isLive_iff (hdistinct : (c.peers.map (·.id)).Nodup) {q : Peer} (hq : q ∈ c.peers) :
    c.isLive q.id = true ↔ q.dead = false := by
  unfold Coordinator.isLive Coordinator.live
  rw [List.any_eq_true]
  constructor
  · rintro ⟨r, hr, hid⟩
    obtain ⟨hr, hlive⟩ := List.mem_filter.1 hr
    rw [List.inj_on_of_nodup_map hdistinct hq hr (of_decide_eq_true hid).symm]
    simpa using hlive
  · intro hlive
    exact ⟨q, List.mem_filter.2 ⟨hq, by simpa using hlive⟩, decide_eq_true rfl⟩

/-- A switch adds its message to what is told to the workers that are live. -/
theorem briefing_cons {w : Switch} {id : ClientId} {n : ℕ}
    (hn : connections id w.before.history = n) :
    briefing (w :: ws) id n
      = (if w.before.isLive id then w.message?.toList else []) ++ briefing ws id n := by
  have hearlier : (w :: ws).filter (fun w => connections id w.before.history < n)
      = ws.filter fun w => connections id w.before.history < n :=
    List.filter_cons_of_neg (by simp [hn])
  unfold briefing
  rw [hearlier]
  by_cases hlive : w.before.isLive id = true
  · have hsince : (w :: ws).filter (fun w => connections id w.before.history = n ∧ w.before.isLive id)
        = w :: ws.filter fun w => connections id w.before.history = n ∧ w.before.isLive id :=
      List.filter_cons_of_pos (by simp [hn, hlive])
    rw [hsince, if_pos hlive, List.filterMap_cons]
    cases w.message? <;> rfl
  · have hsince : (w :: ws).filter (fun w => connections id w.before.history = n ∧ w.before.isLive id)
        = ws.filter fun w => connections id w.before.history = n ∧ w.before.isLive id :=
      List.filter_cons_of_neg (by simp [hlive])
    rw [hsince, if_neg hlive]
    rfl

namespace Informed

/-- The peer after a switch. -/
def tell (w : Switch) (q q' : Peer) : Prop :=
  q'.id = q.id ∧ q'.queued = (if q.dead then [] else w.message?.toList) ++ q.queued

/-- **A run begins or ends.** -/
theorem switched (h : Informed job ws c) {w : Switch} (hw : w.before = c)
    (hactive : c'.active = job'.map (·.property)) (hlocal : c'.localOnly = job'.any fun j => !j.shared)
    (hjob : SimCheck.inProgress (w :: ws) = job')
    (hconnections : ∀ id, connections id c'.history = connections id c.history)
    (hids : c'.peers.map (·.id) = c.peers.map (·.id))
    (hpeers : ∀ q' ∈ c'.peers, ∃ q ∈ c.peers, tell w q q')
    (hbriefed : ∀ q' ∈ c'.peers, q'.Briefed (job'.bind Job.request?)) :
    Informed job' (w :: ws) c' where
  active := hactive
  localOnly := hlocal
  inProgress := hjob
  distinct := hids ▸ h.distinct
  past := by
    intro w' hw' id
    rw [hconnections]
    rcases List.mem_cons.1 hw' with rfl | hw'
    · exact hw ▸ Nat.le_refl _
    · exact h.past w' hw' id
  told := by
    intro q' hq'
    obtain ⟨q, hq, hid, hqueued⟩ := hpeers q' hq'
    rw [hid, hconnections, briefing_cons (hw ▸ rfl), hqueued, h.told q hq, hw, List.append_assoc]
    by_cases hdead : q.dead = true
    · have hlive : ¬c.isLive q.id = true := by
        rw [isLive_iff h.distinct hq, hdead]
        exact Bool.noConfusion
      rw [if_pos hdead, if_neg hlive]
    · have hlive : c.isLive q.id = true :=
        (isLive_iff h.distinct hq).2 (Bool.eq_false_iff.2 hdead)
      rw [if_neg hdead, if_pos hlive]
  briefed := hbriefed

/-- Live workers are told of it. -/
theorem announced (h : Informed job ws c) {w : Switch} (hw : w.before = c) {m : CoordinatorMessage}
    (hm : w.message? = some m) (samples : Peer → List Bool)
    (hpeers : c'.peers =
      c.peers.map fun q => if q.dead then q else { q with samples := samples q }.queue m)
    (hactive : c'.active = job'.map (·.property)) (hlocal : c'.localOnly = job'.any fun j => !j.shared)
    (hjob : SimCheck.inProgress (w :: ws) = job')
    (hconnections : ∀ id, connections id c'.history = connections id c.history)
    (hbriefed : ∀ q : Peer, q.Briefed (job.bind Job.request?) → q.dead = false →
      (q.queue m).Briefed (job'.bind Job.request?)) : Informed job' (w :: ws) c' := by
  have hids : c'.peers.map (·.id) = c.peers.map (·.id) := by
    rw [hpeers]
    refine map_id_map (fun q => ?_) c.peers
    split_ifs <;> rfl
  refine h.switched hw hactive hlocal hjob hconnections hids ?_ ?_
  · intro q' hq'
    rw [hpeers] at hq'
    obtain ⟨q, hq, rfl⟩ := List.mem_map.1 hq'
    refine ⟨q, hq, ?_⟩
    unfold tell
    rw [hm]
    split_ifs <;> exact ⟨rfl, rfl⟩
  · intro q' hq'
    rw [hpeers] at hq'
    obtain ⟨q, hq, rfl⟩ := List.mem_map.1 hq'
    by_cases hdead : q.dead = true
    · rw [if_pos hdead]
      exact (h.briefed q hq).of_dead hdead _
    · rw [if_neg hdead]
      have hq := (h.briefed q hq).drained (Peer.Silent.withSamples q (samples q)).drained
      exact hbriefed _ hq (Bool.eq_false_iff.2 hdead)

/-- Nobody is told of it. -/
theorem unannounced (h : Informed job ws c) {w : Switch} (hw : w.before = c) (hm : w.message? = none)
    (hpeers : c'.peers = c.peers) (hactive : c'.active = job'.map (·.property))
    (hlocal : c'.localOnly = job'.any fun j => !j.shared)
    (hjob : SimCheck.inProgress (w :: ws) = job')
    (hconnections : ∀ id, connections id c'.history = connections id c.history)
    (hrequest : job'.bind Job.request? = job.bind Job.request?) : Informed job' (w :: ws) c' := by
  refine h.switched hw hactive hlocal hjob hconnections (by rw [hpeers]) ?_ ?_
  · intro q hq
    rw [hpeers] at hq
    refine ⟨q, hq, rfl, ?_⟩
    rw [hm]
    split_ifs <;> rfl
  · intro q hq
    rw [hpeers] at hq
    rw [hrequest]
    exact h.briefed q hq

/-- A run begins that workers take part in. -/
theorem start (h : Informed none ws c) (p : PropertyId) :
    Informed (some ⟨p, true⟩) (⟨c, ⟨p, true⟩, true⟩ :: ws) (c.start p) :=
  h.announced rfl rfl (fun _ => []) rfl rfl rfl rfl
    (fun _ => connections_cons Happening.noConfusion _) fun _ hq hlive => hq.start hlive p

/-- A run begins that workers take no part in. -/
theorem startLocal (h : Informed none ws c) (p : PropertyId) :
    Informed (some ⟨p, false⟩) (⟨c, ⟨p, false⟩, true⟩ :: ws) (c.startLocal p) :=
  h.unannounced rfl rfl rfl rfl rfl rfl (fun _ => connections_cons Happening.noConfusion _) rfl

/-- A run ends that workers take part in. -/
theorem stop {p : PropertyId} (h : Informed (some ⟨p, true⟩) ws c) :
    Informed none (⟨c, ⟨p, true⟩, false⟩ :: ws) c.stop :=
  h.announced rfl rfl (fun q => q.samples) rfl rfl h.localOnly rfl (fun _ => rfl)
    fun _ hq hlive => hq.stop hlive

/-- A run ends that workers take no part in. -/
theorem stopLocal {p : PropertyId} (h : Informed (some ⟨p, false⟩) ws c) :
    Informed none (⟨c, ⟨p, false⟩, false⟩ :: ws) c.stopLocal :=
  h.unannounced rfl rfl rfl rfl rfl rfl (fun _ => connections_cons Happening.noConfusion _) rfl

/-! ### Between switches -/

/-- Nobody is told anything.  Output is taken by the sockets, connections end, dead workers are
forgotten. -/
theorem drained (h : Informed job ws c) (hactive : c'.active = c.active)
    (hlocal : c'.localOnly = c.localOnly)
    (hconnections : ∀ id, connections id c'.history = connections id c.history)
    (hids : (c'.peers.map (·.id)).Sublist (c.peers.map (·.id)))
    (hpeers : ∀ q' ∈ c'.peers, ∃ q ∈ c.peers, q.Drained q') : Informed job ws c' where
  active := hactive.trans h.active
  localOnly := hlocal.trans h.localOnly
  inProgress := h.inProgress
  distinct := h.distinct.sublist hids
  past := by
    intro w hw id
    rw [hconnections]
    exact h.past w hw id
  told := by
    intro q' hq'
    obtain ⟨q, hq, hdrained⟩ := hpeers q' hq'
    rw [hdrained.queued, hdrained.id, hconnections]
    exact h.told q hq
  briefed := by
    intro q' hq'
    obtain ⟨q, hq, hdrained⟩ := hpeers q' hq'
    exact (h.briefed q hq).drained hdrained

theorem silent (h : Informed job ws c) (hc : c.Silent c') : Informed job ws c' :=
  h.drained hc.active hc.localOnly hc.connections hc.ids fun q' hq' =>
    let ⟨q, hq, hsilent⟩ := hc.peers q' hq'
    ⟨q, hq, hsilent.drained⟩

theorem setOrigin (h : Informed job ws c) (values : Valuation) : Informed job ws (c.setOrigin values) :=
  { h with }

theorem turn (h : Informed job ws c) :
    c.turn.LeadsTo (Informed job ws) fun _ _ => Informed job ws :=
  (Coordinator.Silent.turn c).imp (fun _ hc => h.silent hc) fun _ _ _ hc => h.silent hc

theorem flushed (h : Informed job ws c) (id : ClientId) (count : ℕ) :
    Informed job ws (c.flushed id count) := by
  refine h.drained rfl rfl (fun _ => rfl) ?_ ?_
  · rw [Coordinator.flushed, Coordinator.modifyPeer,
      map_id_map fun q => (Peer.Drained.flushed id count q).id]
  · intro q' hq'
    obtain ⟨q, hq, rfl⟩ := List.mem_map.1 hq'
    exact ⟨q, hq, .flushed id count q⟩

theorem remoteProperty_eq (h : Informed job ws c) : c.remoteProperty = job.bind Job.request? := by
  unfold Coordinator.remoteProperty
  rw [h.localOnly, h.active]
  rcases job with _ | ⟨p, _ | _⟩ <;> rfl

/-- **A worker connects.**  It is told its number, and of the run in progress. -/
theorem register (h : Informed job ws c) : Informed job ws c.register := by
  refine ⟨h.active, h.localOnly, h.inProgress, ?_, ?_, ?_, ?_⟩
  · exact nodup_ids_register h.distinct
  · exact fun w hw id => (h.past w hw id).trans (connections_le_register c id)
  · intro q hq
    rcases mem_peers_register.1 hq with ⟨hq, hid⟩ | rfl
    · rw [connections_register_of_ne hid]
      exact h.told q hq
    · -- All switches so far were before the worker has connected.
      have hnever : ws.filter (fun w => connections c.nextId w.before.history
          = connections c.nextId c.history + 1 ∧ w.before.isLive c.nextId) = [] := by
        rw [List.filter_eq_nil_iff]
        intro w hw hreached
        have hle := h.past w hw c.nextId
        have heq := (of_decide_eq_true hreached).1
        omega
      have hearlier : ws.filter (fun w => connections c.nextId w.before.history
          < connections c.nextId c.history + 1) = ws := by
        rw [List.filter_eq_self]
        exact fun w hw => decide_eq_true (Nat.lt_succ_of_le (h.past w hw c.nextId))
      rw [id_newPeer, connections_register, briefing, hnever, hearlier, h.inProgress,
        ← h.remoteProperty_eq]
      unfold Coordinator.newPeer
      cases c.remoteProperty <;> rfl
  · intro q hq
    rcases mem_peers_register.1 hq with ⟨hq, -⟩ | rfl
    · exact h.briefed q hq
    · exact h.remoteProperty_eq ▸ .newPeer c

end Informed

/-- **Whatever the sockets do, workers are told of runs and of nothing else.** -/
theorem Stable.informed (job : Option Job) (ws : List Switch) : Stable (Informed job ws) where
  register _ h := h.register
  skipNumber h := { h with }
  receive id bytes ended h := h.silent (.receive _ id bytes ended)
  flushed id count h := h.flushed id count
  markDead id h := h.silent (.markDead _ id)

/-! ### Whole calls -/

section Calls

variable {N : Type} (net : Network N) {s : Station N}

namespace Informed

theorem station_start (h : Informed none ws s.coordinator) (p : PropertyId) :
    Informed (some ⟨p, true⟩) (⟨s.coordinator, ⟨p, true⟩, true⟩ :: ws) (s.start net p).coordinator :=
  (Stable.informed _ _).flushAll net _ (h.start p)

/-- A run involves workers if it begins where they simulate from. -/
theorem beginRun (h : Informed none ws s.coordinator) (p : PropertyId) (values : Valuation) {j : Job}
    (hj : j = ⟨p, s.coordinator.origin.getD values = values⟩) :
    Informed (some j) (⟨s.coordinator, j, true⟩ :: ws) (s.beginRun net p values).coordinator := by
  unfold Station.beginRun
  have horigin : (s.coordinator.pinOrigin values).origin = some (s.coordinator.origin.getD values) := rfl
  dsimp only
  rw [horigin]
  by_cases hvalues : s.coordinator.origin.getD values = values
  · rw [if_pos (congrArg some hvalues), hj, decide_eq_true hvalues]
    exact (Stable.informed _ _).flushAll net _ ((h.start p).setOrigin _)
  · rw [if_neg fun he => hvalues (Option.some.inj he), hj, decide_eq_false hvalues]
    exact (h.startLocal p).setOrigin _

theorem station_stop {j : Job} (h : Informed (some j) ws s.coordinator) :
    Informed none (⟨s.coordinator, j, false⟩ :: ws) (s.stop net).coordinator := by
  obtain ⟨p, shared⟩ := j
  unfold Station.stop
  rw [h.active]
  dsimp only [Option.map_some]
  rw [h.localOnly]
  cases shared with
  | true => exact ((Stable.informed _ _).flushAll net _ h.stop).silent (.forgetDead _)
  | false => exact h.stopLocal

theorem nextSample (h : Informed job ws s.coordinator) (fuel : ℕ) :
    (s.nextSample net fuel).LeadsTo (Informed job ws) fun _ _ => Informed job ws := by
  unfold Station.nextSample
  split_ifs
  · exact h
  · have hstable := Stable.informed job ws
    exact hstable.serve net (fun _ hc => hc.turn) fuel (hstable.poll net none h)

end Informed

variable {net}

/-- **Workers have been told of all runs, at all times.** -/
theorem ConductedFrom.informed {initial : N} (h : ConductedFrom net initial job ws s) :
    Informed job ws s.coordinator := by
  induction h with
  | create settings => exact .create settings
  | setOrigin values _ ih => exact ih.setOrigin values
  | poll waitingFor _ ih => exact (Stable.informed _ _).poll net waitingFor ih
  | waitForClients count fuel _ ih => exact (Stable.informed _ _).waitForClients net count fuel ih
  | start p _ ih => exact ih.station_start net p
  | beginRun p values hjob _ ih => exact ih.beginRun net p values hjob
  | simulate fuel _ hnext ih =>
    have hoffer := ih.nextSample net fuel
    rw [hnext] at hoffer
    exact hoffer
  | deliver fuel _ hnext ih =>
    have hoffer := ih.nextSample net fuel
    rw [hnext] at hoffer
    exact hoffer
  | stop _ ih => exact ih.station_stop net

end Calls

end SimCheck
