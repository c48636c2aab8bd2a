import SimCheck.Proofs.Delivery.Fifo

/-!
# Observations of other runs

A run can be begun while another one is in progress, or after one that its workers took no part in; and
workers can be waited for at any time.  Whatever the order of the calls, a run that workers take part
in begins with nothing kept of any live worker, and from then on only observations of its property are
kept.  What is kept of a worker whose connection has ended stays when the run begins, and is used in it.

* `Traced left active localOnly`: what is kept of a worker has come from it, and in a run that workers
  take part in it belongs to the run, but for the workers that were `left` from before;
* `Traced.turn`, `Stable.traced`, `Traced.start`, `Traced.stop`: turns, sockets and calls;
* `Visited net left s`: the station is reached by calls in any order;
* `delivered_of_visited`: what a run uses of a worker has been sent for its property, unless the
  connection of the worker had ended before the run began;
* `Straggler.crosses`: the observation of a worker that has hung up is used in a run of another property.
-/

namespace SimCheck

open Wire (Bytes WorkerMessage messages)
open History (stream decoded delivered)

/-- A worker has been admitted under the number since the run began or the last one ended. -/
def History.Admitted (id : ClientId) : List Happening → Prop
  | [] | .began _ :: _ | .ended :: _ => False
  | .connected i :: h => i = id ∨ Admitted id h
  | .received _ _ :: h | .delivered _ _ :: h => Admitted id h

open History (Admitted)

namespace Peer

/-- What is kept of the worker has come from it. -/
def Heard (h : List Happening) (q : Peer) : Prop :=
  ∀ b ∈ q.samples, ∃ property value,
    WorkerMessage.sample property value ∈ messages (stream q.id h) ∧ b = (value != 0)

/-- The worker is one whose connection had ended when the run began. -/
structure IsLeft (left : List ClientId) (h : List Happening) (q : Peer) : Prop where
  mem : q.id ∈ left
  dead : q.dead = true
  former : ¬Admitted q.id h

end Peer

/-- What is kept of a worker has come from it.  In a run that workers take part in it has come for the
run, unless the worker is left from before. -/
structure Traced (left : List ClientId) (active : Option PropertyId) (localOnly : Bool)
    (c : Coordinator) : Prop extends Orderly c where
  heard : ∀ q ∈ c.peers, q.Heard c.history
  account : localOnly = false → active.isSome → ∀ q ∈ c.peers,
    q.IsLeft left c.history ∨ q.Accounted active c.history
  active : c.active = active
  localOnly : c.localOnly = localOnly

variable {left : List ClientId} {active : Option PropertyId} {localOnly : Bool} {c : Coordinator}
  {id : ClientId}

/-! ### What is kept of one worker -/

namespace Peer

variable {h : List Happening} {q q' : Peer}

theorem heard_nil (hsamples : q.samples = []) : q.Heard h := by
  intro b hb
  rw [hsamples] at hb
  cases hb

/-- What is kept has come from the worker even if it is kept for longer, or in part. -/
theorem Heard.later (hq : q.Heard h) {h' : List Happening} (hid : q'.id = q.id)
    (hsamples : ∀ b ∈ q'.samples, b ∈ q.samples) (hstream : stream q.id h <+: stream q.id h') :
    q'.Heard h' := by
  intro b hb
  obtain ⟨property, value, hmem, hvalue⟩ := hq b (hsamples b hb)
  obtain ⟨rest, hrest⟩ := hstream
  rw [hid, ← hrest]
  exact ⟨property, value, (Wire.messages_prefix _ rest).subset hmem, hvalue⟩

theorem Heard.receive (hq : q.Heard h) {ms : List WorkerMessage}
    (hms : Wire.decodeUntilError (stream q.id h) = (ms, q.incoming, none))
    (active : Option PropertyId) (bytes : Bytes) (ended : Bool) :
    (q.receive active bytes ended).Heard (.received q.id bytes :: h) := by
  have hstream : messages (α := WorkerMessage) (stream q.id (.received q.id bytes :: h))
      = ms ++ messages (q.incoming ++ bytes) := by
    rw [stream, if_pos rfl, messages, Wire.decodeUntilError_append, hms]
    rfl
  intro b hb
  show ∃ property value, WorkerMessage.sample property value ∈
    messages (stream q.id (.received q.id bytes :: h)) ∧ b = (value != 0)
  rw [hstream]
  rw [samples_receive, List.mem_append] at hb
  rcases hb with hb | hb
  · obtain ⟨property, value, hmem, hvalue⟩ := hq b hb
    rw [messages, hms] at hmem
    exact ⟨property, value, List.mem_append_left _ hmem, hvalue⟩
  · obtain ⟨⟨property, value⟩, hmem, hvalue⟩ := List.mem_filterMap.1 hb
    refine ⟨property, value, List.mem_append_right _ hmem, ?_⟩
    rw [observation?] at hvalue
    split_ifs at hvalue
    exact (Option.some_inj.1 hvalue).symm

end Peer

/-! ### Sockets -/

namespace Traced

theorem map (h : Traced left active localOnly c) {f : Peer → Peer} (hf : ∀ q : Peer, q.Worn (f q)) :
    Traced left active localOnly { c with peers := c.peers.map f } where
  toOrderly := h.toOrderly.map fun q => (hf q).toLater
  active := h.active
  localOnly := h.localOnly
  heard := by
    intro q' hq'
    obtain ⟨q, hq, rfl⟩ := List.mem_map.1 hq'
    exact (h.heard q hq).later (hf q).id (fun b hb => (hf q).samples ▸ hb) (List.prefix_refl _)
  account := by
    intro hlocal hactive q' hq'
    obtain ⟨q, hq, rfl⟩ := List.mem_map.1 hq'
    rcases h.account hlocal hactive q hq with hleft | haccount
    · refine .inl ⟨(hf q).id ▸ hleft.mem, ?_, (hf q).id ▸ hleft.former⟩
      by_contra halive
      have hlive := (hf q).dead (eq_false_of_ne_true halive)
      exact Bool.false_ne_true (hlive.symm.trans hleft.dead)
    · right
      unfold Peer.Accounted
      rw [(hf q).id, (hf q).samples]
      exact haccount

theorem register (h : Traced left active localOnly c) : Traced left active localOnly c.register where
  toOrderly := h.toOrderly.register
  active := h.active
  localOnly := h.localOnly
  heard := by
    intro q hq
    rcases mem_peers_register.1 hq with ⟨hq, hid⟩ | rfl
    · have hstream : stream q.id c.register.history = stream q.id c.history := if_neg (Ne.symm hid)
      exact (h.heard q hq).later rfl (fun _ hb => hb) (hstream ▸ List.prefix_refl _)
    · exact Peer.heard_nil (samples_newPeer c)
  account := by
    intro hlocal hactive q hq
    rcases mem_peers_register.1 hq with ⟨hq, hid⟩ | rfl
    · rcases h.account hlocal hactive q hq with hleft | haccount
      · refine .inl ⟨hleft.mem, hleft.dead, ?_⟩
        rintro (heq | hadmitted)
        exacts [hid heq.symm, hleft.former hadmitted]
      · exact .inr (haccount.connected (Ne.symm hid))
    · exact .inr (accounted_newPeer active c)

theorem receive (h : Traced left active localOnly c) (id : ClientId) (bytes : Bytes) (ended : Bool) :
    Traced left active localOnly (c.receive id bytes ended) := by
  by_cases hlive : c.isLive id
  swap
  · rw [Coordinator.receive, if_neg hlive]
    exact h
  refine ⟨h.toOrderly.receive id bytes ended, ?heard, ?account, ?active, ?localOnly⟩
  case active => rw [active_receive, h.active]
  case localOnly => rw [localOnly_receive, h.localOnly]
  case heard =>
    intro q' hq'
    rw [history_receive hlive]
    obtain ⟨q, hq, ⟨rfl, hdead, rfl⟩ | ⟨hid, rfl⟩⟩ := h.mem_peers_receive hlive hq'
    · obtain ⟨ms, hms⟩ := h.leftover q hq hdead
      exact (h.heard q hq).receive hms c.active bytes ended
    · have hstream : stream q'.id (.received id bytes :: c.history) = stream q'.id c.history :=
        if_neg (Ne.symm hid)
      exact (h.heard _ hq).later rfl (fun _ hb => hb) (hstream ▸ List.prefix_refl _)
  case account =>
    intro hlocal hactive q' hq'
    rw [history_receive hlive]
    obtain ⟨q, hq, ⟨rfl, hdead, rfl⟩ | ⟨hid, rfl⟩⟩ := h.mem_peers_receive hlive hq'
    · -- A worker that is left from before takes no more bytes.
      rcases h.account hlocal hactive q hq with hleft | haccount
      · exact absurd (hdead.symm.trans hleft.dead) Bool.false_ne_true
      · obtain ⟨ms, hms⟩ := h.leftover q hq hdead
        rw [h.active]
        exact .inr (haccount.receive hms)
    · rcases h.account hlocal hactive _ hq with hleft | haccount
      · exact .inl ⟨hleft.mem, hleft.dead, hleft.former⟩
      · exact .inr (haccount.received (Ne.symm hid))

end Traced

/-- **Whatever the sockets do, what is kept of a worker has come from it for the run.** -/
theorem Stable.traced (left : List ClientId) (active : Option PropertyId) (localOnly : Bool) :
    Stable (Traced left active localOnly) where
  register _ h := h.register
  skipNumber h := { h with }
  receive id bytes ended h := h.receive id bytes ended
  flushed id count h := h.map (Peer.Worn.ite (Peer.worn_flushed count) id)
  markDead id h := h.map (Peer.Worn.ite Peer.worn_dead id)

/-! ### Turns -/

namespace Traced

/-- An observation of a worker has come from it.  In a run that workers take part in it is the next one
that has come for the run, unless the worker is left from before. -/
structure Delivers (left : List ClientId) (active : Option PropertyId) (localOnly : Bool)
    (id : ClientId) (value : Bool) (h : List Happening) : Prop where
  heard : ∃ property v, WorkerMessage.sample property v ∈ messages (stream id h) ∧ value = (v != 0)
  next : localOnly = false → active.isSome → id ∉ left ∨ Admitted id h →
    delivered id h ++ [value] <+: decoded active id h

theorem reschedule (h : Traced left active localOnly c) {schedule : List Producer}
    (hschedule : ∀ x ∈ c.schedule, x ∈ schedule) :
    Traced left active localOnly { c with schedule } where
  toOrderly := { h with scheduled := fun q hq => hschedule _ (h.scheduled q hq) }
  active := h.active
  localOnly := h.localOnly
  heard := h.heard
  account := h.account

theorem remove (h : Traced left active localOnly c) (id : ClientId) :
    Traced left active localOnly (c.remove id) where
  toOrderly := h.toOrderly.remove id
  active := h.active
  localOnly := h.localOnly
  heard := fun q hq => h.heard q (List.mem_filter.1 hq).1
  account := fun hlocal hactive q hq => h.account hlocal hactive q (List.mem_filter.1 hq).1

theorem dropHead (h : Traced left active localOnly c) {ps : List Producer}
    (hschedule : c.schedule = .remote id :: ps) : Traced left active localOnly (c.dropHead id) := by
  rw [dropHead_eq_remove hschedule]
  exact h.remove id

theorem rotate (h : Traced left active localOnly c) : Traced left active localOnly c.rotate := by
  obtain ⟨schedule, hrotate, hschedule⟩ := rotate_eq c
  rw [hrotate]
  exact h.reschedule hschedule

theorem consume (h : Traced left active localOnly c) {q : Peer} (hq : q ∈ c.peers) {value : Bool}
    {rest : List Bool} (hsamples : q.samples = value :: rest) :
    Traced left active localOnly (c.consume q.id value) where
  toOrderly := h.toOrderly.consume hq value
  active := h.active
  localOnly := h.localOnly
  heard := by
    intro q' hq'
    rcases h.mem_peers_consume hq hq' with rfl | ⟨hq', -⟩
    · exact (h.heard q hq).later rfl (fun _ hb => List.mem_of_mem_tail hb) (List.prefix_refl _)
    · exact (h.heard q' hq').later rfl (fun _ hb => hb) (List.prefix_refl _)
  account := by
    intro hlocal hactive q' hq'
    rcases h.mem_peers_consume hq hq' with rfl | ⟨hq', hid⟩
    · rcases h.account hlocal hactive q hq with hleft | haccount
      · exact .inl ⟨hleft.mem, hleft.dead, hleft.former⟩
      · exact .inr (haccount.consume hsamples)
    · rcases h.account hlocal hactive q' hq' with hleft | haccount
      · exact .inl ⟨hleft.mem, hleft.dead, hleft.former⟩
      · exact .inr (haccount.delivered (Ne.symm hid) value)

theorem delivers (h : Traced left active localOnly c) {q : Peer} (hq : q ∈ c.peers) {value : Bool}
    {rest : List Bool} (hsamples : q.samples = value :: rest) :
    Delivers left active localOnly q.id value c.history where
  heard := h.heard q hq value (hsamples ▸ List.mem_cons_self)
  next := by
    intro hlocal hactive hkept
    rcases h.account hlocal hactive q hq with hleft | haccount
    · rcases hkept with hmem | hadmitted
      exacts [absurd hleft.mem hmem, absurd hadmitted hleft.former]
    · rw [← haccount, hsamples]
      exact ⟨rest, by rw [List.append_assoc, List.singleton_append]⟩

/-- **A turn offers what has come from a worker, for the run if it is not left from before.** -/
theorem turn (h : Traced left active localOnly c) :
    c.turn.LeadsTo (Traced left active localOnly) fun id value next =>
      Traced left active localOnly next ∧
        ∃ h, next.history = .delivered id value :: h ∧ Delivers left active localOnly id value h := by
  -- Workers that are gone are dropped on the way, so the induction is on the schedule.
  fun_induction Coordinator.turn c with
  | case1 c hschedule => exact h
  | case2 c ps hschedule => exact h.rotate
  | case3 c id ps hschedule hpeer ih => exact ih (h.dropHead hschedule)
  | case4 c id ps hschedule q hpeer value rest hsamples =>
    obtain ⟨hq, rfl⟩ := mem_of_peer?_eq_some hpeer
    obtain ⟨schedule, hrotate, -⟩ := rotate_eq (c.consume q.id value)
    exact ⟨(h.consume hq hsamples).rotate, c.history, by rw [hrotate]; rfl, h.delivers hq hsamples⟩
  | case5 c id ps hschedule q hpeer hsamples hdead ih => exact ih (h.dropHead hschedule)
  | case6 c id ps hschedule q hpeer hsamples hdead => exact h

/-! ### Calls -/

theorem setOrigin (h : Traced left active localOnly c) (values : Valuation) :
    Traced left active localOnly (c.setOrigin values) :=
  { h with toOrderly := { h.toOrderly with } }

theorem heard_turnover {e : Happening} (he : e.IsTurnover) {h : List Happening} {q q' : Peer}
    (hq : q.Heard h) (hid : q'.id = q.id) (hsamples : ∀ b ∈ q'.samples, b ∈ q.samples) :
    q'.Heard (e :: h) :=
  hq.later hid hsamples ((history_turnover he none q.id h).1.symm ▸ List.prefix_refl _)

/-- The workers whose connections have ended. -/
def deadIds (c : Coordinator) : List ClientId := (c.peers.filter (·.dead)).map (·.id)

/-- **When a run begins nothing is kept of live workers.** -/
theorem start (h : Traced left active localOnly c) (p : PropertyId) :
    Traced (deadIds c) (some p) false (c.start p) where
  toOrderly := (h.toOrderly.map (Peer.later_start p)).turnover (.inl ⟨p, rfl⟩) (some p) false
  active := rfl
  localOnly := rfl
  heard := by
    intro q' hq'
    obtain ⟨q, hq, rfl⟩ := List.mem_map.1 hq'
    refine heard_turnover (.inl ⟨p, rfl⟩) (h.heard q hq) (Peer.later_start p q).id ?_
    split_ifs
    exacts [fun _ hb => hb, fun _ hb => nomatch hb]
  account := by
    intro _ _ q' hq'
    obtain ⟨q, hq, rfl⟩ := List.mem_map.1 hq'
    split_ifs with hdead
    · exact .inl ⟨List.mem_map_of_mem (List.mem_filter.2 ⟨hq, hdead⟩), hdead, id⟩
    · right
      obtain ⟨-, hdelivered, -, -, hdecoded⟩ :=
        history_turnover (e := .began p) (.inl ⟨p, rfl⟩) (some p) q.id c.history
      show delivered q.id (.began p :: c.history) ++ [] = decoded (some p) q.id (.began p :: c.history)
      rw [hdelivered, hdecoded]
      rfl

theorem startLocal (h : Traced left active localOnly c) (left' : List ClientId) (p : PropertyId) :
    Traced left' (some p) true (c.startLocal p) where
  toOrderly := h.toOrderly.turnover (.inl ⟨p, rfl⟩) (some p) true
  active := rfl
  localOnly := rfl
  heard := fun q hq => heard_turnover (.inl ⟨p, rfl⟩) (h.heard q hq) rfl fun _ hb => hb
  account := fun hlocal => nomatch hlocal

theorem stopLocal (h : Traced left active localOnly c) : Traced left none false c.stopLocal where
  toOrderly := h.toOrderly.turnover (.inr rfl) none false
  active := rfl
  localOnly := rfl
  heard := fun q hq => heard_turnover (.inr rfl) (h.heard q hq) rfl fun _ hb => hb
  account := fun _ hactive => nomatch hactive

theorem stop (h : Traced left active localOnly c) : Traced left none localOnly c.stop where
  toOrderly := h.toOrderly.stop
  active := rfl
  localOnly := h.localOnly
  heard := (h.map Peer.worn_stop).heard
  account := fun _ hactive => nomatch hactive

theorem forgetDead (h : Traced left none localOnly c) : Traced left none localOnly c.forgetDead := by
  refine List.foldlRecOn _ _ (motive := Traced left none localOnly) ?_ fun c hc id _ => hc.remove id
  have hlater (q : Peer) : q.Later { q with samples := [] } := ⟨rfl, rfl, fun h => h⟩
  exact
    { (h.toOrderly.map hlater).turnover (.inr rfl) c.active c.localOnly with
      active := h.active
      localOnly := h.localOnly
      heard := fun q' hq' => by
        obtain ⟨q, -, rfl⟩ := List.mem_map.1 hq'
        exact Peer.heard_nil rfl
      account := fun _ hactive => nomatch hactive }

/-- A new coordinator keeps nothing. -/
theorem create (settings : SamplingSettings) : Traced [] none false (.create settings) :=
  { (joined_create settings).toOrderly with
    active := rfl
    localOnly := rfl
    heard := fun _ hq => nomatch hq
    account := fun _ hactive => nomatch hactive }

/-! ### Stations -/

section Stations

variable {N : Type} (net : Network N) {s : Station N}

theorem station_start (h : Traced left active localOnly s.coordinator) (p : PropertyId) :
    Traced (deadIds s.coordinator) (some p) false (s.start net p).coordinator :=
  (Stable.traced _ _ _).flushAll net _ (h.start p)

theorem beginRun (h : Traced left active localOnly s.coordinator) (p : PropertyId)
    (values : Valuation) : ∃ localOnly,
      Traced (deadIds s.coordinator) (some p) localOnly (s.beginRun net p values).coordinator := by
  have hpin := h.setOrigin (s.coordinator.origin.getD values)
  rw [Station.beginRun]
  split_ifs
  · exact ⟨false, station_start net (s := { s with coordinator := _ }) hpin p⟩
  · exact ⟨true, hpin.startLocal _ p⟩

theorem station_stop (h : Traced left active localOnly s.coordinator) :
    ∃ active localOnly, Traced left active localOnly (s.stop net).coordinator := by
  rw [Station.stop]
  cases s.coordinator.active with
  | none => exact ⟨active, localOnly, h⟩
  | some p =>
    dsimp only
    split_ifs
    · exact ⟨none, false, h.stopLocal⟩
    · have hstop := (Stable.traced left none localOnly).flushAll net
        (s := { s with coordinator := s.coordinator.stop })
        (s.coordinator.stop.live.map (·.id)) h.stop
      exact ⟨none, localOnly, hstop.forgetDead⟩

/-- **However long a worker is waited for, what is offered has come from it for the run.** -/
theorem nextSample (fuel : ℕ) (h : Traced left active localOnly s.coordinator) :
    (s.nextSample net fuel).LeadsTo (Traced left active localOnly) fun id value next =>
      Traced left active localOnly next ∧
        ∃ h, next.history = .delivered id value :: h ∧ Delivers left active localOnly id value h := by
  rw [Station.nextSample]
  split_ifs
  · exact h
  · have hstable := Stable.traced left active localOnly
    exact hstable.serve net (fun _ hc => hc.turn) fuel (hstable.poll net none h)

end Stations

end Traced

/-! ### Calls in any order -/

section Visits

variable {N : Type} {net : Network N} {s next : Station N}

open Traced (deadIds)

/-- The stations that calls in any order lead to, in a network that does anything, with the workers
whose connections had ended when the last run began. -/
inductive Visited (net : Network N) : List ClientId → Station N → Prop
  | create (settings : SamplingSettings) (network : N) :
      Visited net [] ⟨.create settings, network⟩
  | setOrigin {left : List ClientId} {s : Station N} (values : Valuation) (h : Visited net left s) :
      Visited net left { s with coordinator := s.coordinator.setOrigin values }
  | waitForClients {left : List ClientId} {s : Station N} (count fuel : ℕ) (h : Visited net left s) :
      Visited net left (s.waitForClients net count fuel)
  | start {left : List ClientId} {s : Station N} (p : PropertyId) (h : Visited net left s) :
      Visited net (deadIds s.coordinator) (s.start net p)
  | beginRun {left : List ClientId} {s : Station N} (p : PropertyId) (values : Valuation)
      (h : Visited net left s) : Visited net (deadIds s.coordinator) (s.beginRun net p values)
  | simulate {left : List ClientId} {s next : Station N} (fuel : ℕ) (h : Visited net left s)
      (hnext : s.nextSample net fuel = .simulate next) : Visited net left next
  | deliver {left : List ClientId} {s next : Station N} (fuel : ℕ) {id : ClientId} {value : Bool}
      (h : Visited net left s) (hnext : s.nextSample net fuel = .deliver id value next) :
      Visited net left next
  | stop {left : List ClientId} {s : Station N} (h : Visited net left s) :
      Visited net left (s.stop net)

theorem Visited.traced (h : Visited net left s) :
    ∃ active localOnly, Traced left active localOnly s.coordinator := by
  induction h with
  | create settings network => exact ⟨none, false, .create settings⟩
  | setOrigin values _ ih =>
    obtain ⟨active, localOnly, h⟩ := ih
    exact ⟨active, localOnly, h.setOrigin values⟩
  | waitForClients count fuel _ ih =>
    obtain ⟨active, localOnly, h⟩ := ih
    exact ⟨active, localOnly, (Stable.traced _ _ _).waitForClients net count fuel h⟩
  | start p _ ih =>
    obtain ⟨active, localOnly, h⟩ := ih
    exact ⟨some p, false, h.station_start net p⟩
  | beginRun p values _ ih =>
    obtain ⟨active, localOnly, h⟩ := ih
    exact ⟨some p, h.beginRun net p values⟩
  | simulate fuel _ hnext ih =>
    obtain ⟨active, localOnly, h⟩ := ih
    have hoffer := h.nextSample net fuel
    rw [hnext] at hoffer
    exact ⟨active, localOnly, hoffer⟩
  | deliver fuel _ hnext ih =>
    obtain ⟨active, localOnly, h⟩ := ih
    have hoffer := h.nextSample net fuel
    rw [hnext] at hoffer
    exact ⟨active, localOnly, hoffer.1⟩
  | stop _ ih =>
    obtain ⟨active, localOnly, h⟩ := ih
    exact h.station_stop net

/-- **What a run of `p` uses of a worker has been sent for `p`, unless the worker is left from
before.**  The observation of the worker is one that it has sent, of whatever property.  If the worker's
connection had not ended when the run began, or if the worker has connected since, then the observations
that have been used of it and this one are a prefix of those of `p` that have been decoded of its stream
since the run began. -/
theorem delivered_of_visited {p : PropertyId} {fuel : ℕ} {value : Bool} (h : Visited net left s)
    (hactive : s.coordinator.active = some p)
    (hnext : s.nextSample net fuel = .deliver id value next) :
    ∃ h, next.coordinator.history = .delivered id value :: h ∧
      (∃ property v, WorkerMessage.sample property v ∈ messages (stream id h) ∧ value = (v != 0)) ∧
      (id ∉ left ∨ Admitted id h → delivered id h ++ [value] <+: decoded (some p) id h) := by
  obtain ⟨active, localOnly, htraced⟩ := h.traced
  have hlocal : localOnly = false := by
    rw [← htraced.localOnly]
    by_contra hlocal
    rw [Station.nextSample, if_pos (eq_true_of_ne_false hlocal)] at hnext
    cases hnext
  obtain rfl : active = some p := htraced.active.symm.trans hactive
  have hoffer := htraced.nextSample net fuel
  rw [hnext] at hoffer
  obtain ⟨-, h, hhistory, hdelivers⟩ := hoffer
  exact ⟨h, hhistory, hdelivers.heard, hdelivers.next hlocal rfl⟩

end Visits

/-- The worker's only observation is one of the run's property. -/
theorem Hangup.delivered_of_visited_hangup : ∃ next : Station (List (List Readiness)),
    Visited network [] (station.start network ⟨1⟩) ∧
    (station.start network ⟨1⟩).coordinator.active = some ⟨1⟩ ∧
    (station.start network ⟨1⟩).nextSample network 2 = .deliver ⟨0⟩ true next ∧
    ∃ h, next.coordinator.history = .delivered ⟨0⟩ true :: h ∧
      (∃ property v, WorkerMessage.sample property v ∈ messages (stream ⟨0⟩ h) ∧ true = (v != 0)) ∧
      (⟨0⟩ ∉ ([] : List ClientId) ∨ Admitted ⟨0⟩ h →
        delivered ⟨0⟩ h ++ [true] <+: decoded (some ⟨1⟩) ⟨0⟩ h) := by
  obtain ⟨next, hnext⟩ := exists_nextSample
  have hvisited : Visited network [] (station.start network ⟨1⟩) := .start ⟨1⟩ (.create _ _)
  exact ⟨next, hvisited, rfl, hnext, delivered_of_visited hvisited rfl hnext⟩

/-! ### A worker that is left from before -/

namespace Straggler

/-- Polls find what they are told to while there is something left to tell. -/
def network : Network (List (List Readiness)) :=
  { Hangup.network with hasTime := fun rest => !rest.isEmpty }

/-- A worker connects, sends an observation of the first property and hangs up. -/
def station : Station (List (List Readiness)) :=
  ⟨.create ⟨"127.0.0.1:0", false, 1000, 4, 64⟩,
    [[.connection true],
      [.input ⟨0⟩ (Wire.encode (WorkerMessage.observation ⟨1⟩ true)) true]]⟩

/-- The worker is waited for in the first run, and the second one begins without an end of the first. -/
def restarted : Station (List (List Readiness)) :=
  ((station.start network ⟨1⟩).waitForClients network 2 2).start network ⟨2⟩

theorem visited_restarted : Visited network [⟨0⟩] restarted := by
  have hdead : Traced.deadIds
      ((station.start network ⟨1⟩).waitForClients network 2 2).coordinator = [⟨0⟩] := by
    decide +kernel
  rw [← hdead]
  exact .start ⟨2⟩ (.waitForClients 2 2 (.start ⟨1⟩ (.create _ _)))

/-- Whether the first worker's observation is offered, and all that it has sent is of the first
property. -/
def isCrossing : Offer (List (List Readiness)) → Bool
  | .deliver id value next => id = ⟨0⟩ && value &&
      decide (messages (stream ⟨0⟩ next.coordinator.history) = [WorkerMessage.sample ⟨1⟩ 1])
  | _ => false

/-- **In the run of the second property an observation of the first one is used.** -/
theorem crosses : ∃ next : Station (List (List Readiness)),
    Visited network [⟨0⟩] restarted ∧ restarted.coordinator.active = some ⟨2⟩ ∧
      restarted.nextSample network 1 = .deliver ⟨0⟩ true next ∧
      messages (stream ⟨0⟩ next.coordinator.history) = [WorkerMessage.sample ⟨1⟩ 1] := by
  have hcrossing : isCrossing (restarted.nextSample network 1) = true := by decide +kernel
  cases hoffer : restarted.nextSample network 1 with
  | deliver id value next =>
    rw [hoffer, isCrossing, Bool.and_eq_true, Bool.and_eq_true, decide_eq_true_iff,
      decide_eq_true_iff] at hcrossing
    obtain ⟨⟨rfl, rfl⟩, hmessages⟩ := hcrossing
    exact ⟨next, visited_restarted, by decide +kernel, rfl, hmessages⟩
  | simulate next => simp [hoffer, isCrossing] at hcrossing
  | stalled => simp [hoffer, isCrossing] at hcrossing

end Straggler

end SimCheck
