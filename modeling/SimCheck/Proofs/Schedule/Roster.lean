import SimCheck.Proofs.Delivery.Crossing

/-!
# Who is scheduled

The sockets and the users of a coordinator change who is known to it and who is scheduled in few ways:
a worker is admitted, or its number is skipped, a worker is removed, the schedule is rotated.

* `Roster`: who takes part in the sampling, with the numbers that have been given;
* `Coordinator.Arises n`: the coordinators that operations and sockets lead to, in any order, when `n`
  numbers have been given;
* `Visited.arises`: calls lead to no others;
* `Roster.Reached`, `Arises.reached`: what becomes of the roster meanwhile;
* `Roster.InOrder`: every worker that is known is scheduled once, and nobody else is;
* `Reached.nodup_admitted`, `Reached.sound`: while numbers are not given twice, the roster is in order;
* `Coordinator.turn_cases`: the head of the schedule gives the next observation and goes to the tail.
-/

namespace SimCheck

open Wire (Bytes)

/-- The number that a worker has been admitted under. -/
def Happening.admitted? : Happening → Option ClientId
  | .connected id => some id
  | _ => none

/-- Who takes part in the sampling. -/
structure Roster where
  settings : SamplingSettings
  /-- The number of the next worker. -/
  nextId : ClientId
  /-- The workers that are known. -/
  ids : List ClientId
  /-- The numbers that workers have been admitted under, the latest first. -/
  admitted : List ClientId
  /-- The producers, the one whose turn it is first. -/
  schedule : List Producer

/-- Who takes part in the sampling of a coordinator. -/
def Coordinator.roster (c : Coordinator) : Roster where
  settings := c.settings
  nextId := c.nextId
  ids := c.peers.map (·.id)
  admitted := c.history.filterMap Happening.admitted?
  schedule := c.schedule

namespace Roster

/-- A worker comes in at the end of the schedule. -/
def enrol (r : Roster) : Roster where
  settings := r.settings
  nextId := r.nextId.next
  ids := r.ids.filter (· ≠ r.nextId) ++ [r.nextId]
  admitted := r.nextId :: r.admitted
  schedule := r.schedule ++ [.remote r.nextId]

/-- A number is used up. -/
def skip (r : Roster) : Roster := { r with nextId := r.nextId.next }

/-- A worker goes away. -/
def remove (r : Roster) (id : ClientId) : Roster :=
  { r with
    ids := r.ids.filter (· ≠ id)
    schedule := r.schedule.filter (· ≠ .remote id) }

/-- The producer whose turn it is.  Without producers the coordinator simulates. -/
def head (r : Roster) : Producer := r.schedule.headD .local

/-- The producer whose turn it is goes to the end. -/
def rotate (r : Roster) : Roster :=
  match r.schedule with
  | [] => r
  | x :: xs => { r with schedule := xs ++ [x] }

/-- Each worker that is known is scheduled once, the coordinator itself as the settings say, and nobody
else.  There are no more workers than the settings allow. -/
structure InOrder (r : Roster) : Prop where
  distinct : r.ids.Nodup
  workers (id : ClientId) : r.schedule.count (.remote id) = if id ∈ r.ids then 1 else 0
  own : r.schedule.count .local = if r.settings.localSampling then 1 else 0
  size : r.ids.length ≤ r.settings.maxClients

/-- The roster is in order, and the workers that are known have been admitted. -/
structure Sound (r : Roster) : Prop extends InOrder r where
  admitted : ∀ id ∈ r.ids, id ∈ r.admitted

/-- What becomes of a roster, with how many numbers have been given. -/
inductive Reached : ℕ → Roster → Prop
  | create (settings : SamplingSettings) : Reached 0 (Coordinator.create settings).roster
  | enrol {n : ℕ} {r : Roster} (h : Reached n r) (hroom : r.ids.length < r.settings.maxClients) :
      Reached (n + 1) r.enrol
  | skip {n : ℕ} {r : Roster} (h : Reached n r) : Reached (n + 1) r.skip
  | remove {n : ℕ} {r : Roster} (h : Reached n r) (id : ClientId) : Reached n (r.remove id)
  | rotate {n : ℕ} {r : Roster} (h : Reached n r) : Reached n r.rotate

variable {n : ℕ} {r : Roster} {id : ClientId}

theorem rotate_of_eq_nil (h : r.schedule = []) : r.rotate = r := by
  unfold rotate
  rw [h]

theorem rotate_of_eq_cons {x : Producer} {xs : List Producer} (h : r.schedule = x :: xs) :
    r.rotate = { r with schedule := xs ++ [x] } := by
  unfold rotate
  rw [h]

theorem head_of_eq_nil (h : r.schedule = []) : r.head = .local := by rw [head, h, List.headD_nil]

theorem head_of_eq_cons {x : Producer} {xs : List Producer} (h : r.schedule = x :: xs) :
    r.head = x := by
  rw [head, h, List.headD_cons]

/-! ### Numbers -/

theorem Reached.nextId_eq (h : Reached n r) : r.nextId = ⟨UInt32.ofNat n⟩ := by
  induction h with
  | create settings => rfl
  | enrol _ _ ih | skip _ ih =>
    show ClientId.next _ = _
    rw [ih, ClientId.next, ← UInt32.ofNat_one, ← UInt32.ofNat_add]
  | remove _ id ih => exact ih
  | @rotate n r _ ih =>
    cases hschedule : r.schedule with
    | nil => rwa [rotate_of_eq_nil hschedule]
    | cons x xs => rwa [rotate_of_eq_cons hschedule]

@[simp] theorem admitted_rotate (r : Roster) : r.rotate.admitted = r.admitted := by
  unfold rotate
  cases r.schedule <;> rfl

/-- Until the numbers wrap around, those that have been given are the smaller ones. -/
theorem Reached.toNat_lt (h : Reached n r) (hn : n ≤ UInt32.size) (hid : id ∈ r.admitted) :
    id.value.toNat < n := by
  induction h with
  | create settings => cases hid
  | @enrol n r h _ ih =>
    rcases List.mem_cons.1 hid with rfl | hid
    · rw [h.nextId_eq, UInt32.toNat_ofNat_of_lt' hn]
      exact Nat.lt_succ_self n
    · exact Nat.lt_succ_of_lt (ih (Nat.le_of_succ_le hn) hid)
  | skip _ ih => exact Nat.lt_succ_of_lt (ih (Nat.le_of_succ_le hn) hid)
  | remove _ _ ih => exact ih hn hid
  | rotate _ ih => exact ih hn (admitted_rotate _ ▸ hid)

/-- **Until the numbers wrap around, none is given twice.** -/
theorem Reached.nodup_admitted (h : Reached n r) (hn : n ≤ UInt32.size) : r.admitted.Nodup := by
  induction h with
  | create settings => exact List.nodup_nil
  | @enrol n r h _ ih =>
    refine List.nodup_cons.2 ⟨fun hmem => ?_, ih (Nat.le_of_succ_le hn)⟩
    have hlt := h.toNat_lt (Nat.le_of_succ_le hn) hmem
    rw [h.nextId_eq, UInt32.toNat_ofNat_of_lt' hn] at hlt
    exact Nat.lt_irrefl n hlt
  | skip _ ih => exact ih (Nat.le_of_succ_le hn)
  | remove _ _ ih => exact ih hn
  | rotate _ ih => exact (admitted_rotate _).symm ▸ ih hn

/-! ### Order -/

theorem Sound.create (settings : SamplingSettings) :
    Sound (Coordinator.create settings).roster where
  distinct := List.nodup_nil
  workers id := by
    show List.count _ (if settings.localSampling then [Producer.local] else []) = 0
    split_ifs <;> rfl
  own := by
    show List.count _ (if settings.localSampling then [Producer.local] else [])
      = if settings.localSampling then 1 else 0
    split_ifs <;> rfl
  size := Nat.zero_le _
  admitted := fun _ hid => nomatch hid

theorem Sound.enrol (h : Sound r) (hroom : r.ids.length < r.settings.maxClients)
    (hnew : r.nextId ∉ r.admitted) : Sound r.enrol := by
  have hfresh : r.nextId ∉ r.ids := fun hmem => hnew (h.admitted _ hmem)
  have hids : r.enrol.ids = r.ids ++ [r.nextId] := by
    show r.ids.filter (· ≠ r.nextId) ++ [r.nextId] = _
    rw [List.filter_eq_self.2]
    rintro id hid
    exact decide_eq_true fun heq => hfresh (heq ▸ hid)
  refine ⟨⟨?distinct, fun id => ?workers, ?own, ?size⟩, ?admitted⟩
  case distinct =>
    rw [hids]
    exact List.nodup_append_comm.1 (List.nodup_cons.2 ⟨hfresh, h.distinct⟩)
  case workers =>
    show (r.schedule ++ [Producer.remote r.nextId]).count _ = _
    rw [List.count_append, h.workers, hids]
    by_cases hid : r.nextId = id
    · subst hid
      rw [if_neg hfresh, if_pos (List.mem_append_right _ List.mem_cons_self), List.count_singleton_self]
    · have hne : Producer.remote r.nextId ≠ .remote id := fun h => hid (Producer.remote.inj h)
      simp [hne, Ne.symm hid]
  case own =>
    show (r.schedule ++ [Producer.remote r.nextId]).count _ = _
    rw [List.count_append, h.own]
    rfl
  case size =>
    rw [hids, List.length_append]
    exact hroom
  case admitted =>
    rw [hids]
    intro id hid
    rcases List.mem_append.1 hid with hid | hid
    · exact List.mem_cons_of_mem _ (h.admitted id hid)
    · exact List.mem_singleton.1 hid ▸ List.mem_cons_self

theorem Sound.remove (h : Sound r) (id : ClientId) : Sound (r.remove id) where
  distinct := h.distinct.filter _
  workers i := by
    show (r.schedule.filter (· ≠ .remote id)).count (.remote i)
      = if i ∈ r.ids.filter (· ≠ id) then 1 else 0
    by_cases hid : i = id
    · subst hid
      rw [List.count_eq_zero_of_not_mem (by simp), if_neg (by simp)]
    · have hne : Producer.remote i ≠ .remote id := fun h => hid (Producer.remote.inj h)
      rw [List.count_filter (by simpa using hid), h.workers]
      simp [hid]
  own := by
    show (r.schedule.filter (· ≠ .remote id)).count .local = _
    rw [List.count_filter (by simp), h.own]
    rfl
  size := Nat.le_trans (List.length_filter_le _ _) h.size
  admitted i hi := h.admitted i (List.mem_filter.1 hi).1

/-- The order of the producers does not matter. -/
theorem Sound.rotate (h : Sound r) : Sound r.rotate := by
  cases hschedule : r.schedule with
  | nil => rwa [rotate_of_eq_nil hschedule]
  | cons x xs =>
    rw [rotate_of_eq_cons hschedule]
    have hcount (y : Producer) : (xs ++ [x]).count y = r.schedule.count y :=
      hschedule ▸ (List.perm_append_singleton x xs).count_eq y
    exact
      { h with
        workers := fun id => (hcount _).trans (h.workers id)
        own := (hcount _).trans h.own }

/-- **While numbers are not given twice, every worker that is known is scheduled once.** -/
theorem Reached.sound (h : Reached n r) (hnodup : r.admitted.Nodup) : Sound r := by
  induction h with
  | create settings => exact .create settings
  | enrol _ hroom ih =>
    obtain ⟨hnew, hnodup⟩ := List.nodup_cons.1 hnodup
    exact (ih hnodup).enrol hroom hnew
  | skip _ ih => exact { ih hnodup with }
  | remove _ id ih => exact (ih hnodup).remove id
  | rotate _ ih => exact (ih (admitted_rotate _ ▸ hnodup)).rotate

end Roster

/-! ### Coordinators -/

namespace Coordinator

/-- The coordinators that operations of the users and the sockets lead to, in any order, when `n` numbers
have been given. -/
inductive Arises : ℕ → Coordinator → Prop
  | create (settings : SamplingSettings) : Arises 0 (create settings)
  /-- A worker has connected. -/
  | register {n : ℕ} {c : Coordinator} (h : Arises n c) (hroom : c.isFull = false) :
      Arises (n + 1) c.register
  /-- A worker has connected whose socket cannot be watched. -/
  | skipNumber {n : ℕ} {c : Coordinator} (h : Arises n c) : Arises (n + 1) c.skipNumber
  | receive {n : ℕ} {c : Coordinator} (h : Arises n c) (id : ClientId) (bytes : Bytes)
      (ended : Bool) : Arises n (c.receive id bytes ended)
  | flushed {n : ℕ} {c : Coordinator} (h : Arises n c) (id : ClientId) (count : ℕ) :
      Arises n (c.flushed id count)
  | markDead {n : ℕ} {c : Coordinator} (h : Arises n c) (id : ClientId) : Arises n (c.markDead id)
  | setOrigin {n : ℕ} {c : Coordinator} (h : Arises n c) (values : Valuation) :
      Arises n (c.setOrigin values)
  | start {n : ℕ} {c : Coordinator} (h : Arises n c) (p : PropertyId) : Arises n (c.start p)
  | startLocal {n : ℕ} {c : Coordinator} (h : Arises n c) (p : PropertyId) : Arises n (c.startLocal p)
  | stop {n : ℕ} {c : Coordinator} (h : Arises n c) : Arises n c.stop
  | stopLocal {n : ℕ} {c : Coordinator} (h : Arises n c) : Arises n c.stopLocal
  | forgetDead {n : ℕ} {c : Coordinator} (h : Arises n c) : Arises n c.forgetDead
  | simulate {n : ℕ} {c next : Coordinator} (h : Arises n c) (hturn : c.turn = .simulate next) :
      Arises n next
  | deliver {n : ℕ} {c next : Coordinator} {id : ClientId} {value : Bool} (h : Arises n c)
      (hturn : c.turn = .deliver id value next) : Arises n next
  | wait {n : ℕ} {c next : Coordinator} {id : ClientId} (h : Arises n c)
      (hturn : c.turn = .wait id next) : Arises n next

variable {n : ℕ} {c : Coordinator}

/-! What the operations do to the roster. -/

theorem roster_map (c : Coordinator) {f : Peer → Peer} (hf : ∀ q : Peer, (f q).id = q.id) :
    ({ c with peers := c.peers.map f } : Coordinator).roster = c.roster := by
  unfold roster
  rw [map_id_map hf]

@[simp] theorem roster_flushed (c : Coordinator) (id : ClientId) (count : ℕ) :
    (c.flushed id count).roster = c.roster :=
  roster_map c fun _ => by split_ifs <;> rfl

@[simp] theorem roster_markDead (c : Coordinator) (id : ClientId) :
    (c.markDead id).roster = c.roster :=
  roster_map c fun _ => by split_ifs <;> rfl

@[simp] theorem roster_receive (c : Coordinator) (id : ClientId) (bytes : Bytes) (ended : Bool) :
    (c.receive id bytes ended).roster = c.roster := by
  unfold receive
  split_ifs
  · refine roster_map c fun q => ?_
    dsimp only
    split_ifs <;> rfl
  · rfl

@[simp] theorem roster_register (c : Coordinator) : c.register.roster = c.roster.enrol := by
  have hids : c.register.peers.map (·.id)
      = (c.peers.map (·.id)).filter (· ≠ c.nextId) ++ [c.nextId] := by
    rw [ids_register, List.filter_map]
    rfl
  unfold roster
  rw [hids]
  rfl

@[simp] theorem roster_start (c : Coordinator) (p : PropertyId) : (c.start p).roster = c.roster :=
  roster_map c fun _ => by split_ifs <;> rfl

@[simp] theorem roster_stop (c : Coordinator) : c.stop.roster = c.roster :=
  roster_map c fun _ => by split_ifs <;> rfl

@[simp] theorem roster_consume (c : Coordinator) (id : ClientId) (value : Bool) :
    (c.consume id value).roster = c.roster :=
  roster_map c fun _ => by split_ifs <;> rfl

@[simp] theorem roster_remove (c : Coordinator) (id : ClientId) :
    (c.remove id).roster = c.roster.remove id := by
  have hids : (c.remove id).peers.map (·.id) = (c.peers.map (·.id)).filter (· ≠ id) := by
    rw [List.filter_map]
    rfl
  unfold roster
  rw [hids]
  rfl

@[simp] theorem roster_rotate (c : Coordinator) : c.rotate.roster = c.roster.rotate := by
  rcases c with ⟨settings, peers, nextId, _ | ⟨x, xs⟩, active, origin, localOnly, history⟩ <;> rfl

/-- **The head of the schedule gives the next observation and goes to the tail.**  Before that, workers
that are gone are removed. -/
theorem turn_cases {P : Coordinator → Prop}
    (hremove : ∀ {c : Coordinator} (id : ClientId), P c → P (c.remove id)) (h : P c) :
    match c.turn with
    | .simulate next => ∃ c', P c' ∧ c'.roster.head = .local ∧ next = c'.rotate
    | .deliver id value next =>
      ∃ c', P c' ∧ c'.roster.head = .remote id ∧ next = (c'.consume id value).rotate
    | .wait _ next => P next := by
  -- Workers that are gone are dropped on the way, so the induction is on the schedule.
  fun_induction Coordinator.turn c with
  | case1 c hschedule =>
    exact ⟨c, h, Roster.head_of_eq_nil hschedule, by unfold rotate; rw [hschedule]⟩
  | case2 c ps hschedule => exact ⟨c, h, Roster.head_of_eq_cons hschedule, rfl⟩
  | case3 c id ps hschedule hpeer ih =>
    exact ih (by rw [dropHead_eq_remove hschedule]; exact hremove id h)
  | case4 c id ps hschedule q hpeer value rest hsamples =>
    exact ⟨c, h, Roster.head_of_eq_cons hschedule, rfl⟩
  | case5 c id ps hschedule q hpeer hsamples hdead ih =>
    exact ih (by rw [dropHead_eq_remove hschedule]; exact hremove id h)
  | case6 c id ps hschedule q hpeer hsamples hdead => exact h

theorem turn_of_nil (h : c.schedule = []) : c.turn = .simulate c := by
  unfold turn
  split <;> simp_all

theorem turn_of_local {ps : List Producer} (h : c.schedule = .local :: ps) :
    c.turn = .simulate c.rotate := by
  unfold turn
  split <;> simp_all

theorem turn_of_remote {id : ClientId} {ps : List Producer} {q : Peer} {value : Bool}
    {rest : List Bool} (h : c.schedule = .remote id :: ps) (hq : c.peer? id = some q)
    (hsamples : q.samples = value :: rest) :
    c.turn = .deliver id value (c.consume id value).rotate := by
  unfold turn
  split <;> simp_all

/-- There is room for a worker that is admitted. -/
theorem length_ids_lt (hroom : c.isFull = false) :
    c.roster.ids.length < c.roster.settings.maxClients := by
  rw [isFull, decide_eq_false_iff_not] at hroom
  simpa [roster] using hroom

/-- **Whatever operations do, they admit and remove workers and rotate the schedule.** -/
theorem Arises.reached (h : Arises n c) : c.roster.Reached n := by
  have hremoves {n : ℕ} {c : Coordinator} (h : c.roster.Reached n) (id : ClientId) :
      (c.remove id).roster.Reached n := by
    rw [roster_remove]
    exact h.remove id
  induction h with
  | create settings => exact .create settings
  | @register n c _ hroom ih =>
    rw [roster_register]
    exact ih.enrol (length_ids_lt hroom)
  | skipNumber _ ih => exact ih.skip
  | receive _ id bytes ended ih => rwa [roster_receive]
  | flushed _ id count ih => rwa [roster_flushed]
  | markDead _ id ih => rwa [roster_markDead]
  | setOrigin _ values ih => exact ih
  | start _ p ih => rwa [roster_start]
  | startLocal _ p ih => exact ih
  | stop _ ih => rwa [roster_stop]
  | stopLocal _ ih => exact ih
  | @forgetDead n c _ ih =>
    refine List.foldlRecOn _ _ (motive := fun c : Coordinator => c.roster.Reached n) ?_
      fun c hc id _ => hremoves hc id
    have hsame := roster_map { c with history := .ended :: c.history }
      (f := fun q => { q with samples := [] }) fun _ => rfl
    exact hsame.symm ▸ ih
  | @simulate n c next _ hturn ih =>
    have hcases := turn_cases (P := fun c => c.roster.Reached n) (fun id h => hremoves h id) ih
    rw [hturn] at hcases
    obtain ⟨c', hc', -, rfl⟩ := hcases
    rw [roster_rotate]
    exact hc'.rotate
  | @deliver n c next id value _ hturn ih =>
    have hcases := turn_cases (P := fun c => c.roster.Reached n) (fun id h => hremoves h id) ih
    rw [hturn] at hcases
    obtain ⟨c', hc', -, rfl⟩ := hcases
    rw [roster_rotate, roster_consume]
    exact hc'.rotate
  | @wait n c next id _ hturn ih =>
    have hcases := turn_cases (P := fun c => c.roster.Reached n) (fun id h => hremoves h id) ih
    rwa [hturn] at hcases

end Coordinator

/-! ### Stations -/

theorem Stable.arises : Stable fun c => ∃ n, c.Arises n where
  register hroom := fun ⟨n, h⟩ => ⟨n + 1, h.register hroom⟩
  skipNumber := fun ⟨n, h⟩ => ⟨n + 1, h.skipNumber⟩
  receive id bytes ended := fun ⟨n, h⟩ => ⟨n, h.receive id bytes ended⟩
  flushed id count := fun ⟨n, h⟩ => ⟨n, h.flushed id count⟩
  markDead id := fun ⟨n, h⟩ => ⟨n, h.markDead id⟩

theorem arises_nextSample {N : Type} (net : Network N) {s : Station N} (fuel : ℕ)
    (h : ∃ n, s.coordinator.Arises n) :
    (s.nextSample net fuel).LeadsTo (fun c => ∃ n, c.Arises n) fun _ _ c => ∃ n, c.Arises n := by
  have hturn (c : Coordinator) (hc : ∃ n, c.Arises n) :
      c.turn.LeadsTo (fun c => ∃ n, c.Arises n) fun _ _ c => ∃ n, c.Arises n := by
    obtain ⟨n, hc⟩ := hc
    cases hturn : c.turn with
    | simulate next => exact ⟨n, hc.simulate hturn⟩
    | deliver id value next => exact ⟨n, hc.deliver hturn⟩
    | wait id next => exact ⟨n, hc.wait hturn⟩
  rw [Station.nextSample]
  split_ifs
  · exact h
  · exact Stable.arises.serve net hturn fuel (Stable.arises.poll net none h)

/-- **Whatever calls do, their operations do.** -/
theorem Visited.arises {N : Type} {net : Network N} {left : List ClientId} {s : Station N}
    (h : Visited net left s) : ∃ n, s.coordinator.Arises n := by
  induction h with
  | create settings network => exact ⟨0, .create settings⟩
  | setOrigin values _ ih =>
    obtain ⟨n, h⟩ := ih
    exact ⟨n, h.setOrigin values⟩
  | waitForClients count fuel _ ih => exact Stable.arises.waitForClients net count fuel ih
  | start p _ ih =>
    obtain ⟨n, h⟩ := ih
    exact Stable.arises.flushAll net _ ⟨n, h.start p⟩
  | @beginRun _ s p values _ ih =>
    obtain ⟨n, h⟩ := ih
    have hpin := h.setOrigin (s.coordinator.origin.getD values)
    rw [Station.beginRun]
    split_ifs
    · exact Stable.arises.flushAll net _ ⟨n, hpin.start p⟩
    · exact ⟨n, hpin.startLocal p⟩
  | simulate fuel _ hnext ih =>
    have hoffer := arises_nextSample net fuel ih
    rwa [hnext] at hoffer
  | deliver fuel _ hnext ih =>
    have hoffer := arises_nextSample net fuel ih
    rwa [hnext] at hoffer
  | @stop _ s _ ih =>
    obtain ⟨n, h⟩ := ih
    rw [Station.stop]
    cases s.coordinator.active with
    | none => exact ⟨n, h⟩
    | some p =>
      dsimp only
      split_ifs
      · exact ⟨n, h.stopLocal⟩
      · obtain ⟨n, hstop⟩ := Stable.arises.flushAll net
          (s := { s with coordinator := s.coordinator.stop })
          (s.coordinator.stop.live.map (·.id)) ⟨n, h.stop⟩
        exact ⟨n, hstop.forgetDead⟩

end SimCheck
