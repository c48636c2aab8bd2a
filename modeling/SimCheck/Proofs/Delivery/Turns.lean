import SimCheck.Proofs.Delivery.Sockets

/-!
# Turns and the books

Whatever the head of the schedule has to offer, the books are balanced afterwards.

* `returned id outputs` after one more output;
* `Balanced.consume`: an observation that is used moves from what is kept to what has been delivered;
* `Balanced.remove`: a worker of which nothing is kept can leave;
* `Joined.turn`: whole turns.
-/

namespace SimCheck

open Wire (WorkerMessage)
open History (stream decoded delivered deliveredInRun former)

variable {c : Coordinator} {id : ClientId} {active : Option PropertyId}
  {outputs : List (Producer × Bool)}

/-! ### Outputs -/

theorem returned_append_local (id : ClientId) (outputs : List (Producer × Bool)) (value : Bool) :
    returned id (outputs ++ [(.local, value)]) = returned id outputs := by
  simp [returned]

theorem returned_append_remote (id i : ClientId) (outputs : List (Producer × Bool)) (value : Bool) :
    returned id (outputs ++ [(.remote i, value)])
      = if i = id then returned id outputs ++ [value] else returned id outputs := by
  by_cases hi : i = id <;> simp [returned, hi]

/-- Observations of the coordinator's own are not counted. -/
theorem Balanced.simulated (h : Balanced outputs c) (value : Bool) :
    Balanced (outputs ++ [(.local, value)]) c where
  toOrderly := h.toOrderly
  account := h.account
  settled := h.settled
  formerly := h.formerly
  outputs id := (returned_append_local id outputs value).trans (h.outputs id)

/-! ### The schedule -/

/-- More producers do no harm. -/
theorem Balanced.reschedule (h : Balanced outputs c) {schedule : List Producer}
    (hschedule : ∀ x ∈ c.schedule, x ∈ schedule) : Balanced outputs { c with schedule } where
  toOrderly := { h with scheduled := fun q hq => hschedule _ (h.scheduled q hq) }
  account := h.account
  settled := h.settled
  formerly := h.formerly
  outputs := h.outputs

/-- A rotation changes the order of the producers only. -/
theorem rotate_eq (c : Coordinator) :
    ∃ schedule, c.rotate = { c with schedule } ∧ ∀ x ∈ c.schedule, x ∈ schedule := by
  rcases c with ⟨settings, peers, nextId, _ | ⟨x, xs⟩, active, origin, localOnly, history⟩
  · exact ⟨[], rfl, fun x hx => hx⟩
  · refine ⟨xs ++ [x], rfl, fun y hy => ?_⟩
    rcases List.mem_cons.1 hy with rfl | hy
    · exact List.mem_append_right _ (List.mem_singleton_self _)
    · exact List.mem_append_left _ hy

theorem Joined.rotate (h : Joined active outputs c) : Joined active outputs c.rotate := by
  obtain ⟨schedule, hrotate, hschedule⟩ := rotate_eq c
  rw [hrotate]
  exact { h.toBalanced.reschedule hschedule with active := h.active, localOnly := h.localOnly }

/-! ### Observations -/

/-- The worker whose first observation is used. -/
theorem Orderly.mem_peers_consume (h : Orderly c) {q q' : Peer} (hq : q ∈ c.peers) {value : Bool}
    (hq' : q' ∈ (c.consume q.id value).peers) :
    q' = { q with samples := q.samples.tail } ∨ (q' ∈ c.peers ∧ q'.id ≠ q.id) := by
  obtain ⟨r, hr, rfl⟩ := List.mem_map.1 hq'
  by_cases hid : r.id = q.id
  · left
    rw [h.eq_of_id_eq hr hq hid, if_pos rfl]
  · right
    rw [if_neg hid]
    exact ⟨hr, hid⟩

theorem ids_consume (c : Coordinator) (id : ClientId) (value : Bool) :
    (c.consume id value).peers.map (·.id) = c.peers.map (·.id) := by
  refine map_id_map (fun q => ?_) c.peers
  split_ifs <;> rfl

theorem Orderly.consume (h : Orderly c) {q : Peer} (hq : q ∈ c.peers) (value : Bool) :
    Orderly (c.consume q.id value) where
  distinct := (ids_consume c q.id value).symm ▸ h.distinct
  scheduled := by
    intro q' hq'
    rcases h.mem_peers_consume hq hq' with rfl | ⟨hq', -⟩
    exacts [h.scheduled q hq, h.scheduled q' hq']
  leftover := by
    intro q' hq' hlive
    rcases h.mem_peers_consume hq hq' with rfl | ⟨hq', -⟩
    exacts [h.leftover q hq hlive, h.leftover q' hq' hlive]
  connected := by
    intro q' hq'
    refine List.mem_cons_of_mem _ ?_
    rcases h.mem_peers_consume hq hq' with rfl | ⟨hq', -⟩
    exacts [h.connected q hq, h.connected q' hq']
  numbered := by
    intro id v hmem
    refine List.mem_cons_of_mem _ ?_
    rcases List.mem_cons.1 hmem with heq | hmem
    · obtain ⟨rfl, -⟩ := Happening.delivered.inj heq
      exact h.connected q hq
    · exact h.numbered id v hmem
  total := by
    intro id
    show deliveredInRun id (.delivered q.id value :: c.history)
      = ((former id c.history).map (delivered id)).flatten
        ++ delivered id (.delivered q.id value :: c.history)
    rw [deliveredInRun, delivered, h.total id]
    split_ifs
    · rw [List.append_assoc]
    · rfl

namespace Peer.Accounted

variable {h : List Happening} {q : Peer}

/-- Whoever else delivers an observation. -/
theorem delivered (hq : q.Accounted active h) {i : ClientId} (hi : i ≠ q.id) (value : Bool) :
    q.Accounted active (.delivered i value :: h) := by
  show History.delivered q.id (.delivered i value :: h) ++ q.samples = decoded active q.id h
  rw [History.delivered, if_neg hi]
  exact hq

/-- The value moves from the head of what is kept to the end of what has been delivered. -/
theorem consume (hq : q.Accounted active h) {value : Bool} {rest : List Bool}
    (hsamples : q.samples = value :: rest) :
    Peer.Accounted active (.delivered q.id value :: h) { q with samples := q.samples.tail } := by
  show History.delivered q.id (.delivered q.id value :: h) ++ q.samples.tail = decoded active q.id h
  rw [History.delivered, if_pos rfl, hsamples, List.tail_cons, List.append_assoc,
    List.singleton_append, ← hsamples]
  exact hq

end Peer.Accounted

/-- **An observation that is used moves from what is kept to what has been delivered.** -/
theorem Balanced.consume (h : Balanced outputs c) {q : Peer} (hq : q ∈ c.peers) {value : Bool}
    {rest : List Bool} (hsamples : q.samples = value :: rest) :
    Balanced (outputs ++ [(.remote q.id, value)]) (c.consume q.id value) where
  toOrderly := h.toOrderly.consume hq value
  account := by
    intro q' hq'
    rcases h.mem_peers_consume hq hq' with rfl | ⟨hq', hid⟩
    · exact Peer.Accounted.consume (h.account q hq) hsamples
    · exact Peer.Accounted.delivered (h.account q' hq') (Ne.symm hid) value
  settled := by
    intro id hid
    rw [ids_consume] at hid
    have hne : q.id ≠ id := by
      rintro rfl
      exact hid (List.mem_map_of_mem hq)
    show delivered id (.delivered q.id value :: c.history) = decoded c.active id c.history
    rw [delivered, if_neg hne]
    exact h.settled id hid
  formerly := h.formerly
  outputs := by
    intro id
    show _ = deliveredInRun id (.delivered q.id value :: c.history)
    rw [returned_append_remote, deliveredInRun, h.outputs]

theorem Joined.consume (h : Joined active outputs c) {q : Peer} (hq : q ∈ c.peers) {value : Bool}
    {rest : List Bool} (hsamples : q.samples = value :: rest) :
    Joined active (outputs ++ [(.remote q.id, value)]) (c.consume q.id value) where
  toBalanced := h.toBalanced.consume hq hsamples
  active := h.active
  localOnly := h.localOnly

/-! ### Workers that leave -/

theorem Orderly.remove (h : Orderly c) (id : ClientId) : Orderly (c.remove id) where
  distinct := h.distinct.sublist (List.filter_sublist.map _)
  scheduled := by
    intro q hq
    obtain ⟨hq, hid⟩ := List.mem_filter.1 hq
    refine List.mem_filter.2 ⟨h.scheduled q hq, ?_⟩
    simpa using hid
  leftover := fun q hq => h.leftover q (List.mem_filter.1 hq).1
  connected := fun q hq => h.connected q (List.mem_filter.1 hq).1
  numbered := h.numbered
  total := h.total

/-- **A worker of which nothing is kept can leave.** -/
theorem Balanced.remove (h : Balanced outputs c)
    (hempty : ∀ q ∈ c.peers, q.id = id → q.samples = []) : Balanced outputs (c.remove id) where
  toOrderly := h.toOrderly.remove id
  account := fun q hq => h.account q (List.mem_filter.1 hq).1
  settled := by
    intro i hi
    by_cases hmem : i ∈ c.peers.map (·.id)
    · obtain ⟨q, hq, rfl⟩ := List.mem_map.1 hmem
      have hid : q.id = id := by
        by_contra hid
        exact hi (List.mem_map_of_mem (List.mem_filter.2 ⟨hq, by simpa using hid⟩))
      have haccount := h.account q hq
      rwa [hempty q hq hid, List.append_nil] at haccount
    · exact h.settled i hmem
  formerly := h.formerly
  outputs := h.outputs

/-- To drop a worker at the head of the schedule is to forget it. -/
theorem dropHead_eq_remove {ps : List Producer} (hschedule : c.schedule = .remote id :: ps) :
    c.dropHead id = c.remove id := by
  unfold Coordinator.dropHead Coordinator.remove
  simp [hschedule]

theorem Joined.dropHead (h : Joined active outputs c) {ps : List Producer}
    (hschedule : c.schedule = .remote id :: ps)
    (hempty : ∀ q ∈ c.peers, q.id = id → q.samples = []) : Joined active outputs (c.dropHead id) := by
  rw [dropHead_eq_remove hschedule]
  exact { h.toBalanced.remove hempty with active := h.active, localOnly := h.localOnly }

/-! ### Whole turns -/

/-- What a turn leads to. -/
def Joined.After (active : Option PropertyId) (outputs : List (Producer × Bool)) : Turn → Prop
  | .simulate next => Joined active outputs next
  | .deliver id value next => Joined active (outputs ++ [(.remote id, value)]) next
  | .wait _ next => Joined active outputs next

theorem mem_of_peer?_eq_some {q : Peer} (hq : c.peer? id = some q) : q ∈ c.peers ∧ q.id = id :=
  ⟨List.mem_of_find?_eq_some hq, by simpa using List.find?_some hq⟩

theorem Orderly.eq_of_peer? (h : Orderly c) {q q' : Peer} (hq : c.peer? id = some q)
    (hq' : q' ∈ c.peers) (hid : q'.id = id) : q' = q :=
  h.eq_of_id_eq hq' (mem_of_peer?_eq_some hq).1 (hid.trans (mem_of_peer?_eq_some hq).2.symm)

/-- **A turn keeps the books balanced.** -/
theorem Joined.turn (h : Joined active outputs c) : Joined.After active outputs c.turn := by
  -- Workers that are gone are dropped on the way, so the induction is on the schedule.
  fun_induction Coordinator.turn c with
  | case1 c hschedule => exact h
  | case2 c ps hschedule => exact h.rotate
  | case3 c id ps hschedule hpeer ih =>
    refine ih (h.dropHead hschedule fun q hq hid => ?_)
    have hnone := List.find?_eq_none.1 hpeer q hq
    simp [hid] at hnone
  | case4 c id ps hschedule q hpeer value rest hsamples =>
    obtain ⟨hq, rfl⟩ := mem_of_peer?_eq_some hpeer
    exact (h.consume hq hsamples).rotate
  | case5 c id ps hschedule q hpeer hsamples hdead ih =>
    refine ih (h.dropHead hschedule fun q' hq' hid => ?_)
    rw [h.eq_of_peer? hpeer hq' hid, hsamples]
  | case6 c id ps hschedule q hpeer hsamples hdead => exact h

end SimCheck
