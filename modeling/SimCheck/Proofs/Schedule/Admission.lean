import SimCheck.Proofs.Schedule.Roster

/-!
# Who is admitted

A coordinator has as many places for workers as its settings say.  A worker whose connection has ended
keeps its place until it is forgotten: when its turn comes and nothing of it is left, or when a run ends
that workers take part in.  A connection is turned away while every place is taken, even if by workers
that are gone.

* `Roster.Full`: every place is taken;
* `Roster.Reached.length_ids_le`: no more places are taken than there are;
* `Coordinator.clientCount_add_deadIds`: those who take a place are the live workers and the dead ones
  that are kept;
* `Station.Retains`: calls during which nobody is forgotten, and `Retains.full`: after these every place
  is still taken;
* `Station.deadIds_stop`: at the end of a run that workers take part in nobody dead is kept;
* `Station.admitted_iff_place_left`: a connection is admitted exactly if a place is left;
* `Vacancy.turned_away`: a connection is turned away although no worker is alive.
-/

namespace SimCheck

open Traced (deadIds)

/-! ### Places -/

namespace Roster

variable {n : ℕ} {r : Roster}

/-- Every place is taken. -/
def Full (r : Roster) : Prop := r.settings.maxClients ≤ r.ids.length

/-- **No more places are taken than there are.**  It is so even when numbers are given twice. -/
theorem Reached.length_ids_le (h : Reached n r) : r.ids.length ≤ r.settings.maxClients := by
  induction h with
  | create settings => exact Nat.zero_le _
  | @enrol n r _ hroom _ =>
    have hothers : (r.ids.filter (· ≠ r.nextId)).length ≤ r.ids.length := List.length_filter_le _ _
    show (r.ids.filter (· ≠ r.nextId) ++ [r.nextId]).length ≤ r.settings.maxClients
    rw [List.length_append, List.length_singleton]
    omega
  | skip _ ih => exact ih
  | remove _ id ih => exact Nat.le_trans (List.length_filter_le _ _) ih
  | @rotate n r _ ih =>
    cases hschedule : r.schedule with
    | nil => rwa [rotate_of_eq_nil hschedule]
    | cons x xs => rwa [rotate_of_eq_cons hschedule]

end Roster

namespace Coordinator

variable {c : Coordinator}

theorem isFull_iff_full : c.isFull = true ↔ c.roster.Full := by
  simp [isFull, roster, Roster.Full]

/-- Those who take a place are the live workers and the dead ones that are kept. -/
theorem clientCount_add_deadIds (c : Coordinator) :
    c.clientCount + (deadIds c).length = c.roster.ids.length := by
  have hsplit := List.length_eq_length_filter_add (l := c.peers) (fun q => q.dead)
  simp only [clientCount, live, deadIds, roster, List.length_map]
  omega

theorem full_iff : c.roster.Full ↔ c.settings.maxClients ≤ c.clientCount + (deadIds c).length := by
  rw [clientCount_add_deadIds]
  rfl

end Coordinator

/-- Sockets do not make anybody be forgotten. -/
theorem Stable.full : Stable fun c => c.roster.Full where
  register hroom h := by
    have hfull := Coordinator.isFull_iff_full.2 h
    rw [hroom] at hfull
    cases hfull
  skipNumber h := h
  receive id bytes ended h := by rwa [Coordinator.roster_receive]
  flushed id count h := by rwa [Coordinator.roster_flushed]
  markDead id h := by rwa [Coordinator.roster_markDead]

/-! ### Forgetting -/

namespace Coordinator

theorem peers_foldl_remove (ids : List ClientId) (c : Coordinator) :
    (ids.foldl remove c).peers = c.peers.filter fun q => q.id ∉ ids := by
  induction ids generalizing c with
  | nil => simp
  | cons id ids ih =>
    rw [List.foldl_cons, ih, remove, List.filter_filter]
    refine List.filter_congr fun q _ => ?_
    rw [Bool.eq_iff_iff]
    simp [and_comm]

/-- Nobody dead is kept. -/
theorem deadIds_forgetDead (c : Coordinator) : deadIds c.forgetDead = [] := by
  rw [deadIds, List.map_eq_nil_iff, List.filter_eq_nil_iff, forgetDead, peers_foldl_remove]
  intro q' hq' hdead
  obtain ⟨hmem, hkept⟩ := List.mem_filter.1 hq'
  obtain ⟨q, hq, rfl⟩ := List.mem_map.1 hmem
  exact of_decide_eq_true hkept (List.mem_map.2 ⟨q, List.mem_filter.2 ⟨hq, hdead⟩, rfl⟩)

end Coordinator

namespace Station

variable {N : Type} {net : Network N} {s t : Station N}

/-- **At the end of a run that workers take part in nobody dead is kept.** -/
theorem deadIds_stop {p : PropertyId} (hactive : s.coordinator.active = some p)
    (hlocal : s.coordinator.localOnly = false) : deadIds (s.stop net).coordinator = [] := by
  rw [Station.stop, hactive]
  dsimp only
  rw [if_neg (ne_true_of_eq_false hlocal)]
  exact Coordinator.deadIds_forgetDead _

/-- Calls during which nobody is forgotten: they give no observation of a run that workers take part in,
and do not end such a run. -/
inductive Retains (net : Network N) (s : Station N) : Station N → Prop
  | refl : Retains net s s
  | setOrigin {t : Station N} (values : Valuation) (h : Retains net s t) :
      Retains net s { t with coordinator := t.coordinator.setOrigin values }
  | waitForClients {t : Station N} (count fuel : ℕ) (h : Retains net s t) :
      Retains net s (t.waitForClients net count fuel)
  | start {t : Station N} (p : PropertyId) (h : Retains net s t) : Retains net s (t.start net p)
  | beginRun {t : Station N} (p : PropertyId) (values : Valuation) (h : Retains net s t) :
      Retains net s (t.beginRun net p values)
  | stop {t : Station N} (h : Retains net s t)
      (hnone : t.coordinator.active = none ∨ t.coordinator.localOnly = true) :
      Retains net s (t.stop net)

/-- **When every place is taken, it stays so until somebody is forgotten.** -/
theorem Retains.full (h : Retains net s t) (hfull : s.coordinator.roster.Full) :
    t.coordinator.roster.Full := by
  induction h with
  | refl => exact hfull
  | setOrigin values _ ih => exact ih
  | waitForClients count fuel _ ih => exact Stable.full.waitForClients net count fuel ih
  | @start t p _ ih =>
    refine Stable.full.flushAll net _ ?_
    rwa [Coordinator.roster_start]
  | @beginRun t p values _ ih =>
    rw [Station.beginRun]
    split_ifs
    · refine Stable.full.flushAll net _ ?_
      rwa [Coordinator.roster_start]
    · exact ih
  | @stop t _ hnone ih =>
    rw [Station.stop]
    cases hactive : t.coordinator.active with
    | none => exact ih
    | some p =>
      have hlocal : t.coordinator.localOnly = true := by
        rcases hnone with hnone | hlocal
        · cases hnone.symm.trans hactive
        · exact hlocal
      dsimp only
      rw [if_pos hlocal]
      exact ih

/-! ### Connections -/

/-- What a socket takes, or that it takes nothing more, does not change who takes part. -/
theorem roster_flush (id : ClientId) : (s.flush net id).coordinator.roster = s.coordinator.roster := by
  unfold Station.flush
  split
  · rfl
  · split
    · rfl
    · split <;> simp

theorem handle_connection_of_full (hfull : s.coordinator.roster.Full) (watched : Bool) :
    s.handle net (.connection watched) = s := by
  rw [handle, if_pos (Coordinator.isFull_iff_full.2 hfull)]

theorem roster_handle_connection (hroom : ¬s.coordinator.roster.Full) :
    (s.handle net (.connection true)).coordinator.roster = s.coordinator.roster.enrol := by
  rw [handle, if_neg (mt Coordinator.isFull_iff_full.1 hroom), if_pos rfl, roster_flush,
    Coordinator.roster_register]

/-- **A connection is admitted exactly if a place is left.**  In whatever order calls are made and sockets
do something: the live workers and the dead ones that are kept are never more than the settings allow.
While they are fewer, a connection is admitted: the worker is known under the next number and scheduled
last.  When they are as many, every connection is turned away and changes nothing, and that remains so,
whoever dies, until somebody is forgotten.  At the end of a run that workers take part in nobody dead is
kept. -/
theorem admitted_iff_place_left (net : Network N) {n : ℕ} (h : s.coordinator.Arises n) :
    s.coordinator.clientCount + (deadIds s.coordinator).length ≤ s.coordinator.settings.maxClients ∧
    (s.coordinator.clientCount + (deadIds s.coordinator).length < s.coordinator.settings.maxClients →
      (s.handle net (.connection true)).coordinator.roster = s.coordinator.roster.enrol) ∧
    (s.coordinator.clientCount + (deadIds s.coordinator).length = s.coordinator.settings.maxClients →
      ∀ t, Retains net s t → ∀ watched, t.handle net (.connection watched) = t) ∧
    (∀ p, s.coordinator.active = some p → s.coordinator.localOnly = false →
      deadIds (s.stop net).coordinator = []) := by
  refine ⟨?bound, fun hroom => ?admitted, fun hall t ht watched => ?rejected, fun p => deadIds_stop⟩
  case bound =>
    rw [Coordinator.clientCount_add_deadIds]
    exact h.reached.length_ids_le
  case admitted => exact roster_handle_connection (mt Coordinator.full_iff.1 (Nat.not_le_of_lt hroom))
  case rejected =>
    have hfull := Coordinator.full_iff.2 (Nat.le_of_eq hall.symm)
    exact handle_connection_of_full (ht.full hfull) watched

end Station

/-! ### A place that nobody takes -/

namespace Vacancy

open Straggler (network)

/-- There is one place.  A worker connects and hangs up. -/
def station : Station (List (List Readiness)) :=
  ⟨.create ⟨"127.0.0.1:0", true, 1000, 1, 64⟩, [[.connection true], [.input ⟨0⟩ [] true]]⟩

/-- The worker is waited for, and a run begins. -/
def begun : Station (List (List Readiness)) := (station.waitForClients network 1 1).start network ⟨1⟩

theorem visited_begun : ∃ left, Visited network left begun :=
  ⟨_, .start ⟨1⟩ (.waitForClients 1 1 (.create _ _))⟩

/-- The only worker that is known has hung up, in a run that workers take part in. -/
def Vacated (c : Coordinator) : Prop :=
  c.clientCount = 0 ∧ deadIds c = [⟨0⟩] ∧ c.settings.maxClients = 1 ∧ c.active = some ⟨1⟩ ∧
    c.localOnly = false

instance (c : Coordinator) : Decidable (Vacated c) := inferInstanceAs (Decidable (_ ∧ _))

/-- The worker that has hung up takes up the only place. -/
theorem Vacated.taken {c : Coordinator} (h : Vacated c) :
    c.clientCount + (deadIds c).length = c.settings.maxClients := by
  obtain ⟨hcount, hdead, hmax, -⟩ := h
  rw [hcount, hdead, hmax]
  rfl

/-- Whether a path is simulated when the worker has hung up. -/
def isVacated : Offer (List (List Readiness)) → Bool
  | .simulate next => decide (Vacated next.coordinator)
  | _ => false

theorem exists_vacated : ∃ next, begun.nextSample network 1 = .simulate next ∧
    Vacated next.coordinator := by
  have hvacated : isVacated (begun.nextSample network 1) = true := by decide +kernel
  cases hoffer : begun.nextSample network 1 with
  | simulate next =>
    rw [hoffer, isVacated] at hvacated
    exact ⟨next, rfl, of_decide_eq_true hvacated⟩
  | deliver id value next => simp [hoffer, isVacated] at hvacated
  | stalled => simp [hoffer, isVacated] at hvacated

/-- The first worker is admitted.  When it has hung up, it keeps its place until the run ends. -/
theorem admitted_iff_place_left_vacated :
    (station.handle network (.connection true)).coordinator.roster
        = station.coordinator.roster.enrol ∧
      ∃ next, begun.nextSample network 1 = .simulate next ∧ Vacated next.coordinator ∧
        (∀ t, Station.Retains network next t → ∀ watched,
          t.handle network (.connection watched) = t) ∧
        deadIds (next.stop network).coordinator = [] := by
  have hfirst : station.coordinator.Arises 0 := .create _
  obtain ⟨-, hadmitted, -⟩ := Station.admitted_iff_place_left network hfirst
  obtain ⟨left, hbegun⟩ := visited_begun
  obtain ⟨next, hnext, hvacated⟩ := exists_vacated
  have hvisited : Visited network left next := .simulate 1 hbegun hnext
  obtain ⟨n, harises⟩ := hvisited.arises
  obtain ⟨-, -, hrejected, hended⟩ := Station.admitted_iff_place_left network harises
  have ⟨_, _, _, hactive, hlocal⟩ := hvacated
  exact ⟨hadmitted (by decide), next, hnext, hvacated, hrejected hvacated.taken,
    hended _ hactive hlocal⟩

/-- **A connection is turned away although no worker is alive.** -/
theorem turned_away : ∃ left, ∃ s : Station (List (List Readiness)),
    Visited network left s ∧ s.coordinator.clientCount < s.coordinator.settings.maxClients ∧
      s.handle network (.connection true) = s := by
  obtain ⟨left, hbegun⟩ := visited_begun
  obtain ⟨next, hnext, hvacated⟩ := exists_vacated
  have hfull := Coordinator.full_iff.2 (Nat.le_of_eq hvacated.taken.symm)
  have hnobody : next.coordinator.clientCount < next.coordinator.settings.maxClients := by
    rw [hvacated.1, hvacated.2.2.1]
    exact Nat.one_pos
  exact ⟨left, next, .simulate 1 hbegun hnext, hnobody,
    Station.handle_connection_of_full hfull true⟩

end Vacancy

end SimCheck
