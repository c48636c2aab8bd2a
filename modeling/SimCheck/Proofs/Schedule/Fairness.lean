import SimCheck.Proofs.Schedule.Roster

/-!
# Every producer has its turn

Between two observations of one producer, every other producer that is scheduled all the time gives
exactly one.  Workers may come and go meanwhile: they come in at the end of the schedule, and those that
go leave the others in their order.

* `Roster.Steady P`: `P` stays true of a roster whatever happens between two turns;
* `Roster.TakeTurns x y os`: since an observation of `x` there have been the observations `os`, and `y`
  has given one of them exactly if it comes after `x` in the schedule;
* `Roster.Fair.enrol`, `remove`, `rotate`: whatever happens, it stays so;
* `Station.Observes`, `Station.Samples`: an observation, and calls that neither begin nor end a run;
* `Station.inOrder_and_served_in_turn`: the roster is in order, and everybody has a turn.
-/

namespace SimCheck

open Wire (Bytes)

namespace Roster

/-- What stays true of a roster whatever happens between two turns. -/
structure Steady (P : Roster → Prop) : Prop where
  enrol {r : Roster} : r.ids.length < r.settings.maxClients → P r → P r.enrol
  skip {r : Roster} : P r → P r.skip
  remove {r : Roster} (id : ClientId) : P r → P (r.remove id)

/-- A producer that is not still to come: the number of a worker has been given. -/
def Knows (r : Roster) (x : Producer) : Prop := ∀ id, x = .remote id → id ∈ r.admitted

variable {r : Roster} {x y z : Producer} {os : List Producer}

/-! ### Turns of two producers -/

/-- Since an observation of `x` there have been the observations `os`.  If both producers are scheduled,
`y` has given one of these exactly if it comes after `x`. -/
def TakeTurns (x y : Producer) (os schedule : List Producer) : Prop :=
  (os.count y = 0 ∧ [y, x].Sublist schedule) ∨ (os.count y = 1 ∧ [x, y].Sublist schedule) ∨
    x ∉ schedule ∨ y ∉ schedule

/-- A producer at the head of a list comes before the others only. -/
theorem sublist_of_sublist_cons {xs : List Producer} (hy : y ≠ z)
    (h : [y, x].Sublist (z :: xs)) : [y, x].Sublist xs := by
  rcases List.cons_sublist_cons'.1 h with h | ⟨heq, -⟩
  exacts [h, absurd heq hy]

namespace TakeTurns

variable {schedule : List Producer}

theorem append (h : TakeTurns x y os schedule) (hx : x ≠ z) (hy : y ≠ z) :
    TakeTurns x y os (schedule ++ [z]) := by
  rcases h with ⟨hcount, hbefore⟩ | ⟨hcount, hafter⟩ | hgone | hgone
  · exact .inl ⟨hcount, hbefore.trans (List.sublist_append_left _ _)⟩
  · exact .inr (.inl ⟨hcount, hafter.trans (List.sublist_append_left _ _)⟩)
  · exact .inr (.inr (.inl (by simp [hgone, hx])))
  · exact .inr (.inr (.inr (by simp [hgone, hy])))

theorem filter (h : TakeTurns x y os schedule) (p : Producer → Bool) :
    TakeTurns x y os (schedule.filter p) := by
  by_cases hx : p x
  swap
  · exact .inr (.inr (.inl (by simp [hx])))
  by_cases hy : p y
  swap
  · exact .inr (.inr (.inr (by simp [hy])))
  rcases h with ⟨hcount, hbefore⟩ | ⟨hcount, hafter⟩ | hgone | hgone
  · exact .inl ⟨hcount, by simpa [hx, hy] using hbefore.filter p⟩
  · exact .inr (.inl ⟨hcount, by simpa [hx, hy] using hafter.filter p⟩)
  · exact .inr (.inr (.inl (by simp [hgone])))
  · exact .inr (.inr (.inr (by simp [hgone])))

/-- A turn of another producer than `x`. -/
theorem rotate (h : TakeTurns x y os (z :: schedule)) (hnodup : (z :: schedule).Nodup) (hx : x ≠ z) :
    TakeTurns x y (z :: os) (schedule ++ [z]) := by
  have hmem : x ∉ z :: schedule → x ∉ schedule ++ [z] := by simp [and_comm]
  by_cases hy : y = z
  · -- From now on `y` comes after `x`.
    subst hy
    rcases h with ⟨hcount, hbefore⟩ | ⟨-, hafter⟩ | hgone | hgone
    · have hxs : x ∈ schedule :=
        List.singleton_sublist.1 (List.cons_sublist_cons.1 hbefore)
      have happend := (List.singleton_sublist.2 hxs).append (List.Sublist.refl [y])
      exact .inr (.inl ⟨by rw [List.count_cons_self, hcount], happend⟩)
    · have hys : y ∈ schedule :=
        (sublist_of_sublist_cons hx hafter).subset (List.mem_cons_of_mem _ List.mem_cons_self)
      exact absurd hys (List.nodup_cons.1 hnodup).1
    · exact .inr (.inr (.inl (hmem hgone)))
    · exact absurd List.mem_cons_self hgone
  · have hcount_eq : (z :: os).count y = os.count y := List.count_cons_of_ne (Ne.symm hy)
    rcases h with ⟨hcount, hbefore⟩ | ⟨hcount, hafter⟩ | hgone | hgone
    · have hrest := sublist_of_sublist_cons hy hbefore
      exact .inl ⟨hcount_eq.trans hcount, hrest.trans (List.sublist_append_left _ _)⟩
    · have hrest := sublist_of_sublist_cons hx hafter
      exact .inr (.inl ⟨hcount_eq.trans hcount, hrest.trans (List.sublist_append_left _ _)⟩)
    · exact .inr (.inr (.inl (hmem hgone)))
    · exact .inr (.inr (.inr fun hmem => hgone (by simpa [or_comm] using hmem)))

/-- When `x` has given an observation, all others come before it. -/
theorem start (hy : y ∈ schedule) : TakeTurns x y [] (schedule ++ [x]) :=
  .inl ⟨List.count_nil, (List.singleton_sublist.2 hy).append (List.Sublist.refl [x])⟩

/-- **When it is the turn of `x` again, `y` has given one observation.** -/
theorem count_eq_one (h : TakeTurns x y os (x :: schedule)) (hnodup : (x :: schedule).Nodup)
    (hy : y ∈ schedule) : os.count y = 1 := by
  obtain ⟨hxs, -⟩ := List.nodup_cons.1 hnodup
  have hne : y ≠ x := fun heq => hxs (heq ▸ hy)
  rcases h with ⟨-, hbefore⟩ | ⟨hcount, -⟩ | hgone | hgone
  · exact absurd ((sublist_of_sublist_cons hne hbefore).subset
      (List.mem_cons_of_mem _ List.mem_cons_self)) hxs
  · exact hcount
  · exact absurd List.mem_cons_self hgone
  · exact absurd (List.mem_cons_of_mem _ hy) hgone

end TakeTurns

/-! ### Rosters in which producers take turns -/

theorem Sound.nodup_schedule (h : Sound r) : r.schedule.Nodup := by
  rw [List.nodup_iff_count_le_one]
  rintro (_ | id)
  · rw [h.own]
    split_ifs <;> decide
  · rw [h.workers]
    split_ifs <;> decide

theorem Sound.knows (h : Sound r) (hx : x ∈ r.schedule) : r.Knows x := by
  rintro id rfl
  have hpos := List.count_pos_iff.2 hx
  rw [h.workers] at hpos
  by_contra hid
  rw [if_neg fun hmem => hid (h.admitted id hmem)] at hpos
  exact Nat.lt_irrefl 0 hpos

theorem Knows.ne_nextId (h : r.Knows x) (hnew : r.nextId ∉ r.admitted) : x ≠ .remote r.nextId :=
  fun hx => hnew (h _ hx)

/-- Two producers take turns in a roster. -/
structure Fair (x y : Producer) (os : List Producer) (r : Roster) : Prop extends Sound r where
  knows_left : r.Knows x
  knows_right : r.Knows y
  turns : TakeTurns x y os r.schedule

/-- A worker that comes in is another one. -/
theorem Fair.enrol (h : Fair x y os r) (hroom : r.ids.length < r.settings.maxClients)
    (hnew : r.nextId ∉ r.admitted) : Fair x y os r.enrol where
  toSound := h.toSound.enrol hroom hnew
  knows_left id hid := List.mem_cons_of_mem _ (h.knows_left id hid)
  knows_right id hid := List.mem_cons_of_mem _ (h.knows_right id hid)
  turns := h.turns.append (h.knows_left.ne_nextId hnew) (h.knows_right.ne_nextId hnew)

theorem Fair.remove (h : Fair x y os r) (id : ClientId) : Fair x y os (r.remove id) where
  toSound := h.toSound.remove id
  knows_left := h.knows_left
  knows_right := h.knows_right
  turns := h.turns.filter _

/-- Whoever has its turn comes last afterwards. -/
theorem Fair.rotate (h : Fair x y os r) (hx : x ≠ r.head) : Fair x y (r.head :: os) r.rotate := by
  have hsound := h.toSound.rotate
  have hturns := h.turns
  have hnodup := h.nodup_schedule
  cases hschedule : r.schedule with
  | nil =>
    rw [rotate_of_eq_nil hschedule] at hsound ⊢
    exact { h with turns := .inr (.inr (.inl (hschedule ▸ List.not_mem_nil))) }
  | cons z zs =>
    obtain rfl : r.head = z := head_of_eq_cons hschedule
    rw [hschedule] at hturns hnodup
    rw [rotate_of_eq_cons hschedule] at hsound ⊢
    exact
      { hsound with
        knows_left := h.knows_left
        knows_right := h.knows_right
        turns := hturns.rotate hnodup hx }

/-- After an observation of `x` everybody else comes before it. -/
theorem Sound.fair (h : Sound r) (hx : r.head = x) (hy : y ∈ r.rotate.schedule) (hne : y ≠ x) :
    Fair x y [] r.rotate := by
  have hsound := h.rotate
  cases hschedule : r.schedule with
  | nil =>
    rw [rotate_of_eq_nil hschedule, hschedule] at hy
    cases hy
  | cons z zs =>
    obtain rfl : z = x := (head_of_eq_cons hschedule).symm.trans hx
    have hlast : z ∈ r.rotate.schedule := by
      rw [rotate_of_eq_cons hschedule]
      exact List.mem_append_right _ List.mem_cons_self
    refine { hsound with knows_left := hsound.knows hlast, knows_right := hsound.knows hy, turns := ?_ }
    rw [rotate_of_eq_cons hschedule] at hy ⊢
    rcases List.mem_append.1 hy with hy | hy
    · exact .start hy
    · exact absurd (List.mem_singleton.1 hy) hne

/-- **When it is the turn of `x` again, everybody else has given one observation.** -/
theorem Fair.count_eq_one (h : Fair x y os r) (hx : r.head = x) (hy : y ∈ r.rotate.schedule)
    (hne : y ≠ x) : os.count y = 1 := by
  have hturns := h.turns
  have hnodup := h.nodup_schedule
  cases hschedule : r.schedule with
  | nil =>
    rw [rotate_of_eq_nil hschedule, hschedule] at hy
    cases hy
  | cons z zs =>
    obtain rfl : z = x := (head_of_eq_cons hschedule).symm.trans hx
    rw [hschedule] at hturns hnodup
    rw [rotate_of_eq_cons hschedule] at hy
    rcases List.mem_append.1 hy with hy | hy
    · exact hturns.count_eq_one hnodup hy
    · exact absurd (List.mem_singleton.1 hy) hne

/-! ### Until numbers are given twice -/

theorem Steady.of_sound {P : Roster → Prop}
    (henrol : ∀ {r : Roster}, r.ids.length < r.settings.maxClients → r.nextId ∉ r.admitted → P r →
      P r.enrol)
    (hskip : ∀ {r : Roster}, P r → P r.skip) (hremove : ∀ {r : Roster} (id : ClientId), P r → P (r.remove id)) :
    Steady fun r => r.admitted.Nodup → P r where
  enrol hroom h hnodup := by
    obtain ⟨hnew, hnodup⟩ := List.nodup_cons.1 hnodup
    exact henrol hroom hnew (h hnodup)
  skip h hnodup := hskip (h hnodup)
  remove id h hnodup := hremove id (h hnodup)

theorem Sound.steady : Steady fun r => r.admitted.Nodup → Sound r :=
  .of_sound (fun hroom hnew h => h.enrol hroom hnew) (fun h => { h with }) fun id h => h.remove id

theorem Fair.steady (x y : Producer) (os : List Producer) :
    Steady fun r => r.admitted.Nodup → Fair x y os r :=
  .of_sound (fun hroom hnew h => h.enrol hroom hnew) (fun h => { h with }) fun id h => h.remove id

end Roster

@[simp] theorem Coordinator.localOnly_rotate (c : Coordinator) : c.rotate.localOnly = c.localOnly := by
  unfold Coordinator.rotate
  cases c.schedule <;> rfl

/-- Sockets admit workers and skip numbers. -/
theorem Stable.roster {P : Roster → Prop} (hP : Roster.Steady P) :
    Stable fun c => P c.roster where
  register hroom h := by
    rw [Coordinator.roster_register]
    exact hP.enrol (Coordinator.length_ids_lt hroom) h
  skipNumber h := hP.skip h
  receive id bytes ended h := by rwa [Coordinator.roster_receive]
  flushed id count h := by rwa [Coordinator.roster_flushed]
  markDead id h := by rwa [Coordinator.roster_markDead]

/-! ### Stations -/

namespace Station

variable {N : Type} {net : Network N} {s s₀ s₁ s₂ t : Station N} {x y : Producer} {os : List Producer}

/-- The next observation is one of the producer. -/
inductive Observes (net : Network N) : Station N → Producer → Station N → Prop
  | simulate {s t : Station N} (fuel : ℕ) (h : s.nextSample net fuel = .simulate t) :
      Observes net s .local t
  | deliver {s t : Station N} (fuel : ℕ) {id : ClientId} {value : Bool}
      (h : s.nextSample net fuel = .deliver id value t) : Observes net s (.remote id) t

/-- Calls that neither begin nor end a run, and who gave the observations, the latest first. -/
inductive Samples (net : Network N) : Station N → List Producer → Station N → Prop
  | refl (s : Station N) : Samples net s [] s
  | setOrigin {s t : Station N} {os : List Producer} (h : Samples net s os t) (values : Valuation) :
      Samples net s os { t with coordinator := t.coordinator.setOrigin values }
  | waitForClients {s t : Station N} {os : List Producer} (h : Samples net s os t) (count fuel : ℕ) :
      Samples net s os (t.waitForClients net count fuel)
  | observe {s t u : Station N} {os : List Producer} {x : Producer} (h : Samples net s os t)
      (hx : Observes net t x u) : Samples net s (x :: os) u

/-- In a run that involves workers an observation is a turn, before which workers that are gone have
been removed. -/
theorem Observes.exists_turn {P : Coordinator → Prop} (hP : Stable P)
    (hremove : ∀ {c : Coordinator} (id : ClientId), P c → P (c.remove id)) (h : Observes net s x t)
    (hs : P s.coordinator) (hlocal : s.coordinator.localOnly = false) :
    ∃ c, P c ∧ c.roster.head = x ∧ t.coordinator.roster = c.roster.rotate ∧
      t.coordinator.localOnly = c.localOnly := by
  have hserve (fuel : ℕ) := hP.exists_turn net
    (fun hc hwait => by
      have hcases := Coordinator.turn_cases hremove hc
      rwa [hwait] at hcases) fuel (hP.poll net none hs)
  cases h with
  | simulate fuel h | deliver fuel h =>
    have hlast := hserve fuel
    rw [nextSample, if_neg (ne_true_of_eq_false hlocal)] at h
    rw [h] at hlast
    obtain ⟨c, hc, hturn⟩ := hlast
    have hcases := Coordinator.turn_cases hremove hc
    rw [hturn] at hcases
    obtain ⟨c', hc', hhead, hnext⟩ := hcases
    refine ⟨c', hc', hhead, ?_⟩
    rw [hnext]
    exact ⟨by simp, Coordinator.localOnly_rotate _⟩

theorem Observes.exists_rotate {P : Roster → Prop} (hP : Roster.Steady P) (h : Observes net s x t)
    (hs : P s.coordinator.roster) (hlocal : s.coordinator.localOnly = false) :
    (∃ r, P r ∧ r.head = x ∧ t.coordinator.roster = r.rotate) ∧ t.coordinator.localOnly = false := by
  obtain ⟨c, ⟨hc, -, hlocalOnly⟩, hhead, hroster, hsame⟩ := h.exists_turn
    ((Stable.roster hP).and (Stable.run s.coordinator.active false))
    (fun {c} id hc => ⟨by rw [Coordinator.roster_remove]; exact hP.remove id hc.1, hc.2⟩)
    ⟨hs, rfl, hlocal⟩ hlocal
  exact ⟨⟨c.roster, hc, hhead, hroster⟩, hsame.trans hlocalOnly⟩

/-- **Producers take turns as long as `x` has none.** -/
theorem Samples.fair (h : Samples net s os t) (hx : x ∉ os) (hlocal : s.coordinator.localOnly = false)
    (hs : s.coordinator.roster.admitted.Nodup → s.coordinator.roster.Fair x y []) :
    (t.coordinator.roster.admitted.Nodup → t.coordinator.roster.Fair x y os) ∧
      t.coordinator.localOnly = false := by
  induction h with
  | refl => exact ⟨hs, hlocal⟩
  | setOrigin _ values ih => exact ih hx
  | @waitForClients t os _ count fuel ih =>
    obtain ⟨hfair, hlocal⟩ := ih hx
    obtain ⟨hfair, -, hlocal⟩ := ((Stable.roster (Roster.Fair.steady x y os)).and
      (Stable.run t.coordinator.active false)).waitForClients net count fuel ⟨hfair, rfl, hlocal⟩
    exact ⟨hfair, hlocal⟩
  | @observe t u os z _ hz ih =>
    obtain ⟨hne, hx⟩ := not_or.1 (List.mem_cons.not.1 hx)
    obtain ⟨hfair, hlocal⟩ := ih hx
    obtain ⟨⟨r, hr, rfl, hrotate⟩, hlocal⟩ := hz.exists_rotate (Roster.Fair.steady x y os) hfair hlocal
    rw [hrotate]
    exact ⟨fun hnodup => (hr (Roster.admitted_rotate r ▸ hnodup)).rotate hne, hlocal⟩

/-- **The schedule is in order and everybody has a turn.**  In whatever order calls are made and sockets
do something, as long as at most `UInt32.size` numbers have been given, each worker that is known is
scheduled once, the coordinator itself as its settings say, and nobody else; there are no more workers
than the settings allow.  In a run that involves workers, between two observations of `x`, every other
producer that stays scheduled gives exactly one. -/
theorem inOrder_and_served_in_turn {n : ℕ} (h : s.coordinator.Arises n) (hn : n ≤ UInt32.size) :
    s.coordinator.roster.InOrder ∧
      ∀ {n₀ : ℕ} {s₀ s₁ s₂ : Station N} {x y : Producer} {os : List Producer},
        s₀.coordinator.Arises n₀ → s₀.coordinator.localOnly = false →
        Observes net s₀ x s₁ → Samples net s₁ os s₂ → x ∉ os → Observes net s₂ x s →
        y ≠ x → y ∈ s₁.coordinator.schedule → y ∈ s.coordinator.schedule → os.count y = 1 := by
  have hnodup := h.reached.nodup_admitted hn
  refine ⟨(h.reached.sound hnodup).toInOrder, ?_⟩
  intro n₀ s₀ s₁ s₂ x y os h₀ hlocal hfirst hsamples hx hlast hne hy₁ hy
  obtain ⟨⟨r₀, hr₀, hx₀, hroster₁⟩, hlocal₁⟩ :=
    hfirst.exists_rotate Roster.Sound.steady h₀.reached.sound hlocal
  -- Fairness is carried along for the case that the numbers are distinct, which is known at the end only.
  have hfair₁ : s₁.coordinator.roster.admitted.Nodup → s₁.coordinator.roster.Fair x y [] := by
    rw [hroster₁]
    intro hnodup₁
    have hy₀ : y ∈ r₀.rotate.schedule := hroster₁ ▸ hy₁
    exact (hr₀ (Roster.admitted_rotate r₀ ▸ hnodup₁)).fair hx₀ hy₀ hne
  obtain ⟨hfair₂, hlocal₂⟩ := hsamples.fair hx hlocal₁ hfair₁
  obtain ⟨⟨r, hr, hxr, hroster⟩, -⟩ :=
    hlast.exists_rotate (Roster.Fair.steady x y os) hfair₂ hlocal₂
  rw [hroster, Roster.admitted_rotate] at hnodup
  have hyr : y ∈ r.rotate.schedule := hroster ▸ hy
  exact (hr hnodup).count_eq_one hxr hyr hne

end Station

/-! ### A worker and the coordinator itself -/

namespace Relay

open Wire (WorkerMessage encode)

/-- Nothing comes and nothing goes. -/
def network : Network Unit where
  poll _ _ := (.ready [], ())
  write _ _ _ := (.taken 0, ())
  isIdle _ _ := false
  hasTime _ := false

/-- A worker has sent an observation to a coordinator that simulates paths itself. -/
def coordinator : Coordinator :=
  ((Coordinator.create ⟨"127.0.0.1:0", true, 1000, 4, 64⟩).register.start ⟨1⟩).receive ⟨0⟩
    (encode (WorkerMessage.observation ⟨1⟩ true)) false

/-- The coordinator has had its turn, and then the worker. -/
def after : Coordinator := (coordinator.rotate.consume ⟨0⟩ true).rotate

theorem turn_first : coordinator.turn = .simulate coordinator.rotate :=
  Coordinator.turn_of_local (schedule_receive _ _ _ _)

theorem turn_second : coordinator.rotate.turn = .deliver ⟨0⟩ true after := by
  have hschedule : coordinator.rotate.schedule = [.remote ⟨0⟩, .local] := by decide +kernel
  have hsamples : (coordinator.rotate.peer? ⟨0⟩).map (·.samples) = some [true] := by decide +kernel
  obtain ⟨q, hq, hsamples⟩ := Option.map_eq_some_iff.1 hsamples
  exact Coordinator.turn_of_remote hschedule hq hsamples

theorem turn_third : after.turn = .simulate after.rotate := by
  have hschedule : after.schedule = [.local, .remote ⟨0⟩] := by decide +kernel
  exact Coordinator.turn_of_local hschedule

theorem arises : coordinator.Arises 1 :=
  .receive (.start (.register (.create _) rfl) ⟨1⟩) _ _ _

/-- When nothing comes and nothing goes, an observation is a turn. -/
theorem nextSample {c : Coordinator} (hlocal : c.localOnly = false) :
    Station.nextSample network 1 ⟨c, ()⟩ = Station.serve network 1 ⟨c, ()⟩ := by
  rw [Station.nextSample, if_neg (ne_true_of_eq_false hlocal)]
  rfl

theorem observes_first : Station.Observes network ⟨coordinator, ()⟩ .local ⟨coordinator.rotate, ()⟩ :=
  .simulate 1 (by rw [nextSample (by decide +kernel), Station.serve, turn_first])

theorem observes_second :
    Station.Observes network ⟨coordinator.rotate, ()⟩ (.remote ⟨0⟩) ⟨after, ()⟩ :=
  .deliver 1 (by rw [nextSample (by decide +kernel), Station.serve, turn_second])

theorem observes_third : Station.Observes network ⟨after, ()⟩ .local ⟨after.rotate, ()⟩ :=
  .simulate 1 (by rw [nextSample (by decide +kernel), Station.serve, turn_third])

/-- Between two observations of its own the coordinator gets one of the worker. -/
theorem served_in_turn : after.rotate.roster.InOrder ∧
    ∃ os, Station.Samples network ⟨coordinator.rotate, ()⟩ os ⟨after, ()⟩ ∧ .local ∉ os ∧
      os.count (.remote ⟨0⟩) = 1 := by
  have hlast : after.rotate.Arises 1 :=
    ((arises.simulate turn_first).deliver turn_second).simulate turn_third
  obtain ⟨horder, hturns⟩ :=
    @Station.inOrder_and_served_in_turn Unit network ⟨after.rotate, ()⟩ 1 hlast (by decide)
  have hsamples : Station.Samples network ⟨coordinator.rotate, ()⟩ [.remote ⟨0⟩] ⟨after, ()⟩ :=
    (Station.Samples.refl _).observe observes_second
  exact ⟨horder, _, hsamples, by decide, hturns arises (by decide +kernel) observes_first hsamples
    (by decide) observes_third (by decide) (by decide +kernel) (by decide +kernel)⟩

end Relay

end SimCheck
