import SimCheck.Scalar.Exact
import SimCheck.Proofs.Check
import SimCheck.Proofs.Spending.Resolution

/-!
# The error that a path spends

Every resolution takes its bounds out of what is left of the error of the path: a resolution at a
checkpoint half of it, the one at the end all of it.  Together they never take more than the path was
given.

* `UntilCheck.candidates`: the states of a path in which the right side is recorded;
* `Stretch`: what the checks on a part of a path may be, `Stretch.append` for two parts;
* `advance_steps`, `run_stretch`: one state, and all of them;
* `nested_error_not_overspent`: a whole path;
* `Revisit`: a path that asks about a side once for two of its states.
-/

namespace SimCheck

variable {G : Type}

/-! ### Candidates -/

section Candidates

variable {R : Type} [Scalar R] (u : UntilCheck R G) (origin : R)

/-- The state, if the right side is recorded in it: when it is entered after the window has opened,
or left after that. -/
def UntilCheck.recordedIn (s : State R) (drawn : Option (Transition R)) : List (State R) :=
  if u.lower ≤ s.time - origin ∨ drawn.any (fun t => u.lower < s.time - origin + t.dwell) then [s]
  else []

/-- The states in which the right side is recorded, on a path of some transitions that goes on from a
state.  `draws` are the transitions that are drawn from there on; a state that is entered after the
window has closed is not visited. -/
def UntilCheck.candidates : State R → (draws : List (Transition R)) → (transitions : Nat) → List (State R)
  | s, t :: draws, n + 1 =>
    u.recordedIn origin s (some t) ++
      if u.upper < (s.successor t).time - origin then []
      else UntilCheck.candidates (s.successor t) draws n
  | s, draws, _ => u.recordedIn origin s draws.head?

variable {u origin} {s : State R}

theorem UntilCheck.recordedIn_of_opened (h : u.lower ≤ s.time - origin)
    (drawn : Option (Transition R)) : u.recordedIn origin s drawn = [s] := if_pos (.inl h)

theorem UntilCheck.recordedIn_of_opening {t : Transition R}
    (h : u.lower < s.time - origin + t.dwell) : u.recordedIn origin s (some t) = [s] :=
  if_pos (.inr (decide_eq_true h))

theorem UntilCheck.candidates_zero (drawn : Option (Transition R)) :
    u.candidates origin s drawn.toList 0 = u.recordedIn origin s drawn := by
  cases drawn <;> rfl

theorem UntilCheck.candidates_of_closed {t : Transition R}
    (h : u.upper < (s.successor t).time - origin) :
    u.candidates origin s [t] 1 = u.recordedIn origin s (some t) := by
  rw [candidates, if_pos h, List.append_nil]

end Candidates

/-! ### Parts of a path -/

/-- The error that is left is a number, and not negative. -/
def Trace.Funded (t : Trace EReal) : Prop := ∃ x : ℝ, 0 ≤ x ∧ t.budget = x

/-- What has been asked for between two traces of a path, with `states` recorded for the right side
in the meantime. -/
structure Stretch (t : Trace EReal) (states : List (State EReal)) (j : Journal EReal)
    (t' : Trace EReal) : Prop where
  /-- Each check has one bound for both errors. -/
  bounds : ∀ a ∈ j.asks, ∃ x : ℝ, 0 ≤ x ∧ a.bounds = .both x
  posts : (j.posts ++ t'.posts).Sublist (t.posts ++ states)
  distinct : j.preValues.Nodup
  fresh : ∀ v ∈ j.preValues, v ∉ t.known
  known : t.known ++ j.preValues ⊆ t'.known
  spent : (j.asks.map (·.bounds.alpha)).sum + t'.budget ≤ t.budget
  funded : t'.Funded

namespace Stretch

variable {t t' t'' : Trace EReal} {states states' : List (State EReal)} {j k : Journal EReal}

theorem refl (ht : t.Funded) : Stretch t [] ∅ t where
  bounds _ ha := (List.not_mem_nil ha).elim
  posts := by rw [List.append_nil]; exact List.Sublist.refl _
  distinct := .nil
  fresh _ hv := (List.not_mem_nil hv).elim
  known := List.append_subset.2 ⟨List.Subset.refl _, List.nil_subset _⟩
  spent := (zero_add _).le
  funded := ht

theorem mono (h : Stretch t states j t') (hstates : states.Sublist states') :
    Stretch t states' j t' :=
  { h with posts := h.posts.trans ((List.Sublist.refl _).append hstates) }

theorem append (h : Stretch t states j t') (h' : Stretch t' states' k t'') :
    Stretch t (states ++ states') (j ++ k) t'' := by
  obtain ⟨hknown, hj⟩ := List.append_subset.1 h.known
  obtain ⟨hknown', hk⟩ := List.append_subset.1 h'.known
  constructor
  · intro a ha
    rcases List.mem_append.1 ha with ha | ha
    exacts [h.bounds a ha, h'.bounds a ha]
  · rw [Journal.posts_append, List.append_assoc, ← List.append_assoc t.posts]
    calc (j.posts ++ (k.posts ++ t''.posts)).Sublist (j.posts ++ (t'.posts ++ states')) :=
          (List.Sublist.refl _).append h'.posts
      _ = (j.posts ++ t'.posts) ++ states' := (List.append_assoc ..).symm
      (List.Sublist _ (t.posts ++ states ++ states')) := h.posts.append (List.Sublist.refl _)
  · rw [Journal.preValues_append, List.nodup_append']
    exact ⟨h.distinct, h'.distinct, fun v hv hv' => h'.fresh v hv' (hj hv)⟩
  · intro v hv
    rw [Journal.preValues_append] at hv
    rcases List.mem_append.1 hv with hv | hv
    exacts [h.fresh v hv, fun hmem => h'.fresh v hv (hknown hmem)]
  · rw [Journal.preValues_append]
    exact List.append_subset.2 ⟨List.Subset.trans hknown hknown',
      List.append_subset.2 ⟨List.Subset.trans hj hknown', hk⟩⟩
  · rw [Journal.asks_append, List.map_append, List.sum_append, add_assoc]
    exact (add_le_add_right h'.spent _).trans h.spent
  · exact h'.funded

/-- A resolution records no state. -/
theorem resolved (h : Stretch t states j t') (h' : Stretch t' [] k t'') :
    Stretch t states (j ++ k) t'' := by
  have hall := h.append h'
  rwa [List.append_nil] at hall

/-- Nothing is asked for where a step is recorded. -/
theorem push (ht : t.Funded) (step : Step EReal) :
    Stretch t step.post?.toList ∅ (t.push step) := by
  have hposts : (t.push step).posts.Sublist (t.posts ++ step.post?.toList) := by
    unfold Trace.push
    split_ifs
    · unfold Trace.posts
      rw [List.reverse_cons, List.filterMap_append]
      cases hpost : step.post? <;> simp [hpost]
    · exact List.sublist_append_left _ _
  have hpush : (t.push step).preVerdicts = t.preVerdicts ∧ (t.push step).budget = t.budget := by
    unfold Trace.push
    split_ifs <;> exact ⟨rfl, rfl⟩
  refine ⟨fun _ ha => (List.not_mem_nil ha).elim, hposts, .nil,
    fun _ hv => (List.not_mem_nil hv).elim, ?_, ?_, ?_⟩
  · unfold Trace.known
    rw [hpush.1]
    exact List.append_subset.2 ⟨List.Subset.refl _, List.nil_subset _⟩
  · rw [hpush.2]
    exact (zero_add _).le
  · unfold Trace.Funded
    rwa [hpush.2]

/-- Transitions cost nothing. -/
theorem draw (h : Stretch t states ∅ t') (draws : List (Transition EReal)) :
    Stretch t states ⟨draws, []⟩ t' :=
  ⟨h.bounds, h.posts, h.distinct, h.fresh, h.known, h.spent, h.funded⟩

/-- A resolution spends no more than the bound that it is given. -/
theorem resolve {bound rest : ℝ} (hbound : 0 ≤ bound) (hrest : 0 ≤ rest)
    (hbudget : t.budget = (bound + rest : ℝ)) (hbudget' : t'.budget = rest)
    (hpending : t'.pending = [])
    (h : Replayed (.both ((bound : EReal) / Scalar.toNatCast.natCast (max 1 t.checkCount)))
      t.pending.reverse t.preVerdicts t'.preVerdicts j) : Stretch t [] j t' := by
  rw [Exact.div_natCast] at h
  have hcount : (0 : ℝ) < (max 1 t.checkCount : ℕ) := by
    exact_mod_cast Nat.lt_of_lt_of_le Nat.one_pos (le_max_left ..)
  have hlength : (j.asks.length : ℝ) ≤ (max 1 t.checkCount : ℕ) := by
    exact_mod_cast h.length_le.trans (le_max_right ..)
  have hshares : (j.asks.length : ℝ) * (bound / (max 1 t.checkCount : ℕ)) ≤ bound := by
    rw [mul_div_assoc', div_le_iff₀ hcount, mul_comm]
    exact mul_le_mul_of_nonneg_left hlength hbound
  have hsum : (j.asks.map (·.bounds.alpha)).sum
      = ((j.asks.length : ℝ) * (bound / (max 1 t.checkCount : ℕ)) : ℝ) := by
    have hall : ∀ x ∈ j.asks.map (·.bounds.alpha),
        x = ((bound / (max 1 t.checkCount : ℕ) : ℝ) : EReal) := by
      intro x hx
      obtain ⟨a, ha, rfl⟩ := List.mem_map.1 hx
      rw [h.bounds a ha]
      rfl
    rw [List.eq_replicate_of_mem hall, List.sum_replicate, List.length_map, ← EReal.coe_nsmul,
      nsmul_eq_mul]
  have hposts : t'.posts = [] := by rw [Trace.posts, hpending]; rfl
  refine ⟨fun a ha => ⟨_, div_nonneg hbound hcount.le, h.bounds a ha⟩, ?_, h.distinct, h.fresh,
    h.known, ?_, ⟨rest, hrest, hbudget'⟩⟩
  · rw [hposts, List.append_nil, List.append_nil]
    exact h.posts
  · rw [hsum, hbudget, hbudget', ← EReal.coe_add]
    exact EReal.coe_le_coe_iff.2 (add_le_add_left hshares rest)

end Stretch

/-! ### One state -/

section Journaling

variable {u : UntilCheck EReal G} {t : Trace EReal} {s : State EReal}
  {σ σ' : Session EReal (G × Journal EReal) Unit}

theorem record_stretch (hu : u.KeepsScope) (ht : t.Funded) {side : Side} {t' : Trace EReal}
    {final : Bool} (h : u.journaling.record side s t σ = .ok ((t', final), σ')) :
    σ'.journal = σ.journal ∧ Stretch t (if side = .post then [s] else []) ∅ t' := by
  obtain ⟨step, σ₁, hobserve, h⟩ := Run.bind_eq_ok.1 h
  obtain ⟨hr, rfl⟩ := Run.pure_eq_ok.1 h
  obtain ⟨rfl, -⟩ := Prod.mk.inj hr
  rcases Run.ite_eq_ok.1 hobserve with ⟨hprobabilistic, h⟩ | ⟨hprobabilistic, h⟩
  · obtain ⟨rfl, rfl⟩ := Run.pure_eq_ok.1 h
    refine ⟨rfl, (Stretch.push ht _).mono ?_⟩
    cases side
    exacts [List.nil_sublist _, List.Sublist.refl _]
  · obtain ⟨holds, σ₂, hcheck, h⟩ := Run.bind_eq_ok.1 h
    obtain ⟨rfl, rfl⟩ := Run.pure_eq_ok.1 h
    have hjournal := (check_journaling hu hcheck).2
    rw [UntilCheck.probabilistic_journaling] at hprobabilistic
    rw [if_neg hprobabilistic, Journal.append_empty] at hjournal
    refine ⟨hjournal, (Stretch.push ht _).mono ?_⟩
    cases side <;> exact List.nil_sublist _

theorem transition_journaling {model : Model EReal G} {drawn : Transition EReal}
    (h : Run.transition model.journaling s σ = .ok (drawn, σ')) :
    σ'.journal = σ.journal ++ .ofDraw drawn := by
  obtain ⟨g, hmodel, rfl⟩ := Run.transition_eq_ok.1 h
  obtain ⟨r, -, hr⟩ := map_eq_ok_iff.1 hmodel
  obtain ⟨rfl, rfl⟩ := Prod.mk.inj hr
  rfl

/-- A state is recorded as a candidate if it is one, and the transition out of it is drawn at most
once. -/
theorem visit_stretch (hu : u.KeepsScope) (ht : t.Funded) {model : Model EReal G} {origin : EReal}
    {v : Visit EReal}
    (h : Walk.visit model.journaling u.journaling (s.time - origin) s t σ = .ok (v, σ')) :
    σ'.journal = σ.journal ++ ⟨v.drawn.toList, []⟩ ∧
      Stretch t (u.recordedIn origin s v.drawn) ⟨v.drawn.toList, []⟩ v.trace ∧
      (v.decided = false → v.drawn = none → u.lower ≤ s.time - origin) := by
  rcases Run.ite_eq_ok.1 h with ⟨hopened, h⟩ | ⟨hclosed, h⟩
  · -- The window has opened: the right side comes first.
    have hopened : u.lower ≤ s.time - origin := hopened
    obtain ⟨⟨t₁, final⟩, σ₁, hpost, h⟩ := Run.bind_eq_ok.1 h
    obtain ⟨hjournal, hfirst⟩ := record_stretch hu ht hpost
    rcases Run.ite_eq_ok.1 h with ⟨-, h⟩ | ⟨-, h⟩
    · obtain ⟨rfl, rfl⟩ := Run.pure_eq_ok.1 h
      refine ⟨hjournal.trans (Journal.append_empty _).symm, ?_, fun _ _ => hopened⟩
      rw [UntilCheck.recordedIn_of_opened hopened]
      exact hfirst
    · obtain ⟨⟨t₂, final'⟩, σ₂, hpre, h⟩ := Run.bind_eq_ok.1 h
      obtain ⟨hjournal', hsecond⟩ := record_stretch hu hfirst.funded hpre
      obtain ⟨rfl, rfl⟩ := Run.pure_eq_ok.1 h
      refine ⟨(hjournal'.trans hjournal).trans (Journal.append_empty _).symm, ?_,
        fun _ _ => hopened⟩
      rw [UntilCheck.recordedIn_of_opened hopened]
      exact hfirst.append hsecond
  · obtain ⟨⟨t₁, final⟩, σ₁, hpre, h⟩ := Run.bind_eq_ok.1 h
    obtain ⟨hjournal, hfirst⟩ := record_stretch hu ht hpre
    rcases Run.ite_eq_ok.1 h with ⟨-, h⟩ | ⟨-, h⟩
    · obtain ⟨rfl, rfl⟩ := Run.pure_eq_ok.1 h
      refine ⟨hjournal.trans (Journal.append_empty _).symm, hfirst.mono (List.nil_sublist _), ?_⟩
      exact fun hdecided => Bool.noConfusion hdecided
    · obtain ⟨drawn, σ₂, hdraw, h⟩ := Run.bind_eq_ok.1 h
      have hdrawn : σ₂.journal = σ.journal ++ .ofDraw drawn := by
        rw [transition_journaling hdraw, hjournal]
      rcases Run.ite_eq_ok.1 h with ⟨hopening, h⟩ | ⟨-, h⟩
      · -- The state is still occupied when the window opens.
        have hopening : u.lower < s.time - origin + drawn.dwell := hopening
        obtain ⟨⟨t₂, final'⟩, σ₃, hpost, h⟩ := Run.bind_eq_ok.1 h
        obtain ⟨hjournal', hsecond⟩ := record_stretch hu hfirst.funded hpost
        obtain ⟨rfl, rfl⟩ := Run.pure_eq_ok.1 h
        refine ⟨hjournal'.trans hdrawn, ?_, fun _ hnone => nomatch hnone⟩
        rw [UntilCheck.recordedIn_of_opening hopening]
        exact (hfirst.append hsecond).draw [drawn]
      · obtain ⟨rfl, rfl⟩ := Run.pure_eq_ok.1 h
        refine ⟨hdrawn, ?_, fun _ hnone => nomatch hnone⟩
        exact (hfirst.draw [drawn]).mono (List.nil_sublist _)

theorem finish_stretch (hu : u.KeepsScope) (ht : t.Funded) {length : Nat} {cutOff : Bool}
    {r : Progress EReal} (h : Walk.finish u.journaling t length cutOff σ = .ok (r, σ')) :
    ∃ outcome j t', r = .ended ⟨outcome, length, cutOff⟩ ∧ σ'.journal = σ.journal ++ j ∧
      j.draws = [] ∧ Stretch t [] j t' := by
  obtain ⟨⟨outcome, t₁⟩, σ₁, hresolve, h⟩ := Run.bind_eq_ok.1 h
  obtain ⟨rfl, rfl⟩ := Run.pure_eq_ok.1 h
  obtain ⟨hpending, -, j, hj, hreplayed⟩ := resolve_replayed hu hresolve
  obtain ⟨x, hx, hbudget⟩ := ht
  rw [hbudget] at hreplayed
  have hstretch : Stretch t [] j { t₁ with budget := (0 : ℝ) } :=
    .resolve hx le_rfl (by rw [add_zero, hbudget]) rfl hpending hreplayed
  exact ⟨outcome, j, _, rfl, hj, hreplayed.draws, hstretch⟩

theorem resolvePrefix_stretch (hu : u.KeepsScope) (ht : t.Funded) {length : Nat}
    {outcome : Outcome} {t' : Trace EReal}
    (h : Walk.resolvePrefix u.journaling t length σ = .ok ((outcome, t'), σ')) :
    ∃ j, σ'.journal = σ.journal ++ j ∧ j.draws = [] ∧ Stretch t [] j t' := by
  obtain ⟨_, σ₁, hreport, hresolve⟩ := Run.bind_eq_ok.1 h
  cases hreport
  obtain ⟨hpending, hrest, j, hj, hreplayed⟩ := resolve_replayed hu hresolve
  obtain ⟨x, hx, hbudget⟩ := ht
  have hhalf : t.budget / 2.0 = (x / 2 : ℝ) := by rw [hbudget, Exact.div_two]
  rw [hhalf] at hreplayed hrest
  have hx' : 0 ≤ x / 2 := div_nonneg hx zero_le_two
  refine ⟨j, hj, hreplayed.draws, .resolve hx' hx' ?_ ?_ hpending hreplayed⟩
  · rw [add_halves, hbudget]
  · rw [hrest]
    show t.budget - ((x / 2 : ℝ) : EReal) = _
    rw [hbudget, ← EReal.coe_sub, sub_half]

/-- What a walk may have asked for on the way to its progress, with `drawn` drawn out of its state
and `states` recorded for the right side. -/
def Walk.Leads (u : UntilCheck EReal G) (origin : EReal) (w : Walk EReal)
    (states : List (State EReal)) (drawn : Option (Transition EReal)) (j : Journal EReal) :
    Progress EReal → Prop
  | .ended p => ∃ n t', p.length = w.length + n ∧
      u.candidates origin w.state drawn.toList n = u.recordedIn origin w.state drawn ∧
      Stretch w.trace states j t'
  | .ongoing w' => ∃ t, drawn = some t ∧ ¬u.upper < (w.state.successor t).time - origin ∧
      w'.state = w.state.successor t ∧ w'.length = w.length + 1 ∧ Stretch w.trace states j w'.trace

variable {origin : EReal} {w : Walk EReal} {r : Progress EReal}

/-- What has been asked for before is added. -/
theorem Walk.Leads.prepend {t' : Trace EReal} {checkpoint : ℕ} {states states' : List (State EReal)}
    {drawn : Option (Transition EReal)} {j k : Journal EReal} (hj : Stretch w.trace states j t')
    (hk : Walk.Leads u origin ⟨w.state, w.length, checkpoint, t'⟩ states' drawn k r) :
    w.Leads u origin (states ++ states') drawn (j ++ k) r := by
  cases r with
  | ended p =>
    obtain ⟨n, t'', hlength, hcandidates, hstretch⟩ := hk
    exact ⟨n, t'', hlength, hcandidates, hj.append hstretch⟩
  | ongoing w' =>
    obtain ⟨t, hdrawn, hopen, hstate, hlength, hstretch⟩ := hk
    exact ⟨t, hdrawn, hopen, hstate, hlength, hj.append hstretch⟩

theorem leave_leads (hu : u.KeepsScope) (hw : w.trace.Funded) {drawn : Transition EReal}
    (h : Walk.leave u.journaling origin w drawn σ = .ok (r, σ')) :
    ∃ j, σ'.journal = σ.journal ++ j ∧ j.draws = [] ∧ w.Leads u origin [] (some drawn) j r := by
  rcases Run.ite_eq_ok.1 h with ⟨-, h⟩ | ⟨-, h⟩
  · obtain ⟨outcome, j, t', rfl, hj, hdraws, hstretch⟩ := finish_stretch hu hw h
    exact ⟨j, hj, hdraws, 0, t', rfl, UntilCheck.candidates_zero _, hstretch⟩
  · rcases Run.ite_eq_ok.1 h with ⟨hclosed, h⟩ | ⟨hopen, h⟩
    · obtain ⟨outcome, j, t', rfl, hj, hdraws, hstretch⟩ := finish_stretch hu hw h
      exact ⟨j, hj, hdraws, 1, t', rfl, UntilCheck.candidates_of_closed hclosed, hstretch⟩
    · obtain ⟨rfl, rfl⟩ := Run.pure_eq_ok.1 h
      exact ⟨∅, (Journal.append_empty _).symm, rfl, drawn, rfl, hopen, rfl, rfl, .refl hw⟩

/-- The transition out of the state is drawn if it has not been before. -/
theorem goOn_leads (hu : u.KeepsScope) (hw : w.trace.Funded) {model : Model EReal G}
    {drawn : Option (Transition EReal)}
    (h : Walk.goOn model.journaling u.journaling origin w drawn σ = .ok (r, σ')) :
    ∃ d j, σ'.journal = σ.journal ++ j ∧ drawn.toList ++ j.draws = d.toList ∧
      (drawn.isSome → d = drawn) ∧ w.Leads u origin [] d j r := by
  obtain ⟨p, σ₁, hp, h⟩ := Run.bind_eq_ok.1 h
  obtain ⟨-, rfl⟩ := Run.params_eq_ok.1 hp
  rcases Run.ite_eq_ok.1 h with ⟨-, h⟩ | ⟨-, h⟩
  · obtain ⟨outcome, j, t', rfl, hj, hdraws, hstretch⟩ := finish_stretch hu hw h
    refine ⟨drawn, j, hj, by rw [hdraws, List.append_nil], fun _ => rfl, ?_⟩
    exact ⟨0, t', rfl, UntilCheck.candidates_zero _, hstretch⟩
  · cases drawn with
    | some drawn =>
      obtain ⟨t, σ₂, hdraw, h⟩ := Run.bind_eq_ok.1 h
      obtain ⟨rfl, rfl⟩ := Run.pure_eq_ok.1 hdraw
      obtain ⟨j, hj, hdraws, hleads⟩ := leave_leads hu hw h
      exact ⟨some drawn, j, hj, by rw [hdraws, List.append_nil], fun _ => rfl, hleads⟩
    | none =>
      obtain ⟨t, σ₂, hdraw, h⟩ := Run.bind_eq_ok.1 h
      obtain ⟨j, hj, hdraws, hleads⟩ := leave_leads hu hw h
      refine ⟨some t, .ofDraw t ++ j, ?_, ?_, fun hsome => Bool.noConfusion hsome, ?_⟩
      · rw [hj, transition_journaling hdraw, Journal.append_assoc]
      · rw [Journal.draws_append, hdraws]
        rfl
      · exact hleads.prepend ((Stretch.refl hw).draw [t])

/-- What one step of a walk may have asked for. -/
def Walk.Steps (u : UntilCheck EReal G) (origin : EReal) (w : Walk EReal)
    (σ σ' : Session EReal (G × Journal EReal) Unit) (r : Progress EReal) : Prop :=
  ∃ drawn j, σ'.journal = σ.journal ++ j ∧ j.draws = drawn.toList ∧
    w.Leads u origin (u.recordedIn origin w.state drawn) drawn j r

section Visited

variable {drawn : Option (Transition EReal)} {k : Journal EReal} {t : Trace EReal}
  {σ₁ : Session EReal (G × Journal EReal) Unit}

/-- A walk may end after a visit. -/
theorem Walk.Steps.ended (hjournal : σ₁.journal = σ.journal ++ (⟨drawn.toList, []⟩ ++ k))
    (hk : k.draws = [])
    (ht : Stretch w.trace (u.recordedIn origin w.state drawn) (⟨drawn.toList, []⟩ ++ k) t)
    (outcome : Outcome) (cutOff : Bool) :
    w.Steps u origin σ σ₁ (.ended ⟨outcome, w.length, cutOff⟩) := by
  refine ⟨drawn, _, hjournal, ?_, 0, t, rfl, UntilCheck.candidates_zero _, ht⟩
  rw [Journal.draws_append, hk, List.append_nil]

/-- A walk that goes on after a visit draws a transition if the visit has not; the state is recorded as
before, for a visit that draws nothing comes after the window has opened. -/
theorem goOn_steps (hu : u.KeepsScope) {model : Model EReal G} {checkpoint : ℕ}
    (hopened : drawn = none → u.lower ≤ w.state.time - origin)
    (hjournal : σ₁.journal = σ.journal ++ (⟨drawn.toList, []⟩ ++ k)) (hk : k.draws = [])
    (ht : Stretch w.trace (u.recordedIn origin w.state drawn) (⟨drawn.toList, []⟩ ++ k) t)
    (h : Walk.goOn model.journaling u.journaling origin ⟨w.state, w.length, checkpoint, t⟩ drawn σ₁
      = .ok (r, σ')) : w.Steps u origin σ σ' r := by
  obtain ⟨drawn', l, hl, hdraws, hsame, hleads⟩ := goOn_leads hu ht.funded h
  have hrecorded : u.recordedIn origin w.state drawn' = u.recordedIn origin w.state drawn := by
    cases drawn with
    | some t => rw [hsame rfl]
    | none =>
      rw [UntilCheck.recordedIn_of_opened (hopened rfl),
        UntilCheck.recordedIn_of_opened (hopened rfl)]
  refine ⟨drawn', ⟨drawn.toList, []⟩ ++ k ++ l, ?_, ?_, ?_⟩
  · rw [hl, hjournal, Journal.append_assoc]
  · rw [Journal.draws_append, Journal.draws_append, hk, List.append_nil]
    exact hdraws
  · have hall := hleads.prepend ht
    rwa [List.append_nil, ← hrecorded] at hall

end Visited

/-- **The step of a walk.** -/
theorem advance_steps (hu : u.KeepsScope) (hw : w.trace.Funded) {model : Model EReal G}
    (h : Walk.advance model.journaling u.journaling origin w σ = .ok (r, σ')) :
    w.Steps u origin σ σ' r := by
  obtain ⟨v, σ₁, hvisit, h⟩ := Run.bind_eq_ok.1 h
  obtain ⟨hjournal, hstretch, hopened⟩ := visit_stretch hu hw hvisit
  -- What a resolution after the visit writes down comes after what the visit has written down.
  have hresolved {σ₂ : Session EReal (G × Journal EReal) Unit} {k : Journal EReal}
      (hk : σ₂.journal = σ₁.journal ++ k) :
      σ₂.journal = σ.journal ++ (⟨v.drawn.toList, []⟩ ++ k) := by
    rw [hk, hjournal, Journal.append_assoc]
  rcases Run.ite_eq_ok.1 h with ⟨-, h⟩ | ⟨hdecided, h⟩
  · obtain ⟨outcome, k, t, rfl, hk, hdraws, ht⟩ := finish_stretch hu hstretch.funded h
    exact .ended (hresolved hk) hdraws (hstretch.resolved ht) outcome false
  · have hopened := hopened (eq_false_of_ne_true hdecided)
    rcases Run.ite_eq_ok.1 h with ⟨-, h⟩ | ⟨-, h⟩
    · obtain ⟨⟨outcome, t⟩, σ₂, hresolve, h⟩ := Run.bind_eq_ok.1 h
      obtain ⟨k, hk, hdraws, ht⟩ := resolvePrefix_stretch hu hstretch.funded hresolve
      cases outcome with
      | «open» => exact goOn_steps hu hopened (hresolved hk) hdraws (hstretch.resolved ht) h
      | satisfied =>
        obtain ⟨rfl, rfl⟩ := Run.pure_eq_ok.1 h
        exact .ended (hresolved hk) hdraws (hstretch.resolved ht) _ _
      | violated =>
        obtain ⟨rfl, rfl⟩ := Run.pure_eq_ok.1 h
        exact .ended (hresolved hk) hdraws (hstretch.resolved ht) _ _
    · have hnothing := hresolved (Journal.append_empty _).symm
      exact goOn_steps hu hopened hnothing rfl (hstretch.resolved (.refl hstretch.funded)) h

/-- **The checks of a whole walk.** -/
theorem run_stretch (hu : u.KeepsScope) {model : Model EReal G} {fuel : ℕ} {w : Walk EReal}
    (hw : w.trace.Funded) {p : PathEnd}
    (h : Walk.run model.journaling u.journaling origin fuel w σ = .ok (p, σ')) :
    ∃ j n t', σ'.journal = σ.journal ++ j ∧ p.length = w.length + n ∧
      Stretch w.trace (u.candidates origin w.state j.draws n) j t' := by
  induction fuel generalizing w σ with
  | zero => exact (Run.throw_ne_ok h).elim
  | succ fuel ih =>
    obtain ⟨r, σ₁, hadvance, h⟩ := Run.bind_eq_ok.1 h
    obtain ⟨drawn, j, hj, hdraws, hleads⟩ := advance_steps hu hw hadvance
    cases r with
    | ended p' =>
      obtain ⟨rfl, rfl⟩ := Run.pure_eq_ok.1 h
      obtain ⟨n, t', hlength, hcandidates, hstretch⟩ := hleads
      exact ⟨j, n, t', hj, hlength, by rwa [hdraws, hcandidates]⟩
    | ongoing w' =>
      obtain ⟨t, rfl, hopen, hstate, hlength, hstretch⟩ := hleads
      obtain ⟨k, n, t', hk, hlength', hstretch'⟩ := ih hstretch.funded h
      refine ⟨j ++ k, n + 1, t', by rw [hk, hj, Journal.append_assoc], by omega, ?_⟩
      rw [Journal.draws_append, hdraws, Option.toList_some, List.singleton_append,
        UntilCheck.candidates, if_neg hopen, ← hstate]
      exact hstretch.append hstretch'

end Journaling

/-! ### A whole path -/

/-- **A path spends no more than its error on the checks of its sides.**  The checks that it has
resolved are those of the journal of its walk: each has one bound for both errors, and the bounds add
up to the error of the path at most.  The left side is checked once at most with the same values, and
the right side once at most in each state in which it has been recorded. -/
theorem nested_error_not_overspent [Distributions EReal] (sim : Simulator EReal G)
    (path : PathProperty EReal) (s : State EReal) {e : ℝ} (he : 0 ≤ e)
    {σ σ' : Session EReal G Unit} {holds : Bool}
    (h : simulate sim (path.checks sim) s e σ = .ok (holds, σ')) :
    ∃ (p : PathEnd) (τ : Session EReal (G × Journal EReal) Unit),
      Walk.run sim.model (path.checks sim) s.time sim.fuel (.start s e) σ = .ok (p, τ.forget) ∧
      (holds = true ↔ p.outcome = .satisfied) ∧
      Walk.run sim.model.journaling (path.checks sim).journaling s.time sim.fuel (.start s e)
        (σ.withJournal ∅) = .ok (p, τ) ∧
      (∀ a ∈ τ.journal.asks, ∃ x : ℝ, 0 ≤ x ∧ a.bounds = .both x) ∧
      (τ.journal.asks.map (·.bounds.alpha)).sum ≤ e ∧
      τ.journal.preValues.Nodup ∧
      τ.journal.posts.Sublist ((path.checks sim).candidates s.time s τ.journal.draws p.length) := by
  have hu := path.checks_keepsScope sim
  obtain ⟨p, σ₁, hwalk, hholds⟩ := simulate_eq_ok h
  obtain ⟨τ, hτ, rfl⟩ := (Forgets.run sim.model (path.checks sim) s.time sim.fuel _).exists_journaled
    hwalk
  have hfunded : (Walk.start s (e : EReal)).trace.Funded := ⟨e, he, rfl⟩
  obtain ⟨j, n, t', hj, hlength, hstretch⟩ := run_stretch hu hfunded hτ
  obtain rfl : p.length = n := hlength.trans (Nat.zero_add n)
  obtain rfl : τ.journal = j := hj
  refine ⟨p, τ, hwalk, hholds, hτ, hstretch.bounds, ?_, hstretch.distinct, ?_⟩
  · obtain ⟨rest, hrest, hbudget⟩ := hstretch.funded
    calc (τ.journal.asks.map (·.bounds.alpha)).sum
        ≤ (τ.journal.asks.map (·.bounds.alpha)).sum + t'.budget := by
          rw [hbudget]
          exact le_add_of_nonneg_right (EReal.coe_nonneg.2 hrest)
      _ ≤ e := hstretch.spent
  · exact (List.sublist_append_left _ _).trans hstretch.posts

/-! ### A path that comes back to its values -/

namespace Revisit

/-- The model moves once, without any change of the values, and then stays. -/
noncomputable def simulator : Simulator EReal Bool where
  model s moves := pure (if moves then ⟨s.values, 1⟩ else .absorbing s.values, false)
  fuel := 2

/-- The left side is a threshold that every probability meets, the right side one that none meets. -/
noncomputable def path : PathProperty EReal :=
  .unbounded ⟨0⟩
    (.threshold .atLeast 0 (.unbounded ⟨1⟩ (.expr (.constant true)) (.expr (.constant true))))
    (.threshold .above 1 (.unbounded ⟨2⟩ (.expr (.constant true)) (.expr (.constant true))))

noncomputable abbrev distributions : Distributions EReal := ⟨fun _ _ _ => 0, fun _ _ => 0⟩

noncomputable def sides : UntilCheck EReal Bool :=
  let _ := distributions
  path.checks simulator

noncomputable def session : Session EReal Bool Unit := ⟨⟨.default, true, ∅, ∅, 0, []⟩, ()⟩

noncomputable def first : State EReal := ⟨[0], 0⟩

noncomputable def second : State EReal := first.successor ⟨[0], 1⟩

/-- The verdict on a side. -/
def verdict : Side → Bool
  | .pre => true
  | .post => false

theorem check_eq (side : Side) (s : State EReal) :
    (sides.side side).check s = pure (verdict side) := by
  let _ := distributions
  cases side with
  | pre =>
    have htrivial : Property.trivialVerdict? .atLeast (0 : EReal) = some true :=
      if_pos ((Exact.beq_eq_decide 0 0).trans (decide_eq_true rfl))
    show checkThreshold simulator (.simulating EReal) _ .atLeast 0 s = pure true
    unfold checkThreshold
    rw [htrivial]
  | post =>
    have htrivial : Property.trivialVerdict? .above (1 : EReal) = some false :=
      if_pos ((Exact.beq_eq_decide 1 1).trans (decide_eq_true rfl))
    show checkThreshold simulator (.simulating EReal) _ .above 1 s = pure false
    unfold checkThreshold
    rw [htrivial]

/-- A check is written down before its verdict is known. -/
theorem check_journaling :
    (fun side => (sides.journaling.side side).check) = fun side s =>
      Run.ask side s >>= fun _ => Run.unrecorded (pure (verdict side)) := by
  funext side s
  rw [← check_eq side s]
  cases side <;> rfl

/-- The trace after a state in which both sides have been recorded. -/
noncomputable def visited (t : Trace EReal) (s : State EReal) : Trace EReal :=
  (t.push ⟨.post, .deferred s⟩).push ⟨.pre, .deferred s⟩

theorem visit_eq {s : State EReal} (hs : 0 ≤ s.time) (t : Trace EReal)
    (σ : Session EReal (Bool × Journal EReal) Unit) :
    Walk.visit simulator.model.journaling sides.journaling (s.time - 0) s t σ
      = .ok (⟨visited t s, false, none⟩, σ) := by
  have hopened : sides.journaling.lower ≤ s.time - 0 := by
    rw [sub_zero]
    exact hs
  unfold Walk.visit
  rw [if_pos hopened]
  rfl

/-- What is recorded of the whole path. -/
noncomputable def recorded : Trace EReal := visited (visited (.start (0.6 : ℝ)) first) second

/-- The left side is asked about in the first state only. -/
noncomputable def asks : List (Ask EReal) :=
  [⟨.post, first, .both (0.2 : ℝ)⟩, ⟨.pre, first, .both (0.2 : ℝ)⟩,
    ⟨.post, second, .both (0.2 : ℝ)⟩]

/-- The first transition has been drawn. -/
noncomputable def moved : Session EReal (Bool × Journal EReal) Unit :=
  ⟨⟨.default, (false, .ofDraw ⟨[0], 1⟩), ∅, ∅, 0, []⟩, ()⟩

/-- Both transitions have been drawn. -/
noncomputable def drawn : Session EReal (Bool × Journal EReal) Unit :=
  ⟨⟨.default, (false, ⟨[⟨[0], 1⟩, .absorbing [0]], []⟩), ∅, ∅, 0, []⟩, ()⟩

theorem finish_recorded : ∃ τ, Walk.finish sides.journaling recorded 1 false drawn
      = .ok (.ended ⟨.open, 1, false⟩, τ) ∧ τ.journal.asks = asks := by
  have hshare : recorded.budget / Scalar.toNatCast.natCast (max 1 recorded.checkCount)
      = (0.2 : ℝ) := by
    show ((0.6 : ℝ) : EReal) / Scalar.toNatCast.natCast 3 = _
    rw [Exact.div_natCast]
    norm_num
  let b : ErrorBounds EReal := .both (0.2 : ℝ)
  obtain ⟨τ, hreplay, hasks⟩ : ∃ τ, Trace.replay (fun side => (sides.journaling.side side).check)
      recorded.pending.reverse [] { drawn with verifier.params := Params.default.withBounds b }
        = .ok ((.open, [([0], true)]), τ) ∧ τ.journal.asks = asks := by
    rw [check_journaling]
    exact ⟨_, rfl, rfl⟩
  have hwithin : Run.withinBounds b (Trace.replay
      (fun side => (sides.journaling.side side).check) recorded.pending.reverse []) drawn
        = .ok ((.open, [([0], true)]), { τ with verifier.params := Params.default }) :=
    Run.withinBounds_eq_ok.2 ⟨τ, hreplay, rfl⟩
  refine ⟨{ τ with verifier.params := Params.default }, ?_, hasks⟩
  unfold Walk.finish Trace.resolve
  rw [hshare]
  exact Run.bind_eq_ok.2 ⟨_, _, Run.bind_eq_ok.2 ⟨_, _, hwithin, rfl⟩, rfl⟩

/-- The first state is left. -/
theorem advance_first : Walk.advance simulator.model.journaling sides.journaling 0
    (.start first (0.6 : ℝ)) (session.withJournal ∅)
      = .ok (.ongoing ⟨second, 1, 64, visited (.start (0.6 : ℝ)) first⟩, moved) := by
  have hmoves : ¬(⟨[0], 1⟩ : Transition EReal).isAbsorbing = true := by
    rw [Bool.not_eq_true]
    exact Exact.isInfinite_coe 1
  have hwithin : ¬sides.journaling.upper < second.time - 0 := not_top_lt
  have hleave : Walk.leave sides.journaling 0
      ⟨first, 0, 64, visited (.start (0.6 : ℝ)) first⟩ ⟨[0], 1⟩ moved
        = .ok (.ongoing ⟨second, 1, 64, visited (.start (0.6 : ℝ)) first⟩, moved) := by
    unfold Walk.leave
    rw [if_neg hmoves]
    exact congrFun (if_neg hwithin) moved
  exact Run.bind_eq_ok.2 ⟨_, _, visit_eq le_rfl _ _, hleave⟩

/-- The second state is not, and the walk ends there. -/
theorem advance_second {r : Progress EReal × Session EReal (Bool × Journal EReal) Unit}
    (hfinish : Walk.finish sides.journaling recorded 1 false drawn = .ok r) :
    Walk.advance simulator.model.journaling sides.journaling 0
      ⟨second, 1, 64, visited (.start (0.6 : ℝ)) first⟩ moved = .ok r := by
  have hentered : 0 ≤ second.time := by
    show (0 : EReal) ≤ 0 + 1
    rw [zero_add]
    exact zero_le_one
  have habsorbing : (.absorbing [0] : Transition EReal).isAbsorbing = true := Exact.isInfinite_top
  have hleave : Walk.leave sides.journaling 0 ⟨second, 1, 64, recorded⟩ (.absorbing [0])
      = Walk.finish sides.journaling recorded 1 false := by
    unfold Walk.leave
    rw [if_pos habsorbing]
  refine Run.bind_eq_ok.2 ⟨_, _, visit_eq hentered _ _, ?_⟩
  rw [← hfinish, ← hleave]
  rfl

theorem walk_journaled : ∃ τ,
    Walk.run simulator.model.journaling sides.journaling 0 2 (.start first (0.6 : ℝ))
      (session.withJournal ∅) = .ok (⟨.open, 1, false⟩, τ) ∧ τ.journal.asks = asks := by
  obtain ⟨τ, hfinish, hasks⟩ := finish_recorded
  refine ⟨τ, Run.bind_eq_ok.2 ⟨_, _, advance_first, ?_⟩, hasks⟩
  exact Run.bind_eq_ok.2 ⟨_, _, advance_second hfinish, rfl⟩

/-- Both sides are asked about in the first state, the left side has its verdict from there in the
second, and the three checks share what the path is given. -/
theorem nested_error_not_overspent_revisit :
    let _ := distributions
    (0 : ℝ) ≤ 0.6 ∧
      ∃ σ', simulate simulator (path.checks simulator) first (0.6 : ℝ) session = .ok (false, σ') ∧
        ∃ τ, Walk.run simulator.model.journaling (path.checks simulator).journaling 0 2
            (.start first (0.6 : ℝ)) (session.withJournal ∅) = .ok (⟨.open, 1, false⟩, τ) ∧
          τ.journal.asks = asks ∧ (τ.journal.asks.map (·.bounds.alpha)).sum ≤ (0.6 : ℝ) ∧
          τ.journal.preValues.Nodup := by
  intro _
  have hpos : (0 : ℝ) ≤ 0.6 := by norm_num
  obtain ⟨τ, hwalk, hasks⟩ := walk_journaled
  have hforget := Forgets.run simulator.model sides 0 2 (.start first (0.6 : ℝ))
    (session.withJournal ∅)
  rw [hwalk] at hforget
  have hsimulate : ∃ σ', simulate simulator (path.checks simulator) first (0.6 : ℝ) session
      = .ok (false, σ') := ⟨_, Run.bind_eq_ok.2 ⟨_, _, hforget.symm, rfl⟩⟩
  obtain ⟨σ', hσ'⟩ := hsimulate
  obtain ⟨p, τ', -, -, hwalk', -, hsum, hdistinct, -⟩ :=
    nested_error_not_overspent simulator path first hpos hσ'
  cases hwalk.symm.trans hwalk'
  exact ⟨hpos, σ', hσ', τ, hwalk, hasks, hsum, hdistinct⟩

end Revisit

end SimCheck
