import SimCheck.Proofs.Scope
import SimCheck.Proofs.Spending.Journal
import Mathlib.Data.List.Nodup
import Mathlib.Data.List.Perm.Subperm

/-!
# What a resolution asks for

The pending steps of a path are replayed in path order within the same bounds.  A check of the right
side is asked for at most once for each step of it; one of the left side is not asked for with values
for which there is a verdict already.  So no more checks are made than were counted beforehand.

* `Journal.posts`, `Journal.preValues`: the states and the values that have been asked about;
* `Replayed`: what replaying steps may ask for, `Replayed.append` for steps one after the other;
* `resolve_replayed`: what a resolution asks for, `Replayed.length_le`: and how often.
-/

namespace SimCheck

open Run (Keeps)

variable {R G : Type}

/-! ### Entries by side -/

/-- The states from which the right side has been checked. -/
def Journal.posts (j : Journal R) : List (State R) :=
  (j.asks.filter (·.side = .post)).map (·.state)

/-- The values with which the left side has been checked. -/
def Journal.preValues (j : Journal R) : List Valuation :=
  (j.asks.filter (·.side = .pre)).map (·.state.values)

namespace Journal

@[simp] theorem posts_append (j k : Journal R) : (j ++ k).posts = j.posts ++ k.posts := by
  simp [posts]

@[simp] theorem preValues_append (j k : Journal R) :
    (j ++ k).preValues = j.preValues ++ k.preValues := by
  simp [preValues]

theorem length_asks (j : Journal R) : j.asks.length = j.preValues.length + j.posts.length := by
  unfold preValues posts
  rw [List.length_map, List.length_map]
  induction j.asks with
  | nil => rfl
  | cons a as ih =>
    obtain ⟨side, state, bounds⟩ := a
    cases side <;> simp at ih ⊢ <;> omega

end Journal

/-- The state from which the step waits for a check of the right side. -/
def Step.post? (s : Step R) : Option (State R) :=
  match s with
  | ⟨.post, .deferred state⟩ => some state
  | _ => none

/-- The values with which the step waits for a check of the left side. -/
def Step.preValues? (s : Step R) : Option Valuation :=
  match s with
  | ⟨.pre, .deferred state⟩ => some state.values
  | _ => none

/-- The states of the pending checks of the right side, in path order. -/
def Trace.posts (t : Trace R) : List (State R) := t.pending.reverse.filterMap Step.post?

/-- The values for which there is a verdict on the left side. -/
def Trace.known (t : Trace R) : List Valuation := t.preVerdicts.map Prod.fst

theorem lookup_eq_none_iff_not_mem {seen : List (Valuation × Bool)} {v : Valuation} :
    seen.lookup v = none ↔ v ∉ seen.map Prod.fst := by
  rw [List.lookup_eq_none_iff, List.mem_map, not_exists]
  refine forall_congr' fun r => ?_
  rw [not_and, bne_iff_ne]
  exact forall_congr' fun _ => ne_comm

/-! ### Replaying steps -/

/-- What replaying steps within bounds may ask for.  `seen` are the verdicts on the left side before,
`seen'` those afterwards. -/
structure Replayed (b : ErrorBounds R) (steps : List (Step R)) (seen seen' : List (Valuation × Bool))
    (j : Journal R) : Prop where
  draws : j.draws = []
  bounds : ∀ a ∈ j.asks, a.bounds = b
  posts : j.posts.Sublist (steps.filterMap Step.post?)
  distinct : j.preValues.Nodup
  pending : j.preValues ⊆ steps.filterMap Step.preValues?
  fresh : ∀ v ∈ j.preValues, v ∉ seen.map Prod.fst
  known : seen.map Prod.fst ++ j.preValues ⊆ seen'.map Prod.fst

namespace Replayed

variable {b : ErrorBounds R} {steps steps' : List (Step R)}
  {seen seen' seen'' : List (Valuation × Bool)} {j k : Journal R}

theorem nothing (steps : List (Step R)) (h : seen.map Prod.fst ⊆ seen'.map Prod.fst) :
    Replayed b steps seen seen' ∅ where
  draws := rfl
  bounds _ ha := (List.not_mem_nil ha).elim
  posts := List.nil_sublist _
  distinct := .nil
  pending := List.nil_subset _
  fresh _ hv := (List.not_mem_nil hv).elim
  known := List.append_subset.2 ⟨h, List.nil_subset _⟩

theorem post (s : State R) :
    Replayed b [⟨.post, .deferred s⟩] seen seen (.ofAsk ⟨.post, s, b⟩) where
  draws := rfl
  bounds := List.forall_mem_singleton.2 rfl
  posts := List.Sublist.refl [s]
  distinct := .nil
  pending := List.nil_subset _
  fresh _ hv := (List.not_mem_nil hv).elim
  known := List.append_subset.2 ⟨List.Subset.refl _, List.nil_subset _⟩

theorem pre {s : State R} (hs : s.values ∉ seen.map Prod.fst) (holds : Bool) :
    Replayed b [⟨.pre, .deferred s⟩] seen ((s.values, holds) :: seen) (.ofAsk ⟨.pre, s, b⟩) where
  draws := rfl
  bounds := List.forall_mem_singleton.2 rfl
  posts := List.Sublist.refl []
  distinct := List.nodup_singleton s.values
  pending := List.Subset.refl [s.values]
  fresh := List.forall_mem_singleton.2 hs
  known := List.append_subset.2
    ⟨List.subset_cons_self _ _, List.cons_subset_cons _ (List.nil_subset _)⟩

theorem append (hj : Replayed b steps seen seen' j) (hk : Replayed b steps' seen' seen'' k) :
    Replayed b (steps ++ steps') seen seen'' (j ++ k) := by
  obtain ⟨hseen, hj'⟩ := List.append_subset.1 hj.known
  obtain ⟨hseen', hk'⟩ := List.append_subset.1 hk.known
  constructor
  · rw [Journal.draws_append, hj.draws, hk.draws, List.append_nil]
  · intro a ha
    rcases List.mem_append.1 ha with ha | ha
    exacts [hj.bounds a ha, hk.bounds a ha]
  · rw [Journal.posts_append, List.filterMap_append]
    exact hj.posts.append hk.posts
  · rw [Journal.preValues_append, List.nodup_append']
    exact ⟨hj.distinct, hk.distinct, fun v hv hv' => hk.fresh v hv' (hj' hv)⟩
  · rw [Journal.preValues_append, List.filterMap_append]
    exact List.append_subset.2 ⟨List.subset_append_of_subset_left _ hj.pending,
      List.subset_append_of_subset_right _ hk.pending⟩
  · intro v hv
    rw [Journal.preValues_append] at hv
    rcases List.mem_append.1 hv with hv | hv
    exacts [hj.fresh v hv, fun h => hk.fresh v hv (hseen h)]
  · rw [Journal.preValues_append]
    exact List.append_subset.2 ⟨List.Subset.trans hseen hseen',
      List.append_subset.2 ⟨List.Subset.trans hj' hseen', hk'⟩⟩

end Replayed

/-! ### Checks and their resolution -/

section Journaling

theorem Run.unrecorded_keeps_journal {S α : Type} (x : Run R (Session R G S) α) :
    Keeps Session.journal x.unrecorded := by
  intro σ a σ' h
  unfold Run.unrecorded at h
  obtain ⟨r, -, hr⟩ := map_eq_ok_iff.1 h
  cases hr
  rfl

theorem Forgets.keeps_scope {S α : Type} {x : Run R (Session R (G × Journal R) S) α}
    {y : Run R (Session R G S) α} (h : Forgets x y) (hy : Keeps Session.scope y) :
    Keeps Session.scope x :=
  (forgets_iff_lifts.1 h).keeps (fun _ => rfl) hy

variable {u : UntilCheck R G} {σ σ' : Session R (G × Journal R) Unit}

/-- The check of a side is written down with the bounds in force if there is a threshold in it. -/
theorem check_journaling (hu : u.KeepsScope) {side : Side} {s : State R} {holds : Bool}
    (h : (u.journaling.side side).check s σ = .ok (holds, σ')) :
    σ'.scope = σ.scope ∧ σ'.journal = σ.journal ++
      if (u.side side).probabilistic then .ofAsk ⟨side, s, σ.verifier.params.bounds⟩ else ∅ := by
  refine ⟨(Forgets.check u side s).keeps_scope (hu side s) σ holds σ' h, ?_⟩
  rw [UntilCheck.side_journaling] at h
  rcases Run.ite_eq_ok.1 h with ⟨hprobabilistic, h⟩ | ⟨hprobabilistic, h⟩
  · obtain ⟨_, σ₁, hask, h⟩ := Run.bind_eq_ok.1 h
    cases hask
    rw [if_pos hprobabilistic]
    exact Run.unrecorded_keeps_journal _ _ _ _ h
  · rw [if_neg hprobabilistic, Journal.append_empty]
    exact Run.unrecorded_keeps_journal _ _ _ _ h

theorem settle_replayed (hu : u.KeepsScope) {step : Step R} {seen seen' : List (Valuation × Bool)}
    {holds : Bool}
    (h : Trace.settle (fun side => (u.journaling.side side).check) step seen σ
      = .ok ((holds, seen'), σ')) :
    σ'.scope = σ.scope ∧ ∃ j, σ'.journal = σ.journal ++ j ∧
      Replayed σ.verifier.params.bounds [step] seen seen' j := by
  obtain ⟨side, finding⟩ := step
  have hnothing (h : seen = seen' ∧ σ = σ') : σ'.scope = σ.scope ∧ ∃ j,
      σ'.journal = σ.journal ++ j ∧
        Replayed σ.verifier.params.bounds [⟨side, finding⟩] seen seen' j := by
    obtain ⟨rfl, rfl⟩ := h
    exact ⟨rfl, ∅, (Journal.append_empty _).symm, .nothing _ (List.Subset.refl _)⟩
  cases finding with
  | known known =>
    cases side <;> obtain ⟨hr, hσ⟩ := Run.pure_eq_ok.1 h <;> exact hnothing ⟨(Prod.mk.inj hr).2, hσ⟩
  | deferred state =>
    cases side with
    | post =>
      obtain ⟨_, _, hcheck, h⟩ := Run.bind_eq_ok.1 h
      obtain ⟨hr, rfl⟩ := Run.pure_eq_ok.1 h
      obtain ⟨-, rfl⟩ := Prod.mk.inj hr
      obtain ⟨hscope, hjournal⟩ := check_journaling hu hcheck
      refine ⟨hscope, _, hjournal, ?_⟩
      split_ifs
      · exact .post state
      · exact .nothing _ (List.Subset.refl _)
    | pre =>
      unfold Trace.settle at h
      cases hlookup : seen.lookup state.values with
      | some known =>
        simp only [hlookup] at h
        obtain ⟨hr, hσ⟩ := Run.pure_eq_ok.1 h
        exact hnothing ⟨(Prod.mk.inj hr).2, hσ⟩
      | none =>
        simp only [hlookup] at h
        obtain ⟨holds', _, hcheck, h⟩ := Run.bind_eq_ok.1 h
        obtain ⟨hr, rfl⟩ := Run.pure_eq_ok.1 h
        obtain ⟨-, rfl⟩ := Prod.mk.inj hr
        obtain ⟨hscope, hjournal⟩ := check_journaling hu hcheck
        refine ⟨hscope, _, hjournal, ?_⟩
        split_ifs
        · exact .pre (lookup_eq_none_iff_not_mem.1 hlookup) _
        · exact .nothing _ (List.subset_cons_self _ _)

theorem replay_replayed (hu : u.KeepsScope) {steps : List (Step R)}
    {seen seen' : List (Valuation × Bool)} {outcome : Outcome}
    (h : Trace.replay (fun side => (u.journaling.side side).check) steps seen σ
      = .ok ((outcome, seen'), σ')) :
    σ'.scope = σ.scope ∧ ∃ j, σ'.journal = σ.journal ++ j ∧
      Replayed σ.verifier.params.bounds steps seen seen' j := by
  induction steps generalizing seen σ with
  | nil =>
    obtain ⟨hr, rfl⟩ := Run.pure_eq_ok.1 h
    obtain ⟨-, rfl⟩ := Prod.mk.inj hr
    exact ⟨rfl, ∅, (Journal.append_empty _).symm, .nothing _ (List.Subset.refl _)⟩
  | cons step steps ih =>
    obtain ⟨⟨holds, seen₁⟩, σ₁, hsettle, h⟩ := Run.bind_eq_ok.1 h
    obtain ⟨hscope, j, hj, hfirst⟩ := settle_replayed hu hsettle
    have hparams := (Session.scope_eq_iff.1 hscope).1
    -- The rest is replayed unless this step decides.
    have hrest : σ'.scope = σ₁.scope ∧ ∃ k, σ'.journal = σ₁.journal ++ k ∧
        Replayed σ₁.verifier.params.bounds steps seen₁ seen' k := by
      have hdecided {o : Outcome}
          (h : (pure (o, seen₁) : Run R _ (Outcome × List (Valuation × Bool))) σ₁
            = .ok ((outcome, seen'), σ')) :
          σ'.scope = σ₁.scope ∧ ∃ k, σ'.journal = σ₁.journal ++ k ∧
            Replayed σ₁.verifier.params.bounds steps seen₁ seen' k := by
        obtain ⟨hr, rfl⟩ := Run.pure_eq_ok.1 h
        obtain ⟨-, rfl⟩ := Prod.mk.inj hr
        exact ⟨rfl, ∅, (Journal.append_empty _).symm, .nothing _ (List.Subset.refl _)⟩
      cases houtcome : step.side.outcome holds with
      | «open» => exact ih (by simpa only [houtcome] using h)
      | satisfied => exact hdecided (by simpa only [houtcome] using h)
      | violated => exact hdecided (by simpa only [houtcome] using h)
    obtain ⟨hscope', k, hk, hsecond⟩ := hrest
    rw [hparams] at hsecond
    refine ⟨hscope'.trans hscope, j ++ k, ?_, hfirst.append hsecond⟩
    rw [hk, hj, Journal.append_assoc]

/-- A resolution asks within one bound for both errors, an equal share for each check that has been
counted. -/
theorem resolve_replayed [Scalar R] (hu : u.KeepsScope) {t t' : Trace R} {bound : R}
    {outcome : Outcome}
    (h : t.resolve (fun side => (u.journaling.side side).check) bound σ
      = .ok ((outcome, t'), σ')) :
    t'.pending = [] ∧ t'.budget = t.budget ∧ ∃ j, σ'.journal = σ.journal ++ j ∧
      Replayed (.both (bound / ((max 1 t.checkCount : Nat) : R))) t.pending.reverse t.preVerdicts
        t'.preVerdicts j := by
  obtain ⟨⟨outcome', seen⟩, σ₁, hwithin, h⟩ := Run.bind_eq_ok.1 h
  obtain ⟨hr, rfl⟩ := Run.pure_eq_ok.1 h
  obtain ⟨-, rfl⟩ := Prod.mk.inj hr
  obtain ⟨σ₂, hreplay, rfl⟩ := Run.withinBounds_eq_ok.1 hwithin
  obtain ⟨-, j, hj, hreplayed⟩ := replay_replayed hu hreplay
  exact ⟨rfl, rfl, j, hj, hreplayed⟩

end Journaling

/-! ### Counting checks -/

theorem Trace.deferredPosts_eq (t : Trace R) : t.deferredPosts = t.posts.length := by
  unfold deferredPosts posts
  rw [List.filterMap_reverse, List.length_reverse, List.length_filterMap_eq_countP]
  congr
  funext step
  obtain ⟨side, finding⟩ := step
  cases side <;> cases finding <;> rfl

/-- A resolution asks for no more checks than have been counted. -/
theorem Replayed.length_le {b : ErrorBounds R} {t : Trace R} {seen : List (Valuation × Bool)}
    {j : Journal R} (h : Replayed b t.pending.reverse t.preVerdicts seen j) :
    j.asks.length ≤ t.checkCount := by
  have hposts : j.posts.length ≤ t.deferredPosts := t.deferredPosts_eq ▸ h.posts.length_le
  have hnew : j.preValues ⊆ t.newPreValues := by
    intro v hv
    unfold Trace.newPreValues
    rw [List.mem_eraseDups, List.mem_filterMap]
    obtain ⟨step, hstep, hvalues⟩ := List.mem_filterMap.1 (h.pending hv)
    refine ⟨step, List.mem_reverse.1 hstep, ?_⟩
    have hlookup : t.preVerdicts.lookup v = none := lookup_eq_none_iff_not_mem.2 (h.fresh v hv)
    obtain ⟨side, finding⟩ := step
    cases finding with
    | known holds => cases side <;> cases hvalues
    | deferred state =>
      cases side with
      | post => cases hvalues
      | pre =>
        obtain rfl := Option.some.inj hvalues
        simp only [hlookup, Option.isSome_none, Bool.false_eq_true, if_false]
  have hpres : j.preValues.length ≤ t.newPreValues.length :=
    (List.subperm_of_subset h.distinct hnew).length_le
  rw [j.length_asks]
  exact Nat.add_le_add hpres hposts

end SimCheck
