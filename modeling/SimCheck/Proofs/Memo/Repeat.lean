import SimCheck.Proofs.Scope
import Mathlib.Data.List.Pairwise

/-!
# Doing it again with the samples kept

A computation that has been done once, with samples kept, can be done again from the cache.  Where
each of its tests finds the sample that it has left there itself, it stops at once with the verdict
it had, so that the same branches are taken all over; no observation is asked for and no path is
simulated, and every sample is stored where it lies already.

* `runTest_stored`, `runTest_of_stored`: the sample that a threshold leaves, and a threshold that
  finds one;
* `Repeats ids x y`: `y` does `x` again, which stores samples of the path properties `ids` only;
* `Repeats.bind`: two computations one after the other, which do not share a path property;
* `Repeats.runTest`, `Repeats.checkThreshold`: a threshold.
-/

namespace SimCheck

open Run (Keeps)

variable {R G S S' α β : Type}

/-- Between the two sessions nothing has been drawn, observed, simulated or newly stored. -/
structure Session.Unmoved (σ τ : Session R G S) : Prop where
  params : τ.verifier.params = σ.verifier.params
  level : τ.verifier.level = σ.verifier.level
  generator : τ.verifier.generator = σ.verifier.generator
  cache : τ.verifier.cache = σ.verifier.cache
  pathLength : τ.verifier.stats.pathLength = σ.verifier.stats.pathLength
  source : τ.source = σ.source

namespace Session.Unmoved

variable {σ τ υ : Session R G S}

theorem refl (σ : Session R G S) : σ.Unmoved σ := ⟨rfl, rfl, rfl, rfl, rfl, rfl⟩

theorem trans (h : σ.Unmoved τ) (h' : τ.Unmoved υ) : σ.Unmoved υ :=
  ⟨h'.params.trans h.params, h'.level.trans h.level, h'.generator.trans h.generator,
    h'.cache.trans h.cache, h'.pathLength.trans h.pathLength, h'.source.trans h.source⟩

theorem scope (h : σ.Unmoved τ) : τ.scope = σ.scope := Session.scope_eq_iff.2 ⟨h.params, h.level⟩

end Session.Unmoved

/-- The sample that is kept under a key is no sample of another path property. -/
theorem cache_frame (k : CacheKey) :
    Frame (fun id => k.property ≠ id) fun v : Verifier R G => v.cache.get? k where
  generator _ _ := rfl
  stats _ _ := rfl
  events _ _ := rfl
  cache v j s hj := by
    have hne : k ≠ j := fun h => hj (congrArg CacheKey.property h)
    simp only [SampleCache.get?_insert, if_neg hne]
  params _ _ _ h := h
  level _ _ h := h

/-! ### The sample of a threshold -/

section Stored

variable [Scalar R] [Distributions R] {u : UntilCheck R G} {s : State R}

/-- The test that is opened for a threshold when there is no sample for it. -/
def freshTest (v : Verifier R G) (u : UntilCheck R G) (bound : R) :
    Except (Fault R) (ThresholdTest R) :=
  ThresholdTest.create v.params.thresholdAlgorithm
    (Region.around bound v.params.delta (u.nestedError v.params)) v.params

/-- A test of a threshold leaves a sample on which its verdict can be reached anew. -/
theorem runTest_stored (hscope : u.KeepsScope) {sim : Simulator R G} {src : SampleSource R S}
    {bound : R} {σ σ' : Session R G S} {b : Bool}
    (h : runTest sim src u bound s σ = .ok (b, σ'))
    (hmemo : σ.verifier.params.memoization = true) :
    ∃ new sample, freshTest σ.verifier u bound = .ok new ∧ new.judge sample = some b ∧
      σ'.verifier.cache.get? ⟨u.id, s.values⟩ = some sample := by
  obtain ⟨t, _, hopen, h⟩ := Run.bind_eq_ok.1 h
  obtain ⟨⟨new, hnew, rfl⟩, rfl⟩ := openTest_eq_ok.1 hopen
  obtain ⟨p, _, hp, h⟩ := Run.bind_eq_ok.1 h
  obtain ⟨rfl, rfl⟩ := Run.params_eq_ok.1 hp
  obtain ⟨t, σ₁, hcomplete, h⟩ := Run.bind_eq_ok.1 h
  obtain ⟨_, σ₂, hclose, h⟩ := Run.bind_eq_ok.1 h
  rw [closeTest_eq] at hclose
  cases hclose
  obtain ⟨rfl, rfl⟩ := Run.pure_eq_ok.1 h
  have hundecided : new.isDone = false := (ThresholdTest.create_undecided hnew).1
  obtain ⟨hdone, hsound, hjudge⟩ :=
    completeTest_eq_ok (.resumeFrom hundecided σ.verifier ⟨u.id, s.values⟩) hcomplete
  refine ⟨new, t.sample, hnew, ?_, ?_⟩
  · rw [← ThresholdTest.judge_resumeFrom, ← hjudge, ← hsound hdone]
    exact ThresholdTest.verdict?_eq_some.2 ⟨hdone, rfl⟩
  · have hscope₁ : σ₁.scope = σ.scope :=
      completeTest_keeps_scope sim.model src u.id s (simulate_keeps_scope hscope sim s _) _ _ σ t σ₁
        hcomplete
    have hmemo₁ : σ₁.verifier.params.memoization = true := by
      rw [(Session.scope_eq_iff.1 hscope₁).1, hmemo]
    rw [Verifier.cache_close, hmemo₁]
    simp only [if_true, SampleCache.get?_insert]

/-- Where there is a sample with a verdict, the test of a threshold stops at once. -/
theorem runTest_of_stored {sim : Simulator R G} {src : SampleSource R S} {bound : R}
    {σ : Session R G S} {b : Bool} {new : ThresholdTest R} {sample : Sample R}
    (hmemo : σ.verifier.params.memoization = true)
    (hnew : freshTest σ.verifier u bound = .ok new)
    (hstored : σ.verifier.cache.get? ⟨u.id, s.values⟩ = some sample)
    (hjudge : new.judge sample = some b) :
    ∃ σ', runTest sim src u bound s σ = .ok (b, σ') ∧ σ.Unmoved σ' := by
  obtain ⟨hdone, haccepts⟩ := ThresholdTest.verdict?_eq_some.1
    ((new.verdict?_resume sample).trans hjudge)
  have hopen : openTest u bound s σ = .ok (new.resume sample, σ) := by
    refine openTest_eq_ok.2 ⟨⟨new, hnew, ?_⟩, rfl⟩
    unfold ThresholdTest.resumeFrom
    rw [hmemo, hstored]
    rfl
  refine ⟨{ σ with verifier := σ.verifier.close u s (new.resume sample) }, ?_, ?_⟩
  · refine Run.bind_eq_ok.2 ⟨_, _, hopen, Run.bind_eq_ok.2 ⟨_, _, rfl, ?_⟩⟩
    rw [completeTest_of_isDone hdone]
    refine Run.bind_eq_ok.2 ⟨_, _, rfl, Run.bind_eq_ok.2 ⟨_, _, closeTest_eq .., ?_⟩⟩
    exact Run.pure_eq_ok.2 ⟨haccepts, rfl⟩
  · refine ⟨rfl, rfl, rfl, ?_, rfl, rfl⟩
    show (σ.verifier.close u s (new.resume sample)).cache = σ.verifier.cache
    rw [Verifier.cache_close, hmemo, ThresholdTest.sample_resume]
    exact SampleCache.insert_of_get? hstored

end Stored

/-! ### Doing a computation again -/

/-- The second computation does the first one again, wherever it finds the samples that the first one
has left of the path properties `ids`; the first one stores no others. -/
structure Repeats (ids : List PropertyId) (x : Run R (Session R G S) α)
    (y : Run R (Session R G S') α) : Prop where
  scope : Keeps Session.scope x
  confined : ∀ k : CacheKey, k.property ∉ ids → Keeps (Session.part (·.cache.get? k)) x
  again : ∀ σ a σ₁, x σ = .ok (a, σ₁) → σ.verifier.params.memoization = true →
    ∀ τ : Session R G S', τ.scope = σ.scope →
      (∀ k : CacheKey, k.property ∈ ids →
        τ.verifier.cache.get? k = σ₁.verifier.cache.get? k) →
      ∃ τ', y τ = .ok (a, τ') ∧ τ.Unmoved τ'

namespace Repeats

variable {i j : List PropertyId} {x : Run R (Session R G S) α} {y : Run R (Session R G S') α}

theorem mono (h : Repeats i x y) (hij : i ⊆ j) : Repeats j x y where
  scope := h.scope
  confined k hk := h.confined k fun hi => hk (hij hi)
  again σ a σ₁ hx hmemo τ hτ hcache := h.again σ a σ₁ hx hmemo τ hτ fun k hk => hcache k (hij hk)

theorem pure (a : α) : Repeats [] (Pure.pure a : Run R (Session R G S) α)
    (Pure.pure a : Run R (Session R G S') α) where
  scope := .pure a
  confined _ _ := .pure a
  again := by
    intro σ b σ₁ h _ τ _ _
    obtain ⟨rfl, -⟩ := Run.pure_eq_ok.1 h
    exact ⟨τ, rfl, .refl τ⟩

theorem ofExcept (e : Except (Fault R) α) :
    Repeats [] (Run.ofExcept e : Run R (Session R G S) α)
      (Run.ofExcept e : Run R (Session R G S') α) where
  scope := .ofExcept e
  confined _ _ := .ofExcept e
  again := by
    intro σ b σ₁ h _ τ _ _
    obtain ⟨rfl, -⟩ := Run.ofExcept_eq_ok.1 h
    exact ⟨τ, rfl, .refl τ⟩

theorem bounds : Repeats [] (Budgeted.bounds : Run R (Session R G S) (ErrorBounds R))
    (Budgeted.bounds : Run R (Session R G S') (ErrorBounds R)) where
  scope := Frame.bounds (f := fun v : Verifier R G => (v.params, v.level))
  confined k _ := Frame.bounds (f := fun v : Verifier R G => v.cache.get? k)
  again := by
    intro σ b σ₁ h _ τ hτ _
    obtain ⟨hparams, -⟩ := Session.scope_eq_iff.1 hτ
    cases h
    refine ⟨τ, ?_, .refl τ⟩
    show Except.ok (τ.verifier.params.bounds, τ) = _
    rw [hparams]

theorem bind {f : α → Run R (Session R G S) β} {g : α → Run R (Session R G S') β}
    (hx : Repeats i x y) (hf : ∀ a, Repeats j (f a) (g a)) (hij : i.Disjoint j) :
    Repeats (i ++ j) (x >>= f) (y >>= g) where
  scope := hx.scope.bind fun a => (hf a).scope
  confined k hk :=
    (hx.confined k fun h => hk (List.mem_append_left j h)).bind fun a =>
      (hf a).confined k fun h => hk (List.mem_append_right i h)
  again := by
    intro σ b σ₂ h hmemo τ hτ hcache
    obtain ⟨a, σ₁, hxa, hfb⟩ := Run.bind_eq_ok.1 h
    have hscope : σ₁.scope = σ.scope := hx.scope σ a σ₁ hxa
    -- What the first part has stored is still there after the second.
    have hfirst (k : CacheKey) (hk : k.property ∈ i) :
        τ.verifier.cache.get? k = σ₁.verifier.cache.get? k :=
      (hcache k (List.mem_append_left j hk)).trans
        ((hf a).confined k (fun h => hij hk h) σ₁ b σ₂ hfb)
    obtain ⟨τ₁, hy, hτ₁⟩ := hx.again σ a σ₁ hxa hmemo τ hτ hfirst
    have hmemo₁ : σ₁.verifier.params.memoization = true := by
      rw [(Session.scope_eq_iff.1 hscope).1, hmemo]
    have hsecond (k : CacheKey) (hk : k.property ∈ j) :
        τ₁.verifier.cache.get? k = σ₂.verifier.cache.get? k := by
      rw [hτ₁.cache]
      exact hcache k (List.mem_append_right i hk)
    obtain ⟨τ₂, hg, hτ₂⟩ := (hf a).again σ₁ b σ₂ hfb hmemo₁ τ₁
      (hτ₁.scope.trans (hτ.trans hscope.symm)) hsecond
    exact ⟨τ₂, Run.bind_eq_ok.2 ⟨a, τ₁, hy, hg⟩, hτ₁.trans hτ₂⟩

theorem bind_pure (f : α → β) (h : Repeats i x y) :
    Repeats i (x >>= fun a => Pure.pure (f a)) (y >>= fun a => Pure.pure (f a)) := by
  have hbind := h.bind (fun a => Repeats.pure (f a)) (List.disjoint_nil_right i)
  rwa [List.append_nil] at hbind

theorem ite {c : Prop} [Decidable c] {x' : Run R (Session R G S) α} {y' : Run R (Session R G S') α}
    (hx : Repeats i x y) (hx' : Repeats i x' y') :
    Repeats i (if c then x else x') (if c then y else y') := by
  split_ifs
  exacts [hx, hx']

theorem within (b : ErrorBounds R) (h : Repeats i x y) :
    Repeats i (Run.withinBounds b x) (Run.withinBounds b y) where
  scope := scope_frame.withinBounds b h.scope
  confined k hk := (cache_frame k).withinBounds b (h.confined k hk)
  again := by
    intro σ a σ₂ hrun hmemo τ hτ hcache
    obtain ⟨σ₁, hx, rfl⟩ := Run.withinBounds_eq_ok.1 hrun
    obtain ⟨hparams, hlevel⟩ := Session.scope_eq_iff.1 hτ
    obtain ⟨τ₁, hy, hτ₁⟩ := h.again _ a σ₁ hx hmemo
      { τ with verifier.params := τ.verifier.params.withBounds b }
      (Session.scope_eq_iff.2 ⟨by rw [hparams], hlevel⟩) hcache
    refine ⟨_, Run.withinBounds_eq_ok.2 ⟨τ₁, hy, rfl⟩, ?_⟩
    exact ⟨rfl, hτ₁.level, hτ₁.generator, hτ₁.cache, hτ₁.pathLength, hτ₁.source⟩

theorem nested (h : Repeats i x y) : Repeats i (Run.nested x) (Run.nested y) where
  scope := scope_frame.nested h.scope
  confined k hk := (cache_frame k).nested (h.confined k hk)
  again := by
    intro σ a σ₂ hrun hmemo τ hτ hcache
    obtain ⟨σ₁, hx, rfl⟩ := Run.nested_eq_ok.1 hrun
    obtain ⟨hparams, hlevel⟩ := Session.scope_eq_iff.1 hτ
    obtain ⟨τ₁, hy, hτ₁⟩ := h.again _ a σ₁ hx hmemo
      { τ with verifier.level := τ.verifier.level + 1 }
      (Session.scope_eq_iff.2 ⟨hparams, by rw [hlevel]⟩) hcache
    refine ⟨_, Run.nested_eq_ok.2 ⟨τ₁, hy, rfl⟩, ?_⟩
    have hback : τ₁.verifier.level - 1 = τ.verifier.level := Nat.sub_eq_of_eq_add hτ₁.level
    exact ⟨hτ₁.params, hback, hτ₁.generator, hτ₁.cache, hτ₁.pathLength, hτ₁.source⟩

/-! ### Thresholds -/

section Threshold

variable [Scalar R] [Distributions R] {inside : List PropertyId} {u u' : UntilCheck R G}
  {s s' : State R}

/-- The test of a threshold stops at once with the sample that it has left. -/
theorem runTest (hid : u'.id = u.id) (hprobabilistic : u'.isProbabilistic = u.isProbabilistic)
    (hscope : u.KeepsScope)
    (hinside : ∀ k : CacheKey, k.property ∉ inside → u.KeepsPart (·.cache.get? k))
    (hvalues : s'.values = s.values) (sim sim' : Simulator R G) (src : SampleSource R S)
    (src' : SampleSource R S') (bound : R) :
    Repeats (u.id :: inside) (SimCheck.runTest sim src u bound s)
      (SimCheck.runTest sim' src' u' bound s') where
  scope := runTest_keeps_scope hscope sim src bound s
  confined k hk := by
    rw [List.mem_cons, not_or] at hk
    obtain ⟨hne, hk⟩ := hk
    exact (cache_frame k).runTest (hinside k hk) hne sim src bound s
  again := by
    intro σ b σ' h hmemo τ hτ hcache
    obtain ⟨new, sample, hnew, hjudge, hstored⟩ := runTest_stored hscope h hmemo
    obtain ⟨hparams, -⟩ := Session.scope_eq_iff.1 hτ
    refine runTest_of_stored (hparams ▸ hmemo) ?_ ?_ hjudge
    · rw [← hnew]
      unfold freshTest UntilCheck.nestedError
      rw [hparams, hprobabilistic]
    · rw [hid, hvalues, hcache _ (List.mem_cons_self ..), hstored]

theorem checkThreshold (hid : u'.id = u.id)
    (hprobabilistic : u'.isProbabilistic = u.isProbabilistic) (hscope : u.KeepsScope)
    (hinside : ∀ k : CacheKey, k.property ∉ inside → u.KeepsPart (·.cache.get? k))
    (hvalues : s'.values = s.values) (sim sim' : Simulator R G) (src : SampleSource R S)
    (src' : SampleSource R S') (op : ThresholdOp) (bound : R) :
    Repeats (u.id :: inside) (SimCheck.checkThreshold sim src u op bound s)
      (SimCheck.checkThreshold sim' src' u' op bound s') := by
  unfold SimCheck.checkThreshold
  cases Property.trivialVerdict? op bound with
  | some verdict => exact (Repeats.pure verdict).mono (List.nil_subset _)
  | none =>
    exact (runTest hid hprobabilistic hscope hinside hvalues sim sim' src src' bound).nested

end Threshold

end Repeats

end SimCheck
