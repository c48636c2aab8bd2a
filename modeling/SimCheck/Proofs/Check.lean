import SimCheck.Verifier.Check
import SimCheck.Proofs.Run
import SimCheck.Proofs.Test.Verdict

/-!
# The steps of a threshold test

A threshold is tested in three steps: the test is opened, completed and closed.  What it observes are
simulated paths.

* `simulate_eq_ok`: a simulation reports whether its walk was satisfied;
* `openTest_eq_ok`: it is opened with the sample that is kept for its path and values;
* `completeTest_eq_ok`: it is done afterwards, and its verdict is the one on its sample;
* `closeTest_eq`: its sample is kept.
-/

namespace SimCheck

variable {R G S : Type} [Scalar R]

/-- A simulation that ends reports whether its walk was satisfied. -/
theorem simulate_eq_ok {sim : Simulator R G} {u : UntilCheck R G} {s : State R} {budget : R}
    {σ σ' : Session R G Unit} {b : Bool} (h : simulate sim u s budget σ = .ok (b, σ')) :
    ∃ e σ₁, Walk.run sim.model u s.time sim.fuel (.start s budget) σ = .ok (e, σ₁) ∧
      (b = true ↔ e.outcome = .satisfied) := by
  obtain ⟨e, σ₁, hwalk, h⟩ := Run.bind_eq_ok.1 h
  have hb : (e.outcome == .satisfied) = b := by
    obtain ⟨_, _, -, h⟩ := Run.bind_eq_ok.1 h
    rcases Run.ite_eq_ok.1 h with ⟨-, h⟩ | ⟨-, h⟩
    · obtain ⟨_, _, -, h⟩ := Run.bind_eq_ok.1 h
      exact (Run.pure_eq_ok.1 h).1
    · exact (Run.pure_eq_ok.1 h).1
  exact ⟨e, σ₁, hwalk, by rw [← hb, beq_iff_eq]⟩

/-- The test with the sample that is kept under a key, if samples are kept and there is one. -/
def ThresholdTest.resumeFrom [Distributions R] (t : ThresholdTest R) (v : Verifier R G)
    (k : CacheKey) : ThresholdTest R :=
  if v.params.memoization then (v.cache.get? k).elim t t.resume else t

/-- A test judges as before with a sample of the cache. -/
theorem ThresholdTest.judge_resumeFrom [Distributions R] (t : ThresholdTest R) (v : Verifier R G)
    (k : CacheKey) : (t.resumeFrom v k).judge = t.judge := by
  unfold ThresholdTest.resumeFrom
  split_ifs
  · cases v.cache.get? k with
    | none => rfl
    | some sample => exact ThresholdTest.judge_resume t sample
  · rfl

/-! ### Opening a test -/

section Open

variable [Distributions R] {u : UntilCheck R G} {bound : R} {s : State R}

theorem openTest_eq_ok {t : ThresholdTest R} {σ σ' : Session R G S} :
    openTest u bound s σ = .ok (t, σ') ↔
      (∃ new, ThresholdTest.create σ.verifier.params.thresholdAlgorithm
          (Region.around bound σ.verifier.params.delta (u.nestedError σ.verifier.params))
          σ.verifier.params = .ok new ∧ new.resumeFrom σ.verifier ⟨u.id, s.values⟩ = t) ∧
        σ = σ' := by
  unfold openTest ThresholdTest.resumeFrom
  simp only [Run.bind_eq_ok, Run.verifier_eq_ok, Run.ofExcept_eq_ok]
  constructor
  · rintro ⟨_, _, ⟨rfl, rfl⟩, new, _, ⟨hnew, rfl⟩, h⟩
    refine ⟨⟨new, hnew, ?_⟩, ?_⟩
    all_goals
      rcases Run.ite_eq_ok.1 h with ⟨hmemo, h⟩ | ⟨hmemo, h⟩
      · cases hcache : σ.verifier.cache.get? ⟨u.id, s.values⟩ <;> rw [hcache] at h <;>
          simp_all [Run.pure_eq_ok]
      · simp_all [Run.pure_eq_ok]
  · rintro ⟨⟨new, hnew, rfl⟩, rfl⟩
    refine ⟨_, _, ⟨rfl, rfl⟩, new, _, ⟨hnew, rfl⟩, Run.ite_eq_ok.2 ?_⟩
    cases hmemo : σ.verifier.params.memoization with
    | false => exact .inr ⟨Bool.false_ne_true, rfl⟩
    | true =>
      refine .inl ⟨rfl, ?_⟩
      cases σ.verifier.cache.get? ⟨u.id, s.values⟩ <;> rfl

end Open

/-! ### Completing a test -/

section Complete

variable [Distributions R] {t t' : ThresholdTest R} {src : SampleSource R S}
  {path : Run R (Session R G Unit) Bool} {σ σ' : Session R G S}

/-- A verdict that has been reached is the verdict on the sample. -/
def ThresholdTest.Sound (t : ThresholdTest R) : Prop :=
  t.isDone = true → t.verdict? = t.judge t.sample

theorem ThresholdTest.Sound.resumeFrom {new : ThresholdTest R} (hnew : new.isDone = false)
    (v : Verifier R G) (k : CacheKey) : (new.resumeFrom v k).Sound := by
  intro hdone
  unfold ThresholdTest.resumeFrom at hdone ⊢
  split_ifs at hdone ⊢
  · cases hcache : v.cache.get? k with
    | none => simp [hcache, hnew] at hdone
    | some sample =>
      show (new.resume sample).verdict? = (new.resume sample).judge (new.resume sample).sample
      rw [ThresholdTest.verdict?_resume, ThresholdTest.judge_resume, ThresholdTest.sample_resume]
  · simp [hnew] at hdone

theorem observeUntilDone_eq_ok {fuel : ℕ} (ht : t.Sound)
    (h : observeUntilDone src path fuel t σ = .ok (t', σ')) :
    t'.isDone = true ∧ t'.Sound ∧ t'.judge = t.judge := by
  induction fuel generalizing t σ with
  | zero =>
    rcases Run.ite_eq_ok.1 h with ⟨hdone, h⟩ | ⟨-, h⟩
    · obtain ⟨rfl, -⟩ := Run.pure_eq_ok.1 h
      exact ⟨hdone, ht, rfl⟩
    · exact (Run.throw_ne_ok h).elim
  | succ fuel ih =>
    rcases Run.ite_eq_ok.1 h with ⟨hdone, h⟩ | ⟨hdone, h⟩
    · obtain ⟨rfl, -⟩ := Run.pure_eq_ok.1 h
      exact ⟨hdone, ht, rfl⟩
    · obtain ⟨b, σ₁, -, h⟩ := Run.bind_eq_ok.1 h
      have hpush := ThresholdTest.verdict?_push (eq_false_of_ne_true hdone) b
      rw [← ThresholdTest.judge_push t b] at hpush
      obtain ⟨hdone', ht', hjudge⟩ := ih (fun _ => hpush) h
      exact ⟨hdone', ht', hjudge.trans (ThresholdTest.judge_push t b)⟩

theorem completeTest_eq_ok {id : PropertyId} {s : State R} {fuel : ℕ} (ht : t.Sound)
    (h : completeTest src id s path fuel t σ = .ok (t', σ')) :
    t'.isDone = true ∧ t'.Sound ∧ t'.judge = t.judge := by
  rcases Run.ite_eq_ok.1 h with ⟨hdone, h⟩ | ⟨-, h⟩
  · obtain ⟨rfl, -⟩ := Run.pure_eq_ok.1 h
    exact ⟨hdone, ht, rfl⟩
  · obtain ⟨_, σ₁, -, h⟩ := Run.bind_eq_ok.1 h
    obtain ⟨t₁, σ₂, hobserve, h⟩ := Run.bind_eq_ok.1 h
    obtain ⟨_, σ₃, -, h⟩ := Run.bind_eq_ok.1 h
    obtain ⟨rfl, -⟩ := Run.pure_eq_ok.1 h
    exact observeUntilDone_eq_ok ht hobserve

/-- A test that is done from the start asks for nothing. -/
theorem completeTest_of_isDone (ht : t.isDone = true) (id : PropertyId) (s : State R) (fuel : ℕ) :
    completeTest src id s path fuel t = pure t := if_pos ht

end Complete

/-! ### Closing a test -/

/-- The verifier after a test has been closed. -/
def Verifier.close (v : Verifier R G) (u : UntilCheck R G) (s : State R) (t : ThresholdTest R) :
    Verifier R G :=
  let cache := v.cache.insert ⟨u.id, s.values⟩ t.sample
  { v with
    stats := { v.stats with
      sampleSize :=
        if v.level = 1 then v.stats.sampleSize.push (t.sample.count : R) else v.stats.sampleSize
      cacheSize :=
        if v.params.memoization then v.stats.cacheSize.push (cache.size : R) else v.stats.cacheSize }
    cache := if v.params.memoization then cache else v.cache
    events := .testFinished v.level u.id s t :: v.events }

theorem Verifier.cache_close (v : Verifier R G) (u : UntilCheck R G) (s : State R)
    (t : ThresholdTest R) :
    (v.close u s t).cache =
      if v.params.memoization then v.cache.insert ⟨u.id, s.values⟩ t.sample else v.cache := rfl

theorem closeTest_eq (u : UntilCheck R G) (s : State R) (t : ThresholdTest R) (σ : Session R G S) :
    closeTest u s t σ = .ok ((), { σ with verifier := σ.verifier.close u s t }) := by
  unfold closeTest Verifier.close
  refine Run.bind_eq_ok.2 ⟨_, _, rfl, Run.bind_eq_ok.2 ⟨_, _, rfl, ?_⟩⟩
  by_cases hlevel : σ.verifier.level = 1 <;> cases hmemo : σ.verifier.params.memoization
  all_goals
    simp only [hlevel, if_true, if_false, Bool.false_eq_true]
    rfl

end SimCheck
