import SimCheck.Scalar.Exact
import Mathlib.Algebra.Order.BigOperators.Group.List
import Mathlib.Tactic.FieldSimp
import Mathlib.Tactic.Linarith
import SimCheck.Proofs.ErrorBudget.Recording

/-!
# Accounts of wrong verdicts

If a check answers wrongly, some test has answered wrongly.  Which tests can be to blame does not
depend on the run: they are fixed by the tree, the bounds and the truth of the thresholds.  The
probabilities with which their tests may err add up to at most the probability with which the check
may err.

* `Charge` is a threshold with the bounds its test is given; it costs the bound on the wrong answer;
* `ErrsWithin t b r v x`: run within the bounds `b`, the recording check `x` answers `v` unless a
  test to blame has answered wrongly, and the tests to blame cost at most `r` in all;
* one lemma for each step of a check, and from them one for `anyIs` and one for `chain`.
-/

namespace SimCheck

variable {G S : Type}

namespace ErrorBounds

/-- The same bounds as exact scalars. -/
def exact (b : ErrorBounds ℝ) : ErrorBounds EReal := ⟨b.alpha, b.beta⟩

/-- The bound on the probability of a wrong verdict on something true or false. -/
def risk (b : ErrorBounds ℝ) (truth : Bool) : ℝ := if truth then b.alpha else b.beta

/-- Both bounds are strictly between zero and one. -/
structure Proper (b : ErrorBounds ℝ) : Prop where
  alpha : 0 < b.alpha ∧ b.alpha < 1
  beta : 0 < b.beta ∧ b.beta < 1

theorem Proper.risk_pos {b : ErrorBounds ℝ} (h : b.Proper) (v : Bool) : 0 < b.risk v := by
  cases v with
  | false => exact h.beta.1
  | true => exact h.alpha.1

end ErrorBounds

/-- A threshold with the bounds that its test is given. -/
structure Charge where
  site : Site
  bounds : ErrorBounds ℝ

namespace Charge

/-- The record of a wrong answer, when `t` says which thresholds are true. -/
def wrong (t : Site → Bool) (c : Charge) : TestRecord EReal :=
  ⟨c.site, c.bounds.exact, !t c.site⟩

/-- The bound on the probability of a wrong answer. -/
def cost (t : Site → Bool) (c : Charge) : ℝ := c.bounds.risk (t c.site)

end Charge

/-- The check keeps the parameters and all records. -/
def Tame {α : Type} (x : Recording EReal G S α) : Prop :=
  ∀ log s a log' s', x log s = .ok ((a, log'), s') →
    s'.verifier.params = s.verifier.params ∧ log ⊆ log'

/-- Within the bounds `b` the check answers `v` unless one of some charges is to blame, whose costs
add up to at most `r`. -/
structure ErrsWithin (t : Site → Bool) (b : ErrorBounds ℝ) (r : ℝ) (v : Bool)
    (x : Recording EReal G S Bool) : Prop where
  tame : Tame x
  blame : ∃ charges : List Charge, (∀ c ∈ charges, c.bounds.Proper) ∧
    (charges.map (·.cost t)).sum ≤ r ∧
    ∀ log s w log' s', s.verifier.params.bounds = b.exact → x log s = .ok ((w, log'), s') →
      w = v ∨ ∃ c ∈ charges, c.wrong t ∈ log'

/-! ### Steps of a check -/

theorem recording_bind_eq_ok {α β : Type} {x : Recording EReal G S α}
    {f : α → Recording EReal G S β} {log : List (TestRecord EReal)} {s : Session EReal G S}
    {r : (β × List (TestRecord EReal)) × Session EReal G S} :
    (x >>= f) log s = .ok r ↔
      ∃ a log' s', x log s = .ok ((a, log'), s') ∧ f a log' s' = .ok r := by
  show ((x log : Run EReal (Session EReal G S) _) >>= fun p => f p.1 p.2) s = .ok r ↔ _
  rw [Run.bind_eq_ok]
  constructor
  · rintro ⟨⟨a, log'⟩, s', hx, hf⟩
    exact ⟨a, log', s', hx, hf⟩
  · rintro ⟨a, log', s', hx, hf⟩
    exact ⟨(a, log'), s', hx, hf⟩

theorem recording_pure_eq_ok {α : Type} {a b : α} {log log' : List (TestRecord EReal)}
    {s s' : Session EReal G S} :
    (pure a : Recording EReal G S α) log s = .ok ((b, log'), s') ↔
      a = b ∧ log = log' ∧ s = s' := by
  show Except.ok ((a, log), s) = Except.ok ((b, log'), s') ↔ _
  simp [and_assoc]

theorem recording_bounds_eq_ok {b : ErrorBounds EReal} {log log' : List (TestRecord EReal)}
    {s s' : Session EReal G S} :
    (Budgeted.bounds : Recording EReal G S _) log s = .ok ((b, log'), s') ↔
      s.verifier.params.bounds = b ∧ log = log' ∧ s = s' := by
  show Except.ok ((s.verifier.params.bounds, log), s) = Except.ok ((b, log'), s') ↔ _
  simp [and_assoc]

namespace Tame

variable {α β : Type}

theorem pure (a : α) : Tame (Pure.pure a : Recording EReal G S α) := by
  intro log s b log' s' h
  obtain ⟨-, rfl, rfl⟩ := recording_pure_eq_ok.1 h
  exact ⟨rfl, List.Subset.refl _⟩

theorem bind {x : Recording EReal G S α} {f : α → Recording EReal G S β} (hx : Tame x)
    (hf : ∀ a, Tame (f a)) : Tame (x >>= f) := by
  intro log s b log' s' h
  obtain ⟨a, log₁, s₁, hx₁, hf₁⟩ := recording_bind_eq_ok.1 h
  obtain ⟨hp, hl⟩ := hx _ _ _ _ _ hx₁
  obtain ⟨hp', hl'⟩ := hf a _ _ _ _ _ hf₁
  exact ⟨hp'.trans hp, List.Subset.trans hl hl'⟩

theorem ite {c : Prop} [Decidable c] {x y : Recording EReal G S α} (hx : Tame x) (hy : Tame y) :
    Tame (if c then x else y) := by
  split_ifs
  exacts [hx, hy]

theorem lift {x : Run EReal (Session EReal G S) α} (hx : Run.Keeps Session.scope x) :
    Tame (StateT.lift x : Recording EReal G S α) := by
  intro log s a log' s' h
  obtain ⟨b, s₁, hb, hr⟩ := Run.bind_eq_ok.1 h
  obtain ⟨hab, rfl⟩ := Run.pure_eq_ok.1 hr
  obtain ⟨-, rfl⟩ := Prod.mk.inj hab
  exact ⟨(Session.scope_eq_iff.1 (hx _ _ _ hb)).1, List.Subset.refl _⟩

theorem bounds : Tame (Budgeted.bounds : Recording EReal G S (ErrorBounds EReal)) := by
  intro log s b log' s' h
  obtain ⟨-, rfl, rfl⟩ := recording_bounds_eq_ok.1 h
  exact ⟨rfl, List.Subset.refl _⟩

theorem within (b : ErrorBounds EReal) {x : Recording EReal G S α} (hx : Tame x) :
    Tame (Budgeted.within b x) := by
  intro log s a log' s' h
  obtain ⟨u, hu, rfl⟩ := Run.withinBounds_eq_ok.1 h
  exact ⟨rfl, (hx _ _ _ _ _ hu).2⟩

end Tame

namespace ErrsWithin

variable {t : Site → Bool} {b : ErrorBounds ℝ} {r r' : ℝ} {v v' : Bool}
  {x : Recording EReal G S Bool} {f : Bool → Recording EReal G S Bool}

theorem mono (h : ErrsWithin t b r v x) (hr : r ≤ r') : ErrsWithin t b r' v x := by
  obtain ⟨charges, hproper, hcost, hblame⟩ := h.blame
  exact ⟨h.tame, charges, hproper, hcost.trans hr, hblame⟩

theorem pure (v : Bool) : ErrsWithin t b 0 v (Pure.pure v : Recording EReal G S Bool) := by
  refine ⟨.pure v, [], by simp, by simp, ?_⟩
  intro log s w log' s' _ h
  exact .inl (recording_pure_eq_ok.1 h).1.symm

/-- A run that answers `v` or nothing costs nothing. -/
theorem lift {y : Run EReal (Session EReal G S) Bool} (hy : Run.Keeps Session.scope y)
    (hv : ∀ s w s', y s = .ok (w, s') → w = v) : ErrsWithin t b 0 v (StateT.lift y) := by
  refine ⟨.lift hy, [], by simp, by simp, ?_⟩
  intro log s w log' s' _ h
  obtain ⟨a, s₁, ha, hr⟩ := Run.bind_eq_ok.1 h
  obtain ⟨haw, -⟩ := Run.pure_eq_ok.1 hr
  obtain ⟨rfl, -⟩ := Prod.mk.inj haw
  exact .inl (hv _ _ _ ha)

/-- If the first step is right the second decides; if it is wrong it is to blame itself. -/
theorem bind (hx : ErrsWithin t b r v x) (hf : ∀ a, Tame (f a))
    (hv : ErrsWithin t b r' v' (f v)) : ErrsWithin t b (r + r') v' (x >>= f) := by
  obtain ⟨charges, hproper, hcost, hblame⟩ := hx.blame
  obtain ⟨charges', hproper', hcost', hblame'⟩ := hv.blame
  refine ⟨hx.tame.bind hf, charges ++ charges', ?_, ?_, ?_⟩
  · intro c hc
    exact (List.mem_append.1 hc).elim (hproper c) (hproper' c)
  · rw [List.map_append, List.sum_append]
    exact add_le_add hcost hcost'
  · intro log s w log' s' hs h
    obtain ⟨a, log₁, s₁, hx₁, hf₁⟩ := recording_bind_eq_ok.1 h
    -- The second step runs within the same bounds and keeps the records of the first.
    have hs₁ : s₁.verifier.params.bounds = b.exact := by rw [(hx.tame _ _ _ _ _ hx₁).1, hs]
    rcases hblame _ _ _ _ _ hs hx₁ with rfl | ⟨c, hc, hwrong⟩
    · rcases hblame' _ _ _ _ _ hs₁ hf₁ with hw | ⟨c, hc, hwrong⟩
      · exact .inl hw
      · exact .inr ⟨c, List.mem_append_right _ hc, hwrong⟩
    · exact .inr ⟨c, List.mem_append_left _ hc, (hf a _ _ _ _ _ hf₁).2 hwrong⟩

/-- If the verdict is the same whatever the first step answers, the first step is not to blame. -/
theorem branch {ρ : Bool → ℝ} (hx : Tame x) (hf : ∀ a, ErrsWithin t b (ρ a) v (f a)) :
    ErrsWithin t b (ρ true + ρ false) v (x >>= f) := by
  obtain ⟨charges, hproper, hcost, hblame⟩ := (hf true).blame
  obtain ⟨charges', hproper', hcost', hblame'⟩ := (hf false).blame
  refine ⟨hx.bind fun a => (hf a).tame, charges ++ charges', ?_, ?_, ?_⟩
  · intro c hc
    exact (List.mem_append.1 hc).elim (hproper c) (hproper' c)
  · rw [List.map_append, List.sum_append]
    exact add_le_add hcost hcost'
  · intro log s w log' s' hs h
    obtain ⟨a, log₁, s₁, hx₁, hf₁⟩ := recording_bind_eq_ok.1 h
    have hs₁ : s₁.verifier.params.bounds = b.exact := by rw [(hx _ _ _ _ _ hx₁).1, hs]
    cases a with
    | true =>
      refine (hblame _ _ _ _ _ hs₁ hf₁).imp_right ?_
      rintro ⟨c, hc, hwrong⟩
      exact ⟨c, List.mem_append_left _ hc, hwrong⟩
    | false =>
      refine (hblame' _ _ _ _ _ hs₁ hf₁).imp_right ?_
      rintro ⟨c, hc, hwrong⟩
      exact ⟨c, List.mem_append_right _ hc, hwrong⟩

/-- The bounds that a check reads are the bounds that it runs within. -/
theorem bounds {k : ErrorBounds EReal → Recording EReal G S Bool} (hk : ∀ a, Tame (k a))
    (h : ErrsWithin t b r v (k b.exact)) : ErrsWithin t b r v (Budgeted.bounds >>= k) := by
  obtain ⟨charges, hproper, hcost, hblame⟩ := h.blame
  refine ⟨Tame.bounds.bind hk, charges, hproper, hcost, ?_⟩
  intro log s w log' s' hs h
  obtain ⟨_, _, _, hb, hk⟩ := recording_bind_eq_ok.1 h
  obtain ⟨rfl, rfl, rfl⟩ := recording_bounds_eq_ok.1 hb
  exact hblame _ _ _ _ _ hs (hs ▸ hk)

/-- Within other bounds it is those that count. -/
theorem within {b' : ErrorBounds ℝ} (h : ErrsWithin t b' r v x) :
    ErrsWithin t b r v (Budgeted.within b'.exact x) := by
  obtain ⟨charges, hproper, hcost, hblame⟩ := h.blame
  refine ⟨h.tame.within _, charges, hproper, hcost, ?_⟩
  intro log s w log' s' _ h
  obtain ⟨u, hu, rfl⟩ := Run.withinBounds_eq_ok.1 h
  exact hblame _ _ _ _ _ rfl hu

/-- A test is to blame for its own wrong answer. -/
theorem test {l : Leaves EReal (Run EReal (Session EReal G S))} {site : Site} {bound : EReal}
    {path : PathProperty EReal} (hl : Run.Keeps Session.scope (l.test site bound path))
    (hb : b.Proper) :
    ErrsWithin t b (b.risk (t site)) (t site) (l.recorded.test site bound path) := by
  have key : ∀ log s w log' s', l.recorded.test site bound path log s = .ok ((w, log'), s') →
      s'.verifier.params = s.verifier.params ∧
        log' = ⟨site, s.verifier.params.bounds, w⟩ :: log := by
    intro log s w log' s' h
    obtain ⟨_, _, hb, h⟩ := Run.bind_eq_ok.1 h
    obtain ⟨a, s₁, ha, hr⟩ := Run.bind_eq_ok.1 h
    obtain ⟨haw, rfl⟩ := Run.pure_eq_ok.1 hr
    obtain ⟨rfl, rfl⟩ := Prod.mk.inj haw
    cases hb
    exact ⟨(Session.scope_eq_iff.1 (hl _ _ _ ha)).1, rfl⟩
  refine ⟨?_, [⟨site, b⟩], by simpa using hb, by simp [Charge.cost], ?_⟩
  · intro log s w log' s' h
    obtain ⟨hp, rfl⟩ := key _ _ _ _ _ h
    exact ⟨hp, List.subset_cons_self _ _⟩
  · intro log s w log' s' hs h
    obtain ⟨-, rfl⟩ := key _ _ _ _ _ h
    by_cases hw : w = t site
    · exact .inl hw
    · refine .inr ⟨⟨site, b⟩, List.mem_singleton_self _, ?_⟩
      rw [Charge.wrong, hs, ← Bool.eq_not_of_ne hw]
      exact List.mem_cons_self

/-! ### Lists of verdicts -/

/-- A verdict decides the search rightly by itself; a search that must fail can be misled by each of
the verdicts. -/
theorem anyIs (d : Bool) {ρ : Bool → ℝ} {xs : List (Recording EReal G S Bool)} {vs : List Bool}
    (h : List.Forall₂ (fun x v => ErrsWithin t b (ρ v) v x) xs vs) :
    ErrsWithin t b (if vs.any (· == d) then ρ d else vs.length * ρ (!d)) (vs.any (· == d))
      (Verdict.anyIs d xs) := by
  induction h with
  | nil =>
    show ErrsWithin t b (([] : List Bool).length * ρ (!d)) false (Pure.pure false)
    simpa using pure false
  | @cons x v xs vs hx _ ih =>
    let rest : Bool → Recording EReal G S Bool :=
      fun a => if (a == d) = true then Pure.pure true else Verdict.anyIs d xs
    have htame : ∀ a, Tame (rest a) := fun a => .ite (.pure _) ih.tame
    have hfound : rest d = Pure.pure true := if_pos (beq_self_eq_true d)
    have hsearch : rest (!d) = Verdict.anyIs d xs := if_neg (by simp)
    show ErrsWithin t b _ _ (x >>= rest)
    rcases Bool.eq_or_eq_not v d with rfl | rfl
    · have h : ErrsWithin t b (ρ v + 0) true (x >>= rest) :=
        hx.bind htame (hfound ▸ pure true)
      simpa using h
    · have hany : ((!d) :: vs).any (· == d) = vs.any (· == d) := by simp
      rw [hany]
      cases hvs : vs.any (· == d) with
      | true =>
        -- a wrong first answer would give the right verdict
        rw [hvs] at ih
        have hrest : ∀ a, ErrsWithin t b (if a = d then 0 else ρ d) true (rest a) := by
          intro a
          rcases Bool.eq_or_eq_not a d with rfl | rfl
          · simpa [hfound] using pure true
          · simpa [hsearch] using ih
        have := branch hx.tame hrest
        cases d <;> simpa using this
      | false =>
        -- a wrong first answer would end the search
        rw [hvs] at ih
        have hrest : ErrsWithin t b (vs.length * ρ (!d)) false (rest !d) := by
          simpa [hsearch] using ih
        refine (hx.bind htame hrest).mono (le_of_eq ?_)
        simp only [Bool.false_eq_true, if_false, List.length_cons, Nat.cast_add, Nat.cast_one]
        ring

/-- Each of the verdicts can mislead a chain. -/
theorem chain (c : Bool) {xs : List (Recording EReal G S Bool)} {vs : List (Bool × ℝ)}
    (h : List.Forall₂ (fun x v => ErrsWithin t b v.2 v.1 x) xs vs) :
    ErrsWithin t b (vs.map (·.2)).sum ((vs.map (·.1)).foldl (· == ·) c) (Verdict.chain c xs) := by
  induction h generalizing c with
  | nil => exact pure c
  | @cons x v xs vs hx _ ih =>
    show ErrsWithin t b (v.2 + (vs.map (·.2)).sum) _ (x >>= fun a => Verdict.chain (c == a) xs)
    exact hx.bind (fun a => (ih (c == a)).tame) (ih (c == v.1))

end ErrsWithin

end SimCheck
