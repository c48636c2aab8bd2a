import SimCheck.Proofs.ErrorBudget.Layer
import Mathlib.Data.List.Forall2

/-!
# Checks without thresholds

A property without thresholds needs no test.  Its check depends on the state alone: either it answers
the truth value of the property in every session and leaves the session as it is, or it halts at the
same fault in every session, which is one of an expression.

* `Run.SettledUpTo F x v`: `x` answers `v` without an effect, or always halts, for a reason of which `F`
  holds; `Run.Settled x v`: for whatever reason;
* `Verdict.Evaluation Q`: combinations of verdicts respect what runs come to;
  `Verdict.Evaluation.combine`: what they come to;
* `Property.expressions`: the expressions of a tree;
* `check_settledUpTo`, `check_settled`: a check without thresholds is settled at the truth value of its
  property.
-/

namespace SimCheck

variable {R G S : Type}

namespace Run

variable {σ α β : Type} {F F' : Halt R → Prop}

/-- The run answers `v` in every state and leaves the state as it is, or it halts in every state, for a
reason of which `F` holds. -/
def SettledUpTo (F : Halt R → Prop) (x : Run R σ α) (v : α) : Prop :=
  (∀ s, x s = .ok (v, s)) ∨ ∃ h, F h ∧ ∀ s, x s = .error h

/-- The run answers `v` in every state and leaves the state as it is, or it halts in every state. -/
def Settled (x : Run R σ α) (v : α) : Prop :=
  (∀ s, x s = .ok (v, s)) ∨ ∃ h, ∀ s, x s = .error h

theorem settled_iff {x : Run R σ α} {v : α} : Settled x v ↔ SettledUpTo (fun _ => True) x v := by
  simp [Settled, SettledUpTo]

namespace Settled

theorem answers {x : Run R σ α} {v a : α} {s s' : σ} (hx : Settled x v) (h : x s = .ok (a, s')) :
    a = v ∧ s' = s := by
  rcases hx with hx | ⟨e, hx⟩
  · rw [hx] at h
    cases h
    exact ⟨rfl, rfl⟩
  · rw [hx] at h
    cases h

/-- What ends once ends from every state. -/
theorem eq_ok {x : Run R σ α} {v a : α} {s s' : σ} (hx : Settled x v) (h : x s = .ok (a, s'))
    (t : σ) : x t = .ok (v, t) := by
  rcases hx with hx | ⟨e, hx⟩
  · exact hx t
  · rw [hx] at h
    cases h

end Settled

namespace SettledUpTo

theorem mono {x : Run R σ α} {v : α} (hx : SettledUpTo F x v) (hF : ∀ h, F h → F' h) :
    SettledUpTo F' x v :=
  hx.imp_right fun ⟨h, hFh, hx⟩ => ⟨h, hF h hFh, hx⟩

theorem pure (a : α) : SettledUpTo F (Pure.pure a : Run R σ α) a := .inl fun _ => rfl

theorem bind {x : Run R σ α} {v : α} {f : α → Run R σ β} {w : β} (hx : SettledUpTo F x v)
    (hf : SettledUpTo F (f v) w) : SettledUpTo F (x >>= f) w := by
  have hbind (s : σ) : (x >>= f) s = x s >>= fun p => f p.1 p.2 := rfl
  rcases hx with hx | ⟨h, hF, hx⟩
  · refine hf.imp (fun hf s => ?_) fun ⟨h, hF, hf⟩ => ⟨h, hF, fun s => ?_⟩
    · rw [hbind, hx]
      exact hf s
    · rw [hbind, hx]
      exact hf s
  · refine .inr ⟨h, hF, fun s => ?_⟩
    rw [hbind, hx]
    rfl

/-- Other bounds make no difference. -/
theorem bounds_within {x : Run R (Session R G S) Bool} {v : Bool} (hx : SettledUpTo F x v)
    (g : ErrorBounds R → ErrorBounds R) :
    SettledUpTo F (Budgeted.bounds >>= fun b => Budgeted.within (g b) x) v := by
  have hwithin (b : ErrorBounds R) : withinBounds b x = x := by
    funext s
    rw [withinBounds_apply]
    rcases hx with hx | ⟨h, -, hx⟩ <;>
      · rw [hx, hx]
        rfl
  have hx' : (Budgeted.bounds >>= fun b => Budgeted.within (g b) x) = x := by
    funext s
    exact congrFun (hwithin (g s.verifier.params.bounds)) s
  rwa [hx']

end SettledUpTo

end Run

open Run (Settled SettledUpTo)

/-! ### Combinations -/

namespace Verdict

variable {m : Type → Type} [Monad m] [Budgeted R m] {Q : ∀ α : Type, m α → α → Prop}

/-- The operations that combinations of verdicts are built from respect what runs come to. -/
structure Evaluation (Q : ∀ α : Type, m α → α → Prop) : Prop where
  pure : ∀ {α : Type} (a : α), Q α (Pure.pure a) a
  bind : ∀ {α β : Type} {x : m α} {v : α} {f : α → m β} {w : β},
    Q α x v → Q β (f v) w → Q β (x >>= f) w
  bounds_within : ∀ {x : m Bool} {v : Bool} (g : ErrorBounds R → ErrorBounds R),
    Q Bool x v → Q Bool (Budgeted.bounds >>= fun b => Budgeted.within (g b) x) v

namespace Evaluation

variable (h : Evaluation Q) {x : m Bool} {v : Bool} {xs rest : List (m Bool)} {vs : List Bool}

include h

theorem anyIs (d : Bool) (hxs : List.Forall₂ (Q Bool) xs vs) :
    Q Bool (Verdict.anyIs d xs) (vs.any (· == d)) := by
  induction hxs with
  | nil => exact h.pure false
  | @cons x v xs vs hx _ ih =>
    refine h.bind hx ?_
    rw [List.any_cons]
    cases hv : v == d with
    | true => exact h.pure true
    | false => exact ih

/-- The first verdict that is searched for ends the search, whatever comes after it. -/
theorem anyIs_of_first (hxs : List.Forall₂ (Q Bool) xs vs) (hx : Q Bool x v) :
    Q Bool (Verdict.anyIs v (xs ++ x :: rest)) true := by
  induction hxs with
  | nil =>
    refine h.bind hx ?_
    rw [beq_self_eq_true]
    exact h.pure true
  | @cons y w xs vs hy _ ih =>
    refine h.bind hy ?_
    cases w == v with
    | true => exact h.pure true
    | false => exact ih

theorem chain (c : Bool) (hxs : List.Forall₂ (Q Bool) xs vs) :
    Q Bool (Verdict.chain c xs) (vs.foldl (· == ·) c) := by
  induction hxs generalizing c with
  | nil => exact h.pure c
  | cons hx _ ih => exact h.bind hx (ih _)

theorem chainAll (hxs : List.Forall₂ (Q Bool) xs vs) :
    Q Bool (Verdict.chainAll xs) (equivalences vs) := by
  cases hxs with
  | nil => exact h.pure true
  | cons hx hxs => exact h.bind hx (h.chain _ hxs)

variable [LawfulMonad m]

theorem negation (hx : Q Bool x v) : Q Bool (Verdict.negation x) (!v) := by
  have hnegation : Verdict.negation x
      = (Budgeted.bounds >>= fun b => Budgeted.within b.swap x) >>= fun a => Pure.pure !a := by
    rw [Verdict.negation, bind_assoc]
  rw [hnegation]
  exact h.bind (h.bounds_within _ hx) (h.pure _)

variable [Scalar R] {head : Option (m Bool)} {hs : List Bool} {os : List (Operand m)}

omit h [LawfulMonad m] [Monad m] [Budgeted R m] [Scalar R] in
/-- Operands of either kind come to some of the values, and together to all of them. -/
theorem exists_perm (hos : List.Forall₂ (fun o v => Q Bool o.verdict v) os vs) :
    ∃ free tested, (free ++ tested).Perm vs ∧
      List.Forall₂ (fun o v => Q Bool o.verdict v) (os.filter fun o => !o.probabilistic) free ∧
      List.Forall₂ (fun o v => Q Bool o.verdict v) (os.filter (·.probabilistic)) tested := by
  induction hos with
  | nil => exact ⟨[], [], .refl _, .nil, .nil⟩
  | @cons o v os vs ho _ ih =>
    obtain ⟨free, tested, hperm, hfree, htested⟩ := ih
    simp only [List.filter_cons]
    cases o.probabilistic with
    | false => exact ⟨v :: free, tested, hperm.cons v, .cons ho hfree, htested⟩
    | true => exact ⟨free, v :: tested, List.perm_middle.trans (hperm.cons v), hfree, .cons ho htested⟩

omit [LawfulMonad m] in
/-- A verdict that decides the whole is found before any operand with thresholds is looked at. -/
theorem junction_of_found (conjunctive : Bool)
    (hfound : Q Bool (Verdict.anyIs (!conjunctive)
      (head.toList ++ (os.filter fun o => !o.probabilistic).map (·.verdict))) true) :
    Q Bool (Verdict.junction conjunctive head os) (!conjunctive) := by
  unfold Verdict.junction
  rw [List.partition_eq_filter_filter]
  exact h.bind hfound (h.pure _)

theorem junction (conjunctive : Bool) (hhead : List.Forall₂ (Q Bool) head.toList hs)
    (hos : List.Forall₂ (fun o v => Q Bool o.verdict v) os vs) :
    Q Bool (Verdict.junction conjunctive head os)
      (if (hs ++ vs).any (· == !conjunctive) then !conjunctive else conjunctive) := by
  -- Operands without thresholds are asked first, which rearranges the values.
  obtain ⟨free, tested, hperm, hfree, htested⟩ := exists_perm hos
  have hany : (hs ++ vs).any (· == !conjunctive)
      = ((hs ++ free).any (· == !conjunctive) || tested.any (· == !conjunctive)) := by
    rw [List.any_append, ← hperm.any_eq, List.any_append, List.any_append, Bool.or_assoc]
  have hfirst := h.anyIs (!conjunctive) (List.rel_append hhead (List.forall₂_map_left_iff.2 hfree))
  have hsecond := h.anyIs (!conjunctive) (List.forall₂_map_left_iff.2 htested)
  rw [hany]
  cases hfound : (hs ++ free).any (· == !conjunctive) with
  | true =>
    rw [hfound] at hfirst
    exact h.junction_of_found conjunctive hfirst
  | false =>
    rw [hfound] at hfirst
    unfold Verdict.junction
    rw [List.partition_eq_filter_filter]
    refine h.bind hfirst ?_
    cases htests : os.filter (·.probabilistic) with
    | nil =>
      rw [htests] at htested
      cases htested
      cases conjunctive <;> exact h.pure _
    | cons o os' =>
      rw [htests] at hsecond
      dsimp only [List.isEmpty_cons, Bool.false_eq_true, if_false]
      rw [← bind_assoc]
      refine h.bind (h.bounds_within _ hsecond) ?_
      cases conjunctive <;> exact h.pure _

theorem combine (c : Connective) (hhead : List.Forall₂ (Q Bool) head.toList hs)
    (hos : List.Forall₂ (fun o v => Q Bool o.verdict v) os vs) :
    Q Bool (Verdict.combine c head os) (c.truth (hs ++ vs)) := by
  cases c with
  | conjunction =>
    rw [(Connective.truth_eq_ite _).1]
    exact h.junction true hhead hos
  | disjunction =>
    rw [(Connective.truth_eq_ite _).2]
    exact h.junction false hhead hos
  | equivalence =>
    exact h.bounds_within _ (h.chainAll (List.rel_append hhead (List.forall₂_map_left_iff.2 hos)))

end Evaluation

end Verdict

/-- What runs without an effect come to. -/
theorem Run.SettledUpTo.evaluation (F : Halt R → Prop) :
    Verdict.Evaluation (m := Run R (Session R G S)) fun _ x v => SettledUpTo F x v :=
  ⟨.pure, .bind, fun g hx => hx.bounds_within g⟩

/-! ### Properties -/

/-- The check halts because one of the expressions faults in the state. -/
def Halt.FaultOf (es : List (Expression R)) (s : State R) (h : Halt R) : Prop :=
  ∃ e ∈ es, ∃ f, e.holds s = .error f ∧ h = .fault f

namespace Property

mutual

/-- The expressions of a tree, those of its path properties included. -/
def expressions : Property R → List (Expression R)
  | .expr e => [e]
  | .not p => expressions p
  | .combine _ head ps => head.toList ++ expressionsOf ps
  | .threshold _ _ (.until _ _ _ pre post) => expressions pre ++ expressions post

/-- The expressions of a list of trees. -/
def expressionsOf : List (Property R) → List (Expression R)
  | [] => []
  | p :: ps => expressions p ++ expressionsOf ps

end

end Property

/-- Expressions have no effect. -/
theorem Expression.holds_settledUpTo {σ : Type} {es : List (Expression R)} {e : Expression R}
    (he : e ∈ es) (s : State R) :
    SettledUpTo (Halt.FaultOf es s) (Run.ofExcept (e.holds s) : Run R σ Bool) (e.isTrue s) := by
  unfold Expression.isTrue
  cases hholds : e.holds s with
  | ok b => exact .inl fun _ => rfl
  | error f => exact .inr ⟨.fault f, ⟨e, he, f, hholds, rfl⟩, fun _ => rfl⟩

/-- Nor has that of a connective. -/
theorem Expression.head_settledUpTo {σ : Type} {es : List (Expression R)}
    {head : Option (Expression R)} (hes : head.toList ⊆ es) (s : State R) :
    List.Forall₂ (fun x v => SettledUpTo (Halt.FaultOf es s) x v)
      (head.map fun e => (Run.ofExcept (e.holds s) : Run R σ Bool)).toList
      (head.map fun e => e.isTrue s).toList := by
  cases head with
  | none => exact .nil
  | some e => exact .cons (e.holds_settledUpTo (hes (List.mem_singleton_self e)) s) .nil

variable [Scalar R]

/-- The truth value of a property without thresholds; one that has some counts them as false. -/
def Property.isTrue (p : Property R) (s : State R) : Bool := p.truth s (fun _ => false) []

variable [Distributions R] (sim : Simulator R G) (src : SampleSource R S) (s : State R)
  (t : Site → Bool)

mutual

/-- **A check without thresholds depends on the state alone.** -/
theorem check_settledUpTo :
    ∀ (site : Site) (p : Property R), p.isProbabilistic = false → ∀ es, p.expressions ⊆ es →
      SettledUpTo (Halt.FaultOf es s) (check sim src p s) (p.truth s t site)
  | _, .expr e, _, es, hes => by
    rw [check, Property.truth]
    rw [Property.expressions] at hes
    exact e.holds_settledUpTo (hes (List.mem_singleton_self e)) s
  | site, .not p, h, es, hes => by
    rw [check, Property.truth]
    rw [Property.isProbabilistic] at h
    rw [Property.expressions] at hes
    exact (SettledUpTo.evaluation _).negation (check_settledUpTo (0 :: site) p h es hes)
  | site, .combine c head ps, h, es, hes => by
    rw [check, Property.truth]
    rw [Property.isProbabilistic] at h
    rw [Property.expressions] at hes
    obtain ⟨hheads, hoperands⟩ := List.append_subset.1 hes
    exact (SettledUpTo.evaluation _).combine c (Expression.head_settledUpTo hheads s)
      (operands_settledUpTo site 0 ps h es hoperands)
  | _, .threshold .., h, _, _ => by
    rw [Property.isProbabilistic] at h
    cases h

/-- So do those of operands. -/
theorem operands_settledUpTo (site : Site) :
    ∀ (i : Nat) (ps : List (Property R)), Property.anyProbabilistic ps = false →
      ∀ es, Property.expressionsOf ps ⊆ es →
        List.Forall₂ (fun o v => SettledUpTo (Halt.FaultOf es s) o.verdict v)
          (operands sim src ps s) (Property.truths s t site i ps)
  | _, [], _, _, _ => by
    rw [operands, Property.truths]
    exact .nil
  | i, p :: ps, h, es, hes => by
    rw [Property.anyProbabilistic, Bool.or_eq_false_iff] at h
    rw [Property.expressionsOf] at hes
    obtain ⟨hp, hps⟩ := List.append_subset.1 hes
    rw [operands, Property.truths]
    exact .cons (check_settledUpTo (i :: site) p h.1 es hp)
      (operands_settledUpTo site (i + 1) ps h.2 es hps)

end

/-- A check without thresholds answers the truth value of its property, or always halts. -/
theorem check_settled (site : Site) (p : Property R) (h : p.isProbabilistic = false) :
    Settled (check sim src p s) (p.truth s t site) :=
  Run.settled_iff.2
    ((check_settledUpTo sim src s t site p h _ (List.Subset.refl _)).mono fun _ _ => trivial)

end SimCheck
