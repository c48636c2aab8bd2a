import SimCheck.Proofs.Allotment
import SimCheck.Scalar.Binary64
import SimCheck.Verifier.Script

/-!
# De Morgan's laws

A disjunction is checked as the negation of the conjunction of the negations is: with the same verdict,
the same observations and the same effects, each threshold being tested within the same error bounds.
So are a conjunction and the negation of the disjunction of the negations, and a property and its double
negation.

A negation swaps the two bounds, and what a disjunction does within some bounds a conjunction does within
the swapped ones.

* `Session.swapped`, `Mirrors f x y`: what `x` does within the swapped bounds is what `y` does, up to the
  map `f` of its value;
* `Mirrors.negation`, `Mirrors.junction`: a run and its negation, conjunctions and disjunctions;
* `Evaluates`: verdicts on the properties of a state that follow the connectives;
* `Property.DeMorgan`: pairs of properties that a law of De Morgan or of double negation makes equal;
* `check_deMorgan`: checks of such a pair.
-/

namespace SimCheck

open Run (Keeps)

variable {R G S α β γ δ : Type}

/-! ### Swapped bounds -/

/-- The session with the two error bounds swapped. -/
def Session.swapped (σ : Session R G S) : Session R G S :=
  { σ with verifier.params := σ.verifier.params.withBounds σ.verifier.params.bounds.swap }

@[simp] theorem Session.swapped_swapped (σ : Session R G S) : σ.swapped.swapped = σ := rfl

/-- What the first run does within the swapped bounds the second one does, up to a map of its value. -/
def Mirrors (f : α → β) (x : Run R (Session R G S) α) (y : Run R (Session R G S) β) : Prop :=
  ∀ σ, y σ = (x σ.swapped).map (Prod.map f Session.swapped)

namespace Mirrors

theorem pure {f : α → β} {a : α} {b : β} (h : f a = b) :
    Mirrors f (Pure.pure a : Run R (Session R G S) α) (Pure.pure b) := by
  intro σ
  rw [← h]
  rfl

theorem bind {f : α → β} {g : γ → δ} {x : Run R (Session R G S) α} {y : Run R (Session R G S) β}
    {k : α → Run R (Session R G S) γ} {l : β → Run R (Session R G S) δ} (hxy : Mirrors f x y)
    (hkl : ∀ a, Mirrors g (k a) (l (f a))) : Mirrors g (x >>= k) (y >>= l) := by
  intro σ
  show (y σ >>= fun r => l r.1 r.2) = (x σ.swapped >>= fun r => k r.1 r.2).map _
  rw [hxy σ]
  cases x σ.swapped with
  | error h => rfl
  | ok r => exact hkl r.1 r.2.swapped

theorem ite {c : Prop} [Decidable c] {f : α → β} {x x' : Run R (Session R G S) α}
    {y y' : Run R (Session R G S) β} (h : Mirrors f x y) (h' : Mirrors f x' y') :
    Mirrors f (if c then x else x') (if c then y else y') := by
  split_ifs
  · exact h
  · exact h'

theorem ofExcept {f : α → β} {a : Except (Fault R) α} {b : Except (Fault R) β} (h : b = a.map f) :
    Mirrors f (Run.ofExcept a : Run R (Session R G S) α) (Run.ofExcept b) := by
  rw [h]
  cases a with
  | error e => exact fun _ => rfl
  | ok a => exact pure rfl

theorem bounds :
    Mirrors ErrorBounds.swap (Budgeted.bounds : Run R (Session R G S) (ErrorBounds R))
      Budgeted.bounds := fun _ => rfl

theorem within {f : α → β} {x : Run R (Session R G S) α} {y : Run R (Session R G S) β}
    (h : Mirrors f x y) (b : ErrorBounds R) :
    Mirrors f (Budgeted.within b.swap x) (Budgeted.within b y) := by
  intro σ
  show Run.withinBounds b y σ = (Run.withinBounds b.swap x σ.swapped).map _
  rw [Run.withinBounds_apply, Run.withinBounds_apply, h]
  have hstart : ({ σ with verifier.params := σ.verifier.params.withBounds b } : Session R G S).swapped
      = { σ.swapped with verifier.params := σ.swapped.verifier.params.withBounds b.swap } := rfl
  rw [hstart]
  cases x { σ.swapped with verifier.params := σ.swapped.verifier.params.withBounds b.swap } <;> rfl

/-- Either run mirrors the other. -/
theorem symm {f : α → β} {g : β → α} (hgf : ∀ a, g (f a) = a) {x : Run R (Session R G S) α}
    {y : Run R (Session R G S) β} (h : Mirrors f x y) : Mirrors g y x := by
  intro σ
  rw [h σ.swapped, Session.swapped_swapped]
  cases x σ with
  | error e => rfl
  | ok r => exact congrArg Except.ok (Prod.ext (hgf r.1).symm rfl)

theorem unique {f : α → β} {x : Run R (Session R G S) α} {y z : Run R (Session R G S) β}
    (hy : Mirrors f x y) (hz : Mirrors f x z) : y = z := funext fun σ => (hy σ).trans (hz σ).symm

/-- **The negation of a run mirrors it.**  The run must put back the parameters: the negation puts back
those that it has found. -/
theorem negation {x : Run R (Session R G S) Bool} (hx : Keeps Session.scope x) :
    Mirrors not x (Verdict.negation x) := by
  intro σ
  show (Run.withinBounds σ.verifier.params.bounds.swap x σ >>= fun r => .ok (!r.1, r.2)) = _
  rw [Run.withinBounds_apply]
  have hstart : ({ σ with
      verifier.params := σ.verifier.params.withBounds σ.verifier.params.bounds.swap } : Session R G S)
        = σ.swapped := rfl
  rw [hstart]
  cases hrun : x σ.swapped with
  | error e => rfl
  | ok r =>
    obtain ⟨v, τ⟩ := r
    obtain ⟨hparams, -⟩ := Session.scope_eq_iff.1 (hx σ.swapped v τ hrun)
    have hback : τ.swapped = { τ with verifier.params := σ.verifier.params } := by
      rw [Session.swapped, hparams]
      rfl
    show Except.ok (!v, { τ with verifier.params := σ.verifier.params }) = .ok (!v, τ.swapped)
    rw [hback]

end Mirrors

/-! ### Connectives -/

/-- The operand with its verdict negated. -/
def Operand.negated (o : Operand (Run R (Session R G S))) : Operand (Run R (Session R G S)) :=
  ⟨o.probabilistic, Verdict.negation o.verdict⟩

namespace Mirrors

/-- A search among verdicts is a search for the opposite among the opposite verdicts. -/
theorem anyIs (b : Bool) {xs ys : List (Run R (Session R G S) Bool)}
    (h : List.Forall₂ (Mirrors not) xs ys) :
    Mirrors id (Verdict.anyIs b xs) (Verdict.anyIs (!b) ys) := by
  induction h with
  | nil => exact pure rfl
  | cons hxy _ ih =>
    refine bind hxy fun a => ?_
    have hopposite : ((!a) == !b) = (a == b) := by cases a <;> cases b <;> rfl
    rw [hopposite]
    exact ite (pure rfl) ih

variable {os : List (Operand (Run R (Session R G S)))}

theorem negated (hos : ∀ o ∈ os, Keeps Session.scope o.verdict) :
    List.Forall₂ (Mirrors not) ((os.map Operand.negated).map (·.verdict)) (os.map (·.verdict)) := by
  induction os with
  | nil => exact .nil
  | cons o os ih =>
    obtain ⟨ho, hos⟩ := List.forall_mem_cons.1 hos
    exact .cons ((negation ho).symm Bool.not_not) (ih hos)

variable [Scalar R] {head' head : Option (Run R (Session R G S) Bool)}

/-- **The conjunction of the negations mirrors the disjunction**, and the other way round. -/
theorem junction (conjunctive : Bool) (hhead : Option.Rel (Mirrors not) head' head)
    (hos : ∀ o ∈ os, Keeps Session.scope o.verdict) :
    Mirrors not (Verdict.junction conjunctive head' (os.map Operand.negated))
      (Verdict.junction (!conjunctive) head os) := by
  have hfilter (kind : Bool → Bool) : (os.map Operand.negated).filter (fun o => kind o.probabilistic)
      = (os.filter fun o => kind o.probabilistic).map Operand.negated := List.filter_map
  have hverdicts (kind : Bool → Bool) : List.Forall₂ (Mirrors not)
      (((os.filter fun o => kind o.probabilistic).map Operand.negated).map (·.verdict))
      ((os.filter fun o => kind o.probabilistic).map (·.verdict)) :=
    negated fun o ho => hos o (List.mem_filter.1 ho).1
  have hfree : List.Forall₂ (Mirrors not)
      (head'.toList ++ ((os.filter fun o => !o.probabilistic).map Operand.negated).map (·.verdict))
      (head.toList ++ (os.filter fun o => !o.probabilistic).map (·.verdict)) := by
    cases hhead with
    | none => exact hverdicts not
    | some h => exact .cons h (hverdicts not)
  unfold Verdict.junction
  rw [List.partition_eq_filter_filter, List.partition_eq_filter_filter]
  refine bind (f := id) ?_ fun found => ?_
  · have hany := anyIs (!conjunctive) hfree
    rw [← hfilter not] at hany
    exact hany
  · have htested : (os.map Operand.negated).filter (fun o => o.probabilistic)
        = (os.filter fun o => o.probabilistic).map Operand.negated := hfilter id
    rw [htested, List.isEmpty_map, List.length_map]
    refine ite (pure rfl) (ite (pure rfl) (bind bounds fun b => ?_))
    have hany := anyIs (!conjunctive) (hverdicts id)
    refine bind (f := id) ?_ fun found => pure (by cases found <;> rfl)
    -- A share of `α` within swapped bounds is one of `β` within those in force.
    cases conjunctive with
    | false => exact within hany (b.swap.shareAlpha _)
    | true => exact within hany (b.swap.shareBeta _)

end Mirrors

/-! ### Properties -/

/-- The first expression is true where the second one is false, and the other way round; they fault
alike. -/
def Expression.Complements (e' e : Expression R) : Prop := ∀ s, e'.holds s = (e.holds s).map not

/-- The second property is the first one by a law of De Morgan or of double negation. -/
inductive Property.DeMorgan : Property R → Property R → Prop
  | disjunction {head' head : Option (Expression R)}
      (hhead : Option.Rel Expression.Complements head' head) (ps : List (Property R)) :
      DeMorgan (.combine .disjunction head ps) (.not (.combine .conjunction head' (ps.map .not)))
  | conjunction {head' head : Option (Expression R)}
      (hhead : Option.Rel Expression.Complements head' head) (ps : List (Property R)) :
      DeMorgan (.combine .conjunction head ps) (.not (.combine .disjunction head' (ps.map .not)))
  | doubleNegation (p : Property R) : DeMorgan p (.not (.not p))

variable [Scalar R]

/-- Verdicts on properties that are reached as the connectives say and put back what they change. -/
structure Evaluates (verdict : Property R → Run R (Session R G S) Bool) (s : State R) : Prop where
  negation : ∀ p, verdict (.not p) = Verdict.negation (verdict p)
  combine : ∀ c head ps, verdict (.combine c head ps) =
    Verdict.combine c (head.map fun e => Run.ofExcept (e.holds s))
      (ps.map fun p => ⟨p.isProbabilistic, verdict p⟩)
  keeps : ∀ p, Keeps Session.scope (verdict p)

namespace Evaluates

variable {verdict : Property R → Run R (Session R G S) Bool} {s : State R}
  (hv : Evaluates verdict s)

include hv

/-- The operands are negated one by one. -/
theorem operands_not (ps : List (Property R)) :
    ((ps.map .not).map fun p => (⟨p.isProbabilistic, verdict p⟩ : Operand (Run R (Session R G S))))
      = (ps.map fun p => ⟨p.isProbabilistic, verdict p⟩).map Operand.negated := by
  rw [List.map_map, List.map_map]
  refine List.map_congr_left fun p _ => ?_
  show Operand.mk p.isProbabilistic (verdict (.not p)) = ⟨p.isProbabilistic, _⟩
  rw [hv.negation]

theorem junction_mirrors (conjunctive : Bool) {head' head : Option (Expression R)}
    (hhead : Option.Rel Expression.Complements head' head) (ps : List (Property R)) :
    Mirrors not
      (Verdict.junction conjunctive (head'.map fun e => Run.ofExcept (e.holds s))
        ((ps.map .not).map fun p => ⟨p.isProbabilistic, verdict p⟩))
      (Verdict.junction (!conjunctive) (head.map fun e => Run.ofExcept (e.holds s))
        (ps.map fun p => ⟨p.isProbabilistic, verdict p⟩)) := by
  rw [hv.operands_not]
  refine .junction conjunctive ?_ ?_
  · cases hhead with
    | none => exact .none
    | @some e' e h =>
      have hopposite : e.holds s = (e'.holds s).map not := by
        rw [h s]
        cases e.holds s <;> simp [Except.map]
      exact .some (.ofExcept hopposite)
  · intro o ho
    obtain ⟨p, -, rfl⟩ := List.mem_map.1 ho
    exact hv.keeps p

/-- **The laws of De Morgan and of double negation hold of runs.** -/
theorem deMorgan {p q : Property R} (h : p.DeMorgan q) : verdict p = verdict q := by
  cases h with
  | @disjunction head' head hhead ps =>
    have hkeeps := hv.keeps (.combine .conjunction head' (ps.map .not))
    have hmirrors := hv.junction_mirrors true hhead ps
    rw [hv.combine] at hkeeps
    rw [hv.negation, hv.combine, hv.combine]
    exact hmirrors.unique (.negation hkeeps)
  | @conjunction head' head hhead ps =>
    have hkeeps := hv.keeps (.combine .disjunction head' (ps.map .not))
    have hmirrors := hv.junction_mirrors false hhead ps
    rw [hv.combine] at hkeeps
    rw [hv.negation, hv.combine, hv.combine]
    exact hmirrors.unique (.negation hkeeps)
  | doubleNegation p =>
    have hnegated : Mirrors not (verdict (.not p)) (verdict p) := by
      rw [hv.negation]
      exact (Mirrors.negation (hv.keeps p)).symm Bool.not_not
    rw [hv.negation (.not p)]
    exact hnegated.unique (.negation (hv.keeps (.not p)))

end Evaluates

variable [Distributions R]

theorem operands_eq_map (sim : Simulator R G) (src : SampleSource R S) (ps : List (Property R))
    (s : State R) :
    operands sim src ps s = ps.map fun p => ⟨p.isProbabilistic, check sim src p s⟩ := by
  induction ps with
  | nil => rfl
  | cons p ps ih => rw [operands, List.map_cons, ih]

theorem allottedOperands_eq_map (sim : Simulator R (G × Allotments R)) (src : SampleSource R S)
    (ps : List (Property R)) (s : State R) :
    allottedOperands sim src ps s
      = ps.map fun p => ⟨p.isProbabilistic, allottedCheck sim src p s⟩ := by
  induction ps with
  | nil => rfl
  | cons p ps ih => rw [allottedOperands, List.map_cons, ih]

theorem check_evaluates (sim : Simulator R G) (src : SampleSource R S) (s : State R) :
    Evaluates (check sim src · s) s where
  negation p := by rw [check]
  combine c head ps := by rw [check, operands_eq_map]
  keeps p := check_keeps_scope sim src p s

theorem allottedCheck_evaluates (sim : Simulator R G) (src : SampleSource R S) (s : State R) :
    Evaluates (allottedCheck (sim.carrying (Allotments R)) src · s) s where
  negation p := by rw [allottedCheck]
  combine c head ps := by rw [allottedCheck, allottedOperands_eq_map]
  keeps p := allottedCheck_keeps_scope sim src p s

/-- **The laws of De Morgan and of double negation hold of checks.**  In every session and with every
source, whatever it makes of the calls on it, the checks of both properties end with the same verdict
and the same session, or halt alike.  So do the checks that note the bounds of their tests, which are
the checks themselves without these notes: every threshold is tested within the same bounds. -/
theorem check_deMorgan (sim : Simulator R G) (src : SampleSource R S) {p q : Property R}
    (h : p.DeMorgan q) (s : State R) :
    check sim src p s = check sim src q s ∧
      allottedCheck (sim.carrying (Allotments R)) src p s
        = allottedCheck (sim.carrying (Allotments R)) src q s ∧
      Lifts Prod.fst (allottedCheck (sim.carrying (Allotments R)) src p s) (check sim src p s) ∧
      Lifts Prod.fst (allottedCheck (sim.carrying (Allotments R)) src q s) (check sim src q s) :=
  ⟨(check_evaluates sim src s).deMorgan h, (allottedCheck_evaluates sim src s).deMorgan h,
    allottedCheck_lifts sim src p s, allottedCheck_lifts sim src q s⟩

/-! ### A disjunction of two thresholds -/

namespace Disjunction

abbrev distributions : Distributions Float := ⟨fun _ _ _ => 0, fun _ _ => 0⟩

def simulator : Simulator Float ℕ := ⟨fun s drawn => .ok (.absorbing s.values, drawn + 1), 4⟩

/-- `x0` is zero now or later, with probability one half at least. -/
def threshold (id : UInt32) : Property Float :=
  .threshold .atLeast 0.5 (.unbounded ⟨id⟩ (.expr (.constant true)) (.expr (.equals 0 0)))

def operands : List (Property Float) := [threshold 1, .expr (.equals 0 2), .not (threshold 2)]

def isOne : Expression Float := .equals 0 1

def isNotOne : Expression Float := ⟨"x0≠1", fun s => (isOne.holds s).map not⟩

def property : Property Float := .combine .disjunction (some isOne) operands

def dual : Property Float := .not (.combine .conjunction (some isNotOne) (operands.map .not))

theorem property_deMorgan_dual : property.DeMorgan dual :=
  .disjunction (.some fun _ => rfl) operands

def params : Params Float :=
  { Params.default with beta := 0.05, thresholdAlgorithm := .fixed, fixedSampleSize := 2 }

/-- A source that answers no and has a path simulated by turns. -/
def session : Session Float ℕ (Script Float) :=
  ⟨⟨params, 0, ∅, ∅, 0, []⟩, .start [.answer false, .simulate]⟩

def notedSession : Session Float (ℕ × Allotments Float) (Script Float) :=
  ⟨⟨params, (0, []), ∅, ∅, 0, []⟩, .start [.answer false, .simulate]⟩

/-- The numbers of the path properties that have been tested, with the bounds of their tests. -/
def tested (σ : Session Float (ℕ × Allotments Float) (Script Float)) : List (UInt32 × Float × Float) :=
  σ.allotments.map fun a => (a.property.value, a.bounds.alpha, a.bounds.beta)

/-- Both thresholds share `β`, and the second one stands under a negation. -/
theorem check_deMorgan_disjunction :
    let _ := distributions
    ∃ τ τ', check simulator (Script.source Float) property ⟨[0], 0⟩ session = .ok (true, τ) ∧
      check simulator (Script.source Float) dual ⟨[0], 0⟩ session = .ok (true, τ) ∧
      τ.source.observations = 4 ∧
      allottedCheck (simulator.carrying _) (Script.source Float) property ⟨[0], 0⟩ notedSession
        = .ok (true, τ') ∧
      allottedCheck (simulator.carrying _) (Script.source Float) dual ⟨[0], 0⟩ notedSession
        = .ok (true, τ') ∧
      tested τ' = [(2, 0.025, 0.01), (1, 0.01, 0.025)] := by
  intro _
  obtain ⟨hcheck, hallotted, -, -⟩ :=
    check_deMorgan simulator (Script.source Float) property_deMorgan_dual ⟨[0], 0⟩
  have hrun : (check simulator (Script.source Float) property ⟨[0], 0⟩ session).toOption.map
      (fun r => (r.1, r.2.source.observations)) = some (true, 4) := by decide +kernel
  have hnoted : (allottedCheck (simulator.carrying _) (Script.source Float) property ⟨[0], 0⟩
      notedSession).toOption.map (fun r => (r.1, tested r.2))
      = some (true, [(2, 0.025, 0.01), (1, 0.01, 0.025)]) := by decide +kernel
  obtain ⟨τ, hτ, hobservations⟩ := Run.exists_of_map_toOption
    (f := fun σ : Session Float ℕ (Script Float) => σ.source.observations) hrun
  obtain ⟨τ', hτ', htested⟩ := Run.exists_of_map_toOption (f := tested) hnoted
  exact ⟨τ, τ', hτ, hcheck ▸ hτ, hobservations, hτ', hallotted ▸ hτ', htested⟩

end Disjunction

end SimCheck
