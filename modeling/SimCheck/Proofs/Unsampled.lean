import SimCheck.Proofs.Free

/-!
# Checks that need no sample

A property may contain thresholds and yet be decided without a test: by thresholds that every
probability meets or fails, or by an operand without thresholds that decides the whole, which is looked
at before any test.  The check of such a property asks no source and no model, and leaves the session as
it is.

* `Connective.decisive?`: the verdict of an operand that decides a connective;
* `Property.DecidedBy s p es`: the property `p` is decided in the state `s` by the expressions `es`;
* `check_of_expression`, `check_of_operand`: a connective that is decided by one of its parts;
* `check_samples_nothing`: the check of a property that is decided;
* `Foregone`: a property that is decided although it contains a test that never ends.
-/

namespace SimCheck

open Run (SettledUpTo)

/-! ### Connectives -/

namespace Connective

/-- The verdict of an operand that decides the whole. -/
def decisive? : Connective → Option Bool
  | conjunction => some false
  | disjunction => some true
  | equivalence => none

theorem truth_of_decisive {c : Connective} {d : Bool} (hc : c.decisive? = some d) {bs : List Bool}
    (hmem : d ∈ bs) : c.truth bs = d := by
  cases c with
  | conjunction =>
    cases hc
    simpa [truth] using hmem
  | disjunction =>
    cases hc
    simpa [truth] using hmem
  | equivalence => cases hc

end Connective

section

variable {R : Type} [Scalar R] {m : Type → Type} [Monad m] [Budgeted R m]
  {Q : ∀ α : Type, m α → α → Prop} {head : Option (m Bool)} {os : List (Operand m)} {c : Connective}
  {d : Bool}

/-- A combination is decided by the first decisive verdict that needs no test. -/
theorem Verdict.Evaluation.combine_of_found (h : Evaluation Q) (hc : c.decisive? = some d)
    (hfound : Q Bool (Verdict.anyIs d
      (head.toList ++ (os.filter fun o => !o.probabilistic).map (·.verdict))) true) :
    Q Bool (Verdict.combine c head os) d := by
  cases c with
  | conjunction =>
    cases hc
    exact h.junction_of_found true hfound
  | disjunction =>
    cases hc
    exact h.junction_of_found false hfound
  | equivalence => cases hc

end

/-! ### Properties -/

variable {R G S : Type} [Scalar R]

namespace Property

mutual

/-- Without thresholds nothing is assigned to them. -/
theorem truth_of_free (s : State R) (t t' : Site → Bool) :
    ∀ (site site' : Site) (p : Property R), p.isProbabilistic = false →
      p.truth s t site = p.truth s t' site'
  | _, _, .expr e, _ => by rw [truth, truth]
  | site, site', .not p, h => by
    rw [isProbabilistic] at h
    rw [truth, truth, truth_of_free s t t' (0 :: site) (0 :: site') p h]
  | site, site', .combine c head ps, h => by
    rw [isProbabilistic] at h
    rw [truth, truth, truths_of_free s t t' site site' 0 0 ps h]
  | _, _, .threshold .., h => by
    rw [isProbabilistic] at h
    cases h

theorem truths_of_free (s : State R) (t t' : Site → Bool) (site site' : Site) :
    ∀ (i j : Nat) (ps : List (Property R)), anyProbabilistic ps = false →
      truths s t site i ps = truths s t' site' j ps
  | _, _, [], _ => by rw [truths, truths]
  | i, j, p :: ps, h => by
    rw [anyProbabilistic, Bool.or_eq_false_iff] at h
    rw [truths, truths, truth_of_free s t t' (i :: site) (j :: site') p h.1,
      truths_of_free s t t' site site' (i + 1) (j + 1) ps h.2]

end

variable {s : State R} {p : Property R} {ps : List (Property R)}

/-- Among the truth values of operands is that of each operand without thresholds. -/
theorem isTrue_mem_truths (hp : p.isProbabilistic = false) (hmem : p ∈ ps) (t : Site → Bool)
    (site : Site) (i : Nat) : p.isTrue s ∈ truths s t site i ps := by
  induction ps generalizing i with
  | nil => cases hmem
  | cons q ps ih =>
    rw [truths]
    rcases List.mem_cons.1 hmem with rfl | hmem
    · exact List.mem_cons.2 (.inl (truth_of_free s _ t [] (i :: site) p hp))
    · exact List.mem_cons_of_mem _ (ih hmem (i + 1))

/-- The property is decided in the state by these expressions alone. -/
inductive DecidedBy (s : State R) : Property R → List (Expression R) → Prop
  /-- There are no thresholds. -/
  | free {p : Property R} (hp : p.isProbabilistic = false) : DecidedBy s p p.expressions
  /-- Every probability meets the bound, or none does. -/
  | trivial {op : ThresholdOp} {bound : R} {path : PathProperty R} {verdict : Bool}
      (hverdict : trivialVerdict? op bound = some verdict) : DecidedBy s (.threshold op bound path) []
  | not {p : Property R} {es : List (Expression R)} (hp : DecidedBy s p es) : DecidedBy s (.not p) es
  | combine (c : Connective) (head : Option (Expression R)) {ps : List (Property R)}
      {es : Property R → List (Expression R)} (hps : ∀ p ∈ ps, DecidedBy s p (es p)) :
      DecidedBy s (.combine c head ps) (head.toList ++ ps.flatMap es)
  /-- The expression decides, whatever the operands are. -/
  | byExpression {c : Connective} {d : Bool} (hc : c.decisive? = some d) {e : Expression R}
      (he : e.isTrue s = d) (ps : List (Property R)) : DecidedBy s (.combine c (some e) ps) [e]
  /-- An operand without thresholds decides, whatever the others are.  Before it come the expression and
  the operands without thresholds on its left. -/
  | byOperand {c : Connective} {d : Bool} (hc : c.decisive? = some d) (head : Option (Expression R))
      (left : List (Property R)) {p : Property R} (hp : p.isProbabilistic = false)
      (htruth : p.isTrue s = d) (right : List (Property R)) :
      DecidedBy s (.combine c head (left ++ p :: right))
        (head.toList ++ ((left.filter fun q => !q.isProbabilistic) ++ [p]).flatMap expressions)

end Property

variable [Distributions R] {sim : Simulator R G} {src : SampleSource R S} {s : State R}

/-! ### Operands -/

theorem operands_append (left right : List (Property R)) :
    operands sim src (left ++ right) s = operands sim src left s ++ operands sim src right s := by
  induction left with
  | nil => rw [List.nil_append, operands, List.nil_append]
  | cons p left ih => rw [List.cons_append, operands, operands, ih, List.cons_append]

/-- The operands without thresholds. -/
theorem filter_operands (ps : List (Property R)) :
    (operands sim src ps s).filter (fun o => !o.probabilistic)
      = operands sim src (ps.filter fun p => !p.isProbabilistic) s := by
  induction ps with
  | nil => rw [operands, List.filter_nil, List.filter_nil, operands]
  | cons p ps ih =>
    rw [operands, List.filter_cons, List.filter_cons, ih]
    split_ifs
    · rw [operands]
    · rfl

/-- What the operands come to, from what each of them comes to. -/
theorem operands_come_to {Q : ∀ α : Type, Run R (Session R G S) α → α → Prop} {t : Site → Bool}
    {ps : List (Property R)}
    (h : ∀ p ∈ ps, ∀ site, Q Bool (check sim src p s) (p.truth s t site)) (site : Site) (i : Nat) :
    List.Forall₂ (fun o v => Q Bool o.verdict v) (operands sim src ps s)
      (Property.truths s t site i ps) := by
  induction ps generalizing i with
  | nil =>
    rw [operands, Property.truths]
    exact .nil
  | cons p ps ih =>
    rw [operands, Property.truths]
    obtain ⟨hp, hps⟩ := List.forall_mem_cons.1 h
    exact .cons (hp (i :: site)) (ih hps (i + 1))

/-! ### Checks -/

section Decisive

variable {c : Connective} {d : Bool} (hc : c.decisive? = some d) {es : List (Expression R)}

include hc

/-- The expression decides. -/
theorem check_of_expression {e : Expression R} (hes : e ∈ es) (he : e.isTrue s = d)
    (ps : List (Property R)) :
    SettledUpTo (Halt.FaultOf es s) (check sim src (.combine c (some e) ps) s) d := by
  have hhead : SettledUpTo (Halt.FaultOf es s)
      (Run.ofExcept (e.holds s) : Run R (Session R G S) Bool) d := he ▸ e.holds_settledUpTo hes s
  rw [check]
  exact (SettledUpTo.evaluation _).combine_of_found hc
    ((SettledUpTo.evaluation _).anyIs_of_first .nil hhead)

/-- An operand decides, after the expression and the operands without thresholds on its left. -/
theorem check_of_operand {head : Option (Expression R)} {left : List (Property R)} {p : Property R}
    (hhead : head.toList ⊆ es)
    (hleft : ∀ q ∈ left, q.isProbabilistic = false → q.expressions ⊆ es)
    (hp : p.isProbabilistic = false) (hes : p.expressions ⊆ es) (htruth : p.isTrue s = d)
    (right : List (Property R)) :
    SettledUpTo (Halt.FaultOf es s) (check sim src (.combine c head (left ++ p :: right)) s) d := by
  have hbefore : List.Forall₂ (fun o v => SettledUpTo (Halt.FaultOf es s) o.verdict v)
      (operands sim src (left.filter fun q => !q.isProbabilistic) s)
      (Property.truths s (fun _ => false) [] 0 (left.filter fun q => !q.isProbabilistic)) := by
    refine operands_come_to (Q := fun _ x v => SettledUpTo _ x v) (fun q hq site => ?_) [] 0
    obtain ⟨hmem, hkind⟩ := List.mem_filter.1 hq
    have hfree : q.isProbabilistic = false := by simpa using hkind
    exact check_settledUpTo sim src s _ site q hfree es (hleft q hmem hfree)
  have hdecisive : SettledUpTo (Halt.FaultOf es s) (check sim src p s) d :=
    htruth ▸ check_settledUpTo sim src s (fun _ => false) [] p hp es hes
  have hsplit : (left ++ p :: right).filter (fun q => !q.isProbabilistic)
      = (left.filter fun q => !q.isProbabilistic)
        ++ p :: right.filter fun q => !q.isProbabilistic := by simp [hp]
  rw [check]
  refine (SettledUpTo.evaluation _).combine_of_found hc ?_
  rw [filter_operands, hsplit, operands_append, operands, List.map_append, ← List.append_assoc]
  exact (SettledUpTo.evaluation _).anyIs_of_first (List.rel_append
    (Expression.head_settledUpTo hhead s) (List.forall₂_map_left_iff.2 hbefore)) hdecisive

end Decisive

/-- A check that is decided by some expressions is settled, unless one of them faults. -/
theorem Property.DecidedBy.check_settledUpTo {p : Property R} {es : List (Expression R)}
    (h : p.DecidedBy s es) (sim : Simulator R G) (src : SampleSource R S) (t : Site → Bool)
    (site : Site) : SettledUpTo (Halt.FaultOf es s) (check sim src p s) (p.truth s t site) := by
  induction h generalizing site with
  | @free p hp => exact SimCheck.check_settledUpTo sim src s t site p hp _ (List.Subset.refl _)
  | @trivial op bound path verdict hverdict =>
    obtain ⟨id, lower, upper, pre, post⟩ := path
    rw [check, checkThreshold, truth, hverdict, Option.getD_some]
    exact .pure verdict
  | not _ ih =>
    rw [check, truth]
    exact (SettledUpTo.evaluation _).negation (ih (0 :: site))
  | @combine c head ps es _ ih =>
    rw [check, truth]
    refine (SettledUpTo.evaluation _).combine c
      (Expression.head_settledUpTo (List.subset_append_left _ _) s) ?_
    refine operands_come_to (Q := fun _ x v => SettledUpTo _ x v) (fun p hp site => ?_) site 0
    exact (ih p hp site).mono fun _ ⟨e, he, hf⟩ =>
      ⟨e, List.mem_append_right _ (List.mem_flatMap.2 ⟨p, hp, he⟩), hf⟩
  | @byExpression c d hc e he ps =>
    have htruth : truth s t site (.combine c (some e) ps) = d := by
      rw [truth]
      exact Connective.truth_of_decisive hc (List.mem_append_left _ (List.mem_singleton.2 he.symm))
    rw [htruth]
    exact check_of_expression hc (List.mem_singleton_self e) he ps
  | @byOperand c d hc head left p hp hd right =>
    have htruth : truth s t site (.combine c head (left ++ p :: right)) = d := by
      rw [truth]
      refine Connective.truth_of_decisive hc (List.mem_append_right _ ?_)
      exact hd ▸ isTrue_mem_truths hp (by simp) t site 0
    rw [htruth]
    refine check_of_operand hc (List.subset_append_left _ _) (fun q hq hfree e he => ?_) hp
      (fun e he => ?_) hd right
    · exact List.mem_append_right _ (List.mem_flatMap.2 ⟨q, by simp [hq, hfree], he⟩)
    · exact List.mem_append_right _ (List.mem_flatMap.2 ⟨p, by simp, he⟩)

/-- **A check that is decided without a test samples nothing.**  Whatever the model and the source are,
and whatever truth values thresholds are given, it answers the truth value of the formula and leaves the
session as it is: source and generator, statistics, cache, parameters and level.  Otherwise an
expression that it is decided by faults, and the check halts at that fault. -/
theorem check_samples_nothing {p : Property R} {es : List (Expression R)} (h : p.DecidedBy s es)
    (sim : Simulator R G) (src : SampleSource R S) (t : Site → Bool) (site : Site) :
    (∀ σ, check sim src p s σ = .ok (p.truth s t site, σ)) ∨
      ∃ e ∈ es, ∃ f, e.holds s = .error f ∧ ∀ σ, check sim src p s σ = .error (.fault f) := by
  rcases h.check_settledUpTo sim src t site with hanswers | ⟨_, ⟨e, he, f, hf, rfl⟩, hhalts⟩
  · exact .inl hanswers
  · exact .inr ⟨e, he, f, hf, hhalts⟩

/-! ### A foregone conclusion -/

namespace Foregone

noncomputable abbrev distributions : Distributions Float := ⟨fun _ _ _ => 0, fun _ _ => 0⟩

/-- The model faults in every state. -/
def simulator : Simulator Float ℕ := ⟨fun _ _ => .error .negativeMinTime, 0⟩

/-- A request for an observation is never answered. -/
def source : SampleSource Float ℕ := ⟨fun _ _ n => n + 1, fun _ => .stalled, fun _ n => n + 1⟩

def path : PathProperty Float :=
  .unbounded ⟨1⟩ (.expr (.constant true)) (.expr (.constant true))

/-- A false operand between two thresholds. -/
def conjunction : Property Float :=
  .combine .conjunction none
    [.threshold .atLeast 0.5 path, .expr (.constant false), .threshold .above 0.5 path]

/-- The conjunction is equivalent to what every probability meets. -/
def property : Property Float := .combine .equivalence none [.threshold .atLeast 0 path, conjunction]

theorem conjunction_decided (s : State Float) : conjunction.DecidedBy s [.constant false] :=
  .byOperand rfl none [.threshold .atLeast 0.5 path] rfl rfl [.threshold .above 0.5 path]

/-- The expressions that decide the two operands. -/
def deciding : Property Float → List (Expression Float)
  | .combine .. => [.constant false]
  | .expr _ | .not _ | .threshold .. => []

theorem property_decided (s : State Float) : property.DecidedBy s [.constant false] := by
  have htrivial : Property.trivialVerdict? .atLeast (0 : Float) = some true := by decide +kernel
  have hoperands : ∀ p ∈ [.threshold .atLeast 0 path, conjunction],
      Property.DecidedBy s p (deciding p) := by
    intro p hp
    rcases List.mem_cons.1 hp with rfl | hp
    · exact .trivial htrivial
    · rw [List.mem_singleton.1 hp]
      exact conjunction_decided s
  exact .combine .equivalence none hoperands

/-- The check ends, with no observation and no transition. -/
theorem check_samples_nothing_foregone :
    let _ := distributions
    ∀ σ, check simulator source property ⟨[], 0⟩ σ = .ok (false, σ) := by
  intro _
  have htruth : property.truth ⟨[], 0⟩ (fun _ => true) [] = false := by decide +kernel
  rcases check_samples_nothing (property_decided ⟨[], 0⟩) simulator source (fun _ => true) [] with
    hanswers | ⟨e, he, f, hfault, -⟩
  · rwa [htruth] at hanswers
  · rw [List.mem_singleton.1 he] at hfault
    cases hfault

end Foregone

end SimCheck
