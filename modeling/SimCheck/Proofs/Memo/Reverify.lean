import SimCheck.Proofs.Memo.Repeat
import SimCheck.Verifier.Query
import SimCheck.Verifier.Script
import Mathlib.Data.List.Nodup

/-!
# Verifying again with the samples kept

A property whose path properties have distinct numbers is verified a second time from the samples of
the first: the second call answers the same, whatever its source and its model are, and leaves
nothing changed but its reports and counts.

* `RepeatsEach`: operands one by one, no two of which share a path property;
* `Verdict.combine_repeats`: a combination of them;
* `check_repeats`: any property;
* `Session.verify_again`: two calls on a verifier.
-/

namespace SimCheck

open Run (Keeps)

variable {R G S S' : Type}

/-- The second operands do the first ones again, one by one; the path properties `ids` are those of
all of them, and no two operands share any. -/
inductive RepeatsEach : List PropertyId → List (Operand (Run R (Session R G S))) →
    List (Operand (Run R (Session R G S'))) → Prop
  | nil : RepeatsEach [] [] []
  | cons {i j : List PropertyId} {o : Operand (Run R (Session R G S))}
      {o' : Operand (Run R (Session R G S'))} {os : List (Operand (Run R (Session R G S)))}
      {os' : List (Operand (Run R (Session R G S')))}
      (probabilistic : o.probabilistic = o'.probabilistic)
      (verdict : Repeats i o.verdict o'.verdict) (rest : RepeatsEach j os os')
      (disjoint : i.Disjoint j) : RepeatsEach (i ++ j) (o :: os) (o' :: os')

namespace RepeatsEach

variable {ids : List PropertyId} {os : List (Operand (Run R (Session R G S)))}
  {os' : List (Operand (Run R (Session R G S')))}

/-- The operands with thresholds and those without. -/
theorem partition (h : RepeatsEach ids os os') :
    ∃ i j, i.Disjoint j ∧ i ++ j ⊆ ids ∧
      RepeatsEach i (os.partition (·.probabilistic)).1 (os'.partition (·.probabilistic)).1 ∧
      RepeatsEach j (os.partition (·.probabilistic)).2 (os'.partition (·.probabilistic)).2 := by
  simp only [List.partition_eq_filter_filter]
  induction h with
  | nil => exact ⟨[], [], List.disjoint_nil_left _, List.nil_subset _, .nil, .nil⟩
  | @cons k ids o o' os os' hprobabilistic hverdict _ hdisjoint ih =>
    obtain ⟨i, j, hij, hids, htested, hfree⟩ := ih
    obtain ⟨hi, hj⟩ := List.append_subset.1 hids
    have hki : k.Disjoint i := List.disjoint_of_subset_right hi hdisjoint
    have hkj : k.Disjoint j := List.disjoint_of_subset_right hj hdisjoint
    cases htest : o.probabilistic with
    | true =>
      have htest' : o'.probabilistic = true := hprobabilistic ▸ htest
      refine ⟨k ++ i, j, List.disjoint_append_left.2 ⟨hkj, hij⟩, ?_, ?_, ?_⟩
      · rw [List.append_assoc]
        exact List.append_subset.2
          ⟨List.subset_append_left .., List.subset_append_of_subset_right _ hids⟩
      · simpa only [List.filter_cons, htest, htest', if_true] using
          htested.cons hprobabilistic hverdict hki
      · simpa [List.filter_cons, htest, htest'] using hfree
    | false =>
      have htest' : o'.probabilistic = false := hprobabilistic ▸ htest
      refine ⟨i, k ++ j, List.disjoint_append_right.2 ⟨List.disjoint_symm hki, hij⟩, ?_, ?_, ?_⟩
      · refine List.append_subset.2 ⟨List.subset_append_of_subset_right _ hi, ?_⟩
        exact List.append_subset.2 ⟨List.subset_append_left .., List.subset_append_of_subset_right _ hj⟩
      · simpa [List.filter_cons, htest, htest'] using htested
      · simpa [List.filter_cons, htest, htest'] using hfree.cons hprobabilistic hverdict hkj

theorem isEmpty_eq (h : RepeatsEach ids os os') : os.isEmpty = os'.isEmpty := by cases h <;> rfl

theorem length_eq (h : RepeatsEach ids os os') : os.length = os'.length := by
  induction h with
  | nil => rfl
  | cons _ _ _ _ ih => rw [List.length_cons, List.length_cons, ih]

theorem countP_eq (h : RepeatsEach ids os os') :
    os.countP (·.probabilistic) = os'.countP (·.probabilistic) := by
  induction h with
  | nil => rfl
  | cons hprobabilistic _ _ _ ih => rw [List.countP_cons, List.countP_cons, ih, hprobabilistic]

end RepeatsEach

namespace Verdict

variable {ids : List PropertyId} {os : List (Operand (Run R (Session R G S)))}
  {os' : List (Operand (Run R (Session R G S')))} {e : Option (Except (Fault R) Bool)}

/-- The verdicts on operands, after that on an expression if there is one. -/
def withHead (e : Option (Except (Fault R) Bool)) (os : List (Operand (Run R (Session R G S)))) :
    List (Run R (Session R G S) Bool) :=
  (e.map Run.ofExcept).toList ++ os.map (·.verdict)

theorem anyIs_repeats (b : Bool) (h : RepeatsEach ids os os') :
    Repeats ids (anyIs b (os.map (·.verdict))) (anyIs b (os'.map (·.verdict))) := by
  induction h with
  | nil => exact .pure false
  | cons _ hverdict _ hdisjoint ih =>
    refine hverdict.bind (fun c => .ite ?_ ih) hdisjoint
    exact (Repeats.pure true).mono (List.nil_subset _)

theorem anyIs_withHead_repeats (b : Bool) (h : RepeatsEach ids os os') :
    Repeats ids (anyIs b (withHead e os)) (anyIs b (withHead e os')) := by
  have hrest := anyIs_repeats b h
  cases e with
  | none => exact hrest
  | some x =>
    refine (Repeats.ofExcept x).bind (fun c => .ite ?_ hrest) (List.disjoint_nil_left _)
    exact (Repeats.pure true).mono (List.nil_subset _)

theorem chain_repeats (b : Bool) (h : RepeatsEach ids os os') :
    Repeats ids (chain b (os.map (·.verdict))) (chain b (os'.map (·.verdict))) := by
  induction h generalizing b with
  | nil => exact .pure b
  | cons _ hverdict _ hdisjoint ih => exact hverdict.bind (fun c => ih (b == c)) hdisjoint

theorem chainAll_withHead_repeats (h : RepeatsEach ids os os') :
    Repeats ids (chainAll (withHead e os)) (chainAll (withHead e os')) := by
  cases e with
  | some x => exact (Repeats.ofExcept x).bind (fun b => chain_repeats b h) (List.disjoint_nil_left _)
  | none =>
    cases h with
    | nil => exact .pure true
    | cons _ hverdict hrest hdisjoint =>
      exact hverdict.bind (fun b => chain_repeats b hrest) hdisjoint

theorem negation_repeats {i : List PropertyId} {x : Run R (Session R G S) Bool}
    {y : Run R (Session R G S') Bool} (h : Repeats i x y) :
    Repeats i (negation x) (negation y) := by
  refine Repeats.bounds.bind (fun b => ?_) (List.disjoint_nil_left _)
  exact (h.within b.swap).bind_pure (! ·)

variable [Scalar R]

theorem junction_repeats (conjunctive : Bool) (h : RepeatsEach ids os os') :
    Repeats ids (junction conjunctive (e.map Run.ofExcept) os)
      (junction conjunctive (e.map Run.ofExcept) os') := by
  obtain ⟨i, j, hij, hids, htested, hfree⟩ := h.partition
  have hji : j ++ i ⊆ ids := fun k hk => hids (List.mem_append.2 (List.mem_append.1 hk).symm)
  refine Repeats.mono ?_ hji
  unfold junction
  generalize os.partition (·.probabilistic) = q at htested hfree
  generalize os'.partition (·.probabilistic) = q' at htested hfree
  obtain ⟨tested, free⟩ := q
  obtain ⟨tested', free'⟩ := q'
  dsimp only at htested hfree ⊢
  refine (anyIs_withHead_repeats _ hfree).bind (fun c => ?_) (List.disjoint_symm hij)
  refine .ite ((Repeats.pure _).mono (List.nil_subset _)) ?_
  rw [htested.isEmpty_eq, htested.length_eq]
  refine .ite ((Repeats.pure _).mono (List.nil_subset _)) ?_
  refine Repeats.bounds.bind (fun b => ?_) (List.disjoint_nil_left _)
  exact ((anyIs_repeats _ htested).within _).bind_pure fun found =>
    if found then !conjunctive else !!conjunctive

/-- A combination of operands is done again as its operands are. -/
theorem combine_repeats (c : Connective) (h : RepeatsEach ids os os') :
    Repeats ids (combine c (e.map Run.ofExcept) os) (combine c (e.map Run.ofExcept) os') := by
  cases c with
  | conjunction => exact junction_repeats true h
  | disjunction => exact junction_repeats false h
  | equivalence =>
    refine Repeats.bounds.bind (fun b => ?_) (List.disjoint_nil_left _)
    rw [h.countP_eq]
    exact (chainAll_withHead_repeats h).within _

end Verdict

/-! ### Properties -/

mutual

/-- The expressions outside path properties look at the values of a state only. -/
def Property.ReadsValues : Property R → Prop
  | .expr e => e.IgnoresTime
  | .not p => p.ReadsValues
  | .combine _ head ps => (∀ e ∈ head, e.IgnoresTime) ∧ Property.AllReadValues ps
  | .threshold .. => True

/-- So do those of every property of a list. -/
def Property.AllReadValues : List (Property R) → Prop
  | [] => True
  | p :: ps => p.ReadsValues ∧ Property.AllReadValues ps

end

theorem Expression.map_ofExcept_holds (head : Option (Expression R)) (s : State R) :
    (head.map fun e => (Run.ofExcept (e.holds s) : Run R (Session R G S) Bool))
      = (head.map (·.holds s)).map Run.ofExcept := by
  cases head <;> rfl

theorem Expression.map_holds_eq {head : Option (Expression R)} (h : ∀ e ∈ head, e.IgnoresTime)
    {s s' : State R} (hvalues : s'.values = s.values) :
    head.map (·.holds s') = head.map (·.holds s) := by
  cases head with
  | none => rfl
  | some e => exact congrArg some (h e rfl s' s hvalues)

variable [Scalar R] [Distributions R]

theorem PathProperty.id_checks (sim : Simulator R G) (path : PathProperty R) :
    (path.checks sim).id = path.id := rfl

theorem PathProperty.isProbabilistic_checks (sim : Simulator R G) (path : PathProperty R) :
    (path.checks sim).isProbabilistic = path.isProbabilistic := rfl

/-- Inside a path property samples are stored of the path properties inside it only. -/
theorem PathProperty.checks_keepsSample (sim : Simulator R G) (path : PathProperty R)
    {k : CacheKey} (hk : k.property ∉ (path.pre.pathList ++ path.post.pathList).map (·.id)) :
    (path.checks sim).KeepsPart (·.cache.get? k) := by
  rw [List.map_append, List.mem_append, not_or] at hk
  have hne {ps : List (PathProperty R)} (h : k.property ∉ ps.map (·.id)) :
      ∀ q ∈ ps, k.property ≠ q.id := fun q hq he => h (he ▸ List.mem_map_of_mem hq)
  intro side s
  cases side with
  | pre => exact (cache_frame k).check sim (.simulating R) path.pre s (hne hk.1)
  | post => exact (cache_frame k).check sim (.simulating R) path.post s (hne hk.2)

section Check

variable (sim sim' : Simulator R G) {S S' : Type} (src : SampleSource R S)
  (src' : SampleSource R S') {s s' : State R}

mutual

/-- **The check of a property is done again from the samples that it has left.** -/
theorem check_repeats (hvalues : s'.values = s.values) :
    ∀ p : Property R, (p.pathList.map (·.id)).Nodup → p.ReadsValues →
      Repeats (p.pathList.map (·.id)) (check sim src p s) (check sim' src' p s')
  | .expr e, _, hreads => by
    rw [check, check, hreads s' s hvalues]
    exact .ofExcept _
  | .not p, hnodup, hreads => by
    rw [check, check]
    exact Verdict.negation_repeats (check_repeats hvalues p hnodup hreads)
  | .combine c head ps, hnodup, hreads => by
    rw [check, check, Expression.map_ofExcept_holds head s, Expression.map_ofExcept_holds head s',
      Expression.map_holds_eq hreads.1 hvalues]
    exact Verdict.combine_repeats c (operands_repeats hvalues ps hnodup hreads.2)
  | .threshold op bound (.until id lower upper pre post), _, _ => by
    rw [check, check]
    let path : PathProperty R := .until id lower upper pre post
    have hprobabilistic :
        (path.checks sim').isProbabilistic = (path.checks sim).isProbabilistic :=
      (path.isProbabilistic_checks sim').trans (path.isProbabilistic_checks sim).symm
    exact Repeats.checkThreshold (path.id_checks sim') hprobabilistic (path.checks_keepsScope sim)
      (fun _ hk => path.checks_keepsSample sim hk) hvalues sim sim' src src' op bound

/-- The checks of operands are done again one by one. -/
theorem operands_repeats (hvalues : s'.values = s.values) :
    ∀ ps : List (Property R), ((Property.pathLists ps).map (·.id)).Nodup →
      Property.AllReadValues ps →
      RepeatsEach ((Property.pathLists ps).map (·.id)) (operands sim src ps s)
        (operands sim' src' ps s')
  | [], _, _ => .nil
  | p :: ps, hnodup, hreads => by
    rw [Property.pathLists, List.map_append] at hnodup ⊢
    rw [operands, operands]
    obtain ⟨hp, hps, hdisjoint⟩ := List.nodup_append'.1 hnodup
    exact .cons rfl (check_repeats hvalues p hp hreads.1) (operands_repeats hvalues ps hps hreads.2)
      hdisjoint

end

end Check

/-! ### Two calls -/

/-- **A property that has been verified with samples kept is verified again without an observation.**
Whatever model and source the second call has, from a state with the same values it answers the same,
leaves its source alone, simulates no path and leaves parameters, generator and cache as the first
call has left them. -/
theorem Session.verify_again {p : Property R} {s s' : State R} {σ σ₁ : Session R G S} {verdict : Bool}
    {sim : Simulator R G} {src : SampleSource R S}
    (hmemo : σ.verifier.params.memoization = true) (hdistinct : (p.pathList.map (·.id)).Nodup)
    (hreads : p.ReadsValues) (hvalues : s'.values = s.values)
    (h : verify sim src p s σ = .ok (verdict, σ₁)) (sim' : Simulator R G) (src' : SampleSource R S')
    (x : S') :
    ∃ τ, verify sim' src' p s' ⟨σ₁.verifier, x⟩ = .ok (verdict, τ) ∧ τ.source = x ∧
      τ.verifier.stats.pathLength = ∅ ∧ τ.verifier.generator = σ₁.verifier.generator ∧
      τ.verifier.cache = σ₁.verifier.cache ∧ τ.verifier.params = σ₁.verifier.params := by
  obtain ⟨_, _, hstart, hcheck⟩ := Run.bind_eq_ok.1 h
  have hstart := Run.modifyVerifier_eq_ok.1 hstart
  dsimp only at hstart
  subst hstart
  have hrepeats := check_repeats sim sim' src src' hvalues p hdistinct hreads
  have hscope := hrepeats.scope _ _ _ hcheck
  obtain ⟨hparams, -⟩ := Session.scope_eq_iff.1 hscope
  obtain ⟨τ, hagain, hτ⟩ := hrepeats.again _ _ _ hcheck hmemo
    ⟨{ σ₁.verifier with stats := ∅, level := 0 }, x⟩ (Session.scope_eq_iff.2 ⟨hparams, rfl⟩)
    fun _ _ => rfl
  refine ⟨τ, Run.bind_eq_ok.2 ⟨(), _, rfl, hagain⟩, hτ.source, hτ.pathLength, hτ.generator, hτ.cache,
    hτ.params⟩

/-! ### A property that is verified twice -/

namespace Twice

/-- A test of a fixed size asks for no distribution function. -/
abbrev distributions : Distributions Float := ⟨fun _ _ _ => 0, fun _ _ => 0⟩

/-- `x0` is zero, and with probability one half at least it is one sooner or later. -/
def property : Property Float :=
  .combine .conjunction (some (.equals 0 0))
    [.threshold .atLeast 0.5 (.unbounded ⟨1⟩ (.expr (.constant true)) (.expr (.equals 0 1)))]

/-- `x0` is counted up after a unit of time; the generator counts the transitions. -/
def counting : Simulator Float Nat where
  model s drawn := .ok (⟨s.values.map (· + 1), 1⟩, drawn + 1)
  fuel := 10

def halted : Simulator Float Nat where
  model s drawn := .ok (.absorbing s.values, drawn)
  fuel := 0

def params : Params Float :=
  { Params.default with thresholdAlgorithm := .fixed, fixedSampleSize := 2, memoization := true }

def session : Session Float Nat Unit := ⟨⟨params, 0, ∅, ∅, 0, []⟩, ()⟩

theorem property_readsValues : property.ReadsValues := by
  have hequals : (Expression.equals 0 0 : Expression Float).IgnoresTime :=
    Expression.comparing_ignoresTime _ _ _ _
  refine ⟨fun e he => ?_, trivial, trivial⟩
  cases he
  exact hequals

/-- The first call simulates two paths of one transition each. -/
theorem verify_first :
    let _ := distributions
    ∃ σ₁, Session.verify counting (.simulating Float) property ⟨[0], 0⟩ session = .ok (true, σ₁) ∧
      σ₁.verifier.generator = 2 := by
  intro _
  have hrun : (Session.verify counting (.simulating Float) property ⟨[0], 0⟩ session).toOption.map
      (fun r => (r.1, r.2.verifier.generator)) = some (true, 2) := by decide +kernel
  exact Run.exists_of_map_toOption hrun

/-- The second call has a source that contradicts and a model that never moves, begins later, and
answers the same. -/
theorem verify_again_contradicted :
    let _ := distributions
    ∃ σ₁ τ, Session.verify counting (.simulating Float) property ⟨[0], 0⟩ session = .ok (true, σ₁) ∧
      Session.verify halted (Script.source Float) property ⟨[0], 7⟩
        ⟨σ₁.verifier, .start [.answer false]⟩ = .ok (true, τ) ∧
      τ.source = .start [.answer false] ∧ τ.verifier.generator = 2 := by
  intro _
  obtain ⟨σ₁, hfirst, hgenerator⟩ := verify_first
  have hmemo : session.verifier.params.memoization = true := rfl
  have hdistinct : (property.pathList.map (·.id)).Nodup := by decide +kernel
  have hvalues : (⟨[0], 7⟩ : State Float).values = (⟨[0], 0⟩ : State Float).values := rfl
  obtain ⟨τ, hsecond, hsource, -, hkept, -⟩ :=
    Session.verify_again hmemo hdistinct property_readsValues hvalues hfirst halted
      (Script.source Float) (.start [.answer false])
  exact ⟨σ₁, τ, hfirst, hsecond, hsource, hkept.trans hgenerator⟩

end Twice

end SimCheck
