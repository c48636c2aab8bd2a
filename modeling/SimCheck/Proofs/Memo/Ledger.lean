import SimCheck.Proofs.Check
import SimCheck.Proofs.Lift

/-!
# A ledger of threshold tests

A verifier that keeps a ledger posts every threshold test that completes, with the observations it has
drawn, and every release of samples.  The ledger is carried beside the generator, where nothing reads
it, so that without it the verifier is the one that keeps none.

* `Posting`, `Ledger.testsOf`: what is posted, and what it says about the tests for a key;
* `observing`, `completing`: the loop of a test, with the observations it has drawn;
* `postingTest`, `postingCheck`: tests and checks that are posted;
* `postingCheck_lifts`: without the ledger they are the tests and checks themselves.
-/

namespace SimCheck

variable {R G S : Type}

/-! ### Postings -/

/-- What happens to the samples of path properties. -/
inductive Posting
  /-- A threshold test for the key has completed and drawn the observations. -/
  | tested (key : CacheKey) (drawn : List Bool)
  | released (property : PropertyId)
  | cleared

namespace Posting

/-- Whether the samples for a key are dropped. -/
def drops (k : CacheKey) : Posting → Bool
  | .tested .. => false
  | .released id => id = k.property
  | .cleared => true

/-- The observations, if a test for the key has completed. -/
def drawnFor? (k : CacheKey) : Posting → Option (List Bool)
  | .tested j drawn => if j = k then some drawn else none
  | .released _ | .cleared => none

end Posting

/-- What has been posted, the latest first. -/
abbrev Ledger := List Posting

/-- What the tests for a key have drawn that have completed since the samples for it were last dropped,
test by test, the first one first. -/
def Ledger.testsOf (l : Ledger) (k : CacheKey) : List (List Bool) :=
  ((l.takeWhile fun p => !p.drops k).filterMap (·.drawnFor? k)).reverse

namespace Ledger

variable (l : Ledger) (k : CacheKey)

theorem testsOf_tested (j : CacheKey) (drawn : List Bool) :
    testsOf (.tested j drawn :: l) k = if j = k then testsOf l k ++ [drawn] else testsOf l k := by
  split_ifs with h <;> simp [testsOf, Posting.drops, Posting.drawnFor?, h]

theorem testsOf_released (id : PropertyId) :
    testsOf (.released id :: l) k = if id = k.property then [] else testsOf l k := by
  split_ifs with h <;> simp [testsOf, Posting.drops, Posting.drawnFor?, h]

theorem testsOf_cleared : testsOf (.cleared :: l) k = [] := by simp [testsOf, Posting.drops]

end Ledger

/-! ### Ledgers beside the generator -/

/-- What is in the ledger of a session. -/
def Session.ledger (σ : Session R (G × Ledger) S) : Ledger := σ.verifier.generator.2

/-- The verifier with a ledger beside its generator. -/
def Verifier.withLedger (v : Verifier R G) (l : Ledger) : Verifier R (G × Ledger) :=
  v.mapGenerator (·, l)

/-- The verifier without its ledger. -/
def Verifier.withoutLedger (v : Verifier R (G × Ledger)) : Verifier R G := v.mapGenerator Prod.fst

/-- Posts into the ledger. -/
def Verifier.post (v : Verifier R (G × Ledger)) (p : Posting) : Verifier R (G × Ledger) :=
  { v with generator := (v.generator.1, p :: v.generator.2) }

/-- Posts into the ledger. -/
def Run.post (p : Posting) : Run R (Session R (G × Ledger) S) Unit := modifyVerifier (·.post p)

/-- The model, which draws from the generator beside the ledger. -/
def Model.withLedger (model : Model R G) : Model R (G × Ledger) := fun s g =>
  (model s g.1).map fun r => (r.1, (r.2, g.2))

/-- The simulator, which draws from the generator beside the ledger. -/
def Simulator.withLedger (sim : Simulator R G) : Simulator R (G × Ledger) :=
  ⟨sim.model.withLedger, sim.fuel⟩

theorem Model.withLedger_lifts (model : Model R G) : model.withLedger.Lifts Prod.fst model :=
  model.carrying_lifts

/-! ### Tests that are posted -/

section

variable [Scalar R] [Distributions R]

/-- Feeds a test until it is done, and lists what has been drawn. -/
def observing (src : SampleSource R S) (path : Run R (Session R G Unit) Bool) :
    (fuel : ℕ) → ThresholdTest R → Run R (Session R G S) (ThresholdTest R × List Bool)
  | 0, t => if t.isDone then return (t, []) else throw .outOfFuel
  | fuel + 1, t => do
    if t.isDone then return (t, [])
    let b ← Run.draw src path
    let (t, drawn) ← observing src path fuel (t.push b)
    return (t, b :: drawn)

/-- Feeds a test within a run of its source, and lists what has been drawn. -/
def completing (src : SampleSource R S) (id : PropertyId) (s : State R)
    (path : Run R (Session R G Unit) Bool) (fuel : ℕ) (t : ThresholdTest R) :
    Run R (Session R G S) (ThresholdTest R × List Bool) := do
  if t.isDone then return (t, [])
  Run.beginRun src id s
  let r ← observing src path fuel t
  Run.endRun src id
  return r

/-- Decides a threshold by its test, which is posted. -/
def postingTest (sim : Simulator R (G × Ledger)) (src : SampleSource R S)
    (u : UntilCheck R (G × Ledger)) (bound : R) (s : State R) :
    Run R (Session R (G × Ledger) S) Bool := do
  let t ← openTest u bound s
  let nested := u.nestedError (← Run.params)
  let (t, drawn) ← completing src u.id s (simulate sim u s nested) sim.fuel t
  closeTest u s t
  Run.post (.tested ⟨u.id, s.values⟩ drawn)
  return t.accepts

/-- Decides a threshold, by a test that is posted unless the verdict is trivial. -/
def postingThreshold (sim : Simulator R (G × Ledger)) (src : SampleSource R S)
    (u : UntilCheck R (G × Ledger)) (op : ThresholdOp) (bound : R) (s : State R) :
    Run R (Session R (G × Ledger) S) Bool :=
  match Property.trivialVerdict? op bound with
  | some verdict => return verdict
  | none => Run.nested (postingTest sim src u bound s)

mutual

/-- Decides a property in a state, by tests that are posted. -/
def postingCheck (sim : Simulator R (G × Ledger)) {S : Type} (src : SampleSource R S) :
    Property R → State R → Run R (Session R (G × Ledger) S) Bool
  | .expr e, s => Run.ofExcept (e.holds s)
  | .not p, s => Verdict.negation (postingCheck sim src p s)
  | .combine c head ps, s =>
    Verdict.combine c (head.map fun e => Run.ofExcept (e.holds s)) (postingOperands sim src ps s)
  | .threshold op bound (.until id lower upper pre post), s =>
    postingThreshold sim src
      { id, lower, upper
        pre := ⟨pre.isProbabilistic, postingCheck sim (.simulating R) pre⟩
        post := ⟨post.isProbabilistic, postingCheck sim (.simulating R) post⟩ }
      op bound s

/-- The operands of a connective in a state, by tests that are posted. -/
def postingOperands (sim : Simulator R (G × Ledger)) {S : Type} (src : SampleSource R S) :
    List (Property R) → State R → List (Operand (Run R (Session R (G × Ledger) S)))
  | [], _ => []
  | p :: ps, s => ⟨p.isProbabilistic, postingCheck sim src p s⟩ :: postingOperands sim src ps s

end

/-- A path property with the checks of its sides, by tests that are posted. -/
def PathProperty.postingChecks (sim : Simulator R (G × Ledger)) (path : PathProperty R) :
    UntilCheck R (G × Ledger) where
  id := path.id
  lower := path.lower
  upper := path.upper
  pre := ⟨path.pre.isProbabilistic, postingCheck sim (.simulating R) path.pre⟩
  post := ⟨path.post.isProbabilistic, postingCheck sim (.simulating R) path.post⟩

/-! ### Without the ledger -/

theorem map_observing (src : SampleSource R S) (path : Run R (Session R G Unit) Bool) (fuel : ℕ)
    (t : ThresholdTest R) :
    Prod.fst <$> observing src path fuel t = observeUntilDone src path fuel t := by
  induction fuel generalizing t with
  | zero =>
    unfold observing observeUntilDone
    split_ifs
    · exact map_pure _ _
    · rfl
  | succ fuel ih =>
    unfold observing observeUntilDone
    split_ifs
    · exact map_pure _ _
    · rw [map_bind]
      refine bind_congr fun b => ?_
      rw [← ih, map_bind, map_eq_pure_bind]
      rfl

theorem map_completing (src : SampleSource R S) (id : PropertyId) (s : State R)
    (path : Run R (Session R G Unit) Bool) (fuel : ℕ) (t : ThresholdTest R) :
    Prod.fst <$> completing src id s path fuel t = completeTest src id s path fuel t := by
  unfold completing completeTest
  split_ifs
  · exact map_pure _ _
  · rw [map_bind]
    refine bind_congr fun _ => ?_
    rw [← map_observing, map_bind, bind_map_left]
    rfl

/-- What is drawn is what the test is fed with. -/
theorem observing_eq_ok {src : SampleSource R S} {path : Run R (Session R G Unit) Bool} {fuel : ℕ}
    {t t' : ThresholdTest R} {drawn : List Bool} {σ σ' : Session R G S}
    (h : observing src path fuel t σ = .ok ((t', drawn), σ')) : t' = t.pushAll drawn := by
  induction fuel generalizing t drawn σ with
  | zero =>
    rcases Run.ite_eq_ok.1 h with ⟨-, h⟩ | ⟨-, h⟩
    · obtain ⟨heq, -⟩ := Run.pure_eq_ok.1 h
      cases heq
      rfl
    · exact (Run.throw_ne_ok h).elim
  | succ fuel ih =>
    rcases Run.ite_eq_ok.1 h with ⟨-, h⟩ | ⟨-, h⟩
    · obtain ⟨heq, -⟩ := Run.pure_eq_ok.1 h
      cases heq
      rfl
    · obtain ⟨b, σ₁, -, h⟩ := Run.bind_eq_ok.1 h
      obtain ⟨⟨t₁, bs⟩, σ₂, hrest, h⟩ := Run.bind_eq_ok.1 h
      obtain ⟨heq, rfl⟩ := Run.pure_eq_ok.1 h
      cases heq
      rw [ih hrest, ThresholdTest.pushAll_cons]

theorem completing_eq_ok {src : SampleSource R S} {id : PropertyId} {s : State R}
    {path : Run R (Session R G Unit) Bool} {fuel : ℕ} {t t' : ThresholdTest R} {drawn : List Bool}
    {σ σ' : Session R G S} (h : completing src id s path fuel t σ = .ok ((t', drawn), σ')) :
    t' = t.pushAll drawn := by
  rcases Run.ite_eq_ok.1 h with ⟨-, h⟩ | ⟨-, h⟩
  · obtain ⟨heq, -⟩ := Run.pure_eq_ok.1 h
    cases heq
    rfl
  · obtain ⟨_, σ₁, -, h⟩ := Run.bind_eq_ok.1 h
    obtain ⟨r, σ₂, hobserve, h⟩ := Run.bind_eq_ok.1 h
    obtain ⟨_, σ₃, -, h⟩ := Run.bind_eq_ok.1 h
    obtain ⟨rfl, -⟩ := Run.pure_eq_ok.1 h
    exact observing_eq_ok hobserve

section Related

variable {G' : Type} {P : RunRelation R G' G} (h : Run.BasicCongruence P)
  {path' : Run R (Session R G' Unit) Bool} {path : Run R (Session R G Unit) Bool}
  (hpath : P Unit Bool path' path)

include h hpath

theorem Run.BasicCongruence.observing (src : SampleSource R S) (fuel : ℕ) (t : ThresholdTest R) :
    P S _ (SimCheck.observing src path' fuel t) (SimCheck.observing src path fuel t) := by
  induction fuel generalizing t with
  | zero => exact ite_related (h.pure _) h.outOfFuel
  | succ fuel ih =>
    refine ite_related (h.pure _) (h.bind (h.draw hpath src) fun b => ?_)
    exact h.bind (ih (t.push b)) fun r => h.pure _

theorem Run.BasicCongruence.completing (src : SampleSource R S) (id : PropertyId) (s : State R)
    (fuel : ℕ) (t : ThresholdTest R) :
    P S _ (SimCheck.completing src id s path' fuel t) (SimCheck.completing src id s path fuel t) := by
  refine ite_related (h.pure _) (h.bind (h.beginRun src id s) fun _ => ?_)
  refine h.bind (h.observing hpath src fuel t) fun r => ?_
  exact h.bind (h.endRun src id) fun _ => h.pure r

end Related

/-- A test with the list of what it has drawn beside it. -/
theorem runTest_eq (sim : Simulator R G) (src : SampleSource R S) (u : UntilCheck R G) (bound : R)
    (s : State R) :
    runTest sim src u bound s = (do
      let t ← openTest u bound s
      let nested := u.nestedError (← Run.params)
      let r ← completing src u.id s (simulate sim u s nested) sim.fuel t
      closeTest u s r.1
      return r.1.accepts) := by
  unfold runTest
  refine bind_congr fun t => bind_congr fun p => ?_
  dsimp only
  rw [← map_completing, bind_map_left]

section Lifts

/-- The path properties are the same up to the ledger. -/
abbrev UntilCheck.LiftsTo (u' : UntilCheck R (G × Ledger)) (u : UntilCheck R G) : Prop :=
  u'.Related (fun _ _ => Lifts Prod.fst) u

variable {u' : UntilCheck R (G × Ledger)} {u : UntilCheck R G} (hu : u'.LiftsTo u)

include hu

omit [Scalar R] [Distributions R] hu in
/-- A posting is no step of the run below. -/
theorem Lifts.post_bind {α : Type} {p : Posting} {x : Run R (Session R (G × Ledger) S) α}
    {y : Run R (Session R G S) α} (hx : Lifts Prod.fst x y) :
    Lifts Prod.fst (Run.post p >>= fun _ => x) y :=
  fun σ => hx { σ with verifier := σ.verifier.post p }

variable (sim : Simulator R G) (src : SampleSource R S) (bound : R) (s : State R)

theorem postingTest_lifts :
    Lifts Prod.fst (postingTest sim.withLedger src u' bound s) (runTest sim src u bound s) := by
  have h := Lifts.congruence sim.model.withLedger_lifts
  rw [runTest_eq]
  refine Lifts.bind (.openTest hu bound s) fun t => Lifts.bind .params fun p => ?_
  rw [hu.id, hu.nestedError_eq]
  refine Lifts.bind (h.completing (h.simulate hu sim.fuel s _) src u.id s sim.fuel t) fun r => ?_
  exact Lifts.bind (.closeTest hu s r.1) fun _ => .post_bind (.pure _)

theorem postingThreshold_lifts (op : ThresholdOp) :
    Lifts Prod.fst (postingThreshold sim.withLedger src u' op bound s)
      (checkThreshold sim src u op bound s) := by
  unfold postingThreshold checkThreshold
  cases Property.trivialVerdict? op bound with
  | some verdict => exact .pure verdict
  | none => exact (postingTest_lifts hu sim src bound s).nested

end Lifts

section

variable (sim : Simulator R G)

mutual

/-- **Without its ledger a check that is posted is the check.** -/
theorem postingCheck_lifts {S : Type} (src : SampleSource R S) :
    ∀ (p : Property R) (s : State R),
      Lifts Prod.fst (postingCheck sim.withLedger src p s) (check sim src p s)
  | .expr e, s => .ofExcept _
  | .not p, s =>
    ((Lifts.congruence sim.model.withLedger_lifts).verdict S).negation (postingCheck_lifts src p s)
  | .combine c head ps, s => by
    refine ((Lifts.congruence sim.model.withLedger_lifts).verdict S).combine ?_
      (postingOperands_lifts src ps s) c
    cases head with
    | none => exact .none
    | some e => exact .some (.ofExcept _)
  | .threshold op bound (.until id lower upper pre post), s => by
    refine postingThreshold_lifts (.of_sides ?_ ?_) sim src bound s op
    · exact postingCheck_lifts (.simulating R) pre
    · exact postingCheck_lifts (.simulating R) post

/-- So are the operands of a connective. -/
theorem postingOperands_lifts {S : Type} (src : SampleSource R S) :
    ∀ (ps : List (Property R)) (s : State R),
      List.Forall₂ (Operand.Related fun _ => Lifts Prod.fst) (postingOperands sim.withLedger src ps s)
        (operands sim src ps s)
  | [], _ => .nil
  | p :: ps, s => .cons ⟨rfl, postingCheck_lifts src p s⟩ (postingOperands_lifts src ps s)

end

theorem PathProperty.postingChecks_lifts (path : PathProperty R) :
    (path.postingChecks sim.withLedger).LiftsTo (path.checks sim) :=
  .of_sides (postingCheck_lifts sim (.simulating R) path.pre)
    (postingCheck_lifts sim (.simulating R) path.post)

end

end

end SimCheck
