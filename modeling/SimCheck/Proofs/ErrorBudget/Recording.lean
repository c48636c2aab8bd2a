import SimCheck.Proofs.Congruence
import SimCheck.Proofs.ErrorBudget.Layer

/-!
# Recording the tests of a check

A check reaches some thresholds of its tree and not others, each with the bounds that are in force
when it gets there.  The recording check does the same and keeps a record of every test: where the
threshold stands, which bounds its test was given, what the test answered.

* `Recording` is a run with a list of records, `Leaves.recorded` records the tests of given leaves;
* `fst_decide_recorded`: without its records the recording check is the check itself;
* `testRecords` are the records of a check that ends.
-/

namespace SimCheck

variable {R G S : Type}

/-- A test that a check has made. -/
structure TestRecord (R : Type) where
  site : Site
  /-- The bounds that the test was given. -/
  bounds : ErrorBounds R
  verdict : Bool

/-- Runs that record the tests they make, the latest first. -/
abbrev Recording (R G S : Type) := StateT (List (TestRecord R)) (Run R (Session R G S))

instance : Budgeted R (Recording R G S) where
  bounds := StateT.lift Budgeted.bounds
  within b x := fun log => Budgeted.within b (x log)

/-- The leaves decided as before, with a record of every test. -/
def Leaves.recorded (l : Leaves R (Run R (Session R G S))) : Leaves R (Recording R G S) where
  expression e := StateT.lift (l.expression e)
  test site bound path := fun log => do
    let b ← Budgeted.bounds
    let verdict ← l.test site bound path
    return (verdict, ⟨site, b, verdict⟩ :: log)

/-! ### Erasure -/

/-- Without its records, whichever it starts from, the first run is the second. -/
def Erases {α : Type} (x : Recording R G S α) (y : Run R (Session R G S) α) : Prop :=
  ∀ log, Prod.fst <$> x log = y

namespace Erases

variable {α β : Type}

theorem pure (a : α) : Erases (Pure.pure a : Recording R G S α) (Pure.pure a) :=
  fun _ => map_pure _ _

theorem bind {x : Recording R G S α} {y : Run R (Session R G S) α} {f : α → Recording R G S β}
    {g : α → Run R (Session R G S) β} (hx : Erases x y) (hf : ∀ a, Erases (f a) (g a)) :
    Erases (x >>= f) (y >>= g) := by
  intro log
  show Prod.fst <$> (x log >>= fun p => f p.1 p.2) = y >>= g
  rw [map_bind, ← hx log, bind_map_left]
  exact bind_congr fun p => hf p.1 p.2

theorem lift (y : Run R (Session R G S) α) : Erases (StateT.lift y) y := by
  intro log
  show Prod.fst <$> (y >>= fun a => Pure.pure (a, log)) = y
  rw [map_bind]
  simp only [map_pure, bind_pure]

theorem bounds : Erases (Budgeted.bounds : Recording R G S (ErrorBounds R)) Budgeted.bounds :=
  lift _

theorem within (b : ErrorBounds R) {x : Recording R G S α} {y : Run R (Session R G S) α}
    (hx : Erases x y) : Erases (Budgeted.within b x) (Budgeted.within b y) := by
  intro log
  show Prod.fst <$> Run.withinBounds b (x log) = Run.withinBounds b y
  rw [← hx log]
  simp only [Run.withinBounds, map_bind, bind_map_left, map_pure]

theorem congruence : Verdict.Congruence fun α (x : Recording R G S α) => Erases x :=
  ⟨⟨pure, bind⟩, bounds, fun b hx => within b hx⟩

end Erases

variable [Scalar R]

/-- Without its records the recording check is the check. -/
theorem erases_decide (l : Leaves R (Run R (Session R G S))) (site : Site) (p : Property R) :
    Erases (p.decide l.recorded site) (p.decide l site) := by
  refine Erases.congruence.decide (fun e => .lift (l.expression e)) (fun site bound path => ?_) site p
  intro log
  funext σ
  show (Prod.fst <$> (do
    let verdict ← l.test site bound path
    return (verdict, (⟨site, σ.verifier.params.bounds, verdict⟩ : TestRecord R) :: log))) σ
      = l.test site bound path σ
  simp only [map_bind, map_pure, bind_pure]

/-- The records of the tests that a check makes if it ends. -/
def testRecords (l : Leaves R (Run R (Session R G S))) (p : Property R) (s : Session R G S) :
    List (TestRecord R) :=
  match p.decide l.recorded [] [] s with
  | .ok ((_, log), _) => log
  | .error _ => []

/-- A check that ends has ended with its records. -/
theorem decide_recorded_of_decide {l : Leaves R (Run R (Session R G S))} {p : Property R}
    {s s' : Session R G S} {v : Bool} (h : p.decide l [] s = .ok (v, s')) :
    p.decide l.recorded [] [] s = .ok ((v, testRecords l p s), s') := by
  rw [← erases_decide l [] p [], Run.map_eq_ok] at h
  obtain ⟨⟨w, log⟩, hrec, rfl⟩ := h
  simp only [testRecords, hrec]

end SimCheck
