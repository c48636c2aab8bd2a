import SimCheck.Proofs.Lift

/-!
# Keeping a journal of a path

A path that keeps a journal writes down the transitions it draws and the checks with thresholds it
asks for, each with the bounds in force.  The journal is carried beside the generator, where nothing
reads it, so that without its journal the path is the one that keeps none.

* `Journal` holds what has been written, the first entry first;
* `Model.journaling`, `UntilCheck.journaling` write into it;
* `Forgets x y`: without its journal `x` is `y`; `Forgets.run` is the case of a walk.
-/

namespace SimCheck

variable {R G S α β : Type}

/-- A check of a side that a path has asked for. -/
structure Ask (R : Type) where
  side : Side
  state : State R
  /-- The bounds in force. -/
  bounds : ErrorBounds R

/-- What a path has drawn and asked for. -/
structure Journal (R : Type) where
  draws : List (Transition R)
  asks : List (Ask R)

namespace Journal

instance : EmptyCollection (Journal R) := ⟨⟨[], []⟩⟩

instance : Append (Journal R) := ⟨fun j k => ⟨j.draws ++ k.draws, j.asks ++ k.asks⟩⟩

@[simp] theorem draws_empty : (∅ : Journal R).draws = [] := rfl

@[simp] theorem asks_empty : (∅ : Journal R).asks = [] := rfl

@[simp] theorem draws_append (j k : Journal R) : (j ++ k).draws = j.draws ++ k.draws := rfl

@[simp] theorem asks_append (j k : Journal R) : (j ++ k).asks = j.asks ++ k.asks := rfl

@[simp] theorem append_empty (j : Journal R) : j ++ ∅ = j := by
  show Journal.mk _ _ = j
  rw [draws_empty, asks_empty, List.append_nil, List.append_nil]

theorem append_assoc (j k l : Journal R) : j ++ k ++ l = j ++ (k ++ l) := by
  show Journal.mk _ _ = Journal.mk _ _
  simp only [draws_append, asks_append, List.append_assoc]

/-- One transition. -/
def ofDraw (t : Transition R) : Journal R := ⟨[t], []⟩

/-- One check. -/
def ofAsk (a : Ask R) : Journal R := ⟨[], [a]⟩

end Journal

/-! ### Journals beside the generator -/

/-- The verifier without its journal. -/
def Verifier.forget (v : Verifier R (G × Journal R)) : Verifier R G :=
  ⟨v.params, v.generator.1, v.stats, v.cache, v.level, v.events⟩

namespace Session

/-- The session without its journal. -/
def forget (σ : Session R (G × Journal R) S) : Session R G S := ⟨σ.verifier.forget, σ.source⟩

/-- What has been written down. -/
def journal (σ : Session R (G × Journal R) S) : Journal R := σ.verifier.generator.2

/-- The session with a journal. -/
def withJournal (σ : Session R G S) (j : Journal R) : Session R (G × Journal R) S :=
  ⟨⟨σ.verifier.params, (σ.verifier.generator, j), σ.verifier.stats, σ.verifier.cache,
    σ.verifier.level, σ.verifier.events⟩, σ.source⟩

end Session

/-- A run that writes nothing down. -/
def Run.unrecorded (x : Run R (Session R G S) α) : Run R (Session R (G × Journal R) S) α := fun σ =>
  (x σ.forget).map fun r => (r.1, r.2.withJournal σ.journal)

/-- Writes down that a check is asked for. -/
def Run.ask (side : Side) (s : State R) : Run R (Session R (G × Journal R) S) Unit :=
  modifyVerifier fun v =>
    { v with generator := (v.generator.1, v.generator.2 ++ .ofAsk ⟨side, s, v.params.bounds⟩) }

/-- The model, with the transitions written down. -/
def Model.journaling (model : Model R G) : Model R (G × Journal R) := fun s g =>
  (model s g.1).map fun r => (r.1, (r.2, g.2 ++ .ofDraw r.1))

/-- The check of a side, written down if there is a threshold in it. -/
def SideCheck.journaling (side : Side) (c : SideCheck R G) : SideCheck R (G × Journal R) where
  probabilistic := c.probabilistic
  check s :=
    if c.probabilistic then do
      Run.ask side s
      Run.unrecorded (c.check s)
    else Run.unrecorded (c.check s)

/-- The path property with the checks of its sides written down. -/
def UntilCheck.journaling (u : UntilCheck R G) : UntilCheck R (G × Journal R) where
  id := u.id
  lower := u.lower
  upper := u.upper
  pre := u.pre.journaling .pre
  post := u.post.journaling .post

theorem UntilCheck.side_journaling (u : UntilCheck R G) (side : Side) :
    u.journaling.side side = (u.side side).journaling side := by
  cases side <;> rfl

theorem UntilCheck.probabilistic_journaling (u : UntilCheck R G) (side : Side) :
    (u.journaling.side side).probabilistic = (u.side side).probabilistic := by
  cases side <;> rfl

/-! ### Forgetting the journal -/

/-- Without its journal the first run is the second. -/
def Forgets (x : Run R (Session R (G × Journal R) S) α) (y : Run R (Session R G S) α) : Prop :=
  ∀ σ, (x σ).map (Prod.map id Session.forget) = y σ.forget

/-- The journal is a part of the generator that is dropped. -/
theorem forgets_iff_lifts {x : Run R (Session R (G × Journal R) S) α}
    {y : Run R (Session R G S) α} : Forgets x y ↔ Lifts Prod.fst x y := Iff.rfl

theorem Model.journaling_lifts (model : Model R G) : model.journaling.Lifts Prod.fst model := by
  intro s g
  unfold Model.journaling
  cases model s g.1 with
  | error e => rfl
  | ok r => rfl

namespace Forgets

theorem unrecorded (x : Run R (Session R G S) α) : Forgets x.unrecorded x := by
  intro σ
  unfold Run.unrecorded
  cases x σ.forget with
  | error e => rfl
  | ok r => rfl

theorem check (u : UntilCheck R G) (side : Side) (s : State R) :
    Forgets ((u.journaling.side side).check s) ((u.side side).check s) := by
  rw [UntilCheck.side_journaling]
  have hcheck : Forgets (Run.unrecorded ((u.side side).check s)) ((u.side side).check s) :=
    .unrecorded _
  have hask : Lifts Prod.fst (Run.ask side s) (Pure.pure () : Run R (Session R G Unit) Unit) :=
    fun _ => rfl
  have hasked := hask.bind fun _ => forgets_iff_lifts.1 hcheck
  rw [pure_bind] at hasked
  unfold SideCheck.journaling
  dsimp only
  split_ifs
  · exact hasked
  · exact hcheck

/-- **A walk that keeps a journal is, without it, the walk that keeps none.** -/
theorem run [Scalar R] (model : Model R G) (u : UntilCheck R G) (origin : R) (fuel : Nat)
    (w : Walk R) :
    Forgets (Walk.run model.journaling u.journaling origin fuel w)
      (Walk.run model u origin fuel w) := by
  have hsides : u.journaling.Related (fun _ _ => Lifts Prod.fst) u :=
    ⟨rfl, rfl, rfl, u.probabilistic_journaling, check u⟩
  exact (Lifts.congruence model.journaling_lifts).walk hsides origin fuel w

/-- A run that ends has ended in the same way with a journal. -/
theorem exists_journaled {x : Run R (Session R (G × Journal R) S) α}
    {y : Run R (Session R G S) α} (h : Forgets x y) {σ σ' : Session R G S} {a : α}
    (hy : y σ = .ok (a, σ')) : ∃ τ, x (σ.withJournal ∅) = .ok (a, τ) ∧ τ.forget = σ' :=
  Lifts.exists_of_ok (forgets_iff_lifts.1 h) hy

end Forgets

end SimCheck
