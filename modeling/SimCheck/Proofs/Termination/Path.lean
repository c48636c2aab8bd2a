import SimCheck.Proofs.Agreement.Observation
import SimCheck.Proofs.Halting
import SimCheck.Proofs.Test.Quota

/-!
# Paths that end within their means

Where paths are cut off after `L` transitions, a path that has passed `n` states has at most `L - n`
more to pass, and needs no more fuel than that.  What the checks inside it spend comes on top, and is
accounted for in the same way.

* `Verifier.Outlay p L v w`: what has been spent between two verifiers, in paths of at most `L`
  transitions, and in tests within their quotas, as the statistics and the ledger show;
* `Run.Ends p L F x Q`: with the parameters `p`, within whatever error bounds, `x` ends with a value of
  which `Q` holds, or at a fault of which `F` holds, and what it spends is an outlay;
* `Ends.stepCongruence`: it is built operation by operation;
* `Ends.goOn`, `Ends.advance`: beyond a state the path has ended or is longer by one;
* `Ends.walk`, `Ends.simulate`: whole paths.
-/

namespace SimCheck

variable {R G S α β : Type}

/-! ### What has been spent -/

namespace Event

/-- Whether the event reports a test. -/
def isTest : Event R → Bool
  | .testFinished .. => true
  | .resolvingPrefix .. | .estimateFinished _ => false

/-- The event reports the test that has been posted, which has drawn no more than its quota. -/
def Covers (p : Params R) : Event R → Posting → Prop
  | .testFinished _ id s t, .tested k drawn =>
    k = ⟨id, s.values⟩ ∧ ∃ quota, t.quota? = some quota ∧ drawn.length ≤ quota ∧
      (p.thresholdAlgorithm = .fixed → quota = p.fixedSampleSize)
  | _, _ => False

end Event

/-- What has been spent between two verifiers. -/
structure Verifier.Outlay [Scalar R] (p : Params R) (L : ℕ) (v w : Verifier R (G × Ledger)) : Prop where
  /-- No path has taken more than `L` transitions, and no more paths have been truncated than
  simulated. -/
  paths : ∃ lengths : List ℕ, (∀ n ∈ lengths, n ≤ L) ∧
    w.stats.pathLength = (lengths.map fun n : ℕ => (n : R)).foldl Sample.push v.stats.pathLength ∧
    w.stats.truncatedPaths ≤ v.stats.truncatedPaths + lengths.length
  /-- The tests that have been reported are those that have been posted, and they have kept their
  quotas. -/
  tests : ∃ events postings, w.events = events ++ v.events ∧ w.ledger = postings ++ v.ledger ∧
    List.Forall₂ (Event.Covers p) (events.filter Event.isTest) postings

namespace Verifier.Outlay

variable [Scalar R] {p : Params R} {L : ℕ} {u v w : Verifier R (G × Ledger)}

/-- Nothing has been spent, whatever else has happened. -/
theorem of_unspent (hstats : w.stats = v.stats) {events : List (Event R)}
    (hevents : w.events = events ++ v.events) (hreports : events.filter Event.isTest = [])
    (hledger : w.ledger = v.ledger) : Outlay p L v w where
  paths := ⟨[], List.forall_mem_nil _, congrArg Stats.pathLength hstats,
    (congrArg Stats.truncatedPaths hstats).le⟩
  tests := ⟨events, [], hevents, hledger, by rw [hreports]; exact .nil⟩

theorem refl (v : Verifier R (G × Ledger)) : Outlay p L v v :=
  of_unspent rfl (List.nil_append _).symm rfl rfl

theorem trans (h : Outlay p L u v) (h' : Outlay p L v w) : Outlay p L u w where
  paths := by
    obtain ⟨lengths, hle, hlengths, htruncated⟩ := h.paths
    obtain ⟨lengths', hle', hlengths', htruncated'⟩ := h'.paths
    refine ⟨lengths ++ lengths', List.forall_mem_append.2 ⟨hle, hle'⟩, ?_, ?_⟩
    · rw [hlengths', hlengths, List.map_append, List.foldl_append]
    · rw [List.length_append]
      omega
  tests := by
    obtain ⟨events, postings, hevents, hledger, hcovers⟩ := h.tests
    obtain ⟨events', postings', hevents', hledger', hcovers'⟩ := h'.tests
    refine ⟨events' ++ events, postings' ++ postings, ?_, ?_, ?_⟩
    · rw [hevents', hevents, List.append_assoc]
    · rw [hledger', hledger, List.append_assoc]
    · rw [List.filter_append]
      exact List.rel_append hcovers' hcovers

/-- A path has been counted, and so has its truncation if there was one. -/
theorem of_path {n truncated : ℕ} (hn : n ≤ L) (htruncated : truncated ≤ 1) :
    Outlay p L v { v with stats := v.stats.add ⟨[(n : R)], [], truncated⟩ } where
  paths := ⟨[n], by simpa using hn, rfl, Nat.add_le_add_left htruncated _⟩
  tests := ⟨[], [], rfl, rfl, .nil⟩

/-- A test has been closed and posted. -/
theorem of_test (v : Verifier R (G × Ledger)) (u : UntilCheck R (G × Ledger)) (s : State R)
    {t : ThresholdTest R} {quota : ℕ} (hquota : t.quota? = some quota) {drawn : List Bool}
    (hdrawn : drawn.length ≤ quota) (hsize : p.thresholdAlgorithm = .fixed → quota = p.fixedSampleSize) :
    Outlay p L v (v.closeAndPost u s t drawn) where
  paths := ⟨[], List.forall_mem_nil _, rfl, Nat.le_refl _⟩
  tests := ⟨[.testFinished v.level u.id s t], [.tested ⟨u.id, s.values⟩ drawn], rfl, rfl,
    .cons ⟨rfl, quota, hquota, hdrawn, hsize⟩ .nil⟩

end Verifier.Outlay

/-! ### Runs that end -/

/-- With the parameters `p`, within whatever error bounds, the run ends with a value of which `Q` holds,
or it halts at a fault of which `F` holds; in no case is its fuel spent.  If it ends, it has left the
parameters as they were and spent no more than it may. -/
def Run.Ends [Scalar R] (p : Params R) (L : ℕ) (F : Fault R → Prop)
    (x : Run R (Session R (G × Ledger) S) α) (Q : α → Prop) : Prop :=
  ∀ σ, p.SameButBounds σ.verifier.params →
    (∃ a τ, x σ = .ok (a, τ) ∧ Q a ∧ τ.verifier.params = σ.verifier.params ∧
      Verifier.Outlay p L σ.verifier τ.verifier) ∨
    ∃ f, x σ = .error (.fault f) ∧ F f

namespace Run.Ends

variable [Scalar R] {p : Params R} {L : ℕ} {F : Fault R → Prop} {Q Q' : α → Prop}

/-! ### Operations -/

/-- Whatever value the run ends with. -/
abbrev relation (p : Params R) (L : ℕ) (F : Fault R → Prop) :
    RunRelation R (G × Ledger) (G × Ledger) := fun _ _ x _ => Ends p L F x fun _ => True

theorem pure {a : α} (ha : Q a) :
    Ends p L F (Pure.pure a : Run R (Session R (G × Ledger) S) α) Q :=
  fun σ _ => .inl ⟨a, σ, rfl, ha, rfl, .refl _⟩

theorem bind {x : Run R (Session R (G × Ledger) S) α} {k : α → Run R (Session R (G × Ledger) S) β}
    {Q' : β → Prop} (hx : Ends p L F x Q) (hk : ∀ a, Q a → Ends p L F (k a) Q') :
    Ends p L F (x >>= k) Q' := by
  intro σ hσ
  obtain ⟨a, σ₁, hx', ha, hparams, houtlay⟩ | ⟨f, herror, hf⟩ := hx σ hσ
  · rw [bind_of_ok hx', ← hparams]
    obtain ⟨b, τ, hk', hb, hparams', houtlay'⟩ | hfault := hk a ha σ₁ (hparams ▸ hσ)
    · exact .inl ⟨b, τ, hk', hb, hparams', houtlay.trans houtlay'⟩
    · exact .inr hfault
  · exact .inr ⟨f, bind_eq_error.2 (.inl herror), hf⟩

theorem mono {x : Run R (Session R (G × Ledger) S) α} (hx : Ends p L F x Q) (hQ : ∀ a, Q a → Q' a) :
    Ends p L F x Q' := by
  intro σ hσ
  obtain ⟨a, τ, hx', ha, hrest⟩ | hfault := hx σ hσ
  · exact .inl ⟨a, τ, hx', hQ a ha, hrest⟩
  · exact .inr hfault

theorem ite {c : Prop} [Decidable c] {x y : Run R (Session R (G × Ledger) S) α}
    (hx : c → Ends p L F x Q) (hy : ¬c → Ends p L F y Q) : Ends p L F (if c then x else y) Q := by
  split_ifs with hc
  exacts [hx hc, hy hc]

theorem ofExcept {x : Except (Fault R) α} (hx : ∀ a, x = .ok a → Q a)
    (hfault : ∀ f, x = .error f → F f) :
    Ends p L F (Run.ofExcept x : Run R (Session R (G × Ledger) S) α) Q := by
  cases x with
  | ok a => exact pure (hx a rfl)
  | error f => exact fun _ _ => .inr ⟨f, rfl, hfault f rfl⟩

/-- A change of the verifier that leaves the parameters alone and spends nothing. -/
theorem modifyVerifier {g : Verifier R (G × Ledger) → Verifier R (G × Ledger)}
    (hg : ∀ v, (g v).params = v.params ∧ Verifier.Outlay p L v (g v)) :
    Ends p L F (Run.modifyVerifier g : Run R (Session R (G × Ledger) S) Unit) fun _ => True :=
  fun σ _ => .inl ⟨(), _, rfl, trivial, hg σ.verifier⟩

theorem changeSource (f : S → S) :
    Ends p L F (modify fun σ => { σ with source := f σ.source } :
      Run R (Session R (G × Ledger) S) Unit) fun _ => True :=
  fun _ _ => .inl ⟨(), _, rfl, trivial, rfl, .refl _⟩

/-- What comes after a look at the verifier begins with its parameters. -/
theorem verifier_bind {k : Verifier R (G × Ledger) → Run R (Session R (G × Ledger) S) α}
    (hk : ∀ v, p.SameButBounds v.params → Ends p L F (k v) Q) :
    Ends p L F (Run.verifier >>= k) Q :=
  fun σ hσ => hk σ.verifier hσ σ hσ

theorem params_bind {k : Params R → Run R (Session R (G × Ledger) S) α}
    (hk : ∀ q, p.SameButBounds q → Ends p L F (k q) Q) : Ends p L F (Run.params >>= k) Q :=
  fun σ hσ => hk σ.verifier.params hσ σ hσ

theorem withinBounds (b : ErrorBounds R) {x : Run R (Session R (G × Ledger) S) α}
    (hx : Ends p L F x Q) : Ends p L F (Run.withinBounds b x) Q := by
  intro σ hσ
  rw [withinBounds_apply]
  have hwithin : p.SameButBounds (σ.verifier.params.withBounds b) := hσ
  obtain ⟨a, τ, hx', ha, -, houtlay⟩ | ⟨f, herror, hf⟩ :=
    hx { σ with verifier.params := σ.verifier.params.withBounds b } hwithin
  · rw [hx']
    exact .inl ⟨a, _, rfl, ha, rfl, { houtlay with }⟩
  · rw [herror]
    exact .inr ⟨f, rfl, hf⟩

theorem nested {x : Run R (Session R (G × Ledger) S) α} (hx : Ends p L F x Q) :
    Ends p L F (Run.nested x) Q := by
  intro σ hσ
  rw [nested_apply]
  obtain ⟨a, τ, hx', ha, hparams, houtlay⟩ | ⟨f, herror, hf⟩ :=
    hx { σ with verifier.level := σ.verifier.level + 1 } hσ
  · rw [hx']
    exact .inl ⟨a, _, rfl, ha, hparams, { houtlay with }⟩
  · rw [herror]
    exact .inr ⟨f, rfl, hf⟩

theorem report (id : PropertyId) (length : ℕ) (bound : R) :
    Ends p L F (Run.report (.resolvingPrefix id length bound) :
      Run R (Session R (G × Ledger) S) Unit) fun _ => True :=
  modifyVerifier fun _ => ⟨rfl, .of_unspent rfl (List.singleton_append).symm rfl rfl⟩

theorem transition {model : Model R G} (hmodel : ∀ s g f, model s g = .error f → F f) (s : State R) :
    Ends p L F (Run.transition model.withLedger s : Run R (Session R (G × Ledger) S) (Transition R))
      fun _ => True := by
  intro σ hσ
  rw [transition_eq]
  unfold Model.withLedger
  cases hdrawn : model s σ.verifier.generator.1 with
  | ok r => exact .inl ⟨_, _, rfl, trivial, rfl, .of_unspent rfl (List.nil_append _).symm rfl rfl⟩
  | error f => exact .inr ⟨f, rfl, hmodel s _ f hdrawn⟩

/-- Connectives end if their operands do. -/
theorem congruence :
    Verdict.Congruence fun (α : Type) (x _ : Run R (Session R (G × Ledger) S) α) =>
      Ends p L F x fun _ => True where
  pure _ := pure trivial
  bind hx hk := hx.bind fun a _ => hk a
  bounds := params_bind fun _ _ => pure trivial
  within b hx := hx.withinBounds b

/-- A path ends in a state if the model and the checks of its sides do. -/
theorem stepCongruence {model : Model R G} (hmodel : ∀ s g f, model s g = .error f → F f) :
    Run.StepCongruence (relation p L F) (relation p L F) model.withLedger model.withLedger where
  pure _ := pure trivial
  bind hx hk := hx.bind fun a _ => hk a
  within b hx := hx.withinBounds b
  report := report
  transition := transition hmodel
  replays := ⟨fun _ => pure trivial, fun hx hk => hx.bind fun a _ => hk a⟩

/-! ### States -/

section Walk

variable {u : UntilCheck R (G × Ledger)} (hu : u.Related (relation p L F) u) {model : Model R G}
  (hmodel : ∀ s g f, model s g = .error f → F f)

include hu hmodel

theorem finish (t : Trace R) (length : ℕ) (cutOff : Bool) :
    Ends p L F (Walk.finish u t length cutOff) fun r => ∃ e, r = .ended e ∧ e.length = length :=
  ((stepCongruence hmodel).resolve hu t t.budget).bind fun _ _ => pure ⟨_, rfl, rfl⟩

/-- Beyond a state of a walk the path has ended within the largest length, or the walk goes on with one
transition more. -/
def Proceeds (L : ℕ) (w : Walk R) : Progress R → Prop
  | .ended e => e.length ≤ L
  | .ongoing w' => w'.length = w.length + 1 ∧ w'.length ≤ L

variable {origin : R} {w : Walk R}

theorem finish_proceeds {length : ℕ} (hlength : length ≤ L) (t : Trace R) (cutOff : Bool) :
    Ends p L F (Walk.finish u t length cutOff) (Proceeds L w) := by
  refine (finish hu hmodel t length cutOff).mono ?_
  rintro _ ⟨e, rfl, rfl⟩
  exact hlength

theorem leave (hw : w.length < L) (t : Transition R) :
    Ends p L F (Walk.leave u origin w t) (Proceeds L w) :=
  ite (fun _ => finish_proceeds hu hmodel hw.le _ _) fun _ =>
    ite (fun _ => finish_proceeds hu hmodel hw _ _) fun _ => pure ⟨rfl, hw⟩

variable (hlimit : p.maxPathLength = some L)

include hlimit

/-- **A walk of the largest length is cut off**, whether the transition out of its last state has been
drawn or not. -/
theorem goOn (hw : w.length ≤ L) (drawn : Option (Transition R)) :
    Ends p L F (Walk.goOn model.withLedger u origin w drawn) (Proceeds L w) := by
  refine params_bind fun q hq => ?_
  rw [← hq.maxPathLength_eq, hlimit]
  refine ite (fun _ => finish_proceeds hu hmodel hw _ _) fun hpasses => ?_
  have hlt : w.length < L := by simpa using hpasses
  cases drawn with
  | some t => exact bind (Q := fun _ => True) (pure trivial) fun t _ => leave hu hmodel hlt t
  | none => exact (transition hmodel w.state).bind fun t _ => leave hu hmodel hlt t

theorem advance (hw : w.length ≤ L) :
    Ends p L F (Walk.advance model.withLedger u origin w) (Proceeds L w) := by
  have hstep := stepCongruence (p := p) (L := L) hmodel
  refine bind (hstep.visit hu (fun side _ => hu.check side) _ _ _) fun v _ =>
    ite (fun _ => finish_proceeds hu hmodel hw _ _) fun _ => ite (fun _ => ?_) fun _ => ?_
  · refine bind (hstep.resolvePrefix hu _ _) fun r _ => ?_
    obtain ⟨outcome, t⟩ := r
    cases outcome with
    | «open» =>
      exact goOn (w := { w with checkpoint := 2 * w.checkpoint, trace := t }) hu hmodel hlimit hw v.drawn
    | satisfied => exact pure hw
    | violated => exact pure hw
  · exact goOn (w := { w with trace := v.trace }) hu hmodel hlimit hw v.drawn

/-! ### Paths -/

/-- **A walk ends within the largest length**, if there is fuel for the transitions that it may still
take. -/
theorem walk {fuel : ℕ} (hfuel : L < fuel + w.length) (hw : w.length ≤ L) :
    Ends p L F (Walk.run model.withLedger u origin fuel w) fun e => e.length ≤ L := by
  induction fuel generalizing w with
  | zero => omega
  | succ fuel ih =>
    refine bind (advance hu hmodel hlimit hw) fun r hr => ?_
    cases r with
    | ended e => exact pure hr
    | ongoing w' =>
      obtain ⟨hlength, hw'⟩ := hr
      exact ih (by omega) hw'

/-- **A path is simulated to its end**, and counted together with its truncation. -/
theorem simulate {fuel : ℕ} (hfuel : L < fuel) (s : State R) (budget : R) :
    Ends p L F (SimCheck.simulate ⟨model.withLedger, fuel⟩ u s budget) fun _ => True := by
  refine bind (walk hu hmodel hlimit hfuel (Nat.zero_le L)) fun e he => ?_
  intro σ _
  refine .inl ⟨e.outcome == .satisfied, ?_⟩
  by_cases htruncated : (e.cutOff && e.outcome == .open) = true
  · refine ⟨{ σ with verifier.stats := σ.verifier.stats.add ⟨[(e.length : R)], [], 1⟩ }, ?_, trivial, rfl,
      .of_path he (Nat.le_refl 1)⟩
    exact bind_eq_ok.2 ⟨_, _, rfl, ite_eq_ok.2 (.inl ⟨htruncated, rfl⟩)⟩
  · refine ⟨{ σ with verifier.stats := σ.verifier.stats.add ⟨[(e.length : R)], [], 0⟩ }, ?_, trivial, rfl,
      .of_path he (Nat.zero_le 1)⟩
    exact bind_eq_ok.2 ⟨_, _, rfl, ite_eq_ok.2 (.inr ⟨htruncated, rfl⟩)⟩

end Walk

end Run.Ends

end SimCheck
