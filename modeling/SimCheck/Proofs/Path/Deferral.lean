import SimCheck.Scalar.Exact
import SimCheck.Proofs.Path.Resolution

/-!
# Deferral does not change the outcome of a path

A walk defers the checks of sides with thresholds and resolves them in portions.  If the verdicts on
the sides do not depend on when they are asked for, the walk ends with the outcome of the path that
checks everything at once, although it may have passed more states by then.

* `VisitSimulates`, `Walk.visit_simulates`: a visit records what the immediate visit decides;
* `Walk.goOn_moves`: beyond a state that leaves the path open both walks move alike;
* `Walk.advance_simulates`, `Walk.run_simulates`: the two put together, and the invariant of a walk;
* `walk_outcome_eq_immediate`: the two walks end with the same outcome;
* `Detour`: a walk that passes a state more than the immediate one.
-/

namespace SimCheck

variable {R G : Type}

/-! ### One state -/

variable [Scalar R] {u : UntilCheck R G} {v : Side → State R → Bool} {model : Model R G}
  {origin : R}

omit [Scalar R] in
/-- Where the generator is the same, so is the transition that is drawn. -/
theorem transition_of_course {s : State R} {tr : Transition R} {σ σ' τ : Session R G Unit}
    (h : Run.transition model s σ = .ok (tr, σ')) (hτ : τ.course = σ.course) :
    ∃ τ', Run.transition model s τ = .ok (tr, τ') ∧ τ'.course = σ'.course := by
  have hparams : τ.verifier.params = σ.verifier.params := congrArg Prod.fst hτ
  have hgenerator : τ.verifier.generator = σ.verifier.generator := congrArg Prod.snd hτ
  obtain ⟨g, hmodel, rfl⟩ := Run.transition_eq_ok.1 h
  rw [← hgenerator] at hmodel
  exact ⟨_, Run.transition_eq_ok.2 ⟨g, hmodel, rfl⟩, Prod.ext hparams rfl⟩

/-- A visit has added to the trace what the state decides at once. -/
structure VisitSimulates (u : UntilCheck R G) (v : Side → State R → Bool)
    (now : Run R (Session R G Unit) (Immediate.Verdict R)) (t : Trace R) (visited : Visit R)
    (σ σ' : Session R G Unit) (o : Outcome) : Prop where
  decided : visited.trace.decided v = (t.decided v).orElse o
  sound : visited.trace.Sound u v
  final : visited.decided = true → o ≠ .open
  /-- From the same course the immediate visit has this outcome, and if that is open it has drawn the
  same transition and leaves the same course. -/
  now : ∀ τ, τ.course = σ.course → ∃ drawn τ', now τ = .ok ((o, drawn), τ') ∧
    (o = .open → drawn = visited.drawn ∧ τ'.course = σ'.course)

namespace VisitSimulates

variable {s : State R} {t t' : Trace R} {side : Side} {visited : Visit R} {o : Outcome}
  {σ σ₁ σ' : Session R G Unit} {rest : Run R (Session R G Unit) (Immediate.Verdict R)}

omit [Scalar R] in
/-- The last side to be recorded. -/
theorem last (hu : u.Consults v) (ht : t.Sound u v) {final : Bool} {drawn : Option (Transition R)}
    (h : u.record side s t σ = .ok ((t', final), σ')) :
    VisitSimulates u v (do return (← u.look side s, drawn)) t ⟨t', final, drawn⟩ σ σ'
      (side.outcome (v side s)) := by
  obtain ⟨hdecided, hsound, hcourse, hfinal, hlook⟩ := UntilCheck.record_eq_ok hu ht h
  refine ⟨hdecided, hsound, hfinal, fun τ hτ => ?_⟩
  obtain ⟨τ', hτ', hcourse'⟩ := hlook τ
  refine ⟨drawn, τ', Run.bind_eq_ok.2 ⟨_, _, hτ', rfl⟩, fun _ => ⟨rfl, ?_⟩⟩
  rw [hcourse', hτ, hcourse]

omit [Scalar R] in
/-- A side that decides ends the visit. -/
theorem ends (hu : u.Consults v) (ht : t.Sound u v)
    (h : u.record side s t σ = .ok ((t', true), σ')) :
    VisitSimulates u v (Immediate.lookThen u side s rest) t ⟨t', true, none⟩ σ σ'
      (side.outcome (v side s)) := by
  obtain ⟨hdecided, hsound, -, hfinal, hlook⟩ := UntilCheck.record_eq_ok hu ht h
  have hne := hfinal rfl
  refine ⟨hdecided, hsound, hfinal, fun τ _ => ?_⟩
  obtain ⟨τ', hτ', -⟩ := hlook τ
  refine ⟨none, τ', Run.bind_eq_ok.2 ⟨_, _, hτ', ?_⟩, fun hopen => (hne hopen).elim⟩
  cases ho : side.outcome (v side s) with
  | «open» => exact (hne ho).elim
  | satisfied => rfl
  | violated => rfl

omit [Scalar R] in
/-- A side that need not decide comes before the rest of the visit. -/
theorem step (hu : u.Consults v) (ht : t.Sound u v) {final : Bool}
    (h : u.record side s t σ = .ok ((t', final), σ₁))
    (hrest : VisitSimulates u v rest t' visited σ₁ σ' o) :
    VisitSimulates u v (Immediate.lookThen u side s rest) t visited σ σ'
      ((side.outcome (v side s)).orElse o) := by
  obtain ⟨hdecided, -, hcourse, -, hlook⟩ := UntilCheck.record_eq_ok hu ht h
  obtain ⟨hdecided', hsound', hfinal', hnow⟩ := hrest
  refine ⟨?_, hsound', ?_, fun τ hτ => ?_⟩
  · rw [hdecided', hdecided, Outcome.orElse_assoc]
  · intro hfinal
    have hne := hfinal' hfinal
    cases side.outcome (v side s) with
    | «open» => exact hne
    | satisfied => exact fun h => (nomatch h)
    | violated => exact fun h => (nomatch h)
  · -- A side that decides ends the immediate visit; what the walk records after it has no effect.
    obtain ⟨τ₁, hτ₁, hcourse₁⟩ := hlook τ
    unfold Immediate.lookThen
    simp only [Run.bind_eq_ok]
    cases ho : side.outcome (v side s) with
    | satisfied => exact ⟨none, τ₁, ⟨_, _, hτ₁, by rw [ho]; rfl⟩, fun h => (nomatch h)⟩
    | violated => exact ⟨none, τ₁, ⟨_, _, hτ₁, by rw [ho]; rfl⟩, fun h => (nomatch h)⟩
    | «open» =>
      obtain ⟨drawn, τ₂, hτ₂, hopen⟩ := hnow τ₁ (by rw [hcourse₁, hτ, hcourse])
      exact ⟨drawn, τ₂, ⟨_, _, hτ₁, by rw [ho]; exact hτ₂⟩, hopen⟩

omit [Scalar R] in
/-- The transition that is drawn is the same. -/
theorem draw {drawn : Transition R}
    {k : Transition R → Run R (Session R G Unit) (Immediate.Verdict R)}
    (h : Run.transition model s σ = .ok (drawn, σ₁))
    (hk : VisitSimulates u v (k drawn) t visited σ₁ σ' o) :
    VisitSimulates u v (Run.transition model s >>= k) t visited σ σ' o := by
  obtain ⟨hdecided, hsound, hfinal, hnow⟩ := hk
  refine ⟨hdecided, hsound, hfinal, fun τ hτ => ?_⟩
  obtain ⟨τ₁, hτ₁, hcourse⟩ := transition_of_course h hτ
  obtain ⟨next, τ₂, hτ₂, hopen⟩ := hnow τ₁ hcourse
  exact ⟨next, τ₂, Run.bind_eq_ok.2 ⟨_, _, hτ₁, hτ₂⟩, hopen⟩

omit [Scalar R] in
/-- A state that contributes nothing more. -/
theorem nothing (ht : t.Sound u v) (drawn : Option (Transition R)) (σ : Session R G Unit) :
    VisitSimulates u v (pure (.open, drawn)) t ⟨t, false, drawn⟩ σ σ .open :=
  ⟨(Outcome.orElse_open _).symm, ht, fun h => (nomatch h),
    fun τ hτ => ⟨drawn, τ, rfl, fun _ => ⟨rfl, hτ⟩⟩⟩

end VisitSimulates

namespace Walk

/-- A visit adds to the trace what the immediate visit decides. -/
theorem visit_simulates (hu : u.Consults v) {elapsed : R} {s : State R} {t : Trace R}
    (ht : t.Sound u v) {visited : Visit R} {σ σ' : Session R G Unit}
    (h : visit model u elapsed s t σ = .ok (visited, σ')) :
    ∃ o, VisitSimulates u v (Immediate.visit model u elapsed s) t visited σ σ' o := by
  unfold visit at h
  unfold Immediate.visit
  rcases Run.ite_eq_ok.1 h with ⟨hinside, h⟩ | ⟨hbefore, h⟩
  · -- In the window the right side comes before the left one.
    rw [if_pos hinside]
    obtain ⟨⟨t₁, final₁⟩, σ₁, hpost, h⟩ := Run.bind_eq_ok.1 h
    have ht₁ := (UntilCheck.record_eq_ok hu ht hpost).2.1
    cases final₁ with
    | true =>
      obtain ⟨rfl, rfl⟩ := Run.pure_eq_ok.1 h
      exact ⟨_, .ends hu ht hpost⟩
    | false =>
      obtain ⟨⟨t₂, final₂⟩, σ₂, hpre, h⟩ := Run.bind_eq_ok.1 h
      obtain ⟨rfl, rfl⟩ := Run.pure_eq_ok.1 h
      exact ⟨_, .step hu ht hpost (.last hu ht₁ hpre)⟩
  · -- Before it the left side comes first, and the right one only if the window opens here.
    rw [if_neg hbefore]
    obtain ⟨⟨t₁, final₁⟩, σ₁, hpre, h⟩ := Run.bind_eq_ok.1 h
    have ht₁ := (UntilCheck.record_eq_ok hu ht hpre).2.1
    cases final₁ with
    | true =>
      obtain ⟨rfl, rfl⟩ := Run.pure_eq_ok.1 h
      exact ⟨_, .ends hu ht hpre⟩
    | false =>
      obtain ⟨drawn, σ₂, hdrawn, h⟩ := Run.bind_eq_ok.1 h
      rcases Run.ite_eq_ok.1 h with ⟨hopens, h⟩ | ⟨hopens, h⟩
      · obtain ⟨⟨t₂, final₂⟩, σ₃, hpost, h⟩ := Run.bind_eq_ok.1 h
        obtain ⟨rfl, rfl⟩ := Run.pure_eq_ok.1 h
        refine ⟨_, .step hu ht hpre (.draw hdrawn (o := Side.post.outcome (v .post s)) ?_)⟩
        rw [if_pos hopens]
        exact .last hu ht₁ hpost
      · obtain ⟨rfl, rfl⟩ := Run.pure_eq_ok.1 h
        refine ⟨_, .step hu ht hpre (.draw hdrawn (o := .open) ?_)⟩
        rw [if_neg hopens]
        exact .nothing ht₁ _ _

end Walk

/-! ### One step of the walk -/

namespace Walk

variable {w : Walk R} {p : Progress R} {σ σ' : Session R G Unit}

theorem finish_eq_ok (hu : u.Consults v) {t : Trace R} (ht : t.Sound u v) {length : Nat}
    {cutOff : Bool} (h : finish u t length cutOff σ = .ok (p, σ')) :
    ∃ e, p = .ended e ∧ e.outcome = t.decided v := by
  obtain ⟨⟨o, t'⟩, σ₁, hresolve, h⟩ := Run.bind_eq_ok.1 h
  obtain ⟨rfl, rfl⟩ := Run.pure_eq_ok.1 h
  exact ⟨_, rfl, (Trace.resolve_eq_ok hu ht hresolve).1⟩

theorem resolvePrefix_eq_ok (hu : u.Consults v) {t t' : Trace R} (ht : t.Sound u v) {length : Nat}
    {o : Outcome} (h : resolvePrefix u t length σ = .ok ((o, t'), σ')) :
    o = t.decided v ∧ σ'.course = σ.course ∧ t'.Sound u v ∧ t'.decided v = .open := by
  obtain ⟨_, σ₁, hreport, h⟩ := Run.bind_eq_ok.1 h
  have hsound : Trace.Sound u v { t with budget := t.budget - t.budget / 2.0 } :=
    ⟨ht.deferred, ht.verdicts⟩
  obtain ⟨rfl, hcourse, hsound', hopen⟩ := Trace.resolve_eq_ok hu hsound h
  cases hreport
  exact ⟨rfl, hcourse, hsound', hopen⟩

/-- The next state of the walk, with the same trace. -/
def next (w : Walk R) (s : State R) : Walk R := { w with state := s, length := w.length + 1 }

/-- Both walks end, the deferred one with its pending steps, or both go on to the same state. -/
inductive Moves (v : Side → State R → Bool) (w : Walk R) : Progress R → Outcome ⊕ State R → Prop
  | end (e : PathEnd) (h : e.outcome = w.trace.decided v) : Moves v w (.ended e) (.inl .open)
  | next (s : State R) : Moves v w (.ongoing (w.next s)) (.inr s)

theorem leave_moves (hu : u.Consults v) (ht : w.trace.Sound u v) {t : Transition R}
    (h : leave u origin w t σ = .ok (p, σ')) :
    Moves v w p (Immediate.leave u origin w.state t) ∧ (∀ w', p = .ongoing w' → σ' = σ) := by
  unfold Immediate.leave
  rcases Run.ite_eq_ok.1 h with ⟨habsorbing, h⟩ | ⟨habsorbing, h⟩
  · obtain ⟨e, rfl, he⟩ := finish_eq_ok hu ht h
    rw [if_pos habsorbing]
    exact ⟨.end e he, fun w' hw' => (nomatch hw')⟩
  · rw [if_neg habsorbing]
    rcases Run.ite_eq_ok.1 h with ⟨hclosed, h⟩ | ⟨hclosed, h⟩
    · obtain ⟨e, rfl, he⟩ := finish_eq_ok hu ht h
      rw [if_pos hclosed]
      exact ⟨.end e he, fun w' hw' => (nomatch hw')⟩
    · obtain ⟨rfl, rfl⟩ := Run.pure_eq_ok.1 h
      rw [if_neg hclosed]
      exact ⟨.next _, fun _ _ => rfl⟩

/-- Beyond a state that is open the walks move alike. -/
theorem goOn_moves (hu : u.Consults v) (ht : w.trace.Sound u v) {drawn : Option (Transition R)}
    (h : goOn model u origin w drawn σ = .ok (p, σ')) :
    ∃ next, Moves v w p next ∧ ∀ τ, τ.course = σ.course → ∃ τ',
      Immediate.goOn model u origin w.state w.length drawn τ = .ok (next, τ') ∧
        (∀ w', p = .ongoing w' → τ'.course = σ'.course) := by
  obtain ⟨_, _, hparams, h⟩ := Run.bind_eq_ok.1 h
  obtain ⟨rfl, rfl⟩ := Run.params_eq_ok.1 hparams
  have hbegin : ∀ τ, τ.course = σ.course → Run.params τ = .ok (σ.verifier.params, τ) := by
    intro τ hτ
    rw [Run.params_eq_ok]
    exact ⟨congrArg Prod.fst hτ, rfl⟩
  rcases Run.ite_eq_ok.1 h with ⟨hcut, h⟩ | ⟨hcut, h⟩
  · obtain ⟨e, rfl, he⟩ := finish_eq_ok hu ht h
    refine ⟨_, .end e he, fun τ hτ => ⟨τ, ?_, fun w' hw' => (nomatch hw')⟩⟩
    refine Run.bind_eq_ok.2 ⟨_, _, hbegin τ hτ, ?_⟩
    rw [if_pos hcut]
    rfl
  · cases drawn with
    | some t =>
      obtain ⟨hmoves, hsame⟩ := leave_moves hu ht h
      refine ⟨_, hmoves, fun τ hτ => ⟨τ, Run.bind_eq_ok.2 ⟨_, _, hbegin τ hτ, ?_⟩, fun w' hw' => ?_⟩⟩
      · rw [if_neg hcut]
        rfl
      · rw [hτ, hsame w' hw']
    | none =>
      obtain ⟨t, σ₁, hdrawn, h⟩ := Run.bind_eq_ok.1 h
      obtain ⟨hmoves, hsame⟩ := leave_moves hu ht h
      refine ⟨_, hmoves, fun τ hτ => ?_⟩
      obtain ⟨τ', hτ', hcourse⟩ := transition_of_course hdrawn hτ
      refine ⟨τ', Run.bind_eq_ok.2 ⟨_, _, hbegin τ hτ, ?_⟩, fun w' hw' => ?_⟩
      · rw [if_neg hcut]
        exact Run.bind_eq_ok.2 ⟨_, _, hτ', rfl⟩
      · rw [hcourse, hsame w' hw']

/-- What the immediate walk does in the state that the deferred walk passes, where `o` is what the
state decides: it ends with `o`, or it goes on with the deferred walk. -/
inductive Passes (o : Outcome) (p : Progress R) (σ τ : Session R G Unit) : Outcome ⊕ State R → Prop
  | end (h : ∀ w, p = .ongoing w → o ≠ .open) : Passes o p σ τ (.inl o)
  | goOn (w : Walk R) (hp : p = .ongoing w) (ho : o = .open) (hcourse : τ.course = σ.course) :
    Passes o p σ τ (.inr w.state)

/-- What the deferred walk does in the state: its outcome is that of the steps up to there, or they
are recorded in its trace. -/
inductive Records (u : UntilCheck R G) (v : Side → State R → Bool) (w : Walk R) (o : Outcome) :
    Progress R → Prop
  | end (e : PathEnd) (h : e.outcome = (w.trace.decided v).orElse o) : Records u v w o (.ended e)
  | goOn (w' : Walk R) (hsound : w'.trace.Sound u v)
    (hdecided : w'.trace.decided v = (w.trace.decided v).orElse o)
    (hlength : w'.length = w.length + 1) : Records u v w o (.ongoing w')

/-- A state that decides at once ends the immediate walk. -/
theorem advance_of_ne_open {t : Trace R} {visited : Visit R} {o : Outcome} {σ₁ : Session R G Unit}
    (hvisit : VisitSimulates u v (Immediate.visit model u (w.state.time - origin) w.state) t visited
      σ σ₁ o) (ho : o ≠ .open) (τ : Session R G Unit) (hτ : τ.course = σ.course) :
    ∃ τ', Immediate.advance model u origin w.state w.length τ = .ok (.inl o, τ') := by
  obtain ⟨drawn, τ', hτ', -⟩ := hvisit.now τ hτ
  refine ⟨τ', Run.bind_eq_ok.2 ⟨_, _, hτ', ?_⟩⟩
  cases o with
  | «open» => exact (ho rfl).elim
  | satisfied => rfl
  | violated => rfl

/-- Both walks beyond a state whose steps have been recorded or resolved. -/
theorem advance_of_goOn (hu : u.Consults v) (w₁ : Walk R) (ht : w₁.trace.Sound u v) {o : Outcome}
    (hdecided : w₁.trace.decided v = (w.trace.decided v).orElse o) (hstate : w₁.state = w.state)
    (hlength : w₁.length = w.length) {t : Trace R} {visited : Visit R} {σ₁ σ₂ : Session R G Unit}
    (hvisit : VisitSimulates u v (Immediate.visit model u (w.state.time - origin) w.state) t visited
      σ σ₁ o) (hcourse : σ₂.course = σ₁.course)
    (h : goOn model u origin w₁ visited.drawn σ₂ = .ok (p, σ')) :
    Records u v w o p ∧ ∀ τ, τ.course = σ.course → ∃ r τ',
      Immediate.advance model u origin w.state w.length τ = .ok (r, τ') ∧ Passes o p σ' τ' r := by
  obtain ⟨next, hmoves, hgoOn⟩ := goOn_moves hu ht h
  rw [hstate, hlength] at hgoOn
  constructor
  · cases hmoves with
    | «end» e he => exact .end e (he.trans hdecided)
    | next s => exact .goOn _ ht hdecided (congrArg (· + 1) hlength)
  · intro τ hτ
    by_cases ho : o = .open
    · obtain ⟨drawn, τ₁, hτ₁, hopen⟩ := hvisit.now τ hτ
      obtain ⟨rfl, hcourse₁⟩ := hopen ho
      obtain ⟨τ₂, hτ₂, hsame⟩ := hgoOn τ₁ (by rw [hcourse₁, hcourse])
      refine ⟨next, τ₂, Run.bind_eq_ok.2 ⟨_, _, hτ₁, ?_⟩, ?_⟩
      · rw [ho]
        exact hτ₂
      · cases hmoves with
        | «end» e he =>
          rw [← ho]
          exact .end fun w' hw' => (nomatch hw')
        | next s => exact .goOn (w₁.next s) rfl ho (hsame _ rfl)
    · obtain ⟨τ', hτ'⟩ := advance_of_ne_open hvisit ho τ hτ
      exact ⟨_, τ', hτ', .end fun _ _ => ho⟩

/-- One state, passed by both walks while the pending steps leave the path open. -/
theorem advance_simulates (hu : u.Consults v) (ht : w.trace.Sound u v)
    (h : advance model u origin w σ = .ok (p, σ')) :
    ∃ o, Records u v w o p ∧
      (w.trace.decided v = .open → ∀ τ, τ.course = σ.course → ∃ r τ',
        Immediate.advance model u origin w.state w.length τ = .ok (r, τ') ∧ Passes o p σ' τ' r) := by
  obtain ⟨visited, σ₁, hvisited, h⟩ := Run.bind_eq_ok.1 h
  obtain ⟨o, hvisit⟩ := visit_simulates hu ht hvisited
  refine ⟨o, ?_⟩
  rcases Run.ite_eq_ok.1 h with ⟨hdecided, h⟩ | ⟨-, h⟩
  · -- A side without thresholds decides: the walk ends here, and so does the immediate one.
    obtain ⟨e, rfl, he⟩ := finish_eq_ok hu hvisit.sound h
    refine ⟨.end e (he.trans hvisit.decided), fun _ τ hτ => ?_⟩
    obtain ⟨τ', hτ'⟩ := advance_of_ne_open hvisit (hvisit.final hdecided) τ hτ
    exact ⟨_, τ', hτ', .end fun w' hw' => (nomatch hw')⟩
  rcases Run.ite_eq_ok.1 h with ⟨-, h⟩ | ⟨-, h⟩
  · -- At a checkpoint the walk goes on if the steps up to here leave the path open.
    obtain ⟨⟨o', t'⟩, σ₂, hresolve, h⟩ := Run.bind_eq_ok.1 h
    obtain ⟨ho', hcourse, hsound, hopen⟩ := resolvePrefix_eq_ok hu hvisit.sound hresolve
    rw [hvisit.decided] at ho'
    have hends : o' ≠ .open → p = .ended ⟨o', w.length, false⟩ → Records u v w o p ∧
        (w.trace.decided v = .open → ∀ τ, τ.course = σ.course → ∃ r τ',
          Immediate.advance model u origin w.state w.length τ = .ok (r, τ') ∧
            Passes o p σ' τ' r) := by
      rintro hne rfl
      refine ⟨.end _ ho', fun hw τ hτ => ?_⟩
      rw [hw, Outcome.open_orElse] at ho'
      obtain ⟨τ', hτ'⟩ := advance_of_ne_open hvisit (ho' ▸ hne) τ hτ
      exact ⟨_, τ', hτ', .end fun w' hw' => (nomatch hw')⟩
    cases o' with
    | «open» =>
      obtain ⟨hrecords, hpasses⟩ := advance_of_goOn (w := w) hu
        { w with checkpoint := 2 * w.checkpoint, trace := t' } hsound (hopen.trans ho') rfl rfl
        hvisit hcourse h
      exact ⟨hrecords, fun _ => hpasses⟩
    | satisfied => exact hends (fun h => (nomatch h)) (Run.pure_eq_ok.1 h).1.symm
    | violated => exact hends (fun h => (nomatch h)) (Run.pure_eq_ok.1 h).1.symm
  · -- Elsewhere it goes on whatever the steps decide.
    obtain ⟨hrecords, hpasses⟩ := advance_of_goOn (w := w) hu { w with trace := visited.trace }
      hvisit.sound hvisit.decided rfl rfl hvisit rfl h
    exact ⟨hrecords, fun _ => hpasses⟩

/-- **A walk ends with what its pending steps decide, or else as the immediate walk does from there.** -/
theorem run_simulates (hu : u.Consults v) {fuel : Nat} {e : PathEnd} (ht : w.trace.Sound u v)
    (h : run model u origin fuel w σ = .ok (e, σ')) :
    (w.trace.decided v ≠ .open → e.outcome = w.trace.decided v) ∧
      (w.trace.decided v = .open → ∀ τ, τ.course = σ.course → ∃ τ',
        Immediate.run model u origin fuel w.state w.length τ = .ok (e.outcome, τ')) := by
  -- Once the pending steps decide, the immediate walk has ended and only the first part is left.
  induction fuel generalizing w σ with
  | zero => exact (Run.throw_ne_ok h).elim
  | succ fuel ih =>
    obtain ⟨p, σ₁, hadvance, h⟩ := Run.bind_eq_ok.1 h
    obtain ⟨o, hrecords, hpasses⟩ := advance_simulates hu ht hadvance
    cases hrecords with
    | «end» e' he =>
      obtain ⟨rfl, rfl⟩ := Run.pure_eq_ok.1 h
      refine ⟨fun hne => he.trans (Outcome.orElse_of_ne_open hne o), fun hopen τ hτ => ?_⟩
      rw [hopen, Outcome.open_orElse] at he
      obtain ⟨r, τ', hτ', hpasses⟩ := hpasses hopen τ hτ
      refine ⟨τ', Run.bind_eq_ok.2 ⟨r, τ', hτ', ?_⟩⟩
      cases hpasses with
      | «end» _ => rw [he]; rfl
      | goOn _ hp => cases hp
    | goOn w' hsound hdecided hlength =>
      obtain ⟨hended, hgoes⟩ := ih hsound h
      rw [hdecided] at hended hgoes
      refine ⟨fun hne => ?_, fun hopen τ hτ => ?_⟩
      · rw [Outcome.orElse_of_ne_open hne] at hended
        exact hended hne
      · rw [hopen, Outcome.open_orElse] at hended hgoes
        obtain ⟨r, τ₁, hτ₁, hpasses⟩ := hpasses hopen τ hτ
        cases hpasses with
        | «end» hne =>
          rw [hended (hne w' rfl)]
          exact ⟨τ₁, Run.bind_eq_ok.2 ⟨_, _, hτ₁, rfl⟩⟩
        | goOn w'' hp ho hcourse =>
          cases hp
          obtain ⟨τ₂, hτ₂⟩ := hgoes ho τ₁ hcourse
          rw [hlength] at hτ₂
          exact ⟨τ₂, Run.bind_eq_ok.2 ⟨_, _, hτ₁, hτ₂⟩⟩

end Walk

/-! ### Oracles -/

/-- The property on a side of the until. -/
def PathProperty.side (path : PathProperty R) : Side → Property R
  | .pre => path.pre
  | .post => path.post

variable [Distributions R]

/-- A path property whose sides with thresholds are asked instead of checked. -/
def PathProperty.asking (path : PathProperty R) (sim : Simulator R G)
    (ask : Side → State R → Run R (Session R G Unit) Bool) : UntilCheck R G where
  id := path.id
  lower := path.lower
  upper := path.upper
  pre := sideCheck .pre
  post := sideCheck .post
where
  sideCheck (side : Side) : SideCheck R G :=
    ⟨(path.side side).isProbabilistic,
      if (path.side side).isProbabilistic then ask side
      else check sim (.simulating R) (path.side side)⟩

/-- A side that is asked answers as the oracle does; one without thresholds has a truth value. -/
theorem PathProperty.asking_consults (path : PathProperty R) (sim : Simulator R G)
    {ask : Side → State R → Run R (Session R G Unit) Bool} {oracle : Side → Valuation → Bool}
    (hask : ∀ side s σ, ∃ σ',
      ask side s σ = .ok (oracle side s.values, σ') ∧ σ'.course = σ.course) :
    (path.asking sim ask).Consults fun side s =>
      if (path.side side).isProbabilistic then oracle side s.values
      else (path.side side).isTrue s where
  known := by
    intro side s hside
    have hp : (path.side side).isProbabilistic = false := by cases side <;> exact hside
    have hcheck : ((path.asking sim ask).side side).check s
        = check sim (.simulating R) (path.side side) s := by
      cases side <;> exact congrFun (if_neg (by simpa using hp)) s
    rw [hcheck, if_neg (by simpa using hp)]
    exact check_settled sim _ s _ [] _ hp
  asked := by
    intro side s hside σ
    have hp : (path.side side).isProbabilistic = true := by cases side <;> exact hside
    have hcheck : ((path.asking sim ask).side side).check s = ask side s := by
      cases side <;> exact congrFun (if_pos hp) s
    rw [hcheck, if_pos hp]
    exact hask side s σ
  values := by
    intro hp s t hst
    have hp : (path.side .pre).isProbabilistic = true := hp
    simp only [if_pos hp, hst]

/-- **Deferral and checkpoints do not change the outcome of a path.**  If the sides with thresholds
are answered by an oracle that looks at the values of a state, a walk that ends, wherever its
checkpoints fall and whatever error it has to spend, ends with the outcome of the immediate walk. -/
theorem walk_outcome_eq_immediate (sim : Simulator R G) (path : PathProperty R)
    (ask : Side → State R → Run R (Session R G Unit) Bool) (oracle : Side → Valuation → Bool)
    (hask : ∀ side s σ, ∃ σ',
      ask side s σ = .ok (oracle side s.values, σ') ∧ σ'.course = σ.course)
    (origin budget : R) (checkpoint fuel : ℕ) (start : State R) (σ σ' : Session R G Unit)
    (e : PathEnd)
    (h : Walk.run sim.model (path.asking sim ask) origin fuel
      ⟨start, 0, checkpoint, .start budget⟩ σ = .ok (e, σ')) :
    (∃ τ, Immediate.run sim.model (path.asking sim ask) origin fuel start 0 σ
      = .ok (e.outcome, τ)) ∧
      ∀ fuel' o τ, Immediate.run sim.model (path.asking sim ask) origin fuel' start 0 σ
        = .ok (o, τ) → o = e.outcome := by
  have hu := path.asking_consults sim hask
  obtain ⟨τ, hτ⟩ := (Walk.run_simulates hu (Trace.start_sound budget) h).2 rfl σ rfl
  exact ⟨⟨τ, hτ⟩, fun fuel' o τ' h' => Immediate.run_unique h' hτ⟩

/-! ### A walk that goes on too far -/

namespace Detour

/-- From the values `[0]` to the values `[1]`, where the path stays. -/
noncomputable def simulator : Simulator EReal Unit where
  model s := pure (if s.values = [0] then ⟨[1], 1⟩ else .absorbing s.values)
  fuel := 2

noncomputable def threshold : Property EReal :=
  .threshold .above 0 (.unbounded ⟨1⟩ (.expr (.constant true)) (.expr (.constant true)))

noncomputable def path : PathProperty EReal := .unbounded ⟨0⟩ threshold threshold

/-- Both sides hold at the start and nowhere else. -/
def oracle (_ : Side) (values : Valuation) : Bool := values = [0]

def ask (side : Side) (s : State EReal) : Run EReal (Session EReal Unit Unit) Bool :=
  pure (oracle side s.values)

noncomputable def session : Session EReal Unit Unit := ⟨⟨.default, (), ∅, ∅, 0, []⟩, ()⟩

noncomputable abbrev distributions : Distributions EReal := ⟨fun _ _ _ => 0, fun _ _ => 0⟩

noncomputable def sides : UntilCheck EReal Unit :=
  let _ := distributions
  path.asking simulator ask

/-- Both sides are deferred in every state. -/
theorem visit_eq {elapsed : EReal} (h : sides.lower ≤ elapsed) (s : State EReal) (t : Trace EReal) :
    Walk.visit simulator.model sides elapsed s t
      = pure ⟨(t.push ⟨.post, .deferred s⟩).push ⟨.pre, .deferred s⟩, false, none⟩ := by
  unfold Walk.visit
  rw [if_pos h]
  rfl

/-- The steps of the first state, the latest first. -/
noncomputable def pending : List (Step EReal) :=
  [⟨.pre, .deferred ⟨[0], 0⟩⟩, ⟨.post, .deferred ⟨[0], 0⟩⟩]

/-- The walk goes on although the first state decides it. -/
theorem advance_first :
    Walk.advance simulator.model sides 0 (.start ⟨[0], 0⟩ 0) session
      = .ok (.ongoing ⟨⟨[1], 1⟩, 1, 64, ⟨pending, [], 0⟩⟩, session) := by
  have hvisit : sides.lower ≤ (0 : EReal) - 0 := (sub_zero (0 : EReal)).ge
  have habsorbing : (⟨[1], 1⟩ : Transition EReal).isAbsorbing = false := Exact.isInfinite_coe 1
  have hclosed : ¬sides.upper < (0 + 1 : EReal) - 0 := not_top_lt
  have hleave : Walk.leave sides 0 ⟨⟨[0], 0⟩, 0, 64, ⟨pending, [], 0⟩⟩ ⟨[1], 1⟩ session
      = .ok (.ongoing ⟨⟨[1], 0 + 1⟩, 1, 64, ⟨pending, [], 0⟩⟩, session) := by
    unfold Walk.leave
    rw [habsorbing, if_neg Bool.false_ne_true]
    exact congrFun (if_neg hclosed) session
  rw [zero_add] at hleave
  unfold Walk.advance
  rw [← hleave]
  show (Walk.visit simulator.model sides (0 - 0) ⟨[0], 0⟩ (.start 0) >>= _) session = _
  rw [visit_eq hvisit]
  rfl

/-- It ends with two more steps, which do not matter. -/
theorem advance_second :
    ∃ σ, Walk.advance simulator.model sides 0 ⟨⟨[1], 1⟩, 1, 64, ⟨pending, [], 0⟩⟩ session
      = .ok (.ended ⟨.satisfied, 1, false⟩, σ) := by
  have hvisit : sides.lower ≤ (1 : EReal) - 0 := by
    rw [sub_zero]
    exact zero_le_one
  have habsorbing : (.absorbing [1] : Transition EReal).isAbsorbing = true := Exact.isInfinite_top
  have hleave (t : Trace EReal) : Walk.leave sides 0 ⟨⟨[1], 1⟩, 1, 64, t⟩ (.absorbing [1])
      = Walk.finish sides t 1 false := by
    unfold Walk.leave
    rw [if_pos habsorbing]
  have hadvance : Walk.advance simulator.model sides 0 ⟨⟨[1], 1⟩, 1, 64, ⟨pending, [], 0⟩⟩ session
      = Walk.finish sides
        ⟨⟨.pre, .deferred ⟨[1], 1⟩⟩ :: ⟨.post, .deferred ⟨[1], 1⟩⟩ :: pending, [], 0⟩ 1 false
        session := by
    rw [← hleave]
    unfold Walk.advance
    show (Walk.visit simulator.model sides (1 - 0) ⟨[1], 1⟩ ⟨pending, [], 0⟩ >>= _) session = _
    rw [visit_eq hvisit]
    rfl
  exact ⟨_, hadvance.trans rfl⟩

/-- Both walks are satisfied, but only the deferred one takes a transition. -/
theorem walk_outcome_eq_immediate_detour :
    (∃ σ, Walk.run simulator.model sides 0 2 (.start ⟨[0], 0⟩ 0) session
      = .ok (⟨.satisfied, 1, false⟩, σ)) ∧
      ∃ τ, Immediate.run simulator.model sides 0 2 ⟨[0], 0⟩ 0 session = .ok (.satisfied, τ) := by
  let _ := distributions
  obtain ⟨σ, hsecond⟩ := advance_second
  have hwalk : Walk.run simulator.model sides 0 2 (.start ⟨[0], 0⟩ 0) session
      = .ok (⟨.satisfied, 1, false⟩, σ) := by
    refine Run.bind_eq_ok.2 ⟨_, _, advance_first, ?_⟩
    exact Run.bind_eq_ok.2 ⟨_, _, hsecond, rfl⟩
  refine ⟨⟨σ, hwalk⟩, ?_⟩
  exact (walk_outcome_eq_immediate simulator path ask oracle (fun side s σ => ⟨σ, rfl, rfl⟩) 0 0
    firstCheckpoint 2 ⟨[0], 0⟩ session σ _ hwalk).1

end Detour

end SimCheck
