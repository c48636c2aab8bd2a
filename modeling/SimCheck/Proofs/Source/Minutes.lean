import SimCheck.Proofs.Source.Log
import SimCheck.Proofs.Source.Quiet

/-!
# Minutes of the tests of a call

The minutes of a call have an entry for each threshold test at the first level: where the threshold
stands, the verifier and the test when the test was opened, what the source has answered, the verdict,
and the verifier when the test had been closed.

* `Minute`, `Minute.calls`: an entry, and the calls on the source that belong to it;
* `Minute.Conducted`: how a test is conducted;
* `Session.minutedVerify`, `Session.minutedVerify_sheds`: a call with minutes, without which it is the
  call;
* `minutedTest_spec`: what a single test adds to log, minutes and statistics.
-/

namespace SimCheck

variable {R G S L α : Type}

/-! ### Minutes -/

/-- A threshold test at the first level: where it stands, and how it was conducted. -/
structure Minute (R G : Type) where
  site : Site
  bound : R
  path : PathProperty R
  /-- The verifier when the test was opened. -/
  before : Verifier R G
  /-- The test before its first observation, with the sample that was kept for it. -/
  opened : ThresholdTest R
  /-- What it has been given, the first observation first. -/
  drawn : List Bool
  verdict : Bool
  /-- The verifier when the test had been closed. -/
  after : Verifier R G

namespace Minute

/-- The key of the sample of the test. -/
def key (m : Minute R G) (s : State R) : CacheKey := ⟨m.path.id, s.values⟩

/-- The sample that was kept for the test, if there was one. -/
def cached (m : Minute R G) (s : State R) : Option (Sample R) :=
  if m.before.params.memoization then m.before.cache.get? (m.key s) else none

/-- The calls on the source that belong to the test. -/
def calls (m : Minute R G) (s : State R) : List (SourceCall R) :=
  if m.opened.isDone then []
  else .began m.path.id s :: m.drawn.map .observed ++ [.ended m.path.id]

/-- The threshold that was tested. -/
def place (m : Minute R G) : Site × R × PathProperty R := (m.site, m.bound, m.path)

variable [Scalar R] [Distributions R]

/-- The test with all that it has been given. -/
def closed (m : Minute R G) : ThresholdTest R := m.opened.pushAll m.drawn

/-- The test has been conducted from the state `s` as it should be. -/
structure Conducted (sim : Simulator R G) (s : State R) (m : Minute R G) : Prop where
  level : m.before.level = 1
  /-- It has been opened with the sample that was kept. -/
  opened : ∃ new, ThresholdTest.create m.before.params.thresholdAlgorithm
      (Region.around m.bound m.before.params.delta
        ((m.path.checks sim).nestedError m.before.params)) m.before.params = .ok new ∧
    m.opened = (m.cached s).elim new new.resume
  /-- It has been given something unless it was done from the start. -/
  drawn : m.drawn = [] ↔ m.opened.isDone = true
  done : m.closed.isDone = true
  verdict : m.verdict = m.closed.accepts
  count : m.closed.sample.count = (m.cached s).elim 0 (·.count) + m.drawn.length
  /-- Its sample is kept. -/
  stored : m.before.params.memoization = true →
    m.after.cache.get? (m.key s) = some m.closed.sample

end Minute

/-! ### Calls with minutes -/

/-- The session without what is carried beside its source. -/
def Session.shed (σ : Session R G (S × L)) : Session R G S := ⟨σ.verifier, σ.source.1⟩

namespace Run

/-- A run with something carried beside its source. -/
def beside (x : Run R (Session R G S) α) : Run R (Session R G (S × L)) α := fun σ =>
  (x σ.shed).map fun r => (r.1, ⟨r.2.verifier, (r.2.source, σ.source.2)⟩)

theorem beside_eq_ok {x : Run R (Session R G S) α} {a : α} {σ τ : Session R G (S × L)} :
    beside x σ = .ok (a, τ) ↔
      ∃ ρ, x σ.shed = .ok (a, ρ) ∧ ⟨ρ.verifier, (ρ.source, σ.source.2)⟩ = τ := by
  unfold beside
  cases x σ.shed with
  | error e => simp [Except.map]
  | ok r =>
    obtain ⟨b, ρ⟩ := r
    simp [Except.map]

theorem beside_sheds (x : Run R (Session R G S) α) :
    Sheds (beside x : Run R (Session R G (S × L)) α) x := by
  rintro v ⟨source, carried⟩ _ rfl
  unfold beside Session.shed
  dsimp only
  cases x ⟨v, source⟩ with
  | error e => exact .halted e
  | ok r => exact .ended r.1 r.2.verifier rfl

/-- Enters a test into the minutes. -/
def enter (m : Minute R G) : Run R (Session R G (S × List (Minute R G))) Unit :=
  modify fun σ => { σ with source := (σ.source.1, σ.source.2 ++ [m]) }

end Run

variable [Scalar R] [Distributions R]

/-- Decides a threshold by its test, which is entered into the minutes. -/
def minutedTest (sim : Simulator R G) (src : SampleSource R S) (s : State R) (site : Site) (bound : R)
    (path : PathProperty R) : Run R (Session R G (S × List (Minute R G))) Bool := do
  let u := path.checks sim
  let before ← Run.verifier
  let opened ← openTest u bound s
  let nested := u.nestedError (← Run.params)
  let (closed, drawn) ← Run.beside (completing src u.id s (simulate sim u s nested) sim.fuel opened)
  closeTest u s closed
  let after ← Run.verifier
  Run.enter ⟨site, bound, path, before, opened, drawn, closed.accepts, after⟩
  return closed.accepts

/-- Expressions are evaluated in a state, and thresholds tested from it with minutes. -/
def Leaves.minuted (sim : Simulator R G) (src : SampleSource R S) (s : State R) :
    Leaves R (Run R (Session R G (S × List (Minute R G)))) where
  expression e := Run.ofExcept (e.holds s)
  test site bound path := Run.nested (minutedTest sim src s site bound path)

/-- Decides a property in a state, with minutes of the tests at the first level. -/
def Session.minutedVerify (sim : Simulator R G) (src : SampleSource R S) (p : Property R)
    (s : State R) : Run R (Session R G (S × List (Minute R G))) Bool := do
  Run.modifyVerifier fun v => { v with stats := ∅, level := 0 }
  p.decide (Leaves.minuted sim src s) []

section

variable (sim : Simulator R G) (src : SampleSource R S) (s : State R)

theorem minutedTest_sheds (site : Site) (bound : R) (path : PathProperty R) :
    Sheds (minutedTest sim src s site bound path) (runTest sim src (path.checks sim) bound s) := by
  rw [runTest_eq]
  -- The verifier is looked at for the minutes only.
  have hlook {β : Type} {k : Verifier R G → Run R (Session R G (S × List (Minute R G))) β}
      {y : Run R (Session R G S) β} (hk : ∀ v, Sheds (k v) y) : Sheds (Run.verifier >>= k) y :=
    fun v _ _ h => hk v v h
  refine hlook fun before => (openTest_matches _ bound s).bind fun opened => ?_
  refine Matches.params_bind fun p => (Run.beside_sheds _).bind fun r => ?_
  refine (closeTest_matches _ s r.1).bind fun _ => hlook fun after => ?_
  exact fun v _ _ h => .ended _ v h

/-- **Without the minutes the call is the call.** -/
theorem Session.minutedVerify_sheds (p : Property R) :
    Sheds (minutedVerify sim src p s : Run R (Session R G (S × List (Minute R G))) Bool)
      (verify sim src p s) := by
  refine (Matches.modifyVerifier _).bind fun _ => ?_
  rw [check_eq_decide sim src s [] p]
  refine (Matches.congruence Beside).decide (fun e => .ofExcept _) (fun site bound path => ?_) [] p
  exact .nested (minutedTest_sheds sim src s site bound path)

end

/-! ### One test -/

theorem ThresholdTest.resumeFrom_eq_elim (t : ThresholdTest R) (v : Verifier R G) (k : CacheKey) :
    t.resumeFrom v k
      = (if v.params.memoization then v.cache.get? k else none).elim t t.resume := by
  unfold ThresholdTest.resumeFrom
  split_ifs <;> rfl

theorem ThresholdTest.count_elim_resume {t : ThresholdTest R} (ht : t.sample = ∅)
    (kept : Option (Sample R)) : (kept.elim t t.resume).sample.count = kept.elim 0 (·.count) := by
  cases kept with
  | none => exact congrArg (·.count) ht
  | some sample => exact congrArg (·.count) (ThresholdTest.sample_resume t sample)

/-- What is known of a test that has been completed. -/
theorem completing_spec {src : SampleSource R S} {id : PropertyId} {s : State R}
    {path : Run R (Session R G Unit) Bool} (model : Model R G)
    (hscope : Run.Keeps Session.scope path) (hquiet : Quiet 1 path) {fuel : ℕ}
    {t t' : ThresholdTest R} {drawn : List Bool} {σ τ : Session R G S} (ht : t.Sound)
    (hlevel : σ.verifier.level = 1)
    (h : completing src id s path fuel t σ = .ok ((t', drawn), τ)) :
    t' = t.pushAll drawn ∧ t'.isDone = true ∧ (drawn = [] ↔ t.isDone = true) ∧
      τ.verifier.params = σ.verifier.params ∧ τ.verifier.level = 1 ∧
      τ.verifier.stats.sampleSize = σ.verifier.stats.sampleSize := by
  have hcomplete : completeTest src id s path fuel t σ = .ok (t', τ) := by
    rw [← map_completing]
    exact Run.map_eq_ok.2 ⟨_, h, rfl⟩
  obtain ⟨hparams, -⟩ := Session.scope_eq_iff.1
    (completeTest_keeps_scope model src id s hscope fuel t σ t' τ hcomplete)
  obtain ⟨hlevel', hsize⟩ :=
    Quiet.completing model src id s hquiet fuel t σ _ τ (Nat.le_of_eq hlevel.symm) h
  exact ⟨completing_eq_ok h, (completeTest_eq_ok ht hcomplete).1, completing_eq_nil h, hparams,
    hlevel'.trans hlevel, hsize⟩

variable {sim : Simulator R G} {src : SampleSource R S} {s : State R} {site : Site} {bound : R}
  {path : PathProperty R}

/-- The steps of a test that is entered into the minutes. -/
theorem minutedTest_eq_ok {σ τ : Session R G (S × List (Minute R G))} {verdict : Bool}
    (h : minutedTest sim src s site bound path σ = .ok (verdict, τ)) :
    ∃ (m : Minute R G) (new closed : ThresholdTest R) (ρ : Session R G S),
      m.place = (site, bound, path) ∧ m.before = σ.verifier ∧
        ThresholdTest.create σ.verifier.params.thresholdAlgorithm
          (Region.around bound σ.verifier.params.delta
            ((path.checks sim).nestedError σ.verifier.params)) σ.verifier.params = .ok new ∧
        m.opened = new.resumeFrom σ.verifier (m.key s) ∧
        completing src path.id s
            (simulate sim (path.checks sim) s ((path.checks sim).nestedError σ.verifier.params))
            sim.fuel m.opened σ.shed = .ok ((closed, m.drawn), ρ) ∧
        m.verdict = closed.accepts ∧ m.after = ρ.verifier.close (path.checks sim) s closed ∧
        τ = ⟨m.after, (ρ.source, σ.source.2 ++ [m])⟩ := by
  obtain ⟨before, _, hbefore, h⟩ := Run.bind_eq_ok.1 h
  obtain ⟨rfl, rfl⟩ := Run.verifier_eq_ok.1 hbefore
  obtain ⟨opened, _, hopen, h⟩ := Run.bind_eq_ok.1 h
  obtain ⟨⟨new, hnew, rfl⟩, rfl⟩ := openTest_eq_ok.1 hopen
  obtain ⟨p, _, hparams, h⟩ := Run.bind_eq_ok.1 h
  obtain ⟨rfl, rfl⟩ := Run.params_eq_ok.1 hparams
  obtain ⟨⟨closed, drawn⟩, _, hbeside, h⟩ := Run.bind_eq_ok.1 h
  obtain ⟨ρ, hcomplete, rfl⟩ := Run.beside_eq_ok.1 hbeside
  obtain ⟨_, _, hclose, h⟩ := Run.bind_eq_ok.1 h
  rw [closeTest_eq] at hclose
  cases hclose
  obtain ⟨after, _, hafter, h⟩ := Run.bind_eq_ok.1 h
  obtain ⟨rfl, rfl⟩ := Run.verifier_eq_ok.1 hafter
  obtain ⟨_, _, henter, h⟩ := Run.bind_eq_ok.1 h
  cases henter
  obtain ⟨-, rfl⟩ := Run.pure_eq_ok.1 h
  exact ⟨⟨site, bound, path, σ.verifier, _, drawn, _, _⟩, new, closed, ρ, rfl, rfl, hnew, rfl,
    hcomplete, rfl, rfl, rfl⟩

/-- **One test is conducted as it should be, and its calls, its minute and the size of its sample are
added to what there is.** -/
theorem minutedTest_spec {σ τ : Session R G ((S × List (SourceCall R)) × List (Minute R G))}
    {verdict : Bool} (hlevel : σ.verifier.level = 1)
    (h : minutedTest sim src.logged s site bound path σ = .ok (verdict, τ)) :
    ∃ m : Minute R G, m.place = (site, bound, path) ∧ m.Conducted sim s ∧
      τ.source.1.2 = σ.source.1.2 ++ m.calls s ∧ τ.source.2 = σ.source.2 ++ [m] ∧
      τ.verifier.level = 1 ∧
      τ.verifier.stats.sampleSize
        = σ.verifier.stats.sampleSize.push (m.closed.sample.count : R) := by
  obtain ⟨m, new, closed, ρ, hplace, hbefore, hnew, hopened, hcomplete, hverdict, hafter, rfl⟩ :=
    minutedTest_eq_ok h
  obtain ⟨rfl, rfl, rfl⟩ : m.site = site ∧ m.bound = bound ∧ m.path = path := by
    simpa [Minute.place] using hplace
  obtain ⟨hfirst, hempty⟩ := ThresholdTest.create_undecided hnew
  have hsound : m.opened.Sound := hopened ▸ .resumeFrom hfirst _ _
  have hstart : σ.shed.verifier.level = 1 := hlevel
  obtain ⟨rfl, hdone, hdrawn, hparams, hlevel', hsize⟩ :=
    completing_spec sim.model (simulate_keeps_scope (m.path.checks_keepsScope sim) sim s _)
      (Quiet.simulate sim m.path s _) hsound hstart hcomplete
  rw [← hbefore] at hnew hopened
  rw [ThresholdTest.resumeFrom_eq_elim] at hopened
  have hparams' : ρ.verifier.params = m.before.params := hparams.trans (hbefore ▸ rfl)
  refine ⟨m, rfl,
    ⟨hbefore ▸ hlevel, ⟨new, hnew, hopened⟩, hdrawn, hdone, hverdict, ?count, ?stored⟩,
    completing_logged hcomplete, rfl, ?level, ?size⟩
  case count =>
    rw [Minute.closed, ThresholdTest.count_pushAll, hopened, ThresholdTest.count_elim_resume hempty]
    rfl
  case stored =>
    intro hmemo
    rw [← hparams'] at hmemo
    rw [hafter, Verifier.cache_close, if_pos hmemo, SampleCache.get?_insert]
    exact if_pos rfl
  case level => rw [hafter, ← hlevel', Verifier.close]
  case size =>
    rw [hafter]
    show (if ρ.verifier.level = 1 then _ else _) = _
    rw [if_pos hlevel', hsize]
    rfl

end SimCheck
