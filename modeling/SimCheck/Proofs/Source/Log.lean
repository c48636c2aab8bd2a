import SimCheck.Proofs.Memo.Ledger
import SimCheck.Proofs.Source.Simulation

/-!
# Sources that log the calls made on them

A source with a log beside its state answers as before, and it notes when a test begins, what it has
answered and when the test ends.

* `SourceCall`, `SampleSource.logged`: the calls, and the source that logs them;
* `Sheds x y`: up to what is carried beside the source, `x` is `y`;
* `Session.verify_logged_sheds`: without the log the call is the one on the source itself;
* `completing_logged`: what a test adds to the log.
-/

namespace SimCheck

variable {R G S L α : Type}

/-! ### Logs -/

/-- A call on a source; a request is logged with its answer. -/
inductive SourceCall (R : Type)
  | began (property : PropertyId) (state : State R)
  | observed (observation : Bool)
  | ended (property : PropertyId)

/-- The course of a request whose answer is logged. -/
def Draw.logged (log : List (SourceCall R)) : Draw S → Draw (S × List (SourceCall R))
  | .answer b source => .answer b (source, log ++ [.observed b])
  | .simulate next => .simulate fun b => (next b).logged log
  | .stalled => .stalled

/-- The source with a log of the calls, the first one first. -/
def SampleSource.logged (src : SampleSource R S) : SampleSource R (S × List (SourceCall R)) where
  beginRun id s σ := (src.beginRun id s σ.1, σ.2 ++ [.began id s])
  next σ := (src.next σ.1).logged σ.2
  endRun id σ := (src.endRun id σ.1, σ.2 ++ [.ended id])

/-! ### Beside the source -/

/-- A source with something carried beside it, and the source itself. -/
def Beside (carrying : S × L) (source : S) : Prop := carrying.1 = source

/-- Up to what is carried beside the source the first run is the second. -/
abbrev Sheds (x : Run R (Session R G (S × L)) α) (y : Run R (Session R G S) α) : Prop :=
  Matches Beside Beside x y

/-- A run that ends has ended alike beside the source. -/
theorem Sheds.exists_of_ok {x : Run R (Session R G (S × L)) α} {y : Run R (Session R G S) α}
    (h : Sheds x y) {v : Verifier R G} {source : S} {τ : Session R G S} {a : α}
    (hy : y ⟨v, source⟩ = .ok (a, τ)) (carried : L) :
    ∃ carried', x ⟨v, (source, carried)⟩ = .ok (a, ⟨τ.verifier, (τ.source, carried')⟩) := by
  obtain ⟨⟨source', carried'⟩, hx, hbeside⟩ :=
    Matches.exists_of_ok h (s := (source, carried)) (t := source) rfl hy
  cases hbeside
  exact ⟨carried', hx⟩

/-! ### Calls without the log -/

theorem Draw.logged_matches (log : List (SourceCall R)) (d : Draw S) :
    (d.logged log).Matches Beside d := by
  induction d with
  | answer b source => exact .answer b rfl
  | simulate next ih => exact .simulate ih
  | stalled => exact .stalled

/-- **A source with a log answers as the source does.** -/
theorem SampleSource.logged_simulates (src : SampleSource R S) :
    src.logged.Simulates src (fun _ => True) Beside Beside where
  beginRun _ _ _ _ _ h := by
    cases h
    rfl
  next {σ source} h := by
    cases h
    exact Draw.logged_matches σ.2 (src.next σ.1)
  endRun _ _ _ h := by
    cases h
    rfl

/-- **Without the log the call is the one on the source itself.** -/
theorem Session.verify_logged_sheds [Scalar R] [Distributions R] (src : SampleSource R S)
    (sim : Simulator R G) (s : State R) (p : Property R) :
    Sheds (verify sim src.logged p s : Run R (Session R G (S × List (SourceCall R))) Bool)
      (verify sim src p s) :=
  src.logged_simulates.verify trivial sim p

/-! ### What is logged -/

section

variable {path : Run R (Session R G Unit) Bool}

theorem Draw.follow_logged {d : Draw S} {log : List (SourceCall R)} {b : Bool}
    {σ τ : Session R G (S × List (SourceCall R))}
    (h : Run.follow path (d.logged log) σ = .ok (b, τ)) : τ.source.2 = log ++ [.observed b] := by
  induction d generalizing σ with
  | answer c source =>
    obtain ⟨_, _, hsource, h⟩ := Run.bind_eq_ok.1 h
    obtain ⟨rfl, rfl⟩ := Run.pure_eq_ok.1 h
    cases hsource
    rfl
  | simulate next ih =>
    obtain ⟨c, _, -, h⟩ := Run.bind_eq_ok.1 h
    exact ih c h
  | stalled => exact (Run.throw_ne_ok h).elim

variable [Scalar R] [Distributions R] {src : SampleSource R S} {fuel : ℕ} {t t' : ThresholdTest R}
  {drawn : List Bool} {σ τ : Session R G (S × List (SourceCall R))}

/-- The answers of the source are logged one by one. -/
theorem observing_logged (h : observing src.logged path fuel t σ = .ok ((t', drawn), τ)) :
    τ.source.2 = σ.source.2 ++ drawn.map .observed := by
  induction fuel generalizing t drawn σ with
  | zero =>
    rcases Run.ite_eq_ok.1 h with ⟨-, h⟩ | ⟨-, h⟩
    · obtain ⟨heq, rfl⟩ := Run.pure_eq_ok.1 h
      cases heq
      exact (List.append_nil _).symm
    · exact (Run.throw_ne_ok h).elim
  | succ fuel ih =>
    rcases Run.ite_eq_ok.1 h with ⟨-, h⟩ | ⟨-, h⟩
    · obtain ⟨heq, rfl⟩ := Run.pure_eq_ok.1 h
      cases heq
      exact (List.append_nil _).symm
    · obtain ⟨b, σ₁, hdraw, h⟩ := Run.bind_eq_ok.1 h
      obtain ⟨⟨t₁, bs⟩, σ₂, hrest, h⟩ := Run.bind_eq_ok.1 h
      obtain ⟨heq, rfl⟩ := Run.pure_eq_ok.1 h
      cases heq
      have hlog : σ₁.source.2 = σ.source.2 ++ [.observed b] := Draw.follow_logged hdraw
      rw [ih hrest, hlog, List.append_assoc]
      rfl

/-- **A test that is not done from the start begins, observes and ends; else the log stays as it is.** -/
theorem completing_logged {id : PropertyId} {s : State R}
    (h : completing src.logged id s path fuel t σ = .ok ((t', drawn), τ)) :
    τ.source.2 = σ.source.2 ++
      if t.isDone then [] else .began id s :: drawn.map .observed ++ [.ended id] := by
  rcases Run.ite_eq_ok.1 h with ⟨hdone, h⟩ | ⟨hdone, h⟩
  · obtain ⟨-, rfl⟩ := Run.pure_eq_ok.1 h
    rw [if_pos hdone, List.append_nil]
  · obtain ⟨_, σ₁, hbegin, h⟩ := Run.bind_eq_ok.1 h
    obtain ⟨r, σ₂, hobserve, h⟩ := Run.bind_eq_ok.1 h
    obtain ⟨_, σ₃, hend, h⟩ := Run.bind_eq_ok.1 h
    obtain ⟨rfl, rfl⟩ := Run.pure_eq_ok.1 h
    cases hbegin
    cases hend
    have hlog := observing_logged hobserve
    rw [if_neg hdone]
    show σ₂.source.2 ++ [.ended id] = _
    rw [hlog]
    simp [SampleSource.logged]

/-- A test that is not done from the start is given an observation. -/
theorem observing_ne_nil {src : SampleSource R S} {σ τ : Session R G S} (ht : t.isDone = false)
    (h : observing src path fuel t σ = .ok ((t', drawn), τ)) : drawn ≠ [] := by
  cases fuel with
  | zero =>
    rcases Run.ite_eq_ok.1 h with ⟨hdone, -⟩ | ⟨-, h⟩
    · simp [ht] at hdone
    · exact (Run.throw_ne_ok h).elim
  | succ fuel =>
    rcases Run.ite_eq_ok.1 h with ⟨hdone, -⟩ | ⟨-, h⟩
    · simp [ht] at hdone
    · obtain ⟨b, σ₁, -, h⟩ := Run.bind_eq_ok.1 h
      obtain ⟨⟨t₁, bs⟩, σ₂, -, h⟩ := Run.bind_eq_ok.1 h
      obtain ⟨heq, -⟩ := Run.pure_eq_ok.1 h
      cases heq
      exact List.cons_ne_nil b bs

theorem completing_eq_nil {src : SampleSource R S} {σ τ : Session R G S} {id : PropertyId}
    {s : State R} (h : completing src id s path fuel t σ = .ok ((t', drawn), τ)) :
    drawn = [] ↔ t.isDone = true := by
  rcases Run.ite_eq_ok.1 h with ⟨hdone, h⟩ | ⟨hdone, h⟩
  · obtain ⟨heq, -⟩ := Run.pure_eq_ok.1 h
    cases heq
    exact iff_of_true rfl hdone
  · obtain ⟨_, σ₁, -, h⟩ := Run.bind_eq_ok.1 h
    obtain ⟨r, σ₂, hobserve, h⟩ := Run.bind_eq_ok.1 h
    obtain ⟨_, σ₃, -, h⟩ := Run.bind_eq_ok.1 h
    obtain ⟨rfl, -⟩ := Run.pure_eq_ok.1 h
    exact iff_of_false (observing_ne_nil (eq_false_of_ne_true hdone) hobserve) hdone

end

end SimCheck
