import SimCheck.Proofs.Path.Deferral
import SimCheck.Proofs.Path.Trajectory
import SimCheck.Proofs.Check

/-!
# The meaning of a timed until

In exact time a path whose sides contain no thresholds is simulated as the module on simulation
describes it: it satisfies the until if its right side holds in a place that is occupied within the
window, and its left side in all places before.

* `Fulfils` says so of one place, `Immediate.visit_eq_ok` says when a visit finds it;
* `Immediate.run_satisfied_iff`: the immediate walk is satisfied if a place from there on fulfils the
  until and is not cut off;
* `simulate_iff_fulfils`: so is the simulation of a path.
-/

namespace SimCheck

variable {G : Type}

/-- Place number `k` fulfils the until. -/
structure Fulfils (path : PathProperty EReal) (model : Model EReal G) (first : Place G) (k : ℕ)
    (p : Place G) : Prop where
  visited : Visits model first k p
  post : path.post.isTrue p.state = true
  /-- The place is entered before the window closes. -/
  entered : p.elapsed ≤ path.upper
  /-- It is entered in the window, or still occupied after the window has opened. -/
  occupied : path.lower ≤ p.elapsed ∨
    ∃ t g, model p.state p.generator = .ok (t, g) ∧ path.lower < p.elapsed + t.dwell
  pre : ∀ j q, j < k → Visits model first j q → path.pre.isTrue q.state = true
  /-- The left side must hold in the place itself if the window is not open yet. -/
  pre_here : p.elapsed < path.lower → path.pre.isTrue p.state = true

/-! ### Sides -/

namespace Side

theorem post_outcome_eq_open {b : Bool} : Side.post.outcome b = .open ↔ b = false := by
  cases b <;> simp [outcome]

theorem post_outcome_ne_open {b : Bool} : Side.post.outcome b ≠ .open ↔ b = true := by
  cases b <;> simp [outcome]

theorem post_outcome_eq_satisfied {b : Bool} : Side.post.outcome b = .satisfied ↔ b = true := by
  cases b <;> simp [outcome]

theorem pre_outcome_eq_open {b : Bool} : Side.pre.outcome b = .open ↔ b = true := by
  cases b <;> simp [outcome]

theorem pre_outcome_ne_open {b : Bool} : Side.pre.outcome b ≠ .open ↔ b = false := by
  cases b <;> simp [outcome]

theorem pre_outcome_eq_violated {b : Bool} : Side.pre.outcome b = .violated ↔ b = false := by
  cases b <;> simp [outcome]

theorem post_outcome_ne_violated (b : Bool) : Side.post.outcome b ≠ .violated := by
  cases b <;> simp [outcome]

theorem pre_outcome_ne_satisfied (b : Bool) : Side.pre.outcome b ≠ .satisfied := by
  cases b <;> simp [outcome]

end Side

variable {sim : Simulator EReal G} {path : PathProperty EReal}

/-- The sides of an until without thresholds have their truth values. -/
theorem PathProperty.checks_consults [Distributions EReal] (sim : Simulator EReal G)
    (hfree : ∀ side, (path.side side).isProbabilistic = false) :
    (path.checks sim).Consults fun side s => (path.side side).isTrue s where
  known := by
    intro side s _
    cases side with
    | pre => exact check_settled sim _ s _ [] _ (hfree .pre)
    | post => exact check_settled sim _ s _ [] _ (hfree .post)
  asked := by
    intro side s hp
    have hp : (path.side side).isProbabilistic = true := by cases side <;> exact hp
    rw [hfree side] at hp
    cases hp
  values := by
    intro hp
    have hp : (path.side .pre).isProbabilistic = true := hp
    rw [hfree .pre] at hp
    cases hp

namespace Immediate

section Steps

variable {u : UntilCheck EReal G} {v : Side → State EReal → Bool} {model : Model EReal G}
  {s : State EReal} {σ σ' : Session EReal G Unit}

theorem look_eq_ok (hu : u.Consults v) {side : Side} {o : Outcome}
    (h : u.look side s σ = .ok (o, σ')) :
    o = side.outcome (v side s) ∧ σ'.course = σ.course := by
  obtain ⟨b, σ₁, hb, h⟩ := Run.bind_eq_ok.1 h
  obtain ⟨rfl, rfl⟩ := Run.pure_eq_ok.1 h
  obtain ⟨rfl, hcourse⟩ := hu.answers hb
  exact ⟨rfl, hcourse⟩

theorem lookThen_eq_ok (hu : u.Consults v) {side : Side} {r : Verdict EReal}
    {rest : Run EReal (Session EReal G Unit) (Verdict EReal)}
    (h : lookThen u side s rest σ = .ok (r, σ')) :
    (side.outcome (v side s) ≠ .open ∧ r = (side.outcome (v side s), none)) ∨
      side.outcome (v side s) = .open ∧ ∃ σ₁, σ₁.course = σ.course ∧ rest σ₁ = .ok (r, σ') := by
  obtain ⟨o, σ₁, ho, h⟩ := Run.bind_eq_ok.1 h
  obtain ⟨rfl, hcourse⟩ := look_eq_ok hu ho
  cases hside : side.outcome (v side s) with
  | «open» =>
    rw [hside] at h
    exact .inr ⟨rfl, σ₁, hcourse, h⟩
  | satisfied =>
    rw [hside] at h
    exact .inl ⟨fun h => (nomatch h), (Run.pure_eq_ok.1 h).1.symm⟩
  | violated =>
    rw [hside] at h
    exact .inl ⟨fun h => (nomatch h), (Run.pure_eq_ok.1 h).1.symm⟩

/-- What a visit has drawn: nothing, or the transition out of the state. -/
inductive Drew (model : Model EReal G) (s : State EReal) (c : Params EReal × G) :
    Option (Transition EReal) → Params EReal × G → Prop
  | nothing : Drew model s c none c
  | transition (t : Transition EReal) (g : G) (h : model s c.2 = .ok (t, g)) :
    Drew model s c (some t) (c.1, g)

/-- When a visit finds the path satisfied, why it finds it violated, and what it leaves when it finds
it open. -/
theorem visit_eq_ok (hu : u.Consults v) {elapsed : EReal} {r : Verdict EReal}
    (h : visit model u elapsed s σ = .ok (r, σ')) :
    (r.1 = .satisfied ↔ v .post s = true ∧ (elapsed < u.lower → v .pre s = true) ∧
      (u.lower ≤ elapsed ∨
        ∃ t g, model s σ.verifier.generator = .ok (t, g) ∧ u.lower < elapsed + t.dwell)) ∧
      (r.1 = .violated → v .pre s = false) ∧
      (r.1 = .open → v .pre s = true ∧ Drew model s σ.course r.2 σ'.course) := by
  rcases Run.ite_eq_ok.1 h with ⟨hinside, h⟩ | ⟨hbefore, h⟩
  · -- In the window the right side is all that counts for satisfaction.
    have hnot : ¬elapsed < u.lower := not_lt.2 hinside
    rcases lookThen_eq_ok hu h with ⟨hpost, rfl⟩ | ⟨hpost, σ₁, hcourse, h⟩
    · rw [Side.post_outcome_ne_open] at hpost
      rw [hpost]
      refine ⟨⟨fun _ => ⟨rfl, fun h => (hnot h).elim, .inl hinside⟩, fun _ => rfl⟩, ?_⟩
      exact ⟨fun h => (nomatch h), fun h => (nomatch h)⟩
    · rw [Side.post_outcome_eq_open] at hpost
      obtain ⟨o, σ₂, ho, h⟩ := Run.bind_eq_ok.1 h
      obtain ⟨rfl, rfl⟩ := Run.pure_eq_ok.1 h
      obtain ⟨rfl, hcourse₁⟩ := look_eq_ok hu ho
      refine ⟨⟨fun h => ?_, fun h => ?_⟩, Side.pre_outcome_eq_violated.1,
        fun h => ⟨Side.pre_outcome_eq_open.1 h, ?_⟩⟩
      · exact (Side.pre_outcome_ne_satisfied _ h).elim
      · rw [hpost] at h
        exact (Bool.false_ne_true h.1).elim
      · rw [hcourse₁, hcourse]
        exact .nothing
  · -- Before it the left side must hold, and the place must be occupied when the window opens.
    have hlt : elapsed < u.lower := not_le.1 hbefore
    rcases lookThen_eq_ok hu h with ⟨hpre, rfl⟩ | ⟨hpre, σ₁, hcourse, h⟩
    · rw [Side.pre_outcome_ne_open] at hpre
      rw [hpre]
      refine ⟨⟨fun h => (nomatch h), fun h => ?_⟩, fun _ => rfl, fun h => (nomatch h)⟩
      exact (Bool.false_ne_true (h.2.1 hlt)).elim
    · rw [Side.pre_outcome_eq_open] at hpre
      obtain ⟨t, σ₂, ht, h⟩ := Run.bind_eq_ok.1 h
      obtain ⟨g, hmodel, rfl⟩ := Run.transition_eq_ok.1 ht
      have hparams : σ₁.verifier.params = σ.verifier.params := congrArg Prod.fst hcourse
      have hgenerator : σ₁.verifier.generator = σ.verifier.generator := congrArg Prod.snd hcourse
      have hcourse₁ : Session.course { σ₁ with verifier.generator := g } = (σ.course.1, g) :=
        Prod.ext hparams rfl
      rw [hgenerator] at hmodel
      rcases Run.ite_eq_ok.1 h with ⟨hopens, h⟩ | ⟨hopens, h⟩
      · obtain ⟨o, σ₃, ho, h⟩ := Run.bind_eq_ok.1 h
        obtain ⟨rfl, rfl⟩ := Run.pure_eq_ok.1 h
        obtain ⟨rfl, hcourse₂⟩ := look_eq_ok hu ho
        rw [Side.post_outcome_eq_satisfied]
        refine ⟨⟨fun h => ⟨h, fun _ => hpre, .inr ⟨t, g, hmodel, hopens⟩⟩, fun h => h.1⟩,
          fun h => (Side.post_outcome_ne_violated _ h).elim, fun _ => ⟨hpre, ?_⟩⟩
        rw [hcourse₂, hcourse₁]
        exact .transition t g hmodel
      · obtain ⟨rfl, rfl⟩ := Run.pure_eq_ok.1 h
        refine ⟨⟨fun h => (nomatch h), ?_⟩, fun h => (nomatch h), fun _ => ⟨hpre, ?_⟩⟩
        · rintro ⟨-, -, hinside | ⟨t', g', hmodel', hopens'⟩⟩
          · exact (hbefore hinside).elim
          · rw [hmodel] at hmodel'
            cases hmodel'
            exact (hopens hopens').elim
        · rw [hcourse₁]
          exact .transition t g hmodel

/-- An open state is left by the transition that is drawn there, unless the path is cut off. -/
theorem goOn_eq_ok {c : Params EReal × G} {drawn : Option (Transition EReal)}
    (hdrew : Drew model s c drawn σ.course) {origin : EReal} {n : ℕ}
    {next : Outcome ⊕ State EReal} (h : goOn model u origin s n drawn σ = .ok (next, σ')) :
    (c.1.maxPathLength.any (· ≤ n) = true ∧ next = .inl .open) ∨
      c.1.maxPathLength.any (· ≤ n) = false ∧ ∃ t g, model s c.2 = .ok (t, g) ∧
        next = leave u origin s t ∧ σ'.course = (c.1, g) := by
  obtain ⟨_, _, hparams, h⟩ := Run.bind_eq_ok.1 h
  obtain ⟨rfl, rfl⟩ := Run.params_eq_ok.1 hparams
  generalize hσ : σ.course = c' at hdrew
  have hfst : c'.1 = σ.verifier.params := (congrArg Prod.fst hσ).symm
  have hsnd : c'.2 = σ.verifier.generator := (congrArg Prod.snd hσ).symm
  cases hdrew with
  | nothing =>
    rw [← hfst] at h
    rcases Run.ite_eq_ok.1 h with ⟨hcut, h⟩ | ⟨hcut, h⟩
    · exact .inl ⟨hcut, (Run.pure_eq_ok.1 h).1.symm⟩
    · obtain ⟨t, σ₁, ht, h⟩ := Run.bind_eq_ok.1 h
      obtain ⟨g, hmodel, rfl⟩ := Run.transition_eq_ok.1 ht
      obtain ⟨rfl, rfl⟩ := Run.pure_eq_ok.1 h
      rw [← hsnd] at hmodel
      exact .inr ⟨Bool.eq_false_of_not_eq_true hcut, t, g, hmodel, rfl, Prod.ext hfst.symm rfl⟩
  | transition t g hmodel =>
    rw [← hfst] at h
    rcases Run.ite_eq_ok.1 h with ⟨hcut, h⟩ | ⟨hcut, h⟩
    · exact .inl ⟨hcut, (Run.pure_eq_ok.1 h).1.symm⟩
    · obtain ⟨rfl, rfl⟩ := Run.pure_eq_ok.1 h
      exact .inr ⟨Bool.eq_false_of_not_eq_true hcut, t, g, hmodel, rfl, hσ⟩

end Steps

/-- The walk has come to place number `n`: no place before has violated the until, and the path has
neither left the window nor been cut off. -/
structure OnTrack (path : PathProperty EReal) (model : Model EReal G) (first : Place G) (origin : ℝ)
    (limit : Option ℕ) (n : ℕ) (p : Place G) : Prop where
  visited : Visits model first n p
  time : p.state.time = origin + p.elapsed
  entered : p.elapsed ≤ path.upper
  pre : ∀ j q, j < n → Visits model first j q → path.pre.isTrue q.state = true
  uncut : ∀ L, limit = some L → n ≤ L

/-- Some place from number `n` on fulfils the until before the path is cut off. -/
def FulfilledFrom (path : PathProperty EReal) (model : Model EReal G) (first : Place G)
    (limit : Option ℕ) (n : ℕ) : Prop :=
  ∃ k p, n ≤ k ∧ Fulfils path model first k p ∧ ∀ L, limit = some L → k ≤ L

namespace OnTrack

variable {model : Model EReal G} {first p : Place G} {origin : ℝ} {limit : Option ℕ} {n : ℕ}

theorem elapsed_eq (h : OnTrack path model first origin limit n p) :
    p.state.time - origin = p.elapsed := by
  rw [h.time, EReal.add_sub_cancel_left]

/-- The until is fulfilled from here on if it is fulfilled here or later. -/
theorem fulfilledFrom_iff (h : OnTrack path model first origin limit n p) :
    FulfilledFrom path model first limit n ↔
      Fulfils path model first n p ∨ FulfilledFrom path model first limit (n + 1) := by
  constructor
  · rintro ⟨k, q, hk, hq, hlimit⟩
    rcases Nat.eq_or_lt_of_le hk with rfl | hlt
    · left
      rwa [h.visited.unique hq.visited]
    · exact .inr ⟨k, q, hlt, hq, hlimit⟩
  · rintro (hp | ⟨k, q, hk, hq, hlimit⟩)
    · exact ⟨n, p, le_rfl, hp, h.uncut⟩
    · exact ⟨k, q, Nat.le_of_succ_le hk, hq, hlimit⟩

/-- Once the left side fails the until cannot be fulfilled later. -/
theorem not_later_of_pre (h : OnTrack path model first origin limit n p)
    (hpre : path.pre.isTrue p.state = false) : ¬FulfilledFrom path model first limit (n + 1) := by
  rintro ⟨k, q, hk, hq, -⟩
  have := hq.pre n p hk h.visited
  rw [hpre] at this
  cases this

/-- A path that is cut off here has no later place. -/
theorem not_later_of_cut (hcut : limit.any (· ≤ n) = true) :
    ¬FulfilledFrom path model first limit (n + 1) := by
  rintro ⟨k, q, hk, -, hlimit⟩
  obtain ⟨L, hL, hLn⟩ := Option.any_eq_true _ _ |>.1 hcut
  have := hlimit L hL
  have := of_decide_eq_true hLn
  omega

/-- If the next place is not to be entered, the until cannot be fulfilled later. -/
theorem not_later_of_leave (h : OnTrack path model first origin limit n p)
    (hforward : DwellsForward model first) {t : Transition EReal} {g : G}
    (hmodel : model p.state p.generator = .ok (t, g))
    (hended : t.isAbsorbing = true ∨ path.upper < p.elapsed + t.dwell) :
    ¬FulfilledFrom path model first limit (n + 1) := by
  rintro ⟨k, q, hk, hq, -⟩
  obtain ⟨hleft, hnext⟩ := h.visited.next hmodel hq.visited hk
  rcases hended with habsorbing | hlate
  · rw [hleft] at habsorbing
    cases habsorbing
  · have hle : p.elapsed + t.dwell ≤ q.elapsed := hnext.elapsed_le hforward hq.visited hk
    exact absurd (hlate.trans_le (hle.trans hq.entered)) (lt_irrefl _)

theorem next (h : OnTrack path model first origin limit n p)
    (hpre : path.pre.isTrue p.state = true) {t : Transition EReal} {g : G}
    (hmodel : model p.state p.generator = .ok (t, g)) (hleft : t.isAbsorbing = false)
    (htime : p.elapsed + t.dwell ≤ path.upper) (hcut : limit.any (· ≤ n) = false) :
    OnTrack path model first origin limit (n + 1) (p.after t g) where
  visited := h.visited.move hmodel hleft
  time := by
    show p.state.time + t.dwell = _
    rw [h.time, add_assoc]
    rfl
  entered := htime
  pre := by
    intro j q hj hq
    rcases Nat.lt_succ_iff_lt_or_eq.1 hj with hlt | rfl
    · exact h.pre j q hlt hq
    · rwa [← h.visited.unique hq]
  uncut := by
    intro L hL
    rw [hL] at hcut
    have : ¬L ≤ n := of_decide_eq_false hcut
    omega

end OnTrack

/-- **The immediate walk is satisfied if some place from here on fulfils the until.** -/
theorem run_satisfied_iff {model : Model EReal G} {first p : Place G} {origin : ℝ} {n : ℕ}
    {u : UntilCheck EReal G} (hu : u.Consults fun side s => (path.side side).isTrue s)
    (hlower : u.lower = path.lower) (hupper : u.upper = path.upper)
    (hforward : DwellsForward model first) {fuel : ℕ} {σ σ' : Session EReal G Unit} {o : Outcome}
    (hp : OnTrack path model first origin σ.verifier.params.maxPathLength n p)
    (hgenerator : σ.verifier.generator = p.generator)
    (h : run model u origin fuel p.state n σ = .ok (o, σ')) :
    o = .satisfied ↔ FulfilledFrom path model first σ.verifier.params.maxPathLength n := by
  induction fuel generalizing n p σ with
  | zero => exact (Run.throw_ne_ok h).elim
  | succ fuel ih =>
    obtain ⟨r, σ₂, hadvance, h⟩ := Run.bind_eq_ok.1 h
    obtain ⟨⟨decided, drawn⟩, σ₁, hvisit, hadvance⟩ := Run.bind_eq_ok.1 hadvance
    rw [hp.elapsed_eq] at hvisit
    obtain ⟨hsatisfied, hviolated, hopen⟩ := visit_eq_ok hu hvisit
    have hhere : decided = .satisfied ↔ Fulfils path model first n p := by
      rw [hsatisfied, hlower, hgenerator]
      constructor
      · rintro ⟨hpost, hpre, hoccupied⟩
        exact ⟨hp.visited, hpost, hp.entered, hoccupied, hp.pre, hpre⟩
      · intro hp
        exact ⟨hp.post, hp.pre_here, hp.occupied⟩
    -- The until is fulfilled here or later; each end of the walk excludes the later places.
    rw [hp.fulfilledFrom_iff, ← hhere]
    cases decided with
    | satisfied =>
      obtain ⟨rfl, rfl⟩ := Run.pure_eq_ok.1 hadvance
      obtain ⟨rfl, rfl⟩ := Run.pure_eq_ok.1 h
      exact ⟨fun _ => .inl rfl, fun _ => rfl⟩
    | violated =>
      obtain ⟨rfl, rfl⟩ := Run.pure_eq_ok.1 hadvance
      obtain ⟨rfl, rfl⟩ := Run.pure_eq_ok.1 h
      have := hp.not_later_of_pre (hviolated rfl)
      simp [this]
    | «open» =>
      obtain ⟨hpre, hdrew⟩ := hopen rfl
      have hends : r = .inl .open → ¬FulfilledFrom path model first
          σ.verifier.params.maxPathLength (n + 1) → (o = .satisfied ↔ Outcome.open = .satisfied ∨
            FulfilledFrom path model first σ.verifier.params.maxPathLength (n + 1)) := by
        rintro rfl hlater
        obtain ⟨rfl, rfl⟩ := Run.pure_eq_ok.1 h
        simp [hlater]
      rcases goOn_eq_ok hdrew hadvance with ⟨hcut, hr⟩ | ⟨hcut, t, g, hmodel, hr, hcourse⟩
      · exact hends hr (OnTrack.not_later_of_cut hcut)
      have hmodel : model p.state p.generator = .ok (t, g) := hgenerator ▸ hmodel
      have htime : (p.state.successor t).time - origin = p.elapsed + t.dwell := by
        rw [State.time_successor, hp.time, add_assoc, EReal.add_sub_cancel_left]
      unfold leave at hr
      rw [htime, hupper] at hr
      by_cases habsorbing : t.isAbsorbing = true
      · rw [if_pos habsorbing] at hr
        exact hends hr (hp.not_later_of_leave hforward hmodel (.inl habsorbing))
      rw [if_neg habsorbing] at hr
      by_cases hlate : path.upper < p.elapsed + t.dwell
      · rw [if_pos hlate] at hr
        exact hends hr (hp.not_later_of_leave hforward hmodel (.inr hlate))
      rw [if_neg hlate] at hr
      subst hr
      have hnext := hp.next hpre hmodel (Bool.eq_false_of_not_eq_true habsorbing) (not_lt.1 hlate) hcut
      have hparams : σ₂.verifier.params = σ.verifier.params := congrArg Prod.fst hcourse
      rw [← hparams] at hnext ⊢
      rw [ih hnext (congrArg Prod.snd hcourse) h]
      simp

end Immediate

/-- **The meaning of a timed until in exact time.**  Let the sides of a path property contain no
thresholds, let its window be proper, and let no dwell time on the trajectory from the start be
negative.  A simulation that ends says whether some place, among those up to the largest length,
fulfils the until. -/
theorem simulate_iff_fulfils [Distributions EReal] (sim : Simulator EReal G) (path : PathProperty EReal)
    (hpre : path.pre.isProbabilistic = false) (hpost : path.post.isProbabilistic = false)
    (hlower : 0 ≤ path.lower) (hwindow : path.lower ≤ path.upper) (values : Valuation) (origin : ℝ)
    (budget : EReal) (σ σ' : Session EReal G Unit)
    (hforward : DwellsForward sim.model ⟨⟨values, origin⟩, σ.verifier.generator, 0⟩) (b : Bool)
    (h : simulate sim (path.checks sim) ⟨values, origin⟩ budget σ = .ok (b, σ')) :
    b = true ↔ ∃ k p, Fulfils path sim.model ⟨⟨values, origin⟩, σ.verifier.generator, 0⟩ k p ∧
      ∀ L, σ.verifier.params.maxPathLength = some L → k ≤ L := by
  have hfree : ∀ side, (path.side side).isProbabilistic = false := by
    intro side
    cases side with
    | pre => exact hpre
    | post => exact hpost
  have hu := PathProperty.checks_consults sim hfree
  obtain ⟨e, σ₁, hwalk, hb⟩ := simulate_eq_ok h
  obtain ⟨τ, himmediate⟩ := (Walk.run_simulates hu (Trace.start_sound budget) hwalk).2 rfl σ rfl
  have hstart : Immediate.OnTrack path sim.model ⟨⟨values, origin⟩, σ.verifier.generator, 0⟩ origin
      σ.verifier.params.maxPathLength 0 ⟨⟨values, origin⟩, σ.verifier.generator, 0⟩ :=
    { visited := .start
      time := (add_zero _).symm
      entered := hlower.trans hwindow
      pre := fun _ _ hj => (Nat.not_lt_zero _ hj).elim
      uncut := fun _ _ => Nat.zero_le _ }
  rw [hb, Immediate.run_satisfied_iff hu rfl rfl hforward hstart rfl himmediate]
  constructor
  · rintro ⟨k, p, -, hp, hlimit⟩
    exact ⟨k, p, hp, hlimit⟩
  · rintro ⟨k, p, hp, hlimit⟩
    exact ⟨k, p, Nat.zero_le k, hp, hlimit⟩

/-! ### An until that is fulfilled on time -/

namespace Detour

/-- From the values `[0]` to the values `[1]` at the time 1 or later. -/
noncomputable def arrival : PathProperty EReal :=
  .until ⟨0⟩ 1 ⊤ (.expr (.equals 0 0)) (.expr (.equals 0 1))

noncomputable def arrivalSides : UntilCheck EReal Unit :=
  let _ := distributions
  arrival.checks simulator

theorem elapsed_start : ((3 : ℝ) : EReal) - (3 : ℝ) = 0 := by
  rw [← EReal.coe_sub, sub_self, EReal.coe_zero]

theorem elapsed_next : ((3 : ℝ) : EReal) + 1 - (3 : ℝ) = 1 := EReal.add_sub_cancel_left

theorem visit_start :
    Walk.visit simulator.model arrivalSides 0 ⟨[0], (3 : ℝ)⟩ (.start 0) session
      = .ok (⟨.start 0, false, some ⟨[1], 1⟩⟩, session) := by
  have hbefore : ¬arrivalSides.lower ≤ 0 := not_le.2 zero_lt_one
  have hopens : ¬arrivalSides.lower < (0 : EReal) + 1 := by
    rw [zero_add]
    exact lt_irrefl (1 : EReal)
  unfold Walk.visit
  rw [if_neg hbefore]
  exact congrFun (if_neg hopens) session

theorem advance_start :
    Walk.advance simulator.model arrivalSides (3 : ℝ) (.start ⟨[0], (3 : ℝ)⟩ 0) session
      = .ok (.ongoing ⟨⟨[1], (3 : ℝ) + 1⟩, 1, 64, .start 0⟩, session) := by
  have habsorbing : (⟨[1], 1⟩ : Transition EReal).isAbsorbing = false := Exact.isInfinite_coe 1
  have hclosed : ¬arrivalSides.upper < ((3 : ℝ) : EReal) + 1 - (3 : ℝ) := by
    rw [elapsed_next]
    exact not_top_lt
  have hleave : Walk.leave arrivalSides (3 : ℝ) (.start ⟨[0], (3 : ℝ)⟩ 0) ⟨[1], 1⟩ session
      = .ok (.ongoing ⟨⟨[1], (3 : ℝ) + 1⟩, 1, 64, .start 0⟩, session) := by
    unfold Walk.leave
    rw [habsorbing, if_neg Bool.false_ne_true]
    exact congrFun (if_neg hclosed) session
  have hvisit : Walk.visit simulator.model arrivalSides ((3 : ℝ) - (3 : ℝ)) ⟨[0], (3 : ℝ)⟩
      (.start 0) session = .ok (⟨.start 0, false, some ⟨[1], 1⟩⟩, session) := by
    rw [elapsed_start]
    exact visit_start
  exact Run.bind_eq_ok.2 ⟨_, _, hvisit, hleave⟩

theorem advance_next : ∃ σ,
    Walk.advance simulator.model arrivalSides (3 : ℝ) ⟨⟨[1], (3 : ℝ) + 1⟩, 1, 64, .start 0⟩ session
      = .ok (.ended ⟨.satisfied, 1, false⟩, σ) := by
  have hinside : arrivalSides.lower ≤ ((3 : ℝ) : EReal) + 1 - (3 : ℝ) := by
    rw [elapsed_next]
    exact le_refl (1 : EReal)
  have hvisit : Walk.visit simulator.model arrivalSides ((3 : ℝ) + 1 - (3 : ℝ))
      ⟨[1], (3 : ℝ) + 1⟩ (.start 0) session
        = .ok (⟨⟨[⟨.post, .known true⟩], [], 0⟩, true, none⟩, session) := by
    unfold Walk.visit
    rw [if_pos hinside]
    rfl
  have hfinish : ∃ σ, Walk.finish arrivalSides ⟨[⟨.post, .known true⟩], [], 0⟩ 1 false session
      = .ok (.ended ⟨.satisfied, 1, false⟩, σ) := ⟨_, rfl⟩
  obtain ⟨σ, hσ⟩ := hfinish
  exact ⟨σ, Run.bind_eq_ok.2 ⟨_, _, hvisit, hσ⟩⟩

theorem simulate_arrival : ∃ σ,
    simulate simulator arrivalSides ⟨[0], (3 : ℝ)⟩ 0 session = .ok (true, σ) := by
  obtain ⟨σ, hnext⟩ := advance_next
  have hrun : Walk.run simulator.model arrivalSides (3 : ℝ) 2 (.start ⟨[0], (3 : ℝ)⟩ 0) session
      = .ok (⟨.satisfied, 1, false⟩, σ) :=
    Run.bind_eq_ok.2 ⟨_, _, advance_start, Run.bind_eq_ok.2 ⟨_, _, hnext, rfl⟩⟩
  have hcount : ∃ σ', (do
      Run.modifyStats fun stats : Stats EReal =>
        { stats with pathLength := stats.pathLength.push (((1 : ℕ) : EReal)) }
      return true : Run EReal (Session EReal Unit Unit) Bool) σ = .ok (true, σ') := ⟨_, rfl⟩
  obtain ⟨σ', hσ'⟩ := hcount
  exact ⟨σ', Run.bind_eq_ok.2 ⟨_, _, hrun, hσ'⟩⟩

/-- The path enters the values `[1]` just when the window opens. -/
theorem simulate_iff_fulfils_arrival :
    ∃ k p, Fulfils arrival simulator.model ⟨⟨[0], (3 : ℝ)⟩, (), 0⟩ k p := by
  let _ := distributions
  obtain ⟨σ, h⟩ := simulate_arrival
  have hforward : DwellsForward simulator.model ⟨⟨[0], (3 : ℝ)⟩, (), 0⟩ := by
    intro k p t g _ ht
    obtain ⟨rfl, -⟩ := Prod.mk.inj (Except.ok.inj ht)
    split_ifs
    exacts [zero_le_one, le_top]
  obtain ⟨k, p, hp, -⟩ := (simulate_iff_fulfils simulator arrival rfl rfl zero_le_one le_top
    [0] 3 0 session σ hforward true h).1 rfl
  exact ⟨k, p, hp⟩

end Detour

end SimCheck
