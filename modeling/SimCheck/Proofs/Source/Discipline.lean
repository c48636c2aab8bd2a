import SimCheck.Proofs.Memo.Calls
import SimCheck.Proofs.Source.Minutes

/-!
# The calls on the source of a verification

A check conducts its tests one after another, and only those at the first level draw from the source of
the call.  So the calls on the source come in blocks, one for each of these tests that is not done with
the sample that was kept for it.

* `Property.places`: the thresholds that can be tested at the first level, from left to right;
* `Attends sim s places x`: `x` conducts tests of some of the places, in their order;
* `attends_decide`: so do checks;
* `Session.verify_calls`: the calls of a verification, and the account of its samples.
-/

namespace SimCheck

variable {R G S α : Type}

/-! ### Places -/

namespace Property

variable [Scalar R]

mutual

/-- The thresholds at the first level that are not trivial, from left to right. -/
def places : Site → Property R → List (Site × R × PathProperty R)
  | _, .expr _ => []
  | site, .not p => places (0 :: site) p
  | site, .combine _ _ ps => placesOf site 0 ps
  | site, .threshold op bound path =>
    if (trivialVerdict? op bound).isSome then [] else [(site, bound, path)]

/-- Those of the operands of a connective, from number `i` on. -/
def placesOf (site : Site) : ℕ → List (Property R) → List (Site × R × PathProperty R)
  | _, [] => []
  | i, p :: ps => places (i :: site) p ++ placesOf site (i + 1) ps

end

mutual

theorem places_of_free : ∀ (site : Site) (p : Property R), p.isProbabilistic = false →
    p.places site = []
  | _, .expr _, _ => by rw [places]
  | site, .not p, h => by
    rw [isProbabilistic] at h
    rw [places, places_of_free (0 :: site) p h]
  | site, .combine _ _ ps, h => by
    rw [isProbabilistic] at h
    rw [places, placesOf_of_free site 0 ps h]
  | _, .threshold .., h => by cases h

theorem placesOf_of_free (site : Site) : ∀ (i : ℕ) (ps : List (Property R)),
    anyProbabilistic ps = false → placesOf site i ps = []
  | _, [], _ => by rw [placesOf]
  | i, p :: ps, h => by
    rw [anyProbabilistic, Bool.or_eq_false_iff] at h
    rw [placesOf, places_of_free (i :: site) p h.1, placesOf_of_free site (i + 1) ps h.2,
      List.append_nil]

end

end Property

variable [Scalar R] [Distributions R] {sim : Simulator R G} {src : SampleSource R S} {s : State R}
  {site : Site} {bound : R} {path : PathProperty R}

/-! ### Whole checks -/

/-- A session with a log of the calls on the source and with minutes. -/
abbrev MinutedSession (R G S : Type) := Session R G ((S × List (SourceCall R)) × List (Minute R G))

/-- What the tests `new` add to a session at the top level. -/
structure Adds (sim : Simulator R G) (s : State R) (new : List (Minute R G))
    (σ τ : MinutedSession R G S) : Prop where
  level : τ.verifier.level = 0
  conducted : ∀ m ∈ new, m.Conducted sim s
  minutes : τ.source.2 = σ.source.2 ++ new
  calls : τ.source.1.2 = σ.source.1.2 ++ new.flatMap (·.calls s)
  sizes : τ.verifier.stats.sampleSize
    = (new.map fun m => (m.closed.sample.count : R)).foldl Sample.push σ.verifier.stats.sampleSize

/-- At the top level the run conducts tests of some of the places, in their order, and adds what these
add. -/
def Attends (sim : Simulator R G) (s : State R) (places : List (Site × R × PathProperty R))
    (x : Run R (MinutedSession R G S) α) : Prop :=
  ∀ σ a τ, σ.verifier.level = 0 → x σ = .ok (a, τ) →
    ∃ new, Adds sim s new σ τ ∧ (new.map (·.place)).Sublist places

namespace Attends

variable {β : Type} {l l' : List (Site × R × PathProperty R)} {x : Run R (MinutedSession R G S) α}

theorem mono (hx : Attends sim s l x) (hl : l.Sublist l') : Attends sim s l' x := by
  intro σ a τ hlevel h
  obtain ⟨new, hadds, hnew⟩ := hx σ a τ hlevel h
  exact ⟨new, hadds, hnew.trans hl⟩

/-- What leaves statistics, level and source alone adds nothing. -/
theorem of_eq (h : ∀ σ a τ, x σ = .ok (a, τ) → τ.source = σ.source ∧
    τ.verifier.level = σ.verifier.level ∧ τ.verifier.stats = σ.verifier.stats) :
    Attends sim s [] x := by
  intro σ a τ hlevel hx
  obtain ⟨hsource, hlevel', hstats⟩ := h σ a τ hx
  refine ⟨[], ⟨hlevel'.trans hlevel, ?_, ?_, ?_, ?_⟩, List.Sublist.refl _⟩
  · exact fun m hm => (List.not_mem_nil hm).elim
  · rw [hsource, List.append_nil]
  · rw [hsource, List.flatMap_nil, List.append_nil]
  · rw [hstats]
    rfl

theorem pure (a : α) : Attends sim s [] (Pure.pure a : Run R (MinutedSession R G S) α) :=
  of_eq fun σ b τ h => by
    obtain ⟨-, rfl⟩ := Run.pure_eq_ok.1 h
    exact ⟨rfl, rfl, rfl⟩

theorem ofExcept (e : Except (Fault R) α) :
    Attends sim s [] (Run.ofExcept e : Run R (MinutedSession R G S) α) :=
  of_eq fun σ b τ h => by
    obtain ⟨-, rfl⟩ := Run.ofExcept_eq_ok.1 h
    exact ⟨rfl, rfl, rfl⟩

theorem bind {k : α → Run R (MinutedSession R G S) β} (hx : Attends sim s l x)
    (hk : ∀ a, Attends sim s l' (k a)) : Attends sim s (l ++ l') (x >>= k) := by
  intro σ b τ hlevel h
  obtain ⟨a, ρ, hfirst, hrest⟩ := Run.bind_eq_ok.1 h
  obtain ⟨new, hadds, hnew⟩ := hx σ a ρ hlevel hfirst
  obtain ⟨new', hadds', hnew'⟩ := hk a ρ b τ hadds.level hrest
  refine ⟨new ++ new', ⟨hadds'.level, ?_, ?_, ?_, ?_⟩, ?_⟩
  · exact fun m hm => (List.mem_append.1 hm).elim (hadds.conducted m) (hadds'.conducted m)
  · rw [hadds'.minutes, hadds.minutes, List.append_assoc]
  · rw [hadds'.calls, hadds.calls, List.flatMap_append, List.append_assoc]
  · rw [hadds'.sizes, hadds.sizes, List.map_append, List.foldl_append]
  · rw [List.map_append]
    exact hnew.append hnew'

theorem bind_pure {f : α → β} (hx : Attends sim s l x) :
    Attends sim s l (x >>= fun a => Pure.pure (f a)) := by
  have hbind := bind hx fun a => pure (f a)
  rwa [List.append_nil] at hbind

theorem ite {c : Prop} [Decidable c] {y : Run R (MinutedSession R G S) α} (hx : Attends sim s l x)
    (hy : Attends sim s l y) : Attends sim s l (if c then x else y) := by
  split_ifs
  exacts [hx, hy]

theorem within (b : ErrorBounds R) (hx : Attends sim s l x) :
    Attends sim s l (Budgeted.within b x) := by
  intro σ a τ hlevel h
  obtain ⟨ρ, hrun, rfl⟩ := Run.withinBounds_eq_ok.1 h
  obtain ⟨new, hadds, hnew⟩ :=
    hx { σ with verifier.params := σ.verifier.params.withBounds b } a ρ hlevel hrun
  exact ⟨new, ⟨hadds.level, hadds.conducted, hadds.minutes, hadds.calls, hadds.sizes⟩, hnew⟩

/-- What depends on the bounds in force. -/
theorem bounds_bind {k : ErrorBounds R → Run R (MinutedSession R G S) α}
    (hk : ∀ b, Attends sim s l (k b)) : Attends sim s l (Budgeted.bounds >>= k) :=
  fun σ a τ hlevel h => hk σ.verifier.params.bounds σ a τ hlevel h

/-- A test of a threshold is a test of its place. -/
theorem test : Attends sim s [(site, bound, path)]
    ((Leaves.minuted sim src.logged s).test site bound path) := by
  intro σ a τ hlevel h
  obtain ⟨ρ, hrun, rfl⟩ := Run.nested_eq_ok.1 h
  obtain ⟨m, hplace, hconducted, hcalls, hminutes, hlevel', hsize⟩ :=
    minutedTest_spec (congrArg (· + 1) hlevel) hrun
  refine ⟨[m], ⟨congrArg (· - 1) hlevel', ?_, hminutes, ?_, hsize⟩, ?_⟩
  · exact List.forall_mem_singleton.2 hconducted
  · rw [List.flatMap_singleton]
    exact hcalls
  · rw [List.map_singleton, hplace]

/-! #### Connectives -/

section Connectives

variable {vs : List (Run R (MinutedSession R G S) Bool)} {ls : List (List (Site × R × PathProperty R))}

theorem anyIs_free (d : Bool) (hvs : ∀ v ∈ vs, Attends sim s [] v) :
    Attends sim s [] (Verdict.anyIs d vs) := by
  induction vs with
  | nil => exact pure false
  | cons v vs ih =>
    obtain ⟨hv, hvs⟩ := List.forall_mem_cons.1 hvs
    exact bind hv fun _ => ite (pure true) (ih hvs)

theorem anyIs (d : Bool) (hvs : List.Forall₂ (Attends sim s) ls vs) :
    Attends sim s ls.flatten (Verdict.anyIs d vs) := by
  induction hvs with
  | nil => exact pure false
  | cons hv _ ih => exact bind hv fun _ => ite ((pure true).mono (List.nil_sublist _)) ih

theorem chain (b : Bool) (hvs : List.Forall₂ (Attends sim s) ls vs) :
    Attends sim s ls.flatten (Verdict.chain b vs) := by
  induction hvs generalizing b with
  | nil => exact pure b
  | cons hv _ ih => exact bind hv fun c => ih (b == c)

theorem chainAll (hvs : List.Forall₂ (Attends sim s) ls vs) :
    Attends sim s ls.flatten (Verdict.chainAll vs) := by
  cases hvs with
  | nil => exact pure true
  | cons hv hvs => exact bind hv fun b => chain b hvs

theorem negation {x : Run R (MinutedSession R G S) Bool} (hx : Attends sim s l x) :
    Attends sim s l (Verdict.negation x) :=
  bounds_bind fun b => (within b.swap hx).bind_pure

end Connectives

end Attends

/-- An operand that tests some of the places; one without thresholds has none. -/
def Operand.Attends (sim : Simulator R G) (s : State R) (l : List (Site × R × PathProperty R))
    (o : Operand (Run R (MinutedSession R G S))) : Prop :=
  SimCheck.Attends sim s l o.verdict ∧ (o.probabilistic = false → l = [])

section Connectives

variable {ls : List (List (Site × R × PathProperty R))}
  {head : Option (Run R (MinutedSession R G S) Bool)}
  {os : List (Operand (Run R (MinutedSession R G S)))}
  (hos : List.Forall₂ (Operand.Attends sim s) ls os)

include hos

theorem Operand.Attends.free :
    ∀ v ∈ (os.filter (!·.probabilistic)).map (·.verdict), SimCheck.Attends sim s [] v := by
  induction hos with
  | nil => exact fun v hv => (List.not_mem_nil hv).elim
  | @cons l o ls os ho _ ih =>
    rw [List.filter_cons]
    cases hkind : o.probabilistic with
    | true => exact ih
    | false =>
      obtain rfl := ho.2 hkind
      exact List.forall_mem_cons.2 ⟨ho.1, ih⟩

/-- The operands with thresholds have all the places. -/
theorem Operand.Attends.tested :
    ∃ ls', List.Forall₂ (SimCheck.Attends sim s) ls' ((os.filter (·.probabilistic)).map (·.verdict)) ∧
      ls'.flatten = ls.flatten := by
  induction hos with
  | nil => exact ⟨[], .nil, rfl⟩
  | @cons l o ls os ho _ ih =>
    obtain ⟨ls', hls', hflatten⟩ := ih
    rw [List.filter_cons]
    cases hkind : o.probabilistic with
    | true => exact ⟨l :: ls', .cons ho.1 hls', by rw [List.flatten_cons, List.flatten_cons, hflatten]⟩
    | false =>
      obtain rfl := ho.2 hkind
      exact ⟨ls', hls', hflatten⟩

theorem Operand.Attends.all : List.Forall₂ (SimCheck.Attends sim s) ls (os.map (·.verdict)) := by
  induction hos with
  | nil => exact .nil
  | cons ho _ ih => exact .cons ho.1 ih

namespace Attends

variable (hhead : ∀ v ∈ head, Attends sim s [] v)

include hhead

theorem junction (conjunctive : Bool) :
    Attends sim s ls.flatten (Verdict.junction conjunctive head os) := by
  obtain ⟨ls', htested, hflatten⟩ := Operand.Attends.tested hos
  unfold Verdict.junction
  rw [List.partition_eq_filter_filter, ← hflatten]
  refine bind (l := []) (anyIs_free _ fun v hv => ?_) fun _ => ite ((pure _).mono (List.nil_sublist _))
    (ite ((pure _).mono (List.nil_sublist _)) (bounds_bind fun b => ?_))
  · rcases List.mem_append.1 hv with hv | hv
    exacts [hhead v (Option.mem_toList.1 hv), Operand.Attends.free hos v hv]
  · exact (within _ (anyIs _ htested)).bind_pure

theorem combine (c : Connective) : Attends sim s ls.flatten (Verdict.combine c head os) := by
  cases c with
  | conjunction => exact junction hos hhead true
  | disjunction => exact junction hos hhead false
  | equivalence =>
    refine bounds_bind fun b => within _ ?_
    cases head with
    | none => exact chainAll (Operand.Attends.all hos)
    | some v =>
      have hall : List.Forall₂ (Attends sim s) ([] :: ls) (v :: os.map (·.verdict)) :=
        .cons (hhead v rfl) (Operand.Attends.all hos)
      show Attends sim s ([] :: ls).flatten (Verdict.chainAll (v :: os.map (·.verdict)))
      exact chainAll hall

end Attends

end Connectives

/-! ### Calls -/

mutual

/-- **A check conducts tests of some of its places, in their order.** -/
theorem attends_decide (sim : Simulator R G) (src : SampleSource R S) (s : State R) :
    ∀ (site : Site) (p : Property R),
      Attends sim s (p.places site) (p.decide (Leaves.minuted sim src.logged s) site)
  | _, .expr e => by
    rw [Property.places, Property.decide]
    exact .ofExcept (e.holds s)
  | site, .not p => by
    rw [Property.places, Property.decide]
    exact (attends_decide sim src s (0 :: site) p).negation
  | site, .combine c head ps => by
    obtain ⟨ls, hls, hflatten⟩ := attends_decideAll sim src s site 0 ps
    rw [Property.places, Property.decide, ← hflatten]
    refine Attends.combine hls (fun v hv => ?_) c
    obtain ⟨e, -, rfl⟩ := Option.map_eq_some_iff.1 hv
    exact .ofExcept (e.holds s)
  | site, .threshold op bound path => by
    rw [Property.places, Property.decide]
    cases Property.trivialVerdict? op bound with
    | some verdict => exact .pure verdict
    | none => exact .test

/-- So do the operands of a connective. -/
theorem attends_decideAll (sim : Simulator R G) (src : SampleSource R S) (s : State R) (site : Site) :
    ∀ (i : ℕ) (ps : List (Property R)),
      ∃ ls, List.Forall₂ (Operand.Attends sim s) ls
          (Property.decideAll (Leaves.minuted sim src.logged s) site i ps) ∧
        ls.flatten = Property.placesOf site i ps
  | _, [] => ⟨[], .nil, by rw [Property.placesOf]; rfl⟩
  | i, p :: ps => by
    obtain ⟨ls, hls, hflatten⟩ := attends_decideAll sim src s site (i + 1) ps
    refine ⟨p.places (i :: site) :: ls, .cons ⟨?_, ?_⟩ hls, ?_⟩
    · exact attends_decide sim src s (i :: site) p
    · exact Property.places_of_free (i :: site) p
    · rw [List.flatten_cons, hflatten, Property.placesOf]

end

/-- **The discipline of the source and the account of the samples.**  If a property is verified, then
there are minutes of its tests at the first level: of some of its thresholds that are not trivial, from
left to right.  The calls on the source are those of these tests, one test after another: nothing if the
test was done with the sample that was kept, or else its beginning from the state of the call, at least
one observation, and its end.  Every test is conducted with what has been observed, and the sizes of
their samples are what the statistics report. -/
theorem Session.verify_calls {sim : Simulator R G} {src : SampleSource R S} {p : Property R}
    {s : State R} {v : Verifier R G} {source : S} {verdict : Bool} {τ : Session R G S}
    (h : verify sim src p s ⟨v, source⟩ = .ok (verdict, τ)) :
    ∃ minutes : List (Minute R G),
      minutedVerify sim src.logged p s ⟨v, ((source, []), [])⟩
          = .ok (verdict, ⟨τ.verifier, ((τ.source, minutes.flatMap (·.calls s)), minutes)⟩) ∧
        verify sim src.logged p s ⟨v, (source, [])⟩
          = .ok (verdict, ⟨τ.verifier, (τ.source, minutes.flatMap (·.calls s))⟩) ∧
        (minutes.map (·.place)).Sublist (p.places []) ∧ (∀ m ∈ minutes, m.Conducted sim s) ∧
        τ.verifier.stats.sampleSize
          = Sample.ofList (minutes.map fun m => (m.closed.sample.count : R)) := by
  obtain ⟨calls, hlogged⟩ := (verify_logged_sheds src sim s p).exists_of_ok h []
  obtain ⟨minutes, hminuted⟩ := (minutedVerify_sheds sim src.logged s p).exists_of_ok hlogged []
  have hrun := hminuted
  obtain ⟨_, σ, hstart, hdecide⟩ := Run.bind_eq_ok.1 hrun
  cases hstart
  obtain ⟨new, hadds, hplaces⟩ := attends_decide sim src s [] p _ _ _ rfl hdecide
  obtain rfl : minutes = new := hadds.minutes
  obtain rfl : calls = minutes.flatMap (·.calls s) := hadds.calls
  exact ⟨minutes, hminuted, hlogged, hplaces, hadds.conducted, hadds.sizes⟩

/-! ### A property that is tested twice -/

namespace Twofold

/-- The same threshold twice, with another one inside it. -/
def property : Property Float :=
  .combine .conjunction none [.threshold .atLeast 0.5 Audit.path, .threshold .atLeast 0.5 Audit.path]

/-- A source that answers and has a path simulated by turns. -/
def script : Script Float := .start [.answer true, .simulate]

/-- The first test is given two observations, and the second one is done with its sample. -/
theorem verify_calls_twofold :
    let _ := Twice.distributions
    ∃ τ, Session.verify Twice.counting (Script.source Float) property ⟨[0], 0⟩
          ⟨Twice.session.verifier, script⟩ = .ok (true, τ) ∧
      ∃ minutes : List (Minute Float ℕ),
        (minutes.map fun m => (m.site, m.drawn)) = [([0], [true, true]), ([1], [])] ∧
        Session.verify Twice.counting (Script.source Float).logged property ⟨[0], 0⟩
            ⟨Twice.session.verifier, (script, [])⟩
          = .ok (true, ⟨τ.verifier, (τ.source, minutes.flatMap (·.calls ⟨[0], 0⟩))⟩) ∧
        τ.verifier.stats.sampleSize
          = Sample.ofList (minutes.map fun m => (m.closed.sample.count : Float)) := by
  intro _
  have hrun : (Session.verify Twice.counting (Script.source Float) property ⟨[0], 0⟩
      ⟨Twice.session.verifier, script⟩).toOption.map (fun r => (r.1, ())) = some (true, ()) := by
    decide +kernel
  obtain ⟨τ, hτ, -⟩ := Run.exists_of_map_toOption (f := fun _ => ()) hrun
  obtain ⟨minutes, hminuted, hlogged, -, -, hsizes⟩ := Session.verify_calls hτ
  have hdrawn : (Session.minutedVerify Twice.counting (Script.source Float).logged property ⟨[0], 0⟩
      ⟨Twice.session.verifier, ((script, []), [])⟩).toOption.map
        (fun r => r.2.source.2.map fun m => (m.site, m.drawn))
      = some [([0], [true, true]), ([1], [])] := by decide +kernel
  rw [hminuted] at hdrawn
  exact ⟨τ, hτ, minutes, Option.some.inj hdrawn, hlogged, hsizes⟩

end Twofold

end SimCheck
