import SimCheck.Proofs.Memo.Account
import SimCheck.Proofs.Memo.Reverify

/-!
# Calls on a verifier that keeps samples

Properties are verified, probabilities estimated, paths sampled and samples dropped in any order.  With
samples kept, the cache is the ledger of these calls at any time: there is a sample under a key if a
threshold test for it has completed since the samples for it were last dropped, and it is the fold of
what these tests have drawn.

* `Verifier.Audited`: samples are kept, and the cache is the ledger;
* `Call`, `Call.perform`, `Call.post`: a call, and the verifier after it without and with a ledger;
* `Verifier.Audited.call`, `Verifier.Audited.calls`: one call, and any number of them;
* `Call.cache_eq_ledger`: calls on a verifier that is new.
-/

namespace SimCheck

variable {R G S α : Type} [Scalar R]

/-! ### Verifiers whose cache is the ledger -/

/-- The verifier after a run with a source. -/
def Verifier.after (v : Verifier R G) (source : S) (x : Run R (Session R G S) α) :
    Except (Halt R) (Verifier R G) :=
  (x ⟨v, source⟩).map (·.2.verifier)

omit [Scalar R] in
theorem Verifier.after_eq_ok {v w : Verifier R G} {source : S} {x : Run R (Session R G S) α} :
    v.after source x = .ok w ↔ ∃ a σ, x ⟨v, source⟩ = .ok (a, σ) ∧ σ.verifier = w := by
  unfold Verifier.after
  cases x ⟨v, source⟩ with
  | error e => simp [Except.map]
  | ok r =>
    obtain ⟨a, σ⟩ := r
    simp [Except.map]

omit [Scalar R] in
/-- What a run does to the verifier is done beside the ledger as well. -/
theorem Lifts.after {x' : Run R (Session R (G × Ledger) S) α} {x : Run R (Session R G S) α}
    (h : Lifts Prod.fst x' x) {v : Verifier R (G × Ledger)} {w : Verifier R G} {source : S}
    (hw : v.withoutLedger.after source x = .ok w) :
    ∃ w', v.after source x' = .ok w' ∧ w'.withoutLedger = w := by
  obtain ⟨a, τ, hx, rfl⟩ := Verifier.after_eq_ok.1 hw
  obtain ⟨σ, hx', rfl⟩ := h.exists_of_ok (σ := ⟨v, source⟩) hx
  exact ⟨σ.verifier, Verifier.after_eq_ok.2 ⟨a, σ, hx', rfl⟩, rfl⟩

namespace Verifier

/-- Samples are kept, and the cache is the ledger. -/
structure Audited (v : Verifier R (G × Ledger)) : Prop where
  memoization : v.params.memoization = true
  distinct : v.cache.keys.Nodup
  settled : ∀ k, v.Settled k

namespace Audited

variable {v w : Verifier R (G × Ledger)}

/-- A verifier that is new. -/
theorem withLedger_nil {v : Verifier R G} (hmemo : v.params.memoization = true)
    (hcache : v.cache = ∅) : (v.withLedger []).Audited where
  memoization := hmemo
  distinct := by
    show v.cache.keys.Nodup
    rw [hcache]
    exact List.nodup_nil
  settled k := by
    show v.cache.get? k = none
    rw [hcache]
    rfl

/-- A run that is accounted for. -/
theorem after {ids : List PropertyId} {x : Run R (Session R (G × Ledger) S) α} {source : S}
    (hv : v.Audited) (hx : Accounted ids x) (h : v.after source x = .ok w) : w.Audited := by
  obtain ⟨a, σ, hrun, rfl⟩ := Verifier.after_eq_ok.1 h
  have haccounts : Accounts ids v σ.verifier := hx _ a σ hrun
  constructor
  · rw [haccounts.params]
    exact hv.memoization
  · exact haccounts.distinct hv.distinct
  · exact fun k => haccounts.settled hv.memoization k (hv.settled k)

/-- The samples of a path property are dropped. -/
theorem release (hv : v.Audited) (id : PropertyId) :
    ((v.release id).post (.released id)).Audited where
  memoization := hv.memoization
  distinct := SampleCache.nodup_keys_release hv.distinct id
  settled k := by
    show (v.cache.release id).get? k
      = if Ledger.testsOf (.released id :: v.ledger) k = [] then none
        else some (Sample.ofBools (Ledger.testsOf (.released id :: v.ledger) k).flatten)
    rw [SampleCache.get?_release, Ledger.testsOf_released]
    by_cases hid : id = k.property
    · rw [if_pos hid, if_pos hid, if_pos rfl]
    · rw [if_neg hid, if_neg hid]
      exact hv.settled k

/-- All samples are dropped. -/
theorem clearCache (hv : v.Audited) : (v.clearCache.post .cleared).Audited where
  memoization := hv.memoization
  distinct := List.nodup_nil
  settled k := by
    show none = if Ledger.testsOf (.cleared :: v.ledger) k = [] then none else _
    rw [Ledger.testsOf_cleared, if_pos rfl]

end Audited

end Verifier

/-! ### Queries -/

variable [Distributions R]

namespace Session

/-- The estimate for a path property whose sides can be checked. -/
def estimateBy (sim : Simulator R G) (src : SampleSource R S) (u : UntilCheck R G) (s : State R) :
    Run R (Session R G S) (Except (QueryError R) (Estimate R)) := do
  let p ← Run.params
  if p.delta ≤ 0 then return .error (.estimationWithoutDelta p.delta)
  Run.modifyVerifier fun v => { v with stats := ∅, level := 1 }
  Run.beginRun src u.id s
  let e ← runEstimate sim src p (simulate sim u s (u.nestedError p))
  Run.endRun src u.id
  Run.modifyVerifier fun v => { v with level := 0 }
  Run.modifyStats fun stats =>
    { stats with sampleSize := stats.sampleSize.push (e.sampleSize : R) }
  return .ok e

theorem estimate_eq (sim : Simulator R G) (src : SampleSource R S) (path : PathProperty R)
    (s : State R) : estimate sim src path s = estimateBy sim src (path.checks sim) s := rfl

/-- A single path of a path property whose sides can be checked. -/
def samplePathBy (sim : Simulator R G) (u : UntilCheck R G) (s : State R) :
    Run R (Session R G S) Bool := do
  let nested := u.nestedError (← Run.params)
  Run.nested (Run.locally (simulate sim u s nested))

theorem samplePath_eq (sim : Simulator R G) (path : PathProperty R) (s : State R) :
    (samplePath sim path s : Run R (Session R G S) Bool) = samplePathBy sim (path.checks sim) s :=
  rfl

/-- Decides a property in a state, by tests that are posted. -/
def postingVerify (sim : Simulator R (G × Ledger)) (src : SampleSource R S) (p : Property R)
    (s : State R) : Run R (Session R (G × Ledger) S) Bool := do
  Run.modifyVerifier fun v => { v with stats := ∅, level := 0 }
  postingCheck sim src p s

section

variable (sim : Simulator R G) (src : SampleSource R S) (s : State R)

theorem postingVerify_lifts (p : Property R) :
    Lifts Prod.fst (postingVerify sim.withLedger src p s) (verify sim src p s) :=
  Lifts.bind (.modifyVerifier fun _ => rfl) fun _ => postingCheck_lifts sim src p s

variable {u' : UntilCheck R (G × Ledger)} {u : UntilCheck R G} (hu : u'.LiftsTo u)

include hu

theorem estimateBy_lifts :
    Lifts Prod.fst (estimateBy sim.withLedger src u' s) (estimateBy sim src u s) := by
  have h := Lifts.congruence sim.model.withLedger_lifts
  refine Lifts.bind .params fun p => Lifts.ite (.pure _) ?_
  refine Lifts.bind (.modifyVerifier fun _ => rfl) fun _ => ?_
  rw [hu.id, hu.nestedError_eq]
  refine Lifts.bind (h.beginRun src u.id s) fun _ => ?_
  refine Lifts.bind (h.runEstimate (h.simulate hu sim.fuel s _) rfl src p) fun e => ?_
  refine Lifts.bind (h.endRun src u.id) fun _ => ?_
  refine Lifts.bind (.modifyVerifier fun _ => rfl) fun _ => ?_
  exact Lifts.bind (.modifyVerifier fun _ => rfl) fun _ => .pure _

omit [Distributions R] in
theorem samplePathBy_lifts :
    Lifts Prod.fst (samplePathBy sim.withLedger u' s : Run R (Session R (G × Ledger) S) Bool)
      (samplePathBy sim u s) := by
  have h := Lifts.congruence sim.model.withLedger_lifts
  refine Lifts.bind .params fun p => ?_
  rw [hu.nestedError_eq]
  exact h.nested (h.locally (h.simulate hu sim.fuel s _))

end

section

variable (sim : Simulator R G) (src : SampleSource R S) (s : State R)

theorem postingVerify_accounted {p : Property R} (h : p.Layered) :
    Accounted (p.pathList.map (·.id)) (postingVerify sim.withLedger src p s) :=
  Accounted.bind (.modifyVerifier fun _ => ⟨rfl, rfl, rfl⟩) fun _ => postingCheck_accounted sim src p s h

variable {ids : List PropertyId} {u : UntilCheck R (G × Ledger)}
  (hsides : ∀ side t, Accounted ids ((u.side side).check t))

include hsides

theorem estimateBy_accounted : Accounted ids (estimateBy sim.withLedger src u s) := by
  have h := Accounted.congruence ids sim.model
  refine Accounted.bind .params fun p => ?_
  let path : Run R (Session R (G × Ledger) Unit) Bool :=
    simulate sim.withLedger u s (u.nestedError p)
  have hpath : Accounted.relation R G ids Unit Bool path path := .simulate hsides sim s _
  split_ifs
  · exact .pure _
  refine Accounted.bind (.modifyVerifier fun _ => ⟨rfl, rfl, rfl⟩) fun _ => ?_
  refine Accounted.bind (h.beginRun src u.id s) fun _ => ?_
  refine Accounted.bind (h.runEstimate hpath rfl src p) fun e => ?_
  refine Accounted.bind (h.endRun src u.id) fun _ => ?_
  refine Accounted.bind (.modifyVerifier fun _ => ⟨rfl, rfl, rfl⟩) fun _ => ?_
  exact Accounted.bind (.modifyVerifier fun _ => ⟨rfl, rfl, rfl⟩) fun _ => .pure _

omit [Distributions R] in
theorem samplePathBy_accounted :
    Accounted ids (samplePathBy sim.withLedger u s : Run R (Session R (G × Ledger) S) Bool) :=
  Accounted.bind .params fun _ => .nested (.locally (Accounted.simulate hsides sim s _))

end

end Session

/-! ### Calls -/

/-- A call on a verifier; a query comes with its source and the state the source is in. -/
inductive Call (R : Type) : Type 1
  | verify {S : Type} (src : SampleSource R S) (source : S) (p : Property R) (s : State R)
  | estimate {S : Type} (src : SampleSource R S) (source : S) (path : PathProperty R) (s : State R)
  | samplePath (path : PathProperty R) (s : State R)
  | release (id : PropertyId)
  | clearCache

namespace Call

/-- The verifier after a call. -/
def perform (sim : Simulator R G) (v : Verifier R G) : Call R → Except (Halt R) (Verifier R G)
  | verify src source p s => v.after source (Session.verify sim src p s)
  | estimate src source path s => v.after source (Session.estimate sim src path s)
  | samplePath path s => v.after () (Session.samplePath sim path s)
  | release id => .ok (v.release id)
  | clearCache => .ok v.clearCache

/-- The verifier after a call whose tests are posted, as is the dropping of samples. -/
def post (sim : Simulator R (G × Ledger)) (v : Verifier R (G × Ledger)) :
    Call R → Except (Halt R) (Verifier R (G × Ledger))
  | verify src source p s => v.after source (Session.postingVerify sim src p s)
  | estimate src source path s =>
    v.after source (Session.estimateBy sim src (path.postingChecks sim) s)
  | samplePath path s => v.after () (Session.samplePathBy sim (path.postingChecks sim) s)
  | release id => .ok ((v.release id).post (.released id))
  | clearCache => .ok (v.clearCache.post .cleared)

/-- No path property that the call may test has one with its own number inside it. -/
def Layered : Call R → Prop
  | verify _ _ p _ => p.Layered
  | estimate _ _ path _ | samplePath path _ => path.Layered
  | release _ | clearCache => True

variable {sim : Simulator R G}

/-- Without its ledger a call that is posted is the call. -/
theorem exists_post {c : Call R} {v : Verifier R (G × Ledger)} {w : Verifier R G}
    (h : c.perform sim v.withoutLedger = .ok w) :
    ∃ w', c.post sim.withLedger v = .ok w' ∧ w'.withoutLedger = w := by
  cases c with
  | verify src source p s => exact (Session.postingVerify_lifts sim src s p).after h
  | estimate src source path s =>
    rw [perform, Session.estimate_eq] at h
    exact (Session.estimateBy_lifts sim src s (path.postingChecks_lifts sim)).after h
  | samplePath path s =>
    rw [perform, Session.samplePath_eq] at h
    exact (Session.samplePathBy_lifts sim s (path.postingChecks_lifts sim)).after h
  | release id =>
    cases h
    exact ⟨_, rfl, rfl⟩
  | clearCache =>
    cases h
    exact ⟨_, rfl, rfl⟩

end Call

namespace Verifier.Audited

variable {sim : Simulator R G} {v : Verifier R (G × Ledger)}

/-- **A call on layered properties leaves the cache the ledger.** -/
theorem call (hv : v.Audited) {c : Call R} (hc : c.Layered) {w : Verifier R (G × Ledger)}
    (h : c.post sim.withLedger v = .ok w) : w.Audited := by
  cases c with
  | verify src source p s => exact hv.after (Session.postingVerify_accounted sim src s hc) h
  | estimate src source path s =>
    exact hv.after (Session.estimateBy_accounted sim src s (path.postingChecks_accounted sim hc)) h
  | samplePath path s =>
    exact hv.after (Session.samplePathBy_accounted sim s (path.postingChecks_accounted sim hc)) h
  | release id =>
    cases h
    exact hv.release id
  | clearCache =>
    cases h
    exact hv.clearCache

/-- **So does any number of calls.** -/
theorem calls (hv : v.Audited) {cs : List (Call R)} (hcs : ∀ c ∈ cs, c.Layered) {w : Verifier R G}
    (h : cs.foldlM (Call.perform sim) v.withoutLedger = .ok w) :
    ∃ w', cs.foldlM (Call.post sim.withLedger) v = .ok w' ∧ w'.withoutLedger = w ∧ w'.Audited := by
  induction cs generalizing v with
  | nil =>
    cases h
    exact ⟨v, rfl, rfl, hv⟩
  | cons c cs ih =>
    obtain ⟨hc, hcs⟩ := List.forall_mem_cons.1 hcs
    rw [List.foldlM_cons] at h
    cases hfirst : c.perform sim v.withoutLedger with
    | error e =>
      rw [hfirst] at h
      cases h
    | ok u =>
      rw [hfirst] at h
      obtain ⟨u', hu', rfl⟩ := Call.exists_post hfirst
      obtain ⟨w', hw', hw⟩ := ih (hv.call hc hu') hcs h
      refine ⟨w', ?_, hw⟩
      rw [List.foldlM_cons, hu']
      exact hw'

end Verifier.Audited

/-- **The cache is an exact ledger.**  After any calls on a verifier that is new and keeps samples there
is one entry for each key for which tests have completed since its samples were last dropped; its
sample is the fold of all that these tests have drawn, one test after another.  Releasing a path
property drops its samples and no others. -/
theorem Call.cache_eq_ledger {sim : Simulator R G} {calls : List (Call R)}
    (hcalls : ∀ c ∈ calls, c.Layered) {v w : Verifier R G} (hmemo : v.params.memoization = true)
    (hcache : v.cache = ∅) (h : calls.foldlM (perform sim) v = .ok w) :
    ∃ w', calls.foldlM (post sim.withLedger) (v.withLedger []) = .ok w' ∧ w'.withoutLedger = w ∧
      w.cache.keys.Nodup ∧
      (∀ k, w.cache.get? k = if w'.ledger.testsOf k = [] then none
        else some (Sample.ofBools (w'.ledger.testsOf k).flatten)) ∧
      ∀ id k, (w.release id).cache.get? k = if id = k.property then none else w.cache.get? k := by
  have hnew : (v.withLedger []).Audited := .withLedger_nil hmemo hcache
  obtain ⟨w', hpost, rfl, haudited⟩ := hnew.calls hcalls h
  exact ⟨w', hpost, rfl, haudited.distinct, haudited.settled,
    fun id k => SampleCache.get?_release w'.cache id k⟩

/-! ### A test within a test -/

namespace Audit

/-- While `x0` is zero there comes a state from which it will most likely be one. -/
def path : PathProperty Float :=
  .unbounded ⟨1⟩ (.expr (.equals 0 0))
    (.threshold .atLeast 0.5 (.unbounded ⟨2⟩ (.expr (.constant true)) (.expr (.equals 0 1))))

/-- A test of the path property and another path of it, after which the samples of the test are
dropped, but not those of the tests inside it. -/
def calls : List (Call Float) :=
  [.verify (.simulating Float) () (.threshold .atLeast 0.5 path) ⟨[0], 0⟩, .samplePath path ⟨[0], 0⟩,
    .release ⟨1⟩]

theorem path_layered : path.Layered := by
  constructor <;> unfold Property.Layered <;> decide +kernel

theorem calls_layered : ∀ c ∈ calls, c.Layered := by
  have hthreshold : (Property.threshold .atLeast 0.5 path).Layered := by
    unfold Property.Layered
    decide +kernel
  intro c hc
  rcases List.mem_cons.1 hc with rfl | hc
  · exact hthreshold
  rcases List.mem_cons.1 hc with rfl | hc
  · exact path_layered
  · cases List.mem_singleton.1 hc
    trivial

/-- Three tests of the inner path property have completed, of which only the first one has drawn. -/
theorem cache_eq_ledger_audit :
    let _ := Twice.distributions
    ∃ w, calls.foldlM (Call.perform Twice.counting) Twice.session.verifier = .ok w ∧
      w.cache.get? ⟨⟨1⟩, [0]⟩ = none ∧
      w.cache.get? ⟨⟨2⟩, [0]⟩ = some (Sample.ofBools [true, true]) := by
  intro _
  obtain ⟨w, hw⟩ : ∃ w, calls.foldlM (Call.perform Twice.counting) Twice.session.verifier = .ok w := by
    have hends : (calls.foldlM (Call.perform Twice.counting) Twice.session.verifier).isOk = true := by
      decide +kernel
    cases h : calls.foldlM (Call.perform Twice.counting) Twice.session.verifier with
    | ok w => exact ⟨w, rfl⟩
    | error e =>
      rw [h] at hends
      cases hends
  obtain ⟨w', hposted, -, -, hcache, -⟩ := Call.cache_eq_ledger calls_layered rfl rfl hw
  have hledger : ((calls.foldlM (Call.post Twice.counting.withLedger)
      (Twice.session.verifier.withLedger [])).toOption.map fun v =>
        (v.ledger.testsOf ⟨⟨1⟩, [0]⟩, v.ledger.testsOf ⟨⟨2⟩, [0]⟩))
      = some ([], [[true, true], [], []]) := by decide +kernel
  rw [hposted] at hledger
  obtain ⟨houter, hinner⟩ := Prod.mk.inj (Option.some.inj hledger)
  refine ⟨w, hw, ?_, ?_⟩
  · rw [hcache, houter, if_pos rfl]
  · rw [hcache, hinner]
    rfl

end Audit

end SimCheck
