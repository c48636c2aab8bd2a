import Mathlib.Data.List.Nodup
import SimCheck.Proofs.Memo.Ledger

/-!
# The samples that are kept are those of the ledger

The sample that is kept under a key is the fold of what the tests for that key have drawn, as the ledger
lists them.  A test reads the sample when it is opened and stores one when it is closed; in between its
paths run tests of their own.  As long as these are of other path properties, the sample has not
changed in the meantime, neither under its key nor in the ledger.

* `Verifier.Settled`: the sample under a key is the one of the ledger;
* `Verifier.Accounts ids v w`: from `v` to `w` tests of the path properties `ids` have completed, and
  what has been settled is settled;
* `Accounted.postingTest`: a test;
* `postingCheck_accounted`: a check.
-/

namespace SimCheck

variable {R G S α β : Type}

/-! ### Keys of the cache -/

namespace SampleCache

/-- The keys under which there are samples, in the order of their arrival. -/
def keys (c : SampleCache R) : List CacheKey := c.entries.map Prod.fst

theorem map_fst_insertEntry (k : CacheKey) (s : Sample R) (es : List (CacheKey × Sample R)) :
    (insertEntry k s es).map Prod.fst
      = if k ∈ es.map Prod.fst then es.map Prod.fst else es.map Prod.fst ++ [k] := by
  induction es with
  | nil => rfl
  | cons e es ih =>
    rw [insertEntry]
    by_cases he : e.1 = k
    · simp [he]
    · have hne : ¬k = e.1 := fun h => he h.symm
      simp only [if_neg he, List.map_cons, ih, List.mem_cons, hne, false_or]
      split_ifs <;> rfl

theorem nodup_keys_insert {c : SampleCache R} (h : c.keys.Nodup) (k : CacheKey) (s : Sample R) :
    (c.insert k s).keys.Nodup := by
  unfold keys insert
  rw [map_fst_insertEntry]
  split_ifs with hk
  · exact h
  · exact List.nodup_append'.2 ⟨h, List.nodup_singleton k, List.disjoint_singleton.2 hk⟩

theorem nodup_keys_release {c : SampleCache R} (h : c.keys.Nodup) (id : PropertyId) :
    (c.release id).keys.Nodup :=
  h.sublist ((List.filter_sublist).map Prod.fst)

theorem get?_release (c : SampleCache R) (id : PropertyId) (k : CacheKey) :
    (c.release id).get? k = if id = k.property then none else c.get? k := by
  unfold get? release
  induction c.entries with
  | nil => simp
  | cons e es ih => grind

end SampleCache

/-! ### Settled keys -/

section

variable [Scalar R]

namespace Verifier

/-- What has been posted. -/
def ledger (v : Verifier R (G × Ledger)) : Ledger := v.generator.2

/-- The sample under the key is the fold of what the tests for it have drawn; there is none if there
has been no test. -/
def Settled (v : Verifier R (G × Ledger)) (k : CacheKey) : Prop :=
  v.cache.get? k = if v.ledger.testsOf k = [] then none
    else some (Sample.ofBools (v.ledger.testsOf k).flatten)

/-- Between the two verifiers threshold tests of the path properties `ids` have completed, and every
key that was settled still is. -/
structure Accounts (ids : List PropertyId) (v w : Verifier R (G × Ledger)) : Prop where
  params : w.params = v.params
  confined : ∀ k : CacheKey, k.property ∉ ids →
    w.cache.get? k = v.cache.get? k ∧ w.ledger.testsOf k = v.ledger.testsOf k
  settled : v.params.memoization = true → ∀ k, v.Settled k → w.Settled k
  distinct : v.cache.keys.Nodup → w.cache.keys.Nodup

namespace Accounts

variable {ids ids' : List PropertyId} {u v w : Verifier R (G × Ledger)}

/-- Nothing has been stored, and nothing posted. -/
theorem of_unposted (hparams : w.params = v.params) (hcache : w.cache = v.cache)
    (hledger : w.ledger = v.ledger) : Accounts ids v w where
  params := hparams
  confined k _ := by rw [hcache, hledger]; exact ⟨rfl, rfl⟩
  settled _ k hk := by rwa [Settled, hcache, hledger]
  distinct h := by rwa [hcache]

theorem refl (v : Verifier R (G × Ledger)) : Accounts ids v v := of_unposted rfl rfl rfl

theorem trans (h : Accounts ids u v) (h' : Accounts ids v w) : Accounts ids u w where
  params := h'.params.trans h.params
  confined k hk :=
    ⟨(h'.confined k hk).1.trans (h.confined k hk).1, (h'.confined k hk).2.trans (h.confined k hk).2⟩
  settled hmemo k hk := h'.settled (h.params ▸ hmemo) k (h.settled hmemo k hk)
  distinct hdistinct := h'.distinct (h.distinct hdistinct)

theorem mono (h : Accounts ids v w) (hids : ids ⊆ ids') : Accounts ids' v w :=
  { h with confined := fun k hk => h.confined k fun hmem => hk (hids hmem) }

end Accounts

end Verifier

/-- Whatever the run does, it is accounted for, and it tests path properties of `ids` only. -/
def Accounted (ids : List PropertyId) (x : Run R (Session R (G × Ledger) S) α) : Prop :=
  ∀ σ a σ', x σ = .ok (a, σ') → Verifier.Accounts ids σ.verifier σ'.verifier

/-- The same as a relation, of which the second run is of no account. -/
abbrev Accounted.relation (R G : Type) [Scalar R] (ids : List PropertyId) :
    RunRelation R (G × Ledger) (G × Ledger) := fun _ _ x _ => Accounted ids x

namespace Accounted

variable {ids ids' : List PropertyId}

theorem mono {x : Run R (Session R (G × Ledger) S) α} (h : Accounted ids x) (hids : ids ⊆ ids') :
    Accounted ids' x :=
  fun σ a σ' hx => (h σ a σ' hx).mono hids

/-- A change of the verifier that neither stores nor posts. -/
theorem modifyVerifier {f : Verifier R (G × Ledger) → Verifier R (G × Ledger)}
    (h : ∀ v, (f v).params = v.params ∧ (f v).cache = v.cache ∧ (f v).ledger = v.ledger) :
    Accounted ids (Run.modifyVerifier f : Run R (Session R (G × Ledger) S) Unit) := by
  rintro σ ⟨⟩ σ' hx
  cases Run.modifyVerifier_eq_ok.1 hx
  obtain ⟨hparams, hcache, hledger⟩ := h σ.verifier
  exact .of_unposted hparams hcache hledger

theorem nested {x : Run R (Session R (G × Ledger) S) α} (hx : Accounted ids x) :
    Accounted ids (Run.nested x) := by
  intro σ a σ' h
  obtain ⟨τ, hτ, rfl⟩ := Run.nested_eq_ok.1 h
  have hinner := hx _ a τ hτ
  exact { hinner with }

theorem pure (a : α) : Accounted ids (Pure.pure a : Run R (Session R (G × Ledger) S) α) := by
  intro σ b σ' h
  obtain ⟨-, rfl⟩ := Run.pure_eq_ok.1 h
  exact .refl _

theorem bind {x : Run R (Session R (G × Ledger) S) α} {k : α → Run R (Session R (G × Ledger) S) β}
    (hx : Accounted ids x) (hk : ∀ a, Accounted ids (k a)) : Accounted ids (x >>= k) := by
  intro σ b σ' h
  obtain ⟨a, σ₁, hxa, hka⟩ := Run.bind_eq_ok.1 h
  exact (hx σ a σ₁ hxa).trans (hk a σ₁ b σ' hka)

theorem params : Accounted ids (Run.params : Run R (Session R (G × Ledger) S) (Params R)) := by
  intro σ p σ' h
  obtain ⟨-, rfl⟩ := Run.params_eq_ok.1 h
  exact .refl _

theorem locally {x : Run R (Session R (G × Ledger) Unit) α} (hx : Accounted ids x) :
    Accounted ids (Run.locally x : Run R (Session R (G × Ledger) S) α) := by
  intro σ a σ' h
  obtain ⟨τ, hτ, rfl⟩ := Run.locally_eq_ok.1 h
  exact hx _ _ _ hτ

/-- **What runs are built from is accounted for.** -/
theorem congruence (ids : List PropertyId) (model : Model R G) :
    Run.Congruence (relation R G ids) model.withLedger model.withLedger where
  pure := pure
  throw _ := fun _ _ _ h => (Run.throw_ne_ok h).elim
  bind := bind
  params := params
  within b hx := by
    intro σ a σ' h
    obtain ⟨τ, hτ, rfl⟩ := Run.withinBounds_eq_ok.1 h
    exact { hx _ a τ hτ with params := rfl }
  nested := nested
  locally := locally
  report _ := modifyVerifier fun _ => ⟨rfl, rfl, rfl⟩
  count _ := modifyVerifier fun _ => ⟨rfl, rfl, rfl⟩
  transition s := by
    intro σ t σ' h
    obtain ⟨g, hg, rfl⟩ := Run.transition_eq_ok.1 h
    refine .of_unposted rfl rfl ?_
    unfold Model.withLedger at hg
    cases hmodel : model s σ.verifier.generator.1 with
    | error e =>
      rw [hmodel] at hg
      cases hg
    | ok r =>
      rw [hmodel] at hg
      cases hg
      rfl
  readSource hf := by
    intro σ a σ' h
    exact hf σ.source σ a σ' h
  changeSource f := by
    intro σ a σ' h
    cases h
    exact .refl _

end Accounted

/-! ### Tests -/

section Tests

variable [Distributions R]

namespace Verifier

variable {v : Verifier R (G × Ledger)} {u : UntilCheck R (G × Ledger)} {s : State R}
  {t : ThresholdTest R} {drawn : List Bool}

/-- The verifier after a test has been closed and posted. -/
def closeAndPost (v : Verifier R (G × Ledger)) (u : UntilCheck R (G × Ledger)) (s : State R)
    (t : ThresholdTest R) (drawn : List Bool) : Verifier R (G × Ledger) :=
  (v.close u s t).post (.tested ⟨u.id, s.values⟩ drawn)

omit [Distributions R] in
theorem cache_closeAndPost :
    (v.closeAndPost u s t drawn).cache
      = if v.params.memoization then v.cache.insert ⟨u.id, s.values⟩ t.sample else v.cache := rfl

omit [Distributions R] in
theorem testsOf_closeAndPost (k : CacheKey) :
    (v.closeAndPost u s t drawn).ledger.testsOf k
      = if (⟨u.id, s.values⟩ : CacheKey) = k then v.ledger.testsOf k ++ [drawn]
        else v.ledger.testsOf k :=
  Ledger.testsOf_tested ..

omit [Distributions R] in
/-- The key of a test that is closed is settled, if the test has gone on from the sample of the
ledger. -/
theorem settled_closeAndPost_self (hmemo : v.params.memoization = true)
    (hsample : t.sample = Sample.ofBools ((v.ledger.testsOf ⟨u.id, s.values⟩).flatten ++ drawn)) :
    (v.closeAndPost u s t drawn).Settled ⟨u.id, s.values⟩ := by
  unfold Settled
  rw [cache_closeAndPost, if_pos hmemo, SampleCache.get?_insert, testsOf_closeAndPost, hsample]
  simp

omit [Distributions R] in
/-- Under another key nothing changes. -/
theorem closeAndPost_of_ne {k : CacheKey} (hk : k ≠ ⟨u.id, s.values⟩) :
    (v.closeAndPost u s t drawn).cache.get? k = v.cache.get? k ∧
      (v.closeAndPost u s t drawn).ledger.testsOf k = v.ledger.testsOf k := by
  constructor
  · rw [cache_closeAndPost]
    split_ifs
    · rw [SampleCache.get?_insert, if_neg hk]
    · rfl
  · rw [testsOf_closeAndPost, if_neg hk.symm]

/-- A test that is opened for a settled key has the sample of the ledger. -/
theorem Settled.sample_resumeFrom {k : CacheKey} (hk : v.Settled k)
    (hmemo : v.params.memoization = true) {new : ThresholdTest R} (hnew : new.sample = ∅) :
    (new.resumeFrom v k).sample = Sample.ofBools (v.ledger.testsOf k).flatten := by
  unfold ThresholdTest.resumeFrom
  rw [if_pos hmemo, hk]
  split_ifs with hnone
  · rw [hnone]
    exact hnew
  · exact ThresholdTest.sample_resume new _

end Verifier

namespace Accounted

variable {inside : List PropertyId} {u : UntilCheck R (G × Ledger)} {s : State R}

omit [Distributions R] in
theorem simulate (hsides : ∀ side t, Accounted inside ((u.side side).check t)) (sim : Simulator R G)
    (s : State R) (budget : R) :
    Accounted inside (SimCheck.simulate sim.withLedger u s budget) := by
  have hu : u.Related (relation R G inside) u := ⟨rfl, rfl, rfl, fun _ => rfl, hsides⟩
  exact (congruence inside sim.model).simulate hu sim.fuel s budget

theorem completing (model : Model R G) {path : Run R (Session R (G × Ledger) Unit) Bool}
    (hpath : relation R G inside Unit Bool path path) (src : SampleSource R S) (id : PropertyId)
    (s : State R) (fuel : ℕ) (t : ThresholdTest R) :
    Accounted inside (SimCheck.completing src id s path fuel t) :=
  (congruence inside model).completing hpath src id s fuel t

/-- **A test is accounted for if its paths are, and if they do not test its own path property.** -/
theorem postingTest (hid : u.id ∉ inside)
    (hsides : ∀ side t, Accounted inside ((u.side side).check t)) (sim : Simulator R G)
    (src : SampleSource R S) (bound : R) :
    Accounted (u.id :: inside) (SimCheck.postingTest sim.withLedger src u bound s) := by
  intro σ b σ' h
  obtain ⟨t, _, hopen, h⟩ := Run.bind_eq_ok.1 h
  obtain ⟨⟨new, hnew, rfl⟩, rfl⟩ := openTest_eq_ok.1 hopen
  obtain ⟨p, _, hp, h⟩ := Run.bind_eq_ok.1 h
  obtain ⟨rfl, rfl⟩ := Run.params_eq_ok.1 hp
  obtain ⟨⟨t, drawn⟩, σ₁, hcomplete, h⟩ := Run.bind_eq_ok.1 h
  obtain ⟨_, σ₂, hclose, h⟩ := Run.bind_eq_ok.1 h
  obtain ⟨_, σ₃, hpost, h⟩ := Run.bind_eq_ok.1 h
  obtain ⟨rfl, rfl⟩ := Run.pure_eq_ok.1 h
  rw [closeTest_eq] at hclose
  cases hclose
  cases hpost
  have hpaths : Verifier.Accounts inside σ.verifier σ₁.verifier :=
    completing sim.model (simulate hsides sim s _) src u.id s _ _ σ _ σ₁ hcomplete
  show Verifier.Accounts _ σ.verifier (σ₁.verifier.closeAndPost u s t drawn)
  have hne {k : CacheKey} (hk : k.property ∉ u.id :: inside) : k ≠ ⟨u.id, s.values⟩ := by
    rintro rfl
    exact hk List.mem_cons_self
  constructor
  · exact hpaths.params
  · intro k hk
    obtain ⟨hcache, htests⟩ := hpaths.confined k fun hmem => hk (List.mem_cons_of_mem _ hmem)
    obtain ⟨hcache', htests'⟩ := Verifier.closeAndPost_of_ne (v := σ₁.verifier) (hne hk)
    exact ⟨hcache'.trans hcache, htests'.trans htests⟩
  · intro hmemo k hk
    have hmemo₁ : σ₁.verifier.params.memoization = true := hpaths.params ▸ hmemo
    by_cases hown : k = ⟨u.id, s.values⟩
    · subst hown
      refine Verifier.settled_closeAndPost_self hmemo₁ ?_
      -- Its tests have not changed while the paths were simulated.
      rw [(hpaths.confined ⟨u.id, s.values⟩ hid).2, completing_eq_ok hcomplete,
        ThresholdTest.sample_pushAll, hk.sample_resumeFrom hmemo (ThresholdTest.create_undecided hnew).2,
        Sample.ofBools_append]
    · obtain ⟨hcache, htests⟩ := Verifier.closeAndPost_of_ne (v := σ₁.verifier) hown
      have hk₁ := hpaths.settled hmemo k hk
      rwa [Verifier.Settled, hcache, htests]
  · intro hdistinct
    rw [Verifier.cache_closeAndPost]
    split_ifs
    · exact SampleCache.nodup_keys_insert (hpaths.distinct hdistinct) _ _
    · exact hpaths.distinct hdistinct

theorem postingThreshold (hid : u.id ∉ inside)
    (hsides : ∀ side t, Accounted inside ((u.side side).check t)) (sim : Simulator R G)
    (src : SampleSource R S) (op : ThresholdOp) (bound : R) :
    Accounted (u.id :: inside) (SimCheck.postingThreshold sim.withLedger src u op bound s) := by
  unfold SimCheck.postingThreshold
  cases Property.trivialVerdict? op bound with
  | some verdict => exact pure verdict
  | none => exact nested (postingTest hid hsides sim src bound)

end Accounted

end Tests

/-! ### Checks -/

namespace Accounted

variable {ids : List PropertyId} (model : Model R G)

include model

theorem negation {x : Run R (Session R (G × Ledger) S) Bool} (hx : Accounted ids x) :
    Accounted ids (Verdict.negation x) :=
  @Verdict.Congruence.negation _ _ _ _ _ _ _ _ ((congruence ids model).verdict S) x x hx

theorem combine (c : Connective) {head : Option (Run R (Session R (G × Ledger) S) Bool)}
    {os : List (Operand (Run R (Session R (G × Ledger) S)))} (hhead : ∀ x ∈ head, Accounted ids x)
    (hos : ∀ o ∈ os, Accounted ids o.verdict) : Accounted ids (Verdict.combine c head os) :=
  Verdict.Congruence.combine_of_forall ((congruence ids model).verdict S) hhead hos c

end Accounted

/-- The path properties inside a path property. -/
def PathProperty.innerIds (path : PathProperty R) : List PropertyId :=
  (path.pre.pathList ++ path.post.pathList).map (·.id)

/-- No path property of the tree has its own number inside it. -/
def Property.Layered (p : Property R) : Prop := ∀ path ∈ p.pathList, path.id ∉ path.innerIds

section Checks

variable [Distributions R] (sim : Simulator R G)

mutual

/-- **Every check of a layered property is accounted for.** -/
theorem postingCheck_accounted {S : Type} (src : SampleSource R S) :
    ∀ (p : Property R) (s : State R), p.Layered →
      Accounted (p.pathList.map (·.id)) (postingCheck sim.withLedger src p s)
  | .expr e, s, _ => (Accounted.congruence [] sim.model).ofExcept _
  | .not p, s, h => .negation sim.model (postingCheck_accounted src p s h)
  | .combine c head ps, s, h => by
    rw [postingCheck]
    refine .combine sim.model c (Option.forall_mem_map.2 fun e _ => ?_)
      (postingOperands_accounted src ps s h (List.Subset.refl _))
    exact (Accounted.congruence _ sim.model).ofExcept _
  | .threshold op bound (.until id lower upper pre post), s, h => by
    obtain ⟨hid, hsides⟩ := List.forall_mem_cons.1 h
    obtain ⟨hpre, hpost⟩ := List.forall_mem_append.1 hsides
    refine Accounted.postingThreshold hid ?_ sim src op bound
    intro side t
    cases side with
    | pre =>
      exact (postingCheck_accounted (.simulating R) pre t hpre).mono
        (List.map_subset _ (List.subset_append_left ..))
    | post =>
      exact (postingCheck_accounted (.simulating R) post t hpost).mono
        (List.map_subset _ (List.subset_append_right ..))

/-- So is every operand of a connective. -/
theorem postingOperands_accounted {S : Type} (src : SampleSource R S) {ids : List PropertyId} :
    ∀ (ps : List (Property R)) (s : State R),
      (∀ path ∈ Property.pathLists ps, path.id ∉ path.innerIds) →
      (Property.pathLists ps).map (·.id) ⊆ ids →
      ∀ o ∈ postingOperands sim.withLedger src ps s, Accounted ids o.verdict
  | [], _, _, _, _, ho => (List.not_mem_nil ho).elim
  | p :: ps, s, h, hids, o, ho => by
    rw [Property.pathLists, List.map_append] at hids
    obtain ⟨hp, hps⟩ := List.forall_mem_append.1 h
    obtain ⟨hpids, hpsids⟩ := List.append_subset.1 hids
    rcases List.mem_cons.1 ho with rfl | ho
    · exact (postingCheck_accounted src p s hp).mono hpids
    · exact postingOperands_accounted src ps s hps hpsids o ho

end

/-- Neither side of the path property has a path property with its own number inside it. -/
def PathProperty.Layered (path : PathProperty R) : Prop := path.pre.Layered ∧ path.post.Layered

/-- The sides of a path property are accounted for by what is inside it. -/
theorem PathProperty.postingChecks_accounted {path : PathProperty R} (h : path.Layered) (side : Side)
    (t : State R) :
    Accounted path.innerIds (((path.postingChecks sim.withLedger).side side).check t) := by
  unfold PathProperty.innerIds
  cases side with
  | pre =>
    exact (postingCheck_accounted sim (.simulating R) path.pre t h.1).mono
      (List.map_subset _ (List.subset_append_left ..))
  | post =>
    exact (postingCheck_accounted sim (.simulating R) path.post t h.2).mono
      (List.map_subset _ (List.subset_append_right ..))

end Checks

end

end SimCheck
