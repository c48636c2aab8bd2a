import Mathlib.Data.List.Infix
import SimCheck.Proofs.Test.Counting
import SimCheck.Proofs.Test.Latch

/-!
# Curtailed plans

A single sampling test stops before it has drawn all the observations of its plan if those that are
missing cannot change the outcome any more.

* `Plan.Settles plan bs`: whatever is observed after `bs`, the outcome of the plan is the same;
* `Plan.FirstSettles plan bs`: and that is not so for any part of `bs` before its end;
* `isDone_pushAll_ofPlan`: the test is done as soon as its observations settle the outcome;
* `curtailment`: that is so after at most `n` observations, and the verdict is that of the whole plan.
-/

namespace SimCheck

/-! ### Settled outcomes -/

namespace Plan

/-- Observations settle the outcome of a plan `(n, c)` if more than `c` of them are positive, or if no
completion to `n` observations has more than `c` positive ones. -/
def Settles (plan : Plan) (bs : List Bool) : Prop :=
  plan.c < bs.count true ∨
    ∀ cs, (bs ++ cs).length = plan.n → ((bs ++ cs).count true : Int) ≤ plan.c

/-- These observations settle the outcome, and the first ones alone do not. -/
def FirstSettles (plan : Plan) (bs : List Bool) : Prop :=
  plan.Settles bs ∧ ∀ cs, cs <+: bs → plan.Settles cs → cs = bs

variable {plan : Plan} {bs cs : List Bool}

/-- The best completion is the one by positive observations only. -/
theorem settles_iff : plan.Settles bs ↔
    plan.c < bs.count true ∨ (bs.count true : Int) ≤ bs.length + plan.c - plan.n := by
  unfold Settles
  by_cases haccepts : plan.c < bs.count true
  · simp [haccepts]
  · simp only [haccepts, false_or]
    constructor
    · intro h
      by_cases hlength : bs.length ≤ plan.n
      · have hbest := h (List.replicate (plan.n - bs.length) true) (by simp; omega)
        simp at hbest
        omega
      · omega
    · intro h cs hlength
      have hcount : cs.count true ≤ cs.length := List.count_le_length
      rw [List.length_append] at hlength
      rw [List.count_append]
      omega

instance (plan : Plan) (bs : List Bool) : Decidable (plan.Settles bs) :=
  decidable_of_iff _ settles_iff.symm

instance (plan : Plan) (bs : List Bool) : Decidable (plan.FirstSettles bs) :=
  decidable_of_iff (plan.Settles bs ∧ ∀ cs ∈ bs.inits, plan.Settles cs → cs = bs)
    (by simp only [List.mem_inits, FirstSettles])

theorem not_settles_nil (hnonneg : 0 ≤ plan.c) (hlt : plan.c < plan.n) : ¬plan.Settles [] := by
  rw [settles_iff]
  simp
  omega

theorem settles_of_le_length (h : plan.n ≤ bs.length) : plan.Settles bs := by
  rw [settles_iff]
  omega

theorem exists_firstSettles (hpart : cs <+: bs) (h : plan.Settles cs) :
    ∃ ds, ds <+: bs ∧ plan.FirstSettles ds := by
  induction bs using List.reverseRecOn generalizing cs with
  | nil =>
    obtain rfl : cs = [] := List.prefix_nil.1 hpart
    exact ⟨[], hpart, h, fun ds hds _ => List.prefix_nil.1 hds⟩
  | append_singleton bs b ih =>
    by_cases hearlier : ∃ ds, ds <+: bs ∧ plan.Settles ds
    · obtain ⟨ds, hds, hsettles⟩ := hearlier
      obtain ⟨first, hfirst, hsettles⟩ := ih hds hsettles
      exact ⟨first, hfirst.trans (List.prefix_append bs [b]), hsettles⟩
    · have hwhole (ds : List Bool) (hds : ds <+: bs ++ [b]) (hsettles : plan.Settles ds) :
          ds = bs ++ [b] :=
        (List.prefix_concat_iff.1 hds).resolve_right fun hle => hearlier ⟨ds, hle, hsettles⟩
      exact ⟨bs ++ [b], List.prefix_rfl, hwhole cs hpart h ▸ h, hwhole⟩

theorem FirstSettles.length_le (h : plan.FirstSettles bs) : bs.length ≤ plan.n := by
  by_contra hlt
  have hlength : (bs.take plan.n).length = plan.n := by
    rw [List.length_take]
    omega
  have hwhole := h.2 _ (List.take_prefix plan.n bs) (settles_of_le_length hlength.ge)
  rw [hwhole] at hlength
  omega

/-- Once the outcome is settled, the first `n` observations of every completion have it. -/
theorem Settles.outcome (h : plan.Settles bs) (hle : bs.length ≤ plan.n) {cs : List Bool}
    (hlength : plan.n ≤ (bs ++ cs).length) :
    plan.c < ((bs ++ cs).take plan.n).count true ↔ plan.c < bs.count true := by
  have htake : (bs ++ cs).take plan.n = bs ++ cs.take (plan.n - bs.length) := by
    rw [List.take_append, List.take_of_length_le hle]
  rw [List.length_append] at hlength
  rw [htake, List.count_append]
  rcases h with haccepts | hrejects
  · omega
  · have hwhole := hrejects (cs.take (plan.n - bs.length)) (by simp; omega)
    rw [List.count_append] at hwhole
    omega

/-- There is a completion to `n` observations. -/
theorem exists_completion (hle : bs.length ≤ plan.n) : ∃ cs, plan.n ≤ (bs ++ cs).length :=
  ⟨List.replicate (plan.n - bs.length) true, by simp; omega⟩

end Plan

namespace SingleSamplingTest

variable {plan : Plan} {bs : List Bool}

theorem settled_eq_none :
    settled plan bs.length (bs.count true) = none ↔ ¬plan.Settles bs := by
  rw [Plan.settles_iff]
  unfold settled
  split_ifs <;> simp [*]

theorem settled_eq_some (h : plan.Settles bs) :
    settled plan bs.length (bs.count true) = some (decide (plan.c < bs.count true)) := by
  rw [Plan.settles_iff] at h
  unfold settled
  split_ifs with haccepts hrejects
  · simp [haccepts]
  · simp [haccepts]
  · exact absurd h (not_or.2 ⟨haccepts, hrejects⟩)

theorem judge_binary64 (h : bs.length < 2 ^ 53) :
    judge plan (Sample.ofBools bs : Sample Float) = settled plan bs.length (bs.count true) := by
  have hcount : bs.count true ≤ bs.length := List.count_le_length
  rw [judge, Sample.count_ofBools, Binary64.sum_ofBools h]
  exact congrArg _ (Binary64.truncate_ofNat (by omega))

end SingleSamplingTest

/-! ### The test of a plan -/

namespace ThresholdTest

/-- The test that follows a plan, without observations. -/
def ofPlan {R : Type} [Scalar R] (region : Region R) (plan : Plan) : ThresholdTest R :=
  .singleSampling ⟨region, plan, ∅, none⟩

variable [Distributions Float] {region : Region Float} {plan : Plan} {bs cs : List Bool}

/-- The observation after which the outcome is settled is the one that decides. -/
theorem verdict?_pushAll_ofPlan {b : Bool} (hlength : (bs ++ [b]).length < 2 ^ 53)
    (hundecided : ((ofPlan region plan).pushAll bs).isDone = false) :
    ((ofPlan region plan).pushAll (bs ++ [b])).verdict?
      = SingleSamplingTest.settled plan (bs ++ [b]).length ((bs ++ [b]).count true) := by
  have hsample : ((ofPlan region plan).pushAll (bs ++ [b])).sample = Sample.ofBools (bs ++ [b]) :=
    sample_pushAll _ _
  rw [verdict?_pushAll_append hundecided, hsample]
  exact SingleSamplingTest.judge_binary64 hlength

theorem isDone_pushAll_ofPlan (hnil : ¬plan.Settles []) (hlength : bs.length < 2 ^ 53) :
    ((ofPlan region plan).pushAll bs).isDone = true ↔ ∃ cs, cs <+: bs ∧ plan.Settles cs := by
  induction bs using List.reverseRecOn with
  | nil =>
    constructor
    · intro h
      cases h
    · rintro ⟨cs, hpart, hsettles⟩
      obtain rfl : cs = [] := List.prefix_nil.1 hpart
      exact absurd hsettles hnil
  | append_singleton bs b ih =>
    have ih := ih (by simp at hlength; omega)
    by_cases hdone : ((ofPlan region plan).pushAll bs).isDone = true
    · obtain ⟨cs, hpart, hsettles⟩ := ih.1 hdone
      rw [pushAll_append]
      exact iff_of_true (isDone_pushAll hdone [b])
        ⟨cs, hpart.trans (List.prefix_append bs [b]), hsettles⟩
    · have hverdict := verdict?_pushAll_ofPlan hlength (eq_false_of_ne_true hdone)
      have hnone : ((ofPlan region plan).pushAll (bs ++ [b])).isDone = false ↔
          ¬plan.Settles (bs ++ [b]) := by
        rw [← verdict?_eq_none, hverdict, SingleSamplingTest.settled_eq_none]
      rw [← Bool.not_eq_false, hnone, not_not]
      constructor
      · exact fun h => ⟨_, List.prefix_rfl, h⟩
      · rintro ⟨cs, hpart, hsettles⟩
        rcases List.prefix_concat_iff.1 hpart with rfl | hpart
        · exact hsettles
        · exact absurd (ih.2 ⟨cs, hpart, hsettles⟩) hdone

theorem accepts_pushAll_ofPlan (hnil : ¬plan.Settles []) (hlength : bs.length < 2 ^ 53)
    (hpart : cs <+: bs) (hfirst : plan.FirstSettles cs) :
    ((ofPlan region plan).pushAll bs).verdict? = some (decide (plan.c < cs.count true)) := by
  obtain ⟨ds, rfl⟩ := hpart
  have hle : cs.length < 2 ^ 53 := (List.length_append ▸ Nat.le_add_right ..).trans_lt hlength
  rw [pushAll_append]
  refine verdict?_pushAll_of_some ((storesVerdict_pushAll _ cs).trans rfl) ?_ ds
  rw [← SingleSamplingTest.settled_eq_some hfirst.1]
  rcases List.eq_nil_or_concat' cs with rfl | ⟨cs, b, rfl⟩
  · exact absurd hfirst.1 hnil
  · refine verdict?_pushAll_ofPlan hle (eq_false_of_ne_true fun hdone => ?_)
    obtain ⟨ds, hds, hsettles⟩ := (isDone_pushAll_ofPlan hnil (by simp at hle; omega)).1 hdone
    have hwhole := hfirst.2 ds (hds.trans (List.prefix_append cs [b])) hsettles
    have hlt := hds.length_le
    simp [hwhole] at hlt

/-- **Curtailment changes nothing but the number of observations.**  In binary64 arithmetic, and for
fewer than `2 ^ 53` observations, a single sampling test is done exactly if some of its first
observations settle the outcome of its plan `(n, c)`, which `n` of them do; and from the first that do
on, it accepts exactly if the first `n` observations of every completion have more than `c` positive
ones, and rejects exactly if they never have. -/
theorem curtailment (hnonneg : 0 ≤ plan.c) (hlt : plan.c < plan.n) (region : Region Float)
    (hlength : bs.length < 2 ^ 53) :
    (((ofPlan region plan).pushAll bs).isDone = true ↔ ∃ cs, cs <+: bs ∧ plan.Settles cs) ∧
      (plan.n ≤ bs.length → ∃ cs, cs <+: bs ∧ plan.FirstSettles cs) ∧
      ∀ cs, cs <+: bs → plan.FirstSettles cs →
        cs.length ≤ plan.n ∧ ((ofPlan region plan).pushAll bs).isDone = true ∧
          (((ofPlan region plan).pushAll bs).accepts = true ↔ ∀ ds, plan.n ≤ (cs ++ ds).length →
            plan.c < ((cs ++ ds).take plan.n).count true) ∧
          (((ofPlan region plan).pushAll bs).accepts = false ↔ ∀ ds, plan.n ≤ (cs ++ ds).length →
            (((cs ++ ds).take plan.n).count true : Int) ≤ plan.c) := by
  have hnil := Plan.not_settles_nil hnonneg hlt
  refine ⟨isDone_pushAll_ofPlan hnil hlength, fun hle => ?_, fun cs hpart hfirst => ?_⟩
  · exact Plan.exists_firstSettles List.prefix_rfl (Plan.settles_of_le_length hle)
  · have hle := hfirst.length_le
    obtain ⟨hdone, haccepts⟩ :=
      verdict?_eq_some.1 (accepts_pushAll_ofPlan hnil hlength hpart hfirst)
    have houtcome (ds : List Bool) (hds : plan.n ≤ (cs ++ ds).length) :=
      hfirst.1.outcome hle hds
    obtain ⟨completion, hcompletion⟩ := Plan.exists_completion hle
    rw [haccepts, decide_eq_true_iff, decide_eq_false_iff_not]
    refine ⟨hle, hdone, ⟨fun h ds hds => (houtcome ds hds).2 h, fun h => ?_⟩,
      ⟨fun h ds hds => ?_, fun h => ?_⟩⟩
    · exact (houtcome _ hcompletion).1 (h _ hcompletion)
    · rw [← houtcome ds hds] at h
      omega
    · rw [← houtcome _ hcompletion]
      have := h _ hcompletion
      omega

end ThresholdTest

/-! ### Two positive observations out of three -/

namespace TwoOfThree

abbrev distributions : Distributions Float := ⟨fun _ _ _ => 0, fun _ _ => 0⟩

def plan : Plan := ⟨3, 1⟩

def test : ThresholdTest Float := .ofPlan ⟨0.6, 0.4⟩ plan

/-- The first two observations may settle the outcome, either way; then the third does not matter. -/
theorem curtailment_twoOfThree :
    let _ := distributions
    (test.pushAll [true, true, false]).isDone = true ∧
      (test.pushAll [true, true, false]).accepts = true ∧
      (test.pushAll [false, false, true]).isDone = true ∧
      (test.pushAll [false, false, true]).accepts = false ∧
      (test.pushAll [true, false]).isDone = false := by
  intro _
  have hplan : 0 ≤ plan.c ∧ plan.c < plan.n := by decide
  have hlength (bs : List Bool) (h : bs.length ≤ 3) : bs.length < 2 ^ 53 := by omega
  obtain ⟨-, -, haccepts⟩ := ThresholdTest.curtailment hplan.1 hplan.2 ⟨0.6, 0.4⟩
    (hlength [true, true, false] le_rfl)
  obtain ⟨-, -, hrejects⟩ := ThresholdTest.curtailment hplan.1 hplan.2 ⟨0.6, 0.4⟩
    (hlength [false, false, true] le_rfl)
  obtain ⟨hopen, -⟩ := ThresholdTest.curtailment hplan.1 hplan.2 ⟨0.6, 0.4⟩
    (hlength [true, false] (by decide))
  obtain ⟨-, hdone, haccepts, -⟩ := haccepts [true, true] (by decide) (by decide)
  obtain ⟨-, hdone', -, hrejects⟩ := hrejects [false, false] (by decide) (by decide)
  refine ⟨hdone, haccepts.2 fun ds _ => ?_, hdone', hrejects.2 fun ds _ => ?_, ?_⟩
  · simp [plan]
  · have hcount : (ds.take 1).count true ≤ (ds.take 1).length := List.count_le_length
    simp [plan] at hcount ⊢
    omega
  · rw [← Bool.not_eq_true, test, hopen]
    have hunsettled : ∀ cs ∈ [true, false].inits, ¬plan.Settles cs := by decide
    rintro ⟨cs, hpart, hsettles⟩
    exact hunsettled cs ((List.mem_inits _ _).2 hpart) hsettles

end TwoOfThree

end SimCheck
