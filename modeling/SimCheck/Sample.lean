import SimCheck.Scalar.Basic

/-!
# Samples

A `Sample` summarises a sequence of observations in one pass: their number, sum, mean, the sum
`m2` of squared deviations from the mean, and the extremes.

* `Sample.push` folds one observation in; `Sample.ofList` starts from `∅`;
* `Sample.variance` and `Sample.unbiasedVariance` divide `m2` by `n` and by `n - 1`.

An empty sample reports zero for mean and variances.
-/

namespace SimCheck

/-- The running summary of a sequence of observations. -/
structure Sample (R : Type) where
  count : Nat
  sum : R
  mean : R
  /-- The sum of squared deviations from the mean. -/
  m2 : R
  min : Option R
  max : Option R

namespace Sample

variable {R : Type} [Scalar R]

instance : EmptyCollection (Sample R) := ⟨⟨0, 0, 0, 0, none, none⟩⟩

/-- Folds one observation in.  The deviations from the old and from the new mean have the product
by which `m2` grows. -/
def push (s : Sample R) (x : R) : Sample R :=
  let count := s.count + 1
  let deviation := x - s.mean
  let mean := s.mean + deviation / (count : R)
  { count
    sum := s.sum + x
    mean
    m2 := s.m2 + deviation * (x - mean)
    min := some (s.min.elim x fun m => Scalar.least m x)
    max := some (s.max.elim x fun m => Scalar.greatest m x) }

/-- Folds a Boolean observation in, as `0` or `1`. -/
def pushBool (s : Sample R) (b : Bool) : Sample R := s.push (Scalar.ofBool b)

/-- The summary of a list of observations. -/
def ofList (xs : List R) : Sample R := xs.foldl push ∅

/-- The summary of a list of Boolean observations. -/
def ofBools (bs : List Bool) : Sample R := bs.foldl pushBool ∅

/-- Whether nothing was observed. -/
def isEmpty (s : Sample R) : Bool := s.count == 0

/-- The population variance `m2 / n`. -/
def variance (s : Sample R) : R :=
  if s.count = 0 then 0 else s.m2 / (s.count : R)

/-- The unbiased variance `m2 / (n - 1)`. -/
def unbiasedVariance (s : Sample R) : R :=
  if s.count < 2 then 0 else s.m2 / ((s.count - 1 : Nat) : R)

/-- The square root of the population variance. -/
def deviation (s : Sample R) : R := Scalar.sqrt s.variance

/-- The square root of the unbiased variance. -/
def unbiasedDeviation (s : Sample R) : R := Scalar.sqrt s.unbiasedVariance

@[simp] theorem count_empty : (∅ : Sample R).count = 0 := rfl

@[simp] theorem count_push (s : Sample R) (x : R) : (s.push x).count = s.count + 1 := rfl

@[simp] theorem count_pushBool (s : Sample R) (b : Bool) : (s.pushBool b).count = s.count + 1 := rfl

@[simp] theorem sum_push (s : Sample R) (x : R) : (s.push x).sum = s.sum + x := rfl

theorem count_ofBools (bs : List Bool) : (ofBools bs : Sample R).count = bs.length := by
  have hfold (s : Sample R) : (bs.foldl pushBool s).count = s.count + bs.length := by
    induction bs generalizing s with
    | nil => rfl
    | cons b bs ih => rw [List.foldl_cons, ih, count_pushBool, List.length_cons]; omega
  rw [ofBools, hfold, count_empty, Nat.zero_add]

theorem ofBools_append (bs cs : List Bool) :
    (ofBools (bs ++ cs) : Sample R) = cs.foldl pushBool (ofBools bs) :=
  List.foldl_append

end Sample

end SimCheck
