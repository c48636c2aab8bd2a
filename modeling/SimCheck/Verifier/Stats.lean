import SimCheck.Decimal.Text
import SimCheck.Sample
import SimCheck.Scalar.Binary64

/-!
# Statistics of a verification

What one top-level call reports about its work: the sizes of the samples, the lengths of the paths,
the sizes of the sample cache, and the number of paths that were cut off.
-/

namespace SimCheck

/-- The statistics of one top-level call. -/
structure Stats (R : Type) where
  /-- The number of observations of each top-level test. -/
  sampleSize : Sample R
  /-- The number of transitions of each path. -/
  pathLength : Sample R
  /-- The size of the cache after each store. -/
  cacheSize : Sample R
  /-- The number of paths cut off without an outcome. -/
  truncatedPaths : Nat

instance {R : Type} [Scalar R] : EmptyCollection (Stats R) := ⟨⟨∅, ∅, ∅, 0⟩⟩

/-- The one-line summary. -/
def Stats.text (s : Stats Float) : String :=
  s!"samples={Decimal.text s.sampleSize.sum} (mean {Decimal.fixed 1 s.sampleSize.mean}) "
    ++ s!"paths={s.pathLength.count} (mean length {Decimal.fixed 1 s.pathLength.mean}, "
    ++ s!"max {Decimal.text (s.pathLength.max.getD 0)}) "
    ++ s!"cache={Decimal.text (s.cacheSize.max.getD 0)} truncated={s.truncatedPaths}"

end SimCheck
