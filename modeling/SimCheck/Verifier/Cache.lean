import SimCheck.Identifier
import SimCheck.Sample
import SimCheck.State

/-!
# The sample cache

Samples of threshold tests by the number of the path property and the values they start from.  The
cache is a list of entries with distinct keys, so that it is determined by its entries and their
order of arrival: storing the sample that is already there changes nothing.

* `SampleCache.get?`, `SampleCache.insert`, `SampleCache.release`.
-/

namespace SimCheck

/-- What a sample is stored under. -/
structure CacheKey where
  property : PropertyId
  values : Valuation
  deriving DecidableEq

/-- Samples by key, in the order in which the keys arrived. -/
structure SampleCache (R : Type) where
  entries : List (CacheKey × Sample R)

namespace SampleCache

variable {R : Type}

instance : EmptyCollection (SampleCache R) := ⟨⟨[]⟩⟩

/-- The number of entries. -/
def size (c : SampleCache R) : Nat := c.entries.length

/-- The sample under a key. -/
def get? (c : SampleCache R) (k : CacheKey) : Option (Sample R) := c.entries.lookup k

/-- Replaces the value under a key in a list of entries, or appends it. -/
def insertEntry (k : CacheKey) (s : Sample R) :
    List (CacheKey × Sample R) → List (CacheKey × Sample R)
  | [] => [(k, s)]
  | e :: es => if e.1 = k then (k, s) :: es else e :: insertEntry k s es

/-- Stores a sample under a key. -/
def insert (c : SampleCache R) (k : CacheKey) (s : Sample R) : SampleCache R :=
  ⟨insertEntry k s c.entries⟩

/-- Drops the samples of a path property. -/
def release (c : SampleCache R) (id : PropertyId) : SampleCache R :=
  ⟨c.entries.filter fun e => e.1.property ≠ id⟩

theorem lookup_insertEntry (k j : CacheKey) (s : Sample R) (es : List (CacheKey × Sample R)) :
    (insertEntry k s es).lookup j = if j = k then some s else es.lookup j := by
  induction es with
  | nil => grind [insertEntry]
  | cons e es ih => grind [insertEntry]

/-- Looking a key up after an insertion. -/
theorem get?_insert (c : SampleCache R) (k j : CacheKey) (s : Sample R) :
    (c.insert k s).get? j = if j = k then some s else c.get? j :=
  lookup_insertEntry k j s c.entries

theorem insertEntry_of_lookup {k : CacheKey} {s : Sample R} {es : List (CacheKey × Sample R)}
    (h : es.lookup k = some s) : insertEntry k s es = es := by
  induction es with
  | nil => cases h
  | cons e es ih => grind [insertEntry]

/-- Storing the sample that is already there changes nothing. -/
theorem insert_of_get? {c : SampleCache R} {k : CacheKey} {s : Sample R} (h : c.get? k = some s) :
    c.insert k s = c :=
  congrArg mk (insertEntry_of_lookup h)

end SampleCache

end SimCheck
