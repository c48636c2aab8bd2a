/-!
# The random generator

A generator with 256 bits of state in four words: a step answers the rotated sum of two words added
to the first, and mixes the words by shifts, rotations and exclusive or.  The state is seeded from
one word through a linear congruential generator whose high bits select a rotation of the rest.

* `Generator.ofSeed`, `Generator.next`;
* `Generator.uniform` draws a binary64 number from `[0, 1)`, a multiple of `2 ^ -53`.
-/

namespace SimCheck

/-- Rotates a 64-bit word to the left, by at least one and at most 63 places. -/
def rotateLeft64 (x k : UInt64) : UInt64 := (x <<< k) ||| (x >>> (64 - k))

/-- Rotates a 32-bit word to the right, by at most 31 places. -/
def rotateRight32 (x k : UInt32) : UInt32 := (x >>> k) ||| (x <<< ((32 - k) % 32))

/-- The congruential generator that expands a seed. -/
structure SeedStream where
  state : UInt64

namespace SeedStream

/-- The next 32-bit word. -/
def next (s : SeedStream) : UInt32 × SeedStream :=
  let state := s.state * 6364136223846793005 + 11634580027462260723
  let mixed := (((state >>> 18) ^^^ state) >>> 27).toUInt32
  (rotateRight32 mixed (state >>> 59).toUInt32, ⟨state⟩)

/-- The next 64-bit word, its low half first. -/
def next64 (s : SeedStream) : UInt64 × SeedStream :=
  let (low, s) := s.next
  let (high, s) := s.next
  (low.toUInt64 ||| (high.toUInt64 <<< 32), s)

end SeedStream

/-- The state of the generator. -/
structure Generator where
  s0 : UInt64
  s1 : UInt64
  s2 : UInt64
  s3 : UInt64

namespace Generator

/-- The generator with a seed. -/
def ofSeed (seed : UInt64) : Generator :=
  let (s0, s) := SeedStream.next64 ⟨seed⟩
  let (s1, s) := s.next64
  let (s2, s) := s.next64
  let (s3, _) := s.next64
  ⟨s0, s1, s2, s3⟩

/-- The next word. -/
def next (g : Generator) : UInt64 × Generator :=
  let answer := rotateLeft64 (g.s0 + g.s3) 23 + g.s0
  let t := g.s1 <<< 17
  let s2 := g.s2 ^^^ g.s0
  let s3 := g.s3 ^^^ g.s1
  let s1 := g.s1 ^^^ s2
  let s0 := g.s0 ^^^ s3
  (answer, ⟨s0, s1, s2 ^^^ t, rotateLeft64 s3 45⟩)

/-- A number from `[0, 1)` with 53 random bits. -/
def uniform (g : Generator) : Float × Generator :=
  let (word, g) := g.next
  ((word >>> 11).toFloat * (1.0 / 9007199254740992.0), g)

end Generator

end SimCheck
