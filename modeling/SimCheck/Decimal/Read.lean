import SimCheck.Decimal.Text

/-!
# Reading numbers

Decimal numerals as they stand in configuration files, environment variables and messages.

* `Decimal.natural?` reads one or more digits;
* `Decimal.integer?` allows a sign in front;
* `Decimal.magnitude?` reads digits with an optional fraction and an optional exponent; digits may
  be missing on one side of the point;
* `Decimal.number?` reads a signed magnitude, an infinity or `nan` as a binary64 number.
-/

namespace SimCheck.Decimal

/-- The value of a list of decimal digits. -/
def value (cs : List Char) : Nat :=
  cs.foldl (fun n c => 10 * n + (c.toNat - '0'.toNat)) 0

/-- Reads a nonempty list of digits and nothing else. -/
def natural? (cs : List Char) : Option Nat :=
  if cs.isEmpty || !cs.all Char.isDigit then none else some (value cs)

/-- Splits off a leading sign; the Boolean is true for a minus. -/
def splitSign : List Char → Bool × List Char
  | '-' :: cs => (true, cs)
  | '+' :: cs => (false, cs)
  | cs => (false, cs)

/-- Reads digits after an optional sign. -/
def integer? (cs : List Char) : Option Int :=
  let (negative, rest) := splitSign cs
  (natural? rest).map fun n => if negative then -(n : Int) else n

/-- Reads the exponent that may end a numeral: nothing, or `e` and an integer. -/
def exponent? : List Char → Option Int
  | [] => some 0
  | c :: cs => if c = 'e' ∨ c = 'E' then integer? cs else none

/-- Reads a numeral with an optional fraction and an optional exponent. -/
def magnitude? (cs : List Char) : Option Digits :=
  let whole := cs.takeWhile Char.isDigit
  let rest := cs.dropWhile Char.isDigit
  let (fraction, rest) := match rest with
    | '.' :: more => (more.takeWhile Char.isDigit, more.dropWhile Char.isDigit)
    | other => ([], other)
  if whole.isEmpty && fraction.isEmpty then none
  else (exponent? rest).map fun e => ⟨value (whole ++ fraction), e - fraction.length⟩

/-- Reads a signed numeral, an infinity or `nan`, whose names may be in any case. -/
def number? (s : String) : Option Float :=
  let (negative, rest) := splitSign s.toList
  let word := String.ofList (rest.map Char.toLower)
  if word = "inf" ∨ word = "infinity" then
    some (if negative then -(1.0 / 0.0) else 1.0 / 0.0)
  else if word = "nan" then some (if negative then -(0.0 / 0.0) else 0.0 / 0.0)
  else (magnitude? rest).map (Digits.toFloat negative)

end SimCheck.Decimal
