/-!
# Readers

A `Reader` takes a value off the front of a text or fails.  `p <|> q` reads with `q` from the same
place when `p` fails.
-/

namespace SimCheck.Text

/-- The value of a hexadecimal digit. -/
def hexDigit? (c : Char) : Option Nat :=
  if c.isDigit then some (c.toNat - '0'.toNat)
  else if 'a' ≤ c ∧ c ≤ 'f' then some (c.toNat - 'a'.toNat + 10)
  else if 'A' ≤ c ∧ c ≤ 'F' then some (c.toNat - 'A'.toNat + 10)
  else none

/-- Takes a value off the front of a text. -/
abbrev Reader (α : Type) := StateT (List Char) Option α

namespace Reader

/-- The next character, which stays where it is. -/
def peek? : Reader (Option Char) := return (← get).head?

/-- Takes one character. -/
def next : Reader Char
  | [] => none
  | c :: cs => some (c, cs)

/-- Takes a given character. -/
def char (c : Char) : Reader Unit := do
  if (← next) ≠ c then failure

/-- Takes given characters. -/
def word (s : String) : Reader Unit := s.toList.forM char

/-- Takes characters as long as they satisfy a predicate. -/
def takeWhile (p : Char → Bool) : Reader (List Char) := fun cs =>
  some (cs.takeWhile p, cs.dropWhile p)

/-- Takes at least one character that satisfies a predicate. -/
def takeWhile1 (p : Char → Bool) : Reader (List Char) := do
  let cs ← takeWhile p
  if cs.isEmpty then failure else return cs

/-- Takes a value if there is one. -/
def optional? {α : Type} (r : Reader α) : Reader (Option α) := (some <$> r) <|> pure none

/-- Reads a whole text. -/
def run? {α : Type} (r : Reader α) (s : String) : Option α :=
  match r s.toList with
  | some (a, []) => some a
  | _ => none

end Reader

end SimCheck.Text
