import SimCheck.Config.Merge
import SimCheck.Decimal.Read

/-!
# Settings from environment variables

A variable counts if its name starts with a given word and an underscore; the rest of the name is
the path of a setting, with two underscores between the parts.  Case does not matter.  Names are
taken to be in ASCII.
-/

namespace SimCheck.Config

/-- A path with dots for double underscores. -/
def dotted : List Char → List Char
  | '_' :: '_' :: cs => '.' :: dotted cs
  | c :: cs => c :: dotted cs
  | [] => []

/-- What is left of a text after its first part, case aside. -/
def stripStart? (start text : List Char) : Option (List Char) :=
  let text := text.map Char.toLower
  if start.isPrefixOf text then some (text.drop start.length) else none

/-- The value that a variable stands for: a Boolean, a 64-bit integer, a real number or a text. -/
def valueOfText (s : String) : Value :=
  let word := s.map Char.toLower
  if word = "true" then .bool true
  else if word = "false" then .bool false
  else
    let integer := (Decimal.integer? s.toList).filter isWord
    match integer with
    | some n => .int n
    | none =>
      match Decimal.number? s with
      | some x => .float x
      | none => .string s

/-- The layer of the variables whose names start with a word. -/
def environmentLayer (start : String) (environment : List (String × String)) : Table :=
  let start := (start ++ "_").toList.map Char.toLower
  environment.filterMap fun (name, text) =>
    (stripStart? start name.toList).map fun rest => (String.ofList (dotted rest), valueOfText text)

end SimCheck.Config
