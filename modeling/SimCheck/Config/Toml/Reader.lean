import SimCheck.Config.Toml.Document
import SimCheck.Config.Toml.Scalar

/-!
# Reading TOML documents

* `value` reads a value: a string, a number, a Boolean, an array or an inline table;
* `line` reads a header, an entry or nothing;
* `parse?` reads a document.
-/

namespace SimCheck.Config.Toml

open Text (Reader)
open Text.Reader (char optional? peek? takeWhile word)

/-- A comment, up to the end of its line. -/
def comment : Reader Unit := do
  char '#'
  let _ ← takeWhile isInline

/-- Blank space, line ends and comments between the items of an array. -/
def gaps : (fuel : Nat) → Reader Unit
  | 0 => failure
  | fuel + 1 => do
    blanks
    match ← optional? (lineEnd <|> comment) with
    | some () => gaps fuel
    | none => return ()

/-- Adds the entry of an inline table. -/
def addInline (s : Section) (e : List String × Value) : Option Section := s.assign e.1 e.2

mutual

/-- A value that is nested at most `fuel` deep and wide. -/
def value : (fuel : Nat) → Reader Value
  | 0 => failure
  | fuel + 1 => do
    match ← peek? with
    | some '"' | some '\'' => return .string (← string)
    | some '[' =>
      char '['
      return .array (← items fuel)
    | some '{' =>
      char '{'
      blanks
      match ← peek? with
      | some '}' => char '}'; return .table []
      | _ =>
        let es ← pairs fuel
        let s ← (es.foldlM addInline (.mk .header []) : Option Section)
        return .table s.values
    | _ => plain

/-- The items of an array up to its end. -/
def items : (fuel : Nat) → Reader (List Value)
  | 0 => failure
  | fuel + 1 => do
    gaps (fuel + 1)
    match ← peek? with
    | some ']' => char ']'; return []
    | _ =>
      let v ← value fuel
      gaps (fuel + 1)
      match ← peek? with
      | some ',' => char ','; return v :: (← items fuel)
      | _ => char ']'; return [v]

/-- The entries of an inline table up to its end. -/
def pairs : (fuel : Nat) → Reader (List (List String × Value))
  | 0 => failure
  | fuel + 1 => do
    blanks
    let path ← key
    blanks
    char '='
    blanks
    let v ← value fuel
    blanks
    match ← peek? with
    | some ',' => char ','; return (path, v) :: (← pairs fuel)
    | _ => char '}'; return [(path, v)]

end

/-- What a line holds. -/
inductive Line
  | blank
  | header (path : List String)
  /-- The header of the next table of an array. -/
  | element (path : List String)
  | entry (path : List String) (v : Value)

/-- A key between blanks. -/
def spacedKey : Reader (List String) := do
  blanks
  let path ← key
  blanks
  return path

/-- What stands at the start of a line. -/
def lineStart : Reader Line := do
  blanks
  match ← peek? with
  | none | some '#' | some '\n' | some '\r' => return .blank
  | some '[' =>
    match ← optional? (word "[[") with
    | some () =>
      let path ← spacedKey
      word "]]"
      return .element path
    | none =>
      char '['
      let path ← spacedKey
      char ']'
      return .header path
  | _ =>
    let path ← key
    blanks
    char '='
    blanks
    return .entry path (← value (2 * (← get).length + 2))

/-- The lines of a document; a comment may end each of them. -/
def lines : (fuel : Nat) → Reader (List Line)
  | 0 => failure
  | fuel + 1 => do
    let first ← lineStart
    blanks
    let _ ← optional? comment
    match ← peek? with
    | none => return [first]
    | some _ =>
      lineEnd
      return first :: (← lines fuel)

/-- A document under construction: its root, and the path of the table that entries go to. -/
structure Draft where
  root : Section
  current : List String

namespace Draft

/-- Starts a table with a header. -/
def start (d : Draft) (path : List String) (how : String → Section → Option Section) :
    Option Draft := do
  let name ← path.getLast?
  let root ← d.root.descend .passage (how name) path.dropLast
  return ⟨root, path⟩

/-- Adds a line. -/
def add (d : Draft) : Line → Option Draft
  | .blank => some d
  | .header path => d.start path Section.define
  | .element path => d.start path Section.append
  | .entry path v => do
    let root ← d.root.descend .passage (Section.assign path v) d.current
    return ⟨root, d.current⟩

end Draft

/-- Reads a document. -/
def parse? (text : String) : Option Table := do
  let chars := match text.toList with
    | '\ufeff' :: cs => cs
    | cs => cs
  let (ls, rest) ← lines (chars.length + 1) chars
  if !rest.isEmpty then none
  let d ← ls.foldlM Draft.add ⟨.mk .header [], []⟩
  return d.root.values

end SimCheck.Config.Toml
