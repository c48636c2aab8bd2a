import SimCheck.Config.Value

/-!
# TOML documents

A document is built up by headers and entries.  A table may be defined once: by its header, by
dotted keys, or as a value.  Tables that only lead to others may still be defined by their own
header.

* `Section.descend` goes to the table at a path, making tables on the way;
* `Section.define`, `Section.append` start the table of a header;
* `Section.assign` adds an entry;
* `Section.values` is the document as configuration values.
-/

namespace SimCheck.Config.Toml

/-- How a table has come about. -/
inductive Origin
  /-- By a header of its own. -/
  | header
  /-- On the way to another header. -/
  | passage
  /-- By a dotted key. -/
  | dotted
  deriving DecidableEq

mutual

/-- What stands under a key. -/
inductive Node
  | value (v : Value)
  | section (s : Section)
  /-- An array of tables, the latest first. -/
  | sections (latest : Section) (earlier : List Section)

/-- A table. -/
inductive Section
  | mk (origin : Origin) (entries : List (String × Node))

end

namespace Section

/-- How the table has come about. -/
def origin : Section → Origin
  | mk origin _ => origin

/-- The entries of the table. -/
def entries : Section → List (String × Node)
  | mk _ entries => entries

/-- Replaces the node under a key, or adds it. -/
def setEntry (key : String) (n : Node) : List (String × Node) → List (String × Node)
  | [] => [(key, n)]
  | e :: es => if e.1 = key then (key, n) :: es else e :: setEntry key n es

/-- The table with a node under a key. -/
def set (s : Section) (key : String) (n : Node) : Section :=
  mk s.origin (setEntry key n s.entries)

/-- Changes the table at a path.  Tables that are missing are made, with the given origin.  Dotted
keys do not lead into a table that has a header. -/
def descend (origin : Origin) (change : Section → Option Section) :
    (path : List String) → Section → Option Section
  | [], s => change s
  | key :: path, s => do
    match s.entries.lookup key with
    | none =>
      let made ← descend origin change path (mk origin [])
      return s.set key (.section made)
    | some (.section inner) =>
      if origin = .dotted ∧ inner.origin = .header then none
      let inner ← descend origin change path inner
      return s.set key (.section inner)
    | some (.sections latest earlier) =>
      let latest ← descend origin change path latest
      return s.set key (.sections latest earlier)
    | some (.value _) => none

/-- Starts the table of a header. -/
def define (key : String) (s : Section) : Option Section :=
  match s.entries.lookup key with
  | none => some (s.set key (.section (mk .header [])))
  | some (.section (mk .passage entries)) => some (s.set key (.section (mk .header entries)))
  | some _ => none

/-- Starts the next table of an array. -/
def append (key : String) (s : Section) : Option Section :=
  match s.entries.lookup key with
  | none => some (s.set key (.sections (mk .header []) []))
  | some (.sections latest earlier) =>
    some (s.set key (.sections (mk .header []) (latest :: earlier)))
  | some _ => none

/-- Adds a value under a new key. -/
def addValue (key : String) (v : Value) (s : Section) : Option Section :=
  if (s.entries.lookup key).isSome then none else some (s.set key (.value v))

/-- Adds a value at a dotted key. -/
def assign (path : List String) (v : Value) (s : Section) : Option Section :=
  match path.getLast? with
  | none => none
  | some key =>
    descend .dotted
      (fun t =>
        -- the last table was made by dotted keys if and only if the key has dots
        if 1 < path.length ∧ t.origin ≠ .dotted then none else addValue key v t)
      path.dropLast s

mutual

/-- The table as configuration values. -/
def values : Section → Table
  | mk _ entries => entryValues entries

/-- Entries as configuration values. -/
def entryValues : List (String × Node) → Table
  | [] => []
  | e :: es => entryValue e :: entryValues es

/-- An entry as a configuration value. -/
def entryValue : String × Node → String × Value
  | (key, n) => (key, nodeValue n)

/-- A node as a configuration value. -/
def nodeValue : Node → Value
  | .value v => v
  | .section s => .table s.values
  | .sections latest earlier => .array (sectionValues earlier ++ [Value.table latest.values])

/-- Tables as configuration values, the earliest first. -/
def sectionValues : List Section → List Value
  | [] => []
  | s :: ss => sectionValues ss ++ [Value.table s.values]

end

end Section

end SimCheck.Config.Toml
