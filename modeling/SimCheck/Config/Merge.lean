import SimCheck.Config.Value

/-!
# Merging configuration values

Layers are laid over one another, the later ones on top.  Tables merge key by key, every other value
replaces what lies below it.  The top-level keys of a layer are paths, with dots between the parts;
a key that is no path stands for itself.

* `merge` lays a value over another;
* `put` lays a value over what stands at a path;
* `overlay` lays a layer over a tree.
-/

namespace SimCheck.Config

/-- Replaces the value under a key of a table, or adds it. -/
def Table.insert (t : Table) (key : String) (v : Value) : Table :=
  match t with
  | [] => [(key, v)]
  | e :: es => if e.1 = key then (key, v) :: es else e :: Table.insert es key v

/-- The entries of a value; one that is no table has none. -/
def Value.entries : Value → Table
  | .table t => t
  | _ => []

mutual

/-- Lays a value over another.  An empty table leaves what lies below it. -/
def merge (below : Option Value) : Value → Value
  | .table es => mergeEntries es (below.getD (.table []))
  | v => v

/-- Lays entries over a value, which becomes a table if there are any. -/
def mergeEntries : List (String × Value) → Value → Value
  | [], below => below
  | e :: es, below => mergeEntries es (mergeEntry e below.entries)

/-- Lays an entry over a table. -/
def mergeEntry : String × Value → Table → Value
  | (key, v), t => .table (t.insert key (merge (t.get? key) v))

end

/-- Lays a value over what stands at a path from the root; values on the way that are no tables are
replaced by tables. -/
def put (v : Value) : (path : List String) → (root : Value) → Value
  | [], root => merge (some root) v
  | [key], root => mergeEntry (key, v) root.entries
  | key :: path, root =>
    let t := root.entries
    .table (t.insert key (put v path ((t.get? key).getD (.table []))))

/-- Whether a character may stand in a part of a path. -/
def isPathChar (c : Char) : Bool := c.isAlphanum || c == '_' || c == '-'

/-- The parts of a path; a key that has an empty or odd part is the path to itself. -/
def pathOf (key : String) : List String :=
  let parts := key.splitOn "."
  if parts.all fun p => !p.isEmpty && p.all isPathChar then parts else [key]

/-- Lays a layer over a tree. -/
def overlay (root : Value) (layer : Table) : Value :=
  layer.foldl (fun root e => put e.2 (pathOf e.1) root) root

end SimCheck.Config
