import SimCheck.Config.Value

/-!
# Writing TOML documents

Settings are written section by section, one entry a line.  Real numbers always have a point, and
absent values are left out.  A string stands between quotation marks, or between apostrophes if it
holds a quotation mark or a backslash.
-/

namespace SimCheck.Config.Toml

/-- A string between the marks that need no escapes. -/
def stringText (s : String) : String :=
  if s.toList.any fun c => c = '"' || c = '\\' then "'" ++ s ++ "'" else "\"" ++ s ++ "\""

/-- A single value; arrays and tables have no text on one line here. -/
def scalarText? : Value → Option String
  | .bool b => some (toString b)
  | .int n => some (toString n)
  | .float x => some (Decimal.pointed x)
  | .string s => some (stringText s)
  | .null | .array _ | .table _ => none

/-- The lines of the entries of a section. -/
def entryLines (t : Table) : List String :=
  t.filterMap fun (key, v) => (scalarText? v).map fun text => key ++ " = " ++ text

/-- A section: its header and its entries. -/
def sectionText (name : String) (t : Table) : String :=
  String.join ((("[" ++ name ++ "]") :: entryLines t).map (· ++ "\n"))

/-- A document of sections, with empty lines between them. -/
def documentText (sections : Table) : String :=
  "\n".intercalate (sections.map fun (name, v) =>
    match v with
    | .table t => sectionText name t
    | _ => "")

end SimCheck.Config.Toml

/-- All settings as a TOML document. -/
def SimCheck.Settings.toToml (s : SimCheck.Settings) : String :=
  SimCheck.Config.Toml.documentText s.toTable
