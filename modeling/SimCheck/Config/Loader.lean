import SimCheck.Config.Decode
import SimCheck.Config.Environment
import SimCheck.Config.Toml.Reader

/-!
# Loading settings

Settings are gathered from layers, later ones on top: the defaults, the file of the user, the file
of the project, the local file of the project, and environment variables.  The result must be valid.

* `Sources` are the texts of the files and the variables;
* `Sources.load` gathers the settings, `Sources.loadOrDefault` takes the defaults if that fails.
-/

namespace SimCheck.Config

/-- The files settings are read from, in the order of their layers. -/
inductive FileKind
  | user
  | project
  | local
  deriving DecidableEq

/-- Where settings come from. -/
structure Sources where
  userFile : Option String
  projectFile : Option String
  localFile : Option String
  /-- Environment variables, names and texts. -/
  environment : List (String × String)
  /-- What the names of variables start with. -/
  variableStart : String
  /-- Whether the file of the user is left out. -/
  withoutUser : Bool

/-- Why no settings were loaded. -/
inductive LoadError
  /-- A file is no TOML document. -/
  | malformed
  /-- A setting is of a wrong kind. -/
  | mismatch
  | invalid (e : SettingsError)

namespace Sources

/-- The files that are there. -/
def files (s : Sources) : List (FileKind × String) :=
  let user := if s.withoutUser then none else s.userFile
  [(FileKind.user, user), (.project, s.projectFile), (.local, s.localFile)].filterMap
    fun (kind, text) => text.map (kind, ·)

/-- The layers above the defaults. -/
def layers (s : Sources) : Option (List Table) := do
  let documents ← s.files.mapM fun f => Toml.parse? f.2
  return documents ++ [environmentLayer s.variableStart s.environment]

/-- Gathers the settings of all layers. -/
def load (s : Sources) : Except LoadError Settings :=
  match s.layers with
  | none => .error .malformed
  | some layers =>
    let root := layers.foldl overlay (.table Settings.default.toTable)
    match Settings.ofValue? .loose root with
    | none => .error .mismatch
    | some settings => settings.validate.mapError .invalid |>.map fun _ => settings

/-- The settings of all layers, or the defaults. -/
def loadOrDefault (s : Sources) : Settings :=
  match s.load with
  | .ok settings => settings
  | .error _ => .default

end Sources

end SimCheck.Config
