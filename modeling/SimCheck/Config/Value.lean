import SimCheck.Config.Settings

/-!
# Configuration values

Settings come from files, variables and messages as trees of `Config.Value`.

* `Table.get?` looks a key up; of two entries with one key the later one counts;
* `Settings.toTable` writes all settings as a tree, sections and keys in a fixed order.
-/

namespace SimCheck.Config

/-- A configuration value. -/
inductive Value
  | null
  | bool (b : Bool)
  | int (n : Int)
  | float (x : Float)
  | string (s : String)
  | array (items : List Value)
  | table (entries : List (String × Value))
  deriving Inhabited

/-- Entries of a table. -/
abbrev Table := List (String × Value)

/-- The value under a key. -/
def Table.get? (t : Table) (key : String) : Option Value := t.reverse.lookup key

/-- Whether a number is a signed 64-bit word. -/
def isWord (n : Int) : Bool :=
  decide (Int64.minValue.toInt ≤ n) && decide (n ≤ Int64.maxValue.toInt)

/-- A value that may be missing. -/
def Value.ofOption {α : Type} (f : α → Value) : Option α → Value
  | none => .null
  | some a => f a

end SimCheck.Config

namespace SimCheck

open Config (Table Value)

/-- The parameters as entries. -/
def Params.toTable (p : Params Float) : Table := [
  ("alpha", .float p.alpha),
  ("beta", .float p.beta),
  ("delta", .float p.delta),
  ("epsilon", .float p.epsilon),
  ("nested_error", .ofOption .float p.nestedError),
  ("fixed_sample_size", .int p.fixedSampleSize),
  ("max_path_length", .ofOption (fun n => .int n) p.maxPathLength),
  ("memoization", .bool p.memoization),
  ("threshold_algorithm", .string p.thresholdAlgorithm.name),
  ("estimation_algorithm", .string p.estimationAlgorithm.name)]

/-- The settings of a coordinator as entries. -/
def SamplingSettings.toTable (s : SamplingSettings) : Table := [
  ("bind_address", .string s.bindAddress),
  ("local_sampling", .bool s.localSampling),
  ("idle_timeout_ms", .int s.idleTimeoutMs),
  ("max_clients", .int s.maxClients),
  ("read_buffer_size", .int s.readBufferSize)]

/-- All settings as entries. -/
def Settings.toTable (s : Settings) : Table :=
  [("checking", .table s.checking.toTable), ("sampling", .table s.sampling.toTable)]

end SimCheck
