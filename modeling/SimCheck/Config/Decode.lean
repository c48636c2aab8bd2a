import SimCheck.Config.Value

/-!
# Settings from values

A record is read from a table by its keys, unknown ones being ignored, or from an array in the order
of its fields.  A missing field keeps its default, a field of a wrong kind is refused.  What counts
as a number, a Boolean or a text depends on where the value comes from.

* `Coercions` are the readings of the single values;
* `Coercions.exact` takes every kind for itself, integers also for real numbers;
* `Coercions.loose` converts between numbers, Booleans and texts;
* `Settings.ofValue?`, `Params.ofValue?`, `SamplingSettings.ofValue?` read records.
-/

namespace SimCheck.Config

/-- How single values are read. -/
structure Coercions where
  float? : Value → Option Float
  natural? : Value → Option Nat
  bool? : Value → Option Bool
  string? : Value → Option String
  /-- The name of an algorithm. -/
  name? : Value → Option String
  /-- Whether an array may be longer than the record has fields. -/
  allowsExcess : Bool

/-- The largest unsigned 64-bit word. -/
def maxWord : Nat := UInt64.size - 1

namespace Exactly

/-- A real number. -/
def float? : Value → Option Float
  | .float x => some x
  | .int n => some (Binary64.ofInt n)
  | _ => none

/-- An unsigned word. -/
def natural? : Value → Option Nat
  | .int n => if 0 ≤ n ∧ n ≤ maxWord then some n.toNat else none
  | _ => none

/-- A Boolean. -/
def bool? : Value → Option Bool
  | .bool b => some b
  | _ => none

/-- A text. -/
def string? : Value → Option String
  | .string s => some s
  | _ => none

/-- A name, alone or as the only key of a table with an empty value. -/
def name? : Value → Option String
  | .string s => some s
  | .table [(s, .null)] => some s
  | _ => none

end Exactly

/-- Every value is of the kind it is. -/
def Coercions.exact : Coercions where
  float? := Exactly.float?
  natural? := Exactly.natural?
  bool? := Exactly.bool?
  string? := Exactly.string?
  name? := Exactly.name?
  allowsExcess := false

namespace Loosely

/-- The Boolean that a word stands for. -/
def ofWord? (s : String) : Option Bool :=
  let w := s.map Char.toLower
  if w = "true" ∨ w = "on" ∨ w = "yes" then some true
  else if w = "false" ∨ w = "off" ∨ w = "no" then some false
  else none

/-- The unsigned word nearest to a real number, halves away from zero. -/
def nearestWord (x : Float) : Nat :=
  if x ≤ 0.0 then 0
  else
    match Decimal.Exact.ofFloat x with
    | .nan => 0
    | .infinite _ => maxWord
    | .finite _ m e => min ((Decimal.Ratio.ofBinary m e).round .up) maxWord

/-- A real number. -/
def float? : Value → Option Float
  | .float x => some x
  | .int n => some (Binary64.ofInt n)
  | .bool b => some (Scalar.ofBool b)
  | .string s => ((ofWord? s).map Scalar.ofBool).or (Decimal.number? s)
  | _ => none

/-- An unsigned word written in decimal, a plus in front allowed. -/
def wordOfText? (s : String) : Option Nat :=
  let digits := match s.toList with
    | '+' :: cs => cs
    | cs => cs
  (Decimal.natural? digits).filter (· ≤ maxWord)

/-- An unsigned word. -/
def natural? : Value → Option Nat
  | .int n => if 0 ≤ n then some n.toNat else none
  | .bool b => some b.toNat
  | .float x => some (nearestWord x)
  | .string s => ((ofWord? s).map Bool.toNat).or (wordOfText? s)
  | _ => none

/-- A Boolean. -/
def bool? : Value → Option Bool
  | .bool b => some b
  | .int n => some (n != 0)
  | .float x => some (x != 0.0)
  | .string s => if s = "1" then some true else if s = "0" then some false else ofWord? s
  | _ => none

/-- A text. -/
def string? : Value → Option String
  | .string s => some s
  | .bool b => some (toString b)
  | .int n => some (toString n)
  | .float x => some (Decimal.text x)
  | _ => none

end Loosely

/-- Numbers, Booleans and texts are converted. -/
def Coercions.loose : Coercions where
  float? := Loosely.float?
  natural? := Loosely.natural?
  bool? := Loosely.bool?
  string? := Loosely.string?
  name? := Exactly.string?
  allowsExcess := true

/-- The fields of a record by their keys. -/
abbrev Fields := String → Option Value

/-- The fields of a record with these keys. -/
def Coercions.fields? (c : Coercions) (keys : List String) : Value → Option Fields
  | .table entries => some (Table.get? entries)
  | .array items =>
    if c.allowsExcess || decide (items.length ≤ keys.length) then
      some fun key => (keys.zip items).lookup key
    else none
  | _ => none

/-- Reads a field, or takes its default if it is missing. -/
def Fields.read {α : Type} (f : Fields) (key : String) (read? : Value → Option α) (default : α) :
    Option α :=
  match f key with
  | none => some default
  | some v => read? v

/-- Reads a field that may be empty. -/
def nullable? {α : Type} (read? : Value → Option α) : Value → Option (Option α)
  | .null => some none
  | v => (read? v).map some

end SimCheck.Config

namespace SimCheck

open Config

/-- Reads parameters. -/
def Params.ofValue? (c : Coercions) (v : Value) : Option (Params Float) := do
  let d : Params Float := .default
  let f ← c.fields? (d.toTable.map (·.1)) v
  return {
    alpha := ← f.read "alpha" c.float? d.alpha
    beta := ← f.read "beta" c.float? d.beta
    delta := ← f.read "delta" c.float? d.delta
    epsilon := ← f.read "epsilon" c.float? d.epsilon
    nestedError := ← f.read "nested_error" (nullable? c.float?) d.nestedError
    fixedSampleSize := ← f.read "fixed_sample_size" c.natural? d.fixedSampleSize
    maxPathLength := ← f.read "max_path_length" (nullable? c.natural?) d.maxPathLength
    memoization := ← f.read "memoization" c.bool? d.memoization
    thresholdAlgorithm :=
      ← f.read "threshold_algorithm" (c.name? · >>= ThresholdAlgorithm.ofName?)
        d.thresholdAlgorithm
    estimationAlgorithm :=
      ← f.read "estimation_algorithm" (c.name? · >>= EstimationAlgorithm.ofName?)
        d.estimationAlgorithm }

/-- Reads the settings of a coordinator. -/
def SamplingSettings.ofValue? (c : Coercions) (v : Value) : Option SamplingSettings := do
  let d := SamplingSettings.default
  let f ← c.fields? (d.toTable.map (·.1)) v
  return {
    bindAddress := ← f.read "bind_address" c.string? d.bindAddress
    localSampling := ← f.read "local_sampling" c.bool? d.localSampling
    idleTimeoutMs := ← f.read "idle_timeout_ms" c.natural? d.idleTimeoutMs
    maxClients := ← f.read "max_clients" c.natural? d.maxClients
    readBufferSize := ← f.read "read_buffer_size" c.natural? d.readBufferSize }

/-- Reads all settings. -/
def Settings.ofValue? (c : Coercions) (v : Value) : Option Settings := do
  let d := Settings.default
  let f ← c.fields? (d.toTable.map (·.1)) v
  return {
    checking := ← f.read "checking" (Params.ofValue? c) d.checking
    sampling := ← f.read "sampling" (SamplingSettings.ofValue? c) d.sampling }

end SimCheck
