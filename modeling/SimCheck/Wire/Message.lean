import SimCheck.Identifier
import SimCheck.Wire.Block

/-!
# Messages

* `CoordinatorMessage` is what a coordinator sends: the number of a worker, the start of a run with
  its property, the end of the run;
* `WorkerMessage` is what a worker sends: an observation of a property;
* `Message` is the class of the two; a block of the other direction, or with an unknown tag, is an
  error.
-/

namespace SimCheck.Wire

/-- The kinds of block. -/
inductive Kind
  | register
  | start
  | stop
  | sample
  deriving DecidableEq

namespace Kind

/-- The tag of a kind. -/
def tag : Kind → UInt8
  | register => 1
  | start => 2
  | stop => 3
  | sample => 4

/-- The kind with a tag. -/
def ofTag? (tag : UInt8) : Option Kind :=
  [register, start, stop, sample].find? fun k => k.tag = tag

theorem ofTag?_tag (k : Kind) : ofTag? k.tag = some k := by cases k <;> decide

/-- The name of a kind. -/
def name : Kind → String
  | register => "REGISTER"
  | start => "START"
  | stop => "STOP"
  | sample => "SAMPLE"

end Kind

/-- The ends of a connection. -/
inductive Endpoint
  | coordinator
  | worker
  deriving DecidableEq

/-- Why a block is no message for the end that reads it. -/
inductive Error
  | unknownTag (tag : UInt8)
  /-- A block of the other direction. -/
  | unexpected (kind : Kind) (reader : Endpoint)
  deriving DecidableEq

/-- What an end of a connection expects. -/
def Endpoint.expected : Endpoint → String
  | coordinator => "SAMPLE"
  | worker => "coordinator record"

/-- A byte as two hexadecimal digits. -/
def hexByte (b : UInt8) : String :=
  String.ofList [Nat.digitChar (b.toNat / 16), Nat.digitChar (b.toNat % 16)]

/-- The wording of an error. -/
def Error.message : Error → String
  | unknownTag tag => "unknown record tag: 0x" ++ hexByte tag
  | unexpected kind reader =>
    "unexpected " ++ kind.name ++ " record, expected " ++ reader.expected

/-- What a coordinator sends. -/
inductive CoordinatorMessage
  /-- The number of the worker. -/
  | register (id : ClientId)
  /-- A run of a property begins. -/
  | start (property : PropertyId)
  /-- The run has ended. -/
  | stop
  deriving DecidableEq

/-- What a worker sends. -/
inductive WorkerMessage
  /-- An observation of a property; zero is false. -/
  | sample (property : PropertyId) (value : Int64)
  deriving DecidableEq

/-- A Boolean observation. -/
def WorkerMessage.observation (property : PropertyId) (holds : Bool) : WorkerMessage :=
  .sample property (if holds then 1 else 0)

/-- Messages of one direction. -/
class Message (α : Type) where
  /-- The block of a message. -/
  toBlock : α → Block
  /-- The message of a block. -/
  ofBlock : Block → Except Error α

/-- The error of a block that is no message for its reader. -/
def refuse (tag : UInt8) (reader : Endpoint) : Error :=
  match Kind.ofTag? tag with
  | some kind => .unexpected kind reader
  | none => .unknownTag tag

instance : Message CoordinatorMessage where
  toBlock
    | .register id => ⟨Kind.register.tag, id.value, 0⟩
    | .start property => ⟨Kind.start.tag, property.value, 0⟩
    | .stop => ⟨Kind.stop.tag, 0, 0⟩
  ofBlock b :=
    match Kind.ofTag? b.tag with
    | some .register => .ok (.register ⟨b.id⟩)
    | some .start => .ok (.start ⟨b.id⟩)
    | some .stop => .ok .stop
    | _ => .error (refuse b.tag .worker)

instance : Message WorkerMessage where
  toBlock
    | .sample property value => ⟨Kind.sample.tag, property.value, value.toUInt64⟩
  ofBlock b :=
    match Kind.ofTag? b.tag with
    | some .sample => .ok (.sample ⟨b.id⟩ b.value.toInt64)
    | _ => .error (refuse b.tag .coordinator)

/-- The bytes of a message. -/
def encode {α : Type} [Message α] (m : α) : Bytes := (Message.toBlock m).bytes

end SimCheck.Wire
