import SimCheck.Params.Text
import SimCheck.SocketAddress.Reader

/-!
# Settings

`Settings` are the parameters of verifications and the settings of a coordinator.

* `Settings.default` is used where nothing is configured, `Settings.distributed` for a coordinator
  at a given address;
* `Settings.validate` refuses settings nothing can run with; the first offence counts;
* `SettingsError.message` says why.
-/

namespace SimCheck

/-- The settings of a coordinator. -/
structure SamplingSettings where
  /-- The address it listens on for workers. -/
  bindAddress : String
  /-- Whether it simulates paths itself while there are workers. -/
  localSampling : Bool
  /-- How long it waits for a silent worker. -/
  idleTimeoutMs : Nat
  /-- The number of workers it admits. -/
  maxClients : Nat
  /-- The initial capacity of a connection's buffers. -/
  readBufferSize : Nat
  deriving DecidableEq

/-- All settings. -/
structure Settings where
  checking : Params Float
  sampling : SamplingSettings

/-- Why settings are refused. -/
inductive SettingsError
  | params (e : ParamsError Float)
  | invalidAddress (text : String)
  | noClients
  | noIdleTimeout

/-- The wording of a refusal. -/
def SettingsError.message : SettingsError → String
  | .params e => "Invalid model checking parameters: " ++ e.message
  | .invalidAddress text => "Invalid bind address: " ++ text
  | .noClients => "Invalid configuration: sampling.max_clients must be positive"
  | .noIdleTimeout => "Invalid configuration: sampling.idle_timeout_ms must be positive"

namespace SamplingSettings

/-- The settings used where nothing is configured. -/
def default : SamplingSettings where
  bindAddress := "127.0.0.1:5545"
  localSampling := true
  idleTimeoutMs := 30000
  maxClients := 64
  readBufferSize := 4096

/-- The address to listen on. -/
def address (s : SamplingSettings) : Except SettingsError SocketAddress :=
  match SocketAddress.ofText? s.bindAddress with
  | some a => .ok a
  | none => .error (.invalidAddress s.bindAddress)

/-- Refuses settings a coordinator cannot run with. -/
def validate (s : SamplingSettings) : Except SettingsError Unit := do
  let _ ← s.address
  if s.maxClients = 0 then throw .noClients
  if s.idleTimeoutMs = 0 then throw .noIdleTimeout

end SamplingSettings

namespace Settings

/-- The settings used where nothing is configured. -/
def default : Settings := ⟨.default, .default⟩

/-- Whether two settings are equal, as far as numbers that compare equal are. -/
def same (s t : Settings) : Bool :=
  s.checking.same t.checking && decide (s.sampling = t.sampling)

/-- The settings of a coordinator that listens on an address. -/
def distributed (bindAddress : String) : Settings :=
  ⟨.default, { SamplingSettings.default with bindAddress }⟩

/-- Refuses settings nothing can run with. -/
def validate (s : Settings) : Except SettingsError Unit := do
  s.checking.validate.mapError .params
  s.sampling.validate

end Settings

end SimCheck
