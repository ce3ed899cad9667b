import ScoreDeploy.Endpoint
import ScoreDeploy.Failure
import ScoreDeploy.Toml.Document

/-!
# The configuration file

The file gives defaults for the command line, the terms on which transactions are submitted, and
endpoints beside the built-in ones, over which they take precedence. Everything in it may be left
out, and what is not known is ignored. A table with known keys may also be written as an array of
their values in order.
-/

namespace ScoreDeploy

/-- What the configuration file says. -/
structure Config where
  /-- The endpoint to use where none is named. -/
  endpoint : String := "localhost"
  /-- The keystore file to use where none is named. -/
  keystore : Option Path := none
  /-- The configuration directory of workspaces, below their root. -/
  directory : Path := "scripts/config"
  patience : Patience := {}
  limits : StepLimits := {}
  /-- The endpoints of the file, by their names. -/
  endpoints : List (String × Endpoint) := []
deriving DecidableEq, Repr

namespace Config

/-! ### Decoding -/

/-- The values of known keys, in the given order, from a table or from an array; a date counts as a
table without any of them. -/
def fields? (names : List String) : Toml.Value → Option (List (Option Toml.Value))
  | .table members => some (names.map fun name => members.lookup name)
  | .array items => some ((List.range names.length).map fun i => items[i]?)
  | .datetime _ => some (names.map fun _ => none)
  | _ => none

/-- The value of a key, or a default where it is not given; `none` if it has another type. -/
def orDefault {α : Type} (read? : Toml.Value → Option α) (default : α) (value : Option Toml.Value) :
    Option α :=
  match value with
  | none => some default
  | some value => read? value

/-- The text that a value is. -/
def text? : Toml.Value → Option String
  | .string s => some s
  | _ => none

/-- The natural number below a limit that a value is. -/
def natural? (limit : Nat) : Toml.Value → Option Nat
  | .integer n => if 0 ≤ n ∧ n < limit then some n.toNat else none
  | _ => none

/-- The 64-bit number that a value is. -/
def word64? (value : Toml.Value) : Option UInt64 :=
  (natural? UInt64.size value).map UInt64.ofNat

/-- The 32-bit number that a value is. -/
def word32? (value : Toml.Value) : Option UInt32 :=
  (natural? UInt32.size value).map UInt32.ofNat

/-- Takes over the defaults of the file. -/
def withDefaults (config : Config) (value : Toml.Value) : Option Config := do
  match ← fields? ["endpoint", "keystore", "config_dir"] value with
  | [endpoint, keystore, directory] =>
    return { config with
      endpoint := ← orDefault text? config.endpoint endpoint
      keystore := ← orDefault (fun v => (text? v).map some) config.keystore keystore
      directory := ← orDefault text? config.directory directory }
  | _ => none

/-- Takes over the terms of the file. -/
def withTerms (config : Config) (value : Toml.Value) : Option Config := do
  let names :=
    ["poll_retries", "poll_interval_secs", "invoke_step_limit", "transfer_step_limit"]
  match ← fields? names value with
  | [attempts, interval, invoke, transfer] =>
    let attempts ← orDefault word32? config.patience.attempts attempts
    let interval ← orDefault word64? config.patience.interval interval
    let invoke ← orDefault word64? config.limits.invoke invoke
    let transfer ← orDefault word64? config.limits.transfer transfer
    return { config with patience := ⟨attempts, interval⟩, limits := ⟨invoke, transfer⟩ }
  | _ => none

/-- The endpoint that a value describes. -/
def endpointOf? (value : Toml.Value) : Option Endpoint := do
  match ← fields? ["url", "nid"] value with
  | [url, network] => return ⟨← text? (← url), ← word64? (← network)⟩
  | _ => none

/-- Takes over the endpoints of the file. -/
def withEndpoints (config : Config) (value : Toml.Value) : Option Config := do
  match value with
  | .table members =>
    let endpoints ← members.mapM fun (name, value) => do return (name, ← endpointOf? value)
    return { config with endpoints := endpoints }
  | _ => none

/-- Takes over what a key of the file says, if it says anything. -/
def taking (take : Config → Toml.Value → Option Config) (value : Option Toml.Value)
    (config : Config) : Option Config :=
  match value with
  | some value => take config value
  | none => some config

/-- The configuration that a text denotes. -/
def read? (text : String) : Option Config := do
  let members ← Toml.read? text
  let config ← taking withDefaults (members.lookup "defaults") {}
  let config ← taking withTerms (members.lookup "transaction") config
  taking withEndpoints (members.lookup "endpoints") config

/-! ### Use -/

/-- Where the file lies, below a home directory. -/
def path (home : Path) : Path :=
  Path.join (Path.join home ".icon-deploy") "config.toml"

/-- The configuration of the user with that home directory. -/
def load (home : Path) : Action Failure Config := do
  let path := Config.path home
  let found : Bool ← Action.host (.isThere path)
  if !found then return {}
  match (← Action.host (.read path) : Except IoError Bytes) with
  | .error _ => throw (.configUnreadable path)
  | .ok bytes =>
    match Bytes.toText? bytes with
    | none => throw (.configUnreadable path)
    | some text =>
      match read? text with
      | some config => return config
      | none => throw (.configMalformed path)

/-- The endpoint of that name. -/
def endpoint? (config : Config) (name : String) : Option Endpoint :=
  config.endpoints.lookup name <|> Endpoint.builtin.lookup name

/-- The endpoint of that name, which has to be known. -/
def requireEndpoint (config : Config) (name : String) : Except Failure Endpoint :=
  match config.endpoint? name with
  | some endpoint => .ok endpoint
  | none => .error (.unknownEndpoint name)

end Config

end ScoreDeploy
