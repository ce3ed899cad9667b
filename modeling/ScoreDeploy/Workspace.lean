import ScoreDeploy.Host
import ScoreDeploy.Receipt

/-!
# Workspaces

A workspace is a project directory. Below its configuration directory lie, for each package, a
description of the build, and for each network that the package is deployed on the parameters of the
deployment, the record of it, and the calls that can be made:

* `deploy/<package>/build.json`
* `deploy/<package>/<network>/params.json`
* `deploy/<package>/<network>/deploy.json`
* `calls/<package>/<network>/<name>.json`

The compiled code lies outside, in the directory of the build.
-/

namespace ScoreDeploy

/-- A project directory and its configuration directory. -/
structure Workspace where
  root : Path
  configuration : Path

namespace Workspace

/-- Why something in a workspace cannot be used. -/
inductive Error where
  /-- The package was never deployed on the network. -/
  | missingRecord (package network : String) (path : Path)
  /-- The package was not built. -/
  | missingArtifact (path : Path)
  /-- A file is not there. -/
  | missingFile (path : Path)
  /-- An operation on a file fails. -/
  | io (path : Path) (cause : IoError)
  /-- A file does not hold what it should. -/
  | json (path : Path) (fault : Json.Fault)
  /-- A record does not tell where the contract landed. -/
  | noAddress (path : Path)
  /-- The money in a call file is no quantity. -/
  | badValue (path : Path) (cause : HexNumeral.Error)
deriving DecidableEq

/-- The workspace at a root; the configuration directory is given below it. -/
def ofRoot (root configuration : Path) : Workspace :=
  ⟨root, Path.join root configuration⟩

/-! ### Paths -/

/-- The directory of a package. -/
def packagePath (ws : Workspace) (package : String) : Path :=
  Path.join (Path.join ws.configuration "deploy") package

/-- The directory of a package on a network. -/
def networkPath (ws : Workspace) (package network : String) : Path :=
  Path.join (ws.packagePath package) network

/-- The description of a build. -/
def buildPath (ws : Workspace) (package : String) : Path :=
  Path.join (ws.packagePath package) "build.json"

/-- The parameters of a deployment. -/
def paramsPath (ws : Workspace) (package network : String) : Path :=
  Path.join (ws.networkPath package network) "params.json"

/-- The record of a deployment. -/
def recordPath (ws : Workspace) (package network : String) : Path :=
  Path.join (ws.networkPath package network) "deploy.json"

/-- Where a record is written before it replaces the last one. -/
def draftPath (ws : Workspace) (package network : String) : Path :=
  Path.join (ws.networkPath package network) "deploy.json.tmp"

/-- The file of a call. -/
def callPath (ws : Workspace) (package network name : String) : Path :=
  Path.join
    (Path.join (Path.join (Path.join ws.configuration "calls") package) network)
    (name ++ ".json")

/-! ### Reading -/

/-- The content of a file as text. -/
def readText (path : Path) : Action Error String := do
  match (← Action.host (.read path) : Except IoError Bytes) with
  | .error .notFound => throw (.missingFile path)
  | .error cause => throw (.io path cause)
  | .ok bytes =>
    match Bytes.toText? bytes with
    | some text => return text
    | none => throw (.io path .invalidText)

/-- What a file holds, according to a reader of its text. -/
def readWith {α : Type} (read : String → Except Json.Fault α) (path : Path) :
    Action Error α := do
  Action.orFail (.json path) (read (← readText path))

/-- The description of a package's build. -/
structure Build where
  /-- The name of the compiled package. -/
  name : String
  version : Option String
  /-- The kind of build. -/
  variant : String
deriving DecidableEq, Repr

namespace Build

/-- The form of a description. -/
def shape : Json.Shape :=
  .record
    [(⟨"javaPkg", [], true⟩, .text), (⟨"version", [], false⟩, .optional .text),
      (⟨"build", [], true⟩, .text)]

/-- The description that a value holds. -/
def ofJson? (value : Json) : Option Build := do
  let name ← (← value.member? "javaPkg").string?
  let variant ← (← value.member? "build").string?
  return ⟨name, (value.member? "version").bind Json.string?, variant⟩

/-- The description that a text holds. -/
def read (text : String) : Except Json.Fault Build := do
  match ofJson? (← Json.readAs shape text) with
  | some build => return build
  | none => throw .wrongType

/-- The name of the compiled file. An empty version counts as none. -/
def jarName (build : Build) : String :=
  let version := build.version.getD ""
  build.name ++ (if version.isEmpty then "" else "-" ++ version) ++ "-" ++ build.variant ++ ".jar"

end Build

/-- The description of a package's build. -/
def build (ws : Workspace) (package : String) : Action Error Build :=
  readWith Build.read (ws.buildPath package)

/-- Where the compiled file of a build lies. -/
def artifactPath (ws : Workspace) (build : Build) : Path :=
  Path.join (Path.join (Path.join (Path.join ws.root build.name) "build") "libs") build.jarName

/-- The compiled file of a package, and where it lies. -/
def artifact (ws : Workspace) (package : String) : Action Error (Path × Bytes) := do
  let path := ws.artifactPath (← ws.build package)
  match (← Action.host (.read path) : Except IoError Bytes) with
  | .ok content => return (path, content)
  | .error .notFound => throw (.missingArtifact path)
  | .error cause => throw (.io path cause)

/-- The parameters that a text holds. -/
def readParams (text : String) : Except Json.Fault Params := do
  match ← Json.readAs .members text with
  | .object members => return members
  | _ => throw .wrongType

/-- The parameters for deploying a package on a network. -/
def params (ws : Workspace) (package network : String) : Action Error Params :=
  readWith readParams (ws.paramsPath package network)

/-- The record of the deployment of a package on a network. -/
def record (ws : Workspace) (package network : String) : Action Error Receipt :=
  (readWith Receipt.read (ws.recordPath package network)).mapError fun e =>
    match e with
    | .missingFile path => .missingRecord package network path
    | e => e

/-- Where a package landed on a network. -/
def address (ws : Workspace) (package network : String) : Action Error String := do
  match (← ws.record package network).contract with
  | some address => return address
  | none => throw (.noAddress (ws.recordPath package network))

/-- A call that can be made. -/
structure Call where
  method : String
  params : Option Params
  /-- The money to be sent along, as the file gives it. -/
  valueText : Option String

namespace Call

/-- The money to be sent along; zero without a text, and also for a text that is no quantity. -/
def value (call : Call) : Loop :=
  (call.valueText.bind fun text => (HexNumeral.read text).toOption).getD .zero

/-- The form of a call file. -/
def shape : Json.Shape :=
  .record
    [(⟨"method", [], true⟩, .text), (⟨"params", [], false⟩, .optional .members),
      (⟨"value", [], false⟩, .optional .text)]

/-- The members that a value has, unless it is null or missing. -/
def membersOf (value : Option Json) : Option Params :=
  match value with
  | some (.object members) => some members
  | _ => none

/-- The parts of a call file. -/
def parts? (value : Json) : Option (String × Option Params × Option String) := do
  let method ← (← value.member? "method").string?
  return (method, membersOf (value.member? "params"), (value.member? "value").bind Json.string?)

/-- The money that a call file gives. -/
def readValue (text : Option String) : Except HexNumeral.Error Loop :=
  match text with
  | none => .ok .zero
  | some text => HexNumeral.read text

/-- The parts of the call file that a text holds. -/
def readParts (text : String) :
    Except Json.Fault (String × Option Params × Option String) := do
  match parts? (← Json.readAs shape text) with
  | some parts => return parts
  | none => throw .wrongType

end Call

/-- A call of a package on a network. A text for the money has to be a quantity. -/
def call (ws : Workspace) (package network name : String) : Action Error Call := do
  let path := ws.callPath package network name
  let (method, params, valueText) ← readWith Call.readParts path
  let _ ← Action.orFail (.badValue path) (Call.readValue valueText)
  return ⟨method, params, valueText⟩

/-! ### Writing -/

/-- Fails with the path if an operation on it fails. -/
def orIo (path : Path) (answer : Except IoError Unit) : Action Error Unit :=
  Action.orFail (.io path) answer

/-- Writes the record of a deployment: first beside its place, and then over the last one, so that
at no time half a record is there. Gives the path of the record. -/
def saveRecord (ws : Workspace) (package network : String) (receipt : Receipt) :
    Action Error Path := do
  let path := ws.recordPath package network
  let draft := ws.draftPath package network
  match path.parent? with
  | some parent => orIo parent (← Action.host (.makeDirectories parent))
  | none => pure ()
  orIo draft (← Action.host (.write draft (Bytes.ofText receipt.toJson.pretty)))
  orIo path (← Action.host (.rename draft path))
  return path

/-- The wording of an error. -/
def Error.message : Error → String
  | .missingRecord package network path =>
    "no deploy record for " ++ package ++ " on " ++ network ++ " at " ++ path ++
      "; deploy it first"
  | .missingArtifact path =>
    "contract artifact not found: " ++ path ++ "; build the package first"
  | .missingFile path => "missing file: " ++ path
  | .io path cause => "cannot access " ++ path ++ ": " ++ cause.message
  | .json path _ => "invalid JSON in " ++ path
  | .noAddress path => "deploy record " ++ path ++ " has no scoreAddress"
  | .badValue path cause => "invalid value in " ++ path ++ ": " ++ cause.message

end Workspace

end ScoreDeploy
