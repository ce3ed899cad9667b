import ScoreDeploy.FileSystem.Basic
import ScoreDeploy.Log.Event
import ScoreDeploy.Node.Basic
import ScoreDeploy.Program
import ScoreDeploy.Typing
import ScoreDeploy.Wallet

/-!
# The surroundings of a command

Besides a node, a command needs the machine that it runs on: files, a clock, a source of random
numbers, a place to print and to log, and somebody who types passwords. `Effect` collects all that a
command can ask, and `Action` is a program that may fail.
-/

namespace ScoreDeploy

namespace Host

/-- What can be asked of the machine. -/
inductive Request where
  /-- Microseconds since the start of 1970. -/
  | now
  /-- To wait that many seconds. -/
  | wait (seconds : UInt64)
  /-- To report an event. -/
  | log (event : Log.Event)
  /-- To print a text and a line end. -/
  | print (text : String)
  /-- A private key that nobody knows. -/
  | freshKey
  /-- Random bytes. -/
  | randomBytes (count : Nat)
  /-- A password, typed after that text. -/
  | password (prompt : String)
  /-- Whether something is at a path. -/
  | isThere (path : Path)
  /-- The content of a file. -/
  | read (path : Path)
  /-- To make a directory and those above it. -/
  | makeDirectories (path : Path)
  /-- To write a file. -/
  | write (path : Path) (content : Bytes)
  /-- To give a file another place. -/
  | rename (old new : Path)

/-- What the machine answers. -/
def Reply : Request → Type
  | .now => Int64
  | .wait _ => Unit
  | .log _ => Unit
  | .print _ => Unit
  | .freshKey => Secp256k1.PrivateKey
  | .randomBytes count => Vector UInt8 count
  | .password _ => Typed
  | .isThere _ => Bool
  | .read _ => Except IoError Bytes
  | .makeDirectories _ => Except IoError Unit
  | .write _ _ => Except IoError Unit
  | .rename _ _ => Except IoError Unit

end Host

/-- What a command can ask. -/
inductive Effect where
  /-- Something that the node at a base address answers. -/
  | node (base : String) (request : Node.Request)
  /-- Something that the machine answers. -/
  | host (request : Host.Request)

/-- What is answered to a command. -/
def Effect.Reply : Effect → Type
  | .node _ request => Node.Reply request
  | .host request => Host.Reply request

/-- The surroundings of a command. -/
def effects : Interface where
  Request := Effect
  Reply := Effect.Reply

/-- A program that runs in these surroundings and may fail. -/
abbrev Action (ε α : Type) := ExceptT ε (Program effects) α

namespace Action

variable {ε α : Type}

/-- Asks the machine. -/
def host (request : Host.Request) : Action ε (Host.Reply request) :=
  ExceptT.lift (Program.request (I := effects) (.host request))

/-- Asks the node at a base address. -/
def node (base : String) (request : Node.Request) : Action ε (Node.Reply request) :=
  ExceptT.lift (Program.request (I := effects) (.node base request))

/-- Fails if the answer is a failure. -/
def orFail {δ : Type} (cause : δ → ε) (answer : Except δ α) : Action ε α :=
  ExceptT.mk (pure (answer.mapError cause))

/-- Fails if the answer is a failure, and with the same error. -/
def ofExcept (answer : Except ε α) : Action ε α :=
  ExceptT.mk (pure answer)

/-- Renames the errors of an action. -/
def mapError {δ : Type} (cause : δ → ε) (action : Action δ α) : Action ε α :=
  ExceptT.mk ((fun r => r.mapError cause) <$> action.run)

/-- Reports an event. -/
def log (event : Log.Event) : Action ε Unit :=
  host (.log event)

/-- Prints a text and a line end. -/
def print (text : String) : Action ε Unit :=
  host (.print text)

end Action

end ScoreDeploy
