import ScoreDeploy.Text.Quoted

/-!
# Log events

An event has a level, the part of the program that it comes from, a message and fields. `terse` is
its text without any decoration; `line` is how a terminal shows it, where texts of unknown content
are quoted and the message cannot steer the terminal.
-/

namespace ScoreDeploy.Log

/-- How important an event is, the most important first. -/
inductive Level where
  | error
  | warn
  | info
  | debug
  | trace
deriving DecidableEq, Repr

namespace Level

/-- The name of a level. -/
def name : Level → String
  | error => "ERROR"
  | warn => "WARN"
  | info => "INFO"
  | debug => "DEBUG"
  | trace => "TRACE"

/-- How many levels are at least as important. -/
def rank : Level → Nat
  | error => 1
  | warn => 2
  | info => 3
  | debug => 4
  | trace => 5

end Level

/-- The parts of the program that report events. -/
inductive Source where
  /-- Preparing a run. -/
  | preparation
  /-- Deploying and updating contracts. -/
  | deployment
  /-- Moving money. -/
  | payment
  /-- Submitting and confirming transactions. -/
  | submission
  /-- Talking to a node. -/
  | client
deriving DecidableEq, Repr

/-- The name by which a filter selects a part of the program. -/
def Source.name : Source → String
  | preparation => "icon_deploy::commands"
  | deployment => "icon_deploy::commands::deploy"
  | payment => "icon_deploy::commands::transfer"
  | submission => "icon_deploy::handler"
  | client => "icon_deploy::rpc"

/-- A named value of an event. -/
structure Field where
  name : String
  value : String
  /-- Whether a terminal shows the value in quotes. -/
  isQuoted : Bool := false
deriving DecidableEq

/-- Something worth telling. -/
structure Event where
  level : Level
  source : Source
  message : String
  fields : List Field := []
deriving DecidableEq

namespace Event

/-- The event without decoration. -/
def terse (event : Event) : String :=
  event.level.name ++ " " ++ event.message ++
    String.join (event.fields.map fun f => " " ++ f.name ++ "=" ++ f.value)

/-- The level, filled up with blanks on the left to five characters. -/
def paddedLevel (level : Level) : String :=
  String.ofList (List.replicate (5 - level.name.length) ' ') ++ level.name

/-- A character of a message. Those by which a terminal is steered are written as their codes. -/
def tamed (c : Char) : List Char :=
  if ['\x07', '\x08', '\x0c', '\x1b', '\x7f'].contains c then
    '\\' :: 'x' :: Nat.digitChar (c.toNat / 16) :: [Nat.digitChar (c.toNat % 16)]
  else if 0x80 ≤ c.toNat ∧ c.toNat < 0xA0 then Text.codePointEscape c
  else [c]

/-- The event as a terminal shows it, without the time. -/
def line (event : Event) : String :=
  paddedLevel event.level ++ " " ++ String.ofList (event.message.toList.flatMap tamed) ++
    String.join (event.fields.map fun f =>
      " " ++ f.name ++ "=" ++ if f.isQuoted then Text.quoted f.value else f.value)

end Event

end ScoreDeploy.Log
