import ScoreDeploy.CommandLine.Basic
import ScoreDeploy.Text.Numeral

/-!
# Reading a command line

The words of a command line are read from left to right, first those of the program and then those
of the command. Options may stand anywhere, in long form with the value attached or in the next
word, or in short form, several flags in one word; after two dashes alone every word is an argument.
An option whose value stands in the next word is settled only when the following option or argument
comes, so that a fault in it shows no earlier than that. The options of every command may be given
before and after its name, and the ones after it prevail.
-/

namespace ScoreDeploy.CommandLine

/-- An option. -/
inductive Key where
  | endpoint
  | keystore
  | password
  | root
  | verbose
  | stepLimit
  | count
  | amount
  | saveDir
  | savePassword
  | help
  | version
deriving DecidableEq, Repr

namespace Key

/-- The long name of an option. -/
def long : Key → String
  | endpoint => "endpoint"
  | keystore => "keystore"
  | password => "password"
  | root => "root"
  | verbose => "verbose"
  | stepLimit => "step-limit"
  | count => "count"
  | amount => "amount"
  | saveDir => "save-dir"
  | savePassword => "save-password"
  | help => "help"
  | version => "version"

/-- The short name of an option. -/
def short? : Key → Option Char
  | endpoint => some 'e'
  | keystore => some 'k'
  | password => some 'p'
  | verbose => some 'v'
  | help => some 'h'
  | version => some 'V'
  | _ => none

/-- Whether an option takes a value. -/
def takesValue : Key → Bool
  | verbose => false
  | help => false
  | version => false
  | _ => true

/-- The number of accounts that a value denotes; a minus sign is allowed before zero. -/
def countOf? (value : String) : Option UInt32 :=
  match value.toList with
  | '-' :: digits => if !digits.isEmpty && digits.all (· == '0') then some 0 else none
  | cs => (Numeral.read 10 UInt32.size cs).toOption.map UInt32.ofNat

/-- The step limit that a value denotes. -/
def limitOf? (value : String) : Option UInt64 :=
  (Numeral.read 10 UInt64.size value.toList).toOption.map UInt64.ofNat

/-- What is wrong with a value of an option. -/
def fault? (key : Key) (value : String) : Option Stop :=
  match key with
  | keystore | root | saveDir => if value.isEmpty then some .missingValue else none
  | stepLimit => if (limitOf? value).isNone then some .badValue else none
  | count => if (countOf? value).isNone then some .badValue else none
  | _ => none

end Key

/-! ### Levels -/

/-- What may be given at one level: before the name of the command, or after it. -/
structure Level where
  /-- The options. -/
  keys : List Key
  /-- The number of arguments. -/
  arity : Nat
  /-- Whether the name of a command is looked for. -/
  hasCommands : Bool := false

/-- The options that go with every command. -/
def sharedKeys : List Key :=
  [.endpoint, .keystore, .password, .root, .verbose, .help]

/-- Before the name of the command. -/
def programLevel : Level where
  keys := .version :: sharedKeys
  arity := 0
  hasCommands := true

/-- What may be given after the name of each command. -/
def commandLevels : List (String × Level) := [
  ("deploy", ⟨.stepLimit :: sharedKeys, 1, false⟩),
  ("update", ⟨.stepLimit :: sharedKeys, 1, false⟩),
  ("invoke", ⟨.stepLimit :: sharedKeys, 2, false⟩),
  ("call", ⟨sharedKeys, 2, false⟩),
  ("transfer", ⟨.stepLimit :: sharedKeys, 2, false⟩),
  ("fund", ⟨[.count, .amount, .saveDir, .savePassword] ++ sharedKeys, 0, false⟩),
  ("rlp", ⟨sharedKeys, 1, false⟩)]

/-- Whether a word names a command, or the request for help on one. -/
def isCommandName (name : String) : Bool :=
  name == "help" || (commandLevels.lookup name).isSome

/-! ### Scanning -/

/-- What was read at a level so far. -/
structure Scan where
  /-- The options that are settled, the latest first; a flag has an empty value. -/
  given : List (Key × String) := []
  /-- The arguments, the latest first. -/
  arguments : List String := []
  /-- An option that is not yet settled, and its value if that has come. -/
  pending : Option (Key × Option String) := none
  /-- Whether all further words are arguments. -/
  onlyArguments : Bool := false

namespace Scan

/-- Whether the next word may be the value of an option. -/
def awaitsValue (s : Scan) : Bool :=
  match s.pending with
  | some (_, none) => true
  | _ => false

/-- Settles an option with its value. -/
def store (s : Scan) (key : Key) (value : String) : Except Stop Scan :=
  if s.given.any fun g => g.1 = key then .error .repeatedOption
  else
    match key.fault? value with
    | some stop => .error stop
    | none => .ok { s with given := (key, value) :: s.given, pending := none }

/-- Settles what is pending. -/
def settle (s : Scan) : Except Stop Scan :=
  match s.pending with
  | none => .ok s
  | some (_, none) => .error .missingValue
  | some (key, some value) => { s with pending := none }.store key value

/-- Takes a flag. -/
def flag (s : Scan) (key : Key) : Except Stop Scan := do
  let s ← s.settle
  match key with
  | .help => throw .help
  | .version => throw .version
  | key => s.store key ""

/-- Takes an option whose value is attached, or will come in the next word. -/
def option (s : Scan) (key : Key) (value : Option String) : Except Stop Scan := do
  let s ← s.settle
  match value with
  | some value => s.store key value
  | none => return { s with pending := some (key, none) }

/-- Takes an argument. -/
def argument (level : Level) (s : Scan) (word : String) : Except Stop Scan :=
  if s.arguments.length < level.arity then do
    let s ← s.settle
    return { s with arguments := word :: s.arguments }
  else if level.hasCommands ∧ ¬(s.onlyArguments ∧ isCommandName word) then
    .error .unknownCommand
  else .error .unknownArgument

/-- Takes a word that starts with two dashes. -/
def long (level : Level) (s : Scan) (body : List Char) : Except Stop Scan :=
  let name := String.ofList (body.takeWhile (· != '='))
  let value :=
    match body.dropWhile (· != '=') with
    | _ :: value => some (String.ofList value)
    | [] => none
  match level.keys.find? fun k => k.long == name with
  | none => .error .unknownArgument
  | some key =>
    if key.takesValue then s.option key value
    else if value.isSome then .error .surplusValue
    else s.flag key

/-- Takes the letters of a word that starts with one dash. -/
def short (level : Level) : Scan → List Char → Except Stop Scan
  | s, [] => .ok s
  | s, c :: rest =>
    match level.keys.find? fun k => k.short? == some c with
    | none => .error .unknownArgument
    | some key =>
      if key.takesValue then
        match rest with
        | [] => s.option key none
        | '=' :: value => s.option key (some (String.ofList value))
        | value => s.option key (some (String.ofList value))
      else
        match s.flag key with
        | .error stop => .error stop
        | .ok s => short level s rest

/-- Takes a word that is neither the name of a command nor the two dashes alone. -/
def word (level : Level) (s : Scan) (w : String) : Except Stop Scan :=
  match w.toList with
  | '-' :: '-' :: body => s.long level body
  | '-' :: c :: rest => s.short level (c :: rest)
  | _ =>
    match s.pending with
    | some (key, none) => .ok { s with pending := some (key, some w) }
    | _ => s.argument level w

end Scan

/-- What the words after a request for help lead to. -/
def helpOn : List String → Stop
  | [] => .help
  | [name] => if isCommandName name then .help else .unknownCommand
  | _ => .unknownCommand

/-- Reads the words of a level. Where commands are looked for, it ends at the name of one and gives
that name and the words after it. -/
def scan (level : Level) : List String → Scan → Except Stop (Scan × Option (String × List String))
  | [], s => .ok (s, none)
  | w :: rest, s =>
    if s.onlyArguments then
      match s.argument level w with
      | .error stop => .error stop
      | .ok s => scan level rest s
    else if level.hasCommands ∧ ¬s.awaitsValue ∧ isCommandName w then
      if w = "help" then .error (helpOn rest) else .ok (s, some (w, rest))
    else if w = "--" then scan level rest { s with onlyArguments := true }
    else
      match s.word level w with
      | .error stop => .error stop
      | .ok s => scan level rest s

/-! ### The whole line -/

/-- The value that was given for an option. -/
def Scan.value? (s : Scan) (key : Key) : Option String :=
  s.given.lookup key

/-- Checks that everything a command needs was given. -/
def requireArguments (level : Level) (s : Scan) : Except Stop Unit :=
  if s.arguments.length < level.arity then .error .missingArgument
  else if (s.value? .savePassword).isSome ∧ (s.value? .saveDir).isNone then
    .error .missingArgument
  else .ok ()

/-- The command of that name with what was given for it. -/
def commandOf? (name : String) (s : Scan) : Option Command :=
  let limit := (s.value? .stepLimit).bind Key.limitOf?
  match name, s.arguments with
  | "deploy", [package] => some (.deploy package limit)
  | "update", [package] => some (.update package limit)
  | "invoke", [call, package] => some (.invoke package call limit)
  | "call", [call, package] => some (.query package call)
  | "transfer", [amount, recipient] => some (.transfer recipient amount limit)
  | "fund", [] =>
    some (.fund (((s.value? .count).bind Key.countOf?).getD 2) ((s.value? .amount).getD "1")
      (s.value? .saveDir) (s.value? .savePassword))
  | "rlp", [data] => some (.show data)
  | _, _ => none

/-- Reads the words after the name of a command. -/
def readCommand (name : String) (words : List String) : Except Stop (Scan × Command) := do
  match commandLevels.lookup name with
  | none => throw .unknownCommand
  | some level =>
    let (s, _) ← scan level words {}
    let s ← s.settle
    requireArguments level s
    match commandOf? name s with
    | some command => return (s, command)
    | none => throw .missingArgument

/-- Reads a command line without the name of the program. -/
def read (words : List String) : Except Stop CommandLine := do
  match ← scan programLevel words {} with
  | (s, none) =>
    let s ← s.settle
    throw (if s.given.isEmpty then .nothingGiven else .missingCommand)
  | (before, some (name, words)) =>
    let (after, command) ← readCommand name words
    let before ← before.settle
    let value? key := after.value? key <|> before.value? key
    return {
      endpoint := value? .endpoint
      keystore := value? .keystore
      password := value? .password
      root := (value? .root).getD "."
      verbose := (value? .verbose).isSome
      command := command }

end ScoreDeploy.CommandLine
