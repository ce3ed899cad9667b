import ScoreDeploy.Host
import ScoreDeploy.Log.Filter
import ScoreDeploy.Typing

/-!
# A machine in memory

A `Machine` answers what a command asks of its surroundings, the node apart: it holds the files, a
clock that moves on with every look at it, supplies of keys and of random bytes, what somebody is
ready to type, and everything that was shown so far.
-/

namespace ScoreDeploy

/-- Something that was shown. -/
inductive Shown where
  /-- A reported event. -/
  | event (event : Log.Event)
  /-- A printed text. -/
  | printed (text : String)
  /-- A question for a password, and what the typing left on the screen. -/
  | prompt (text : String) (screen : String)

/-- A machine and what happened on it. -/
structure Machine where
  files : FileSystem
  /-- Microseconds since the start of 1970. -/
  clock : Int64
  /-- The key that is handed out at a number. -/
  keys : Nat → Secp256k1.PrivateKey
  /-- How many keys were handed out. -/
  keysUsed : Nat := 0
  /-- The random byte at a number. -/
  noise : Nat → UInt8
  /-- How many random bytes were handed out. -/
  noiseUsed : Nat := 0
  /-- The characters that will be typed, if there is a terminal. -/
  typed : Option (List Char) := none
  /-- What was shown, the latest first. -/
  shown : List Shown := []

namespace Machine

/-- The machine after it has shown something. -/
def showing (m : Machine) (shown : Shown) : Machine :=
  { m with shown := shown :: m.shown }

/-- Carries out a change of the files. -/
def change (m : Machine) (result : Except IoError FileSystem) : Except IoError Unit × Machine :=
  match result with
  | .ok files => (.ok (), { m with files := files })
  | .error e => (.error e, m)

/-- Asks for a password. Without a terminal nothing is shown. -/
def ask (m : Machine) (prompt : String) : Typed × Machine :=
  match m.typed with
  | none => (.ended, m)
  | some cs =>
    let outcome := Typing.read cs
    (outcome.typed, { m with typed := some outcome.rest }.showing (.prompt prompt outcome.screen))

/-- What the machine answers, and the machine afterwards. -/
def answer (request : Host.Request) (m : Machine) : Host.Reply request × Machine :=
  match request with
  | .now => (m.clock, { m with clock := m.clock + 1 })
  | .wait _ => ((), m)
  | .log event => ((), m.showing (.event event))
  | .print text => ((), m.showing (.printed text))
  | .freshKey => (m.keys m.keysUsed, { m with keysUsed := m.keysUsed + 1 })
  | .randomBytes count =>
    (Vector.ofFn fun i => m.noise (m.noiseUsed + i.val),
      { m with noiseUsed := m.noiseUsed + count })
  | .password prompt => m.ask prompt
  | .isThere path => (m.files.holds path, m)
  | .read path => (m.files.read path, m)
  | .makeDirectories path =>
    let (result, files) := m.files.makeDirectories path
    (result, { m with files := files })
  | .write path content => m.change (m.files.write path content)
  | .rename old new => m.change (m.files.rename old new)

/-- The events that were reported, in order. -/
def events (m : Machine) : List Log.Event :=
  m.shown.reverse.filterMap fun s =>
    match s with
    | .event e => some e
    | _ => none

/-- The texts that were printed, in order. -/
def printed (m : Machine) : List String :=
  m.shown.reverse.filterMap fun s =>
    match s with
    | .printed text => some text
    | _ => none

/-- The texts that standard output received, in order: what was printed, and the events that a
filter shows. -/
def output (filter : Log.Filter) (m : Machine) : List String :=
  m.shown.reverse.filterMap fun s =>
    match s with
    | .event e => if filter.shows e then some e.line else none
    | .printed text => some text
    | .prompt .. => none

/-- The texts that the terminal received: the questions, and what the typing left on the screen. -/
def terminal (m : Machine) : List String :=
  m.shown.reverse.filterMap fun s =>
    match s with
    | .prompt text screen => some (text ++ screen)
    | _ => none

end Machine

end ScoreDeploy
