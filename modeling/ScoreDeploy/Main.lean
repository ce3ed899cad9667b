import ScoreDeploy.CommandLine.Help
import ScoreDeploy.CommandLine.Read
import ScoreDeploy.Log.Filter
import ScoreDeploy.Log.Stamp
import ScoreDeploy.Node.Client
import ScoreDeploy.Node.Http
import ScoreDeploy.Run
import ScoreDeploy.Typing
import Std.Async.DNS
import Std.Async.TCP
import Std.Time.DateTime.Timestamp

/-!
# The program

Reads the command line, runs the command, and answers on the machine what the run asks. Nothing is
decided here.
-/

namespace ScoreDeploy.Main

open Std.Async
open Std.Net

/-! ### The network -/

/-- The socket address of a service. -/
def socketAddress (service : UInt16) : IPAddr → SocketAddress
  | .v4 address => .v4 ⟨address, service⟩
  | .v6 address => .v6 ⟨address, service⟩

/-- Everything that comes in on a connection. -/
partial def receiveAll (client : TCP.Socket.Client) (received : ByteArray) : Async ByteArray := do
  match ← client.recv? 65536 with
  | some more => receiveAll client (received ++ more)
  | none => return received

/-- What a machine is looked up by. -/
def lookupName : Url.Host → String
  | .ipv6 address => address.text
  | host => host.text

/-- Sends a message and gives everything that comes back. -/
def exchange (target : Node.Http.Target) (message : Bytes) : Async (Option Bytes) := do
  let service := Numeral.decimal target.service.toNat
  let addresses ← DNS.getAddrInfo (lookupName target.host) service
  match addresses[0]? with
  | none => return none
  | some address =>
    let client ← TCP.Socket.Client.mk
    client.connect (socketAddress target.service address)
    client.send ⟨message.toArray⟩
    return some (← receiveAll client ByteArray.empty).data.toList

/-- Sends a message and gives what comes back. There are no encrypted connections. -/
def send (target : Node.Http.Target) (body : Option String) : IO (Option Bytes) := do
  if target.isSecure then return none
  try (exchange target (Node.Http.message target body)).block
  catch _ => return none

/-! ### The machine -/

/-- The cause of a failure. -/
def ioError (e : IO.Error) : IoError :=
  match e with
  | .noFileOrDirectory .. => .notFound
  | .alreadyExists .. => .alreadyExists
  | .inappropriateType _ code _ => if code = 21 then .isADirectory else .notADirectory
  | e => .other (toString e)

/-- The outcome of an operation on files. -/
def onFiles {α : Type} (operation : IO α) : IO (Except IoError α) := do
  try return .ok (← operation)
  catch e => return .error (ioError e)

/-- Whether something is at a path. -/
def isThere (path : Path) : IO Bool := do
  return (← onFiles (IO.FS.realPath path)).isOk

/-- The content of a file. -/
def readBytes (path : Path) : IO Bytes := do
  return (← IO.FS.readBinFile path).data.toList

/-- Microseconds since the start of 1970. -/
def now : IO Int := do
  let time ← Std.Time.Timestamp.now
  return time.toNanosecondsSinceUnixEpoch.val / 1000

/-- A private key that nobody knows. -/
partial def freshKey : IO Secp256k1.PrivateKey := do
  let bytes ← IO.getRandomBytes 32
  match Secp256k1.PrivateKey.ofBytes? bytes.data.toList with
  | some key => return key
  | none => freshKey

/-- Random bytes. -/
def randomBytes (count : Nat) : IO (Vector UInt8 count) := do
  let bytes ← IO.getRandomBytes (USize.ofNat count)
  return Vector.ofFn fun i => bytes.data[i]?.getD 0

/-- A line that is typed on the terminal, without its end. -/
def password (prompt : String) : IO Typed := do
  try
    let screen ← IO.FS.Handle.mk "/dev/tty" .write
    let keys ← IO.FS.Handle.mk "/dev/tty" .read
    -- What is typed is concealed until the line ends.
    screen.putStr (prompt ++ "\x1b[8m")
    screen.flush
    let line ← keys.getLine
    screen.putStr "\x1b[28m"
    screen.flush
    return (Typing.read line.toList).typed
  catch _ => return .ended

/-- Reports an event, if the filter shows it. -/
def report (filter : Log.Filter) (event : Log.Event) : IO Unit := do
  if filter.shows event then
    IO.println (Log.stamp (← now).toNat ++ " " ++ event.line)

/-- Answers what is asked of the machine. -/
def answerHost (filter : Log.Filter) : (r : Host.Request) → IO (Host.Reply r)
  | .now => return Int64.ofInt (← now)
  | .wait seconds => IO.sleep (UInt32.ofNat (seconds.toNat * 1000))
  | .log event => report filter event
  | .print text => IO.println text
  | .freshKey => freshKey
  | .randomBytes count => randomBytes count
  | .password prompt => password prompt
  | .isThere path => isThere path
  | .read path => onFiles (readBytes path)
  | .makeDirectories path => onFiles (IO.FS.createDirAll path)
  | .write path content => onFiles (IO.FS.writeBinFile path ⟨content.toArray⟩)
  | .rename old new => onFiles (IO.FS.rename old new)

/-- Answers everything that a run asks. -/
def answer (filter : Log.Filter) : (r : Wire) → IO (Wire.Reply r)
  | .send target body => send target body
  | .host request => answerHost filter request

/-! ### The run -/

/-- Carries out a command line and gives the exit code. -/
def execute (cli : CommandLine) : IO UInt32 := do
  let home := (← IO.getEnv "HOME").getD ""
  let filter := Log.Filter.forRun (← IO.getEnv "RUST_LOG") cli.verbose
  match ← (Node.Client.overWire (Run.run cli home).run).runIn (answer filter) with
  | .ok () => return 0
  | .error .interrupted => return 130
  | .error failure =>
    IO.eprintln ("Error: " ++ failure.message)
    return 1

end ScoreDeploy.Main

/-- The program. -/
def main (words : List String) : IO UInt32 := do
  match ScoreDeploy.CommandLine.read words with
  | .ok cli => ScoreDeploy.Main.execute cli
  | .error stop =>
    if stop.exitCode = 0 then IO.println stop.message else IO.eprintln stop.message
    return stop.exitCode
