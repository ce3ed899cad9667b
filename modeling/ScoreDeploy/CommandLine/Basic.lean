import ScoreDeploy.FileSystem.Path

/-!
# Command lines

What a user can ask for: a command with its arguments, and options that go with every command.
-/

namespace ScoreDeploy

/-- What is to be done. Limits are numbers of steps; amounts are not yet read. -/
inductive Command where
  /-- Deploy a package. -/
  | deploy (package : String) (limit : Option UInt64)
  /-- Replace the code of a package. -/
  | update (package : String) (limit : Option UInt64)
  /-- Run a call file as a transaction. -/
  | invoke (package call : String) (limit : Option UInt64)
  /-- Run a call file as a query. -/
  | query (package call : String)
  /-- Send money to an address. -/
  | transfer (recipient amount : String) (limit : Option UInt64)
  /-- Make accounts with money. -/
  | fund (count : UInt32) (amount : String) (directory : Option Path) (password : Option String)
  /-- Show an encoded object. -/
  | show (data : String)
deriving DecidableEq, Repr

/-- Whether a command signs transactions. -/
def Command.needsSigner : Command → Bool
  | .deploy .. => true
  | .update .. => true
  | .invoke .. => true
  | .transfer .. => true
  | .fund .. => true
  | .query .. => false
  | .show .. => false

/-- A command and the options that go with every command. -/
structure CommandLine where
  /-- The name of the endpoint. -/
  endpoint : Option String
  /-- The keystore file of the signer. -/
  keystore : Option Path
  /-- The password of that file. -/
  password : Option String
  /-- The root of the workspace. -/
  root : Path
  /-- Whether full results and all events are shown. -/
  verbose : Bool
  command : Command
deriving DecidableEq, Repr

namespace CommandLine

/-- Why a command line names no command to run. -/
inductive Stop where
  /-- Help is asked for. -/
  | help
  /-- The version is asked for. -/
  | version
  /-- Nothing is given at all, so that help is due. -/
  | nothingGiven
  /-- Options are given, but no command. -/
  | missingCommand
  /-- No command has that name. -/
  | unknownCommand
  /-- There is no such option, or one argument too many. -/
  | unknownArgument
  /-- An option is given twice. -/
  | repeatedOption
  /-- An option lacks its value, or the value is empty. -/
  | missingValue
  /-- An option that takes no value is given one. -/
  | surplusValue
  /-- The value of an option is not of its type. -/
  | badValue
  /-- An argument that the command needs is missing. -/
  | missingArgument
deriving DecidableEq, Repr

/-- What is printed for those who ask for the version. -/
def versionText : String := "icon-deploy 0.1.0"

/-- The exit code of the program: asking for help or for the version is no error. -/
def Stop.exitCode : Stop → UInt32
  | .help => 0
  | .version => 0
  | _ => 2

end CommandLine

end ScoreDeploy
