import ScoreDeploy.CommandLine.Basic

/-!
# Help on the command line

What a user reads who asks for help, or whose command line cannot be understood.
-/

namespace ScoreDeploy.CommandLine

/-- What can be given on the command line. -/
def usage : String := String.intercalate "\n" [
  "Deploy, update and invoke SCOREs on ICON networks.",
  "",
  "Usage: icon-deploy [OPTIONS] <COMMAND>",
  "",
  "Commands:",
  "  deploy <PACKAGE>         Deploy a package and record its SCORE address",
  "  update <PACKAGE>         Update the code of a deployed package",
  "  invoke <PACKAGE> <CALL>  Send the transaction that a call file describes",
  "  call <PACKAGE> <CALL>    Run the read-only call that a call file describes",
  "  transfer <TO> <AMOUNT>   Send ICX to an address",
  "  fund                     Create and fund accounts on a local network",
  "  rlp <DATA>               Decode a hex-encoded RLP payload",
  "",
  "Options of every command:",
  "  -e, --endpoint <ENDPOINT>  The endpoint to talk to",
  "  -k, --keystore <KEYSTORE>  The keystore file that signs transactions",
  "  -p, --password <PASSWORD>  Its password, asked for if it is left out",
  "      --root <ROOT>          The root of the contract packages [default: .]",
  "  -v, --verbose              Print full transaction results and debug logs",
  "  -h, --help                 Print help",
  "  -V, --version              Print version",
  "",
  "Options of deploy, update, invoke and transfer:",
  "      --step-limit <STEP_LIMIT>",
  "",
  "Options of fund:",
  "      --count <COUNT>        The number of accounts [default: 2]",
  "      --amount <AMOUNT>      ICX for each of them [default: 1]",
  "      --save-dir <SAVE_DIR>  Where to write a keystore file for each of them",
  "      --save-password <SAVE_PASSWORD>"]

/-- What the user is told when no command can be run. -/
def Stop.message : Stop → String
  | .help => usage
  | .version => versionText
  | .nothingGiven => usage
  | .missingCommand => "error: a command is required"
  | .unknownCommand => "error: unrecognized command"
  | .unknownArgument => "error: unexpected argument"
  | .repeatedOption => "error: an option is given more than once"
  | .missingValue => "error: an option lacks its value"
  | .surplusValue => "error: an option is given a value that takes none"
  | .badValue => "error: the value of an option is not a number in range"
  | .missingArgument => "error: an argument is missing that the command requires"

end ScoreDeploy.CommandLine
