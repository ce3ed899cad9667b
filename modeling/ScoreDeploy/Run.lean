import ScoreDeploy.Command.Deployment
import ScoreDeploy.Command.Invocation
import ScoreDeploy.Command.Payment
import ScoreDeploy.CommandLine.Basic
import ScoreDeploy.Config

/-!
# A run of the program

A run loads the configuration, prepares the context of the command, and carries the command out. The
keystore file is opened only for commands that sign.
-/

namespace ScoreDeploy.Run

/-- An event of this part of the program. -/
def event (message : String) (fields : List Log.Field) : Log.Event :=
  ⟨.info, .preparation, message, fields⟩

/-! ### Passwords -/

/-- A line that is typed after a question. Without it the run fails for the given reason. -/
def typed (prompt : String) (missing : Failure) : Action Failure String := do
  match (← Action.host (.password prompt) : Typed) with
  | .line line => return line
  | .ended => throw missing
  | .interrupted => throw .interrupted

/-- The password of a keystore file: the one given, or else the one typed. -/
def keystorePassword (cli : CommandLine) (path : Path) : Action Failure String := do
  match cli.password with
  | some password => return password
  | none => typed ("Password for " ++ path ++ ": ") .noPassword

/-- The password for new keystore files: the one given, or else the one typed twice. The password of
the signer is never used for them. -/
def newPassword (given : Option String) (directory : Path) : Action Failure String := do
  match given with
  | some password => return password
  | none =>
    let password ← typed ("Password for the new keystores in " ++ directory ++ ": ") .noNewPassword
    let again ← typed "Repeat password for the new keystores: " .noNewPassword
    if password ≠ again then throw .passwordsDiffer
    return password

/-! ### Preparing -/

/-- The wallet that signs: the one in the keystore file that is named on the command line, or else
in the configuration. -/
def openWallet (cli : CommandLine) (config : Config) : Action Failure Wallet := do
  match cli.keystore <|> config.keystore with
  | none => throw .noKeystore
  | some path =>
    let password ← keystorePassword cli path
    let wallet ← Context.onKeystore (Wallet.load path password)
    Action.log (event ("loaded keystore " ++ path) [⟨"address", wallet.address, true⟩])
    return wallet

/-- The signer of a command, if it needs one. -/
def signerFor (cli : CommandLine) (config : Config) : Action Failure (Option Signer) := do
  if cli.command.needsSigner then
    let wallet ← openWallet cli config
    return some wallet.signer
  else return none

/-- The context of the command. -/
def prepare (cli : CommandLine) (config : Config) : Action Failure Context := do
  let network := cli.endpoint.getD config.endpoint
  let endpoint ← Action.ofExcept (config.requireEndpoint network)
  Action.log (event "using endpoint"
    [⟨"network", network, false⟩, ⟨"url", endpoint.url, false⟩,
      ⟨"nid", Numeral.decimal endpoint.network.toNat, false⟩])
  let signer ← signerFor cli config
  return {
    network := network
    terms := ⟨endpoint.url, endpoint.network, config.patience, config.limits⟩
    workspace := Workspace.ofRoot cli.root config.directory
    verbose := cli.verbose
    signer := signer }

/-! ### Carrying out -/

/-- The amount of money that a text on the command line denotes. -/
def amountOf (text : String) : Action Failure Loop :=
  Action.orFail .amount (Loop.parse text)

/-- Where the keys of new accounts are to be kept. -/
def storageFor (directory : Option Path) (password : Option String) :
    Action Failure (Option Context.KeyStorage) := do
  match directory with
  | none => return none
  | some directory =>
    let password ← newPassword password directory
    return some ⟨directory, password⟩

/-- Carries out the command. -/
def perform (cli : CommandLine) (config : Config) : Action Failure Unit := do
  match cli.command with
  | .deploy package limit => discard ((← prepare cli config).deploy package limit)
  | .update package limit => discard ((← prepare cli config).update package limit)
  | .invoke package call limit => discard ((← prepare cli config).invoke package call limit)
  | .query package call => discard ((← prepare cli config).query package call)
  | .transfer recipient amount limit =>
    let amount ← amountOf amount
    discard ((← prepare cli config).transfer recipient amount limit)
  | .fund count amount directory password =>
    let amount ← amountOf amount
    let ctx ← prepare cli config
    let storage ← storageFor directory password
    discard (ctx.fund count amount storage)
  | .show data =>
    let object ← Action.orFail .encoding (Rlp.ofText data)
    Action.print object.toJson.pretty

/-- The whole run, for the user with that home directory. -/
def run (cli : CommandLine) (home : Path) : Action Failure Unit := do
  let config ← Config.load home
  perform cli config

end ScoreDeploy.Run
