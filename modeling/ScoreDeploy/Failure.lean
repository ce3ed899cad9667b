import ScoreDeploy.Amount
import ScoreDeploy.Keystore.Basic
import ScoreDeploy.Rlp.Text
import ScoreDeploy.Submission
import ScoreDeploy.Workspace

/-!
# Failures of a run

Whatever goes wrong in a run ends it with a `Failure`. The errors of the parts are kept as they are;
beside them stand the mistakes in how the program is used.
-/

namespace ScoreDeploy

/-- Why a run has failed. -/
inductive Failure where
  /-- Something in the workspace cannot be used. -/
  | workspace (cause : Workspace.Error)
  /-- A transaction has no receipt, or a query no answer. -/
  | submission (cause : Submission.Error)
  /-- A keystore file cannot be used. -/
  | keystore (cause : Keystore.Error)
  /-- A text is no amount of money. -/
  | amount (cause : Loop.Error)
  /-- A text shows no encoded object. -/
  | encoding (cause : Rlp.TextError)
  /-- The command signs transactions, and there is nothing to sign them with. -/
  | noSigner
  /-- A deployment succeeded without telling where the contract landed. -/
  | noContract (package : String)
  /-- The recipient of a transfer is no address. -/
  | badRecipient (text : String)
  /-- Accounts are given money only on local networks. -/
  | notLocal (network : String)
  /-- No endpoint has that name. -/
  | unknownEndpoint (name : String)
  /-- A command signs transactions, and no keystore file is named. -/
  | noKeystore
  /-- The password of the keystore file was not typed. -/
  | noPassword
  /-- The password for new keystore files was not typed. -/
  | noNewPassword
  /-- The password for new keystore files was typed differently the second time. -/
  | passwordsDiffer
  /-- The run was stopped at a question for a password. -/
  | interrupted
  /-- The configuration file is there and cannot be read. -/
  | configUnreadable (path : Path)
  /-- The configuration file does not hold what it should. -/
  | configMalformed (path : Path)

namespace Failure

/-- The wording of a failure. -/
def message : Failure → String
  | workspace cause => cause.message
  | submission cause => cause.message
  | keystore cause => cause.message
  | amount cause => cause.message
  | encoding cause => cause.message
  | noSigner => "this command needs a keystore"
  | noContract package =>
    "transaction for " ++ package ++ " succeeded but returned no scoreAddress"
  | badRecipient text => "invalid recipient address: " ++ text
  | notLocal network =>
    "refusing to fund test accounts on '" ++ network ++ "'; only local endpoints are allowed"
  | unknownEndpoint name => "Invalid endpoint '" ++ name ++ "'"
  | noKeystore =>
    "No keystore configured. Pass --keystore <path> or set defaults.keystore in the config file"
  | noPassword => "reading keystore password"
  | noNewPassword => "reading new keystore password"
  | passwordsDiffer => "new keystore passwords do not match"
  | interrupted => "interrupted"
  | configUnreadable path => "reading " ++ path
  | configMalformed path => "parsing " ++ path

end Failure

end ScoreDeploy
