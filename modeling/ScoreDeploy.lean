import ScoreDeploy.Address
import ScoreDeploy.Amount
import ScoreDeploy.Binary64.Basic
import ScoreDeploy.Binary64.Shortest
import ScoreDeploy.Bytes.Base64
import ScoreDeploy.Bytes.Basic
import ScoreDeploy.Bytes.Hex
import ScoreDeploy.Command.Context
import ScoreDeploy.Command.Deployment
import ScoreDeploy.Command.Invocation
import ScoreDeploy.Command.Payment
import ScoreDeploy.CommandLine.Basic
import ScoreDeploy.CommandLine.Help
import ScoreDeploy.CommandLine.Read
import ScoreDeploy.Config
import ScoreDeploy.Crypto.Aes
import ScoreDeploy.Crypto.Keccak
import ScoreDeploy.Crypto.Scrypt
import ScoreDeploy.Crypto.Secp256k1
import ScoreDeploy.Crypto.Sha256
import ScoreDeploy.Endpoint
import ScoreDeploy.Failure
import ScoreDeploy.FileSystem.Basic
import ScoreDeploy.FileSystem.Path
import ScoreDeploy.HexNumeral
import ScoreDeploy.Host
import ScoreDeploy.Json.Basic
import ScoreDeploy.Json.Reader
import ScoreDeploy.Json.Shape
import ScoreDeploy.Json.Text
import ScoreDeploy.Keystore.Basic
import ScoreDeploy.Keystore.Cipher
import ScoreDeploy.Keystore.Store
import ScoreDeploy.Log.Event
import ScoreDeploy.Log.Filter
import ScoreDeploy.Log.Stamp
import ScoreDeploy.Machine
import ScoreDeploy.Main
import ScoreDeploy.Node.Basic
import ScoreDeploy.Node.Client
import ScoreDeploy.Node.Http
import ScoreDeploy.Node.Redirect
import ScoreDeploy.Node.Response
import ScoreDeploy.Node.Url
import ScoreDeploy.Program
import ScoreDeploy.Quantity
import ScoreDeploy.Receipt
import ScoreDeploy.Rlp.Basic
import ScoreDeploy.Rlp.Decode
import ScoreDeploy.Rlp.Text
import ScoreDeploy.Run
import ScoreDeploy.Submission
import ScoreDeploy.Text.Blank
import ScoreDeploy.Text.Composition
import ScoreDeploy.Text.Direction
import ScoreDeploy.Text.Hidden
import ScoreDeploy.Text.Joining
import ScoreDeploy.Text.Mark
import ScoreDeploy.Text.Numeral
import ScoreDeploy.Text.Parts
import ScoreDeploy.Text.Pattern
import ScoreDeploy.Text.Quoted
import ScoreDeploy.Text.Runs
import ScoreDeploy.Text.Word
import ScoreDeploy.Toml.Basic
import ScoreDeploy.Toml.Document
import ScoreDeploy.Toml.Scalar
import ScoreDeploy.Transaction.Basic
import ScoreDeploy.Transaction.Canonical
import ScoreDeploy.Transaction.Parameters
import ScoreDeploy.Transaction.Signed
import ScoreDeploy.Typing
import ScoreDeploy.Url.Basic
import ScoreDeploy.Url.Escape
import ScoreDeploy.Url.Forms
import ScoreDeploy.Url.Name
import ScoreDeploy.Url.Numeric
import ScoreDeploy.Url.Punycode
import ScoreDeploy.Url.Read
import ScoreDeploy.Url.Reference
import ScoreDeploy.Wallet
import ScoreDeploy.Workspace
import ScoreDeploy.Proofs.Bytes.Base64
import ScoreDeploy.Proofs.Bytes.Numeral
import ScoreDeploy.Proofs.Rlp.Grammar
import ScoreDeploy.Proofs.Except
import ScoreDeploy.Proofs.Rlp.Exactness
import ScoreDeploy.Proofs.Rlp.Canonical
import ScoreDeploy.Proofs.Json.Tree
import ScoreDeploy.Proofs.Transaction.Flat
import ScoreDeploy.Proofs.Transaction.CanonicalText
import ScoreDeploy.Proofs.Action
import ScoreDeploy.Proofs.Amount.Parsing
import ScoreDeploy.Proofs.Amount.Formatting
import ScoreDeploy.Proofs.Keystore.Verification
import ScoreDeploy.Proofs.Submission.Confirm
import ScoreDeploy.Proofs.Execution
import ScoreDeploy.Proofs.Submission.Calls
import ScoreDeploy.Proofs.Json.Members
import ScoreDeploy.Proofs.Submission.Params
import ScoreDeploy.Proofs.Questions
import ScoreDeploy.Proofs.Command.Requests
import ScoreDeploy.Proofs.Command.Phases
import ScoreDeploy.Proofs.FileSystem.Place
import ScoreDeploy.Proofs.FileSystem.Tree
import ScoreDeploy.Proofs.FileSystem.Effect
import ScoreDeploy.Proofs.Workspace.Record
import ScoreDeploy.Proofs.Command.Records
import ScoreDeploy.Proofs.Workspace.Reading
import ScoreDeploy.Proofs.Json.Numbers
import ScoreDeploy.Proofs.Json.Written
import ScoreDeploy.Proofs.Json.Reread
import ScoreDeploy.Proofs.Json.Depth
import ScoreDeploy.Proofs.Command.Targets
import ScoreDeploy.Proofs.Transaction.Projection
import ScoreDeploy.Proofs.Transaction.Reading
import ScoreDeploy.Proofs.Transaction.Signature
import ScoreDeploy.Proofs.Transaction.Binding
import ScoreDeploy.Proofs.Bytes.Hex
import ScoreDeploy.Proofs.Keystore.Cipher
import ScoreDeploy.Proofs.FileSystem.Retain
import ScoreDeploy.Proofs.Keystore.Text
import ScoreDeploy.Proofs.Keystore.Store
import ScoreDeploy.Proofs.Command.Funds
import ScoreDeploy.Proofs.Command.Accounts
import ScoreDeploy.Proofs.Json.Document
import ScoreDeploy.Proofs.Json.Literal
import ScoreDeploy.Proofs.Json.DocumentRead
import ScoreDeploy.Proofs.Json.DocumentSkip
import ScoreDeploy.Proofs.Json.DocumentShape
import ScoreDeploy.Proofs.Workspace.Parameters
import ScoreDeploy.Proofs.Command.Parameters
import ScoreDeploy.Proofs.Rlp.Nesting
import ScoreDeploy.Proofs.Keystore.Unlocking
import ScoreDeploy.Proofs.Workspace.Keeping
import ScoreDeploy.Proofs.Command.Conditions
import ScoreDeploy.Proofs.Rlp.Extension
import ScoreDeploy.Proofs.Rlp.Checked
import ScoreDeploy.Proofs.Submission.Replies
import ScoreDeploy.Proofs.Keystore.Opening
import ScoreDeploy.Proofs.Keystore.Loading
import ScoreDeploy.Proofs.Keystore.Rereading
import ScoreDeploy.Proofs.Text.Trimming
import ScoreDeploy.Proofs.Text.Numeral
import ScoreDeploy.Proofs.HexNumeral
import ScoreDeploy.Proofs.Guarded
import ScoreDeploy.Proofs.Node.Url
import ScoreDeploy.Proofs.Rlp.Shown
import ScoreDeploy.Proofs.Command.Money
