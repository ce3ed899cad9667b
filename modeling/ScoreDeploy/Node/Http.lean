import ScoreDeploy.Bytes.Base64
import ScoreDeploy.Node.Basic
import ScoreDeploy.Url.Read
import ScoreDeploy.Url.Reference

/-!
# Messages over a connection

A request is one message of HTTP 1.0, after whose answer the connection is closed, so that the reply
is everything that comes back. `Target.ofText` finds out where the messages for an address go, and
`message` writes one.
-/

namespace ScoreDeploy.Node.Http

/-! ### Targets -/

/-- Where a message goes. -/
structure Target where
  /-- Whether the connection has to be encrypted. -/
  isSecure : Bool
  /-- The machine. -/
  host : Url.Host
  /-- The number of the service on that machine. -/
  service : UInt16
  /-- The path on that machine, with the query after it. -/
  path : String
  /-- The name and the password of the user, with a colon between them. -/
  user : Option Bytes
  /-- The whole address, as it is shown. -/
  address : String
  /-- The address in which the references of a response are found. -/
  base : String
deriving DecidableEq

/-- The name and the password of the user of an address, if they are texts. -/
def userOf (url : Url) : Option Bytes := do
  let name := Url.unescaped url.user.name.toList
  guard (Bytes.toText? name).isSome
  let password := (url.user.password.map fun s => Url.unescaped s.toList).filter fun bytes =>
    (Bytes.toText? bytes).isSome
  guard (!name.isEmpty || password.isSome)
  return name ++ Bytes.ofText ":" ++ password.getD []

/-- Whether the name of a machine may stand in a message. -/
def isPostable (host : Url.Host) : Bool :=
  host.text.toList.all fun c => !"\"`\x7b\x7d".toList.contains c

/-- The greatest length of an address that messages go to. -/
def maxAddress : Nat := 65534

/-- Where the messages for an address go. The user is told to the machine, but not shown. -/
def Target.ofText (text : String) : Except NetworkError Target :=
  match Url.read? text with
  | none => .error .malformed
  | some url =>
    let user := userOf url
    let shown := if user.isSome then { url with user := ⟨"", none⟩ } else url
    match url.host, Url.webServices.lookup url.scheme with
    | some host, some usual =>
      if (url.scheme == "http" || url.scheme == "https") && isPostable host &&
          shown.text.utf8ByteSize ≤ maxAddress then .ok {
        isSecure := url.scheme == "https", host
        service := url.service.getD usual
        path := url.request, user, address := shown.text
        base := { shown with fragment := none }.text }
      else .error (.unsupported shown.text)
    | _, _ => .error (.unsupported shown.text)

/-! ### Messages -/

/-- What a message does: it posts a text, or it only asks. -/
def verb (body : Option String) : String :=
  if body.isSome then "POST" else "GET"

/-- The message that posts a text, or only asks. -/
def message (target : Target) (body : Option String) : Bytes :=
  let user := target.user.map fun bytes => "Authorization: Basic " ++ Base64.encode bytes
  let about := body.map fun text => [
    "Content-Type: application/json",
    "Content-Length: " ++ Numeral.decimal text.utf8ByteSize]
  Bytes.ofText (String.intercalate "\r\n" ([
    verb body ++ " " ++ target.path ++ " HTTP/1.0",
    "Host: " ++ target.host.text ++ ":" ++ Numeral.decimal target.service.toNat] ++
    about.getD [] ++ user.toList ++ ["", body.getD ""]))

end ScoreDeploy.Node.Http
