import ScoreDeploy.Url.Numeric

/-!
# Addresses

An address says how to reach something: the scheme to use, the machine with the number of its
service, and where on that machine it is. `text` gives the address in its usual form.
-/

namespace ScoreDeploy

namespace Url

/-- A machine. -/
inductive Host where
  /-- The machine with a name; without a name, the one at hand. -/
  | name (text : String)
  /-- The machine with a number of four bytes. -/
  | ipv4 (address : Ipv4)
  /-- The machine with a number of sixteen bytes. -/
  | ipv6 (address : Ipv6)
deriving DecidableEq

/-- The text of a machine in an address. -/
def Host.text : Host → String
  | .name text => text
  | .ipv4 address => address.text
  | .ipv6 address => "[" ++ address.text ++ "]"

/-- Somebody who asks for something. -/
structure User where
  name : String
  password : Option String := none
deriving DecidableEq

/-- The text of a user in an address, with the mark after it. -/
def User.text (user : User) : String :=
  match user.password with
  | none => if user.name.isEmpty then "" else user.name ++ "@"
  | some password => user.name ++ ":" ++ password ++ "@"

end Url

/-- An address. All of its texts are escaped. -/
structure Url where
  scheme : String
  /-- Who asks. -/
  user : Url.User := ⟨"", none⟩
  /-- The machine, if one is named at all. -/
  host : Option Url.Host := none
  /-- The number of the service, unless it is the usual one. -/
  service : Option UInt16 := none
  /-- What is asked for. -/
  path : String
  /-- What stands behind a question mark. -/
  query : Option String := none
  /-- What stands behind a `#`. -/
  fragment : Option String := none
deriving DecidableEq

namespace Url

/-- The schemes of the web, with the number of the usual service of each. -/
def webServices : List (String × UInt16) :=
  [("http", 80), ("https", 443), ("ws", 80), ("wss", 443), ("ftp", 21)]

/-- Whether a scheme is one of the web, or one for files, which are written like those. -/
def isSpecial (scheme : String) : Bool :=
  scheme == "file" || (webServices.lookup scheme).isSome

/-- A text behind its mark, if there is one. -/
def marked (mark : String) : Option String → String
  | none => ""
  | some text => mark ++ text

/-- The machine with who asks it and for which service, as it stands in an address. A path that
starts with two slashes would look like a machine, so a point is put before it. -/
def authority (url : Url) : String :=
  match url.host with
  | some host =>
    "//" ++ url.user.text ++ host.text ++
      marked ":" (url.service.map fun n => Numeral.decimal n.toNat)
  | none => if "//".toList.isPrefixOf url.path.toList then "/." else ""

/-- What is asked for, with what stands behind the question mark. -/
def request (url : Url) : String :=
  url.path ++ marked "?" url.query

/-- An address as a text. -/
def text (url : Url) : String :=
  url.scheme ++ ":" ++ url.authority ++ url.request ++ marked "#" url.fragment

end Url

end ScoreDeploy
