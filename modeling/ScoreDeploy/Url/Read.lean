import ScoreDeploy.Text.Blank
import ScoreDeploy.Url.Basic
import ScoreDeploy.Url.Escape
import ScoreDeploy.Url.Name

/-!
# Reading addresses

What people write for an address is more than what an address consists of: slashes may be missing or
lean the other way, numbers have many forms, and characters need not be escaped. `read?` finds out
which address is meant. Addresses of the web and of files are read more freely than others, for
which nothing is known about what comes after the scheme.
-/

namespace ScoreDeploy.Url

/-! ### Machines -/

/-- The machine that a text means in an address of the web: a number between brackets, or else,
after its escapes are resolved, a number between points or a name. -/
def webHost? (cs : List Char) : Option Host :=
  match cs with
  | '[' :: inside => do
    guard (inside.getLast? == some ']')
    return .ipv6 (← Ipv6.ofText? inside.dropLast)
  | cs => do
    let labels ← Name.labels? (← Bytes.toText? (unescaped cs))
    let name := List.intercalate ['.'] labels
    guard (!name.isEmpty)
    if Ipv4.isMeant labels then return .ipv4 (← Ipv4.ofParts? labels)
    else return .name (String.ofList name)

/-- The machine that a text means in any other address. -/
def plainHost? (cs : List Char) : Option Host :=
  match cs with
  | '[' :: inside => do
    guard (inside.getLast? == some ']')
    return .ipv6 (← Ipv6.ofText? inside.dropLast)
  | cs => do
    guard (cs.all fun c => c != '\x00' && !" #/:<>?@[\\]^|".toList.contains c)
    return .name (escaped "" cs)

/-- The number of the service after a colon; without digits, and where it is the usual one, it is
not kept. -/
def service? (scheme : String) (cs : List Char) : Option (Option UInt16) := do
  guard (cs.all Char.isDigit)
  if cs.isEmpty then return none
  let n ← (Numeral.read 10 UInt16.size cs).toOption
  let service := UInt16.ofNat n
  return if webServices.lookup scheme = some service then none else some service

/-- Cuts a text before the first colon that does not stand in brackets. -/
def cutAtService (inBrackets : Bool) : List Char → List Char × List Char
  | [] => ([], [])
  | c :: rest =>
    if c = ':' ∧ inBrackets = false then ([], c :: rest)
    else
      let (host, more) := cutAtService (if c = '[' then true else if c = ']' then false
        else inBrackets) rest
      (c :: host, more)

/-- The user that a text means. An empty password counts as none. -/
def User.ofText (cs : List Char) : User :=
  let password := (cs.dropWhile (· != ':')).drop 1
  ⟨escaped reservedInUser (cs.takeWhile (· != ':')),
    if password.isEmpty then none else some (escaped reservedInUser password)⟩

/-- The user, if any, and the rest of what stands between the slashes before a machine and those
after it. -/
def cutAtUser (cs : List Char) : Option (List Char) × List Char :=
  let host := (cs.reverse.takeWhile (· != '@')).reverse
  if host.length = cs.length then (none, cs)
  else (some (cs.take (cs.length - host.length - 1)), host)

/-! ### Paths -/

/-- Whether a component of a path stays where it is. -/
def isHere (component : String) : Bool :=
  component == "." || component.toLower == "%2e"

/-- Whether a component of a path leads one up. -/
def isUp (component : String) : Bool :=
  ["..", ".%2e", "%2e.", "%2e%2e"].contains component.toLower

/-- Whether a component is the letter of a drive. -/
def isDrive (component : String) : Bool :=
  match component.toList with
  | [letter, mark] => letter.isAlpha && (mark == ':' || mark == '|')
  | _ => false

/-- The components that are left when one goes up. Nothing leads out of a drive. -/
def above : List String → List String
  | [] => []
  | last :: before => if isDrive last then last :: before else before

/-- The components of a path without those that are only points; `before` holds the earlier ones,
the last one first. -/
def resolve : (before : List String) → List String → List String
  | before, [] => before.reverse
  | before, [last] =>
    if isUp last then ("" :: above before).reverse
    else if isHere last then ("" :: before).reverse
    else (last :: before).reverse
  | before, component :: rest =>
    if isUp component then resolve (above before) rest
    else if isHere component then resolve before rest
    else resolve (component :: before) rest

/-- Whether a character separates the components of a path. -/
def isSlash (special : Bool) (c : Char) : Bool :=
  c == '/' || (special && c == '\\')

/-- The resolved components of what stands after the first slash of a path. -/
def components (special : Bool) (cs : List Char) : List String :=
  resolve [] ((Text.parts (isSlash special) cs).map (escaped reservedInPath))

/-- The path with these components. -/
def pathOf (components : List String) : String :=
  "/" ++ String.intercalate "/" components

/-- The components of the path of a file: nothing empty stands at its start, and the letter of a
drive there has a colon. -/
def fileComponents (components : List String) : List String :=
  match components.dropWhile (·.isEmpty) with
  | [] => [""]
  | first :: rest =>
    (if isDrive first then String.ofList (first.toList.take 1 ++ [':']) else first) :: rest

/-! ### Addresses -/

/-- The characters of an address that count: line ends and tabs do not, nor do blanks and controls
at either end. -/
def counting (text : String) : List Char :=
  let cs := text.toList.filter fun c => c != '\t' && c != '\n' && c != '\r'
  Text.dropEndWhile (·.toNat ≤ 0x20) (cs.dropWhile (·.toNat ≤ 0x20))

/-- The scheme at the start of an address in small letters, and what stands after its colon. -/
def scheme? (cs : List Char) : Option (String × List Char) := do
  guard ((cs.head?.map Char.isAlpha).getD false)
  let isInside c := Char.isAlphanum c || c == '+' || c == '-' || c == '.'
  match cs.dropWhile isInside with
  | ':' :: rest => return (String.ofList ((cs.takeWhile isInside).map Char.toLower), rest)
  | _ => none

/-- Whether a character ends the path. -/
def endsPath (c : Char) : Bool :=
  c == '?' || c == '#'

/-- Adds what stands after the path. -/
def withRest (url : Url) (cs : List Char) : Url :=
  let query := (cs.takeWhile (· != '#')).drop 1
  let fragment := (cs.dropWhile (· != '#')).drop 1
  { url with
    query := if cs.head? = some '?'
      then some (escaped (reservedInQuery (isSpecial url.scheme)) query) else none
    fragment := if cs.contains '#' then some (escaped reservedInFragment fragment) else none }

/-- Reads what stands after the slashes before a machine. -/
def readMachine? (scheme : String) (cs : List Char) : Option Url := do
  let special := isSpecial scheme
  let isInside c := !isSlash special c && !endsPath c
  let (given, rest) := cutAtUser (cs.takeWhile isInside)
  let (host, service) := cutAtService false rest
  let user := (given.map User.ofText).getD ⟨"", none⟩
  guard (!host.isEmpty ||
    (!special && service.isEmpty && user.text.isEmpty && given != some []))
  let host ← if special then webHost? host else plainHost? host
  let service ← service? scheme (service.drop 1)
  let rest := cs.dropWhile isInside
  let path := rest.takeWhile fun c => !endsPath c
  return withRest {
    scheme, user, host := some host, service
    path := if path.isEmpty && !special then ""
      else pathOf (components special (path.drop 1)) } (rest.dropWhile fun c => !endsPath c)

/-- Reads what stands after the scheme of a file. -/
def readFile? (cs : List Char) : Option Url := do
  let isInside c := !isSlash true c && !endsPath c
  let (host, rest) :=
    if (cs.take 2).length = 2 ∧ (cs.take 2).all (isSlash true)
        ∧ !isDrive (String.ofList ((cs.drop 2).takeWhile isInside)) then
      ((cs.drop 2).takeWhile isInside, (cs.drop 2).dropWhile isInside)
    else ([], cs.dropWhile (isSlash true))
  let host ← if host.isEmpty then pure (.name "") else webHost? host
  let path := (rest.takeWhile fun c => !endsPath c).dropWhile (isSlash true)
  return withRest {
    scheme := "file", host := some (if host = .name "localhost" then .name "" else host)
    path := pathOf (fileComponents (components true path)) }
    (rest.dropWhile fun c => !endsPath c)

/-- The address that a text means. -/
def read? (text : String) : Option Url := do
  let (scheme, cs) ← scheme? (counting text)
  if scheme = "file" then readFile? cs
  else if isSpecial scheme then readMachine? scheme (cs.dropWhile (isSlash true))
  else
    let path := cs.takeWhile fun c => !endsPath c
    let rest := cs.dropWhile fun c => !endsPath c
    match cs with
    | '/' :: '/' :: cs => readMachine? scheme cs
    | '/' :: _ => return withRest { scheme, path := pathOf (components false (path.drop 1)) } rest
    | _ => return withRest { scheme, path := escaped "" path } rest

end ScoreDeploy.Url
