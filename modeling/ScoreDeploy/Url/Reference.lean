import ScoreDeploy.Text.Numeral
import ScoreDeploy.Text.Parts
import ScoreDeploy.Url.Numeric

/-!
# References to addresses

A reference may leave out the first parts of an address, which are then those of the address where
the reference was found. It has to be written as an address is, with everything escaped that has to
be. `read?` takes one apart, and `resolve` gives the whole address.
-/

namespace ScoreDeploy.Url

/-- An address, or the last parts of one, as they are written. -/
structure Reference where
  /-- The scheme, without its colon. -/
  scheme : Option (List Char) := none
  /-- What stands between two slashes and the path. -/
  machine : Option (List Char) := none
  path : List Char
  /-- What stands behind a question mark. -/
  query : Option (List Char) := none
  /-- What stands behind a `#`. -/
  fragment : Option (List Char) := none
deriving DecidableEq, Repr

namespace Reference

/-! ### Parts -/

/-- The text before a mark and the one after it, if the mark is there. -/
def cutAt (mark : Char) (cs : List Char) : List Char × Option (List Char) :=
  (cs.takeWhile (· != mark),
    if cs.contains mark then some ((cs.dropWhile (· != mark)).drop 1) else none)

/-- Whether a text has only characters that mean nothing by themselves, those in `more`, and
escapes. -/
def isWritten (more : String) : List Char → Bool
  | '%' :: high :: low :: rest =>
    (Numeral.digit? 16 high).isSome && (Numeral.digit? 16 low).isSome && isWritten more rest
  | c :: rest =>
    (c.isAlphanum || "-._~!$&'()*+,;=".toList.contains c || more.toList.contains c) &&
      isWritten more rest
  | [] => true

/-- Whether a text is a scheme. -/
def isScheme : List Char → Bool
  | [] => false
  | c :: rest => c.isAlpha && rest.all fun c => c.isAlphanum || "+-.".toList.contains c

/-- Whether a text is a number in brackets, perhaps one of a kind that is still to come. -/
def isBracketed (cs : List Char) : Bool :=
  (Ipv6.ofText? cs).isSome ||
    match cs with
    | v :: rest =>
      let (kind, address) := cutAt '.' rest
      v.toLower == 'v' && !kind.isEmpty && kind.all (fun c => (Numeral.digit? 16 c).isSome) &&
        address.any fun cs => !cs.isEmpty && !cs.contains '%' && isWritten ":" cs
    | [] => false

/-- Whether a text tells who asks, a machine, and a number of a service. Only the machine has to be
there, and it may be empty. -/
def isMachine (cs : List Char) : Bool :=
  let (user, rest) :=
    match cutAt '@' cs with
    | (user, some rest) => (user, rest)
    | (rest, none) => ([], rest)
  let isService (cs : List Char) : Bool := cs.isEmpty || cs.head? == some ':' &&
    (cs.drop 1).all Char.isDigit
  isWritten ":" user &&
    match rest with
    | '[' :: inside =>
      match cutAt ']' inside with
      | (inside, some service) => isBracketed inside && isService service
      | (_, none) => false
    | rest => isWritten "" (rest.takeWhile (· != ':')) && isService (rest.dropWhile (· != ':'))

/-- The reference that a text means. Before its first slash there is no colon but that of the
scheme. -/
def read? (cs : List Char) : Option Reference := do
  let (cs, fragment) := cutAt '#' cs
  let (cs, query) := cutAt '?' cs
  let (scheme, rest) ←
    if (cs.takeWhile (· != '/')).contains ':' then
      let (scheme, rest) := cutAt ':' cs
      guard (isScheme scheme)
      pure (some scheme, rest.getD [])
    else pure (none, cs)
  let (machine, path) :=
    match rest with
    | '/' :: '/' :: rest => (some (rest.takeWhile (· != '/')), rest.dropWhile (· != '/'))
    | path => (none, path)
  guard (machine.all isMachine && isWritten ":@/" path)
  guard (query.all (isWritten ":@/?") && fragment.all (isWritten ":@/?"))
  return ⟨scheme, machine, path, query, fragment⟩

/-- A text behind its mark, if there is one. -/
def marked (mark : String) : Option (List Char) → List Char
  | none => []
  | some cs => mark.toList ++ cs

/-- What is asked for, with what stands behind the question mark. -/
def request (r : Reference) : List Char :=
  r.path ++ marked "?" r.query

/-- A reference as a text. -/
def text (r : Reference) : List Char :=
  (r.scheme.map (· ++ [':'])).getD [] ++ marked "//" r.machine ++ r.request ++
    marked "#" r.fragment

/-! ### Resolving -/

/-- The components of a path without those that are only points; `before` holds the earlier ones,
the last one first. -/
def resolveParts (before : List (List Char)) : List (List Char) → List (List Char)
  | [] => before.reverse
  | [last] =>
    if last = ['.', '.'] then ([] :: before.tail).reverse
    else if last = ['.'] then ([] :: before).reverse
    else (last :: before).reverse
  | part :: rest =>
    if part = ['.', '.'] then resolveParts before.tail rest
    else if part = ['.'] then resolveParts before rest
    else resolveParts (part :: before) rest

/-- A path from the top without components that are only points. -/
def resolvePath (path : List Char) : List Char :=
  match path with
  | '/' :: rest => '/' :: List.intercalate ['/'] (resolveParts [] (Text.parts (· == '/') rest))
  | path => path

/-- A path that starts where another one ends. -/
def follow (base path : List Char) : List Char :=
  let before := (base.reverse.dropWhile (· != '/')).reverse
  (if before.isEmpty then ['/'] else before) ++ path

/-- The whole address that a reference in an address stands for. -/
def resolve (base r : Reference) : Reference :=
  if r.scheme.isSome then { r with path := resolvePath r.path }
  else
    let r := { r with scheme := base.scheme }
    if r.machine.isSome then { r with path := resolvePath r.path }
    else
      let r := { r with machine := base.machine }
      if r.path.isEmpty then
        { r with path := base.path, query := if r.query.isSome then r.query else base.query }
      else if r.path.head? = some '/' then { r with path := resolvePath r.path }
      else { r with path := resolvePath (follow base.path r.path) }

/-- The whole address that a text in another address stands for. -/
def resolve? (base given : String) : Option Reference := do
  return resolve (← read? base.toList) (← read? given.toList)

example : (resolve? "http://a/b/c/d;p?q" "../../g?y/./x").map (·.text) =
    some "http://a/g?y/./x".toList := by
  decide +kernel

example : (resolve? "http://a/b/c/d;p?q" "").map (·.text) = some "http://a/b/c/d;p?q".toList := by
  decide +kernel

example : (resolve? "http://a/b/c/d;p?q" "a b").isNone = true := by
  decide +kernel

end Reference

end ScoreDeploy.Url
