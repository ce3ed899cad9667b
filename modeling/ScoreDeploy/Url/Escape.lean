import ScoreDeploy.Bytes.Hex
import ScoreDeploy.Text.Numeral

/-!
# Escapes in addresses

An address consists of printable ASCII characters. Any other character is written as the bytes of
its UTF-8 form, each as a percent sign and two digits in hexadecimal, and so are those characters
that would mean something else in the part of the address where they stand.
-/

namespace ScoreDeploy.Url

/-- A character as it stands in a part where the reserved ones are escaped. -/
def escapedChar (reserved : String) (c : Char) : List Char :=
  if 0x20 ≤ c.toNat ∧ c.toNat < 0x7F ∧ !reserved.toList.contains c then [c]
  else
    (Bytes.utf8Chars [c]).flatMap fun b => '%' :: (Hex.encodeByte b).map Char.toUpper

/-- A text as it stands in a part where the reserved characters are escaped. -/
def escaped (reserved : String) (cs : List Char) : String :=
  String.ofList (cs.flatMap (escapedChar reserved))

/-- What is escaped behind a `#`. -/
def reservedInFragment : String := " \"<>`"

/-- What is escaped in a path. -/
def reservedInPath : String := reservedInFragment ++ "#?\x7b\x7d"

/-- What is escaped in the name and the password of a user. -/
def reservedInUser : String := reservedInPath ++ "/:;=@[\\]^|"

/-- What is escaped in a query, for nodes of the web also the single quote. -/
def reservedInQuery (ofWeb : Bool) : String :=
  if ofWeb then " \"#<>'" else " \"#<>"

/-- The bytes that a text with escapes stands for. A percent sign without two digits behind it
stands for itself. -/
def unescaped : List Char → Bytes
  | [] => []
  | '%' :: high :: low :: rest =>
    match Numeral.digit? 16 high, Numeral.digit? 16 low with
    | some h, some l => UInt8.ofNat (h * 16 + l) :: unescaped rest
    | _, _ => 0x25 :: unescaped (high :: low :: rest)
  | c :: rest => Bytes.utf8Chars [c] ++ unescaped rest

example : escaped reservedInPath "a b/é".toList = "a%20b/%C3%A9" := by decide +kernel

example : Bytes.toText? (unescaped "%31%32%zz".toList) = some "12%zz" := by decide +kernel

end ScoreDeploy.Url
