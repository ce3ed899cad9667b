import ScoreDeploy.Text.Hidden

/-!
# Quoted text

Messages and log fields quote a text so that every character of it can be told: the quote, the
backslash, and the usual control characters have two-character escapes, any other hidden character
is written as its code point in braces, and all the rest stands for itself.
-/

namespace ScoreDeploy.Text

/-- The escape of a code point, `\u` and its lowercase hexadecimal digits in braces. -/
def codePointEscape (c : Char) : List Char :=
  '\\' :: 'u' :: '\x7b' :: Nat.toDigits 16 c.toNat ++ ['\x7d']

/-- What stands for a character between two marks `quote`. -/
def escaped (quote c : Char) : List Char :=
  if c = quote ∨ c = '\\' then ['\\', c]
  else if c = '\n' then ['\\', 'n']
  else if c = '\t' then ['\\', 't']
  else if c = '\r' then ['\\', 'r']
  else if c = '\x00' then ['\\', '0']
  else if isHidden c then codePointEscape c
  else [c]

/-- The text between double quotes. -/
def quoted (s : String) : String :=
  String.ofList ('"' :: s.toList.flatMap (escaped '"') ++ ['"'])

/-- The character between single quotes. -/
def quotedChar (c : Char) : String :=
  String.ofList ('\'' :: escaped '\'' c ++ ['\''])

end ScoreDeploy.Text
