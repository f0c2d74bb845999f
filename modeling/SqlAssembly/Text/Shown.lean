import SqlAssembly.Text.Hidden

/-! A shown text stands between double quotes with everything a reader could not see or could
misread written as an escape, so that a message can display any text on one line.
-/

namespace SqlAssembly.Text

/-- A character by its code point, as a backslash, a u and lowercase hexadecimal in braces. -/
def codePoint (c : Char) : Text :=
  "\\u\x7b".toList ++ Nat.toDigits 16 c.toNat ++ "\x7d".toList

/-- How one character is written in a shown text. -/
def shownChar (c : Char) : Text :=
  if c = doubleQuote ∨ c = backslash then [backslash, c]
  else if c = '\t' then "\\t"
  else if c = '\n' then "\\n"
  else if c = '\r' then "\\r"
  else if c = '\x00' then "\\0"
  else if isHidden c then codePoint c
  else [c]

/-- The text as a reader is shown it, between double quotes. -/
def shown (s : Text) : Text :=
  doubleQuote :: s.flatMap shownChar ++ [doubleQuote]

end SqlAssembly.Text
