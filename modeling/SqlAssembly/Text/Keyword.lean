import SqlAssembly.Text.Blank

/-! A keyword is one or more words. A text starts with it when it begins with those words in
order, letters compared without ASCII case, blanks between them, and a word ends there.
-/

namespace SqlAssembly.Text

/-- (dropWord? word s) is what follows word at the start of s, letters compared without ASCII
case.
-/
def dropWord? : Text → Text → Option Text
  | [], s => some s
  | _ :: _, [] => none
  | w :: word, c :: s => if w.toLower = c.toLower then dropWord? word s else none

/-- What follows the blanks at the start of a text that starts with a blank. -/
def dropBlanks? : Text → Option Text
  | [] => none
  | c :: s => if isBlank c then some (trimStart s) else none

/-- What follows the given words, each of them after at least one blank. -/
def dropSpacedWords? : List Text → Text → Option Text
  | [], s => some s
  | word :: others, s => do
      let afterBlanks ← dropBlanks? s
      let afterWord ← dropWord? word afterBlanks
      dropSpacedWords? others afterWord

/-- What follows the words of a keyword at the start of a text. -/
def dropKeyword? (keyword s : Text) : Option Text :=
  match words keyword with
  | [] => some s
  | word :: others => (dropWord? word s).bind (dropSpacedWords? others)

/-- A text is at a word boundary when its first character, if any, is no word character. -/
def atBoundary (s : Text) : Bool :=
  s.head?.all fun c => !isWordChar c

/-- A text starts with a keyword when the keyword's words stand there and end at a boundary. -/
def startsWithKeyword (s keyword : Text) : Bool :=
  (dropKeyword? keyword s).any atBoundary

/-- The trimmed text, with the keyword put in front unless it stands there already. A blank text
stays empty.
-/
def withKeyword (s keyword : Text) : Text :=
  let body := trim s
  if body.isEmpty then []
  else if startsWithKeyword body keyword then body
  else keyword ++ ' ' :: body

end SqlAssembly.Text
