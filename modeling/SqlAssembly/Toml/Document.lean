import SqlAssembly.Toml.Scalar

/-! Reading a TOML document: a sequence of lines, each of them a header, an assignment or neither.
Headers open tables, assignments add to the table that was opened last.
-/

namespace SqlAssembly.Toml

def isBare (c : Char) : Bool :=
  c.isAlphanum || c == '_' || c == '-'

/-- One key at the start of a text, bare or quoted, and what follows it. -/
def key? (s : Text) : Option (Text × Text) :=
  match s with
  | '"' :: rest => basicString? (rest.length + 1) rest
  | '\x27' :: rest => literalString? rest
  | _ =>
      let bare := s.takeWhile isBare
      if bare.isEmpty then none else some (bare, s.dropWhile isBare)

/-- A dotted key at the start of a text, and what follows it and the blanks after it. -/
def path? : Nat → Text → Option (List Text × Text)
  | 0, _ => none
  | fuel + 1, s => do
      let (key, rest) ← key? (skipBlanks s)
      match skipBlanks rest with
      | '.' :: rest => do
          let (path, rest) ← path? fuel rest
          some (key :: path, rest)
      | rest => some ([key], rest)

mutual

/-- The value at the start of a text, and what follows it. -/
def value? : Nat → Text → Option (Toml × Text)
  | 0, _ => none
  | fuel + 1, s =>
      match s with
      | '[' :: rest => (items? fuel rest).map fun (items, rest) => (array items, rest)
      | '\x7b' :: rest => (fields? fuel [] rest).map fun (t, rest) => (table .inline t, rest)
      | s =>
          match string? s with
          | some (t, rest) => some (text t, rest)
          | none => do
              let (head, rest) := word s
              let value ← ofWord? head
              some (value, rest)

/-- The items up to the closing bracket of an array, and what follows it. -/
def items? : Nat → Text → Option (List Toml × Text)
  | 0, _ => none
  | fuel + 1, s => do
      match ← skipLines? (s.length + 1) s with
      | ']' :: rest => some ([], rest)
      | rest => do
          let (item, rest) ← value? fuel rest
          match ← skipLines? (rest.length + 1) rest with
          | ',' :: rest => do
              let (items, rest) ← items? fuel rest
              some (item :: items, rest)
          | ']' :: rest => some ([item], rest)
          | _ => none

/-- The fields up to the closing brace of an inline table, added to those before them, and what
follows it.
-/
def fields? : Nat → Entries → Text → Option (Entries × Text)
  | 0, _, _ => none
  | fuel + 1, entries, s => do
      match ← skipLines? (s.length + 1) s with
      | '\x7d' :: rest => some (entries, rest)
      | rest => do
          let (path, rest) ← path? (rest.length + 1) rest
          match rest with
          | '=' :: rest => do
              let (value, rest) ← value? fuel (skipBlanks rest)
              let entries ← assign path value .inline entries
              match ← skipLines? (rest.length + 1) rest with
              | ',' :: rest => fields? fuel entries rest
              | '\x7d' :: rest => some (entries, rest)
              | _ => none
          | _ => none

end

/-- What follows the end of a line: blanks, perhaps a comment, and a line break or nothing. -/
def lineRest? (s : Text) : Option Text := do
  let rest ← skipComment? (skipBlanks s)
  match rest with
  | [] => some []
  | rest => lineBreak? rest

/-- The document as read so far: its tables, and the path of the one that was opened last. -/
structure Document where
  root : Entries := []
  current : List Text := []

/-- The document after one more line that is not empty, and what follows that line. -/
def line? (d : Document) (s : Text) : Option (Document × Text) :=
  match s with
  | '[' :: '[' :: rest => do
      let (path, rest) ← path? (rest.length + 1) rest
      match rest with
      | ']' :: ']' :: rest => do
          let root ← openElement path d.root
          some (⟨root, path⟩, ← lineRest? rest)
      | _ => none
  | '[' :: rest => do
      let (path, rest) ← path? (rest.length + 1) rest
      match rest with
      | ']' :: rest => do
          let root ← openTable path d.root
          some (⟨root, path⟩, ← lineRest? rest)
      | _ => none
  | _ => do
      let (path, rest) ← path? (s.length + 1) s
      match rest with
      | '=' :: rest => do
          let (value, rest) ← value? (rest.length + 1) (skipBlanks rest)
          let root ← changeAt false (assign path value) d.current .header d.root
          some (⟨root, d.current⟩, ← lineRest? rest)
      | _ => none

/-- The document after all lines of a text. -/
def lines? : Nat → Document → Text → Option Document
  | 0, _, _ => none
  | fuel + 1, d, s => do
      match ← skipLines? (s.length + 1) s with
      | [] => some d
      | rest => do
          let (d, rest) ← line? d rest
          lines? fuel d rest

/-- The mark that may stand before the first line. -/
def byteOrderMark : Char := '\uFEFF'

/-- The top table of a document, if the text is one. -/
def document? (s : Text) : Option Entries :=
  let body := match s with
    | c :: rest => if c = byteOrderMark then rest else c :: rest
    | [] => []
  (lines? (body.length + 1) {} body).map (·.root)

end SqlAssembly.Toml
