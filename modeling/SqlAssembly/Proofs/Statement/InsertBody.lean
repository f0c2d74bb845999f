import SqlAssembly.Proofs.Condition.Scanning

/-! Bodies of inserts: column names in parentheses, then the rows, each with its cells in
parentheses. A body is read back as the columns and rows that it was written from, whatever texts
its literals hold.
-/

namespace SqlAssembly

open Reading (Part Reads)

/-- What stands in one place of a row: the bare word NULL, or a literal. -/
inductive Cell where
  | missing
  | literal (text : Text)
deriving DecidableEq

/-- The columns of an insert and its rows, as a reader finds them. -/
structure InsertBody where
  columns : List Text
  rows : List (List Cell)
deriving DecidableEq

-----------------------------------------------------------------------------------------
-- Writing
-----------------------------------------------------------------------------------------

def Cell.text : Cell → Text
  | missing => "NULL"
  | literal s => Text.inQuotes (Literal.escapeText s)

namespace InsertBody

def rowText (row : List Cell) : Text :=
  "(".toList ++ Text.join "," (row.map Cell.text) ++ ")".toList

def text (body : InsertBody) : Text :=
  "(".toList ++ Text.join "," body.columns ++ ") values ".toList
    ++ Text.join "," (body.rows.map rowText)

-----------------------------------------------------------------------------------------
-- Reading
-----------------------------------------------------------------------------------------

/-- The character may stand in a column name: it is no comma, parenthesis or quote. -/
def isNameChar (c : Char) : Bool :=
  !(c == ',' || c == '(' || c == ')' || c == Text.singleQuote || c == Text.doubleQuote
    || c == Text.backtick)

/-- A name of such characters. -/
def IsName (name : Text) : Prop :=
  ∀ c ∈ name, isNameChar c = true

instance (name : Text) : Decidable (IsName name) :=
  decidable_of_iff (name.all isNameChar = true) List.all_eq_true

/-- The names that are left up to the closing parenthesis, when some characters of the first were
read, and the parts behind the parenthesis.
-/
def readNames (name : Text) : List Part → Option (List Text × List Part)
  | .code c :: rest =>
      if c = ')' then some ([name], rest)
      else if c = ',' then (readNames [] rest).map fun (names, rest) => (name :: names, rest)
      else if isNameChar c then readNames (name ++ [c]) rest
      else none
  | _ => none

def missingKeyword : Text := "null"

def valuesKeyword : Text := "values"

end InsertBody

/-- The cell that a token is. -/
def Cell.ofToken? : Grammar.Token → Option Cell
  | .literal s => some (.literal s)
  | .word w => if Grammar.isKeyword InsertBody.missingKeyword w then some .missing else none
  | .symbol _ => none

/-- The token that a cell is written as. -/
def Cell.token : Cell → Grammar.Token
  | missing => .word "NULL"
  | literal s => .literal s

@[simp]
theorem Cell.ofToken?_token (cell : Cell) : ofToken? cell.token = some cell := by
  cases cell with
  | missing => decide
  | literal s => rfl

namespace InsertBody

open Grammar (Token)

/-- The rows that are left when some cells of the first were read. -/
def readRows (row : List Cell) : List Token → Option (List (List Cell))
  | token :: .symbol ',' :: rest =>
      (Cell.ofToken? token).bind fun cell => readRows (row ++ [cell]) rest
  | [token, .symbol ')'] => (Cell.ofToken? token).map fun cell => [row ++ [cell]]
  | token :: .symbol ')' :: .symbol ',' :: .symbol '(' :: rest =>
      (Cell.ofToken? token).bind fun cell =>
        (readRows [] rest).map ((row ++ [cell]) :: ·)
  | _ => none

/-- The rows behind the word values. -/
def readValues : List Token → Option (List (List Cell))
  | .word w :: .symbol '(' :: rest =>
      if Grammar.isKeyword valuesKeyword w then readRows [] rest else none
  | _ => none

/-- The body that a text is. -/
def read? (sql : Text) : Option InsertBody :=
  match Reading.parts sql with
  | some (.code '(' :: rest) => do
      let (columns, rest) ← readNames [] rest
      let rows ← readValues (Grammar.tokensFrom [] rest)
      return ⟨columns, rows⟩
  | _ => none

-----------------------------------------------------------------------------------------
-- Names are read back
-----------------------------------------------------------------------------------------

section Names

variable {name : Text} {names : List Text}

theorem IsName.not_mem (isName : IsName name) {c : Char} (special : isNameChar c = false)
    : c ∉ name := by
  intro member
  rw [isName c member] at special
  cases special

/-- A name is read as code. -/
theorem IsName.reads (isName : IsName name) : Reads name (name.map .code) :=
  Reads.code fun _ member => ne_of_mem_of_not_mem member (isName.not_mem rfl)

/-- The characters of a name are collected, by induction on them. -/
theorem readNames_chars (isName : IsName name) (before : Text) (rest : List Part)
    : readNames before (name.map .code ++ rest) = readNames (before ++ name) rest := by
  induction name generalizing before with
  | nil => simp
  | cons c name ih =>
      have close : c ≠ ')' := ne_of_mem_of_not_mem List.mem_cons_self (isName.not_mem rfl)
      have comma : c ≠ ',' := ne_of_mem_of_not_mem List.mem_cons_self (isName.not_mem rfl)
      have tail := ih (fun d member => isName d (List.mem_cons_of_mem c member)) (before ++ [c])
      rw [List.map_cons, List.cons_append, readNames, if_neg close, if_neg comma,
        if_pos (isName c List.mem_cons_self), tail, List.append_assoc, List.singleton_append]

/-- Joined names are read back up to the closing parenthesis, by induction on them. -/
theorem readNames_join (isName : ∀ n ∈ name :: names, IsName n) (rest : List Part)
    : readNames [] ((Text.join "," (name :: names)).map .code ++ .code ')' :: rest)
      = some (name :: names, rest) := by
  induction names generalizing name with
  | nil =>
      have head := isName name List.mem_cons_self
      rw [Text.join, List.intercalate_singleton, readNames_chars head, readNames, if_pos rfl]
      rfl
  | cons next names ih =>
      have head := isName name List.mem_cons_self
      have tail := ih fun n member => isName n (List.mem_cons_of_mem name member)
      have split
          : (Text.join "," (name :: next :: names)).map Part.code ++ .code ')' :: rest
            = name.map .code
              ++ .code ',' :: ((Text.join "," (next :: names)).map .code
                ++ .code ')' :: rest) := by
        simp [Text.join]
      rw [split, readNames_chars head, readNames, if_neg (by decide), if_pos rfl, tail]
      rfl

/-- Names have no single quotes, and neither do names with commas between them. -/
theorem join_unquoted (isName : ∀ n ∈ names, IsName n)
    : ∀ c ∈ Text.join "," names, c ≠ Text.singleQuote := by
  induction names with
  | nil => simp [Text.join]
  | cons name names ih =>
      have head : ∀ c ∈ name, c ≠ Text.singleQuote := fun _ member =>
        ne_of_mem_of_not_mem member ((isName name List.mem_cons_self).not_mem rfl)
      have tail := ih fun n member => isName n (List.mem_cons_of_mem name member)
      cases names with
      | nil => simpa [Text.join] using head
      | cons next names =>
          intro c member
          rw [Text.join, List.intercalate_cons_cons, List.append_assoc, List.mem_append,
            List.mem_append] at member
          rcases member with within | comma | behind
          · exact head c within
          · rw [List.mem_singleton.mp comma]
            decide
          · exact tail c behind

end Names

-----------------------------------------------------------------------------------------
-- Rows are read back
-----------------------------------------------------------------------------------------

/-- The tokens of a row without its parentheses. -/
def cellTokens (row : List Cell) : List Token :=
  [Token.symbol ','].intercalate (row.map fun cell => [cell.token])

def rowTokens (row : List Cell) : List Token :=
  .symbol '(' :: (cellTokens row ++ [.symbol ')'])

def rowsTokens (rows : List (List Cell)) : List Token :=
  [Token.symbol ','].intercalate (rows.map rowTokens)

/-- The cells of a row are collected up to the last, behind which the row ends and other rows
follow, by induction on the cells.
-/
theorem readRows_cells {behind : List Token} {others : List (List Cell)}
    (ends
      : ∀ row cell, readRows row (cell.token :: behind) = some ((row ++ [cell]) :: others))
    (row : List Cell) (cell : Cell) (cells : List Cell)
    : readRows row (cellTokens (cell :: cells) ++ behind)
      = some ((row ++ cell :: cells) :: others) := by
  induction cells generalizing row cell with
  | nil => simpa [cellTokens] using ends row cell
  | cons next cells ih =>
      have split
          : cellTokens (cell :: next :: cells) ++ behind
            = cell.token :: .symbol ',' :: (cellTokens (next :: cells) ++ behind) := by
        simp [cellTokens]
      rw [split, readRows, Cell.ofToken?_token, Option.bind_some, ih, List.append_assoc,
        List.singleton_append]

/-- Rows that are not empty are read back, by induction on them. -/
theorem readRows_rows {row : List Cell} {rows : List (List Cell)}
    (filled : ∀ r ∈ row :: rows, r ≠ [])
    : ∃ rest,
        rowsTokens (row :: rows) = .symbol '(' :: rest ∧ readRows [] rest = some (row :: rows) := by
  induction rows generalizing row with
  | nil =>
      cases row with
      | nil => exact absurd rfl (filled [] List.mem_cons_self)
      | cons cell cells =>
          have last (r : List Cell) (c : Cell)
              : readRows r [c.token, .symbol ')'] = some [r ++ [c]] := by
            simp [readRows]
          refine ⟨_, ?_, readRows_cells last [] cell cells⟩
          simp [rowsTokens, rowTokens]
  | cons next rows ih =>
      cases row with
      | nil => exact absurd rfl (filled [] List.mem_cons_self)
      | cons cell cells =>
          obtain ⟨rest, opens, reads⟩ := ih fun r member => filled r (List.mem_cons_of_mem _ member)
          have closes (r : List Cell) (c : Cell)
              : readRows r (c.token :: .symbol ')' :: .symbol ',' :: .symbol '(' :: rest)
                = some ((r ++ [c]) :: next :: rows) := by
            simp [readRows, reads]
          refine ⟨_, ?_, readRows_cells closes [] cell cells⟩
          simp only [rowsTokens, List.map_cons, List.intercalate_cons_cons, rowTokens] at opens ⊢
          rw [opens]
          simp

open Grammar (Scans ScansBefore ScansClosed)

theorem scans_cell (cell : Cell) : Scans cell.text [cell.token] := by
  cases cell with
  | missing => exact .word rfl (by decide) (.of_all rfl)
  | literal s => exact ⟨_, Reads.inQuotes s, fun _ _ => rfl⟩

theorem scans_row (row : List Cell) : ScansClosed (rowText row) (rowTokens row) := by
  have opening : ScansClosed "(".toList [.symbol '('] := .fixed rfl fun _ => rfl
  have comma : ScansClosed ",".toList [.symbol ','] := .fixed rfl fun _ => rfl
  have closing : ScansClosed ")".toList [.symbol ')'] := .fixed rfl fun _ => rfl
  have cells := ScansBefore.join comma (fun _ => rfl) row fun cell _ => scans_cell cell
  have whole := opening.closed_append (cells.append closing rfl)
  rw [rowText, List.append_assoc]
  exact whole

/-- What follows the names is scanned as the word values and the rows. -/
theorem scans_values (rows : List (List Cell))
    : Scans (" values ".toList ++ Text.join "," (rows.map rowText))
        (.word valuesKeyword :: rowsTokens rows) := by
  have keyword : ScansClosed " values ".toList [.word valuesKeyword] := .fixed rfl fun _ => rfl
  have comma : ScansClosed ",".toList [.symbol ','] := .fixed rfl fun _ => rfl
  have joined := ScansBefore.join comma (fun _ => rfl) rows fun row _ => (scans_row row).closed
  exact keyword.closed_append joined

-----------------------------------------------------------------------------------------
-- Bodies are read back
-----------------------------------------------------------------------------------------

/-- The body can be written: it has columns with plain names, and rows of which none is empty. -/
structure Written (body : InsertBody) : Prop where
  columns : body.columns ≠ []
  names : ∀ column ∈ body.columns, IsName column
  rows : body.rows ≠ []
  filled : ∀ row ∈ body.rows, row ≠ []

/-- A body is read back as what was written. -/
theorem read?_text {body : InsertBody} (written : body.Written) : read? body.text = some body := by
  obtain ⟨columns, rows⟩ := body
  obtain ⟨someColumns, names, someRows, filled⟩ := written
  obtain ⟨parts, reads, scanned⟩ := scans_values rows
  have spelled
      : text ⟨columns, rows⟩
        = ('(' :: (Text.join "," columns ++ [')']))
          ++ (" values ".toList ++ Text.join "," (rows.map rowText)) := by
    simp [text]
  have code : Reads ('(' :: (Text.join "," columns ++ [')']))
      (.code '(' :: ((Text.join "," columns).map .code ++ [.code ')'])) := by
    have unquoted : ∀ c ∈ '(' :: (Text.join "," columns ++ [')']), c ≠ Text.singleQuote := by
      intro c member
      simp only [List.mem_cons, List.mem_append, List.not_mem_nil, or_false] at member
      rcases member with rfl | within | rfl
      · decide
      · exact join_unquoted names c within
      · decide
    simpa using Reads.code unquoted
  have whole := (code.append reads).parts_eq
  rw [← spelled] at whole
  obtain ⟨column, others, rfl⟩ := List.exists_cons_of_ne_nil someColumns
  obtain ⟨row, more, rfl⟩ := List.exists_cons_of_ne_nil someRows
  obtain ⟨rest, opens, rowsRead⟩ := readRows_rows filled
  have tokens : Grammar.tokensFrom [] parts = .word valuesKeyword :: .symbol '(' :: rest := by
    have ended := scanned [] trivial
    rw [opens] at ended
    simpa [Grammar.tokensFrom, Grammar.wordToken] using ended
  have namesRead := readNames_join names parts
  have valuesRead
      : readValues (.word valuesKeyword :: .symbol '(' :: rest) = some (row :: more) := by
    rw [readValues, if_pos (by decide), rowsRead]
  rw [read?, whole]
  simp only [List.cons_append, List.append_assoc, List.nil_append, namesRead, Option.bind_eq_bind,
    Option.bind_some, tokens, valuesRead]
  rfl

example
    : read? "(name,tag) values (NULL,'NULL'),('a, b',')')"
      = some ⟨["name", "tag"],
          [[.missing, .literal "NULL"], [.literal "a, b", .literal ")"]]⟩ := by
  decide +kernel

end InsertBody

end SqlAssembly
