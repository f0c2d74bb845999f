import SqlAssembly.Sqlite.Command
import SqlAssembly.Sqlite.Token

/-! Reading commands from tokens. A reader takes tokens from the front of a list or refuses; a
command is read from all tokens of its statement, and whatever is not understood is refused.
-/

namespace SqlAssembly.Sqlite

abbrev Reader := StateT (List Token) Option

namespace Reader

/-- Take the next token if it is accepted. -/
def take? {α : Type} (accept : TokenKind → Option α) : Reader (Option α) := fun tokens =>
  match tokens with
  | [] => some (none, [])
  | t :: rest =>
      match accept t.kind with
      | some a => some (some a, rest)
      | none => some (none, t :: rest)

/-- Take the next token, which must be accepted. -/
def take {α : Type} (accept : TokenKind → Option α) : Reader α := do
  match ← take? accept with
  | some a => return a
  | none => failure

/-- The token is the given keyword, letters compared without ASCII case. -/
def isKeyword (keyword : Text) : TokenKind → Bool
  | .word s => s.map Char.toLower == keyword
  | _ => false

/-- The token is one of the given symbols. -/
def isSymbol (symbols : List Text) : TokenKind → Bool
  | .symbol s => symbols.contains s
  | _ => false

/-- Take a keyword if it comes next, and tell whether it did. -/
def keyword? (keyword : Text) : Reader Bool := do
  return (← take? fun kind => if isKeyword keyword kind then some () else none).isSome

/-- Take a symbol if it comes next, and tell whether it did. -/
def symbol? (symbols : List Text) : Reader Bool := do
  return (← take? fun kind => if isSymbol symbols kind then some () else none).isSome

/-- Take a keyword, which must come next. -/
def keyword (keyword : Text) : Reader Unit := do
  if ← keyword? keyword then return () else failure

/-- Take a symbol, which must come next. -/
def symbol (s : Text) : Reader Unit := do
  if ← symbol? [s] then return () else failure

/-- At most so many items with commas between them. -/
def itemsUpTo {α : Type} (item : Reader α) : Nat → Reader (List α)
  | 0 => failure
  | fuel + 1 => do
      let first ← item
      if ← symbol? [","] then return first :: (← itemsUpTo item fuel) else return [first]

def items {α : Type} (item : Reader α) : Reader (List α) := do
  itemsUpTo item (← get).length

def parenthesized {α : Type} (item : Reader α) : Reader (List α) := do
  symbol "("
  let list ← items item
  symbol ")"
  return list

/-- The words that cannot be names unless they are quoted. -/
def reserved : List Text :=
  ["select", "from", "where", "order", "group", "having", "limit", "union", "as", "and", "or",
   "not", "in", "is", "null", "insert", "into", "values", "update", "set", "delete", "commit",
   "on", "join"]

def nameOf? : TokenKind → Option Text
  | .word s => if reserved.contains (s.map Char.toLower) then none else some s
  | .quotedName s => some s
  | .doubleQuoted s => some s
  | _ => none

/-- The column that a name stands for. -/
def column : Reader Column :=
  take fun kind => (nameOf? kind).bind Column.ofName?

def tableName : Text := "t"

/-- The table, which is the only one. -/
def table : Reader Unit :=
  take fun kind =>
    match nameOf? kind with
    | some name => if name.map Char.toLower = tableName then some () else none
    | none => none

/-- The constant that a token is. A question mark that was left open is null, and a name in double
quotes that no column has is a text.
-/
def constant? : TokenKind → Option Cell
  | .text s => some (.text s)
  | .blob bytes => some (.blob bytes)
  | .numeral n => n.cell? false
  | .symbol ['?'] => some .null
  | .word s =>
      match String.ofList (s.map Char.toLower) with
      | "null" => some .null
      | "true" => some (.integer 1)
      | "false" => some (.integer 0)
      | _ => none
  | .doubleQuoted s => some (.text s)
  | _ => none

/-- The column or else the constant that a token is. Columns can be read only in a table. -/
def leaf? (inTable : Bool) (kind : TokenKind) : Option Expression :=
  match if inTable then (nameOf? kind).bind Column.ofName? else none with
  | some c => some (.column c)
  | none => (constant? kind).map .literal

/-- The negative number that a token is after a minus sign. -/
def negative? : TokenKind → Option Expression
  | .numeral n => (n.cell? true).map .literal
  | _ => none

/-- A constant, a column, a number with a sign or an expression in parentheses. -/
def operand (inTable : Bool) (inner : Reader Expression) : Reader Expression := do
  if ← symbol? ["("] then
    let e ← inner
    symbol ")"
    return e
  else if ← symbol? ["-"] then take negative?
  else
    let _ ← symbol? ["+"]
    take (leaf? inTable)

def comparison? : TokenKind → Option Comparison
  | .symbol s =>
      match String.ofList s with
      | "=" => some .equal
      | "==" => some .equal
      | "<>" => some .notEqual
      | "!=" => some .notEqual
      | "<" => some .less
      | "<=" => some .lessEqual
      | ">" => some .greater
      | ">=" => some .greaterEqual
      | _ => none
  | _ => none

/-- An operand that equals one of the members. -/
def member (e : Expression) (members : List Expression) : Expression :=
  members.foldl (fun all m => .disjunction all (.compare .equal e m)) (.literal (.integer 0))

/-- An operand that is compared, looked up in a list of members or asked for null, or stands alone.
-/
def predicate (operand : Reader Expression) : Reader Expression := do
  let e ← operand
  match ← take? comparison? with
  | some comparison => return .compare comparison e (← operand)
  | none =>
      if ← keyword? "is" then
        let negated ← keyword? "not"
        keyword "null"
        return if negated then .negation (.isNull e) else .isNull e
      else
        let negated ← keyword? "not"
        if ← keyword? "in" then
          let members ← parenthesized operand
          return if negated then .negation (member e members) else member e members
        else if negated then failure
        else return e

/-- A predicate after any number of negations. -/
def negated (inner : Reader Expression) : Nat → Reader Expression
  | 0 => failure
  | fuel + 1 => do
      if ← keyword? "not" then return .negation (← negated inner fuel) else inner

/-- At most so many parts with a keyword between them, joined from the left. -/
def joined (word : Text) (join : Expression → Expression → Expression)
    (part : Reader Expression) : Nat → Expression → Reader Expression
  | 0, _ => failure
  | fuel + 1, left => do
      if ← keyword? word then joined word join part fuel (join left (← part)) else return left

/-- An expression of at most so many tokens. -/
def expressionUpTo (inTable : Bool) : Nat → Reader Expression
  | 0 => failure
  | fuel + 1 => do
      let factor := negated (predicate (operand inTable (expressionUpTo inTable fuel))) (fuel + 1)
      let term := do joined "and" .conjunction factor (fuel + 1) (← factor)
      joined "or" .disjunction term (fuel + 1) (← term)

def expression (inTable : Bool) : Reader Expression := do
  expressionUpTo inTable ((← get).length + 1)

def condition : Reader (Option Expression) := do
  if ← keyword? "where" then return some (← expression true) else return none

def alias? : Reader (Option Text) := do
  let nameOrText (kind : TokenKind) : Option Text :=
    match kind with
    | .text s => some s
    | kind => nameOf? kind
  if ← keyword? "as" then return some (← take nameOrText) else take? nameOrText

/-- The name of an item that was given none: the name of its column, or its source. -/
def nameOfItem (e : Option Expression) (source : List Token) : Text :=
  match e with
  | some (.column c) => c.text
  | _ => Token.sourceText source

/-- What an item is without its name. -/
inductive Measure where
  | count
  | sum (e : Expression)
  | value (e : Expression)

/-- The item of a measure and a name. -/
def Measure.item (measure : Measure) (name : Text) : Item :=
  match measure with
  | count => .count name
  | sum e => .sum e name
  | value e => .value e name

/-- Two tokens that open a call of the given function. -/
def call? (function : Text) : Reader Bool := fun tokens =>
  match tokens with
  | name :: opening :: rest =>
      if isKeyword function name.kind && isSymbol ["("] opening.kind then some (true, rest)
      else some (false, tokens)
  | _ => some (false, tokens)

def measure (inTable : Bool) : Reader Measure := do
  if ← call? "count" then
    symbol "*"
    symbol ")"
    return .count
  else if ← call? "sum" then
    let e ← expression inTable
    symbol ")"
    return .sum e
  else return .value (← expression inTable)

def item (inTable : Bool) : Reader Item := do
  if inTable then
    if ← symbol? ["*"] then return .everything
  let before ← get
  let m ← measure inTable
  let after ← get
  let source := before.take (before.length - after.length)
  let expression := match m with
    | .value e => some e
    | _ => none
  return m.item ((← alias?).getD (nameOfItem expression source))

def orderTerm (inTable : Bool) : Reader (Expression × Direction) := do
  let e ← expression inTable
  if ← keyword? "desc" then return (e, .descending)
  else
    let _ ← keyword? "asc"
    return (e, .ascending)

def natural : Reader Nat :=
  take fun kind =>
    match kind with
    | .numeral n =>
        match n.cell? false with
        | some (.integer n) => some n.toNat
        | _ => none
    | _ => none

def window : Reader (Option Window) := do
  if ← keyword? "limit" then
    let first ← natural
    if ← symbol? [","] then return some ⟨first, ← natural⟩
    else if ← keyword? "offset" then return some ⟨← natural, first⟩
    else return some ⟨0, first⟩
  else return none

def query : Reader Query := do
  let inTable := (← get).any fun t => isKeyword "from" t.kind
  let items ← items (item inTable)
  if inTable then
    keyword "from"
    table
  let condition ← condition
  let order ← do
    if ← keyword? "order" then
      keyword "by"
      Reader.items (orderTerm inTable)
    else pure []
  return ⟨items, inTable, condition, order, ← window⟩

def insert : Reader Change := do
  keyword "into"
  table
  let columns ← do
    if ← keyword? "values" then pure Column.all
    else
      let columns ← parenthesized column
      keyword "values"
      pure columns
  let rows ← items (parenthesized (expression false))
  if rows.all fun row => row.length = columns.length then return .insert columns rows
  else failure

def assignment : Reader (Column × Expression) := do
  let c ← column
  symbol "="
  return (c, ← expression true)

def update : Reader Change := do
  table
  keyword "set"
  let assignments ← items assignment
  return .update assignments (← condition)

def delete : Reader Change := do
  keyword "from"
  table
  return .delete (← condition)

/-- A word that may follow the commands of transactions. -/
def transactionWord : Reader Unit := do
  let _ ← keyword? "transaction"

def command : Reader Command := do
  if ← keyword? "select" then return .query (← query)
  else if ← keyword? "insert" then return .change (← insert)
  else if ← keyword? "update" then return .change (← update)
  else if ← keyword? "delete" then return .change (← delete)
  else if ← keyword? "begin" then do
    transactionWord
    return .begin
  else if ← keyword? "commit" then do
    transactionWord
    return .commit
  else if ← keyword? "end" then do
    transactionWord
    return .commit
  else if ← keyword? "rollback" then do
    transactionWord
    return .rollback
  else failure

end Reader

def Command.ofTokens? (statement : List Token) : Option Command :=
  match Reader.command statement with
  | some (command, []) => some command
  | _ => none

end SqlAssembly.Sqlite
