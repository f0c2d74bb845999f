import SqlAssembly.Config.Environment
import SqlAssembly.Text.Blank

/-! Files of variables: lines of a name, an equals sign and a value. Values may be quoted, also over
several lines, comments start with a hash, and values may refer to variables that are already
known. Reading stops at the first line that is none of these.
-/

namespace SqlAssembly.EnvFile

/-- How a value refers to a variable: after a dollar sign, or in braces after one. -/
inductive Reference where
  | plain (name : Text)
  | braced (name : Text)

/-- Where a scan of a value stands. -/
inductive Place where
  | bare
  | strong
  | weak
  | ended

/-- The value of a variable that a line refers to; unknown variables are empty. -/
def valueOf (env : Environment) (name : Text) : Text :=
  (env.lookup name).getD []

/-- The character that a backslash makes of the next one. -/
def unescape? (c : Char) : Option Char :=
  if c ∈ [Text.backslash, Text.singleQuote, Text.doubleQuote, '$', ' '] then some c
  else if c = 'n' then some '\n'
  else none

/-- The value that the rest of a line stands for. A reference is open while its name is read. -/
def value? (env : Environment) : Place → Option Reference → Text → Option Text
  | .bare, none, [] => some []
  | .ended, _, [] => some []
  | .bare, some (.plain name), [] => some (valueOf env name)
  | _, _, [] => none
  | place, some (.braced name), c :: rest =>
      if c = '\x7d' then (value? env place none rest).map (valueOf env name ++ ·)
      else value? env place (some (.braced (name ++ [c]))) rest
  | place, some (.plain name), c :: rest =>
      if c.isAlphanum then value? env place (some (.plain (name ++ [c]))) rest
      else if c = '\x7b' ∧ name = [] then value? env place (some (.braced [])) rest
      else if c = '$' then
        (value? env place (some (.plain [])) rest).map (valueOf env name ++ ·)
      else (value? env place none rest).map (valueOf env name ++ c :: ·)
  | .ended, none, c :: rest =>
      if c = ' ' ∨ c = '\t' then value? env .ended none rest
      else if c = '#' then some []
      else none
  | .strong, none, c :: rest =>
      if c = Text.singleQuote then value? env .bare none rest
      else (value? env .strong none rest).map (c :: ·)
  | .weak, none, c :: rest =>
      if c = '$' then value? env .weak (some (.plain [])) rest
      else if c = Text.doubleQuote then value? env .bare none rest
      else if c = Text.backslash then
        match rest with
        | next :: rest => do
            let escaped ← unescape? next
            (value? env .weak none rest).map (escaped :: ·)
        | [] => none
      else (value? env .weak none rest).map (c :: ·)
  | .bare, none, c :: rest =>
      if c = '$' then value? env .bare (some (.plain [])) rest
      else if c = Text.singleQuote then value? env .strong none rest
      else if c = Text.doubleQuote then value? env .weak none rest
      else if c = Text.backslash then
        match rest with
        | next :: rest => do
            let escaped ← unescape? next
            (value? env .bare none rest).map (escaped :: ·)
        | [] => some []
      else if c = ' ' ∨ c = '\t' then value? env .ended none rest
      else (value? env .bare none rest).map (c :: ·)

/-- The name at the start of a text, and what follows it and the blanks after it. -/
def name? (s : Text) : Option (Text × Text) :=
  if s.head?.any Text.isNameStart then
    let isPart (c : Char) : Bool := Text.isWordChar c || c == '.'
    some (s.takeWhile isPart, Text.trimStart (s.dropWhile isPart))
  else none

/-- The name and the rest of a line after its equals sign. The word export may come first. -/
def assignment? (s : Text) : Option (Text × Text) := do
  let (name, rest) ← name? s
  match rest with
  | '=' :: rest => some (name, Text.trimStart rest)
  | _ =>
      if name = "export".toList then
        let (name, rest) ← name? rest
        match rest with
        | '=' :: rest => some (name, Text.trimStart rest)
        | _ => none
      else none

/-- The variable that a line sets, if it sets one; none when the line cannot be read. -/
def line? (env : Environment) (s : Text) : Option (Option (Text × Text)) :=
  let line := Text.trimStart s
  if line.isEmpty || line.head? = some '#' then some none
  else do
    let (name, rest) ← assignment? line
    if rest.isEmpty || rest.head? = some '#' then some (some (name, []))
    else
      let value ← value? env .bare none rest
      some (some (name, value))

/-- Where a scan for the end of a line stands. -/
inductive LinePlace where
  | bare
  | blank
  | escaped
  | strong
  | weak
  | weakEscaped

/-- Where the scan stands after one more character. -/
def LinePlace.step (c : Char) : LinePlace → LinePlace
  | escaped => bare
  | weakEscaped => weak
  | strong => if c = Text.singleQuote then bare else strong
  | weak =>
      if c = Text.backslash then weakEscaped else if c = Text.doubleQuote then bare else weak
  | place =>
      if c = Text.backslash then escaped
      else if c = Text.doubleQuote then weak
      else if c = Text.singleQuote then strong
      else
        match place with
        | blank => bare
        | _ => if Text.isBlank c ∧ c ≠ '\n' ∧ c ≠ '\r' then blank else bare

/-- A line break ends a line outside quotes, even after a backslash. -/
def LinePlace.endsLine : LinePlace → Bool
  | bare => true
  | blank => true
  | escaped => true
  | _ => false

/-- The text without a carriage return at its end. -/
def dropReturn (s : Text) : Text :=
  if s.getLast? = some '\r' then s.dropLast else s

/-- The rest of a line up to its line break or to a comment after a blank, and what follows the
line; none when the text ends inside quotes, after a backslash or after a blank.
-/
def restOfLine? : LinePlace → Text → Option (Text × Text)
  | .bare, [] => some ([], [])
  | _, [] => none
  | place, c :: rest =>
      if c = '\n' ∧ place.endsLine then some ([], rest)
      else
        match place with
        | .blank =>
            if c = '#' then some ([], (rest.dropWhile (· ≠ '\n')).drop 1)
            else (restOfLine? (place.step c) rest).map fun (line, rest) => (c :: line, rest)
        | place => (restOfLine? (place.step c) rest).map fun (line, rest) => (c :: line, rest)

/-- A line is a comment when a hash is the first thing on it that is not blank. -/
def isComment (s : Text) : Bool :=
  (Text.trimStart (s.takeWhile (· ≠ '\n'))).head? = some '#'

/-- The variables after reading at most so many lines. A variable that is set already keeps its
value.
-/
def loadLines : Nat → Environment → Text → Environment
  | 0, env, _ => env
  | _ + 1, env, [] => env
  | fuel + 1, env, c :: rest =>
      if isComment (c :: rest) then
        loadLines fuel env (((c :: rest).dropWhile (· ≠ '\n')).drop 1)
      else
        match restOfLine? .bare (c :: rest) with
        | none => env
        | some (line, rest) =>
            match line? env (dropReturn line) with
            | none => env
            | some none => loadLines fuel env rest
            | some (some (name, value)) => loadLines fuel (env.setDefault name value) rest

/-- The mark of the byte order, which may stand before the first line. -/
def byteOrderMark : Char := '\uFEFF'

/-- The variables after reading a file. -/
def load (env : Environment) (s : Text) : Environment :=
  let s := if s.head? = some byteOrderMark then s.drop 1 else s
  loadLines s.length env s

end SqlAssembly.EnvFile
