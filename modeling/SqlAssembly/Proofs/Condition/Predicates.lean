import Mathlib.Data.List.Forall2
import Mathlib.Data.List.Infix
import SqlAssembly.Proofs.Condition.Grammar
import SqlAssembly.Proofs.Placeholder.Positions

/-! Predicates of any kind, read for their connectives. Between the words and, or and not there are
comparisons, of which nothing is known but whether they hold, and the row decides that.
-/

namespace SqlAssembly.Predicate

open Grammar (Operator isKeyword)
open Placeholder (Zone)

-----------------------------------------------------------------------------------------
-- Lexemes
-----------------------------------------------------------------------------------------

/-- A run of operator characters or of others, a quoted text with its quote, or a parenthesis. -/
inductive Lexeme where
  | word (s : Text)
  | operator (s : Text)
  | quoted (quote : Char) (s : Text)
  | opening
  | closing
deriving DecidableEq

def operatorChars : Text := "+-*/%=<>!&|^~,?#;[]"

def isOperatorChar (c : Char) : Bool :=
  operatorChars.contains c

/-- Where a scan stands: in which zone, and after which characters of a lexeme. -/
structure Scan where
  zone : Zone := .plain
  run : Text := []
deriving DecidableEq

/-- The lexeme of a run outside quotes, if there is one. -/
def ofRun : Text → List Lexeme
  | [] => []
  | c :: run => if isOperatorChar c then [.operator (c :: run)] else [.word (c :: run)]

/-- One character: where the scan stands after it, and the lexemes that end with or before it. -/
def step (scan : Scan) (c : Char) : Scan × List Lexeme :=
  match scan.zone with
  | .plain =>
      if Placeholder.isQuote c then (⟨.quoted c, []⟩, ofRun scan.run)
      else if c = '(' then ({}, ofRun scan.run ++ [.opening])
      else if c = ')' then ({}, ofRun scan.run ++ [.closing])
      else if Text.isBlank c then ({}, ofRun scan.run)
      else if scan.run.head?.all fun d => isOperatorChar d == isOperatorChar c then
        (⟨.plain, scan.run ++ [c]⟩, [])
      else (⟨.plain, [c]⟩, ofRun scan.run)
  | zone =>
      if zone.after c = .plain then ({}, [.quoted c scan.run])
      else (⟨zone.after c, scan.run ++ [c]⟩, [])

/-- The lexemes that end within a text, and where the scan stands after it. -/
def scanFrom : Scan → Text → List Lexeme × Scan
  | scan, [] => ([], scan)
  | scan, c :: s =>
      let (next, ended) := step scan c
      let (later, last) := scanFrom next s
      (ended ++ later, last)

/-- What starts a comment or ends a statement, and the connectives on whose meaning databases
differ.
-/
def refusedMarks : List Text := ["--", "/*", "#", ";", "[", "]", "||", "&&"]

/-- The lexeme is none of a predicate. -/
def Lexeme.isRefused : Lexeme → Bool
  | operator s => refusedMarks.any fun mark => decide (mark <:+: s)
  | word w => isKeyword "xor" w
  | _ => false

/-- The lexemes of a text, if all quotes are closed and none is refused. -/
def lexemes? (sql : Text) : Option (List Lexeme) :=
  let scanned := scanFrom {} sql
  let lexemes := scanned.1 ++ ofRun scanned.2.run
  if scanned.2.zone = .plain ∧ lexemes.any Lexeme.isRefused = false then some lexemes else none

-----------------------------------------------------------------------------------------
-- Nesting
-----------------------------------------------------------------------------------------

/-- What is open: a parenthesis, a case up to its end, or a between up to its own and. -/
inductive Opener where
  | parenthesis
  | choice
  | range
deriving DecidableEq

/-- What is open after a word that opens nothing. A case ends with end, and a between has its own
and in front of any or.
-/
def afterWord (w : Text) : List Opener → Option (List Opener)
  | .choice :: outer => if isKeyword "end" w then some outer else some (.choice :: outer)
  | .range :: outer =>
      if isKeyword "and" w then some outer
      else if isKeyword "or" w then none
      else some (.range :: outer)
  | openers => some openers

/-- What is open after a lexeme, the innermost first. -/
def nest (openers : List Opener) : Lexeme → Option (List Opener)
  | .opening => some (.parenthesis :: openers)
  | .closing =>
      match openers with
      | .parenthesis :: outer => some outer
      | _ => none
  | .word w =>
      if isKeyword "case" w then some (.choice :: openers)
      else if isKeyword "between" w then some (.range :: openers)
      else afterWord w openers
  | _ => some openers

def Lexeme.isConnective (op : Operator) : Lexeme → Bool
  | word w => isKeyword op.keyword w
  | _ => false

/-- The lexeme in front of chunks. A connective outside of everything that is open parts the first
chunk from an empty one, and any other lexeme is put in front of the first.
-/
def extend (op : Operator) (openers : List Opener) (lexeme : Lexeme)
    : List (List Lexeme) → List (List Lexeme)
  | [] => [[lexeme]]
  | chunk :: chunks =>
      if openers = [] ∧ lexeme.isConnective op = true then [] :: chunk :: chunks
      else (lexeme :: chunk) :: chunks

/-- The lexemes cut at the connectives of an operator outside of everything that is open. Nothing
may be left open.
-/
def cut (op : Operator) : List Opener → List Lexeme → Option (List (List Lexeme))
  | openers, [] => if openers = [] then some [[]] else none
  | openers, lexeme :: rest => do
      let inner ← nest openers lexeme
      let chunks ← cut op inner rest
      some (extend op openers lexeme chunks)

-----------------------------------------------------------------------------------------
-- Formulas
-----------------------------------------------------------------------------------------

/-- Whether something holds, which need not be known of values that are null. -/
inductive Truth where
  | yes
  | no
  | unknown
deriving DecidableEq

namespace Truth

def and : Truth → Truth → Truth
  | yes, other => other
  | no, _ => no
  | unknown, no => no
  | unknown, _ => unknown

def or : Truth → Truth → Truth
  | yes, _ => yes
  | no, other => other
  | unknown, yes => yes
  | unknown, _ => unknown

def not : Truth → Truth
  | yes => no
  | no => yes
  | unknown => unknown

theorem and_eq_yes_iff {a b : Truth} : a.and b = yes ↔ a = yes ∧ b = yes := by
  cases a <;> cases b <;> decide

theorem or_eq_yes_iff {a b : Truth} : a.or b = yes ↔ a = yes ∨ b = yes := by
  cases a <;> cases b <;> decide

end Truth

/-- A predicate that was read: comparisons joined with connectives. -/
inductive Formula where
  | comparison (lexemes : List Lexeme)
  | negation (f : Formula)
  | joined (op : Operator) (left right : Formula)
deriving DecidableEq

namespace Formula

/-- Whether the formula holds, given which comparisons do. -/
def truth (row : List Lexeme → Truth) : Formula → Truth
  | comparison lexemes => row lexemes
  | negation f => (f.truth row).not
  | joined .and left right => (left.truth row).and (right.truth row)
  | joined .or left right => (left.truth row).or (right.truth row)

/-- The formula holds of the row. -/
def Holds (f : Formula) (row : List Lexeme → Truth) : Prop :=
  f.truth row = .yes

instance (f : Formula) (row : List Lexeme → Truth) : Decidable (f.Holds row) :=
  inferInstanceAs (Decidable (_ = _))

/-- One of the formulas holds of the row. -/
def AnyHolds (fs : List Formula) (row : List Lexeme → Truth) : Prop :=
  ∃ f ∈ fs, f.Holds row

/-- Formulas joined with one operator, if there are any. -/
def chain? (op : Operator) : List Formula → Option Formula
  | [] => none
  | [f] => some f
  | f :: g :: rest => (chain? op (g :: rest)).map (joined op f)

end Formula

-----------------------------------------------------------------------------------------
-- Reading
-----------------------------------------------------------------------------------------

/-- The lexemes are those of a query, which may stand in parentheses. -/
def isQuery : List Lexeme → Bool
  | .word w :: _ => isKeyword "select" w || isKeyword "with" w
  | _ => false

/-- What the parenthesis in front of the lexemes encloses, if it encloses all but its end. -/
def enclosed? (lexemes : List Lexeme) : Option (List Lexeme) :=
  match lexemes.getLast? with
  | some .closing => if (cut .or [] lexemes.dropLast).isSome then some lexemes.dropLast else none
  | _ => none

/-- The formula that lexemes are. A disjunction is cut into conjunctions, a conjunction into
factors, and a factor that is neither a negation nor a predicate in parentheses is a comparison.
-/
def read : Nat → Grammar.Level → List Lexeme → Option Formula
  | 0, _, _ => none
  | fuel + 1, .chain op, lexemes =>
      (cut op [] lexemes).bind fun chunks =>
        (chunks.mapM (read fuel op.link)).bind (Formula.chain? op)
  | _ + 1, .factor, [] => none
  | fuel + 1, .factor, lexeme :: rest =>
      match lexeme with
      | .word w =>
          if isKeyword "not" w then (read fuel .factor rest).map .negation
          else some (.comparison (lexeme :: rest))
      | .opening =>
          match enclosed? rest with
          | some inner =>
              if isQuery inner then some (.comparison (lexeme :: rest))
              else read fuel (.chain .or) inner
          | none => some (.comparison (lexeme :: rest))
      | _ => some (.comparison (lexeme :: rest))

/-- A nesting costs three levels, and two lexemes at least. -/
def fuelFor (lexemes : List Lexeme) : Nat :=
  3 * (lexemes.length + 1)

/-- The formulas that a text joins with or, outside of parentheses. -/
def disjuncts? (sql : Text) : Option (List Formula) := do
  let lexemes ← lexemes? sql
  if isQuery lexemes then none
  else (← cut .or [] lexemes).mapM (read (fuelFor lexemes) Operator.or.link)

/-- The formula that a text is. -/
def parse (sql : Text) : Option Formula :=
  (disjuncts? sql).bind (Formula.chain? .or)

end SqlAssembly.Predicate
