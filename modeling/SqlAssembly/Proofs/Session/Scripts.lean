import Mathlib.Data.List.TakeWhile
import SqlAssembly.Placeholder
import SqlAssembly.Proofs.Session.Effects
import SqlAssembly.Proofs.Text.Keyword
import SqlAssembly.Session.Raw
import SqlAssembly.Sqlite.Database

/-! Scripts inside the transaction that is put around them. The statements of a text are read
character by character, with the quotes and comments of the dialects that a driver may speak. The
BEGIN in front of a script is always a statement of its own, while the COMMIT behind it depends on
how the script ends.
-/

namespace SqlAssembly

namespace Script

open Placeholder (isQuote)

-----------------------------------------------------------------------------------------
-- Reading statements
-----------------------------------------------------------------------------------------

/-- Where dialects differ in what a quoted text or a comment is: inside which quotes a backslash
protects the next character, whether a hash starts a line comment, and whether two dashes do so only
in front of a blank.
-/
structure Dialect where
  shields : Char → Bool
  hashes : Bool
  blankDashes : Bool

namespace Dialect

def sqlite : Dialect := ⟨fun _ => false, false, false⟩

def mysql : Dialect := ⟨fun quote => quote != Text.backtick, true, true⟩

end Dialect

/-- Where a reader stands. One or two dashes and a slash wait for what follows them, as a star does
in a block comment.
-/
inductive Place where
  | code
  | dash
  | dashes
  | slash
  | quoted (quote : Char)
  | shielded (quote : Char)
  | line
  | block
  | star
deriving DecidableEq

namespace Place

/-- The place is in no quoted text and in no comment. -/
def isOutside : Place → Bool
  | code => true
  | dash => true
  | dashes => true
  | slash => true
  | _ => false

/-- What waits for the next character. -/
def waiting : Place → Text
  | dash => "-"
  | dashes => "--"
  | slash => "/"
  | _ => []

end Place

/-- A reader: its place, the piece that it is in, and the pieces that a semicolon has ended.
Comments are left out of the pieces; a blank stands for a block comment.
-/
structure Reader where
  place : Place := .code
  piece : Text := []
  done : List Text := []

namespace Reader

/-- The piece with what waits at its end. -/
def unended (r : Reader) : Text :=
  r.piece ++ r.place.waiting

/-- Read a character of code. -/
def readCode (d : Dialect) (r : Reader) (c : Char) : Reader :=
  if c = ';' then { done := r.done ++ [r.unended] }
  else if c = '-' then { r with place := .dash, piece := r.unended }
  else if c = '/' then { r with place := .slash, piece := r.unended }
  else if c = '#' ∧ d.hashes then { r with place := .line, piece := r.unended }
  else { r with place := if isQuote c then .quoted c else .code, piece := r.unended ++ [c] }

/-- Read a character of a line comment. -/
def readLine (r : Reader) (c : Char) : Reader :=
  if c = '\n' then { r with place := .code, piece := r.piece ++ [c] } else { r with place := .line }

def step (d : Dialect) (r : Reader) (c : Char) : Reader :=
  match r.place with
  | .code => r.readCode d c
  | .dash =>
      if c = '-' then { r with place := if d.blankDashes then .dashes else .line }
      else r.readCode d c
  | .dashes =>
      if Text.isBlank c then r.readLine c
      -- the last two of three dashes may still start a comment
      else if c = '-' then { r with piece := r.piece ++ [c] }
      else r.readCode d c
  | .slash => if c = '*' then { r with place := .block } else r.readCode d c
  | .quoted quote =>
      let place : Place :=
        if c = Text.backslash ∧ d.shields quote then .shielded quote
        else if c = quote then .code
        else .quoted quote
      { r with place := place, piece := r.piece ++ [c] }
  | .shielded quote => { r with place := .quoted quote, piece := r.piece ++ [c] }
  | .line => r.readLine c
  | .block => { r with place := if c = '*' then .star else .block }
  | .star =>
      if c = '/' then { r with place := .code, piece := r.piece ++ [' '] }
      else { r with place := if c = '*' then .star else .block }

/-- All pieces, when the text ends here. Two dashes at the end are a comment. -/
def pieces (r : Reader) : List Text :=
  match r.place with
  | .dashes => r.done ++ [r.piece]
  | _ => r.done ++ [r.unended]

/-- The reader after more pieces. -/
def after (pieces : List Text) (r : Reader) : Reader :=
  { r with done := pieces ++ r.done }

end Reader

variable {d : Dialect} {r : Reader} {c : Char} {s script : Text}

/-- The reader behind a text. -/
def read (d : Dialect) (s : Text) : Reader :=
  s.foldl (Reader.step d) {}

/-- The pieces that are not blank, trimmed. -/
def solid (pieces : List Text) : List Text :=
  (pieces.map Text.trim).filter (!·.isEmpty)

/-- The statements of a text: what semicolons outside quotes and comments divide it into, without
comments and without blank pieces.
-/
def statements (d : Dialect) (s : Text) : List Text :=
  solid (read d s).pieces

/-- The statements of a text that a semicolon ends. -/
def ended (d : Dialect) (s : Text) : List Text :=
  solid (read d s).done

/-- What stands behind the last semicolon of a text, without comments. -/
def lastPiece (d : Dialect) (s : Text) : Text :=
  (read d s).unended

/-- All quotes and block comments of a text are closed. It may end in a line comment. -/
def Complete (d : Dialect) (s : Text) : Prop :=
  (read d s).place.isOutside = true ∨ (read d s).place = .line

instance (d : Dialect) (s : Text) : Decidable (Complete d s) :=
  inferInstanceAs (Decidable (_ ∨ _))

-----------------------------------------------------------------------------------------
-- Steps of a reader
-----------------------------------------------------------------------------------------

theorem Reader.readCode_after (pieces : List Text) (r : Reader) (c : Char)
    : (r.after pieces).readCode d c = (r.readCode d c).after pieces := by
  simp only [readCode, apply_ite (after pieces)]
  simp [after, unended]

theorem Reader.readLine_after (pieces : List Text) (r : Reader) (c : Char)
    : (r.after pieces).readLine c = (r.readLine c).after pieces := by
  rw [readLine, readLine, apply_ite (after pieces)]
  rfl

/-- What a reader does next does not depend on the pieces that are done, by cases on its place. -/
theorem Reader.step_after (pieces : List Text) (r : Reader) (c : Char)
    : (r.after pieces).step d c = (r.step d c).after pieces := by
  have code := readCode_after (d := d) pieces r c
  have line := readLine_after pieces r c
  have same : (r.after pieces).place = r.place := rfl
  cases place : r.place with
  | code => simp only [step, same, place, code]
  | line => simp only [step, same, place, line]
  | quoted | shielded | block =>
      simp only [step, same, place]
      rfl
  | dash | slash | star =>
      simp only [step, same, place, code, apply_ite (after pieces)]
      rfl
  | dashes =>
      simp only [step, same, place, code, line, apply_ite (after pieces)]
      rfl

/-- So it reads a text alike, by induction on the text. -/
theorem foldl_after (pieces : List Text) (r : Reader) (s : Text)
    : s.foldl (Reader.step d) (r.after pieces) = (s.foldl (Reader.step d) r).after pieces := by
  induction s generalizing r with
  | nil => rfl
  | cons c s ih => rw [List.foldl_cons, List.foldl_cons, Reader.step_after, ih]

/-- A line comment leaves out all that stands in its line, by induction on it. -/
theorem foldl_line (inLine : r.place = .line) (oneLine : '\n' ∉ s)
    : s.foldl (Reader.step d) r = r := by
  induction s with
  | nil => rfl
  | cons c s ih =>
      obtain ⟨other, later⟩ := not_or.mp (mt List.mem_cons.mpr oneLine)
      have stays : r.step d c = r := by
        rw [Reader.step, inLine]
        simp only [Reader.readLine, if_neg (Ne.symm other)]
        rw [← inLine]
      rw [List.foldl_cons, stays, ih later]

/-- The character neither ends a piece nor opens a quoted text or a comment, whatever stands before
it.
-/
def isPlain (c : Char) : Bool :=
  !(c == ';' || c == '-' || c == '/' || c == '*' || c == '#' || isQuote c || Text.isBlank c)

/-- A plain character outside quotes and comments is code, by cases on the place. -/
theorem Reader.step_plain (outside : r.place.isOutside = true) (plain : isPlain c = true)
    : r.step d c = { r with place := .code, piece := r.unended ++ [c] } := by
  simp only [isPlain, Bool.not_eq_true', Bool.or_eq_false_iff, beq_eq_false_iff_ne] at plain
  obtain ⟨⟨⟨⟨⟨⟨noEnd, noDash⟩, noSlash⟩, noStar⟩, noHash⟩, noQuote⟩, noBlank⟩ := plain
  have code : r.readCode d c = { r with place := .code, piece := r.unended ++ [c] } := by
    simp [readCode, noEnd, noDash, noSlash, noHash, noQuote]
  cases place : r.place with
  | code => simp only [step, place, code]
  | dash => simp only [step, place, if_neg noDash, code]
  | dashes => simp only [step, place, noBlank, if_neg noDash, code, if_neg Bool.false_ne_true]
  | slash => simp only [step, place, if_neg noStar, code]
  | quoted | shielded | line | block | star => simp [place, Place.isOutside] at outside

/-- A semicolon outside quotes and comments ends the piece, by cases on the place. -/
theorem Reader.step_semicolon (outside : r.place.isOutside = true)
    : r.step d ';' = { done := r.done ++ [r.unended] } := by
  have code : r.readCode d ';' = { done := r.done ++ [r.unended] } := if_pos rfl
  have notBlank : Text.isBlank ';' = false := by decide
  cases place : r.place with
  | code => simp only [step, place, code]
  | dash => simp only [step, place, code, if_neg (by decide : ';' ≠ '-')]
  | dashes =>
      simp only [step, place, code, notBlank, if_neg (by decide : ';' ≠ '-'),
        if_neg Bool.false_ne_true]
  | slash => simp only [step, place, code, if_neg (by decide : ';' ≠ '*')]
  | quoted | shielded | line | block | star => simp [place, Place.isOutside] at outside

/-- A word of plain characters outside quotes and comments lengthens the piece, and the semicolon
behind it ends that, by induction on the word.
-/
theorem foldl_word (outside : r.place.isOutside = true) (word : Text)
    (plain : word.all isPlain = true)
    : (word ++ [';']).foldl (Reader.step d) r = { done := r.done ++ [r.unended ++ word] } := by
  induction word generalizing r with
  | nil => simp [Reader.step_semicolon outside]
  | cons c word ih =>
      rw [List.all_cons, Bool.and_eq_true] at plain
      obtain ⟨head, later⟩ := plain
      rw [List.cons_append, List.foldl_cons, Reader.step_plain outside head, ih rfl later]
      simp [Reader.unended, Place.waiting]

-----------------------------------------------------------------------------------------
-- The enclosed script
-----------------------------------------------------------------------------------------

/-- What stands in front of a script. -/
def opening : Text := "BEGIN"

/-- What stands behind a script. -/
def closing : Text := "COMMIT"

theorem enclosedScript_eq (script : Text)
    : Session.enclosedScript script = (opening ++ [';']) ++ script ++ (closing ++ [';']) :=
  rfl

/-- The BEGIN is a piece of its own, and what follows the script is read from where that ends. -/
theorem read_enclosedScript (d : Dialect) (script : Text)
    : read d (Session.enclosedScript script)
      = (closing ++ [';']).foldl (Reader.step d) ((read d script).after [opening]) := by
  have begun
      : (opening ++ [';']).foldl (Reader.step d) {} = ({} : Reader).after [opening] :=
    foldl_word rfl opening rfl
  have follows (r : Reader) (t : Text)
      : (opening ++ [';'] ++ script ++ t).foldl (Reader.step d) r
        = t.foldl (Reader.step d)
            (script.foldl (Reader.step d) ((opening ++ [';']).foldl (Reader.step d) r)) := by
    rw [List.foldl_append, List.foldl_append]
  rw [enclosedScript_eq, read, follows, begun, foldl_after, read]

/-- Behind a line comment the COMMIT is part of it. -/
theorem read_swallowed (line : (read d script).place = .line)
    : read d (Session.enclosedScript script) = (read d script).after [opening] := by
  rw [read_enclosedScript]
  exact foldl_line line (by decide)

/-- Outside quotes and comments the COMMIT ends the piece that the script ends in. -/
theorem read_appended (outside : (read d script).place.isOutside = true)
    : read d (Session.enclosedScript script)
      = { done := opening :: (read d script).done ++ [(read d script).unended ++ closing] } := by
  rw [read_enclosedScript, foldl_word (r := (read d script).after [opening]) outside closing rfl]
  rfl

theorem solid_append (first second : List Text)
    : solid (first ++ second) = solid first ++ solid second := by
  rw [solid, List.map_append, List.filter_append, solid, solid]

/-- A piece that ends in a solid word is a statement, less the blanks at its start. -/
theorem solid_behind {word : Text}
    (starts : word.head?.any (fun c => !Text.isBlank c) = true) (ends : Reading.Ends word)
    (s : Text)
    : solid [s ++ word] = [Text.trimStart s ++ word] := by
  have trimmed := Text.trim_append_solid starts ends s
  have nonempty : word ≠ [] := by
    rintro rfl
    simp at starts
  simp [solid, trimmed, nonempty]

/-- What a script comes to in its transaction. The COMMIT is part of the line comment that the
script ends in; else it lengthens the piece that the script ends in, so that it is a statement of
its own exactly when nothing but blanks and comments stands behind the last semicolon.
-/
structure Enclosed (d : Dialect) (script : Text) : Prop where
  swallowed
    : (read d script).place = .line
      → statements d (Session.enclosedScript script) = opening :: statements d script
  lengthened
    : (read d script).place ≠ .line
      → statements d (Session.enclosedScript script)
        = opening :: ended d script ++ [Text.trimStart (lastPiece d script) ++ closing]
  isolated_iff
    : statements d (Session.enclosedScript script) = opening :: statements d script ++ [closing]
      ↔ (read d script).place ≠ .line
        ∧ ∀ c ∈ lastPiece d script, Text.isBlank c = true

theorem statements_swallowed (line : (read d script).place = .line)
    : statements d (Session.enclosedScript script) = opening :: statements d script := by
  have pieces : ((read d script).after [opening]).pieces = opening :: (read d script).pieces := by
    simp [Reader.pieces, Reader.after, Reader.unended, line]
  rw [statements, read_swallowed line, pieces, ← List.singleton_append, solid_append]
  rfl

theorem statements_lengthened (outside : (read d script).place.isOutside = true)
    : statements d (Session.enclosedScript script)
      = opening :: ended d script ++ [Text.trimStart (lastPiece d script) ++ closing] := by
  have last : solid [[]] = [] := rfl
  have first : solid [opening] = [opening] := rfl
  have ends : Reading.Ends closing := rfl
  rw [statements, read_appended outside, Reader.pieces]
  simp only [Reader.unended, Place.waiting, List.append_nil]
  rw [← List.singleton_append, solid_append, solid_append, solid_append, first, last,
    solid_behind rfl ends, List.append_nil]
  rfl

/-- A blank piece is no statement. -/
theorem solid_blank (blank : ∀ c ∈ s, Text.isBlank c = true) : solid [s] = [] := by
  have nothing : Text.trim s = [] := by
    rw [Text.trim, Text.trimStart, List.dropWhile_eq_nil_iff.mpr blank]
    rfl
  simp [solid, nothing]

/-- When the last piece is blank, the statements are those that a semicolon ends. -/
theorem solid_pieces (blank : ∀ c ∈ r.unended, Text.isBlank c = true)
    : solid r.pieces = solid r.done := by
  have front : ∀ c ∈ r.piece, Text.isBlank c = true :=
    fun c member => blank c (List.mem_append_left _ member)
  rw [Reader.pieces]
  split <;> rw [solid_append]
  · rw [solid_blank front, List.append_nil]
  · rw [solid_blank blank, List.append_nil]

/-- The COMMIT stands alone exactly if the last piece is blank: else the last statements differ. -/
theorem statements_isolated_iff (outside : (read d script).place.isOutside = true)
    : statements d (Session.enclosedScript script) = opening :: statements d script ++ [closing]
      ↔ ∀ c ∈ lastPiece d script, Text.isBlank c = true := by
  rw [statements_lengthened outside]
  constructor
  · intro same
    have last := congrArg List.getLast? same
    simp only [List.getLast?_concat, Option.some.injEq, List.append_left_eq_self] at last
    exact List.dropWhile_eq_nil_iff.mp last
  · intro blank
    have nothing : Text.trimStart (lastPiece d script) = [] :=
      List.dropWhile_eq_nil_iff.mpr blank
    rw [nothing, statements, solid_pieces blank, List.nil_append, ended]

theorem Enclosed.of_complete (complete : Complete d script) : Enclosed d script := by
  refine ⟨statements_swallowed, fun notLine => ?_, ?_⟩
  · exact statements_lengthened (complete.resolve_right notLine)
  · rcases complete with outside | line
    · have notLine : (read d script).place ≠ .line := by
        intro line
        simp [line, Place.isOutside] at outside
      rw [statements_isolated_iff outside, and_iff_right notLine]
    · -- one statement is missing, whatever the others are
      rw [statements_swallowed line]
      simp [line]

end Script

-----------------------------------------------------------------------------------------
-- Sending scripts
-----------------------------------------------------------------------------------------

namespace Session

open Script

variable {δ : Type} [Driver δ]

omit [Driver δ] in
/-- The texts that the driver was asked to execute. -/
def sent (s : Session δ) : List Text :=
  s.journal.filterMap fun
    | .execute e => some e.sql
    | _ => none

theorem executeScript_sent (script : Text) (s : Session δ)
    : ((executeScript script).on s).2.sent = s.sent ++ [enclosedScript script] := by
  rw [executeScript]
  simp [execute_on, sent]

/-- A complete script is sent in one text, and so is the text of a file. That text starts with the
BEGIN, and whether it ends with the COMMIT is up to how the script ends.
-/
theorem scripts_enclosed {d : Dialect} {script : Text} (complete : Complete d script)
    (s : Session δ)
    : ((executeScript script).on s).2.sent = s.sent ++ [enclosedScript script]
      ∧ (executeFile (.ok script)).on s = (executeScript script).on s
      ∧ Enclosed d script :=
  ⟨executeScript_sent script s, rfl, .of_complete complete⟩

/-- Semicolons in quotes and comments divide nothing, and a line comment that ends with its line
does not reach the COMMIT.
-/
theorem scripts_enclosed_ended :
    let script : Text := "insert into t (v) values ('a;\\'b'); /* ; */ delete from t; -- all\n"
    Complete .mysql script
    ∧ statements .mysql script = ["insert into t (v) values ('a;\\'b')", "delete from t"]
    ∧ statements .mysql (enclosedScript script)
      = opening :: statements .mysql script ++ [closing] := by
  intro script
  have complete : Complete .mysql script := by decide +kernel
  have notLine : (read .mysql script).place ≠ .line := by decide +kernel
  have blank : (lastPiece .mysql script).all Text.isBlank = true := by decide +kernel
  have apart
      : statements .mysql script = ["insert into t (v) values ('a;\\'b')", "delete from t"] := by
    decide +kernel
  let s : Session (Pool Sqlite.Database) := { driver := { backend := {} } }
  obtain ⟨_, _, enclosed⟩ := scripts_enclosed complete s
  exact ⟨complete, apart, enclosed.isolated_iff.mpr ⟨notLine, List.all_eq_true.mp blank⟩⟩

/-- A line comment at the end of a script takes the COMMIT along: it is no statement of the text
that is sent, and the connection is idle again with the transaction open although nothing failed.
-/
theorem commit_swallowed :
    let script : Text := "insert into t (v) values ('x'); -- done"
    let fresh : Session (Pool Sqlite.Database) := { driver := { backend := {} } }
    let left := ((executeScript script).on fresh).2.driver.backend
    Complete .sqlite script
    ∧ statements .sqlite (enclosedScript script) = opening :: statements .sqlite script
    ∧ statements .sqlite (enclosedScript script)
      ≠ opening :: statements .sqlite script ++ [closing]
    ∧ ((executeScript script).on fresh).1.isOk = true
    ∧ left.idle = [0]
    ∧ (left.connection 0).work.isOpen = true := by
  intro script fresh left
  refine ⟨?_, ?_, ?_, ?_, ?_, ?_⟩ <;> decide +kernel

/-- Without a final semicolon the COMMIT runs into the last statement. -/
example :
    statements .sqlite (enclosedScript "delete from t") = [opening, "delete from tCOMMIT"] := by
  decide +kernel

end Session

end SqlAssembly
