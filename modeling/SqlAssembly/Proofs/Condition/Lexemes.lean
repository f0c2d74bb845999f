import Mathlib.Data.List.DropRight
import SqlAssembly.Proofs.Condition.Predicates

/-! The lexemes of texts in a row. A text that leaves no quote open is scanned by itself, whatever
blanks and parentheses stand around it.
-/

namespace SqlAssembly.Predicate

open Placeholder (Zone)

-----------------------------------------------------------------------------------------
-- Lexemes of texts in a row
-----------------------------------------------------------------------------------------

/-- The text is scanned as the lexemes, and leaves no quote open. -/
def Scans (sql : Text) (lexemes : List Lexeme) : Prop :=
  ∃ ended run, scanFrom {} sql = (ended, ⟨.plain, run⟩) ∧ ended ++ ofRun run = lexemes

theorem lexemes?_eq_some_iff {sql : Text} {lexemes : List Lexeme}
    : lexemes? sql = some lexemes
      ↔ Scans sql lexemes ∧ lexemes.any Lexeme.isRefused = false := by
  rw [lexemes?]
  rcases scanned : scanFrom {} sql with ⟨ended, zone, run⟩
  simp only [Option.ite_none_right_eq_some, Option.some.injEq]
  constructor
  · rintro ⟨⟨rfl, none⟩, rfl⟩
    exact ⟨⟨ended, run, scanned, rfl⟩, none⟩
  · rintro ⟨⟨ended', run', same, rfl⟩, none⟩
    rw [scanned] at same
    obtain ⟨rfl, rfl, rfl⟩ : ended = ended' ∧ zone = .plain ∧ run = run' := by simpa using same
    exact ⟨⟨rfl, none⟩, rfl⟩

theorem scanFrom_cons (scan : Scan) (c : Char) (s : Text)
    : scanFrom scan (c :: s)
      = ((step scan c).2 ++ (scanFrom (step scan c).1 s).1, (scanFrom (step scan c).1 s).2) :=
  rfl

/-- A text behind another is scanned from where the scan stands after it, by induction on it. -/
theorem scanFrom_append (scan : Scan) (s t : Text)
    : scanFrom scan (s ++ t)
      = ((scanFrom scan s).1 ++ (scanFrom (scanFrom scan s).2 t).1,
        (scanFrom (scanFrom scan s).2 t).2) := by
  induction s generalizing scan with
  | nil => rfl
  | cons c s ih => simp only [List.cons_append, scanFrom_cons, ih, List.append_assoc]

/-- Blanks are no marks of the scan. -/
theorem blank_bare {c : Char} (blank : Text.isBlank c = true)
    : Placeholder.isQuote c = false ∧ c ≠ '(' ∧ c ≠ ')' := by
  refine ⟨?_, ?_, ?_⟩
  · rw [← Bool.not_eq_true]
    intro quote
    simp only [Placeholder.isQuote, Bool.or_eq_true, beq_iff_eq] at quote
    rcases quote with (rfl | rfl) | rfl <;> revert blank <;> decide
  · rintro rfl
    revert blank
    decide
  · rintro rfl
    revert blank
    decide

/-- Blanks end a run, and leave no lexeme. -/
theorem step_blank {c : Char} (blank : Text.isBlank c = true) (run : Text)
    : step ⟨.plain, run⟩ c = ({}, ofRun run) := by
  simp [step, blank_bare blank, blank]

namespace Scans

variable {s t : Text} {lexemes more : List Lexeme}

/-- A blank parts what is before it from what is behind it. -/
theorem append_blank (first : Scans s lexemes) {c : Char} (blank : Text.isBlank c = true)
    (second : Scans t more)
    : Scans (s ++ c :: t) (lexemes ++ more) := by
  obtain ⟨ended, run, scanned, rfl⟩ := first
  obtain ⟨later, last, scannedMore, rfl⟩ := second
  refine ⟨ended ++ (ofRun run ++ later), last, ?_, by simp⟩
  rw [scanFrom_append, scanned, scanFrom_cons, step_blank blank, scannedMore]

theorem opening (inner : Scans s lexemes) : Scans ('(' :: s) (.opening :: lexemes) := by
  obtain ⟨ended, run, scanned, rfl⟩ := inner
  refine ⟨.opening :: ended, run, ?_, rfl⟩
  have opened : step {} '(' = ({}, [.opening]) := rfl
  rw [scanFrom_cons, opened, scanned]
  rfl

theorem closing (inner : Scans s lexemes) : Scans (s ++ [')']) (lexemes ++ [.closing]) := by
  obtain ⟨ended, run, scanned, rfl⟩ := inner
  refine ⟨ended ++ (ofRun run ++ [.closing]), [], ?_, by simp [ofRun]⟩
  have closed : step ⟨.plain, run⟩ ')' = ({}, ofRun run ++ [.closing]) := rfl
  rw [scanFrom_append, scanned, scanFrom_cons, closed, scanFrom, List.append_nil]

end Scans

-----------------------------------------------------------------------------------------
-- Blanks around a text
-----------------------------------------------------------------------------------------

/-- Zones that a scan reaches: quotes are opened by quote characters. -/
def Reached : Zone → Prop
  | .plain => True
  | .quoted q | .shielded q => Placeholder.isQuote q = true

theorem Reached.after {zone : Zone} (reached : Reached zone) (c : Char)
    : Reached (zone.after c) := by
  cases zone with
  | plain =>
      rw [Zone.after]
      split
      · next quote => exact quote
      · trivial
  | quoted q =>
      rw [Zone.after]
      split
      · exact reached
      · split
        · trivial
        · exact reached
  | shielded q => exact reached

/-- A character moves the zone as it does for placeholders. -/
theorem step_zone (scan : Scan) (c : Char) : (step scan c).1.zone = scan.zone.after c := by
  rcases scan with ⟨zone, run⟩
  cases zone with
  | plain =>
      by_cases quote : Placeholder.isQuote c = true
      · simp [step, Zone.after, quote]
      · have stays : Zone.plain.after c = .plain := by rw [Zone.after, if_neg quote]
        rw [stays, step, if_neg quote]
        repeat' split
        all_goals rfl
  | quoted q =>
      change (if (Zone.quoted q).after c = .plain then _ else _ : Scan × _).1.zone = _
      split
      · next closed => exact closed.symm
      · rfl
  | shielded q => rfl

/-- By induction on the text. -/
theorem scanFrom_reached {scan : Scan} (reached : Reached scan.zone) (s : Text)
    : Reached (scanFrom scan s).2.zone := by
  induction s generalizing scan with
  | nil => exact reached
  | cons c s ih =>
      rw [scanFrom_cons]
      exact ih (by rw [step_zone]; exact reached.after c)

/-- A blank closes no quote. -/
theorem Reached.after_blank {zone : Zone} (reached : Reached zone) {c : Char}
    (blank : Text.isBlank c = true) (plain : zone.after c = .plain)
    : zone = .plain := by
  cases zone with
  | plain => rfl
  | shielded q => cases plain
  | quoted q =>
      rw [Zone.after] at plain
      split at plain
      · cases plain
      · split at plain
        · next same =>
            subst same
            rw [Reached, (blank_bare blank).1] at reached
            cases reached
        · cases plain

namespace Scans

variable {s : Text} {lexemes : List Lexeme}

/-- By induction on the text. -/
theorem trimStart (scans : Scans s lexemes) : Scans (Text.trimStart s) lexemes := by
  induction s with
  | nil => exact scans
  | cons c s ih =>
      by_cases blank : Text.isBlank c = true
      · rw [Text.trimStart, List.dropWhile_cons_of_pos blank]
        obtain ⟨ended, run, scanned, rfl⟩ := scans
        rw [scanFrom_cons, step_blank blank] at scanned
        exact ih ⟨ended, run, scanned, rfl⟩
      · rw [Text.trimStart, List.dropWhile_cons_of_neg blank]
        exact scans

/-- A blank at the end ends a run that would have ended anyway. -/
theorem of_append_blank {c : Char} (blank : Text.isBlank c = true)
    (scans : Scans (s ++ [c]) lexemes)
    : Scans s lexemes := by
  obtain ⟨ended, last, scanned, rfl⟩ := scans
  rcases before : scanFrom {} s with ⟨done, zone, run⟩
  have reached : Reached zone := by
    have reached := @scanFrom_reached {} trivial s
    rwa [before] at reached
  rw [scanFrom_append, before, scanFrom_cons, scanFrom, Prod.mk.injEq] at scanned
  obtain ⟨rfl, behind⟩ := scanned
  have plain : zone = .plain :=
    reached.after_blank blank ((step_zone ⟨zone, run⟩ c).symm.trans (congrArg Scan.zone behind))
  subst plain
  rw [step_blank blank] at behind ⊢
  cases behind
  exact ⟨done, run, before, by simp [ofRun]⟩

/-- By induction on the text, from its end. -/
theorem trimEnd (scans : Scans s lexemes) : Scans (Text.trimEnd s) lexemes := by
  change Scans (List.rdropWhile Text.isBlank s) lexemes
  induction s using List.reverseRecOn with
  | nil => exact scans
  | append_singleton s c ih =>
      by_cases blank : Text.isBlank c = true
      · rw [List.rdropWhile_concat_pos _ _ _ blank]
        exact ih (scans.of_append_blank blank)
      · rw [List.rdropWhile_concat_neg _ _ _ blank]
        exact scans

theorem trim (scans : Scans s lexemes) : Scans (Text.trim s) lexemes :=
  scans.trimStart.trimEnd

end Scans

end SqlAssembly.Predicate
