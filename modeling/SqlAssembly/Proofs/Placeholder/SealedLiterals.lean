import SqlAssembly.Proofs.Number.Characters
import SqlAssembly.Proofs.Placeholder.Substitution

/-! Literals close every quote that they open and have no mark of a placeholder outside of them. So
what is copied around them keeps its zone, and once its question marks are filled a text has none.
-/

namespace SqlAssembly.Placeholder

-----------------------------------------------------------------------------------------
-- Characters outside quotes
-----------------------------------------------------------------------------------------

/-- The character with which placeholders start. -/
def Style.mark : Style → Char
  | positional => '?'
  | named => ':'

/-- The characters that stand outside quotes when the text is read from a zone on. -/
def bareFrom : Zone → Text → Text
  | _, [] => []
  | zone, c :: s => (if zone = .plain then [c] else []) ++ bareFrom (zone.after c) s

/-- The character is no quote and no mark. -/
def isOrdinary (c : Char) : Bool :=
  !(isQuote c || c == Style.positional.mark || c == Style.named.mark)

theorem bareFrom_append (zone : Zone) (s t : Text)
    : bareFrom zone (s ++ t) = bareFrom zone s ++ bareFrom (s.foldl Zone.after zone) t := by
  induction s generalizing zone with
  | nil => rfl
  | cons c s ih => simp [bareFrom, ih]

/-- Read from outside quotes, the text ends outside quotes and meets no mark there. -/
structure Sealed (s : Text) : Prop where
  closed : s.foldl Zone.after .plain = .plain
  unmarked : ∀ style : Style, style.mark ∉ bareFrom .plain s

namespace Sealed

variable {s t : Text}

theorem nil : Sealed [] :=
  ⟨rfl, fun _ => List.not_mem_nil⟩

theorem append (first : Sealed s) (second : Sealed t) : Sealed (s ++ t) where
  closed := by rw [List.foldl_append, first.closed, second.closed]
  unmarked style := by
    rw [bareFrom_append, first.closed, List.mem_append]
    exact not_or.mpr ⟨first.unmarked style, second.unmarked style⟩

/-- A text without quotes and marks, by induction on the text. -/
theorem ordinary (all : ∀ c ∈ s, isOrdinary c = true) : Sealed s := by
  induction s with
  | nil => exact nil
  | cons c s ih =>
      obtain ⟨head, later⟩ := List.forall_mem_cons.mp all
      have tail := ih later
      simp only [isOrdinary, Bool.not_eq_true', Bool.or_eq_false_iff, beq_eq_false_iff_ne] at head
      obtain ⟨⟨noQuote, noQuestion⟩, noColon⟩ := head
      have outside : Zone.plain.after c = .plain := by simp [Zone.after, noQuote]
      refine ⟨?_, fun style => ?_⟩
      · rw [List.foldl_cons, outside, tail.closed]
      · have later := tail.unmarked style
        cases style with
        | positional => simpa [bareFrom, outside] using ⟨noQuestion.symm, later⟩
        | named => simpa [bareFrom, outside] using ⟨noColon.symm, later⟩

/-- A written word without quotes and marks, checked character by character. -/
theorem of_all (all : s.all isOrdinary = true) : Sealed s :=
  ordinary (List.all_eq_true.mp all)

/-- Sealed texts may be joined with a sealed separator, by induction on the texts. -/
theorem join {separator : Text} {texts : List Text} (between : Sealed separator)
    (each : ∀ text ∈ texts, Sealed text)
    : Sealed (Text.join separator texts) := by
  induction texts with
  | nil => exact nil
  | cons text texts ih =>
      obtain ⟨head, later⟩ := List.forall_mem_cons.mp each
      cases texts with
      | nil => simpa [Text.join] using head
      | cons next texts =>
          rw [Text.join, List.intercalate_cons_cons]
          exact (head.append between).append (ih later)

/-- A number is written without quotes and marks. -/
theorem number (n : Number) : Sealed n.text := by
  refine ordinary fun c member => ?_
  have digits := Number.Numeric.text n c member
  rw [isOrdinary, Bool.not_eq_true', Bool.eq_false_iff]
  intro special
  simp only [isQuote, Bool.or_eq_true, beq_iff_eq] at special
  rcases special with (((rfl | rfl) | rfl) | rfl) | rfl <;> revert digits <;> decide

/-- An escaped text stays inside its quote up to the end, by induction on the text. -/
theorem escaped (s : Text)
    : (Literal.escapeText s).foldl Zone.after (.quoted Text.singleQuote)
        = .quoted Text.singleQuote
      ∧ bareFrom (.quoted Text.singleQuote) (Literal.escapeText s) = [] := by
  induction s with
  | nil => exact ⟨rfl, rfl⟩
  | cons c s ih =>
      obtain ⟨stays, nothing⟩ := ih
      -- a protected character passes through the shielded zone, any other stays where it is
      have head
          : (Literal.escapeChar c).foldl Zone.after (.quoted Text.singleQuote)
              = .quoted Text.singleQuote
            ∧ bareFrom (.quoted Text.singleQuote) (Literal.escapeChar c) = [] := by
        by_cases special : c = Text.backslash ∨ c = Text.singleQuote
        · rw [Literal.escapeChar, if_pos special]
          exact ⟨rfl, rfl⟩
        · obtain ⟨noBackslash, noQuote⟩ := not_or.mp special
          simp [Literal.escapeChar, bareFrom, Zone.after, noBackslash, noQuote]
      rw [Literal.escapeText, List.flatMap_cons, ← Literal.escapeText, List.foldl_append,
        bareFrom_append, head.1, head.2]
      exact ⟨stays, nothing⟩

/-- A quoted text has nothing but its opening quote outside. -/
theorem inQuotes (s : Text) : Sealed (Text.inQuotes (Literal.escapeText s)) := by
  obtain ⟨stays, nothing⟩ := escaped s
  have opened : Zone.plain.after Text.singleQuote = .quoted Text.singleQuote := rfl
  refine ⟨?_, fun style => ?_⟩
  · rw [Text.inQuotes, List.cons_append, List.foldl_cons, List.foldl_append, opened, stays]
    rfl
  · rw [Text.inQuotes, List.cons_append, bareFrom, bareFrom_append, opened, stays, nothing]
    cases style <;> decide

end Sealed

mutual

/-- The literal of a value is sealed, by induction on the value. -/
theorem sealed_ofValue (value : Json) : Sealed (Literal.ofValue value) := by
  cases value with
  | null => exact .of_all rfl
  | bool b => cases b <;> exact .of_all rfl
  | number n => exact .number n
  | text s => exact .inQuotes s
  | array items => exact .join (.of_all rfl) (sealed_ofItems items)
  | object fields => exact .inQuotes _

theorem sealed_ofItems (items : List Json) : ∀ text ∈ Literal.ofItems items, Sealed text := by
  cases items with
  | nil => exact List.forall_mem_nil _
  | cons item rest =>
      exact List.forall_mem_cons.mpr ⟨sealed_ofValue item, sealed_ofItems rest⟩

end

-----------------------------------------------------------------------------------------
-- The scan of a text without marks
-----------------------------------------------------------------------------------------

/-- The scan stands in the zone, and not inside a name. -/
inductive Place.StandsIn : Zone → Place → Prop
  | plain (previous) : StandsIn .plain (.outside previous)
  | quoted (quote) : StandsIn (.quoted quote) (.inside quote)
  | shielded (quote) : StandsIn (.shielded quote) (.afterBackslash quote)

/-- A character that is no mark outside quotes is copied, by cases on the zone. -/
theorem pieces_step {style : Style} {zone : Zone} {place : Place} (stands : place.StandsIn zone)
    {c : Char} (unmarked : zone = .plain → c ≠ style.mark)
    : ∃ next : Place,
        next.StandsIn (zone.after c)
        ∧ ∀ rest, pieces style place (c :: rest) = .copied c :: pieces style next rest := by
  cases stands with
  | plain previous =>
      have noMark := unmarked rfl
      by_cases quote : isQuote c = true
      · refine ⟨.inside c, ?_, fun rest => ?_⟩
        · simpa [Zone.after, quote] using Place.StandsIn.quoted c
        · simp [pieces, stepOutside, quote]
      · refine ⟨.outside c, ?_, fun rest => ?_⟩
        · simpa [Zone.after, quote] using Place.StandsIn.plain (some c)
        · cases style <;> simp_all [pieces, stepOutside, Style.mark]
  | quoted quote =>
      refine ⟨stepInside quote c, ?_, fun rest => by rw [pieces]⟩
      rw [stepInside, Zone.after]
      split
      · exact .shielded quote
      · split
        · exact .plain _
        · exact .quoted quote
  | shielded quote => exact ⟨.inside quote, .quoted quote, fun rest => by rw [pieces]⟩

/-- A text without marks outside quotes is copied in front of whatever follows it, by induction on
the text.
-/
theorem pieces_unmarked {style : Style} {s : Text} {zone : Zone} {place : Place}
    (stands : place.StandsIn zone) (unmarked : style.mark ∉ bareFrom zone s)
    : ∃ next : Place,
        next.StandsIn (s.foldl Zone.after zone)
        ∧ ∀ rest, pieces style place (s ++ rest) = s.map .copied ++ pieces style next rest := by
  induction s generalizing zone place with
  | nil => exact ⟨place, stands, fun rest => rfl⟩
  | cons c s ih =>
      rw [bareFrom, List.mem_append, not_or] at unmarked
      have noMark : zone = .plain → c ≠ style.mark := by
        rintro outside rfl
        simp [outside] at unmarked
      obtain ⟨next, standsNext, head⟩ := pieces_step stands noMark
      obtain ⟨last, standsLast, tail⟩ := ih standsNext unmarked.2
      exact ⟨last, standsLast, fun rest => by simp [head, tail]⟩

/-- A sealed text is scanned from outside quotes to outside quotes, and all of it is copied. -/
theorem Sealed.pieces {s : Text} (sealed : Sealed s) (style : Style) (previous : Option Char)
    : ∃ last, ∀ rest,
        pieces style (.outside previous) (s ++ rest)
        = s.map .copied ++ Placeholder.pieces style (.outside last) rest := by
  obtain ⟨next, stands, copied⟩ := pieces_unmarked (.plain previous) (sealed.unmarked style)
  rw [sealed.closed] at stands
  cases stands with
  | plain last => exact ⟨last, copied⟩

/-- Nothing is filled in a text without question marks outside quotes. -/
theorem bind_unmarked {sql : Text} (unmarked : '?' ∉ bareFrom .plain sql) (values : List Json)
    : bind sql (.positional values) = .ok sql := by
  have absent : Style.positional.mark ∉ bareFrom .plain sql := unmarked
  obtain ⟨next, -, copied⟩ := pieces_unmarked (.plain none) absent
  have pieces := copied []
  rw [List.append_nil] at pieces
  have ends : Placeholder.pieces .positional next [] = [] := by cases next <;> rfl
  rw [bind, scan, pieces, fillPositional_copied, ends]
  simp [fillPositional, Except.map]

end SqlAssembly.Placeholder
