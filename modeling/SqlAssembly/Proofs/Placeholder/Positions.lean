import SqlAssembly.Placeholder

/-! Where the placeholders of a source text stand, said position by position. The scan, which keeps
a register of where it is, finds exactly these positions.
-/

namespace SqlAssembly.Placeholder

-----------------------------------------------------------------------------------------
-- Positions
-----------------------------------------------------------------------------------------

/-- Whether a position is quoted: plain text, a quote opened by the given character, or such a
quote right behind a backslash.
-/
inductive Zone where
  | plain
  | quoted (quote : Char)
  | shielded (quote : Char)
deriving DecidableEq

/-- The zone behind a character. Backslashes protect except between backticks. -/
def Zone.after : Zone → Char → Zone
  | plain, c => if isQuote c then quoted c else plain
  | quoted q, c =>
      if c = Text.backslash ∧ q ≠ Text.backtick then shielded q
      else if c = q then plain
      else quoted q
  | shielded q, _ => quoted q

/-- The zone of a position is settled by the characters before it. -/
def zoneAt (sql : Text) (i : Nat) : Zone :=
  (sql.take i).foldl Zone.after .plain

/-- A placeholder stands at the position: an unquoted question mark, or an unquoted colon that no
word character or colon precedes and that the start of a name follows.
-/
def isPlaceholderAt (style : Style) (sql : Text) (i : Nat) : Bool :=
  zoneAt sql i = .plain
    && match style with
      | .positional => sql[i]? == some '?'
      | .named =>
          sql[i]? == some ':'
          && (sql.take i).getLast?.all (fun p => !(Text.isWordChar p || p == ':'))
          && sql[i + 1]?.any Text.isNameStart

/-- The longest run of word characters behind a position. -/
def nameAt (sql : Text) (i : Nat) : Text :=
  (sql.drop (i + 1)).takeWhile Text.isWordChar

/-- What a placeholder at the position is made of, behind its mark. -/
def tailAt (style : Style) (sql : Text) (i : Nat) : Text :=
  match style with
  | .positional => []
  | .named => nameAt sql i

/-- A placeholder that starts earlier covers the position. -/
def isCoveredAt (style : Style) (sql : Text) (i : Nat) : Bool :=
  (List.range i).any fun j => isPlaceholderAt style sql j && i ≤ j + (tailAt style sql j).length

/-- The positions of the placeholders, in order. -/
def placeholders (style : Style) (sql : Text) : List Nat :=
  (List.range sql.length).filter (isPlaceholderAt style sql)

/-- The piece that a position starts, if it is not covered. -/
def pieceAt (style : Style) (sql : Text) (i : Nat) : Option Piece :=
  if isPlaceholderAt style sql i then
    match style with
    | .positional => some .positional
    | .named => some (.named (nameAt sql i))
  else if isCoveredAt style sql i then none
  else sql[i]?.map .copied

-----------------------------------------------------------------------------------------
-- What is behind a prefix
-----------------------------------------------------------------------------------------

variable {style : Style} {done rest : Text} {c : Char}

theorem zoneAt_behind (done rest : Text)
    : zoneAt (done ++ rest) done.length = done.foldl Zone.after .plain := by
  simp [zoneAt]

theorem zoneAt_next (done rest : Text) (c : Char)
    : zoneAt (done ++ c :: rest) (done.length + 1)
      = (zoneAt (done ++ c :: rest) done.length).after c := by
  have longer := zoneAt_behind (done ++ [c]) rest
  rw [List.append_assoc, List.length_append, List.foldl_append] at longer
  rw [zoneAt_behind]
  exact longer

theorem nameAt_behind (done rest : Text) (c : Char)
    : nameAt (done ++ c :: rest) done.length = rest.takeWhile Text.isWordChar := by
  rw [nameAt, ← List.drop_drop, List.drop_left]
  rfl

/-- A placeholder that starts behind the prefix, in terms of what is around it. -/
theorem isPlaceholderAt_behind (style : Style) (done rest : Text) (c : Char)
    : isPlaceholderAt style (done ++ c :: rest) done.length
      = (
        decide (zoneAt (done ++ c :: rest) done.length = .plain)
        && match style with
          | .positional => c == '?'
          | .named => c == ':' && startsName done.getLast? rest
      ) := by
  have next : (done ++ c :: rest)[done.length + 1]? = rest.head? := by
    rw [List.getElem?_append_right (by omega)]
    cases rest <;> simp
  cases style <;>
    simp [isPlaceholderAt, startsName, next, Bool.and_assoc]

-----------------------------------------------------------------------------------------
-- How far a name goes
-----------------------------------------------------------------------------------------

/-- One more character belongs to a run when it follows the run so far, by induction on the text.
-/
theorem lt_length_takeWhile {p : Char → Bool} {s : Text} {n : Nat}
    : n < (s.takeWhile p).length ↔ n ≤ (s.takeWhile p).length ∧ s[n]?.any p = true := by
  induction s generalizing n with
  | nil => simp
  | cons c rest ih =>
      cases held : p c with
      | false => cases n <;> simp [held]
      | true =>
          rw [List.takeWhile_cons_of_pos held, List.length_cons]
          cases n with
          | zero => simp [held]
          | succ n => rw [Nat.succ_lt_succ_iff, Nat.succ_le_succ_iff, List.getElem?_cons_succ, ih]

/-- A name reaches one position further when it reaches the position and a word character follows.
-/
theorem reaches_next {sql : Text} {i j : Nat} (earlier : j ≤ i)
    : i + 1 ≤ j + (nameAt sql j).length
      ↔ i ≤ j + (nameAt sql j).length ∧ sql[i + 1]?.any Text.isWordChar = true := by
  have run := lt_length_takeWhile (p := Text.isWordChar) (s := sql.drop (j + 1)) (n := i - j)
  rw [List.getElem?_drop, show j + 1 + (i - j) = i + 1 by omega, ← nameAt] at run
  have next : i + 1 ≤ j + (nameAt sql j).length ↔ i - j < (nameAt sql j).length := by omega
  have near : i - j ≤ (nameAt sql j).length ↔ i ≤ j + (nameAt sql j).length := by omega
  rw [next, run, near]

/-- A name goes on up to the position. -/
def goesOn (style : Style) (sql : Text) : Nat → Bool
  | 0 => false
  | i + 1 => style == .named && (isPlaceholderAt style sql i || isCoveredAt style sql i)

/-- A position is covered when a name goes on up to it and it holds a word character. -/
theorem isCoveredAt_eq (style : Style) (sql : Text) (i : Nat)
    : isCoveredAt style sql i = (goesOn style sql i && sql[i]?.any Text.isWordChar) := by
  cases i with
  | zero => rfl
  | succ i =>
      cases style with
      | positional =>
          simp only [isCoveredAt, goesOn, tailAt, List.length_nil, Nat.add_zero]
          refine (List.any_eq_false.mpr fun j member => ?_).trans rfl
          have earlier := List.mem_range.mp member
          have short : ¬ i + 1 ≤ j := by omega
          simp [short]
      | named =>
          rw [Bool.eq_iff_iff]
          simp only [isCoveredAt, goesOn, List.any_eq_true, List.mem_range, Bool.and_eq_true,
            tailAt, Bool.or_eq_true]
          constructor
          · rintro ⟨j, earlier, stands, far⟩
            have within : j ≤ i := by omega
            obtain ⟨near, word⟩ := (reaches_next within).mp (of_decide_eq_true far)
            refine ⟨⟨rfl, ?_⟩, word⟩
            rcases Nat.lt_or_eq_of_le within with before | rfl
            · exact Or.inr ⟨j, before, stands, decide_eq_true near⟩
            · exact Or.inl stands
          · rintro ⟨⟨_, stands | ⟨j, before, stands, near⟩⟩, word⟩
            · have far := (reaches_next i.le_refl).mpr ⟨Nat.le_add_right _ _, word⟩
              exact ⟨i, by omega, stands, decide_eq_true far⟩
            · have far := (reaches_next (Nat.le_of_lt before)).mpr ⟨of_decide_eq_true near, word⟩
              exact ⟨j, by omega, stands, decide_eq_true far⟩

-----------------------------------------------------------------------------------------
-- The scan
-----------------------------------------------------------------------------------------

/-- The register of a scan agrees with the text behind the prefix that it has read. Outside quotes
it holds the character before.
-/
def Place.Agrees (place : Place) (style : Style) (sql done : Text) : Prop :=
  match place with
  | .outside previous =>
      zoneAt sql done.length = .plain
      ∧ done.getLast? = previous
      ∧ goesOn style sql done.length = false
  | .inName previous =>
      zoneAt sql done.length = .plain
      ∧ done.getLast? = some previous
      ∧ goesOn style sql done.length = true
      ∧ style = .named
  | .inside quote =>
      zoneAt sql done.length = .quoted quote ∧ goesOn style sql done.length = false
  | .afterBackslash quote =>
      zoneAt sql done.length = .shielded quote ∧ goesOn style sql done.length = false

/-- Nothing but a copied character starts at a quoted position. -/
theorem pieceAt_quoted (quoted : zoneAt (done ++ c :: rest) done.length ≠ .plain)
    (further : goesOn style (done ++ c :: rest) done.length = false)
    : pieceAt style (done ++ c :: rest) done.length = some (.copied c)
      ∧ goesOn style (done ++ c :: rest) (done.length + 1) = false := by
  have unmarked : isPlaceholderAt style (done ++ c :: rest) done.length = false := by
    simp [isPlaceholderAt_behind, quoted]
  have uncovered : isCoveredAt style (done ++ c :: rest) done.length = false := by
    rw [isCoveredAt_eq, further, Bool.false_and]
  simp [pieceAt, goesOn, unmarked, uncovered]

/-- Marks open no quotes. -/
theorem isQuote_mark {c : Char} (quote : isQuote c = true) : c ≠ '?' ∧ c ≠ ':' := by
  constructor <;> rintro rfl <;> revert quote <;> decide

/-- Word characters open no quotes. -/
theorem isQuote_wordChar {c : Char} (word : Text.isWordChar c = true) : isQuote c = false := by
  rw [Bool.eq_false_iff]
  intro quote
  simp only [isQuote, Bool.or_eq_true, beq_iff_eq] at quote
  rcases quote with (rfl | rfl) | rfl <;> revert word <;> decide

/-- A step outside quotes finds the piece of its position, by cases on the step. -/
theorem stepOutside_agrees (plain : zoneAt (done ++ c :: rest) done.length = .plain)
    (uncovered : isCoveredAt style (done ++ c :: rest) done.length = false)
    : pieceAt style (done ++ c :: rest) done.length
        = some (stepOutside style done.getLast? c rest).1
      ∧ (stepOutside style done.getLast? c rest).2.Agrees style (done ++ c :: rest)
          (done ++ [c]) := by
  have marked := isPlaceholderAt_behind style done rest c
  have zone := zoneAt_next done rest c
  have further
      : goesOn style (done ++ c :: rest) (done.length + 1)
        = (style == .named && isPlaceholderAt style (done ++ c :: rest) done.length) := by
    rw [goesOn, uncovered, Bool.or_false]
  have found : (done ++ c :: rest)[done.length]? = some c := by simp
  rw [plain] at marked zone
  rw [stepOutside]
  split
  · next quote =>
      have unmarked : isPlaceholderAt style (done ++ c :: rest) done.length = false := by
        obtain ⟨question, colon⟩ := isQuote_mark quote
        rw [marked]
        cases style <;> simp [question, colon]
      rw [unmarked, Bool.and_false] at further
      rw [Zone.after, if_pos quote] at zone
      simp [pieceAt, unmarked, uncovered, Place.Agrees, zone, further]
  · next bare =>
      rw [Zone.after, if_neg bare] at zone
      split
      · next question =>
          obtain ⟨rfl, rfl⟩ := question
          simp [pieceAt, marked, Place.Agrees, zone, further]
      · next question =>
          split
          · next colon =>
              obtain ⟨rfl, rfl, starts⟩ := colon
              have name := nameAt_behind done rest ':'
              simp [pieceAt, marked, starts, name, Place.Agrees, zone, further]
          · next colon =>
              have unmarked : isPlaceholderAt style (done ++ c :: rest) done.length = false := by
                rw [marked]
                cases style <;> simp_all
              rw [unmarked, Bool.and_false] at further
              simp [pieceAt, unmarked, uncovered, Place.Agrees, zone, further]

/-- A word character that a name goes on with is no piece of its own. -/
theorem inName_agrees (plain : zoneAt (done ++ c :: rest) done.length = .plain)
    (word : Text.isWordChar c = true)
    (covered : isCoveredAt .named (done ++ c :: rest) done.length = true)
    : pieceAt .named (done ++ c :: rest) done.length = none
      ∧ (Place.inName c).Agrees .named (done ++ c :: rest) (done ++ [c]) := by
  have noColon : c ≠ ':' := by
    rintro rfl
    revert word
    decide
  have unmarked : isPlaceholderAt .named (done ++ c :: rest) done.length = false := by
    simp [isPlaceholderAt_behind, noColon]
  have zone := zoneAt_next done rest c
  rw [plain, Zone.after, isQuote_wordChar word] at zone
  have further : goesOn .named (done ++ c :: rest) (done.length + 1) = true := by
    rw [goesOn, covered, Bool.or_true]
    rfl
  exact ⟨by simp [pieceAt, unmarked, covered], by simp [Place.Agrees, zone, further]⟩

/-- A step inside quotes keeps to the zone of the position. -/
theorem stepInside_agrees {quote : Char}
    (quoted : zoneAt (done ++ c :: rest) done.length = .quoted quote)
    (further : goesOn style (done ++ c :: rest) (done.length + 1) = false)
    : (stepInside quote c).Agrees style (done ++ c :: rest) (done ++ [c]) := by
  have zone := zoneAt_next done rest c
  rw [quoted, Zone.after] at zone
  rw [stepInside]
  split
  · next backslash =>
      rw [if_pos backslash] at zone
      simp [Place.Agrees, zone, further]
  · next bare =>
      rw [if_neg bare] at zone
      split
      · next closing =>
          rw [if_pos closing] at zone
          simp [Place.Agrees, zone, further]
      · next other =>
          rw [if_neg other] at zone
          simp [Place.Agrees, zone, further]

/-- The scan finds the pieces of the positions, by induction on the text that is left. -/
theorem pieces_eq (style : Style) {place : Place}
    (agrees : place.Agrees style (done ++ rest) done)
    : pieces style place rest
      = (List.range' done.length rest.length).filterMap (pieceAt style (done ++ rest)) := by
  induction rest generalizing done place with
  | nil => cases place <;> simp [pieces]
  | cons c rest ih =>
      have onward {next : Place} (agrees : next.Agrees style (done ++ c :: rest) (done ++ [c]))
          : pieces style next rest
            = (List.range' (done.length + 1) rest.length).filterMap
                (pieceAt style (done ++ c :: rest)) := by
        have split : done ++ c :: rest = (done ++ [c]) ++ rest := by simp
        rw [split] at agrees ⊢
        have found := ih agrees
        rwa [List.length_append] at found
      have covered := isCoveredAt_eq style (done ++ c :: rest) done.length
      rw [List.length_cons, List.range'_succ, List.filterMap_cons]
      cases place with
      | outside previous =>
          obtain ⟨plain, last, further⟩ := agrees
          rw [further, Bool.false_and] at covered
          obtain ⟨piece, next⟩ := stepOutside_agrees plain covered
          rw [last] at piece next
          rw [piece, pieces, ← onward next]
      | inName previous =>
          obtain ⟨plain, last, further, rfl⟩ := agrees
          have found : (done ++ c :: rest)[done.length]? = some c := by simp
          rw [further, Bool.true_and, found, Option.any_some] at covered
          cases word : Text.isWordChar c with
          | true =>
              obtain ⟨piece, next⟩ := inName_agrees plain word (covered.trans word)
              rw [piece, pieces, if_pos word, onward next]
          | false =>
              obtain ⟨piece, next⟩ := stepOutside_agrees plain (covered.trans word)
              rw [last] at piece next
              rw [piece, pieces, if_neg (by simp [word]), ← onward next]
      | inside quote =>
          obtain ⟨quoted, further⟩ := agrees
          obtain ⟨piece, still⟩ := pieceAt_quoted (by simp [quoted]) further
          rw [piece, pieces, onward (stepInside_agrees quoted still)]
      | afterBackslash quote =>
          obtain ⟨shielded, further⟩ := agrees
          obtain ⟨piece, still⟩ := pieceAt_quoted (by simp [shielded]) further
          have zone := zoneAt_next done rest c
          rw [shielded, Zone.after] at zone
          have next : (Place.inside quote).Agrees style (done ++ c :: rest) (done ++ [c]) := by
            simp [Place.Agrees, zone, still]
          rw [piece, pieces, onward next]

/-- The pieces of a source text are those of its positions. -/
theorem scan_eq (style : Style) (sql : Text)
    : scan style sql = (List.range sql.length).filterMap (pieceAt style sql) := by
  have start : (Place.outside none).Agrees style ([] ++ sql) [] := ⟨rfl, rfl, rfl⟩
  rw [scan, pieces_eq style start, List.range_eq_range']
  rfl

end SqlAssembly.Placeholder
