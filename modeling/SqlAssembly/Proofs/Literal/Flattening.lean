import SqlAssembly.Proofs.Placeholder.Positions
import SqlAssembly.Proofs.Text.Keyword

/-! Literals of arrays. Nested arrays are written as one list of the literals of their leaves, and
that list is read back by splitting it at the separators outside quotes: no leaf is split, and none
runs into the next one.
-/

namespace SqlAssembly

-----------------------------------------------------------------------------------------
-- Leaves
-----------------------------------------------------------------------------------------

namespace Json

mutual

/-- The elements of an array that are no arrays themselves, depth first. Any other value is its only
leaf.
-/
def leaves : Json → List Json
  | array items => leavesOf items
  | value => [value]

/-- The leaves of the items of an array. -/
def leavesOf : List Json → List Json
  | [] => []
  | item :: rest => leaves item ++ leavesOf rest

end

mutual

/-- Neither the value nor an array in it, however deep, is an array without items. -/
def isFilled : Json → Bool
  | array items => !items.isEmpty && areFilled items
  | _ => true

/-- All items of an array are so. -/
def areFilled : List Json → Bool
  | [] => true
  | item :: rest => isFilled item && areFilled rest

end

end Json

namespace Literal

open Placeholder (Zone isQuote)
open Reading (Inert Reads)

-----------------------------------------------------------------------------------------
-- Splitting outside quotes
-----------------------------------------------------------------------------------------

/-- What stands between items. -/
def separator : Text := ", "

/-- The texts between the separators outside quotes, when the text is read from a zone on. -/
def splitFrom : Zone → Text → List Text
  | _, [] => [[]]
  | .plain, ',' :: ' ' :: rest => [] :: splitFrom .plain rest
  | zone, c :: rest => (splitFrom (zone.after c) rest).modifyHead (c :: ·)

/-- The items of a list, which separators outside quotes divide. -/
def splitItems (s : Text) : List Text :=
  splitFrom .plain s

/-- The text belongs to one item, whatever follows it. -/
def Solid (s : Text) : Prop :=
  ∀ rest, splitFrom .plain (s ++ rest) = (splitFrom .plain rest).modifyHead (s ++ ·)

variable {s : Text} {zone : Zone} {c : Char}

theorem splitFrom_kept (rest : Text) (kept : zone = .plain → c ≠ ',')
    : splitFrom zone (c :: rest) = (splitFrom (zone.after c) rest).modifyHead (c :: ·) := by
  rw [splitFrom]
  intro _ outside comma _
  exact kept outside comma

/-- A text without quotes and commas is solid, by induction on the text. -/
theorem Solid.of_inert (inert : Inert s) (free : ',' ∉ s) : Solid s := by
  intro rest
  induction s with
  | nil =>
      rw [List.nil_append]
      cases splitFrom .plain rest <;> rfl
  | cons c s ih =>
      obtain ⟨noComma, later⟩ := not_or.mp (mt List.mem_cons.mpr free)
      have bare : isQuote c = false := by
        have head := inert c List.mem_cons_self
        simp only [Reading.isInert, Bool.not_eq_true', Bool.or_eq_false_iff] at head
        simp [isQuote, head]
      have outside : Zone.plain.after c = .plain := by simp [Zone.after, bare]
      have tail := ih (inert.of_subset (List.subset_cons_self c s)) later
      rw [List.cons_append, splitFrom_kept _ fun _ => Ne.symm noComma, outside, tail,
        List.modifyHead_modifyHead]
      rfl

/-- An escaped text up to the closing quote belongs to one item, by induction on the text. -/
theorem splitFrom_escaped (s rest : Text)
    : splitFrom (.quoted Text.singleQuote) (escapeText s ++ Text.singleQuote :: rest)
      = (splitFrom .plain rest).modifyHead ((escapeText s ++ [Text.singleQuote]) ++ ·) := by
  induction s with
  | nil =>
      rw [escapeText, List.flatMap_nil, List.nil_append, splitFrom_kept rest (by simp)]
      rfl
  | cons c s ih =>
      rw [escapeText, List.flatMap_cons, ← escapeText, List.append_assoc]
      -- a protected character passes through the shielded zone, any other stays where it is
      by_cases special : c = Text.backslash ∨ c = Text.singleQuote
      · have shielded : (Zone.quoted Text.singleQuote).after Text.backslash
            = .shielded Text.singleQuote := by decide
        have behind : (Zone.shielded Text.singleQuote).after c = .quoted Text.singleQuote := rfl
        rw [escapeChar, if_pos special, List.cons_append, List.singleton_append,
          splitFrom_kept _ (by simp), shielded, splitFrom_kept _ (by simp), behind, ih,
          List.modifyHead_modifyHead, List.modifyHead_modifyHead]
        rfl
      · obtain ⟨noBackslash, noQuote⟩ := not_or.mp special
        have stays : (Zone.quoted Text.singleQuote).after c = .quoted Text.singleQuote := by
          simp [Zone.after, noBackslash, noQuote]
        rw [escapeChar, if_neg special, List.singleton_append, splitFrom_kept _ (by simp), stays,
          ih, List.modifyHead_modifyHead]
        rfl

/-- A quoted text belongs to one item. -/
theorem Solid.inQuotes (s : Text) : Solid (Text.inQuotes (escapeText s)) := by
  intro rest
  have opened : Zone.plain.after Text.singleQuote = .quoted Text.singleQuote := rfl
  have body := splitFrom_escaped s rest
  rw [Text.inQuotes, List.cons_append, List.cons_append, List.append_assoc, List.singleton_append,
    splitFrom_kept _ (by decide), opened, body, List.modifyHead_modifyHead]
  rfl

/-- A list of solid texts is split into these texts, by induction on them. -/
theorem splitItems_join {texts : List Text} (nonempty : texts ≠ [])
    (solid : ∀ text ∈ texts, Solid text)
    : splitItems (Text.join separator texts) = texts := by
  induction texts with
  | nil => exact absurd rfl nonempty
  | cons text texts ih =>
      obtain ⟨head, later⟩ := List.forall_mem_cons.mp solid
      cases texts with
      | nil =>
          have alone := head []
          simpa [splitItems, Text.join, splitFrom] using alone
      | cons next texts =>
          have tail := ih (List.cons_ne_nil next texts) later
          have apart (rest : Text)
              : splitFrom .plain (separator ++ rest) = [] :: splitFrom .plain rest := rfl
          rw [splitItems] at tail ⊢
          rw [Text.join, List.intercalate_cons_cons, ← Text.join, List.append_assoc, head, apart,
            tail]
          simp

-----------------------------------------------------------------------------------------
-- Arrays
-----------------------------------------------------------------------------------------

mutual

/-- A filled value is written as the list of its leaves, by induction on the value. -/
theorem ofValue_eq_join (value : Json) (filled : value.isFilled = true)
    : value.leaves ≠ []
      ∧ ofValue value = Text.join separator (value.leaves.map ofValue) := by
  cases value with
  | null | bool | number | text | object => simp [Json.leaves, Text.join]
  | array items =>
      rw [Json.isFilled, Bool.and_eq_true, Bool.not_eq_true', List.isEmpty_eq_false_iff] at filled
      rw [Json.leaves, ofValue]
      exact ofItems_eq_join items filled.1 filled.2

theorem ofItems_eq_join (items : List Json) (nonempty : items ≠ [])
    (filled : Json.areFilled items = true)
    : Json.leavesOf items ≠ []
      ∧ Text.join separator (ofItems items)
        = Text.join separator ((Json.leavesOf items).map ofValue) := by
  cases items with
  | nil => exact absurd rfl nonempty
  | cons item rest =>
      rw [Json.areFilled, Bool.and_eq_true] at filled
      obtain ⟨given, head⟩ := ofValue_eq_join item filled.1
      refine ⟨by simp [Json.leavesOf, given], ?_⟩
      rw [ofItems, Json.leavesOf, List.map_append]
      cases rest with
      | nil => simpa [ofItems, Json.leavesOf, Text.join] using head
      | cons next rest =>
          obtain ⟨more, tail⟩ := ofItems_eq_join (next :: rest) (List.cons_ne_nil _ _) filled.2
          rw [Text.join_append (by simpa using given) (by simpa using more), ← head, ← tail,
            ofItems, ← List.singleton_append,
            Text.join_append (List.cons_ne_nil _ _) (List.cons_ne_nil _ _)]
          simp [Text.join]

end

/-- How a leaf is written: a text as the one literal that stands for it, an object as the one
literal of its compact text, and any other leaf bare.
-/
inductive WritesLeaf : Text → Json → Prop
  | null : WritesLeaf "NULL".toList .null
  | bool (b : Bool) : WritesLeaf (Json.boolText b) (.bool b)
  | number (n : Number) : WritesLeaf n.text (.number n)
  | text {written s : Text} (reads : Reads written [.literal s]) : WritesLeaf written (.text s)
  | object {written : Text} {fields : List (Text × Json)}
    (reads : Reads written [.literal (Json.compact (.object fields))])
    : WritesLeaf written (.object fields)

/-- A leaf has a literal of its own, which no separator splits. -/
structure OwnLiteral (leaf : Json) : Prop where
  solid : Solid (ofValue leaf)
  written : WritesLeaf (ofValue leaf) leaf

namespace OwnLiteral

theorem null : OwnLiteral .null where
  solid := .of_inert (.of_all rfl) (by decide)
  written := .null

theorem bool (b : Bool) : OwnLiteral (.bool b) where
  solid := .of_inert (.boolText b) (by cases b <;> decide)
  written := .bool b

/-- A comma is no number character. -/
theorem number (n : Number) : OwnLiteral (.number n) where
  solid := .of_inert (.number n) fun comma => absurd (Number.Numeric.text n _ comma) (by decide)
  written := .number n

theorem text (s : Text) : OwnLiteral (.text s) where
  solid := .inQuotes s
  written := .text (.inQuotes s)

theorem object (fields : List (Text × Json)) : OwnLiteral (.object fields) where
  solid := .inQuotes (Json.compact (.object fields))
  written := .object (.inQuotes (Json.compact (.object fields)))

end OwnLiteral

mutual

/-- The leaves of a value have literals of their own, by induction on the value. -/
theorem ownLiteral_of_mem_leaves (value : Json) : ∀ leaf ∈ value.leaves, OwnLiteral leaf := by
  cases value with
  | null => exact List.forall_mem_singleton.mpr .null
  | bool b => exact List.forall_mem_singleton.mpr (.bool b)
  | number n => exact List.forall_mem_singleton.mpr (.number n)
  | text s => exact List.forall_mem_singleton.mpr (.text s)
  | object fields => exact List.forall_mem_singleton.mpr (.object fields)
  | array items => exact ownLiteral_of_mem_leavesOf items

theorem ownLiteral_of_mem_leavesOf (items : List Json)
    : ∀ leaf ∈ Json.leavesOf items, OwnLiteral leaf := by
  cases items with
  | nil => exact List.forall_mem_nil _
  | cons item rest =>
      exact List.forall_mem_append.mpr
        ⟨ownLiteral_of_mem_leaves item, ownLiteral_of_mem_leavesOf rest⟩

end

/-- An array without empty arrays in it is written as a list whose items are the literals of its
leaves, one for each leaf, and each of these literals stands for its leaf alone.
-/
theorem array_literal_splits_into_leaves (items : List Json)
    (filled : (Json.array items).isFilled = true)
    : splitItems (ofValue (.array items)) = (Json.array items).leaves.map ofValue
      ∧ (splitItems (ofValue (.array items))).length = (Json.array items).leaves.length
      ∧ ∀ leaf ∈ (Json.array items).leaves, WritesLeaf (ofValue leaf) leaf := by
  obtain ⟨given, joined⟩ := ofValue_eq_join (.array items) filled
  have own := ownLiteral_of_mem_leaves (.array items)
  have solid : ∀ text ∈ (Json.array items).leaves.map ofValue, Solid text :=
    List.forall_mem_map.mpr fun leaf member => (own leaf member).solid
  have split : splitItems (ofValue (.array items)) = (Json.array items).leaves.map ofValue := by
    rw [joined]
    exact splitItems_join (by simpa using given) solid
  refine ⟨split, ?_, fun leaf member => (own leaf member).written⟩
  rw [split, List.length_map]

/-- A nested array whose texts hold quotes, backslashes and separators has four items: the third is
an object with an array in it, and the word in the last is a text and not a null.
-/
theorem array_literal_splits_into_leaves_hostile :
    let value := Json.array [.text "a', '\\".toList,
      .array [.array [.null],
        .object [("k".toList, .array [.number (.natural 1), .text ", ".toList])]],
      .text "NULL".toList]
    value.isFilled = true
    ∧ (splitItems (ofValue value)).length = 4
    ∧ splitItems (ofValue value) = value.leaves.map ofValue := by
  intro value
  have filled : value.isFilled = true := by decide
  obtain ⟨split, count, _⟩ := array_literal_splits_into_leaves _ filled
  exact ⟨filled, count, split⟩

end Literal

end SqlAssembly
