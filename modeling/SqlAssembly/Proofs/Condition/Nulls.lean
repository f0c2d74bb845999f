import SqlAssembly.Proofs.Condition.Building
import SqlAssembly.Proofs.Condition.Meaning

/-! Nulls among the values of a where clause. Criteria put every value between quotes, so that a
null is compared with as a text, the word NULL, and no other value is written as it is.
-/

namespace SqlAssembly

open Grammar (parse)
open Number (Numeric)
open Reading (Reads valueText)

-----------------------------------------------------------------------------------------
-- Values written once
-----------------------------------------------------------------------------------------

/-- Of a value only its literal is written, in a place that does not depend on it. -/
def WritesLiteral (written : Json → Text) : Prop :=
  ∃ front back, ∀ value, written value = front ++ Literal.quote value ++ back

namespace WritesLiteral

variable {written : Json → Text}

theorem quote : WritesLiteral Literal.quote := by
  refine ⟨[], [], fun value => ?_⟩
  rw [List.nil_append, List.append_nil]

theorem append (writes : WritesLiteral written) (t : Text)
    : WritesLiteral (fun value => written value ++ t) := by
  obtain ⟨front, back, whole⟩ := writes
  refine ⟨front, back ++ t, fun value => ?_⟩
  simp only [whole, List.append_assoc]

theorem prepend (writes : WritesLiteral written) (s : Text)
    : WritesLiteral (fun value => s ++ written value) := by
  obtain ⟨front, back, whole⟩ := writes
  refine ⟨s ++ front, back, fun value => ?_⟩
  simp only [whole, List.append_assoc]

/-- One of the texts that are joined may be such, by induction on the texts before it. -/
theorem join (writes : WritesLiteral written) (separator : Text) (before after : List Text)
    : WritesLiteral (fun value => Text.join separator (before ++ written value :: after)) := by
  induction before with
  | nil =>
      cases after with
      | nil =>
          simpa [Text.join] using writes
      | cons next after =>
          have whole := writes.append (separator ++ Text.join separator (next :: after))
          simpa only [List.nil_append, Text.join, List.intercalate_cons_cons, List.append_assoc]
            using whole
  | cons first before ih =>
      have whole := ih.prepend (first ++ separator)
      have step (value : Json)
          : Text.join separator (first :: before ++ written value :: after)
            = first ++ separator
              ++ Text.join separator (before ++ written value :: after) := by
        cases before <;>
          simp only [Text.join, List.cons_append, List.nil_append, List.intercalate_cons_cons,
            List.append_assoc]
      simpa only [step] using whole

/-- Values make a difference exactly if their literals differ. -/
theorem eq_iff (writes : WritesLiteral written) (value other : Json)
    : written value = written other ↔ Literal.quote value = Literal.quote other := by
  obtain ⟨front, back, whole⟩ := writes
  rw [whole, whole, List.append_cancel_right_eq, List.append_cancel_left_eq]

end WritesLiteral

/-- The literal of null is that of the text NULL, and of no other value. -/
theorem quote_eq_quote_null_iff (value : Json)
    : Literal.quote value = Literal.quote .null ↔ value = .null ∨ value = .text "NULL" := by
  constructor
  · intro same
    have spelled (notNull : value.isNull = false) : valueText value = "NULL" := by
      have word : Reads (Literal.quote .null) [.literal "NULL"] := .inQuotes "NULL"
      have read := Reads.quote notNull
      rw [same] at read
      simpa using read.unique word
    cases value with
    | null => exact .inl rfl
    | text s => exact .inr (congrArg Json.text (spelled rfl))
    | bool b => cases b <;> exact absurd (spelled rfl) (by decide)
    | number n =>
        have text : n.text = "NULL" := spelled rfl
        have letter : 'N' ∈ n.text := by
          rw [text]
          decide
        exact absurd (Numeric.text n 'N' letter) (by decide)
    | array items => exact absurd (List.cons.inj (spelled rfl)).1 (by decide)
    | object fields => exact absurd (List.cons.inj (spelled rfl)).1 (by decide)
  · rintro (rfl | rfl) <;> rfl

-----------------------------------------------------------------------------------------
-- Places of values
-----------------------------------------------------------------------------------------

namespace Condition

/-- Where a value stands in a condition: it is what the field must equal, or an item of the list. -/
inductive Place where
  | scalar
  | item (before after : List Json)

def Place.fill : Place → Json → Condition
  | scalar, value => .scalar value
  | item before after, value => .list (before ++ value :: after)

/-- The values of a condition are those that stand at its places. -/
theorem mem_values_iff {condition : Condition} {value : Json}
    : value ∈ condition.values ↔ ∃ place : Place, condition = place.fill value := by
  constructor
  · intro member
    cases condition with
    | literal sql => exact absurd member List.not_mem_nil
    | scalar compared =>
        rw [List.mem_singleton.mp member]
        exact ⟨.scalar, rfl⟩
    | list values =>
        obtain ⟨before, after, rfl⟩ := List.append_of_mem member
        exact ⟨.item before after, rfl⟩
  · rintro ⟨place, rfl⟩
    cases place with
    | scalar => exact List.mem_singleton_self value
    | item before after => exact List.mem_append_right before List.mem_cons_self

theorem Place.writesLiteral (place : Place) (field : Text)
    : WritesLiteral (fun value => (place.fill value).predicate field) := by
  cases place with
  | scalar => exact WritesLiteral.quote.prepend (field ++ " = ".toList)
  | item before after =>
      have items := WritesLiteral.quote.join "," (before.map Literal.quote)
        (after.map Literal.quote)
      have whole := (items.prepend (field ++ " in (".toList)).append ")".toList
      have step (value : Json)
          : ((Place.item before after).fill value).predicate field
            = field ++ " in (".toList
              ++ Text.join "," (before.map Literal.quote
                ++ Literal.quote value :: after.map Literal.quote)
              ++ ")".toList := by
        cases before <;> simp [Place.fill, predicate]
      simpa only [step] using whole

end Condition

namespace Criteria

/-- Where a value stands in criteria: on one side, in a condition between others, beside whatever
is on the other side.
-/
structure Place where
  side : Side
  before : List (Text × Condition)
  field : Text
  place : Condition.Place
  after : List (Text × Condition)
  other : Option Group

def Place.group (place : Place) (value : Json) : Group :=
  .fields (place.before ++ (place.field, place.place.fill value) :: place.after)

def Place.fill (place : Place) (value : Json) : Criteria :=
  match place.side with
  | .all => ⟨some (place.group value), place.other⟩
  | .any => ⟨place.other, some (place.group value)⟩

theorem mem_values_iff {criteria : Criteria} {value : Json}
    : value ∈ Filter.values (some (.structured criteria))
      ↔ ∃ place : Place, criteria = place.fill value := by
  constructor
  · intro member
    have listed {group : Option Group} (within : value ∈ group.toList.flatMap Group.values)
        : ∃ before field, ∃ place : Condition.Place, ∃ after,
            group = some (.fields (before ++ (field, place.fill value) :: after)) := by
      obtain ⟨terms, given, inner⟩ := List.mem_flatMap.mp within
      rw [Option.mem_toList.mp given]
      cases terms with
      | raw sql => exact absurd inner List.not_mem_nil
      | fields terms =>
          obtain ⟨⟨field, condition⟩, termMember, valueMember⟩ := List.mem_flatMap.mp inner
          obtain ⟨place, rfl⟩ := Condition.mem_values_iff.mp valueMember
          obtain ⟨before, after, rfl⟩ := List.append_of_mem termMember
          exact ⟨before, field, place, after, rfl⟩
    obtain ⟨all, any⟩ := criteria
    rcases List.mem_append.mp member with first | second
    · obtain ⟨before, field, place, after, rfl⟩ := listed first
      exact ⟨⟨.all, before, field, place, after, any⟩, rfl⟩
    · obtain ⟨before, field, place, after, rfl⟩ := listed second
      exact ⟨⟨.any, before, field, place, after, all⟩, rfl⟩
  · rintro ⟨place, rfl⟩
    have inner : value ∈ (place.group value).values := by
      refine List.mem_flatMap.mpr ⟨_, List.mem_append_right _ List.mem_cons_self, ?_⟩
      exact Condition.mem_values_iff.mpr ⟨place.place, rfl⟩
    have within : value ∈ (some (place.group value)).toList.flatMap Group.values :=
      List.mem_flatMap.mpr ⟨_, List.mem_singleton_self _, inner⟩
    obtain ⟨side, before, field, place, after, other⟩ := place
    cases side with
    | all => exact List.mem_append_left _ within
    | any => exact List.mem_append_right _ within

/-- Of the predicates of a group only one has the value in it. -/
theorem Place.writesLiteral_join (place : Place) (separator : Text)
    : WritesLiteral
        (fun value => Text.join separator (groupPredicates (some (place.group value)))) := by
  have terms := (place.place.writesLiteral place.field).join separator
    (termPredicates place.before) (termPredicates place.after)
  have predicates (value : Json)
      : groupPredicates (some (place.group value))
        = termPredicates place.before
          ++ (place.place.fill value).predicate place.field :: termPredicates place.after :=
    List.map_append
  simpa only [predicates] using terms

/-- The predicate by what the two groups ask. -/
theorem predicate_eq (criteria : Criteria)
    : criteria.predicate
      = if groupPredicates criteria.any = [] then Text.join " and " (groupPredicates criteria.all)
        else if groupPredicates criteria.all = [] then
          Text.join " or " (groupPredicates criteria.any)
        else
          Text.join " and " (groupPredicates criteria.all) ++ " and (".toList
            ++ Text.join " or " (groupPredicates criteria.any) ++ ")".toList := by
  rw [predicate]
  cases groupPredicates criteria.all with
  | nil => cases groupPredicates criteria.any <;> rfl
  | cons => cases groupPredicates criteria.any <;> rfl

theorem Place.groupPredicates_ne_nil (place : Place) (value : Json)
    : groupPredicates (some (place.group value)) ≠ [] := by
  simp [groupPredicates, Place.group, Group.predicates]

/-- Of the predicate of criteria only the literal of a value depends on the value. -/
theorem Place.writesLiteral (place : Place)
    : WritesLiteral (fun value => (place.fill value).predicate) := by
  have filled := place.groupPredicates_ne_nil
  have terms := place.writesLiteral_join
  simp only [predicate_eq, Place.fill]
  by_cases alone : groupPredicates place.other = []
  · cases place.side with
    | all => simpa only [alone, if_true] using terms " and "
    | any => simpa only [alone, filled, if_true, if_false] using terms " or "
  · cases place.side with
    | all =>
        have whole := ((terms " and ").append " and (".toList).append
          (Text.join " or " (groupPredicates place.other))
        simpa only [alone, filled, if_false] using whole.append ")".toList
    | any =>
        have whole := (terms " or ").prepend
          (Text.join " and " (groupPredicates place.other) ++ " and (".toList)
        simpa only [alone, filled, if_false] using whole.append ")".toList

end Criteria

-----------------------------------------------------------------------------------------
-- Ways to a null
-----------------------------------------------------------------------------------------

namespace Condition

/-- How a condition comes about: from a value of loose type, from a binary64 number, which is none
if it is not finite, from the items of a list, or as it is given.
-/
inductive Route where
  | loose (value : Json)
  | real (number : Option Binary64)
  | items (values : List Json)
  | given (condition : Condition)

/-- The condition at the end of a route, if it asks anything. -/
def Route.condition? : Route → Option Condition
  | loose value => ofValue? value
  | real number => some (ofReal number)
  | items values => some (ofItems values)
  | given condition => some condition

/-- A null was put on the route: in an array, as a number that is not finite, as an item or where it
is given. A null alone is dropped.
-/
def Route.HasNull : Route → Prop
  | loose value => ∃ items, value = .array items ∧ .null ∈ items
  | real number => number = none
  | items values => .null ∈ values
  | given condition => .null ∈ condition.values

/-- No other route leads to a null among the values of a condition, by cases on the route. -/
theorem Route.hasNull_iff (route : Route)
    : (∃ condition, route.condition? = some condition ∧ .null ∈ condition.values)
      ↔ route.HasNull := by
  cases route with
  | given condition => simp [condition?, HasNull]
  | items items => simp [condition?, HasNull, ofItems, values]
  | real number => cases number <;> simp [condition?, HasNull, ofReal, Json.ofReal, values]
  | loose value =>
      cases value with
      | null | bool | number | object => simp [condition?, HasNull, ofValue?, values]
      | text s =>
          by_cases marked : literalMark.isPrefixOf s = true
          · simp [condition?, HasNull, ofValue?, ofText, marked, values]
          · simp [condition?, HasNull, ofValue?, ofText, marked, values]
      | array items => simp [condition?, HasNull, ofValue?, values]

end Condition

-----------------------------------------------------------------------------------------
-- Nulls as texts
-----------------------------------------------------------------------------------------

/-- What a null at a place of criteria is compared as. -/
structure Criteria.ComparesNull (place : Place) : Prop where
  /-- It is written as the text NULL is, and as no other value. -/
  alike_iff : ∀ value, (place.fill value).predicate = (place.fill .null).predicate
    ↔ value = .null ∨ value = .text "NULL"
  /-- It asks what the text NULL asks. -/
  asks_text : (place.fill (.text "NULL")).Structured
    → ∃ e, parse (place.fill .null).predicate = some e
        ∧ ∀ row, e.holds row = true ↔ (place.fill (.text "NULL")).Holds row

/-- The values of criteria stand at places, and at each of them a null is compared with as the text
NULL. It comes there from an array or a list, from a number that is not finite, or where it is
given.
-/
theorem nulls_compared_as_text (criteria : Criteria) (value : Json) (place : Criteria.Place)
    (route : Condition.Route)
    : (value ∈ Filter.values (some (.structured criteria))
          ↔ ∃ place : Criteria.Place, criteria = place.fill value)
      ∧ Criteria.ComparesNull place
      ∧ ((∃ condition, route.condition? = some condition ∧ .null ∈ condition.values)
          ↔ route.HasNull) := by
  have alike (value : Json) := place.writesLiteral.eq_iff value .null
  refine ⟨Criteria.mem_values_iff, ⟨fun value => ?_, fun structured => ?_⟩, route.hasNull_iff⟩
  · exact (alike value).trans (quote_eq_quote_null_iff value)
  · have same := (alike (.text "NULL")).mpr rfl
    rw [← same]
    exact Criteria.predicate_parses structured

/-- The last item of a list of two codes. -/
def lastCode : Criteria.Place where
  side := .all
  before := []
  field := "code"
  place := .item [.text "x"] []
  after := []
  other := none

/-- A null among codes that are listed in a value of loose type: rows whose code is the text NULL
are taken.
-/
theorem null_code_matches_text
    : Filter.ofValue
          (.object [("and", .object [("code", .array [.text "x", .null])])])
        = .ok (.structured (lastCode.fill .null))
      ∧ (lastCode.fill .null).predicate = "code in ('x','NULL')".toList
      ∧ (lastCode.fill (.text "NULL")).predicate = (lastCode.fill .null).predicate
      ∧ (parse (lastCode.fill .null).predicate).any (fun e => e.holds fun _ => "NULL") = true := by
  refine ⟨rfl, ?_, ?_, ?_⟩ <;> decide

end SqlAssembly
