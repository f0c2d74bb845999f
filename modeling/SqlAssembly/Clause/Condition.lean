import SqlAssembly.Clause.Fragment
import SqlAssembly.Error
import SqlAssembly.Literal
import SqlAssembly.Text.Keyword

/-! The where clause. Criteria have a group of terms that must all hold and a group of which one
must hold; a group is a raw predicate or a list of field conditions. Values of loose type are
classified once, when criteria are built from them.
-/

namespace SqlAssembly

/-- What is asked of one field: some operator text, equality with a value, or membership in a
list of values.
-/
inductive Condition where
  | literal (sql : Text)
  | scalar (value : Json)
  | list (values : List Json)

/-- One group of criteria: a raw predicate, or conditions by field in order. -/
inductive Group where
  | raw (sql : Text)
  | fields (terms : List (Text × Condition))

/-- The terms of a where clause: those that must all hold, and those of which one must hold. -/
structure Criteria where
  all : Option Group
  any : Option Group

/-- The input of a where clause. -/
abbrev Filter := Fragment Criteria

namespace Condition

/-- The mark before a text that is spliced in as an operator. -/
def literalMark : Text := "s:"

/-- A text is compared with, unless it carries the mark of an operator text. -/
def ofText (s : Text) : Condition :=
  if literalMark.isPrefixOf s then literal (s.drop literalMark.length) else scalar (.text s)

/-- The condition that a value of loose type stands for. Null asks nothing. -/
def ofValue? : Json → Option Condition
  | .null => none
  | .text s => some (ofText s)
  | .array items => some (list items)
  | value => some (scalar value)

/-- Equality with a binary64 number, or with null where the number is not finite. -/
def ofReal (number : Option Binary64) : Condition :=
  scalar (.ofReal number)

/-- Membership in the items of a list. Unlike a null that stands alone, one among them stays. -/
def ofItems (items : List Json) : Condition :=
  list items

/-- The predicate that asks the condition of a field. An operator text that already starts with
the field stands alone, and no value is a member of the empty list.
-/
def predicate (field : Text) : Condition → Text
  | literal sql =>
      let body := Text.trim sql
      if Text.startsWithKeyword body field then body else field ++ ' ' :: body
  | scalar value => field ++ " = ".toList ++ Literal.quote value
  | list [] => "1 = 0"
  | list values =>
      field ++ " in (".toList ++ Text.join "," (values.map Literal.quote) ++ ")".toList

end Condition

namespace Group

/-- The group of the conditions that the values stand for; nulls are left out. -/
def ofValues (values : Values) : Group :=
  fields (values.filterMap fun (field, value) => (Condition.ofValue? value).map (field, ·))

/-- The predicates of a group in order. A blank raw predicate is none. -/
def predicates : Group → List Text
  | raw sql => if Text.isBlankText sql then [] else [Text.trim sql]
  | fields terms => terms.map fun (field, condition) => condition.predicate field

/-- The group with one more condition. A raw predicate gives way to it. -/
def push (group : Option Group) (field : Text) (condition : Condition) : Group :=
  match group with
  | some (fields terms) => fields (terms ++ [(field, condition)])
  | _ => fields [(field, condition)]

end Group

namespace Criteria

def empty : Criteria := ⟨none, none⟩

/-- Also ask a condition that must hold. -/
def and (criteria : Criteria) (field : Text) (condition : Condition) : Criteria :=
  { criteria with all := some (Group.push criteria.all field condition) }

/-- Also ask a condition of which one must hold. -/
def or (criteria : Criteria) (field : Text) (condition : Condition) : Criteria :=
  { criteria with any := some (Group.push criteria.any field condition) }

/-- Let a raw predicate be all that must hold. -/
def andRaw (criteria : Criteria) (sql : Text) : Criteria :=
  { criteria with all := some (.raw sql) }

/-- Let a raw predicate be all of which one must hold. -/
def orRaw (criteria : Criteria) (sql : Text) : Criteria :=
  { criteria with any := some (.raw sql) }

/-- The fields that must equal a value, with that value, in order. -/
def scalars (criteria : Criteria) : Values :=
  match criteria.all with
  | some (.fields terms) =>
      terms.filterMap fun (field, condition) =>
        match condition with
        | .scalar value => some (field, value)
        | _ => none
  | _ => []

/-- The predicates of a group that may be absent. -/
def groupPredicates (group : Option Group) : List Text :=
  (group.map Group.predicates).getD []

/-- The predicate of the criteria, without a keyword, and empty when they ask nothing. -/
def predicate (criteria : Criteria) : Text :=
  let all := Text.join " and " (groupPredicates criteria.all)
  let any := Text.join " or " (groupPredicates criteria.any)
  match groupPredicates criteria.all, groupPredicates criteria.any with
  | [], [] => []
  | _, [] => all
  | [], _ => any
  | _, _ => all ++ " and (".toList ++ any ++ ")".toList

end Criteria

namespace Filter

/-- The key of the group that must hold. -/
def allKey : Text := "and"

/-- The key of the group of which one must hold. -/
def anyKey : Text := "or"

/-- The group that a value of loose type stands for. -/
def groupOf (key : Text) : Option Json → Except ParamError (Option Group)
  | none => .ok none
  | some .null => .ok none
  | some (.text sql) => .ok (some (.raw sql))
  | some (.object values) => .ok (some (Group.ofValues values))
  | some found => .error (.groupShape key found)

/-- The filter that a value of loose type stands for: a raw predicate, or an object of no other
keys than those of the two groups.
-/
def ofValue : Json → Except ParamError Filter
  | .text sql => .ok (.raw sql)
  | .object groups =>
      match groups.find? fun (key, _) => key != allKey && key != anyKey with
      | some (key, _) => .error (.unknownGroup key)
      | none => do
          let all ← groupOf allKey (Values.get? groups allKey)
          let any ← groupOf anyKey (Values.get? groups anyKey)
          .ok (.structured ⟨all, any⟩)
  | found => .error (.filterShape found)

/-- The where clause of a filter, empty when it asks nothing. -/
def clause : Option Filter → Text
  | none => []
  | some (.raw sql) => Text.withKeyword sql "where"
  | some (.structured criteria) =>
      let predicate := criteria.predicate
      if predicate.isEmpty then [] else "where ".toList ++ predicate

end Filter

end SqlAssembly
