import SqlAssembly.Proofs.Condition.Building
import SqlAssembly.Proofs.Statement.OrderedValues

/-! Filters of loose type. A value is a filter when it has the shape of one, and else it is told
what is wrong with it. A filter asks what criteria ask that are built with one call for each of
its terms.
-/

namespace SqlAssembly

/-- An object has each of its keys once. -/
def Json.KeysDistinct : Json → Prop
  | .object fields => (Values.keys fields).Nodup
  | _ => True

namespace Filter

open Criteria (Side Call additionsTo build groupPredicates)

-----------------------------------------------------------------------------------------
-- Shapes
-----------------------------------------------------------------------------------------

/-- The key under which a side of the criteria is given. -/
def keyOf : Side → Text
  | .all => allKey
  | .any => anyKey

/-- A value that can stand for a group: nothing, a raw predicate or conditions by field. -/
def isGroup : Json → Bool
  | .null => true
  | .text _ => true
  | .object _ => true
  | _ => false

/-- A filter is a raw predicate, or an object of groups under their keys. -/
def Shaped : Json → Prop
  | .text _ => True
  | .object groups => ∀ entry ∈ groups, (∃ side, entry.1 = keyOf side) ∧ isGroup entry.2 = true
  | _ => False

/-- The error names something about the value that keeps it from being a filter. -/
inductive Faulty : Json → ParamError → Prop
  | key {groups key value} (member : (key, value) ∈ groups) (unknown : ∀ side, key ≠ keyOf side)
    : Faulty (.object groups) (.unknownGroup key)
  | group {groups key value} (member : (key, value) ∈ groups) (unfit : isGroup value = false)
    : Faulty (.object groups) (.groupShape key value)
  | whole {value} (noText : ∀ sql, value ≠ .text sql) (noObject : ∀ groups, value ≠ .object groups)
    : Faulty value (.filterShape value)

/-- A faulty value does not have the shape of a filter, by cases on the fault. -/
theorem Faulty.not_shaped {value : Json} {e : ParamError} (faulty : Faulty value e)
    : ¬Shaped value := by
  intro shaped
  cases faulty with
  | key member unknown =>
      obtain ⟨⟨side, known⟩, -⟩ := shaped _ member
      exact unknown side known
  | group member unfit =>
      have fit := (shaped _ member).2
      simp [unfit] at fit
  | whole noText noObject =>
      cases value with
      | text sql => exact noText sql rfl
      | object groups => exact noObject groups rfl
      | null | bool | number | array => exact shaped

/-- A group is made of a value that can stand for one, and of nothing else. -/
theorem groupOf_cases (key : Text) (given : Option Json)
    : (∃ group, groupOf key given = .ok group ∧ ∀ value, given = some value → isGroup value = true)
      ∨ ∃ value, given = some value
          ∧ isGroup value = false
          ∧ groupOf key given = .error (.groupShape key value) := by
  rcases given with _ | (_ | _ | _ | _ | _ | _) <;> simp [groupOf, isGroup]

variable {groups : Values} {value : Json}

theorem isOther_iff {key : Text}
    : (key != allKey && key != anyKey) = true ↔ ∀ side, key ≠ keyOf side := by
  constructor
  · intro other side
    cases side <;> simp_all [keyOf]
  · intro other
    simpa using ⟨other .all, other .any⟩

/-- Under known keys the two groups are made one after the other. -/
theorem ofValue_known
    (known : groups.find? (fun (key, _) => key != allKey && key != anyKey) = none)
    : ofValue (.object groups)
      = (groupOf allKey (groups.get? allKey)).bind fun all =>
          (groupOf anyKey (groups.get? anyKey)).bind fun any =>
            .ok (.structured ⟨all, any⟩) := by
  rw [ofValue, known]
  rfl

/-- A filter that is made of an object has the groups that its values make. -/
theorem groups_of_made {filter : Filter}
    (known : groups.find? (fun (key, _) => key != allKey && key != anyKey) = none)
    (made : ofValue (.object groups) = .ok filter)
    : ∃ all any,
        groupOf allKey (groups.get? allKey) = .ok all
        ∧ groupOf anyKey (groups.get? anyKey) = .ok any
        ∧ filter = .structured ⟨all, any⟩ := by
  rw [ofValue_known known] at made
  cases madeAll : groupOf allKey (groups.get? allKey) with
  | error e =>
      rw [madeAll] at made
      cases made
  | ok all =>
      cases madeAny : groupOf anyKey (groups.get? anyKey) with
      | error e =>
          rw [madeAll, madeAny] at made
          cases made
      | ok any =>
          rw [madeAll, madeAny] at made
          exact ⟨all, any, rfl, rfl, (Except.ok.inj made).symm⟩

/-- An object under known keys is a filter unless one of its groups is at fault. -/
theorem ofValue_object_cases (distinct : groups.keys.Nodup)
    (known : groups.find? (fun (key, _) => key != allKey && key != anyKey) = none)
    : (Shaped (.object groups) ∧ ∃ filter, ofValue (.object groups) = .ok filter)
      ∨ ∃ e, ofValue (.object groups) = .error e ∧ Faulty (.object groups) e := by
  rw [ofValue_known known]
  rcases groupOf_cases allKey (groups.get? allKey)
    with ⟨all, made, allFit⟩ | ⟨found, given, unfit, refused⟩
  · rcases groupOf_cases anyKey (groups.get? anyKey)
      with ⟨any, alsoMade, anyFit⟩ | ⟨found, given, unfit, refused⟩
    · refine .inl ⟨fun entry member => ?_, _, by rw [made, alsoMade]; rfl⟩
      have unknown : ¬∀ side, entry.1 ≠ keyOf side := by
        rw [← isOther_iff]
        exact List.find?_eq_none.mp known entry member
      obtain ⟨side, same⟩ := not_forall_not.mp unknown
      have stands := (Values.mem_iff_get? distinct).mp member
      refine ⟨⟨side, same⟩, ?_⟩
      rw [same] at stands
      cases side with
      | all => exact allFit _ stands
      | any => exact anyFit _ stands
    · rw [made, refused]
      exact .inr ⟨_, rfl, .group (Values.mem_of_get? given) unfit⟩
  · rw [refused]
    exact .inr ⟨_, rfl, .group (Values.mem_of_get? given) unfit⟩

/-- A value is a filter when it has the shape of one, and else the error says what is wrong. -/
theorem ofValue_cases (distinct : value.KeysDistinct)
    : (Shaped value ∧ ∃ filter, ofValue value = .ok filter)
      ∨ ∃ e, ofValue value = .error e ∧ Faulty value e := by
  cases value with
  | text sql => exact .inl ⟨trivial, _, rfl⟩
  | object groups =>
      cases found : groups.find? fun (key, _) => key != allKey && key != anyKey with
      | none => exact ofValue_object_cases distinct found
      | some entry =>
          obtain ⟨key, other⟩ := entry
          refine .inr ⟨.unknownGroup key, by rw [ofValue, found], ?_⟩
          have other := List.find?_some found
          exact .key (List.mem_of_find?_eq_some found) (isOther_iff.mp other)
  | null | bool | number | array =>
      exact .inr ⟨_, rfl, .whole (fun _ => Json.noConfusion) fun _ => Json.noConfusion⟩

-----------------------------------------------------------------------------------------
-- The calls of a filter
-----------------------------------------------------------------------------------------

/-- What the value of a group adds to it: a raw predicate, or a term for each field whose value
stands for a condition.
-/
def additionsOf : Json → List Group.Addition
  | .text sql => [.raw sql]
  | .object fields =>
      fields.filterMap fun (field, value) => (Condition.ofValue? value).map (.term field)
  | _ => []

/-- The side whose key it is. -/
def sideOf (key : Text) : Side :=
  if key = allKey then .all else .any

/-- The calls that a filter of known keys stands for, in the order of its keys. -/
def callsOf (groups : Values) : List Call :=
  groups.flatMap fun entry => (additionsOf entry.2).map (Call.mk (sideOf entry.1))

theorem sideOf_keyOf (side : Side) : sideOf (keyOf side) = side := by
  cases side <;> rfl

theorem additionsTo_map (own side : Side) (additions : List Group.Addition)
    : additionsTo side (additions.map (Call.mk own))
      = if own = side then additions else [] := by
  by_cases here : own = side <;> simp [additionsTo, List.filterMap_map, here]

/-- The additions to a side are those of the value under its key, by induction on the groups. -/
theorem additionsTo_callsOf (distinct : groups.keys.Nodup)
    (known : ∀ entry ∈ groups, ∃ side, entry.1 = keyOf side) (side : Side)
    : additionsTo side (callsOf groups)
      = ((groups.get? (keyOf side)).map additionsOf).getD [] := by
  induction groups with
  | nil => rfl
  | cons entry groups ih =>
      obtain ⟨⟨own, same⟩, others⟩ := List.forall_mem_cons.mp known
      rw [Values.keys_cons, List.nodup_cons] at distinct
      have head := additionsTo_map own side (additionsOf entry.2)
      have tail := ih distinct.2 others
      rw [additionsTo] at head tail
      rw [callsOf, List.flatMap_cons, ← callsOf, same, sideOf_keyOf, additionsTo,
        List.filterMap_append, head, tail, Values.get?_cons, same]
      by_cases here : own = side
      · -- the key is not there again, so all additions are those of its value
        have none : Values.get? groups (keyOf side) = none := by
          refine Option.eq_none_iff_forall_not_mem.mpr fun value found => distinct.1 ?_
          rw [same, here]
          exact List.mem_map_of_mem (Values.mem_of_get? found)
        simp [here, none]
      · have apart : keyOf side ≠ keyOf own := by
          intro equal
          rw [← sideOf_keyOf own, ← equal, sideOf_keyOf] at here
          exact here rfl
        simp [here, apart]

/-- A group has the same predicates whether it is made at once or built, by cases on its value. -/
theorem groupPredicates_settled {key : Text} {given : Option Json} {group : Option Group}
    (made : groupOf key given = .ok group)
    : groupPredicates (Group.settled ((given.map additionsOf).getD []))
      = groupPredicates group := by
  cases given with
  | none =>
      cases made
      rfl
  | some value =>
      cases value with
      | null =>
          cases made
          rfl
      | text sql =>
          cases made
          rfl
      | object fields =>
          cases made
          have terms
              : additionsOf (.object fields)
                = (fields.filterMap fun (field, value) =>
                    (Condition.ofValue? value).map (field, ·)).map
                      fun term => .term term.1 term.2 := by
            rw [additionsOf, List.map_filterMap]
            refine List.filterMap_congr fun entry _ => ?_
            rw [Option.map_map]
            rfl
          rw [Option.map_some, Option.getD_some, terms]
          exact Criteria.groupPredicates_settled_terms _
      | bool | number | array => cases made

/-- The clause of a filter is that of the criteria that its calls build. -/
theorem clause_built (distinct : groups.keys.Nodup) {filter : Filter}
    (made : ofValue (.object groups) = .ok filter)
    : clause (some filter) = clause (some (.structured (build (callsOf groups)))) := by
  have shaped : Shaped (.object groups) := by
    have keys : Json.KeysDistinct (.object groups) := distinct
    rcases ofValue_cases keys with ⟨shaped, -⟩ | ⟨e, refused, -⟩
    · exact shaped
    · rw [refused] at made
      cases made
  have known : groups.find? (fun (key, _) => key != allKey && key != anyKey) = none := by
    rw [List.find?_eq_none]
    intro entry member other
    obtain ⟨side, same⟩ := (shaped entry member).1
    exact isOther_iff.mp other side same
  obtain ⟨all, any, madeAll, madeAny, rfl⟩ := groups_of_made known made
  have predicate : (build (callsOf groups)).predicate = (⟨all, any⟩ : Criteria).predicate := by
    refine Criteria.predicate_congr fun side => ?_
    rw [Criteria.group_build,
      additionsTo_callsOf distinct (fun entry member => (shaped entry member).1)]
    cases side with
    | all => exact groupPredicates_settled madeAll
    | any => exact groupPredicates_settled madeAny
  rw [clause, clause, predicate]

end Filter

/-- A value of loose type is a filter exactly when it has the shape of one, and else the error says
what is wrong with it. Its clause is that of the criteria built call by call in the order of its
keys. What calls come to on either side is settled by the calls about that side alone, so it does
not matter how those about the two are mixed.
-/
theorem loose_filters_agree
    : (∀ value : Json,
        value.KeysDistinct
        → ((∃ filter, Filter.ofValue value = .ok filter) ↔ Filter.Shaped value)
          ∧ (¬Filter.Shaped value
            → ∃ e, Filter.ofValue value = .error e ∧ Filter.Faulty value e)
          ∧ ∀ groups filter,
              value = .object groups
              → Filter.ofValue value = .ok filter
              → Filter.clause (some filter)
                = Filter.clause (some (.structured (Criteria.build (Filter.callsOf groups)))))
      ∧ (∀ calls side,
          (Criteria.build calls).group side
          = Group.settled (Criteria.additionsTo side calls))
      ∧ ∀ calls others,
          (∀ side, Criteria.additionsTo side calls = Criteria.additionsTo side others)
          → Criteria.build calls = Criteria.build others := by
  refine ⟨fun value distinct => ⟨?_, ?_, ?_⟩, Criteria.group_build, fun calls others same => ?_⟩
  · constructor
    · rintro ⟨filter, made⟩
      rcases Filter.ofValue_cases distinct with ⟨shaped, -⟩ | ⟨e, refused, -⟩
      · exact shaped
      · rw [refused] at made
        cases made
    · intro shaped
      rcases Filter.ofValue_cases distinct with ⟨-, made⟩ | ⟨e, -, faulty⟩
      · exact made
      · exact absurd shaped faulty.not_shaped
  · intro unshaped
    exact (Filter.ofValue_cases distinct).resolve_left fun both => unshaped both.1
  · rintro groups filter rfl made
    exact Filter.clause_built distinct made
  · refine Criteria.eq_of_group fun side => ?_
    rw [Criteria.group_build, Criteria.group_build, same]

/-- A filter with its keys the other way round, nulls in both places and an operator text. -/
def looseGroups : Values :=
  [("or",
      .object
        [("b", .array [.text "x", .null]), ("gone", .null), ("c", .text "s:> 5")]),
    ("and", .text " a > 1 ")]

theorem loose_groups_agree
    : (Json.object looseGroups).KeysDistinct
      ∧ ∃ filter,
          Filter.ofValue (.object looseGroups) = .ok filter
          ∧ Filter.clause (some filter)
            = Filter.clause (some (.structured (Criteria.build (Filter.callsOf looseGroups))))
          ∧ Filter.clause (some filter)
            = "where a > 1 and (b in ('x','NULL') or c > 5)".toList := by
  have distinct : (Json.object looseGroups).KeysDistinct := by
    show (Values.keys looseGroups).Nodup
    decide
  obtain ⟨-, -, agree⟩ := loose_filters_agree.1 (.object looseGroups) distinct
  exact ⟨distinct, _, rfl, agree _ _ rfl rfl, rfl⟩

end SqlAssembly
