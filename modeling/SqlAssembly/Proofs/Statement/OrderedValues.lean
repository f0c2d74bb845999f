import SqlAssembly.Json.Basic

/-! Values in order. Inserting a value keeps the place of a key that is there and adds a new key at
the end, so that writing values over others keeps the keys apart and the last value under each.
-/

namespace SqlAssembly.Values

variable {values others : Values} {key : Text} {value : Json}

/-- The keys in order. -/
def keys (values : Values) : List Text :=
  values.map (·.1)

theorem keys_cons (entry : Text × Json) (values : Values)
    : keys (entry :: values) = entry.1 :: values.keys :=
  rfl

/-- A key that is there keeps its place, and a new one is added at the end, by induction on the
values.
-/
theorem keys_insert (values : Values) (key : Text) (value : Json)
    : (values.insert key value).keys
      = if key ∈ values.keys then values.keys else values.keys ++ [key] := by
  induction values with
  | nil => rfl
  | cons entry values ih =>
      obtain ⟨k, v⟩ := entry
      rw [insert]
      by_cases same : k = key
      · simp [same, keys_cons]
      · rw [if_neg same, keys_cons, keys_cons, ih]
        by_cases member : key ∈ keys values <;> simp [member, Ne.symm same]

theorem get?_cons (entry : Text × Json) (values : Values) (key : Text)
    : get? (entry :: values) key = if key = entry.1 then some entry.2 else values.get? key := by
  simp only [get?, List.lookup_eq_findSome?, List.findSome?_cons, beq_iff_eq]
  by_cases same : key = entry.1 <;> simp [same]

/-- The value is found under its key, and all others as before, by induction on the values. -/
theorem get?_insert (values : Values) (key : Text) (value : Json) (other : Text)
    : (values.insert key value).get? other
      = if other = key then some value else values.get? other := by
  induction values with
  | nil => exact get?_cons (key, value) [] other
  | cons entry values ih =>
      obtain ⟨k, v⟩ := entry
      rw [insert]
      by_cases same : k = key
      · subst same
        rw [if_pos rfl, get?_cons, get?_cons]
        split <;> rfl
      · rw [if_neg same, get?_cons, get?_cons, ih]
        by_cases found : other = k <;> simp [found, same]

/-- The values with others written over them, one after the other. -/
def overwrite (values others : Values) : Values :=
  others.foldl (fun values (key, value) => values.insert key value) values

theorem overwrite_cons (values : Values) (key : Text) (value : Json) (others : Values)
    : values.overwrite ((key, value) :: others) = (values.insert key value).overwrite others :=
  rfl

/-- Keys that were not there follow in the order of their first occurrence, by induction on what is
written.
-/
theorem keys_overwrite (values others : Values)
    : (values.overwrite others).keys
      = values.keys ++ (others.keys.removeAll values.keys).eraseDups := by
  induction others generalizing values with
  | nil => simp [overwrite, keys, List.removeAll]
  | cons entry others ih =>
      obtain ⟨key, value⟩ := entry
      rw [overwrite_cons, ih, keys_insert, keys_cons]
      by_cases member : key ∈ values.keys
      · simp [member, List.removeAll]
      · have new : (key :: keys others).removeAll (keys values)
            = key :: (keys others).removeAll (keys values) := by
          simp [List.removeAll, member]
        have rest : ((keys others).removeAll (keys values)).filter (fun k => !k == key)
            = (keys others).removeAll (keys values ++ [key]) := by
          simp [List.removeAll, List.filter_filter, Bool.and_comm, Bool.beq_eq_decide_eq]
        rw [if_neg member, new, List.eraseDups_cons, rest, List.append_assoc]
        rfl

/-- What was written last under a key is found there, by induction on what is written. -/
theorem get?_overwrite (values others : Values) (key : Text)
    : (values.overwrite others).get? key
      = (others.reverse.lookup key).or (values.get? key) := by
  induction others generalizing values with
  | nil => simp [overwrite]
  | cons entry others ih =>
      obtain ⟨k, value⟩ := entry
      have last : List.lookup key [(k, value)] = if key = k then some value else none :=
        get?_cons (k, value) [] key
      rw [overwrite_cons, ih, get?_insert, List.reverse_cons, List.lookup_append, Option.or_assoc,
        last]
      split <;> rfl

theorem nodup_keys_insert (distinct : values.keys.Nodup) (key : Text) (value : Json)
    : (values.insert key value).keys.Nodup := by
  rw [keys_insert]
  split
  · exact distinct
  · next new =>
      have apart : ∀ k ∈ values.keys, k ≠ key := fun k member => ne_of_mem_of_not_mem member new
      simpa [List.nodup_append, distinct] using apart

theorem nodup_keys_overwrite (distinct : values.keys.Nodup) (others : Values)
    : (values.overwrite others).keys.Nodup := by
  induction others generalizing values with
  | nil => exact distinct
  | cons entry others ih => exact ih (nodup_keys_insert distinct entry.1 entry.2)

theorem mem_of_get? (found : values.get? key = some value) : (key, value) ∈ values := by
  obtain ⟨before, behind, rfl, -⟩ := List.lookup_eq_some_iff.mp found
  exact List.mem_append_right before List.mem_cons_self

/-- Under distinct keys, what is there is what is found. -/
theorem mem_iff_get? (distinct : values.keys.Nodup)
    : (key, value) ∈ values ↔ values.get? key = some value := by
  refine ⟨fun member => ?_, mem_of_get?⟩
  obtain ⟨before, behind, rfl⟩ := List.append_of_mem member
  refine List.lookup_eq_some_iff.mpr ⟨before, behind, rfl, fun entry earlier => ?_⟩
  rw [keys, List.map_append, List.map_cons] at distinct
  have apart := (List.nodup_append.mp distinct).2.2 _ (List.mem_map_of_mem earlier) key
    List.mem_cons_self
  simpa using Ne.symm apart

theorem mem_nonNull {entry : Text × Json}
    : entry ∈ values.nonNull ↔ entry ∈ values ∧ entry.2.isNull = false := by
  rw [nonNull, List.mem_filter, Bool.not_eq_true']

theorem nodup_keys_nonNull (distinct : values.keys.Nodup) : values.nonNull.keys.Nodup :=
  (List.filter_sublist.map _).nodup distinct

end SqlAssembly.Values
