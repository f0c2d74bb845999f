import SqlAssembly.Error

/-! Environment variables and the texts that refer to them. A reference is a dollar sign and a name
in braces; expansion replaces each by its variable's value in one pass from the left, so a value
is never expanded again.
-/

namespace SqlAssembly

abbrev Environment := List (Text × Text)

namespace Text

/-- What follows a marker is shorter than the text it stands in. -/
theorem length_of_splitAt? {marker : Char} {s head tail : Text}
    (h : splitAt? marker s = some (head, tail))
    : tail.length < s.length := by
  induction s generalizing head with
  | nil => simp [splitAt?] at h
  | cons c rest ih =>
      unfold splitAt? at h
      split at h
      · simp only [Option.some.injEq, Prod.mk.injEq] at h
        simp [← h.2]
      · obtain ⟨⟨front, back⟩, found, equal⟩ := Option.map_eq_some_iff.mp h
        simp only [Prod.mk.injEq] at equal
        have shorter := ih (equal.2 ▸ found)
        simp only [List.length_cons]
        omega

end Text

namespace Environment

/-- Set a variable unless it is set already. -/
def setDefault (env : Environment) (name value : Text) : Environment :=
  if (env.lookup name).isSome then env else env ++ [(name, value)]

/-- The text with each reference replaced by the value of its variable, or the error of the first
reference that is not closed, has no name or names no variable.
-/
def expand (env : Environment) : Text → Except ConfigError Text
  | [] => .ok []
  | '$' :: '\x7b' :: rest =>
      match h : Text.splitAt? '\x7d' rest with
      | none => .error (.unterminatedReference rest)
      | some ([], _) => .error .emptyReference
      | some (name, after) =>
          match env.lookup name with
          | none => .error (.missingVariable name)
          | some value =>
              have := Text.length_of_splitAt? h
              (expand env after).map (value ++ ·)
  | c :: rest => (expand env rest).map (c :: ·)
termination_by s => s.length
decreasing_by all_goals (simp only [List.length_cons]; omega)

end Environment

end SqlAssembly
