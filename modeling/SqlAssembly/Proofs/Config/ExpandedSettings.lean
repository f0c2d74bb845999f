import SqlAssembly.Config.Settings
import SqlAssembly.Proofs.Config.References

/-! Settings are expanded field by field, and then they are judged. The first text that cannot be
expanded decides on the error, and what is checked is the expanded text.
-/

namespace SqlAssembly.Settings

open Environment (ExpandsOnce)

variable {env : Environment} {settings expanded : Settings} {error : ConfigError}
  {text : Text} {rest : List Text}

-----------------------------------------------------------------------------------------
-- The texts of settings
-----------------------------------------------------------------------------------------

/-- The texts that may hold references, in the order in which they are expanded. -/
def texts (settings : Settings) : List Text :=
  settings.host :: settings.username :: settings.timezone
    :: (settings.password.toList ++ (settings.schema.toList ++ settings.filename.toList))

/-- The error is that of the first text that cannot be expanded. -/
def FirstFault (env : Environment) (texts : List Text) (error : ConfigError) : Prop :=
  ∃ before text after,
    texts = before ++ text :: after
    ∧ (∀ earlier ∈ before, ∃ expanded, env.expand earlier = .ok expanded)
    ∧ env.expand text = .error error

/-- The settings are expanded field by field, and nothing else of them is changed. -/
structure Expanded (env : Environment) (settings expanded : Settings) : Prop where
  host : env.expand settings.host = .ok expanded.host
  username : env.expand settings.username = .ok expanded.username
  timezone : env.expand settings.timezone = .ok expanded.timezone
  password : expandOptional env settings.password = .ok expanded.password
  schema : expandOptional env settings.schema = .ok expanded.schema
  filename : expandOptional env settings.filename = .ok expanded.filename
  untouched
    : expanded
      = { settings with
          host := expanded.host, username := expanded.username, timezone := expanded.timezone,
          password := expanded.password, schema := expanded.schema,
          filename := expanded.filename }

-----------------------------------------------------------------------------------------
-- The first fault
-----------------------------------------------------------------------------------------

theorem not_firstFault_nil : ¬ FirstFault env [] error := by
  rintro ⟨before, text, after, split, -, -⟩
  cases before <;> cases split

/-- Either the first text is at fault, or it can be expanded and the fault is behind it. -/
theorem firstFault_cons
    : FirstFault env (text :: rest) error
      ↔ env.expand text = .error error
        ∨ ∃ expanded, env.expand text = .ok expanded ∧ FirstFault env rest error := by
  constructor
  · rintro ⟨before, faulty, after, split, sound, fault⟩
    cases before with
    | nil =>
        cases split
        exact .inl fault
    | cons first before =>
        cases split
        obtain ⟨⟨expanded, ok⟩, later⟩ := List.forall_mem_cons.mp sound
        exact .inr ⟨expanded, ok, before, faulty, after, rfl, later, fault⟩
  · rintro (fault | ⟨expanded, ok, before, faulty, after, rfl, sound, fault⟩)
    · exact ⟨[], text, rest, rfl, List.forall_mem_nil _, fault⟩
    · refine ⟨text :: before, faulty, after, rfl, ?_, fault⟩
      exact List.forall_mem_cons.mpr ⟨⟨expanded, ok⟩, sound⟩

/-- A text that may be absent is at fault only when it is given. -/
theorem firstFault_toList_append (optional : Option Text)
    : FirstFault env (optional.toList ++ rest) error
      ↔ expandOptional env optional = .error error
        ∨ ∃ expanded, expandOptional env optional = .ok expanded ∧ FirstFault env rest error := by
  cases optional with
  | none => simp [expandOptional]
  | some text =>
      rw [Option.toList_some, List.singleton_append, firstFault_cons, expandOptional]
      cases env.expand text <;> simp [Except.map]

theorem firstFault_toList (optional : Option Text)
    : FirstFault env optional.toList error ↔ expandOptional env optional = .error error := by
  rw [← List.append_nil optional.toList, firstFault_toList_append]
  simp [not_firstFault_nil]

-----------------------------------------------------------------------------------------
-- Expansion
-----------------------------------------------------------------------------------------

theorem bind_eq_ok_iff {α β : Type} {x : Except ConfigError α} {f : α → Except ConfigError β}
    {result : β}
    : (x >>= f) = .ok result ↔ ∃ value, x = .ok value ∧ f value = .ok result := by
  cases x <;> simp [bind, Except.bind]

theorem bind_eq_error_iff {α β : Type} {x : Except ConfigError α}
    {f : α → Except ConfigError β}
    : (x >>= f) = .error error
      ↔ x = .error error ∨ ∃ value, x = .ok value ∧ f value = .error error := by
  cases x <;> simp [bind, Except.bind]

theorem expand_eq_ok_iff : settings.expand env = .ok expanded ↔ Expanded env settings expanded := by
  simp only [expand, bind_eq_ok_iff]
  constructor
  · rintro ⟨_, host, _, username, _, timezone, _, password, _, schema, _, filename, same⟩
    cases same
    exact ⟨host, username, timezone, password, schema, filename, rfl⟩
  · intro fields
    refine ⟨_, fields.host, _, fields.username, _, fields.timezone, _, fields.password, _,
      fields.schema, _, fields.filename, ?_⟩
    rw [← fields.untouched]

theorem expand_eq_error_iff
    : settings.expand env = .error error ↔ FirstFault env settings.texts error := by
  simp only [expand, texts, bind_eq_error_iff, firstFault_cons, firstFault_toList_append,
    firstFault_toList]
  simp

-----------------------------------------------------------------------------------------
-- Expansion before validation
-----------------------------------------------------------------------------------------

/-- What becomes of settings that are read. -/
structure Judged (env : Environment) (settings : Settings) : Prop where
  /-- They are accepted once they are expanded and the expanded ones are valid. -/
  ok_iff : ∀ expanded, settings.resolve env = .ok expanded
    ↔ Expanded env settings expanded ∧ expanded.validate = .ok ()
  /-- They are refused for their first fault, or for what is invalid of the expanded ones. -/
  error_iff : ∀ error, settings.resolve env = .error error
    ↔ FirstFault env settings.texts error
      ∨ ∃ expanded, Expanded env settings expanded ∧ expanded.validate = .error error

theorem Judged.of_settings (env : Environment) (settings : Settings) : Judged env settings where
  ok_iff expanded := by
    simp only [resolve, bind_eq_ok_iff, expand_eq_ok_iff]
    constructor
    · rintro ⟨_, fields, ⟨⟩, valid, same⟩
      cases same
      exact ⟨fields, valid⟩
    · rintro ⟨fields, valid⟩
      exact ⟨expanded, fields, (), valid, rfl⟩
  error_iff error := by
    simp only [resolve, bind_eq_error_iff, expand_eq_ok_iff, expand_eq_error_iff]
    simp

/-- Texts are expanded in one pass from the left, and so are the texts of settings, in the order of
their fields up to the first that is at fault. Nothing else of the settings changes, and it is the
expanded ones that are checked.
-/
theorem settings_expand_once (env : Environment)
    : (∀ s, ExpandsOnce env s)
      ∧ (∀ settings : Settings,
          (∀ expanded, settings.expand env = .ok expanded ↔ Expanded env settings expanded)
          ∧ ∀ error, settings.expand env = .error error ↔ FirstFault env settings.texts error)
      ∧ ∀ settings, Judged env settings := by
  refine ⟨.of_text env, fun settings => ⟨fun _ => ?_, fun _ => ?_⟩, .of_settings env⟩
  · exact expand_eq_ok_iff
  · exact expand_eq_error_iff

/-- A value that looks like a reference is not expanded, and a host is judged by what it is expanded
to.
-/
theorem references_resolve_once
    : let settings : Settings := { database := .mysql, host := "$\x7bHOST\x7d", username := "root" }
      settings.resolve [("HOST", "$\x7bPORT\x7d")] = .ok { settings with host := "$\x7bPORT\x7d" }
        ∧ settings.resolve [("HOST", " ")] = .error .hostBlank := by
  intro settings
  have expanded (value : Text)
      : Expanded [("HOST", value)] settings { settings with host := value } := by
    have copied {s : Text} (bare : Environment.references s = [])
        (same : s = (List.range s.length).flatMap (Environment.expansionAt [("HOST", value)] s))
        : Environment.expand [("HOST", value)] s = .ok s := by
      refine (((settings_expand_once _).1 s).ok_iff s).mpr ⟨?_, same⟩
      simp [bare]
    have replaced : Environment.expand [("HOST", value)] settings.host = .ok value := by
      refine (((settings_expand_once _).1 _).ok_iff value).mpr ⟨?_, ?_⟩
      · have single : Environment.references settings.host = [0] := rfl
        rw [single, List.forall_mem_singleton]
        exact ⟨rfl, by decide, value, rfl⟩
      · exact (List.append_nil value).symm
    exact ⟨replaced, copied rfl rfl, copied rfl rfl, rfl, rfl, rfl, rfl⟩
  have judged (env : Environment) : Judged env settings := (settings_expand_once env).2.2 settings
  constructor
  · exact ((judged _).ok_iff _).mpr ⟨expanded _, rfl⟩
  · exact ((judged _).error_iff _).mpr (.inr ⟨_, expanded _, rfl⟩)

end SqlAssembly.Settings
