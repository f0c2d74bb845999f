import SqlAssembly.Pool.Registry
import SqlAssembly.Proofs.Session.Steps
import Mathlib.Data.List.Basic

/-! What each operation of a pool does to its registry. A begin that succeeds registers the next id
of the supply, ending or releasing a transaction takes its id out whatever the backend answers,
and everything else leaves the registry as it is.
-/

namespace SqlAssembly.Pool

variable {β : Type} {supply : Nat → TransactionId}

-----------------------------------------------------------------------------------------
-- Ids
-----------------------------------------------------------------------------------------

/-- The number that a hexadecimal digit stands for. -/
def hexDigit (c : Char) : Nat :=
  if c.isDigit then c.toNat - 48 else c.toNat - 87

/-- The number that hexadecimal digits stand for. -/
def hexNumber (digits : List Char) : Nat :=
  digits.foldl (fun n c => 16 * n + hexDigit c) 0

theorem hexDigit_digitChar : ∀ n < 16, hexDigit (Nat.digitChar n) = n := by
  decide

/-- The digits of a number stand for it, by induction on its quotients by sixteen. -/
theorem hexNumber_toDigits (n : Nat) : hexNumber (Nat.toDigits 16 n) = n := by
  induction n using Nat.strongRecOn with
  | ind n ih =>
      by_cases small : n < 16
      · rw [Nat.toDigits_of_lt_base small]
        simp [hexNumber, hexDigit_digitChar n small]
      · have quotient := ih (n / 16) (by omega)
        rw [hexNumber] at quotient
        rw [Nat.toDigits_of_base_le (by decide) (by omega), hexNumber, List.foldl_append, quotient]
        simp only [List.foldl_cons, List.foldl_nil, hexDigit_digitChar _ (Nat.mod_lt n (by decide))]
        omega

/-- Zeros before the digits change nothing. -/
theorem hexNumber_zeros (count : Nat) (digits : List Char)
    : hexNumber (List.replicate count '0' ++ digits) = hexNumber digits := by
  have zero : hexDigit '0' = 0 := by decide
  induction count with
  | zero => rfl
  | succ count ih =>
      rw [hexNumber] at ih
      rw [hexNumber, List.replicate_succ, List.cons_append, List.foldl_cons, zero, ih]

/-- The supply that counts never gives an id twice. -/
theorem freshId_injective : Function.Injective freshId := by
  intro n m same
  have parts (n : Nat)
      : freshId n
        = "00000000-0000-4000-8000-".toList
          ++ (List.replicate (12 - (Nat.toDigits 16 n).length) '0' ++ Nat.toDigits 16 n) :=
    List.append_assoc _ _ _
  rw [parts, parts] at same
  have numbers := congrArg hexNumber (List.append_cancel_left same)
  rwa [hexNumber_zeros, hexNumber_zeros, hexNumber_toDigits, hexNumber_toDigits] at numbers

-----------------------------------------------------------------------------------------
-- Operations
-----------------------------------------------------------------------------------------

/-- The ids of the registered transactions. -/
def registered (p : Pool β supply) : List TransactionId :=
  p.registry.map (·.1)

/-- Nothing but the backend changed. -/
def BackendOnly (p q : Pool β supply) : Prop :=
  q.registry = p.registry ∧ q.issued = p.issued

theorem BackendOnly.registered {p q : Pool β supply} (same : p.BackendOnly q)
    : q.registered = p.registered := by
  rw [Pool.registered, same.1, Pool.registered]

theorem openTransactions_eq_zero_iff (p : Pool β supply)
    : p.openTransactions = 0 ↔ p.registered = [] := by
  simp [openTransactions, registered]

theorem lookup_eq_none_iff {p : Pool β supply} {id : TransactionId}
    : p.registry.lookup id = none ↔ id ∉ p.registered := by
  rw [List.lookup_eq_none_iff, registered, List.mem_map]
  constructor
  · rintro others ⟨entry, member, rfl⟩
    simpa using others entry member
  · intro absent entry member
    simpa using fun same : id = entry.1 => absent ⟨entry, member, same.symm⟩

/-- Taking an id out leaves exactly the others. -/
theorem mem_registered_remove (p : Pool β supply) (b : β) (id other : TransactionId)
    : other
        ∈ ({ p with backend := b, registry := remove id p.registry } : Pool β supply).registered
      ↔ other ∈ p.registered ∧ other ≠ id := by
  simp only [registered, remove, List.mem_map, List.mem_filter, decide_eq_true_eq, ne_eq]
  constructor
  · rintro ⟨entry, ⟨member, kept⟩, rfl⟩
    exact ⟨⟨entry, member, rfl⟩, kept⟩
  · rintro ⟨⟨entry, member, rfl⟩, kept⟩
    exact ⟨entry, ⟨member, kept⟩, rfl⟩

/-- The second pool has issued as many ids as the first and has all of its transactions but one. -/
structure Without (p q : Pool β supply) (id : TransactionId) : Prop where
  issued : q.issued = p.issued
  mem_registered : ∀ other, other ∈ q.registered ↔ other ∈ p.registered ∧ other ≠ id

/-- A transaction that is not registered need not be taken out. -/
theorem Without.of_absent {p : Pool β supply} {id : TransactionId} (absent : id ∉ p.registered)
    : p.Without p id where
  issued := rfl
  mem_registered _ :=
    ⟨fun member => ⟨member, fun same => absent (same ▸ member)⟩, fun kept => kept.1⟩

variable [Backend β]

/-- Ending a transaction takes it out, whatever the backend answers. -/
theorem finish_without (ending : ConnectionId → β → Except BackendError Unit × β)
    (id : TransactionId) (p : Pool β supply)
    : p.Without (finish ending id p).2 id := by
  cases found : p.registry.lookup id with
  | none =>
      simp only [finish, found]
      exact .of_absent (lookup_eq_none_iff.mp found)
  | some connection =>
      simp only [finish, found]
      exact ⟨rfl, mem_registered_remove p _ id⟩

theorem Without.of_commit {p q : Pool β supply} {id : TransactionId}
    {answer : Except SqlError Unit}
    (answered : Driver.commit id p = (answer, q))
    : p.Without q id := by
  have taken := finish_without Backend.commit id p
  rwa [show finish Backend.commit id p = (answer, q) from answered] at taken

theorem Without.of_rollback {p q : Pool β supply} {id : TransactionId}
    {answer : Except SqlError Unit}
    (answered : Driver.rollback id p = (answer, q))
    : p.Without q id := by
  have taken := finish_without Backend.rollback id p
  rwa [show finish Backend.rollback id p = (answer, q) from answered] at taken

/-- Releasing a transaction takes it out. -/
theorem release_without (id : TransactionId) (p : Pool β supply) : p.Without (release id p) id := by
  cases found : p.registry.lookup id with
  | none =>
      simp only [release, found]
      exact .of_absent (lookup_eq_none_iff.mp found)
  | some connection =>
      simp only [release, found]
      exact ⟨rfl, mem_registered_remove p _ id⟩

/-- A transaction that is not registered cannot be ended, and nothing happens. -/
theorem finish_of_absent (ending : ConnectionId → β → Except BackendError Unit × β)
    {id : TransactionId} {p : Pool β supply} (absent : id ∉ p.registered)
    : finish ending id p = (.error (.transaction (.unknown id)), p) := by
  rw [finish, lookup_eq_none_iff.mpr absent]

/-- A statement bound to a transaction that is not registered is refused, and nothing happens. -/
theorem execute_of_absent {e : Execution} {id : TransactionId} {sql : Text} {p : Pool β supply}
    (named : e.transaction = some id) (filled : Placeholder.bind e.sql e.replacements = .ok sql)
    (absent : id ∉ p.registered)
    : execute e p = (.error (.transaction (.unknown id)), p) := by
  rw [execute, filled, named]
  simp only [executeBound, lookup_eq_none_iff.mpr absent]

/-- A begin that succeeds registers the next id. -/
theorem begin_registers {p q : Pool β supply} {id : TransactionId}
    (granted : Driver.beginTransaction p = (.ok id, q))
    : id = supply (p.issued + 1)
      ∧ q.issued = p.issued + 1
      ∧ q.registered = p.registered ++ [id] := by
  simp only [Driver.beginTransaction, beginTransaction] at granted
  rcases acquired : Backend.acquire p.backend with ⟨error | connection, b⟩
  · simp [acquired] at granted
  · rcases begun : Backend.begin connection b with ⟨error | done, b⟩
    · simp [acquired, begun] at granted
    · simp only [acquired, begun, Prod.mk.injEq, Except.ok.injEq] at granted
      obtain ⟨rfl, rfl⟩ := granted
      exact ⟨rfl, rfl, by simp [registered]⟩

theorem execute_backendOnly (e : Execution) (p : Pool β supply)
    : p.BackendOnly (execute e p).2 := by
  rw [execute]
  cases Placeholder.bind e.sql e.replacements with
  | error error => exact ⟨rfl, rfl⟩
  | ok sql =>
      cases e.transaction with
      | none => exact ⟨rfl, rfl⟩
      | some id =>
          simp only [executeBound]
          cases p.registry.lookup id <;> exact ⟨rfl, rfl⟩

/-- Calls about no transaction leave the registry as it is. -/
theorem BackendOnly.of_consulted {p q : Pool β supply} (consulted : Consulted p q)
    : p.BackendOnly q := by
  cases consulted with
  | not => exact ⟨rfl, rfl⟩
  | refused answer =>
      simp only [Driver.beginTransaction, beginTransaction] at answer
      rcases acquired : Backend.acquire p.backend with ⟨failure | connection, b⟩
      · simp only [acquired, Prod.mk.injEq] at answer
        exact answer.2 ▸ ⟨rfl, rfl⟩
      · rcases begun : Backend.begin connection b with ⟨failure | done, b⟩
        · simp only [acquired, begun, Prod.mk.injEq] at answer
          exact answer.2 ▸ ⟨rfl, rfl⟩
        · simp [acquired, begun] at answer
  | executed e => exact execute_backendOnly e p
  | authenticated => exact ⟨rfl, rfl⟩
  | closed => exact ⟨rfl, rfl⟩

end SqlAssembly.Pool
