import SqlAssembly.Proofs.Session.Closing

/-! A body that has a handle of its own does what it does as a block that borrows the only one.
Nothing but giving up a handle depends on how many a transaction has, and such a body gives up
no more than it was lent.
-/

namespace SqlAssembly

open Session (cloneHandle dropHandle)

variable {δ α β : Type}

-----------------------------------------------------------------------------------------
-- One handle more or less
-----------------------------------------------------------------------------------------

namespace Session

/-- Changing one transaction twice. -/
theorem changing_changing (s : Session δ) (id : TransactionId) (f g : Transaction → Transaction)
    (keeps : ∀ t, (f t).id = t.id)
    : (s.changing id f).changing id g = s.changing id fun t => g (f t) := by
  simp only [changing, List.map_map]
  congr 1
  refine List.map_congr_left fun t _ => ?_
  by_cases hit : t.id = id <;> simp [hit, keeps]

/-- Changes of two transactions commute. -/
theorem changing_comm (s : Session δ) {id other : TransactionId} (distinct : other ≠ id)
    (f g : Transaction → Transaction) (keepsF : ∀ t, (f t).id = t.id)
    (keepsG : ∀ t, (g t).id = t.id)
    : (s.changing id f).changing other g = (s.changing other g).changing id f := by
  simp only [changing, List.map_map]
  congr 1
  refine List.map_congr_left fun t _ => ?_
  by_cases hit : t.id = id
  · simp [hit, keepsF, distinct.symm]
  · by_cases miss : t.id = other <;> simp [hit, miss, keepsG, distinct]

/-- A handle that is made and given up again. -/
theorem lessHandle_moreHandle (s : Session δ) (id : TransactionId)
    : (s.moreHandle id).lessHandle id = s := by
  rw [lessHandle, moreHandle,
    changing_changing s id (fun t => { t with handles := t.handles + 1 }) _ fun _ => rfl]
  exact changing_same s id

/-- A handle that is given up and made again, when there was one. -/
theorem moreHandle_lessHandle {s : Session δ} {id : TransactionId}
    (held : ∀ t ∈ s.transactions, t.id = id → t.handles ≠ 0)
    : (s.lessHandle id).moreHandle id = s := by
  rw [moreHandle, lessHandle,
    changing_changing s id (fun t => { t with handles := t.handles - 1 }) _ fun _ => rfl, changing]
  have same (t : Transaction) (member : t ∈ s.transactions)
      : (if t.id == id then { t with handles := t.handles - 1 + 1 } else t) = t := by
    split
    · rename_i hit
      rw [Nat.sub_add_cancel (Nat.one_le_iff_ne_zero.mpr (held t member (by simpa using hit)))]
    · rfl
  rw [List.map_congr_left same, List.map_id']

/-- Another transaction is found as before. -/
theorem moreHandle_transaction? (s : Session δ) {id other : TransactionId}
    (distinct : other ≠ id)
    : (s.moreHandle id).transaction? other = s.transaction? other := by
  rw [moreHandle, changing_transaction? _ _ _ (fun t => { t with handles := t.handles + 1 })
    fun _ => rfl]
  cases found : s.transaction? other with
  | none => rfl
  | some t =>
      have same : t.id = other := by simpa using List.find?_some found
      simp [same, distinct]

variable [Driver δ]

/-- Giving up one of several handles does nothing more. -/
theorem dropHandle_on_several {s : Session δ} {id : TransactionId}
    (several : ∀ t ∈ s.transactions, t.id = id → 2 ≤ t.handles)
    : (dropHandle id).on s = ((), s.lessHandle id) := by
  refine dropHandle_on_kept fun t found => .inl ?_
  rw [lessHandle, changing_transaction? _ _ _ (fun t => { t with handles := t.handles - 1 })
    fun _ => rfl] at found
  obtain ⟨r, was, rfl⟩ := Option.map_eq_some_iff.mp found
  have same : r.id = id := by simpa using List.find?_some was
  have two := several r (List.mem_of_find?_eq_some was) same
  simp only [same, beq_self_eq_true, if_true]
  omega

/-- Giving up a handle does the same when a transaction has one more, unless it was the last. -/
theorem dropHandle_moreHandle (s : Session δ) {id other : TransactionId}
    (several : other = id → ∀ t ∈ s.transactions, t.id = id → 2 ≤ t.handles)
    : (dropHandle other).on (s.moreHandle id)
      = ((), ((dropHandle other).on s).2.moreHandle id) := by
  by_cases own : other = id
  · subst own
    have two := several rfl
    have three (t : Transaction) (member : t ∈ (s.moreHandle other).transactions)
        (same : t.id = other)
        : 2 ≤ t.handles := by
      obtain ⟨r, was, rfl⟩ := List.mem_map.mp member
      have atLeast := two r was
      grind
    rw [dropHandle_on_several two, dropHandle_on_several three, lessHandle_moreHandle,
      moreHandle_lessHandle fun t member same => by have := two t member same; omega]
  · have swap : (s.moreHandle id).lessHandle other = (s.lessHandle other).moreHandle id :=
      changing_comm s own _ _ (fun _ => rfl) fun _ => rfl
    have found
        : ((s.moreHandle id).lessHandle other).transaction? other
          = (s.lessHandle other).transaction? other := by
      rw [swap, moreHandle_transaction? _ own]
    rcases dropHandle_cases s other with ⟨same, kept⟩ | ⟨t, last, spent, unfinished⟩
    · rw [same, dropHandle_on_kept fun t now => kept t (found ▸ now), swap]
    · rw [dropHandle_on_last last spent unfinished,
        dropHandle_on_last (found.trans last) spent unfinished, swap]
      rfl

end Session

-----------------------------------------------------------------------------------------
-- Blocks that count no handles
-----------------------------------------------------------------------------------------

/-- A transaction has a handle besides those that its client holds under names. -/
def Session.Spare (s : Session δ) (c : Client) (id : TransactionId) : Prop :=
  ∀ t ∈ s.transactions, t.id = id → c.handles.count id < t.handles

namespace ClientM

/-- The action does not depend on how many handles a transaction has. With one more of them it does
the same, provided that one of the others is under no name.
-/
def Blind (id : TransactionId) (action : ClientM δ β) : Prop :=
  ∀ c s,
    Client.Ordered c.held
    → s.Spare c id
    → action.on c (s.moreHandle id) = ((action.on c s).1, (action.on c s).2.moreHandle id)

theorem Blind.map {id : TransactionId} {action : ClientM δ α} (blind : Blind id action) (f : α → β)
    : Blind id (do return f (← action)) := by
  intro c s ordered spare
  rw [on_bind, on_bind, blind c s ordered spare]
  rfl

variable [Driver δ]

/-- Keeping one more handle under a name is blind, also when that name held one before: the handle
that is dropped then is not the last.
-/
theorem Blind.keep (name : Text) (id : TransactionId)
    : Blind id (Program.lending (Client.hold name) id : ClientM δ Unit) := by
  intro c s ordered spare
  simp only [Program.lending, Client.hold, on_bind, on_inSession, Session.cloneHandle_on,
    on_idOf?, on_modify]
  cases found : c.held.lookup name with
  | none => rfl
  | some previous =>
      have several (own : previous = id) (t : Transaction)
          (member : t ∈ (s.moreHandle id).transactions) (same : t.id = id)
          : 2 ≤ t.handles := by
        obtain ⟨r, was, rfl⟩ := List.mem_map.mp member
        have named : 0 < c.handles.count id :=
          Multiset.count_pos.mpr (Client.mem_handles (own ▸ found))
        have more := spare r was
        grind
      simp only [on_inSession, Session.dropHandle_moreHandle (s.moreHandle id) several]

/-- The body that a block becomes when it is lent a handle, which is given back at the end. -/
def returning (block : TransactionId → ClientM δ β) (id : TransactionId) : ClientM δ β := do
  let value ← block id
  Client.inSession (dropHandle id)
  return value

theorem returning_trades {outside : δ → δ → Prop} {block : TransactionId → ClientM δ β}
    {id : TransactionId} (borrows : (block id).Trades outside {id} fun _ => {id})
    : (returning block id).Trades outside {id} fun _ => 0 :=
  borrows.bind fun value =>
    (Trades.inSession (Session.dropHandle_trades id)).bind fun _ => Plays.pure value

/-- A block that does the same with one more handle can be run as a body with a handle of its own,
since that body gives up exactly the handle that it was lent.
-/
theorem runInTransaction_returning {block : TransactionId → ClientM δ (Except SqlError α)}
    {c : Client} {s : Session δ} {id : TransactionId} {d : δ}
    (answer : Driver.beginTransaction s.driver = (.ok id, d))
    (blind
      : let ran := (block id).on c (s.begun d id)
        (block id).on c ((s.begun d id).moreHandle id) = (ran.1, ran.2.moreHandle id))
    (kept
      : ∀ t,
          ((block id).on c (s.begun d id)).2.transaction? id = some t
          → t.handles ≠ 0 ∨ t.finished = true)
    : (Session.runInTransaction δ (returning block)).on c s
      = (Session.transactionBlock δ block).on c s := by
  have lent
      : (Program.lending (returning block) id).on c (s.begun d id)
        = (block id).on c (s.begun d id) := by
    have dropped
        : (dropHandle id).on (((block id).on c (s.begun d id)).2.moreHandle id)
          = ((), ((block id).on c (s.begun d id)).2) := by
      rw [Session.dropHandle_on_kept, Session.lessHandle_moreHandle]
      rwa [Session.lessHandle_moreHandle]
    rw [Program.lending, on_bind, on_inSession, Session.cloneHandle_on, returning, on_bind, blind,
      on_bind, on_inSession, dropped]
    rfl
  rw [Program.runInTransaction_eq, Session.transactionBlock_eq, Session.transactionBlock_eq,
    on_bind, on_bind, on_inSession, SessionM.on_run, Session.begin_on_ok answer]
  simp only [on_bind, lent]

end ClientM

end SqlAssembly
