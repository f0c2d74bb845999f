import SqlAssembly.Proofs.Session.HeldNames
import SqlAssembly.Proofs.Session.Usage

/-! Every program of a client is a run of moves. Each call trades handles under names, and a scope
owns one handle of its transaction beside those that its body has.
-/

namespace SqlAssembly

open Session (cloneHandle dropHandle)

variable {γ δ α β : Type}

-----------------------------------------------------------------------------------------
-- What a client does as a run
-----------------------------------------------------------------------------------------

namespace ClientM

/-- What an action of a client returns, with the client and the session after it. -/
def on (action : ClientM δ α) (c : Client) (s : Session δ) : (α × Client) × Session δ :=
  (action.run c).run s

@[simp]
theorem on_pure (value : α) (c : Client) (s : Session δ)
    : (pure value : ClientM δ α).on c s = ((value, c), s) :=
  rfl

@[simp]
theorem on_bind (action : ClientM δ α) (next : α → ClientM δ β) (c : Client) (s : Session δ)
    : (action >>= next).on c s
      = (next (action.on c s).1.1).on (action.on c s).1.2 (action.on c s).2 :=
  rfl

@[simp]
theorem on_modify (change : Client → Client) (c : Client) (s : Session δ)
    : (modify change : ClientM δ PUnit).on c s = ((⟨⟩, change c), s) :=
  rfl

@[simp]
theorem on_inSession (action : SessionM δ α) (c : Client) (s : Session δ)
    : (Client.inSession action).on c s = (((action.on s).1, c), (action.on s).2) :=
  rfl

@[simp]
theorem on_idOf? (name : Text) (c : Client) (s : Session δ)
    : (Client.idOf? name : ClientM δ _).on c s = ((c.held.lookup name, c), s) :=
  rfl

variable [Driver δ] {outside : δ → δ → Prop}

/-- Started by this client, the action takes the handles (before) and leaves the handles (after)
beside those under names. Names stay in order, and the driver may change from outside.
-/
def TradesAt (outside : δ → δ → Prop) (action : ClientM δ α) (c : Client)
    (before : Multiset TransactionId) (after : α → Multiset TransactionId)
    : Prop :=
  ∀ s others,
    Client.Ordered c.held
    → Client.Ordered (action.on c s).1.2.held
      ∧ Usage.MovesWithin outside ⟨s, c.handles + (before + others)⟩
          ⟨
            (action.on c s).2,
            (action.on c s).1.2.handles + (after (action.on c s).1.1 + others)
          ⟩

/-- Whatever client starts it, the action trades these handles. -/
def Trades (outside : δ → δ → Prop) (action : ClientM δ α) (before : Multiset TransactionId)
    (after : α → Multiset TransactionId)
    : Prop :=
  ∀ c, action.TradesAt outside c before after

/-- All the handles that the action takes and leaves are under names. -/
def Plays (outside : δ → δ → Prop) (action : ClientM δ α) : Prop :=
  action.Trades outside 0 fun _ => 0

theorem Trades.bind {action : ClientM δ α} {next : α → ClientM δ β}
    {before : Multiset TransactionId} {between : α → Multiset TransactionId}
    {after : β → Multiset TransactionId} (first : action.Trades outside before between)
    (second : ∀ value, (next value).Trades outside (between value) after)
    : (action >>= next).Trades outside before after := by
  intro c s others ordered
  obtain ⟨middle, moves⟩ := first c s others ordered
  obtain ⟨last, later⟩ := second _ _ _ others middle
  exact ⟨last, moves.trans later⟩

theorem Trades.pure (after : α → Multiset TransactionId) (value : α)
    : (Pure.pure value : ClientM δ α).Trades outside (after value) after :=
  fun _ _ _ ordered => ⟨ordered, .refl⟩

/-- Handles that an action does not touch may be counted or not. -/
theorem Trades.frame {action : ClientM δ α} {before : Multiset TransactionId}
    {after : α → Multiset TransactionId} (trades : action.Trades outside before after)
    (kept : Multiset TransactionId)
    : action.Trades outside (before + kept) fun value => after value + kept := by
  intro c s others ordered
  simpa only [add_assoc] using trades c s (kept + others) ordered

theorem Plays.pure (value : α) : (Pure.pure value : ClientM δ α).Plays outside :=
  Trades.pure (fun _ => 0) value

/-- A handle under a name is lent to an action of the session, which may leave more of them. -/
theorem TradesAt.borrow {action : SessionM δ α} {next : α → ClientM δ β} {c : Client}
    {id : TransactionId} {more : Multiset TransactionId} (held : id ∈ c.handles)
    (trades : action.Trades {id} (id ::ₘ more))
    (rest : ∀ value, (next value).Trades outside more fun _ => 0)
    : (Client.inSession action >>= next).TradesAt outside c 0 fun _ => 0 := by
  intro s others ordered
  obtain ⟨last, later⟩ := rest (action.on s).1 c (action.on s).2 others ordered
  refine ⟨last, .trans (Usage.Calls.within ?_) later⟩
  obtain ⟨kept, split⟩ := Multiset.exists_cons_of_mem held
  have moves := trades s (kept + others)
  rw [Multiset.singleton_add, ← Multiset.cons_add, ← split, Multiset.cons_add, add_left_comm,
    ← Multiset.cons_add, ← split] at moves
  simpa only [zero_add] using moves

/-- What follows the look-up of a name may rely on the handle that was found. -/
theorem Plays.idOf?_bind {name : Text} {next : Option TransactionId → ClientM δ α}
    (missing : (next none).Plays outside)
    (found : ∀ id c, id ∈ c.handles → (next (some id)).TradesAt outside c 0 fun _ => 0)
    : (Client.idOf? name >>= next).Plays outside := by
  intro c s others ordered
  rw [ClientM.on_bind, ClientM.on_idOf?]
  cases held : c.held.lookup name with
  | none => exact missing c s others ordered
  | some id => exact found id c (Client.mem_handles held) s others ordered

/-- Reading the client or the session moves nothing. -/
theorem Plays.of_read {action : ClientM δ α}
    (unchanged : ∀ c s, (action.on c s).1.2 = c ∧ (action.on c s).2 = s)
    : action.Plays outside := by
  intro c s others ordered
  obtain ⟨client, session⟩ := unchanged c s
  rw [client, session]
  exact ⟨ordered, .refl⟩

/-- What a client keeps beside its handles may change freely. -/
theorem Plays.modify {change : Client → Client} (kept : ∀ c, (change c).held = c.held)
    : (modify change : ClientM δ PUnit).Plays outside := by
  intro c s others ordered
  have same : (change c).handles = c.handles := by simp only [Client.handles, kept]
  refine ⟨(kept c).symm ▸ ordered, ?_⟩
  change Usage.MovesWithin outside _ ⟨s, (change c).handles + _⟩
  rw [same]

/-- What the session does for its client. -/
theorem Trades.inSession {action : SessionM δ α} {before after : Multiset TransactionId}
    (trades : action.Trades before after)
    : (Client.inSession action : ClientM δ α).Trades outside before fun _ => after := by
  intro c s others ordered
  refine ⟨ordered, Usage.Calls.within ?_⟩
  change Usage.Calls ⟨s, c.handles + (before + others)⟩
    ⟨(action.on s).2, c.handles + (after + others)⟩
  simpa only [add_left_comm] using trades s (c.handles + others)

theorem Plays.of_steady {action : Action δ α} (steady : action.Steady)
    : (Client.inSession action.run : ClientM δ _).Plays outside :=
  Trades.inSession (steady 0)

/-- The handle that a begin grants. -/
def granted : Except SqlError TransactionId → Multiset TransactionId
  | .ok id => {id}
  | .error _ => 0

theorem begin_trades
    : (Client.inSession Session.begin.run : ClientM δ _).Trades outside 0 granted := by
  intro c s others ordered
  refine ⟨ordered, Usage.Calls.within ?_⟩
  change Usage.Calls _
    ⟨(Session.begin.on s).2, c.handles + (granted (Session.begin.on s).1 + others)⟩
  rcases opened : Session.begin.on s with ⟨error | id, t⟩
  · exact .refused opened
  · simpa [granted, Multiset.singleton_add]
      using Usage.Calls.began (h := c.handles + others) opened

end ClientM

-----------------------------------------------------------------------------------------
-- Calls
-----------------------------------------------------------------------------------------

variable [Driver δ] {outside : δ → δ → Prop}

namespace Client

open ClientM (Trades Plays)

/-- Holding a handle under a name takes it, and drops the one that was there. -/
theorem hold_trades (name : Text) (id : TransactionId)
    : (hold name id : ClientM δ Unit).Trades outside {id} fun _ => 0 := by
  intro c s others ordered
  have perm := ordered.insertHeld_perm name id
  cases found : c.held.lookup name with
  | none =>
      have same : handles { c with held := insertHeld name id c.held } = id ::ₘ c.handles := by
        simpa [handles, found] using perm
      simp only [hold, ClientM.on_bind, ClientM.on_idOf?, ClientM.on_modify, found]
      refine ⟨ordered.insertHeld, ?_⟩
      simp only [ClientM.on_pure, same, Multiset.singleton_add, Multiset.cons_add,
        Multiset.add_cons, zero_add]
      exact .refl
  | some previous =>
      have same
          : previous ::ₘ handles { c with held := insertHeld name id c.held }
            = id ::ₘ c.handles := by
        simpa [handles, found] using perm
      simp only [hold, ClientM.on_bind, ClientM.on_idOf?, ClientM.on_modify, found]
      refine ⟨ordered.insertHeld, ?_⟩
      have dropped := Session.dropHandle_trades previous s
        (handles { c with held := insertHeld name id c.held } + others)
      rw [Multiset.singleton_add, ← Multiset.cons_add, same, zero_add] at dropped
      simpa only [ClientM.on_inSession, Multiset.singleton_add, Multiset.cons_add,
        Multiset.add_cons, zero_add] using Usage.Calls.within dropped

/-- Dropping a name gives up the handle under it. -/
theorem drop_plays (name : Text) : (drop name : ClientM δ Bool).Plays outside := by
  intro c s others ordered
  cases found : c.held.lookup name with
  | none =>
      simp only [drop, ClientM.on_bind, ClientM.on_idOf?, found]
      exact ⟨ordered, .refl⟩
  | some id =>
      have same
          : id ::ₘ handles { c with held := c.held.filter (·.1 ≠ name) } = c.handles := by
        simpa [handles] using ordered.filter_perm found
      simp only [drop, ClientM.on_bind, ClientM.on_idOf?, ClientM.on_modify, found]
      refine ⟨ordered.filter _, ?_⟩
      have dropped := Session.dropHandle_trades id s
        (handles { c with held := c.held.filter (·.1 ≠ name) } + others)
      rw [Multiset.singleton_add, ← Multiset.cons_add, same, zero_add] at dropped
      simpa only [ClientM.on_inSession, ClientM.on_pure, zero_add]
        using Usage.Calls.within dropped

/-- A clone is made from a handle that the client holds. -/
theorem clone_plays (name other : Text) : (clone name other : ClientM δ Unit).Plays outside :=
  Plays.idOf?_bind (Plays.pure ()) fun id _ held =>
    .borrow held (Session.cloneHandle_trades id) fun _ => hold_trades other id

/-- A begin holds the handle that it was granted. -/
theorem begin_plays (name : Text) : (begin name : ClientM δ _).Plays outside := by
  refine ClientM.begin_trades.bind fun opened => ?_
  cases opened with
  | error error => exact Plays.pure _
  | ok id => exact (hold_trades name id).bind fun _ => Plays.pure _

end Client

namespace Call

open ClientM (Trades Plays)

theorem answering_plays {action : Action δ α} (answer : α → Answer) (steady : action.Steady)
    : (answering answer action).Plays outside :=
  (Plays.of_steady steady).bind fun _ => Plays.pure _

theorem onTerms_plays {action : Terms → Action δ α} (terms : NamedTerms) (answer : α → Answer)
    (steady : ∀ resolved, (action resolved).Steady)
    : (onTerms terms answer action).Plays outside := by
  refine Trades.bind (Plays.of_read fun c s => ?_) fun resolved =>
    answering_plays answer (steady resolved)
  rcases terms with ⟨guard, _ | name⟩ <;> exact ⟨rfl, rfl⟩

theorem inTransaction_plays {action : Option TransactionId → Action δ α} (name : Option Text)
    (answer : α → Answer) (steady : ∀ id, (action id).Steady)
    : (inTransaction name answer action).Plays outside := by
  refine Trades.bind (Plays.of_read fun c s => ?_) fun id => answering_plays answer (steady id)
  cases name <;> exact ⟨rfl, rfl⟩

theorem transactionOf?_plays (name : Text)
    : (Client.transactionOf? name : ClientM δ _).Plays outside := by
  refine Plays.of_read fun c s => ?_
  simp only [Client.transactionOf?, ClientM.on_bind, ClientM.on_idOf?]
  cases c.held.lookup name <;> exact ⟨rfl, rfl⟩

theorem finished?_plays (name : Text) : (finished? name : ClientM δ _).Plays outside :=
  (transactionOf?_plays name).bind fun _ => Plays.pure _

theorem commit_plays (control : γ → δ → δ) (name : Text)
    : ((Call.commit name).run control : ClientM δ _).Plays outside := by
  refine Plays.idOf?_bind (Plays.pure _) fun id c held => ?_
  refine .borrow held (Session.commit_trades id) fun answer => ?_
  cases answer with
  | error error => exact Plays.pure _
  | ok done => exact (finished?_plays name).bind fun _ => Plays.pure _

theorem rollback_plays (control : γ → δ → δ) (name : Text)
    : ((Call.rollback name).run control : ClientM δ _).Plays outside :=
  Plays.idOf?_bind (Plays.pure _) fun id _ held =>
    .borrow held (Session.rollback_trades id) fun _ =>
      (finished?_plays name).bind fun _ => Plays.pure _

/-- A control changes the driver as it may from outside. -/
theorem control_plays {control : γ → δ → δ} (permitted : ∀ c d, outside d (control c d)) (c : γ)
    : ((Call.control c).run control : ClientM δ _).Plays outside :=
  fun _ s _ ordered =>
    ⟨ordered, .single ⟨.control (control c), fun _ => .inr (permitted c s.driver)⟩⟩

/-- Every call of a client is a run. -/
theorem run_plays {control : γ → δ → δ} (permitted : ∀ c d, outside d (control c d))
    (call : Call γ)
    : (call.run control : ClientM δ _).Plays outside := by
  cases call with
  | control c => exact control_plays permitted c
  | begin name => exact Client.begin_plays name
  | clone name other => exact (Client.clone_plays name other).bind fun _ => Plays.pure _
  | drop name => exact (Client.drop_plays name).bind fun _ => Plays.pure _
  | state name => exact (transactionOf?_plays name).bind fun _ => Plays.pure _
  | commit name => exact commit_plays control name
  | rollback name => exact rollback_plays control name
  | select s terms => exact onTerms_plays terms _ fun _ => Session.statement_steady _ _ _ _
  | selectOne s terms => exact onTerms_plays terms _ (Session.selectOne_steady s)
  | sum s terms => exact onTerms_plays terms _ fun _ => Session.statement_steady _ _ _ _
  | count s terms => exact onTerms_plays terms _ fun _ => Session.statement_steady _ _ _ _
  | joinSelect s terms => exact onTerms_plays terms _ fun _ => Session.statement_steady _ _ _ _
  | update s terms => exact onTerms_plays terms _ fun _ => Session.statement_steady _ _ _ _
  | delete s terms => exact onTerms_plays terms _ fun _ => Session.statement_steady _ _ _ _
  | insert s mode terms => exact onTerms_plays terms _ (Session.insert_steady s mode)
  | insertAndFetch s terms => exact onTerms_plays terms _ (Session.insertAndFetch_steady s)
  | batchInsert s terms => exact onTerms_plays terms _ fun _ => Session.statement_steady _ _ _ _
  | updateOrInsert s terms => exact onTerms_plays terms _ (Session.updateOrInsert_steady s)
  | selectBySql sql values name =>
      exact inTransaction_plays name _ fun _ => (Session.execute_steady _).map _
  | updateBySql sql values name =>
      exact inTransaction_plays name _ fun _ => (Session.execute_steady _).map _
  | deleteBySql sql values name =>
      exact inTransaction_plays name _ fun _ => (Session.execute_steady _).map _
  | insertBySql sql values name =>
      exact inTransaction_plays name _ fun _ => (Session.execute_steady _).map _
  | createBySql sql values name =>
      exact inTransaction_plays name _ (Session.createBySql_steady sql values)
  | query sql type values name =>
      exact inTransaction_plays name _ fun _ => Session.execute_steady _
  | executeScript script => exact answering_plays _ (Session.executeScript_steady script)
  | executeFile contents =>
      exact answering_plays _ ((Action.Steady.mk_pure _).bind Session.executeScript_steady)
  | createDatabase name force =>
      exact answering_plays _ (Session.createDatabase_steady name force)
  | dropDatabase name => exact answering_plays _ (Session.dropDatabase_steady name)
  | authenticate =>
      exact answering_plays _ fun _ _ _ =>
        Usage.Move.authenticate.noting (by simp [Session.authenticate_on])
  | close =>
      exact answering_plays _ fun _ _ _ => Usage.Move.close.noting (by simp [Session.close_on])
  | describe => exact Plays.pure _
  | refused error => exact Plays.pure _

end Call

-----------------------------------------------------------------------------------------
-- Scopes and programs
-----------------------------------------------------------------------------------------

namespace Program

open ClientM (Trades Plays)

/-- Rolling back gives up the handle that the scope owns. -/
theorem undo_trades (id : TransactionId) (outcome : Except SqlError α)
    : Trades outside
        (do
          Client.inSession (Session.rollback id)
          Client.inSession (dropHandle id)
          return outcome)
        {id} fun _ => 0 :=
  (Trades.inSession (Session.rollback_trades id)).bind fun _ =>
    (Trades.inSession (Session.dropHandle_trades id)).bind fun _ => Plays.pure outcome

/-- A block borrows the handle of its transaction, and the scope gives it up. -/
theorem transactionBlock_plays {block : TransactionId → ClientM δ (Except SqlError α)}
    (borrows : ∀ id, (block id).Trades outside {id} fun _ => {id})
    : (Session.transactionBlock δ block).Plays outside := by
  refine Trades.bind ClientM.begin_trades fun opened => ?_
  cases opened with
  | error error => exact Plays.pure _
  | ok id =>
      refine Trades.bind (borrows id) fun outcome => ?_
      cases outcome with
      | error error => exact undo_trades id _
      | ok value =>
          refine Trades.bind (Trades.inSession (Session.commit_trades id)) fun committed => ?_
          cases committed with
          | error error => exact undo_trades id _
          | ok done =>
              exact (Trades.inSession (Session.dropHandle_trades id)).bind fun _ => Plays.pure _

/-- The block that gives a body a handle of its own. -/
def lending (body : TransactionId → ClientM δ β) (id : TransactionId) : ClientM δ β := do
  Client.inSession (cloneHandle id)
  body id

theorem lending_trades {body : TransactionId → ClientM δ β} {id : TransactionId}
    (takes : (body id).Trades outside {id} fun _ => 0)
    : (lending body id).Trades outside {id} fun _ => {id} := by
  refine (Trades.inSession (Session.cloneHandle_trades id)).bind fun _ => ?_
  simpa only [Multiset.singleton_add, zero_add] using takes.frame {id}

/-- Running a body in a transaction is running the block that gives it a handle. -/
theorem runInTransaction_eq (body : TransactionId → ClientM δ (Except SqlError α))
    : Session.runInTransaction δ body = Session.transactionBlock δ (lending body) := by
  refine bind_congr (m := ClientM δ) fun opened => ?_
  cases opened with
  | error error => rfl
  | ok id =>
      refine Eq.trans ?_ (bind_assoc (m := ClientM δ) _ _ _).symm
      refine bind_congr (m := ClientM δ) fun lent => ?_
      refine bind_congr (m := ClientM δ) fun outcome => ?_
      cases outcome with
      | error error => rfl
      | ok value =>
          refine bind_congr (m := ClientM δ) fun committed => ?_
          cases committed <;> rfl

/-- A body takes a handle of its own, and the scope keeps the first. -/
theorem runInTransaction_plays {body : TransactionId → ClientM δ (Except SqlError α)}
    (takes : ∀ id, (body id).Trades outside {id} fun _ => 0)
    : (Session.runInTransaction δ body).Plays outside := by
  rw [runInTransaction_eq]
  exact transactionBlock_plays fun id => lending_trades (takes id)

/-- What a body came to is read off its client. -/
theorem outcome_plays (failure : Option SqlError)
    : (outcome failure : ClientM δ _).Plays outside :=
  Plays.of_read fun _ _ => by cases failure <;> exact ⟨rfl, rfl⟩

/-- Notes are no handles. -/
theorem setNotes_plays (notes : Client → List (Except SqlError Answer))
    : (modify fun c => { c with notes := notes c } : ClientM δ PUnit).Plays outside :=
  Plays.modify fun _ => rfl

/-- What a scope runs: the body, with the handle of the transaction under a name. -/
def named (name : Text) (body : ClientM δ (Option SqlError)) (id : TransactionId)
    : ClientM δ (Except SqlError Nat) := do
  Client.hold name id
  outcome (← body)

theorem named_trades (name : Text) {body : ClientM δ (Option SqlError)}
    (plays : body.Plays outside) (id : TransactionId)
    : (named name body id).Trades outside {id} fun _ => 0 :=
  (Client.hold_trades name id).bind fun _ => plays.bind outcome_plays

/-- A scope is a run when its body is, in either form. -/
theorem runScope_plays (form : ScopeForm) (name : Text) {body : ClientM δ (Option SqlError)}
    (plays : body.Plays outside)
    : (runScope form name body).Plays outside := by
  refine Trades.bind (Plays.of_read fun _ _ => ⟨rfl, rfl⟩) fun outer => ?_
  refine Trades.bind (setNotes_plays _) fun _ => ?_
  have closing (result : Except SqlError Nat)
      : Plays outside
          (do
            let notes := (← get).notes
            let finished ← Call.finished? name
            let _ ← Client.drop name
            modify fun c => { c with notes := outer.notes }
            return Answer.scope result notes finished) := by
    refine Trades.bind (Plays.of_read fun _ _ => ⟨rfl, rfl⟩) fun inner => ?_
    refine (Call.finished?_plays name).bind fun finished => ?_
    refine (Client.drop_plays name).bind fun _ => ?_
    exact (setNotes_plays _).bind fun _ => Plays.pure _
  cases form with
  | function => exact Trades.bind (runInTransaction_plays (named_trades name plays)) closing
  | block =>
      exact Trades.bind
        (transactionBlock_plays fun id => lending_trades (named_trades name plays id)) closing

/-- Both forms of a scope do the same with one body. -/
theorem runScope_eq (name : Text) (body : ClientM δ (Option SqlError))
    : runScope .function name body = runScope .block name body := by
  unfold runScope
  simp only [runInTransaction_eq]
  rfl

/-- Every program of a client is a run of moves, by induction on the program. -/
theorem run_plays {control : γ → δ → δ} (permitted : ∀ c d, outside d (control c d))
    (p : Program γ)
    : (p.run control : ClientM δ _).Plays outside := by
  induction p with
  | finish failure => exact Plays.pure failure
  | call c next ih =>
      exact (Call.run_plays permitted c).bind fun answer =>
        (setNotes_plays _).bind fun _ => ih answer
  | scope form name body next bodyIH nextIH =>
      exact (runScope_plays form name bodyIH).bind fun answer =>
        (setNotes_plays _).bind fun _ => nextIH _

end Program

end SqlAssembly
