import SqlAssembly.Proofs.Session.Lending

/-! Scoped transactions always end finished. They end by one confirmed commit or one rollback,
whatever the body did with the handle and whatever the driver answered, and a handle that the
body kept changes nothing when it is dropped later.
-/

namespace SqlAssembly

open Session (dropHandle)

variable {γ δ α : Type}

-----------------------------------------------------------------------------------------
-- Ended by a call
-----------------------------------------------------------------------------------------

/-- The driver was asked to release the transaction. -/
def Entry.isRelease (id : TransactionId) : Entry → Bool
  | release i => i == id
  | _ => false

namespace Session

/-- How often the driver was asked to release the transaction. -/
def releases (s : Session δ) (id : TransactionId) : Nat :=
  s.journal.countP (Entry.isRelease id)

/-- The transaction ended by one confirmed commit or by one rollback, and by nothing else. -/
structure EndedByCall (s : Session δ) (id : TransactionId) : Prop where
  once : s.confirmedCommits id + s.rollbackCalls id = 1
  notAbandoned : s.abandonments id = 0
  notReleased : s.releases id = 0

/-- The record of a known transaction that is finished. -/
theorem finished_of_known {s : Session δ} {id : TransactionId} (known : id ∈ s.ids)
    (finished : s.isFinished id = true)
    : (s.transaction? id).map (·.finished) = some true := by
  obtain ⟨t, found⟩ := transaction?_of_known known
  rw [isFinished, found] at finished
  rw [found, Option.map_some]
  exact congrArg some finished

end Session

namespace Usage

variable [Driver δ] {u v : Usage δ} {id : TransactionId}

/-- A finished transaction ended by a call, because it was never abandoned. -/
theorem Sound.endedByCall (sound : u.Sound) (distinct : u.session.Distinct)
    (known : id ∈ u.session.ids) (finished : u.session.isFinished id = true)
    : u.session.EndedByCall id := by
  have ends := sound.endsOnce distinct known
  have once := ends.flag.mp finished
  have atMostOnce := ends.atMostOnce
  rw [Session.endings] at atMostOnce
  refine ⟨once, by omega, ?_⟩
  obtain ⟨t, member, rfl⟩ := List.mem_map.mp known
  rw [distinct.isFinished member] at finished
  obtain ⟨ending, tells, shows_⟩ := sound.told t member
  have concerned (entry : Entry) (counted : entry.isRelease t.id = true)
      : entry.concerns t.id = true := by
    cases entry with
    | release i =>
        have same : i = t.id := by simpa [Entry.isRelease] using counted
        simp [Entry.concerns, Entry.asks, same]
    | _ => simp [Entry.isRelease] at counted
  have releases : u.session.releases t.id = _ := tells.countP_eq concerned rfl
  rw [releases]
  rcases ending with _ | _ | _ | released
  · simp [Transaction.Shows, finished] at shows_
  · rfl
  · rfl
  · simp [Transaction.Shows, finished] at shows_

/-- Once a transaction is finished, whatever follows, it has ended by a call. -/
theorem Moves.endedByCall {d : δ} (reached : (Usage.initial d).Moves u) (moves : u.Moves v)
    (distinct : v.session.Distinct) (known : id ∈ u.session.ids)
    (finished : u.session.isFinished id = true)
    : v.session.EndedByCall id :=
  (Moves.sound (reached.trans moves) (.initial d) distinct).endedByCall distinct
    ((Moves.ids_prefix moves).subset known) (Moves.isFinished moves known finished)

end Usage

-----------------------------------------------------------------------------------------
-- Scopes
-----------------------------------------------------------------------------------------

namespace ClientM

variable [Driver δ]

/-- A block borrows the handle of its transaction. It may make handles and drop or keep them, end
the transaction, and do anything else; the driver may change meanwhile.
-/
def Borrows (block : TransactionId → ClientM δ (Except SqlError α)) : Prop :=
  ∀ id, (block id).Trades (fun _ _ => True) {id} fun _ => {id}

/-- A body takes a handle of its transaction, and drops it or keeps it under a name. -/
def Takes (body : TransactionId → ClientM δ (Except SqlError α)) : Prop :=
  ∀ id, (body id).Trades (fun _ _ => True) {id} fun _ => 0

/-- How a scope ends that a client opens in a session. When the driver begins no transaction, its
error is returned and nothing else happens. Otherwise the block runs, the scope closes what it left
and returns the first error, that of the block or of the closing commit; the transaction is finished
on return, and whatever follows, it has ended by one call.
-/
structure EndsFinished (scope : ClientM δ (Except SqlError α))
    (block : TransactionId → ClientM δ (Except SqlError α)) (c : Client) (s : Session δ)
    (others : Multiset TransactionId)
    : Prop where
  refused
    : ∀ error d,
        Driver.beginTransaction s.driver = (.error error, d)
        → scope.on c s = ((.error error, c), s.noting d [.begin])
  closed
    : ∀ id d,
        Driver.beginTransaction s.driver = (.ok id, d)
        → let ran := (block id).on c (s.begun d id)
          ∃ result t,
            Session.Closes id ran.1.1 ran.2 result t
            ∧ scope.on c s = ((result, ran.1.2), t.lessHandle id)
  firstError
    : ∀ id d,
        Driver.beginTransaction s.driver = (.ok id, d)
        → let ran := (block id).on c (s.begun d id)
          (scope.on c s).1.1
          = (do
            let value ← ran.1.1
            ((Session.commit id).on ran.2).1
            return value)
  finished
    : ∀ id d,
        Driver.beginTransaction s.driver = (.ok id, d)
        → ((scope.on c s).2.transaction? id).map (·.finished) = some true
  endedByCall
    : ∀ id d v,
        Driver.beginTransaction s.driver = (.ok id, d)
        → Usage.Moves ⟨(scope.on c s).2, (scope.on c s).1.2.handles + others⟩ v
        → v.session.Distinct
        → v.session.EndedByCall id

variable {c : Client} {s : Session δ} {others : Multiset TransactionId} {d : δ}
  {block : TransactionId → ClientM δ (Except SqlError α)}

/-- A scope with a block that borrows its handle ends finished. -/
theorem Borrows.endsFinished (borrows : Borrows block) (ordered : Client.Ordered c.held)
    (reached : (Usage.initial d).Moves ⟨s, c.handles + others⟩)
    : EndsFinished (Session.transactionBlock δ block) block c s others := by
  have moves := (Program.transactionBlock_plays borrows c s others ordered).2.moves
  simp only [zero_add] at moves
  have known {id : TransactionId} {e : δ} (answer : Driver.beginTransaction s.driver = (.ok id, e))
      : id ∈ ((Session.transactionBlock δ block).on c s).2.ids
        ∧ ((Session.transactionBlock δ block).on c s).2.isFinished id = true := by
    obtain ⟨result, t, closes, same⟩ := Session.transactionBlock_on_granted block c answer
    have ran := (borrows id c (s.begun e id) others ordered).2.moves
    have grown := (Usage.Moves.ids_prefix ran).subset (a := id) (by simp)
    rw [same]
    exact ⟨by simpa [closes.ids] using grown, Session.lessHandle_isFinished closes.isFinished⟩
  exact {
    refused := fun error e answer => Session.transactionBlock_on_refused block c answer
    closed := fun id e answer => Session.transactionBlock_on_granted block c answer
    firstError := fun id e answer => by
      obtain ⟨result, t, closes, same⟩ := Session.transactionBlock_on_granted block c answer
      rw [same]
      exact closes.firstError
    finished := fun id e answer =>
      Session.finished_of_known (known answer).1 (known answer).2
    endedByCall := fun id e v answer later distinct =>
      Usage.Moves.endedByCall (reached.trans moves) later distinct (known answer).1
        (known answer).2
  }

omit [Driver δ] in
/-- A transaction has a handle besides those that its client holds under names when one more of them
is held by a scope.
-/
theorem spare_of_sound {id : TransactionId} (sound : Usage.Sound ⟨s, id ::ₘ (c.handles + others)⟩)
    : s.Spare c id := by
  intro t member same
  have counted := sound.counted t member
  rw [same, Multiset.count_cons_self, Multiset.count_add] at counted
  omega

/-- Both forms do the same for a block that counts no handles. -/
theorem Borrows.sameForms (borrows : Borrows block) (blind : ∀ id, Blind id (block id))
    (ordered : Client.Ordered c.held) (reached : (Usage.initial d).Moves ⟨s, c.handles + others⟩)
    (distinct : ((Session.transactionBlock δ block).on c s).2.Distinct)
    : (Session.runInTransaction δ (returning block)).on c s
      = (Session.transactionBlock δ block).on c s := by
  rcases answer : Driver.beginTransaction s.driver with ⟨error | id, e⟩
  · rw [Program.runInTransaction_eq, Session.transactionBlock_on_refused _ c answer,
      Session.transactionBlock_on_refused _ c answer]
  · obtain ⟨result, t, closes, same⟩ := Session.transactionBlock_on_granted block c answer
    have begun : Usage.Moves ⟨s, c.handles + others⟩ ⟨s.begun e id, id ::ₘ (c.handles + others)⟩ :=
      .single (.began (Session.begin_on_ok answer))
    have ran := (borrows id c (s.begun e id) others ordered).2.moves
    simp only [Multiset.singleton_add, Multiset.add_cons] at ran
    have ranDistinct : ((block id).on c (s.begun e id)).2.Distinct := by
      rw [same, Session.Distinct, Session.ids_lessHandle, closes.ids] at distinct
      exact distinct
    have begunDistinct : (s.begun e id).Distinct :=
      ranDistinct.sublist (Usage.Moves.ids_prefix ran).sublist
    have begunSound := Usage.Moves.sound (reached.trans begun) (.initial d) begunDistinct
    have ranSound :=
      Usage.Moves.sound ((reached.trans begun).trans ran) (.initial d) ranDistinct
    refine runInTransaction_returning answer (blind id c _ ordered (spare_of_sound begunSound))
      fun t found => .inl ?_
    have own : t.id = id := by simpa using List.find?_some found
    rw [ranSound.counted t (List.mem_of_find?_eq_some found), own, Multiset.count_cons_self]
    exact Nat.succ_ne_zero _

/-- A block that keeps a handle of its own under a name. -/
def keeping (name : Text) (id : TransactionId) : ClientM δ (Except SqlError Nat) := do
  Program.lending (Client.hold name) id
  return .ok 7

theorem keeping_borrows (name : Text) : Borrows (keeping name : TransactionId → ClientM δ _) :=
  fun id => (Program.lending_trades (Client.hold_trades name id)).bind fun _ =>
    Trades.pure (fun _ => {id}) _

end ClientM

/-- Every scope ends finished, in either form, for every client in every session that can be
reached. A body in a transaction is a block that is lent a handle, and a block that counts no
handles is such a body. Programs are bodies, and their scopes do the same in both forms.
-/
theorem scopes_end_finished [Driver δ] (d : δ) (c : Client) (s : Session δ)
    (others : Multiset TransactionId) (ordered : Client.Ordered c.held)
    (reached : (Usage.initial d).Moves ⟨s, c.handles + others⟩)
    : (∀ block : TransactionId → ClientM δ (Except SqlError α),
        ClientM.Borrows block
        → ClientM.EndsFinished (Session.transactionBlock δ block) block c s others)
      ∧ (∀ body : TransactionId → ClientM δ (Except SqlError α),
          ClientM.Takes body
          → ClientM.EndsFinished
              (Session.runInTransaction δ body) (Program.lending body) c s others)
      ∧ (∀ body : TransactionId → ClientM δ (Except SqlError α),
          Session.runInTransaction δ body
          = Session.transactionBlock δ (Program.lending body))
      ∧ (∀ block : TransactionId → ClientM δ (Except SqlError α),
          ClientM.Borrows block
          → (∀ id, ClientM.Blind id (block id))
          → ((Session.transactionBlock δ block).on c s).2.Distinct
          → (Session.runInTransaction δ (ClientM.returning block)).on c s
            = (Session.transactionBlock δ block).on c s)
      ∧ ∀ (control : γ → δ → δ) (p : Program γ) (name : Text),
          ClientM.Takes (Program.named name (p.run control))
          ∧ (Program.runScope .function name (p.run control) : ClientM δ Answer)
            = Program.runScope .block name (p.run control) := by
  refine ⟨fun block borrows => borrows.endsFinished ordered reached, fun body takes => ?_,
    Program.runInTransaction_eq, fun block borrows blind => borrows.sameForms blind ordered reached,
    fun control p name => ⟨fun id => ?_, ?_⟩⟩
  · have borrows : ClientM.Borrows (Program.lending body) :=
      fun id => Program.lending_trades (takes id)
    rw [Program.runInTransaction_eq]
    exact borrows.endsFinished ordered reached
  · exact Program.named_trades name (p.run_plays fun _ _ => trivial) id
  · exact Program.runScope_eq name (p.run control)

/-- A driver that refuses every commit and fails every rollback. -/
def ScriptedDriver.failing : ScriptedDriver :=
  { failures := [(.commit, .driver "deadlock"), (.rollback, .driver "gone")] }

/-- What a block comes to on it that keeps a handle. -/
def ScriptedDriver.kept : (Except SqlError Nat × Client) × Session ScriptedDriver :=
  (Session.transactionBlock ScriptedDriver (ClientM.keeping "a")).on {} { driver := failing }

/-- The first error is returned, and the handle that was kept ends nothing when it is dropped later.
-/
theorem keeping_ends_finished
    : let s : Session ScriptedDriver := { driver := .failing }
      let scope := Session.transactionBlock ScriptedDriver (ClientM.keeping "a")
      let body := ClientM.returning (ClientM.keeping (δ := ScriptedDriver) "a")
      let id := ScriptedDriver.transactionId 1
      ClientM.EndsFinished scope (ClientM.keeping "a") {} s 0
      ∧ ClientM.EndsFinished (Session.runInTransaction ScriptedDriver body)
          (Program.lending body) {} s 0
      ∧ (Session.runInTransaction ScriptedDriver body).on {} s = scope.on {} s
      ∧ (scope.on {} s).1.1 = .error (.driver "deadlock")
      ∧ (scope.on {} s).1.2.held = [("a".toList, id)]
      ∧ ((dropHandle id).on (scope.on {} s).2).2.EndedByCall id := by
  have ordered : Client.Ordered ({} : Client).held := List.Pairwise.nil
  obtain ⟨blocks, bodies, lent, same, -⟩ :=
    scopes_end_finished (γ := Empty) (α := Nat) ScriptedDriver.failing {}
      { driver := .failing } 0 ordered .refl
  have borrows := ClientM.keeping_borrows (δ := ScriptedDriver) "a"
  have ends := blocks _ borrows
  have distinct : ScriptedDriver.kept.2.Distinct := by
    unfold Session.Distinct
    decide +kernel
  have names
      : ScriptedDriver.kept.1.2.held = [("a".toList, ScriptedDriver.transactionId 1)] := by
    decide +kernel
  have held : ScriptedDriver.transactionId 1 ∈ ScriptedDriver.kept.1.2.handles + 0 := by
    simp [Client.handles, names]
  have later
      : ((dropHandle (ScriptedDriver.transactionId 1)).on ScriptedDriver.kept.2).2.Distinct := by
    unfold Session.Distinct
    decide +kernel
  exact ⟨
    ends,
    bodies _ fun id => ClientM.returning_trades (borrows id),
    same _ borrows (fun id => (ClientM.Blind.keep "a" id).map _) distinct,
    rfl,
    names,
    ends.endedByCall _ _ _ rfl (.single (.drop held)) later
  ⟩

end SqlAssembly
