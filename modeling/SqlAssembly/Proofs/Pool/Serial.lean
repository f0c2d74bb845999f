import SqlAssembly.Proofs.Pool.Interleaving
import SqlAssembly.Sqlite.Database

/-! Calls about one transaction stay serial, however their steps interleave. Each call knows
something of what it shares with the others, which none of their steps can take from it; what a call
needs to know follows from the mutex and from the id leaving the registry once.
-/

namespace SqlAssembly.Pool

variable {ι β : Type} {supply : Nat → TransactionId}

-----------------------------------------------------------------------------------------
-- What a call knows
-----------------------------------------------------------------------------------------

/-- What a call knows of the registry and of the slot, by how far it has come. -/
def Phase.Knows (demand : Demand) (registered : Bool) (content : Option ConnectionId)
    : Phase → Prop
  | starting | refused => True
  | waiting | holding =>
      demand ≠ .release ∧ (demand.finishes = true → registered = false ∧ content ≠ none)
  | running connection => demand.executes = true ∧ content = some connection
  | leaving _ => demand.executes = true
  | detached found =>
      demand.finishes = true ∧ registered = false ∧ content = none ∧ found ≠ none
  | ending _ => demand.finishes = true ∧ registered = false ∧ content = none
  | answered _ => demand.finishes = true → registered = false ∧ content = none

/-- The call took the id out of the registry to finish the transaction. -/
def Phase.claims (demand : Demand) : Phase → Bool
  | waiting | holding | detached _ | ending _ | answered _ => demand.finishes
  | _ => false

/-- Each call knows what its phase says, one call at most has the mutex and one at most took the id
out, and what is registered is in the slot.
-/
structure Orderly (calls : ι → Demand) (s : Shared ι β) : Prop where
  knows : ∀ i, (s.phases i).Knows (calls i) s.registered s.content
  mutex : ∀ i, s.holder = some i ↔ (s.phases i).locks = true
  once
    : ∀ i j,
        (s.phases i).claims (calls i) = true → (s.phases j).claims (calls j) = true → i = j
  kept : s.registered = true → s.content ≠ none

theorem Demand.finishes_eq_false {demand : Demand} (executes : demand.executes = true)
    : demand.finishes = false := by
  cases demand with
  | execute => rfl
  | finish | release => exact Bool.noConfusion executes

namespace Phase.Knows

variable {demand : Demand} {registered : Bool} {content : Option ConnectionId} {phase : Phase}

/-- Nothing that a call knows is lost when the id leaves the registry. -/
theorem removed (knows : phase.Knows demand registered content)
    : phase.Knows demand false content := by
  cases phase with
  | starting | refused => trivial
  | waiting | holding => exact ⟨knows.1, fun finishes => ⟨rfl, (knows.2 finishes).2⟩⟩
  | running | leaving => exact knows
  | detached => exact ⟨knows.1, rfl, knows.2.2⟩
  | ending => exact ⟨knows.1, rfl, knows.2.2⟩
  | answered => exact fun finishes => ⟨rfl, (knows finishes).2⟩

/-- Nothing that a call knows is lost when the slot is emptied, unless the call runs a statement or
is about to take what the slot contains.
-/
theorem emptied (knows : phase.Knows demand registered content)
    (idle : ∀ connection, phase ≠ .running connection)
    (unclaimed : phase.refers = true → phase.claims demand = false)
    : phase.Knows demand registered none := by
  cases phase with
  | starting | refused => trivial
  | waiting | holding =>
      have executes : demand.finishes = false := unclaimed rfl
      exact ⟨knows.1, fun finishes => Bool.noConfusion (executes.symm.trans finishes)⟩
  | running connection => exact absurd rfl (idle connection)
  | leaving => exact knows
  | detached => exact ⟨knows.1, knows.2.1, rfl, knows.2.2.2⟩
  | ending => exact ⟨knows.1, knows.2.1, rfl⟩
  | answered => exact fun finishes => ⟨(knows finishes).1, rfl⟩

/-- A call that took the id out knows that it is out. -/
theorem unregistered (knows : phase.Knows demand registered content)
    (claims : phase.claims demand = true)
    : registered = false := by
  cases phase with
  | starting | refused | running | leaving => exact Bool.noConfusion claims
  | waiting | holding => exact (knows.2 claims).1
  | detached | ending => exact knows.2.1
  | answered => exact (knows claims).1

end Phase.Knows

-----------------------------------------------------------------------------------------
-- Steps
-----------------------------------------------------------------------------------------

namespace Orderly

variable [DecidableEq ι] {calls : ι → Demand} {s t : Shared ι β}

omit [DecidableEq ι] in
theorem initial (p : Pool β supply) (id : TransactionId)
    : Orderly calls (p.sharing id : Shared ι β) where
  knows _ := trivial
  mutex _ := by simp [sharing, Phase.locks]
  once _ _ claims := Bool.noConfusion claims
  kept known := by
    intro empty
    have absent := lookup_eq_none_iff.mp empty
    simp [sharing, absent] at known

omit [DecidableEq ι] in
/-- A registered id was taken out by no call. -/
theorem unclaimed (orderly : Orderly calls s) (registered : s.registered = true) (i : ι)
    : (s.phases i).claims (calls i) = false := by
  rw [← Bool.not_eq_true]
  intro claims
  exact Bool.noConfusion (registered.symm.trans ((orderly.knows i).unregistered claims))

/-- A step of a call keeps the order when the call knows what its next phase says, the others still
know what theirs say, and the mutex and the id are those of the calls whose phases say so.
-/
theorem gone (orderly : Orderly calls s) {i : ι} {phase : Phase} {t : Shared ι β}
    (same : t.phases = s.phases)
    (own : phase.Knows (calls i) t.registered t.content)
    (others : ∀ j ≠ i, (s.phases j).Knows (calls j) t.registered t.content)
    (lock : t.holder = some i ↔ phase.locks = true)
    (otherLocks : ∀ j ≠ i, t.holder = some j ↔ s.holder = some j)
    (claim
      : phase.claims (calls i) = true
        → (s.phases i).claims (calls i) = true ∨ s.registered = true)
    (kept : t.registered = true → t.content ≠ none)
    : Orderly calls (t.go i phase) := by
  have other {j : ι} (different : j ≠ i) : (t.go i phase).phases j = s.phases j := by
    rw [Shared.go_phases_of_ne t different, same]
  -- No other call took the id out if this one did.
  have sole {j : ι} (different : j ≠ i) (claims : phase.claims (calls i) = true)
      : (s.phases j).claims (calls j) = false := by
    rcases claim claims with before | registered
    · rw [← Bool.not_eq_true]
      exact fun also => different (orderly.once j i also before)
    · exact orderly.unclaimed registered j
  constructor
  · intro j
    by_cases mine : j = i
    · rw [mine, Shared.go_phases_self]
      exact own
    · rw [other mine]
      exact others j mine
  · intro j
    by_cases mine : j = i
    · rw [mine, Shared.go_phases_self]
      exact lock
    · rw [other mine]
      exact (otherLocks j mine).trans (orderly.mutex j)
  · intro j k first second
    by_cases mine : j = i
    · by_cases also : k = i
      · rw [mine, also]
      · rw [mine, Shared.go_phases_self] at first
        rw [other also, sole also first] at second
        exact Bool.noConfusion second
    · rw [other mine] at first
      by_cases also : k = i
      · rw [also, Shared.go_phases_self] at second
        rw [sole mine second] at first
        exact Bool.noConfusion first
      · rw [other also] at second
        exact orderly.once j k first second
  · exact kept

omit [DecidableEq ι] in
/-- The mutex is left as it is by a call that has it before and after, or at neither time. -/
theorem keeping (orderly : Orderly calls s) {i : ι} {phase : Phase}
    (same : (s.phases i).locks = phase.locks)
    : s.holder = some i ↔ phase.locks = true := by
  rw [orderly.mutex i, same]

/-- A step that leaves the mutex, the registry and the slot as they are keeps the order when the
call goes on to what it knows already.
-/
theorem advanced (orderly : Orderly calls s) {i : ι} {phase : Phase} (b : β)
    (locks : (s.phases i).locks = phase.locks)
    (own : phase.Knows (calls i) s.registered s.content)
    (claim : phase.claims (calls i) = true → (s.phases i).claims (calls i) = true)
    : Orderly calls ({ s with backend := b }.go i phase) :=
  orderly.gone rfl own (fun j _ => orderly.knows j) (orderly.keeping locks) (fun _ _ => Iff.rfl)
    (fun claims => .inl (claim claims)) orderly.kept

omit [DecidableEq ι] in
/-- When a call gives the mutex back, nothing changes for the others. -/
theorem unlocking (orderly : Orderly calls s) {i : ι} (locks : (s.phases i).locks = true) {j : ι}
    (other : j ≠ i)
    : (none : Option ι) = some j ↔ s.holder = some j := by
  rw [(orderly.mutex i).mpr locks]
  constructor
  · intro impossible
    exact nomatch impossible
  · intro same
    exact absurd (Option.some.inj same).symm other

omit [DecidableEq ι] in
/-- What the others know still holds when a call that has the mutex takes what the slot contains. -/
theorem emptied_by (orderly : Orderly calls s) {i : ι} {way : Finish}
    (call : calls i = .finish way) (holds : s.phases i = .holding) {j : ι} (other : j ≠ i)
    : (s.phases j).Knows (calls j) s.registered none := by
  refine (orderly.knows j).emptied (fun connection runs => other ?_) fun _ => ?_
  · have mine : s.holder = some i := (orderly.mutex i).mpr (by rw [holds]; rfl)
    have theirs : s.holder = some j := (orderly.mutex j).mpr (by rw [runs]; rfl)
    exact Option.some.inj (theirs.symm.trans mine)
  · rw [← Bool.not_eq_true]
    intro claims
    exact other (orderly.once j i claims (by rw [holds, call]; rfl))

/-- Every step keeps the order, by cases on the step. -/
theorem step [Backend β] (orderly : Orderly calls s) (step : Step calls s t)
    : Orderly calls t := by
  have known (i : ι) {phase : Phase} (there : s.phases i = phase)
      : phase.Knows (calls i) s.registered s.content := there ▸ orderly.knows i
  cases step with
  | @missed i call start absent =>
      refine orderly.advanced s.backend ?_ trivial fun claims => Bool.noConfusion claims
      rw [start]
      rfl
  | @found i type sql call start registered =>
      have statement : (calls i).finishes = false := by rw [call]; rfl
      refine orderly.advanced s.backend ?_ ⟨?_, fun finishes => ?_⟩ fun claims => ?_
      · rw [start]
        rfl
      · rw [call]
        exact Demand.noConfusion
      · exact Bool.noConfusion (statement.symm.trans finishes)
      · exact Bool.noConfusion (statement.symm.trans claims)
  | @removed i way call start registered =>
      refine orderly.gone rfl ⟨?_, fun _ => ⟨rfl, orderly.kept registered⟩⟩
        (fun j _ => (orderly.knows j).removed) (orderly.keeping ?_) (fun _ _ => Iff.rfl)
        (fun _ => .inr registered) (fun known => Bool.noConfusion known)
      · rw [call]
        exact Demand.noConfusion
      · rw [start]
        rfl
  | @released i call start =>
      have release : (calls i).finishes = false := by rw [call]; rfl
      refine orderly.gone rfl (fun finishes => ?_) (fun j _ => (orderly.knows j).removed)
        (orderly.keeping ?_) (fun _ _ => Iff.rfl) (fun claims => ?_)
        (fun known => Bool.noConfusion known)
      · exact Bool.noConfusion (release.symm.trans finishes)
      · rw [start]
        rfl
      · exact Bool.noConfusion (release.symm.trans claims)
  | @locked i waits free =>
      have waiting := known i waits
      refine orderly.gone rfl waiting (fun j _ => orderly.knows j) ?_
        (fun j other => ?_) (fun claims => .inl ?_) orderly.kept
      · exact ⟨fun _ => rfl, fun _ => rfl⟩
      · rw [free]
        constructor
        · intro same
          exact absurd (Option.some.inj same).symm other
        · intro impossible
          exact nomatch impossible
      · rw [waits]
        exact claims
  | @started i type sql connection call holds full =>
      refine orderly.advanced s.backend ?_ ⟨?_, full⟩ fun claims => Bool.noConfusion claims
      · rw [holds]
        rfl
      · rw [call]
        rfl
  | @lapsed i type sql call holds empty =>
      refine orderly.advanced s.backend ?_ ?_ fun claims => Bool.noConfusion claims
      · rw [holds]
        rfl
      · rw [call]
        rfl
  | @ran i type sql connection answer b call runs answered =>
      refine orderly.advanced b ?_ ?_ fun claims => Bool.noConfusion claims
      · rw [runs]
        rfl
      · rw [call]
        rfl
  | @left i answer leaves =>
      have statement : (calls i).finishes = false := Demand.finishes_eq_false (known i leaves)
      have locks : (s.phases i).locks = true := by rw [leaves]; rfl
      refine orderly.gone rfl ?_ (fun j _ => orderly.knows j) ?_
        (fun j other => orderly.unlocking locks other) (fun claims => ?_) orderly.kept
      · cases answer with
        | none => trivial
        | some answer => exact fun finishes => Bool.noConfusion (statement.symm.trans finishes)
      · cases answer <;> simp [Phase.left, Phase.locks]
      · cases answer with
        | none => exact Bool.noConfusion claims
        | some answer => exact Bool.noConfusion (statement.symm.trans claims)
  | @took i way call holds =>
      have finishes : (calls i).finishes = true := by rw [call]; rfl
      obtain ⟨gone, full⟩ := (known i holds).2 finishes
      refine orderly.gone rfl ⟨finishes, gone, rfl, full⟩
        (fun j other => orderly.emptied_by call holds other) (orderly.keeping ?_)
        (fun _ _ => Iff.rfl) (fun _ => .inl ?_)
        (fun registered => Bool.noConfusion (gone.symm.trans registered))
      · rw [holds]
        rfl
      · rw [holds]
        exact finishes
  | @handed i found detached =>
      obtain ⟨finishes, gone, empty, obtained⟩ := known i detached
      have locks : (s.phases i).locks = true := by rw [detached]; rfl
      obtain ⟨connection, rfl⟩ := Option.ne_none_iff_exists'.mp obtained
      refine orderly.gone rfl ⟨finishes, gone, empty⟩ (fun j _ => orderly.knows j) ?_
        (fun j other => orderly.unlocking locks other) (fun _ => .inl ?_) orderly.kept
      · simp [Phase.handed, Phase.locks]
      · rw [detached]
        exact finishes
  | @ended i way connection answer b call ends answered =>
      obtain ⟨finishes, gone, empty⟩ := known i ends
      refine orderly.advanced _ ?_ (fun _ => ⟨gone, empty⟩) fun _ => ?_
      · rw [ends]
        rfl
      · rw [ends]
        exact finishes
  | @discarded connection absent full unreferred =>
      refine ⟨fun i => ?_, orderly.mutex, orderly.once,
        fun registered => Bool.noConfusion (absent.symm.trans registered)⟩
      refine (orderly.knows i).emptied (fun c runs => ?_) fun refers => ?_
      · have idle := unreferred i
        rw [runs] at idle
        exact Bool.noConfusion idle
      · exact Bool.noConfusion ((unreferred i).symm.trans refers)
  | disturbed b => exact ⟨orderly.knows, orderly.mutex, orderly.once, orderly.kept⟩

/-- The order is kept over any interleaving, by induction on the steps. -/
theorem steps [Backend β] (orderly : Orderly calls s) (steps : Steps calls s t)
    : Orderly calls t := by
  induction steps with
  | refl => exact orderly
  | tail _ last ih => exact ih.step last

omit [DecidableEq ι] in
/-- A call that obtained the transaction left the slot empty. -/
theorem empty_of_obtained (orderly : Orderly calls s) {i : ι}
    (finishes : (calls i).finishes = true) (obtained : (s.phases i).obtained = true)
    : s.content = none := by
  have knows := orderly.knows i
  cases phase : s.phases i with
  | starting | waiting | holding | running | leaving | refused =>
      rw [phase] at obtained
      exact Bool.noConfusion obtained
  | detached =>
      rw [phase] at knows
      exact knows.2.2.1
  | ending =>
      rw [phase] at knows
      exact knows.2.2
  | answered =>
      rw [phase] at knows
      exact (knows finishes).2

omit [DecidableEq ι] in
theorem claims_of_obtained {i : ι} (finishes : (calls i).finishes = true)
    (obtained : (s.phases i).obtained = true)
    : (s.phases i).claims (calls i) = true := by
  cases phase : s.phases i with
  | starting | waiting | holding | running | leaving | refused =>
      rw [phase] at obtained
      exact Bool.noConfusion obtained
  | detached | ending | answered => exact finishes

end Orderly

-----------------------------------------------------------------------------------------
-- After the transaction was moved out
-----------------------------------------------------------------------------------------

/-- The call is on its way to being refused, or is refused. -/
def Phase.barred (demand : Demand) : Phase → Prop
  | starting | refused => demand ≠ .release
  | waiting | holding | leaving none => demand.executes = true
  | _ => False

theorem Phase.barred.reply {demand : Demand} {phase : Phase} (barred : phase.barred demand)
    {id : TransactionId} {reply : Reply} (returned : phase.reply? id = some reply)
    : reply = .error (.transaction (.unknown id)) := by
  cases phase with
  | refused => exact (Option.some.inj returned).symm
  | answered => exact barred.elim
  | starting | waiting | holding | running | leaving | detached | ending => exact nomatch returned

section MovedOut

variable [Backend β] [DecidableEq ι] {calls : ι → Demand} {s t : Shared ι β}

/-- What was moved out of the slot is never put back, by cases on the step. -/
theorem Step.stays_empty (step : Step calls s t) (empty : s.content = none) : t.content = none := by
  cases step with
  | took | discarded => rfl
  | missed | found | removed | released | locked | started | lapsed | ran | left | handed | ended
      | disturbed => exact empty

/-- A call that is on its way to being refused stays on it, by cases on the step. -/
theorem Step.stays_barred (step : Step calls s t) (orderly : Orderly calls s)
    (empty : s.content = none) {i : ι} (barred : (s.phases i).barred (calls i))
    : (t.phases i).barred (calls i) := by
  have absent : s.registered ≠ true := fun registered => orderly.kept registered empty
  -- Only the phase of the call that moves is a new one.
  have moving {u : Shared ι β} {j : ι} {phase : Phase} (same : u.phases = s.phases)
      (own : (s.phases j).barred (calls j) → phase.barred (calls j))
      : ((u.go j phase).phases i).barred (calls i) := by
    by_cases mine : i = j
    · rw [mine] at barred ⊢
      rw [Shared.go_phases_self]
      exact own barred
    · rwa [Shared.go_phases_of_ne u mine, same]
  cases step with
  | missed call start unregistered => exact moving rfl fun _ => call
  | found call start registered => exact absurd registered absent
  | removed call start registered => exact absurd registered absent
  | @released j call start =>
      refine moving rfl fun barred => ?_
      rw [start] at barred
      exact absurd call barred
  | @locked j waits free =>
      refine moving rfl fun barred => ?_
      rw [waits] at barred
      exact barred
  | started call holds full => exact nomatch full.symm.trans empty
  | @lapsed j type sql call holds lapsed =>
      refine moving rfl fun barred => ?_
      rw [call]
      exact rfl
  | @ran j type sql connection answer b call runs answered =>
      refine moving rfl fun barred => ?_
      rw [runs] at barred
      exact barred.elim
  | @left j answer leaves =>
      refine moving rfl fun barred => ?_
      rw [leaves] at barred
      cases answer with
      | none =>
          intro release
          rw [release] at barred
          exact Bool.noConfusion barred
      | some answer => exact barred.elim
  | @took j way call holds =>
      refine moving rfl fun barred => ?_
      rw [holds, call] at barred
      exact Bool.noConfusion barred
  | @handed j found detached =>
      refine moving rfl fun barred => ?_
      rw [detached] at barred
      exact barred.elim
  | @ended j way connection answer b call ends answered =>
      refine moving rfl fun barred => ?_
      rw [ends] at barred
      exact barred.elim
  | discarded | disturbed => exact barred

/-- Both stay over any interleaving, by induction on the steps. -/
theorem Steps.stays_barred (steps : Steps calls s t) (orderly : Orderly calls s)
    (empty : s.content = none)
    : t.content = none
      ∧ ∀ i, (s.phases i).barred (calls i) → (t.phases i).barred (calls i) := by
  induction steps with
  | refl => exact ⟨empty, fun _ barred => barred⟩
  | tail earlier last ih =>
      refine ⟨last.stays_empty ih.1, fun i barred => ?_⟩
      exact last.stays_barred (orderly.steps earlier) ih.1 (ih.2 i barred)

end MovedOut

-----------------------------------------------------------------------------------------
-- Every call can return
-----------------------------------------------------------------------------------------

section Returning

variable [Backend β] [DecidableEq ι] {calls : ι → Demand} {s : Shared ι β} {i : ι}
  (id : TransactionId)

/-- Steps from where the call stands. -/
theorem Steps.standing {t : Shared ι β} {phase : Phase} (there : s.phases i = phase)
    (steps : Steps calls (s.go i phase) t)
    : Steps calls s t := by
  have same : s.go i phase = s := by rw [Shared.go, ← there, Function.update_eq_self]
  rwa [same] at steps

/-- The calls may go on until this one has returned. -/
def MayReturn (calls : ι → Demand) (s : Shared ι β) (i : ι) : Prop :=
  ∃ t, Steps calls s t ∧ ((t.phases i).reply? id).isSome = true

variable {id}

theorem MayReturn.after {t : Shared ι β} (steps : Steps calls s t)
    (rest : MayReturn id calls t i)
    : MayReturn id calls s i := by
  obtain ⟨u, more, returned⟩ := rest
  exact ⟨u, steps.trans more, returned⟩

theorem MayReturn.of_returned (returned : ((s.phases i).reply? id).isSome = true)
    : MayReturn id calls s i :=
  ⟨s, .refl, returned⟩

/-- A call that obtained the transaction and has it to itself ends it and returns. -/
theorem MayReturn.of_ending (orderly : Orderly calls s) {connection : ConnectionId}
    (ends : s.phases i = .ending connection)
    : MayReturn id calls s i := by
  have knows := orderly.knows i
  rw [ends] at knows
  cases call : calls i with
  | execute | release =>
      rw [call] at knows
      exact Bool.noConfusion knows.1
  | finish way =>
      exact .after ((Steps.conclude s call connection).standing ends)
        (.of_returned (by simp [Phase.reply?]))

variable (id) in
/-- The call that has the mutex can give it back without any other call moving, and then it has
returned or has the transaction to itself.
-/
theorem unlocks (orderly : Orderly calls s) (locks : (s.phases i).locks = true)
    : ∃ (t : Shared ι β) (phase : Phase),
        Steps calls s (t.go i phase)
        ∧ t.holder = none
        ∧ t.phases = s.phases
        ∧ ((phase.reply? id).isSome = true ∨ ∃ connection, phase = .ending connection) := by
  have handed {found : Option ConnectionId} (obtained : found ≠ none)
      : ∃ connection, Phase.handed found = .ending connection := by
    obtain ⟨connection, rfl⟩ := Option.ne_none_iff_exists'.mp obtained
    exact ⟨connection, rfl⟩
  have left (answer : Option (Except BackendError QueryOutput))
      : ((Phase.left answer).reply? id).isSome = true := by
    cases answer <;> rfl
  have knows := orderly.knows i
  cases phase : s.phases i with
  | starting | waiting | ending | refused | answered =>
      rw [phase] at locks
      exact Bool.noConfusion locks
  | holding =>
      rw [phase] at knows
      cases call : calls i with
      | release => exact absurd call knows.1
      | finish way =>
          have full := (knows.2 (by rw [call]; rfl)).2
          exact ⟨_, _, (Steps.take s call).standing phase, rfl, rfl, .inr (handed full)⟩
      | execute type sql =>
          cases content : s.content with
          | none => exact ⟨_, _, (Steps.lapse s call content).standing phase, rfl, rfl, .inl rfl⟩
          | some connection =>
              exact ⟨_, _, (Steps.execute s call content).standing phase, rfl, rfl, .inl (left _)⟩
  | running connection =>
      rw [phase] at knows
      cases call : calls i with
      | execute type sql =>
          exact ⟨_, _, (Steps.run s call connection).standing phase, rfl, rfl, .inl (left _)⟩
      | finish | release =>
          rw [call] at knows
          exact Bool.noConfusion knows.1
  | leaving answer =>
      exact ⟨_, _, (Steps.leave s i answer).standing phase, rfl, rfl, .inl (left answer)⟩
  | detached found =>
      rw [phase] at knows
      exact ⟨_, _, (Steps.hand s i found).standing phase, rfl, rfl, .inr (handed knows.2.2.2)⟩

/-- A call that has the mutex can return. -/
theorem MayReturn.of_locks (orderly : Orderly calls s) (locks : (s.phases i).locks = true)
    : MayReturn id calls s i := by
  obtain ⟨t, phase, steps, -, -, returned | ⟨connection, rfl⟩⟩ := unlocks id orderly locks
  · exact .after steps (.of_returned (by rwa [Shared.go_phases_self]))
  · exact .after steps (.of_ending (orderly.steps steps) (Shared.go_phases_self ..))

/-- A call that waits can return, once the call that has the mutex gave it back. -/
theorem MayReturn.of_waiting (orderly : Orderly calls s) (waits : s.phases i = .waiting)
    : MayReturn id calls s i := by
  have free {t : Shared ι β} (orderly : Orderly calls t) (waits : t.phases i = .waiting)
      (unlocked : t.holder = none)
      : MayReturn id calls t i := by
    have waited : Steps calls _ _ := Steps.wait t i unlocked
    have steps := waited.standing waits
    exact .after steps (.of_locks (orderly.steps steps) (by rw [Shared.go_phases_self]; rfl))
  cases holder : s.holder with
  | none => exact free orderly waits holder
  | some k =>
      have locks := (orderly.mutex k).mp holder
      have other : i ≠ k := by
        rintro rfl
        rw [waits] at locks
        exact Bool.noConfusion locks
      obtain ⟨t, phase, steps, unlocked, same, -⟩ := unlocks id orderly locks
      refine .after steps (free (orderly.steps steps) ?_ unlocked)
      rw [Shared.go_phases_of_ne t other, same, waits]

/-- Every call can return, from wherever it stands. -/
theorem Orderly.mayReturn (orderly : Orderly calls s) (i : ι) : MayReturn id calls s i := by
  -- A call that finds its id goes on to wait, and one that does not is refused.
  have looking {t : Shared ι β} (call : calls i ≠ .release) (start : s.phases i = .starting)
      (found : s.registered = true → Step calls s (t.go i .waiting))
      : MayReturn id calls s i := by
    cases registered : s.registered with
    | false =>
        have missed := Step.missed call start registered
        exact .after (.single missed) (.of_returned (by simp [Phase.reply?]))
    | true =>
        have steps : Steps calls s (t.go i .waiting) := .single (found registered)
        exact .after steps (.of_waiting (orderly.steps steps) (Shared.go_phases_self ..))
  cases phase : s.phases i with
  | refused | answered => exact .of_returned (by rw [phase]; rfl)
  | waiting => exact .of_waiting orderly phase
  | ending => exact .of_ending orderly phase
  | holding | running | leaving | detached => exact .of_locks orderly (by rw [phase]; rfl)
  | starting =>
      cases call : calls i with
      | release =>
          have released := Step.released call phase
          exact .after (.single released) (.of_returned (by simp [Phase.reply?]))
      | execute type sql =>
          exact looking (by rw [call]; exact Demand.noConfusion) phase fun registered =>
            .found call phase registered
      | finish way =>
          exact looking (by rw [call]; exact Demand.noConfusion) phase fun registered =>
            .removed call phase registered

end Returning

-----------------------------------------------------------------------------------------
-- Serial calls
-----------------------------------------------------------------------------------------

variable [Backend β] [DecidableEq ι] {calls : ι → Demand} {s : Shared ι β} {id : TransactionId}

/-- How calls about one transaction get along. One at most of those that finish it obtains it, and
every other one is told that it is unknown; one statement at most runs on it, none while it is
moved out or afterwards, and what comes too late is told so. No call is kept from returning.
-/
structure Serial (calls : ι → Demand) (id : TransactionId) (s : Shared ι β) : Prop where
  obtainedOnce
    : ∀ i j,
        (calls i).finishes = true
        → (calls j).finishes = true
        → (s.phases i).obtained = true
        → (s.phases j).obtained = true
        → i = j
  finished
    : ∀ i reply,
        (calls i).finishes = true
        → (s.phases i).reply? id = some reply
        → (s.phases i).obtained = true ∨ reply = .error (.transaction (.unknown id))
  othersRefused
    : ∀ i j,
        i ≠ j
        → (calls i).finishes = true
        → (calls j).finishes = true
        → (s.phases i).obtained = true
        → ∀ t reply,
            Steps calls s t
            → (t.phases j).reply? id = some reply
            → reply = .error (.transaction (.unknown id))
  runningOnce
    : ∀ i j connection other,
        s.phases i = .running connection → s.phases j = .running other → i = j
  movedOutIdle
    : ∀ t,
        Step calls s t
        → s.content ≠ none
        → t.content = none
        → ∀ i connection, s.phases i ≠ .running connection
  noneStarts
    : s.content = none → ∀ t, Steps calls s t → ∀ i connection, t.phases i ≠ .running connection
  lateRefused
    : s.content = none
      → ∀ i,
          (calls i).executes = true
          → s.phases i = .starting ∨ s.phases i = .waiting ∨ s.phases i = .holding
          → ∀ t reply,
              Steps calls s t
              → (t.phases i).reply? id = some reply
              → reply = .error (.transaction (.unknown id))
  mayReturn : ∀ i, MayReturn id calls s i

omit [Backend β] [DecidableEq ι] in
/-- A statement runs only on what is in the slot. -/
theorem Orderly.content_of_running (orderly : Orderly calls s) {i : ι} {connection : ConnectionId}
    (runs : s.phases i = .running connection)
    : s.content = some connection := by
  have knows := orderly.knows i
  rw [runs] at knows
  exact knows.2

omit [Backend β] [DecidableEq ι] in
/-- Two calls that both have the mutex are one. -/
theorem Orderly.eq_of_locks (orderly : Orderly calls s) {i j : ι}
    (first : (s.phases i).locks = true) (second : (s.phases j).locks = true)
    : i = j :=
  Option.some.inj (((orderly.mutex i).mpr first).symm.trans ((orderly.mutex j).mpr second))

/-- The slot is emptied only while no statement runs, by cases on the step. -/
theorem Step.idle_of_emptied {t : Shared ι β} (step : Step calls s t) (orderly : Orderly calls s)
    (full : s.content ≠ none) (empty : t.content = none) (i : ι) (connection : ConnectionId)
    : s.phases i ≠ .running connection := by
  intro runs
  cases step with
  | took call holds =>
      have locks : (s.phases i).locks = true := by rw [runs]; rfl
      have same := orderly.eq_of_locks (by rw [holds]; rfl) locks
      rw [← same, holds] at runs
      exact Phase.noConfusion runs
  | discarded absent content unreferred =>
      have refers := unreferred i
      rw [runs] at refers
      exact Bool.noConfusion refers
  | missed | found | removed | released | locked | started | lapsed | ran | left | handed | ended
      | disturbed => exact full empty

omit [Backend β] [DecidableEq ι] in
/-- Once a call took the id out, every other one that would finish the transaction is refused. -/
theorem Orderly.barred_of_claims (orderly : Orderly calls s) {i j : ι}
    (claims : (s.phases i).claims (calls i) = true) (different : i ≠ j)
    (finishes : (calls j).finishes = true)
    : (s.phases j).barred (calls j) := by
  have knows := orderly.knows j
  have unclaimed : (s.phases j).claims (calls j) ≠ true := fun also =>
    different (orderly.once i j claims also)
  have bound : calls j ≠ .release := by
    intro release
    rw [release] at finishes
    exact Bool.noConfusion finishes
  cases phase : s.phases j with
  | starting | refused => exact bound
  | waiting | holding | detached | ending | answered =>
      rw [phase] at unclaimed
      exact absurd finishes unclaimed
  | running =>
      rw [phase] at knows
      exact Bool.noConfusion ((Demand.finishes_eq_false knows.1).symm.trans finishes)
  | leaving =>
      rw [phase] at knows
      exact Bool.noConfusion ((Demand.finishes_eq_false knows).symm.trans finishes)

/-- Orderly calls are serial. -/
theorem Orderly.serial (orderly : Orderly calls s) : Serial calls id s where
  obtainedOnce i j finishes also obtained other :=
    orderly.once i j (Orderly.claims_of_obtained finishes obtained)
      (Orderly.claims_of_obtained also other)
  finished i reply finishes returned := by
    cases phase : s.phases i with
    | refused =>
        rw [phase] at returned
        exact .inr (Option.some.inj returned).symm
    | answered => exact .inl rfl
    | starting | waiting | holding | running | leaving | detached | ending =>
        rw [phase] at returned
        exact nomatch returned
  othersRefused i j different finishes also obtained t reply steps returned := by
    have empty := orderly.empty_of_obtained finishes obtained
    have claims := Orderly.claims_of_obtained finishes obtained
    have barred := orderly.barred_of_claims claims different also
    exact ((Steps.stays_barred steps orderly empty).2 j barred).reply returned
  runningOnce i j connection other first second :=
    orderly.eq_of_locks (by rw [first]; rfl) (by rw [second]; rfl)
  movedOutIdle t step full empty := step.idle_of_emptied orderly full empty
  noneStarts empty t steps i connection runs := by
    have full := (orderly.steps steps).content_of_running runs
    have still := (Steps.stays_barred steps orderly empty).1
    exact nomatch full.symm.trans still
  lateRefused empty i executes phase t reply steps returned := by
    have barred : (s.phases i).barred (calls i) := by
      rcases phase with starts | waits | holds
      · rw [starts]
        intro release
        rw [release] at executes
        exact Bool.noConfusion executes
      · rw [waits]
        exact executes
      · rw [holds]
        exact executes
    exact ((Steps.stays_barred steps orderly empty).2 i barred).reply returned
  mayReturn := orderly.mayReturn

/-- A call alone does what the pool does, and any number of calls about one transaction stay serial
however their steps interleave.
-/
theorem calls_stay_serial (calls : ι → Demand) (p : Pool β supply) (id : TransactionId)
    : (∀ i, Served calls i id p)
      ∧ ∀ s, Steps calls (p.sharing id) s → Serial calls id s :=
  ⟨fun i => served calls i id p, fun _ steps => ((Orderly.initial p id).steps steps).serial⟩

/-- A statement looks its slot up, a commit takes the id out and overtakes it, and a rollback comes
too late.
-/
def overtakenCalls : Fin 3 → Demand
  | 0 => .execute .select "select 1"
  | 1 => .finish .commit
  | 2 => .finish .rollback

/-- The statement and the rollback are told that the transaction is unknown, the commit has it. -/
theorem overtaken_calls_stay_serial
    : let p : Pool Sqlite.Database := { backend := {}, registry := [("a", 0)] }
      ∃ s,
        Steps overtakenCalls (p.sharing "a") s
        ∧ Serial overtakenCalls "a" s
        ∧ s.phases 0 = .refused
        ∧ s.phases 1 = .ending 0
        ∧ s.phases 2 = .refused := by
  intro p
  let looked : Shared (Fin 3) Sqlite.Database := (p.sharing "a").go 0 .waiting
  let removed := { looked with registered := false }.go 1 .waiting
  let late := removed.go 2 .refused
  let moved := { late with content := none }.go 1 (.ending 0)
  have lookup : Step overtakenCalls (p.sharing "a") looked := .found (i := 0) rfl rfl rfl
  have removal : Step overtakenCalls looked removed := .removed (i := 1) rfl rfl rfl
  have refusal : Step overtakenCalls removed late := .missed (i := 2) Demand.noConfusion rfl rfl
  have commit : Steps overtakenCalls late moved :=
    ((Steps.wait late 1 rfl).standing rfl).trans (Steps.take { late with holder := some 1 } rfl)
  have lapse : Steps overtakenCalls moved (moved.go 0 .refused) :=
    ((Steps.wait moved 0 rfl).standing rfl).trans
      (Steps.lapse { moved with holder := some 0 } rfl rfl)
  have steps := Relation.ReflTransGen.head lookup
    (.head removal (.head refusal (commit.trans lapse)))
  exact ⟨_, steps, (calls_stay_serial overtakenCalls p "a").2 _ steps, rfl, rfl, rfl⟩

end SqlAssembly.Pool
