import Mathlib.Logic.Function.Basic
import Mathlib.Logic.Relation
import SqlAssembly.Proofs.Pool.Registry

/-! Calls about one transaction at the same time. Each call is cut into the steps that nothing can
come between: those under the lock of the registry, and those around the mutex of the slot. A call
that runs alone does what the pool does in one go.
-/

namespace SqlAssembly.Pool

variable {ι β : Type} {supply : Nat → TransactionId}

-----------------------------------------------------------------------------------------
-- Calls
-----------------------------------------------------------------------------------------

inductive Finish where
  | commit
  | rollback

/-- What a call asks about the transaction. The placeholders of a statement are filled already. -/
inductive Demand where
  | execute (type : StatementType) (sql : Text)
  | finish (way : Finish)
  | release

/-- What a call returns: the output of a statement, or nothing. -/
abbrev Reply := Except SqlError (Option QueryOutput)

/-- How far a call has come. A call that waits refers to the slot of the transaction and wants its
mutex, which it has until it leaves; one that detached the transaction has it to itself.
-/
inductive Phase where
  | starting
  | waiting
  | holding
  | running (connection : ConnectionId)
  | leaving (answer : Option (Except BackendError QueryOutput))
  | detached (found : Option ConnectionId)
  | ending (connection : ConnectionId)
  | refused
  | answered (reply : Reply)

/-- What the calls about one transaction share: whether it is registered, which call has the mutex
of its slot, and the connection that the slot contains.
-/
structure Shared (ι β : Type) where
  backend : β
  registered : Bool
  holder : Option ι := none
  content : Option ConnectionId
  phases : ι → Phase := fun _ => .starting

namespace Demand

def executes : Demand → Bool
  | execute .. => true
  | _ => false

/-- The call commits the transaction or rolls it back. -/
def finishes : Demand → Bool
  | finish _ => true
  | _ => false

end Demand

namespace Phase

/-- The call has the mutex. -/
def locks : Phase → Bool
  | holding | running _ | leaving _ | detached _ => true
  | _ => false

/-- The call refers to the slot. -/
def refers : Phase → Bool
  | waiting => true
  | phase => phase.locks

/-- The call obtained the transaction, if it is one that finishes it. -/
def obtained : Phase → Bool
  | detached found => found.isSome
  | ending _ | answered _ => true
  | _ => false

/-- What a call about the transaction returned, if it did. -/
def reply? (id : TransactionId) : Phase → Option Reply
  | refused => some (.error (.transaction (.unknown id)))
  | answered reply => some reply
  | _ => none

/-- What follows when a statement unlocks the slot: it is refused if the slot was empty. -/
def left : Option (Except BackendError QueryOutput) → Phase
  | none => refused
  | some answer => answered ((report answer).map some)

/-- What follows when a finishing call unlocks the slot: it is refused if the slot was empty. -/
def handed : Option ConnectionId → Phase
  | none => refused
  | some connection => ending connection

end Phase

variable [Backend β]

def Finish.on : Finish → ConnectionId → β → Except BackendError Unit × β
  | commit => Backend.commit
  | rollback => Backend.rollback

-----------------------------------------------------------------------------------------
-- Steps
-----------------------------------------------------------------------------------------

variable [DecidableEq ι]

/-- The call goes on to a phase. -/
def Shared.go (s : Shared ι β) (i : ι) (phase : Phase) : Shared ι β :=
  { s with phases := Function.update s.phases i phase }

/-- One step of one of the calls, or something that happens beside them. An id is registered when
its transaction begins and never again. A transaction that nothing refers to is given back, and the
backend changes by what other calls do.
-/
inductive Step (calls : ι → Demand) : Shared ι β → Shared ι β → Prop
  | missed {s i} (call : calls i ≠ .release) (start : s.phases i = .starting)
    (absent : s.registered = false)
    : Step calls s (s.go i .refused)
  | found {s i type sql} (call : calls i = .execute type sql) (start : s.phases i = .starting)
    (known : s.registered = true)
    : Step calls s (s.go i .waiting)
  | removed {s i way} (call : calls i = .finish way) (start : s.phases i = .starting)
    (known : s.registered = true)
    : Step calls s ({ s with registered := false }.go i .waiting)
  | released {s i} (call : calls i = .release) (start : s.phases i = .starting)
    : Step calls s ({ s with registered := false }.go i (.answered (.ok none)))
  | locked {s i} (waits : s.phases i = .waiting) (free : s.holder = none)
    : Step calls s ({ s with holder := some i }.go i .holding)
  | started {s i type sql connection} (call : calls i = .execute type sql)
    (holds : s.phases i = .holding) (full : s.content = some connection)
    : Step calls s (s.go i (.running connection))
  | lapsed {s i type sql} (call : calls i = .execute type sql) (holds : s.phases i = .holding)
    (empty : s.content = none)
    : Step calls s (s.go i (.leaving none))
  | ran {s i type sql connection answer b} (call : calls i = .execute type sql)
    (runs : s.phases i = .running connection)
    (answered : Backend.execute connection type sql s.backend = (answer, b))
    : Step calls s ({ s with backend := b }.go i (.leaving (some answer)))
  | left {s i answer} (leaves : s.phases i = .leaving answer)
    : Step calls s ({ s with holder := none }.go i (.left answer))
  | took {s i way} (call : calls i = .finish way) (holds : s.phases i = .holding)
    : Step calls s ({ s with content := none }.go i (.detached s.content))
  | handed {s i found} (detached : s.phases i = .detached found)
    : Step calls s ({ s with holder := none }.go i (.handed found))
  | ended {s i way connection answer b} (call : calls i = .finish way)
    (ends : s.phases i = .ending connection)
    (answered : way.on connection s.backend = (answer, b))
    : Step calls s
        ({ s with backend := Backend.giveBack connection b }.go i
          (.answered ((report answer).map fun _ => none)))
  | discarded {s connection} (absent : s.registered = false)
    (full : s.content = some connection) (unreferred : ∀ i, (s.phases i).refers = false)
    : Step calls s
        { s with backend := Backend.giveBack connection s.backend, content := none }
  | disturbed {s} (b : β) : Step calls s { s with backend := b }

/-- Any interleaving of steps. -/
abbrev Steps (calls : ι → Demand) : Shared ι β → Shared ι β → Prop :=
  Relation.ReflTransGen (Step calls)

-----------------------------------------------------------------------------------------
-- A call alone
-----------------------------------------------------------------------------------------

/-- What calls about a transaction share before the first of them does anything. -/
def sharing (p : Pool β supply) (id : TransactionId) : Shared ι β where
  backend := p.backend
  registered := decide (id ∈ p.registered)
  content := p.registry.lookup id

/-- The pool's operation for a call. -/
def serve (id : TransactionId) (p : Pool β supply) : Demand → Reply × Pool β supply
  | .execute type sql =>
      let (answer, p) := executeBound type (some id) sql p
      (answer.map some, p)
  | .finish way =>
      let (answer, p) := finish way.on id p
      (answer.map fun _ => none, p)
  | .release => (.ok none, release id p)

section Going

omit [Backend β]

@[simp]
theorem Shared.go_phases_self (s : Shared ι β) (i : ι) (phase : Phase)
    : (s.go i phase).phases i = phase := by
  simp [go]

theorem Shared.go_phases_of_ne (s : Shared ι β) {i j : ι} (other : j ≠ i) (phase : Phase)
    : (s.go i phase).phases j = s.phases j := by
  simp [go, other]

end Going

namespace Steps

variable {calls : ι → Demand} {s : Shared ι β} {i : ι} {way : Finish}
  {connection : ConnectionId} {type : StatementType} {sql : Text}

/-- A call that waits for a free mutex gets it. -/
theorem wait (s : Shared ι β) (i : ι) (free : s.holder = none)
    : Steps calls (s.go i .waiting) ({ s with holder := some i }.go i .holding) := by
  have locked : Step calls _ _ := .locked (s.go_phases_self i .waiting) free
  exact .single (by simpa [Shared.go] using locked)

theorem leave (s : Shared ι β) (i : ι) (answer : Option (Except BackendError QueryOutput))
    : Steps calls (s.go i (.leaving answer)) ({ s with holder := none }.go i (.left answer)) := by
  have left : Step calls _ _ := .left (s.go_phases_self i (.leaving answer))
  exact .single (by simpa [Shared.go] using left)

/-- A statement that runs comes to an end and leaves. -/
theorem run (s : Shared ι β) (call : calls i = .execute type sql) (connection : ConnectionId)
    : Steps calls (s.go i (.running connection))
        ({ s with
            backend := (Backend.execute connection type sql s.backend).2
            holder := none }.go i
          (.left (some (Backend.execute connection type sql s.backend).1))) := by
  rcases answered : Backend.execute connection type sql s.backend with ⟨answer, b⟩
  have ran := Step.ran call (s.go_phases_self i (.running connection)) answered
  have left : Steps calls _ _ := leave { s with backend := b } i (some answer)
  exact .head (by simpa [Shared.go] using ran) left

/-- A statement that has the mutex of a full slot is executed and leaves. -/
theorem execute (s : Shared ι β) (call : calls i = .execute type sql)
    (full : s.content = some connection)
    : Steps calls (s.go i .holding)
        ({ s with
            backend := (Backend.execute connection type sql s.backend).2
            holder := none }.go i
          (.left (some (Backend.execute connection type sql s.backend).1))) := by
  have started := Step.started call (s.go_phases_self i .holding) full
  exact .head (by simpa [Shared.go] using started) (run s call connection)

/-- A statement that has the mutex of an empty slot leaves without being executed. -/
theorem lapse (s : Shared ι β) (call : calls i = .execute type sql) (empty : s.content = none)
    : Steps calls (s.go i .holding) ({ s with holder := none }.go i .refused) := by
  have lapsed := Step.lapsed call (s.go_phases_self i .holding) empty
  exact .head (by simpa [Shared.go] using lapsed) (leave s i none)

theorem hand (s : Shared ι β) (i : ι) (found : Option ConnectionId)
    : Steps calls (s.go i (.detached found)) ({ s with holder := none }.go i (.handed found)) := by
  have handed : Step calls _ _ := .handed (s.go_phases_self i (.detached found))
  exact .single (by simpa [Shared.go] using handed)

/-- A finishing call that has the mutex takes what the slot contains. -/
theorem take (s : Shared ι β) (call : calls i = .finish way)
    : Steps calls (s.go i .holding)
        ({ s with holder := none, content := none }.go i (.handed s.content)) := by
  have took := Step.took call (s.go_phases_self i .holding)
  exact .head (by simpa [Shared.go] using took) (hand { s with content := none } i s.content)

/-- A call that obtained the transaction ends it and gives the connection back. -/
theorem conclude (s : Shared ι β) (call : calls i = .finish way) (connection : ConnectionId)
    : Steps calls (s.go i (.ending connection))
        ({ s with
            backend := Backend.giveBack connection (way.on connection s.backend).2 }.go i
          (.answered ((report (way.on connection s.backend).1).map fun _ => none))) := by
  rcases answered : way.on connection s.backend with ⟨answer, b⟩
  have ended := Step.ended call (s.go_phases_self i (.ending connection)) answered
  exact .single (by simpa [Shared.go] using ended)

end Steps

omit [Backend β] [DecidableEq ι] in
theorem sharing_starting (p : Pool β supply) (id : TransactionId) (i : ι)
    : (p.sharing id : Shared ι β).phases i = .starting :=
  rfl

/-- The call ran while all others did nothing, returned the pool's answer and left what the pool's
operation leaves.
-/
def Served (calls : ι → Demand) (i : ι) (id : TransactionId) (p : Pool β supply) : Prop :=
  ∃ phase,
    Steps calls (p.sharing id) (((serve id p (calls i)).2.sharing id).go i phase)
    ∧ phase.reply? id = some (serve id p (calls i)).1

variable {calls : ι → Demand} {i : ι} {p : Pool β supply} {id : TransactionId}

omit [Backend β] [DecidableEq ι] in
theorem sharing_registered {connection : ConnectionId}
    (found : p.registry.lookup id = some connection)
    : (p.sharing id : Shared ι β).registered = true := by
  have known : id ∈ p.registered := by
    by_contra absent
    simp [lookup_eq_none_iff.mpr absent] at found
  simpa [sharing] using known

omit [Backend β] [DecidableEq ι] in
/-- Once a transaction was taken out, calls share that it is gone. -/
theorem sharing_remove (p : Pool β supply) (id : TransactionId) (b : β)
    : sharing ({ p with backend := b, registry := remove id p.registry } : Pool β supply) id
      = ({ backend := b, registered := false, content := none } : Shared ι β) := by
  have gone
      : id
        ∉ ({ p with backend := b, registry := remove id p.registry } : Pool β supply).registered :=
    fun member => ((mem_registered_remove p b id id).mp member).2 rfl
  rw [sharing, lookup_eq_none_iff.mpr gone, decide_eq_false gone]

/-- A call about what is not registered is refused. -/
theorem Served.missed (call : calls i ≠ .release) (absent : p.registry.lookup id = none)
    : Served calls i id p := by
  have unregistered : (p.sharing id : Shared ι β).registered = false := by
    simpa [sharing] using lookup_eq_none_iff.mp absent
  have missed := Step.missed call (sharing_starting p id i) unregistered
  have same : serve id p (calls i) = (.error (.transaction (.unknown id)), p) := by
    cases demand : calls i with
    | execute type sql =>
        simp only [serve, executeBound, absent]
        rfl
    | finish way =>
        simp only [serve, Pool.finish, absent]
        rfl
    | release => exact absurd demand call
  rw [Served, same]
  exact ⟨.refused, .single missed, rfl⟩

/-- A statement of a registered transaction is executed. -/
theorem Served.execute {type : StatementType} {sql : Text} {connection : ConnectionId}
    (call : calls i = .execute type sql) (found : p.registry.lookup id = some connection)
    : Served calls i id p := by
  have known := sharing_registered (ι := ι) found
  have looked := Step.found call (sharing_starting p id i) known
  have waited : Steps calls _ _ := Steps.wait (p.sharing id) i rfl
  have executed := Steps.execute { (p.sharing id : Shared ι β) with holder := some i } call found
  refine ⟨.left (some (Backend.execute connection type sql p.backend).1), ?_, ?_⟩
  · simp only [call, serve, executeBound, found]
    exact (Relation.ReflTransGen.single looked).trans (waited.trans executed)
  · simp only [call, serve, executeBound, found]
    rfl

/-- A registered transaction is taken out, ended and given back. -/
theorem Served.finish {way : Finish} {connection : ConnectionId}
    (call : calls i = .finish way) (found : p.registry.lookup id = some connection)
    : Served calls i id p := by
  let shared : Shared ι β := { p.sharing id with registered := false }
  have removed := Step.removed call (sharing_starting p id i) (sharing_registered found)
  have waited : Steps calls _ _ := Steps.wait shared i rfl
  have taken := Steps.take { shared with holder := some i } call
  have concluded := Steps.conclude { shared with content := none } call connection
  have handed : Phase.handed shared.content = .ending connection := by
    rw [show shared.content = some connection from found]
    rfl
  rw [handed] at taken
  refine ⟨.answered ((report (way.on connection p.backend).1).map fun _ => none), ?_, ?_⟩
  · simp only [call, serve, Pool.finish, found, sharing_remove]
    exact .head removed (waited.trans (taken.trans concluded))
  · simp only [call, serve, Pool.finish, found]
    rfl

/-- A transaction is released, and given back as nothing else refers to it. -/
theorem Served.release (call : calls i = .release) : Served calls i id p := by
  let shared : Shared ι β := { p.sharing id with registered := false }
  have released : Step calls (p.sharing id) (shared.go i (.answered (.ok none))) :=
    .released call (sharing_starting p id i)
  refine ⟨.answered (.ok none), ?_, by rw [call]; rfl⟩
  cases found : p.registry.lookup id with
  | none =>
      have same : shared = p.sharing id := by
        simp [shared, sharing, lookup_eq_none_iff.mp found]
      rw [same] at released
      simp only [call, serve, Pool.release, found]
      exact .single released
  | some connection =>
      have unreferred (j : ι) : ((shared.go i (.answered (.ok none))).phases j).refers = false := by
        by_cases own : j = i
        · rw [own, Shared.go_phases_self]
          rfl
        · rw [Shared.go_phases_of_ne _ own]
          rfl
      have discarded : Step calls _ _ := .discarded rfl
        (show (shared.go i (.answered (.ok none))).content = some connection from found) unreferred
      simp only [call, serve, Pool.release, found, sharing_remove]
      exact .head released (.single discarded)

/-- A call that runs alone does what the pool's operation does. -/
theorem served (calls : ι → Demand) (i : ι) (id : TransactionId) (p : Pool β supply)
    : Served calls i id p := by
  cases call : calls i with
  | release => exact .release call
  | execute type sql =>
      cases found : p.registry.lookup id with
      | none => exact .missed (by rw [call]; exact Demand.noConfusion) found
      | some connection => exact .execute call found
  | finish way =>
      cases found : p.registry.lookup id with
      | none => exact .missed (by rw [call]; exact Demand.noConfusion) found
      | some connection => exact .finish call found

end SqlAssembly.Pool
