import SqlAssembly.Driver.Basic

/-! A driver over a pool of connections. Each open transaction is registered under its id with the
connection that it runs on; it leaves the registry when it is committed, rolled back or
released, and statements bound to an id that is not registered are refused.
-/

namespace SqlAssembly

/-- A connection of a pool. -/
abbrev ConnectionId := Nat

/-- A database reached over connections, as a state. A connection is acquired, used and given
back; giving it back discards the transaction that was begun on it and is still open.
-/
class Backend (β : Type) where
  acquire : β → Except BackendError ConnectionId × β
  giveBack : ConnectionId → β → β
  execute : ConnectionId → StatementType → Text → β → Except BackendError QueryOutput × β
  begin : ConnectionId → β → Except BackendError Unit × β
  commit : ConnectionId → β → Except BackendError Unit × β
  rollback : ConnectionId → β → Except BackendError Unit × β
  close : β → β

/-- The n-th id of a supply that counts. Its ids have the form of universally unique ones. -/
def Pool.freshId (n : Nat) : TransactionId :=
  let digits := Nat.toDigits 16 n
  "00000000-0000-4000-8000-".toList ++ List.replicate (12 - digits.length) '0' ++ digits

/-- A backend, the connections of the open transactions, and how many ids were issued. The ids come
from a supply, which is asked for the next one whenever a transaction begins.
-/
structure Pool (β : Type) (supply : Nat → TransactionId := Pool.freshId) where
  backend : β
  registry : List (TransactionId × ConnectionId) := []
  issued : Nat := 0

namespace Pool

variable {β : Type} {supply : Nat → TransactionId} [Backend β]

def openTransactions (p : Pool β supply) : Nat :=
  p.registry.length

def remove (id : TransactionId) (registry : List (TransactionId × ConnectionId))
    : List (TransactionId × ConnectionId) :=
  registry.filter (·.1 ≠ id)

/-- A backend's answer as a driver's. -/
def report {α : Type} (answer : Except BackendError α) : Except SqlError α :=
  answer.mapError BackendError.toSqlError

/-- Use a connection for one thing and give it back. -/
def withConnection {α : Type} (use : ConnectionId → β → Except BackendError α × β) (b : β)
    : Except BackendError α × β :=
  match Backend.acquire b with
  | (.error error, b) => (.error error, b)
  | (.ok connection, b) =>
      let (answer, b) := use connection b
      (answer, Backend.giveBack connection b)

/-- The statement that ends a transaction which a failed script left open. -/
def rollbackText : Text := "ROLLBACK"

/-- Execute a raw statement. When it fails, a rollback on the same connection follows, whose own
failure does not matter.
-/
def executeRaw (sql : Text) (connection : ConnectionId) (b : β)
    : Except BackendError QueryOutput × β :=
  match Backend.execute connection .raw sql b with
  | (.ok output, b) => (.ok output, b)
  | (.error error, b) => (.error error, (Backend.execute connection .raw rollbackText b).2)

/-- Execute a statement outside transactions. -/
def executeAlone (type : StatementType) (sql : Text) (connection : ConnectionId) (b : β)
    : Except BackendError QueryOutput × β :=
  if type = .raw then executeRaw sql connection b else Backend.execute connection type sql b

/-- Execute a statement whose placeholders are filled. -/
def executeBound (type : StatementType) (id : Option TransactionId) (sql : Text)
    (p : Pool β supply)
    : Except SqlError QueryOutput × Pool β supply :=
  match id with
  | none =>
      let (answer, b) := withConnection (executeAlone type sql) p.backend
      (report answer, { p with backend := b })
  | some id =>
      match p.registry.lookup id with
      | none => (.error (.transaction (.unknown id)), p)
      | some connection =>
          let (answer, b) := Backend.execute connection type sql p.backend
          (report answer, { p with backend := b })

/-- Fill the placeholders of a statement and execute it. -/
def execute (e : Execution) (p : Pool β supply) : Except SqlError QueryOutput × Pool β supply :=
  match Placeholder.bind e.sql e.replacements with
  | .error error => (.error (.param error), p)
  | .ok sql => executeBound e.type e.transaction sql p

/-- The statement that asks whether the database answers. -/
def probeText : Text := "select 1"

/-- Ask whether the database answers. Nothing follows when it does not. -/
def authenticate (p : Pool β supply) : Except SqlError Unit × Pool β supply :=
  let (answer, b) := withConnection (Backend.execute · .raw probeText) p.backend
  (report (answer.map fun _ => ()), { p with backend := b })

/-- Begin a transaction on a connection of its own and register it. -/
def beginTransaction (p : Pool β supply) : Except SqlError TransactionId × Pool β supply :=
  match Backend.acquire p.backend with
  | (.error error, b) => (.error error.toSqlError, { p with backend := b })
  | (.ok connection, b) =>
      match Backend.begin connection b with
      | (.error error, b) =>
          (.error error.toSqlError, { p with backend := Backend.giveBack connection b })
      | (.ok (), b) =>
          let id := supply (p.issued + 1)
          (.ok id, ⟨b, p.registry ++ [(id, connection)], p.issued + 1⟩)

/-- Take a transaction out of the registry and end it. It is out whatever the backend answers. -/
def finish (ending : ConnectionId → β → Except BackendError Unit × β) (id : TransactionId)
    (p : Pool β supply) : Except SqlError Unit × Pool β supply :=
  match p.registry.lookup id with
  | none => (.error (.transaction (.unknown id)), p)
  | some connection =>
      let (answer, b) := ending connection p.backend
      (report answer,
        { p with backend := Backend.giveBack connection b, registry := remove id p.registry })

/-- Take a transaction out of the registry and discard it. -/
def release (id : TransactionId) (p : Pool β supply) : Pool β supply :=
  match p.registry.lookup id with
  | none => p
  | some connection =>
      { p with
        backend := Backend.giveBack connection p.backend, registry := remove id p.registry }

def description (name : Text) (p : Pool β supply) : Text :=
  name ++ " \x7b open_transactions: ".toList ++ Text.ofNat p.openTransactions
    ++ ", .. \x7d".toList

instance : Driver (Pool β supply) where
  execute := execute
  authenticate := authenticate
  beginTransaction := beginTransaction
  commit := finish Backend.commit
  rollback := finish Backend.rollback
  close p := (.ok (), { p with backend := Backend.close p.backend })
  release? id p := some (release id p)

end Pool

end SqlAssembly
