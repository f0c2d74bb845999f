import SqlAssembly.Config.Settings
import SqlAssembly.Pool.Registry
import SqlAssembly.Sqlite.Grammar

/-! An SQLite database behind a pool of connections. What a transaction writes is seen on its own
connection until it is committed. A connection that writes excludes every other one that writes,
and nothing is stored while another connection still reads or writes.
-/

namespace SqlAssembly.Sqlite

/-- How far the transaction on a connection has come. What it wrote is kept beside the stored
rows.
-/
inductive Work where
  | none
  | started
  | reading
  | writing (table : Table)

/-- A connection: its transaction, whether the pool began it, the key of the last row inserted and
the number of rows in the last change.
-/
structure Connection where
  work : Work := .none
  pooled : Bool := false
  lastId : Int := 0
  changes : Nat := 0

/-- The stored rows and the connections to them, of which some are idle. -/
structure Database where
  table : Table := []
  capacity : Nat := 1
  connections : List Connection := []
  idle : List ConnectionId := []
  closed : Bool := false

/-- What the statements of a text came to so far. -/
structure Progress where
  rows : List Row := []
  affected : Nat := 0
  lastId : Int := 0

def Work.isOpen : Work → Bool
  | none => false
  | _ => true

/-- The transaction holds on to the stored rows. -/
def Work.holds : Work → Bool
  | reading => true
  | writing _ => true
  | _ => false

/-- The transaction writes. -/
def Work.writes : Work → Bool
  | writing _ => true
  | _ => false

namespace Database

def connection (d : Database) (id : ConnectionId) : Connection :=
  d.connections[id]?.getD {}

def update (id : ConnectionId) (change : Connection → Connection) (d : Database) : Database :=
  { d with connections := d.connections.modify id change }

/-- Whether a connection other than the given one is at work of the given kind. -/
def othersDo (kind : Work → Bool) (id : ConnectionId) (d : Database) : Bool :=
  (d.connections.eraseIdx id).any fun c => kind c.work

/-- The rows as a connection sees them. -/
def view (d : Database) (id : ConnectionId) : Table :=
  match (d.connection id).work with
  | .writing table => table
  | _ => d.table

/-- Leave the transaction of a connection at a stage. -/
def setWork (id : ConnectionId) (work : Work) (d : Database) : Database :=
  d.update id fun c => { c with work := work }

/-- Begin a transaction, unless one is under way. -/
def begin? (id : ConnectionId) (d : Database) : Option Database :=
  if (d.connection id).work.isOpen then none else some (d.setWork id .started)

/-- Store what a transaction wrote, unless another connection is in the way. -/
def commit? (id : ConnectionId) (d : Database) : Option Database :=
  match (d.connection id).work with
  | .none => none
  | .writing table =>
      if d.othersDo Work.holds id then none else some ({ d with table := table }.setWork id .none)
  | _ => some (d.setWork id .none)

/-- Give up what a transaction wrote. -/
def rollback? (id : ConnectionId) (d : Database) : Option Database :=
  if (d.connection id).work.isOpen then some (d.setWork id .none) else none

/-- A transaction that reads holds on to the stored rows from then on. -/
def read (id : ConnectionId) (d : Database) : Database :=
  match (d.connection id).work with
  | .started => d.setWork id .reading
  | _ => d

/-- Keep changed rows: in the transaction if one is under way, else in the database itself, unless
another connection is in the way.
-/
def write? (id : ConnectionId) (table : Table) (d : Database) : Option Database :=
  if (d.connection id).work.isOpen then
    if d.othersDo Work.writes id then none else some (d.setWork id (.writing table))
  else if d.othersDo Work.holds id then none
  else some { d with table := table }

/-- Note what a change came to. -/
def note (id : ConnectionId) (changed : Changed) (d : Database) : Database :=
  d.update id fun c => { c with
    lastId := changed.lastId.getD c.lastId, changes := changed.count }

/-- Make a change on a connection. One that cannot be made counts as a change of no rows. -/
def change (id : ConnectionId) (c : Change) (d : Database) : Bool × Database :=
  match c.run (d.view id) with
  | none =>
      let unchanged : Changed := ⟨none, 0, d.view id⟩
      match d.write? id unchanged.table with
      | some d => (false, d.note id unchanged)
      | none => (false, d)
  | some changed =>
      match d.write? id changed.table with
      | some d => (true, d.note id changed)
      | none => (false, d)

/-- Run a command on a connection. It answers with rows, or refuses. -/
def runCommand (id : ConnectionId) (command : Command) (d : Database)
    : Option (List Row) × Database :=
  let toRows (outcome : Option Database) : Option (List Row) × Database :=
    match outcome with
    | some d => (some [], d)
    | none => (none, d)
  match command with
  | .query q => (q.run (d.view id), d.read id)
  | .change c =>
      let (done, d) := d.change id c
      (if done then some [] else none, d)
  | .begin => toRows (d.begin? id)
  | .commit => toRows (d.commit? id)
  | .rollback => toRows (d.rollback? id)

/-- Run the statements of a text one after the other until one is refused. -/
def runStatements (id : ConnectionId) : List (List Token) → Progress → Database
    → Except BackendError Progress × Database
  | [], progress, d => (.ok progress, d)
  | statement :: rest, progress, d =>
      match Command.ofTokens? statement with
      | none => (.error .rejected, d)
      | some command =>
          match d.runCommand id command with
          | (none, d) => (.error .rejected, d)
          | (some rows, d) =>
              let c := d.connection id
              runStatements id rest
                ⟨progress.rows ++ rows, progress.affected + c.changes, c.lastId⟩ d

/-- The output of a statement of the given category. A key is positive. -/
def output (type : StatementType) (progress : Progress) : QueryOutput :=
  match type with
  | .select => .rows progress.rows
  | .insert =>
      .inserted ⟨if 0 < progress.lastId then some progress.lastId.toNat else none,
        progress.affected⟩
  | _ => .affected progress.affected

def execute (id : ConnectionId) (type : StatementType) (sql : Text) (d : Database)
    : Except BackendError QueryOutput × Database :=
  let (answer, d) := runStatements id (Token.statements (Token.ofText sql)) {} d
  (answer.map (output type), d)

/-- Take the connection that has been idle for longest, or open one more. -/
def acquire (d : Database) : Except BackendError ConnectionId × Database :=
  if d.closed then (.error .poolClosed, d)
  else
    match d.idle with
    | id :: rest => (.ok id, { d with idle := rest })
    | [] =>
        if d.connections.length < d.capacity then
          (.ok d.connections.length, { d with connections := d.connections ++ [{}] })
        else (.error .poolTimedOut, d)

/-- Give a connection back. A transaction that the pool began is given up. -/
def giveBack (id : ConnectionId) (d : Database) : Database :=
  let d := d.update id fun c => if c.pooled then { c with work := .none, pooled := false } else c
  { d with idle := d.idle ++ [id] }

/-- Begin a transaction for the pool. -/
def beginPooled (id : ConnectionId) (d : Database) : Except BackendError Unit × Database :=
  match d.begin? id with
  | some d => (.ok (), d.update id fun c => { c with pooled := true })
  | none => (.error .rejected, d)

/-- End a transaction by the given rule. -/
def finish (ending : ConnectionId → Database → Option Database) (id : ConnectionId)
    (d : Database) : Except BackendError Unit × Database :=
  match ending id d with
  | some d => (.ok (), d)
  | none => (.error .rejected, d)

instance : Backend Database where
  acquire := acquire
  giveBack := giveBack
  execute := execute
  begin := beginPooled
  commit := finish commit?
  rollback := finish rollback?
  close d := { d with closed := true }

/-- The name of a database that is kept in memory. -/
def memoryName : Text := ":memory:"

/-- The empty database that settings name. A private one in memory has a single connection. -/
def ofSettings (s : Settings) : Database :=
  match s.filename with
  | none => {}
  | some name => if name = memoryName then {} else { capacity := s.pool.max }

end Database

/-- The name of the driver of these databases. -/
def driverName : Text := "SqliteDriver"

/-- Connect to the database of valid settings and ask whether it answers. Only an SQLite database
can be reached: a server does not answer in time.
-/
def connect (s : Settings) : Except SqlError (Pool Database Pool.freshId) :=
  match s.validate with
  | .error error => .error (.config error)
  | .ok () =>
      match s.database with
      | .sqlite =>
          let (answer, pool) := Pool.authenticate { backend := Database.ofSettings s }
          answer.map fun () => pool
      | .mysql => .error BackendError.poolTimedOut.toSqlError

end SqlAssembly.Sqlite
