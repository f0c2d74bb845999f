import SqlAssembly.Config.EnvFile
import SqlAssembly.Directory
import SqlAssembly.Toml.Document

/-! Connection settings. They are read from a TOML document, completed by defaults, expanded from
the environment and then checked, so that the check judges the expanded values.
-/

namespace SqlAssembly

inductive DatabaseKind where
  | mysql
  | sqlite
deriving DecidableEq

/-- How many connections a pool keeps and how long it waits, in milliseconds. -/
structure PoolSettings where
  max : Nat := 30
  min : Nat := 0
  idleMillis : Nat := 10000
  acquireMillis : Nat := 30000

/-- Everything needed to connect. -/
structure Settings where
  database : DatabaseKind
  host : Text := "127.0.0.1"
  port : Nat := 3306
  username : Text := []
  password : Option Text := none
  schema : Option Text := none
  filename : Option Text := none
  timezone : Text := "+00:00"
  pool : PoolSettings := {}

namespace DatabaseKind

def text : DatabaseKind → Text
  | mysql => "mysql"
  | sqlite => "sqlite"

/-- The database of a name, whatever its ASCII case and the blanks around it. -/
def ofName (name : Text) : Except ConfigError DatabaseKind :=
  let lower := (Text.trim name).map Char.toLower
  if lower = mysql.text then .ok mysql
  else if lower = sqlite.text then .ok sqlite
  else .error (.unsupportedDatabase lower)

end DatabaseKind

namespace Settings

/-- Read a value that must be a text. -/
def text? : Toml → Option Text
  | .text s => some s
  | _ => none

/-- Read a value that must be an integer from zero up to a limit. -/
def natural? (limit : Nat) : Toml → Option Nat
  | .integer n => if 0 ≤ n ∧ n ≤ (limit : Int) then some n.toNat else none
  | _ => none

/-- (entry? entries key default read) reads the value of a key, or takes the default when the key
is absent.
-/
def entry? {α : Type} (entries : Toml.Entries) (key : String) (default : α)
    (read : Toml → Option α) : Option α :=
  match entries.lookup key.toList with
  | none => some default
  | some value => read value

/-- The largest whole numbers of 16 and of 32 bits; those of 64 bits have a name elsewhere. -/
def limit16 : Nat := Nat.pow 2 16 - 1

/-- The largest whole number of 32 bits. -/
def limit32 : Nat := Nat.pow 2 32 - 1

/-- The pool settings of a table; other keys are ignored. -/
def poolOfEntries? (entries : Toml.Entries) : Option PoolSettings := do
  let default : PoolSettings := {}
  some {
    max := ← entry? entries "max" default.max (natural? limit32)
    min := ← entry? entries "min" default.min (natural? limit32)
    idleMillis := ← entry? entries "idle_ms" default.idleMillis (natural? Number.naturalLimit)
    acquireMillis :=
      ← entry? entries "acquire_ms" default.acquireMillis (natural? Number.naturalLimit) }

/-- The pool settings of a list of values in the order of the settings. -/
def poolOfItems? (items : List Toml) : Option PoolSettings := do
  let default : PoolSettings := {}
  let item (i : Nat) (default limit : Nat) : Option Nat :=
    match items[i]? with
    | none => some default
    | some value => natural? limit value
  some {
    max := ← item 0 default.max limit32
    min := ← item 1 default.min limit32
    idleMillis := ← item 2 default.idleMillis Number.naturalLimit
    acquireMillis := ← item 3 default.acquireMillis Number.naturalLimit }

/-- The pool settings that a value stands for. A date holds no settings. -/
def pool? : Toml → Option PoolSettings
  | .table _ entries => poolOfEntries? entries
  | .array items => poolOfItems? items
  | .date => some {}
  | _ => none

/-- The settings in the top table of a document; other keys are ignored. -/
def ofEntries? (entries : Toml.Entries) : Option Settings := do
  let name ← (entries.lookup "db_type".toList).bind text?
  let database ← (DatabaseKind.ofName name).toOption
  let default : Settings := { database := database }
  let optional (key : String) : Option (Option Text) :=
    entry? entries key none fun value => (text? value).map some
  some {
    database := database
    host := ← entry? entries "host" default.host text?
    port := ← entry? entries "port" default.port (natural? limit16)
    username := ← entry? entries "username" default.username text?
    password := ← optional "password"
    schema := ← optional "database"
    filename := ← optional "filename"
    timezone := ← entry? entries "timezone" default.timezone text?
    pool := ← entry? entries "pool" default.pool pool? }

/-- Expand a text that may be absent. -/
def expandOptional (env : Environment) : Option Text → Except ConfigError (Option Text)
  | none => .ok none
  | some s => (env.expand s).map some

/-- The settings with the references in their texts expanded; the first faulty text decides. -/
def expand (env : Environment) (s : Settings) : Except ConfigError Settings := do
  let host ← env.expand s.host
  let username ← env.expand s.username
  let timezone ← env.expand s.timezone
  let password ← expandOptional env s.password
  let schema ← expandOptional env s.schema
  let filename ← expandOptional env s.filename
  .ok { s with
    host := host, username := username, timezone := timezone,
    password := password, schema := schema, filename := filename }

/-- A pool needs a connection and consistent bounds, and a server a host and a user. -/
def validate (s : Settings) : Except ConfigError Unit :=
  if s.pool.max = 0 then .error .poolEmpty
  else if s.pool.min > s.pool.max then .error .poolBounds
  else if s.database = .mysql ∧ Text.isBlankText s.host then .error .hostBlank
  else if s.database = .mysql ∧ Text.isBlankText s.username then .error .usernameBlank
  else .ok ()

/-- Where the settings point. -/
def target (s : Settings) : Text :=
  match s.database with
  | .mysql => s.host ++ ':' :: Text.ofNat s.port
  | .sqlite => s.filename.getD ":memory:"

/-- The expanded settings, provided that they are valid. -/
def resolve (env : Environment) (s : Settings) : Except ConfigError Settings := do
  let expanded ← s.expand env
  expanded.validate
  .ok expanded

/-- The settings of a document in an environment. -/
def ofToml (env : Environment) (document : Text) : Except ConfigError Settings :=
  match (Toml.document? document).bind ofEntries? with
  | none => .error .malformed
  | some settings => settings.resolve env

/-- The name of the file of variables that is read before a document. -/
def envFileName : Text := ".env"

/-- The variables of a directory's file of variables, where it has one. -/
def environmentIn (d : Directory) (env : Environment) : Environment :=
  match d.readText envFileName with
  | .ok s => EnvFile.load env s
  | .error _ => env

/-- The settings of a document in a file. -/
def ofFile (d : Directory) (path : Text) (env : Environment) : Except ConfigError Settings :=
  match d.readText path with
  | .error cause => .error (.unreadable path cause)
  | .ok document => ofToml (environmentIn d env) document

end Settings

end SqlAssembly
