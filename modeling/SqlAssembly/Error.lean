import SqlAssembly.Json.Basic
import SqlAssembly.Text.Shown

/-! Every way in which assembling, configuring or running statements can fail. Errors are causes;
their wording is decided here and nowhere else.
-/

namespace SqlAssembly

/-- The name by which a driver knows one of its transactions. -/
abbrev TransactionId := Text

/-- Why statement parameters cannot be used. -/
inductive ParamError where
  | tableMissing
  | sumExpressionMissing
  | joinIncomplete
  | updateEmpty
  | insertEmpty
  | duplicateKeyUnassigned
  | duplicateKeyEmpty
  | batchRowWidth (values columns : Nat)
  | batchEmpty
  | upsertEmpty
  | unknownGroup (key : Text)
  | groupShape (key : Text) (found : Json)
  | filterShape (found : Json)
  | positionalMissing
  | namedMissing (name : Text)
  | databaseName (name : Text)
  | reported (message : Text)

inductive IoError where
  | notFound
  | isDirectory
  | invalidEncoding
  | reported (message : Text)

inductive ConfigError where
  | unsupportedDatabase (name : Text)
  | malformed
  | unreadable (path : Text) (cause : IoError)
  | unterminatedReference (key : Text)
  | emptyReference
  | missingVariable (key : Text)
  | poolEmpty
  | poolBounds
  | hostBlank
  | usernameBlank
  | reported (message : Text)

inductive TransactionError where
  | unknown (id : TransactionId)
  | reported (message : Text)

/-- Any failure, by its kind. -/
inductive SqlError where
  | config (cause : ConfigError)
  | param (cause : ParamError)
  | connection (message : Text)
  | driver (message : Text)
  | transaction (cause : TransactionError)
  | io (cause : IoError)
  | serialization (message : Text)
  | other (message : Text)

inductive ErrorKind where
  | config
  | param
  | connection
  | driver
  | transaction
  | io
  | serialization
  | other
deriving DecidableEq

/-- What a database backend reports when it fails. -/
inductive BackendError where
  | io (text : Text)
  | tls (text : Text)
  | poolTimedOut
  | poolClosed
  | workerCrashed
  | configuration (text : Text)
  | rowNotFound
  | columnNotFound (name : Text)
  | typeNotFound (name : Text)
  | protocol (text : Text)
  | decode (text : Text)
  | encode (text : Text)
  | rejected

namespace ParamError

def message : ParamError → Text
  | tableMissing => "params error: from is required"
  | sumExpressionMissing => "params error: sum expression is required"
  | joinIncomplete => "params error: union select needs from, to, on and union_type"
  | updateEmpty => "params error: update needs at least one column"
  | insertEmpty => "params error: insert needs at least one column"
  | duplicateKeyUnassigned =>
      "params error: raw insert values need explicit duplicate-key assignments"
  | duplicateKeyEmpty => "params error: duplicate-key update needs at least one column"
  | batchRowWidth values columns =>
      "params error: batch row has ".toList ++ Text.ofNat values ++ " values for ".toList
        ++ Text.ofNat columns ++ " columns".toList
  | batchEmpty => "params error: batch insert needs columns and rows"
  | upsertEmpty => "params error: update or insert needs at least one column"
  | unknownGroup key => "unknown where group: ".toList ++ key
  | groupShape key found =>
      "where.".toList ++ key ++ " must be a string or an object, got ".toList ++ found.compact
  | filterShape found => "where must be a string or an object, got ".toList ++ found.compact
  | positionalMissing => "not enough positional replacements"
  | namedMissing name => "named parameter \":".toList ++ name ++ "\" has no value".toList
  | databaseName name => "invalid database name: ".toList ++ Text.shown name
  | reported message => message

end ParamError

namespace IoError

def message : IoError → Text
  | notFound => "No such file or directory (os error 2)"
  | isDirectory => "Is a directory (os error 21)"
  | invalidEncoding => "stream did not contain valid UTF-8"
  | reported message => message

end IoError

namespace ConfigError

def message : ConfigError → Text
  | unsupportedDatabase name => "unsupported db_type: ".toList ++ name
  | malformed => "failed to parse config"
  | unreadable path cause =>
      "failed to read config file ".toList ++ path ++ ": ".toList ++ cause.message
  | unterminatedReference key =>
      "unterminated env var reference: $\x7b".toList ++ key ++ "\x7d".toList
  | emptyReference => "invalid env var reference: $\x7b\x7d"
  | missingVariable key => "missing env var for config expansion: ".toList ++ key
  | poolEmpty => "pool.max must be at least 1"
  | poolBounds => "pool.min must not exceed pool.max"
  | hostBlank => "host must not be empty"
  | usernameBlank => "username must not be empty"
  | reported message => message

end ConfigError

namespace TransactionError

def message : TransactionError → Text
  | unknown id => "unknown or finished transaction: ".toList ++ id
  | reported message => message

end TransactionError

namespace SqlError

def kind : SqlError → ErrorKind
  | config _ => .config
  | param _ => .param
  | connection _ => .connection
  | driver _ => .driver
  | transaction _ => .transaction
  | io _ => .io
  | serialization _ => .serialization
  | other _ => .other

/-- (reported kind message) is a failure of that kind whose wording comes from elsewhere. -/
def reported (kind : ErrorKind) (message : Text) : SqlError :=
  match kind with
  | .config => config (.reported message)
  | .param => param (.reported message)
  | .connection => connection message
  | .driver => driver message
  | .transaction => transaction (.reported message)
  | .io => io (.reported message)
  | .serialization => serialization message
  | .other => other message

/-- What is said about the cause of a failure. -/
def cause : SqlError → Text
  | config c => c.message
  | param c => c.message
  | connection m => m
  | driver m => m
  | transaction c => c.message
  | io c => c.message
  | serialization m => m
  | other m => m

end SqlError

namespace ErrorKind

/-- What stands before the cause in a message. -/
def heading : ErrorKind → Text
  | config => "Configuration error: "
  | param => "Parameter error: "
  | connection => "Connection error: "
  | driver => "Driver error: "
  | transaction => "Transaction error: "
  | io => "I/O error: "
  | serialization => "Serialization error: "
  | other => []

end ErrorKind

/-- The message of a failure: the heading of its kind, then its cause. -/
def SqlError.message (e : SqlError) : Text :=
  e.kind.heading ++ e.cause

namespace BackendError

def message : BackendError → Text
  | io text => "error communicating with database: ".toList ++ text
  | tls text => "error occurred while attempting to establish a TLS connection: ".toList ++ text
  | poolTimedOut => "pool timed out while waiting for an open connection"
  | poolClosed => "attempted to acquire a connection on a closed pool"
  | workerCrashed => "attempted to communicate with a crashed background worker"
  | configuration text => "error with configuration: ".toList ++ text
  | rowNotFound => "no rows returned by a query that expected to return at least one row"
  | columnNotFound name => "no column found for name: ".toList ++ name
  | typeNotFound name => "type named ".toList ++ name ++ " not found".toList
  | protocol text => "encountered unexpected or invalid data: ".toList ++ text
  | decode text => "error occurred while decoding: ".toList ++ text
  | encode text => "error occurred while encoding a value: ".toList ++ text
  | rejected => []

/-- Reports about the way to the database are connection errors, reports about settings are
configuration errors, and all others are driver errors.
-/
def toSqlError (e : BackendError) : SqlError :=
  match e with
  | io _ | tls _ | poolTimedOut | poolClosed | workerCrashed => .connection e.message
  | configuration _ => .config (.reported e.message)
  | _ => .driver e.message

end BackendError

end SqlAssembly
