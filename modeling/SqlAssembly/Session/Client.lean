import SqlAssembly.Directory
import SqlAssembly.Session.Raw
import SqlAssembly.Session.Scope
import SqlAssembly.Session.Upsert

/-! A client uses a session. It holds handles under names and notes what each of its calls came
to, so that everything a caller can do with a session is an operation on names.
-/

namespace SqlAssembly

/-- The answer to one call of a client. -/
inductive Answer where
  | nothing
  | flag (value : Bool)
  | optionalFlag (value : Option Bool)
  | text (value : Text)
  | number (value : Nat)
  | optionalNumber (value : Option Nat)
  | rows (value : List Row)
  | optionalRow (value : Option Row)
  | insertResult (value : InsertResult)
  | optionalInsert (value : Option InsertResult)
  | output (value : QueryOutput)
  | state (transaction : Option Transaction)
  | scope (outcome : Except SqlError Nat) (body : List (Except SqlError Answer))
      (finished : Option Bool)

/-- The handles a client holds, by name in order, and its notes. -/
structure Client where
  held : List (Text × TransactionId) := []
  notes : List (Except SqlError Answer) := []

/-- What a client does with a session. -/
abbrev ClientM (δ : Type) := StateT Client (SessionM δ)

namespace Client

variable {δ : Type}

/-- What a session does, done by its client. -/
def inSession {α : Type} (action : SessionM δ α) : ClientM δ α :=
  StateT.lift action

/-- Put a handle under a name; names stay in order. -/
def insertHeld (name : Text) (id : TransactionId)
    : List (Text × TransactionId) → List (Text × TransactionId)
  | [] => [(name, id)]
  | (n, i) :: rest =>
      if n = name then (name, id) :: rest
      else if name < n then (name, id) :: (n, i) :: rest
      else (n, i) :: insertHeld name id rest

/-- Note what a call came to. -/
def note (answer : Except SqlError Answer) : ClientM δ Unit :=
  modify fun c => { c with notes := c.notes ++ [answer] }

/-- The id of the transaction whose handle is held under a name. -/
def idOf? (name : Text) : ClientM δ (Option TransactionId) := do
  return (← get).held.lookup name

/-- The transaction whose handle is held under a name. -/
def transactionOf? (name : Text) : ClientM δ (Option Transaction) := do
  match ← idOf? name with
  | some id => return (← getThe (Session δ)).transaction? id
  | none => return none

variable [Driver δ]

/-- Hold a handle under a name; the one held there before is dropped. -/
def hold (name : Text) (id : TransactionId) : ClientM δ Unit := do
  let previous ← idOf? name
  modify fun c => { c with held := insertHeld name id c.held }
  match previous with
  | some previous => inSession (Session.dropHandle previous)
  | none => return ()

/-- Drop the handle held under a name, and tell whether there was one. -/
def drop (name : Text) : ClientM δ Bool := do
  match ← idOf? name with
  | some id => do
      modify fun c => { c with held := c.held.filter (·.1 ≠ name) }
      inSession (Session.dropHandle id)
      return true
  | none => return false

/-- Hold one more handle of a transaction under another name. -/
def clone (name other : Text) : ClientM δ Unit := do
  match ← idOf? name with
  | some id => do
      inSession (Session.cloneHandle id)
      hold other id
  | none => return ()

/-- Begin a transaction and hold its handle under a name. -/
def begin (name : Text) : ClientM δ (Except SqlError Answer) := do
  match ← inSession Session.begin.run with
  | .error error => return .error error
  | .ok id => do
      hold name id
      return .ok (.text id)

/-- Drop every handle, in the order of the names. -/
def dropAll : ClientM δ Unit := do
  let held := (← get).held
  modify fun c => { c with held := [] }
  for (_, id) in held do
    inSession (Session.dropHandle id)

end Client

end SqlAssembly
