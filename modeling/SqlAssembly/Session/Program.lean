import SqlAssembly.Session.Client

/-! Programs of a client: any sequence of calls to a session in which each call may depend on the
answers to those before it, with scopes that run a program inside a transaction of its own.
-/

namespace SqlAssembly

/-- The terms of a statement, its transaction named by the client. -/
structure NamedTerms where
  guard : Option Guard := none
  transaction : Option Text := none

/-- The two forms of a scoped transaction. -/
inductive ScopeForm where
  | function
  | block
deriving DecidableEq

/-- One call of a client. Controls reach the driver itself, beside the session. -/
inductive Call (γ : Type) where
  | control (control : γ)
  | begin (name : Text)
  | clone (name other : Text)
  | drop (name : Text)
  | state (name : Text)
  | commit (name : Text)
  | rollback (name : Text)
  | select (s : Select) (terms : NamedTerms)
  | selectOne (s : Select) (terms : NamedTerms)
  | sum (s : Sum) (terms : NamedTerms)
  | count (s : Count) (terms : NamedTerms)
  | joinSelect (s : JoinSelect) (terms : NamedTerms)
  | update (s : Update) (terms : NamedTerms)
  | delete (s : Delete) (terms : NamedTerms)
  | insert (s : Insert) (mode : InsertMode) (terms : NamedTerms)
  | insertAndFetch (s : Insert) (terms : NamedTerms)
  | batchInsert (s : BatchInsert) (terms : NamedTerms)
  | updateOrInsert (s : UpdateOrInsert) (terms : NamedTerms)
  | selectBySql (sql : Text) (replacements : Replacements) (name : Option Text)
  | updateBySql (sql : Text) (replacements : Replacements) (name : Option Text)
  | deleteBySql (sql : Text) (replacements : Replacements) (name : Option Text)
  | insertBySql (sql : Text) (replacements : Replacements) (name : Option Text)
  | createBySql (sql : Text) (replacements : Replacements) (name : Option Text)
  | query (sql : Text) (type : StatementType) (replacements : Replacements) (name : Option Text)
  | executeScript (script : Text)
  | executeFile (contents : Except IoError Text)
  | createDatabase (name : Text) (force : Bool)
  | dropDatabase (name : Text)
  | authenticate
  | close
  | describe
  | refused (error : SqlError)

/-- A client's program. It ends well or with a failure of its own, or it makes a call or opens a
scope and goes on as the answer tells it to.
-/
inductive Program (γ : Type) where
  | finish (failure : Option SqlError)
  | call (c : Call γ) (next : Except SqlError Answer → Program γ)
  | scope (form : ScopeForm) (name : Text) (body : Program γ)
      (next : Except SqlError Answer → Program γ)

namespace Call

variable {γ δ : Type} [Driver δ]

open Client (inSession)

/-- The terms with the client's name replaced by the id it stands for. -/
def resolve (terms : NamedTerms) : ClientM δ Terms := do
  match terms.transaction with
  | none => return { guard := terms.guard }
  | some name => return { guard := terms.guard, transaction := ← Client.idOf? name }

/-- The id of the transaction that an optional name stands for. -/
def resolveName (name : Option Text) : ClientM δ (Option TransactionId) := do
  match name with
  | none => return none
  | some name => Client.idOf? name

/-- Run an action of the session and make an answer of what it returns. -/
def answering {α : Type} (answer : α → Answer) (action : Action δ α)
    : ClientM δ (Except SqlError Answer) := do
  return (← inSession action.run).map answer

def onTerms {α : Type} (terms : NamedTerms) (answer : α → Answer) (action : Terms → Action δ α)
    : ClientM δ (Except SqlError Answer) := do
  answering answer (action (← resolve terms))

/-- Run an action in the transaction of an optional name. -/
def inTransaction {α : Type} (name : Option Text) (answer : α → Answer)
    (action : Option TransactionId → Action δ α) : ClientM δ (Except SqlError Answer) := do
  answering answer (action (← resolveName name))

/-- Whether the transaction of a name is finished, if the client holds one there. -/
def finished? (name : Text) : ClientM δ (Option Bool) := do
  return (← Client.transactionOf? name).map (·.finished)

/-- Run a call. Controls change the driver by the given rule. -/
def run (control : γ → δ → δ) : Call γ → ClientM δ (Except SqlError Answer)
  | .control c => do
      inSession (modify fun s => { s with driver := control c s.driver })
      return .ok .nothing
  | .begin name => Client.begin name
  | .clone name other => do
      Client.clone name other
      return .ok .nothing
  | .drop name => return .ok (.flag (← Client.drop name))
  | .state name => return .ok (.state (← Client.transactionOf? name))
  | .commit name => do
      match ← Client.idOf? name with
      | none => return .ok (.optionalFlag none)
      | some id =>
          match ← inSession (Session.commit id).run with
          | .error error => return .error error
          | .ok () => return .ok (.optionalFlag (← finished? name))
  | .rollback name => do
      match ← Client.idOf? name with
      | none => return .ok (.optionalFlag none)
      | some id => do
          inSession (Session.rollback id)
          return .ok (.optionalFlag (← finished? name))
  | .select s terms => onTerms terms .rows (Session.select s)
  | .selectOne s terms => onTerms terms .optionalRow (Session.selectOne s)
  | .sum s terms => onTerms terms .text (Session.sum s)
  | .count s terms => onTerms terms .number (Session.count s)
  | .joinSelect s terms => onTerms terms .rows (Session.joinSelect s)
  | .update s terms => onTerms terms .number (Session.update s)
  | .delete s terms => onTerms terms .number (Session.delete s)
  | .insert s mode terms => onTerms terms .optionalInsert (Session.insert s mode)
  | .insertAndFetch s terms => onTerms terms .optionalRow (Session.insertAndFetch s)
  | .batchInsert s terms => onTerms terms .optionalInsert (Session.batchInsert s)
  | .updateOrInsert s terms => onTerms terms .optionalNumber (Session.updateOrInsert s)
  | .selectBySql sql values name => inTransaction name .rows (Session.selectBySql sql values)
  | .updateBySql sql values name => inTransaction name .number (Session.updateBySql sql values)
  | .deleteBySql sql values name => inTransaction name .number (Session.deleteBySql sql values)
  | .insertBySql sql values name =>
      inTransaction name .insertResult (Session.insertBySql sql values)
  | .createBySql sql values name =>
      inTransaction name (fun () => .nothing) (Session.createBySql sql values)
  | .query sql type values name =>
      inTransaction name .output fun id => Session.execute ⟨sql, type, values, id⟩
  | .executeScript script => answering .number (Session.executeScript script)
  | .executeFile contents => answering .number (Session.executeFile contents)
  | .createDatabase name force =>
      answering (fun () => .nothing) (Session.createDatabase name force)
  | .dropDatabase name => answering (fun () => .nothing) (Session.dropDatabase name)
  | .authenticate => answering (fun () => .nothing) Session.authenticate
  | .close => answering (fun () => .nothing) Session.close
  | .describe => return .ok (.text Session.description)
  | .refused error => return .error error

end Call

namespace Program

variable {γ δ : Type} [Driver δ]

open Client (inSession)

/-- A program that makes one call and then goes on. Unless it is tolerant, a failed call ends it
with the same failure.
-/
def andThen (step : (Except SqlError Answer → Program γ) → Program γ) (tolerant : Bool)
    (rest : Program γ) : Program γ :=
  step fun answer =>
    match answer with
    | .error error => if tolerant then rest else .finish (some error)
    | .ok _ => rest

/-- What a body came to: its failure, or else the number of notes it made. -/
def outcome (failure : Option SqlError) : ClientM δ (Except SqlError Nat) := do
  match failure with
  | some error => return .error error
  | none => return .ok (← get).notes.length

/-- Run a body in a scoped transaction whose handle the client holds under a name meanwhile. The
notes of the body become part of the answer.
-/
def runScope (form : ScopeForm) (name : Text) (body : ClientM δ (Option SqlError))
    : ClientM δ Answer := do
  let outer := (← get).notes
  modify fun c => { c with notes := [] }
  let result ← match form with
    | .function =>
        Session.runInTransaction δ fun id => do
          Client.hold name id
          outcome (← body)
    | .block =>
        Session.transactionBlock δ fun id => do
          inSession (Session.cloneHandle id)
          Client.hold name id
          outcome (← body)
  let notes := (← get).notes
  let finished ← Call.finished? name
  let _ ← Client.drop name
  modify fun c => { c with notes := outer }
  return .scope result notes finished

/-- Run a program. Its answers are noted, and its failure is returned. -/
def run (control : γ → δ → δ) : Program γ → ClientM δ (Option SqlError)
  | .finish failure => return failure
  | .call c next => do
      let answer ← c.run control
      Client.note answer
      (next answer).run control
  | .scope form name body next => do
      let answer ← runScope form name (body.run control)
      Client.note (.ok answer)
      (next (.ok answer)).run control

end Program

end SqlAssembly
