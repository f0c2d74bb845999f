import SqlAssembly.Driver.Basic

/-! A driver that plays a script. It returns prepared outputs in order, then the empty output of
the statement's category; its other calls succeed unless they were told to fail.
-/

namespace SqlAssembly

/-- The calls of a scripted driver that can be told to fail. -/
inductive ScriptedCall where
  | begin
  | commit
  | rollback
  | authenticate
  | close
deriving DecidableEq

/-- The prepared outputs, the failures to report, the number of transactions begun so far, and
whether abandoned transactions are released.
-/
structure ScriptedDriver where
  outputs : List (Except SqlError QueryOutput) := []
  failures : List (ScriptedCall × SqlError) := []
  begun : Nat := 0
  releases : Bool := true

/-- What can be prepared between two calls. -/
inductive ScriptedControl where
  | push (outputs : List (Except SqlError QueryOutput))
  | fail (call : ScriptedCall) (error : SqlError)
  | unfail (call : ScriptedCall)

namespace ScriptedDriver

/-- The output of a statement for which nothing was prepared. -/
def emptyOutput : StatementType → QueryOutput
  | .select => .rows []
  | .insert => .inserted ⟨none, 0⟩
  | _ => .affected 0

/-- The answer to a call that fails only when told to. -/
def answer (call : ScriptedCall) (d : ScriptedDriver) : Except SqlError Unit :=
  match d.failures.lookup call with
  | some error => .error error
  | none => .ok ()

/-- The id of the n-th transaction. -/
def transactionId (n : Nat) : TransactionId :=
  "tx-".toList ++ Text.ofNat n

/-- The driver after a preparation. -/
def prepare (control : ScriptedControl) (d : ScriptedDriver) : ScriptedDriver :=
  match control with
  | .push outputs => { d with outputs := d.outputs ++ outputs }
  | .fail call error => { d with failures := (call, error) :: d.failures }
  | .unfail call => { d with failures := d.failures.filter (·.1 ≠ call) }

instance : Driver ScriptedDriver where
  execute e d :=
    match d.outputs with
    | output :: outputs => (output, { d with outputs := outputs })
    | [] => (.ok (emptyOutput e.type), d)
  authenticate d := (d.answer .authenticate, d)
  beginTransaction d :=
    match d.answer .begin with
    | .error error => (.error error, d)
    | .ok () => (.ok (transactionId (d.begun + 1)), { d with begun := d.begun + 1 })
  commit _ d := (d.answer .commit, d)
  rollback _ d := (d.answer .rollback, d)
  close d := (d.answer .close, d)
  release? _ d := if d.releases then some d else none

end ScriptedDriver

end SqlAssembly
