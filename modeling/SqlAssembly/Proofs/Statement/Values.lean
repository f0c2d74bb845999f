import SqlAssembly.Proofs.Literal.Reading
import SqlAssembly.Statement.Write

/-! The values that a statement renders, its other texts, and the statement with its values masked.
Masking keeps where a value is null, or falsy where that counts, and how many values there are.
-/

namespace SqlAssembly

open Reading (Inert)

-----------------------------------------------------------------------------------------
-- Masks
-----------------------------------------------------------------------------------------

/-- Of a value, only whether it is null. -/
def Json.masked (value : Json) : Json :=
  if value.isNull then .null else .bool true

/-- Of a value in a batch, only whether it is falsy. -/
def Json.maskedCell (value : Json) : Json :=
  if Literal.isFalsy value then .null else .bool true

def Values.masked (values : Values) : Values :=
  values.map fun (column, value) => (column, value.masked)

def Condition.masked : Condition → Condition
  | literal sql => literal sql
  | scalar value => scalar value.masked
  | list values => list (values.map Json.masked)

def Group.masked : Group → Group
  | raw sql => raw sql
  | fields terms => fields (terms.map fun (field, condition) => (field, condition.masked))

def Criteria.masked (criteria : Criteria) : Criteria :=
  ⟨criteria.all.map Group.masked, criteria.any.map Group.masked⟩

/-- A clause input with its structured value changed. -/
def Fragment.map {α β : Type} (f : α → β) : Fragment α → Fragment β
  | raw sql => raw sql
  | structured value => structured (f value)

def InsertMode.masked : InsertMode → InsertMode
  | updateDuplicate set => updateDuplicate (set.map (Fragment.map Values.masked))
  | mode => mode

-----------------------------------------------------------------------------------------
-- What clauses are made of
-----------------------------------------------------------------------------------------

/-- The values of a condition, in the order in which they are rendered. -/
def Condition.values : Condition → List Json
  | literal _ => []
  | scalar value => [value]
  | list values => values

def Group.values : Group → List Json
  | raw _ => []
  | fields terms => terms.flatMap fun (_, condition) => condition.values

def Filter.values : Option Filter → List Json
  | some (.structured criteria) =>
      criteria.all.toList.flatMap Group.values ++ criteria.any.toList.flatMap Group.values
  | _ => []

/-- Assigned values that are null are left out. -/
def Assignments.values : Option Assignments → List Json
  | some (.structured values) => values.nonNull.map (·.2)
  | _ => []

/-- Of an insert mode, the values that it assigns to rows that exist. -/
def InsertMode.values : InsertMode → List Json
  | updateDuplicate set => Assignments.values set
  | _ => []

theorem Condition.predicate_list (field : Text) (first : Json) (rest : List Json)
    : (list (first :: rest)).predicate field
      = field ++ " in (".toList ++ Text.join "," ((first :: rest).map Literal.quote)
        ++ ")".toList :=
  rfl

/-- The conditions ask for equality or membership, with values that are not null. -/
def Condition.Plain : Condition → Prop
  | literal _ => False
  | scalar value => value.isNull = false
  | list values => ∀ value ∈ values, value.isNull = false

instance (condition : Condition) : Decidable condition.Plain :=
  match condition with
  | .literal _ => isFalse id
  | .scalar value => inferInstanceAs (Decidable (value.isNull = false))
  | .list values => inferInstanceAs (Decidable (∀ value ∈ values, value.isNull = false))

def Group.Plain : Group → Prop
  | raw sql => Inert sql
  | fields terms => ∀ term ∈ terms, Inert term.1 ∧ term.2.Plain

/-- The filter is absent or structured, with plain groups. -/
def Filter.Plain : Option Filter → Prop
  | none => True
  | some (.raw _) => False
  | some (.structured criteria) =>
      (∀ group ∈ criteria.all, group.Plain) ∧ ∀ group ∈ criteria.any, group.Plain

/-- The assignments are absent or structured, to columns without quotes. -/
def Assignments.Plain : Option Assignments → Prop
  | none => True
  | some (.raw _) => False
  | some (.structured values) => ∀ entry ∈ values, Inert entry.1

/-- Explicit assignments to rows that exist are structured. -/
def InsertMode.Plain : InsertMode → Prop
  | updateDuplicate set => Assignments.Plain set
  | _ => True

/-- A clause input has no quotes, whether it is raw or given as texts. -/
def Fragment.Plain {α : Type} (texts : α → List Text) : Option (Fragment α) → Prop
  | none => True
  | some (.raw sql) => Inert sql
  | some (.structured value) => ∀ s ∈ texts value, Inert s

/-- The projection, the order, the window and the lock of a select have no quotes. -/
structure PlainTail (columns : Option Columns) (order : Option SortOrder) (limit : Option Limit)
    (lock : Option Lock) : Prop where
  columns : Fragment.Plain (fun columns => columns) columns
  order : Fragment.Plain (fun terms => terms.map (·.field)) order
  limit : Fragment.Plain (fun _ => []) limit
  lock : Fragment.Plain (fun _ => []) lock

-----------------------------------------------------------------------------------------
-- Statements
-----------------------------------------------------------------------------------------

/-- The statements that are built of clauses. -/
inductive Statement where
  | select (s : Select)
  | sum (s : Sum)
  | count (s : Count)
  | joinSelect (s : JoinSelect)
  | insert (s : Insert) (mode : InsertMode)
  | batchInsert (s : BatchInsert)
  | update (s : Update)
  | delete (s : Delete)

namespace Statement

def toSql : Statement → Except ParamError Text
  | select s => s.toSql
  | sum s => s.toSql
  | count s => s.toSql
  | joinSelect s => s.toSql
  | insert s mode => s.toSql mode
  | batchInsert s => s.toSql
  | update s => s.toSql
  | delete s => s.toSql

/-- The values that a statement renders, in order. -/
def values : Statement → List Json
  | select s => Filter.values s.filter
  | sum s => Filter.values s.filter
  | count s => Filter.values s.filter
  | joinSelect s => Filter.values s.filter
  | insert s mode => Assignments.values s.values ++ mode.values
  | batchInsert s => s.batch.rows.flatten.filter fun value => !Literal.isFalsy value
  | update s => Assignments.values s.set ++ Filter.values s.filter
  | delete s => Filter.values s.filter

def masked : Statement → Statement
  | select s => select { s with filter := s.filter.map (Fragment.map Criteria.masked) }
  | sum s => sum { s with filter := s.filter.map (Fragment.map Criteria.masked) }
  | count s => count { s with filter := s.filter.map (Fragment.map Criteria.masked) }
  | joinSelect s => joinSelect { s with filter := s.filter.map (Fragment.map Criteria.masked) }
  | insert s mode =>
      insert { s with values := s.values.map (Fragment.map Values.masked) } mode.masked
  | batchInsert s =>
      batchInsert { s with batch := ⟨s.batch.columns, s.batch.rows.map (·.map Json.maskedCell)⟩ }
  | update s =>
      update {
        s with
        set := s.set.map (Fragment.map Values.masked)
        filter := s.filter.map (Fragment.map Criteria.masked)
      }
  | delete s => delete { s with filter := s.filter.map (Fragment.map Criteria.masked) }

/-- The statement is built with structured values, assignments and filters, its conditions are
plain, and nothing in it but values has quotes or backslashes.
-/
def Plain : Statement → Prop
  | select s =>
      Inert s.table ∧ PlainTail s.columns s.order s.limit s.lock ∧ Filter.Plain s.filter
      ∧ ∀ fields ∈ s.groupBy, Inert fields
  | sum s => Inert s.table ∧ Inert s.expression ∧ Filter.Plain s.filter
  | count s => Inert s.table ∧ Filter.Plain s.filter
  | joinSelect s =>
      Inert s.table ∧ PlainTail s.columns s.order s.limit s.lock ∧ Filter.Plain s.filter
      ∧ (∀ other ∈ s.other, Inert other)
      ∧ (∀ on ∈ s.on, Inert on.1 ∧ Inert on.2)
      ∧ ∀ join ∈ s.join, Inert join
  | insert s mode => Inert s.table ∧ Assignments.Plain s.values ∧ mode.Plain
  | batchInsert s => Inert s.table ∧ ∀ column ∈ s.batch.columns, Inert column
  | update s => Inert s.table ∧ Assignments.Plain s.set ∧ Filter.Plain s.filter
  | delete s => Inert s.table ∧ Filter.Plain s.filter

end Statement

end SqlAssembly
