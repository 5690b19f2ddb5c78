import TableScaffold.Schema

/-!
# Column annotations

Some columns are known by name: the identity, the audit columns and the priority. The audit columns
are kept out of user-facing shapes. Other text columns are annotated with their length.
-/

namespace TableScaffold

/-- The columns that record who made a change. -/
def auditActors : List String := ["createdBy", "updatedBy", "deletedBy"]

/-- The columns that record when a change was made. -/
def auditTimes : List String := ["createdOn", "updatedOn", "deletedOn"]

/-- Whether a column is an audit column. -/
def Column.isAudit (c : Column) : Bool := (auditTimes ++ auditActors).contains c.name

/-- The attributes of a column in the generated model. -/
structure Annotation where
  isId : Bool := false
  nativeType : Option String := none
  deriving DecidableEq, Repr

/-- The annotation that goes with a column's name, if any. -/
def Annotation.ofName? (name : String) : Option Annotation :=
  if name = "id" then some ⟨true, some "Uuid"⟩
  else if auditActors.contains name then some ⟨false, some "Uuid"⟩
  else if auditTimes.contains name then some ⟨false, some "Timestamp"⟩
  else if name = "priority" then some ⟨false, some "VarChar(10)"⟩
  else none

/-- The native type of a text with a length. -/
def varChar (length : Int) : String := "VarChar(" ++ toString length ++ ")"

/-- Whether the annotation of a column can be written: it cannot if it tells a length that has too many
digits. -/
def Column.isAnnotated (c : Column) : Bool :=
  match Annotation.ofName? c.name, c.persistenceType, c.length with
  | none, .string, some n => Decimal.isWritable n
  | _, _, _ => true

/-- The annotation of a column, if it can be written: by its name, else by its length if it is a text. -/
def Column.annotation (c : Column) : Annotation :=
  match Annotation.ofName? c.name with
  | some a => a
  | none =>
    match c.persistenceType, c.length with
    | .string, some n => if n = 0 then ⟨false, none⟩ else ⟨false, some (varChar n)⟩
    | _, _ => ⟨false, none⟩

end TableScaffold
