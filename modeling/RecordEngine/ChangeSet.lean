import RecordEngine.FieldMask
import RecordEngine.Document
/-!
What changed in a record, field by field.
-/

set_option autoImplicit false

namespace RecordEngine

/-- One field with its value after a change, and before it unless the record is new. -/
structure FieldChange where
  field : String
  old : Option Value
  new : Value
  deriving DecidableEq, Repr

/-- Field changes in declaration order. -/
structure ChangeSet where
  changes : List FieldChange
  deriving DecidableEq, Repr

/-- A value as part of a document; an instant is its text there. -/
def Value.document : Value → Document
  | .null => .null
  | .integer n => .integer n
  | .float x => .float x
  | .text s => .text s
  | .boolean b => .boolean b
  | .timestamp t => .text t.text

namespace ChangeSet

def empty : ChangeSet := ⟨[]⟩

/-- The values of the fields of a mask, `before` being absent for a new record. -/
def ofMask {E : EntityType} (mask : FieldMask) (before : Option (Record E)) (after : Record E) :
    ChangeSet where
  changes := mask.indices.filterMap fun i =>
    (E.schema.fieldName? i).map fun field =>
      { field, old := before.map (·.field i), new := after.field i }

/-- What differs between two records. -/
def between {E : EntityType} (before after : Record E) : ChangeSet :=
  ofMask (FieldMask.diff before after) (some before) after

/-- The first change of a field. -/
def get? (c : ChangeSet) (field : String) : Option FieldChange :=
  c.changes.find? (·.field == field)

def fields (c : ChangeSet) : List String := c.changes.map (·.field)

def length (c : ChangeSet) : Nat := c.changes.length

def isEmpty (c : ChangeSet) : Bool := c.changes.isEmpty

/-- An object that gives each field the pair of its old and its new value. -/
def document (c : ChangeSet) : Document :=
  .object (c.changes.map fun change =>
    (change.field,
      .array [(change.old.map Value.document).getD .null, change.new.document]))

end ChangeSet

end RecordEngine
