import RecordEngine.Failure
import RecordEngine.Value
/-!
Schemas: what the engine knows of the fields of an entity type.

A field may play a role, in which case the engine manages it, and may be limited to a declared set
of texts. The two predicates `isSettable` and `isWritable` are read off the role: a change to a
settable field is worth a save, and a save writes the settable fields along with its own stamps.
-/

set_option autoImplicit false

namespace RecordEngine

/-- A meaning the engine gives to a field. -/
inductive Role where
  | identifier
  | version
  | createdAt
  | updatedAt
  | createdBy
  | updatedBy
  deriving DecidableEq, Repr

namespace Role

/-- The role as declarations spell it. -/
def label : Role → String
  | identifier => "id"
  | version => "version"
  | createdAt => "created_at"
  | updatedAt => "updated_at"
  | createdBy => "created_by"
  | updatedBy => "updated_by"

def all : List Role := [identifier, version, createdAt, updatedAt, createdBy, updatedBy]

/-- The role of this spelling. -/
def ofLabel? (label : String) : Option Role := all.find? (·.label == label)

/-- Whether a save writes fields of this role. -/
def isStampedOnSave : Role → Bool
  | version | updatedAt | updatedBy => true
  | identifier | createdAt | createdBy => false

end Role

/-- One field of a schema. -/
structure FieldDef where
  name : String
  role : Option Role := none
  /-- The texts the field is limited to, if it is. -/
  allowed : Option (List String) := none
  /-- Unset for fields that a save never writes. -/
  settable : Bool := true
  deriving DecidableEq, Repr

/-- The fields of an entity type, in order. -/
structure Schema where
  name : String
  fields : List FieldDef
  deriving DecidableEq, Repr

namespace FieldDef

/-- Refuses a value outside the declared set of texts. The null of an optional field is inside. -/
def checkValue (field : FieldDef) (value : Value) : Except Failure Unit :=
  match field.allowed with
  | none => .ok ()
  | some allowed =>
    let refusal : Failure := .validation ("Field '" ++ field.name ++ "' must be one of [" ++
      String.intercalate ", " allowed ++ "], got '" ++ value.display ++ "'")
    match value with
    | .null => .ok ()
    | .text s => if allowed.contains s then .ok () else .error refusal
    | _ => .error refusal

end FieldDef

namespace Schema

def fieldCount (schema : Schema) : Nat := schema.fields.length

/-- The position of the first field of this name. -/
def fieldIndex? (schema : Schema) (name : String) : Option Nat :=
  schema.fields.findIdx? (·.name == name)

def fieldName? (schema : Schema) (index : Nat) : Option String :=
  schema.fields[index]?.map (·.name)

/-- The position of the first field of this role. -/
def roleIndex? (schema : Schema) (role : Role) : Option Nat :=
  schema.fields.findIdx? (·.role == some role)

/-- The position of the identifier, without which records cannot be told apart. -/
def identifierIndex (schema : Schema) : Except Failure Nat :=
  match schema.roleIndex? .identifier with
  | some index => .ok index
  | none => .error (.validation ("Entity '" ++ schema.name ++ "' declares no identifier field"))

def isVersioned (schema : Schema) : Bool := (schema.roleIndex? .version).isSome

/-- Whether a change to the field is one that a save has to write. -/
def isSettable (schema : Schema) (index : Nat) : Bool :=
  match schema.fields[index]? with
  | some field => field.settable && field.role.isNone
  | none => false

/-- Whether a save may write the field. -/
def isWritable (schema : Schema) (index : Nat) : Bool :=
  match schema.fields[index]? with
  | some field =>
    match field.role with
    | some role => role.isStampedOnSave
    | none => field.settable
  | none => false

/-- Refuses a field whose name or role an earlier one has. -/
def checkDistinct (entity : String) : List String → List Role → List FieldDef →
    Except Failure Unit
  | _, _, [] => .ok ()
  | names, roles, field :: rest =>
    if names.contains field.name then
      .error (.validation ("Entity '" ++ entity ++ "' declares field '" ++ field.name ++ "' twice"))
    else
      match field.role with
      | none => checkDistinct entity (field.name :: names) roles rest
      | some role =>
        if roles.contains role then
          .error (.validation ("Entity '" ++ entity ++ "' declares more than one " ++ role.label ++
            " field"))
        else checkDistinct entity (field.name :: names) (role :: roles) rest

/-- Refuses a schema without a name, with a name or a role used twice, or without an identifier. -/
def validate (schema : Schema) : Except Failure Unit :=
  if schema.name.isEmpty then .error (.validation "Entity name must not be empty")
  else do
    checkDistinct schema.name [] [] schema.fields
    let _ ← schema.identifierIndex
    return ()

/-- Checks the fields of a row that are limited to a set of texts, in order. -/
def checkRow (schema : Schema) (row : Row) : Except Failure Unit :=
  (schema.fields.zip row).forM fun (field, value) => field.checkValue value

end Schema

end RecordEngine
