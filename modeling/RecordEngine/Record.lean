import RecordEngine.FieldType
import RecordEngine.Schema
/-!
Entity types and their records.

A record of a type holds one value for each field, and each value is one that the type of its field
can hold; both are part of the record, so no operation has to check them again. What a new record
holds before anything is put into it is up to the type too: each field says what it begins with.
-/

set_option autoImplicit false

namespace RecordEngine

/-- A declared field: its place in the schema, the type of its values, and what it holds in a new
record. -/
structure Field extends FieldDef where
  type : FieldType
  initial : Value := type.default
  admits_initial : type.admits initial = true := by exact FieldType.admits_default _
  deriving DecidableEq, Repr

/-- A type of records. It is what it declares and nothing else. -/
structure EntityType where
  name : String
  fields : List Field
  deriving DecidableEq, Repr

/-- What the engine knows of the type. -/
def EntityType.schema (E : EntityType) : Schema := ⟨E.name, E.fields.map (·.toFieldDef)⟩

/-- One value for each field, of the field's type. -/
def Fits : List Field → List Value → Prop
  | [], [] => True
  | f :: fs, v :: vs => f.type.admits v = true ∧ Fits fs vs
  | _, _ => False

theorem fits_initial (fs : List Field) : Fits fs (fs.map (·.initial)) := by
  induction fs with
  | nil => trivial
  | cons f fs ih => exact ⟨f.admits_initial, ih⟩

theorem Fits.set {fs : List Field} {vs : List Value} (h : Fits fs vs) {i : Nat} {f : Field}
    (hf : fs[i]? = some f) {v : Value} (hv : f.type.admits v = true) : Fits fs (vs.set i v) := by
  induction fs generalizing vs i with
  | nil => simp at hf
  | cons g gs ih =>
    cases vs with
    | nil => exact h.elim
    | cons w ws =>
      cases i with
      | zero =>
        obtain rfl : g = f := by simpa using hf
        exact ⟨hv, h.2⟩
      | succ i => exact ⟨h.1, ih h.2 (by simpa using hf)⟩

/-- A record of an entity type. -/
structure Record (E : EntityType) where
  values : List Value
  fits : Fits E.fields values
  deriving DecidableEq

namespace Record

variable {E : EntityType}

/-- The record every field of which holds what it begins with; a new record is compared with it. -/
def default (E : EntityType) : Record E := ⟨E.fields.map (·.initial), fits_initial E.fields⟩

instance : Inhabited (Record E) := ⟨default E⟩

/-- The value of a field; null past the last one. -/
def field (r : Record E) (index : Nat) : Value := r.values.getD index .null

/-- The record with one field given a new value. -/
def setField (r : Record E) (index : Nat) (value : Value) : Except Failure (Record E) :=
  match hf : E.fields[index]? with
  | none => .error (.execution (E.name ++ " has no field #" ++ toString index))
  | some f =>
    match hv : f.type.convert value with
    | .error failure => .error (failure.inField f.name)
    | .ok v => .ok ⟨r.values.set index v, r.fits.set hf (FieldType.admits_of_convert hv)⟩

/-- The values in field order. -/
def toRow (r : Record E) : Row := r.values

/-- The record with the fields from `index` on given the values of a row, as far as it goes. -/
def setFrom (r : Record E) (index : Nat) : Row → Except Failure (Record E)
  | [] => .ok r
  | value :: rest =>
    match r.setField index value with
    | .error failure => .error failure
    | .ok r => r.setFrom (index + 1) rest

/-- The record a row stands for; fields beyond its end keep their defaults. -/
def ofRow (E : EntityType) (row : Row) : Except Failure (Record E) := (default E).setFrom 0 row

/-- A value as an identifier. -/
def idText : Value → String
  | .null => ""
  | .text s => s
  | v => v.display

/-- The identifier; empty for a type that declares none. -/
def id (r : Record E) : String :=
  match E.schema.roleIndex? .identifier with
  | some index => idText (r.field index)
  | none => ""

/-- The version, if the type declares one and the record carries it. -/
def version? (r : Record E) : Option Int :=
  (E.schema.roleIndex? .version).bind fun index => (r.field index).asInteger?

/-- The record with the field of a role, if there is one, given a new value. -/
def stamp (r : Record E) (role : Role) (value : Value) : Except Failure (Record E) :=
  match E.schema.roleIndex? role with
  | some index => r.setField index value
  | none => .ok r

end Record

end RecordEngine
