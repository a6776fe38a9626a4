import RecordEngine.Binary64.Decimal
import RecordEngine.Instant
/-!
Field values.

Two comparisons live side by side. `=` is identity: the same constructor with the same content, bit
for bit. `agrees` is the comparison that decides whether a field changed; it never crosses
constructors, and differs from identity only on numbers in floating point, where all NaNs agree and
so do the two zeros.
-/

set_option autoImplicit false

namespace RecordEngine

/-- The value of one field of a record. -/
inductive Value where
  | null
  | integer (n : Int)
  | float (x : Binary64)
  | text (s : String)
  | boolean (b : Bool)
  | timestamp (t : Instant)
  deriving DecidableEq, Repr

/-- A stored record: its values in the order its type declares the fields. -/
abbrev Row := List Value

namespace Value

instance : Inhabited Value := ⟨.null⟩

/-- The kind of the value, as messages name it. -/
def typeName : Value → String
  | null => "NULL"
  | integer _ => "INTEGER"
  | float _ => "FLOAT"
  | text _ => "TEXT"
  | boolean _ => "BOOLEAN"
  | timestamp _ => "TIMESTAMP"

/-- The number, if it is an integer. -/
def asInteger? : Value → Option Int
  | integer n => some n
  | _ => none

/-- The text, if it is one. -/
def asText? : Value → Option String
  | text s => some s
  | _ => none

def isNull : Value → Bool
  | null => true
  | _ => false

/-- Whether two values count as the same one when a change is looked for. -/
def agrees : Value → Value → Bool
  | null, null => true
  | integer a, integer b => a == b
  | float a, float b => a.agrees b
  | text a, text b => a == b
  | boolean a, boolean b => a == b
  | timestamp a, timestamp b => a == b
  | _, _ => false

/-- What a hash is fed for a value: the constructor and its content, one pattern for all NaNs. -/
inductive HashKey where
  | null
  | integer (n : Int)
  | float (bits : UInt64)
  | text (s : String)
  | boolean (b : Bool)
  | timestamp (t : Instant)
  deriving DecidableEq, Repr

def hashKey : Value → HashKey
  | null => .null
  | integer n => .integer n
  | float x => .float x.hashKey
  | text s => .text s
  | boolean b => .boolean b
  | timestamp t => .timestamp t

/-- The value as messages and identifiers show it. -/
def display : Value → String
  | null => "NULL"
  | integer n => toString n
  | float x => DecimalLayout.plain.write x
  | text s => s
  | boolean b => if b then "true" else "false"
  | timestamp t => t.text

end Value

end RecordEngine
