import RecordEngine.Failure
import RecordEngine.Value
/-!
The types of fields and the values they take.

`convert` is the way in: it accepts the values a type can hold and, for numbers in floating point,
whole numbers too, which become the nearest double. What comes out is `admitted`, and an admitted
value converts to itself, so storing a value a second time changes nothing.
-/

set_option autoImplicit false

namespace RecordEngine

/-- The type of a field. -/
inductive FieldType where
  | text
  | int64
  | int32
  | float64
  | boolean
  | instant
  /-- The inner type or null; nested options share their one null. -/
  | option (inner : FieldType)
  deriving DecidableEq, Repr

/-- Whether a two's complement word of this many bits holds the number. -/
def fitsBits (bits : Nat) (n : Int) : Bool :=
  let half : Int := Nat.pow 2 (bits - 1)
  n < half && -half ≤ n

namespace FieldType

/-- What a value of the wrong kind is refused with. -/
def mismatch (expected : String) (got : Value) : Failure :=
  .typeMismatch ("expected " ++ expected ++ ", got " ++ got.typeName)

/-- What a number too large for its type is refused with. -/
def overflow (bits : Nat) (n : Int) : Failure :=
  .typeMismatch (toString n ++ " does not fit in a " ++ toString bits ++ "-bit integer")

/-- A whole number for a type of so many bits. -/
def convertInteger (bits : Nat) : Value → Except Failure Value
  | .integer n => if fitsBits bits n then .ok (.integer n) else .error (overflow bits n)
  | v => .error (mismatch "INTEGER" v)

/-- The value a field of this type takes on when it is given `v`. -/
def convert : FieldType → Value → Except Failure Value
  | text, .text s => .ok (.text s)
  | text, v => .error (mismatch "TEXT" v)
  | int64, v => convertInteger 64 v
  | int32, v => convertInteger 32 v
  | float64, .float x => .ok (.float x)
  | float64, .integer n => .ok (.float (Binary64.ofInt n))
  | float64, v => .error (mismatch "FLOAT" v)
  | boolean, .boolean b => .ok (.boolean b)
  | boolean, v => .error (mismatch "BOOLEAN" v)
  | instant, .timestamp t => .ok (.timestamp t)
  | instant, v => .error (mismatch "TIMESTAMP" v)
  | option _, .null => .ok .null
  | option inner, v => inner.convert v

/-- Whether a field of this type can hold `v`. -/
def admits : FieldType → Value → Bool
  | text, .text _ => true
  | int64, .integer n => fitsBits 64 n
  | int32, .integer n => fitsBits 32 n
  | float64, .float _ => true
  | boolean, .boolean _ => true
  | instant, .timestamp _ => true
  | option _, .null => true
  | option inner, v => inner.admits v
  | _, _ => false

/-- What a field of this type holds in a new record. -/
def default : FieldType → Value
  | text => .text ""
  | int64 => .integer 0
  | int32 => .integer 0
  | float64 => .float (.zero false)
  | boolean => .boolean false
  | instant => .timestamp ⟨0, 0⟩
  | option _ => .null

theorem admits_default (t : FieldType) : t.admits t.default = true := by
  cases t <;> rfl

theorem admits_option_of_admits (t : FieldType) (v : Value) (h : t.admits v = true) :
    (option t).admits v = true := by
  cases v with
  | null => rfl
  | _ => exact h

theorem admits_of_convertInteger {bits : Nat} {v w : Value}
    (h : convertInteger bits v = .ok w) : ∃ n, w = .integer n ∧ fitsBits bits n = true := by
  cases v with
  | integer n =>
    rw [convertInteger] at h
    split at h
    next hn =>
      cases h
      exact ⟨n, rfl, hn⟩
    next => cases h
  | _ => cases h

/-- What comes out of a conversion can be held. -/
theorem admits_of_convert {t : FieldType} {v w : Value} (h : t.convert v = .ok w) :
    t.admits w = true := by
  induction t generalizing v w with
  | text =>
    cases v with
    | text s => cases h; rfl
    | _ => cases h
  | int64 =>
    obtain ⟨n, rfl, hn⟩ := admits_of_convertInteger h
    exact hn
  | int32 =>
    obtain ⟨n, rfl, hn⟩ := admits_of_convertInteger h
    exact hn
  | float64 =>
    cases v with
    | float x => cases h; rfl
    | integer n => cases h; rfl
    | _ => cases h
  | boolean =>
    cases v with
    | boolean b => cases h; rfl
    | _ => cases h
  | instant =>
    cases v with
    | timestamp t => cases h; rfl
    | _ => cases h
  | option t ih =>
    cases v with
    | null => cases h; rfl
    | _ => exact admits_option_of_admits t w (ih h)

/-- What can be held is stored as it is. -/
theorem convert_of_admits {t : FieldType} {v : Value} (h : t.admits v = true) :
    t.convert v = .ok v := by
  induction t with
  | text =>
    cases v with
    | text s => rfl
    | _ => cases h
  | int64 =>
    cases v with
    | integer n => exact if_pos h
    | _ => cases h
  | int32 =>
    cases v with
    | integer n => exact if_pos h
    | _ => cases h
  | float64 =>
    cases v with
    | float x => rfl
    | _ => cases h
  | boolean =>
    cases v with
    | boolean b => rfl
    | _ => cases h
  | instant =>
    cases v with
    | timestamp t => rfl
    | _ => cases h
  | option t ih =>
    cases v with
    | null => rfl
    | _ => exact ih h

end FieldType

end RecordEngine
