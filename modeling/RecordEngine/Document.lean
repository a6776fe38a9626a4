import RecordEngine.Binary64.Decimal
/-!
Documents: the tree-shaped data that configurations, request options and handler flags are
written in, and their one compact text.

A whole number and a number in floating point are different documents. An object is the list of
its members in order; `normalize` gives the form in which keys ascend and are given once.
-/

set_option autoImplicit false

namespace RecordEngine

/-- A document. -/
inductive Document where
  | null
  | boolean (b : Bool)
  | integer (n : Int)
  | float (x : Binary64)
  | text (s : String)
  | array (items : List Document)
  | object (members : List (String × Document))
  /-- Well-formed text that stands for no value: a number beyond the greatest double, or a text
  with half of a surrogate pair, also as the key of an object. -/
  | unreadable

namespace Document

instance : Inhabited Document := ⟨.null⟩

/-! ## Text -/

def hexDigits : List Char := "0123456789abcdef".toList

/-- A digit in base sixteen. -/
def hexDigit (n : Nat) : Char := hexDigits.getD (n % 16) '0'

/-- How a character stands inside quotes: only the quote, the backslash and the control
characters are escaped. -/
def escaped (c : Char) : List Char :=
  if c = '"' then ['\\', '"']
  else if c = '\\' then ['\\', '\\']
  else if c = '\x08' then ['\\', 'b']
  else if c = '\x0c' then ['\\', 'f']
  else if c = '\n' then ['\\', 'n']
  else if c = '\r' then ['\\', 'r']
  else if c = '\t' then ['\\', 't']
  else if c.toNat < 0x20 then
    ['\\', 'u', '0', '0', hexDigit (c.toNat / 16), hexDigit c.toNat]
  else [c]

/-- A text in quotes. -/
def quoted (s : String) : List Char := '"' :: s.toList.flatMap escaped ++ ['"']

/-- A whole number in decimal. -/
def integerChars (n : Int) : List Char :=
  if n < 0 then '-' :: Nat.toDigits 10 n.natAbs else Nat.toDigits 10 n.natAbs

mutual

/-- The compact text, as characters. -/
def chars : Document → List Char
  | null => "null".toList
  | boolean b => if b then "true".toList else "false".toList
  | integer n => integerChars n
  | float x => (DecimalLayout.document.write x).toList
  | text s => quoted s
  | array items => '[' :: itemChars items
  | object members => '\x7b' :: memberChars members
  | unreadable => "null".toList

/-- The rest of an array after its bracket or a comma. -/
def itemChars : List Document → List Char
  | [] => [']']
  | [d] => chars d ++ [']']
  | d :: rest => chars d ++ ',' :: itemChars rest

/-- The rest of an object after its brace or a comma. -/
def memberChars : List (String × Document) → List Char
  | [] => ['\x7d']
  | [(k, d)] => quoted k ++ ':' :: (chars d ++ ['\x7d'])
  | (k, d) :: rest => quoted k ++ ':' :: (chars d ++ ',' :: memberChars rest)

end

/-- The compact text. -/
def print (d : Document) : String := String.ofList d.chars

/-! ## Normal form -/

/-- Members with one more in key order; under a key already present the new value stands. -/
def insertMember {α : Type} (key : String) (value : α) : List (String × α) → List (String × α)
  | [] => [(key, value)]
  | (k, v) :: rest =>
    if key < k then (key, value) :: (k, v) :: rest
    else if key = k then (key, value) :: rest
    else (k, v) :: insertMember key value rest

/-- The members in key order, of each key the last. -/
def sortMembers {α : Type} (members : List (String × α)) : List (String × α) :=
  members.foldl (fun sorted m => insertMember m.1 m.2 sorted) []

mutual

/-- The same document with every object in normal form. -/
def normalize : Document → Document
  | array items => array (normalizeItems items)
  | object members => object (sortMembers (normalizeMembers members))
  | d => d

def normalizeItems : List Document → List Document
  | [] => []
  | d :: rest => normalize d :: normalizeItems rest

def normalizeMembers : List (String × Document) → List (String × Document)
  | [] => []
  | (k, d) :: rest => (k, normalize d) :: normalizeMembers rest

end

/-! ## Parts -/

/-- The value under a key of an object. -/
def member? (d : Document) (key : String) : Option Document :=
  match d with
  | object members => members.lookup key
  | _ => none

def asText? : Document → Option String
  | text s => some s
  | _ => none

def asBoolean? : Document → Option Bool
  | boolean b => some b
  | _ => none

def asInteger? : Document → Option Int
  | integer n => some n
  | _ => none

/-- A whole number from zero to below the bound. -/
def asNatBelow? (bound : Nat) : Document → Option Nat
  | integer n => if 0 ≤ n ∧ n < bound then some n.toNat else none
  | _ => none

def asArray? : Document → Option (List Document)
  | array items => some items
  | _ => none

def asObject? : Document → Option (List (String × Document))
  | object members => some members
  | _ => none

/-- An array of texts. -/
def asTexts? : Document → Option (List String)
  | array items => items.mapM asText?
  | _ => none

/-! ## Structures -/

/-- The one value that an object gives a key: nothing if it lacks the key, and a failure if it
gives it twice. -/
def uniqueMember (members : List (String × Document)) (key : String) :
    Option (Option Document) :=
  match members.filter (·.1 == key) with
  | [] => some none
  | [m] => some (some m.2)
  | _ => none

/-- The fields of a structure, given as an object or as an array in field order. Missing ones are
left open and unknown keys are passed over; a known key given twice and a surplus element are
refused. -/
def fields? (names : List String) : Document → Option (List (Option Document))
  | object members => names.mapM (uniqueMember members)
  | array items =>
    if items.length ≤ names.length then
      some (items.map some ++ List.replicate (names.length - items.length) none)
    else none
  | _ => none

/-- A field read by `read`, or the default when it is left open. -/
def orDefault {α : Type} (read : Document → Option α) (default : α) : Option Document → Option α
  | none => some default
  | some d => read d

/-- A field that may be null. -/
def orNull {α : Type} (read : Document → Option α) : Document → Option (Option α)
  | null => some none
  | d => (read d).map some

end Document

end RecordEngine
