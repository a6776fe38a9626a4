import RecordEngine.Document
import RecordEngine.Text.Hex
/-!
Reading a document from its text.

The grammar is the usual one: blanks between tokens, no trailing commas, numbers without leading
zeros, and nothing after the value. Text that is well formed but stands for no value is read as
`Document.unreadable`, so that it does no harm where it is passed over.
-/

set_option autoImplicit false

namespace RecordEngine

namespace Document

/-! ## Blanks and literals -/

def isBlank (c : Char) : Bool := c == ' ' || c == '\t' || c == '\n' || c == '\r'

def skipBlanks (s : List Char) : List Char := s.dropWhile isBlank

/-- What follows an expected beginning. -/
def afterWord? : List Char → List Char → Option (List Char)
  | [], s => some s
  | _, [] => none
  | w :: word, c :: s => if w = c then afterWord? word s else none

/-! ## Quoted text -/

/-- The number written in four digits of base sixteen. -/
def hexUnit? (a b c d : Char) : Option Nat := do
  let a ← Text.hexValue? a
  let b ← Text.hexValue? b
  let c ← Text.hexValue? c
  let d ← Text.hexValue? d
  return ((a * 16 + b) * 16 + c) * 16 + d

def isHighSurrogate (u : Nat) : Bool := 0xD800 ≤ u && u < 0xDC00

def isLowSurrogate (u : Nat) : Bool := 0xDC00 ≤ u && u < 0xE000

/-- What a one-letter escape stands for. -/
def escapeLetter? (c : Char) : Option Char :=
  match c with
  | '"' => some '"'
  | '\\' => some '\\'
  | '/' => some '/'
  | 'b' => some '\x08'
  | 'f' => some '\x0c'
  | 'n' => some '\n'
  | 'r' => some '\r'
  | 't' => some '\t'
  | _ => none

/-- One piece of a quoted text: a character, or a number of 16 bits given in base sixteen, which
may be half of a character. -/
inductive TextUnit where
  | char (c : Char)
  | code (u : Nat)

/-- The pieces up to the closing quote and what follows it. Control characters have to be
escaped. -/
def readUnits : List Char → Option (List TextUnit × List Char)
  | '"' :: rest => some ([], rest)
  | '\\' :: 'u' :: a :: b :: c :: d :: rest =>
    match hexUnit? a b c d with
    | none => none
    | some u => (readUnits rest).map fun (units, r) => (.code u :: units, r)
  | '\\' :: c :: rest =>
    match escapeLetter? c with
    | none => none
    | some letter => (readUnits rest).map fun (units, r) => (.char letter :: units, r)
  | c :: rest =>
    if c.toNat < 0x20 || c == '\\' then none
    else (readUnits rest).map fun (units, r) => (.char c :: units, r)
  | [] => none

/-- The text the pieces make: a high and a low surrogate are one character together, and either
of them alone is none. -/
def joinUnits : List TextUnit → Option (List Char)
  | [] => some []
  | .char c :: rest => (joinUnits rest).map (c :: ·)
  | [.code u] =>
    if isHighSurrogate u || isLowSurrogate u then none else some [Char.ofNat u]
  | .code u :: .code v :: rest =>
    if isHighSurrogate u && isLowSurrogate v then
      (joinUnits rest).map (Char.ofNat (0x10000 + (u - 0xD800) * 0x400 + (v - 0xDC00)) :: ·)
    else if isHighSurrogate u || isLowSurrogate u then none
    else (joinUnits (.code v :: rest)).map (Char.ofNat u :: ·)
  | .code u :: .char c :: rest =>
    if isHighSurrogate u || isLowSurrogate u then none
    else (joinUnits rest).map fun cs => Char.ofNat u :: c :: cs

/-- The text up to the closing quote and what follows it; the text is missing when half of a
surrogate pair stands in it. -/
def readQuoted (s : List Char) : Option (Option (List Char) × List Char) :=
  (readUnits s).map fun (units, r) => (joinUnits units, r)

/-! ## Numbers -/

/-- The bound of the significand that is carried along while digits are read. -/
def significandBound : Nat := UInt64.size

def digitValue (c : Char) : Nat := c.toNat - '0'.toNat

/-- The significand of the digits before the point, and how many digits at the end it leaves out
for want of room. -/
def wholePart : Nat → List Char → Nat × Nat
  | significand, [] => (significand, 0)
  | significand, c :: rest =>
    let next := significand * 10 + digitValue c
    if next < significandBound then wholePart next rest else (significand, rest.length + 1)

/-- The significand with the digits after the point for which there is room, and their number. -/
def fractionPart : Nat → List Char → Nat × Nat
  | significand, [] => (significand, 0)
  | significand, c :: rest =>
    let next := significand * 10 + digitValue c
    if next < significandBound then
      let (m, n) := fractionPart next rest
      (m, n + 1)
    else (significand, 0)

/-- The number in floating point, if it is not too large for one. -/
def floatOf (negative : Bool) (significand : Nat) (e : Int) : Document :=
  match Binary64.ofDecimal negative significand e with
  | some x => .float x
  | none => .unreadable

/-- The document of a number given by its digits before the point and, where present, its digits
after it and its exponent. Without either it is a whole number, if one of 64 bits holds it; the
negative zero is none. -/
def ofNumeral (negative : Bool) (whole : List Char) (fraction : Option (List Char))
    (exponent : Option Int) : Document :=
  let (m, dropped) := wholePart 0 whole
  match fraction, exponent with
  | none, none =>
    if dropped = 0 ∧ !negative then .integer m
    else if dropped = 0 ∧ m ≠ 0 ∧ m ≤ Nat.pow 2 63 then .integer (-m)
    else floatOf negative m dropped
  | _, _ =>
    let (m, used) := fractionPart m (fraction.getD [])
    floatOf negative m ((dropped : Int) - used + exponent.getD 0)

/-- The digits of an exponent with their sign. -/
def readExponent (s : List Char) : Option (Int × List Char) :=
  let (negative, s) := match s with
    | '-' :: r => (true, r)
    | '+' :: r => (false, r)
    | _ => (false, s)
  let digits := s.takeWhile Char.isDigit
  if digits.isEmpty then none
  else
    let n : Int := Nat.ofDigitChars 10 digits 0
    some (if negative then -n else n, s.dropWhile Char.isDigit)

/-- What follows the digits before the point: an optional fraction and an optional exponent. -/
def readNumberEnd (negative : Bool) (whole : List Char) (s : List Char) :
    Option (Document × List Char) := do
  let (fraction, s) ← match s with
    | '.' :: r =>
      let digits := r.takeWhile Char.isDigit
      if digits.isEmpty then none else some (some digits, r.dropWhile Char.isDigit)
    | _ => some (none, s)
  let (exponent, s) ← match s with
    | 'e' :: r | 'E' :: r => (readExponent r).map fun (e, r) => (some e, r)
    | _ => some (none, s)
  return (ofNumeral negative whole fraction exponent, s)

/-- A number without its sign. -/
def readNumber (negative : Bool) (s : List Char) : Option (Document × List Char) :=
  let whole := s.takeWhile Char.isDigit
  if whole.isEmpty || (whole.head? == some '0' && whole.length ≠ 1) then none
  else readNumberEnd negative whole (s.dropWhile Char.isDigit)

/-! ## Values -/

/-- One more member in front of those already read; a key that is no text spoils the object. -/
def consMember (key : Option (List Char)) (value : Document) : Document → Document
  | .object members =>
    match key with
    | some k => .object ((String.ofList k, value) :: members)
    | none => .unreadable
  | d => d

/-- One more item in front of those already read. -/
def consItem (item : Document) : Document → Document
  | .array items => .array (item :: items)
  | d => d

mutual

/-- A value at the beginning of the text and what follows it. Every nested call has less text to
read, so its length is fuel enough. -/
def readValue : Nat → List Char → Option (Document × List Char)
  | 0, _ => none
  | fuel + 1, s =>
    match skipBlanks s with
    | '\x7b' :: r =>
      match skipBlanks r with
      | '\x7d' :: r => some (.object [], r)
      | r => readMembers fuel r
    | '[' :: r =>
      match skipBlanks r with
      | ']' :: r => some (.array [], r)
      | r => readItems fuel r
    | '"' :: r => (readQuoted r).map fun (content, r) =>
      (match content with
        | some cs => .text (String.ofList cs)
        | none => .unreadable, r)
    | '-' :: r => readNumber true r
    | 't' :: r => (afterWord? "rue".toList r).map fun r => (.boolean true, r)
    | 'f' :: r => (afterWord? "alse".toList r).map fun r => (.boolean false, r)
    | 'n' :: r => (afterWord? "ull".toList r).map fun r => (.null, r)
    | r => readNumber false r

/-- The items of an array from the first one on. -/
def readItems : Nat → List Char → Option (Document × List Char)
  | 0, _ => none
  | fuel + 1, s =>
    match readValue fuel s with
    | none => none
    | some (item, r) =>
      match skipBlanks r with
      | ']' :: r => some (.array [item], r)
      | ',' :: r => (readItems fuel r).map fun (rest, r) => (consItem item rest, r)
      | _ => none

/-- The members of an object from the first one on. -/
def readMembers : Nat → List Char → Option (Document × List Char)
  | 0, _ => none
  | fuel + 1, s =>
    match skipBlanks s with
    | '"' :: r =>
      match readQuoted r with
      | none => none
      | some (key, r) =>
        match skipBlanks r with
        | ':' :: r =>
          match readValue fuel r with
          | none => none
          | some (value, r) =>
            match skipBlanks r with
            | '\x7d' :: r => some (consMember key value (.object []), r)
            | ',' :: r => (readMembers fuel r).map fun (rest, r) => (consMember key value rest, r)
            | _ => none
        | _ => none
    | _ => none

end

/-- The document a text holds, if it is well formed and nothing follows it. -/
def read (s : String) : Option Document :=
  let cs := s.toList
  match readValue (cs.length + 1) cs with
  | some (d, rest) => if (skipBlanks rest).isEmpty then some d else none
  | none => none

end Document

end RecordEngine
