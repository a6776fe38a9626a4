import RecordEngine.Text.Hex
import RecordEngine.Text.Identifier
/-!
Literals of a written declaration: texts, characters and numbers.

A text is quoted. Its escapes are read, unless a letter `r` in front says that it has none. There
are three kinds of texts, which differ in what may stand in them: plain ones, texts of bytes, and
texts for other programs. Only of a plain text it matters what it stands for; of all other literals
it is enough to know where they end.
-/

set_option autoImplicit false

namespace RecordEngine

namespace Declaration

inductive Literal where
  | text (s : String)
  | number
  /-- A character, a text that is not a plain one, or the sign of an error. -/
  | other
  deriving DecidableEq, Repr

/-- What may stand between quotes. -/
structure Quoting where
  /-- The numbers of escapes with two digits are below this. -/
  bound : Nat
  /-- Whether there are escapes with a number in braces. -/
  braced : Bool
  /-- Whether a character that is not escaped is ASCII. -/
  ascii : Bool
  /-- Whether the null character may come up. -/
  nullable : Bool
  deriving DecidableEq, Repr

namespace Quoting

def plain : Quoting := ⟨128, true, false, true⟩

def bytes : Quoting := ⟨256, false, true, true⟩

/-- Texts for other programs end at the null character, so they have none inside. -/
def foreign : Quoting := ⟨256, true, false, false⟩

/-- Whether a character may stand as it is. -/
def admits (quoting : Quoting) (c : Char) : Bool :=
  (!quoting.ascii || c.toNat < 128) && (quoting.nullable || c != '\x00')

end Quoting

namespace Literal

/-! ## Escapes -/

/-- The number in the braces of an escape: up to six digits in base sixteen, with underscores after
the first. -/
def bracedNumber? (digits value : Nat) : List Char → Option (Nat × List Char)
  | [] => none
  | c :: rest =>
    if c = '_' ∧ 0 < digits then bracedNumber? digits value rest
    else if c = '\x7d' ∧ 0 < digits then some (value, rest)
    else do
      let digit ← Text.hexValue? c
      if digits = 6 then none else bracedNumber? (digits + 1) (value * 16 + digit) rest

/-- What the letters of escapes stand for. -/
def escapeLetters : List (Char × Char) :=
  [('n', '\n'), ('r', '\r'), ('t', '\t'), ('\\', '\\'), ('0', '\x00'), ('\'', '\''),
   ('"', '"')]

/-- What an escape stands for, its backslash being read, and what follows it. -/
def escape? (quoting : Quoting) (cs : List Char) : Option (Char × List Char) := do
  let (c, rest) ← match cs with
    | 'x' :: a :: b :: rest => do
      let code := 16 * (← Text.hexValue? a) + (← Text.hexValue? b)
      if code < quoting.bound then some (Char.ofNat code, rest) else none
    | 'u' :: '\x7b' :: cs => do
      let (code, rest) ← bracedNumber? 0 0 cs
      if quoting.braced ∧ code.isValidChar then some (Char.ofNat code, rest) else none
    | c :: rest => (escapeLetters.lookup c).map fun letter => (letter, rest)
    | [] => none
  if quoting.nullable || c != '\x00' then some (c, rest) else none

/-! ## Texts -/

/-- The inside of a quoted text, its opening quote being read, and what follows its closing
quote. -/
def quotedBody? : List Char → Option (List Char × List Char)
  | '\\' :: c :: cs => (quotedBody? cs).map fun (body, rest) => ('\\' :: c :: body, rest)
  | '"' :: rest => some ([], rest)
  | c :: cs => (quotedBody? cs).map fun (body, rest) => (c :: body, rest)
  | [] => none

/-- What follows the blanks at the beginning of a text; a carriage return belongs to a line end. -/
def afterIndentation? : List Char → Option (List Char)
  | '\r' :: '\n' :: cs => afterIndentation? cs
  | '\r' :: _ => none
  | ' ' :: cs => afterIndentation? cs
  | '\t' :: cs => afterIndentation? cs
  | '\n' :: cs => afterIndentation? cs
  | cs => some cs

/-- The text that the inside of a quoted text stands for. An escaped line end is left out with the
blanks after it, and a carriage return belongs to a line end. `fuel` bounds the length. -/
def unescape? (quoting : Quoting) : Nat → List Char → Option (List Char)
  | _, [] => some []
  | 0, _ => none
  | fuel + 1, '\\' :: cs =>
    match cs with
    | '\n' :: cs => do unescape? quoting fuel (← afterIndentation? cs)
    | '\r' :: '\n' :: cs => do unescape? quoting fuel (← afterIndentation? cs)
    | cs => do
      let (c, cs) ← escape? quoting cs
      return c :: (← unescape? quoting fuel cs)
  | fuel + 1, '\r' :: cs =>
    match cs with
    | '\n' :: cs => (unescape? quoting fuel cs).map ('\n' :: ·)
    | _ => none
  | fuel + 1, c :: cs =>
    if quoting.admits c then (unescape? quoting fuel cs).map (c :: ·) else none

/-- A text with escapes, its opening quote being read, and what follows it. -/
def quoted? (quoting : Quoting) (cs : List Char) : Option (List Char × List Char) := do
  let (body, rest) ← quotedBody? cs
  return (← unescape? quoting body.length body, rest)

/-- The inside of a text without escapes, up to a quote with so many number signs behind it. -/
def rawBody? (signs : Nat) : List Char → Option (List Char × List Char)
  | [] => none
  | c :: cs =>
    if c = '"' ∧ cs.take signs = List.replicate signs '#' then some ([], cs.drop signs)
    else (rawBody? signs cs).map fun (body, rest) => (c :: body, rest)

/-- Whether a text without escapes may have this inside. -/
def isRawBody (quoting : Quoting) : List Char → Bool
  | [] => true
  | '\r' :: '\n' :: cs => isRawBody quoting cs
  | '\r' :: _ => false
  | c :: cs => quoting.admits c && isRawBody quoting cs

/-- The number signs that can stand in front of a text without escapes. -/
def signLimit : Nat := 255

/-- A text without escapes, from its number signs on, and what follows it. -/
def raw? (quoting : Quoting) (cs : List Char) : Option (List Char × List Char) :=
  let signs := (cs.takeWhile (· == '#')).length
  match cs.dropWhile (· == '#') with
  | '"' :: rest => do
    let (body, rest) ← rawBody? signs rest
    if signs ≤ signLimit ∧ isRawBody quoting body then some (body, rest) else none
  | _ => none

/-! ## Characters and numbers -/

/-- What follows a character in quotes, the opening quote being read. -/
def afterCharacter? (quoting : Quoting) (cs : List Char) : Option (List Char) := do
  let rest ← match cs with
    | '\\' :: cs => (escape? quoting cs).map (·.2)
    | c :: cs => if quoting.admits c then some cs else none
    | [] => none
  match rest with
  | '\'' :: rest => some rest
  | _ => none

/-- What follows the digits of a whole number, `empty` telling that none was read yet. Underscores
may stand between them. -/
def afterDigits? (base : Nat) : Bool → List Char → Option (List Char)
  | empty, [] => if empty then none else some []
  | empty, c :: rest =>
    if c = '_' then if empty ∧ base = 10 then none else afterDigits? base empty rest
    else
      match Text.hexValue? c with
      | some digit =>
        if digit < base then afterDigits? base false rest
        else if empty ∨ c.isDigit then none
        else some (c :: rest)
      | none => if empty then none else some (c :: rest)

def afterInteger? : List Char → Option (List Char)
  | '0' :: 'x' :: rest => afterDigits? 16 true rest
  | '0' :: 'o' :: rest => afterDigits? 8 true rest
  | '0' :: 'b' :: rest => afterDigits? 2 true rest
  | cs => afterDigits? 10 true cs

/-- What follows an exponent, its letter being read: `signed` and `valued` tell whether a sign and a
digit were read. -/
def afterExponent? : Bool → Bool → List Char → Option (List Char)
  | _, valued, [] => if valued then some [] else none
  | signed, valued, c :: rest =>
    if c.isDigit then afterExponent? signed true rest
    else if c = '_' then afterExponent? signed valued rest
    else if valued then some (c :: rest)
    else if (c = '+' ∨ c = '-') ∧ !signed then afterExponent? true false rest
    else none

def isExponentLetter (c : Char) : Bool := c == 'e' || c == 'E'

def isNumberChar (c : Char) : Bool := c.isDigit || c == '_'

/-- What follows a number with a fraction or an exponent. An exponent without digits is none, and
without a fraction the number is not of this form then. -/
def afterDecimal? (cs : List Char) : Option (List Char) := do
  if !((cs.head?.map Char.isDigit).getD false) then none
  match cs.dropWhile isNumberChar with
  | '.' :: fraction =>
    if fraction.head?.any fun c => c == '.' || Text.canBegin c then none
    let rest := fraction.dropWhile isNumberChar
    match rest with
    | e :: exponent =>
      if isExponentLetter e then some ((afterExponent? false false exponent).getD rest)
      else some rest
    | [] => some []
  | e :: exponent => if isExponentLetter e then afterExponent? false false exponent else none
  | [] => none

def afterNumber? (cs : List Char) : Option (List Char) :=
  (afterDecimal? cs).or (afterInteger? cs)

/-! ## Reading -/

/-- A literal in quotes, and what follows it. -/
def readQuoted? : List Char → Option (Literal × List Char)
  | '"' :: cs => (quoted? .plain cs).map fun (s, rest) => (.text (String.ofList s), rest)
  | 'r' :: cs => (raw? .plain cs).map fun (s, rest) => (.text (String.ofList s), rest)
  | 'b' :: '"' :: cs => (quoted? .bytes cs).map fun (_, rest) => (.other, rest)
  | 'b' :: 'r' :: cs => (raw? .bytes cs).map fun (_, rest) => (.other, rest)
  | 'c' :: '"' :: cs => (quoted? .foreign cs).map fun (_, rest) => (.other, rest)
  | 'c' :: 'r' :: cs => (raw? .foreign cs).map fun (_, rest) => (.other, rest)
  | 'b' :: '\'' :: cs => (afterCharacter? .bytes cs).map fun rest => (.other, rest)
  | '\'' :: cs => (afterCharacter? .plain cs).map fun rest => (.other, rest)
  | _ => none

/-- What is left after the kind of a literal, a word written right behind it. -/
def afterSuffix (cs : List Char) : List Char := ((Text.identifier? cs).map (·.2)).getD cs

/-- A literal at the beginning of a text, and what follows it and its kind. -/
def read? (cs : List Char) : Option (Literal × List Char) :=
  let found := (readQuoted? cs).or ((afterNumber? cs).map fun rest => (.number, rest))
  found.map fun (literal, rest) => (literal, afterSuffix rest)

end Literal

end Declaration

end RecordEngine
