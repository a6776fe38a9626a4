import RecordEngine.Text.Hidden
/-!
Texts in quotes, as descriptions of the engine and its parts show them.

A quote and a backslash are escaped, line ends, tabs and the null character have letters, and any
other character that leaves no mark is given by its number.
-/

set_option autoImplicit false

namespace RecordEngine

namespace Text

/-- A character by its number in base sixteen. -/
def numbered (c : Char) : List Char :=
  "\\u\x7b".toList ++ Nat.toDigits 16 c.toNat ++ ['\x7d']

/-- How a character stands inside quotes. -/
def shown (c : Char) : List Char :=
  if c = '"' then ['\\', '"']
  else if c = '\\' then ['\\', '\\']
  else if c = '\n' then ['\\', 'n']
  else if c = '\r' then ['\\', 'r']
  else if c = '\t' then ['\\', 't']
  else if c = '\x00' then ['\\', '0']
  else if isHidden c then numbered c
  else [c]

/-- A text in quotes. -/
def quoted (s : String) : String := String.ofList ('"' :: s.toList.flatMap shown ++ ['"'])

/-- A list, its items given as they are shown. -/
def listed (items : List String) : String := "[" ++ String.intercalate ", " items ++ "]"

/-- A structure with its fields, given as they are shown. -/
def structured (name : String) (fields : List (String × String)) : String :=
  name ++ " \x7b " ++ String.intercalate ", " (fields.map fun (k, v) => k ++ ": " ++ v) ++ " \x7d"

/-- A set, its members given as they are shown. -/
def braced (items : List String) : String := "\x7b" ++ String.intercalate ", " items ++ "\x7d"

/-- An optional value, given as it is shown. -/
def optional : Option String → String
  | none => "None"
  | some s => "Some(" ++ s ++ ")"

end Text

end RecordEngine
