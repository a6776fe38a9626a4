import RecordEngine.Text.Case
import RecordEngine.Text.Identifier
/-!
Names made from names.

An entity is called after its structure, words in lower case between underscores, and every field
has a constant called after it, words run together with capitals. The second form is not one-to-one,
and what it makes of a name is not always one itself.
-/

set_option autoImplicit false

namespace RecordEngine

namespace Declaration

/-- An identifier without the mark that lets a keyword be one. -/
def plainName (name : String) : List Char :=
  match name.toList with
  | 'r' :: '#' :: rest => rest
  | cs => cs

/-- A character as the snake-case form has it: a capital in lower case, after an underscore unless
it comes first. -/
def snakeChar (first : Bool) (c : Char) : List Char :=
  if Text.isUpperCase c then
    if first then Text.lowerCase c else '_' :: Text.lowerCase c
  else [c]

def snakeCase : List Char → List Char
  | [] => []
  | c :: rest => snakeChar true c ++ rest.flatMap (snakeChar false)

/-- The pieces of a name between its underscores. -/
def chunks (name : List Char) : List (List Char) := (name.splitOnP (· == '_')).filter (· ≠ [])

/-- A piece with its first letter a capital. -/
def capitalized : List Char → List Char
  | [] => []
  | c :: rest => Text.upperCase c ++ rest

/-- The pieces run together with capitals; a name of underscores alone stays as it is. -/
def pascalCase (name : List Char) : List Char :=
  let joined := (chunks name).flatMap capitalized
  if joined.isEmpty then name else joined

/-- Words that have a meaning of their own and are no names; a lone underscore has one too. -/
def keywords : List String :=
  ["_", "abstract", "as", "async", "await", "become", "box", "break", "const", "continue", "crate",
   "do", "dyn", "else", "enum", "extern", "false", "final", "fn", "for", "if", "impl", "in", "let",
   "loop", "macro", "match", "mod", "move", "mut", "override", "priv", "pub", "ref", "return",
   "Self", "self", "static", "struct", "super", "trait", "true", "try", "type", "typeof", "unsafe",
   "unsized", "use", "virtual", "where", "while", "yield"]

/-- Whether a text is spelled like a name. Keywords are. -/
def isSpelled (text : String) : Bool :=
  match text.toList with
  | [] => false
  | c :: rest => Text.canBegin c && rest.all Text.canContinue

/-- Whether a text can be a name. -/
def isIdentifier (text : String) : Bool := isSpelled text && !keywords.contains text

end Declaration

end RecordEngine
