import RecordEngine.Declaration.Token
/-!
Annotations of a declaration, and what is wrong with one.

The options of the entity's annotation stand between commas. An option is a name, plain or a path,
and what follows it up to the comma; what may follow depends on the name, so it is left as tokens
here, with readers for the forms there are.
-/

set_option autoImplicit false

namespace RecordEngine

/-- What a constant can be called instead of by a name. -/
inductive Misnomer where
  /-- By a text that is not spelled like a name. The declaration is given up on the spot. -/
  | misspelled (text : String)
  /-- By a keyword. The type of the constants is written down, but does not compile. -/
  | keyword (text : String)
  deriving DecidableEq, Repr

/-- Why a declaration is refused. -/
inductive DeclarationError where
  /-- A text that cannot be cut into tokens. -/
  | unreadable
  /-- A keyword for a name. -/
  | keyword (name : String)
  | generic
  /-- The entity's annotation without options. -/
  | missingOptions
  /-- The entity's annotation with a value instead of options. -/
  | assignedOptions
  /-- A literal where the name of an option belongs. -/
  | literalOption
  /-- Some other token where the name of an option belongs. -/
  | namelessOption
  | unsupportedStructureOption
  | emptyName
  | notStructure
  | unnamedFields
  | notPlainOption
  | unsupportedFieldOption
  | twoRoles
  | emptyOneOf
  | repeatedRole (field other : String)
  | versionType
  | missingIdentifier
  /-- Something else was to stand here, or at the end of the options. -/
  | expected (what : String) (atEnd : Bool)
  /-- Something follows the declaration. -/
  | unexpectedToken
  /-- A field gives its constant a name that is none. -/
  | invalidConstant (misnomer : Misnomer)
  deriving DecidableEq, Repr

namespace DeclarationError

def message : DeclarationError → String
  | unreadable => "cannot parse string into token stream"
  | keyword name => "expected identifier, found keyword `" ++ name ++ "`"
  | generic => "Entity does not support generic structs"
  | missingOptions => "expected attribute arguments in parentheses: #[entity(...)]"
  | assignedOptions => "expected parentheses: #[entity(...)]"
  | literalOption => "unexpected literal in nested attribute, expected ident"
  | namelessOption => "unexpected token in nested attribute, expected ident"
  | unsupportedStructureOption =>
    "Unsupported #[entity(...)] struct option. Supported: name = \"...\""
  | emptyName => "entity name cannot be empty"
  | notStructure => "Entity can only be derived for structs"
  | unnamedFields => "Entity requires named fields"
  | notPlainOption => "expected a plain #[entity(...)] option"
  | unsupportedFieldOption =>
    "Unsupported #[entity(...)] field option. Supported: id, version, created_at, " ++
      "updated_at, created_by, updated_by, no_save, one_of(\"...\", ...)"
  | twoRoles => "a field can hold only one role"
  | emptyOneOf => "one_of(...) needs at least one value"
  | repeatedRole field other =>
    "field `" ++ field ++ "` repeats the role already held by `" ++ other ++ "`"
  | versionType => "#[entity(version)] field must be i64, i32 or an Option of either"
  | missingIdentifier => "Entity requires exactly one #[entity(id)] field"
  | expected what atEnd => (if atEnd then "unexpected end of input, " else "") ++ "expected " ++ what
  | unexpectedToken => "unexpected token"
  | invalidConstant (.misspelled text) => text ++ " is not a valid identifier"
  | invalidConstant (.keyword text) => "expected identifier, found keyword `" ++ text ++ "`"

end DeclarationError

namespace Declaration

/-- An annotation, as far as the entity is concerned. -/
inductive Annotation where
  /-- It is somebody else's. -/
  | foreign
  /-- The entity's, with nothing but its name. -/
  | bare
  /-- The entity's, with a value after an equals sign. -/
  | assigned
  /-- The entity's, with options in brackets. -/
  | options (tokens : List Token)

/-- The name of an option. -/
inductive OptionName where
  | plain (name : String)
  /-- A path of several words, or one that begins with colons. -/
  | path
  deriving DecidableEq, Repr

namespace OptionName

/-- Whether tokens begin with a literal; a number may have a sign. -/
def beginsLiteral : List Token → Bool
  | .literal _ :: _ => true
  | .mark '-' _ :: .literal .number :: _ => true
  | _ => false

/-- What is refused where the name of an option belongs. -/
def misplaced (tokens : List Token) : DeclarationError :=
  if beginsLiteral tokens then .literalOption else .namelessOption

/-- What follows a path, its first word being read. `atEnd` tells that no comma follows. -/
def afterPath (atEnd : Bool) : List Token → Except DeclarationError (List Token)
  | .mark ':' true :: .mark ':' _ :: rest =>
    match rest with
    | .word _ :: rest => afterPath atEnd rest
    | rest => .error (.expected "ident" (atEnd && rest.isEmpty))
  | rest => .ok rest

/-- The name at the beginning of an option, and what follows it. -/
def read (tokens : List Token) (atEnd : Bool) :
    Except DeclarationError (OptionName × List Token) :=
  match tokens with
  | .word name :: rest => do
    let argument ← afterPath atEnd rest
    return (if argument.length = rest.length then plain name else path, argument)
  | .mark ':' true :: .mark ':' _ :: rest =>
    match rest with
    | .word _ :: rest => return (path, ← afterPath atEnd rest)
    | rest =>
      if atEnd && rest.isEmpty then .error (.expected "nested attribute" true)
      else .error (misplaced rest)
  | tokens => .error (misplaced tokens)

end OptionName

/-! ## What follows the name of an option -/

/-- Refuses anything more before the comma. -/
def checkEnd (argument : List Token) : Except DeclarationError Unit :=
  if argument.isEmpty then .ok () else .error (.expected "`,`" false)

/-- A text after an equals sign, and what follows it. -/
def readAssigned (argument : List Token) (atEnd : Bool) :
    Except DeclarationError (String × List Token) :=
  match argument with
  | .mark '=' _ :: .literal (.text text) :: rest => .ok (text, rest)
  | .mark '=' _ :: rest => .error (.expected "string literal" (atEnd && rest.isEmpty))
  | _ => .error (.expected "`=`" false)

/-- Texts between commas; a comma may follow the last one. -/
def readTexts : List Token → Except DeclarationError (List String)
  | [] => .ok []
  | [.literal (.text text)] => .ok [text]
  | .literal (.text text) :: next :: rest =>
    if next.isComma then do return text :: (← readTexts rest)
    else .error (.expected "`,`" false)
  | _ :: _ => .error (.expected "string literal" false)

/-- Texts in parentheses, and what follows them. -/
def readListed (argument : List Token) (atEnd : Bool) :
    Except DeclarationError (List String × List Token) :=
  match argument with
  | .group .paren inner :: rest => do return (← readTexts inner, rest)
  | rest => .error (.expected "parentheses" (atEnd && rest.isEmpty))

/-! ## Reading options -/

/-- How an option changes what is known: its name, what follows it, and whether no comma does. -/
abbrev OptionReader (α : Type) :=
  α → OptionName → List Token → Bool → Except DeclarationError α

/-- Reads one option. -/
def readOption {α : Type} (read : OptionReader α) (a : α) (tokens : List Token) (atEnd : Bool) :
    Except DeclarationError α := do
  let (name, argument) ← OptionName.read tokens atEnd
  read a name argument atEnd

/-- Reads options that were parted at the commas, in order; nothing needs to follow the last
comma. -/
def readParted {α : Type} (read : OptionReader α) :
    α → List (List Token) → Except DeclarationError α
  | a, [] => .ok a
  | a, [last] => if last.isEmpty then .ok a else readOption read a last true
  | a, option :: rest => do readParted read (← readOption read a option false) rest

/-- Reads the options of an annotation. -/
def readOptions {α : Type} (read : OptionReader α) (a : α) (tokens : List Token) :
    Except DeclarationError α := readParted read a (tokens.splitOnP Token.isComma)

/-- Reads one annotation, which may be none of the entity's. -/
def readAnnotated {α : Type} (read : OptionReader α) (a : α) :
    Annotation → Except DeclarationError α
  | .foreign => .ok a
  | .bare => .error .missingOptions
  | .assigned => .error .assignedOptions
  | .options tokens => readOptions read a tokens

/-- Reads the annotations that concern the entity, in order. -/
def readAnnotations {α : Type} (read : OptionReader α) (start : α)
    (annotations : List Annotation) : Except DeclarationError α :=
  annotations.foldlM (readAnnotated read) start

end Declaration

end RecordEngine
