import RecordEngine.Declaration
import RecordEngine.Text.Quoted
/-!
Declarations as they are written.

A declaration is given in parts, which are texts. Written out, they make one text, and that text is
what is read: it is cut into tokens, and the tokens are taken apart again into annotations, names
and types. So a part may hold more than its place asks for, such as a type that goes on with
another field. What the options of annotations mean is left to `derive`.
-/

set_option autoImplicit false

namespace RecordEngine

namespace Declaration

/-- What is written behind the name of an option. -/
inductive OptionArgument where
  | bare
  /-- A text after an equals sign. -/
  | value (text : String)
  /-- Texts in parentheses. -/
  | values (texts : List String)
  deriving DecidableEq, Repr

structure OptionSource where
  name : String
  argument : OptionArgument
  deriving DecidableEq, Repr

inductive AnnotationSource where
  /-- Any annotation, as it stands in its brackets. -/
  | text (text : String)
  /-- An annotation of the entity. -/
  | options (options : List OptionSource)
  deriving DecidableEq, Repr

structure FieldSource where
  name : String
  type : String
  annotations : List AnnotationSource
  deriving DecidableEq, Repr

end Declaration

/-- The parts of a written declaration. -/
structure DeclarationSource where
  name : String
  /-- What stands behind the name: generic parameters and conditions on types. -/
  generics : String
  fields : List Declaration.FieldSource
  annotations : List Declaration.AnnotationSource
  shape : Shape
  deriving DecidableEq, Repr

namespace Declaration

/-! ## Writing a declaration out -/

def OptionArgument.written : OptionArgument → String
  | bare => ""
  | value text => " = " ++ Text.quoted text
  | values texts => "(" ++ String.intercalate ", " (texts.map Text.quoted) ++ ")"

def OptionSource.written (option : OptionSource) : String :=
  option.name ++ option.argument.written

def AnnotationSource.written : AnnotationSource → String
  | text t => "#[" ++ t ++ "]\n"
  | options os => "#[entity(" ++ String.intercalate ", " (os.map (·.written)) ++ ")]\n"

def FieldSource.written (field : FieldSource) : String :=
  String.join (field.annotations.map (·.written)) ++ field.name ++ ": " ++ field.type

/-- The word that a declaration of a shape begins with. -/
def keywordOf : Shape → String
  | .named | .tuple | .unit => "struct"
  | .enumeration => "enum"
  | .union => "union"

/-- What stands behind the name of a declaration. Only named fields are given. -/
def bodyOf (fields : List FieldSource) : Shape → String
  | .named => " \x7b\n" ++ String.intercalate ",\n" (fields.map (·.written)) ++ "\n\x7d"
  | .tuple => "(i64);"
  | .unit => ";"
  | .enumeration => " \x7b A \x7d"
  | .union => " \x7b a: i64 \x7d"

end Declaration

namespace DeclarationSource

open Declaration

def written (source : DeclarationSource) : String :=
  String.join (source.annotations.map (·.written)) ++ keywordOf source.shape ++ " " ++
    source.name ++ source.generics ++ bodyOf source.fields source.shape

end DeclarationSource

namespace Declaration

/-! ## Parts of a declaration -/

/-- An annotation by the tokens in its brackets. -/
def annotationOf : List Token → Annotation
  | [.word "entity"] => .bare
  | .word "entity" :: .mark '=' _ :: _ => .assigned
  | .word "entity" :: .group _ inner :: _ => .options inner
  | _ => .foreign

/-- The annotations at the beginning of some tokens, and what follows them. -/
def leadingAnnotations : List Token → List Annotation × List Token
  | .mark '#' _ :: .group .square inner :: rest =>
    let (annotations, rest) := leadingAnnotations rest
    (annotationOf inner :: annotations, rest)
  | rest => ([], rest)

/-- Whether the parentheses behind `pub` tell from where something can be seen. -/
def isScope : List Token → Bool
  | [.word name] => ["crate", "self", "super"].contains name
  | .word "in" :: _ => true
  | _ => false

/-- What follows the words that tell who sees something. -/
def afterVisibility : List Token → List Token
  | .word "pub" :: .group .paren scope :: rest =>
    if isScope scope then rest else .group .paren scope :: rest
  | .word "pub" :: rest => rest
  | rest => rest

/-- The name at the beginning of some tokens, and what follows it. -/
def readName : List Token → Except DeclarationError (String × List Token)
  | .word name :: rest =>
    if keywords.contains name then .error (.keyword name) else .ok (name, rest)
  | _ => .error (.expected "identifier" false)

/-- Every token with the number of angle brackets around it, so many being open at the beginning; the
point of an arrow closes none. -/
def withDepths : Nat → List Token → List (Nat × Token)
  | _, [] => []
  | depth, .mark '-' true :: .mark '>' joined :: rest =>
    (depth, .mark '-' true) :: (depth, .mark '>' joined) :: withDepths depth rest
  | depth, .mark '<' joined :: rest => (depth, .mark '<' joined) :: withDepths (depth + 1) rest
  | depth, .mark '>' joined :: rest => (depth, .mark '>' joined) :: withDepths (depth - 1) rest
  | depth, token :: rest => (depth, token) :: withDepths depth rest

/-! ## Fields -/

/-- The name of a field, which may be a lone underscore. -/
def readFieldName : List Token → Except DeclarationError (String × List Token)
  | .word "_" :: rest => .ok ("_", rest)
  | tokens => readName tokens

end Declaration

open Declaration in
/-- Reads a field: annotations, who sees it, its name, and its type after a colon. -/
def FieldDeclaration.ofTokens (tokens : List Token) : Except DeclarationError FieldDeclaration := do
  let (annotations, tokens) := leadingAnnotations tokens
  let (name, rest) ← readFieldName (afterVisibility tokens)
  match rest with
  | .mark ':' _ :: type => return ⟨name, type, annotations⟩
  | _ => throw (.expected "`:`" false)

namespace Declaration

/-- The parts of some tokens between the commas outside angle brackets. -/
def splitFields (tokens : List Token) : List (List Token) :=
  ((withDepths 0 tokens).splitOnP fun (depth, token) => depth == 0 && token.isComma).map
    (·.map (·.2))

/-- Reads fields that were parted at the commas; nothing needs to follow the last comma. -/
def readParts : List (List Token) → Except DeclarationError (List FieldDeclaration)
  | [] => .ok []
  | [last] => if last.isEmpty then .ok [] else do return [← FieldDeclaration.ofTokens last]
  | part :: rest => do
    let field ← FieldDeclaration.ofTokens part
    return field :: (← readParts rest)

/-! ## Declarations -/

/-- Whether a name is followed by generic parameters, and what follows them. Empty angle brackets
have none. -/
def readGenerics : List Token → Except DeclarationError (Bool × List Token)
  | .mark '<' _ :: inner =>
    match afterAngles 1 inner with
    | some rest => .ok (rest.length + 1 < inner.length, rest)
    | none => .error (.expected "`>`" true)
  | tokens => .ok (false, tokens)

/-- Whether a token can be the body of a declaration or its end. -/
def isBody : Token → Bool
  | .group .curly _ => true
  | .mark ';' _ => true
  | _ => false

/-- What follows conditions on types, which go on to the body of a declaration. -/
def afterConditions : List Token → List Token
  | .word "where" :: rest =>
    ((withDepths 0 rest).dropWhile fun (depth, token) => !(depth == 0 && isBody token)).map (·.2)
  | tokens => tokens

/-- Reads the body of a structure. Conditions on types may follow fields in parentheses. -/
def readStructure (tokens : List Token) :
    Except DeclarationError (Shape × List FieldDeclaration × List Token) :=
  match afterConditions tokens with
  | .group .curly inner :: rest => do return (.named, ← readParts (splitFields inner), rest)
  | .mark ';' _ :: rest => .ok (.unit, [], rest)
  | .group .paren _ :: rest =>
    match afterConditions rest with
    | .mark ';' _ :: rest => .ok (.tuple, [], rest)
    | _ => .error (.expected "one of: `where`, `;`" false)
  | _ => .error (.expected "one of: `where`, parentheses, curly braces, `;`" false)

/-- Reads the body of a type that is no structure, where it does not matter what is inside. -/
def readOther (shape : Shape) (tokens : List Token) :
    Except DeclarationError (Shape × List FieldDeclaration × List Token) :=
  match afterConditions tokens with
  | .group .curly _ :: rest => .ok (shape, [], rest)
  | _ => .error (.expected "curly braces" false)

/-- Reads what follows the name and the generic parameters of a declaration, by the word that the
declaration begins with. -/
def readBody (keyword : String) (tokens : List Token) :
    Except DeclarationError (Shape × List FieldDeclaration × List Token) :=
  match keyword with
  | "struct" => readStructure tokens
  | "enum" => readOther .enumeration tokens
  | "union" => readOther .union tokens
  | _ => .error (.expected "one of: `struct`, `enum`, `union`" false)

/-- Reads a declaration. -/
def ofTokens (tokens : List Token) : Except DeclarationError Declaration := do
  let (annotations, tokens) := leadingAnnotations tokens
  match afterVisibility tokens with
  | .word keyword :: tokens =>
    let (name, tokens) ← readName tokens
    let (isGeneric, tokens) ← readGenerics tokens
    let (shape, fields, rest) ← readBody keyword tokens
    if !rest.isEmpty then throw .unexpectedToken
    return ⟨name, fields, annotations, shape, isGeneric⟩
  | _ => throw (.expected "one of: `struct`, `enum`, `union`" false)

/-- Reads the text of a declaration. -/
def read (text : String) : Except DeclarationError Declaration :=
  match Token.read? text with
  | some tokens => ofTokens tokens
  | none => .error .unreadable

end Declaration

/-- The declaration that the parts make. -/
def DeclarationSource.read (source : DeclarationSource) : Except DeclarationError Declaration :=
  Declaration.read source.written

end RecordEngine
