import RecordEngine.Declaration.Annotation
import RecordEngine.Declaration.Name
import RecordEngine.Declaration.Type
import RecordEngine.Schema
/-!
Entity types declared by annotated structures.

`derive` reads the annotations of a structure with named fields and gives the schema and the
constants that name its fields. What is wrong is looked for in a fixed order: generic parameters,
annotations of the structure, its shape, then field by field its annotations, its role and the type
of a version, then the identifier, and last the constants.
-/

set_option autoImplicit false

namespace RecordEngine

/-- A declared field. -/
structure FieldDeclaration where
  name : String
  type : List Declaration.Token
  annotations : List Declaration.Annotation

inductive Shape where
  | named
  | tuple
  | unit
  | enumeration
  | union
  deriving DecidableEq, Repr

/-- A declared type. -/
structure Declaration where
  name : String
  fields : List FieldDeclaration
  annotations : List Declaration.Annotation
  shape : Shape
  /-- Whether it has generic parameters. -/
  isGeneric : Bool

namespace Declaration

/-- What the annotations of a field say. -/
structure FieldOptions where
  role : Option Role := none
  noSave : Bool := false
  allowed : Option (List String) := none
  deriving DecidableEq, Repr

/-- Reads an option of the structure, the last name given being the one that counts. -/
def readStructureOption : OptionReader (Option String) := fun _ name argument atEnd =>
  if name = .plain "name" then do
    let (text, rest) ← readAssigned argument atEnd
    if text.isEmpty then throw .emptyName
    checkEnd rest
    return some text
  else .error .unsupportedStructureOption

/-- Reads an option of a field. -/
def readFieldOption : OptionReader FieldOptions := fun options name argument atEnd =>
  match name with
  | .path => .error .notPlainOption
  | .plain name =>
    match Role.ofLabel? name with
    | some role =>
      if options.role.isSome then .error .twoRoles
      else do
        checkEnd argument
        return { options with role := some role }
    | none =>
      if name = "no_save" then do
        checkEnd argument
        return { options with noSave := true }
      else if name = "one_of" then do
        let (texts, rest) ← readListed argument atEnd
        if texts.isEmpty then throw .emptyOneOf
        checkEnd rest
        return { options with allowed := some texts }
      else .error .unsupportedFieldOption

/-- A field that was accepted. -/
structure DerivedField where
  declaration : FieldDeclaration
  options : FieldOptions

def DerivedField.name (field : DerivedField) : String :=
  String.ofList (plainName field.declaration.name)

/-- The field in the schema. -/
def DerivedField.definition (field : DerivedField) : FieldDef where
  name := field.name
  role := field.options.role
  allowed := field.options.allowed
  settable := !field.options.noSave

/-- The name of the constant of the field. -/
def DerivedField.constant (field : DerivedField) : String :=
  String.ofList (pascalCase (plainName field.declaration.name))

/-- Reads one more field after those accepted. -/
def readField (accepted : List DerivedField) (field : FieldDeclaration) :
    Except DeclarationError (List DerivedField) := do
  let options ← readAnnotations readFieldOption {} field.annotations
  match options.role with
  | none => pure ()
  | some role =>
    match accepted.find? (·.options.role == some role) with
    | some other => throw (.repeatedRole field.name other.declaration.name)
    | none => pure ()
    if role = .version ∧ !isVersionType field.type then throw .versionType
  return accepted ++ [⟨field, options⟩]

/-- What a declaration gives. -/
structure Derived where
  schema : Schema
  /-- The name of the type of the field constants. -/
  constantsName : String
  constants : List String
  deriving DecidableEq, Repr

namespace Derived

/-- The position of the field that a constant stands for. -/
def index? (derived : Derived) (constant : String) : Option Nat :=
  derived.constants.findIdx? (· == constant)

/-- The name of the field that a constant stands for. -/
def name? (derived : Derived) (constant : String) : Option String :=
  (derived.constants.zip (derived.schema.fields.map (·.name))).lookup constant

end Derived

/-- Refuses everything but a structure with named fields. -/
def checkShape : Shape → Except DeclarationError Unit
  | .named => .ok ()
  | .tuple | .unit => .error .unnamedFields
  | .enumeration | .union => .error .notStructure

/-- Refuses the first constant that does not pass. -/
def checkEach (passes : String → Bool) (misnomer : String → Misnomer) (constants : List String) :
    Except DeclarationError Unit :=
  constants.forM fun constant =>
    if passes constant then .ok () else .error (.invalidConstant (misnomer constant))

/-- Refuses constants that are no identifiers. All have to be spelled like names before it is seen
whether one is a keyword. -/
def checkConstants (constants : List String) : Except DeclarationError Unit := do
  checkEach isSpelled .misspelled constants
  checkEach isIdentifier .keyword constants

/-- The fields of a declaration, all of them accepted. -/
def readFields (declaration : Declaration) : Except DeclarationError (List DerivedField) :=
  declaration.fields.foldlM readField []

/-- What a declaration gives, whether or not its constants are identifiers. -/
def expand (declaration : Declaration) : Except DeclarationError Derived := do
  if declaration.isGeneric then throw .generic
  let name ← readAnnotations readStructureOption none declaration.annotations
  checkShape declaration.shape
  let fields ← declaration.readFields
  if !fields.any (·.options.role == some .identifier) then throw .missingIdentifier
  return {
    schema := {
      name := name.getD (String.ofList (snakeCase declaration.name.toList))
      fields := fields.map (·.definition) }
    constantsName := String.ofList (plainName declaration.name) ++ "Field"
    constants := fields.map (·.constant) }

/-- The schema and the field constants of a declaration. -/
def derive (declaration : Declaration) : Except DeclarationError Derived := do
  let derived ← declaration.expand
  checkConstants derived.constants
  return derived

end Declaration

end RecordEngine
