import RecordEngine.Proofs.Declaration.Names
import RecordEngine.Proofs.Declaration.Options
import RecordEngine.Proofs.Schema.Validation
/-!
Which declarations are accepted, and the schemas they give.

The fields are read one after the other, each being compared with those before it, and the options
of a field may stand in any of its annotations. None of this shows in what is accepted: a declaration
is accepted exactly if it is rendered by a schema (`Rendering`), which says field by field what the
annotations say. From this everything else follows. Such a schema is one that validation accepts,
and a declaration with a flaw (`Flawed`) is rendered by none.
-/

set_option autoImplicit false

namespace RecordEngine

namespace Declaration

/-! ## Accepted fields -/

/-- A field is accepted by itself: its annotations can be read, and only a whole number is a
version. -/
structure Admits (field : FieldDeclaration) (accepted : DerivedField) : Prop where
  declaration : accepted.declaration = field
  options : readAnnotations readFieldOption {} field.annotations = .ok accepted.options
  version (h : accepted.options.role = some .version) : isVersionType field.type = true

/-- The roles of the fields accepted so far. -/
def rolesOf (accepted : List DerivedField) : List Role := accepted.filterMap (·.options.role)

theorem find?_role_eq_none_iff {accepted : List DerivedField} {role : Role} :
    accepted.find? (·.options.role == some role) = none ↔ role ∉ rolesOf accepted := by
  simp [rolesOf]

theorem readField_ok_iff {accepted result : List DerivedField} {field : FieldDeclaration} :
    readField accepted field = .ok result ↔
      ∃ new, result = accepted ++ [new] ∧ Admits field new ∧
        ∀ role, new.options.role = some role → role ∉ rolesOf accepted := by
  unfold readField
  rw [bind_eq_ok_iff]
  constructor
  · rintro ⟨options, hoptions, h⟩
    cases hrole : options.role with
    | none =>
      simp only [hrole, pure_eq_ok_iff] at h
      exact ⟨⟨field, options⟩, h.symm, ⟨rfl, hoptions, by simp [hrole]⟩, by simp [hrole]⟩
    | some role =>
      simp only [hrole] at h
      cases hother : accepted.find? (·.options.role == some role) with
      | some other =>
        rw [hother] at h
        cases h
      | none =>
        simp only [hother, check_eq_ok_iff, pure_eq_ok_iff] at h
        have hversion : options.role = some .version → isVersionType field.type = true := by
          intro hsome
          obtain rfl := Option.some.inj (hrole.symm.trans hsome)
          simpa using h.1
        refine ⟨⟨field, options⟩, h.2.symm, ⟨rfl, hoptions, hversion⟩, ?_⟩
        intro role' hsome
        obtain rfl := Option.some.inj (hrole.symm.trans hsome)
        exact find?_role_eq_none_iff.1 hother
  · rintro ⟨⟨_, options⟩, rfl, ⟨rfl, hoptions, hversion⟩, hfresh⟩
    refine ⟨options, hoptions, ?_⟩
    cases hrole : options.role with
    | none => rfl
    | some role =>
      simp only [find?_role_eq_none_iff.2 (hfresh role hrole), check_eq_ok_iff, pure_eq_ok_iff,
        and_true]
      rintro ⟨rfl, hno⟩
      simp [hversion hrole] at hno

/-- Fields are accepted if each is and no two of them have the same role. -/
theorem foldlM_readField_ok_iff {accepted result : List DerivedField}
    {fields : List FieldDeclaration} (h : (rolesOf accepted).Nodup) :
    fields.foldlM readField accepted = .ok result ↔
      ∃ new, result = accepted ++ new ∧ List.Forall₂ Admits fields new ∧
        (rolesOf result).Nodup := by
  induction fields generalizing accepted with
  | nil =>
    simp only [List.foldlM_nil, pure_eq_ok_iff, List.forall₂_nil_left_iff]
    constructor
    · rintro rfl
      exact ⟨[], by simp, rfl, h⟩
    · rintro ⟨new, rfl, rfl, -⟩
      simp
  | cons field fields ih =>
    simp only [List.foldlM_cons, bind_eq_ok_iff, readField_ok_iff]
    constructor
    · rintro ⟨_, ⟨first, rfl, hfirst, hrole⟩, hrest⟩
      have hmid : (rolesOf (accepted ++ [first])).Nodup :=
        Schema.nodup_filterMap_snoc.2 ⟨h, hrole⟩
      obtain ⟨new, rfl, hnew, hroles⟩ := (ih hmid).1 hrest
      exact ⟨first :: new, by simp, .cons hfirst hnew, hroles⟩
    · rintro ⟨_, rfl, hnew, hroles⟩
      cases hnew with
      | @cons _ first _ new hfirst hnew =>
        -- distinct roles in the end were distinct at every step, which is what the step asks for
        have hmid : (rolesOf (accepted ++ [first])).Nodup := by
          rw [List.append_cons, rolesOf, List.filterMap_append] at hroles
          exact (List.nodup_append.1 hroles).1
        refine ⟨_, ⟨first, rfl, hfirst, (Schema.nodup_filterMap_snoc.1 hmid).2⟩, ?_⟩
        exact (ih hmid).2 ⟨new, by simp, hnew, hroles⟩

theorem readFields_ok_iff {declaration : Declaration} {accepted : List DerivedField} :
    declaration.readFields = .ok accepted ↔
      List.Forall₂ Admits declaration.fields accepted ∧ (rolesOf accepted).Nodup := by
  have hnone : (rolesOf []).Nodup := List.nodup_nil
  rw [readFields, foldlM_readField_ok_iff hnone]
  simp

/-! ## Renderings -/

/-- A field of a schema says what a declared field says: it goes by the plain name, and has what the
clauses of all annotations amount to. -/
structure Rendered (field : FieldDeclaration) (definition : FieldDef) : Prop where
  name : definition.name = String.ofList (plainName field.name)
  bracketed : ∀ annotation ∈ field.annotations, annotation.IsBracketed
  clauses : ∃ clauses, List.Forall₂ FieldClause.Written clauses (written field.annotations) ∧
    definition.role.toList = clauses.filterMap (·.role?) ∧
    definition.allowed = (clauses.filterMap (·.texts?)).getLast? ∧
    definition.settable = !clauses.contains .unsaved
  version (h : definition.role = some .version) : isVersionType field.type = true

/-- A schema says what a declaration says, and the declaration makes sense. -/
structure Rendering (declaration : Declaration) (schema : Schema) : Prop where
  plain : declaration.isGeneric = false
  shape : declaration.shape = .named
  bracketed : ∀ annotation ∈ declaration.annotations, annotation.IsBracketed
  name : ∃ names, List.Forall₂ NameClause names (written declaration.annotations) ∧
    schema.name = names.getLast?.getD (String.ofList (snakeCase declaration.name.toList))
  fields : List.Forall₂ Rendered declaration.fields schema.fields
  roles : (schema.fields.filterMap (·.role)).Nodup
  identified : ∃ definition ∈ schema.fields, definition.role = some .identifier

theorem readFieldAnnotations_ok_iff {annotations : List Annotation} {options : FieldOptions} :
    readAnnotations readFieldOption {} annotations = .ok options ↔
      (∀ annotation ∈ annotations, annotation.IsBracketed) ∧
        ∃ clauses, List.Forall₂ FieldClause.Written clauses (written annotations) ∧
          options.role.toList = clauses.filterMap (·.role?) ∧
          options.noSave = clauses.contains .unsaved ∧
          options.allowed = (clauses.filterMap (·.texts?)).getLast? := by
  rw [readAnnotations_ok_iff reads_fieldClause]
  simp only [Leads, foldlM_add_eq_some_iff, Option.toList_none, List.nil_append, Bool.false_or,
    Option.or_none]

theorem rendered_iff {field : FieldDeclaration} {definition : FieldDef} :
    Rendered field definition ↔
      ∃ accepted, Admits field accepted ∧ accepted.definition = definition := by
  constructor
  · rintro ⟨hname, hbracketed, ⟨clauses, hwritten, hrole, hallowed, hsettable⟩, hversion⟩
    -- the options are determined by the definition, so there is only one candidate
    let options : FieldOptions :=
      { role := definition.role, noSave := !definition.settable, allowed := definition.allowed }
    have hoptions : readAnnotations readFieldOption {} field.annotations = .ok options :=
      readFieldAnnotations_ok_iff.2
        ⟨hbracketed, clauses, hwritten, hrole, by simp [options, hsettable], hallowed⟩
    refine ⟨⟨field, options⟩, ⟨rfl, hoptions, hversion⟩, ?_⟩
    cases definition
    simp_all [DerivedField.definition, DerivedField.name, options]
  · rintro ⟨accepted, ⟨rfl, hoptions, hversion⟩, rfl⟩
    obtain ⟨hbracketed, clauses, hwritten, hrole, hunsaved, hallowed⟩ :=
      readFieldAnnotations_ok_iff.1 hoptions
    refine ⟨rfl, hbracketed, ⟨clauses, hwritten, hrole, hallowed, ?_⟩, hversion⟩
    rw [DerivedField.definition, hunsaved]

theorem forall₂_rendered_iff {fields : List FieldDeclaration} {definitions : List FieldDef} :
    List.Forall₂ Rendered fields definitions ↔
      ∃ accepted, List.Forall₂ Admits fields accepted ∧
        accepted.map (·.definition) = definitions := by
  constructor
  · intro h
    induction h with
    | nil => exact ⟨[], .nil, rfl⟩
    | cons hfirst _ ih =>
      obtain ⟨first, hadmits, rfl⟩ := rendered_iff.1 hfirst
      obtain ⟨accepted, haccepted, rfl⟩ := ih
      exact ⟨first :: accepted, .cons hadmits haccepted, rfl⟩
  · rintro ⟨accepted, hadmits, rfl⟩
    rw [List.forall₂_map_right_iff]
    exact hadmits.imp fun _ new h => rendered_iff.2 ⟨new, h, rfl⟩

theorem readStructureAnnotations_ok_iff {annotations : List Annotation} {name : Option String} :
    readAnnotations readStructureOption none annotations = .ok name ↔
      (∀ annotation ∈ annotations, annotation.IsBracketed) ∧
        ∃ names, List.Forall₂ NameClause names (written annotations) ∧
          name = names.getLast? := by
  have hlast (names : List String) (known : Option String) :
      names.foldlM (fun _ text => some (some text)) known = some name ↔
        name = names.getLast?.or known := by
    induction names generalizing known with
    | nil => simp [eq_comm]
    | cons text names ih => simp [List.foldlM_cons, ih, List.getLast?_cons]
  rw [readAnnotations_ok_iff reads_nameClause]
  simp only [Leads, hlast, Option.or_none]

theorem checkShape_ok_iff {shape : Shape} {b : Unit} : checkShape shape = .ok b ↔ shape = .named := by
  cases shape <;> simp [checkShape]

theorem any_role_iff {accepted : List DerivedField} {role : Role} :
    accepted.any (·.options.role == some role) = true ↔ role ∈ rolesOf accepted := by
  simp [rolesOf]

/-- What is read off a declaration that is accepted. -/
theorem expand_eq_ok_iff {declaration : Declaration} {derived : Derived} :
    declaration.expand = .ok derived ↔
      ∃ name accepted, declaration.isGeneric = false ∧ declaration.shape = .named ∧
        readAnnotations readStructureOption none declaration.annotations = .ok name ∧
        declaration.readFields = .ok accepted ∧ Role.identifier ∈ rolesOf accepted ∧
        derived =
          { schema :=
              { name := name.getD (String.ofList (snakeCase declaration.name.toList))
                fields := accepted.map (·.definition) }
            constantsName := String.ofList (plainName declaration.name) ++ "Field"
            constants := accepted.map (·.constant) } := by
  simp only [expand, check_eq_ok_iff, bind_eq_ok_iff, checkShape_ok_iff, pure_eq_ok_iff,
    Bool.not_eq_true, Bool.not_eq_false', any_role_iff]
  constructor
  · rintro ⟨hplain, name, hname, -, hshape, accepted, hfields, hidentified, rfl⟩
    exact ⟨name, accepted, hplain, hshape, hname, hfields, hidentified, rfl⟩
  · rintro ⟨name, accepted, hplain, hshape, hname, hfields, hidentified, rfl⟩
    exact ⟨hplain, name, hname, (), hshape, accepted, hfields, hidentified, rfl⟩

theorem filterMap_role_definition (accepted : List DerivedField) :
    (accepted.map (·.definition)).filterMap (·.role) = rolesOf accepted := by
  rw [List.filterMap_map]
  rfl

/-- A declaration is accepted exactly if it can be rendered, and what it gives is the rendering. -/
theorem expand_schema_iff {declaration : Declaration} {schema : Schema} :
    (∃ derived, declaration.expand = .ok derived ∧ derived.schema = schema) ↔
      Rendering declaration schema := by
  simp only [expand_eq_ok_iff, readFields_ok_iff, readStructureAnnotations_ok_iff]
  constructor
  · rintro ⟨_, ⟨_, accepted, hplain, hshape, ⟨hbracketed, names, hnames, rfl⟩,
      ⟨hadmits, hroles⟩, hidentified, rfl⟩, rfl⟩
    rw [← filterMap_role_definition] at hroles hidentified
    exact ⟨hplain, hshape, hbracketed, ⟨names, hnames, rfl⟩,
      forall₂_rendered_iff.2 ⟨accepted, hadmits, rfl⟩, hroles, List.mem_filterMap.1 hidentified⟩
  · rintro ⟨hplain, hshape, hbracketed, ⟨names, hnames, hname⟩, hfields, hroles, hidentified⟩
    obtain ⟨accepted, hadmits, hdefinitions⟩ := forall₂_rendered_iff.1 hfields
    have hidentifier : Role.identifier ∈ schema.fields.filterMap (·.role) :=
      List.mem_filterMap.2 hidentified
    rw [← hdefinitions, filterMap_role_definition] at hroles hidentifier
    refine ⟨_, ⟨_, accepted, hplain, hshape, ⟨hbracketed, names, hnames, rfl⟩,
      ⟨hadmits, hroles⟩, hidentifier, rfl⟩, ?_⟩
    rw [hdefinitions, ← hname]

/-! ## Version types -/

/-- A whole-number type in angle brackets. -/
inductive AngledInteger : List Token → Prop
  | plain {name : String} (opening closing : Bool) (h : name ∈ integerNames) :
    AngledInteger [.mark '<' opening, .word name, .mark '>' closing]
  | comma {name : String} (opening comma closing : Bool) (h : name ∈ integerNames) :
    AngledInteger [.mark '<' opening, .word name, .mark ',' comma, .mark '>' closing]

/-- The same, with two colons in front or without. -/
inductive IntegerArgument : List Token → Prop
  | plain {tokens : List Token} (h : AngledInteger tokens) : IntegerArgument tokens
  | colons {tokens : List Token} (joined : Bool) (h : AngledInteger tokens) :
    IntegerArgument (.mark ':' true :: .mark ':' joined :: tokens)

/-- What is left of some tokens from a segment of a path on: all of them, or what stands behind two
colons. -/
inductive FromSegment (tokens : List Token) : List Token → Prop
  | all : FromSegment tokens tokens
  | behind {segment : List Token} (joined : Bool)
    (h : .mark ':' true :: .mark ':' joined :: segment <:+ tokens) : FromSegment tokens segment

/-- A whole-number type by its plain name, or `Option` of one as the last segment of a path. -/
inductive VersionType : List Token → Prop
  | integer {name : String} (h : name ∈ integerNames) : VersionType [.word name]
  | option {tokens argument : List Token}
    (hpath : FromSegment tokens (.word "Option" :: argument)) (h : IntegerArgument argument) :
    VersionType tokens

theorem afterAngles_suffix {depth : Nat} {tokens rest : List Token}
    (h : afterAngles depth tokens = some rest) : rest <:+ tokens := by
  fun_induction afterAngles depth tokens with
  | case1 => cases h
  | case2 depth joined tokens ih => exact (ih h).trans ⟨[_, _], rfl⟩
  | case3 depth joined tokens ih => exact (ih h).trans (List.suffix_cons _ _)
  | case4 depth joined tokens hlast =>
    obtain rfl := Option.some.inj h
    exact List.suffix_cons _ _
  | case5 depth joined tokens hmore ih => exact (ih h).trans (List.suffix_cons _ _)
  | case6 depth token tokens _ _ _ ih => exact (ih h).trans (List.suffix_cons _ _)

theorem afterResult_suffix (tokens : List Token) : afterResult tokens <:+ tokens := by
  unfold afterResult
  split
  · exact ⟨[_, _, _], rfl⟩
  · exact List.suffix_rfl

theorem afterArguments?_suffix {tokens rest : List Token} (h : afterArguments? tokens = some rest) :
    rest <:+ tokens := by
  unfold afterArguments? at h
  split at h
  · exact (afterAngles_suffix h).trans (List.suffix_cons _ _)
  · exact (afterAngles_suffix h).trans ⟨[_, _, _], rfl⟩
  · obtain rfl := Option.some.inj h
    exact (afterResult_suffix _).trans ⟨[_, _, _], rfl⟩
  · obtain rfl := Option.some.inj h
    exact (afterResult_suffix _).trans (List.suffix_cons _ _)
  · obtain rfl := Option.some.inj h
    exact List.suffix_rfl

theorem FromSegment.of_suffix {tokens later segment : List Token} {joined : Bool}
    (h : FromSegment later segment)
    (hsuffix : .mark ':' true :: .mark ':' joined :: later <:+ tokens) :
    FromSegment tokens segment := by
  cases h with
  | all => exact .behind joined hsuffix
  | behind joined' h =>
    have hlater : later <:+ tokens :=
      ((List.suffix_cons _ _).trans (List.suffix_cons _ _)).trans hsuffix
    exact .behind joined' (h.trans hlater)

theorem lastSegment_from {fuel : Nat} {tokens rest : List Token} {name : String}
    (h : lastSegment fuel tokens = some (name, rest)) :
    FromSegment tokens (.word name :: rest) := by
  fun_induction lastSegment fuel tokens with
  | case1 fuel first tokens joined more hmore ih =>
    exact (ih h).of_suffix ((afterArguments?_suffix hmore).trans (List.suffix_cons _ _))
  | case2 fuel first tokens =>
    cases h
    exact .all
  | case3 => cases h

theorem pathEnd_from {tokens rest : List Token} {name : String}
    (h : pathEnd tokens = some (name, rest)) : FromSegment tokens (.word name :: rest) := by
  unfold pathEnd at h
  simp only at h
  split at h
  · exact (lastSegment_from h).of_suffix List.suffix_rfl
  · split at h
    case h_1 hangles =>
      exact (lastSegment_from h).of_suffix
        ((afterAngles_suffix hangles).trans (List.suffix_cons _ _))
    case h_2 => cases h
  · split at h
    · cases h
    · exact lastSegment_from h
  · cases h

theorem integerArgument_of_isIntegerArgument {tokens : List Token}
    (h : isIntegerArgument tokens = true) : IntegerArgument tokens := by
  have hangled (tokens : List Token) (h : isAngledInteger tokens = true) :
      AngledInteger tokens := by
    unfold isAngledInteger at h
    split at h
    · exact .plain _ _ (by simpa using h)
    · exact .comma _ _ _ (by simpa using h)
    · cases h
  unfold isIntegerArgument at h
  split at h
  · exact .colons _ (hangled _ h)
  · exact .plain (hangled _ h)

/-- Only whole numbers and options of such are versions. -/
theorem versionType_of_isVersionType {tokens : List Token} (h : isVersionType tokens = true) :
    VersionType tokens := by
  unfold isVersionType at h
  split at h
  · exact .integer (by simpa using h)
  · split at h
    · rename_i hend
      exact .option (pathEnd_from hend) (integerArgument_of_isIntegerArgument h)
    · cases h

/-! ## What is accepted -/

/-- What is asked of the schema of a declaration. -/
structure Genuine (declaration : Declaration) (schema : Schema) : Prop where
  fields : List.Forall₂ Rendered declaration.fields schema.fields
  named : schema.name ≠ ""
  identified : schema.fields.countP (·.role == some .identifier) = 1
  roles : (schema.fields.filterMap (·.role)).Nodup
  versions : List.Forall₂
    (fun field definition => definition.role = some .version → VersionType field.type)
    declaration.fields schema.fields
  allowed : ∀ definition ∈ schema.fields, definition.allowed ≠ some []

variable {declaration : Declaration} {schema : Schema}

/-- What has a part has the counterpart of the part. -/
theorem exists_sublist_of_forall₂ {α β : Type} {R : α → β → Prop} {as : List α} {bs bs' : List β}
    (h : List.Forall₂ R as bs) (hsub : bs'.Sublist bs) :
    ∃ as', as'.Sublist as ∧ List.Forall₂ R as' bs' := by
  induction hsub generalizing as with
  | slnil => exact ⟨[], List.nil_sublist _, .nil⟩
  | cons b _ ih =>
    cases h with
    | cons _ hrest =>
      obtain ⟨as', hsub, h⟩ := ih hrest
      exact ⟨as', hsub.cons _, h⟩
  | cons_cons b _ ih =>
    cases h with
    | cons hfirst hrest =>
      obtain ⟨as', hsub, h⟩ := ih hrest
      exact ⟨_ :: as', hsub.cons_cons _, .cons hfirst h⟩

theorem exists_mem_of_forall₂ {α β : Type} {R : α → β → Prop} {as : List α} {bs : List β} {b : β}
    (h : List.Forall₂ R as bs) (hb : b ∈ bs) : ∃ a ∈ as, R a b := by
  obtain ⟨as', hsub, hpart⟩ := exists_sublist_of_forall₂ h (List.singleton_sublist.2 hb)
  cases hpart with
  | @cons a _ _ _ hab hnil =>
    cases hnil
    exact ⟨a, List.singleton_sublist.1 hsub, hab⟩

theorem exists_pair_of_forall₂ {α β : Type} {R : α → β → Prop} {as : List α} {bs : List β}
    {b b' : β} (h : List.Forall₂ R as bs) (hsub : [b, b'].Sublist bs) :
    ∃ a a', [a, a'].Sublist as ∧ R a b ∧ R a' b' := by
  obtain ⟨as', hsub, hpart⟩ := exists_sublist_of_forall₂ h hsub
  cases hpart with
  | cons hab hrest =>
    cases hrest with
    | cons hab' hnil =>
      cases hnil
      exact ⟨_, _, hsub, hab, hab'⟩

theorem Rendering.named (h : Rendering declaration schema) (hname : declaration.name ≠ "") :
    schema.name ≠ "" := by
  obtain ⟨names, hnames, hschema⟩ := h.name
  rw [hschema]
  cases hlast : names.getLast? with
  | none =>
    -- in snake case no character vanishes
    have hchars : declaration.name.toList ≠ [] := by simpa using hname
    simpa using snakeCase_ne_nil hchars
  | some text =>
    obtain ⟨option, -, hclause⟩ :=
      exists_mem_of_forall₂ hnames.flip (List.mem_of_getLast? hlast)
    cases hclause with
    | mk _ htext => exact htext

theorem Rendering.identifiedOnce (h : Rendering declaration schema) :
    schema.fields.countP (·.role == some .identifier) = 1 := by
  have hmem : Role.identifier ∈ schema.fields.filterMap (·.role) :=
    List.mem_filterMap.2 h.identified
  rw [← List.count_eq_one_of_mem h.roles hmem, List.count_filterMap]

theorem Rendered.allowed_ne {field : FieldDeclaration} {definition : FieldDef}
    (h : Rendered field definition) : definition.allowed ≠ some [] := by
  obtain ⟨clauses, hwritten, -, hallowed, -⟩ := h.clauses
  intro hempty
  rw [hempty] at hallowed
  obtain ⟨clause, hclause, htexts⟩ := List.mem_filterMap.1 (List.mem_of_getLast? hallowed.symm)
  obtain ⟨option, -, hoption⟩ := exists_mem_of_forall₂ hwritten.flip hclause
  cases hoption with
  | holds => cases htexts
  | unsaved => cases htexts
  | oneOf hsome => exact hsome (Option.some.inj htexts)

theorem Rendering.genuine (h : Rendering declaration schema) (hname : declaration.name ≠ "") :
    Genuine declaration schema where
  fields := h.fields
  named := h.named hname
  identified := h.identifiedOnce
  roles := h.roles
  versions := h.fields.imp fun _ _ hfield hversion =>
    versionType_of_isVersionType (hfield.version hversion)
  allowed definition hdefinition := by
    obtain ⟨field, -, hfield⟩ := exists_mem_of_forall₂ h.fields hdefinition
    exact hfield.allowed_ne

theorem map_name_of_rendered {fields : List FieldDeclaration} {definitions : List FieldDef}
    (h : List.Forall₂ Rendered fields definitions) :
    definitions.map (·.name) = (fields.map (plainName ·.name)).map String.ofList := by
  induction h with
  | nil => rfl
  | cons hfirst _ ih => rw [List.map_cons, hfirst.name, ih]; rfl

theorem Rendering.names_nodup (h : Rendering declaration schema)
    (hnames : (declaration.fields.map (plainName ·.name)).Nodup) :
    (schema.fields.map (·.name)).Nodup := by
  rw [map_name_of_rendered h.fields]
  exact hnames.map fun _ _ => String.ofList_injective

/-- Distinct names are asked for by validation, and not looked at in a declaration. -/
theorem Rendering.sound (h : Rendering declaration schema) (hname : declaration.name ≠ "")
    (hnames : (declaration.fields.map (plainName ·.name)).Nodup) : schema.Sound where
  named := h.named hname
  distinct := ⟨h.names_nodup hnames, h.roles⟩
  identified := h.identified

/-! ## What is refused -/

/-- One of the options of a field has the name of a role. -/
def NamesRole (field : FieldDeclaration) (role : Role) : Prop :=
  ∃ option ∈ written field.annotations, HasName option role.label

variable {field : FieldDeclaration} {definition : FieldDef} {role : Role}

/-- A field has the role that it names, and no other. -/
theorem Rendered.namesRole_iff (h : Rendered field definition) :
    NamesRole field role ↔ definition.role = some role := by
  obtain ⟨clauses, hwritten, hroles, -⟩ := h.clauses
  have hmem : definition.role = some role ↔ .holds role ∈ clauses := by
    rw [← Option.mem_toList, hroles, List.mem_filterMap]
    constructor
    · rintro ⟨clause, hclause, hrole⟩
      cases clause <;> cases hrole
      exact hclause
    · intro hclause
      exact ⟨_, hclause, rfl⟩
  rw [hmem]
  constructor
  · rintro ⟨option, hoption, hname⟩
    obtain ⟨clause, hclause, hspelled⟩ := exists_mem_of_forall₂ hwritten hoption
    rwa [← FieldClause.eq_holds_of_label (hspelled.eq_label hname).symm]
  · intro hclause
    obtain ⟨option, hoption, hspelled⟩ := exists_mem_of_forall₂ hwritten.flip hclause
    exact ⟨option, hoption, hspelled.hasName⟩

/-- No field names two roles. -/
theorem Rendered.oneRole (h : Rendered field definition) {first second : List Token}
    {role role' : Role} (hsub : [first, second].Sublist (written field.annotations))
    (hfirst : HasName first role.label) (hsecond : HasName second role'.label) : False := by
  obtain ⟨clauses, hwritten, hroles, -⟩ := h.clauses
  obtain ⟨clause, clause', hpart, hclause, hclause'⟩ := exists_pair_of_forall₂ hwritten hsub
  have hheld := FieldClause.eq_holds_of_label (hclause.eq_label hfirst).symm
  have hheld' := FieldClause.eq_holds_of_label (hclause'.eq_label hsecond).symm
  -- two roles among the clauses, but the definition has room for one
  have hlength := (hpart.filterMap (·.role?)).length_le
  rw [hheld, hheld', ← hroles] at hlength
  cases hrole : definition.role <;> simp [hrole, FieldClause.role?] at hlength

/-- Something for which a declaration is refused. -/
inductive Flawed (declaration : Declaration) : Prop
  | generic (h : declaration.isGeneric = true)
  | shape (h : declaration.shape ≠ .named)
  /-- No field is the identifier. -/
  | unidentified (h : ∀ field ∈ declaration.fields, ¬ NamesRole field .identifier)
  /-- A field has two roles, or one twice. -/
  | twoRoles {field : FieldDeclaration} {first second : List Token} {role role' : Role}
    (hfield : field ∈ declaration.fields)
    (h : [first, second].Sublist (written field.annotations))
    (hfirst : HasName first role.label) (hsecond : HasName second role'.label)
  /-- Two fields have the same role. -/
  | repeatedRole {field other : FieldDeclaration} {role : Role}
    (h : [field, other].Sublist declaration.fields) (hfield : NamesRole field role)
    (hother : NamesRole other role)
  /-- The structure has an option that is none of a structure's. -/
  | unsupported {option : List Token} (h : option ∈ written declaration.annotations)
    (hname : ¬ HasName option "name")
  /-- A field has an option that is none of a field's. -/
  | unsupportedField {field : FieldDeclaration} {option : List Token}
    (hfield : field ∈ declaration.fields) (h : option ∈ written field.annotations)
    (hname : ∀ name ∈ FieldClause.labels, ¬ HasName option name)
  | emptyOneOf {field : FieldDeclaration} {rest : List Token} (hfield : field ∈ declaration.fields)
    (h : .word "one_of" :: .group .paren [] :: rest ∈ written field.annotations)
  | emptyName {joined : Bool} {rest : List Token}
    (h : .word "name" :: .mark '=' joined :: .literal (.text "") :: rest ∈
      written declaration.annotations)

theorem Flawed.not_rendering (h : Flawed declaration) : ¬ Rendering declaration schema := by
  intro hrendering
  cases h with
  | generic hgeneric => simp [hrendering.plain] at hgeneric
  | shape hshape => exact hshape hrendering.shape
  | unidentified hnone =>
    obtain ⟨definition, hdefinition, hrole⟩ := hrendering.identified
    obtain ⟨field, hfield, hrendered⟩ := exists_mem_of_forall₂ hrendering.fields hdefinition
    exact hnone field hfield (hrendered.namesRole_iff.2 hrole)
  | twoRoles hfield hsub hfirst hsecond =>
    obtain ⟨definition, -, hrendered⟩ := exists_mem_of_forall₂ hrendering.fields.flip hfield
    exact hrendered.oneRole hsub hfirst hsecond
  | repeatedRole hsub hfield hother =>
    obtain ⟨definition, definition', hpart, hrendered, hrendered'⟩ :=
      exists_pair_of_forall₂ hrendering.fields.flip hsub
    have hrole := hrendered.namesRole_iff.1 hfield
    have hrole' := hrendered'.namesRole_iff.1 hother
    have hnodup := hrendering.roles.sublist (hpart.filterMap (·.role))
    simp [hrole, hrole'] at hnodup
  | unsupported hoption hname =>
    obtain ⟨names, hnames, -⟩ := hrendering.name
    obtain ⟨text, -, hclause⟩ := exists_mem_of_forall₂ hnames hoption
    exact hname hclause.hasName
  | unsupportedField hfield hoption hname =>
    obtain ⟨definition, -, hrendered⟩ := exists_mem_of_forall₂ hrendering.fields.flip hfield
    obtain ⟨clauses, hwritten, -⟩ := hrendered.clauses
    obtain ⟨clause, -, hclause⟩ := exists_mem_of_forall₂ hwritten hoption
    exact hname _ clause.label_mem_labels hclause.hasName
  | emptyOneOf hfield hoption =>
    obtain ⟨definition, -, hrendered⟩ := exists_mem_of_forall₂ hrendering.fields.flip hfield
    obtain ⟨clauses, hwritten, -⟩ := hrendered.clauses
    obtain ⟨clause, -, hclause⟩ := exists_mem_of_forall₂ hwritten hoption
    -- the clause is told by the shape of the option first: labels of roles are not compared well
    generalize hform : Token.word "one_of" :: .group .paren [] :: _ = option at hclause
    cases hclause with
    | holds => simp at hform
    | unsaved => simp at hform
    | oneOf hsome htexts =>
      simp only [List.cons.injEq, Token.group.injEq] at hform
      obtain ⟨-, ⟨-, rfl⟩, -⟩ := hform
      cases htexts
      exact hsome rfl
  | emptyName hoption =>
    obtain ⟨names, hnames, -⟩ := hrendering.name
    obtain ⟨text, -, hclause⟩ := exists_mem_of_forall₂ hnames hoption
    cases hclause with
    | mk _ htext => exact htext rfl

/-- **Derivation accepts genuine entities only.** The schema of a declaration that is accepted says
of every field, in order, what its annotations say, has a name, one identifier, no role twice, whole
numbers for versions and no empty set of texts; validation accepts it if the plain names of the
fields are distinct. A declaration with a flaw is refused. -/
theorem accepts_genuine_only (declaration : Declaration) :
    (declaration.name ≠ "" → ∀ derived, declaration.expand = .ok derived →
      Genuine declaration derived.schema ∧
        ((declaration.fields.map (plainName ·.name)).Nodup →
          derived.schema.validate = .ok ())) ∧
      (Flawed declaration →
        ∃ error, declaration.expand = .error error ∧ declaration.derive = .error error) := by
  constructor
  · intro hname derived hexpand
    have hrendering : Rendering declaration derived.schema :=
      expand_schema_iff.1 ⟨derived, hexpand, rfl⟩
    refine ⟨hrendering.genuine hname, ?_⟩
    intro hnames
    exact Schema.validate_ok_iff.2 (hrendering.sound hname hnames)
  · intro hflawed
    cases hexpand : declaration.expand with
    | error error =>
      refine ⟨error, rfl, ?_⟩
      rw [derive, hexpand]
      rfl
    | ok derived =>
      exact absurd (expand_schema_iff.1 ⟨derived, hexpand, rfl⟩) hflawed.not_rendering

/-- The options of a field stand in two annotations, around one that is somebody else's, and the
version is an option under a path. -/
def parcel : Declaration where
  name := "SmallParcel"
  fields :=
    [⟨"id", [.word "String"], [.options [.word "id"]]⟩,
      ⟨"r#state", [.word "String"],
        [.options [.word "no_save", .mark ',' false], .foreign,
          .options [.word "one_of",
            .group .paren [.literal (.text "sent"), .mark ',' false, .literal (.text "held")]]]⟩,
      ⟨"revision", [.word "option", .mark ':' true, .mark ':' false, .word "Option",
        .mark '<' false, .word "i64", .mark '>' false], [.options [.word "version"]]⟩]
  annotations := []
  shape := .named
  isGeneric := false

def parcelSchema : Schema where
  name := "small_parcel"
  fields :=
    [{ name := "id", role := some .identifier },
      { name := "state", allowed := some ["sent", "held"], settable := false },
      { name := "revision", role := some .version }]

theorem accepts_genuine_only_parcel :
    (∃ derived, parcel.expand = .ok derived ∧ derived.schema = parcelSchema ∧
        Genuine parcel parcelSchema ∧ parcelSchema.validate = .ok ()) ∧
      ∃ error, ({ parcel with isGeneric := true } : Declaration).derive = .error error := by
  have hexpand : parcel.expand =
      .ok ⟨parcelSchema, "SmallParcelField", ["Id", "State", "Revision"]⟩ := by decide
  obtain ⟨hgenuine, hvalid⟩ := (accepts_genuine_only parcel).1 (by decide) _ hexpand
  obtain ⟨error, -, herror⟩ :=
    (accepts_genuine_only { parcel with isGeneric := true }).2 (.generic rfl)
  exact ⟨⟨_, hexpand, rfl, hgenuine, hvalid (by decide)⟩, error, herror⟩

end Declaration

end RecordEngine
