import RecordEngine.Proofs.Declaration.Accepted
/-!
The constants that name the fields of a declared structure.

A constant is made from the plain name of its field and from nothing else, so whether constants are
identifiers and differ is a question about names. For conventional names the answer is yes. Others
can be spoiled, in which case there are no constants at all, or two of them give the same constant,
which then stands for the first of the two fields.
-/

set_option autoImplicit false

namespace RecordEngine

namespace Declaration

/-! ## Names of fields -/

/-- A name that a field can have: one word, and no keyword unless the mark `r#` makes a name of
it. -/
def IsFieldName (name : String) : Prop :=
  Lexeme.word? name.toList = some (name, []) ∧ name ∉ keywords

instance (name : String) : Decidable (IsFieldName name) := inferInstanceAs (Decidable (_ ∧ _))

theorem eq_of_identifier? {cs word : List Char} (h : Text.identifier? cs = some (word, [])) :
    word = cs ∧ ∃ c rest, cs = c :: rest ∧ Text.canBegin c = true ∧
      ∀ d ∈ rest, Text.canContinue d = true := by
  cases cs with
  | nil => cases h
  | cons c rest =>
    rw [Text.identifier?, Option.ite_none_right_eq_some, Option.some.injEq, Prod.mk.injEq] at h
    obtain ⟨hbegin, hword, hend⟩ := h
    have hall := List.dropWhile_eq_nil_iff.1 hend
    rw [List.takeWhile_eq_self_iff.2 hall] at hword
    exact ⟨hword.symm, c, rest, rfl, hbegin, hall⟩

/-- A mark in front does not make a name of these. -/
theorem isPlainName_of_word {word : List Char} (h : Text.identifier? word = some (word, []))
    (hword : String.ofList word ∉ Lexeme.unmarkable) : IsPlainName word where
  begins := (eq_of_identifier? h).2
  ne_word := by
    constructor <;> rintro rfl <;> exact hword (by decide)

theorem IsFieldName.plain {name : String} (h : IsFieldName name) :
    IsPlainName (plainName name) := by
  obtain ⟨hword, hkeyword⟩ := h
  unfold Lexeme.word? at hword
  split at hword
  case h_1 cs hname =>
    simp only [Option.bind_eq_bind, Option.bind_eq_some_iff, Prod.exists] at hword
    obtain ⟨word, rest, hidentifier, hpair⟩ := hword
    split at hpair
    case isTrue => cases hpair
    case isFalse hmarkable =>
      obtain rfl : rest = [] := by
        cases hpair
        rfl
      obtain rfl := (eq_of_identifier? hidentifier).1
      rw [plainName, hname]
      exact isPlainName_of_word hidentifier (by simpa using hmarkable)
  case h_2 hname =>
    obtain ⟨⟨word, rest⟩, hidentifier, hpair⟩ := Option.map_eq_some_iff.1 hword
    obtain rfl : rest = [] := (Prod.mk.inj hpair).2
    have hplain : plainName name = name.toList := by
      unfold plainName
      split
      · rename_i hraw
        exact absurd hraw (hname _)
      · rfl
    have hsub : ∀ word ∈ Lexeme.unmarkable, word ∈ keywords := by decide
    rw [(eq_of_identifier? hidentifier).1] at hidentifier
    rw [hplain]
    exact isPlainName_of_word hidentifier fun hmem => hkeyword (by simpa using hsub _ hmem)

/-! ## The checks -/

theorem checkEach_cases (passes : String → Bool) (misnomer : String → Misnomer)
    (constants : List String) :
    (∀ constant ∈ constants, passes constant = true) ∧
        checkEach passes misnomer constants = .ok () ∨
      ∃ before constant after, constants = before ++ constant :: after ∧
        (∀ earlier ∈ before, passes earlier = true) ∧ passes constant = false ∧
        checkEach passes misnomer constants = .error (.invalidConstant (misnomer constant)) := by
  induction constants with
  | nil => exact .inl ⟨by simp, rfl⟩
  | cons constant constants ih =>
    have hstep : checkEach passes misnomer (constant :: constants) =
        if passes constant then checkEach passes misnomer constants
        else .error (.invalidConstant (misnomer constant)) := by
      rw [checkEach, List.forM]
      cases passes constant <;> rfl
    rw [hstep]
    by_cases hconstant : passes constant = true
    · rw [if_pos hconstant]
      rcases ih with ⟨hall, hok⟩ | ⟨before, bad, after, rfl, hbefore, hbad, herror⟩
      · exact .inl ⟨List.forall_mem_cons.2 ⟨hconstant, hall⟩, hok⟩
      · right
        exact ⟨constant :: before, bad, after, rfl,
          List.forall_mem_cons.2 ⟨hconstant, hbefore⟩, hbad, herror⟩
    · right
      rw [if_neg hconstant]
      exact ⟨[], constant, constants, rfl, by simp, by simpa using hconstant, rfl⟩

variable {declaration : Declaration} {derived : Derived}

/-- The name of the constant of a declared field. -/
def constantOf (field : FieldDeclaration) : String :=
  String.ofList (pascalCase (plainName field.name))

theorem constants_of_expand (h : declaration.expand = .ok derived) :
    derived.constants = declaration.fields.map constantOf := by
  obtain ⟨name, accepted, -, -, -, hfields, -, rfl⟩ := expand_eq_ok_iff.1 h
  have hsame : ∀ {fields : List FieldDeclaration} {accepted : List DerivedField},
      List.Forall₂ Admits fields accepted →
        accepted.map (·.constant) = fields.map constantOf := by
    intro fields accepted hadmits
    induction hadmits with
    | nil => rfl
    | cons hfirst _ ih => rw [List.map_cons, List.map_cons, ih, ← hfirst.declaration]; rfl
  exact hsame (readFields_ok_iff.1 hfields).1

/-! ## Constants that mirror the fields -/

/-- The constants are the fields under other names: each is an identifier, no two are the same, each
stands for the field of its position, and finding the name of a constant and finding its position
agree with finding one from the other in the schema. -/
structure Mirrors (derived : Derived) : Prop where
  identifiers : ∀ constant ∈ derived.constants, isIdentifier constant = true
  distinct : derived.constants.Nodup
  all : derived.constants.length = derived.schema.fieldCount
  index_iff (constant : String) (i : Nat) :
    derived.index? constant = some i ↔ derived.constants[i]? = some constant
  name_of_index (constant : String) :
    derived.name? constant = (derived.index? constant).bind derived.schema.fieldName?
  index_of_name (constant : String) :
    derived.index? constant = (derived.name? constant).bind derived.schema.fieldIndex?

theorem lookup_zip {constants names : List String} (h : constants.length = names.length)
    (constant : String) :
    (constants.zip names).lookup constant =
      (constants.findIdx? (· == constant)).bind (names[·]?) := by
  induction constants generalizing names with
  | nil => rfl
  | cons first constants ih =>
    cases names with
    | nil => cases h
    | cons name names =>
      rw [List.zip_cons_cons, List.findIdx?_cons]
      by_cases hfirst : first = constant
      · simp [hfirst]
      · have hother : (constant == first) = false := by simpa using Ne.symm hfirst
        simp only [List.lookup_cons, hother, ih (Nat.succ.inj h), beq_iff_eq, if_neg hfirst]
        cases constants.findIdx? (· == constant) <;> simp

theorem findIdx?_iff_of_nodup {constants : List String} (h : constants.Nodup) {constant : String}
    {i : Nat} :
    constants.findIdx? (· == constant) = some i ↔ constants[i]? = some constant := by
  rw [List.findIdx?_eq_some_iff_getElem, List.getElem?_eq_some_iff]
  constructor
  · rintro ⟨hi, hsame, -⟩
    exact ⟨hi, eq_of_beq hsame⟩
  · rintro ⟨hi, rfl⟩
    refine ⟨hi, beq_self_eq_true _, ?_⟩
    intro j hj hsame
    have hij := h.getElem_inj_iff.1 (eq_of_beq hsame)
    omega

/-- What a declaration is refused with for the constants of its fields: for the first that is not
spelled like a name, or, if all are, for the first that is a keyword. -/
inductive Refused (fields : List FieldDeclaration) : DeclarationError → Prop
  | misspelled (before : List FieldDeclaration) (field : FieldDeclaration)
    (after : List FieldDeclaration) (hfields : fields = before ++ field :: after)
    (hbefore : ∀ earlier ∈ before, ¬ Misspelled (plainName earlier.name))
    (h : Misspelled (plainName field.name)) :
    Refused fields (.invalidConstant (.misspelled (constantOf field)))
  | keyword (hspelled : ∀ field ∈ fields, ¬ Misspelled (plainName field.name))
    (before : List FieldDeclaration) (field : FieldDeclaration) (after : List FieldDeclaration)
    (hfields : fields = before ++ field :: after)
    (hbefore : ∀ earlier ∈ before, ¬ Spoiled (plainName earlier.name))
    (h : pascalCase (plainName field.name) = "Self".toList) :
    Refused fields (.invalidConstant (.keyword (constantOf field)))

theorem Refused.spoiled {fields : List FieldDeclaration} {error : DeclarationError}
    (h : Refused fields error) : ∃ field ∈ fields, Spoiled (plainName field.name) := by
  cases h with
  | misspelled before field after hfields hbefore h =>
    exact ⟨field, by simp [hfields], .misspelled h⟩
  | keyword hspelled before field after hfields hbefore h =>
    exact ⟨field, by simp [hfields], .keyword h⟩

/-- What becomes of a declaration that passes all other checks. -/
theorem derive_cases (h : declaration.expand = .ok derived)
    (hvalid : ∀ field ∈ declaration.fields, IsFieldName field.name) :
    (∀ field ∈ declaration.fields, ¬ Spoiled (plainName field.name)) ∧
        (∀ constant ∈ derived.constants, isIdentifier constant = true) ∧
        declaration.derive = .ok derived ∨
      ∃ error, Refused declaration.fields error ∧ declaration.derive = .error error := by
  have hspelled : ∀ field ∈ declaration.fields,
      (isSpelled (constantOf field) = true ↔ ¬ Misspelled (plainName field.name)) :=
    fun field hfield => isSpelled_pascalCase_iff (hvalid field hfield).plain
  have hidentifier : ∀ field ∈ declaration.fields,
      (isIdentifier (constantOf field) = true ↔ ¬ Spoiled (plainName field.name)) :=
    fun field hfield => isIdentifier_pascalCase_iff (hvalid field hfield).plain
  have hderive : declaration.derive = do
      checkConstants derived.constants
      return derived := by
    rw [derive, h]
    rfl
  -- The constants are a list made from the fields, so where one splits the other does.
  have hsplit : ∀ {before : List String} {constant : String} {after : List String},
      derived.constants = before ++ constant :: after → ∃ earlier field later,
        declaration.fields = earlier ++ field :: later ∧ before = earlier.map constantOf ∧
          constant = constantOf field := by
    intro before constant after hconstants
    rw [constants_of_expand h] at hconstants
    obtain ⟨earlier, rest, hfields, rfl, hrest⟩ := List.map_eq_append_iff.1 hconstants
    obtain ⟨field, later, rfl, rfl, -⟩ := List.map_eq_cons_iff.1 hrest
    exact ⟨earlier, field, later, hfields, rfl, rfl⟩
  rcases checkEach_cases isSpelled .misspelled derived.constants with ⟨hall, hok⟩ |
    ⟨before, constant, after, hconstants, hbefore, hbad, herror⟩
  · rcases checkEach_cases isIdentifier .keyword derived.constants with ⟨hnames, hok'⟩ |
      ⟨before, constant, after, hconstants, hbefore, hbad, herror⟩
    · refine .inl ⟨fun field hfield => (hidentifier field hfield).1 (hnames _ ?_), hnames, ?_⟩
      · rw [constants_of_expand h]
        exact List.mem_map_of_mem hfield
      · rw [hderive, checkConstants, hok, hok']
        rfl
    · obtain ⟨earlier, field, later, hfields, rfl, rfl⟩ := hsplit hconstants
      rw [hfields] at hidentifier hspelled
      refine .inr ⟨_, .keyword ?_ earlier field later hfields ?_ ?_, ?_⟩
      · intro other hother
        rw [hfields] at hother
        refine (hspelled other hother).1 (hall _ ?_)
        rw [constants_of_expand h, hfields]
        exact List.mem_map_of_mem hother
      · intro other hother
        exact (hidentifier other (by simp [hother])).1 (hbefore _ (List.mem_map_of_mem hother))
      · have hspoiled : Spoiled (plainName field.name) := by
          by_contra hnot
          rw [(hidentifier field (by simp)).2 hnot] at hbad
          cases hbad
        have hfield : isSpelled (constantOf field) = true := hall _ (by simp [hconstants])
        cases hspoiled with
        | misspelled h => exact absurd h ((hspelled field (by simp)).1 hfield)
        | keyword h => exact h
      · rw [hderive, checkConstants, hok]
        exact congrArg (· >>= fun _ => pure derived) herror
  · obtain ⟨earlier, field, later, hfields, rfl, rfl⟩ := hsplit hconstants
    rw [hfields] at hspelled
    refine .inr ⟨_, .misspelled earlier field later hfields ?_ ?_, ?_⟩
    · intro other hother
      exact (hspelled other (by simp [hother])).1 (hbefore _ (List.mem_map_of_mem hother))
    · by_contra hnot
      rw [(hspelled field (by simp)).2 hnot] at hbad
      cases hbad
    · rw [hderive, checkConstants, herror]
      rfl

/-- Constants that differ mirror the fields. -/
theorem mirrors_of_nodup (hexpand : declaration.expand = .ok derived)
    (hidentifiers : ∀ constant ∈ derived.constants, isIdentifier constant = true)
    (hconstants : derived.constants.Nodup)
    (hnames : (declaration.fields.map (plainName ·.name)).Nodup) : Mirrors derived := by
  have hrendering : Rendering declaration derived.schema :=
    expand_schema_iff.1 ⟨derived, hexpand, rfl⟩
  have hall : derived.constants.length = derived.schema.fieldCount := by
    rw [constants_of_expand hexpand, List.length_map, hrendering.fields.length_eq]
    rfl
  have hindex (constant : String) (i : Nat) :
      derived.index? constant = some i ↔ derived.constants[i]? = some constant :=
    findIdx?_iff_of_nodup hconstants
  have hname (constant : String) :
      derived.name? constant = (derived.index? constant).bind derived.schema.fieldName? := by
    rw [Derived.name?, lookup_zip (by simpa [Schema.fieldCount] using hall)]
    simp only [List.getElem?_map]
    rfl
  refine ⟨hidentifiers, hconstants, hall, hindex, hname, ?_⟩
  intro constant
  rw [hname]
  cases hposition : derived.index? constant with
  | none => rfl
  | some i =>
    have hi : i < derived.schema.fieldCount := by
      obtain ⟨hi, -⟩ := List.getElem?_eq_some_iff.1 ((hindex constant i).1 hposition)
      omega
    have hfield : derived.schema.fieldName? i =
        some (derived.schema.fields.get ⟨i, hi⟩).name := by
      rw [Schema.fieldName?, List.getElem?_eq_getElem hi, Option.map_some]
      rfl
    rw [Option.bind_some, hfield, Option.bind_some,
      Schema.fieldIndex?_of_fieldName? (hrendering.names_nodup hnames) hfield]

/-- Conventional names that differ have constants that do. -/
theorem constants_nodup_of_conventional {fields : List FieldDeclaration}
    (hnames : (fields.map (plainName ·.name)).Nodup)
    (h : ∀ field ∈ fields, Conventional (plainName field.name)) :
    (fields.map constantOf).Nodup := by
  have hmap : fields.map constantOf =
      (fields.map (plainName ·.name)).map fun name => String.ofList (pascalCase name) := by
    rw [List.map_map]
    rfl
  rw [hmap]
  refine List.Nodup.map_on ?_ hnames
  intro name hname other hother hsame
  obtain ⟨field, hfield, rfl⟩ := List.mem_map.1 hname
  obtain ⟨field', hfield', rfl⟩ := List.mem_map.1 hother
  exact pascalCase_inj (h field hfield) (h field' hfield') (String.ofList_injective hsame)

/-- **The constants of conventional names mirror the fields.** A declaration that passes all other
checks has constants unless a name is spoiled. The first name whose constant is not spelled like a
name stops it; if there is none, the first constant that is a keyword makes the type of the
constants one that does not compile. The constants mirror the fields if they differ, which those of
conventional names do. -/
theorem constants_mirror_fields (declaration : Declaration) (derived : Derived)
    (hexpand : declaration.expand = .ok derived)
    (hvalid : ∀ field ∈ declaration.fields, IsFieldName field.name)
    (hdistinct : (declaration.fields.map (plainName ·.name)).Nodup) :
    (declaration.derive = .ok derived ↔
      ∀ field ∈ declaration.fields, ¬ Spoiled (plainName field.name)) ∧
    (∀ error, declaration.derive = .error error → Refused declaration.fields error) ∧
    (declaration.derive = .ok derived →
      (Mirrors derived ↔ (declaration.fields.map constantOf).Nodup)) ∧
    ((∀ field ∈ declaration.fields, Conventional (plainName field.name)) →
      declaration.derive = .ok derived ∧ Mirrors derived) := by
  rcases derive_cases hexpand hvalid with ⟨hnone, hidentifiers, hok⟩ | ⟨error, hrefused, herror⟩
  · refine ⟨iff_of_true hok hnone, by simp [hok], fun _ => ⟨?_, ?_⟩, ?_⟩
    · intro hmirrors
      rw [← constants_of_expand hexpand]
      exact hmirrors.distinct
    · intro hconstants
      rw [← constants_of_expand hexpand] at hconstants
      exact mirrors_of_nodup hexpand hidentifiers hconstants hdistinct
    · intro hconventional
      have hconstants := constants_nodup_of_conventional hdistinct hconventional
      rw [← constants_of_expand hexpand] at hconstants
      exact ⟨hok, mirrors_of_nodup hexpand hidentifiers hconstants hdistinct⟩
  · obtain ⟨field, hmem, hspoiled⟩ := hrefused.spoiled
    refine ⟨iff_of_false (by simp [herror]) fun hnone => hnone field hmem hspoiled, ?_,
      by simp [herror], ?_⟩
    · intro other hother
      obtain rfl := Except.error.inj (herror.symm.trans hother)
      exact hrefused
    · intro hconventional
      exact absurd hspoiled ((hconventional field hmem).not_spoiled (hvalid field hmem).plain)

def order : Declaration where
  name := "Order"
  fields :=
    [⟨"id", [.word "String"], [.options [.word "id"]]⟩, ⟨"unit_price", [.word "f64"], []⟩,
      ⟨"r#type", [.word "String"], []⟩]
  annotations := []
  shape := .named
  isGeneric := false

theorem constants_mirror_fields_order :
    ∃ derived, order.derive = .ok derived ∧ derived.constants = ["Id", "UnitPrice", "Type"] ∧
      Mirrors derived ∧ derived.name? "UnitPrice" = some "unit_price" := by
  have hexpand : order.expand = .ok
      { schema :=
          { name := "order"
            fields :=
              [{ name := "id", role := some .identifier }, { name := "unit_price" },
                { name := "type" }] }
        constantsName := "OrderField"
        constants := ["Id", "UnitPrice", "Type"] } := by decide
  have hwords : ∀ field ∈ order.fields, Conventional (plainName field.name) := by
    have hid : IsWord "id".toList := .mk rfl rfl rfl rfl
    have hunit : IsWord "unit".toList := .mk rfl rfl rfl rfl
    have hprice : IsWord "price".toList := .mk rfl rfl rfl rfl
    have htype : IsWord "type".toList := .mk rfl rfl rfl rfl
    intro field hfield
    simp only [order, List.mem_cons, List.not_mem_nil, or_false] at hfield
    rcases hfield with rfl | rfl | rfl
    · exact ⟨["id".toList], by simp, by simpa using hid, by decide⟩
    · exact ⟨["unit".toList, "price".toList], by simp, by simpa using ⟨hunit, hprice⟩, by decide⟩
    · exact ⟨["type".toList], by simp, by simpa using htype, by decide⟩
  obtain ⟨-, -, -, hconventional⟩ :=
    constants_mirror_fields order _ hexpand (by decide +kernel) (by decide)
  obtain ⟨hderive, hmirrors⟩ := hconventional hwords
  exact ⟨_, hderive, rfl, hmirrors, by decide⟩

/-- A field the name of which goes on with a digit behind an underscore. -/
def track : Declaration where
  name := "Track"
  fields :=
    [⟨"id", [.word "String"], [.options [.word "id"]]⟩, ⟨"_9x", [.word "i64"], []⟩]
  annotations := []
  shape := .named
  isGeneric := false

/-- Two fields with the same words, told apart by the way they are joined. -/
def shelf : Declaration where
  name := "Shelf"
  fields :=
    [⟨"id", [.word "String"], [.options [.word "id"]]⟩, ⟨"a_b", [.word "i64"], []⟩,
      ⟨"aB", [.word "i64"], []⟩]
  annotations := []
  shape := .named
  isGeneric := false

theorem constants_missing_or_shared :
    ((∃ derived, track.expand = .ok derived) ∧
      (∀ field ∈ track.fields, IsFieldName field.name) ∧
      (track.fields.map (plainName ·.name)).Nodup ∧
      track.derive = .error (.invalidConstant (.misspelled "9x"))) ∧
    (∀ field ∈ shelf.fields, IsFieldName field.name) ∧
      (shelf.fields.map (plainName ·.name)).Nodup ∧
      ∃ derived, shelf.derive = .ok derived ∧ derived.constants = ["Id", "AB", "AB"] ∧
        derived.constants[2]? = some "AB" ∧ derived.index? "AB" = some 1 ∧
        derived.name? "AB" = some "a_b" := by
  refine ⟨⟨⟨_, rfl⟩, ?_, ?_, ?_⟩, ?_, ?_, ⟨_, rfl, ?_⟩⟩ <;> decide +kernel

end Declaration

end RecordEngine
