import RecordEngine.Proofs.Record.Rewritten
/-!
What validation decides, and what it is good for.

The validator goes through the fields once, with the names and the roles it has met, and stops at
the first field that repeats one of either. `Fault` says the same without the two lists: the field
is told by what stands in front of it. So the fault that is reported is a fact about the schema, and
there is none exactly for the schemas that are `Sound`.

The engine never scans for a second field of a name or a role. Every lookup takes the first match,
and masks, gates and stamps are right only because in a sound schema the first match is the only one
(`Orderly`).
-/

set_option autoImplicit false

namespace RecordEngine

namespace Schema

/-! ## Faults -/

/-- No two fields have the same name, and no two the same role. -/
structure Distinct (fields : List FieldDef) : Prop where
  names : (fields.map (·.name)).Nodup
  roles : (fields.filterMap (·.role)).Nodup

/-- A field repeats something of the fields in front of it, and what is said then. A name is looked
at before a role. -/
inductive Repeats (entity : String) (earlier : List FieldDef) (field : FieldDef) : Failure → Prop
  | name (h : field.name ∈ earlier.map (·.name)) :
    Repeats entity earlier field
      (.validation ("Entity '" ++ entity ++ "' declares field '" ++ field.name ++ "' twice"))
  | role {role : Role} (hname : field.name ∉ earlier.map (·.name)) (hrole : field.role = some role)
    (h : role ∈ earlier.filterMap (·.role)) :
    Repeats entity earlier field
      (.validation ("Entity '" ++ entity ++ "' declares more than one " ++ role.label ++ " field"))

/-- What is wrong with a schema, the first fault being the one that counts. -/
inductive Fault (schema : Schema) : Failure → Prop
  | unnamed (h : schema.name = "") : Fault schema (.validation "Entity name must not be empty")
  | repeated {earlier rest : List FieldDef} {field : FieldDef} {failure : Failure}
    (hnamed : schema.name ≠ "") (hfields : schema.fields = earlier ++ field :: rest)
    (hearlier : Distinct earlier) (h : Repeats schema.name earlier field failure) :
    Fault schema failure
  | unidentified (hnamed : schema.name ≠ "") (hdistinct : Distinct schema.fields)
    (h : ∀ field ∈ schema.fields, field.role ≠ some .identifier) :
    Fault schema (.validation ("Entity '" ++ schema.name ++ "' declares no identifier field"))

/-- A schema without a fault. -/
structure Sound (schema : Schema) : Prop where
  named : schema.name ≠ ""
  distinct : Distinct schema.fields
  identified : ∃ field ∈ schema.fields, field.role = some .identifier

variable {entity : String} {fields earlier rest : List FieldDef} {field : FieldDef}
  {failure : Failure} {schema : Schema}

theorem distinct_nil : Distinct [] := ⟨List.nodup_nil, List.nodup_nil⟩

/-- One more element keeps what the elements have distinct unless it has one of these again. -/
theorem nodup_filterMap_snoc {α β : Type} {f : α → Option β} {as : List α} {a : α} :
    ((as ++ [a]).filterMap f).Nodup ↔
      (as.filterMap f).Nodup ∧ ∀ b, f a = some b → b ∉ as.filterMap f := by
  have hlast : [a].filterMap f = (f a).toList := by
    cases ha : f a <;> simp [ha]
  rw [List.filterMap_append, hlast, List.nodup_append]
  cases f a with
  | none => simp
  | some b => simp only [Option.toList_some, List.mem_singleton]; grind

/-- One more field keeps names and roles distinct unless it repeats something. -/
theorem distinct_snoc_iff :
    Distinct (earlier ++ [field]) ↔
      Distinct earlier ∧ field.name ∉ earlier.map (·.name) ∧
        ∀ role, field.role = some role → role ∉ earlier.filterMap (·.role) := by
  have hnames : ((earlier ++ [field]).map (·.name)).Nodup ↔
      (earlier.map (·.name)).Nodup ∧ field.name ∉ earlier.map (·.name) := by
    rw [List.map_append, List.map_singleton, List.nodup_append]
    simp
  constructor
  · intro h
    obtain ⟨hroles, hrole⟩ := nodup_filterMap_snoc.1 h.roles
    exact ⟨⟨(hnames.1 h.names).1, hroles⟩, (hnames.1 h.names).2, hrole⟩
  · rintro ⟨hearlier, hname, hrole⟩
    exact ⟨hnames.2 ⟨hearlier.names, hname⟩, nodup_filterMap_snoc.2 ⟨hearlier.roles, hrole⟩⟩

/-- Fields that are distinct are so up to any of them. -/
theorem Distinct.left (h : Distinct (earlier ++ rest)) : Distinct earlier where
  names := by
    have hnames := h.names
    rw [List.map_append] at hnames
    exact hnames.of_append_left
  roles := by
    have hroles := h.roles
    rw [List.filterMap_append] at hroles
    exact hroles.of_append_left

/-- A field that repeats something is one too many. -/
theorem Repeats.not_distinct (h : Repeats entity earlier field failure) :
    ¬ Distinct (earlier ++ field :: rest) := by
  intro hdistinct
  rw [List.append_cons] at hdistinct
  obtain ⟨-, hname, hrole⟩ := distinct_snoc_iff.1 hdistinct.left
  cases h with
  | name h => exact hname h
  | role _ hfield h => exact hrole _ hfield h

/-- Of what a field repeats one thing is told. -/
theorem Repeats.unique {failure' : Failure} (h : Repeats entity earlier field failure)
    (h' : Repeats entity earlier field failure') : failure = failure' := by
  cases h with
  | name hname =>
    cases h' with
    | name => rfl
    | role hname' => exact absurd hname hname'
  | role hname hrole =>
    cases h' with
    | name hname' => exact absurd hname' hname
    | role _ hrole' => rw [Option.some.inj (hrole.symm.trans hrole')]

/-! ## The scan -/

section Scan

variable {names : List String} {roles : List Role}

/-- The two lists of a scan hold the names and roles of the fields it has passed. -/
structure Met (names : List String) (roles : List Role) (earlier : List FieldDef) : Prop where
  names : ∀ name, name ∈ names ↔ name ∈ earlier.map (·.name)
  roles : ∀ role, role ∈ roles ↔ role ∈ earlier.filterMap (·.role)

theorem met_nil : Met [] [] [] := ⟨fun _ => Iff.rfl, fun _ => Iff.rfl⟩

/-- What a scan has met after one more field. -/
theorem Met.snoc (h : Met names roles earlier) :
    Met (field.name :: names) (field.role.toList ++ roles) (earlier ++ [field]) where
  names name := by
    simp only [List.mem_cons, h.names, List.map_append, List.mem_append, List.map_cons,
      List.map_nil, List.not_mem_nil, or_false]
    exact or_comm
  roles role := by
    simp only [List.mem_append, h.roles, List.filterMap_append]
    cases hrole : field.role with
    | none => simp [hrole]
    | some role' => simp [hrole, or_comm]

/-- The scan at one field. -/
theorem checkDistinct_cons (entity : String) (field : FieldDef) (rest : List FieldDef)
    (h : Met names roles earlier) :
    (∃ failure, Repeats entity earlier field failure ∧
        checkDistinct entity names roles (field :: rest) = .error failure) ∨
      (field.name ∉ earlier.map (·.name) ∧
          ∀ role, field.role = some role → role ∉ earlier.filterMap (·.role)) ∧
        checkDistinct entity names roles (field :: rest) =
          checkDistinct entity (field.name :: names) (field.role.toList ++ roles) rest := by
  rw [checkDistinct]
  by_cases hname : field.name ∈ names
  · left
    exact ⟨_, .name ((h.names _).1 hname), if_pos (by simpa using hname)⟩
  · have hfresh : field.name ∉ earlier.map (·.name) := by
      intro hmem
      exact hname ((h.names _).2 hmem)
    rw [if_neg (by simpa using hname)]
    cases hrole : field.role with
    | none => exact .inr ⟨⟨hfresh, fun _ hsome => by cases hsome⟩, rfl⟩
    | some role =>
      by_cases hmet : role ∈ roles
      · left
        exact ⟨_, .role hfresh hrole ((h.roles role).1 hmet), if_pos (by simpa using hmet)⟩
      · right
        refine ⟨⟨hfresh, ?_⟩, if_neg (by simpa using hmet)⟩
        intro role' hsome hmem
        obtain rfl := Option.some.inj hsome
        exact hmet ((h.roles role).2 hmem)

/-- The scan goes through if nothing is repeated, and else it stops at the first field that repeats
something. -/
theorem checkDistinct_cases (entity : String) (fields : List FieldDef)
    (h : Met names roles earlier) (hearlier : Distinct earlier) :
    (Distinct (earlier ++ fields) ∧ checkDistinct entity names roles fields = .ok ()) ∨
      ∃ passed field rest failure, fields = passed ++ field :: rest ∧
        Distinct (earlier ++ passed) ∧ Repeats entity (earlier ++ passed) field failure ∧
          checkDistinct entity names roles fields = .error failure := by
  induction fields generalizing names roles earlier with
  | nil =>
    left
    exact ⟨by rwa [List.append_nil], rfl⟩
  | cons field rest ih =>
    rcases checkDistinct_cons entity field rest h with
      ⟨failure, hrepeats, hscan⟩ | ⟨hfresh, hscan⟩
    · right
      exact ⟨[], field, rest, failure, rfl, by rwa [List.append_nil],
        by rwa [List.append_nil], hscan⟩
    · rw [hscan, List.append_cons]
      rcases ih h.snoc (distinct_snoc_iff.2 ⟨hearlier, hfresh⟩) with hgood |
        ⟨passed, found, rest', failure, rfl, hpassed, hrepeats, hstopped⟩
      · exact .inl hgood
      · right
        rw [← List.append_cons] at hpassed hrepeats
        exact ⟨field :: passed, found, rest', failure, rfl, hpassed, hrepeats, hstopped⟩

/-- A scan stops where the first repetition is. -/
theorem checkDistinct_of_repeats {passed : List FieldDef} (h : Met names roles earlier)
    (hpassed : Distinct (earlier ++ passed))
    (hrepeats : Repeats entity (earlier ++ passed) field failure) :
    checkDistinct entity names roles (passed ++ field :: rest) = .error failure := by
  induction passed generalizing names roles earlier with
  | nil =>
    rw [List.append_nil] at hrepeats
    rcases checkDistinct_cons entity field rest h with ⟨failure', hrepeats', hscan⟩ | ⟨hfresh, -⟩
    · rw [hrepeats.unique hrepeats']
      exact hscan
    · cases hrepeats with
      | name hname => exact absurd hname hfresh.1
      | role _ hrole hmem => exact absurd hmem (hfresh.2 _ hrole)
  | cons first passed ih =>
    rcases checkDistinct_cons entity first (passed ++ field :: rest) h
      with ⟨failure', hrepeats', -⟩ | ⟨-, hscan⟩
    · exact absurd hpassed hrepeats'.not_distinct
    · rw [List.append_cons] at hpassed hrepeats
      exact hscan.trans (ih h.snoc hpassed hrepeats)

end Scan

/-! ## Validation -/

/-- An identifier is looked for when all else is in order. -/
theorem identifierIndex_cases (schema : Schema) :
    (∃ field ∈ schema.fields, field.role = some .identifier) ∧
        (∃ index, schema.identifierIndex = .ok index) ∨
      (∀ field ∈ schema.fields, field.role ≠ some .identifier) ∧
        schema.identifierIndex =
          .error (.validation ("Entity '" ++ schema.name ++ "' declares no identifier field")) := by
  rw [identifierIndex]
  cases hindex : schema.roleIndex? .identifier with
  | some index =>
    left
    obtain ⟨hlt, hrole, -⟩ := List.findIdx?_eq_some_iff_getElem.1 hindex
    exact ⟨⟨_, List.getElem_mem hlt, eq_of_beq hrole⟩, index, rfl⟩
  | none =>
    right
    refine ⟨?_, rfl⟩
    intro field hfield hrole
    have hnone := List.findIdx?_eq_none_iff.1 hindex field hfield
    simp [hrole] at hnone

/-- Validation finds a schema sound or reports its fault. -/
theorem validate_cases (schema : Schema) :
    (schema.Sound ∧ schema.validate = .ok ()) ∨
      ∃ failure, schema.Fault failure ∧ schema.validate = .error failure := by
  rw [validate]
  by_cases hname : schema.name = ""
  · right
    exact ⟨_, .unnamed hname, if_pos (by simp [hname])⟩
  · rw [if_neg (by simpa using hname)]
    rcases checkDistinct_cases schema.name schema.fields met_nil
      distinct_nil with ⟨hdistinct, hscan⟩ | ⟨passed, field, rest, failure, hfields, hpassed,
        hrepeats, hscan⟩
    · rw [hscan]
      rcases identifierIndex_cases schema with ⟨hidentified, index, hindex⟩ |
        ⟨hnone, hindex⟩
      · left
        exact ⟨⟨hname, hdistinct, hidentified⟩, by rw [hindex]; rfl⟩
      · right
        exact ⟨_, .unidentified hname hdistinct hnone, by rw [hindex]; rfl⟩
    · right
      exact ⟨failure, .repeated hname hfields hpassed hrepeats, by rw [hscan]; rfl⟩

theorem Sound.not_fault (h : schema.Sound) : ¬ schema.Fault failure := by
  intro hfault
  cases hfault with
  | unnamed hname => exact h.named hname
  | repeated _ hfields _ hrepeats => exact hrepeats.not_distinct (hfields ▸ h.distinct)
  | unidentified _ _ hnone =>
    obtain ⟨field, hfield, hrole⟩ := h.identified
    exact hnone field hfield hrole

theorem validate_ok_iff : schema.validate = .ok () ↔ schema.Sound := by
  rcases validate_cases schema with ⟨hsound, hok⟩ | ⟨failure, hfault, herror⟩
  · exact iff_of_true hok hsound
  · rw [herror]
    exact iff_of_false (by simp) fun hsound => hsound.not_fault hfault

theorem Fault.validate (h : schema.Fault failure) : schema.validate = .error failure := by
  unfold Schema.validate
  cases h with
  | unnamed hname => exact if_pos (by simp [hname])
  | repeated hname hfields hearlier hrepeats =>
    have hscan : checkDistinct schema.name [] [] schema.fields = .error failure := by
      rw [hfields]
      exact checkDistinct_of_repeats met_nil hearlier hrepeats
    rw [if_neg (by simpa using hname), hscan]
    rfl
  | unidentified hname hdistinct hnone =>
    have hscan : checkDistinct schema.name [] [] schema.fields = .ok () := by
      rcases checkDistinct_cases schema.name schema.fields met_nil distinct_nil with ⟨-, hok⟩ |
        ⟨passed, field, rest, failure, hfields, -, hrepeats, -⟩
      · exact hok
      · exact absurd (hfields ▸ hdistinct) hrepeats.not_distinct
    rcases identifierIndex_cases schema with ⟨⟨field, hfield, hrole⟩, -⟩ | ⟨-, hindex⟩
    · exact absurd hrole (hnone field hfield)
    · rw [if_neg (by simpa using hname), hscan, hindex]
      rfl

theorem validate_error_iff : schema.validate = .error failure ↔ schema.Fault failure := by
  constructor
  · intro herror
    rcases validate_cases schema with ⟨-, hok⟩ | ⟨failure', hfault, herror'⟩
    · rw [hok] at herror
      cases herror
    · rw [herror'] at herror
      rwa [← Except.error.inj herror]
  · intro hfault
    exact hfault.validate

/-! ## Lookups -/

/-- The lookups of a schema fit together. -/
structure Orderly (schema : Schema) : Prop where
  /-- The positions of fields have names, and no others. -/
  named_iff (i : Nat) : (∃ name, schema.fieldName? i = some name) ↔ i < schema.fieldCount
  /-- Finding a name and giving the name of a position are inverse to each other. -/
  index_iff (i : Nat) (name : String) :
    schema.fieldIndex? name = some i ↔ schema.fieldName? i = some name
  /-- What is found for a role is the one field of the role. -/
  role_iff (i : Nat) (role : Role) :
    schema.roleIndex? role = some i ↔
      ∃ field, schema.fields[i]? = some field ∧ field.role = some role
  writable_of_settable (i : Nat) (h : schema.isSettable i = true) : schema.isWritable i = true
  /-- Besides what is settable a save writes its own stamps, declared settable or not. -/
  writable_iff (i : Nat) :
    schema.isWritable i = true ↔
      schema.isSettable i = true ∨ schema.roleIndex? .version = some i ∨
        schema.roleIndex? .updatedAt = some i ∨ schema.roleIndex? .updatedBy = some i
  /-- No save writes these, declared settable or not. -/
  kept (i : Nat) (role : Role) (hrole : role ∈ [.identifier, .createdAt, .createdBy])
    (hi : schema.roleIndex? role = some i) : schema.isWritable i = false

theorem fieldName?_of_fieldIndex? {i : Nat} {name : String} (h : schema.fieldIndex? name = some i) :
    schema.fieldName? i = some name := by
  obtain ⟨hi, hname, -⟩ := List.findIdx?_eq_some_iff_getElem.1 h
  rw [fieldName?, List.getElem?_eq_getElem hi, Option.map_some, eq_of_beq hname]

/-- Where no role is twice the only field of a role is the first one. -/
theorem roleIndex?_of_role (hroles : (schema.fields.filterMap (·.role)).Nodup) {i : Nat}
    {field : FieldDef} {role : Role} (hfield : schema.fields[i]? = some field)
    (hrole : field.role = some role) : schema.roleIndex? role = some i := by
  obtain ⟨hi, rfl⟩ := List.getElem?_eq_some_iff.1 hfield
  rw [roleIndex?, List.findIdx?_eq_some_iff_getElem]
  refine ⟨hi, by simp [hrole], ?_⟩
  intro j hj hmatch
  have hpairwise := List.pairwise_filterMap.1 hroles
  have hdiffer := List.pairwise_iff_getElem.1 hpairwise j i (by omega) hi hj
  exact hdiffer role (eq_of_beq hmatch) role hrole rfl

/-- A save writes the fields of a stamped role, and of the others the settable ones. -/
theorem isWritable_iff {i : Nat} :
    schema.isWritable i = true ↔ schema.isSettable i = true ∨
      ∃ role, schema.roleAt? i = some role ∧ role.isStampedOnSave = true := by
  constructor
  · exact isSettable_or_stamped
  · rintro (hsettable | ⟨role, hrole, hstamped⟩)
    · exact isWritable_of_isSettable hsettable
    · obtain ⟨field, hfield, hat⟩ := Option.bind_eq_some_iff.1 hrole
      simp [isWritable, hfield, hat, hstamped]

theorem Sound.orderly (h : schema.Sound) : schema.Orderly := by
  have hrole (i : Nat) (role : Role) :
      schema.roleIndex? role = some i ↔ schema.roleAt? i = some role := by
    constructor
    · exact roleAt?_of_roleIndex?
    · intro hat
      obtain ⟨field, hfield, hfrole⟩ := Option.bind_eq_some_iff.1 hat
      exact roleIndex?_of_role h.distinct.roles hfield hfrole
  constructor
  case named_iff =>
    intro i
    simp [fieldName?, fieldCount, List.getElem?_eq_some_iff]
  case index_iff =>
    intro i name
    exact ⟨fieldName?_of_fieldIndex?, fieldIndex?_of_fieldName? h.distinct.names⟩
  case role_iff =>
    intro i role
    rw [hrole, roleAt?, Option.bind_eq_some_iff]
  case writable_of_settable =>
    intro i hi
    exact isWritable_of_isSettable hi
  case writable_iff =>
    intro i
    rw [isWritable_iff, hrole, hrole, hrole]
    refine or_congr Iff.rfl ⟨?_, ?_⟩
    · rintro ⟨role, hat, hstamped⟩
      cases role <;> simp_all [Role.isStampedOnSave]
    · rintro (hat | hat | hat) <;> exact ⟨_, hat, rfl⟩
  case kept =>
    intro i role hunstamped hi
    rw [hrole] at hi
    obtain ⟨field, hfield, hfrole⟩ := Option.bind_eq_some_iff.1 hi
    have hnot : role.isStampedOnSave = false := by
      revert hunstamped
      cases role <;> decide
    simp [isWritable, hfield, hfrole, hnot]

/-- **Validation is exact.** It accepts the schemas that have a name, distinct field names, no role
twice and an identifier; it refuses every other one for its first fault; and in the schemas that it
accepts all lookups fit together. -/
theorem validation_exact (schema : Schema) :
    (schema.validate = .ok () ↔
      schema.name ≠ "" ∧ (schema.fields.map (·.name)).Nodup ∧
        (schema.fields.filterMap (·.role)).Nodup ∧
        ∃ field ∈ schema.fields, field.role = some .identifier) ∧
      (∀ failure, schema.validate = .error failure ↔ schema.Fault failure) ∧
      (schema.validate = .ok () → schema.Orderly) := by
  refine ⟨?_, ?_, ?_⟩
  · rw [validate_ok_iff]
    constructor
    · intro h
      exact ⟨h.named, h.distinct.names, h.distinct.roles, h.identified⟩
    · rintro ⟨hnamed, hnames, hroles, hidentified⟩
      exact ⟨hnamed, ⟨hnames, hroles⟩, hidentified⟩
  · intro failure
    exact validate_error_iff
  · intro hok
    exact (validate_ok_iff.1 hok).orderly

/-- Of the stamped fields one is declared unsettable, and of the unstamped ones none. -/
def voucher : Schema where
  name := "voucher"
  fields :=
    [{ name := "id", role := some .identifier }, { name := "amount" },
      { name := "printed", settable := false }, { name := "made", role := some .createdAt },
      { name := "changed", role := some .updatedAt, settable := false }]

theorem validation_exact_voucher :
    voucher.validate = .ok () ∧ voucher.Orderly ∧
      (List.range 6).filter voucher.isWritable = [1, 4] := by
  have hvalid : voucher.validate = .ok () := by decide
  exact ⟨hvalid, (validation_exact voucher).2.2 hvalid, by decide⟩

end Schema

end RecordEngine
