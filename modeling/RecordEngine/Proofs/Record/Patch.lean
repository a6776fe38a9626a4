import RecordEngine.Proofs.Record.Fields
/-!
Change sets as patches.

A change set names the fields it is about, so it can be applied to a row by looking the names up. In
a schema whose names are distinct, as validation demands, that comes to overwriting the positions of
the mask the change set was made from.
-/

set_option autoImplicit false

namespace RecordEngine

namespace Schema

theorem nodup_of_checkDistinct {entity : String} {names : List String} {roles : List Role}
    {fields : List FieldDef} (h : checkDistinct entity names roles fields = .ok ()) :
    (fields.map (·.name)).Nodup ∧ ∀ f ∈ fields, f.name ∉ names := by
  induction fields generalizing names roles with
  | nil => exact ⟨List.nodup_nil, fun _ hf => by cases hf⟩
  | cons field rest ih =>
    -- The roles are checked along with the names and do not matter here.
    have hrest : field.name ∉ names ∧
        ∃ roles', checkDistinct entity (field.name :: names) roles' rest = .ok () := by
      unfold checkDistinct at h
      split at h
      · cases h
      · next hname =>
        refine ⟨by simpa using hname, ?_⟩
        split at h
        · exact ⟨roles, h⟩
        · split at h
          · cases h
          · exact ⟨_, h⟩
    obtain ⟨hname, roles', hcheck⟩ := hrest
    obtain ⟨hnodup, hfresh⟩ := ih hcheck
    refine ⟨List.nodup_cons.2 ⟨fun hmem => ?_, hnodup⟩, fun f hf => ?_⟩
    · obtain ⟨f, hf, heq⟩ := List.mem_map.1 hmem
      exact hfresh f hf (heq ▸ List.mem_cons_self)
    · rcases List.mem_cons.1 hf with rfl | hf
      · exact hname
      · exact fun hmem => hfresh f hf (List.mem_cons_of_mem _ hmem)

/-- The names of the fields of a valid schema are distinct. -/
theorem nodup_of_validate {schema : Schema} (h : schema.validate = .ok ()) :
    (schema.fields.map (·.name)).Nodup := by
  unfold validate at h
  split at h
  · cases h
  · cases hcheck : checkDistinct schema.name [] [] schema.fields with
    | error failure =>
      rw [hcheck] at h
      cases h
    | ok _ => exact (nodup_of_checkDistinct hcheck).1

/-- A field is found under its name. -/
theorem fieldIndex?_of_fieldName? {schema : Schema} (hnodup : (schema.fields.map (·.name)).Nodup)
    {i : Nat} {name : String} (h : schema.fieldName? i = some name) :
    schema.fieldIndex? name = some i := by
  obtain ⟨field, hfield, rfl⟩ := Option.map_eq_some_iff.1 h
  obtain ⟨hi, rfl⟩ := List.getElem?_eq_some_iff.1 hfield
  rw [fieldIndex?, List.findIdx?_eq_some_iff_getElem]
  refine ⟨hi, beq_self_eq_true _, fun j hj hname => ?_⟩
  have hj' : j < schema.fields.length := Nat.lt_trans hj hi
  -- Were the name found earlier, it would stand in the schema twice.
  have hnames : (schema.fields.map (·.name))[j]? = (schema.fields.map (·.name))[i]? := by
    rw [List.getElem?_map, List.getElem?_map, List.getElem?_eq_getElem hj',
      List.getElem?_eq_getElem hi]
    exact congrArg some (eq_of_beq hname)
  have hlength : j < (schema.fields.map (·.name)).length := by
    rw [List.length_map]
    exact hj'
  exact absurd ((List.getElem?_inj hlength hnodup).1 hnames) (Nat.ne_of_lt hj)

theorem fieldName?_isSome {schema : Schema} {i : Nat} (h : i < schema.fields.length) :
    ∃ name, schema.fieldName? i = some name := by
  rw [fieldName?, List.getElem?_eq_getElem h]
  exact ⟨_, rfl⟩

end Schema

namespace ChangeSet

/-- A row with one listed field overwritten by its new value. -/
def patchField (schema : Schema) (row : Row) (change : FieldChange) : Row :=
  match schema.fieldIndex? change.field with
  | some i => row.set i change.new
  | none => row

/-- A row with every listed field overwritten by its new value. -/
def patch (schema : Schema) (row : Row) (c : ChangeSet) : Row :=
  c.changes.foldl (patchField schema) row

@[simp] theorem length_patchField (schema : Schema) (row : Row) (change : FieldChange) :
    (patchField schema row change).length = row.length := by
  unfold patchField
  split
  · exact List.length_set
  · rfl

@[simp] theorem length_patch (schema : Schema) (row : Row) (c : ChangeSet) :
    (c.patch schema row).length = row.length := by
  unfold patch
  induction c.changes generalizing row with
  | nil => rfl
  | cons change rest ih => rw [List.foldl_cons, ih, length_patchField]

variable {E : EntityType}

/-- The change of one field. -/
def fieldChange (before : Option (Record E)) (after : Record E) (i : Nat) : Option FieldChange :=
  (E.schema.fieldName? i).map fun field =>
    { field, old := before.map (·.field i), new := after.field i }

theorem ofMask_changes (mask : FieldMask) (before : Option (Record E)) (after : Record E) :
    (ofMask mask before after).changes = mask.indices.filterMap (fieldChange before after) := rfl

theorem getD_foldl_patchField (hnodup : (E.schema.fields.map (·.name)).Nodup)
    (before : Option (Record E)) (after : Record E) (indices : List Nat) (row : Row)
    (hrow : row.length = E.fields.length) (h : ∀ i ∈ indices, i < E.fields.length) (i : Nat) :
    ((indices.filterMap (fieldChange before after)).foldl (patchField E.schema) row).getD i .null =
      if i ∈ indices then after.field i else row.getD i .null := by
  induction indices generalizing row with
  | nil => rfl
  | cons index rest ih =>
    have hindex : index < E.fields.length := h index List.mem_cons_self
    have hrest := fun row hrow => ih row hrow fun i hi => h i (List.mem_cons_of_mem _ hi)
    have hdeclared : index < E.schema.fields.length := by
      rw [← Schema.fieldCount, E.fieldCount_schema]
      exact hindex
    obtain ⟨name, hname⟩ := Schema.fieldName?_isSome hdeclared
    have hpatch : patchField E.schema row ⟨name, before.map (·.field index), after.field index⟩ =
        row.set index (after.field index) := by
      rw [patchField, Schema.fieldIndex?_of_fieldName? hnodup hname]
    rw [List.filterMap_cons, fieldChange, hname, Option.map_some, List.foldl_cons, hpatch,
      hrest _ (by rw [List.length_set, hrow])]
    by_cases hi : i = index
    · subst hi
      rw [if_pos List.mem_cons_self, List.getD_eq_getElem?_getD,
        List.getElem?_set_self (hrow.symm ▸ hindex), Option.getD_some, ite_self]
    · rw [List.getD_eq_getElem?_getD, List.getElem?_set_ne (Ne.symm hi),
        ← List.getD_eq_getElem?_getD]
      simp only [List.mem_cons, hi, false_or]

/-- A change set overwrites the positions of its mask. -/
theorem getD_patch_ofMask (hnodup : (E.schema.fields.map (·.name)).Nodup) {mask : FieldMask}
    (hmask : ∀ i, mask.contains i = true → i < E.fields.length) (before : Option (Record E))
    (after : Record E) {row : Row} (hrow : row.length = E.fields.length) (i : Nat) :
    ((ofMask mask before after).patch E.schema row).getD i .null =
      if mask.contains i = true then after.field i else row.getD i .null := by
  rw [patch, ofMask_changes, getD_foldl_patchField hnodup before after mask.indices row hrow
    fun i hi => hmask i (FieldMask.mem_indices.1 hi)]
  simp only [FieldMask.mem_indices]

/-- A listed change is one of a position of the mask. -/
theorem of_mem_ofMask (hnodup : (E.schema.fields.map (·.name)).Nodup) {mask : FieldMask}
    {before : Option (Record E)} {after : Record E} {change : FieldChange}
    (h : change ∈ (ofMask mask before after).changes) :
    ∃ i, E.schema.fieldIndex? change.field = some i ∧ mask.contains i = true ∧
      change.old = before.map (·.field i) ∧ change.new = after.field i := by
  rw [ofMask_changes] at h
  obtain ⟨i, hi, hchange⟩ := List.mem_filterMap.1 h
  obtain ⟨name, hname, rfl⟩ := Option.map_eq_some_iff.1 hchange
  exact ⟨i, Schema.fieldIndex?_of_fieldName? hnodup hname, FieldMask.mem_indices.1 hi, rfl, rfl⟩

/-- Where a row agrees with the record that a change set starts from, it has the old values. -/
theorem olds_agree (hnodup : (E.schema.fields.map (·.name)).Nodup) {mask : FieldMask}
    {before after : Record E} {row : Row}
    (hrow : ∀ i, (row.getD i .null).agrees (before.field i) = true) {change : FieldChange}
    (h : change ∈ (ofMask mask (some before) after).changes) :
    ∃ i old, E.schema.fieldIndex? change.field = some i ∧ change.old = some old ∧
      old.agrees (row.getD i .null) = true := by
  obtain ⟨i, hi, -, hold, -⟩ := of_mem_ofMask hnodup h
  refine ⟨i, before.field i, hi, hold, ?_⟩
  rw [Value.agrees_comm]
  exact hrow i

end ChangeSet

end RecordEngine
