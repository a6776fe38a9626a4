import RecordEngine.Proofs.Record.Membership
import RecordEngine.Proofs.Record.Patch
/-!
Differences between records, and the way from one to the other.

A difference is where two records do not agree, so its laws are those of agreement: it is symmetric
because agreement is, and from `a` to `c` no field differs that differs neither from `a` to `b` nor
from `b` to `c`. A change set adds the values to the names, and is thereby enough to go from either
record to the other: each of its values comes out of a record of the same type and so is one that
its field admits, and in a schema without repeated names a name leads back to the field it came from
(`setAll_named`). What is left alone are the fields on which the two records agree anyway.
-/

set_option autoImplicit false

namespace RecordEngine

variable {E : EntityType}

theorem Record.getElem_toRow (r : Record E) {i : Nat} (h : i < r.toRow.length) :
    r.toRow[i] = r.field i := by
  have hvalue := r.values_getElem? (r.length_toRow ▸ h)
  exact Option.some.inj ((List.getElem?_eq_getElem h).symm.trans hvalue)

namespace FieldMask

theorem diff_comm (a b : Record E) : diff a b = diff b a := by
  apply ext_contains
  · rw [len_diff, len_diff]
  · intro i
    rw [contains_diff, contains_diff, Value.agrees_comm]

/-- A field that differs in the end differs on one of the two ways there. -/
theorem contains_diff_trans {a b c : Record E} {i : Nat} (h : (diff a c).contains i = true) :
    (diff a b).contains i = true ∨ (diff b c).contains i = true := by
  by_contra hneither
  rw [not_or, Bool.not_eq_true, Bool.not_eq_true] at hneither
  have hab : (a.field i).agrees (b.field i) = true := agrees_of_not_contains_diff hneither.1
  have hbc : (b.field i).agrees (c.field i) = true := agrees_of_not_contains_diff hneither.2
  rw [contains_diff_iff, Value.agrees_trans hab hbc] at h
  cases h

/-- Records without a difference are those whose rows agree value by value. -/
theorem isEmpty_diff_iff_rows {a b : Record E} :
    (diff a b).isEmpty = true ↔
      List.Forall₂ (fun v w => Value.agrees v w = true) a.toRow b.toRow := by
  rw [isEmpty_diff, List.forall₂_iff_get]
  constructor
  · intro h
    refine ⟨a.length_toRow.trans b.length_toRow.symm, fun i hi hi' => ?_⟩
    rw [List.get_eq_getElem, List.get_eq_getElem, a.getElem_toRow, b.getElem_toRow]
    exact h i
  · rintro ⟨-, h⟩ i
    by_cases hi : i < E.fields.length
    · have hvalues := h i (a.length_toRow.symm ▸ hi) (b.length_toRow.symm ▸ hi)
      rwa [List.get_eq_getElem, List.get_eq_getElem, a.getElem_toRow, b.getElem_toRow] at hvalues
    · have hle := Nat.le_of_not_lt hi
      rw [a.field_of_length_le hle, b.field_of_length_le hle, Value.agrees_refl]

end FieldMask

namespace Record

/-- The record with the field of a name given a new value. A name that no field has stands for the
position past the last one. -/
def setNamed (r : Record E) (name : String) (value : Value) : Except Failure (Record E) :=
  r.setField ((E.schema.fieldIndex? name).getD E.fields.length) value

/-- The record with fields given new values, one after another. -/
def setAll (r : Record E) (values : List (String × Value)) : Except Failure (Record E) :=
  values.foldlM (fun r (name, value) => r.setNamed name value) r

/-- Fields set by their names to what they hold in another record. -/
theorem setAll_named (hnodup : (E.schema.fields.map (·.name)).Nodup) (s : Record E)
    (indices : List Nat) (h : ∀ i ∈ indices, i < E.fields.length) (r : Record E) :
    ∃ r', r.setAll (indices.filterMap fun i =>
        (E.schema.fieldName? i).map (·, s.field i)) = .ok r' ∧
      ∀ i, r'.field i = if i ∈ indices then s.field i else r.field i := by
  induction indices generalizing r with
  | nil => exact ⟨r, rfl, fun i => by simp⟩
  | cons index rest ih =>
    have hindex : index < E.fields.length := h index List.mem_cons_self
    have hdeclared : index < E.schema.fields.length := by
      rw [← Schema.fieldCount, E.fieldCount_schema]
      exact hindex
    obtain ⟨name, hname⟩ := Schema.fieldName?_isSome hdeclared
    have hf : E.fields[index]? = some E.fields[index] := List.getElem?_eq_getElem hindex
    -- The value is one that a record of the type holds there, so it is taken as it is.
    have hadmits := s.fits.admits hf (s.values_getElem? hindex)
    obtain ⟨r₁, hset, -⟩ := r.setField_of_admits hf hadmits
    obtain ⟨f, w, hf', hw, hfirst⟩ := field_of_setField hset
    obtain rfl : E.fields[index] = f := Option.some.inj (hf.symm.trans hf')
    obtain rfl : s.field index = w :=
      Except.ok.inj ((FieldType.convert_of_admits hadmits).symm.trans hw)
    obtain ⟨r', hrest, hfield⟩ := ih (fun i hi => h i (List.mem_cons_of_mem _ hi)) r₁
    refine ⟨r', ?_, fun i => ?_⟩
    · have hnamed : r.setNamed name (s.field index) = .ok r₁ := by
        rw [setNamed, Schema.fieldIndex?_of_fieldName? hnodup hname, Option.getD_some, hset]
      rw [List.filterMap_cons, hname, Option.map_some, setAll, List.foldlM_cons]
      show (r.setNamed name (s.field index)).bind _ = _
      rw [hnamed]
      exact hrest
    · rw [hfield, hfirst]
      by_cases hi : i = index
      · subst hi
        simp
      · simp [hi]

end Record

namespace ChangeSet

/-- The fields listed, with their new values. -/
def news (c : ChangeSet) : List (String × Value) :=
  c.changes.map fun change => (change.field, change.new)

/-- The fields listed that have an old value, with it. -/
def olds (c : ChangeSet) : List (String × Value) :=
  c.changes.filterMap fun change => change.old.map (change.field, ·)

/-- The change set with old and new exchanged; what had no old value has no new one now. -/
def swapped (c : ChangeSet) : ChangeSet where
  changes := c.changes.filterMap fun change =>
    change.old.map fun old => { field := change.field, old := some change.new, new := old }

/-- The names and values of the fields in which two records differ. -/
theorem news_between (a b : Record E) :
    (between a b).news = (FieldMask.diff a b).indices.filterMap fun i =>
      (E.schema.fieldName? i).map (·, b.field i) := by
  rw [news, between, ofMask_changes, List.map_filterMap]
  refine List.filterMap_congr fun i _ => ?_
  rw [fieldChange, Option.map_map]
  rfl

theorem olds_between (a b : Record E) :
    (between a b).olds = (FieldMask.diff a b).indices.filterMap fun i =>
      (E.schema.fieldName? i).map (·, a.field i) := by
  rw [olds, between, ofMask_changes, List.filterMap_filterMap]
  refine List.filterMap_congr fun i _ => ?_
  rw [fieldChange, Option.bind_map]
  exact (Option.map_eq_bind ..).symm

theorem swapped_between (a b : Record E) : (between a b).swapped = between b a := by
  rw [swapped, between, between, FieldMask.diff_comm b a, ofMask_changes, List.filterMap_filterMap]
  refine congrArg mk (List.filterMap_congr fun i _ => ?_)
  rw [fieldChange, Option.bind_map]
  exact (Option.map_eq_bind ..).symm

/-- The changes go through the fields as they are declared and list those that differ. -/
theorem changes_between (a b : Record E) :
    (between a b).changes =
      (E.fields.zipIdx.filter fun (_, i) => (FieldMask.diff a b).contains i).map fun (f, i) =>
        { field := f.name, old := some (a.field i), new := b.field i } := by
  have hrange : List.range E.fields.length = E.fields.zipIdx.map Prod.snd := by
    rw [List.zipIdx_map_snd, List.range_eq_range']
  rw [between, ofMask_changes, FieldMask.indices, FieldMask.len_diff, hrange, List.filter_map,
    List.filterMap_map, ← List.filterMap_eq_map]
  refine List.filterMap_congr fun p hp => ?_
  have hdeclared : E.fields[p.2]? = some p.1 :=
    List.mem_zipIdx_iff_getElem?.1 (List.mem_filter.1 hp).1
  simp [fieldChange, Schema.fieldName?, EntityType.schema, hdeclared]

/-- No name is listed twice. -/
theorem nodup_fields_between (hnodup : (E.schema.fields.map (·.name)).Nodup) (a b : Record E) :
    (between a b).fields.Nodup := by
  rw [fields, changes_between, List.map_map]
  have hsublist : ((E.fields.zipIdx.filter fun (_, i) => (FieldMask.diff a b).contains i).map
      fun p => p.1.name).Sublist (E.fields.zipIdx.map fun p => p.1.name) :=
    List.filter_sublist.map _
  refine hsublist.nodup ?_
  have hnames : (E.fields.zipIdx.map fun p => p.1.name) = E.schema.fields.map (·.name) := by
    rw [EntityType.schema, List.map_map, ← List.zipIdx_map_fst 0 E.fields, List.map_map,
      List.zipIdx_map_fst]
    rfl
  rw [hnames]
  exact hnodup

/-- Setting the fields in which two records differ to what one of them holds gives that one. -/
theorem setAll_diff (hnodup : (E.schema.fields.map (·.name)).Nodup) (r s : Record E) :
    ∃ r', r.setAll ((FieldMask.diff r s).indices.filterMap fun i =>
        (E.schema.fieldName? i).map (·, s.field i)) = .ok r' ∧
      ∀ i, (r'.field i).agrees (s.field i) = true := by
  have hinside : ∀ i ∈ (FieldMask.diff r s).indices, i < E.fields.length := by
    intro i hi
    exact FieldMask.lt_of_contains_diff (FieldMask.mem_indices.1 hi)
  obtain ⟨r', hset, hfield⟩ := Record.setAll_named hnodup s _ hinside r
  refine ⟨r', hset, fun i => ?_⟩
  rw [hfield]
  by_cases hi : i ∈ (FieldMask.diff r s).indices
  · rw [if_pos hi, Value.agrees_refl]
  · rw [if_neg hi]
    rw [FieldMask.mem_indices, Bool.not_eq_true] at hi
    exact FieldMask.agrees_of_not_contains_diff hi

/-- **Differences and change sets are patches.** Whether fields differ is symmetric and goes through
any third record, and none does just if the rows agree value by value. What changed between two
records lists the fields that differ, each once and in the order in which they are declared, with
the values of the first record as the old ones and those of the second as the new ones; setting the
new values makes the first record agree with the second on every field, setting the old ones makes
the second agree with the first, and with old and new exchanged it is what changed the other way. -/
theorem differences_are_patches (hvalid : E.schema.validate = .ok ()) (a b c : Record E) :
    FieldMask.diff a b = FieldMask.diff b a ∧
    ((FieldMask.diff a b).isEmpty = true ↔
      List.Forall₂ (fun v w => Value.agrees v w = true) a.toRow b.toRow) ∧
    (∀ i, (FieldMask.diff a c).contains i = true →
      (FieldMask.diff a b).contains i = true ∨ (FieldMask.diff b c).contains i = true) ∧
    (between a b).changes =
      (E.fields.zipIdx.filter fun (_, i) => (FieldMask.diff a b).contains i).map (fun (f, i) =>
        { field := f.name, old := some (a.field i), new := b.field i }) ∧
    (between a b).fields.Nodup ∧
    (∃ r, a.setAll (between a b).news = .ok r ∧ ∀ i, (r.field i).agrees (b.field i) = true) ∧
    (∃ r, b.setAll (between a b).olds = .ok r ∧ ∀ i, (r.field i).agrees (a.field i) = true) ∧
    (between a b).swapped = between b a := by
  have hnodup := Schema.nodup_of_validate hvalid
  refine ⟨FieldMask.diff_comm a b, FieldMask.isEmpty_diff_iff_rows,
    fun i => FieldMask.contains_diff_trans, changes_between a b, nodup_fields_between hnodup a b,
    ?_, ?_, swapped_between a b⟩
  · rw [news_between]
    exact setAll_diff hnodup a b
  · rw [olds_between, FieldMask.diff_comm]
    exact setAll_diff hnodup b a

end ChangeSet

/-! ## A meter and its readings -/

def meterType : EntityType where
  name := "meter"
  fields := [{ name := "id", role := some .identifier, type := .text },
    { name := "level", type := .option .float64 },
    { name := "read", type := .option (.option .instant) }, { name := "note", type := .text }]

/-- A reading with this level; a leap second if it has been read. -/
def meter (level : UInt64) (isRead : Bool) (note : String) : Record meterType :=
  ⟨[.text "m", .float ⟨level⟩, if isRead then .timestamp ⟨1483228799, 1000000000⟩ else .null,
    .text note], by cases isRead <;> exact ⟨rfl, rfl, rfl, rfl, trivial⟩⟩

/-- Between two readings whose levels are NaNs of different payloads, only the rest has changed. -/
theorem patches_of_meter :
    (ChangeSet.between (meter 0x7ff8000000000000 false "dry")
        (meter 0xfff8000000000001 true "wet")).changes =
      [⟨"read", some .null, .timestamp ⟨1483228799, 1000000000⟩⟩,
        ⟨"note", some (.text "dry"), .text "wet"⟩] ∧
    ∃ r, (meter 0x7ff8000000000000 false "dry").setAll
        [("read", .timestamp ⟨1483228799, 1000000000⟩), ("note", .text "wet")] = .ok r ∧
      ∀ i, (r.field i).agrees ((meter 0xfff8000000000001 true "wet").field i) = true := by
  obtain ⟨-, -, -, hchanges, -, hpatch, -, -⟩ :=
    ChangeSet.differences_are_patches (E := meterType) rfl (meter 0x7ff8000000000000 false "dry")
      (meter 0xfff8000000000001 true "wet") (meter 0 false "dry")
  have hlisted := hchanges.trans (by decide +kernel :
    _ = [⟨"read", some .null, .timestamp ⟨1483228799, 1000000000⟩⟩,
      ⟨"note", some (.text "dry"), .text "wet"⟩])
  refine ⟨hlisted, ?_⟩
  rw [ChangeSet.news, hlisted] at hpatch
  exact hpatch

end RecordEngine
