import Mathlib.Data.List.Nodup
import Mathlib.Tactic.Common
import RecordEngine.ChangeSet
import RecordEngine.Store
/-!
Records field by field.

A record and the row it is stored as hold the same values, a difference of two records is a set of
positions, and a change set names fields. This module relates the three: rows of records read back
as the records, the store overwrites fields of a row as one would those of a record, and a change
set patches a row at just the positions of the mask it was made from.
-/

set_option autoImplicit false

namespace RecordEngine

/-! ## Agreement of values -/

namespace Binary64

theorem numericEq_comm (x y : Binary64) : x.numericEq y = y.numericEq x := by
  unfold numericEq
  grind

theorem agrees_refl (x : Binary64) : x.agrees x = true := by
  unfold agrees numericEq
  grind

theorem agrees_comm (x y : Binary64) : x.agrees y = y.agrees x := by
  rw [agrees, agrees, numericEq_comm, Bool.and_comm]

/-- The zeros agree among themselves and the NaNs do, and no number is both. -/
theorem agrees_trans {x y z : Binary64} (hxy : x.agrees y = true) (hyz : y.agrees z = true) :
    x.agrees z = true := by
  obtain ⟨x⟩ := x
  obtain ⟨y⟩ := y
  obtain ⟨z⟩ := z
  unfold agrees numericEq at *
  grind

end Binary64

namespace Value

@[simp] theorem agrees_refl (v : Value) : v.agrees v = true := by
  cases v with
  | float x => exact x.agrees_refl
  | null => rfl
  | _ => exact beq_self_eq_true _

theorem agrees_comm (v w : Value) : v.agrees w = w.agrees v := by
  cases v <;> cases w <;> first | rfl | exact Binary64.agrees_comm _ _ | exact Bool.beq_comm

theorem agrees_trans {u v w : Value} (huv : u.agrees v = true) (hvw : v.agrees w = true) :
    u.agrees w = true := by
  cases u with
  | float x =>
    cases v with
    | float y =>
      cases w with
      | float z => exact Binary64.agrees_trans huv hvw
      | _ => cases hvw
    | _ => cases huv
  | null =>
    cases v with
    | null => exact hvw
    | _ => cases huv
  | _ =>
    -- Apart from numbers in floating point, values that agree are the same.
    cases v <;> first
      | exact eq_of_beq huv ▸ hvw
      | cases huv

/-- Apart from numbers in floating point, values that agree are the same. -/
theorem eq_of_agrees {v w : Value} (h : v.agrees w = true) (hw : ∀ x, w ≠ .float x) :
    v = w := by
  cases w with
  | float x => exact absurd rfl (hw x)
  | null =>
    cases v with
    | null => rfl
    | _ => cases h
  | _ =>
    cases v <;> first
      | rw [eq_of_beq h]
      | cases h

/-- Apart from numbers in floating point, values that differ are told apart. -/
theorem agrees_of_ne {v w : Value} (h : v ≠ w) (hw : ∀ x, w ≠ .float x) : v.agrees w = false :=
  Bool.eq_false_iff.2 fun hagrees => h (eq_of_agrees hagrees hw)

end Value

/-! ## Rows of records -/

theorem Fits.length_eq {fs : List Field} {vs : List Value} (h : Fits fs vs) :
    vs.length = fs.length := by
  induction fs generalizing vs with
  | nil =>
    cases vs with
    | nil => rfl
    | cons v vs => exact h.elim
  | cons f fs ih =>
    cases vs with
    | nil => exact h.elim
    | cons v vs => rw [List.length_cons, List.length_cons, ih h.2]

theorem Fits.admits {fs : List Field} {vs : List Value} (h : Fits fs vs) {i : Nat} {f : Field}
    {v : Value} (hf : fs[i]? = some f) (hv : vs[i]? = some v) : f.type.admits v = true := by
  induction fs generalizing vs i with
  | nil => cases hf
  | cons g gs ih =>
    cases vs with
    | nil => exact h.elim
    | cons w ws =>
      cases i with
      | zero =>
        obtain rfl := Option.some.inj hf
        obtain rfl := Option.some.inj hv
        exact h.1
      | succ i => exact ih h.2 hf hv

namespace Record

variable {E : EntityType}

theorem ext_values {r r' : Record E} (h : r.values = r'.values) : r = r' := by
  obtain ⟨values, fits⟩ := r
  obtain ⟨values', fits'⟩ := r'
  obtain rfl : values = values' := h
  rfl

@[simp] theorem length_values (r : Record E) : r.values.length = E.fields.length :=
  r.fits.length_eq

@[simp] theorem length_toRow (r : Record E) : r.toRow.length = E.fields.length :=
  r.length_values

theorem values_getElem? (r : Record E) {i : Nat} (h : i < E.fields.length) :
    r.values[i]? = some (r.field i) := by
  rw [field, List.getD_eq_getElem?_getD, List.getElem?_eq_getElem (r.length_values.symm ▸ h),
    Option.getD_some]

theorem field_of_length_le (r : Record E) {i : Nat} (h : E.fields.length ≤ i) :
    r.field i = .null := by
  rw [field, List.getD_eq_getElem?_getD, List.getElem?_eq_none (r.length_values.symm ▸ h),
    Option.getD_none]

/-- Giving a field a value that its type can hold. -/
theorem setField_of_admits (r : Record E) {i : Nat} {f : Field} (hf : E.fields[i]? = some f)
    {v : Value} (hv : f.type.admits v = true) :
    ∃ r', r.setField i v = .ok r' ∧ r'.values = r.values.set i v := by
  have hconvert := FieldType.convert_of_admits hv
  unfold setField
  split
  · next hnone =>
    rw [hf] at hnone
    cases hnone
  · next g hg =>
    obtain rfl := Option.some.inj (hf.symm.trans hg)
    split
    · next failure herror =>
      rw [hconvert] at herror
      cases herror
    · next w hw =>
      obtain rfl := Except.ok.inj (hconvert.symm.trans hw)
      exact ⟨_, rfl, rfl⟩

/-- Setting a field sets that field, to what its type makes of the value, and no other. -/
theorem field_of_setField {r r' : Record E} {i : Nat} {v : Value} (h : r.setField i v = .ok r') :
    ∃ f w, E.fields[i]? = some f ∧ f.type.convert v = .ok w ∧
      ∀ j, r'.field j = if j = i then w else r.field j := by
  unfold setField at h
  split at h
  · cases h
  · next f hf =>
    split at h
    · cases h
    · next w hw =>
      have hi : i < r.values.length := by
        rw [r.length_values]
        exact (List.getElem?_eq_some_iff.1 hf).1
      refine ⟨f, w, hf, hw, fun j => ?_⟩
      obtain rfl := Except.ok.inj h
      rw [field, field, List.getD_eq_getElem?_getD, List.getD_eq_getElem?_getD]
      by_cases hj : j = i
      · subst hj
        rw [if_pos rfl, List.getElem?_set_self hi, Option.getD_some]
      · rw [if_neg hj, List.getElem?_set_ne (Ne.symm hj)]

/-- A record given, from a position on, the values another one has there. -/
theorem setFrom_drop (r : Record E) {rest : Row} {index : Nat} (r₀ : Record E)
    (h : r₀.values.take index ++ rest = r.values) : r₀.setFrom index rest = .ok r := by
  induction rest generalizing index r₀ with
  | nil =>
    rw [List.append_nil] at h
    have hlength : r₀.values.length ≤ index := by
      have := congrArg List.length h
      rw [List.length_take, r₀.length_values, r.length_values] at this
      rw [r₀.length_values]
      omega
    rw [List.take_of_length_le hlength] at h
    rw [setFrom, ext_values h]
  | cons value rest ih =>
    have hindex : index < E.fields.length := by
      have hlength := congrArg List.length h
      rw [List.length_append, List.length_take, List.length_cons, r₀.length_values,
        r.length_values] at hlength
      omega
    have htake : (r₀.values.take index).length = index := by
      rw [List.length_take, r₀.length_values, Nat.min_eq_left (Nat.le_of_lt hindex)]
    have hf : E.fields[index]? = some E.fields[index] := List.getElem?_eq_getElem hindex
    have hvalue : r.values[index]? = some value := by
      rw [← h, List.getElem?_append_right (Nat.le_of_eq htake), htake, Nat.sub_self]
      rfl
    -- The value comes from a record of the same type, so its field admits it as it is.
    obtain ⟨r₁, hset, hvalues⟩ := r₀.setField_of_admits hf (r.fits.admits hf hvalue)
    rw [setFrom, hset]
    refine ih r₁ ?_
    rw [hvalues, List.take_set, List.take_add_one, r₀.values_getElem? hindex, Option.toList_some,
      List.set_append_right _ _ (Nat.le_of_eq htake), htake, Nat.sub_self, ← h, List.append_assoc]
    rfl

/-- A row that a record was stored as reads back as that record. -/
theorem ofRow_toRow (r : Record E) : ofRow E r.toRow = .ok r := setFrom_drop r _ rfl

/-- The store overwrites fields of a stored record with those of another record. -/
theorem overwrite_toRow (key : RowKey) (proposed : Record E) (indices : List Nat)
    (stored : Record E) (h : ∀ i ∈ indices, i < E.fields.length) :
    ∃ next : Record E,
      Store.overwrite key stored.toRow (indices.map fun i => (i, proposed.field i)) =
          .ok next.toRow ∧
        ∀ i, next.field i = if i ∈ indices then proposed.field i else stored.field i := by
  induction indices generalizing stored with
  | nil => exact ⟨stored, rfl, fun _ => rfl⟩
  | cons index rest ih =>
    have hindex : index < E.fields.length := h index List.mem_cons_self
    have hf : E.fields[index]? = some E.fields[index] := List.getElem?_eq_getElem hindex
    have hadmits := proposed.fits.admits hf (proposed.values_getElem? hindex)
    have hfits : Fits E.fields (stored.values.set index (proposed.field index)) :=
      stored.fits.set hf hadmits
    obtain ⟨next, hnext, hfield⟩ := ih ⟨_, hfits⟩ fun i hi => h i (List.mem_cons_of_mem _ hi)
    refine ⟨next, ?_, fun i => ?_⟩
    · rw [List.map_cons, Store.overwrite, if_pos (by rw [length_toRow]; exact hindex)]
      exact hnext
    · rw [hfield]
      by_cases hi : i = index
      · subst hi
        -- A position may be listed twice; the value is the same each time.
        have hset : (⟨_, hfits⟩ : Record E).field i = proposed.field i := by
          rw [field, List.getD_eq_getElem?_getD,
            List.getElem?_set_self (by rw [stored.length_values]; exact hindex), Option.getD_some]
        rw [hset, ite_self, if_pos List.mem_cons_self]
      · have hset : (⟨_, hfits⟩ : Record E).field i = stored.field i := by
          rw [field, List.getD_eq_getElem?_getD, List.getElem?_set_ne (Ne.symm hi),
            ← List.getD_eq_getElem?_getD]
          rfl
        rw [hset]
        simp only [List.mem_cons, hi, false_or]

/-! ### Rows that can be read

A row need not be the image of a record to be read as one. -/

/-- Every value of a row converts to the type of its field. -/
def Readable (E : EntityType) (index : Nat) (row : Row) : Prop :=
  ∀ i v, row[i]? = some v →
    ∃ f w, E.fields[index + i]? = some f ∧ f.type.convert v = .ok w

theorem setField_isOk (r : Record E) (i : Nat) (v : Value) :
    (∃ r', r.setField i v = .ok r') ↔
      ∃ f w, E.fields[i]? = some f ∧ f.type.convert v = .ok w := by
  unfold setField
  split
  · next hnone => simp [hnone]
  · next f hf =>
    split
    · next failure herror => simp [hf, herror]
    · next w hw => simp [hf, hw]

theorem readable_cons {index : Nat} {value : Value} {rest : Row} :
    Readable E index (value :: rest) ↔
      (∃ f w, E.fields[index]? = some f ∧ f.type.convert value = .ok w) ∧
        Readable E (index + 1) rest := by
  constructor
  · intro h
    refine ⟨h 0 value rfl, fun i v hv => ?_⟩
    rw [Nat.add_assoc, Nat.add_comm 1 i]
    exact h (i + 1) v hv
  · rintro ⟨hvalue, hrest⟩ i v hv
    cases i with
    | zero =>
      obtain rfl : value = v := by simpa using hv
      exact hvalue
    | succ i =>
      rw [Nat.add_comm i 1, ← Nat.add_assoc]
      exact hrest i v (by simpa using hv)

theorem setFrom_isOk (r : Record E) (index : Nat) (row : Row) :
    (∃ r', r.setFrom index row = .ok r') ↔ Readable E index row := by
  induction row generalizing r index with
  | nil => exact ⟨fun _ i v hv => by simp at hv, fun _ => ⟨r, rfl⟩⟩
  | cons value rest ih =>
    rw [readable_cons, ← setField_isOk r, setFrom]
    cases hset : r.setField index value with
    | error failure => simp
    | ok r' => simp [ih r' (index + 1)]

/-- Overwriting fields of a row that can be read with those of a record leaves one that can. -/
theorem ofRow_overwrite {key : RowKey} {proposed : Record E} {indices : List Nat} {row row' : Row}
    (hrow : ∃ r, ofRow E row = .ok r)
    (h : Store.overwrite key row (indices.map fun i => (i, proposed.field i)) = .ok row') :
    ∃ r, ofRow E row' = .ok r := by
  induction indices generalizing row with
  | nil => exact Except.ok.inj h ▸ hrow
  | cons index rest ih =>
    rw [List.map_cons, Store.overwrite] at h
    split at h
    · next hindex =>
      refine ih ((setFrom_isOk _ 0 _).2 fun i v hv => ?_) h
      have hreadable := (setFrom_isOk _ 0 row).1 hrow
      by_cases hi : index = i
      · subst hi
        -- The position overwritten is one of the type, because the row had a readable value there.
        obtain ⟨f, w, hf, -⟩ := hreadable index row[index] (List.getElem?_eq_getElem hindex)
        have hlt : 0 + index < E.fields.length := (List.getElem?_eq_some_iff.1 hf).1
        rw [Nat.zero_add] at hf hlt
        rw [List.getElem?_set_self hindex] at hv
        obtain rfl := Option.some.inj hv
        have hadmits := proposed.fits.admits hf (proposed.values_getElem? hlt)
        exact ⟨f, _, by rw [Nat.zero_add]; exact hf, FieldType.convert_of_admits hadmits⟩
      · rw [List.getElem?_set_ne hi] at hv
        exact hreadable i v hv
    · cases h

/-! ### What a record reads of a row -/

/-- What a field holds that was given a value; null past the last one. -/
def holds (E : EntityType) (i : Nat) (v : Value) : Value :=
  match E.fields[i]? with
  | some f => (f.type.convert v).toOption.getD .null
  | none => .null

theorem field_of_setFrom {r r' : Record E} {index : Nat} {row : Row}
    (h : r.setFrom index row = .ok r') (j : Nat) :
    r'.field j =
      if index ≤ j then (row[j - index]?).elim (r.field j) (holds E j) else r.field j := by
  induction row generalizing r index with
  | nil =>
    obtain rfl := Except.ok.inj h
    simp
  | cons value rest ih =>
    rw [setFrom] at h
    split at h
    · cases h
    next r₁ hset =>
    obtain ⟨f, w, hf, hw, hfield⟩ := field_of_setField hset
    rw [ih h, hfield]
    -- The position is behind the first value, at it, or among the rest.
    rcases Nat.lt_trichotomy j index with hj | rfl | hj
    · rw [if_neg (by omega), if_neg (by omega), if_neg (by omega)]
    · rw [if_neg (by omega), if_pos rfl, if_pos (Nat.le_refl j), Nat.sub_self]
      simp [holds, hf, hw, Except.toOption]
    · rw [if_pos (by omega), if_neg (by omega), if_pos (by omega),
        show j - index = (j - (index + 1)) + 1 by omega, List.getElem?_cons_succ]

/-- Two rows that hold the same at a position are read the same there. -/
theorem field_eq_of_ofRow {r r' : Record E} {row row' : Row} (h : ofRow E row = .ok r)
    (h' : ofRow E row' = .ok r') {j : Nat} (hj : row[j]? = row'[j]?) : r.field j = r'.field j := by
  rw [field_of_setFrom h j, field_of_setFrom h' j, Nat.sub_zero, hj]

end Record

/-- A field that is not overwritten is as it was. -/
theorem Store.getElem?_overwrite {key : RowKey} {fields : List (Nat × Value)} {row row' : Row}
    (h : Store.overwrite key row fields = .ok row') {j : Nat} (hj : ∀ v, (j, v) ∉ fields) :
    row'[j]? = row[j]? := by
  induction fields generalizing row with
  | nil => rw [Except.ok.inj h]
  | cons change rest ih =>
    obtain ⟨i, v⟩ := change
    rw [Store.overwrite] at h
    split at h
    · have hne : i ≠ j := fun hi => hj v (hi ▸ List.mem_cons_self)
      rw [ih h fun w hw => hj w (List.mem_cons_of_mem _ hw), List.getElem?_set_ne hne]
    · cases h

/-- A field that is overwritten holds the new value. -/
theorem Store.getElem?_overwrite_of_mem {key : RowKey} {f : Nat → Value} {indices : List Nat}
    {row row' : Row} (h : overwrite key row (indices.map fun i => (i, f i)) = .ok row') {i : Nat}
    (hi : i ∈ indices) : row'[i]? = some (f i) := by
  induction indices generalizing row with
  | nil => cases hi
  | cons index rest ih =>
    rw [List.map_cons, overwrite] at h
    split at h
    · next hindex =>
      by_cases hrest : i ∈ rest
      · exact ih h hrest
      · obtain rfl : i = index := (List.mem_cons.1 hi).resolve_right hrest
        rw [getElem?_overwrite h, List.getElem?_set_self hindex]
        intro v hv
        obtain ⟨j, hj, hjv⟩ := List.mem_map.1 hv
        obtain rfl : j = i := congrArg Prod.fst hjv
        exact hrest hj
    · cases h

/-! ## Differences -/

theorem EntityType.fieldCount_schema (E : EntityType) :
    E.schema.fieldCount = E.fields.length := by
  rw [Schema.fieldCount, EntityType.schema, List.length_map]

namespace FieldMask

variable {E : EntityType}

theorem contains_diff (a b : Record E) (i : Nat) :
    (diff a b).contains i =
      (decide (i < E.fields.length) && !(a.field i).agrees (b.field i)) := by
  rw [diff, contains_ofIndices, E.fieldCount_schema, Bool.eq_iff_iff]
  simp only [Bool.and_eq_true, decide_eq_true_eq, List.mem_filter, List.mem_range]
  grind

@[simp] theorem len_diff (a b : Record E) : (diff a b).len = E.fields.length := by
  rw [diff, len_ofIndices, E.fieldCount_schema]

/-- Two records agree wherever they do not differ, past the last field too. -/
theorem agrees_of_not_contains_diff {a b : Record E} {i : Nat}
    (h : (diff a b).contains i = false) : (a.field i).agrees (b.field i) = true := by
  rw [contains_diff] at h
  by_cases hi : i < E.fields.length
  · simpa [hi] using h
  · have hle := Nat.le_of_not_lt hi
    rw [a.field_of_length_le hle, b.field_of_length_le hle, Value.agrees_refl]

theorem lt_of_contains {m : FieldMask} {i : Nat} (h : m.contains i = true) : i < m.len := by
  simp only [contains, Bool.and_eq_true, decide_eq_true_eq] at h
  exact h.1

/-- Records differ only in fields there are. -/
theorem lt_of_contains_diff {a b : Record E} {i : Nat} (h : (diff a b).contains i = true) :
    i < E.fields.length :=
  len_diff a b ▸ lt_of_contains h

/-! ## Masks without a member -/

/-- Every bit of a word has its position. -/
theorem bitAt_slot (words : List (BitVec 64)) (slot : Nat) {k : Nat} (hk : k < 64) :
    bitAt words (64 * slot + k) = (words.getD slot 0).getLsbD k := by
  rw [bitAt, show (64 * slot + k) / 64 = slot by omega, show (64 * slot + k) % 64 = k by omega]

theorem isEmpty_iff {m : FieldMask} : m.isEmpty = true ↔ ∀ i, m.contains i = false := by
  rw [isEmpty, List.all_eq_true]
  constructor
  · intro h i
    rw [contains_eq_bitAt, bitAt, List.getD_eq_getElem?_getD]
    cases hw : m.words[i / 64]? with
    | none => simp
    | some w =>
      have hzero : w = 0 := by simpa using h w (List.mem_of_getElem? hw)
      simp [hzero]
  · intro h w hw
    obtain ⟨slot, hslot⟩ := List.getElem?_of_mem hw
    have hzero : w = 0 := by
      apply BitVec.eq_of_getLsbD_eq
      intro k hk
      have hbit := h (64 * slot + k)
      rw [contains_eq_bitAt, bitAt_slot _ _ hk, List.getD_eq_getElem?_getD, hslot] at hbit
      simpa using hbit
    simp [hzero]

theorem isEmpty_eq_false_iff {m : FieldMask} :
    m.isEmpty = false ↔ ∃ i, m.contains i = true := by
  rw [← Bool.not_eq_true, isEmpty_iff]
  simp

theorem isEmpty_diff {a b : Record E} :
    (diff a b).isEmpty = true ↔ ∀ i, (a.field i).agrees (b.field i) = true := by
  rw [isEmpty_iff]
  constructor
  · intro h i
    exact agrees_of_not_contains_diff (h i)
  · intro h i
    rw [contains_diff, h i, Bool.not_true, Bool.and_false]

/-- A field on which two records disagree is one of the type. -/
theorem contains_diff_iff {a b : Record E} {i : Nat} :
    (diff a b).contains i = true ↔ (a.field i).agrees (b.field i) = false := by
  constructor
  · intro h
    rw [contains_diff] at h
    simp only [Bool.and_eq_true, Bool.not_eq_true'] at h
    exact h.2
  · intro h
    by_contra hi
    rw [Bool.not_eq_true] at hi
    rw [agrees_of_not_contains_diff hi] at h
    cases h

end FieldMask

end RecordEngine
