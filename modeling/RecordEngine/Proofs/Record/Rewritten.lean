import RecordEngine.Proofs.Audit.Version
import RecordEngine.Proofs.Record.Untimed
/-!
What a write leaves in a record.

A create and a save put down their stamps one after another, so both are a list of roles and values:
`Record.stampAll`. Read back, a field of a role in the list holds what its type makes of the value,
and every other field holds what it held. That the stamps go in at all is a question of the types of
these fields, which is what `EntityType.Accepts` asks.

A save then overwrites in the stored row the writable fields that changed. The row need not be the
image of a record, it only has to read as one; what is read of it afterwards is said field by field.
-/

set_option autoImplicit false

namespace RecordEngine

/-! ## What a save may write -/

namespace Schema

/-- A settable field plays no role. -/
theorem roleIndex?_ne_of_isSettable {schema : Schema} {i : Nat} (h : schema.isSettable i = true)
    (role : Role) : schema.roleIndex? role ≠ some i := by
  intro hi
  obtain ⟨f, hf, hrole⟩ := Option.bind_eq_some_iff.1 (roleAt?_of_roleIndex? hi)
  rw [isSettable, hf] at h
  simp [hrole] at h

theorem isWritable_of_isSettable {schema : Schema} {i : Nat} (h : schema.isSettable i = true) :
    schema.isWritable i = true := by
  unfold isSettable at h
  unfold isWritable
  split at h
  · next f hf =>
    rw [Bool.and_eq_true, Option.isNone_iff_eq_none] at h
    rw [h.2]
    exact h.1
  · cases h

/-- What a save may write is settable or of a role that it stamps. -/
theorem isSettable_or_stamped {schema : Schema} {i : Nat} (h : schema.isWritable i = true) :
    schema.isSettable i = true ∨
      ∃ role, schema.roleAt? i = some role ∧ role.isStampedOnSave = true := by
  unfold isWritable at h
  split at h
  · next f hf =>
    split at h
    · next role hrole =>
      exact .inr ⟨role, by rw [roleAt?, hf, Option.bind_some, hrole], h⟩
    · next hrole =>
      left
      rw [isSettable, hf]
      simp [h, hrole]
  · cases h

end Schema

/-! ## Stamps that a type takes -/

namespace FieldType

/-- Nothing but a whole number is changed by the type that takes it. -/
theorem eq_of_convert {t : FieldType} {v w : Value} (h : t.convert v = .ok w)
    (hv : ∀ n, v ≠ .integer n) : w = v := by
  induction t generalizing w with
  | option inner ih =>
    cases v with
    | null => exact (Except.ok.inj h).symm
    | _ => exact ih h
  | _ =>
    cases v with
    | integer n => exact absurd rfl (hv n)
    | _ => first
      | exact (Except.ok.inj h).symm
      | cases h

end FieldType

/-- The field of a role, if there is one, is of a type that takes the value. -/
def EntityType.Accepts (E : EntityType) (role : Role) (v : Value) : Prop :=
  ∀ i f, E.schema.roleIndex? role = some i → E.fields[i]? = some f →
    ∃ w, f.type.convert v = .ok w

theorem EntityType.accepts_of_roleIndex? {E : EntityType} {role : Role} {v w : Value} {i : Nat}
    {f : Field} (hi : E.schema.roleIndex? role = some i) (hf : E.fields[i]? = some f)
    (hw : f.type.convert v = .ok w) : E.Accepts role v := by
  intro j g hj hg
  obtain rfl := Option.some.inj (hi.symm.trans hj)
  obtain rfl := Option.some.inj (hf.symm.trans hg)
  exact ⟨w, hw⟩

namespace Record

variable {E : EntityType} {r r' : Record E} {role : Role} {v : Value} {i : Nat}

theorem stamp_of_accepts (h : E.Accepts role v) (r : Record E) : ∃ r', r.stamp role v = .ok r' := by
  unfold stamp
  split
  · next index hindex =>
    have hlt : index < E.fields.length := by
      obtain ⟨hlt, -⟩ := List.findIdx?_eq_some_iff_getElem.1 hindex
      rwa [← E.fieldCount_schema]
    have hf := List.getElem?_eq_getElem hlt
    obtain ⟨w, hw⟩ := h index _ hindex hf
    exact (r.setField_isOk index v).2 ⟨_, w, hf, hw⟩
  · exact ⟨r, rfl⟩

/-- The record with stamps put in, one after another. -/
def stampAll (r : Record E) : List (Role × Value) → Except Failure (Record E)
  | [] => .ok r
  | (role, v) :: rest => do
    let r ← r.stamp role v
    r.stampAll rest

theorem stampAll_of_accepts {stamps : List (Role × Value)}
    (h : ∀ p ∈ stamps, E.Accepts p.1 p.2) (r : Record E) : ∃ r', r.stampAll stamps = .ok r' := by
  induction stamps generalizing r with
  | nil => exact ⟨r, rfl⟩
  | cons p rest ih =>
    obtain ⟨hp, hrest⟩ := List.forall_mem_cons.1 h
    obtain ⟨r₁, h₁⟩ := stamp_of_accepts hp r
    obtain ⟨r', h'⟩ := ih hrest r₁
    exact ⟨r', bind_eq_ok.2 ⟨r₁, h₁, h'⟩⟩

/-- What none of the stamps is for stays as it was. -/
theorem field_of_stampAll_of_ne {stamps : List (Role × Value)} (h : r.stampAll stamps = .ok r')
    (hi : ∀ p ∈ stamps, E.schema.roleIndex? p.1 ≠ some i) : r'.field i = r.field i := by
  induction stamps generalizing r with
  | nil => rw [Except.ok.inj h]
  | cons p rest ih =>
    obtain ⟨hp, hrest⟩ := List.forall_mem_cons.1 hi
    obtain ⟨r₁, h₁, h₂⟩ := bind_eq_ok.1 h
    rw [ih h₂ hrest, field_of_stamp_of_ne h₁ hp]

/-- The field of a stamp holds what its type makes of the value. -/
theorem field_of_stampAll {stamps : List (Role × Value)} (h : r.stampAll stamps = .ok r')
    (hnodup : (stamps.map Prod.fst).Nodup) (hmem : (role, v) ∈ stamps)
    (hi : E.schema.roleIndex? role = some i) :
    ∃ f, E.fields[i]? = some f ∧ f.type.convert v = .ok (r'.field i) := by
  induction stamps generalizing r with
  | nil => cases hmem
  | cons p rest ih =>
    obtain ⟨hp, hrest⟩ := List.nodup_cons.1 hnodup
    obtain ⟨r₁, h₁, h₂⟩ := bind_eq_ok.1 h
    rcases List.mem_cons.1 hmem with rfl | hmem
    · obtain ⟨f, w, hf, hw, hfield⟩ := field_of_stamp h₁ hi
      refine ⟨f, hf, ?_⟩
      -- No later stamp goes to the same field, for it would be of the same role.
      rw [field_of_stampAll_of_ne h₂, hfield, hw]
      intro q hq
      refine Schema.roleIndex?_ne hi fun hrole => hp ?_
      exact List.mem_map.2 ⟨q, hq, hrole⟩
    · exact ih h₂ hrest hmem

end Record

namespace Session

variable {E : EntityType} {r r' stored proposed next : Record E} {now : Instant} {who : String}
  {version : Option Int} {i : Nat}

/-- The stamps of a create. -/
def newStamps (now : Instant) (who : String) : List (Role × Value) :=
  [(.version, .integer 1), (.createdAt, .timestamp now), (.updatedAt, .timestamp now),
    (.createdBy, .text who), (.updatedBy, .text who)]

/-- The stamps of a save. -/
def changeStamps (version : Option Int) (now : Instant) (who : String) : List (Role × Value) :=
  (version.map fun n => (Role.version, Value.integer n)).toList ++
    [(.updatedAt, .timestamp now), (.updatedBy, .text who)]

theorem bind_ok (result : Except Failure (Record E)) : (result >>= fun r => .ok r) = result := by
  cases result <;> rfl

theorem stampNew_eq (r : Record E) (now : Instant) (who : String) :
    stampNew r now who = r.stampAll (newStamps now who) := by
  simp only [stampNew, newStamps, Record.stampAll, bind_ok]

theorem stampChanged_eq (r : Record E) (version : Option Int) (now : Instant) (who : String) :
    stampChanged r version now who = r.stampAll (changeStamps version now who) := by
  cases version with
  | none =>
    simp only [stampChanged, changeStamps, Option.map_none, Option.toList_none, List.nil_append,
      Record.stampAll, bind_ok]
    rfl
  | some n =>
    simp only [stampChanged, changeStamps, Option.map_some, Option.toList_some,
      List.singleton_append, Record.stampAll, bind_ok]

theorem nodup_newStamps (now : Instant) (who : String) :
    ((newStamps now who).map Prod.fst).Nodup := by
  simp [newStamps]

theorem nodup_changeStamps (version : Option Int) (now : Instant) (who : String) :
    ((changeStamps version now who).map Prod.fst).Nodup := by
  cases version <;> simp [changeStamps]

/-- Time and author of a change are put in as they are. -/
theorem field_of_changeStamp (h : stampChanged r version now who = .ok r') {role : Role} {v : Value}
    (hmem : (role, v) ∈ changeStamps version now who) (hv : ∀ n, v ≠ .integer n)
    (hi : E.schema.roleIndex? role = some i) : r'.field i = v := by
  rw [stampChanged_eq] at h
  obtain ⟨f, -, hconvert⟩ := Record.field_of_stampAll h (nodup_changeStamps _ _ _) hmem hi
  exact FieldType.eq_of_convert hconvert hv

end Session

/-! ## Overwritten rows -/

namespace Store

variable {key : RowKey} {row row' : Row}

/-- Where all the fields are there, they can be overwritten. -/
theorem overwrite_of_lt {fields : List (Nat × Value)} (h : ∀ p ∈ fields, p.1 < row.length) :
    ∃ row', overwrite key row fields = .ok row' := by
  induction fields generalizing row with
  | nil => exact ⟨row, rfl⟩
  | cons p rest ih =>
    obtain ⟨hp, hrest⟩ := List.forall_mem_cons.1 h
    rw [overwrite, if_pos hp]
    exact ih fun q hq => by rw [List.length_set]; exact hrest q hq

end Store

namespace Record

variable {E : EntityType} {r r' : Record E} {row row' : Row}

/-- A value that a record holds is read as it is. -/
theorem holds_field (r : Record E) {i : Nat} (hi : i < E.fields.length) :
    holds E i (r.field i) = r.field i := by
  have hf := List.getElem?_eq_getElem hi
  have hadmits := r.fits.admits hf (r.values_getElem? hi)
  simp [holds, hf, FieldType.convert_of_admits hadmits, Except.toOption]

/-- A row in which fields are overwritten reads as the record it was, with these fields. -/
theorem field_of_overwrite {key : RowKey} {proposed : Record E} {indices : List Nat}
    (hrow : Store.overwrite key row (indices.map fun i => (i, proposed.field i)) = .ok row')
    (h : ofRow E row = .ok r) (h' : ofRow E row' = .ok r') (i : Nat) :
    r'.field i = if i ∈ indices then proposed.field i else r.field i := by
  split
  · next hi =>
    have hvalue := Store.getElem?_overwrite_of_mem hrow hi
    -- The row is read as a record, so it is no longer than its type.
    obtain ⟨f, w, hf, -⟩ := (setFrom_isOk _ 0 row').1 ⟨r', h'⟩ i _ hvalue
    rw [Nat.zero_add] at hf
    rw [field_of_setFrom h', if_pos (Nat.zero_le i), Nat.sub_zero, hvalue]
    exact proposed.holds_field (List.getElem?_eq_some_iff.1 hf).1
  · next hi =>
    refine field_eq_of_ofRow h' h (Store.getElem?_overwrite hrow fun v hv => ?_)
    obtain ⟨j, hj, hjv⟩ := List.mem_map.1 hv
    obtain rfl : j = i := congrArg Prod.fst hjv
    exact hi hj

end Record

/-! ## What is read after a write -/

namespace Session

variable {E : EntityType} {stored proposed next t : Record E} {row image : Row} {now : Instant}
  {who : String} {i : Nat}

/-- A record is what a save makes of the stored record and of what the handlers propose: the version
goes up by one, time and author are those of the save, the settable fields are the proposed ones, and
all others are as they were stored. -/
structure Supersedes (stored proposed : Record E) (now : Instant) (who : String) (t : Record E) :
    Prop where
  version : t.version? = stored.version?.map (· + 1)
  time : ∀ i, E.schema.roleIndex? .updatedAt = some i → t.field i = .timestamp now
  author : ∀ i, E.schema.roleIndex? .updatedBy = some i → t.field i = .text who
  settable : ∀ i, E.schema.isSettable i = true → (t.field i).agrees (proposed.field i) = true
  others : ∀ i, E.schema.isSettable i = false →
    (∀ role, E.schema.roleAt? i = some role → role.isStampedOnSave = false) →
    t.field i = stored.field i

section
variable {key : RowKey} (himage : Store.overwrite key row (overwrites stored next) = .ok image)
  (hstored : Record.ofRow E row = .ok stored) (ht : Record.ofRow E image = .ok t)
include himage hstored ht

/-- A field that a save may write holds what the save has for it, whether it had to be written or
not. -/
theorem agrees_of_isWritable (hi : E.schema.isWritable i = true) :
    (t.field i).agrees (next.field i) = true := by
  have hfield := Record.field_of_overwrite himage hstored ht i
  simp only [FieldMask.mem_indices] at hfield
  by_cases hwritten : (writtenFields stored next).contains i = true
  · rw [hfield, if_pos hwritten, Value.agrees_refl]
  · rw [hfield, if_neg hwritten]
    apply FieldMask.agrees_of_not_contains_diff
    rw [writtenFields, FieldMask.contains_retain, hi, Bool.and_true] at hwritten
    exact Bool.eq_false_iff.2 hwritten

theorem field_of_not_isWritable (hi : E.schema.isWritable i = false) :
    t.field i = stored.field i := by
  have hfield := Record.field_of_overwrite himage hstored ht i
  simp only [FieldMask.mem_indices] at hfield
  rw [hfield, if_neg]
  intro hwritten
  rw [isWritable_of_contains_writtenFields hwritten] at hi
  cases hi

/-- Time and author of the save are in the row afterwards. -/
theorem stamped_of_overwrite {version : Option Int} {role : Role} {v : Value}
    (hnext : stampChanged proposed version now who = .ok next)
    (hmem : (role, v) ∈ changeStamps version now who) (hinteger : ∀ n, v ≠ .integer n)
    (hfloat : ∀ x, v ≠ .float x) (hrole : role.isStampedOnSave = true)
    (hi : E.schema.roleIndex? role = some i) : t.field i = v := by
  have hagrees :=
    agrees_of_isWritable himage hstored ht (Schema.isWritable_of_roleIndex? hi hrole)
  rw [field_of_changeStamp hnext hmem hinteger hi] at hagrees
  exact Value.eq_of_agrees hagrees hfloat

/-- The row that a save wrote reads as what the save makes of the stored record. -/
theorem supersedes_of_overwrite (hversion : E.schema.isVersioned = true →
      ∃ n, stored.version? = some n)
    (hnext : stampChanged proposed (stored.version?.map (· + 1)) now who = .ok next) :
    Supersedes stored proposed now who t where
  version := by
    cases hi : E.schema.roleIndex? .version with
    | none => simp only [Record.version?, hi, Option.bind_none, Option.map_none]
    | some i =>
      obtain ⟨n, hn⟩ := hversion (by rw [Schema.isVersioned, hi]; rfl)
      rw [hn, Option.map_some] at hnext ⊢
      obtain ⟨f, w, hf, hw, hfield⟩ := version_of_stampChanged hnext hi
      -- The stored record holds a whole number, so the type of the field is one of whole numbers.
      have hheld : stored.field i = .integer n := by
        rw [Record.version?, hi, Option.bind_some] at hn
        exact Value.asInteger?_eq_some.1 hn
      have hlt : i < E.fields.length := (List.getElem?_eq_some_iff.1 hf).1
      have hadmits := stored.fits.admits hf (stored.values_getElem? hlt)
      rw [hheld] at hadmits
      have hinteger := FieldType.isInteger_of_admits hadmits
      rw [FieldType.eq_of_convert_integer hinteger hw] at hfield
      have hagrees := agrees_of_isWritable himage hstored ht
        (Schema.isWritable_of_roleIndex? hi rfl)
      rw [hfield] at hagrees
      rw [Record.version?, hi, Option.bind_some, Value.eq_of_agrees hagrees fun _ h => by cases h]
      rfl
  time _ hi := stamped_of_overwrite himage hstored ht hnext (by simp [changeStamps])
    (fun _ h => by cases h) (fun _ h => by cases h) rfl hi
  author _ hi := stamped_of_overwrite himage hstored ht hnext (by simp [changeStamps])
    (fun _ h => by cases h) (fun _ h => by cases h) rfl hi
  settable i hi := by
    have hnext' : next.field i = proposed.field i :=
      field_of_stampChanged hnext fun role _ => Schema.roleIndex?_ne_of_isSettable hi role
    rw [← hnext']
    exact agrees_of_isWritable himage hstored ht (Schema.isWritable_of_isSettable hi)
  others i hi hroles := by
    apply field_of_not_isWritable himage hstored ht
    rw [Bool.eq_false_iff]
    intro hwritable
    rcases Schema.isSettable_or_stamped hwritable with hsettable | ⟨role, hrole, hstamped⟩
    · rw [hsettable] at hi
      cases hi
    · rw [hroles role hrole] at hstamped
      cases hstamped

end

end Session

end RecordEngine
