import RecordEngine.Proofs.Record.Fields
import RecordEngine.Proofs.Record.Patch
import RecordEngine.Proofs.Record.Stamps
/-!
Writes apart from their time.

The same write at two times leaves two rows that differ in the field for the time of the last
change, and lists that field in its changes if the time is a new one. `EntityType.untimed` blots the
field out of a row, and `EntityType.untimedChanges` takes it out of a list of changes. Stamping,
overwriting and listing the changes are then the same at any two times.

There is one thing that a time can decide: a row too short to have the field reads as if it held
what the field holds in a new record, and a write of that very time would leave the field alone,
where any other is refused. `EntityType.Dates` are the times that are told from it.
-/

set_option autoImplicit false

namespace RecordEngine

variable {E : EntityType}

/-- Results that are the same under a function are the same failure or values that it takes to the
same. -/
theorem map_eq_map {α γ : Type} {a b : Except Failure α} {f : α → γ} (h : b.map f = a.map f) :
    (∃ failure, a = .error failure ∧ b = .error failure) ∨
      ∃ x y, a = .ok x ∧ b = .ok y ∧ f y = f x := by
  cases a with
  | error failure =>
    cases b with
    | error failure' =>
      obtain rfl : failure' = failure := Except.error.inj h
      exact .inl ⟨failure', rfl, rfl⟩
    | ok y => cases h
  | ok x =>
    cases b with
    | error failure => cases h
    | ok y => exact .inr ⟨x, y, rfl, rfl, Except.ok.inj h⟩

/-! ## The field for the time -/

namespace EntityType

/-- The place of the field for the time of the last change. -/
def timeIndex? (E : EntityType) : Option Nat := E.schema.roleIndex? .updatedAt

/-- Whether a place is that of the field for the time of the last change. -/
def isTime (E : EntityType) (i : Nat) : Bool := E.timeIndex? == some i

/-- A row with the time of the last change blotted out. -/
def untimed (E : EntityType) (row : Row) : Row :=
  match E.timeIndex? with
  | some i => row.set i .null
  | none => row

/-- Changes without that of the time of the last change. -/
def untimedChanges (E : EntityType) (c : ChangeSet) : ChangeSet :=
  ⟨c.changes.filter fun change => E.timeIndex?.bind E.schema.fieldName? != some change.field⟩

/-- The time is not the one that a new record holds as that of its last change. -/
def Dates (E : EntityType) (t : Instant) : Prop :=
  ∀ i, E.isTime i = true → (Record.default E).field i ≠ .timestamp t

theorem isTime_iff {i : Nat} : E.isTime i = true ↔ E.timeIndex? = some i := beq_iff_eq

@[simp] theorem length_untimed (row : Row) : (E.untimed row).length = row.length := by
  unfold untimed
  split
  · exact List.length_set
  · rfl

theorem getElem?_untimed (row : Row) {i : Nat} (hi : E.isTime i = false) :
    (E.untimed row)[i]? = row[i]? := by
  unfold untimed
  split
  · next j hj =>
    have hne : j ≠ i := by
      rintro rfl
      rw [isTime_iff.2 hj] at hi
      cases hi
    exact List.getElem?_set_ne hne
  · rfl

/-- Rows of one length that hold the same elsewhere are the same apart from the time. -/
theorem untimed_eq {row row' : Row} (hlength : row'.length = row.length)
    (h : ∀ i, E.isTime i = false → row'[i]? = row[i]?) : E.untimed row' = E.untimed row := by
  refine List.ext_getElem? fun i => ?_
  cases hi : E.isTime i with
  | false => rw [getElem?_untimed row hi, getElem?_untimed row' hi, h i hi]
  | true =>
    unfold untimed
    rw [isTime_iff.1 hi]
    dsimp only
    rw [List.getElem?_set, List.getElem?_set, hlength, if_pos rfl, if_pos rfl]

/-- A value put in at another place. -/
theorem untimed_set_of_not (row : Row) {i : Nat} (v : Value) (hi : E.isTime i = false) :
    E.untimed (row.set i v) = (E.untimed row).set i v := by
  unfold untimed
  split
  · next j hj =>
    have hne : i ≠ j := by
      rintro rfl
      rw [isTime_iff.2 hj] at hi
      cases hi
    exact List.set_comm v .null hne
  · rfl

/-- The time itself is blotted out. -/
theorem untimed_set_of_time (row : Row) {i : Nat} (v : Value) (hi : E.isTime i = true) :
    E.untimed (row.set i v) = E.untimed row := by
  unfold untimed
  rw [isTime_iff.1 hi]
  exact List.set_set _

end EntityType

/-- A record with the time of its last change blotted out. -/
def Record.untimed (r : Record E) : Row := E.untimed r.toRow

namespace Record

theorem untimed_eq_iff {r r' : Record E} :
    r'.untimed = r.untimed ↔ ∀ i, E.isTime i = false → r'.field i = r.field i := by
  constructor
  · intro h i hi
    have hvalue : r'.toRow[i]? = r.toRow[i]? := by
      rw [← EntityType.getElem?_untimed r.toRow hi, ← EntityType.getElem?_untimed r'.toRow hi]
      exact congrArg (·[i]?) h
    change r'.values.getD i .null = r.values.getD i .null
    rw [List.getD_eq_getElem?_getD, List.getD_eq_getElem?_getD]
    exact congrArg (·.getD .null) hvalue
  · intro h
    refine EntityType.untimed_eq (r'.length_toRow.trans r.length_toRow.symm) fun i hi => ?_
    by_cases hlt : i < E.fields.length
    · exact (r'.values_getElem? hlt).trans ((h i hi ▸ r.values_getElem? hlt).symm)
    · rw [List.getElem?_eq_none (by rw [r'.length_toRow]; omega),
        List.getElem?_eq_none (by rw [r.length_toRow]; omega)]

/-! ## Stamping -/

/-- A field is set by putting the converted value in its place. -/
theorem setField_toRow (r : Record E) (i : Nat) (v : Value) :
    (r.setField i v).map (·.toRow) =
      match E.fields[i]? with
      | none => .error (.execution (E.name ++ " has no field #" ++ toString i))
      | some f =>
        match f.type.convert v with
        | .error failure => .error (failure.inField f.name)
        | .ok w => .ok (r.toRow.set i w) := by
  unfold setField
  split
  · next hnone =>
    simp only [hnone]
    rfl
  · next f hf =>
    simp only [hf]
    split
    · next failure herror =>
      simp only [herror]
      rfl
    · next w hw =>
      simp only [hw]
      rfl

/-- The row of a result with the time blotted out. -/
theorem map_untimed (result : Except Failure (Record E)) :
    result.map (·.untimed) = (result.map (·.toRow)).map E.untimed := by
  cases result <;> rfl

/-- Two results that are the same apart from the time. -/
def AlikeUntimed (a b : Except Failure (Record E)) : Prop :=
  b.map (·.untimed) = a.map (·.untimed)

theorem AlikeUntimed.bind {a b : Except Failure (Record E)}
    {f g : Record E → Except Failure (Record E)} (h : AlikeUntimed a b)
    (hfg : ∀ r r' : Record E, r'.untimed = r.untimed → AlikeUntimed (f r) (g r')) :
    AlikeUntimed (a >>= f) (b >>= g) := by
  obtain ⟨failure, rfl, rfl⟩ | ⟨r, r', rfl, rfl, hsame⟩ := map_eq_map h
  · rfl
  · exact hfg r r' hsame

theorem setField_untimed {r r' : Record E} (h : r'.untimed = r.untimed) {i : Nat}
    (hi : E.isTime i = false) (v : Value) : AlikeUntimed (r.setField i v) (r'.setField i v) := by
  rw [AlikeUntimed, map_untimed, map_untimed, setField_toRow, setField_toRow]
  cases E.fields[i]? with
  | none => rfl
  | some f =>
    dsimp only
    cases f.type.convert v with
    | error failure => rfl
    | ok w =>
      change Except.ok (E.untimed (r'.toRow.set i w)) = Except.ok (E.untimed (r.toRow.set i w))
      rw [EntityType.untimed_set_of_not _ w hi, EntityType.untimed_set_of_not _ w hi]
      exact congrArg (fun row : Row => Except.ok (row.set i w)) h

/-- A stamp of another role. -/
theorem stamp_untimed {r r' : Record E} (h : r'.untimed = r.untimed) {role : Role}
    (hrole : role ≠ .updatedAt) (v : Value) :
    AlikeUntimed (r.stamp role v) (r'.stamp role v) := by
  unfold stamp
  split
  · next i hi =>
    refine setField_untimed h ?_ v
    rw [Bool.eq_false_iff]
    intro htime
    exact Schema.roleIndex?_ne (EntityType.isTime_iff.1 htime) hrole hi
  · exact congrArg Except.ok h

end Record

/-- A field takes every time or none, and it takes it as it is. -/
theorem FieldType.convert_timestamp (type : FieldType) :
    (∀ t, type.convert (.timestamp t) = .ok (.timestamp t)) ∨
      ∃ failure, ∀ t, type.convert (.timestamp t) = .error failure := by
  induction type with
  | instant => exact .inl fun _ => rfl
  | option inner ih => exact ih
  | text => exact .inr ⟨mismatch "TEXT" (.timestamp ⟨0, 0⟩), fun _ => rfl⟩
  | int64 => exact .inr ⟨mismatch "INTEGER" (.timestamp ⟨0, 0⟩), fun _ => rfl⟩
  | int32 => exact .inr ⟨mismatch "INTEGER" (.timestamp ⟨0, 0⟩), fun _ => rfl⟩
  | float64 => exact .inr ⟨mismatch "FLOAT" (.timestamp ⟨0, 0⟩), fun _ => rfl⟩
  | boolean => exact .inr ⟨mismatch "BOOLEAN" (.timestamp ⟨0, 0⟩), fun _ => rfl⟩

namespace Record

/-- The stamp of the time. -/
theorem stamp_time_untimed (r : Record E) (t t' : Instant) :
    AlikeUntimed (r.stamp .updatedAt (.timestamp t)) (r.stamp .updatedAt (.timestamp t')) := by
  unfold stamp
  split
  · next i hi =>
    have htime : E.isTime i = true := EntityType.isTime_iff.2 hi
    rw [AlikeUntimed, map_untimed, map_untimed, setField_toRow, setField_toRow]
    cases E.fields[i]? with
    | none => rfl
    | some f =>
      dsimp only
      rcases f.type.convert_timestamp with htakes | ⟨failure, hrefuses⟩
      · rw [htakes, htakes]
        change Except.ok (E.untimed (r.toRow.set i (.timestamp t'))) =
          Except.ok (E.untimed (r.toRow.set i (.timestamp t)))
        rw [EntityType.untimed_set_of_time _ _ htime, EntityType.untimed_set_of_time _ _ htime]
      · rw [hrefuses, hrefuses]
  · rfl

end Record

namespace Session

/-- The stamps of a change are the same at any two times, apart from the time. -/
theorem stampChanged_untimed (r : Record E) (version : Option Int) (t t' : Instant)
    (who : String) :
    Record.AlikeUntimed (stampChanged r version t who) (stampChanged r version t' who) := by
  have hversion : ∀ result : Except Failure (Record E), Record.AlikeUntimed
      (result >>= fun r => r.stamp .updatedAt (.timestamp t) >>= fun r =>
        r.stamp .updatedBy (.text who))
      (result >>= fun r => r.stamp .updatedAt (.timestamp t') >>= fun r =>
        r.stamp .updatedBy (.text who)) := by
    intro result
    cases result with
    | error failure => rfl
    | ok r =>
      exact (r.stamp_time_untimed t t').bind fun r r' h => Record.stamp_untimed h (by decide) _
  cases version with
  | none => exact hversion (pure r)
  | some n => exact hversion (r.stamp .version (.integer n))

/-- The time of a change is what its field holds afterwards, if the type has one. -/
theorem time_of_stampChanged {r next : Record E} {version : Option Int} {t : Instant}
    {who : String} (h : stampChanged r version t who = .ok next) {i : Nat}
    (hi : E.isTime i = true) :
    ∃ f, E.fields[i]? = some f ∧ f.type.convert (.timestamp t) = .ok (.timestamp t) ∧
      next.field i = .timestamp t := by
  have hindex : E.schema.roleIndex? .updatedAt = some i := EntityType.isTime_iff.1 hi
  have hstamped {r₁ : Record E} (h : (r₁.stamp .updatedAt (.timestamp t) >>= fun r =>
      r.stamp .updatedBy (.text who)) = .ok next) :
      ∃ f, E.fields[i]? = some f ∧ f.type.convert (.timestamp t) = .ok (.timestamp t) ∧
        next.field i = .timestamp t := by
    obtain ⟨r₂, htime, hby⟩ := bind_eq_ok.1 h
    obtain ⟨f, w, hf, hw, hfield⟩ := Record.field_of_stamp htime hindex
    have hw' : w = .timestamp t := by
      rcases f.type.convert_timestamp with htakes | ⟨failure, hrefuses⟩
      · exact Except.ok.inj (hw.symm.trans (htakes t))
      · rw [hrefuses] at hw
        cases hw
    subst hw'
    refine ⟨f, hf, hw, ?_⟩
    rw [Record.field_of_stamp_of_ne hby (Schema.roleIndex?_ne hindex (by decide)), hfield]
  cases version with
  | none => exact hstamped h
  | some n =>
    obtain ⟨r₁, -, h⟩ := bind_eq_ok.1 h
    exact hstamped h

/-! ## Overwriting -/

/-- What a save overwrites of a row. -/
def overwrites (stored next : Record E) : List (Nat × Value) :=
  (writtenFields stored next).indices.map fun i => (i, next.field i)

theorem contains_writtenFields (stored next : Record E) (i : Nat) :
    (writtenFields stored next).contains i =
      ((decide (i < E.fields.length) && !(stored.field i).agrees (next.field i)) &&
        E.schema.isWritable i) := by
  rw [writtenFields, FieldMask.contains_retain, FieldMask.contains_diff]

theorem len_writtenFields (stored next : Record E) :
    (writtenFields stored next).len = E.fields.length := by
  rw [writtenFields, FieldMask.len_retain, FieldMask.len_diff]

variable {stored next next' : Record E}

/-- Apart from the time the same fields are written. -/
theorem indices_untimed (h : next'.untimed = next.untimed) :
    (writtenFields stored next').indices.filter (fun i => !E.isTime i) =
      (writtenFields stored next).indices.filter fun i => !E.isTime i := by
  rw [FieldMask.indices, FieldMask.indices, len_writtenFields, len_writtenFields,
    List.filter_filter, List.filter_filter]
  refine List.filter_congr fun i _ => ?_
  cases hi : E.isTime i with
  | true => rfl
  | false =>
    rw [contains_writtenFields, contains_writtenFields, Record.untimed_eq_iff.1 h i hi]

theorem overwrites_untimed (h : next'.untimed = next.untimed) :
    (overwrites stored next').filter (fun p => !E.isTime p.1) =
      (overwrites stored next).filter fun p => !E.isTime p.1 := by
  rw [overwrites, overwrites, List.filter_map, List.filter_map]
  change List.map _ (List.filter (fun i => !E.isTime i) _) =
    List.map _ (List.filter (fun i => !E.isTime i) _)
  rw [indices_untimed h]
  refine List.map_congr_left fun i hi => ?_
  have hother : E.isTime i = false := by simpa using (List.mem_filter.1 hi).2
  rw [Record.untimed_eq_iff.1 h i hother]

end Session

namespace Store

/-- If the row has the field for the time, overwriting it makes no difference but there. -/
theorem overwrite_untimed (key : RowKey) {row : Row}
    (htime : ∀ i, E.isTime i = true → i < row.length) (fields : List (Nat × Value)) :
    (overwrite key row fields).map E.untimed =
      overwrite key (E.untimed row) (fields.filter fun p => !E.isTime p.1) := by
  induction fields generalizing row with
  | nil => rfl
  | cons p rest ih =>
    obtain ⟨i, v⟩ := p
    have hset (w : Value) : ∀ j, E.isTime j = true → j < (row.set i w).length := by
      intro j hj
      rw [List.length_set]
      exact htime j hj
    rw [overwrite]
    cases hi : E.isTime i with
    | true =>
      rw [if_pos (htime i hi), ih (hset v), EntityType.untimed_set_of_time row v hi,
        List.filter_cons_of_neg (by simp [hi])]
    | false =>
      rw [List.filter_cons_of_pos (by simp [hi]), overwrite, EntityType.length_untimed]
      by_cases hlt : i < row.length
      · rw [if_pos hlt, if_pos hlt, ih (hset v), EntityType.untimed_set_of_not row v hi]
      · rw [if_neg hlt, if_neg hlt]
        rfl

/-- Whether a row can be overwritten does not depend on the values. -/
theorem overwrite_unit (key : RowKey) {row row' : Row} (hlength : row'.length = row.length)
    (f g : Nat → Value) (indices : List Nat) :
    (overwrite key row' (indices.map fun i => (i, g i))).map (fun _ => ()) =
      (overwrite key row (indices.map fun i => (i, f i))).map fun _ => () := by
  induction indices generalizing row row' with
  | nil => rfl
  | cons i rest ih =>
    rw [List.map_cons, List.map_cons, overwrite, overwrite, hlength]
    by_cases hlt : i < row.length
    · rw [if_pos hlt, if_pos hlt]
      exact ih (by rw [List.length_set, List.length_set, hlength])
    · rw [if_neg hlt, if_neg hlt]

/-- What is overwritten is there. -/
theorem lt_of_overwrite {key : RowKey} {row image : Row} {fields : List (Nat × Value)}
    (h : overwrite key row fields = .ok image) : ∀ p ∈ fields, p.1 < row.length := by
  induction fields generalizing row with
  | nil => exact List.forall_mem_nil _
  | cons p rest ih =>
    obtain ⟨i, v⟩ := p
    rw [overwrite] at h
    by_cases hlt : i < row.length
    · rw [if_pos hlt] at h
      refine List.forall_mem_cons.2 ⟨hlt, fun q hq => ?_⟩
      have hrest := ih h q hq
      rw [List.length_set] at hrest
      exact hrest
    · rw [if_neg hlt] at h
      cases h

end Store

namespace Session

variable {r stored next next' : Record E} {version : Option Int} {t t' : Instant} {who : String}

/-- Of a time that a new record does not hold, a row too short to have its field is told. -/
theorem time_written {row : Row} (hrow : Record.ofRow E row = .ok stored)
    (h : stampChanged r version t who = .ok next) (ht : E.Dates t) {i : Nat}
    (hi : E.isTime i = true) (hshort : row.length ≤ i) :
    i ∈ (writtenFields stored next).indices := by
  obtain ⟨f, hf, -, hnext⟩ := time_of_stampChanged h hi
  have hlt : i < E.fields.length := (List.getElem?_eq_some_iff.1 hf).1
  -- Past the end of the row the record that was read holds what a new one does.
  have hstored : stored.field i = (Record.default E).field i := by
    rw [Record.field_of_setFrom hrow, if_pos (Nat.zero_le i), Nat.sub_zero,
      List.getElem?_eq_none hshort]
    rfl
  have hwritable : E.schema.isWritable i = true :=
    Schema.isWritable_of_roleIndex? (EntityType.isTime_iff.1 hi) rfl
  rw [FieldMask.mem_indices, contains_writtenFields, hstored, hnext,
    Value.agrees_of_ne (ht i hi) (fun _ h => by cases h), hwritable, decide_eq_true hlt]
  rfl

/-- The image of a row that a save writes is the same at any two times, apart from the time. -/
theorem image_untimed (key : RowKey) {row : Row} (hrow : Record.ofRow E row = .ok stored)
    (hnext : stampChanged r version t who = .ok next)
    (hnext' : stampChanged r version t' who = .ok next') (huntimed : next'.untimed = next.untimed)
    (ht : E.Dates t) (ht' : E.Dates t') :
    (Store.overwrite key row (overwrites stored next')).map E.untimed =
      (Store.overwrite key row (overwrites stored next)).map E.untimed := by
  by_cases hlong : ∀ i, E.isTime i = true → i < row.length
  · rw [Store.overwrite_untimed key hlong, Store.overwrite_untimed key hlong,
      overwrites_untimed huntimed]
  · -- Both name the field that the row lacks, so the same fields are written.
    obtain ⟨i, hi, hshort⟩ : ∃ i, E.isTime i = true ∧ row.length ≤ i := by
      simpa only [not_forall, Nat.not_lt, exists_prop] using hlong
    have hwritten := time_written hrow hnext ht hi hshort
    have hwritten' := time_written hrow hnext' ht' hi hshort
    have hindices : (writtenFields stored next').indices = (writtenFields stored next).indices := by
      rw [FieldMask.indices, FieldMask.indices, len_writtenFields, len_writtenFields]
      refine List.filter_congr fun j _ => ?_
      cases hj : E.isTime j with
      | true =>
        obtain rfl : i = j :=
          Option.some.inj ((EntityType.isTime_iff.1 hi).symm.trans (EntityType.isTime_iff.1 hj))
        rw [FieldMask.mem_indices.1 hwritten, FieldMask.mem_indices.1 hwritten']
      | false =>
        rw [contains_writtenFields, contains_writtenFields, Record.untimed_eq_iff.1 huntimed j hj]
    have hrefused {next : Record E} (h : i ∈ (writtenFields stored next).indices) :
        ∃ failure, Store.overwrite key row (overwrites stored next) = .error failure := by
      cases hoverwrite : Store.overwrite key row (overwrites stored next) with
      | error failure => exact ⟨failure, rfl⟩
      | ok image =>
        have hlt := Store.lt_of_overwrite hoverwrite (i, next.field i)
          (List.mem_map.2 ⟨i, h, rfl⟩)
        exact absurd hlt (Nat.not_lt_of_le hshort)
    obtain ⟨failure, hfailure⟩ := hrefused hwritten
    obtain ⟨failure', hfailure'⟩ := hrefused hwritten'
    have hsame := Store.overwrite_unit key (rfl : row.length = row.length) next.field next'.field
      (writtenFields stored next).indices
    rw [← hindices] at hsame
    change Except.map _ (Store.overwrite key row (overwrites stored next')) = _ at hsame
    rw [hfailure', hindices] at hsame
    change _ = Except.map _ (Store.overwrite key row (overwrites stored next)) at hsame
    rw [hfailure] at hsame
    rw [hfailure, hfailure', Except.error.inj hsame]

/-- So is the record that is read from it. -/
theorem record_untimed {row row' : Row} {r r' : Record E} (h : E.untimed row' = E.untimed row)
    (hr : Record.ofRow E row = .ok r) (hr' : Record.ofRow E row' = .ok r') :
    r'.untimed = r.untimed := by
  refine Record.untimed_eq_iff.2 fun i hi => Record.field_eq_of_ofRow hr' hr ?_
  rw [← EntityType.getElem?_untimed row hi, ← EntityType.getElem?_untimed row' hi, h]

/-- And so are the changes that are listed. -/
theorem changes_untimed (h : next'.untimed = next.untimed) :
    E.untimedChanges (ChangeSet.ofMask (writtenFields stored next') (some stored) next') =
      E.untimedChanges (ChangeSet.ofMask (writtenFields stored next) (some stored) next) := by
  -- The change of the time is the one that is taken out, whether it is listed or not.
  have hdrop (next : Record E) (indices : List Nat) :
      (indices.filterMap (ChangeSet.fieldChange (some stored) next)).filter
          (fun change => E.timeIndex?.bind E.schema.fieldName? != some change.field) =
        ((indices.filter fun i => !E.isTime i).filterMap
          (ChangeSet.fieldChange (some stored) next)).filter
          (fun change => E.timeIndex?.bind E.schema.fieldName? != some change.field) := by
    induction indices with
    | nil => rfl
    | cons i rest ih =>
      cases hi : E.isTime i with
      | false =>
        rw [List.filter_cons_of_pos (by simp [hi])]
        rw [List.filterMap_cons, List.filterMap_cons]
        cases ChangeSet.fieldChange (some stored) next i with
        | none => exact ih
        | some change => simp only [List.filter_cons, ih]
      | true =>
        rw [List.filter_cons_of_neg (by simp [hi]), ← ih, List.filterMap_cons]
        unfold ChangeSet.fieldChange
        cases hname : E.schema.fieldName? i with
        | none => rfl
        | some name =>
          refine List.filter_cons_of_neg ?_
          rw [EntityType.isTime_iff.1 hi, Option.bind_some, hname]
          simp
  refine congrArg ChangeSet.mk ?_
  rw [ChangeSet.ofMask_changes, ChangeSet.ofMask_changes, hdrop next', hdrop next,
    indices_untimed h]
  refine congrArg (List.filter _) (List.filterMap_congr fun i hi => ?_)
  have hother : E.isTime i = false := by simpa using (List.mem_filter.1 hi).2
  rw [ChangeSet.fieldChange, ChangeSet.fieldChange, Record.untimed_eq_iff.1 h i hother]

end Session

end RecordEngine
