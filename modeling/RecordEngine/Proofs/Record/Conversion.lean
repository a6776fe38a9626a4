import RecordEngine.Proofs.Binary64.Nearest
import RecordEngine.Proofs.Record.Rewritten
import RecordEngine.Proofs.Record.Untimed
/-!
Rows read into records.

A row need not come from a record: it may be shorter than the type, its values may be of other
kinds, and whole numbers may stand where the type has numbers in floating point. Reading goes field
by field and stops at the first value that its field refuses, so a row that is read is described by
one relation between its values and those of the record (`FieldType.Takes`), and one that is not by
the values before the first refused one (`Refused`). Both are inductions on what is left of the row;
the first keeps the part of the record that was read, the second the part of the row that was
accepted.

The types of fields nest, as options do. A nested type takes what the type behind all options takes,
and null besides, so nothing has to be said of the depth (`takes_of_convert`).
-/

set_option autoImplicit false

namespace RecordEngine

namespace FieldType

/-- The type behind all options. -/
def core : FieldType → FieldType
  | option inner => inner.core
  | t => t

/-- What a field of a type holds that was given a value it accepts: that value, unless it is a whole
number given to a field in floating point, which holds the nearest double. -/
inductive Takes (t : FieldType) : Value → Value → Prop
  | same {v : Value} (h : t.core = .float64 → ∀ n, v ≠ .integer n) : Takes t v v
  | rounded {n : Int} {x : Binary64} (ht : t.core = .float64) (hx : Binary64.IsNearest n x) :
      Takes t (.integer n) (.float x)

theorem Takes.option {t : FieldType} {v w : Value} (h : t.Takes v w) : (option t).Takes v w := by
  cases h with
  | same h => exact .same h
  | rounded ht hx => exact .rounded ht hx

theorem natAbs_lt_of_fitsBits {n : Int} (h : fitsBits 64 n = true) : n.natAbs < 2 ^ 64 := by
  simp only [fitsBits, Bool.and_eq_true, decide_eq_true_eq] at h
  have hhalf : ((Nat.pow 2 (64 - 1) : Nat) : Int) = 2 ^ 63 := rfl
  omega

theorem eq_of_convertInteger {bits : Nat} {n : Int} {w : Value}
    (h : convertInteger bits (.integer n) = .ok w) : w = .integer n := by
  rw [convertInteger] at h
  split at h
  · exact (Except.ok.inj h).symm
  · cases h

/-- A whole number of a machine word, in a field that accepts it. -/
theorem takes_integer {t : FieldType} {n : Int} {w : Value} (hn : fitsBits 64 n = true)
    (h : t.convert (.integer n) = .ok w) : t.Takes (.integer n) w := by
  induction t with
  | option inner ih => exact (ih h).option
  | float64 =>
    obtain rfl := Except.ok.inj h
    exact .rounded rfl (Binary64.ofInt_isNearest (natAbs_lt_of_fitsBits hn) (by decide))
  | int64 | int32 =>
    rw [eq_of_convertInteger h]
    apply Takes.same
    intro hcore
    cases hcore
  | text | boolean | instant => cases h

/-- Every conversion that goes well does what its type says. -/
theorem takes_of_convert {t : FieldType} {v w : Value}
    (hv : ∀ n, v = .integer n → fitsBits 64 n = true) (h : t.convert v = .ok w) : t.Takes v w := by
  by_cases hinteger : ∃ n, v = .integer n
  · obtain ⟨n, rfl⟩ := hinteger
    exact takes_integer (hv n rfl) h
  · rw [not_exists] at hinteger
    rw [eq_of_convert h hinteger]
    exact .same fun _ => hinteger

end FieldType

namespace Record

variable {E : EntityType}

/-! ## One field -/

theorem toRow_of_setField {r r' : Record E} {i : Nat} {v : Value} (h : r.setField i v = .ok r') :
    ∃ f w, E.fields[i]? = some f ∧ f.type.convert v = .ok w ∧ r'.toRow = r.toRow.set i w := by
  have hrow := r.setField_toRow i v
  rw [h] at hrow
  cases hf : E.fields[i]? with
  | none => simp [hf, Except.map] at hrow
  | some f =>
    cases hw : f.type.convert v with
    | error cause => simp [hf, hw, Except.map] at hrow
    | ok w =>
      refine ⟨f, w, rfl, hw, ?_⟩
      simpa [hf, hw, Except.map] using hrow

theorem setField_eq_error {r : Record E} {i : Nat} {v : Value} {failure : Failure}
    (h : r.setField i v = .error failure) :
    E.fields[i]? = none ∧ failure = .execution (E.name ++ " has no field #" ++ toString i) ∨
      ∃ f cause, E.fields[i]? = some f ∧ f.type.convert v = .error cause ∧
        failure = cause.inField f.name := by
  have hrow := r.setField_toRow i v
  rw [h] at hrow
  cases hf : E.fields[i]? with
  | none =>
    left
    simpa [hf, Except.map] using hrow
  | some f =>
    right
    cases hw : f.type.convert v with
    | ok w => simp [hf, hw, Except.map] at hrow
    | error cause =>
      refine ⟨f, cause, rfl, hw, ?_⟩
      simpa [hf, hw, Except.map] using hrow

/-- A field set in place. -/
def assign (index : Nat) (value : Value) : EStateM Failure (Record E) Unit := do
  match (← get).setField index value with
  | .ok r => set r
  | .error failure => throw failure

theorem run_assign (r : Record E) (i : Nat) (v : Value) :
    (assign i v).run r =
      match r.setField i v with
      | .ok r' => .ok () r'
      | .error failure => .error failure r := by
  have hrun : (assign i v).run r =
      EStateM.run (match r.setField i v with | .ok r' => set r' | .error failure => throw failure)
        r := rfl
  rw [hrun]
  cases r.setField i v with
  | ok r' => rfl
  | error failure => rfl

/-! ## A row that is read -/

theorem readable_iff {row : Row} :
    Readable E 0 row ↔ row.length ≤ E.fields.length ∧
      ∀ (i : Nat) (f : Field) (v : Value), E.fields[i]? = some f → row[i]? = some v →
        ∃ w, f.type.convert v = .ok w := by
  constructor
  · intro h
    constructor
    · by_contra hlength
      rw [Nat.not_le] at hlength
      obtain ⟨f, w, hf, -⟩ := h _ _ (List.getElem?_eq_getElem hlength)
      rw [Nat.zero_add, List.getElem?_eq_none (Nat.le_refl _)] at hf
      cases hf
    · intro i f v hf hv
      obtain ⟨g, w, hg, hw⟩ := h i v hv
      rw [Nat.zero_add] at hg
      obtain rfl := Option.some.inj (hf.symm.trans hg)
      exact ⟨w, hw⟩
  · rintro ⟨hlength, haccepted⟩ i v hv
    have hi : i < E.fields.length :=
      Nat.lt_of_lt_of_le (List.getElem?_eq_some_iff.1 hv).1 hlength
    obtain ⟨w, hw⟩ := haccepted i _ v (List.getElem?_eq_getElem hi) hv
    rw [Nat.zero_add]
    exact ⟨_, w, List.getElem?_eq_getElem hi, hw⟩

theorem Readable.snoc {row : Row} {value w : Value} {f : Field} (h : Readable E 0 row)
    (hf : E.fields[row.length]? = some f) (hw : f.type.convert value = .ok w) :
    Readable E 0 (row ++ [value]) := by
  intro i v hv
  by_cases hi : i < row.length
  · rw [List.getElem?_append_left hi] at hv
    exact h i v hv
  · rw [List.getElem?_append_right (Nat.le_of_not_lt hi), List.getElem?_singleton] at hv
    split at hv
    · obtain rfl := Option.some.inj hv
      obtain rfl : i = row.length := by omega
      rw [Nat.zero_add]
      exact ⟨f, w, hf, hw⟩
    · cases hv

/-- The values of a row, each as its field takes it. -/
def TakesRow (fields : List Field) (row : Row) (taken : List Value) : Prop :=
  List.Forall₂ (fun (given : Field × Value) held => given.1.type.Takes given.2 held)
    (fields.zip row) taken

/-- Of a record into which a row is read the front is kept, then come the values of the row, and
behind them it is as it was. -/
theorem toRow_of_setFrom {r r' : Record E} {index : Nat} {row : Row}
    (hrow : ∀ n, Value.integer n ∈ row → fitsBits 64 n = true)
    (h : r.setFrom index row = .ok r') :
    ∃ taken, TakesRow (E.fields.drop index) row taken ∧
      r'.toRow = r.toRow.take index ++ taken ++ r.toRow.drop (index + row.length) := by
  induction row generalizing r index with
  | nil =>
    obtain rfl := Except.ok.inj h
    refine ⟨[], ?_, by simp⟩
    rw [TakesRow, List.zip_nil_right]
    exact .nil
  | cons value rest ih =>
    rw [setFrom] at h
    split at h
    · cases h
    next r₁ hset =>
    obtain ⟨f, w, hf, hw, hr₁⟩ := toRow_of_setField hset
    have hindex : index < E.fields.length := (List.getElem?_eq_some_iff.1 hf).1
    obtain ⟨taken, htaken, hr'⟩ := ih (fun n hn => hrow n (List.mem_cons_of_mem _ hn)) h
    refine ⟨w :: taken, ?_, ?_⟩
    · have hfield : E.fields[index] = f :=
        Option.some.inj ((List.getElem?_eq_getElem hindex).symm.trans hf)
      rw [TakesRow, List.drop_eq_getElem_cons hindex, hfield, List.zip_cons_cons]
      refine .cons (FieldType.takes_of_convert ?_ hw) htaken
      rintro n rfl
      exact hrow n List.mem_cons_self
    · -- The value that was set is the last one of the front.
      have hfront : r₁.toRow.take (index + 1) = r.toRow.take index ++ [w] := by
        have hrow : index < r.toRow.length := r.length_toRow.symm ▸ hindex
        have hlength : (r.toRow.take index).length = index :=
          List.length_take_of_le (Nat.le_of_lt hrow)
        rw [hr₁, List.take_set, List.take_add_one, List.getElem?_eq_getElem hrow,
          Option.toList_some, List.set_append_right _ _ (Nat.le_of_eq hlength), hlength,
          Nat.sub_self]
        rfl
      have hback : r₁.toRow.drop (index + 1 + rest.length) =
          r.toRow.drop (index + (value :: rest).length) := by
        rw [hr₁, List.drop_set_of_lt (by omega), List.length_cons]
        congr 1
        omega
      rw [hr', hfront, hback, List.append_assoc (r.toRow.take index)]
      rfl

/-! ## A row that is refused -/

/-- The first value of a row that cannot be read, and what the row is refused with: its field does
not accept it, or there is no field left for it. -/
inductive Refused (E : EntityType) (row : Row) : Nat → Failure → Prop
  | value {i : Nat} {f : Field} {v : Value} {cause : Failure}
      (hbefore : Readable E 0 (row.take i)) (hf : E.fields[i]? = some f) (hv : row[i]? = some v)
      (hcause : f.type.convert v = .error cause) :
      Refused E row i (.typeMismatch ("field '" ++ f.name ++ "': " ++ cause.message))
  | surplus (hbefore : Readable E 0 (row.take E.fields.length))
      (hlength : E.fields.length < row.length) :
      Refused E row E.fields.length
        (.execution (E.name ++ " has no field #" ++ toString E.fields.length))

namespace Refused

variable {row : Row} {i j : Nat} {failure failure' : Failure}

theorem readable_take (h : Refused E row i failure) : Readable E 0 (row.take i) := by
  cases h with
  | value hbefore => exact hbefore
  | surplus hbefore => exact hbefore

theorem not_readable (h : Refused E row i failure) {k : Nat} (hi : i < k) :
    ¬Readable E 0 (row.take k) := by
  intro hreadable
  cases h with
  | value hbefore hf hv hcause =>
    obtain ⟨g, w, hg, hw⟩ := hreadable i _ (by rw [List.getElem?_take_of_lt hi]; exact hv)
    rw [Nat.zero_add] at hg
    obtain rfl := Option.some.inj (hf.symm.trans hg)
    rw [hcause] at hw
    cases hw
  | surplus hbefore hlength =>
    have hshort := (readable_iff.1 hreadable).1
    rw [List.length_take] at hshort
    omega

/-- There is one first value that cannot be read, and one failure for it. -/
theorem unique (h : Refused E row i failure) (h' : Refused E row j failure') :
    i = j ∧ failure = failure' := by
  rcases Nat.lt_trichotomy i j with hij | rfl | hij
  · exact absurd h'.readable_take (h.not_readable hij)
  · refine ⟨rfl, ?_⟩
    cases h with
    | value hbefore hf hv hcause =>
      generalize hk : i = k at h'
      cases h' with
      | value hbefore' hf' hv' hcause' =>
        subst hk
        obtain rfl := Option.some.inj (hf.symm.trans hf')
        obtain rfl := Option.some.inj (hv.symm.trans hv')
        obtain rfl := Except.error.inj (hcause.symm.trans hcause')
        rfl
      | surplus hbefore' hlength =>
        rw [hk, List.getElem?_eq_none (Nat.le_refl _)] at hf
        cases hf
    | surplus hbefore hlength =>
      generalize hk : E.fields.length = k at h'
      cases h' with
      | value hbefore' hf' hv' hcause' =>
        rw [← hk, List.getElem?_eq_none (Nat.le_refl _)] at hf'
        cases hf'
      | surplus => rfl
  · exact absurd h.readable_take (h'.not_readable hij)

end Refused

theorem refused_of_setFrom {r : Record E} (done : Row) {rest : Row} {failure : Failure}
    (hdone : Readable E 0 done) (h : r.setFrom done.length rest = .error failure) :
    ∃ i, Refused E (done ++ rest) i failure := by
  induction rest generalizing r done with
  | nil => cases h
  | cons value rest ih =>
    rw [setFrom] at h
    split at h
    · next failure' hset =>
      obtain rfl := Except.error.inj h
      rcases setField_eq_error hset with ⟨hnone, rfl⟩ | ⟨f, cause, hf, hcause, rfl⟩
      · -- All fields have been given a value, and one more is left.
        have hlength : done.length = E.fields.length :=
          Nat.le_antisymm (readable_iff.1 hdone).1 (List.getElem?_eq_none_iff.1 hnone)
        rw [hlength]
        refine ⟨_, .surplus ?_ ?_⟩
        · rw [List.take_left' hlength]
          exact hdone
        · rw [List.length_append, List.length_cons]
          omega
      · refine ⟨done.length, .value ?_ hf ?_ hcause⟩
        · rw [List.take_left]
          exact hdone
        · rw [List.getElem?_append_right (Nat.le_refl _), Nat.sub_self]
          rfl
    · next r₁ hset =>
      obtain ⟨f, w, hf, hw, -⟩ := toRow_of_setField hset
      obtain ⟨i, hrefused⟩ := ih _ (hdone.snoc hf hw) (by rw [List.length_append]; exact h)
      rw [List.append_assoc] at hrefused
      exact ⟨i, hrefused⟩

theorem setFrom_eq_error_iff {r : Record E} {row : Row} {failure : Failure} :
    r.setFrom 0 row = .error failure ↔ ∃ i, Refused E row i failure := by
  have hnothing : Readable E 0 [] := fun i v hv => by cases hv
  constructor
  · intro h
    exact refused_of_setFrom [] hnothing h
  · rintro ⟨i, hrefused⟩
    cases hread : r.setFrom 0 row with
    | ok r' =>
      have hreadable : Readable E 0 (row.take (max (i + 1) row.length)) := by
        rw [List.take_of_length_le (Nat.le_max_right ..)]
        exact (setFrom_isOk r 0 row).1 ⟨r', hread⟩
      exact absurd hreadable (hrefused.not_readable (Nat.le_max_left ..))
    | error failure' =>
      obtain ⟨j, hrefused'⟩ := refused_of_setFrom [] hnothing hread
      rw [(hrefused.unique hrefused').2]

/-! ## Reading and writing again -/

/-- A row, read into a record and written again. -/
def rewritten (zero : Record E) (row : Row) : Except Failure Row :=
  (zero.setFrom 0 row).map (·.toRow)

/-- What a record is begun with does not matter to a row that has a value for every field. -/
theorem setFrom_toRow (zero r : Record E) : zero.setFrom 0 r.toRow = .ok r :=
  setFrom_drop r zero rfl

theorem rewritten_rewritten (zero : Record E) (row : Row) :
    (rewritten zero row >>= rewritten zero) = rewritten zero row := by
  unfold rewritten
  cases zero.setFrom 0 row with
  | error failure => rfl
  | ok r =>
    show (zero.setFrom 0 r.toRow).map (·.toRow) = .ok r.toRow
    rw [setFrom_toRow]
    rfl

/-- **Rows convert to records faithfully.** A row is read just if it has no more values than there
are fields and every value is accepted by its field; the record then holds these values, as their
fields take them, and after them what a record is begun with. A row that is not read is refused for
the first value that cannot be. Rows of records read back as the records, so nothing more changes
when a row that was read and written is read again. A field set in place is the only one that
changes, and none does if the value is refused. The whole numbers of a row are machine words, as in
every value there is; `ofRow` is the case that begins with the defaults of the fields' types. -/
theorem rows_convert (zero : Record E) (row : Row)
    (hrow : ∀ n, Value.integer n ∈ row → fitsBits 64 n = true) :
    ((∃ r, zero.setFrom 0 row = .ok r) ↔ row.length ≤ E.fields.length ∧
      ∀ (i : Nat) (f : Field) (v : Value), E.fields[i]? = some f → row[i]? = some v →
        ∃ w, f.type.convert v = .ok w) ∧
    (∀ r, zero.setFrom 0 row = .ok r → ∃ taken, TakesRow E.fields row taken ∧
      r.toRow = taken ++ zero.toRow.drop row.length) ∧
    (∀ failure, zero.setFrom 0 row = .error failure ↔ ∃ i, Refused E row i failure) ∧
    (∀ r : Record E, zero.setFrom 0 r.toRow = .ok r) ∧
    (rewritten zero row >>= rewritten zero) = rewritten zero row ∧
    ∀ (r : Record E) (i : Nat) (v : Value),
      (∃ failure, r.setField i v = .error failure ∧ (assign i v).run r = .error failure r) ∨
      ∃ r', r.setField i v = .ok r' ∧ (assign i v).run r = .ok () r' ∧
        ∃ f w, E.fields[i]? = some f ∧ f.type.convert v = .ok w ∧ r'.toRow = r.toRow.set i w := by
  refine ⟨(setFrom_isOk zero 0 row).trans readable_iff, fun r hr => ?_,
    fun failure => setFrom_eq_error_iff, setFrom_toRow zero, rewritten_rewritten zero row,
    fun r i v => ?_⟩
  · obtain ⟨taken, htaken, hvalues⟩ := toRow_of_setFrom hrow hr
    rw [List.drop_zero] at htaken
    rw [List.take_zero, List.nil_append, Nat.zero_add] at hvalues
    exact ⟨taken, htaken, hvalues⟩
  · rw [run_assign]
    cases hset : r.setField i v with
    | error failure => exact .inl ⟨failure, rfl, rfl⟩
    | ok r' => exact .inr ⟨r', rfl, rfl, toRow_of_setField hset⟩

end Record

/-! ## A gauge -/

def gaugeType : EntityType where
  name := "gauge"
  fields := [{ name := "id", role := some .identifier, type := .text },
    { name := "level", type := .option (.option .float64) }, { name := "ticks", type := .int32 },
    { name := "note", type := .text }]

/-- A row without a note, and with a level halfway between two doubles. -/
def gaugeRow : Row := [.text "g", .integer 9007199254740993, .integer 7]

theorem gauge_converted :
    ∃ r, Record.ofRow gaugeType gaugeRow = .ok r ∧
      r.toRow = [.text "g", .float ⟨0x4340000000000000⟩, .integer 7, .text ""] ∧
      Binary64.IsNearest 9007199254740993 ⟨0x4340000000000000⟩ := by
  have hrow : ∀ n, Value.integer n ∈ gaugeRow → fitsBits 64 n = true := by
    intro n hn
    simp only [gaugeRow, List.mem_cons, Value.integer.injEq, reduceCtorEq, false_or,
      List.not_mem_nil, or_false] at hn
    rcases hn with rfl | rfl <;> decide
  obtain ⟨-, hvalues, -⟩ := Record.rows_convert (Record.default gaugeType) gaugeRow hrow
  obtain ⟨r, hr, hread⟩ : ∃ r, Record.ofRow gaugeType gaugeRow = .ok r ∧
      r.toRow = [.text "g", .float ⟨0x4340000000000000⟩, .integer 7, .text ""] := by
    refine ⟨_, rfl, ?_⟩
    decide +kernel
  refine ⟨r, hr, hread, ?_⟩
  obtain ⟨taken, htaken, hrow'⟩ := hvalues r hr
  rw [hread] at hrow'
  rcases htaken with _ | ⟨-, _ | ⟨hlevel, -⟩⟩
  obtain rfl := (List.cons.inj (List.cons.inj hrow').2).1
  cases hlevel with
  | rounded hcore hnearest => exact hnearest

end RecordEngine
