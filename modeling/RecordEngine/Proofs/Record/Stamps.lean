import RecordEngine.Proofs.Record.Fields
import RecordEngine.Session
/-!
Stamps: what the engine writes into the fields it manages.

A stamp goes to the one field of its role and leaves every other field alone, and no field has two
roles, so a record after a row of stamps can be read field by field: a field of a stamped role holds
what its type makes of the stamp, and a field of no such role holds what it held.
-/

set_option autoImplicit false

namespace RecordEngine

/-- One step after another succeeds if both do. -/
theorem bind_eq_ok {α γ : Type} {result : Except Failure α} {f : α → Except Failure γ} {c : γ} :
    (result >>= f) = .ok c ↔ ∃ a, result = .ok a ∧ f a = .ok c := by
  cases result with
  | error failure => simp [bind, Except.bind]
  | ok a => simp [bind, Except.bind]

/-! ## Roles -/

namespace Schema

variable {schema : Schema} {i : Nat}

/-- The role of the field at a position. -/
def roleAt? (schema : Schema) (i : Nat) : Option Role := schema.fields[i]?.bind (·.role)

theorem roleAt?_of_roleIndex? {role : Role} (h : schema.roleIndex? role = some i) :
    schema.roleAt? i = some role := by
  obtain ⟨hi, hrole, -⟩ := List.findIdx?_eq_some_iff_getElem.1 h
  rw [roleAt?, List.getElem?_eq_getElem hi, Option.bind_some]
  exact eq_of_beq hrole

/-- A field has one role. -/
theorem roleIndex?_ne {role other : Role} (h : schema.roleIndex? role = some i)
    (hne : other ≠ role) : schema.roleIndex? other ≠ some i := by
  intro hother
  have hrole := roleAt?_of_roleIndex? h
  rw [roleAt?_of_roleIndex? hother] at hrole
  exact hne (Option.some.inj hrole)

/-- A save may write the fields that it stamps. -/
theorem isWritable_of_roleIndex? {role : Role} (h : schema.roleIndex? role = some i)
    (hrole : role.isStampedOnSave = true) : schema.isWritable i = true := by
  obtain ⟨field, hfield, hat⟩ := Option.bind_eq_some_iff.1 (roleAt?_of_roleIndex? h)
  rw [isWritable, hfield]
  dsimp only
  rw [hat]
  exact hrole

end Schema

/-! ## One stamp -/

namespace Record

variable {E : EntityType} {r r' : Record E} {role : Role} {v : Value} {i : Nat}

theorem field_of_stamp (h : r.stamp role v = .ok r') (hi : E.schema.roleIndex? role = some i) :
    ∃ f w, E.fields[i]? = some f ∧ f.type.convert v = .ok w ∧ r'.field i = w := by
  rw [stamp, hi] at h
  obtain ⟨f, w, hf, hw, hfield⟩ := field_of_setField h
  exact ⟨f, w, hf, hw, by rw [hfield, if_pos rfl]⟩

theorem field_of_stamp_of_ne (h : r.stamp role v = .ok r')
    (hi : E.schema.roleIndex? role ≠ some i) : r'.field i = r.field i := by
  unfold stamp at h
  split at h
  · next index hindex =>
    obtain ⟨f, w, -, -, hfield⟩ := field_of_setField h
    rw [hfield, if_neg]
    rintro rfl
    exact hi hindex
  · rw [Except.ok.inj h]

end Record

/-! ## The stamps of a write -/

namespace Session

variable {E : EntityType} {r r' : Record E} {now : Instant} {who : String} {i : Nat}

/-- The stamps of a creation leave the identifier and the fields without a role alone. -/
theorem field_of_stampNew (h : stampNew r now who = .ok r')
    (hi : ∀ role, role ≠ .identifier → E.schema.roleIndex? role ≠ some i) :
    r'.field i = r.field i := by
  obtain ⟨r₁, h₁, h⟩ := bind_eq_ok.1 h
  obtain ⟨r₂, h₂, h⟩ := bind_eq_ok.1 h
  obtain ⟨r₃, h₃, h⟩ := bind_eq_ok.1 h
  obtain ⟨r₄, h₄, h₅⟩ := bind_eq_ok.1 h
  rw [Record.field_of_stamp_of_ne h₅ (hi _ (by decide)),
    Record.field_of_stamp_of_ne h₄ (hi _ (by decide)),
    Record.field_of_stamp_of_ne h₃ (hi _ (by decide)),
    Record.field_of_stamp_of_ne h₂ (hi _ (by decide)),
    Record.field_of_stamp_of_ne h₁ (hi _ (by decide))]

/-- A record stamped as new has the identifier it had. -/
theorem id_of_stampNew (h : stampNew r now who = .ok r') : r'.id = r.id := by
  unfold Record.id
  split
  · next index hindex =>
    rw [field_of_stampNew h fun role hrole => Schema.roleIndex?_ne hindex hrole]
  · rfl

/-- A new record holds the first version. -/
theorem version_of_stampNew (h : stampNew r now who = .ok r')
    (hi : E.schema.roleIndex? .version = some i) :
    ∃ f w, E.fields[i]? = some f ∧ f.type.convert (.integer 1) = .ok w ∧ r'.field i = w := by
  obtain ⟨r₁, h₁, h⟩ := bind_eq_ok.1 h
  obtain ⟨r₂, h₂, h⟩ := bind_eq_ok.1 h
  obtain ⟨r₃, h₃, h⟩ := bind_eq_ok.1 h
  obtain ⟨r₄, h₄, h₅⟩ := bind_eq_ok.1 h
  have hother {role : Role} (hne : role ≠ .version) : E.schema.roleIndex? role ≠ some i :=
    Schema.roleIndex?_ne hi hne
  rw [Record.field_of_stamp_of_ne h₅ (hother (by decide)),
    Record.field_of_stamp_of_ne h₄ (hother (by decide)),
    Record.field_of_stamp_of_ne h₃ (hother (by decide)),
    Record.field_of_stamp_of_ne h₂ (hother (by decide))]
  exact Record.field_of_stamp h₁ hi

/-- The stamps of a change leave alone whatever a save does not stamp. -/
theorem field_of_stampChanged {version : Option Int} (h : stampChanged r version now who = .ok r')
    (hi : ∀ role : Role, role.isStampedOnSave = true → E.schema.roleIndex? role ≠ some i) :
    r'.field i = r.field i := by
  cases version with
  | none =>
    obtain ⟨r₁, h₁, h⟩ := bind_eq_ok.1 h
    obtain ⟨r₂, h₂, h₃⟩ := bind_eq_ok.1 h
    obtain rfl := Except.ok.inj h₁
    rw [Record.field_of_stamp_of_ne h₃ (hi _ rfl), Record.field_of_stamp_of_ne h₂ (hi _ rfl)]
  | some n =>
    obtain ⟨r₁, h₁, h⟩ := bind_eq_ok.1 h
    obtain ⟨r₂, h₂, h₃⟩ := bind_eq_ok.1 h
    rw [Record.field_of_stamp_of_ne h₃ (hi _ rfl), Record.field_of_stamp_of_ne h₂ (hi _ rfl),
      Record.field_of_stamp_of_ne h₁ (hi _ rfl)]

/-- A changed record holds the version it was stamped with. -/
theorem version_of_stampChanged {n : Int} (h : stampChanged r (some n) now who = .ok r')
    (hi : E.schema.roleIndex? .version = some i) :
    ∃ f w, E.fields[i]? = some f ∧ f.type.convert (.integer n) = .ok w ∧ r'.field i = w := by
  obtain ⟨r₁, h₁, h⟩ := bind_eq_ok.1 h
  obtain ⟨r₂, h₂, h₃⟩ := bind_eq_ok.1 h
  have hother {role : Role} (hne : role ≠ .version) : E.schema.roleIndex? role ≠ some i :=
    Schema.roleIndex?_ne hi hne
  rw [Record.field_of_stamp_of_ne h₃ (hother (by decide)),
    Record.field_of_stamp_of_ne h₂ (hother (by decide))]
  exact Record.field_of_stamp h₁ hi

end Session

/-! ## What a save leaves alone -/

section
variable {E : EntityType}

theorem Session.isWritable_of_contains_writtenFields {stored proposed : Record E} {i : Nat}
    (h : (Session.writtenFields stored proposed).contains i = true) :
    E.schema.isWritable i = true := by
  rw [Session.writtenFields, FieldMask.contains_retain, Bool.and_eq_true] at h
  exact h.2

/-- A record that agrees with another one on the fields that no save writes is a record of the same
identifier. -/
theorem Record.id_eq_of_not_writable {r r' : Record E}
    (h : ∀ i, E.schema.isWritable i = false → r'.field i = r.field i) : r'.id = r.id := by
  unfold id
  split
  · next i hi =>
    have hrole := Schema.roleAt?_of_roleIndex? hi
    have hunwritable : E.schema.isWritable i = false := by
      obtain ⟨field, hfield, hrole⟩ := Option.bind_eq_some_iff.1 hrole
      rw [Schema.isWritable, hfield]
      dsimp only
      rw [hrole]
      rfl
    rw [h i hunwritable]
  · rfl

/-- A row in which a save overwrites fields stays one of a record of the same identifier. -/
theorem Record.id_of_overwrite {key : RowKey} {old row : Row} {stored proposed r r' : Record E}
    (hrow : Store.overwrite key old
      ((Session.writtenFields stored proposed).indices.map fun i => (i, proposed.field i)) =
        .ok row)
    (h : Record.ofRow E old = .ok r) (h' : Record.ofRow E row = .ok r') : r'.id = r.id := by
  refine id_eq_of_not_writable fun i hi => field_eq_of_ofRow h' h ?_
  refine Store.getElem?_overwrite hrow fun v hv => ?_
  obtain ⟨j, hj, hjv⟩ := List.mem_map.1 hv
  obtain rfl : j = i := congrArg Prod.fst hjv
  rw [Session.isWritable_of_contains_writtenFields (FieldMask.mem_indices.1 hj)] at hi
  cases hi

end

end RecordEngine
