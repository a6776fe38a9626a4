import RecordEngine.Proofs.Record.Fields
/-!
What a hash is fed.

Agreement is an equivalence, and what a hash is fed of a value should be a function of its class, or
values that agree are not found under one another. For most values agreement is identity and there
is nothing to show. All NaNs agree, and one pattern of bits is fed for all of them; the two zeros
agree too, but of a zero its own bits are fed, and there the sign shows.

`hashKey_eq_iff` says that this is all there is to it: the same is fed for two values just if they
agree and are not the two zeros.
-/

set_option autoImplicit false

namespace RecordEngine

namespace Binary64

variable {x y : Binary64}

theorem isNaN_nan : nan.isNaN = true := by decide

theorem word_lt (x : Binary64) : x.word < 2 * signWeight := x.bits.toNat_lt

theorem bits_inj : x.bits = y.bits ↔ x = y := by
  obtain ⟨x⟩ := x
  obtain ⟨y⟩ := y
  exact mk.injEq x y ▸ Iff.rfl

theorem word_inj : x.word = y.word ↔ x = y := UInt64.toNat_inj.trans bits_inj

/-- A zero has no bit set but that of the sign. -/
theorem isZero_iff : x.isZero = true ↔ x = zero false ∨ x = zero true := by
  have hweight : signWeight = 2 ^ 63 := rfl
  have hpositive : (zero false).word = 0 := rfl
  have hnegative : (zero true).word = 2 ^ 63 := rfl
  have hlt : x.word < 2 * signWeight := x.word_lt
  rw [hweight] at hlt
  rw [← word_inj, ← word_inj, hpositive, hnegative, isZero, beq_iff_eq, hweight]
  omega

theorem isNaN_of_isZero (h : x.isZero = true) : x.isNaN = false := by
  rcases isZero_iff.1 h with rfl | rfl <;> decide

/-- NaNs agree, a number agrees with itself, and so do the zeros. -/
theorem agrees_iff :
    x.agrees y = true ↔
      x.isNaN = true ∧ y.isNaN = true ∨ x = y ∨ x.isZero = true ∧ y.isZero = true := by
  simp only [agrees, numericEq, Bool.or_eq_true, Bool.and_eq_true, Bool.not_eq_true', beq_iff_eq,
    bits_inj]
  constructor
  · rintro (hnan | ⟨-, heq | hzeros⟩)
    · exact .inl hnan
    · exact .inr (.inl heq)
    · exact .inr (.inr hzeros)
  · rintro (hnan | rfl | hzeros)
    · exact .inl hnan
    · by_cases hx : x.isNaN = true
      · exact .inl ⟨hx, hx⟩
      · rw [Bool.not_eq_true] at hx
        exact .inr ⟨⟨hx, hx⟩, .inl rfl⟩
    · exact .inr ⟨⟨isNaN_of_isZero hzeros.1, isNaN_of_isZero hzeros.2⟩, .inr hzeros⟩

/-- Apart from the NaNs, which share a pattern that is itself one of a NaN, the bits are fed. -/
theorem hashKey_eq_iff :
    x.hashKey = y.hashKey ↔ x.isNaN = true ∧ y.isNaN = true ∨ x = y := by
  have hpattern : ∀ z : Binary64, z.bits = nan.bits → z.isNaN = true := by
    intro z hz
    rw [bits_inj.1 hz]
    exact isNaN_nan
  rw [hashKey, hashKey]
  by_cases hx : x.isNaN = true
  · by_cases hy : y.isNaN = true
    · simp [hx, hy]
    · rw [if_pos hx, if_neg hy]
      constructor
      · intro h
        exact absurd (hpattern y h.symm) hy
      · rintro (⟨-, hy'⟩ | rfl)
        · exact absurd hy' hy
        · exact absurd hx hy
  · by_cases hy : y.isNaN = true
    · rw [if_neg hx, if_pos hy]
      constructor
      · intro h
        exact absurd (hpattern x h) hx
      · rintro (⟨hx', -⟩ | rfl)
        · exact absurd hx' hx
        · exact absurd hy hx
    · rw [if_neg hx, if_neg hy, bits_inj]
      simp [hx]

end Binary64

namespace Value

variable {u v : Value}

/-- The two zeros in floating point, in either order. -/
inductive OppositeZeros : Value → Value → Prop where
  | positive : OppositeZeros (.float (.zero false)) (.float (.zero true))
  | negative : OppositeZeros (.float (.zero true)) (.float (.zero false))

/-- Zeros that are not one and the same are the two there are. -/
theorem oppositeZeros_iff {x y : Binary64} :
    OppositeZeros (.float x) (.float y) ↔ x.isZero = true ∧ y.isZero = true ∧ x ≠ y := by
  constructor
  · intro h
    cases h <;> decide
  · rintro ⟨hx, hy, hne⟩
    rcases Binary64.isZero_iff.1 hx with rfl | rfl <;>
      rcases Binary64.isZero_iff.1 hy with rfl | rfl
    · exact absurd rfl hne
    · exact .positive
    · exact .negative
    · exact absurd rfl hne

theorem agrees_equivalence : Equivalence fun u v : Value => u.agrees v = true where
  refl := agrees_refl
  symm := fun {u v} h => (v.agrees_comm u).trans h
  trans := agrees_trans

/-- What a hash is fed tells values apart that do not agree, and the two zeros. -/
theorem hashKey_eq_iff : u.hashKey = v.hashKey ↔ u.agrees v = true ∧ ¬ OppositeZeros u v := by
  by_cases hfloat : ∃ x y, u = .float x ∧ v = .float y
  · obtain ⟨x, y, rfl, rfl⟩ := hfloat
    have hzero : x.isZero = true → x.isNaN = false := Binary64.isNaN_of_isZero
    rw [hashKey, hashKey, HashKey.float.injEq, Binary64.hashKey_eq_iff, oppositeZeros_iff, agrees,
      Binary64.agrees_iff]
    grind
  · -- Of all other values, those agree that are the same.
    have hnonzero : ¬ OppositeZeros u v := by
      intro h
      cases h <;> exact hfloat ⟨_, _, rfl, rfl⟩
    rw [and_iff_left hnonzero]
    cases u <;> cases v <;> simp_all [hashKey, agrees]

/-- **Values that agree are fed to a hash alike, except for the two zeros.** Agreement is an
equivalence over all kinds of values. The same is fed to a hash for two values just if they agree
and are not the zeros of either sign, so that of all values that agree only those are told apart. -/
theorem agreement_hashed_but_zeros (u v : Value) :
    (Equivalence fun u v : Value => u.agrees v = true) ∧
      (u.hashKey = v.hashKey ↔ u.agrees v = true ∧ ¬ OppositeZeros u v) :=
  ⟨agrees_equivalence, hashKey_eq_iff⟩

/-- The zeros of either sign agree, but what a hash is fed for them differs. -/
theorem zeros_hashed_apart :
    (Value.float (.zero false)).agrees (.float (.zero true)) = true ∧
      (Value.float (.zero false)).hashKey ≠ (Value.float (.zero true)).hashKey := by decide

/-- NaNs of any payload and either sign are fed alike. -/
example :
    (Value.float ⟨0xfff8000000000001⟩).hashKey = (Value.float ⟨0x7ff0000000000001⟩).hashKey := by
  decide

end Value

end RecordEngine
