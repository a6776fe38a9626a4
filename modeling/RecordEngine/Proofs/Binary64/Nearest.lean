import Mathlib.Tactic.Ring
import RecordEngine.Binary64.Rounding
/-!
Whole numbers as doubles.

The conversion of a whole number is one division with a remainder, and its claim to be the best one
is about all doubles there are. Both can be said in whole numbers: every finite double is a whole
number of units of `2 ^ -1074`, the least positive one, so distances are compared without fractions.

The argument has two halves. Among the multiples of the last place the quotient, rounded, is a
nearest one and in a tie an even one (`roundHalfEven_nearest`, `roundHalfEven_tie`). And any other
double is either such a multiple or smaller than all of those with a full significand, and then it
is further away than the least of these (`magnitude_grid`). Rounding up to `2 ^ 53` carries into the
exponent, which is why `assemble` is read back for this significand too.
-/

set_option autoImplicit false

namespace RecordEngine

/-! ## The nearest multiple -/

theorem roundHalfEven_cases (num den : Nat) :
    roundHalfEven num den = num / den ∧
        (2 * (num % den) < den ∨ 2 * (num % den) = den ∧ num / den % 2 = 0) ∨
      roundHalfEven num den = num / den + 1 ∧
        (den < 2 * (num % den) ∨ 2 * (num % den) = den ∧ num / den % 2 = 1) := by
  unfold roundHalfEven
  dsimp only
  split <;> omega

/-- Where another multiple is, seen from the quotient. -/
theorem mul_cases (k q den : Nat) :
    k = q ∨ k = q + 1 ∨ k * den + den ≤ q * den ∨ q * den + 2 * den ≤ k * den := by
  by_cases hbelow : k < q
  · have h := Nat.mul_le_mul_right den (Nat.succ_le_of_lt hbelow)
    rw [Nat.succ_mul] at h
    omega
  · by_cases habove : q + 1 < k
    · have h := Nat.mul_le_mul_right den (Nat.succ_le_of_lt habove)
      rw [Nat.succ_mul, Nat.succ_mul] at h
      omega
    · omega

section
variable {num den : Nat} (hden : 0 < den)
include hden

/-- No multiple is nearer than the rounded quotient. -/
theorem roundHalfEven_nearest (k : Nat) :
    ((num : Int) - (roundHalfEven num den * den : Nat)).natAbs ≤
      ((num : Int) - (k * den : Nat)).natAbs := by
  have hdivision : num / den * den + num % den = num := Nat.div_add_mod' num den
  have hremainder : num % den < den := Nat.mod_lt num hden
  have hnext : (num / den + 1) * den = num / den * den + den := Nat.succ_mul _ _
  have hother := mul_cases k (num / den) den
  rcases roundHalfEven_cases num den with ⟨heq, hround⟩ | ⟨heq, hround⟩
  · rw [heq]
    rcases hother with rfl | rfl | hother | hother
    · exact Nat.le_refl _
    · rw [hnext]; omega
    · omega
    · omega
  · rw [heq, hnext]
    rcases hother with rfl | rfl | hother | hother
    · omega
    · rw [hnext]
    · omega
    · omega

/-- If another multiple is as near, the rounded quotient is even. -/
theorem roundHalfEven_tie {k : Nat} (hk : k ≠ roundHalfEven num den)
    (htie : ((num : Int) - (k * den : Nat)).natAbs =
      ((num : Int) - (roundHalfEven num den * den : Nat)).natAbs) :
    roundHalfEven num den % 2 = 0 := by
  have hdivision : num / den * den + num % den = num := Nat.div_add_mod' num den
  have hremainder : num % den < den := Nat.mod_lt num hden
  have hnext : (num / den + 1) * den = num / den * den + den := Nat.succ_mul _ _
  have hother := mul_cases k (num / den) den
  rcases roundHalfEven_cases num den with ⟨heq, hround⟩ | ⟨heq, hround⟩
  · rw [heq] at hk htie ⊢
    rcases hother with rfl | rfl | hother | hother
    · exact absurd rfl hk
    · rw [hnext] at htie; omega
    · omega
    · omega
  · rw [heq, hnext] at htie
    rw [heq] at hk ⊢
    rcases hother with rfl | rfl | hother | hother
    · omega
    · exact absurd rfl hk
    · omega
    · omega

end

namespace Binary64

/-! ## Finite numbers in units -/

/-- Neither an infinity nor a NaN. -/
def isFinite (x : Binary64) : Bool := x.exponentField != 2047

/-- The least positive number is `2 ^ -1074`. -/
def unitScale : Nat := 1074

/-- How many of the least positive number make one. -/
def unity : Nat := 2 ^ unitScale

/-- The magnitude of a finite number, in units of the least positive one. -/
def magnitude (x : Binary64) : Nat := x.significand * 2 ^ (x.exponent + 1074).toNat

/-- A finite number in these units. -/
def units (x : Binary64) : Int := if x.negative then -(x.magnitude : Int) else x.magnitude

/-- How far a finite number is from a whole number. -/
def distance (n : Int) (x : Binary64) : Nat := (n * unity - x.units).natAbs

/-- The double that a whole number is rounded to: no finite one is nearer, and if one of another
value is as near, the last digit is even. The sign is that of the number, and zero is positive. -/
structure IsNearest (n : Int) (x : Binary64) : Prop where
  finite : x.isFinite = true
  sign : x.negative = decide (n < 0)
  nearest : ∀ y : Binary64, y.isFinite = true → distance n x ≤ distance n y
  even : ∀ y : Binary64, y.isFinite = true → y.units ≠ x.units → distance n y = distance n x →
    x.fraction % 2 = 0

theorem exponent_toNat (x : Binary64) : (x.exponent + 1074).toNat = x.exponentField - 1 := by
  unfold exponent
  split <;> omega

theorem significand_lt (x : Binary64) : x.significand < 2 ^ 53 := by
  have hfraction : x.fraction < 2 ^ 52 := Nat.mod_lt _ (by decide)
  unfold significand
  rw [show exponentWeight = 2 ^ 52 from rfl]
  split <;> omega

/-- A magnitude is a multiple of a power of two, or less than any of its multiples that takes all
fifty-three digits. -/
theorem magnitude_grid (x : Binary64) (p : Nat) :
    (∃ k, x.magnitude = k * 2 ^ p) ∨ x.magnitude < 2 ^ 52 * 2 ^ p := by
  rw [magnitude, exponent_toNat]
  by_cases hp : p ≤ x.exponentField - 1
  · left
    refine ⟨x.significand * 2 ^ (x.exponentField - 1 - p), ?_⟩
    rw [Nat.mul_assoc, ← Nat.pow_add, Nat.sub_add_cancel hp]
  · right
    calc x.significand * 2 ^ (x.exponentField - 1)
        < 2 ^ 53 * 2 ^ (x.exponentField - 1) :=
          Nat.mul_lt_mul_of_pos_right x.significand_lt (Nat.two_pow_pos _)
      _ = 2 ^ (53 + (x.exponentField - 1)) := (Nat.pow_add ..).symm
      _ ≤ 2 ^ (52 + p) := Nat.pow_le_pow_right (by decide) (by omega)
      _ = 2 ^ 52 * 2 ^ p := Nat.pow_add ..

/-! ## Reading back what was assembled -/

section
variable (negative : Bool) {m p : Nat} (hm : 2 ^ 52 ≤ m) (hm' : m ≤ 2 ^ 53) (hp : p ≤ 2044)
include hm hm' hp

theorem word_assemble :
    (assemble negative m (p - 1074)).word =
      (if negative then 2 ^ 63 else 0) + (p * 2 ^ 52 + m) := by
  have hexponent : ((p : Int) - 1074 + 1074).toNat = p := by omega
  have hweight : exponentWeight = 2 ^ 52 := rfl
  have hsign : signWeight = 2 ^ 63 := rfl
  rw [assemble, hexponent, hweight, hsign, if_neg (by omega), word,
    UInt64.toNat_ofNat']
  apply Nat.mod_eq_of_lt
  split <;> omega

theorem fields_assemble :
    (assemble negative m (p - 1074)).negative = negative ∧
    (assemble negative m (p - 1074)).exponentField = (if m = 2 ^ 53 then p + 2 else p + 1) ∧
    (assemble negative m (p - 1074)).fraction = (if m = 2 ^ 53 then 0 else m - 2 ^ 52) := by
  have hword := word_assemble negative hm hm' hp
  rw [Binary64.negative, exponentField, fraction, hword, show exponentWeight = 2 ^ 52 from rfl,
    show exponentBound = 2048 from rfl, show signWeight = 2 ^ 63 from rfl]
  refine ⟨?_, ?_, ?_⟩
  · cases negative
    · simp only [Bool.false_eq_true, if_false, decide_eq_false_iff_not]
      omega
    · simp only [if_true, decide_eq_true_eq]
      omega
  · cases negative <;> simp only [Bool.false_eq_true, if_true, if_false] <;> split <;> omega
  · cases negative <;> simp only [Bool.false_eq_true, if_true, if_false] <;> split <;> omega

theorem isFinite_assemble : (assemble negative m (p - 1074)).isFinite = true := by
  obtain ⟨-, hexponent, -⟩ := fields_assemble negative hm hm' hp
  rw [isFinite, hexponent, bne_iff_ne]
  split <;> omega

/-- Rounded up to a power of two, the significand has gone over into the exponent. -/
theorem magnitude_assemble : (assemble negative m (p - 1074)).magnitude = m * 2 ^ p := by
  obtain ⟨-, hexponent, hfraction⟩ := fields_assemble negative hm hm' hp
  rw [magnitude, exponent_toNat, significand, hexponent, hfraction,
    show exponentWeight = 2 ^ 52 from rfl]
  by_cases hcarry : m = 2 ^ 53
  · rw [if_pos hcarry, if_pos hcarry, if_neg (by omega), hcarry, show p + 2 - 1 = p + 1 by omega,
      Nat.add_zero, Nat.pow_succ 2 p, Nat.mul_comm (2 ^ p), ← Nat.mul_assoc, ← Nat.pow_succ]
  · rw [if_neg hcarry, if_neg hcarry, if_neg (by omega), Nat.add_sub_cancel,
      Nat.add_sub_cancel' hm]

theorem even_assemble : (assemble negative m (p - 1074)).fraction % 2 = m % 2 := by
  obtain ⟨-, -, hfraction⟩ := fields_assemble negative hm hm' hp
  rw [hfraction]
  split <;> omega

end

/-! ## A whole number under its exponent -/

/-- A whole number other than zero as a fraction between `2 ^ 52` and `2 ^ 53`. -/
theorem scaleDown_log2 {N : Nat} (hN : N ≠ 0) :
    ∃ num den, scaleDown N 1 ((N.log2 : Int) - 52) = (num, den) ∧ 0 < den ∧
      2 ^ 52 * den ≤ num ∧ num < 2 ^ 53 * den ∧
      num * 2 ^ (N.log2 + 1022) = N * unity * den := by
  have hlow : 2 ^ N.log2 ≤ N := Nat.log2_self_le hN
  have hhigh : N < 2 ^ (N.log2 + 1) := Nat.lt_log2_self
  generalize N.log2 = L at hlow hhigh ⊢
  by_cases hL : 52 ≤ L
  · obtain ⟨e, rfl⟩ := Nat.exists_eq_add_of_le hL
    have hexponent : (((52 + e : Nat) : Int) - 52).toNat = e := by omega
    refine ⟨N, 2 ^ e, ?_, Nat.two_pow_pos e, ?_, ?_, ?_⟩
    · rw [scaleDown, if_pos (by omega), hexponent, Nat.one_mul]
      rfl
    · rw [← Nat.pow_add]
      exact hlow
    · rw [← Nat.pow_add, show 53 + e = 52 + e + 1 by omega]
      exact hhigh
    · rw [unity, Nat.mul_assoc, ← Nat.pow_add, show 52 + e + 1022 = unitScale + e by
        rw [unitScale]; omega]
  · obtain ⟨e, he⟩ := Nat.exists_eq_add_of_lt (Nat.lt_of_not_le hL)
    have hexponent : (-((L : Int) - 52)).toNat = e + 1 := by omega
    refine ⟨N * 2 ^ (e + 1), 1, ?_, Nat.one_pos, ?_, ?_, ?_⟩
    · rw [scaleDown, if_neg (by omega), hexponent]
      rfl
    · rw [Nat.mul_one, show 52 = L + (e + 1) by omega, Nat.pow_add]
      exact Nat.mul_le_mul_right _ hlow
    · rw [Nat.mul_one, show 53 = L + 1 + (e + 1) by omega, Nat.pow_add 2 (L + 1)]
      exact Nat.mul_lt_mul_of_pos_right hhigh (Nat.two_pow_pos _)
    · rw [unity, Nat.mul_one, Nat.mul_assoc, ← Nat.pow_add]
      rw [show e + 1 + (L + 1022) = unitScale by rw [unitScale]; omega]

theorem roundHalfEven_bounds {num den lower upper : Nat} (hden : 0 < den)
    (hlow : lower * den ≤ num) (hhigh : num < upper * den) :
    lower ≤ roundHalfEven num den ∧ roundHalfEven num den ≤ upper := by
  have hquotient : lower ≤ num / den := (Nat.le_div_iff_mul_le hden).2 hlow
  have hquotient' : num / den < upper := (Nat.div_lt_iff_lt_mul hden).2 hhigh
  rcases roundHalfEven_cases num den with ⟨heq, -⟩ | ⟨heq, -⟩ <;> omega

/-- The first guess of the exponent is right for a whole number. -/
theorem scaleOf_one {N : Nat} (hN : N ≠ 0) : scaleOf N 1 = (N.log2 : Int) - 52 := by
  obtain ⟨num, den, hscale, hden, hlow, -⟩ := scaleDown_log2 hN
  have hquotient : ¬num / den < exponentWeight :=
    Nat.not_lt.2 ((Nat.le_div_iff_mul_le hden).2 hlow)
  have hguess : (N.log2 : Int) - ((1 : Nat).log2 : Int) - 52 = (N.log2 : Int) - 52 := by
    rw [show (1 : Nat).log2 = 0 from rfl]
    omega
  rw [scaleOf, hguess, hscale]
  dsimp only
  rw [if_neg hquotient]
  omega

/-- The quotient from which a whole number is made a double. -/
theorem ofInt_eq {n : Int} (hn : n ≠ 0) :
    ∃ num den, 0 < den ∧ 2 ^ 52 * den ≤ num ∧ num < 2 ^ 53 * den ∧
      num * 2 ^ (n.natAbs.log2 + 1022) = n.natAbs * unity * den ∧
      ofInt n = assemble (n < 0) (roundHalfEven num den)
        (((n.natAbs.log2 + 1022 : Nat) : Int) - 1074) := by
  have hN : n.natAbs ≠ 0 := Int.natAbs_ne_zero.2 hn
  obtain ⟨num, den, hscale, hden, hlow, hhigh, hunits⟩ := scaleDown_log2 hN
  have hexponent : ((n.natAbs.log2 + 1022 : Nat) : Int) - 1074 = (n.natAbs.log2 : Int) - 52 := by
    omega
  refine ⟨num, den, hden, hlow, hhigh, hunits, ?_⟩
  rw [ofInt, roundRatio, if_neg hN, scaleOf_one hN, hexponent]
  dsimp only
  rw [hscale]

/-! ## Which magnitude is nearest -/

section
variable {units num den w : Nat} (hunits : num * w = units * den)
include hunits

/-- Distances in units and distances of the fraction are in a fixed proportion. -/
theorem distance_scaled (k : Nat) :
    ((units : Int) - (k * w : Nat)).natAbs * den = ((num : Int) - (k * den : Nat)).natAbs * w := by
  have hproduct : (num : Int) * w = units * den := by exact_mod_cast hunits
  have hsigned : ((units : Int) - (k * w : Nat)) * den = ((num : Int) - (k * den : Nat)) * w := by
    push_cast
    rw [Int.sub_mul, Int.sub_mul, hproduct]
    ring
  have habsolute := congrArg Int.natAbs hsigned
  rw [Int.natAbs_mul, Int.natAbs_mul, Int.natAbs_natCast, Int.natAbs_natCast] at habsolute
  exact habsolute

variable (hden : 0 < den)
include hden

theorem multiple_nearest (k : Nat) :
    ((units : Int) - (roundHalfEven num den * w : Nat)).natAbs ≤
      ((units : Int) - (k * w : Nat)).natAbs := by
  apply Nat.le_of_mul_le_mul_right _ hden
  rw [distance_scaled hunits, distance_scaled hunits]
  exact Nat.mul_le_mul_right w (roundHalfEven_nearest hden k)

theorem multiple_tie {k : Nat} (hw : 0 < w) (hk : k ≠ roundHalfEven num den)
    (htie : ((units : Int) - (k * w : Nat)).natAbs =
      ((units : Int) - (roundHalfEven num den * w : Nat)).natAbs) :
    roundHalfEven num den % 2 = 0 := by
  apply roundHalfEven_tie hden hk
  apply Nat.eq_of_mul_eq_mul_right hw
  rw [← distance_scaled hunits, ← distance_scaled hunits, htie]

end

section
variable {units num den p : Nat} (hunits : num * 2 ^ p = units * den) (hden : 0 < den)
  (hlow : 2 ^ 52 * den ≤ num) (y : Binary64)
include hunits hden hlow

/-- A magnitude off the grid is further away than the least of the grid with a full significand. -/
theorem magnitude_off_grid (hy : y.magnitude < 2 ^ 52 * 2 ^ p) :
    ((units : Int) - (roundHalfEven num den * 2 ^ p : Nat)).natAbs <
      ((units : Int) - y.magnitude).natAbs := by
  have hleast : 2 ^ 52 * 2 ^ p ≤ units := by
    apply Nat.le_of_mul_le_mul_right _ hden
    calc 2 ^ 52 * 2 ^ p * den = 2 ^ 52 * den * 2 ^ p := Nat.mul_right_comm ..
      _ ≤ num * 2 ^ p := Nat.mul_le_mul_right _ hlow
      _ = units * den := hunits
  have hnearest := multiple_nearest hunits hden (2 ^ 52)
  omega

theorem magnitude_nearest :
    ((units : Int) - (roundHalfEven num den * 2 ^ p : Nat)).natAbs ≤
      ((units : Int) - y.magnitude).natAbs := by
  rcases y.magnitude_grid p with ⟨k, hk⟩ | hsmall
  · rw [hk]
    exact multiple_nearest hunits hden k
  · exact Nat.le_of_lt (magnitude_off_grid hunits hden hlow y hsmall)

theorem magnitude_tie (hy : y.magnitude ≠ roundHalfEven num den * 2 ^ p)
    (htie : ((units : Int) - y.magnitude).natAbs =
      ((units : Int) - (roundHalfEven num den * 2 ^ p : Nat)).natAbs) :
    roundHalfEven num den % 2 = 0 := by
  rcases y.magnitude_grid p with ⟨k, hk⟩ | hsmall
  · rw [hk] at hy htie
    apply multiple_tie hunits hden (Nat.two_pow_pos p) _ htie
    intro hsame
    exact hy (hsame ▸ rfl)
  · have hstrict := magnitude_off_grid hunits hden hlow y hsmall
    omega

end

/-! ## The sign -/

section
variable {n : Int} {x : Binary64}

theorem distance_of_sign (hsign : x.negative = decide (n < 0)) :
    distance n x = (((n.natAbs * unity : Nat) : Int) - x.magnitude).natAbs := by
  rw [distance, units, hsign, Int.natCast_mul]
  by_cases hn : n < 0
  · rw [decide_eq_true hn, if_pos rfl, Int.ofNat_natAbs_of_nonpos (Int.le_of_lt hn),
      ← Int.natAbs_neg]
    apply congrArg
    ring
  · rw [decide_eq_false hn, if_neg Bool.false_ne_true, Int.natAbs_of_nonneg (Int.not_lt.1 hn)]

/-- On the other side of zero the magnitudes add up. -/
theorem distance_of_other_sign (hsign : x.negative ≠ decide (n < 0)) :
    distance n x = n.natAbs * unity + x.magnitude := by
  rw [distance, units, Bool.eq_not.2 hsign]
  apply Int.ofNat.inj
  show ((n * unity - _ : Int).natAbs : Int) = ((n.natAbs * unity + x.magnitude : Nat) : Int)
  have hmagnitude : (0 : Int) ≤ x.magnitude := Int.natCast_nonneg _
  by_cases hn : n < 0
  · have hproduct : n * unity ≤ 0 :=
      Int.mul_nonpos_of_nonpos_of_nonneg (Int.le_of_lt hn) (Int.natCast_nonneg _)
    rw [decide_eq_true hn, Bool.not_true, if_neg Bool.false_ne_true,
      Int.ofNat_natAbs_of_nonpos (by omega), Int.natCast_add, Int.natCast_mul,
      Int.ofNat_natAbs_of_nonpos (Int.le_of_lt hn)]
    ring
  · have hproduct : 0 ≤ n * unity := Int.mul_nonneg (Int.not_lt.1 hn) (Int.natCast_nonneg _)
    rw [decide_eq_false hn, Bool.not_false, if_pos rfl, Int.natAbs_of_nonneg (by omega),
      Int.natCast_add, Int.natCast_mul, Int.natAbs_of_nonneg (Int.not_lt.1 hn)]
    ring

end

theorem units_zero : (zero false).units = 0 := by decide

/-- A whole number becomes the nearest double; halfway between two, the one that is even. -/
theorem ofInt_isNearest {n : Int} {e : Nat} (hn : n.natAbs < 2 ^ e) (he : e ≤ 1023) :
    IsNearest n (ofInt n) := by
  by_cases hzero : n = 0
  · subst hzero
    have hdistance : distance 0 (zero false) = 0 := by
      rw [distance, units_zero, Int.zero_mul]
      rfl
    rw [show ofInt 0 = zero false from rfl]
    refine ⟨rfl, rfl, fun y _ => ?_, fun _ _ _ _ => rfl⟩
    rw [hdistance]
    exact Nat.zero_le _
  obtain ⟨num, den, hden, hlow, hhigh, hunits, hofInt⟩ := ofInt_eq hzero
  obtain ⟨hm, hm'⟩ := roundHalfEven_bounds hden hlow hhigh
  have hp : n.natAbs.log2 + 1022 ≤ 2044 := by
    have := (Nat.log2_lt (Int.natAbs_ne_zero.2 hzero)).2 hn
    omega
  have hsign : (ofInt n).negative = decide (n < 0) := by
    rw [hofInt]
    exact (fields_assemble _ hm hm' hp).1
  have hmagnitude : (ofInt n).magnitude =
      roundHalfEven num den * 2 ^ (n.natAbs.log2 + 1022) := by
    rw [hofInt]
    exact magnitude_assemble _ hm hm' hp
  have hdistance := distance_of_sign hsign
  rw [hmagnitude] at hdistance
  -- Seen from the other side of zero the best one is zero, which is the empty multiple.
  have horigin := multiple_nearest hunits hden 0
  rw [Nat.zero_mul] at horigin
  refine ⟨?_, hsign, fun y _ => ?_, fun y _ hunits' htie => ?_⟩
  · rw [hofInt]
    exact isFinite_assemble _ hm hm' hp
  · rw [hdistance]
    by_cases hy : y.negative = decide (n < 0)
    · rw [distance_of_sign hy]
      exact magnitude_nearest hunits hden hlow y
    · rw [distance_of_other_sign hy]
      omega
  · rw [hdistance] at htie
    rw [hofInt, even_assemble _ hm hm' hp]
    by_cases hy : y.negative = decide (n < 0)
    · rw [distance_of_sign hy] at htie
      apply magnitude_tie hunits hden hlow y _ htie
      intro hsame
      apply hunits'
      rw [units, units, hy, hsign, hsame, hmagnitude]
    · rw [distance_of_other_sign hy] at htie
      apply multiple_tie hunits hden (k := 0) (Nat.two_pow_pos _) (by omega)
      rw [Nat.zero_mul]
      omega

end Binary64

end RecordEngine
