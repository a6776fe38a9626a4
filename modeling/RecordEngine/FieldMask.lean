import RecordEngine.Record
/-!
Sets of fields of one entity type, packed sixty-four to a word.

A mask has as many flags as the type has fields. Its words are just as many as the flags need, and
no bit past the last flag is ever set; with both in the type, a mask is its set of flags and
equality, emptiness and size can be read off the words. Every operation comes with the equation
for `contains`.
-/

set_option autoImplicit false

namespace RecordEngine

/-- The bit at a position of a list of words, the first word holding the lowest positions. -/
def bitAt (words : List (BitVec 64)) (i : Nat) : Bool := (words.getD (i / 64) 0).getLsbD (i % 64)

/-- How many words hold this many bits. -/
def wordsFor (len : Nat) : Nat := (len + 63) / 64

/-- A set of field positions below `len`. -/
structure FieldMask where
  len : Nat
  words : List (BitVec 64)
  words_length : words.length = wordsFor len
  tidy : ∀ i, len ≤ i → bitAt words i = false
  deriving DecidableEq

theorem bitAt_replicate (n i : Nat) : bitAt (List.replicate n 0) i = false := by
  simp only [bitAt, List.getD_eq_getElem?_getD, List.getElem?_replicate]
  split <;> simp

theorem bitAt_modify (words : List (BitVec 64)) (i j : Nat) (f : BitVec 64 → BitVec 64) :
    bitAt (words.modify (i / 64) f) j =
      if i / 64 = j / 64 ∧ j / 64 < words.length then
        (f (words.getD (j / 64) 0)).getLsbD (j % 64)
      else bitAt words j := by
  simp only [bitAt, List.getD_eq_getElem?_getD, List.getElem?_modify]
  by_cases hij : i / 64 = j / 64
  · by_cases hj : j / 64 < words.length
    · simp [hij, hj]
    · simp [hij, hj]
  · simp [hij]

theorem eq_of_div_eq_of_mod_eq {i j : Nat} (hd : i / 64 = j / 64) (hm : i % 64 = j % 64) :
    i = j := by
  rw [← Nat.div_add_mod i 64, ← Nat.div_add_mod j 64, hd, hm]

theorem div_lt_wordsFor {len i : Nat} (h : i < len) : i / 64 < wordsFor len := by
  unfold wordsFor; omega

/-- Setting one bit. -/
theorem bitAt_modify_or (words : List (BitVec 64)) (i j : Nat) (hi : i / 64 < words.length) :
    bitAt (words.modify (i / 64) (· ||| BitVec.twoPow 64 (i % 64))) j =
      (bitAt words j || i == j) := by
  rw [bitAt_modify]
  by_cases hij : i / 64 = j / 64
  · rw [if_pos ⟨hij, hij ▸ hi⟩, BitVec.getLsbD_or, BitVec.getLsbD_twoPow, bitAt]
    by_cases hm : i % 64 = j % 64
    · simp [eq_of_div_eq_of_mod_eq hij hm, Nat.mod_lt]
    · simp [hm, show i ≠ j from fun h => hm (h ▸ rfl)]
  · rw [if_neg (by simp [hij])]
    simp [show i ≠ j from fun h => hij (h ▸ rfl)]

/-- Clearing one bit. -/
theorem bitAt_modify_and (words : List (BitVec 64)) (i j : Nat) (hi : i / 64 < words.length) :
    bitAt (words.modify (i / 64) (· &&& ~~~ BitVec.twoPow 64 (i % 64))) j =
      (bitAt words j && i != j) := by
  rw [bitAt_modify]
  by_cases hij : i / 64 = j / 64
  · rw [if_pos ⟨hij, hij ▸ hi⟩, BitVec.getLsbD_and, BitVec.getLsbD_not, BitVec.getLsbD_twoPow,
      bitAt]
    by_cases hm : i % 64 = j % 64
    · simp [eq_of_div_eq_of_mod_eq hij hm, Nat.mod_lt]
    · simp [hm, show i ≠ j from fun h => hm (h ▸ rfl), Nat.mod_lt]
  · rw [if_neg (by simp [hij])]
    simp [show i ≠ j from fun h => hij (h ▸ rfl)]

/-- The words of two lists joined position by position, as many as asked for. -/
def joinWords (op : BitVec 64 → BitVec 64 → BitVec 64) (count : Nat)
    (a b : List (BitVec 64)) : List (BitVec 64) :=
  (List.range count).map fun slot => op (a.getD slot 0) (b.getD slot 0)

theorem bitAt_joinWords (op : BitVec 64 → BitVec 64 → BitVec 64) (bit : Bool → Bool → Bool)
    (hop : ∀ x y k, k < 64 → (op x y).getLsbD k = bit (x.getLsbD k) (y.getLsbD k))
    (count : Nat) (a b : List (BitVec 64)) (i : Nat) :
    bitAt (joinWords op count a b) i =
      (decide (i / 64 < count) && bit (bitAt a i) (bitAt b i)) := by
  simp only [bitAt, joinWords, List.getD_eq_getElem?_getD, List.getElem?_map]
  by_cases hi : i / 64 < count
  · simp [hi, hop _ _ _ (Nat.mod_lt i (by decide : 0 < 64))]
  · simp [hi]

namespace FieldMask

/-- Whether a position is in the set. -/
def contains (m : FieldMask) (i : Nat) : Bool := decide (i < m.len) && bitAt m.words i

theorem contains_eq_bitAt (m : FieldMask) (i : Nat) : m.contains i = bitAt m.words i := by
  by_cases h : i < m.len
  · simp [contains, h]
  · simp [contains, h, m.tidy i (by omega)]

/-- The set without a member. -/
def empty (len : Nat) : FieldMask where
  len
  words := List.replicate (wordsFor len) 0
  words_length := by simp
  tidy i _ := bitAt_replicate _ i

/-- The mask of no fields at all. -/
instance : Inhabited FieldMask where
  default :=
    { len := 0
      words := []
      words_length := rfl
      tidy := fun _ _ => by simp [bitAt] }

@[simp] theorem len_empty (len : Nat) : (empty len).len = len := rfl

@[simp] theorem contains_empty (len i : Nat) : (empty len).contains i = false := by
  rw [contains_eq_bitAt]
  exact bitAt_replicate _ i

/-- The set with one more member; positions past the end are no fields. -/
def set (m : FieldMask) (i : Nat) : FieldMask :=
  if h : i < m.len then
    { len := m.len
      words := m.words.modify (i / 64) (· ||| BitVec.twoPow 64 (i % 64))
      words_length := by rw [List.length_modify, m.words_length]
      tidy := fun j hj => by
        rw [bitAt_modify_or _ _ _ (by rw [m.words_length]; exact div_lt_wordsFor h), m.tidy j hj]
        simp only [Bool.false_or, beq_eq_false_iff_ne]
        omega }
  else m

@[simp] theorem len_set (m : FieldMask) (i : Nat) : (m.set i).len = m.len := by
  unfold set
  split <;> rfl

theorem contains_set (m : FieldMask) (i j : Nat) :
    (m.set i).contains j = (m.contains j || (decide (i < m.len) && i == j)) := by
  by_cases h : i < m.len
  · have hi : i / 64 < m.words.length := by
      rw [m.words_length]
      exact div_lt_wordsFor h
    rw [contains_eq_bitAt, contains_eq_bitAt, set, dif_pos h]
    simp [bitAt_modify_or _ _ _ hi, h]
  · simp [set, h]

/-- The set without one position. -/
def clear (m : FieldMask) (i : Nat) : FieldMask :=
  if h : i < m.len then
    { len := m.len
      words := m.words.modify (i / 64) (· &&& ~~~ BitVec.twoPow 64 (i % 64))
      words_length := by rw [List.length_modify, m.words_length]
      tidy := fun j hj => by
        rw [bitAt_modify_and _ _ _ (by rw [m.words_length]; exact div_lt_wordsFor h), m.tidy j hj]
        rfl }
  else m

@[simp] theorem len_clear (m : FieldMask) (i : Nat) : (m.clear i).len = m.len := by
  unfold clear
  split <;> rfl

theorem contains_clear (m : FieldMask) (i j : Nat) :
    (m.clear i).contains j = (m.contains j && i != j) := by
  by_cases h : i < m.len
  · have hi : i / 64 < m.words.length := by
      rw [m.words_length]
      exact div_lt_wordsFor h
    rw [contains_eq_bitAt, contains_eq_bitAt, clear, dif_pos h]
    exact bitAt_modify_and _ _ _ hi
  · rw [clear, dif_neg h]
    by_cases hij : i = j
    · subst hij
      simp [contains, h]
    · simp [hij]

/-- The members of either set. -/
def union (a b : FieldMask) : FieldMask where
  len := max a.len b.len
  words := joinWords (· ||| ·) (wordsFor (max a.len b.len)) a.words b.words
  words_length := by simp [joinWords]
  tidy i hi := by
    rw [bitAt_joinWords _ (· || ·) (fun x y k _ => by simp)]
    simp [a.tidy i (Nat.max_le.1 hi).1, b.tidy i (Nat.max_le.1 hi).2]

theorem contains_union (a b : FieldMask) (i : Nat) :
    (a.union b).contains i = (a.contains i || b.contains i) := by
  rw [contains, contains_eq_bitAt a, contains_eq_bitAt b]
  simp only [union]
  rw [bitAt_joinWords _ (· || ·) (fun x y k _ => by simp)]
  by_cases h : i < max a.len b.len
  · simp [h, div_lt_wordsFor h]
  · have h := Nat.le_of_not_lt h
    simp [a.tidy i (Nat.max_le.1 h).1, b.tidy i (Nat.max_le.1 h).2]

/-- The members of both sets. -/
def intersect (a b : FieldMask) : FieldMask where
  len := max a.len b.len
  words := joinWords (· &&& ·) (wordsFor (max a.len b.len)) a.words b.words
  words_length := by simp [joinWords]
  tidy i hi := by
    rw [bitAt_joinWords _ (· && ·) (fun x y k _ => by simp)]
    simp [a.tidy i (Nat.max_le.1 hi).1]

theorem contains_intersect (a b : FieldMask) (i : Nat) :
    (a.intersect b).contains i = (a.contains i && b.contains i) := by
  rw [contains, contains_eq_bitAt a, contains_eq_bitAt b]
  simp only [intersect]
  rw [bitAt_joinWords _ (· && ·) (fun x y k _ => by simp)]
  by_cases h : i < max a.len b.len
  · simp [h, div_lt_wordsFor h]
  · have h := Nat.le_of_not_lt h
    simp [a.tidy i (Nat.max_le.1 h).1]

/-- The set of the given positions, those past the end left out. -/
def ofIndices (len : Nat) (indices : List Nat) : FieldMask := indices.foldl set (empty len)

theorem len_foldl_set (indices : List Nat) (m : FieldMask) :
    (indices.foldl set m).len = m.len := by
  induction indices generalizing m with
  | nil => rfl
  | cons i rest ih => rw [List.foldl_cons, ih, len_set]

theorem contains_foldl_set (indices : List Nat) (m : FieldMask) (j : Nat) :
    (indices.foldl set m).contains j =
      (m.contains j || (decide (j < m.len) && decide (j ∈ indices))) := by
  induction indices generalizing m with
  | nil => simp
  | cons i rest ih =>
    rw [List.foldl_cons, ih, contains_set, len_set, Bool.eq_iff_iff]
    simp only [Bool.or_eq_true, Bool.and_eq_true, decide_eq_true_eq, beq_iff_eq, List.mem_cons]
    grind

@[simp] theorem len_ofIndices (len : Nat) (indices : List Nat) :
    (ofIndices len indices).len = len := len_foldl_set indices (empty len)

theorem contains_ofIndices (len : Nat) (indices : List Nat) (j : Nat) :
    (ofIndices len indices).contains j = (decide (j < len) && decide (j ∈ indices)) := by
  rw [ofIndices, contains_foldl_set, contains_empty, Bool.false_or, len_empty]

/-- The set of all positions. -/
def full (len : Nat) : FieldMask := ofIndices len (List.range len)

theorem contains_full (len j : Nat) : (full len).contains j = decide (j < len) := by
  rw [full, contains_ofIndices, Bool.eq_iff_iff]
  simp

/-- Whether the set has no member. -/
def isEmpty (m : FieldMask) : Bool := m.words.all (· == 0)

/-- The number of bits set in a word. -/
def bitCount (w : BitVec 64) : Nat := (List.range 64).countP fun i => w.getLsbD i

/-- The number of members. -/
def count (m : FieldMask) : Nat := m.words.foldr (fun w n => bitCount w + n) 0

/-- The members, ascending. -/
def indices (m : FieldMask) : List Nat := (List.range m.len).filter m.contains

theorem mem_indices {m : FieldMask} {i : Nat} : i ∈ m.indices ↔ m.contains i = true := by
  simp only [indices, List.mem_filter, List.mem_range, and_iff_right_iff_imp]
  intro h
  simp only [contains, Bool.and_eq_true, decide_eq_true_eq] at h
  exact h.1

/-- The set without the members that `keep` rejects. -/
def retain (m : FieldMask) (keep : Nat → Bool) : FieldMask :=
  (List.range m.len).foldl (fun m i => if m.contains i && !keep i then m.clear i else m) m

/-- Clearing the rejected members among some positions. -/
theorem contains_foldl_clear (keep : Nat → Bool) (indices : List Nat) (m : FieldMask) (j : Nat) :
    (indices.foldl (fun m i => if m.contains i && !keep i then m.clear i else m) m).contains j =
      (m.contains j && (keep j || !decide (j ∈ indices))) := by
  induction indices generalizing m with
  | nil => simp
  | cons i rest ih =>
    have step : (if m.contains i && !keep i then m.clear i else m).contains j =
        (m.contains j && (keep j || j != i)) := by
      split
      · rename_i h
        rw [contains_clear]
        by_cases hij : i = j
        · subst hij
          simp_all
        · simp [bne_iff_ne.2 hij, bne_iff_ne.2 (Ne.symm hij)]
      · by_cases hij : j = i
        · subst hij
          cases hm : m.contains j <;> simp_all
        · simp [bne_iff_ne.2 hij]
    rw [List.foldl_cons, ih, step, Bool.eq_iff_iff]
    simp only [Bool.and_eq_true, Bool.or_eq_true, bne_iff_ne, Bool.not_eq_true',
      decide_eq_false_iff_not, List.mem_cons]
    grind

theorem contains_retain (m : FieldMask) (keep : Nat → Bool) (j : Nat) :
    (m.retain keep).contains j = (m.contains j && keep j) := by
  rw [retain, contains_foldl_clear, Bool.eq_iff_iff]
  simp only [Bool.and_eq_true, Bool.or_eq_true, Bool.not_eq_true', decide_eq_false_iff_not,
    List.mem_range, contains, decide_eq_true_eq]
  grind

theorem len_retain (m : FieldMask) (keep : Nat → Bool) : (m.retain keep).len = m.len := by
  have hfold (indices : List Nat) (m : FieldMask) :
      (indices.foldl (fun m i => if m.contains i && !keep i then m.clear i else m) m).len =
        m.len := by
    induction indices generalizing m with
    | nil => rfl
    | cons i rest ih =>
      rw [List.foldl_cons, ih]
      split
      · exact m.len_clear i
      · rfl
  exact hfold _ m

/-- The fields of the given names, each of which the schema must have. -/
def ofNames (schema : Schema) (names : List String) : Except Failure FieldMask :=
  names.foldlM (fun mask name =>
    match schema.fieldIndex? name with
    | some index => .ok (mask.set index)
    | none => .error (.validation ("Entity '" ++ schema.name ++ "' has no field '" ++ name ++ "'")))
    (empty schema.fieldCount)

/-- The fields on which two records disagree. -/
def diff {E : EntityType} (a b : Record E) : FieldMask :=
  ofIndices E.schema.fieldCount <|
    (List.range E.schema.fieldCount).filter fun i => !(a.field i).agrees (b.field i)

/-- The names of the members in declaration order. -/
def fieldsSet (m : FieldMask) (schema : Schema) : List String :=
  m.indices.filterMap schema.fieldName?

end FieldMask

end RecordEngine
