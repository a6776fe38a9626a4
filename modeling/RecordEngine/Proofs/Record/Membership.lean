import Mathlib.Data.Finset.Sort
import RecordEngine.Proofs.Record.Fields
/-!
Masks as finite sets.

What a mask says of single positions the equations for `contains` tell, operation by operation; what
is left are the readings that look at the words as a whole. They count bits, compare words and look
for one that is not zero, and all of that is about the set only because no bit past the last field
is ever set and there are just as many words as the fields need. With both, the sum of the bit
counts is the number of members (`count_eq_card`), and masks of one length with the same members are
the same words (`ext_contains`).

`Built` says which set a mask stands for after any sequence of operations, with the operations of
finite sets beside those of masks.
-/

set_option autoImplicit false

namespace RecordEngine

namespace FieldMask

variable {m a b : FieldMask}

/-- The members of a mask, as a set. -/
def members (m : FieldMask) : Finset Nat := (Finset.range m.len).filter (m.contains · = true)

@[simp] theorem mem_members {i : Nat} : i ∈ m.members ↔ m.contains i = true := by
  rw [members, Finset.mem_filter, Finset.mem_range, and_iff_right_iff_imp]
  exact lt_of_contains

/-! ## Reading words -/

theorem bitAt_cons_of_lt (w : BitVec 64) (rest : List (BitVec 64)) {i : Nat} (h : i < 64) :
    bitAt (w :: rest) i = w.getLsbD i := by
  rw [bitAt, Nat.div_eq_of_lt h, Nat.mod_eq_of_lt h]
  rfl

theorem bitAt_cons_add (w : BitVec 64) (rest : List (BitVec 64)) (i : Nat) :
    bitAt (w :: rest) (64 + i) = bitAt rest i := by
  rw [bitAt, bitAt, show (64 + i) / 64 = i / 64 + 1 by omega, Nat.add_mod_left]
  rfl

/-- Bits are counted word by word. -/
theorem countP_bitAt (words : List (BitVec 64)) :
    (List.range (64 * words.length)).countP (bitAt words) =
      words.foldr (fun w n => bitCount w + n) 0 := by
  induction words with
  | nil => rfl
  | cons w rest ih =>
    have hfirst : (List.range 64).countP (bitAt (w :: rest)) = bitCount w :=
      List.countP_congr fun i hi => by rw [bitAt_cons_of_lt w rest (List.mem_range.1 hi)]
    have hrest : ((List.range (64 * rest.length)).map (64 + ·)).countP (bitAt (w :: rest)) =
        (List.range (64 * rest.length)).countP (bitAt rest) := by
      rw [List.countP_map]
      exact List.countP_congr fun i _ => by rw [Function.comp, bitAt_cons_add]
    rw [List.length_cons, Nat.mul_succ, Nat.add_comm, List.range_add, List.countP_append, hfirst,
      hrest, ih, List.foldr_cons]

/-- The bits past the last field do not count. -/
theorem count_eq_length_indices (m : FieldMask) : m.count = m.indices.length := by
  obtain ⟨spare, hspare⟩ : ∃ spare, 64 * m.words.length = m.len + spare := by
    refine Nat.exists_eq_add_of_le ?_
    rw [m.words_length, wordsFor]
    omega
  have hnone : ((List.range spare).map (m.len + ·)).countP (bitAt m.words) = 0 := by
    refine List.countP_eq_zero.2 fun i hi => ?_
    obtain ⟨j, -, rfl⟩ := List.mem_map.1 hi
    rw [m.tidy _ (Nat.le_add_right _ _)]
    exact Bool.false_ne_true
  rw [count, ← countP_bitAt, hspare, List.range_add, List.countP_append, hnone, Nat.add_zero,
    indices, ← List.countP_eq_length_filter]
  exact List.countP_congr fun i _ => by rw [contains_eq_bitAt]

/-- The members are listed in ascending order, each once. -/
theorem indices_eq_sort (m : FieldMask) : m.indices = m.members.sort := by
  have hascending : m.indices.Pairwise (· < ·) := List.pairwise_lt_range.filter _
  have hmembers : m.indices.toFinset = m.members := by
    ext i
    rw [List.mem_toFinset, mem_indices, mem_members]
  rw [← hmembers, (List.toFinset_sort (· ≤ ·) (hascending.imp Nat.ne_of_lt)).2
    (hascending.imp Nat.le_of_lt)]

theorem count_eq_card (m : FieldMask) : m.count = m.members.card := by
  rw [count_eq_length_indices, indices_eq_sort, Finset.length_sort]

theorem isEmpty_iff_members : m.isEmpty = true ↔ m.members = ∅ := by
  rw [isEmpty_iff, Finset.eq_empty_iff_forall_notMem]
  simp only [mem_members, Bool.not_eq_true]

/-- A mask is its length and its members. -/
theorem ext_contains (hlen : a.len = b.len) (h : ∀ i, a.contains i = b.contains i) : a = b := by
  obtain ⟨len, words, hwords, htidy⟩ := a
  obtain ⟨len', words', hwords', htidy'⟩ := b
  obtain rfl : len = len' := hlen
  obtain rfl : words = words' := by
    refine List.ext_getElem (hwords.trans hwords'.symm) fun slot hslot hslot' => ?_
    refine BitVec.eq_of_getLsbD_eq fun k hk => ?_
    have hbit := h (64 * slot + k)
    rw [contains_eq_bitAt, contains_eq_bitAt, bitAt_slot _ _ hk, bitAt_slot _ _ hk] at hbit
    simpa [hslot, hslot'] using hbit
  rfl

theorem eq_iff_members : a = b ↔ a.len = b.len ∧ a.members = b.members := by
  refine ⟨fun h => h ▸ ⟨rfl, rfl⟩, fun ⟨hlen, hmembers⟩ => ext_contains hlen fun i => ?_⟩
  rw [Bool.eq_iff_iff, ← mem_members, ← mem_members, hmembers]

/-! ## Building masks -/

/-- The set with the field of one more name, which the schema must have. -/
def setNamed (schema : Schema) (m : FieldMask) (name : String) : Except Failure FieldMask :=
  match schema.fieldIndex? name with
  | some index => .ok (m.set index)
  | none => .error (.validation ("Entity '" ++ schema.name ++ "' has no field '" ++ name ++ "'"))

theorem ofNames_eq (schema : Schema) (names : List String) :
    ofNames schema names = names.foldlM (setNamed schema) (empty schema.fieldCount) := rfl

theorem contains_foldlM_setNamed {schema : Schema} {names : List String} {start : FieldMask}
    (hstart : start.len = schema.fieldCount)
    (h : names.foldlM (setNamed schema) start = .ok m) :
    m.len = schema.fieldCount ∧ ∀ i, m.contains i = true ↔
      start.contains i = true ∨ ∃ name ∈ names, schema.fieldIndex? name = some i := by
  induction names generalizing start with
  | nil =>
    obtain rfl : start = m := Except.ok.inj h
    exact ⟨hstart, fun i => by simp⟩
  | cons name rest ih =>
    rw [List.foldlM_cons, setNamed] at h
    cases hname : schema.fieldIndex? name with
    | none =>
      rw [hname] at h
      cases h
    | some index =>
      rw [hname] at h
      have hindex : index < start.len := by
        rw [hstart]
        exact (List.findIdx?_eq_some_iff_getElem.1 hname).1
      obtain ⟨hlen, hmembers⟩ := ih ((len_set start index).trans hstart) h
      refine ⟨hlen, fun i => ?_⟩
      rw [hmembers, contains_set, decide_eq_true hindex]
      simp [hname, or_assoc]

/-- The fields found by name. -/
theorem contains_ofNames {schema : Schema} {names : List String}
    (h : ofNames schema names = .ok m) :
    m.len = schema.fieldCount ∧
      ∀ i, m.contains i = true ↔ ∃ name ∈ names, schema.fieldIndex? name = some i := by
  rw [ofNames_eq] at h
  obtain ⟨hlen, hmembers⟩ := contains_foldlM_setNamed (len_empty _) h
  exact ⟨hlen, fun i => by rw [hmembers, contains_empty]; simp⟩

/-- A mask that was built by some sequence of operations, with the number of fields and the set that
the same operations come to on finite sets of positions below that number. What is kept of a mask is
asked of each member once, so the answers are a function of the position. -/
inductive Built : FieldMask → Nat → Finset Nat → Prop where
  | default : Built Inhabited.default 0 ∅
  | empty (n : Nat) : Built (.empty n) n ∅
  | full (n : Nat) : Built (.full n) n (.range n)
  | ofIndices (n : Nat) (indices : List Nat) :
    Built (.ofIndices n indices) n (indices.toFinset.filter (· < n))
  | ofNames {schema : Schema} {names : List String} {m : FieldMask}
    (h : FieldMask.ofNames schema names = .ok m) :
    Built m schema.fieldCount ((Finset.range schema.fieldCount).filter fun i =>
      ∃ name ∈ names, schema.fieldIndex? name = some i)
  | diff {E : EntityType} (a b : Record E) :
    Built (.diff a b) E.schema.fieldCount ((Finset.range E.schema.fieldCount).filter fun i =>
      (a.field i).agrees (b.field i) = false)
  | set {m : FieldMask} {n : Nat} {S : Finset Nat} (h : Built m n S) (i : Nat) :
    Built (m.set i) n (if i < n then insert i S else S)
  | clear {m : FieldMask} {n : Nat} {S : Finset Nat} (h : Built m n S) (i : Nat) :
    Built (m.clear i) n (S.erase i)
  | retain {m : FieldMask} {n : Nat} {S : Finset Nat} (h : Built m n S) (keep : Nat → Bool) :
    Built (m.retain keep) n (S.filter (keep · = true))
  | union {a b : FieldMask} {n : Nat} {S T : Finset Nat} (h : Built a n S) (h' : Built b n T) :
    Built (a.union b) n (S ∪ T)
  | intersect {a b : FieldMask} {n : Nat} {S T : Finset Nat} (h : Built a n S)
    (h' : Built b n T) : Built (a.intersect b) n (S ∩ T)

/-- Every operation on masks is the operation on sets. -/
theorem Built.len_members {n : Nat} {S : Finset Nat} (h : Built m n S) :
    m.len = n ∧ m.members = S := by
  suffices hall : m.len = n ∧ ∀ i, m.contains i = true ↔ i ∈ S from
    ⟨hall.1, Finset.ext fun i => mem_members.trans (hall.2 i)⟩
  induction h with
  | default => exact ⟨rfl, fun i => by simp [contains, Inhabited.default]⟩
  | empty n => exact ⟨rfl, fun i => by simp⟩
  | full n => exact ⟨len_ofIndices _ _, fun i => by simp [contains_full]⟩
  | ofIndices n indices =>
    exact ⟨len_ofIndices _ _, fun i => by simp [contains_ofIndices, and_comm]⟩
  | @ofNames schema names m h =>
    obtain ⟨hlen, hmembers⟩ := contains_ofNames h
    refine ⟨hlen, fun i => ?_⟩
    rw [hmembers, Finset.mem_filter, Finset.mem_range, iff_and_self]
    rintro ⟨name, -, hname⟩
    exact (List.findIdx?_eq_some_iff_getElem.1 hname).1
  | @diff E a b =>
    refine ⟨(len_diff a b).trans E.fieldCount_schema.symm, fun i => ?_⟩
    rw [contains_diff, E.fieldCount_schema]
    simp
  | @set m n S _ i ih =>
    obtain ⟨hlen, hmembers⟩ := ih
    refine ⟨(len_set m i).trans hlen, fun j => ?_⟩
    rw [contains_set, hlen, Bool.or_eq_true, hmembers]
    by_cases hi : i < n
    · rw [decide_eq_true hi, Bool.true_and, beq_iff_eq, if_pos hi, Finset.mem_insert, or_comm,
        eq_comm]
    · rw [decide_eq_false hi, Bool.false_and, if_neg hi, or_iff_left Bool.false_ne_true]
  | @clear m n S _ i ih =>
    obtain ⟨hlen, hmembers⟩ := ih
    refine ⟨(len_clear m i).trans hlen, fun j => ?_⟩
    rw [contains_clear, Bool.and_eq_true, hmembers, bne_iff_ne, Finset.mem_erase, and_comm, ne_comm]
  | @retain m n S _ keep ih =>
    obtain ⟨hlen, hmembers⟩ := ih
    refine ⟨(len_retain m keep).trans hlen, fun j => ?_⟩
    rw [contains_retain, Bool.and_eq_true, hmembers, Finset.mem_filter]
  | @union a b n S T _ _ ih ih' =>
    obtain ⟨hlen, hmembers⟩ := ih
    obtain ⟨hlen', hmembers'⟩ := ih'
    refine ⟨?_, fun i => ?_⟩
    · change max a.len b.len = n
      rw [hlen, hlen', Nat.max_self]
    · rw [contains_union, Bool.or_eq_true, hmembers, hmembers', Finset.mem_union]
  | @intersect a b n S T _ _ ih ih' =>
    obtain ⟨hlen, hmembers⟩ := ih
    obtain ⟨hlen', hmembers'⟩ := ih'
    refine ⟨?_, fun i => ?_⟩
    · change max a.len b.len = n
      rw [hlen, hlen', Nat.max_self]
    · rw [contains_intersect, Bool.and_eq_true, hmembers, hmembers', Finset.mem_inter]

/-- **A mask is a finite set of fields.** Whatever operations built two masks, each contains just
the positions of the set that these operations come to, which are positions of fields; it lists them
in ascending order, counts them and is empty just if there are none. And the two are equal just if
they have the same number of fields and the same set. -/
theorem built_exact {n k : Nat} {S T : Finset Nat} (ha : Built a n S) (hb : Built b k T) :
    a.len = n ∧ (∀ i ∈ S, i < n) ∧ (∀ i, a.contains i = true ↔ i ∈ S) ∧ a.indices = S.sort ∧
      a.count = S.card ∧ (a.isEmpty = true ↔ S = ∅) ∧ ((a == b) = true ↔ n = k ∧ S = T) := by
  obtain ⟨rfl, rfl⟩ := ha.len_members
  obtain ⟨rfl, rfl⟩ := hb.len_members
  refine ⟨rfl, fun i hi => lt_of_contains (mem_members.1 hi), fun i => mem_members.symm,
    indices_eq_sort a, count_eq_card a, isEmpty_iff_members, ?_⟩
  rw [beq_iff_eq, eq_iff_members]

/-- Three fields of a hundred and thirty, each in a word of its own, come to in two ways; positions
past the last field are asked for on both. -/
theorem built_exact_scattered :
    let kept := ((FieldMask.full 130).retain (· % 64 == 1)).set 200
    let joined := (FieldMask.ofIndices 130 [129, 1, 500]).union (((empty 130).set 65).clear 2)
    kept.words.length = 3 ∧ kept.indices = ({1, 65, 129} : Finset Nat).sort ∧ kept.count = 3 ∧
      (kept.contains 129 = true ∧ kept.contains 200 = false) ∧ kept.isEmpty = false ∧
      (kept == joined) = true := by
  intro kept joined
  have hkept : Built kept 130 {1, 65, 129} := by
    have hbuilt := ((Built.full 130).retain (· % 64 == 1)).set 200
    have hset : (if 200 < 130 then
          insert 200 ((Finset.range 130).filter fun i => (i % 64 == 1) = true)
        else (Finset.range 130).filter fun i => (i % 64 == 1) = true) = {1, 65, 129} := by
      decide +kernel
    rwa [hset] at hbuilt
  have hjoined : Built joined 130 {1, 65, 129} := by
    have hbuilt := (Built.ofIndices 130 [129, 1, 500]).union (((Built.empty 130).set 65).clear 2)
    have hset : ([129, 1, 500].toFinset.filter (· < 130)) ∪
        ((if 65 < 130 then insert 65 (∅ : Finset Nat) else ∅).erase 2) = {1, 65, 129} := by
      decide +kernel
    rwa [hset] at hbuilt
  obtain ⟨hlen, -, hmembers, hindices, hcount, hempty, hequal⟩ := built_exact hkept hjoined
  refine ⟨by rw [kept.words_length, hlen]; rfl, hindices, hcount,
    ⟨(hmembers 129).2 (by decide), ?_⟩, ?_, hequal.2 ⟨rfl, rfl⟩⟩
  · exact Bool.eq_false_iff.2 fun h => absurd ((hmembers 200).1 h) (by decide)
  · exact Bool.eq_false_iff.2 fun h => absurd (hempty.1 h) (by decide)

end FieldMask

end RecordEngine
