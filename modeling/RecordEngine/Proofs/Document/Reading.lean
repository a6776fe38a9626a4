import Mathlib.Tactic.Common
import RecordEngine.Document.Reader
/-!
Documents are read back from their text.

Writing says nothing about where a text ends; the reader finds the end by itself. So every part is
shown to be read back with any remainder behind it, and what the remainder may be is settled once: a
number has to end, which `EndsNumber` says, and everything else closes itself. `ReadsBack` carries
this from a document to the arrays and objects that hold it, and the fuel that the reader needs goes
down with the text.

The escapes of a quoted text are the other half. The reader takes a text apart into pieces before it
puts characters together, and a control character comes back as a number there, which stands for a
character only if it is no half of a pair (`joinUnits_unitOf`).
-/

set_option autoImplicit false

namespace RecordEngine

namespace Document

/-! ## Quoted texts -/

/-- The piece as which the escaped form of a character is read. -/
def unitOf (c : Char) : TextUnit :=
  if c.toNat < 0x20 ∧ c ∉ ['\x08', '\x0c', '\n', '\r', '\t'] then .code c.toNat else .char c

theorem isSurrogate_eq_false {u : Nat} (h : u < 0x20) :
    (isHighSurrogate u || isLowSurrogate u) = false := by
  simp only [isHighSurrogate, isLowSurrogate, Bool.or_eq_false_iff, Bool.and_eq_false_iff,
    decide_eq_false_iff_not]
  omega

/-- A number that is no half of a character stands for itself, whatever comes after it. -/
theorem joinUnits_code {u : Nat} (h : (isHighSurrogate u || isLowSurrogate u) = false)
    (units : List TextUnit) :
    joinUnits (.code u :: units) = (joinUnits units).map (Char.ofNat u :: ·) := by
  obtain ⟨hhigh, hlow⟩ := Bool.or_eq_false_iff.1 h
  cases units with
  | nil => simp [joinUnits, h]
  | cons unit rest =>
    cases unit with
    | char c =>
      simp only [joinUnits, h, Bool.false_eq_true, if_false, Option.map_map]
      rfl
    | code v =>
      simp only [joinUnits, hhigh, hlow, Bool.false_and, Bool.or_false, Bool.false_eq_true,
        if_false]

theorem joinUnits_unitOf (cs : List Char) : joinUnits (cs.map unitOf) = some cs := by
  induction cs with
  | nil => rfl
  | cons c cs ih =>
    rw [List.map_cons, unitOf]
    split
    · next hc =>
      rw [joinUnits_code (isSurrogate_eq_false hc.1), ih, Option.map_some, Char.ofNat_toNat]
    · rw [joinUnits, ih, Option.map_some]

/-- Two digits are enough for a control character. -/
theorem hexUnit?_hexDigit {n : Nat} (h : n < 0x20) :
    hexUnit? '0' '0' (hexDigit (n / 16)) (hexDigit n) = some n := by
  have hall : ∀ n < 0x20, hexUnit? '0' '0' (hexDigit (n / 16)) (hexDigit n) = some n := by decide
  exact hall n h

/-- Each character is read back from its escaped form. Those with an escape of one letter are told
apart first; of the others, the control characters are escaped by their number. -/
theorem readUnits_escaped (c : Char) (s : List Char) :
    readUnits (escaped c ++ s) = (readUnits s).map fun (units, r) => (unitOf c :: units, r) := by
  by_cases hletter : c ∈ ['"', '\\', '\x08', '\x0c', '\n', '\r', '\t']
  · simp only [List.mem_cons, List.not_mem_nil, or_false] at hletter
    rcases hletter with rfl | rfl | rfl | rfl | rfl | rfl | rfl <;> rfl
  · simp only [List.mem_cons, List.not_mem_nil, or_false, not_or] at hletter
    obtain ⟨hquote, hslash, hback, hfeed, hline, hreturn, htab⟩ := hletter
    simp only [escaped, hquote, hslash, hback, hfeed, hline, hreturn, htab, if_false]
    by_cases hcontrol : c.toNat < 0x20
    · have hunit : unitOf c = .code c.toNat := by
        rw [unitOf, if_pos ⟨hcontrol, by simp [hback, hfeed, hline, hreturn, htab]⟩]
      rw [if_pos hcontrol, hunit]
      simp only [List.cons_append, List.nil_append, readUnits, hexUnit?_hexDigit hcontrol]
    · have hunit : unitOf c = .char c := by rw [unitOf, if_neg fun h => hcontrol h.1]
      rw [if_neg hcontrol, hunit, List.cons_append, List.nil_append, readUnits]
      · simp [hcontrol, hslash]
      -- The equations before the last one ask for a quote or a backslash in front.
      · exact hquote
      · exact fun _ _ _ _ _ h _ => hslash h
      · exact fun _ _ h _ => hslash h

theorem readUnits_flatMap (cs rest : List Char) :
    readUnits (cs.flatMap escaped ++ '"' :: rest) = some (cs.map unitOf, rest) := by
  induction cs with
  | nil => rfl
  | cons c cs ih =>
    rw [List.flatMap_cons, List.append_assoc, readUnits_escaped, ih]
    rfl

/-- **Quoted texts are read back**, whatever characters they have. -/
theorem readQuoted_flatMap (cs rest : List Char) :
    readQuoted (cs.flatMap escaped ++ '"' :: rest) = some (some cs, rest) := by
  rw [readQuoted, readUnits_flatMap, Option.map_some]
  exact congrArg (fun content => some (content, rest)) (joinUnits_unitOf cs)

/-! ## Whole numbers -/

/-- What may stand behind a number without becoming part of it. -/
def EndsNumber (rest : List Char) : Prop :=
  ∀ c ∈ rest.head?, c.isDigit = false ∧ c ≠ '.' ∧ c ≠ 'e' ∧ c ≠ 'E'

theorem isDigit_of_mem {n : Nat} {c : Char} (h : c ∈ Nat.toDigits 10 n) : c.isDigit = true :=
  Nat.isDigit_of_mem_toDigits (by decide) (by decide) h

theorem exists_toDigits_eq_cons (n : Nat) :
    ∃ c cs, Nat.toDigits 10 n = c :: cs ∧ c.isDigit = true := by
  obtain ⟨c, cs, hcs⟩ := List.exists_cons_of_ne_nil (Nat.toDigits_ne_nil (n := n) (b := 10))
  exact ⟨c, cs, hcs, isDigit_of_mem (hcs ▸ List.mem_cons_self)⟩

/-- A number in decimal has no zero in front. -/
theorem eq_zero_of_head?_toDigits {n : Nat} (h : (Nat.toDigits 10 n).head? = some '0') :
    n = 0 := by
  induction n using Nat.strongRecOn with
  | ind n ih =>
    rcases Nat.lt_or_ge n 10 with hn | hn
    · rw [Nat.toDigits_of_lt_base hn] at h
      have hall : ∀ n < 10, [n.digitChar].head? = some '0' → n = 0 := by decide
      exact hall n hn h
    · -- The number without its last digit begins as the whole one does.
      obtain ⟨c, cs, hcs, -⟩ := exists_toDigits_eq_cons (n / 10)
      rw [Nat.toDigits_of_base_le (by decide) hn, hcs] at h
      have := ih (n / 10) (by omega) (by rw [hcs]; exact h)
      omega

theorem le_ofDigitChars (cs : List Char) (n : Nat) : n ≤ Nat.ofDigitChars 10 cs n := by
  induction cs generalizing n with
  | nil => exact Nat.le_refl n
  | cons c cs ih =>
    rw [Nat.ofDigitChars_cons]
    exact Nat.le_trans (by omega) (ih _)

/-- As long as there is room for the whole number, no digit is dropped. -/
theorem wholePart_eq (cs : List Char) {n : Nat} (h : Nat.ofDigitChars 10 cs n < significandBound) :
    wholePart n cs = (Nat.ofDigitChars 10 cs n, 0) := by
  induction cs generalizing n with
  | nil => rfl
  | cons c cs ih =>
    have hnext : n * 10 + digitValue c = 10 * n + (c.toNat - '0'.toNat) := by
      rw [digitValue, Nat.mul_comm]
    rw [Nat.ofDigitChars_cons] at h ⊢
    -- Digits only make a number greater, so a prefix has room where the whole has.
    have hroom := Nat.lt_of_le_of_lt (le_ofDigitChars cs _) h
    rw [wholePart, hnext]
    simp only [hroom, if_true]
    exact ih h

theorem readNumberEnd_of_ends (negative : Bool) (whole : List Char) {rest : List Char}
    (h : EndsNumber rest) :
    readNumberEnd negative whole rest = some (ofNumeral negative whole none none, rest) := by
  cases rest with
  | nil => rfl
  | cons c rest =>
    obtain ⟨-, hpoint, he, hE⟩ := h c rfl
    simp [readNumberEnd, hpoint, he, hE]

/-- The digits of a number are read up to their end. -/
theorem readNumber_toDigits (negative : Bool) (n : Nat) {rest : List Char} (h : EndsNumber rest) :
    readNumber negative (Nat.toDigits 10 n ++ rest) =
      some (ofNumeral negative (Nat.toDigits 10 n) none none, rest) := by
  have hdigits : ∀ c ∈ Nat.toDigits 10 n, c.isDigit = true := fun c => isDigit_of_mem
  have hend : rest.takeWhile Char.isDigit = [] ∧ rest.dropWhile Char.isDigit = rest := by
    cases rest with
    | nil => exact ⟨rfl, rfl⟩
    | cons c rest =>
      have hc : ¬ c.isDigit = true := by simp [(h c rfl).1]
      exact ⟨List.takeWhile_cons_of_neg hc, List.dropWhile_cons_of_neg hc⟩
  have hempty : (Nat.toDigits 10 n).isEmpty = false :=
    List.isEmpty_eq_false_iff.2 Nat.toDigits_ne_nil
  have hzero : (Nat.toDigits 10 n).head? = some '0' → (Nat.toDigits 10 n).length = 1 := by
    intro h
    rw [eq_zero_of_head?_toDigits h]
    rfl
  rw [readNumber, List.takeWhile_append_of_pos hdigits, List.dropWhile_append_of_pos hdigits,
    hend.1, hend.2, List.append_nil, if_neg (by simpa [hempty] using hzero),
    readNumberEnd_of_ends _ _ h]

theorem wholePart_toDigits {n : Nat} (h : n < significandBound) :
    wholePart 0 (Nat.toDigits 10 n) = (n, 0) := by
  have hwhole := wholePart_eq (Nat.toDigits 10 n) (n := 0)
  rw [Nat.ofDigitChars_ten_toDigits] at hwhole
  exact hwhole h

theorem ofNumeral_natural {n : Nat} (h : n < significandBound) :
    ofNumeral false (Nat.toDigits 10 n) none none = .integer n := by
  simp only [ofNumeral, wholePart_toDigits h]
  simp

theorem ofNumeral_negative {n : Nat} (hpos : n ≠ 0) (h : n ≤ Nat.pow 2 63) :
    ofNumeral true (Nat.toDigits 10 n) none none = .integer (-n) := by
  have hbound : n < significandBound := Nat.lt_of_le_of_lt h (by decide)
  simp only [ofNumeral, wholePart_toDigits hbound]
  simp [hpos, h]

/-! ## Values -/

theorem skipBlanks_cons {c : Char} (h : isBlank c = false) (s : List Char) :
    skipBlanks (c :: s) = c :: s := List.dropWhile_cons_of_neg (by simp [h])

/-- A document is read from its text, whatever comes after it that could not belong to a number. The
text is fuel enough, and it begins with something that neither is a blank nor closes an array. -/
structure ReadsBack (d : Document) : Prop where
  starts : ∃ c cs, d.chars = c :: cs ∧ isBlank c = false ∧ c ≠ ']'
  reads : ∀ fuel rest, d.chars.length ≤ fuel → EndsNumber rest →
    readValue fuel (d.chars ++ rest) = some (d, rest)

theorem endsNumber_nil : EndsNumber [] := fun _ h => by cases h

theorem endsNumber_of_mark {c : Char} (h : c ∈ [',', ']', '\x7d']) (rest : List Char) :
    EndsNumber (c :: rest) := by
  intro x hx
  obtain rfl := Option.some.inj hx
  simp only [List.mem_cons, List.not_mem_nil, or_false] at h
  rcases h with rfl | rfl | rfl <;> decide

theorem readsBack_null : ReadsBack .null where
  starts := ⟨'n', _, rfl, by decide, by decide⟩
  reads fuel rest hfuel _ := by
    obtain ⟨fuel, rfl⟩ := Nat.exists_eq_add_of_lt hfuel
    rfl

theorem readsBack_boolean (b : Bool) : ReadsBack (.boolean b) where
  starts := by cases b <;> exact ⟨_, _, rfl, by decide, by decide⟩
  reads fuel rest hfuel _ := by
    cases b
    all_goals
      obtain ⟨fuel, rfl⟩ := Nat.exists_eq_add_of_lt hfuel
      rfl

theorem isBlank_of_isDigit {c : Char} (h : c.isDigit = true) : isBlank c = false := by
  simp only [isBlank, Bool.or_eq_false_iff, beq_eq_false_iff_ne]
  refine ⟨⟨⟨?_, ?_⟩, ?_⟩, ?_⟩ <;> exact fun hc => by subst hc; cases h

/-- A value that begins with a digit is a number. -/
theorem readValue_of_isDigit {c : Char} (h : c.isDigit = true) (fuel : Nat) (s : List Char) :
    readValue (fuel + 1) (c :: s) = readNumber false (c :: s) := by
  simp only [readValue, skipBlanks_cons (isBlank_of_isDigit h)]
  -- Each of the other values begins with a character that is no digit.
  split
  all_goals try rfl
  all_goals
    next heq =>
      obtain rfl := (List.cons.inj heq).1
      cases h

theorem readsBack_integer {n : Int} (hlow : -(Nat.pow 2 63 : Nat) ≤ n) (hhigh : n < UInt64.size) :
    ReadsBack (.integer n) := by
  by_cases hneg : n < 0
  · have hchars : chars (.integer n) = '-' :: Nat.toDigits 10 n.natAbs := by
      rw [chars, integerChars, if_pos hneg]
    refine ⟨⟨'-', _, hchars, by decide, by decide⟩, fun fuel rest hfuel hrest => ?_⟩
    rw [hchars] at hfuel ⊢
    obtain ⟨fuel, rfl⟩ := Nat.exists_eq_add_of_lt hfuel
    show readNumber true (Nat.toDigits 10 n.natAbs ++ rest) = _
    have hinteger : -(n.natAbs : Int) = n := by omega
    rw [readNumber_toDigits true _ hrest, ofNumeral_negative (by omega) (by omega), hinteger]
  · have hchars : chars (.integer n) = Nat.toDigits 10 n.natAbs := by
      rw [chars, integerChars, if_neg hneg]
    obtain ⟨c, cs, hcs, hdigit⟩ := exists_toDigits_eq_cons n.natAbs
    have hopen : c ≠ ']' := fun hc => by subst hc; cases hdigit
    refine ⟨⟨c, cs, hchars.trans hcs, isBlank_of_isDigit hdigit, hopen⟩,
      fun fuel rest hfuel hrest => ?_⟩
    rw [hchars, hcs] at hfuel
    obtain ⟨fuel, rfl⟩ := Nat.exists_eq_add_of_lt hfuel
    have hinteger : (n.natAbs : Int) = n := by omega
    have hbound : n.natAbs < significandBound := by
      rw [significandBound]
      omega
    rw [hchars, hcs, List.cons_append, readValue_of_isDigit hdigit, ← List.cons_append, ← hcs,
      readNumber_toDigits false _ hrest, ofNumeral_natural hbound, hinteger]

theorem quoted_append (s : String) (rest : List Char) :
    quoted s ++ rest = '"' :: (s.toList.flatMap escaped ++ '"' :: rest) := by
  simp only [quoted, List.cons_append, List.append_assoc, List.nil_append]

theorem readsBack_text (s : String) : ReadsBack (.text s) where
  starts := ⟨'"', _, rfl, by decide, by decide⟩
  reads fuel rest hfuel _ := by
    obtain ⟨fuel, rfl⟩ := Nat.exists_eq_add_of_lt hfuel
    rw [chars, quoted_append, readValue, skipBlanks_cons (by decide)]
    simp only [readQuoted_flatMap, Option.map_some, String.ofList_toList]

/-! ### Arrays and objects -/

theorem itemChars_cons_cons (d e : Document) (items : List Document) :
    itemChars (d :: e :: items) = d.chars ++ ',' :: itemChars (e :: items) := by
  rw [itemChars]
  exact List.cons_ne_nil e items

theorem memberChars_cons_cons (m n : String × Document) (members : List (String × Document)) :
    memberChars (m :: n :: members) =
      quoted m.1 ++ ':' :: (m.2.chars ++ ',' :: memberChars (n :: members)) := by
  rw [memberChars]
  exact List.cons_ne_nil n members

/-- A value in front of a mark is read up to the mark. -/
theorem ReadsBack.before {d : Document} (h : d.ReadsBack) {c : Char} (hc : c ∈ [',', ']', '\x7d'])
    (fuel : Nat) (hfuel : d.chars.length ≤ fuel) (rest : List Char) :
    readValue fuel (d.chars ++ c :: rest) = some (d, c :: rest) ∧
      skipBlanks (c :: rest) = c :: rest := by
  refine ⟨h.reads fuel _ hfuel (endsNumber_of_mark hc rest), skipBlanks_cons ?_ rest⟩
  simp only [List.mem_cons, List.not_mem_nil, or_false] at hc
  rcases hc with rfl | rfl | rfl <;> rfl

/-- The items of an array are read one after another, the fuel falling with the text. -/
theorem readItems_itemChars {d : Document} {items : List Document}
    (h : ∀ item ∈ d :: items, ReadsBack item) (fuel : Nat) (rest : List Char)
    (hfuel : (itemChars (d :: items)).length ≤ fuel) :
    readItems fuel (itemChars (d :: items) ++ rest) = some (.array (d :: items), rest) := by
  induction items generalizing d fuel with
  | nil =>
    rw [itemChars, List.length_append, List.length_singleton] at hfuel
    obtain ⟨fuel, rfl⟩ := Nat.exists_eq_succ_of_ne_zero (n := fuel) (by omega)
    obtain ⟨hvalue, hmark⟩ := (h d List.mem_cons_self).before (c := ']') (by decide) fuel
      (by omega) rest
    rw [itemChars, List.append_assoc, readItems, List.cons_append, List.nil_append, hvalue]
    simp only [hmark]
  | cons e items ih =>
    rw [itemChars_cons_cons, List.length_append, List.length_cons] at hfuel
    obtain ⟨fuel, rfl⟩ := Nat.exists_eq_succ_of_ne_zero (n := fuel) (by omega)
    obtain ⟨hvalue, hmark⟩ := (h d List.mem_cons_self).before (c := ',') (by decide) fuel
      (by omega) (itemChars (e :: items) ++ rest)
    have hrest := ih (fun item hitem => h item (List.mem_cons_of_mem d hitem)) fuel (by omega)
    rw [itemChars_cons_cons, List.append_assoc, readItems, List.cons_append, hvalue]
    simp only [hmark, hrest]
    rfl

theorem readsBack_array {items : List Document} (h : ∀ d ∈ items, ReadsBack d) :
    ReadsBack (.array items) where
  starts := ⟨'[', _, rfl, by decide, by decide⟩
  reads fuel rest hfuel _ := by
    rw [chars, List.length_cons] at hfuel
    obtain ⟨fuel, rfl⟩ := Nat.exists_eq_add_of_lt hfuel
    rw [chars, List.cons_append, readValue, skipBlanks_cons (by decide)]
    cases items with
    | nil => rfl
    | cons d items =>
      -- The reader tells an empty array by its first character.
      have hitems := readItems_itemChars h _ rest (Nat.le_add_right _ fuel)
      obtain ⟨c, cs, hchars, hblank, hclose⟩ := (h d List.mem_cons_self).starts
      have hstart : ∃ cs', itemChars (d :: items) = c :: cs' := by
        cases items with
        | nil => exact ⟨_, by rw [itemChars, hchars, List.cons_append]⟩
        | cons e items => exact ⟨_, by rw [itemChars_cons_cons, hchars, List.cons_append]⟩
      obtain ⟨cs', hstart⟩ := hstart
      rw [hstart] at hitems ⊢
      simp only [List.cons_append, skipBlanks_cons hblank] at hitems ⊢
      split
      · next heq => exact absurd (List.cons.inj heq).1 hclose
      · exact hitems

/-- The members of an object are read one after another, each with its key in front. -/
theorem readMembers_memberChars {m : String × Document} {members : List (String × Document)}
    (h : ∀ n ∈ m :: members, ReadsBack n.2) (fuel : Nat) (rest : List Char)
    (hfuel : (memberChars (m :: members)).length ≤ fuel) :
    readMembers fuel (memberChars (m :: members) ++ rest) =
      some (.object (m :: members), rest) := by
  have hquote : isBlank '"' = false := by decide
  have hcolon : isBlank ':' = false := by decide
  induction members generalizing m fuel with
  | nil =>
    simp only [memberChars, List.length_append, List.length_cons] at hfuel
    obtain ⟨fuel, rfl⟩ := Nat.exists_eq_succ_of_ne_zero (n := fuel) (by omega)
    obtain ⟨hvalue, hmark⟩ := (h m List.mem_cons_self).before (c := '\x7d') (by decide) fuel
      (by omega) rest
    simp only [memberChars, List.append_assoc, List.cons_append, List.nil_append, quoted_append,
      readMembers, skipBlanks_cons hquote, readQuoted_flatMap, skipBlanks_cons hcolon, hvalue,
      hmark, consMember, String.ofList_toList]
  | cons n members ih =>
    simp only [memberChars_cons_cons, List.length_append, List.length_cons] at hfuel
    obtain ⟨fuel, rfl⟩ := Nat.exists_eq_succ_of_ne_zero (n := fuel) (by omega)
    obtain ⟨hvalue, hmark⟩ := (h m List.mem_cons_self).before (c := ',') (by decide) fuel
      (by omega) (memberChars (n :: members) ++ rest)
    have hrest := ih (fun n' hn' => h n' (List.mem_cons_of_mem m hn')) fuel (by omega)
    simp only [memberChars_cons_cons, List.append_assoc, List.cons_append, quoted_append,
      readMembers, skipBlanks_cons hquote, readQuoted_flatMap, skipBlanks_cons hcolon, hvalue,
      hmark, hrest, Option.map_some, consMember, String.ofList_toList]

theorem readsBack_object {members : List (String × Document)}
    (h : ∀ m ∈ members, ReadsBack m.2) : ReadsBack (.object members) where
  starts := ⟨'\x7b', _, rfl, by decide, by decide⟩
  reads fuel rest hfuel _ := by
    rw [chars, List.length_cons] at hfuel
    obtain ⟨fuel, rfl⟩ := Nat.exists_eq_add_of_lt hfuel
    rw [chars, List.cons_append, readValue, skipBlanks_cons (by decide)]
    cases members with
    | nil => rfl
    | cons m members =>
      have hmembers := readMembers_memberChars h _ rest (Nat.le_add_right _ fuel)
      have hstart : ∃ cs, memberChars (m :: members) = '"' :: cs := by
        cases members with
        | nil => exact ⟨_, by rw [memberChars, quoted_append]⟩
        | cons n members => exact ⟨_, by rw [memberChars_cons_cons, quoted_append]⟩
      obtain ⟨cs, hstart⟩ := hstart
      have hblank : isBlank '"' = false := by decide
      rw [hstart] at hmembers ⊢
      simp only [List.cons_append, skipBlanks_cons hblank] at hmembers ⊢
      exact hmembers

/-! ### Whole documents -/

/-- A document that its text determines: the numbers in it are whole numbers of 64 bits, and it has
no part that stands for no value. -/
inductive Plain : Document → Prop where
  | null : Plain .null
  | boolean (b : Bool) : Plain (.boolean b)
  | integer {n : Int} (hlow : -(Nat.pow 2 63 : Nat) ≤ n) (hhigh : n < UInt64.size) :
    Plain (.integer n)
  | text (s : String) : Plain (.text s)
  | array {items : List Document} (h : ∀ d ∈ items, Plain d) : Plain (.array items)
  | object {members : List (String × Document)} (h : ∀ m ∈ members, Plain m.2) :
    Plain (.object members)

theorem Plain.readsBack {d : Document} (h : d.Plain) : d.ReadsBack := by
  induction h with
  | null => exact readsBack_null
  | boolean b => exact readsBack_boolean b
  | integer hlow hhigh => exact readsBack_integer hlow hhigh
  | text s => exact readsBack_text s
  | array _ ih => exact readsBack_array ih
  | object _ ih => exact readsBack_object ih

/-- **A plain document is read back from its text.** -/
theorem read_print {d : Document} (h : d.Plain) : read d.print = some d := by
  have hread := h.readsBack.reads (d.chars.length + 1) [] (Nat.le_succ _) endsNumber_nil
  rw [List.append_nil] at hread
  simp only [read, print, String.toList_ofList, hread]
  rfl

end Document

end RecordEngine
