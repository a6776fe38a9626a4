import RecordEngine.Declaration.Name
import RecordEngine.Declaration.Token
import Mathlib.Data.List.Basic
import Mathlib.Data.List.TakeWhile
import Mathlib.Tactic.Common
/-!
Names made from names, and what is left of a name in them.

Which characters a constant begins with and goes on with is a matter of the tables: the capital of
every letter is a letter, but what only goes on with a name has no capital, and then the constant
begins with it. On names of words in small letters between single underscores the two forms are
inverse to each other, so that such names have different constants. Of other names they lose
something.
-/

set_option autoImplicit false

namespace RecordEngine

namespace Text

/-! ## Counterparts -/

/-- No character vanishes when its case is changed. -/
theorem counterpart_ne_nil {texts : List (Nat × List Nat)} {runs : List CaseRun} {c : Char}
    (h : ∀ entry ∈ texts, entry.2 ≠ []) : counterpart texts runs c ≠ [] := by
  unfold counterpart
  split
  · rename_i codes hcodes
    obtain ⟨before, after, rfl, -⟩ := List.lookup_eq_some_iff.1 hcodes
    have hentry := h (c.toNat, codes) (by simp)
    simpa using hentry
  · split <;> simp

theorem lowerCase_ne_nil (c : Char) : lowerCase c ≠ [] := counterpart_ne_nil (by decide)

theorem upperCase_ne_nil (c : Char) : upperCase c ≠ [] := counterpart_ne_nil (by decide)

/-- The counterpart of a character in a run. -/
def CaseRun.image (run : CaseRun) (n : Nat) : Nat := ((n : Int) + run.distance).toNat

/-- Where the counterpart of a character is found. -/
theorem counterpart_cases (texts : List (Nat × List Nat)) (runs : List CaseRun) (c : Char) :
    (∃ codes, (c.toNat, codes) ∈ texts ∧ counterpart texts runs c = codes.map Char.ofNat) ∨
      (∃ run ∈ runs, run.first ≤ c.toNat ∧ c.toNat ≤ run.last ∧
        (c.toNat - run.first) % run.step = 0 ∧
        counterpart texts runs c = [Char.ofNat (run.image c.toNat)]) ∨
      (findRun runs c.toNat = none ∧ counterpart texts runs c = [c]) := by
  unfold counterpart
  cases hcodes : texts.lookup c.toNat with
  | some codes =>
    obtain ⟨before, after, rfl, -⟩ := List.lookup_eq_some_iff.1 hcodes
    exact .inl ⟨codes, by simp, rfl⟩
  | none =>
    right
    cases hrun : findRun runs c.toNat with
    | none => exact .inr ⟨rfl, rfl⟩
    | some run =>
      left
      have hmem := List.mem_of_find?_eq_some hrun
      have hin := List.find?_some hrun
      simp only [Bool.and_eq_true, decide_eq_true_eq, beq_iff_eq] at hin
      exact ⟨run, hmem, hin.1.1, hin.1.2, hin.2, rfl⟩

/-! ## Capitals -/

/-- Whether the counterparts of a run are all in some ranges. Mostly one range holds them along with
what lies between them, which is one comparison for the run instead of one for each character. -/
def CaseRun.landsIn (ranges : List (Nat × Nat)) (run : CaseRun) : Bool :=
  (ranges.any fun (low, high) => low ≤ run.image run.first && run.image run.last ≤ high) ||
    (List.range (run.last + 1 - run.first)).all fun k =>
      k % run.step != 0 || inRanges ranges (run.image (run.first + k))

/-- Whether no character of a run is in some ranges. -/
def CaseRun.misses (ranges : List (Nat × Nat)) (run : CaseRun) : Bool :=
  ranges.all fun (low, high) => run.last < low || high < run.first

section Run

variable {run : CaseRun} {ranges : List (Nat × Nat)} {n : Nat}

theorem CaseRun.image_mono {m : Nat} (h : m ≤ n) : run.image m ≤ run.image n := by
  unfold image
  omega

theorem CaseRun.inRanges_image (h : run.landsIn ranges = true) (hfirst : run.first ≤ n)
    (hlast : n ≤ run.last) (hstep : (n - run.first) % run.step = 0) :
    inRanges ranges (run.image n) = true := by
  rcases Bool.or_eq_true_iff.1 h with htogether | hsingly
  · obtain ⟨⟨low, high⟩, hrange, hin⟩ := List.any_eq_true.1 htogether
    simp only [Bool.and_eq_true, decide_eq_true_eq] at hin
    refine List.any_eq_true.2 ⟨(low, high), hrange, ?_⟩
    have hlow : run.image run.first ≤ run.image n := image_mono hfirst
    have hhigh : run.image n ≤ run.image run.last := image_mono hlast
    simp only [Bool.and_eq_true, decide_eq_true_eq]
    omega
  · have hmember := List.all_eq_true.1 hsingly (n - run.first) (List.mem_range.2 (by omega))
    rw [hstep, Nat.add_sub_cancel' hfirst] at hmember
    simpa using hmember

theorem CaseRun.not_inRanges (h : run.misses ranges = true) (hfirst : run.first ≤ n)
    (hlast : n ≤ run.last) : inRanges ranges n = false := by
  rw [inRanges, List.any_eq_false]
  rintro ⟨low, high⟩ hrange hin
  have hmiss := List.all_eq_true.1 h (low, high) hrange
  simp only [Bool.or_eq_true, Bool.and_eq_true, decide_eq_true_eq] at hmiss hin
  omega

end Run

/-- The small letters of the basic alphabet and the two signs in front of them. Keywords begin with
one of these, all but one. -/
def isSmall (n : Nat) : Bool := 0x5f ≤ n && n ≤ 0x7a

theorem toUpperRuns_land : ∀ run ∈ toUpperRuns,
    (run.landsIn beginRanges = true ∨
      run.misses beginRanges = true ∧ run.misses innerRanges = true) ∧
      (0x7a < run.image run.first ∨ run.image run.last < 0x5f) := by decide +kernel

/-- What a letter becomes in front of a name: it begins an identifier and is no small letter. -/
def isCapital : List Char → Bool
  | [] => false
  | first :: rest => canBegin first && !isSmall first.toNat && rest.all canContinue

theorem isCapital_iff {cs : List Char} :
    isCapital cs = true ↔ ∃ first rest, cs = first :: rest ∧ canBegin first = true ∧
      isSmall first.toNat = false ∧ ∀ c ∈ rest, canContinue c = true := by
  cases cs with
  | nil => simp [isCapital]
  | cons first rest => simp [isCapital, and_assoc]

theorem canContinue_of_isCapital {cs : List Char} (h : isCapital cs = true) :
    ∀ c ∈ cs, canContinue c = true := by
  obtain ⟨first, rest, rfl, hfirst, -, hrest⟩ := isCapital_iff.1 h
  exact List.forall_mem_cons.2 ⟨canContinue_of_canBegin hfirst, hrest⟩

theorem toUpperTexts_land :
    ∀ entry ∈ toUpperTexts, isCapital (entry.2.map Char.ofNat) = true := by decide +kernel

/-- No surrogate is in the ranges. -/
theorem beginRanges_valid : ∀ range ∈ beginRanges,
    range.2 < 0xd800 ∨ 0xdfff < range.1 ∧ range.2 < 0x110000 := by decide +kernel

theorem toNat_ofNat_of_inRanges {n : Nat} (h : inRanges beginRanges n = true) :
    (Char.ofNat n).toNat = n := by
  obtain ⟨⟨low, high⟩, hrange, hin⟩ := List.any_eq_true.1 h
  simp only [Bool.and_eq_true, decide_eq_true_eq] at hin
  have hvalid : n.isValidChar := by
    have hbounds := beginRanges_valid _ hrange
    unfold Nat.isValidChar
    omega
  rw [Char.ofNat, dif_pos hvalid]
  rfl

/-- The character that stands in a constant for the first one of a piece. A letter has a letter for
it; anything else has itself, or a letter. -/
theorem upperCase_cases {c : Char} (hc : canContinue c = true) (hne : c ≠ '_') :
    isCapital (upperCase c) = true ∨
      upperCase c = [c] ∧ isSmall c.toNat = false := by
  rcases counterpart_cases toUpperTexts toUpperRuns c with ⟨codes, hcodes, hupper⟩ |
    ⟨run, hrun, hfirst, hlast, hstep, hupper⟩ | ⟨hnone, hupper⟩
  · left
    rw [upperCase, hupper]
    exact toUpperTexts_land _ hcodes
  · left
    obtain ⟨hland | ⟨hbegin, hinner⟩, hsmall⟩ := toUpperRuns_land run hrun
    · have himage := CaseRun.inRanges_image hland hfirst hlast hstep
      have hlow := run.image_mono hfirst
      have hhigh := run.image_mono hlast
      have hnat := toNat_ofNat_of_inRanges himage
      have hlarge : isSmall (run.image c.toNat) = false := by
        rw [isSmall, Bool.and_eq_false_iff]
        simp only [decide_eq_false_iff_not]
        omega
      rw [upperCase, hupper, isCapital, canBegin, hnat, himage, hlarge]
      simp
    · -- no character of these runs is in an identifier
      have hout : canContinue c = false := by
        rw [canContinue, canBegin, CaseRun.not_inRanges hbegin hfirst hlast,
          CaseRun.not_inRanges hinner hfirst hlast]
        simpa using hne
      rw [hout] at hc
      cases hc
  · right
    refine ⟨hupper, ?_⟩
    -- every small letter has a capital, and of the two signs one is excluded and one is in no name
    have hbasic := List.find?_eq_none.1 hnone ⟨0x61, 0x7a, 1, -32⟩ List.mem_cons_self
    simp only [Nat.mod_one, beq_self_eq_true, Bool.and_true, Bool.and_eq_true,
      decide_eq_true_eq] at hbasic
    have hunderscore : c.toNat ≠ 0x5f := fun h => hne (Char.toNat_inj.1 h)
    have hgrave : c.toNat ≠ 0x60 := by
      intro h
      have hsame : c = Char.ofNat 0x60 := Char.toNat_inj.1 h
      rw [hsame] at hc
      revert hc
      decide +kernel
    rw [isSmall, Bool.and_eq_false_iff]
    simp only [decide_eq_false_iff_not]
    omega

/-- How a constant begins, given how a piece does: with no small letter, and so that an identifier
can begin with it unless the piece begins with what cannot and has no capital. -/
theorem upperCase_eq_cons {c : Char} (hc : canContinue c = true) (hne : c ≠ '_') :
    ∃ first others, upperCase c = first :: others ∧ isSmall first.toNat = false ∧
      (∀ d ∈ first :: others, canContinue d = true) ∧
        (canBegin first = false ↔ canBegin c = false ∧ upperCase c = [c]) := by
  rcases upperCase_cases hc hne with hcapital | ⟨hsame, hsmall⟩
  · obtain ⟨first, others, hupper, hbegin, hsmall, -⟩ := isCapital_iff.1 hcapital
    refine ⟨first, others, hupper, hsmall, hupper ▸ canContinue_of_isCapital hcapital, ?_⟩
    refine iff_of_false (by simp [hbegin]) ?_
    rintro ⟨hno, hsame⟩
    rw [hupper, List.cons.injEq] at hsame
    rw [← hsame.1, hbegin] at hno
    cases hno
  · exact ⟨c, [], hsame, hsmall, by simpa using hc, by simp [hsame]⟩

end Text

namespace Declaration

theorem snakeCase_ne_nil {name : List Char} (h : name ≠ []) : snakeCase name ≠ [] := by
  obtain ⟨c, rest, rfl⟩ := List.exists_cons_of_ne_nil h
  have hfirst : snakeChar true c ≠ [] := by
    unfold snakeChar
    split
    · exact Text.lowerCase_ne_nil c
    · simp
  simp [snakeCase, hfirst]

/-! ## Pieces of a name -/

theorem mem_of_mem_splitOnP {α : Type} {p : α → Bool} {as piece : List α} {a : α}
    (hpiece : piece ∈ as.splitOnP p) (ha : a ∈ piece) : a ∈ as ∧ p a = false := by
  induction as generalizing piece with
  | nil =>
    rw [List.splitOnP_nil, List.mem_singleton] at hpiece
    rw [hpiece] at ha
    cases ha
  | cons b as ih =>
    rw [List.splitOnP_cons_eq_if_modifyHead] at hpiece
    split at hpiece
    · rcases List.mem_cons.1 hpiece with rfl | hpiece
      · cases ha
      · exact ⟨List.mem_cons_of_mem b (ih hpiece ha).1, (ih hpiece ha).2⟩
    · rename_i hb
      obtain ⟨first, more, hsplit⟩ := List.exists_cons_of_ne_nil (List.splitOnP_ne_nil p as)
      rw [hsplit, List.modifyHead_cons, List.mem_cons] at hpiece
      rw [hsplit] at ih
      rcases hpiece with rfl | hpiece
      · rcases List.mem_cons.1 ha with rfl | ha
        · exact ⟨List.mem_cons_self, by simpa using hb⟩
        · have hin := ih List.mem_cons_self ha
          exact ⟨List.mem_cons_of_mem b hin.1, hin.2⟩
      · have hin := ih (List.mem_cons_of_mem first hpiece) ha
        exact ⟨List.mem_cons_of_mem b hin.1, hin.2⟩

variable {name : List Char} {c : Char}

theorem mem_of_mem_chunks {piece : List Char} (hpiece : piece ∈ chunks name) (hc : c ∈ piece) :
    c ∈ name ∧ c ≠ '_' := by
  have hin := mem_of_mem_splitOnP (List.mem_filter.1 hpiece).1 hc
  exact ⟨hin.1, by simpa using hin.2⟩

/-- The first piece begins where the leading underscores end. -/
theorem chunks_cases (name : List Char) :
    name.dropWhile (· == '_') = [] ∧ chunks name = [] ∨
      ∃ c rest piece more, name.dropWhile (· == '_') = c :: rest ∧
        chunks name = (c :: piece) :: more := by
  induction name with
  | nil => exact .inl ⟨rfl, rfl⟩
  | cons c name ih =>
    by_cases hc : c = '_'
    · subst hc
      have hchunks : chunks ('_' :: name) = chunks name := by
        simp [chunks, List.splitOnP_cons_eq_if_modifyHead]
      rw [hchunks]
      exact ih
    · right
      obtain ⟨first, more, hsplit⟩ :=
        List.exists_cons_of_ne_nil (List.splitOnP_ne_nil (· == '_') name)
      refine ⟨c, name, first, more.filter (· ≠ []), by simp [hc], ?_⟩
      simp [chunks, List.splitOnP_cons_eq_if_modifyHead, hc, hsplit]

/-! ## Constants -/

/-- The plain form of a name that a field can have. -/
structure IsPlainName (name : List Char) : Prop where
  begins : ∃ c rest, name = c :: rest ∧ Text.canBegin c = true ∧
    ∀ d ∈ rest, Text.canContinue d = true
  /-- A lone underscore is no name, nor is `self`, with a mark or without. -/
  ne_word : name ≠ ['_'] ∧ name ≠ "self".toList

theorem IsPlainName.canContinue (h : IsPlainName name) (hc : c ∈ name) :
    Text.canContinue c = true := by
  obtain ⟨first, rest, rfl, hfirst, hrest⟩ := h.begins
  rcases List.mem_cons.1 hc with rfl | hc
  · exact Text.canContinue_of_canBegin hfirst
  · exact hrest c hc

/-- What can go on with an identifier can still do so as a capital. -/
theorem canContinue_capitalized {piece : List Char} (hpiece : piece ∈ chunks name)
    (h : IsPlainName name) : ∀ d ∈ capitalized piece, Text.canContinue d = true := by
  cases piece with
  | nil => simp [capitalized]
  | cons c rest =>
    intro d hd
    rcases List.mem_append.1 hd with hupper | hrest
    · have hc := mem_of_mem_chunks hpiece List.mem_cons_self
      obtain ⟨first, others, hcons, -, hothers, -⟩ :=
        Text.upperCase_eq_cons (h.canContinue hc.1) hc.2
      exact hothers d (hcons ▸ hupper)
    · exact h.canContinue (mem_of_mem_chunks hpiece (List.mem_cons_of_mem c hrest)).1

/-- Every keyword but one begins with a small letter or an underscore. -/
theorem keywords_small : ∀ word ∈ keywords, word ≠ "Self" →
    word.toList.head?.any (fun c => Text.isSmall c.toNat) = true := by decide

theorem isIdentifier_iff {text : String} :
    isIdentifier text = true ↔ isSpelled text = true ∧ text ∉ keywords := by
  simp [isIdentifier]

theorem isSpelled_ofList_cons {rest : List Char} :
    isSpelled (String.ofList (c :: rest)) = true ↔
      Text.canBegin c = true ∧ ∀ d ∈ rest, Text.canContinue d = true := by
  simp [isSpelled]

/-- What begins with no small letter is no keyword, but for one. -/
theorem mem_keywords_of_not_small {rest : List Char} (hc : Text.isSmall c.toNat = false) :
    String.ofList (c :: rest) ∈ keywords ↔ c :: rest = "Self".toList := by
  constructor
  · intro hmem
    by_contra hother
    have hword : String.ofList (c :: rest) ≠ "Self" := by
      intro hself
      exact hother (by rw [← hself, String.toList_ofList])
    have hsmall := keywords_small _ hmem hword
    simp [hc] at hsmall
  · intro hself
    rw [hself]
    decide

/-- Names whose constants are not spelled like names: what stands behind the leading underscores
cannot begin an identifier, even as a capital. -/
inductive Misspelled (name : List Char) : Prop
  | front {c : Char} {rest : List Char} (h : name.dropWhile (· == '_') = c :: rest)
    (hc : Text.canBegin c = false) (hupper : Text.upperCase c = [c])

/-- Names that give no constant: what they give is not spelled like a name, or is a keyword. -/
inductive Spoiled (name : List Char) : Prop
  | misspelled (h : Misspelled name)
  | keyword (h : pascalCase name = "Self".toList)

/-- A name of underscores alone stays as it is; any other begins with no small letter. -/
inductive Capitals (name : List Char) : Prop
  | underscores (hname : pascalCase name = name) (hdrop : name.dropWhile (· == '_') = [])
  | words (c : Char) (rest : List Char) (first : Char) (others : List Char)
    (hdrop : name.dropWhile (· == '_') = c :: rest) (hname : pascalCase name = first :: others)
    (hsmall : Text.isSmall first.toNat = false) (hothers : ∀ d ∈ others, Text.canContinue d = true)
    (hbegin : Text.canBegin first = false ↔ Text.canBegin c = false ∧ Text.upperCase c = [c])

theorem IsPlainName.capitals (h : IsPlainName name) : Capitals name := by
  rcases chunks_cases name with ⟨hdrop, hchunks⟩ | ⟨c, rest, piece, more, hdrop, hchunks⟩
  · exact .underscores (by simp [pascalCase, hchunks]) hdrop
  · have hfirst : c :: piece ∈ chunks name := by simp [hchunks]
    have hc := mem_of_mem_chunks hfirst List.mem_cons_self
    have hpascal : pascalCase name = Text.upperCase c ++ (piece ++ more.flatMap capitalized) := by
      have hsome : Text.upperCase c ≠ [] := Text.upperCase_ne_nil c
      simp [pascalCase, hchunks, capitalized, hsome]
    have hrest : ∀ d ∈ piece ++ more.flatMap capitalized, Text.canContinue d = true := by
      intro d hd
      rcases List.mem_append.1 hd with hpiece | hmore
      · exact h.canContinue (mem_of_mem_chunks hfirst (List.mem_cons_of_mem c hpiece)).1
      · obtain ⟨later, hlater, hd⟩ := List.mem_flatMap.1 hmore
        exact canContinue_capitalized (by simp [hchunks, hlater]) h d hd
    obtain ⟨first, others, hupper, hsmall, hothers, hbegin⟩ :=
      Text.upperCase_eq_cons (h.canContinue hc.1) hc.2
    have hall := List.forall_mem_append.2 ⟨(List.forall_mem_cons.1 hothers).2, hrest⟩
    rw [hupper, List.cons_append] at hpascal
    exact .words c rest first _ hdrop hpascal hsmall hall hbegin

theorem isSpelled_pascalCase_iff (h : IsPlainName name) :
    isSpelled (String.ofList (pascalCase name)) = true ↔ ¬ Misspelled name := by
  cases h.capitals with
  | underscores hname hdrop =>
    obtain ⟨c, rest, rfl, hbegin, hrest⟩ := h.begins
    rw [hname]
    refine iff_of_true (isSpelled_ofList_cons.2 ⟨hbegin, hrest⟩) ?_
    rintro ⟨hdrop'⟩
    simp [hdrop] at hdrop'
  | words c rest first others hdrop hname hsmall hothers hbegin =>
    rw [hname, isSpelled_ofList_cons, and_iff_left hothers, ← Bool.not_eq_false, not_iff_not,
      hbegin]
    constructor
    · rintro ⟨hno, hsame⟩
      exact .front hdrop hno hsame
    · rintro ⟨hdrop', hno, hsame⟩
      obtain ⟨rfl, -⟩ := List.cons.inj (hdrop.symm.trans hdrop')
      exact ⟨hno, hsame⟩

theorem pascalCase_mem_keywords_iff (h : IsPlainName name) :
    String.ofList (pascalCase name) ∈ keywords ↔ pascalCase name = "Self".toList := by
  cases h.capitals with
  | underscores hname hdrop =>
    have hunderscores : ∀ c ∈ name, c = '_' := by
      simpa [List.dropWhile_eq_nil_iff] using hdrop
    have hlone : ∀ word ∈ keywords, word.toList.all (· == '_') = true → word = "_" := by decide
    rw [hname]
    constructor
    · intro hmem
      have hword := hlone _ hmem (by simpa using hunderscores)
      exact absurd (by rw [← String.toList_ofList (l := name), hword]; rfl) h.ne_word.1
    · rintro rfl
      exact absurd (hunderscores 'S' (by simp)) (by decide)
  | words c rest first others hdrop hname hsmall hothers hbegin =>
    rw [hname]
    exact mem_keywords_of_not_small hsmall

theorem isIdentifier_pascalCase_iff (h : IsPlainName name) :
    isIdentifier (String.ofList (pascalCase name)) = true ↔ ¬ Spoiled name := by
  rw [isIdentifier_iff, isSpelled_pascalCase_iff h, pascalCase_mem_keywords_iff h]
  constructor
  · rintro ⟨hspelled, hother⟩ (hmisspelled | hself)
    · exact hspelled hmisspelled
    · exact hother hself
  · intro hspoiled
    exact ⟨fun hmisspelled => hspoiled (.misspelled hmisspelled),
      fun hself => hspoiled (.keyword hself)⟩

/-! ## Conventional names -/

/-- A word that begins with a small letter, of which there is one capital, and has no capitals. -/
inductive IsWord : List Char → Prop
  | mk {c capital : Char} {rest : List Char} (hupper : Text.upperCase c = [capital])
    (hcapital : Text.isUpperCase capital = true) (hlower : Text.lowerCase capital = [c])
    (hrest : rest.all fun d => d != '_' && !Text.isUpperCase d) : IsWord (c :: rest)

/-- Names of words between single underscores. -/
def Conventional (name : List Char) : Prop :=
  ∃ words, words ≠ [] ∧ (∀ word ∈ words, IsWord word) ∧ name = ['_'].intercalate words

theorem IsWord.not_mem {word : List Char} (h : IsWord word) : '_' ∉ word := by
  cases h with
  | mk hupper hcapital _ hrest =>
    intro hmem
    rcases List.mem_cons.1 hmem with rfl | hmem
    · have hcap : Text.upperCase '_' = ['_'] := by decide
      have hno : Text.isUpperCase '_' = false := by decide
      rw [hcap] at hupper
      obtain rfl := List.head_eq_of_cons_eq hupper
      rw [hno] at hcapital
      cases hcapital
    · have hno := List.all_eq_true.1 hrest '_' hmem
      simp at hno

/-- In snake case the capital of a word is its small letter again, and the word is as it was. -/
theorem IsWord.snakeCase_capitalized {word : List Char} (h : IsWord word) :
    ∃ capital rest, capitalized word = capital :: rest ∧ Text.isUpperCase capital = true ∧
      Text.lowerCase capital ++ rest.flatMap (snakeChar false) = word := by
  cases h with
  | @mk c capital rest hupper hcapital hlower hrest =>
    have hsame : rest.flatMap (snakeChar false) = rest := by
      have hkept : ∀ d ∈ rest, snakeChar false d = [d] := by
        intro d hd
        have hsmall := List.all_eq_true.1 hrest d hd
        simp only [Bool.and_eq_true, Bool.not_eq_true'] at hsmall
        rw [snakeChar, if_neg (by simp [hsmall.2])]
      rw [List.flatMap_congr hkept, List.flatMap_singleton']
    exact ⟨capital, rest, by simp [capitalized, hupper], hcapital, by rw [hlower, hsame]; rfl⟩

theorem IsWord.flatMap_snakeChar {word : List Char} (h : IsWord word) :
    (capitalized word).flatMap (snakeChar false) = '_' :: word := by
  obtain ⟨capital, rest, hcapitalized, hcapital, hword⟩ := h.snakeCase_capitalized
  rw [hcapitalized, List.flatMap_cons, snakeChar, if_pos hcapital, ← hword]
  rfl

theorem IsWord.snakeCase_append {word more : List Char} (h : IsWord word) :
    snakeCase (capitalized word ++ more) = word ++ more.flatMap (snakeChar false) := by
  obtain ⟨capital, rest, hcapitalized, hcapital, hword⟩ := h.snakeCase_capitalized
  rw [hcapitalized, List.cons_append, snakeCase, snakeChar, if_pos hcapital, List.flatMap_append,
    ← List.append_assoc]
  simp only [if_true, hword]

/-- The chunks of a conventional name are its words. -/
theorem chunks_intercalate {words : List (List Char)} (hsome : words ≠ [])
    (hwords : ∀ word ∈ words, IsWord word) : chunks (['_'].intercalate words) = words := by
  have hsplit := List.splitOn_intercalate '_' (fun word hword => (hwords word hword).not_mem) hsome
  rw [List.splitOn_eq_splitOnP] at hsplit
  rw [chunks, hsplit, List.filter_eq_self]
  intro word hword
  cases hwords word hword
  simp

theorem intercalate_cons_eq_append (word : List Char) (words : List (List Char)) :
    ['_'].intercalate (word :: words) = word ++ words.flatMap ('_' :: ·) := by
  induction words generalizing word with
  | nil => simp
  | cons next words ih => simp [ih]

/-- Snake case undoes the form of constants on conventional names. -/
theorem snakeCase_pascalCase (h : Conventional name) : snakeCase (pascalCase name) = name := by
  obtain ⟨words, hsome, hwords, rfl⟩ := h
  have hchunks := chunks_intercalate hsome hwords
  obtain ⟨word, words, rfl⟩ := List.exists_cons_of_ne_nil hsome
  rw [List.forall_mem_cons] at hwords
  have hfirst : capitalized word ≠ [] := by
    obtain ⟨capital, rest, hcapitalized, -⟩ := hwords.1.snakeCase_capitalized
    simp [hcapitalized]
  have hlater : (words.flatMap capitalized).flatMap (snakeChar false) =
      words.flatMap ('_' :: ·) := by
    rw [List.flatMap_assoc]
    exact List.flatMap_congr fun later hlater => (hwords.2 later hlater).flatMap_snakeChar
  have hpascal : pascalCase (['_'].intercalate (word :: words)) =
      capitalized word ++ words.flatMap capitalized := by
    rw [pascalCase, hchunks]
    simp [hfirst]
  rw [hpascal, hwords.1.snakeCase_append, hlater, intercalate_cons_eq_append]

/-- So no two conventional names have the same constant. -/
theorem pascalCase_inj {other : List Char} (h : Conventional name) (hother : Conventional other)
    (hsame : pascalCase name = pascalCase other) : name = other := by
  rw [← snakeCase_pascalCase h, hsame, snakeCase_pascalCase hother]

/-- And none of them is spoiled. -/
theorem Conventional.not_spoiled (h : Conventional name) (hplain : IsPlainName name) :
    ¬ Spoiled name := by
  intro hspoiled
  cases hspoiled with
  | misspelled hmisspelled =>
    obtain ⟨hdrop, hno, -⟩ := hmisspelled
    obtain ⟨c, rest, rfl, hbegin, -⟩ := hplain.begins
    have hc : c ≠ '_' := by
      obtain ⟨words, hsome, hwords, hname⟩ := h
      obtain ⟨word, words, rfl⟩ := List.exists_cons_of_ne_nil hsome
      rw [List.forall_mem_cons] at hwords
      cases hword : word with
      | nil =>
        rw [hword] at hwords
        cases hwords.1
      | cons first more =>
        rw [intercalate_cons_eq_append, hword, List.cons_append, List.cons.injEq] at hname
        rintro rfl
        exact hwords.1.not_mem (by simp [hword, ← hname.1])
    rw [List.dropWhile_cons_of_neg (by simpa using hc), List.cons.injEq] at hdrop
    rw [← hdrop.1, hbegin] at hno
    cases hno
  | keyword hself =>
    have hname := snakeCase_pascalCase h
    rw [hself] at hname
    exact hplain.ne_word.2 (hname.symm.trans (by decide))

end Declaration

end RecordEngine
