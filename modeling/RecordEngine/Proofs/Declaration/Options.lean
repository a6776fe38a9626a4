import RecordEngine.Declaration
import Mathlib.Data.List.Forall2
/-!
What the options of a declaration say.

Options are read one by one, each changing what is known, and where one annotation ends and the next
begins leaves no trace. So the annotations are taken apart first: `written` are all options of all
annotations in their order. A reader is then described by three things: the clauses there are, how
each is written, and what it adds to what is known (`Reads`). Reading succeeds exactly if every
option is a clause written out and every clause can be added (`readAnnotations_ok_iff`).
-/

set_option autoImplicit false

namespace RecordEngine

namespace Declaration

/-! ## What a success establishes -/

section Success

variable {α β : Type} {b : β} {e : DeclarationError}

theorem bind_eq_ok_iff {x : Except DeclarationError α} {f : α → Except DeclarationError β} :
    (x >>= f) = .ok b ↔ ∃ a, x = .ok a ∧ f a = .ok b := by
  constructor
  · intro h
    cases x with
    | error error => cases h
    | ok a => exact ⟨a, rfl, h⟩
  · rintro ⟨a, rfl, h⟩
    exact h

theorem pure_eq_ok_iff {a : β} : (pure a : Except DeclarationError β) = .ok b ↔ a = b := by
  constructor
  · exact Except.ok.inj
  · exact congrArg Except.ok

/-- What is done after a check is done if nothing was found. -/
theorem check_eq_ok_iff {p : Prop} [Decidable p] {f : α → Except DeclarationError β}
    {x : Except DeclarationError β} :
    (if p then throw e >>= f else x) = .ok b ↔ ¬ p ∧ x = .ok b := by
  by_cases h : p
  · rw [if_pos h]
    exact iff_of_false (fun h => by cases h) fun hnot => hnot.1 h
  · simp [h]

theorem error_ite_eq_ok_iff {p : Prop} [Decidable p] {x : Except DeclarationError β} :
    (if p then .error e else x) = .ok b ↔ ¬ p ∧ x = .ok b := by
  by_cases h : p <;> simp [h]

theorem ite_error_eq_ok_iff {p : Prop} [Decidable p] {x : Except DeclarationError β} :
    (if p then x else .error e) = .ok b ↔ p ∧ x = .ok b := by
  by_cases h : p <;> simp [h]

end Success

/-! ## Options as they are written -/

/-- The pieces between commas; nothing needs to follow the last comma. -/
def parted : List (List Token) → List (List Token)
  | [] => []
  | [last] => if last.isEmpty then [] else [last]
  | option :: rest => option :: parted rest

/-- The options of one annotation. -/
def Annotation.written : Annotation → List (List Token)
  | .options tokens => parted (tokens.splitOnP Token.isComma)
  | _ => []

/-- The options of some annotations, in order. -/
def written (annotations : List Annotation) : List (List Token) :=
  annotations.flatMap (·.written)

/-- The entity's annotation has its options in brackets; what is foreign may be anything. -/
def Annotation.IsBracketed (given : Annotation) : Prop :=
  given ≠ .bare ∧ given ≠ .assigned

/-- An option has this name, a plain one. -/
def HasName (option : List Token) (name : String) : Prop :=
  ∃ atEnd argument, OptionName.read option atEnd = .ok (.plain name, argument)

/-! ## Reading clauses -/

section Reading

variable {α ι : Type} {read : OptionReader α} {Written : ι → List Token → Prop}
  {add : α → ι → Option α} {a b : α} {option : List Token} {options rest : List (List Token)}
  {annotations : List Annotation}

/-- A reader takes the clauses that are written so and can be added, and nothing else. Whether a
comma follows matters for its messages only. -/
def Reads (read : OptionReader α) (Written : ι → List Token → Prop) (add : α → ι → Option α) :
    Prop :=
  ∀ a option atEnd b, readOption read a option atEnd = .ok b ↔
    ∃ clause, Written clause option ∧ add a clause = some b

/-- Options spell clauses, and adding them all to `a` gives `b`. -/
def Leads (Written : ι → List Token → Prop) (add : α → ι → Option α) (a : α)
    (options : List (List Token)) (b : α) : Prop :=
  ∃ clauses, List.Forall₂ Written clauses options ∧ clauses.foldlM add a = some b

theorem leads_nil : Leads Written add a [] b ↔ a = b := by
  constructor
  · rintro ⟨clauses, hwritten, hadd⟩
    cases hwritten
    exact Option.some.inj hadd
  · rintro rfl
    exact ⟨[], .nil, rfl⟩

theorem leads_cons :
    Leads Written add a (option :: options) b ↔
      ∃ mid, (∃ clause, Written clause option ∧ add a clause = some mid) ∧
        Leads Written add mid options b := by
  constructor
  · rintro ⟨clauses, hwritten, hadd⟩
    cases hwritten with
    | cons hfirst hrest =>
      rw [List.foldlM_cons] at hadd
      obtain ⟨mid, hmid, hadd⟩ := Option.bind_eq_some_iff.1 hadd
      exact ⟨mid, ⟨_, hfirst, hmid⟩, _, hrest, hadd⟩
  · rintro ⟨mid, ⟨clause, hfirst, hmid⟩, clauses, hrest, hadd⟩
    refine ⟨clause :: clauses, .cons hfirst hrest, ?_⟩
    rw [List.foldlM_cons, hmid]
    exact hadd

theorem leads_append :
    Leads Written add a (options ++ rest) b ↔
      ∃ mid, Leads Written add a options mid ∧ Leads Written add mid rest b := by
  induction options generalizing a with
  | nil => simp [leads_nil]
  | cons option options ih =>
    simp only [List.cons_append, leads_cons, ih]
    constructor
    · rintro ⟨first, hfirst, mid, hmid, hrest⟩
      exact ⟨mid, ⟨first, hfirst, hmid⟩, hrest⟩
    · rintro ⟨mid, ⟨first, hfirst, hmid⟩, hrest⟩
      exact ⟨first, hfirst, mid, hmid, hrest⟩

theorem readParted_ok_iff (h : Reads read Written add) {pieces : List (List Token)} :
    readParted read a pieces = .ok b ↔ Leads Written add a (parted pieces) b := by
  fun_induction parted pieces generalizing a with
  | case1 => simp [readParted, leads_nil]
  | case2 last hempty => simp [readParted, hempty, leads_nil]
  | case3 last hempty =>
    rw [readParted, if_neg hempty, h, leads_cons]
    simp [leads_nil]
  | case4 option rest hrest ih =>
    rw [readParted, bind_eq_ok_iff, leads_cons]
    · simp only [h _ _ _ _, ih]
    · exact hrest

theorem readAnnotated_ok_iff (h : Reads read Written add) {given : Annotation} :
    readAnnotated read a given = .ok b ↔
      given.IsBracketed ∧ Leads Written add a given.written b := by
  cases given with
  | foreign => simp [readAnnotated, Annotation.IsBracketed, Annotation.written, leads_nil]
  | bare => simp [readAnnotated, Annotation.IsBracketed]
  | assigned => simp [readAnnotated, Annotation.IsBracketed]
  | options tokens =>
    simp [readAnnotated, Annotation.IsBracketed, Annotation.written, readOptions,
      readParted_ok_iff h]

/-- Annotations are read if all those of the entity are bracketed and their options, taken together,
are clauses that can be added one after the other. -/
theorem readAnnotations_ok_iff (h : Reads read Written add) :
    readAnnotations read a annotations = .ok b ↔
      (∀ annotation ∈ annotations, annotation.IsBracketed) ∧
        Leads Written add a (written annotations) b := by
  rw [readAnnotations]
  induction annotations generalizing a with
  | nil => simp [written, leads_nil, pure_eq_ok_iff]
  | cons annotation annotations ih =>
    rw [List.foldlM_cons, bind_eq_ok_iff, List.forall_mem_cons, written, List.flatMap_cons,
      leads_append]
    simp only [readAnnotated_ok_iff h, ih, written]
    constructor
    · rintro ⟨mid, ⟨hfirst, hmid⟩, hrest, hb⟩
      exact ⟨⟨hfirst, hrest⟩, mid, hmid, hb⟩
    · rintro ⟨⟨hfirst, hrest⟩, mid, hmid, hb⟩
      exact ⟨mid, ⟨hfirst, hmid⟩, hrest, hb⟩

end Reading

/-! ## Names and texts -/

/-- What follows a path is the rest of it, all of it if there is no more to the path. -/
theorem eq_of_afterPath {atEnd : Bool} {tokens rest : List Token}
    (h : OptionName.afterPath atEnd tokens = .ok rest) :
    rest.length ≤ tokens.length ∧ (rest.length = tokens.length → rest = tokens) := by
  fun_induction OptionName.afterPath atEnd tokens with
  | case1 joined name tokens ih =>
    have hle := (ih h).1
    simp only [List.length_cons]
    omega
  | case2 => cases h
  | case3 tokens =>
    obtain rfl := Except.ok.inj h
    exact ⟨Nat.le_refl _, fun _ => rfl⟩

/-- A plain name is the first word, and its argument all that follows. -/
theorem eq_of_read_plain {option argument : List Token} {atEnd : Bool} {name : String}
    (h : OptionName.read option atEnd = .ok (.plain name, argument)) :
    option = .word name :: argument := by
  unfold OptionName.read at h
  split at h
  · obtain ⟨rest, hafter, h⟩ := bind_eq_ok_iff.1 h
    have hpair := Prod.mk.inj (pure_eq_ok_iff.1 h)
    obtain rfl := hpair.2
    split at hpair
    · rename_i hlength
      obtain rfl := OptionName.plain.inj hpair.1
      rw [(eq_of_afterPath hafter).2 hlength]
    · cases hpair.1
  · split at h
    · obtain ⟨rest, -, h⟩ := bind_eq_ok_iff.1 h
      cases pure_eq_ok_iff.1 h
    · split at h <;> cases h
  · cases h

/-- A word is a plain name unless two colons follow. -/
theorem read_word {name : String} {argument : List Token} {atEnd : Bool}
    (h : ∀ joined rest, argument ≠ .mark ':' true :: .mark ':' joined :: rest) :
    OptionName.read (.word name :: argument) atEnd = .ok (.plain name, argument) := by
  have hafter : OptionName.afterPath atEnd argument = .ok argument := by
    unfold OptionName.afterPath
    split
    case h_1 joined rest => exact absurd rfl (h joined rest)
    case h_2 => rfl
  rw [OptionName.read, hafter]
  simp

theorem readOption_ok_iff {α : Type} {read : OptionReader α} {a b : α} {option : List Token}
    {atEnd : Bool} :
    readOption read a option atEnd = .ok b ↔
      ∃ name argument, OptionName.read option atEnd = .ok (name, argument) ∧
        read a name argument atEnd = .ok b := by
  rw [readOption, bind_eq_ok_iff, Prod.exists]

/-- Texts between commas; one may follow the last text. -/
inductive Texts : List String → List Token → Prop
  | none : Texts [] []
  | last (text : String) : Texts [text] [.literal (.text text)]
  | more {texts : List String} {tokens : List Token} (text : String) (joined : Bool)
    (h : Texts texts tokens) :
    Texts (text :: texts) (.literal (.text text) :: .mark ',' joined :: tokens)

theorem isComma_iff {token : Token} : token.isComma = true ↔ ∃ joined, token = .mark ',' joined := by
  unfold Token.isComma
  split
  · simp
  · rename_i hno
    simpa using fun joined h => hno joined h

theorem readTexts_ok_iff {tokens : List Token} {texts : List String} :
    readTexts tokens = .ok texts ↔ Texts texts tokens := by
  constructor
  · intro h
    fun_induction readTexts tokens generalizing texts with
    | case1 =>
      obtain rfl := Except.ok.inj h
      exact .none
    | case2 text =>
      obtain rfl := Except.ok.inj h
      exact .last text
    | case3 text next rest hcomma ih =>
      obtain ⟨more, hmore, h⟩ := bind_eq_ok_iff.1 h
      obtain rfl := pure_eq_ok_iff.1 h
      obtain ⟨joined, rfl⟩ := isComma_iff.1 hcomma
      exact .more text joined (ih hmore)
    | case4 => cases h
    | case5 => cases h
  · intro h
    induction h with
    | none => rfl
    | last text => rfl
    | more text joined h ih =>
      rw [readTexts, if_pos (isComma_iff.2 ⟨joined, rfl⟩), ih]
      rfl

theorem checkEnd_ok_iff {argument : List Token} {b : Unit} :
    checkEnd argument = .ok b ↔ argument = [] := by
  cases argument <;> simp [checkEnd]

theorem readAssigned_ok_iff {argument rest : List Token} {atEnd : Bool} {text : String} :
    readAssigned argument atEnd = .ok (text, rest) ↔
      ∃ joined, argument = .mark '=' joined :: .literal (.text text) :: rest := by
  constructor
  · intro h
    unfold readAssigned at h
    split at h
    · cases h
      exact ⟨_, rfl⟩
    · cases h
    · cases h
  · rintro ⟨joined, rfl⟩
    rfl

theorem readListed_ok_iff {argument rest : List Token} {atEnd : Bool} {texts : List String} :
    readListed argument atEnd = .ok (texts, rest) ↔
      ∃ inner, argument = .group .paren inner :: rest ∧ Texts texts inner := by
  constructor
  · intro h
    unfold readListed at h
    split at h
    · obtain ⟨read, htexts, hpair⟩ := bind_eq_ok_iff.1 h
      cases pure_eq_ok_iff.1 hpair
      exact ⟨_, rfl, readTexts_ok_iff.1 htexts⟩
    · cases h
  · rintro ⟨inner, rfl, htexts⟩
    rw [readListed, readTexts_ok_iff.2 htexts]
    rfl

/-! ## The clause of the structure -/

/-- The one thing that options say of a structure: what it is called. -/
inductive NameClause : String → List Token → Prop
  | mk {text : String} (joined : Bool) (h : text ≠ "") :
    NameClause text [.word "name", .mark '=' joined, .literal (.text text)]

theorem readStructureOption_ok_iff {known b : Option String} {name : OptionName}
    {argument : List Token} {atEnd : Bool} :
    readStructureOption known name argument atEnd = .ok b ↔
      ∃ text joined, text ≠ "" ∧ name = .plain "name" ∧
        argument = [.mark '=' joined, .literal (.text text)] ∧ some text = b := by
  simp only [readStructureOption, ite_error_eq_ok_iff, bind_eq_ok_iff, Prod.exists,
    check_eq_ok_iff, pure_eq_ok_iff, readAssigned_ok_iff, checkEnd_ok_iff, String.isEmpty_iff]
  constructor
  · rintro ⟨hname, text, rest, ⟨joined, rfl⟩, htext, -, rfl, hb⟩
    exact ⟨text, joined, htext, hname, rfl, hb⟩
  · rintro ⟨text, joined, htext, hname, rfl, hb⟩
    exact ⟨hname, text, [], ⟨joined, rfl⟩, htext, (), rfl, hb⟩

theorem reads_nameClause :
    Reads readStructureOption NameClause fun _ text => some (some text) := by
  intro known option atEnd b
  simp only [readOption_ok_iff, readStructureOption_ok_iff, Option.some.injEq]
  constructor
  · rintro ⟨name, argument, hread, text, joined, htext, rfl, rfl, hb⟩
    obtain rfl := eq_of_read_plain hread
    exact ⟨text, .mk joined htext, hb⟩
  · rintro ⟨text, ⟨joined, htext⟩, hb⟩
    exact ⟨_, _, read_word (by simp), text, joined, htext, rfl, rfl, hb⟩

/-! ## The clauses of a field -/

/-- What an option says of a field. -/
inductive FieldClause where
  | holds (role : Role)
  /-- No save writes the field. -/
  | unsaved
  | oneOf (texts : List String)
  deriving DecidableEq

namespace FieldClause

def role? : FieldClause → Option Role
  | .holds role => some role
  | _ => none

def texts? : FieldClause → Option (List String)
  | .oneOf texts => some texts
  | _ => none

inductive Written : FieldClause → List Token → Prop
  | holds (role : Role) : Written (.holds role) [.word role.label]
  | unsaved : Written .unsaved [.word "no_save"]
  | oneOf {texts : List String} {inner : List Token} (hsome : texts ≠ [])
    (h : Texts texts inner) : Written (.oneOf texts) [.word "one_of", .group .paren inner]

end FieldClause

/-- What is known of a field with one more clause. A second role is one too many. -/
def FieldOptions.add (options : FieldOptions) : FieldClause → Option FieldOptions
  | .holds role => if options.role.isSome then none else some { options with role := some role }
  | .unsaved => some { options with noSave := true }
  | .oneOf texts => some { options with allowed := some texts }

end Declaration

theorem Role.ofLabel?_eq_some_iff {label : String} {role : Role} :
    Role.ofLabel? label = some role ↔ role.label = label := by
  constructor
  · intro h
    have hfound : (role.label == label) = true := by
      unfold Role.ofLabel? at h
      exact List.find?_some (p := fun role => Role.label role == label) h
    exact eq_of_beq hfound
  · rintro rfl
    cases role <;> decide

namespace Declaration

theorem readFieldOption_ok_iff {options b : FieldOptions} {name : OptionName}
    {argument : List Token} {atEnd : Bool} :
    readFieldOption options name argument atEnd = .ok b ↔
      ∃ word clause, name = .plain word ∧ FieldClause.Written clause (.word word :: argument) ∧
        options.add clause = some b := by
  constructor
  · intro h
    cases name with
    | path => cases h
    | plain word =>
      rw [readFieldOption] at h
      cases hrole : Role.ofLabel? word with
      | some role =>
        obtain rfl := Role.ofLabel?_eq_some_iff.1 hrole
        simp only [hrole, error_ite_eq_ok_iff, bind_eq_ok_iff, checkEnd_ok_iff,
          pure_eq_ok_iff] at h
        obtain ⟨hfirst, -, rfl, hb⟩ := h
        exact ⟨_, .holds role, rfl, .holds role, by rw [FieldOptions.add, if_neg hfirst, hb]⟩
      | none =>
        simp only [hrole] at h
        by_cases hunsaved : word = "no_save"
        · rw [if_pos hunsaved] at h
          simp only [bind_eq_ok_iff, checkEnd_ok_iff, pure_eq_ok_iff] at h
          obtain ⟨-, rfl, hb⟩ := h
          exact ⟨word, .unsaved, rfl, hunsaved ▸ .unsaved, congrArg some hb⟩
        · rw [if_neg hunsaved] at h
          simp only [ite_error_eq_ok_iff, bind_eq_ok_iff, Prod.exists, check_eq_ok_iff,
            pure_eq_ok_iff, readListed_ok_iff, checkEnd_ok_iff, List.isEmpty_iff] at h
          obtain ⟨hone, texts, rest, ⟨inner, rfl, htexts⟩, hsome, -, rfl, hb⟩ := h
          exact ⟨word, .oneOf texts, rfl, hone ▸ .oneOf hsome htexts, congrArg some hb⟩
  · rintro ⟨word, clause, rfl, hwritten, hadd⟩
    cases hwritten with
    | holds role =>
      simp only [FieldOptions.add, Option.ite_none_left_eq_some, Option.some.injEq] at hadd
      simp only [readFieldOption, Role.ofLabel?_eq_some_iff.2 rfl, error_ite_eq_ok_iff,
        bind_eq_ok_iff, checkEnd_ok_iff, pure_eq_ok_iff]
      exact ⟨hadd.1, (), trivial, hadd.2⟩
    | unsaved =>
      have hrole : Role.ofLabel? "no_save" = none := by decide
      simp only [readFieldOption, hrole, if_true, bind_eq_ok_iff, checkEnd_ok_iff, pure_eq_ok_iff]
      exact ⟨(), trivial, Option.some.inj hadd⟩
    | @oneOf texts inner hsome htexts =>
      have hrole : Role.ofLabel? "one_of" = none := by decide
      have hother : ("one_of" : String) ≠ "no_save" := by decide
      simp only [readFieldOption, hrole, if_neg hother, if_true, bind_eq_ok_iff, Prod.exists,
        check_eq_ok_iff, pure_eq_ok_iff, readListed_ok_iff, checkEnd_ok_iff, List.isEmpty_iff]
      exact ⟨texts, [], ⟨inner, rfl, htexts⟩, hsome, (), rfl, Option.some.inj hadd⟩

theorem reads_fieldClause : Reads readFieldOption FieldClause.Written FieldOptions.add := by
  intro options option atEnd b
  simp only [readOption_ok_iff, readFieldOption_ok_iff]
  constructor
  · rintro ⟨name, argument, hread, word, clause, rfl, hwritten, hadd⟩
    obtain rfl := eq_of_read_plain hread
    exact ⟨clause, hwritten, hadd⟩
  · rintro ⟨clause, hwritten, hadd⟩
    have hread : ∃ word argument, option = .word word :: argument ∧
        OptionName.read option atEnd = .ok (.plain word, argument) := by
      cases hwritten with
      | holds role => exact ⟨_, _, rfl, read_word (by simp)⟩
      | unsaved => exact ⟨_, _, rfl, read_word (by simp)⟩
      | oneOf => exact ⟨_, _, rfl, read_word (by simp)⟩
    obtain ⟨word, argument, rfl, hread⟩ := hread
    exact ⟨_, argument, hread, word, clause, rfl, hwritten, hadd⟩

/-! ## The names of clauses -/

theorem hasName_word {name : String} {argument : List Token}
    (h : ∀ joined rest, argument ≠ .mark ':' true :: .mark ':' joined :: rest) :
    HasName (.word name :: argument) name :=
  ⟨true, argument, read_word h⟩

theorem NameClause.hasName {text : String} {option : List Token} (h : NameClause text option) :
    HasName option "name" := by
  cases h
  exact hasName_word (by simp)

namespace FieldClause

def label : FieldClause → String
  | .holds role => role.label
  | .unsaved => "no_save"
  | .oneOf _ => "one_of"

/-- The names of the options that a field can have. -/
def labels : List String := Role.all.map Role.label ++ ["no_save", "one_of"]

theorem label_mem_labels (clause : FieldClause) : clause.label ∈ labels := by
  cases clause with
  | holds role => cases role <;> decide
  | unsaved => decide
  | oneOf texts =>
    have hlabel : "one_of" ∈ labels := by decide
    exact hlabel

variable {clause : FieldClause} {option : List Token}

theorem Written.hasName (h : Written clause option) : HasName option clause.label := by
  cases h <;> exact hasName_word (by simp)

theorem Written.eq_label (h : Written clause option) {name : String} (hname : HasName option name) :
    name = clause.label := by
  obtain ⟨atEnd, argument, hread⟩ := hname
  have hoption := eq_of_read_plain hread
  cases h <;> · obtain rfl := Token.word.inj (List.cons.inj hoption).1; rfl

/-- What is called like a role holds that role. -/
theorem eq_holds_of_label {role : Role} (h : clause.label = role.label) : clause = .holds role := by
  cases clause with
  | holds role' =>
    have hrole : Role.ofLabel? role'.label = some role' := Role.ofLabel?_eq_some_iff.2 rfl
    have hsame : Role.ofLabel? role'.label = some role := Role.ofLabel?_eq_some_iff.2 h.symm
    rw [Option.some.inj (hrole.symm.trans hsame)]
  | unsaved => cases role <;> revert h <;> decide
  | oneOf texts =>
    have hno : ∀ role : Role, "one_of" ≠ role.label := by
      intro role
      cases role <;> decide
    exact absurd h (hno role)

end FieldClause

/-! ## What clauses amount to -/

/-- Clauses can be added up if they hold one role at most. Their order matters for the texts only,
the last of which count. -/
theorem foldlM_add_eq_some_iff {clauses : List FieldClause} {options b : FieldOptions} :
    clauses.foldlM FieldOptions.add options = some b ↔
      b.role.toList = options.role.toList ++ clauses.filterMap (·.role?) ∧
        b.noSave = (options.noSave || clauses.contains .unsaved) ∧
          b.allowed = (clauses.filterMap (·.texts?)).getLast?.or options.allowed := by
  induction clauses generalizing options with
  | nil =>
    have hroles : b.role.toList = options.role.toList ↔ b.role = options.role := by
      cases b.role <;> cases options.role <;> simp
    cases b
    cases options
    simp [hroles, eq_comm]
  | cons clause clauses ih =>
    rw [List.foldlM_cons]
    cases clause with
    | holds role =>
      cases hrole : options.role with
      | some first =>
        refine iff_of_false (by simp [FieldOptions.add, hrole]) ?_
        rintro ⟨hroles, -⟩
        have hlength := congrArg List.length hroles
        cases hlast : b.role <;> simp [hlast, FieldClause.role?] at hlength
      | none => simp [FieldOptions.add, hrole, ih, FieldClause.role?, FieldClause.texts?]
    | unsaved => simp [FieldOptions.add, ih, FieldClause.role?, FieldClause.texts?]
    | oneOf texts =>
      simp [FieldOptions.add, ih, FieldClause.role?, FieldClause.texts?, List.getLast?_cons]

end Declaration

end RecordEngine
