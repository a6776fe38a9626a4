import Mathlib.Data.List.Sort
import RecordEngine.Config
import RecordEngine.Request
import RecordEngine.Proofs.Document.Reading
/-!
Configurations, actors and selectors come back from what is written of them.

All three are written as objects with the names of their fields for keys, and `fields?_object` says
once that such an object leaves no field open, so that no default is used. What is left are the
fields: counters, texts, sets, and what may be null. A set is written in its order and could be read
in any, since its members determine it (`TextSet.eq_of_mem_iff`); whatever may be null is written as
something else where it is not.

What a selector has been used for is not written. It is the one thing that does not come back.
-/

set_option autoImplicit false

namespace RecordEngine

namespace Document

/-! ## Fields -/

theorem mapM_map_eq_some {α β γ : Type} {write : α → β} {read : β → Option γ} {value : α → γ}
    {l : List α} (h : ∀ a ∈ l, read (write a) = some (value a)) :
    (l.map write).mapM read = some (l.map value) := by
  induction l with
  | nil => rfl
  | cons a l ih =>
    obtain ⟨ha, hl⟩ := List.forall_mem_cons.1 h
    rw [List.map_cons, List.mapM_cons, ha, ih hl]
    rfl

/-- Under a key that is given once stands its value. -/
theorem uniqueMember_eq {members : List (String × Document)} (hkeys : (members.map (·.1)).Nodup)
    {m : String × Document} (hm : m ∈ members) : uniqueMember members m.1 = some (some m.2) := by
  have hfilter : members.filter (fun n => n.1 == m.1) = [m] := by
    induction members with
    | nil => cases hm
    | cons n members ih =>
      rw [List.map_cons, List.nodup_cons] at hkeys
      obtain ⟨hfresh, hkeys⟩ := hkeys
      -- Either the first member has the key and no other, or it is not the one that has it.
      rcases List.mem_cons.1 hm with rfl | hm
      · have hrest : members.filter (fun n => n.1 == m.1) = [] := by
          refine List.filter_eq_nil_iff.2 fun n hn heq => hfresh ?_
          exact eq_of_beq heq ▸ List.mem_map_of_mem hn
        simp [hrest]
      · have hne : n.1 ≠ m.1 := fun heq => hfresh (heq ▸ List.mem_map_of_mem hm)
        simp [hne, ih hkeys hm]
  rw [uniqueMember, hfilter]

/-- An object whose keys are the names of the fields leaves none of them open. -/
theorem fields?_object {names : List String} {members : List (String × Document)}
    (hnames : members.map (·.1) = names) (hdistinct : names.Nodup) :
    fields? names (.object members) = some (members.map fun m => some m.2) := by
  subst hnames
  exact mapM_map_eq_some fun m hm => uniqueMember_eq hdistinct hm

theorem asNatBelow?_integer {bound n : Nat} (h : n < bound) :
    asNatBelow? bound (.integer n) = some n := by
  rw [asNatBelow?, if_pos ⟨Int.natCast_nonneg n, Int.ofNat_lt.2 h⟩, Int.toNat_natCast]

theorem asWord32?_toNat (w : UInt32) : asWord32? (.integer w.toNat) = some w := by
  rw [asWord32?, asNatBelow?_integer w.toNat_lt_size, Option.map_some, UInt32.ofNat_toNat]

theorem asWord64?_toNat (w : UInt64) : asWord64? (.integer w.toNat) = some w := by
  rw [asWord64?, asNatBelow?_integer w.toNat_lt_size, Option.map_some, UInt64.ofNat_toNat]

theorem asText?_text (s : String) : asText? (.text s) = some s := rfl

theorem asBoolean?_boolean (b : Bool) : asBoolean? (.boolean b) = some b := rfl

theorem asTexts?_map (texts : List String) : asTexts? (.array (texts.map .text)) = some texts := by
  have htexts := mapM_map_eq_some (l := texts) fun s _ => asText?_text s
  rwa [List.map_id'] at htexts

theorem orDefault_of_eq_some {α : Type} {read : Document → Option α} {d : Document} {a : α}
    (h : read d = some a) (default : α) : orDefault read default (some d) = some a := h

/-- A field that may be null is read back, if nothing but its absence is written as null. -/
theorem orNull_getD {α : Type} {write : α → Document} {read : Document → Option α}
    (hnull : ∀ a, write a ≠ .null) (hread : ∀ a, read (write a) = some a) (x : Option α) :
    orNull read ((x.map write).getD .null) = some x := by
  cases x with
  | none => rfl
  | some a =>
    rw [Option.map_some, Option.getD_some, orNull, hread]
    · rfl
    · exact hnull a

end Document

namespace TextSet

/-! ## Sets of texts -/

/-- A set is determined by its members. -/
theorem eq_of_mem_iff {a b : TextSet} (h : ∀ s, s ∈ a.items ↔ s ∈ b.items) : a = b := by
  obtain ⟨as, has⟩ := a
  obtain ⟨bs, hbs⟩ := b
  have hirrefl : Std.Irrefl fun s t : String => s < t := ⟨String.lt_irrefl⟩
  obtain rfl := has.eq_of_mem_iff hbs fun {s} => h s
  rfl

theorem mem_ofList {items : List String} {s : String} :
    s ∈ (ofList items).items ↔ s ∈ items := by
  have hfold (set : TextSet) :
      s ∈ (items.foldl insert set).items ↔ s ∈ set.items ∨ s ∈ items := by
    induction items generalizing set with
    | nil => simp
    | cons t items ih =>
      rw [List.foldl_cons, ih, insert, mem_insertText, List.mem_cons]
      tauto
  simp [ofList, hfold, empty]

theorem ofList_items (set : TextSet) : ofList set.items = set :=
  eq_of_mem_iff fun _ => mem_ofList

theorem ofDocument?_document (set : TextSet) : ofDocument? set.document = some set := by
  rw [ofDocument?, document, Document.asTexts?_map, Option.map_some, ofList_items]

end TextSet

/-! ## Structures -/

namespace Document

theorem Plain.word32 (w : UInt32) : Plain (.integer w.toNat) := by
  have hsize : UInt32.size ≤ UInt64.size := by decide
  exact .integer (by omega) (Int.ofNat_lt.2 (Nat.lt_of_lt_of_le w.toNat_lt_size hsize))

theorem Plain.word64 (w : UInt64) : Plain (.integer w.toNat) :=
  .integer (by omega) (Int.ofNat_lt.2 w.toNat_lt_size)

theorem Plain.getD {α : Type} {write : α → Document} (h : ∀ a, (write a).Plain) (x : Option α) :
    Plain ((x.map write).getD .null) := by
  cases x with
  | none => exact .null
  | some a => exact h a

end Document

open Document

theorem TextSet.plain_document (set : TextSet) : set.document.Plain := by
  refine .array fun d hd => ?_
  obtain ⟨s, -, rfl⟩ := List.mem_map.1 hd
  exact .text s

theorem RetryPolicy.plain_document (policy : RetryPolicy) : policy.document.Plain := by
  refine .object ?_
  simp only [List.forall_mem_cons]
  exact ⟨.word32 _, .word64 _, .word64 _, List.forall_mem_nil _⟩

theorem RetryPolicy.ofDocument?_document (policy : RetryPolicy) :
    ofDocument? policy.document = some policy := by
  rw [ofDocument?, document, fields?_object, Option.bind_eq_bind, Option.bind_some]
  · simp only [List.map_cons, List.map_nil]
    -- Rewriting, since to compute the readers would count up to their bounds.
    rw [orDefault_of_eq_some (asWord32?_toNat _), orDefault_of_eq_some (asWord64?_toNat _),
      orDefault_of_eq_some (asWord64?_toNat _)]
    rfl
  · rfl
  · decide

theorem Config.plain_document (config : Config) : config.document.Plain := by
  refine .object ?_
  simp only [List.forall_mem_cons]
  exact ⟨.word32 _, .boolean _, config.retry.plain_document, List.forall_mem_nil _⟩

theorem Config.ofDocument?_document (config : Config) :
    ofDocument? config.document = some config := by
  rw [ofDocument?, document, fields?_object, Option.bind_eq_bind, Option.bind_some]
  · simp only [List.map_cons, List.map_nil]
    rw [orDefault_of_eq_some (asWord32?_toNat _), orDefault_of_eq_some (asBoolean?_boolean _),
      orDefault_of_eq_some (RetryPolicy.ofDocument?_document _)]
    rfl
  · rfl
  · decide

theorem Actor.plain_document (actor : Actor) : actor.document.Plain := by
  refine .object ?_
  simp only [List.forall_mem_cons]
  exact ⟨.text _, .text _, List.forall_mem_nil _⟩

theorem Actor.ofDocument?_document (actor : Actor) : ofDocument? actor.document = some actor := by
  rw [ofDocument?, document, fields?_object, Option.bind_eq_bind, Option.bind_some]
  · simp [asText?]
  · rfl
  · decide

theorem Selector.plain_document (selector : Selector) : selector.document.Plain := by
  refine .object ?_
  simp only [List.forall_mem_cons]
  exact ⟨.getD .text _, .getD .text _, .getD TextSet.plain_document _, .boolean _,
    List.forall_mem_nil _⟩

/-- A selector comes back unused. -/
theorem Selector.ofDocument?_document (selector : Selector) :
    ofDocument? selector.document = some { selector with consumed := .empty } := by
  have htext (s : Option String) : orNull asText? ((s.map text).getD .null) = some s :=
    orNull_getD (fun _ h => by cases h) asText?_text s
  have hids (ids : Option TextSet) :
      orNull TextSet.ofDocument? ((ids.map TextSet.document).getD .null) = some ids :=
    orNull_getD (fun _ h => by cases h) TextSet.ofDocument?_document ids
  rw [ofDocument?, document, fields?_object, Option.bind_eq_bind, Option.bind_some]
  · simp only [List.map_cons, List.map_nil]
    rw [orDefault_of_eq_some (htext _), orDefault_of_eq_some (htext _),
      orDefault_of_eq_some (hids _), orDefault_of_eq_some (asBoolean?_boolean _)]
    rfl
  · rfl
  · decide

/-! ## What is written is read back -/

/-- The text that is written of `a` is read as `b`, and of `b` the same text is written. -/
structure ReadBackAs {α : Type} (write : α → Document) (read : String → Option α) (a b : α) :
    Prop where
  read : read (write a).print = some b
  rewritten : (write b).print = (write a).print

theorem readBackAs_of_plain {α : Type} {write : α → Document} {read : Document → Option α}
    {a b : α} (hplain : (write a).Plain) (hread : read (write a) = some b)
    (hsame : write b = write a) :
    ReadBackAs write (fun text => (Document.read text).bind read) a b where
  read := by rw [read_print hplain, Option.bind_some, hread]
  rewritten := congrArg print hsame

/-- **What is written is read back.** The text of a configuration or of an actor is read as the
same one, and the text of a selector as the selector with nothing used up, of which the same text is
written. What a selector has been used for is no part of its text. -/
theorem written_read_back :
    (∀ config : Config, ReadBackAs Config.document Config.read? config config) ∧
    (∀ actor : Actor, ReadBackAs Actor.document Actor.read? actor actor) ∧
    (∀ selector : Selector,
      ReadBackAs Selector.document (fun text => (Document.read text).bind Selector.ofDocument?)
        selector { selector with consumed := .empty }) ∧
    ∀ (selector : Selector) (consumed : TextSet),
      { selector with consumed }.document.print = selector.document.print := by
  refine ⟨fun config => ?_, fun actor => ?_, fun selector => ?_, fun selector consumed => rfl⟩
  · exact readBackAs_of_plain config.plain_document config.ofDocument?_document rfl
  · exact readBackAs_of_plain actor.plain_document actor.ofDocument?_document rfl
  · exact readBackAs_of_plain selector.plain_document selector.ofDocument?_document rfl

end RecordEngine
