import RecordEngine.Document
/-!
Finite sets of texts, as their members in ascending order.

The order is that of the characters' numbers. Since it is part of the set, two sets with the same
members are equal, and a set is written as one array in one way.
-/

set_option autoImplicit false

namespace RecordEngine

/-- A text put in its place among ascending ones; one that is there already stays alone. -/
def insertText (s : String) : List String → List String
  | [] => [s]
  | t :: rest =>
    if s < t then s :: t :: rest
    else if s = t then t :: rest
    else t :: insertText s rest

theorem lt_of_not_lt_of_ne {s t : String} (h : ¬ s < t) (hne : s ≠ t) : t < s := by
  rcases Classical.em (t < s) with h' | h'
  · exact h'
  · exact absurd (String.le_antisymm h' h) hne

theorem mem_insertText {s x : String} {l : List String} :
    x ∈ insertText s l ↔ x = s ∨ x ∈ l := by
  induction l with
  | nil => simp [insertText]
  | cons t rest ih =>
    unfold insertText
    split
    · simp
    · split
      · rename_i h
        subst h
        simp
      · simp [ih]
        grind

theorem pairwise_insertText {s : String} {l : List String} (h : l.Pairwise (· < ·)) :
    (insertText s l).Pairwise (· < ·) := by
  induction l with
  | nil => simp [insertText]
  | cons t rest ih =>
    rw [List.pairwise_cons] at h
    unfold insertText
    split
    · rename_i hlt
      refine List.pairwise_cons.2 ⟨fun x hx => ?_, List.pairwise_cons.2 h⟩
      rcases List.mem_cons.1 hx with rfl | hx
      · exact hlt
      · exact String.lt_trans hlt (h.1 x hx)
    · split
      · exact List.pairwise_cons.2 h
      · rename_i hlt hne
        refine List.pairwise_cons.2 ⟨fun x hx => ?_, ih h.2⟩
        rcases mem_insertText.1 hx with rfl | hx
        · exact lt_of_not_lt_of_ne hlt hne
        · exact h.1 x hx

/-- A finite set of texts. -/
structure TextSet where
  items : List String
  ascending : items.Pairwise (· < ·)
  deriving DecidableEq

namespace TextSet

def empty : TextSet := ⟨[], .nil⟩

instance : Inhabited TextSet := ⟨empty⟩

def contains (set : TextSet) (s : String) : Bool := set.items.contains s

def insert (set : TextSet) (s : String) : TextSet :=
  ⟨insertText s set.items, pairwise_insertText set.ascending⟩

def ofList (items : List String) : TextSet := items.foldl insert empty

def size (set : TextSet) : Nat := set.items.length

theorem contains_insert (set : TextSet) (s x : String) :
    (set.insert s).contains x = (x == s || set.contains x) := by
  rw [Bool.eq_iff_iff]
  simp [contains, insert, mem_insertText]

def document (set : TextSet) : Document := .array (set.items.map .text)

/-- An array of texts, in any order and with repetitions. -/
def ofDocument? (d : Document) : Option TextSet := d.asTexts?.map ofList

end TextSet

end RecordEngine
