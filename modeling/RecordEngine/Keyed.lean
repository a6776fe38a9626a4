/-!
Finite maps as lists of entries with distinct keys.

A new key goes to the end and a key that is there keeps its place, so the entries stand in the
order in which their keys first came. `get?` is the view through which every operation is
described.
-/

set_option autoImplicit false

namespace RecordEngine

/-- A finite map, its entries in the order in which the keys came. -/
structure Keyed (κ ν : Type) where
  entries : List (κ × ν)
  distinct : (entries.map (·.1)).Nodup

namespace Keyed

variable {κ ν : Type} [DecidableEq κ]

/-- The value of the first entry under a key. -/
def lookupIn (key : κ) : List (κ × ν) → Option ν
  | [] => none
  | (k, v) :: rest => if k = key then some v else lookupIn key rest

/-- The entries with a key given a value. -/
def putIn (key : κ) (value : ν) : List (κ × ν) → List (κ × ν)
  | [] => [(key, value)]
  | (k, v) :: rest => if k = key then (k, value) :: rest else (k, v) :: putIn key value rest

theorem mem_keys_putIn {key k : κ} {value : ν} {l : List (κ × ν)} :
    k ∈ (putIn key value l).map (·.1) ↔ k = key ∨ k ∈ l.map (·.1) := by
  induction l with
  | nil => simp [putIn]
  | cons e rest ih =>
    unfold putIn
    by_cases he : e.1 = key
    · rw [if_pos he]
      simp only [List.map_cons, List.mem_cons]
      grind
    · rw [if_neg he]
      simp only [List.map_cons, List.mem_cons, ih]
      grind

theorem nodup_putIn {key : κ} {value : ν} {l : List (κ × ν)} (h : (l.map (·.1)).Nodup) :
    ((putIn key value l).map (·.1)).Nodup := by
  induction l with
  | nil => simp [putIn]
  | cons e rest ih =>
    rw [List.map_cons, List.nodup_cons] at h
    unfold putIn
    by_cases he : e.1 = key
    · rw [if_pos he]
      exact List.nodup_cons.2 h
    · rw [if_neg he, List.map_cons, List.nodup_cons]
      refine ⟨fun hm => ?_, ih h.2⟩
      rcases mem_keys_putIn.1 hm with h' | h'
      · exact he h'
      · exact h.1 h'

/-- The map without an entry. -/
def empty : Keyed κ ν := ⟨[], .nil⟩

instance : Inhabited (Keyed κ ν) := ⟨empty⟩

/-- The value of a key. -/
def get? (m : Keyed κ ν) (key : κ) : Option ν := lookupIn key m.entries

/-- The map with a key given a value. -/
def put (m : Keyed κ ν) (key : κ) (value : ν) : Keyed κ ν :=
  ⟨putIn key value m.entries, nodup_putIn m.distinct⟩

/-- The map without a key. -/
def erase (m : Keyed κ ν) (key : κ) : Keyed κ ν :=
  ⟨m.entries.filter fun e => e.1 ≠ key,
    (List.filter_sublist.map _).nodup m.distinct⟩

/-- The map with a key given a value, unless it has one. -/
def putNew (m : Keyed κ ν) (key : κ) (value : ν) : Keyed κ ν :=
  match m.get? key with
  | some _ => m
  | none => m.put key value

def keys (m : Keyed κ ν) : List κ := m.entries.map (·.1)

def size (m : Keyed κ ν) : Nat := m.entries.length

theorem lookupIn_putIn (key k : κ) (value : ν) (l : List (κ × ν)) :
    lookupIn k (putIn key value l) = if key = k then some value else lookupIn k l := by
  induction l with
  | nil => simp [putIn, lookupIn]
  | cons e rest ih =>
    obtain ⟨k', v'⟩ := e
    by_cases h : k' = key
    · subst h
      by_cases hk : k' = k <;> simp [putIn, lookupIn, hk]
    · by_cases hk : k' = k
      · subst hk
        simp [putIn, lookupIn, h, Ne.symm h]
      · simp [putIn, lookupIn, h, hk, ih]

@[simp] theorem get?_empty (k : κ) : (empty : Keyed κ ν).get? k = none := rfl

@[simp] theorem get?_put (m : Keyed κ ν) (key k : κ) (value : ν) :
    (m.put key value).get? k = if key = k then some value else m.get? k :=
  lookupIn_putIn key k value m.entries

@[simp] theorem get?_erase (m : Keyed κ ν) (key k : κ) :
    (m.erase key).get? k = if key = k then none else m.get? k := by
  simp only [get?, erase]
  induction m.entries with
  | nil => simp [lookupIn]
  | cons e rest ih =>
    obtain ⟨k', v'⟩ := e
    by_cases h : k' = key
    · subst h
      by_cases hk : k' = k
      · simp [hk] at ih ⊢
        exact ih
      · simp [lookupIn, hk] at ih ⊢
        exact ih
    · by_cases hk : k' = k
      · subst hk
        simp [lookupIn, h, Ne.symm h]
      · simp [lookupIn, h, hk] at ih ⊢
        exact ih

@[simp] theorem get?_putNew (m : Keyed κ ν) (key k : κ) (value : ν) :
    (m.putNew key value).get? k =
      if key = k then some ((m.get? k).getD value) else m.get? k := by
  unfold putNew
  by_cases hk : key = k
  · subst hk
    cases h : m.get? key <;> simp [h]
  · cases h : m.get? key <;> simp [hk]

theorem lookupIn_eq_none {key : κ} {l : List (κ × ν)} :
    lookupIn key l = none ↔ key ∉ l.map (·.1) := by
  induction l with
  | nil => simp [lookupIn]
  | cons e rest ih =>
    obtain ⟨k, v⟩ := e
    by_cases h : k = key
    · simp [lookupIn, h]
    · simp [lookupIn, h, ih, Ne.symm h]

/-- The keys are those that have a value. -/
theorem mem_keys {m : Keyed κ ν} {key : κ} : key ∈ m.keys ↔ m.get? key ≠ none := by
  rw [get?, Ne, lookupIn_eq_none, Classical.not_not, keys]

theorem putIn_of_lookupIn {key : κ} {value : ν} {l : List (κ × ν)}
    (h : lookupIn key l = some value) : putIn key value l = l := by
  induction l with
  | nil => cases h
  | cons e rest ih =>
    obtain ⟨k, v⟩ := e
    by_cases hk : k = key
    · rw [lookupIn, if_pos hk] at h
      rw [putIn, if_pos hk, Option.some.inj h]
    · rw [lookupIn, if_neg hk] at h
      rw [putIn, if_neg hk, ih h]

/-- Giving a key the value it has changes nothing. -/
theorem put_of_get? {m : Keyed κ ν} {key : κ} {value : ν} (h : m.get? key = some value) :
    m.put key value = m := by
  obtain ⟨entries, distinct⟩ := m
  simp only [put, putIn_of_lookupIn h]

theorem putIn_putIn (key : κ) (value value' : ν) (l : List (κ × ν)) :
    putIn key value' (putIn key value l) = putIn key value' l := by
  induction l with
  | nil => simp [putIn]
  | cons e rest ih =>
    obtain ⟨k, v⟩ := e
    by_cases h : k = key <;> simp [putIn, h, ih]

/-- Of two values given to a key the later one counts. -/
@[simp] theorem put_put (m : Keyed κ ν) (key : κ) (value value' : ν) :
    (m.put key value).put key value' = m.put key value' := by
  simp only [put, putIn_putIn]

/-- A key that has a value keeps it. -/
theorem putNew_of_get? {m : Keyed κ ν} {key : κ} {value old : ν} (h : m.get? key = some old) :
    m.putNew key value = m := by
  simp only [putNew, h]

theorem length_putIn (key : κ) (value : ν) (l : List (κ × ν)) :
    (putIn key value l).length = if lookupIn key l = none then l.length + 1 else l.length := by
  induction l with
  | nil => rfl
  | cons e rest ih =>
    obtain ⟨k, v⟩ := e
    by_cases h : k = key
    · simp [putIn, lookupIn, h]
    · simp only [putIn, lookupIn, h, if_false, List.length_cons, ih]
      split <;> rfl

/-- A new key makes the map longer by one, a key that is there does not. -/
theorem size_put (m : Keyed κ ν) (key : κ) (value : ν) :
    (m.put key value).size = if m.get? key = none then m.size + 1 else m.size :=
  length_putIn key value m.entries

/-- A key that is there is there once. -/
theorem size_erase_of_get? {m : Keyed κ ν} {key : κ} (h : m.get? key ≠ none) :
    (m.erase key).size + 1 = m.size := by
  obtain ⟨entries, distinct⟩ := m
  simp only [get?, size, erase] at h ⊢
  induction entries with
  | nil => exact absurd rfl h
  | cons e rest ih =>
    obtain ⟨k, v⟩ := e
    rw [List.map_cons, List.nodup_cons] at distinct
    by_cases hk : k = key
    · -- No other entry has the key, so nothing else is filtered out.
      have hrest : rest.filter (fun e => decide (e.1 ≠ key)) = rest := by
        refine List.filter_eq_self.2 fun e he => decide_eq_true fun hkey => distinct.1 ?_
        exact List.mem_map.2 ⟨e, he, hkey.trans hk.symm⟩
      rw [List.filter_cons_of_neg (by simp [hk]), hrest, List.length_cons]
    · rw [lookupIn, if_neg hk] at h
      rw [List.filter_cons_of_pos (by simp [hk]), List.length_cons, List.length_cons,
        ih distinct.2 h]

end Keyed

end RecordEngine
