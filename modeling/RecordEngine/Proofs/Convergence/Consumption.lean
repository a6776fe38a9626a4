import RecordEngine.Proofs.Convergence.Dispatch
/-!
What a list of selectors is used up by.

Selectors may overlap in any way, so what a list answers depends on all that it was asked before. It
is enough to know which selector a consuming check finds: the first that accepts, the same that
makes the check alone say yes. The list changes there and nowhere else, and only for the record that
was asked about (`consume_of_firstAccepting`).

Two accounts of a sequence of calls follow. The replies about one record are those that the list, as
far as it concerns that record, gives to the calls about that record alone (`replies_about`). And
every success about a record takes away one selector that is still live for it, so that successes
and what is left add up to what there was at first (`countP_takes_add_live`).
-/

set_option autoImplicit false

namespace RecordEngine

/-! ## One selector -/

namespace Selector

/-- Whether there are handlers that the selector selects on a record. -/
def covers (selector : Selector) (id : String) : Bool :=
  match selector.ids with
  | none => true
  | some ids => ids.contains id

/-- Whether the selector is good for a record and not used up for it. -/
def live (selector : Selector) (id : String) : Bool := selector.covers id && !selector.isConsumed id

/-- A selector as far as it concerns one record. -/
def about (selector : Selector) (id : String) : Selector :=
  { selector with consumed := if selector.consumed.contains id then .ofList [id] else .empty }

variable {selector : Selector} {entity handler id other : String}

theorem covers_of_selects (h : selector.selects entity handler id = true) :
    selector.covers id = true := by
  rw [selects, Bool.and_eq_true] at h
  exact h.2

theorem covers_of_live (h : selector.live id = true) : selector.covers id = true := by
  rw [live, Bool.and_eq_true] at h
  exact h.1

theorem live_of_accepts (h : selector.accepts entity handler id = true) :
    selector.live id = true := by
  rw [accepts, Bool.and_eq_true] at h
  rw [live, covers_of_selects h.1, h.2]
  rfl

theorem spend_of_once (h : selector.once = true) :
    selector.spend id = { selector with consumed := selector.consumed.insert id } := by
  rw [spend, if_pos h]

@[simp] theorem covers_spend : (selector.spend id).covers other = selector.covers other := by
  unfold spend
  split <;> rfl

theorem spend_eq_with :
    selector.spend id = { selector with consumed := (selector.spend id).consumed } := by
  unfold spend
  split <;> rfl

/-- What works once and has just worked is not live any more; for other records nothing changes. -/
theorem live_spend : (selector.spend id).live other =
    (selector.live other && !(selector.once && other == id)) := by
  rw [live, live, covers_spend, isConsumed_spend, Bool.not_or, Bool.and_assoc]

/-! As far as it concerns one record, a selector answers for that record as it does, and working for
other records does not change it. -/

@[simp] theorem consumed_about :
    (selector.about id).consumed.contains id = selector.consumed.contains id := by
  unfold about
  split
  · next h => rw [h]; simp [TextSet.ofList, TextSet.contains_insert]
  · next h => rw [Bool.eq_false_iff.2 h]; rfl

theorem accepts_about :
    (selector.about id).accepts entity handler id = selector.accepts entity handler id := by
  rw [accepts, accepts, isConsumed, isConsumed, consumed_about]
  rfl

theorem about_spend : (selector.spend id).about id = (selector.about id).spend id := by
  cases honce : selector.once with
  | false =>
    rw [spend_of_lasts honce, spend_of_lasts]
    exact honce
  | true =>
    have hall : (selector.consumed.insert id).contains id = true := by
      rw [TextSet.contains_insert, beq_self_eq_true, Bool.true_or]
    have hinsert : (selector.about id).consumed.insert id = .ofList [id] := by
      unfold about
      split
      · simp [TextSet.insert, TextSet.ofList, TextSet.empty, insertText]
      · rfl
    rw [spend_of_once honce, spend_of_once, hinsert, about, if_pos hall]
    · rfl
    · exact honce

theorem about_spend_of_ne (h : other ≠ id) :
    (selector.spend other).about id = selector.about id := by
  have hsame : (selector.spend other).consumed.contains id = selector.consumed.contains id := by
    rw [consumed_spend, beq_false_of_ne h.symm, Bool.and_false, Bool.or_false]
  rw [about, hsame, spend_eq_with]
  rfl

end Selector

/-! ## What a consuming check finds -/

namespace SelectorList

variable {list : SelectorList} {entity handler id : String} {k : Nat}

/-- The place of the first selector that accepts. -/
def firstAccepting (list : SelectorList) (entity handler id : String) : Option Nat :=
  list.selectors.findIdx? (·.accepts entity handler id)

/-- There is one just if the check says yes. -/
theorem accepts_eq_isSome : list.accepts entity handler id =
    (list.firstAccepting entity handler id).isSome := by
  rw [accepts, firstAccepting, List.findIdx?_isSome]

theorem not_accepts_of_firstAccepting (h : list.firstAccepting entity handler id = none) :
    list.accepts entity handler id = false := by
  rw [accepts_eq_isSome, h]
  rfl

theorem consumeFirst_of_findIdx? {selectors : List Selector}
    (h : selectors.findIdx? (·.accepts entity handler id) = some k) (hk : k < selectors.length) :
    consumeFirst entity handler id selectors = (true, selectors.set k (selectors[k].spend id)) := by
  induction selectors generalizing k with
  | nil => cases h
  | cons head rest ih =>
    rw [List.findIdx?_cons] at h
    rw [consumeFirst]
    split at h
    · next haccepts =>
      obtain rfl := Option.some.inj h
      rw [if_pos haccepts]
      rfl
    · next haccepts =>
      obtain ⟨j, hj, rfl⟩ := Option.map_eq_some_iff.1 h
      rw [if_neg haccepts, ih hj (Nat.lt_of_succ_lt_succ hk)]
      rfl

/-- A consuming check says what the check says, and the list changes at the selector found only. -/
theorem consume_of_firstAccepting (h : list.firstAccepting entity handler id = some k)
    (hk : k < list.selectors.length) :
    list.consume entity handler id =
      (true, ⟨list.selectors.set k (list.selectors[k].spend id)⟩) := by
  rw [consume, consumeFirst_of_findIdx? h hk]

/-! ## Sequences of calls -/

/-- A check of a list, alone or consuming. -/
structure Call where
  consuming : Bool
  entity : String
  handler : String
  id : String
  deriving DecidableEq

/-- What a call answers, and the list after it. -/
def call (list : SelectorList) (c : Call) : Bool × SelectorList :=
  if c.consuming then list.consume c.entity c.handler c.id
  else (list.accepts c.entity c.handler c.id, list)

/-- A call with its answer and the place of the selector that the answer is owed to. -/
structure Reply where
  call : Call
  answer : Bool
  place : Option Nat
  deriving DecidableEq

def reply (list : SelectorList) (c : Call) : Reply where
  call := c
  answer := (list.call c).1
  place := list.firstAccepting c.entity c.handler c.id

@[simp] theorem call_reply (list : SelectorList) (c : Call) : (list.reply c).call = c := rfl

/-- What a sequence of calls is replied, each by the list as the calls before it left it. -/
def replies (list : SelectorList) : List Call → List Reply
  | [] => []
  | c :: rest => list.reply c :: (list.call c).2.replies rest

/-- The list after a sequence of calls. -/
def afterCalls (list : SelectorList) (calls : List Call) : SelectorList :=
  calls.foldl (fun list c => (list.call c).2) list

/-- Whether the reply is a success of a consuming call about a record. -/
def Reply.takes (reply : Reply) (id : String) : Bool :=
  reply.call.consuming && reply.answer && reply.call.id == id

/-- The ways of a call: it uses up nothing and leaves the list as it is, or it uses up the selector
it finds. -/
theorem call_cases (list : SelectorList) (c : Call) :
    ((∀ id, (list.reply c).takes id = false) ∧ (list.call c).2 = list) ∨
      ∃ k, ∃ hk : k < list.selectors.length,
        list.firstAccepting c.entity c.handler c.id = some k ∧
        list.selectors[k].accepts c.entity c.handler c.id = true ∧
        (∀ id, (list.reply c).takes id = (c.id == id)) ∧
        (list.call c).2 = ⟨list.selectors.set k (list.selectors[k].spend c.id)⟩ := by
  unfold reply Reply.takes call
  cases hconsuming : c.consuming with
  | false => exact .inl ⟨fun _ => rfl, rfl⟩
  | true =>
    rw [if_pos rfl]
    cases hfound : list.firstAccepting c.entity c.handler c.id with
    | none =>
      have hnone := not_accepts_of_firstAccepting hfound
      refine .inl ⟨fun id => ?_, consume_of_not_accepts hnone⟩
      rw [consume_fst, hnone]
      rfl
    | some k =>
      obtain ⟨hk, haccepts, -⟩ := List.findIdx?_eq_some_iff_getElem.1 hfound
      rw [consume_of_firstAccepting hfound hk]
      exact .inr ⟨k, hk, rfl, haccepts, fun _ => rfl, rfl⟩

/-- Every yes is owed to a selector. -/
theorem answer_reply (list : SelectorList) (c : Call) :
    (list.reply c).answer = (list.reply c).place.isSome := by
  unfold reply call
  split
  · exact (list.consume_fst _ _ _).trans list.accepts_eq_isSome
  · exact list.accepts_eq_isSome

theorem answer_of_mem_replies {reply : Reply} {calls : List Call}
    (h : reply ∈ list.replies calls) : reply.answer = reply.place.isSome := by
  induction calls generalizing list with
  | nil => cases h
  | cons c rest ih =>
    rcases List.mem_cons.1 h with rfl | h
    · exact list.answer_reply c
    · exact ih h

/-! ### One record -/

/-- A list as far as it concerns one record. -/
def about (list : SelectorList) (id : String) : SelectorList := ⟨list.selectors.map (·.about id)⟩

theorem firstAccepting_about :
    (list.about id).firstAccepting entity handler id = list.firstAccepting entity handler id := by
  rw [firstAccepting, about, List.findIdx?_map]
  exact congrArg (List.findIdx? · list.selectors) (funext fun _ => Selector.accepts_about)

/-- A call about another record leaves a list as it is as far as it concerns this one. -/
theorem about_call_of_ne {c : Call} (h : c.id ≠ id) : (list.call c).2.about id = list.about id := by
  rcases list.call_cases c with ⟨-, hsame⟩ | ⟨k, hk, -, -, -, hcall⟩
  · rw [hsame]
  · rw [hcall, about, about, List.map_set, Selector.about_spend_of_ne h, ← List.map_set,
      List.set_getElem_self]

/-- A call about this record gives the same answer from what concerns it, and leaves the same of
that. -/
theorem call_about {c : Call} (h : c.id = id) :
    (list.about id).call c = ((list.call c).1, (list.call c).2.about id) := by
  subst h
  have haccepts : (list.about c.id).accepts c.entity c.handler c.id =
      list.accepts c.entity c.handler c.id := by
    rw [accepts_eq_isSome, accepts_eq_isSome, firstAccepting_about]
  unfold call
  split
  · cases hfound : list.firstAccepting c.entity c.handler c.id with
    | none =>
      have hnone := not_accepts_of_firstAccepting hfound
      refine Prod.ext ?_ ?_
      · rw [consume_fst, consume_fst, haccepts]
      · rw [consume_of_not_accepts hnone, consume_of_not_accepts (haccepts.trans hnone)]
    | some k =>
      obtain ⟨hk, -, -⟩ := List.findIdx?_eq_some_iff_getElem.1 hfound
      rw [consume_of_firstAccepting hfound hk,
        consume_of_firstAccepting (firstAccepting_about.trans hfound)
          (by rwa [about, List.length_map])]
      simp only [about, List.map_set, List.getElem_map, Selector.about_spend]
  · rw [haccepts]

/-- The replies about one record are those to the calls about it, from the list as far as it
concerns that record. -/
theorem replies_about (list : SelectorList) (calls : List Call) :
    (list.replies calls).filter (·.call.id == id) =
      (list.about id).replies (calls.filter (·.id == id)) := by
  induction calls generalizing list with
  | nil => rfl
  | cons c rest ih =>
    rw [replies]
    by_cases h : c.id = id
    · have hid : (c.id == id) = true := beq_iff_eq.2 h
      have hreply : (list.about id).reply c = list.reply c := by
        subst h
        simp only [reply, call_about rfl, firstAccepting_about]
      simp only [List.filter_cons, call_reply, hid, if_true, replies, hreply, call_about h, ih]
    · have hid : (c.id == id) = false := beq_false_of_ne h
      simp only [List.filter_cons, call_reply, hid, ih, about_call_of_ne h]
      rfl

/-- Checks that do not consume leave the list, and what is replied to the calls that do, as they
would be without them. -/
theorem consuming_replies (list : SelectorList) (calls : List Call) :
    (list.replies calls).filter (·.call.consuming) = list.replies (calls.filter (·.consuming)) ∧
      list.afterCalls calls = list.afterCalls (calls.filter (·.consuming)) := by
  induction calls generalizing list with
  | nil => exact ⟨rfl, rfl⟩
  | cons c rest ih =>
    obtain ⟨hreplies, hafter⟩ := ih (list.call c).2
    cases h : c.consuming with
    | false =>
      have hsame : (list.call c).2 = list := by rw [call, h]; rfl
      rw [hsame] at hreplies hafter
      simp only [replies, afterCalls, List.foldl_cons, List.filter_cons, call_reply, h, hsame]
      exact ⟨hreplies, hafter⟩
    | true =>
      simp only [replies, List.filter_cons, call_reply, h, if_true, hreplies, true_and]
      exact hafter

/-! ### What is taken -/

/-- A selector that works once accounts for one success about a record at most, and for none if it
is used up for it. -/
theorem countP_takes_place_le {selector : Selector} (honce : selector.once = true)
    (hselector : list.selectors[k]? = some selector) (calls : List Call) :
    (list.replies calls).countP (fun reply => reply.takes id && reply.place == some k) ≤
      if selector.isConsumed id then 0 else 1 := by
  induction calls generalizing list selector with
  | nil => exact Nat.zero_le _
  | cons c rest ih =>
    rw [replies, List.countP_cons]
    rcases list.call_cases c with ⟨hnone, hsame⟩ | ⟨j, hj, hplace, haccepts, htakes, hcall⟩
    · rw [hsame, hnone, Bool.false_and]
      exact ih honce hselector
    · -- Only a success of this selector about this record moves the bound, from one to none.
      have hreply : ((list.reply c).place == some k) = (j == k) := by
        rw [reply, hplace]
        rfl
      rw [htakes, hreply, hcall]
      by_cases hjk : j = k
      · subst hjk
        obtain ⟨_, hthat⟩ := List.getElem?_eq_some_iff.1 hselector
        rw [hthat] at haccepts ⊢
        have hrest := @ih ⟨list.selectors.set j (selector.spend c.id)⟩ (selector.spend c.id)
          ((Selector.spend_once _ _).trans honce) (List.getElem?_set_self hj)
        rw [Selector.isConsumed_spend, honce, Bool.true_and] at hrest
        by_cases hid : c.id = id
        · subst hid
          rw [Selector.accepts, Bool.and_eq_true, Bool.not_eq_true'] at haccepts
          simpa [haccepts.2] using hrest
        · simpa [hid, Ne.symm hid] using hrest
      · have hrest := @ih ⟨list.selectors.set j (list.selectors[j].spend c.id)⟩ selector honce
          ((List.getElem?_set_ne hjk).trans hselector)
        simpa [hjk] using hrest

/-- A selector that works leaves as many live ones as there were, but for itself. -/
theorem countP_live_set {selectors : List Selector} (hk : k < selectors.length)
    (spent id : String) :
    (selectors.set k (selectors[k].spend spent)).countP (·.live id) +
        (if selectors[k].live id && (selectors[k].once && id == spent) then 1 else 0) =
      selectors.countP (·.live id) := by
  rw [List.countP_set hk, Selector.live_spend]
  cases hlive : selectors[k].live id with
  | false => simp
  | true =>
    have hsome : 0 < selectors.countP (·.live id) :=
      List.countP_pos_iff.2 ⟨_, List.getElem_mem hk, hlive⟩
    cases selectors[k].once && id == spent <;> simp <;> omega

/-- Where all that is good for a record works once, each success takes one selector away from those
that are live for it. -/
theorem countP_takes_add_live
    (honce : ∀ selector ∈ list.selectors, selector.covers id = true → selector.once = true)
    (calls : List Call) :
    (list.replies calls).countP (·.takes id) +
        (list.afterCalls calls).selectors.countP (·.live id) =
      list.selectors.countP (·.live id) := by
  induction calls generalizing list with
  | nil => exact Nat.zero_add _
  | cons c rest ih =>
    rw [replies, List.countP_cons, afterCalls, List.foldl_cons, ← afterCalls]
    rcases list.call_cases c with ⟨hnone, hsame⟩ | ⟨k, hk, -, haccepts, htakes, hcall⟩
    · rw [hsame, hnone]
      exact ih honce
    · have hlive := Selector.live_of_accepts haccepts
      have hspent : ∀ selector ∈ list.selectors.set k (list.selectors[k].spend c.id),
          selector.covers id = true → selector.once = true := by
        intro selector hmem
        rcases List.mem_or_eq_of_mem_set hmem with hmem | rfl
        · exact honce selector hmem
        · rw [Selector.covers_spend, Selector.spend_once]
          exact honce _ (List.getElem_mem hk)
      have hrest := @ih ⟨list.selectors.set k (list.selectors[k].spend c.id)⟩ hspent
      have hleft := countP_live_set hk c.id id
      dsimp only at hrest
      rw [htakes, hcall]
      by_cases hid : c.id = id
      · subst hid
        have hthat := honce _ (List.getElem_mem hk) (Selector.covers_of_live hlive)
        rw [hlive, hthat, beq_self_eq_true] at hleft
        rw [beq_self_eq_true, if_pos rfl]
        simp only [Bool.and_self, if_true] at hleft
        omega
      · rw [beq_false_of_ne hid, if_neg Bool.false_ne_true]
        rw [beq_false_of_ne (Ne.symm hid), Bool.and_false, Bool.and_false,
          if_neg Bool.false_ne_true] at hleft
        omega

/-! ## The whole of it -/

/-- What a consuming check that says yes does to a list. -/
structure UsesUp (list : SelectorList) (entity handler id : String) (after : SelectorList) (k : Nat)
    (selector spent : Selector) : Prop where
  found : list.selectors[k]? = some selector
  selects : selector.selects entity handler id = true
  fresh : selector.isConsumed id = false
  /-- What stands before it and selects the handler is used up. -/
  first (j : Nat) (hj : j < k) (earlier : Selector) (hat : list.selectors[j]? = some earlier)
    (hselects : earlier.selects entity handler id = true) : earlier.isConsumed id = true
  /-- No other selector changes. -/
  there : after.selectors = list.selectors.set k spent
  /-- The selector that is found changes in what it is used up for, -/
  apart : spent = { selector with consumed := spent.consumed }
  /-- if it works once only, -/
  repeatable (h : selector.once = false) : spent = selector
  once (h : selector.once = true) : spent.isConsumed id = true
  /-- and for this record only. -/
  others (other : String) (h : other ≠ id) :
    spent.consumed.contains other = selector.consumed.contains other

theorem usesUp_of_firstAccepting (h : list.firstAccepting entity handler id = some k) :
    ∃ selector spent, list.UsesUp entity handler id (list.consume entity handler id).2 k
      selector spent := by
  obtain ⟨hk, haccepts, hfirst⟩ := List.findIdx?_eq_some_iff_getElem.1 h
  rw [Selector.accepts, Bool.and_eq_true, Bool.not_eq_true'] at haccepts
  refine ⟨list.selectors[k], list.selectors[k].spend id, List.getElem?_eq_getElem hk, haccepts.1,
    haccepts.2, fun j hj earlier hat hselects => ?_, ?_, Selector.spend_eq_with,
    fun honce => Selector.spend_of_lasts honce _, fun honce => ?_, fun other hother => ?_⟩
  · obtain ⟨hlt, rfl⟩ := List.getElem?_eq_some_iff.1 hat
    have hrefuses := hfirst j hj
    rw [Selector.accepts, hselects, Bool.true_and, Bool.not_eq_true, Bool.not_eq_false'] at hrefuses
    exact hrefuses
  · rw [consume_of_firstAccepting h hk]
  · rw [Selector.isConsumed_spend, honce, beq_self_eq_true, Bool.and_self, Bool.or_true]
  · rw [Selector.consumed_spend, beq_false_of_ne hother, Bool.and_false, Bool.or_false]

/-- **Selectors are used up exactly.** A consuming check of a handler on a record says what the
check alone would have said. If it says no, nothing changes; if yes, only the first selector that
selects the handler and is not used up for the record, only if that one works once, and only for
this record; so whatever is asked later about another record is replied the same. In any sequence of
calls those that do not consume might as well be left out, every yes is owed to a selector, one that
works once accounts for one success about a record at most, and where only such selectors are good
for a record, there are no more successes about it than there are of them. -/
theorem consumption_exact (list : SelectorList) :
    (∀ entity handler id,
      (list.consume entity handler id).1 = list.accepts entity handler id ∧
      (list.accepts entity handler id = false → (list.consume entity handler id).2 = list) ∧
      (list.accepts entity handler id = true → ∃ k selector spent,
        list.firstAccepting entity handler id = some k ∧
        list.UsesUp entity handler id (list.consume entity handler id).2 k selector spent) ∧
      ∀ other, other ≠ id → ∀ calls,
        ((list.consume entity handler id).2.replies calls).filter (·.call.id == other) =
          (list.replies calls).filter (·.call.id == other)) ∧
    ∀ calls,
      (list.replies calls).filter (·.call.consuming) = list.replies (calls.filter (·.consuming)) ∧
      list.afterCalls calls = list.afterCalls (calls.filter (·.consuming)) ∧
      (∀ reply ∈ list.replies calls, reply.answer = reply.place.isSome) ∧
      (∀ k selector, list.selectors[k]? = some selector → selector.once = true → ∀ id,
        (list.replies calls).countP (fun reply => reply.takes id && reply.place == some k) ≤ 1) ∧
      ∀ id, (∀ selector ∈ list.selectors, selector.covers id = true → selector.once = true) →
        (list.replies calls).countP (·.takes id) ≤ list.selectors.countP (·.covers id) := by
  refine ⟨fun entity handler id => ⟨list.consume_fst _ _ _, consume_of_not_accepts, ?_, ?_⟩,
    fun calls => ⟨(list.consuming_replies calls).1, (list.consuming_replies calls).2,
      fun _ => answer_of_mem_replies, ?_, ?_⟩⟩
  · intro haccepts
    rw [accepts_eq_isSome] at haccepts
    obtain ⟨k, hfound⟩ := Option.isSome_iff_exists.1 haccepts
    obtain ⟨selector, spent, huses⟩ := usesUp_of_firstAccepting hfound
    exact ⟨k, selector, spent, hfound, huses⟩
  · intro other hother calls
    have hsame : (list.consume entity handler id).2.about other = list.about other :=
      about_call_of_ne (c := ⟨true, entity, handler, id⟩) hother.symm
    rw [replies_about, replies_about, hsame]
  · intro k selector hselector honce id
    refine Nat.le_trans (countP_takes_place_le honce hselector calls) ?_
    split <;> decide
  · intro id honce
    have hall := countP_takes_add_live honce calls
    have hlive : list.selectors.countP (·.live id) ≤ list.selectors.countP (·.covers id) :=
      List.countP_mono_left fun _ _ => Selector.covers_of_live
    omega

/-- Two selectors that work once are good for the first record, and a repeatable one between them
for the second: the third success about the first record fails, those about the second do not. -/
theorem consumption_exact_shielded :
    let list : SelectorList :=
      ⟨[(Selector.ofHandler "total").onlyOnce, Selector.any.forId "b", Selector.any.onlyOnce]⟩
    let calls := ["a", "b", "b", "b", "a", "b", "a"].map (Call.mk true "order" "total" ·)
    (list.replies calls).map (·.answer) = [true, true, true, true, true, true, false] ∧
      (list.replies calls).map (·.place) = [some 0, some 0, some 1, some 1, some 2, some 1, none] ∧
      (list.replies calls).countP (fun reply => reply.takes "b" && reply.place == some 0) ≤ 1 ∧
      (list.replies calls).countP (·.takes "a") ≤ 2 := by
  intro list calls
  obtain ⟨-, hrun⟩ := consumption_exact list
  obtain ⟨-, -, -, honce, hall⟩ := hrun calls
  refine ⟨by decide +kernel, by decide +kernel, honce 0 _ rfl rfl "b", ?_⟩
  have hcovers : ∀ selector ∈ list.selectors,
      selector.covers "a" = true → selector.once = true := by decide +kernel
  have htwo : list.selectors.countP (·.covers "a") = 2 := by decide +kernel
  rw [← htwo]
  exact hall "a" hcovers

end SelectorList

end RecordEngine
