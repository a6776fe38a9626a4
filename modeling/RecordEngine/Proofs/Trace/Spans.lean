import Mathlib.Data.List.Induction
import Mathlib.Data.List.Nodup
import Mathlib.Tactic.Common
import RecordEngine.Trace
/-!
Accounting of spans.

A trace log says twice which spans are open, once by the flags of its entries and once by its stack,
and leaving a span changes both. They stay in step whatever is left, in any order and any number of
times (`InStep`), so that open spans can be counted on the stack.

What the two say is another matter. Whoever entered a span knows it by the position of its entry,
and after the log was cleared positions are handed out anew. Leaving a span that was entered before
the last clear is a request to leave whatever has its number by then: nothing, a span already left,
or a span that somebody else still has open. In the last case the request goes astray
(`GoesAstray`), and it is the only one in which the log departs from the account kept by the spans
themselves (`spans_accounted`).
-/

set_option autoImplicit false

namespace RecordEngine

namespace TraceLog

variable {log : TraceLog}

/-! ## Flags and stack -/

/-- The stack has the positions of the entries whose span is open, each once. -/
structure InStep (log : TraceLog) : Prop where
  nodup : log.stack.Nodup
  mem_iff : ∀ p, p ∈ log.stack ↔ ∃ entry, log.entries[p]? = some entry ∧ entry.isOpen = true

theorem inStep_empty : InStep .empty where
  nodup := List.nodup_nil
  mem_iff p := by simp [empty]

theorem InStep.lt_length (h : log.InStep) {p : Nat} (hp : p ∈ log.stack) :
    p < log.entries.length := by
  obtain ⟨entry, hentry, -⟩ := (h.mem_iff p).1 hp
  exact (List.getElem?_eq_some_iff.1 hentry).1

/-- Open entries after one more was recorded. -/
theorem isOpen_snoc (entries : List TraceEntry) (last : TraceEntry) (p : Nat) :
    (∃ entry, (entries ++ [last])[p]? = some entry ∧ entry.isOpen = true) ↔
      (∃ entry, entries[p]? = some entry ∧ entry.isOpen = true) ∨
        p = entries.length ∧ last.isOpen = true := by
  rcases Nat.lt_trichotomy p entries.length with hp | rfl | hp
  · simp [List.getElem?_append_left hp, Nat.ne_of_lt hp]
  · simp
  · have hnone : entries[p]? = none := List.getElem?_eq_none (Nat.le_of_lt hp)
    have hnone' : (entries ++ [last])[p]? = none := by
      apply List.getElem?_eq_none
      rw [List.length_append, List.length_singleton]
      omega
    simp [hnone, hnone', Nat.ne_of_gt hp]

theorem InStep.enter (h : log.InStep) (event : TraceEvent) : (log.enter event).2.InStep where
  nodup := by
    have hfresh : ∀ p ∈ log.stack, p ≠ log.entries.length := by
      intro p hp
      exact Nat.ne_of_lt (h.lt_length hp)
    simpa [TraceLog.enter, List.nodup_append, h.nodup] using hfresh
  mem_iff p := by
    simp only [TraceLog.enter, List.mem_append, List.mem_singleton, h.mem_iff, isOpen_snoc,
      and_true]

theorem InStep.add (h : log.InStep) (event : TraceEvent) : (log.add event).InStep where
  nodup := h.nodup
  mem_iff p := by
    simp only [TraceLog.add, h.mem_iff, isOpen_snoc, Bool.false_eq_true, and_false, or_false]

/-- Leaving a span changes no entry but its own. -/
theorem getElem?_exit_of_ne {p number : Nat} (h : p ≠ number) :
    (log.exit number).entries[p]? = log.entries[p]? := by
  simp [TraceLog.exit, Ne.symm h]

/-- The entry of a span that is left is open no longer. -/
theorem isOpen_exit {number : Nat} {entry : TraceEntry}
    (h : (log.exit number).entries[number]? = some entry) : entry.isOpen = false := by
  rw [TraceLog.exit, List.getElem?_modify_eq] at h
  obtain ⟨entry', -, rfl⟩ := Option.map_eq_some_iff.1 h
  rfl

theorem InStep.exit (h : log.InStep) (number : Nat) : (log.exit number).InStep where
  nodup := h.nodup.filter _
  mem_iff p := by
    have hstack : p ∈ (log.exit number).stack ↔ p ∈ log.stack ∧ p ≠ number := by
      simp [TraceLog.exit]
    rw [hstack, h.mem_iff]
    by_cases hp : p = number
    · subst hp
      constructor
      · intro hleft
        exact absurd rfl hleft.2
      · rintro ⟨entry, hentry, hopen⟩
        rw [isOpen_exit hentry] at hopen
        cases hopen
    · rw [getElem?_exit_of_ne hp]
      exact and_iff_left hp

/-- Open spans can be counted on the stack. -/
theorem InStep.openSpans_eq (h : log.InStep) : log.openSpans = log.stack.length := by
  let positions : List Nat := (log.entries.zipIdx.filter (·.1.isOpen)).map Prod.snd
  have hlength : positions.length = log.openSpans := by
    rw [List.length_map, ← List.countP_eq_length_filter, openSpans]
    conv_rhs => rw [← List.zipIdx_map_fst 0 log.entries, List.countP_map]
    rfl
  have hnodup : positions.Nodup := by
    have hsublist : positions.Sublist (log.entries.zipIdx.map Prod.snd) :=
      List.filter_sublist.map _
    rw [List.zipIdx_map_snd] at hsublist
    exact hsublist.nodup List.nodup_range'
  have hperm : positions.Perm log.stack := by
    refine (List.perm_ext_iff_of_nodup hnodup h.nodup).2 fun p => ?_
    rw [h.mem_iff]
    simp [positions, List.mem_zipIdx_iff_getElem?, and_comm]
  rw [← hlength, hperm.length_eq]

end TraceLog

/-! ## Calls and their account -/

/-- What is asked of a log. A span is told here by how many were entered before it, cleared or not,
so that no two spans are confused. -/
inductive SpanCall where
  | enter (event : TraceEvent)
  | exit (span : Nat)
  | add (event : TraceEvent)
  | clear
  deriving DecidableEq, Repr

/-- A sink in use, and the numbers it gave to the spans, in the order in which they were entered. -/
structure Tracing where
  sink : TraceSink
  numbers : List Nat

namespace Tracing

/-- A span is left by the number that was given when it was entered. -/
def step (t : Tracing) : SpanCall → Tracing
  | .enter event => ⟨(t.sink.enter event).2, t.numbers ++ [(t.sink.enter event).1]⟩
  | .exit span =>
    match t.numbers[span]? with
    | some number => { t with sink := t.sink.exit number }
    | none => t
  | .add event => { t with sink := t.sink.add event }
  | .clear => { t with sink := t.sink.clear }

/-- An empty registry after a sequence of calls. -/
def play (calls : List SpanCall) : Tracing := calls.foldl step ⟨.recorder .empty, []⟩

def log (t : Tracing) : TraceLog := t.sink.log

end Tracing

/-- The account kept by the spans themselves. -/
structure SpanAccount where
  /-- The number of spans entered. -/
  entered : Nat
  /-- How many of them were entered before the last clear. -/
  cleared : Nat
  /-- Those entered since the last clear and not left yet. -/
  opened : List Nat
  /-- For each entry recorded since the last clear, how many spans were open then. -/
  depths : List Nat

namespace SpanAccount

def step (a : SpanAccount) : SpanCall → SpanAccount
  | .enter _ =>
    { a with
      entered := a.entered + 1
      opened := a.opened ++ [a.entered]
      depths := a.depths ++ [a.opened.length] }
  | .exit span => { a with opened := a.opened.filter (· ≠ span) }
  | .add _ => { a with depths := a.depths ++ [a.opened.length] }
  | .clear => { a with cleared := a.entered, opened := [], depths := [] }

/-- The account after a sequence of calls. -/
def of (calls : List SpanCall) : SpanAccount := calls.foldl step ⟨0, 0, [], []⟩

end SpanAccount

/-- After these calls, leaving the span would leave another one that is open and has its number. -/
def GoesAstray (calls : List SpanCall) (span : Nat) : Prop :=
  ∃ other ∈ (SpanAccount.of calls).opened, other ≠ span ∧
    (Tracing.play calls).numbers[other]? = (Tracing.play calls).numbers[span]?

instance (calls : List SpanCall) (span : Nat) : Decidable (GoesAstray calls span) :=
  inferInstanceAs (Decidable (∃ other ∈ (SpanAccount.of calls).opened, other ≠ span ∧ _))

/-- No span is left by a call that goes astray. -/
def AllAimed (calls : List SpanCall) : Prop :=
  ∀ i span, calls[i]? = some (.exit span) → ¬ GoesAstray (calls.take i) span

/-- The span that is left, if that is what is asked. -/
def SpanCall.left? : SpanCall → Option Nat
  | .exit span => some span
  | _ => none

theorem SpanCall.left?_eq_some {call : SpanCall} {span : Nat} :
    call.left? = some span ↔ call = .exit span := by
  cases call <;> simp [left?]

theorem allAimed_iff (calls : List SpanCall) :
    AllAimed calls ↔
      ∀ i < calls.length, ∀ span ∈ calls[i]?.bind SpanCall.left?,
        ¬ GoesAstray (calls.take i) span := by
  constructor
  · intro h i _ span hspan
    obtain ⟨call, hi, hleft⟩ := Option.bind_eq_some_iff.1 hspan
    exact h i span (SpanCall.left?_eq_some.1 hleft ▸ hi)
  · intro h i span hi
    have hlt : i < calls.length := (List.getElem?_eq_some_iff.1 hi).1
    exact h i hlt span (by rw [hi]; rfl)

instance (calls : List SpanCall) : Decidable (AllAimed calls) :=
  decidable_of_iff _ (allAimed_iff calls).symm

/-! ## Keeping the account -/

/-- The log bears out the account: the stack has the numbers of the open spans, and the numbers
given since the last clear are positions in the order of entering. -/
structure Tallies (log : TraceLog) (numbers : List Nat) (a : SpanAccount) : Prop where
  inStep : log.InStep
  stack : log.stack.map some = a.opened.map (numbers[·]?)
  depths : log.entries.map (·.depth) = a.depths
  entered : numbers.length = a.entered
  cleared : a.cleared ≤ a.entered
  opened : ∀ span ∈ a.opened, a.cleared ≤ span ∧ span < a.entered
  nodup : a.opened.Nodup
  ascending : (numbers.drop a.cleared).Pairwise (· < ·)
  bounded : ∀ number ∈ numbers.drop a.cleared, number < log.entries.length

namespace Tallies

variable {log : TraceLog} {numbers : List Nat} {a : SpanAccount}

theorem start : Tallies .empty [] ⟨0, 0, [], []⟩ where
  inStep := TraceLog.inStep_empty
  stack := rfl
  depths := rfl
  entered := rfl
  cleared := Nat.le_refl 0
  opened _ h := by cases h
  nodup := List.nodup_nil
  ascending := List.Pairwise.nil
  bounded _ h := by cases h

theorem length_stack (h : Tallies log numbers a) : log.stack.length = a.opened.length := by
  simpa using congrArg List.length h.stack

/-- An open span has a number, and its entry is open. -/
theorem number (h : Tallies log numbers a) {span : Nat} (hspan : span ∈ a.opened) :
    ∃ number entry, numbers[span]? = some number ∧ log.entries[number]? = some entry ∧
      entry.isOpen = true := by
  have hlt : span < numbers.length := by
    rw [h.entered]
    exact (h.opened span hspan).2
  have hnumber : numbers[span]? = some numbers[span] := List.getElem?_eq_getElem hlt
  have hmem : some numbers[span] ∈ log.stack.map some := by
    rw [h.stack, ← hnumber]
    exact List.mem_map_of_mem hspan
  have hstack : numbers[span] ∈ log.stack := by simpa using hmem
  obtain ⟨entry, hentry, hopen⟩ := (h.inStep.mem_iff _).1 hstack
  exact ⟨_, entry, hnumber, hentry, hopen⟩

theorem enter (h : Tallies log numbers a) (event : TraceEvent) :
    Tallies (log.enter event).2 (numbers ++ [(log.enter event).1]) (a.step (.enter event)) where
  inStep := h.inStep.enter event
  stack := by
    have hold : a.opened.map ((numbers ++ [log.entries.length])[·]?) =
        a.opened.map (numbers[·]?) := by
      refine List.map_congr_left fun span hspan => ?_
      rw [List.getElem?_append_left (h.entered ▸ (h.opened span hspan).2)]
    have hnew : (numbers ++ [log.entries.length])[a.entered]? = some log.entries.length := by
      simp [← h.entered]
    simp only [TraceLog.enter, SpanAccount.step, List.map_append, List.map_cons, List.map_nil,
      hold, hnew, h.stack]
  depths := by
    simp [TraceLog.enter, SpanAccount.step, h.depths, h.length_stack]
  entered := by
    simp [SpanAccount.step, h.entered]
  cleared := Nat.le_succ_of_le h.cleared
  opened span hspan := by
    simp only [SpanAccount.step, List.mem_append, List.mem_singleton] at hspan ⊢
    have hcleared := h.cleared
    rcases hspan with hspan | rfl
    · have hbounds := h.opened span hspan
      omega
    · omega
  nodup := by
    have hfresh : ∀ span ∈ a.opened, span ≠ a.entered := fun span hspan =>
      Nat.ne_of_lt (h.opened span hspan).2
    simpa [SpanAccount.step, List.nodup_append, h.nodup] using hfresh
  ascending := by
    have hdrop : a.cleared ≤ numbers.length := h.entered ▸ h.cleared
    simp only [SpanAccount.step, List.drop_append_of_le_length hdrop, List.pairwise_append]
    refine ⟨h.ascending, List.pairwise_singleton .., fun number hnumber last hlast => ?_⟩
    rw [List.mem_singleton.1 hlast]
    exact h.bounded number hnumber
  bounded number hnumber := by
    have hdrop : a.cleared ≤ numbers.length := h.entered ▸ h.cleared
    simp only [SpanAccount.step, List.drop_append_of_le_length hdrop, List.mem_append,
      List.mem_singleton] at hnumber
    simp only [TraceLog.enter, List.length_append, List.length_singleton]
    rcases hnumber with hnumber | rfl
    · exact Nat.lt_succ_of_lt (h.bounded number hnumber)
    · exact Nat.lt_succ_self _

theorem add (h : Tallies log numbers a) (event : TraceEvent) :
    Tallies (log.add event) numbers (a.step (.add event)) :=
  { h with
    inStep := h.inStep.add event
    depths := by simp [TraceLog.add, SpanAccount.step, h.depths, h.length_stack]
    bounded := fun number hnumber => by
      simp only [TraceLog.add, List.length_append, List.length_singleton]
      exact Nat.lt_succ_of_lt (h.bounded number hnumber) }

theorem clear (h : Tallies log numbers a) : Tallies .empty numbers (a.step .clear) where
  inStep := TraceLog.inStep_empty
  stack := rfl
  depths := rfl
  entered := h.entered
  cleared := Nat.le_refl _
  opened _ hspan := by cases hspan
  nodup := List.nodup_nil
  ascending := by simp [SpanAccount.step, ← h.entered]
  bounded number hnumber := by simp [SpanAccount.step, ← h.entered] at hnumber

/-- Leaving a span keeps the account, unless another open span has the number. -/
theorem exit (h : Tallies log numbers a) {span number : Nat}
    (hnumber : numbers[span]? = some number)
    (haimed : ∀ other ∈ a.opened, numbers[other]? = some number → other = span) :
    Tallies (log.exit number) numbers (a.step (.exit span)) :=
  { h with
    inStep := h.inStep.exit number
    stack := by
      have hsame : a.opened.filter (fun other => decide (numbers[other]? ≠ some number)) =
          a.opened.filter (· ≠ span) := by
        refine List.filter_congr fun other hother => decide_eq_decide.2 (not_congr ?_)
        constructor
        · exact haimed other hother
        · rintro rfl
          exact hnumber
      have hleft : (log.exit number).stack.map some =
          (log.stack.map some).filter (fun n => decide (n ≠ some number)) := by
        simp [TraceLog.exit, List.filter_map, Function.comp_def]
      rw [hleft, h.stack, List.filter_map, SpanAccount.step, ← hsame]
      rfl
    depths := by
      rw [SpanAccount.step, ← h.depths]
      refine List.ext_getElem? fun p => ?_
      simp only [TraceLog.exit, List.getElem?_map, List.getElem?_modify]
      split <;> simp [Function.comp_def]
    opened := fun other hother => h.opened other (List.mem_filter.1 hother).1
    nodup := h.nodup.filter _
    bounded := fun other hother => by
      simpa [TraceLog.exit] using h.bounded other hother }

/-- A span nobody entered is not open. -/
theorem exit_unknown (h : Tallies log numbers a) {span : Nat} (hspan : numbers[span]? = none) :
    a.step (.exit span) = a := by
  have hother : a.opened.filter (· ≠ span) = a.opened := by
    refine List.filter_eq_self.2 fun other hother => decide_eq_true ?_
    have hlt := (h.opened other hother).2
    have hle := List.getElem?_eq_none_iff.1 hspan
    rw [h.entered] at hle
    omega
  rw [SpanAccount.step, hother]

/-- Spans entered since the last clear have numbers of their own. -/
theorem eq_of_number (h : Tallies log numbers a) {span other : Nat} (hspan : a.cleared ≤ span)
    (hother : other ∈ a.opened) (hnumber : numbers[other]? = numbers[span]?) : other = span := by
  obtain ⟨number, -, hsome, -, -⟩ := h.number hother
  have hcleared := (h.opened other hother).1
  have hnodup : (numbers.drop a.cleared).Nodup := h.ascending.imp Nat.ne_of_lt
  have hat : ∀ i, a.cleared ≤ i → (numbers.drop a.cleared)[i - a.cleared]? = numbers[i]? := by
    intro i hi
    rw [List.getElem?_drop, Nat.add_sub_cancel' hi]
  have hlt : other - a.cleared < (numbers.drop a.cleared).length := by
    have := (h.opened other hother).2
    rw [List.length_drop, h.entered]
    omega
  have heq := (List.getElem?_inj hlt hnodup).1
    ((hat other hcleared).trans (hnumber.trans (hat span hspan).symm))
  omega

end Tallies

/-! ## Sequences of calls -/

theorem Tracing.play_snoc (calls : List SpanCall) (call : SpanCall) :
    play (calls ++ [call]) = (play calls).step call := by
  rw [play, List.foldl_append]
  rfl

theorem SpanAccount.of_snoc (calls : List SpanCall) (call : SpanCall) :
    of (calls ++ [call]) = (of calls).step call := by
  rw [of, List.foldl_append]
  rfl

theorem AllAimed.of_snoc {calls : List SpanCall} {call : SpanCall}
    (h : AllAimed (calls ++ [call])) : AllAimed calls ∧
      ∀ span, call = .exit span → ¬ GoesAstray calls span := by
  constructor
  · intro i span hi
    have hlt : i < calls.length := (List.getElem?_eq_some_iff.1 hi).1
    have haimed := h i span (by rw [List.getElem?_append_left hlt, hi])
    rwa [List.take_append_of_le_length (Nat.le_of_lt hlt)] at haimed
  · rintro span rfl
    have haimed := h calls.length span (by simp)
    rwa [List.take_left] at haimed

/-- A registry bears out the account as long as no call goes astray. -/
theorem tallies_of_aimed {calls : List SpanCall} (h : AllAimed calls) :
    ∃ log, (Tracing.play calls).sink = .recorder log ∧
      Tallies log (Tracing.play calls).numbers (SpanAccount.of calls) := by
  induction calls using List.reverseRecOn with
  | nil => exact ⟨.empty, rfl, .start⟩
  | append_singleton calls call ih =>
    obtain ⟨hcalls, hcall⟩ := h.of_snoc
    obtain ⟨log, hsink, htallies⟩ := ih hcalls
    rw [Tracing.play_snoc, SpanAccount.of_snoc]
    cases call with
    | enter event =>
      refine ⟨(log.enter event).2, ?_, ?_⟩
      · rw [Tracing.step, hsink]
        rfl
      · rw [Tracing.step, hsink]
        exact htallies.enter event
    | add event =>
      refine ⟨log.add event, ?_, htallies.add event⟩
      rw [Tracing.step, hsink]
      rfl
    | clear =>
      refine ⟨.empty, ?_, htallies.clear⟩
      rw [Tracing.step, hsink]
      rfl
    | exit span =>
      cases hnumber : (Tracing.play calls).numbers[span]? with
      | none =>
        refine ⟨log, ?_, ?_⟩
        · rw [Tracing.step, hnumber, hsink]
        · rw [Tracing.step, hnumber, htallies.exit_unknown hnumber]
          exact htallies
      | some number =>
        have haimed : ∀ other ∈ (SpanAccount.of calls).opened,
            (Tracing.play calls).numbers[other]? = some number → other = span := by
          intro other hother hsame
          by_contra hne
          exact hcall span rfl ⟨other, hother, hne, hsame.trans hnumber.symm⟩
        refine ⟨log.exit number, ?_, ?_⟩
        · rw [Tracing.step, hnumber, hsink]
          rfl
        · rw [Tracing.step, hnumber]
          exact htallies.exit hnumber haimed

/-- **A registry keeps account of its spans, as long as no call goes astray.** Spans may be entered,
left in any order, twice or late, and the registry be cleared in between. If no call leaves a span
that has been cleared away and whose number another open span has by then, the open spans are those
entered since the last clear and not left yet, each entry has the number of spans open when it was
recorded, and leaving a span touches no other open span. A call can go astray only if it leaves a
span entered before the last clear, and one that does closes the other span. -/
theorem spans_accounted (calls : List SpanCall) (haimed : AllAimed calls) :
    (SpanAccount.of calls).opened.Nodup ∧
    (Tracing.play calls).log.openSpans = (SpanAccount.of calls).opened.length ∧
    (Tracing.play calls).log.entries.map (·.depth) = (SpanAccount.of calls).depths ∧
    (∀ span, ¬ GoesAstray calls span → ∀ other ∈ (SpanAccount.of calls).opened, other ≠ span →
      ∃ number entry, (Tracing.play calls).numbers[other]? = some number ∧
        (Tracing.play calls).log.entries[number]? = some entry ∧ entry.isOpen = true ∧
        (Tracing.play (calls ++ [.exit span])).log.entries[number]? = some entry) ∧
    ∀ span, GoesAstray calls span → span < (SpanAccount.of calls).cleared ∧
      ∃ other ∈ (SpanAccount.of calls).opened, other ≠ span ∧
        ∃ number entry, (Tracing.play calls).numbers[other]? = some number ∧
          (Tracing.play calls).log.entries[number]? = some entry ∧ entry.isOpen = true ∧
          (Tracing.play (calls ++ [.exit span])).log.entries[number]? =
            some { entry with isOpen := false } := by
  obtain ⟨log, hsink, htallies⟩ := tallies_of_aimed haimed
  have hlog : (Tracing.play calls).log = log := by rw [Tracing.log, hsink]; rfl
  have hexit : ∀ span number, (Tracing.play calls).numbers[span]? = some number →
      (Tracing.play (calls ++ [.exit span])).log = log.exit number := by
    intro span number hnumber
    rw [Tracing.play_snoc, Tracing.step, hnumber, Tracing.log, hsink]
    rfl
  rw [hlog]
  refine ⟨htallies.nodup, htallies.inStep.openSpans_eq.trans htallies.length_stack,
    htallies.depths, fun span hspan other hother hne => ?_, fun span hastray => ?_⟩
  · obtain ⟨number, entry, hnumber, hentry, hopen⟩ := htallies.number hother
    refine ⟨number, entry, hnumber, hentry, hopen, ?_⟩
    cases hleft : (Tracing.play calls).numbers[span]? with
    | none =>
      rw [Tracing.play_snoc, Tracing.step, hleft]
      exact hlog.symm ▸ hentry
    | some left =>
      rw [hexit span left hleft, TraceLog.getElem?_exit_of_ne, hentry]
      rintro rfl
      exact hspan ⟨other, hother, hne, hnumber.trans hleft.symm⟩
  · obtain ⟨other, hother, hne, hsame⟩ := hastray
    obtain ⟨number, entry, hnumber, hentry, hopen⟩ := htallies.number hother
    refine ⟨?_, other, hother, hne, number, entry, hnumber, hentry, hopen, ?_⟩
    · by_contra hlate
      exact hne (htallies.eq_of_number (Nat.le_of_not_lt hlate) hother hsame)
    · rw [hexit span number (hsame.symm.trans hnumber), TraceLog.exit, List.getElem?_modify_eq,
        hentry]
      rfl

/-! ## Clearing while spans are open -/

def passEvent (pass : Nat) : TraceEvent := .iteration "invoice" "inv-1" pass

/-- The first span is left twice before the second one, which is left after a clear, when its number
has not been given out again. -/
def lateCalls : List SpanCall :=
  [.enter (passEvent 1), .enter (passEvent 2), .exit 0, .exit 0, .add (passEvent 3), .clear,
    .enter (passEvent 4), .exit 1, .add (passEvent 5), .enter (passEvent 6), .exit 2]

theorem lateCalls_accounted :
    AllAimed lateCalls ∧ (Tracing.play lateCalls).log.openSpans = 1 ∧
      (Tracing.play lateCalls).log.entries.map (·.depth) = [0, 1, 1] := by
  have haimed : AllAimed lateCalls := by decide +kernel
  obtain ⟨-, hopen, hdepths, -, -⟩ := spans_accounted lateCalls haimed
  exact ⟨haimed, hopen.trans (by decide +kernel), hdepths.trans (by decide +kernel)⟩

/-- A span that is left after a clear closes the one that was entered after it: by the account one
span is open, and the log has none. -/
theorem late_exit_closes_another :
    let calls : List SpanCall := [.enter (passEvent 1), .clear, .enter (passEvent 2), .exit 0]
    (SpanAccount.of calls).opened = [1] ∧ (Tracing.play calls).log.openSpans = 0 := by
  decide +kernel

end RecordEngine
