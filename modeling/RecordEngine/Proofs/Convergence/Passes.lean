import RecordEngine.Proofs.Convergence.Dispatch
/-!
Passes, their number and their limit.

`passes` is the account of a run: one entry for each pass that dispatched handlers, with the record
it began with, the handlers it called and what it came to. It is computed with the dispatches of the
run itself, state and all, so whatever is said of its entries is said of what the run did. A run
that converges has one entry for each pass it counts; a run that is stopped has as many as the limit
allows, each of which left the record changed. The limit decides nothing else: a run that converges
under it goes the same way under any larger one.

What is said of whole runs is proved along the `Course` of a run, which has one case for each way to
go on after a pass.
-/

set_option autoImplicit false

namespace RecordEngine

variable {β σ : Type} {E : EntityType}

namespace Convergence

/-- One pass, as the account of a run has it. -/
structure Pass (σ : Type) (E : EntityType) where
  /-- The proposed record when the pass began. -/
  start : Record E
  /-- The handlers called, in order. -/
  called : List (Handler σ E)
  /-- The proposed record as the pass left it, or what stopped the pass. -/
  result : Except Failure (Record E)

namespace Pass

/-- The pass left some field other than it found it. -/
def Changed (p : Pass σ E) : Prop :=
  ∃ after, p.result = .ok after ∧ ∃ i, (p.start.field i).agrees (after.field i) = false

/-- The pass left every field as it found it, whatever happened in between. -/
def Settled (p : Pass σ E) : Prop :=
  ∃ after, p.result = .ok after ∧ ∀ i, (p.start.field i).agrees (after.field i) = true

end Pass

/-! ## The account of a run -/

section Account

variable (engine : Engine β σ) (id : String) (pass : Nat)

/-- The handlers that are called when these take their turns one after another. -/
def calledIn (mask : FieldMask) (before : Record E) :
    List (Handler σ E) → Record E → DeferredWork σ → Scope β σ → List (Handler σ E)
  | [], _, _, _ => []
  | handler :: rest, proposed, queue, s =>
    (if calls handler id mask s.session then [handler] else []) ++
      match (dispatch engine handler id pass mask before proposed queue).run s with
      | (.ok (proposed, queue), s) => calledIn mask before rest proposed queue s
      | (.error _, _) => []

/-- Pass number `pass + 1`. -/
def nextPass (baseline proposed : Record E) (queue : DeferredWork σ) :
    SessionM β σ (Record E × DeferredWork σ) :=
  SessionM.withSpan (.iteration E.name id (pass + 1))
    (dispatchAll engine id (pass + 1) (FieldMask.diff baseline proposed) baseline
      (engine.registry.handlers E) proposed queue)

/-- The entry of pass number `pass + 1`. -/
def nextEntry (baseline proposed : Record E) (queue : DeferredWork σ) (s : Scope β σ) :
    Pass σ E where
  start := proposed
  called :=
    calledIn engine id (pass + 1) (FieldMask.diff baseline proposed) baseline
      (engine.registry.handlers E) proposed queue
      { s with world.trace := (s.world.trace.enter (.iteration E.name id (pass + 1))).2 }
  result := ((nextPass engine id pass baseline proposed queue).run s).1.map (·.1)

end Account

/-- The entries of the passes number `pass + 1` and on, of which `left` more are allowed. -/
def passesFrom (engine : Engine β σ) (id : String) (pass : Nat) (baseline proposed : Record E)
    (queue : DeferredWork σ) (forced : Bool) (left : Nat) (s : Scope β σ) : List (Pass σ E) :=
  match left with
  | 0 => []
  | left + 1 =>
    if (FieldMask.diff baseline proposed).isEmpty && !forced then []
    else
      nextEntry engine id pass baseline proposed queue s ::
        match (nextPass engine id pass baseline proposed queue).run s with
        | (.ok (after, queue), s) =>
          passesFrom engine id (pass + 1) proposed after queue false left s
        | (.error _, _) => []

/-- The account of a run. -/
def passes (engine : Engine β σ) (baseline proposed : Record E) (forceFirst : Bool)
    (s : Scope β σ) : List (Pass σ E) :=
  passesFrom engine proposed.id 0 baseline proposed .empty forceFirst
    engine.config.maxPasses.toNat s

/-! ## Turn by turn -/

section Turns

variable {engine : Engine β σ} {id : String} {pass : Nat} {mask : FieldMask}
  {before proposed : Record E} {queue : DeferredWork σ} {s s' : Scope β σ} {handler : Handler σ E}
  {handlers rest : List (Handler σ E)}

/-- The first turn either stops them all or leaves the record and the queue to the rest. -/
theorem dispatchAll_cases {result : Except Failure (Record E × DeferredWork σ)}
    (hrun : (dispatchAll engine id pass mask before (handler :: rest) proposed queue).run s =
      (result, s')) :
    (∃ failure, result = .error failure ∧
        (dispatch engine handler id pass mask before proposed queue).run s =
          (.error failure, s')) ∨
      ∃ after queue' s₁,
        (dispatch engine handler id pass mask before proposed queue).run s =
            (.ok (after, queue'), s₁) ∧
          (dispatchAll engine id pass mask before rest after queue').run s₁ = (result, s') := by
  rw [dispatchAll, SessionM.run_bind] at hrun
  rcases hturn : (dispatch engine handler id pass mask before proposed queue).run s
    with ⟨turn, s₁⟩
  rw [hturn] at hrun
  cases turn with
  | error failure =>
    obtain ⟨rfl, rfl⟩ := Prod.mk.inj hrun
    exact .inl ⟨failure, rfl, rfl⟩
  | ok pair => exact .inr ⟨pair.1, pair.2, s₁, rfl, hrun⟩

theorem calledIn_of_ok {after : Record E} {queue' : DeferredWork σ}
    (hturn : (dispatch engine handler id pass mask before proposed queue).run s =
      (.ok (after, queue'), s')) :
    calledIn engine id pass mask before (handler :: rest) proposed queue s =
      (if calls handler id mask s.session then [handler] else []) ++
        calledIn engine id pass mask before rest after queue' s' := by
  rw [calledIn, hturn]

theorem calledIn_of_error {failure : Failure}
    (hturn : (dispatch engine handler id pass mask before proposed queue).run s =
      (.error failure, s')) :
    calledIn engine id pass mask before (handler :: rest) proposed queue s = [handler] := by
  rw [calledIn, hturn]
  rcases dispatch_cases hturn with ⟨-, hresult, -⟩ | ⟨hcalls, -, -⟩
  · cases hresult
  · rw [hcalls, if_pos rfl, List.append_nil]

/-- Who is called in turn either is the first, or is called after it was passed. -/
theorem mem_calledIn_cons {other : Handler σ E}
    (h : other ∈ calledIn engine id pass mask before (handler :: rest) proposed queue s) :
    (other = handler ∧ calls handler id mask s.session = true) ∨
      ∃ after queue' s₁,
        (dispatch engine handler id pass mask before proposed queue).run s =
            (.ok (after, queue'), s₁) ∧
          other ∈ calledIn engine id pass mask before rest after queue' s₁ := by
  rw [calledIn] at h
  rcases List.mem_append.1 h with h | h
  · split at h
    · next hcalls => exact .inl ⟨List.mem_singleton.1 h, hcalls⟩
    · cases h
  · split at h
    · next after queue' s₁ hturn => exact .inr ⟨after, queue', s₁, hturn, h⟩
    · cases h

/-- A record that is passed on still has the identifier. -/
theorem id_of_dispatch {after : Record E} {queue' : DeferredWork σ}
    (hturn : (dispatch engine handler id pass mask before proposed queue).run s =
      (.ok (after, queue'), s')) (hid : proposed.id = id) : after.id = id := by
  rcases dispatch_cases hturn with ⟨-, hresult, -⟩ | ⟨-, hreturned, -⟩
  · obtain ⟨rfl, -⟩ := Prod.mk.inj (Except.ok.inj hresult)
    exact hid
  · cases hreturned with
    | left _ _ _ hafter => exact hafter

theorem id_of_dispatchAll {after : Record E} {queue' : DeferredWork σ}
    (hrun : (dispatchAll engine id pass mask before handlers proposed queue).run s =
      (.ok (after, queue'), s')) (hid : proposed.id = id) : after.id = id := by
  induction handlers generalizing proposed queue s with
  | nil =>
    obtain ⟨hleft, -⟩ := Prod.mk.inj hrun
    obtain ⟨rfl, -⟩ := Prod.mk.inj (Except.ok.inj hleft)
    exact hid
  | cons handler rest ih =>
    rcases dispatchAll_cases hrun with ⟨failure, hfailure, -⟩ | ⟨middle, queue₁, s₁, hturn, hrest⟩
    · cases hfailure
    · exact ih hrest (id_of_dispatch hturn hid)

/-- Nor is it forced after others had their turns. -/
theorem forces_of_dispatchAll {result : Except Failure (Record E × DeferredWork σ)}
    (hrun : (dispatchAll engine id pass mask before handlers proposed queue).run s = (result, s'))
    (h : forces handler id s.session = false) : forces handler id s'.session = false := by
  induction handlers generalizing proposed queue s with
  | nil =>
    obtain ⟨-, rfl⟩ := Prod.mk.inj hrun
    exact h
  | cons first rest ih =>
    rcases dispatchAll_cases hrun with ⟨failure, -, hturn⟩ | ⟨after, queue', s₁, hturn, hrest⟩
    · exact forces_of_dispatch hturn h
    · exact ih hrest (forces_of_dispatch hturn h)

/-- When all have had their turns none of them is forced. -/
theorem spent_of_dispatchAll {left : Record E × DeferredWork σ}
    (hrun : (dispatchAll engine id pass mask before handlers proposed queue).run s =
      (.ok left, s')) (h : handler ∈ handlers) : forces handler id s'.session = false := by
  induction handlers generalizing proposed queue s with
  | nil => cases h
  | cons first rest ih =>
    rcases dispatchAll_cases hrun with ⟨failure, hfailure, -⟩ | ⟨after, queue', s₁, hturn, hrest⟩
    · cases hfailure
    · rcases List.mem_cons.1 h with rfl | h
      · exact forces_of_dispatchAll hrest (forces_of_own_dispatch hturn)
      · exact ih hrest h

/-- Handlers taking their turns are stopped by one that was called; if they were given a record
with the identifier, so was that one. -/
theorem dispatchAll_error {failure : Failure}
    (hrun : (dispatchAll engine id pass mask before handlers proposed queue).run s =
      (.error failure, s')) :
    ∃ culprit ∈ calledIn engine id pass mask before handlers proposed queue s,
      ∃ entry, (proposed.id = id → entry.id = id) ∧
        Returned culprit id before entry (.error failure) := by
  induction handlers generalizing proposed queue s with
  | nil => cases hrun
  | cons handler rest ih =>
    rcases dispatchAll_cases hrun with ⟨cause, hcause, hturn⟩ | ⟨after, queue', s₁, hturn, hrest⟩
    · obtain rfl := Except.error.inj hcause
      rw [calledIn_of_error hturn]
      rcases dispatch_cases hturn with ⟨-, hresult, -⟩ | ⟨-, hreturned, -⟩
      · cases hresult
      · exact ⟨handler, List.mem_cons_self, proposed, fun hid => hid, hreturned⟩
    · rw [calledIn_of_ok hturn]
      obtain ⟨culprit, hmem, entry, hentry, hreturned⟩ := ih hrest
      exact ⟨culprit, List.mem_append_right _ hmem, entry,
        fun hid => hentry (id_of_dispatch hturn hid), hreturned⟩

end Turns

/-! ## Pass by pass -/

section Steps

variable {engine : Engine β σ} {id : String} {pass : Nat} {baseline proposed : Record E}
  {queue : DeferredWork σ} {forced : Bool} {left : Nat} {s : Scope β σ}

/-- Whether another pass is due. -/
def due (baseline proposed : Record E) (forced : Bool) : Bool :=
  !((FieldMask.diff baseline proposed).isEmpty && !forced)

theorem not_due : (!due baseline proposed forced) =
    ((FieldMask.diff baseline proposed).isEmpty && !forced) := Bool.not_not _

theorem due_eq_false_iff : due baseline proposed forced = false ↔
    forced = false ∧ ∀ i, (baseline.field i).agrees (proposed.field i) = true := by
  rw [due, ← FieldMask.isEmpty_diff]
  cases (FieldMask.diff baseline proposed).isEmpty <;> cases forced <;> simp

theorem runFrom_of_not_due (h : due baseline proposed forced = false) :
    runFrom engine id pass baseline proposed queue forced left =
      pure ⟨pass, proposed, queue⟩ := by
  unfold runFrom
  exact if_pos (by rw [← not_due, h]; rfl)

theorem runFrom_zero (h : due baseline proposed forced = true) :
    runFrom engine id pass baseline proposed queue forced 0 =
      throw (.iterationLimit E.name id engine.config.maxPasses.toNat) := by
  unfold runFrom
  exact if_neg (by rw [← not_due, h]; decide)

theorem runFrom_succ (h : due baseline proposed forced = true) :
    runFrom engine id pass baseline proposed queue forced (left + 1) =
      nextPass engine id pass baseline proposed queue >>= fun (after, queue) =>
        runFrom engine id (pass + 1) proposed after queue false left := by
  conv => lhs; unfold runFrom
  exact if_neg (by rw [← not_due, h]; decide)

/-- After a pass that came to its end the run goes on from what it left. -/
theorem runFrom_of_ok (h : due baseline proposed forced = true) {after : Record E}
    {queue' : DeferredWork σ} {s' : Scope β σ}
    (hpass : (nextPass engine id pass baseline proposed queue).run s = (.ok (after, queue'), s')) :
    (runFrom engine id pass baseline proposed queue forced (left + 1)).run s =
      (runFrom engine id (pass + 1) proposed after queue' false left).run s' := by
  rw [runFrom_succ h, SessionM.run_bind, hpass]

/-- A pass that was stopped stops the run. -/
theorem runFrom_of_error (h : due baseline proposed forced = true) {failure : Failure}
    {s' : Scope β σ}
    (hpass : (nextPass engine id pass baseline proposed queue).run s = (.error failure, s')) :
    (runFrom engine id pass baseline proposed queue forced (left + 1)).run s =
      (.error failure, s') := by
  rw [runFrom_succ h, SessionM.run_bind, hpass]

theorem passesFrom_of_not_due (h : due baseline proposed forced = false) :
    passesFrom engine id pass baseline proposed queue forced left s = [] := by
  cases left with
  | zero => rfl
  | succ left => exact if_pos (by rw [← not_due, h]; rfl)

theorem passesFrom_of_ok (h : due baseline proposed forced = true) {after : Record E}
    {queue' : DeferredWork σ} {s' : Scope β σ}
    (hpass : (nextPass engine id pass baseline proposed queue).run s = (.ok (after, queue'), s')) :
    passesFrom engine id pass baseline proposed queue forced (left + 1) s =
      nextEntry engine id pass baseline proposed queue s ::
        passesFrom engine id (pass + 1) proposed after queue' false left s' := by
  conv => lhs; unfold passesFrom
  rw [← not_due, h, hpass]
  rfl

theorem passesFrom_of_error (h : due baseline proposed forced = true) {failure : Failure}
    {s' : Scope β σ}
    (hpass : (nextPass engine id pass baseline proposed queue).run s = (.error failure, s')) :
    passesFrom engine id pass baseline proposed queue forced (left + 1) s =
      [nextEntry engine id pass baseline proposed queue s] := by
  conv => lhs; unfold passesFrom
  rw [← not_due, h, hpass]
  rfl

/-- A pass is the turns of all handlers within a span, which the session does not notice. -/
theorem dispatchAll_of_nextPass {result : Except Failure (Record E × DeferredWork σ)}
    {s' : Scope β σ}
    (hpass : (nextPass engine id pass baseline proposed queue).run s = (result, s')) :
    ∃ s₁, (dispatchAll engine id (pass + 1) (FieldMask.diff baseline proposed) baseline
        (engine.registry.handlers E) proposed queue).run
          { s with world.trace := (s.world.trace.enter (.iteration E.name id (pass + 1))).2 } =
            (result, s₁) ∧
      s'.session = s₁.session := by
  obtain ⟨hresult, hs'⟩ := Prod.mk.inj hpass
  refine ⟨_, Prod.ext hresult rfl, ?_⟩
  rw [← hs']
  rfl

theorem nextEntry_result {result : Except Failure (Record E × DeferredWork σ)} {s' : Scope β σ}
    (hrun : (nextPass engine id pass baseline proposed queue).run s = (result, s')) :
    (nextEntry engine id pass baseline proposed queue s).result = result.map (·.1) := by
  rw [nextEntry, hrun]

/-- A pass that comes to its end has changed the record if that makes another pass due. -/
theorem nextEntry_changed {after : Record E} {queue' : DeferredWork σ} {s' : Scope β σ}
    (hrun : (nextPass engine id pass baseline proposed queue).run s = (.ok (after, queue'), s')) :
    (nextEntry engine id pass baseline proposed queue s).Changed ↔
      due proposed after false = true := by
  rw [due, Bool.not_false, Bool.and_true, Bool.not_eq_true', FieldMask.isEmpty_eq_false_iff]
  constructor
  · rintro ⟨after', hresult, i, hi⟩
    obtain rfl := Except.ok.inj ((nextEntry_result hrun).symm.trans hresult)
    exact ⟨i, FieldMask.contains_diff_iff.2 hi⟩
  · rintro ⟨i, hi⟩
    exact ⟨after, nextEntry_result hrun, i, FieldMask.contains_diff_iff.1 hi⟩

/-- A pass that does not make another one due has settled. -/
theorem nextEntry_settled {after : Record E} {queue' : DeferredWork σ} {s' : Scope β σ}
    (hrun : (nextPass engine id pass baseline proposed queue).run s = (.ok (after, queue'), s'))
    (hdue : due proposed after false = false) :
    (nextEntry engine id pass baseline proposed queue s).Settled :=
  ⟨after, nextEntry_result hrun, (due_eq_false_iff.1 hdue).2⟩

theorem nextEntry_not_changed {failure : Failure} {s' : Scope β σ}
    (hrun : (nextPass engine id pass baseline proposed queue).run s = (.error failure, s')) :
    ¬ (nextEntry engine id pass baseline proposed queue s).Changed := by
  rintro ⟨after, hresult, -⟩
  rw [nextEntry_result hrun] at hresult
  cases hresult

theorem nextPass_error {failure : Failure} {s' : Scope β σ}
    (hpass : (nextPass engine id pass baseline proposed queue).run s = (.error failure, s')) :
    ∃ handler ∈ (nextEntry engine id pass baseline proposed queue s).called,
      ∃ entry, (proposed.id = id → entry.id = id) ∧
        Returned handler id baseline entry (.error failure) := by
  obtain ⟨s₁, hrun, -⟩ := dispatchAll_of_nextPass hpass
  exact dispatchAll_error hrun

/-- The limit stops no pass that has begun. -/
theorem nextPass_not_limit {failure : Failure} {s' : Scope β σ}
    (hpass : (nextPass engine id pass baseline proposed queue).run s = (.error failure, s'))
    (entity id' : String) (limit : Nat) : failure ≠ .iterationLimit entity id' limit := by
  rintro rfl
  obtain ⟨handler, -, entry, -, hreturned⟩ := nextPass_error hpass
  cases hreturned

end Steps

/-! ## The course of a run -/

/-- The course that a run takes from some pass on, with its account, its result and where it ends.
No pass is due and the run has converged, or one is due and none is left, or one is stopped, or it
comes to its end and the run goes on. -/
inductive Course (engine : Engine β σ) (id : String) :
    Nat → Record E → Record E → DeferredWork σ → Bool → Nat → Scope β σ → List (Pass σ E) →
      Except Failure (Outcome σ E) → Scope β σ → Prop where
  | settled {pass : Nat} {baseline proposed : Record E} {queue : DeferredWork σ} {forced : Bool}
      {left : Nat} {s : Scope β σ} (hdue : due baseline proposed forced = false) :
      Course engine id pass baseline proposed queue forced left s []
        (.ok ⟨pass, proposed, queue⟩) s
  | exhausted {pass : Nat} {baseline proposed : Record E} {queue : DeferredWork σ} {forced : Bool}
      {s : Scope β σ} (hdue : due baseline proposed forced = true) :
      Course engine id pass baseline proposed queue forced 0 s []
        (.error (.iterationLimit E.name id engine.config.maxPasses.toNat)) s
  | stopped {pass : Nat} {baseline proposed : Record E} {queue : DeferredWork σ} {forced : Bool}
      {left : Nat} {s s' : Scope β σ} {failure : Failure}
      (hdue : due baseline proposed forced = true)
      (hpass : (nextPass engine id pass baseline proposed queue).run s = (.error failure, s')) :
      Course engine id pass baseline proposed queue forced (left + 1) s
        [nextEntry engine id pass baseline proposed queue s] (.error failure) s'
  | passed {pass : Nat} {baseline proposed after : Record E} {queue queue' : DeferredWork σ}
      {forced : Bool} {left : Nat} {s s₁ s' : Scope β σ} {later : List (Pass σ E)}
      {result : Except Failure (Outcome σ E)} (hdue : due baseline proposed forced = true)
      (hpass : (nextPass engine id pass baseline proposed queue).run s = (.ok (after, queue'), s₁))
      (hrest : Course engine id (pass + 1) proposed after queue' false left s₁ later result s') :
      Course engine id pass baseline proposed queue forced (left + 1) s
        (nextEntry engine id pass baseline proposed queue s :: later) result s'

section Courses

variable {engine : Engine β σ} {id : String} {pass : Nat} {baseline proposed : Record E}
  {queue : DeferredWork σ} {forced : Bool} {left : Nat} {s s' : Scope β σ}
  {account : List (Pass σ E)} {result : Except Failure (Outcome σ E)}

/-- Every run takes a course. -/
theorem course_of_runFrom
    (hrun : (runFrom engine id pass baseline proposed queue forced left).run s = (result, s')) :
    Course engine id pass baseline proposed queue forced left s
      (passesFrom engine id pass baseline proposed queue forced left s) result s' := by
  induction left generalizing pass baseline proposed queue forced s with
  | zero =>
    cases hdue : due baseline proposed forced with
    | false =>
      rw [runFrom_of_not_due hdue] at hrun
      rw [passesFrom_of_not_due hdue]
      cases hrun
      exact .settled hdue
    | true =>
      rw [runFrom_zero hdue] at hrun
      cases hrun
      exact .exhausted hdue
  | succ left ih =>
    cases hdue : due baseline proposed forced with
    | false =>
      rw [runFrom_of_not_due hdue] at hrun
      rw [passesFrom_of_not_due hdue]
      cases hrun
      exact .settled hdue
    | true =>
      rcases hpass : (nextPass engine id pass baseline proposed queue).run s with ⟨answer, s₁⟩
      cases answer with
      | error failure =>
        rw [runFrom_of_error hdue hpass] at hrun
        rw [passesFrom_of_error hdue hpass]
        cases hrun
        exact .stopped hdue hpass
      | ok pair =>
        rw [runFrom_of_ok hdue hpass] at hrun
        rw [passesFrom_of_ok hdue hpass]
        exact .passed hdue hpass (ih hrun)

theorem Course.length_le
    (h : Course engine id pass baseline proposed queue forced left s account result s') :
    account.length ≤ left := by
  induction h with
  | settled => exact Nat.zero_le _
  | exhausted => exact Nat.le_refl 0
  | stopped => exact Nat.succ_le_succ (Nat.zero_le _)
  | passed hdue hpass hrest ih => exact Nat.succ_le_succ ih

theorem Course.account_of_not_due
    (h : Course engine id pass baseline proposed queue forced left s account result s')
    (hdue : due baseline proposed forced = false) : account = [] := by
  cases h with
  | settled => rfl
  | exhausted => rfl
  | stopped hdue' | passed hdue' =>
    rw [hdue] at hdue'
    cases hdue'

/-- A pass that took place was due. -/
theorem Course.due_of_ne_nil
    (h : Course engine id pass baseline proposed queue forced left s account result s')
    (hne : account ≠ []) : due baseline proposed forced = true := by
  by_contra hdue
  rw [Bool.not_eq_true] at hdue
  exact hne (h.account_of_not_due hdue)

/-- What a run that converges did: nothing, if no pass was due, and otherwise passes that changed
the record up to a last one that did not. -/
theorem Course.converged
    (h : Course engine id pass baseline proposed queue forced left s account result s')
    {out : Outcome σ E} (hout : result = .ok out) :
    out.passes = pass + account.length ∧
      ((due baseline proposed forced = false ∧ out = ⟨pass, proposed, queue⟩ ∧ s' = s) ∨
        ∃ earlier last, account = earlier ++ [last] ∧ last.Settled ∧ last.result = .ok out.record ∧
          ∀ p ∈ earlier, p.Changed) := by
  induction h with
  | settled hdue =>
    obtain rfl := Except.ok.inj hout
    exact ⟨rfl, .inl ⟨hdue, rfl, rfl⟩⟩
  | exhausted => cases hout
  | stopped => cases hout
  | passed hdue hpass hrest ih =>
    obtain ⟨hcount, hend⟩ := ih hout
    refine ⟨by rw [hcount, List.length_cons]; omega, .inr ?_⟩
    rcases hend with ⟨hlast, rfl, -⟩ | ⟨earlier, last, rfl, hsettled, hrecord, hearlier⟩
    · rw [hrest.account_of_not_due hlast]
      exact ⟨[], _, rfl, nextEntry_settled hpass hlast, nextEntry_result hpass,
        List.forall_mem_nil _⟩
    · -- A later pass took place, so this one made it due.
      have hdue' := hrest.due_of_ne_nil (List.append_ne_nil_of_right_ne_nil _ (by simp))
      exact ⟨_ :: earlier, last, rfl, hsettled, hrecord,
        List.forall_mem_cons.2 ⟨(nextEntry_changed hpass).2 hdue', hearlier⟩⟩

/-- The limit stops a run that has made all the passes allowed, if each of them changed the record
and so made another one due. -/
theorem Course.limit_iff
    (h : Course engine id pass baseline proposed queue forced left s account result s')
    {entity id' : String} {limit : Nat} :
    result = .error (.iterationLimit entity id' limit) ↔
      (entity = E.name ∧ id' = id ∧ limit = engine.config.maxPasses.toNat) ∧
        due baseline proposed forced = true ∧ account.length = left ∧ ∀ p ∈ account, p.Changed := by
  induction h with
  | settled hdue =>
    refine iff_of_false (fun h => by cases h) fun h => ?_
    rw [hdue] at h
    cases h.2.1
  | exhausted hdue =>
    constructor
    · intro h
      cases h
      exact ⟨⟨rfl, rfl, rfl⟩, hdue, rfl, List.forall_mem_nil _⟩
    · rintro ⟨⟨rfl, rfl, rfl⟩, -⟩
      rfl
  | stopped hdue hpass =>
    refine iff_of_false (fun h => ?_) fun h => ?_
    · exact nextPass_not_limit hpass entity id' limit (Except.error.inj h)
    · exact nextEntry_not_changed hpass (h.2.2.2 _ List.mem_cons_self)
  | passed hdue hpass hrest ih =>
    rw [ih, hdue, List.length_cons, List.forall_mem_cons, nextEntry_changed hpass,
      Nat.add_right_cancel_iff]
    tauto

/-- Passes that were not needed make no difference. -/
theorem Course.larger
    (h : Course engine id pass baseline proposed queue forced left s account result s')
    {engine' : Engine β σ} (hbackend : engine'.backend = engine.backend)
    (hregistry : engine'.registry = engine.registry) {larger : Nat} (hlarger : left ≤ larger)
    {out : Outcome σ E} (hout : result = .ok out) :
    (runFrom engine' id pass baseline proposed queue forced larger).run s = (result, s') := by
  induction h generalizing larger with
  | settled hdue =>
    rw [runFrom_of_not_due hdue]
    rfl
  | exhausted => cases hout
  | stopped => cases hout
  | @passed pass baseline proposed after queue queue' _ _ _ _ _ _ _ hdue hpass hrest ih =>
    obtain ⟨larger, rfl⟩ := Nat.exists_eq_add_of_le' hlarger
    have hpass' : nextPass engine' id pass baseline proposed queue =
        nextPass engine id pass baseline proposed queue := by
      rw [nextPass, hregistry, dispatchAll_congr hbackend]
      rfl
    rw [← Nat.add_assoc, runFrom_of_ok hdue (hpass' ▸ hpass)]
    exact ih (Nat.le_add_left _ _) hout

end Courses

/-! ## The count and the limit -/

/-- **Passes are counted exactly, and the limit is exact.** A run that converges counts the passes
of its account, within the limit: none, if none was asked for and the records agreed from the start,
in which case it does nothing at all; and otherwise passes each of which changed the record, up to a
last one that changed no field. A run is stopped by the limit just if it made all the passes allowed
and each of them changed the record. A run that converges does so under any larger limit too, to the
same record with the same queue, and leaves the same session and the same world. -/
theorem run_passes_exact (engine : Engine β σ) (hlimit : 1 ≤ engine.config.maxPasses)
    (baseline proposed : Record E) (forceFirst : Bool) (s : Scope β σ) :
    (∀ out s', (run engine baseline proposed forceFirst).run s = (.ok out, s') →
      out.passes ≤ engine.config.maxPasses.toNat ∧
      out.passes = (passes engine baseline proposed forceFirst s).length ∧
      ((out.passes = 0 ∧ forceFirst = false ∧
          (∀ i, (baseline.field i).agrees (proposed.field i) = true) ∧
          out.record = proposed ∧ out.queue = .empty ∧ s' = s) ∨
        ∃ earlier last, passes engine baseline proposed forceFirst s = earlier ++ [last] ∧
          last.Settled ∧ last.result = .ok out.record ∧ ∀ p ∈ earlier, p.Changed)) ∧
    (∀ entity id limit,
      ((run engine baseline proposed forceFirst).run s).1 =
          .error (.iterationLimit entity id limit) ↔
        (entity = E.name ∧ id = proposed.id ∧ limit = engine.config.maxPasses.toNat) ∧
          (passes engine baseline proposed forceFirst s).length = limit ∧
          ∀ p ∈ passes engine baseline proposed forceFirst s, p.Changed) ∧
    ∀ larger, engine.config.maxPasses ≤ larger → ∀ out s',
      (run engine baseline proposed forceFirst).run s = (.ok out, s') →
        (run { engine with config.maxPasses := larger } baseline proposed forceFirst).run s =
          (.ok out, s') := by
  refine ⟨fun out s' hrun => ?_, fun entity id limit => ?_, fun larger hlarger out s' hrun => ?_⟩
  · have hcourse := course_of_runFrom hrun
    obtain ⟨hcount, hend⟩ := hcourse.converged rfl
    rw [Nat.zero_add] at hcount
    refine ⟨hcount ▸ hcourse.length_le, hcount, ?_⟩
    rcases hend with ⟨hdue, rfl, rfl⟩ | hend
    · obtain ⟨hforced, hagree⟩ := due_eq_false_iff.1 hdue
      exact .inl ⟨rfl, hforced, hagree, rfl, rfl, rfl⟩
    · exact .inr hend
  · have hpositive : 0 < engine.config.maxPasses.toNat := UInt32.le_iff_toNat_le.1 hlimit
    have hcourse := course_of_runFrom (Prod.eta
      ((run engine baseline proposed forceFirst).run s)).symm
    rw [hcourse.limit_iff]
    constructor
    · rintro ⟨⟨hentity, hid, rfl⟩, -, hlength, hchanged⟩
      exact ⟨⟨hentity, hid, rfl⟩, hlength, hchanged⟩
    · rintro ⟨⟨hentity, hid, rfl⟩, hlength, hchanged⟩
      -- A limit of at least one pass was reached, so the first pass was due.
      refine ⟨⟨hentity, hid, rfl⟩, hcourse.due_of_ne_nil ?_, hlength, hchanged⟩
      exact List.ne_nil_of_length_pos (Nat.lt_of_lt_of_eq hpositive hlength.symm)
  · have hbackend : { engine with config.maxPasses := larger }.backend = engine.backend := rfl
    exact (course_of_runFrom hrun).larger hbackend rfl (UInt32.le_iff_toNat_le.1 hlarger) rfl

end Convergence

/-! ## Two handlers that undo each other's work -/

def switchType : EntityType where
  name := "switch"
  fields := [{ name := "id", role := some .identifier, type := .text },
    { name := "left", type := .boolean }, { name := "right", type := .boolean }]

def switch (left right : Bool) : Record switchType :=
  ⟨[.text "a", .boolean left, .boolean right], ⟨rfl, rfl, rfl, trivial⟩⟩

/-- Flips one side whenever the other one changed. -/
def flips (name : String) (watched : Nat) (flip : Record switchType → Record switchType) :
    Handler Unit switchType where
  name
  trigger := some (.ofIndices 3 [watched])
  function _ _ proposed := .done (.ok (flip proposed))

def isOn (r : Record switchType) (side : Nat) : Bool := r.field side = .boolean true

def switchEngine : Engine Memory Unit where
  registry := ⟨[⟨switchType, flips "flip_right" 1 fun r => switch (isOn r 1) (!isOn r 2)⟩,
    ⟨switchType, flips "flip_left" 2 fun r => switch (!isOn r 1) (isOn r 2)⟩]⟩
  backend := .memory
  config := { maxPasses := 3 }
  nesting := 0

def switchScope : Scope Memory Unit where
  world :=
    { backend := .empty none
      trace := .numbering 0
      clock := .ofNanos
      ids := fun _ => ⟨"new", by decide⟩
      host := () }
  session := .start ⟨1⟩ (.ofId "ann") {}

/-- A switch with both sides off is stored, and a transaction has been opened since. -/
def switchWorld : World Memory Unit where
  backend :=
    ⟨Store.empty.run [.begin, .insert ⟨1⟩ (switchType.key "a") (switch false false).toRow,
      .commit ⟨1⟩, .begin], none⟩
  trace := .recorder .empty
  clock := .ofNanos
  ids _ := ⟨"new", by decide⟩
  host := ()

theorem switch_never_settles :
    1 ≤ switchEngine.config.maxPasses ∧
      ((Convergence.run switchEngine (switch false false) (switch true false) false).run
        switchScope).1 = .error (.iterationLimit "switch" "a" 3) ∧
      (Convergence.passes switchEngine (switch false false) (switch true false) false
        switchScope).length = 3 ∧
      ∀ p ∈ Convergence.passes switchEngine (switch false false) (switch true false) false
        switchScope, p.Changed := by
  have hlimit : 1 ≤ switchEngine.config.maxPasses := by decide
  have hrun : ((Convergence.run switchEngine (switch false false) (switch true false) false).run
      switchScope).1 = .error (.iterationLimit "switch" "a" 3) :=
    map_eq_error.1 (show Except.map (fun _ => ()) _ = _ by decide +kernel)
  obtain ⟨-, hstopped, -⟩ := Convergence.run_passes_exact switchEngine hlimit
    (switch false false) (switch true false) false switchScope
  obtain ⟨-, hlength, hchanged⟩ := (hstopped _ _ _).1 hrun
  exact ⟨hlimit, hrun, hlength, hchanged⟩

end RecordEngine
