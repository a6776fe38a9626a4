import RecordEngine.Proofs.Session.Failing
import RecordEngine.Proofs.Store.LifeCycle
import RecordEngine.Retry
/-!
Saving again after a lost race.

Every attempt runs in a transaction of its own, between the calls of which others go on using the
store. `Backend.Shares` says what others may do there: anything, except in transactions that this
backend opened. The account of a retried save is the list of its trials (`Engine.Retries`); what
becomes of the transaction of one trial (`Engine.Makes.settles`) carries over to all of them,
because a transaction that has been ended is not opened, written or committed again.
-/

set_option autoImplicit false

namespace RecordEngine

variable {β σ : Type} {E : EntityType}

/-! ## What a run does to one transaction -/

theorem Event.call_of_commits? {e : Event} {tx : TxId} (h : e.commits? = some tx) :
    e.call = .commit tx := by
  unfold Event.commits? at h
  split at h
  · obtain rfl := Option.some.inj h
    rfl
  · cases h

namespace Store

variable {s : Store} {tx : TxId}

theorem Sound.nextTx_le_run (hs : s.Sound) (calls : List Call) :
    s.nextTx ≤ (s.run calls).nextTx := by
  induction calls generalizing s with
  | nil => exact Nat.le_refl _
  | cons c rest ih => exact Nat.le_trans (effect_step hs c).nextTx_le (ih (hs.step c))

/-- A transaction stays open as long as nobody ends it. -/
theorem Sound.open_run (hs : s.Sound) (hopen : s.transactions.get? tx ≠ none) {calls : List Call}
    (hcalls : ∀ c ∈ calls, c ≠ .commit tx ∧ c ≠ .rollback tx) :
    (s.run calls).transactions.get? tx ≠ none := by
  induction calls generalizing s with
  | nil => exact hopen
  | cons c rest ih =>
    obtain ⟨hc, hrest⟩ := List.forall_mem_cons.1 hcalls
    obtain ⟨t, ht⟩ := Option.ne_none_iff_exists'.1 hopen
    obtain ⟨t', ht', -⟩ := (effect_step hs c).in_sight (hs.fresh tx t ht) hc.1 hc.2 ht
    exact ih (hs.step c) (by rw [ht']; exact Option.some_ne_none t') hrest

/-! ### Commits of a run -/

/-- How often a transaction commits in a run. -/
def commitsOf (s : Store) (calls : List Call) (tx : TxId) : Nat :=
  (committedIn (s.transcript calls)).count tx

theorem commitsOf_append (s : Store) (a b : List Call) (tx : TxId) :
    s.commitsOf (a ++ b) tx = s.commitsOf a tx + (s.run a).commitsOf b tx := by
  rw [commitsOf, transcript_append, committedIn_append, List.count_append]
  rfl

/-- An open transaction commits when told to, and once. -/
theorem commitsOf_commit (s : Store) (tx : TxId) :
    s.commitsOf [.commit tx] tx = if (s.step (.commit tx)).1.isOk then 1 else 0 := by
  rw [commitsOf, transcript, transcript, committedIn]
  cases (s.step (.commit tx)).1 with
  | error failure => rfl
  | ok answer => exact List.count_singleton_self

/-- Another call commits nothing of it. -/
theorem commitsOf_singleton {c : Call} (hc : c ≠ .commit tx) : s.commitsOf [c] tx = 0 := by
  rw [commitsOf, List.count_eq_zero]
  intro hmem
  obtain ⟨e, he, hcommits⟩ := List.mem_filterMap.1 hmem
  obtain rfl := List.mem_singleton.1 he
  exact hc (Event.call_of_commits? hcommits)

/-- Who is not told to commit does not. -/
theorem commitsOf_eq_zero_of_not_mem {calls : List Call} (h : Call.commit tx ∉ calls) :
    s.commitsOf calls tx = 0 := by
  induction calls generalizing s with
  | nil => rfl
  | cons c rest ih =>
    obtain ⟨hc, hrest⟩ := not_or.1 (mt List.mem_cons.2 h)
    rw [← List.singleton_append, commitsOf_append, ih hrest, commitsOf_singleton (Ne.symm hc)]

/-- A transaction commits only if it is open at some time, and then it has a number. -/
theorem Sound.commitsOf_eq_zero (hs : s.Sound) {calls : List Call}
    (h : s.Ended tx ∨ (s.run calls).nextTx ≤ tx.number) : s.commitsOf calls tx = 0 := by
  induction calls generalizing s with
  | nil => rfl
  | cons c rest ih =>
    have hstep : (s.step c).2.Ended tx ∨ ((s.step c).2.run rest).nextTx ≤ tx.number :=
      h.imp (effect_step hs c).ended id
    rw [← List.singleton_append, commitsOf_append]
    refine Nat.add_eq_zero_iff.2 ⟨?_, ih (hs.step c) hstep⟩
    by_cases hc : c = .commit tx
    · subst hc
      rw [commitsOf_commit, if_neg]
      intro hok
      -- It would have to be open.
      have heffect := effect_step hs (.commit tx)
      generalize (s.step (.commit tx)).1 = answer at heffect hok
      cases answer with
      | error failure => cases hok
      | ok answer =>
        obtain ⟨t, ht⟩ : ∃ t, s.transactions.get? tx = some t := heffect.open_of_commits rfl
        rcases h with hended | hnext
        · rw [hended.closed] at ht
          cases ht
        · have hle := hs.nextTx_le_run (.commit tx :: rest)
          have hlt := hs.fresh tx t ht
          omega
    · exact commitsOf_singleton hc

/-- At one of its calls in a run, a transaction changed what is committed. -/
def ChangedBy (s : Store) (calls : List Call) (tx : TxId) : Prop :=
  ∃ past c future, calls = past ++ c :: future ∧ c.tx? = some tx ∧
    (((s.run past).step c).2.rows ≠ (s.run past).rows ∨
      ((s.run past).step c).2.audits ≠ (s.run past).audits)

/-- A transaction that does not commit changes nothing that is committed. -/
theorem Sound.not_changedBy (hs : s.Sound) {calls : List Call} (h : s.commitsOf calls tx = 0) :
    ¬ s.ChangedBy calls tx := by
  rintro ⟨past, c, future, rfl, hc, hchanged⟩
  rw [← not_and_or] at hchanged
  refine hchanged ?_
  have heffect := effect_step (hs.run past) c
  have hzero : (s.run past).commitsOf [c] tx = 0 := by
    rw [← List.singleton_append, commitsOf_append, commitsOf_append] at h
    omega
  by_cases hcommit : c = .commit tx
  · subst hcommit
    rw [commitsOf_commit] at hzero
    generalize ((s.run past).step (.commit tx)).1 = answer at heffect hzero
    generalize ((s.run past).step (.commit tx)).2 = s' at heffect ⊢
    cases heffect with
    | unknown => exact ⟨rfl, rfl⟩
    | committed => cases hzero
    | conflicted => exact ⟨rfl, rfl⟩
  · generalize ((s.run past).step c).1 = answer at heffect
    generalize ((s.run past).step c).2 = s' at heffect ⊢
    cases heffect with
    | committed other =>
      obtain rfl := Option.some.inj hc
      exact absurd rfl hcommit
    | _ => exact ⟨rfl, rfl⟩

end Store

/-! ## The account of a retried save -/

namespace Session

open SessionM

/-- How a find-and-modify goes, as far as it gets: the record is loaded, the change is called with
it and with the state of the host, and the record that the change gives is saved. The list holds
what the change was called with. -/
inductive Tried (engine : Engine β σ) (id : String) (change : Transform σ E) (s : Scope β σ) :
    List (Record E × σ) → Except Failure (Record E) → Scope β σ → Prop where
  | unread (failure : Failure) (s₁ : Scope β σ)
      (hload : (load engine E id).run s = (.error failure, s₁)) :
      Tried engine id change s [] (.error failure) s₁
  | declined (stored : Record E) (s₁ : Scope β σ) (failure : Failure) (host : σ)
      (hload : (load engine E id).run s = (.ok stored, s₁))
      (hchange : change stored s₁.world.host = (.error failure, host)) :
      Tried engine id change s [(stored, s₁.world.host)] (.error failure)
        { s₁ with world.host := host }
  | saved (stored given : Record E) (s₁ s₂ : Scope β σ) (host : σ)
      (result : Except Failure (Record E))
      (hload : (load engine E id).run s = (.ok stored, s₁))
      (hchange : change stored s₁.world.host = (.ok given, host))
      (hsave : (save engine given).run { s₁ with world.host := host } = (result, s₂)) :
      Tried engine id change s [(stored, s₁.world.host)] result s₂

variable {engine : Engine β σ} {id : String} {change : Transform σ E} {s s' : Scope β σ}
  {called : List (Record E × σ)} {result : Except Failure (Record E)}

theorem Tried.length_le (h : Tried engine id change s called result s') : called.length ≤ 1 := by
  cases h with
  | unread => exact Nat.zero_le 1
  | declined => exact Nat.le_refl 1
  | saved => exact Nat.le_refl 1

/-- A find-and-modify with a change that does the same where it is called goes the same way. -/
theorem Tried.run (h : Tried engine id change s called result s') {other : Transform σ E}
    (hother : ∀ p ∈ called, other p.1 p.2 = change p.1 p.2) :
    (findAndModify engine id other).run s = (result, s') := by
  rw [findAndModify_eq]
  cases h with
  | unread failure s₁ hload => exact run_bind_of_error hload
  | declined stored s₁ failure host hload hchange =>
    have hcalled := hother _ (List.mem_singleton_self _)
    rw [run_bind_of_ok hload]
    refine run_bind_of_error ?_
    change ((other stored s₁.world.host).1, { s₁ with
      world.host := (other stored s₁.world.host).2 }) = _
    rw [hcalled, hchange]
  | saved stored given s₁ s₂ host result hload hchange hsave =>
    have hcalled := hother _ (List.mem_singleton_self _)
    have happly : (other.apply stored).run s₁ = (.ok given, { s₁ with world.host := host }) := by
      change ((other stored s₁.world.host).1, { s₁ with
        world.host := (other stored s₁.world.host).2 }) = _
      rw [hcalled, hchange]
    rw [run_bind_of_ok hload, run_bind_of_ok happly]
    exact hsave

theorem tried_findAndModify (engine : Engine β σ) (id : String) (change : Transform σ E)
    (s : Scope β σ) : ∃ called, Tried engine id change s called
      ((findAndModify engine id change).run s).1 ((findAndModify engine id change).run s).2 := by
  cases hload : (load engine E id).run s with
  | mk loaded s₁ =>
    cases loaded with
    | error failure =>
      have htried : Tried engine id change s [] (.error failure) s₁ := .unread failure s₁ hload
      refine ⟨[], ?_⟩
      rw [htried.run fun _ _ => rfl]
      exact htried
    | ok stored =>
      refine ⟨[(stored, s₁.world.host)], ?_⟩
      cases hchange : change stored s₁.world.host with
      | mk changed host =>
        cases changed with
        | error failure =>
          have htried := Tried.declined stored s₁ failure host hload hchange
          rw [htried.run fun _ _ => rfl]
          exact htried
        | ok given =>
          cases hsave : (save engine given).run { s₁ with world.host := host } with
          | mk result s₂ =>
            have htried := Tried.saved stored given s₁ s₂ host result hload hchange hsave
            rw [htried.run fun _ _ => rfl]
            exact htried

end Session

/-- One attempt of a retried save. -/
structure Trial (E : EntityType) (σ : Type) where
  tx : TxId
  /-- What the change was called with. -/
  called : List (Record E × σ)
  result : Except Failure (Record E)

namespace Engine

section
variable (engine : Engine β σ) (actor : Actor) (options : Options) (id : String)
  (change : Transform σ E)

/-- An attempt begins a session, has the record modified in it, and ends it. -/
def Makes (w : World β σ) (trial : Trial E σ) (w' : World β σ) : Prop :=
  ∃ w₁ result s₁,
    (engine.begin actor options).run w = (.ok (Session.start trial.tx actor options), w₁) ∧
    Session.Tried engine id change ⟨w₁, Session.start trial.tx actor options⟩ trial.called result
      s₁ ∧
    (engine.endAttempt s₁.session result).run s₁.world = (trial.result, w')

/-- The attempts made from number `number` on, after which `left` more are allowed, with their
outcome. -/
inductive Retries : (number left : Nat) → World β σ → List (Trial E σ) → RetryOutcome E →
    World β σ → Prop where
  | last (number left : Nat) (w : World β σ) (trial : Trial E σ) (w' : World β σ)
      (hmakes : engine.Makes actor options id change w trial w')
      (hlast : ∀ failure, trial.result = .error failure → failure.retryable = true → left = 0) :
      Retries number left w [trial] ⟨trial.result, []⟩ w'
  | again (number left : Nat) (w : World β σ) (trial : Trial E σ) (w₁ : World β σ)
      (failure : Failure) (trials : List (Trial E σ)) (outcome : RetryOutcome E) (w' : World β σ)
      (hmakes : engine.Makes actor options id change w trial w₁)
      (hfailed : trial.result = .error failure) (hretry : failure.retryable = true)
      (hrest : Retries (number + 1) left w₁ trials outcome w') :
      Retries number (left + 1) w (trial :: trials)
        { outcome with waits := engine.config.retry.backoff number :: outcome.waits } w'

end

variable {engine : Engine β σ} {actor : Actor} {options : Options} {id : String}
  {change : Transform σ E} {number left : Nat} {w w' : World β σ} {trial : Trial E σ}
  {trials : List (Trial E σ)} {outcome : RetryOutcome E}

/-- An attempt has the record modified and ends the session accordingly. -/
theorem attempt_run (engine : Engine β σ) (session : Session) (id : String)
    (change : Transform σ E) (w : World β σ) :
    (engine.attempt session id change).run w =
      (engine.endAttempt ((Session.findAndModify engine id change).run ⟨w, session⟩).2.session
          ((Session.findAndModify engine id change).run ⟨w, session⟩).1).run
        ((Session.findAndModify engine id change).run ⟨w, session⟩).2.world := rfl

theorem Makes.run (h : engine.Makes actor options id change w trial w') {other : Transform σ E}
    (hother : ∀ p ∈ trial.called, other p.1 p.2 = change p.1 p.2) :
    ∃ session w₁, (engine.begin actor options).run w = (.ok session, w₁) ∧
      (engine.attempt session id other).run w₁ = (trial.result, w') := by
  obtain ⟨w₁, result, s₁, hbegin, htried, hend⟩ := h
  refine ⟨_, w₁, hbegin, ?_⟩
  rw [attempt_run, htried.run hother]
  exact hend

/-- Where every backend opens transactions, an attempt is made. -/
theorem makes_attempt (hbegins : ∀ b, ∃ tx, (engine.backend.call .begin b).1 = .ok tx)
    (actor : Actor) (options : Options) (id : String) (change : Transform σ E) (w : World β σ) :
    ∃ trial w', engine.Makes actor options id change w trial w' := by
  obtain ⟨tx, htx⟩ := hbegins w.backend
  have hbegin := engine.begin_run actor options w
  rw [htx] at hbegin
  generalize hw₁ : ({ w with backend := (engine.backend.call .begin w.backend).2 } : World β σ) = w₁
    at hbegin
  obtain ⟨called, htried⟩ :=
    Session.tried_findAndModify engine id change ⟨w₁, Session.start tx actor options⟩
  generalize (Session.findAndModify engine id change).run
    ⟨w₁, Session.start tx actor options⟩ = out at htried
  obtain ⟨result, s₁⟩ := out
  cases hend : (engine.endAttempt s₁.session result).run s₁.world with
  | mk ended w' => exact ⟨⟨tx, called, ended⟩, w', w₁, result, s₁, hbegin, htried, hend⟩

/-- The account of a retried save tells how it goes, with every change that does the same where it
is called. -/
theorem Retries.run (h : engine.Retries actor options id change number left w trials outcome w')
    {other : Transform σ E}
    (hother : ∀ trial ∈ trials, ∀ p ∈ trial.called, other p.1 p.2 = change p.1 p.2) :
    engine.attempts actor options id other number left w = (outcome, w') := by
  induction h with
  | last number left w trial w' hmakes hlast =>
    obtain ⟨session, w₁, hbegin, hattempt⟩ := hmakes.run (hother trial (List.mem_singleton_self _))
    rw [attempts, hbegin]
    dsimp only
    rw [hattempt]
    cases hresult : trial.result with
    | ok record => rfl
    | error failure =>
      dsimp only
      by_cases hretry : failure.retryable = true
      · obtain rfl := hlast failure hresult hretry
        rw [if_pos hretry]
      · rw [if_neg hretry]
  | again number left w trial w₁ failure trials outcome w' hmakes hfailed hretry hrest ih =>
    obtain ⟨hfirst, hothers⟩ := List.forall_mem_cons.1 hother
    obtain ⟨session, w₂, hbegin, hattempt⟩ := hmakes.run hfirst
    rw [attempts, hbegin]
    dsimp only
    rw [hattempt, hfailed]
    dsimp only
    rw [if_pos hretry, ih hothers]

/-- Where every backend opens transactions, there is an account of every retried save. -/
theorem retries_attempts (hbegins : ∀ b, ∃ tx, (engine.backend.call .begin b).1 = .ok tx)
    (actor : Actor) (options : Options) (id : String) (change : Transform σ E)
    (number left : Nat) (w : World β σ) :
    ∃ trials outcome w',
      engine.Retries actor options id change number left w trials outcome w' := by
  induction left generalizing number w with
  | zero =>
    obtain ⟨trial, w₁, hmakes⟩ := makes_attempt hbegins actor options id change w
    exact ⟨_, _, w₁, .last number 0 w trial w₁ hmakes fun _ _ _ => rfl⟩
  | succ left ih =>
    obtain ⟨trial, w₁, hmakes⟩ := makes_attempt hbegins actor options id change w
    by_cases hagain : ∃ failure, trial.result = .error failure ∧ failure.retryable = true
    · obtain ⟨failure, hfailed, hretry⟩ := hagain
      obtain ⟨trials, outcome, w', hrest⟩ := ih (number + 1) w₁
      exact ⟨_, _, w', .again number left w trial w₁ failure trials outcome w' hmakes hfailed
        hretry hrest⟩
    · exact ⟨_, _, w₁, .last number (left + 1) w trial w₁ hmakes fun failure hfailed hretry =>
        absurd ⟨failure, hfailed, hretry⟩ hagain⟩

end Engine

/-! ## A store that others use as well -/

/-- A backend on a store that others use as well. Before a call is answered, others may have made
any calls, except in transactions that are this backend's own. -/
structure Backend.Shares (backend : Backend β) (store : β → Store) (mine : β → TxId → Prop) :
    Prop where
  call : ∀ c b, ∃ rivals : List Call,
    (∀ rival ∈ rivals, ∀ tx, rival.tx? = some tx → ¬ mine b tx) ∧
      (backend.call c b).1 = (((store b).run rivals).step c).1 ∧
      store (backend.call c b).2 = (((store b).run rivals).step c).2
  opened : ∀ b tx, (backend.call .begin b).1 = .ok tx → mine (backend.call .begin b).2 tx
  kept : ∀ c b tx, mine b tx → mine (backend.call c b).2 tx
  announce : ∀ notice b, store (backend.announce notice b).2 = store b ∧
    ∀ tx, mine b tx → mine (backend.announce notice b).2 tx

/-- Nobody else uses a store in memory. -/
theorem Backend.memory_shares : Backend.memory.Shares Memory.store fun _ _ => True where
  call _ _ := ⟨[], nofun, rfl, rfl⟩
  opened _ _ _ := trivial
  kept _ _ _ h := h
  announce _ _ := ⟨rfl, fun _ h => h⟩

/-- The call does not end a transaction. -/
structure Call.LeavesOpen (own : TxId) (c : Call) : Prop where
  commit : c ≠ .commit own
  rollback : c ≠ .rollback own

theorem Holder.grants_leavesOpen (who : Holder) (types : EntityType → Prop) :
    who.Grants types fun e => e.call.LeavesOpen who.tx where
  fetch _ _ _ := ⟨nofun, nofun⟩
  insert _ _ _ _ := ⟨nofun, nofun⟩
  update _ _ _ _ _ _ := ⟨nofun, nofun⟩
  audit _ _ := ⟨nofun, nofun⟩

theorem Call.leavesOpen_of_tx? {own : TxId} {c : Call} (h : ∀ tx, c.tx? = some tx → tx ≠ own) :
    c.LeavesOpen own where
  commit hc := h own (hc ▸ rfl) rfl
  rollback hc := h own (hc ▸ rfl) rfl

/-- Since a transaction was opened, nobody has ended it. -/
structure Backend.Pursues (store : β → Store) (mine : β → TxId → Prop) (start : Store) (own : TxId)
    (b : β) : Prop where
  mine : mine b own
  calls : ∃ calls, store b = start.run calls ∧ ∀ c ∈ calls, c.LeavesOpen own

section
variable {backend : Backend β} {store : β → Store} {mine : β → TxId → Prop} {start : Store}
  {own : TxId} (hshares : backend.Shares store mine)
include hshares

/-- Any call that leaves the transaction open, with what others do before it. -/
theorem Backend.Shares.guards (hstart : start.Sound)
    (hopen : start.transactions.get? own ≠ none) :
    backend.Guards own (Call.LeavesOpen own) (Backend.Pursues store mine start own) := by
  rintro c b hc ⟨hmine, calls, hcalls, hleaves⟩
  obtain ⟨rivals, hrivals, hanswer, hstore⟩ := hshares.call c b
  have hothers : ∀ call ∈ calls ++ rivals, call.LeavesOpen own := by
    refine List.forall_mem_append.2 ⟨hleaves, fun rival hrival => ?_⟩
    refine Call.leavesOpen_of_tx? fun tx htx => ?_
    rintro rfl
    exact hrivals rival hrival tx htx hmine
  rw [hcalls, ← Store.run_append] at hanswer hstore
  refine ⟨⟨hshares.kept c b own hmine, calls ++ rivals ++ [c], ?_, ?_⟩, ?_⟩
  · rw [hstore, Store.run_snoc]
  · exact List.forall_mem_append.2 ⟨hothers, List.forall_mem_singleton.2 hc⟩
  · cases c with
    | begin =>
      rw [hanswer]
      change (⟨(start.run (calls ++ rivals)).nextTx⟩ : TxId) ≠ own
      rintro rfl
      obtain ⟨t, ht⟩ := Option.ne_none_iff_exists'.1 <|
        hstart.open_run hopen fun call hcall => ⟨(hothers call hcall).1, (hothers call hcall).2⟩
      exact Nat.lt_irrefl _ ((hstart.run _).fresh _ t ht)
    | _ => trivial

theorem Backend.Shares.overhears : backend.Overhears (Backend.Pursues store mine start own) := by
  rintro notice b ⟨hmine, hcalls⟩
  obtain ⟨hstore, hkept⟩ := hshares.announce notice b
  exact ⟨hkept own hmine, by rw [hstore]; exact hcalls⟩

theorem Backend.Shares.begins (b : β) : ∃ tx, (backend.call .begin b).1 = .ok tx := by
  obtain ⟨rivals, -, hanswer, -⟩ := hshares.call .begin b
  exact ⟨_, hanswer⟩

end

/-! ## What becomes of the transactions -/

/-- In a run of calls, every trial had a transaction of its own, which was opened in the run and
ended in it, and committed just if the trial went well. -/
structure Store.Settled (s : Store) (calls : List Call) (trials : List (Trial E σ)) : Prop where
  fresh : ∀ trial ∈ trials, s.nextTx ≤ trial.tx.number
  apart : (trials.map (·.tx)).Nodup
  ended : ∀ trial ∈ trials, (s.run calls).Ended trial.tx
  commits : ∀ trial ∈ trials, s.commitsOf calls trial.tx = if trial.result.isOk then 1 else 0

/-- One trial and those after it. -/
theorem Store.Settled.cons {s : Store} (hs : s.Sound) {a b : List Call} {trial : Trial E σ}
    {trials : List (Trial E σ)} (h : s.Settled a [trial]) (hrest : (s.run a).Settled b trials) :
    s.Settled (a ++ b) (trial :: trials) := by
  have hself := List.mem_singleton_self trial
  have hended := h.ended trial hself
  have hlater (later : Trial E σ) (hlater : later ∈ trials) : s.nextTx ≤ later.tx.number :=
    Nat.le_trans (hs.nextTx_le_run a) (hrest.fresh later hlater)
  refine ⟨?_, ?_, ?_, ?_⟩
  · exact List.forall_mem_cons.2 ⟨h.fresh trial hself, hlater⟩
  · refine List.nodup_cons.2 ⟨fun hmem => ?_, hrest.apart⟩
    obtain ⟨later, hlater, htx⟩ := List.mem_map.1 hmem
    have hfresh := hrest.fresh later hlater
    rw [htx] at hfresh
    exact Nat.not_lt_of_le hfresh hended.begun
  · rw [run_append]
    exact List.forall_mem_cons.2 ⟨(hs.run a).ended_run hended b, hrest.ended⟩
  · refine List.forall_mem_cons.2 ⟨?_, fun later hlater => ?_⟩
    · rw [commitsOf_append, h.commits trial hself,
        (hs.run a).commitsOf_eq_zero (.inl hended), Nat.add_zero]
    · rw [commitsOf_append, hs.commitsOf_eq_zero (.inr (hrest.fresh later hlater)), Nat.zero_add,
        hrest.commits later hlater]

namespace Engine

variable {engine : Engine β σ} {actor : Actor} {options : Options} {id : String}
  {change : Transform σ E} {number left : Nat} {w w' : World β σ} {trial : Trial E σ}
  {trials : List (Trial E σ)} {outcome : RetryOutcome E}

section
variable {store : β → Store} {mine : β → TxId → Prop} (hshares : engine.backend.Shares store mine)
include hshares

/-- The calls of ending an attempt, with those of others before: the transaction is ended, and it
commits just if the attempt is reported to have gone well. -/
theorem endAttempt_settles {session : Session} {result ended : Except Failure (Record E)}
    (hmine : mine w.backend session.tx) (hsound : (store w.backend).Sound)
    (hopen : (store w.backend).transactions.get? session.tx ≠ none)
    (h : (engine.endAttempt session result).run w = (ended, w')) :
    ∃ calls, store w'.backend = (store w.backend).run calls ∧
      (store w'.backend).Ended session.tx ∧
      (store w.backend).commitsOf calls session.tx = if ended.isOk then 1 else 0 := by
  have hcall (c : Call) (hc : c = .commit session.tx ∨ c = .rollback session.tx) :
      ∃ rivals, (engine.backend.call c w.backend).1 =
          (((store w.backend).run rivals).step c).1 ∧
        store (engine.backend.call c w.backend).2 = (store w.backend).run (rivals ++ [c]) ∧
        (store (engine.backend.call c w.backend).2).Ended session.tx ∧
        (store w.backend).commitsOf rivals session.tx = 0 := by
    obtain ⟨rivals, hrivals, hanswer, hstore⟩ := hshares.call c w.backend
    have hothers : ∀ rival ∈ rivals, rival.LeavesOpen session.tx := by
      refine fun rival hrival => Call.leavesOpen_of_tx? fun tx htx => ?_
      rintro rfl
      exact hrivals rival hrival _ htx hmine
    have hstill := hsound.open_run hopen fun rival hrival =>
      ⟨(hothers rival hrival).commit, (hothers rival hrival).rollback⟩
    refine ⟨rivals, hanswer, ?_, ?_, ?_⟩
    · rw [hstore, Store.run_snoc]
    · rw [hstore]
      exact (hsound.run rivals).ended_step hc hstill
    · exact Store.commitsOf_eq_zero_of_not_mem fun hmem => (hothers _ hmem).commit rfl
  cases result with
  | error failure =>
    obtain ⟨rivals, -, hstore, hended, hnone⟩ := hcall (.rollback session.tx) (.inr rfl)
    obtain ⟨rfl, rfl⟩ := Prod.mk.inj h
    refine ⟨rivals ++ [Call.rollback session.tx], hstore, hended, ?_⟩
    have hrollback : Call.rollback session.tx ≠ .commit session.tx := nofun
    rw [Store.commitsOf_append, hnone, Store.commitsOf_singleton hrollback]
    rfl
  | ok record =>
    obtain ⟨rivals, hanswer, hstore, hended, hnone⟩ := hcall (.commit session.tx) (.inl rfl)
    obtain ⟨rfl, rfl⟩ := Prod.mk.inj h
    refine ⟨rivals ++ [Call.commit session.tx], hstore, hended, ?_⟩
    rw [Store.commitsOf_append, hnone, Store.commitsOf_commit, ← hanswer, Nat.zero_add]
    congr 1
    generalize (engine.backend.call (.commit session.tx) w.backend).1 = answer
    cases answer <;> rfl

variable (hheeds : ∀ own, engine.Heeds own (Call.LeavesOpen own) fun _ => True)
include hheeds

theorem findAndModify_maintains {start : Store} (hstart : start.Sound) {who : Holder}
    (hopen : start.transactions.get? who.tx ≠ none) (id : String) (change : Transform σ E) :
    SessionM.Maintains who (Backend.Pursues store mine start who.tx)
      (Session.findAndModify engine id change) fun _ => True := by
  have hguards := hshares.guards hstart hopen
  have hpermits := (who.grants_leavesOpen fun _ => True).permits
  rw [Session.findAndModify_eq]
  refine (Session.load_maintains hguards hpermits.fetch E id).bind fun stored _ => ?_
  have hchange : SessionM.Maintains who (Backend.Pursues store mine start who.tx)
      (change.apply stored) fun _ => True := fun s hs hI => ⟨hs, hI, fun _ _ => trivial⟩
  refine hchange.bind fun given _ => ?_
  exact (Session.operationsAt_maintains hguards hpermits hshares.overhears (hheeds who.tx) _ E
    trivial given).2

/-- The transaction of an attempt. -/
theorem Makes.settles (hsound : (store w.backend).Sound)
    (h : engine.Makes actor options id change w trial w') :
    ∃ calls, store w'.backend = (store w.backend).run calls ∧
      (store w.backend).Settled calls [trial] := by
  obtain ⟨w₁, result, s₁, hbegin, htried, hend⟩ := h
  -- Others come first, and then the transaction is opened.
  obtain ⟨before, -, hanswer, hstore⟩ := hshares.call .begin w.backend
  rw [engine.begin_run, hanswer] at hbegin
  obtain ⟨hsession, rfl⟩ := Prod.mk.inj hbegin
  have htx : (⟨((store w.backend).run before).nextTx⟩ : TxId) = trial.tx :=
    congrArg Session.tx (Except.ok.inj hsession)
  let start : Store := (((store w.backend).run before).step .begin).2
  have hstart : start.Sound := (hsound.run before).step .begin
  have hopen : start.transactions.get? trial.tx ≠ none := by
    obtain ⟨t, ht, -⟩ := ((store w.backend).run before).seen_of_begin
    rw [← htx, ht]
    exact Option.some_ne_none t
  have hmine : mine (engine.backend.call .begin w.backend).2 trial.tx :=
    hshares.opened _ _ (hanswer.trans (congrArg Except.ok htx))
  -- Nobody ends it while the record is modified.
  let s : Scope β σ := ⟨{ w with backend := (engine.backend.call .begin w.backend).2 },
    Session.start trial.tx actor options⟩
  have hmaintains : SessionM.Maintains s.session.holder
      (Backend.Pursues store mine start s.session.holder.tx)
      (Session.findAndModify engine id change) fun _ => True :=
    findAndModify_maintains hshares hheeds hstart hopen id change
  obtain ⟨hwho, ⟨hmine₁, calls, hcalls, hleaves⟩, -⟩ :=
    hmaintains s rfl ⟨hmine, [], hstore, nofun⟩
  rw [htried.run fun _ _ => rfl] at hwho hmine₁ hcalls
  replace hleaves : ∀ c ∈ calls, c.LeavesOpen trial.tx := hleaves
  have hwho₁ : s₁.session.tx = trial.tx := congrArg Holder.tx hwho
  have hsound₁ : (store s₁.world.backend).Sound := by
    rw [hcalls]
    exact hstart.run calls
  have hopen₁ : (store s₁.world.backend).transactions.get? s₁.session.tx ≠ none := by
    rw [hcalls, hwho₁]
    exact hstart.open_run hopen fun c hc => ⟨(hleaves c hc).commit, (hleaves c hc).rollback⟩
  obtain ⟨after, hafter, hended, hcommits⟩ :=
    endAttempt_settles hshares (hwho₁ ▸ hmine₁) hsound₁ hopen₁ hend
  rw [hwho₁] at hended hcommits
  have hrun : store s₁.world.backend = (store w.backend).run (before ++ [.begin] ++ calls) := by
    rw [hcalls, Store.run_append, Store.run_snoc]
  have hall : store w'.backend =
      (store w.backend).run (before ++ [.begin] ++ calls ++ after) := by
    rw [hafter, hrun, ← Store.run_append]
  refine ⟨_, hall, ?_, ?_, ?_, ?_⟩
  · rw [List.forall_mem_singleton, ← htx]
    exact hsound.nextTx_le_run before
  · exact List.nodup_singleton _
  · rw [List.forall_mem_singleton, ← hall]
    exact hended
  · -- Before it was opened it could not commit, and until it was ended it was not told to.
    have hbegins : Call.begin ≠ .commit trial.tx := nofun
    rw [List.forall_mem_singleton, Store.commitsOf_append, ← hrun, hcommits,
      Store.commitsOf_append, Store.commitsOf_append,
      hsound.commitsOf_eq_zero (.inr (Nat.le_of_eq (congrArg TxId.number htx))),
      Store.commitsOf_singleton hbegins,
      Store.commitsOf_eq_zero_of_not_mem fun hmem => (hleaves _ hmem).commit rfl]
    omega

/-- The transactions of all attempts. -/
theorem Retries.settles
    (h : engine.Retries actor options id change number left w trials outcome w')
    (hsound : (store w.backend).Sound) :
    ∃ calls, store w'.backend = (store w.backend).run calls ∧
      (store w.backend).Settled calls trials := by
  induction h with
  | last number left w trial w' hmakes hlast => exact hmakes.settles hshares hheeds hsound
  | again number left w trial w₁ failure trials outcome w' hmakes hfailed hretry hrest ih =>
    obtain ⟨calls, hcalls, hsettled⟩ := hmakes.settles hshares hheeds hsound
    have hsound₁ : (store w₁.backend).Sound := by
      rw [hcalls]
      exact hsound.run calls
    obtain ⟨later, hlater, hothers⟩ := ih hsound₁
    rw [hcalls] at hlater hothers
    exact ⟨calls ++ later, by rw [hlater, Store.run_append], hsettled.cons hsound hothers⟩

end

end Engine

/-! ## All or nothing -/

/-- The wait is the product or the longest wait, whichever is less, however great the product. -/
theorem RetryPolicy.backoff_eq (policy : RetryPolicy) (attempt : Nat) :
    policy.backoff attempt = min (policy.backoffStep.toNat * attempt) policy.maxBackoff.toNat := by
  have hlongest : policy.maxBackoff.toNat < UInt64.size := policy.maxBackoff.toNat_lt_size
  unfold backoff
  omega

/-- At the root of the failure, somebody else wrote the same record first. -/
def Failure.LostRace (failure : Failure) : Prop :=
  (∃ entity id expected actual, failure.root = .versionMismatch entity id expected actual) ∨
    ∃ detail, failure.root = .conflict detail

theorem Failure.lostRace_of_retryable {failure : Failure} (h : failure.retryable = true) :
    failure.LostRace := by
  unfold retryable at h
  unfold LostRace
  cases hroot : failure.root with
  | versionMismatch entity id expected actual => exact .inl ⟨entity, id, expected, actual, rfl⟩
  | conflict detail => exact .inr ⟨detail, rfl⟩
  | _ =>
    rw [hroot] at h
    cases h

/-- What holds of a retried save that ran `calls` on a store, its own and those of others, and made
some attempts and a last one. -/
structure AllOrNothing (policy : RetryPolicy) (s : Store) (calls : List Call)
    (earlier : List (Trial E σ)) (last : Trial E σ) (outcome : Engine.RetryOutcome E) : Prop where
  allowed : earlier.length + 1 ≤ policy.maxAttempts.toNat
  called : ∀ trial ∈ earlier ++ [last], trial.called.length ≤ 1
  fresh : ∀ trial ∈ earlier ++ [last], s.nextTx ≤ trial.tx.number
  apart : ((earlier ++ [last]).map (·.tx)).Nodup
  lost : ∀ trial ∈ earlier, ∃ failure, trial.result = .error failure ∧ failure.LostRace
  result : outcome.result = last.result
  waits : outcome.waits = (List.range earlier.length).map fun i =>
    min (policy.backoffStep.toNat * (i + 1)) policy.maxBackoff.toNat
  ended : ∀ trial ∈ earlier ++ [last], (s.run calls).Ended trial.tx
  failed : ∀ failure, outcome.result = .error failure → ∀ trial ∈ earlier ++ [last],
    s.commitsOf calls trial.tx = 0 ∧ ¬ s.ChangedBy calls trial.tx
  done : ∀ record, outcome.result = .ok record → s.commitsOf calls last.tx = 1 ∧
    ∀ trial ∈ earlier, s.commitsOf calls trial.tx = 0 ∧ ¬ s.ChangedBy calls trial.tx

namespace Engine

variable {engine : Engine β σ} {actor : Actor} {options : Options} {id : String}
  {change : Transform σ E} {number left : Nat} {w w' : World β σ} {trials : List (Trial E σ)}
  {outcome : RetryOutcome E}

/-- All attempts but the last one lost a race, and there are no more than allowed, with a wait after
each but the last. -/
theorem Retries.shape (h : engine.Retries actor options id change number left w trials outcome w') :
    ∃ earlier last, trials = earlier ++ [last] ∧ earlier.length ≤ left ∧
      (∀ trial ∈ earlier, ∃ failure, trial.result = .error failure ∧ failure.LostRace) ∧
      outcome.result = last.result ∧
      outcome.waits =
        (List.range earlier.length).map fun i => engine.config.retry.backoff (number + i) := by
  induction h with
  | last number left w trial w' hmakes hlast =>
    exact ⟨[], trial, rfl, Nat.zero_le left, nofun, rfl, rfl⟩
  | again number left w trial w₁ failure trials outcome w' hmakes hfailed hretry hrest ih =>
    obtain ⟨earlier, last, rfl, hleft, hlost, hresult, hwaits⟩ := ih
    refine ⟨trial :: earlier, last, rfl, Nat.succ_le_succ hleft, ?_, hresult, ?_⟩
    · exact List.forall_mem_cons.2
        ⟨⟨failure, hfailed, Failure.lostRace_of_retryable hretry⟩, hlost⟩
    · rw [List.length_cons, List.range_succ_eq_map, List.map_cons, List.map_map, hwaits]
      refine congrArg _ (List.map_congr_left fun i _ => ?_)
      change engine.config.retry.backoff (number + 1 + i) =
        engine.config.retry.backoff (number + (i + 1))
      rw [Nat.add_assoc, Nat.add_comm 1 i]

/-- In every attempt the change is called at most once. -/
theorem Retries.called_le
    (h : engine.Retries actor options id change number left w trials outcome w') :
    ∀ trial ∈ trials, trial.called.length ≤ 1 := by
  have hmade {w w' : World β σ} {trial : Trial E σ}
      (hmakes : engine.Makes actor options id change w trial w') : trial.called.length ≤ 1 := by
    obtain ⟨w₁, result, s₁, -, htried, -⟩ := hmakes
    exact htried.length_le
  induction h with
  | last number left w trial w' hmakes hlast => exact List.forall_mem_singleton.2 (hmade hmakes)
  | again number left w trial w₁ failure trials outcome w' hmakes hfailed hretry hrest ih =>
    exact List.forall_mem_cons.2 ⟨hmade hmakes, ih⟩

end Engine

/-- **A retried save is all or nothing.** Let the store of an engine be shared with others, who may
call it at any time except in transactions that were opened here, and let neither the handlers nor
the work they put off end the transaction of their session. A retried save, whatever the change,
has an account of the attempts it makes, which tells all there is to know about the change, and
with it the calls that reach the store: there are at most as many attempts as the policy allows,
each in a transaction of its own that has been ended in the end, and each calls the change at most
once; all but the last lost a race, and the waits between them grow as the policy says. If it fails,
none of these transactions has changed what is committed, and otherwise just the last one has
committed. -/
theorem saveWithRetry_all_or_nothing (engine : Engine β σ) (store : β → Store)
    (mine : β → TxId → Prop) (hshares : engine.backend.Shares store mine)
    (hheeds : ∀ own, engine.Heeds own (Call.LeavesOpen own) fun _ => True)
    (hpolicy : 1 ≤ engine.config.retry.maxAttempts.toNat) (actor : Actor) (options : Options)
    (id : String) (change : Transform σ E) (w : World β σ) (hsound : (store w.backend).Sound) :
    ∃ earlier last calls,
      engine.Retries actor options id change 1 (engine.config.retry.maxAttempts.toNat - 1) w
        (earlier ++ [last]) (engine.saveWithRetry actor options id change w).1
        (engine.saveWithRetry actor options id change w).2 ∧
      (∀ other : Transform σ E,
        (∀ trial ∈ earlier ++ [last], ∀ p ∈ trial.called, other p.1 p.2 = change p.1 p.2) →
        engine.saveWithRetry actor options id other w =
          engine.saveWithRetry actor options id change w) ∧
      store (engine.saveWithRetry actor options id change w).2.backend =
        (store w.backend).run calls ∧
      AllOrNothing engine.config.retry (store w.backend) calls earlier last
        (engine.saveWithRetry actor options id change w).1 := by
  obtain ⟨trials, outcome, w', hretries⟩ : ∃ trials outcome w',
      engine.Retries actor options id change 1 (engine.config.retry.maxAttempts.toNat - 1) w trials
        outcome w' := Engine.retries_attempts hshares.begins actor options id change _ _ w
  have hrun (other : Transform σ E)
      (hother : ∀ trial ∈ trials, ∀ p ∈ trial.called, other p.1 p.2 = change p.1 p.2) :
      engine.saveWithRetry actor options id other w = (outcome, w') := hretries.run hother
  rw [hrun change fun _ _ _ _ => rfl]
  obtain ⟨earlier, last, rfl, hleft, hlost, hresult, hwaits⟩ := hretries.shape
  obtain ⟨calls, hcalls, hsettled⟩ := hretries.settles hshares hheeds hsound
  have hnone (trial : Trial E σ) (htrial : trial ∈ earlier ++ [last]) (failure : Failure)
      (hfailed : trial.result = .error failure) :
      (store w.backend).commitsOf calls trial.tx = 0 ∧
        ¬ (store w.backend).ChangedBy calls trial.tx := by
    have hcommits := hsettled.commits trial htrial
    rw [hfailed] at hcommits
    exact ⟨hcommits, hsound.not_changedBy hcommits⟩
  have hearlier (trial : Trial E σ) (htrial : trial ∈ earlier) :
      (store w.backend).commitsOf calls trial.tx = 0 ∧
        ¬ (store w.backend).ChangedBy calls trial.tx := by
    obtain ⟨failure, hfailed, -⟩ := hlost trial htrial
    exact hnone trial (List.mem_append_left _ htrial) failure hfailed
  have hlast : last ∈ earlier ++ [last] := List.mem_append_right _ (List.mem_singleton_self last)
  refine ⟨earlier, last, calls, hretries, hrun, hcalls, ?_⟩
  refine ⟨by omega, hretries.called_le, hsettled.fresh, hsettled.apart, hlost, hresult, ?_,
    hsettled.ended, fun failure hfailure => ?_, fun record hrecord => ?_⟩
  · rw [hwaits]
    refine List.map_congr_left fun i _ => ?_
    rw [RetryPolicy.backoff_eq, Nat.add_comm 1 i]
  · refine List.forall_mem_append.2 ⟨hearlier, List.forall_mem_singleton.2 ?_⟩
    exact hnone last hlast failure (hresult.symm.trans hfailure)
  · refine ⟨?_, hearlier⟩
    have hcommits := hsettled.commits last hlast
    rw [← hresult, hrecord] at hcommits
    exact hcommits

/-! ## A race for a customer -/

/-- A store that others use as well, with what they are about to do: one list of calls before each
call made here. -/
structure Contested where
  store : Store
  /-- The transactions opened here. -/
  mine : List TxId
  rivals : List (List Call)

namespace Contested

/-- What others do before the next call. -/
def rivalsNow (b : Contested) : List Call :=
  (b.rivals.headD []).filter fun rival => rival.tx?.all (· ∉ b.mine)

def call (c : Call) (b : Contested) : Except Failure c.Answer × Contested :=
  let (answer, after) := (b.store.run b.rivalsNow).step c
  let opened := match c, answer with
    | .begin, .ok tx => [tx]
    | _, _ => []
  (answer, { store := after, mine := opened ++ b.mine, rivals := b.rivals.tail })

end Contested

def Backend.contested : Backend Contested := ⟨Contested.call, fun _ b => (.ok (), b)⟩

theorem Backend.contested_shares :
    Backend.contested.Shares Contested.store fun b tx => tx ∈ b.mine where
  call c b := by
    refine ⟨b.rivalsNow, fun rival hrival tx htx hmine => ?_, rfl, rfl⟩
    have hothers := (List.mem_filter.1 hrival).2
    simp [htx, hmine] at hothers
  opened b tx h := by
    have hanswer : ((b.store.run b.rivalsNow).step .begin).1 = .ok tx := h
    exact List.mem_append_left _ (Except.ok.inj hanswer ▸ List.mem_singleton_self _)
  kept c b tx h := List.mem_append_right _ h
  announce _ _ := ⟨rfl, fun _ h => h⟩

def contestedEngine : Engine Contested Unit :=
  { registry := lookoutEngine.registry, backend := .contested, config := lookoutEngine.config,
    nesting := lookoutEngine.nesting }

theorem contested_heeds (own : TxId) :
    contestedEngine.Heeds own (Call.LeavesOpen own) fun _ => True := by
  have hlookout : lookout.Heeds own (Call.LeavesOpen own) fun work =>
      work.run.Heeds own (Call.LeavesOpen own) fun _ => True :=
    fun cx _ _ _ => ⟨⟨nofun, nofun⟩, fun _ _ => trivial⟩
  exact Registry.forall_handlers_singleton (P := fun _ handler =>
    handler.Heeds own (Call.LeavesOpen own) fun work =>
      work.run.Heeds own (Call.LeavesOpen own) fun _ => True) hlookout

/-- After the first customer has been read for the first time, somebody else renames it. -/
def contestedWorld : World Contested Unit :=
  noteOutside.on
    { store := Store.empty.run customerCalls
      mine := []
      rivals := [[], [], [.begin, .update ⟨3⟩ (customerType.key "c-1")
        [(1, .text "Zoe"), (2, .integer 2)], .commit ⟨3⟩]] }

/-- The attempt that loses the race leaves nothing; the second one renames the customer again. -/
theorem all_or_nothing_of_race :
    ∃ (earlier : List (Trial customerType Unit)) (last : Trial customerType Unit)
      (calls : List Call),
      (contestedEngine.saveWithRetry (.ofId "ann") {} "c-1" (rename "Eve")
          contestedWorld).2.backend.store = contestedWorld.backend.store.run calls ∧
      AllOrNothing contestedEngine.config.retry contestedWorld.backend.store calls earlier last
        (contestedEngine.saveWithRetry (.ofId "ann") {} "c-1" (rename "Eve") contestedWorld).1 ∧
      earlier.length = 1 ∧
      last.result.map (·.toRow) = .ok [.text "c-1", .text "Eve", .integer 3] := by
  obtain ⟨earlier, last, calls, -, -, hcalls, hall⟩ :=
    saveWithRetry_all_or_nothing contestedEngine Contested.store _ Backend.contested_shares
      contested_heeds (by decide) (.ofId "ann") {} "c-1" (rename "Eve") contestedWorld
      (Store.sound_empty.run _)
  have hwaits : (contestedEngine.saveWithRetry (.ofId "ann") {} "c-1" (rename "Eve")
      contestedWorld).1.waits.length = 1 := by decide +kernel
  have hresult : (contestedEngine.saveWithRetry (.ofId "ann") {} "c-1" (rename "Eve")
      contestedWorld).1.result.map (·.toRow) = .ok [.text "c-1", .text "Eve", .integer 3] := by
    decide +kernel
  refine ⟨earlier, last, calls, hcalls, hall, ?_, ?_⟩
  · rw [hall.waits, List.length_map, List.length_range] at hwaits
    exact hwaits
  · rw [← hall.result]
    exact hresult

end RecordEngine
