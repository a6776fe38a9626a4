import RecordEngine.Proofs.Session.Creating
import RecordEngine.Proofs.Session.Rewriting
import RecordEngine.Proofs.Trace.Comparison
/-!
What a save refuses.

A save looks at its record before anything else, and then at what its transaction sees under the
identifier of the record. Of the handlers none of this takes notice, and of the world it changes no
more than looking at a row does: if the transaction had not touched the row, the stamp of the row is
noted (`Store.Peeked`). The reasons to refuse come in an order, so each tells that those before it
do not apply; `Refusal` lists them in that order, and `Unsavable` without it.

What is not refused has a span entered for it, and in there the handlers run.
-/

set_option autoImplicit false

namespace RecordEngine

/-! ## Looking at a row -/

namespace Store

variable {s s' : Store} {tx : TxId} {key : RowKey} {t : Transaction}

/-- A store after a transaction looked at a row: at most the transaction has noted the stamp of the
row, if it had none noted. -/
structure Peeked (s : Store) (tx : TxId) (key : RowKey) (s' : Store) : Prop where
  elsewhere : s' = { s with transactions := s'.transactions }
  others (other : TxId) (h : other ≠ tx) :
    s'.transactions.get? other = s.transactions.get? other
  own : (s'.transactions.get? tx).map ({ · with bases := .empty }) =
    (s.transactions.get? tx).map ({ · with bases := .empty })
  bases (t t' : Transaction) (h : s.transactions.get? tx = some t)
    (h' : s'.transactions.get? tx = some t') :
    (∀ k, k ≠ key → t'.bases.get? k = t.bases.get? k) ∧
      (t'.bases.get? key = t.bases.get? key ∨
        t.bases.get? key = none ∧ t'.bases.get? key = some (s.stamp? key))

theorem Peeked.refl (s : Store) (tx : TxId) (key : RowKey) : s.Peeked tx key s where
  elsewhere := rfl
  others _ _ := rfl
  own := rfl
  bases t t' h h' := by
    obtain rfl := Option.some.inj (h.symm.trans h')
    exact ⟨fun _ _ => rfl, .inl rfl⟩

theorem peeked_visibleRow (hopen : s.transactions.get? tx = some t) (key : RowKey) :
    s.Peeked tx key (s.visibleRow tx key).2 := by
  rw [visibleRow_of_open hopen]
  refine ⟨rfl, fun other h => ?_, ?_, fun u u' hu hu' => ?_⟩
  · rw [get?_holding, if_neg h.symm]
  · rw [get?_holding, if_pos rfl, hopen]
    unfold touched Transaction.touch
    split <;> rfl
  · rw [get?_holding, if_pos rfl] at hu'
    obtain rfl := Option.some.inj hu'
    obtain rfl := Option.some.inj (hopen.symm.trans hu)
    unfold touched Transaction.touch
    split
    · exact ⟨fun _ _ => rfl, .inl rfl⟩
    · refine ⟨fun k hk => ?_, ?_⟩
      · rw [Transaction.observe, Keyed.get?_putNew, if_neg hk.symm]
      · rw [Transaction.observe, Keyed.get?_putNew, if_pos rfl]
        cases hbase : t.bases.get? key with
        | none => exact .inr ⟨rfl, rfl⟩
        | some stamp => exact .inl rfl

namespace Peeked

variable (h : s.Peeked tx key s')
include h

/-- Of every transaction all but the noted stamps is as it was. -/
theorem transactions (other : TxId) :
    (s'.transactions.get? other).map ({ · with bases := .empty }) =
      (s.transactions.get? other).map ({ · with bases := .empty }) := by
  by_cases hother : other = tx
  · rw [hother]
    exact h.own
  · rw [h.others other hother]

theorem changesOf (other : TxId) : s'.changesOf other = s.changesOf other := by
  have hsame := congrArg (Option.map (·.changes)) (h.transactions other)
  rw [Option.map_map, Option.map_map] at hsame
  exact hsame

theorem visibleRow (other : TxId) (k : RowKey) :
    (s'.visibleRow other k).1 = (s.visibleRow other k).1 := by
  have hrows : s'.rows = s.rows := by rw [h.elsewhere]
  have hsame := h.transactions other
  cases hopen : s.transactions.get? other with
  | none =>
    rw [hopen, Option.map_none, Option.map_eq_none_iff] at hsame
    unfold Store.visibleRow
    rw [hopen, hsame]
  | some t =>
    rw [hopen, Option.map_some] at hsame
    obtain ⟨t', hopen', hrest⟩ := Option.map_eq_some_iff.1 hsame
    have hoverlay : t'.overlay = t.overlay := congrArg (·.overlay) hrest
    rw [visibleRow_of_open hopen, visibleRow_of_open hopen', seen, seen, Transaction.stagedRow?,
      Transaction.stagedRow?, hoverlay, committedRow?, committedRow?, hrows]

end Peeked

end Store

/-! ## Sessions over one store -/

variable {σ : Type} {E : EntityType} {s s' : Scope Memory σ} {record stored : Record E}
  {id : String}

namespace Scope

/-- Nothing has happened but that the session looked at a row: session, trace, notices, clock and
host are the same, and what is committed, staged or seen by any transaction is, too. -/
structure Peeked (s : Scope Memory σ) (key : RowKey) (s' : Scope Memory σ) : Prop where
  elsewhere : s' = { s with world.backend.store := s'.world.backend.store }
  store : s.world.backend.store.Peeked s.session.tx key s'.world.backend.store
  staged (tx : TxId) :
    s'.world.backend.store.changesOf tx = s.world.backend.store.changesOf tx
  seen (tx : TxId) (k : RowKey) :
    (s'.world.backend.store.visibleRow tx k).1 = (s.world.backend.store.visibleRow tx k).1

theorem Peeked.of_store {key : RowKey} (h : s' = { s with
      world.backend.store := s'.world.backend.store })
    (hstore : s.world.backend.store.Peeked s.session.tx key s'.world.backend.store) :
    s.Peeked key s' := ⟨h, hstore, hstore.changesOf, hstore.visibleRow⟩

/-- The session sees a record under an identifier. -/
def Shows (s : Scope Memory σ) (id : String) (stored : Record E) : Prop :=
  ∃ row, s.row Memory.store (E.key id) = .ok (some row) ∧ Record.ofRow E row = .ok stored

theorem Shows.unique (h : s.Shows id stored) {stored' : Record E} (h' : s.Shows id stored') :
    stored' = stored := by
  obtain ⟨row, hrow, hstored⟩ := h
  obtain ⟨row', hrow', hstored'⟩ := h'
  obtain rfl := Option.some.inj (Except.ok.inj (hrow.symm.trans hrow'))
  exact Except.ok.inj (hstored'.symm.trans hstored)

end Scope

namespace Session

open SessionM

variable {engine : Engine Memory σ} {t : Transaction} {failure : Failure}

/-! ## Reasons to refuse -/

/-- A record that cannot be saved: a text in it is not one that its type allows, it has no
identifier, no row is seen under the one it has, or its type has versions and its own is missing, is
missing in the stored record, or is not the stored one. -/
inductive Unsavable (s : Scope Memory σ) (record : Record E) : Prop where
  | disallowed (failure : Failure) (hcheck : E.schema.checkRow record.toRow = .error failure)
  | nameless (hid : record.id = "")
  | missing (hrow : s.row Memory.store (E.key record.id) = .ok none)
  | unversioned (hversioned : E.schema.isVersioned = true) (hversion : record.version? = none)
  | storedUnversioned (stored : Record E) (hstored : s.Shows record.id stored)
      (hversioned : E.schema.isVersioned = true) (hversion : stored.version? = none)
  | stale (stored : Record E) (hstored : s.Shows record.id stored)
      (hversioned : E.schema.isVersioned = true) (hdiffer : record.version? ≠ stored.version?)

/-- Why a save refuses a record, and with which failure. -/
inductive Refusal (s : Scope Memory σ) (record : Record E) : Failure → Prop where
  | disallowed (text : String)
      (hcheck : E.schema.checkRow record.toRow = .error (.validation text)) :
      Refusal s record (.validation text)
  | nameless (hcheck : E.schema.checkRow record.toRow = .ok ()) (hid : record.id = "") :
      Refusal s record (missingId E)
  | missing (hcheck : E.schema.checkRow record.toRow = .ok ()) (hid : record.id ≠ "")
      (hrow : s.row Memory.store (E.key record.id) = .ok none) :
      Refusal s record (.notFound E.name record.id)
  | unversioned (text : String) (stored : Record E)
      (hcheck : E.schema.checkRow record.toRow = .ok ()) (hid : record.id ≠ "")
      (hstored : s.Shows record.id stored) (hversioned : E.schema.isVersioned = true)
      (hversion : record.version? = none ∨ stored.version? = none) :
      Refusal s record (.validation text)
  | stale (given kept : Int) (stored : Record E)
      (hcheck : E.schema.checkRow record.toRow = .ok ()) (hid : record.id ≠ "")
      (hstored : s.Shows record.id stored) (hgiven : record.version? = some given)
      (hkept : stored.version? = some kept) (hdiffer : given ≠ kept) :
      Refusal s record (.versionMismatch E.name record.id given kept)

/-- There are versions only where the type has them. -/
theorem isVersioned_of_version? {n : Int} (h : record.version? = some n) :
    E.schema.isVersioned = true := by
  unfold Record.version? at h
  rw [Schema.isVersioned]
  obtain ⟨index, hindex, -⟩ := Option.bind_eq_some_iff.1 h
  rw [hindex]
  rfl

namespace Refusal

variable (h : Refusal s record failure)
include h

theorem unsavable : Unsavable s record := by
  cases h with
  | disallowed text hcheck => exact .disallowed _ hcheck
  | nameless _ hid => exact .nameless hid
  | missing _ _ hrow => exact .missing hrow
  | unversioned _ stored _ _ hstored hversioned hversion =>
    rcases hversion with hversion | hversion
    · exact .unversioned hversioned hversion
    · exact .storedUnversioned stored hstored hversioned hversion
  | stale given kept stored _ _ hstored hgiven hkept hdiffer =>
    refine .stale stored hstored (isVersioned_of_version? hgiven) fun hsame => hdiffer ?_
    rw [hgiven, hkept] at hsame
    exact Option.some.inj hsame

theorem kinds : (∃ text, failure = .validation text) ∨ failure = .notFound E.name record.id ∨
    ∃ given kept, failure = .versionMismatch E.name record.id given kept := by
  cases h with
  | disallowed text => exact .inl ⟨text, rfl⟩
  | nameless => exact .inl ⟨_, rfl⟩
  | missing => exact .inr (.inl rfl)
  | unversioned text => exact .inl ⟨text, rfl⟩
  | stale given kept => exact .inr (.inr ⟨given, kept, rfl⟩)

/-- Versions are compared last, and two that are there. -/
theorem mismatch_iff {type id : String} {given kept : Int} :
    failure = .versionMismatch type id given kept ↔
      type = E.name ∧ id = record.id ∧ E.schema.checkRow record.toRow = .ok () ∧ record.id ≠ "" ∧
        ∃ stored : Record E, s.Shows record.id stored ∧ record.version? = some given ∧
          stored.version? = some kept ∧ given ≠ kept := by
  constructor
  · rintro rfl
    cases h with
    | stale _ _ stored hcheck hid hstored hgiven hkept hdiffer =>
      exact ⟨rfl, rfl, hcheck, hid, stored, hstored, hgiven, hkept, hdiffer⟩
  · rintro ⟨rfl, rfl, hcheck, hid, stored, hstored, hgiven, hkept, -⟩
    cases h with
    | disallowed text hfails =>
      rw [hcheck] at hfails
      cases hfails
    | nameless _ hnone => exact absurd hnone hid
    | missing _ _ hrow =>
      obtain ⟨row, hthere, -⟩ := hstored
      rw [hrow] at hthere
      cases hthere
    | unversioned _ stored' _ _ hstored' _ hversion =>
      rw [hstored.unique hstored', hgiven, hkept] at hversion
      rcases hversion with hversion | hversion <;> cases hversion
    | stale given' kept' stored' _ _ hstored' hgiven' hkept' =>
      rw [hstored.unique hstored', hkept] at hkept'
      rw [Option.some.inj hkept', Option.some.inj (hgiven'.symm.trans hgiven)]

end Refusal

theorem checkVersion_cases (record stored : Record E) (id : String) :
    (checkVersion record stored id = .ok () ∧ (E.schema.isVersioned = true →
      ∃ n, record.version? = some n ∧ stored.version? = some n)) ∨
    (∃ text, checkVersion record stored id = .error (.validation text) ∧
      E.schema.isVersioned = true ∧ (record.version? = none ∨ stored.version? = none)) ∨
    ∃ given kept, checkVersion record stored id = .error (.versionMismatch E.name id given kept) ∧
      record.version? = some given ∧ stored.version? = some kept ∧ given ≠ kept := by
  unfold checkVersion
  by_cases hversioned : E.schema.isVersioned = true
  · rw [if_pos hversioned]
    cases hgiven : record.version? with
    | none => exact .inr (.inl ⟨_, rfl, hversioned, .inl rfl⟩)
    | some given =>
      cases hkept : stored.version? with
      | none => exact .inr (.inl ⟨_, rfl, hversioned, .inr rfl⟩)
      | some kept =>
        by_cases hsame : given = kept
        · subst hsame
          exact .inl ⟨if_pos rfl, fun _ => ⟨given, rfl, rfl⟩⟩
        · exact .inr (.inr ⟨given, kept, if_neg hsame, rfl, rfl, hsame⟩)
  · rw [if_neg hversioned]
    exact .inl ⟨rfl, fun h => absurd h hversioned⟩

/-- What passes all tests has nothing against it. -/
theorem not_unsavable (hcheck : E.schema.checkRow record.toRow = .ok ()) (hid : record.id ≠ "")
    (hstored : s.Shows record.id stored)
    (hsame : E.schema.isVersioned = true → ∃ n, record.version? = some n ∧
      stored.version? = some n) : ¬ Unsavable s record := by
  intro h
  cases h with
  | disallowed failure hfails =>
    rw [hcheck] at hfails
    cases hfails
  | nameless hnone => exact hid hnone
  | missing hrow =>
    obtain ⟨row, hthere, -⟩ := hstored
    rw [hrow] at hthere
    cases hthere
  | unversioned hversioned hversion =>
    obtain ⟨n, hgiven, -⟩ := hsame hversioned
    rw [hgiven] at hversion
    cases hversion
  | storedUnversioned stored' hstored' hversioned hversion =>
    obtain ⟨n, -, hkept⟩ := hsame hversioned
    rw [hstored.unique hstored', hkept] at hversion
    cases hversion
  | stale stored' hstored' hversioned hdiffer =>
    obtain ⟨n, hgiven, hkept⟩ := hsame hversioned
    rw [hstored.unique hstored', hgiven, hkept] at hdiffer
    exact hdiffer rfl

/-! ## What a save does first -/

section
variable (hmemory : engine.backend = .memory)
  (hopen : s.world.backend.store.transactions.get? s.session.tx = some t)
  (hrows : ∀ row, s.row Memory.store (E.key record.id) = .ok (some row) →
    ∃ stored : Record E, Record.ofRow E row = .ok stored)
include hmemory hopen hrows

/-- A load looks at one row and finds a record or none. -/
theorem load_cases : ∃ s', s.Peeked (E.key record.id) s' ∧
    ((s.row Memory.store (E.key record.id) = .ok none ∧
        (load engine E record.id).run s = (.error (.notFound E.name record.id), s')) ∨
      ∃ stored, s.Shows record.id stored ∧
        (load engine E record.id).run s = (.ok stored, s')) := by
  let key := E.key record.id
  let s' : Scope Memory σ := { s with
    world.backend.store := (s.world.backend.store.visibleRow s.session.tx key).2 }
  have hcall : (SessionM.call engine .fetch (.fetch s.session.tx ⟨E.name, record.id⟩)).run s =
      ((s.row Memory.store key).mapError (.persistence Stage.fetch.label), s') := by
    rw [SessionM.call_run, hmemory]
    rfl
  have hseen : s.row Memory.store key = .ok (s.world.backend.store.seen t key) :=
    Scope.row_of_open hopen key
  refine ⟨s', .of_store rfl (Store.peeked_visibleRow hopen key), ?_⟩
  rw [hseen] at hcall
  cases hrow : s.world.backend.store.seen t key with
  | none =>
    refine .inl ⟨hseen.trans (congrArg Except.ok hrow), ?_⟩
    rw [hrow] at hcall
    simp only [load, fetch, run_bind, read_run, hcall]
    rfl
  | some row =>
    have hshown : s.row Memory.store key = .ok (some row) :=
      hseen.trans (congrArg Except.ok hrow)
    obtain ⟨stored, hstored⟩ := hrows row hshown
    refine .inr ⟨stored, ⟨row, hshown, hstored⟩, ?_⟩
    rw [hrow] at hcall
    simp only [load, fetch, run_bind, read_run, hcall]
    simp only [Except.mapError, ofExcept_run, hstored]
    rfl

/-- What a save does first comes to a refusal, or to a stored record that the save may go on
with. -/
theorem admitChange_cases : ∃ s', s.Peeked (E.key record.id) s' ∧
    ((∃ failure, Refusal s record failure ∧
        (admitChange engine record).run s = (.error failure, s')) ∨
      ∃ stored, ¬ Unsavable s record ∧ s.Shows record.id stored ∧
        E.schema.checkRow record.toRow = .ok () ∧ record.id ≠ "" ∧
        (load engine E record.id).run s = (.ok stored, s') ∧
        checkVersion record stored record.id = .ok ()) := by
  cases hcheck : E.schema.checkRow record.toRow with
  | error failure =>
    obtain ⟨text, rfl⟩ := validation_of_checkRow hcheck
    refine ⟨s, .of_store rfl (.refl _ _ _), .inl ⟨_, .disallowed text hcheck, ?_⟩⟩
    rw [admitChange, run_bind, ofExcept_run, hcheck]
  | ok _ =>
    by_cases hid : record.id = ""
    · refine ⟨s, .of_store rfl (.refl _ _ _), .inl ⟨_, .nameless hcheck hid, ?_⟩⟩
      rw [admitChange, run_bind, ofExcept_run, hcheck, hid]
      rfl
    · have hnonempty : record.id.isEmpty = false := by simpa using hid
      obtain ⟨s', hpeeked, ⟨hrow, hload⟩ | ⟨stored, hstored, hload⟩⟩ :=
        load_cases hmemory hopen hrows
      · refine ⟨s', hpeeked, .inl ⟨_, .missing hcheck hid hrow, ?_⟩⟩
        simp only [admitChange, run_bind, ofExcept_run, hcheck, hnonempty, Bool.false_eq_true,
          if_false, hload]
      · refine ⟨s', hpeeked, ?_⟩
        have hadmitted : (admitChange engine record).run s =
            (checkVersion record stored record.id >>= fun _ => .ok stored, s') := by
          simp only [admitChange, run_bind, ofExcept_run, hcheck, hnonempty, Bool.false_eq_true,
            if_false, hload]
          cases checkVersion record stored record.id <;> rfl
        rcases checkVersion_cases record stored record.id with ⟨hversion, hsame⟩ |
          ⟨text, hversion, hversioned, hnone⟩ | ⟨given, kept, hversion, hgiven, hkept, hdiffer⟩
        · exact .inr ⟨stored, not_unsavable hcheck hid hstored hsame, hstored, rfl, hid, hload,
            hversion⟩
        · exact .inl ⟨_, .unversioned text stored hcheck hid hstored hversioned hnone, by
            rw [hadmitted, hversion]; rfl⟩
        · exact .inl ⟨_, .stale given kept stored hcheck hid hstored hgiven hkept hdiffer, by
            rw [hadmitted, hversion]; rfl⟩

end

/-! ## The whole of it -/

/-- A save declines a record: whatever handlers there are, it fails in the same way and leaves the
same scope, in which nothing has happened but a look at the row of the record. -/
structure Declines (engine : Engine Memory σ) (level : Nat) (s : Scope Memory σ) (record : Record E)
    (failure : Failure) (s' : Scope Memory σ) : Prop where
  run (registry : Registry σ) :
    ((operationsAt (engine.withRegistry registry) (level + 1)).save E record).run s =
      (.error failure, s')
  reason : Refusal s record failure
  kinds : (∃ text, failure = .validation text) ∨ failure = .notFound E.name record.id ∨
    ∃ given kept, failure = .versionMismatch E.name record.id given kept
  mismatch (type id : String) (given kept : Int) :
    failure = .versionMismatch type id given kept ↔
      type = E.name ∧ id = record.id ∧ E.schema.checkRow record.toRow = .ok () ∧ record.id ≠ "" ∧
        ∃ stored : Record E, s.Shows record.id stored ∧ record.version? = some given ∧
          stored.version? = some kept ∧ given ≠ kept
  peeked : s.Peeked (E.key record.id) s'

/-- A save takes a record up: after a look at its row it enters a span, and in there it is the run
of the handlers, from the stored record on, and what is done with what they leave. -/
structure Takes (engine : Engine Memory σ) (level : Nat) (s : Scope Memory σ)
    (record stored : Record E) (s₁ : Scope Memory σ) : Prop where
  shown : s.Shows record.id stored
  peeked : s.Peeked (E.key record.id) s₁
  run : ((operationsAt engine (level + 1)).save E record).run s =
    (SessionM.withSpan (.modelActivity E.name record.id .update) do
      let out ← Convergence.run engine stored record
        (Convergence.forcePending engine E s.session record.id)
      finishSave engine (drain engine (operationsAt engine level)) record stored out).run s₁
  traced : s.world.trace.told <
    (((operationsAt engine (level + 1)).save E record).run s).2.world.trace.told

/-- A record that is admitted leaves a trace. -/
theorem told_lt_save {β : Type} {engine : Engine β σ} {s s₁ : Scope β σ} (level : Nat)
    (hadmitted : (admitChange engine record).run s = (.ok stored, s₁)) :
    s₁.world.trace.told <
      (((operationsAt engine (level + 1)).save E record).run s).2.world.trace.told := by
  have hbody : Accounts engine s₁.session.holder (do
      let written ← updateChanged engine record stored
      announceChange engine record.id stored written.1
      closeSave engine (drain engine (operationsAt engine level)) record written.1 written.2 :
        SessionM β σ (Record E)) fun _ _ => True := by
    refine (updateChanged_accounts record stored).bind (fun _ _ _ => trivial) fun _ written _ => ?_
    refine (announceChange_accounts record.id stored written.1).bind
      (fun _ _ _ => trivial) fun _ _ _ => ?_
    exact (closeSave_accounts (operationsAt_accounts level) record written.1 written.2).mono
      fun _ _ _ => trivial
  have hsave := saveWith_eq_head engine (drain engine (operationsAt engine level)) record
  change _ < ((saveWith engine (drain engine (operationsAt engine level)) record).run
    s).2.world.trace.told
  rw [hsave, run_bind_of_ok hadmitted]
  exact told_lt_withSpan hbody _

/-- **What a save refuses.** In a session on the memory store whose transaction is open, let the row
under the identifier of the record, if there is one, be that of a record. If the record cannot be
saved, then the save, at whatever depth, fails before any handler is called, with a failure that
tells why, and leaves nothing behind but the note of a stamp. If it can, the save runs the
handlers. -/
theorem save_declines_or_takes (engine : Engine Memory σ) (hmemory : engine.backend = .memory)
    (level : Nat) (s : Scope Memory σ) (record : Record E) {t : Transaction}
    (hopen : s.world.backend.store.transactions.get? s.session.tx = some t)
    (hrows : ∀ row, s.row Memory.store (E.key record.id) = .ok (some row) →
      ∃ stored : Record E, Record.ofRow E row = .ok stored) :
    (Unsavable s record → ∃ failure s', Declines engine level s record failure s') ∧
      (¬ Unsavable s record → ∃ stored s₁, Takes engine level s record stored s₁) := by
  obtain ⟨s', hpeeked, ⟨failure, hrefusal, hrun⟩ |
    ⟨stored, hsavable, hstored, hcheck, hid, hload, hversion⟩⟩ :=
      admitChange_cases hmemory hopen hrows
  · refine ⟨fun _ => ⟨failure, s', ?_⟩, fun hsavable => absurd hrefusal.unsavable hsavable⟩
    refine ⟨fun registry => ?_, hrefusal, hrefusal.kinds, fun _ _ _ _ => hrefusal.mismatch_iff,
      hpeeked⟩
    -- What is looked at first has nothing to do with the handlers.
    have hrun' : (admitChange (engine.withRegistry registry) record).run s =
        (.error failure, s') := hrun
    change (saveWith (engine.withRegistry registry) _ record).run s = _
    rw [saveWith_eq_head, run_bind_of_error hrun']
  · refine ⟨fun hunsavable => absurd hunsavable hsavable, fun _ => ⟨stored, s', ?_⟩⟩
    have hnonempty : record.id.isEmpty = false := by simpa using hid
    have hadmitted : (admitChange engine record).run s = (.ok stored, s') := by
      simp only [admitChange, run_bind, ofExcept_run, hcheck, hnonempty, Bool.false_eq_true,
        if_false, hload, hversion]
      rfl
    have hsession : s'.session = s.session := by rw [hpeeked.elsewhere]
    have htrace : s'.world.trace = s.world.trace := by rw [hpeeked.elsewhere]
    refine ⟨hstored, hpeeked, ?_, ?_⟩
    · change (saveWith engine _ record).run s = _
      rw [saveWith_eq, run_bind, ofExcept_run, hcheck, hnonempty]
      dsimp only
      rw [if_neg Bool.false_ne_true, run_bind_of_ok hload, run_bind, ofExcept_run, hversion]
      dsimp only
      rw [← hsession]
      rfl
    · rw [← htrace]
      exact told_lt_save level hadmitted

end Session

/-- A ticket that says it is of another version is declined, and one of the stored version is taken
up. -/
theorem save_declines_tallied :
    (∃ s', Session.Declines ticketEngine ticketEngine.nesting ticketScope (tallied "fire")
      (.versionMismatch "ticket" "t-1" 7 1) s') ∧
    ∃ stored s₁, Session.Takes ticketEngine ticketEngine.nesting ticketScope
      (ticket "smoke" 40 rfl) stored s₁ := by
  have hrow : ticketScope.row Memory.store (ticketType.key "t-1") =
      .ok (some (ticket "fire" 0 rfl).toRow) := by decide +kernel
  have hshows : ticketScope.Shows "t-1" (ticket "fire" 0 rfl) := ⟨_, hrow, rfl⟩
  obtain ⟨t, hopen⟩ : ∃ t, ticketScope.world.backend.store.transactions.get? ⟨2⟩ = some t :=
    Option.isSome_iff_exists.1 (by decide +kernel)
  have hrows (row : Row) (h : ticketScope.row Memory.store (ticketType.key "t-1") =
      .ok (some row)) : ∃ stored : Record ticketType, Record.ofRow ticketType row = .ok stored := by
    obtain rfl := Option.some.inj (Except.ok.inj (hrow.symm.trans h))
    exact ⟨ticket "fire" 0 rfl, rfl⟩
  constructor
  · have hstale : Session.Unsavable ticketScope (tallied "fire") :=
      .stale (ticket "fire" 0 rfl) hshows rfl (by decide)
    obtain ⟨failure, s', hdeclines⟩ := (Session.save_declines_or_takes ticketEngine rfl
      ticketEngine.nesting ticketScope (tallied "fire") hopen hrows).1 hstale
    obtain rfl := (hdeclines.mismatch "ticket" "t-1" 7 1).2
      ⟨rfl, rfl, rfl, by decide, ticket "fire" 0 rfl, hshows, rfl, rfl, by decide⟩
    exact ⟨s', hdeclines⟩
  · exact (Session.save_declines_or_takes ticketEngine rfl ticketEngine.nesting ticketScope
      (ticket "smoke" 40 rfl) hopen hrows).2
        (Session.not_unsavable rfl (by decide) hshows fun _ => ⟨1, rfl, rfl⟩)

end RecordEngine
