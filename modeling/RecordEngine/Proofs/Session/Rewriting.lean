import RecordEngine.Proofs.Record.Rewritten
import RecordEngine.Proofs.Session.Sharing
/-!
What a save writes.

Three masks decide it: what differs from the stored record when a pass begins, what is settable and
differs in the end, and what is writable and differs once the stamps are in. Together they come to
this: if the handlers leave every settable field as it is stored, nothing happens, whatever they did
to others; if not, the row is what is stored with the settable fields of the proposal, the next
version, and time and author of the save (`Session.save_writes`).

Others may use the store in the meantime. What the save overwrites is what it loaded, as long as
nobody commits the row between; that is said with the stamp of the row before and after.
-/

set_option autoImplicit false

namespace RecordEngine

variable {β σ H : Type} {E : EntityType}

namespace Session

open SessionM

variable {engine : Engine β σ} {store : β → Store} {mine : β → TxId → Prop} {heard : β → H}
  {s s₁ s₂ : Scope β σ} {record stored proposed : Record E} {row : Row}

/-! ## The text of a save -/

/-- The scope in which the handlers of a save begin: the stored record has been loaded, and the span
of the save was entered. -/
def saveStart (engine : Engine β σ) (record : Record E) (s : Scope β σ) : Scope β σ :=
  ((load engine E record.id).run s).2.within (.modelActivity E.name record.id .update)

/-- What a save has left to do when its handlers have converged. -/
def settle (engine : Engine β σ) (record stored proposed : Record E) (queue : DeferredWork σ)
    (drain : DeferredWork σ → SessionM β σ Unit) : SessionM β σ (Record E) := do
  SessionM.ofExcept (E.schema.checkRow proposed.toRow)
  if (changedFields stored proposed).isEmpty then
    closeSave engine drain record none queue
  else
    let stamped ← updateRow engine record.id stored proposed
    announceChange engine record.id stored (some stamped)
    closeSave engine drain record (some stamped) queue

/-- A save that is admitted and whose handlers converge. -/
theorem saveWith_run (hrecord : E.schema.checkRow record.toRow = .ok ()) (hid : record.id ≠ "")
    (hload : (load engine E record.id).run s = (.ok stored, s₁))
    (hversion : checkVersion record stored record.id = .ok ()) {passes : Nat}
    {queue : DeferredWork σ}
    (hhandlers : (Convergence.run engine stored record
      (Convergence.forcePending engine E s₁.session record.id)).run
        (s₁.within (.modelActivity E.name record.id .update)) =
          (.ok ⟨passes, proposed, queue⟩, s₂))
    (drain : DeferredWork σ → SessionM β σ Unit) :
    (saveWith engine drain record).run s =
      (((settle engine record stored proposed queue drain).run s₂).1,
        ((settle engine record stored proposed queue drain).run s₂).2.leave
          (s₁.world.trace.enter (.modelActivity E.name record.id .update)).1) := by
  have hnonempty : record.id.isEmpty = false := by simpa using hid
  have hadmitted : (admitChange engine record).run s = (.ok stored, s₁) := by
    simp only [admitChange, run_bind, ofExcept_run, hrecord, hnonempty, Bool.false_eq_true,
      if_false, hload, hversion]
    rfl
  -- What is left to do is the same whether the write is told apart from the rest or not.
  have hsettle : (do
      let written ← updateChanged engine record stored
      announceChange engine record.id stored written.1
      closeSave engine drain record written.1 written.2).run
        (s₁.within (.modelActivity E.name record.id .update)) =
      (settle engine record stored proposed queue drain).run s₂ := by
    have hsession : (s₁.within (.modelActivity E.name record.id .update)).session = s₁.session := rfl
    rw [updateChanged, bind_assoc, run_bind, read_run]
    dsimp only
    rw [hsession]
    rw [bind_assoc, run_bind_of_ok hhandlers, bind_assoc, settle]
    refine congrArg (fun m : SessionM β σ (Record E) => m.run s₂) ?_
    refine congrArg _ (funext fun _ => ?_)
    by_cases hchanged : (changedFields stored proposed).isEmpty
    · simp only [hchanged, if_true, pure_bind, announceChange]
    · simp only [hchanged, if_false, Bool.false_eq_true, bind_assoc, pure_bind]
  rw [saveWith_eq_head, run_bind_of_ok hadmitted, ← hsettle]
  rfl

/-- The write of a save is one call, after a look at the clock. -/
theorem updateRow_run (engine : Engine β σ) (id : String) {next : Record E}
    (hnext : stampChanged proposed (stored.version?.map (· + 1)) s.world.clock.next
      s.session.actor.effective = .ok next) :
    (updateRow engine id stored proposed).run s =
      (((engine.backend.call (.update s.session.tx (E.key id) (overwrites stored next))
          s.world.backend).1.mapError (.persistence Stage.update.label)).map fun _ => next,
        { s with
          world.clock := s.world.clock.rest
          world.backend := (engine.backend.call (.update s.session.tx (E.key id)
            (overwrites stored next)) s.world.backend).2 }) := by
  have hnow : (SessionM.now (β := β) (σ := σ)).run s =
      (.ok s.world.clock.next, { s with world.clock := s.world.clock.rest }) := rfl
  rw [updateRow, run_bind_of_ok hnow, run_bind, read_run]
  dsimp only
  rw [run_bind, ofExcept_run, hnext]
  exact call_pure_run .update (.update s.session.tx (E.key id) (overwrites stored next)) next _

/-- Nothing to write and nothing to do: the record is given back as it came. -/
theorem settle_unchanged (hproposed : E.schema.checkRow proposed.toRow = .ok ())
    (hsame : (changedFields stored proposed).isEmpty = true)
    (drain : DeferredWork σ → SessionM β σ Unit) :
    (settle engine record stored proposed .empty drain).run s = (.ok record, s) := by
  rw [settle, run_bind, ofExcept_run, hproposed, hsame]
  rfl

/-- A settable field changed just if the gate of a save is open. -/
theorem changedFields_isEmpty :
    (changedFields stored proposed).isEmpty = true ↔
      ∀ i, E.schema.isSettable i = true →
        (stored.field i).agrees (proposed.field i) = true := by
  rw [FieldMask.isEmpty_iff]
  constructor
  · intro h i hi
    have hi' := h i
    rw [changedFields, FieldMask.contains_retain, hi, Bool.and_true] at hi'
    exact FieldMask.agrees_of_not_contains_diff hi'
  · intro h i
    rw [changedFields, FieldMask.contains_retain, Bool.eq_false_iff]
    intro hi
    rw [Bool.and_eq_true, FieldMask.contains_diff_iff] at hi
    rw [h i hi.2] at hi
    cases hi.1

section
variable (hproposed : E.schema.checkRow proposed.toRow = .ok ())
  (hchanged : (changedFields stored proposed).isEmpty = false)
include hproposed hchanged

/-- A write that goes through is announced and audited, and the row is read back. -/
theorem settle_written {next : Record E}
    (hwrite : (updateRow engine record.id stored proposed).run s = (.ok next, s₁))
    (operations : Operations β σ) :
    (settle engine record stored proposed .empty (drain engine operations)).run s = (do
      announceChange engine record.id stored (some next)
      load engine E record.id).run s₁ := by
  rw [settle, run_bind, ofExcept_run, hproposed, hchanged]
  dsimp only
  rw [if_neg Bool.false_ne_true, run_bind_of_ok hwrite]
  rfl

theorem settle_refused {failure : Failure}
    (hwrite : (updateRow engine record.id stored proposed).run s = (.error failure, s₁))
    (drain : DeferredWork σ → SessionM β σ Unit) :
    (settle engine record stored proposed .empty drain).run s = (.error failure, s₁) := by
  rw [settle, run_bind, ofExcept_run, hproposed, hchanged]
  dsimp only
  rw [if_neg Bool.false_ne_true, run_bind_of_error hwrite]

end

/-! ## The whole save -/

theorem save_eq (engine : Engine β σ) (record : Record E) :
    save engine record = (do
      let stored ← admitChange engine record
      SessionM.withSpan (.modelActivity E.name record.id .update) do
        let written ← updateChanged engine record stored
        announceChange engine record.id stored written.1
        closeSave engine (drain engine (operationsAt engine engine.nesting)) record written.1
          written.2) :=
  saveWith_eq_head engine (drain engine (operationsAt engine engine.nesting)) record

/-- A save is admitted or refused on the strength of one fetch. -/
theorem admitChange_run (engine : Engine β σ) (s : Scope β σ)
    (hrecord : E.schema.checkRow record.toRow = .ok ()) (hid : record.id ≠ "") :
    ∃ result, (admitChange engine record).run s = (result, { s with world.backend :=
        (engine.backend.call (.fetch s.session.tx (E.key record.id)) s.world.backend).2 }) ∧
      ∀ stored, result = .ok stored → checkVersion record stored record.id = .ok () := by
  have hnonempty : record.id.isEmpty = false := by simpa using hid
  obtain ⟨loaded, hload, -⟩ := load_run engine E record.id s
  simp only [admitChange, run_bind, ofExcept_run, hrecord, hnonempty, Bool.false_eq_true,
    if_false, hload]
  cases loaded with
  | error failure => exact ⟨_, rfl, nofun⟩
  | ok stored =>
    dsimp only
    cases hversion : checkVersion record stored record.id with
    | error failure => exact ⟨_, rfl, nofun⟩
    | ok _ =>
      refine ⟨_, rfl, fun loaded hloaded => ?_⟩
      rw [← Except.ok.inj hloaded, hversion]

section
variable (hshares : engine.backend.Shares store mine)
include hshares

/-- After its first fetch a save only makes calls, whatever becomes of it. -/
theorem save_becomes {staged : List Change}
    (hrecord : E.schema.checkRow record.toRow = .ok ()) (hid : record.id ≠ "") {b : β}
    (hb : b = (engine.backend.call (.fetch s.session.tx (E.key record.id)) s.world.backend).2)
    (h : Backend.Staging store mine s.session.tx staged b) :
    (store b).Becomes (store ((save engine record).run s).2.world.backend) := by
  obtain ⟨admitted, hadmitted, hversion⟩ := admitChange_run engine s hrecord hid
  rw [← hb] at hadmitted
  rw [save_eq]
  cases admitted with
  | error failure =>
    rw [run_bind_of_error hadmitted]
    exact .refl _
  | ok stored =>
    rw [run_bind_of_ok hadmitted]
    have hguards := hshares.guards_since s.session.holder.tx b
    have hpermits := s.session.holder.permits_any
    have hhears := hshares.overhears_since s.session.tx b
    have hengine := engine.heeds_any s.session.holder.tx
    have hdrain (queue : DeferredWork σ)
        (hqueue : DeferredWork.Holds
          (fun work => work.run.Heeds s.session.holder.tx (fun _ => True) fun _ => True) queue) :
        Maintains s.session.holder (Backend.Since store mine s.session.tx b)
          (drain engine (operationsAt engine engine.nesting) queue) fun _ => True :=
      drainAll_maintains hguards hpermits
        (operationsAt_maintains hguards hpermits hhears hengine _) hqueue
    obtain ⟨-, hsince, -⟩ := settleSave_maintains hguards hpermits hdrain hhears trivial
      (hengine E) (hversion stored rfl) { s with world.backend := b } rfl h.since
    exact hsince.becomes

/-- A session that sees a row under the identifier of a record it may save: the record passes the
check, the row is a full one and reads as a stored record, and the versions are the same, if the
type has versions. -/
structure Meets (store : β → Store) (s : Scope β σ) (record stored : Record E) (row : Row) :
    Prop where
  check : E.schema.checkRow record.toRow = .ok ()
  nonempty : record.id ≠ ""
  seen : s.row store (E.key record.id) = .ok (some row)
  full : row.length = E.fields.length
  reads : Record.ofRow E row = .ok stored
  version : E.schema.isVersioned = true →
    ∃ n, record.version? = some n ∧ stored.version? = some n

omit hshares in
theorem Meets.admitted (h : Meets store s record stored row) :
    checkVersion record stored record.id = .ok () :=
  checkVersion_of_eq h.version

/-- The handlers of a save make a proposal of its record, and the session goes on from there: none
of them fails, nothing is staged and nothing put off. -/
structure Proposes (engine : Engine β σ) (store : β → Store) (s : Scope β σ)
    (record stored proposed : Record E) (s₂ : Scope β σ) : Prop where
  run : ∃ passes, (Convergence.run engine stored record
    (Convergence.forcePending engine E s.session record.id)).run (saveStart engine record s) =
      (.ok ⟨passes, proposed, .empty⟩, s₂)
  unwritten : (store s₂.world.backend).changesOf s.session.tx =
    (store s.world.backend).changesOf s.session.tx

/-- Nobody commits the row while the save goes on: its stamp is the same before and after. -/
def Calm (engine : Engine β σ) (store : β → Store) (s : Scope β σ) (record : Record E) : Prop :=
  (store ((save engine record).run s).2.world.backend).stamp? (E.key record.id) =
    (store s.world.backend).stamp? (E.key record.id)

/-- How a save stands when its handlers have converged. -/
structure Converges (engine : Engine β σ) (store : β → Store) (mine : β → TxId → Prop)
    (heard : β → H) (s : Scope β σ) (record stored proposed : Record E) (staged : List Change)
    (s₂ : Scope β σ) : Prop where
  staging : Backend.Staging store mine s.session.tx staged s₂.world.backend
  holder : s₂.session.holder = s.session.holder
  heard : heard s₂.world.backend = heard s.world.backend
  becomes : (store s.world.backend).Becomes (store s₂.world.backend)
  rest : ∃ span, (save engine record).run s =
    (((settle engine record stored proposed .empty
        (drain engine (operationsAt engine engine.nesting))).run s₂).1,
      ((settle engine record stored proposed .empty
        (drain engine (operationsAt engine engine.nesting))).run s₂).2.leave span)

theorem save_converges (hsilent : ∀ c b, heard (engine.backend.call c b).2 = heard b)
    {staged : List Change}
    (hstaging : Backend.Staging store mine s.session.tx staged s.world.backend)
    (hmeets : Meets store s record stored row)
    (hproposes : Proposes engine store s record stored proposed s₂)
    (hcalm : Calm engine store s record) :
    Converges engine store mine heard s record stored proposed staged s₂ := by
  have hsound := hstaging.hosts.sound
  obtain ⟨u, hnear, hfetched, hanswer, hstaging₁⟩ := hstaging.fetch hshares (E.key record.id)
  have hbecomes := save_becomes hshares hmeets.check hmeets.nonempty rfl hstaging₁
  -- Nobody commits the row before the fetch, so the fetch finds it.
  obtain ⟨staged', hstaged', hseen⟩ := hsound.visibleRow_eq_ok.1 hmeets.seen
  obtain rfl := Option.some.inj (hstaged'.symm.trans hstaging.staged)
  rw [hsound.committedRow?_of_stamp hnear (hfetched.trans hbecomes) hcalm, hseen] at hanswer
  have hload := load_of_fetched hanswer hmeets.reads
  obtain ⟨passes, hrun⟩ := hproposes.run
  have hstart : saveStart engine record s = ({ s with world.backend :=
      (engine.backend.call (.fetch s.session.tx (E.key record.id)) s.world.backend).2 } :
        Scope β σ).within (.modelActivity E.name record.id .update) := by
    rw [saveStart, hload]
  rw [hstart] at hrun
  obtain ⟨hholder, hsince, hheard, -⟩ := run_since hshares heard hsilent hstaging₁.since hrun
  exact {
    staging := ⟨hsince.hosts, hproposes.unwritten.trans hstaging.staged⟩
    holder := hholder
    heard := hheard.trans (hsilent _ _)
    becomes := (hnear.trans hfetched).trans hsince.becomes
    rest := ⟨_, saveWith_run hmeets.check hmeets.nonempty hload hmeets.admitted hrun _⟩ }

/-- After its write, whatever it wrote over, a save only makes calls. -/
theorem settle_becomes {start : β} {result : Except Failure (Record E)}
    (hproposed : E.schema.checkRow proposed.toRow = .ok ())
    (hchanged : (changedFields stored proposed).isEmpty = false)
    (hwrite : (updateRow engine record.id stored proposed).run s = (result, s₁))
    (h : Backend.Since store mine s₁.session.tx start s₁.world.backend)
    (operations : Operations β σ) :
    (store s₁.world.backend).Becomes (store ((settle engine record stored proposed .empty
      (drain engine operations)).run s).2.world.backend) := by
  cases result with
  | error failure =>
    rw [settle_refused hproposed hchanged hwrite]
    exact .refl _
  | ok next =>
    rw [settle_written hproposed hchanged hwrite]
    have hguards := hshares.guards_since s₁.session.holder.tx s₁.world.backend
    have hpermits := s₁.session.holder.permits_any
    have hrest : Maintains s₁.session.holder _ (do
        announceChange engine record.id stored (some next)
        load engine E record.id : SessionM β σ (Record E)) fun _ => True :=
      (announceChange_maintains hguards hpermits (hshares.overhears_since _ _) _ _ _).bind
        fun _ _ => load_maintains hguards (fun _ _ => trivial) E _
    obtain ⟨-, hsince, -⟩ := hrest s₁ rfl ⟨h.hosts, h.begun, .refl _⟩
    exact hsince.becomes

/-- What is left of a save that has something to write, if nobody commits the row from some time
before it until its end: it writes over the row of that time. -/
theorem settle_writes {start : Store} {staged : List Change} {next : Record E}
    (hstaging : Backend.Staging store mine s.session.tx staged s.world.backend)
    (hstart : start.Sound) (hbecomes : start.Becomes (store s.world.backend))
    (hseen : (imageIn staged (E.key record.id)).or (start.committedRow? (E.key record.id)) =
      some row)
    (hfull : row.length = E.fields.length) (hreads : Record.ofRow E row = .ok stored)
    (hproposed : E.schema.checkRow proposed.toRow = .ok ())
    (hchanged : (changedFields stored proposed).isEmpty = false)
    (hnext : stampChanged proposed (stored.version?.map (· + 1)) s.world.clock.next
      s.session.actor.effective = .ok next) (operations : Operations β σ)
    (hcalm : (store ((settle engine record stored proposed .empty
        (drain engine operations)).run s).2.world.backend).stamp? (E.key record.id) =
      start.stamp? (E.key record.id)) :
    ∃ image t result b staged',
      Store.overwrite (E.key record.id) row (overwrites stored next) = .ok image ∧
      Record.ofRow E image = .ok t ∧
      (settle engine record stored proposed .empty (drain engine operations)).run s =
        (result, { s with world.clock := s.world.clock.rest, world.backend := b }) ∧
      Backend.Staging store mine s.session.tx staged' b ∧
      imageIn staged' (E.key record.id) = some image ∧ (engine.Announces → result = .ok t) := by
  have hwrite := updateRow_run engine record.id hnext
  obtain ⟨u, hnear, hlater, hsome⟩ :=
    hstaging.update hshares (E.key record.id) (overwrites stored next)
  obtain ⟨hsince, -⟩ := hshares.guards_since s.session.tx s.world.backend
    (.update s.session.tx (E.key record.id) (overwrites stored next)) _ trivial hstaging.since
  have hend := settle_becomes hshares hproposed hchanged hwrite hsince operations
  -- The row is the same when it is overwritten, so it is this row that is overwritten.
  rw [hstart.committedRow?_of_stamp (hbecomes.trans hnear) (hlater.trans hend) hcalm] at hsome
  obtain ⟨hanswer, hstages⟩ := hsome row hseen
  have hwritten (i : Nat) (hi : i ∈ (writtenFields stored next).indices) : i < row.length := by
    rw [hfull]
    exact lt_of_contains_writtenFields (FieldMask.mem_indices.1 hi)
  obtain ⟨image, himage⟩ : ∃ image,
      Store.overwrite (E.key record.id) row (overwrites stored next) = .ok image :=
    Store.overwrite_of_lt fun p hp => by
      obtain ⟨i, hi, rfl⟩ := List.mem_map.1 hp
      exact hwritten i hi
  obtain ⟨t, ht⟩ := Record.ofRow_overwrite ⟨stored, hreads⟩ himage
  rw [hanswer, himage] at hwrite
  obtain ⟨result, b, later, hfinish, hstaged, hlast, hgiven⟩ := finish_run hshares
    (s := { s with
      world.clock := s.world.clock.rest
      world.backend := (engine.backend.call (.update s.session.tx (E.key record.id)
        (overwrites stored next)) s.world.backend).2 })
    (hstages image himage) (Store.imageIn_written rfl _) ht
    ⟨E.name, record.id, stored.version?.map (· + 1)⟩ .update
    (ChangeSet.ofMask (writtenFields stored next) (some stored) next)
  refine ⟨image, t, result, b, _, himage, ht, ?_, hstaged, hlast, fun h => (hgiven h).1⟩
  rw [settle_written hproposed hchanged hwrite, announceChange, bind_assoc]
  exact hfinish

end

/-- **What a save writes.** On a store that others use as well, let a session save a record that
passes the check and has an identifier, and let it see a full row under that identifier which reads
as a record, of the same version if the type has versions. Let the handlers, begun with the stored
record as baseline, make a proposal of it without failing, staging nothing and putting nothing off,
and let nobody commit the row from the beginning of the save to its end. If the proposal passes the
check and agrees with the stored record on every settable field, the record is given back as it
came, and nothing is staged, audited or announced. If it passes the check and differs in one, and
the types of the stamped fields take their stamps, the session afterwards sees a row that reads as a
record of the next version, with the time of the write and the effective actor, with the settable
fields of the proposal and with all others as they were stored; and this is the record that the save
gives back, as long as the notifier does not fail. -/
theorem save_writes (engine : Engine β σ) (store : β → Store) (mine : β → TxId → Prop)
    (heard : β → H) (hshares : engine.backend.Shares store mine)
    (hsilent : ∀ c b, heard (engine.backend.call c b).2 = heard b)
    (E : EntityType) (s s₂ : Scope β σ)
    (hhosts : Backend.Hosts store mine s.session.tx s.world.backend)
    (record stored proposed : Record E) (row : Row) (hmeets : Meets store s record stored row)
    (hproposes : Proposes engine store s record stored proposed s₂)
    (hproposed : E.schema.checkRow proposed.toRow = .ok ())
    (hcalm : Calm engine store s record) :
    ((∀ i, E.schema.isSettable i = true → (stored.field i).agrees (proposed.field i) = true) →
      ((save engine record).run s).1 = .ok record ∧
        (store ((save engine record).run s).2.world.backend).changesOf s.session.tx =
          (store s.world.backend).changesOf s.session.tx ∧
        heard ((save engine record).run s).2.world.backend = heard s.world.backend) ∧
    ((∃ i, E.schema.isSettable i = true ∧
        (stored.field i).agrees (proposed.field i) = false) →
      (∀ n, stored.version? = some n → E.Accepts .version (.integer (n + 1))) →
      (∀ now, E.Accepts .updatedAt (.timestamp now)) →
      E.Accepts .updatedBy (.text s.session.actor.effective) →
      ∃ image t, ((save engine record).run s).2.row store (E.key record.id) = .ok (some image) ∧
        Record.ofRow E image = .ok t ∧
        Supersedes stored proposed s₂.world.clock.next s.session.actor.effective t ∧
        (engine.Announces → ((save engine record).run s).1 = .ok t)) := by
  obtain ⟨staged, hstaged, hseen⟩ := hhosts.sound.visibleRow_eq_ok.1 hmeets.seen
  have hstaging : Backend.Staging store mine s.session.tx staged s.world.backend :=
    ⟨hhosts, hstaged⟩
  obtain ⟨hstaging₂, hholder, hheard, hbecomes, span, hrest⟩ :=
    save_converges hshares hsilent hstaging hmeets hproposes hcalm
  rw [Calm, hrest] at hcalm
  rw [hrest]
  refine ⟨fun hsame => ?_, fun hchanged hnumber htime hauthor => ?_⟩
  · rw [settle_unchanged hproposed (changedFields_isEmpty.2 hsame)]
    exact ⟨rfl, hproposes.unwritten, hheard⟩
  · have hopen : (changedFields stored proposed).isEmpty = false := by
      rw [Bool.eq_false_iff, ne_eq, changedFields_isEmpty]
      obtain ⟨i, hi, hdiffers⟩ := hchanged
      intro hsame
      rw [hsame i hi] at hdiffers
      cases hdiffers
    obtain ⟨next, hnext⟩ : ∃ next, stampChanged proposed (stored.version?.map (· + 1))
        s₂.world.clock.next s.session.actor.effective = .ok next := by
      rw [stampChanged_eq]
      refine Record.stampAll_of_accepts (fun p hp => ?_) proposed
      rcases List.mem_append.1 hp with hp | hp
      · rw [Option.map_map, Option.mem_toList, Option.map_eq_some_iff] at hp
        obtain ⟨n, hn, rfl⟩ := hp
        exact hnumber n hn
      · obtain rfl | rfl : p = (.updatedAt, .timestamp s₂.world.clock.next) ∨
            p = (.updatedBy, .text s.session.actor.effective) := by
          simpa using hp
        · exact htime _
        · exact hauthor
    have htx : s₂.session.tx = s.session.tx := congrArg Holder.tx hholder
    have hactor : s₂.session.actor = s.session.actor := congrArg Holder.actor hholder
    rw [← htx] at hstaging₂
    rw [← hactor] at hnext ⊢
    obtain ⟨image, t, result, b, staged', himage, ht, hsettle, hend, hlast, hgiven⟩ :=
      settle_writes hshares hstaging₂ hhosts.sound hbecomes hseen hmeets.full hmeets.reads hproposed
        hopen hnext _ hcalm
    have hversion (hversioned : E.schema.isVersioned = true) : ∃ n, stored.version? = some n := by
      obtain ⟨n, -, hn⟩ := hmeets.version hversioned
      exact ⟨n, hn⟩
    rw [hsettle]
    refine ⟨image, t, hend.hosts.sound.visibleRow_eq_ok.2 ⟨_, hend.staged, ?_⟩, ht,
      supersedes_of_overwrite himage hmeets.reads ht hversion hnext, hgiven⟩
    rw [hlast, Option.some_or]

end Session

/-! ## A ticket that is looked at -/

def ticketType : EntityType where
  name := "ticket"
  fields := [{ name := "id", role := some .identifier, type := .text },
    { name := "title", type := .text },
    { name := "views", settable := false, type := .int64 },
    { name := "version", role := some .version, type := .int64 },
    { name := "edited", role := some .updatedAt, type := .instant },
    { name := "editor", role := some .updatedBy, type := .text }]

def ticket (title : String) (views : Nat) (h : fitsBits 64 views = true) : Record ticketType :=
  ⟨[.text "t-1", .text title, .integer views, .integer 1, .timestamp ⟨0, 0⟩, .text "ann"],
    ⟨rfl, rfl, h, rfl, rfl, rfl, trivial⟩⟩

/-- What `tally` makes of a ticket. -/
def tallied (title : String) : Record ticketType :=
  ⟨[.text "t-1", .text title, .integer 9, .integer 7, .timestamp ⟨0, 0⟩, .text "nobody"],
    ⟨rfl, rfl, rfl, rfl, rfl, rfl, trivial⟩⟩

/-- A handler that puts down views, and passes the ticket off as another version, by nobody. -/
def tally : Handler Unit ticketType where
  name := "tally"
  trigger := none
  function _ _ proposed := .done do
    let seen ← proposed.setField 2 (.integer 9)
    let numbered ← seen.setField 3 (.integer 7)
    numbered.setField 5 (.text "nobody")

def ticketEngine : Engine Memory Unit :=
  { noteEngine with registry := ⟨[⟨ticketType, tally⟩]⟩ }

def unheardTickets : Engine Memory Unit := { ticketEngine with backend := .unheard }

/-- A session of Bob's that sees a ticket of Ann's. -/
def ticketScope : Scope Memory Unit where
  world := { noteOutside.on
    ⟨Store.empty.run
      [.begin, .insert ⟨1⟩ (ticketType.key "t-1") (ticket "fire" 0 rfl).toRow, .commit ⟨1⟩, .begin],
      none⟩ with clock := fun n => .ofNanos (n + 5) }
  session := .start ⟨2⟩ (.ofId "bob") {}

theorem ticketScope_meets (given : Record ticketType)
    (hgiven : given = ticket "fire" 40 rfl ∨ given = ticket "smoke" 40 rfl) :
    Session.Meets Memory.store ticketScope given (ticket "fire" 0 rfl)
      (ticket "fire" 0 rfl).toRow := by
  rcases hgiven with rfl | rfl <;> exact {
    check := rfl
    nonempty := by decide
    seen := by decide +kernel
    full := rfl
    reads := rfl
    version := fun _ => ⟨1, rfl, rfl⟩ }

theorem ticketScope_proposes (title : String) (h : title = "fire" ∨ title = "smoke")
    (engine : Engine Memory Unit) (hengine : engine = ticketEngine ∨ engine = unheardTickets) :
    Session.Proposes engine Memory.store ticketScope (ticket title 40 rfl)
      (ticket "fire" 0 rfl) (tallied title)
      ((Convergence.run engine (ticket "fire" 0 rfl) (ticket title 40 rfl) false).run
        (Session.saveStart engine (ticket title 40 rfl) ticketScope)).2 := by
  have hresult : ((Convergence.run engine (ticket "fire" 0 rfl) (ticket title 40 rfl) false).run
      (Session.saveStart engine (ticket title 40 rfl) ticketScope)).1.map
        (fun out => (out.record.toRow, out.queue.isEmpty)) = .ok ((tallied title).toRow, true) := by
    rcases h with rfl | rfl <;> rcases hengine with rfl | rfl <;> decide +kernel
  obtain ⟨passes, hpasses⟩ := Session.outcome_eq hresult
  have hforce : Convergence.forcePending engine ticketType ticketScope.session "t-1" = false := by
    rcases hengine with rfl | rfl <;> rfl
  refine ⟨⟨passes, ?_⟩, ?_⟩
  · change (Convergence.run engine _ _ (Convergence.forcePending engine _ _ "t-1")).run _ = _
    rw [hforce]
    exact Prod.ext hpasses rfl
  · rcases h with rfl | rfl <;> rcases hengine with rfl | rfl <;> decide +kernel

theorem save_writes_tallied :
    (((Session.save ticketEngine (ticket "fire" 40 rfl)).run ticketScope).1 =
        .ok (ticket "fire" 40 rfl) ∧
      (((Session.save ticketEngine (ticket "fire" 40 rfl)).run
        ticketScope).2.world.backend.store).changesOf ⟨2⟩ = some []) ∧
    ∃ t, ((Session.save ticketEngine (ticket "smoke" 40 rfl)).run ticketScope).2.row Memory.store
          (ticketType.key "t-1") =
        .ok (some [.text "t-1", .text "smoke", .integer 0, .integer 2, .timestamp ⟨0, 5⟩,
          .text "bob"]) ∧
      ((Session.save ticketEngine (ticket "smoke" 40 rfl)).run ticketScope).1 = .ok t ∧
      Session.Supersedes (ticket "fire" 0 rfl) (tallied "smoke") ⟨0, 5⟩ "bob" t := by
  have hwrites (title : String) (htitle : title = "fire" ∨ title = "smoke")
      (hcalm : Session.Calm ticketEngine Memory.store ticketScope (ticket title 40 rfl)) :=
    Session.save_writes ticketEngine Memory.store (fun _ _ => True) Memory.channel
      Backend.memory_shares (fun _ _ => rfl) ticketType ticketScope _
      ⟨Store.sound_empty.run _, trivial⟩ (ticket title 40 rfl) (ticket "fire" 0 rfl) (tallied title)
      _ (ticketScope_meets _ (htitle.imp (fun h => by rw [h]) fun h => by rw [h]))
      (ticketScope_proposes title htitle ticketEngine (.inl rfl)) rfl hcalm
  constructor
  · have hsettable (i : Nat) (hi : ticketType.schema.isSettable i = true) :
        ((ticket "fire" 0 rfl).field i).agrees ((tallied "fire").field i) = true := by
      match i, hi with
      | 1, _ => rfl
      | i + 6, hi => cases hi
    obtain ⟨hresult, hstaged, -⟩ :=
      (hwrites "fire" (.inl rfl) (by unfold Session.Calm; decide +kernel)).1 hsettable
    exact ⟨hresult, hstaged.trans (by decide +kernel)⟩
  · have hclock : ((Convergence.run ticketEngine (ticket "fire" 0 rfl) (ticket "smoke" 40 rfl)
        false).run (Session.saveStart ticketEngine (ticket "smoke" 40 rfl)
          ticketScope)).2.world.clock.next = .ofNanos 5 := by decide +kernel
    have hrow : ((Session.save ticketEngine (ticket "smoke" 40 rfl)).run ticketScope).2.row
        Memory.store (ticketType.key "t-1") =
          .ok (some [.text "t-1", .text "smoke", .integer 0, .integer 2, .timestamp ⟨0, 5⟩,
            .text "bob"]) := by decide +kernel
    have hversion (n : Int) (hn : (ticket "fire" 0 rfl).version? = some n) :
        ticketType.Accepts .version (.integer (n + 1)) := by
      obtain rfl : 1 = n := Option.some.inj hn
      exact EntityType.accepts_of_roleIndex? (i := 3) rfl rfl rfl
    have htime (now : Instant) : ticketType.Accepts .updatedAt (.timestamp now) :=
      EntityType.accepts_of_roleIndex? (i := 4) rfl rfl rfl
    have hauthor : ticketType.Accepts .updatedBy (.text "bob") :=
      EntityType.accepts_of_roleIndex? (i := 5) rfl rfl rfl
    obtain ⟨image, t, -, -, hsupersedes, hresult⟩ :=
      (hwrites "smoke" (.inr rfl) (by unfold Session.Calm; decide +kernel)).2 ⟨1, rfl, by decide⟩
        hversion htime hauthor
    rw [hclock] at hsupersedes
    exact ⟨t, hrow, hresult fun _ _ => rfl, hsupersedes⟩

/-- The notifier has a say in what a save gives back. The save is as before, and the row it writes
is there, but nobody hears of it, and what comes back is the failure to tell. -/
theorem save_unheard :
    Session.Meets Memory.store ticketScope (ticket "smoke" 40 rfl) (ticket "fire" 0 rfl)
      (ticket "fire" 0 rfl).toRow ∧
    (∃ s₂, Session.Proposes unheardTickets Memory.store ticketScope (ticket "smoke" 40 rfl)
      (ticket "fire" 0 rfl) (tallied "smoke") s₂) ∧
    ticketType.schema.checkRow (tallied "smoke").toRow = .ok () ∧
    Session.Calm unheardTickets Memory.store ticketScope (ticket "smoke" 40 rfl) ∧
    ((Session.save unheardTickets (ticket "smoke" 40 rfl)).run ticketScope).2.row Memory.store
        (ticketType.key "t-1") =
      .ok (some [.text "t-1", .text "smoke", .integer 0, .integer 2, .timestamp ⟨0, 5⟩,
        .text "bob"]) ∧
    ((Session.save unheardTickets (ticket "smoke" 40 rfl)).run ticketScope).1.map (·.toRow) =
      .error (.persistence "notify" (.execution "nobody listens")) := by
  refine ⟨ticketScope_meets _ (.inr rfl),
    ⟨_, ticketScope_proposes "smoke" (.inr rfl) unheardTickets (.inr rfl)⟩, rfl, ?_, ?_, ?_⟩
  · unfold Session.Calm
    decide +kernel
  · decide +kernel
  · decide +kernel

end RecordEngine
