import RecordEngine.Proofs.Session.Creating
import RecordEngine.Proofs.Session.Enumerated
import RecordEngine.Proofs.Session.Gathering
import RecordEngine.Proofs.Session.Rewriting
/-!
What is stored already.

A save of a record that agrees with what is stored ends before it has called a handler, whatever
the handlers are, unless one is forced (`Session.looksOnly_of_stored`). So it is enough that a
create or a save gives back what is stored and that a save of it is admitted. The first is because
the record given back was read after everything else was done. For the second, the row that is read
has to be one of a record that could be saved (`Record.Savable`): what a create inserts is, as long
as the stamps do not get in the way, and a save leaves a row in order that was. It does not put one
in order that was not, because fields that it may not write are never checked again.
-/

set_option autoImplicit false

namespace RecordEngine

variable {β σ H : Type} {E : EntityType} {id : String}

/-! ## Records that can be saved as they are -/

/-- The record could be saved as it is, if it is what is stored under the identifier: it bears the
identifier, passes the check, and carries a version if its type has versions. -/
structure Record.Savable (id : String) (t : Record E) : Prop where
  bears : t.id = id
  check : E.schema.checkRow t.toRow = .ok ()
  version : Session.checkVersion t t id = .ok ()

/-- A row is read as a record that could be saved as it is. -/
def EntityType.SavableRow (E : EntityType) (id : String) (row : Row) : Prop :=
  ∃ t : Record E, Record.ofRow E row = .ok t ∧ t.Savable id

/-- The stamps of the engine do not make a record one that could not be saved: their fields are not
limited to some texts, and a version is a whole number. -/
structure EntityType.Stampable (E : EntityType) : Prop where
  free : ∀ field ∈ E.schema.fields, field.isStamped = true → field.allowed = none
  version : E.schema.isVersioned = true → ∃ i, E.VersionAt i

theorem Session.checkVersion_self {t : Record E} :
    checkVersion t t id = .ok () ↔ (E.schema.isVersioned = true → ∃ n, t.version? = some n) := by
  constructor
  · intro h hversioned
    obtain ⟨n, hn, -⟩ := checkVersion_eq_ok hversioned h
    exact ⟨n, hn⟩
  · intro h
    refine checkVersion_of_eq fun hversioned => ?_
    obtain ⟨n, hn⟩ := h hversioned
    exact ⟨n, hn, hn⟩

namespace EntityType.Stampable

variable (hE : E.Stampable)
include hE

/-- What a create inserts could be saved. -/
theorem savable_of_creation {record : Record E} {audit : AuditRecord}
    (h : Creation E id record audit) : record.Savable id where
  bears := h.id_eq
  check := h.enumerated.checkRow hE.free
  version := by
    rw [Session.checkVersion_self]
    intro hversioned
    obtain ⟨i, hi⟩ := hE.version hversioned
    exact ⟨1, hi.version?_eq_some.2 (h.version hi)⟩

/-- A save leaves a row in order. -/
theorem savableRow_of_revision {stored proposed : Record E} {audit : AuditRecord}
    (h : Revision E id stored proposed audit) {old image : Row} (hold : E.SavableRow id old)
    (himage : Store.overwrite (E.key id) old
      ((Session.writtenFields stored proposed).indices.map fun i => (i, proposed.field i)) =
        .ok image) : E.SavableRow id image := by
  obtain ⟨r, hr, hsavable⟩ := hold
  obtain ⟨t, ht⟩ := Record.ofRow_overwrite ⟨r, hr⟩ himage
  have hfield := Record.field_of_overwrite himage hr ht
  refine ⟨t, ht, (Record.id_of_overwrite himage hr ht).trans hsavable.bears, ?_, ?_⟩
  · refine Record.Enumerated.checkRow (fun i field hdef hstamped => ?_) hE.free
    -- Whichever of the two the field is taken from, it is in order there.
    rw [hfield]
    split
    · exact h.enumerated i field hdef hstamped
    · exact Record.enumerated_of_checkRow hsavable.check i field hdef hstamped
  · rw [Session.checkVersion_self]
    intro hversioned
    obtain ⟨i, hi⟩ := hE.version hversioned
    have hfieldi := hfield i
    split at hfieldi
    · obtain ⟨given, converged, now, -, -, hversion, -⟩ := h.stamped
      obtain ⟨n, -, hn⟩ := Session.checkVersion_eq_ok hversioned hversion
      exact ⟨n + 1, hi.version?_eq_some.2 (hfieldi.trans (h.version hi hn))⟩
    · obtain ⟨n, hn⟩ := Session.checkVersion_self.1 hsavable.version hversioned
      exact ⟨n, hi.version?_eq_some.2 (hfieldi.trans (hi.version?_eq_some.1 hn))⟩

/-- All that creates and saves write of a row could be saved, if what they overwrite could. -/
theorem permits {types : EntityType → Prop} (hnames : ∀ F, types F → F.name = E.name → F = E)
    (who : Holder) (id : String) :
    who.Permits types (Call.Upholds who.tx (E.key id) (E.SavableRow id)) where
  fetch _ _ := trivial
  insert F hF other record audit hcreation _ hkey := by
    obtain ⟨hname, rfl⟩ := RowKey.mk.inj hkey
    obtain rfl := hnames F hF hname
    exact ⟨record, record.ofRow_toRow, hE.savable_of_creation hcreation⟩
  update F hF other stored proposed audit hrevision _ hkey old image hold himage := by
    obtain ⟨hname, rfl⟩ := RowKey.mk.inj hkey
    obtain rfl := hnames F hF hname
    exact hE.savableRow_of_revision hrevision hold himage
  audit _ := trivial

end EntityType.Stampable

/-- Where nothing has moved, a transaction sees what it saw. -/
theorem Store.Unmoved.visibleRow {s s' : Store} {tx : TxId} (h : s.Unmoved tx s') (hs : s.Sound)
    (hs' : s'.Sound) (key : RowKey) : (s'.visibleRow tx key).1 = (s.visibleRow tx key).1 := by
  have hstaged := h.staged
  cases hopen : s.transactions.get? tx with
  | none =>
    rw [changesOf, changesOf, hopen, Option.map_none, Option.map_eq_none_iff] at hstaged
    unfold Store.visibleRow
    rw [hopen, hstaged]
  | some t =>
    rw [changesOf, changesOf, hopen, Option.map_some] at hstaged
    obtain ⟨t', hopen', hchanges⟩ := Option.map_eq_some_iff.1 hstaged
    rw [visibleRow_of_open hopen, visibleRow_of_open hopen', hs.seen_eq hopen, hs'.seen_eq hopen',
      hchanges, committedRow?, h.rows, committedRow?]

namespace Session

open SessionM

variable {engine : Engine β σ} {store : β → Store} {mine : β → TxId → Prop}
  {s s' : Scope β σ} {record stored t : Record E} {row image : Row} {staged : List Change}

/-! ## Saves that only look -/

/-- The scope after the backend was asked for a row. -/
def fetched (engine : Engine β σ) (s : Scope β σ) (key : RowKey) : Scope β σ :=
  { s with
    world.backend := (engine.backend.call (.fetch s.session.tx key) s.world.backend).2 }

/-- The scope after a save that did nothing but look at the row of its record: the backend was asked
for it, and a span was entered and left. The session is the one it was, and so are the clock and the
state of the host. -/
def looked (engine : Engine β σ) (s : Scope β σ) (record : Record E) : Scope β σ :=
  ((fetched engine s (E.key record.id)).within (.modelActivity E.name record.id .update)).leave
    (s.world.trace.enter (.modelActivity E.name record.id .update)).1

/-- A save does nothing but look, and gives the record back. -/
def LooksOnly (engine : Engine β σ) (s : Scope β σ) (record : Record E) : Prop :=
  (save engine record).run s = (.ok record, looked engine s record)

/-- Whatever the handlers do, none of them is called for what is stored already. -/
theorem looksOnly_of_stored (hcheck : E.schema.checkRow record.toRow = .ok ())
    (hid : record.id ≠ "")
    (hanswer : (engine.backend.call (.fetch s.session.tx (E.key record.id)) s.world.backend).1 =
      .ok (some row)) (hrow : Record.ofRow E row = .ok stored)
    (hversion : checkVersion record stored record.id = .ok ())
    (hsame : ∀ i, (stored.field i).agrees (record.field i) = true)
    (hforced : Convergence.forcePending engine E s.session record.id = false) :
    LooksOnly engine s record := by
  have hload : (load engine E record.id).run s =
      (.ok stored, fetched engine s (E.key record.id)) := load_of_fetched hanswer hrow
  have hdue : Convergence.due stored record false = false :=
    Convergence.due_eq_false_iff.2 ⟨rfl, hsame⟩
  have hhandlers (s₁ : Scope β σ) : (Convergence.run engine stored record
      (Convergence.forcePending engine E s.session record.id)).run s₁ =
        (.ok ⟨0, record, .empty⟩, s₁) := by
    rw [hforced, Convergence.run, Convergence.runFrom_of_not_due hdue]
    rfl
  have hsave := saveWith_run hcheck hid hload hversion (hhandlers _)
    (drain engine (operationsAt engine engine.nesting))
  rw [settle_unchanged hcheck (changedFields_isEmpty.2 fun i _ => hsame i)] at hsave
  exact hsave

/-! ## Reading at the end -/

/-- A record that is given an identifier bears it. -/
theorem id_of_setField {index : Nat} {id : String} (hindex : E.schema.identifierIndex = .ok index)
    (h : record.setField index (.text id) = .ok t) : t.id = id := by
  obtain ⟨f, w, -, hconvert, hfield⟩ := Record.field_of_setField h
  have hrole : E.schema.roleIndex? .identifier = some index := by
    unfold Schema.identifierIndex at hindex
    split at hindex
    · next found hfound => rw [hfound, Except.ok.inj hindex]
    · cases hindex
  have hvalue : t.field index = .text id := by
    rw [hfield, if_pos rfl, FieldType.eq_of_convert hconvert nofun]
  rw [Record.id, hrole]
  dsimp only
  rw [hvalue]
  rfl

/-- A record that is to be created has an identifier. -/
theorem id_ne_of_admitNew (h : (admitNew engine record).run s = (.ok t, s')) : t.id ≠ "" := by
  unfold admitNew at h
  obtain ⟨given, s₁, hwithId, h⟩ := of_run_bind_ok h
  obtain ⟨_, s₂, -, h⟩ := of_run_bind_ok h
  obtain ⟨_, s₃, -, h⟩ := of_run_bind_ok h
  obtain ⟨hgiven, -⟩ := Prod.mk.inj h
  obtain rfl : given = t := Except.ok.inj hgiven
  by_cases hempty : record.id.isEmpty
  · rw [withId, if_pos hempty] at hwithId
    by_cases hassigns : engine.config.assignMissingIds
    · rw [if_pos hassigns] at hwithId
      obtain ⟨index, s₄, hindex, hwithId⟩ := of_run_bind_ok hwithId
      obtain ⟨assigned, s₅, hassigned, hwithId⟩ := of_run_bind_ok hwithId
      obtain ⟨hassigned, -⟩ := Prod.mk.inj hassigned
      obtain ⟨hindex, -⟩ := Prod.mk.inj hindex
      rw [← Except.ok.inj hassigned] at hwithId
      obtain ⟨hset, -⟩ := Prod.mk.inj hwithId
      rw [id_of_setField hindex hset]
      exact s₄.world.ids.next.2
    · rw [if_neg hassigns] at hwithId
      cases hwithId
  · rw [withId, if_neg hempty] at hwithId
    obtain ⟨hgiven, -⟩ := Prod.mk.inj hwithId
    rw [← Except.ok.inj hgiven]
    simpa using hempty

section
variable (hshares : engine.backend.Shares store mine)
include hshares

/-- A load that finds a record finds the image that the transaction has staged of its row, if it has
staged one. -/
theorem load_staged {own : TxId} (htx : s.session.tx = own)
    (h : Backend.Hosts store mine own s.world.backend)
    (hload : (load engine E id).run s = (.ok t, s')) :
    s'.session.tx = own ∧ ∃ staged, Backend.Staging store mine own staged s'.world.backend ∧
      ∀ image, imageIn staged (E.key id) = some image → Record.ofRow E image = .ok t := by
  subst htx
  obtain ⟨result, hrun, hread⟩ := load_run engine E id s
  obtain ⟨rfl, rfl⟩ := Prod.mk.inj (hrun.symm.trans hload)
  obtain ⟨row, hanswer, hrow⟩ := hread t rfl
  obtain ⟨rivals, -, hanswer', hstore, hhosts⟩ :=
    hshares.reaches h (.fetch s.session.tx (E.key id))
  have hsound := h.sound.run rivals
  rw [hanswer'] at hanswer
  obtain ⟨u, hopen, hseen⟩ := Store.visibleRow_eq_ok.1 hanswer
  have hstaged : ((store s.world.backend).run rivals).changesOf s.session.tx = some u.changes := by
    rw [Store.changesOf, hopen]
    rfl
  refine ⟨rfl, u.changes, ⟨hhosts, ?_⟩, fun image himage => ?_⟩
  · rw [hstore, (Store.fetch_adds hsound hopen _).2.changesOf hstaged, List.append_nil]
  · rw [hsound.seen_eq hopen, himage, Option.some_or] at hseen
    rw [Option.some.inj hseen, hrow]

/-- What the session has staged and read is stored already. -/
theorem looksOnly_of_staged (h : Backend.Staging store mine s.session.tx staged s.world.backend)
    (himage : imageIn staged (E.key id) = some image) (ht : Record.ofRow E image = .ok t)
    (hsavable : t.Savable id) (hid : id ≠ "")
    (hforced : Convergence.forcePending engine E s.session t.id = false) :
    LooksOnly engine s t := by
  obtain rfl := hsavable.bears
  obtain ⟨u, -, -, hanswer, -⟩ := h.fetch hshares (E.key t.id)
  rw [himage, Option.some_or] at hanswer
  exact looksOnly_of_stored hsavable.check hid hanswer ht hsavable.version
    (fun i => Value.agrees_refl _) hforced

/-- An insert that goes through is staged. -/
theorem staging_of_inserted {own : TxId} {key : RowKey} {b : β}
    (h : Backend.Hosts store mine own b)
    (hok : (engine.backend.call (.insert own key row) b).1 = .ok ()) :
    ∃ staged, Backend.Staging store mine own (staged ++ [.insertRow key row])
      (engine.backend.call (.insert own key row) b).2 := by
  obtain ⟨rivals, -, hanswer, hstore, hhosts⟩ := hshares.reaches h (.insert own key row)
  have heffect := Store.effect_step (h.sound.run rivals) (.insert own key row)
  rw [← hanswer, hok, ← hstore] at heffect
  generalize hafter : store (engine.backend.call (.insert own key row) b).2 = after at heffect
  cases heffect with
  | inserted _ _ _ t hopen hseen =>
    refine ⟨t.changes, hhosts, ?_⟩
    rw [hafter, Store.changesOf, Store.get?_holding, if_pos rfl, Option.map_some,
      Transaction.stage_changes, Store.touched, Transaction.touch_changes]

/-- A create that inserts its record has staged what was made of it. -/
theorem insertNew_staging {start : β} (who : Holder) {defers : SessionWork σ Unit → Prop}
    {may : Call → Prop} {written : Record E × DeferredWork σ}
    (hheeds : ∀ handler ∈ engine.registry.handlers E, handler.Heeds who.tx may defers)
    (hs : s.session.holder = who)
    (hsince : Backend.Since store mine who.tx start s.world.backend)
    (hrun : (insertNew engine record).run s = (.ok written, s')) :
    s'.session.holder = who ∧ DeferredWork.Holds defers written.2 ∧
      ∃ staged, ∃ (stamped : Record E) (audit : AuditRecord),
        Creation E record.id stamped audit ∧ Backend.Staging store mine who.tx
          (staged ++ [.insertRow (E.key record.id) stamped.toRow]) s'.world.backend := by
  have hguards : engine.backend.Guards who.tx may (Backend.Since store mine who.tx start) :=
    fun c b _ => hshares.guards_since who.tx start c b trivial
  obtain ⟨hholder, hreaches⟩ := (insertNew_leaves hguards hheeds record).ends hs hsince hrun
  generalize s'.world.backend = b at hreaches ⊢
  cases hreaches with
  | made c b answer _ hc hI hanswer hqueue =>
    obtain ⟨stamped, audit, hcreation, rfl⟩ := hc
    obtain ⟨staged, hstaging⟩ := staging_of_inserted hshares hI.hosts hanswer
    exact ⟨hholder, hqueue, staged, stamped, audit, hcreation, hstaging⟩
  | idle _ _ _ hidle => exact hidle.elim

section
variable {types : EntityType → Prop} (hnames : ∀ F, types F → F.name = E.name → F = E)
  (hE : E.Stampable)
include hnames hE

/-- What a create reads after its write is what it has staged, and it could be saved. -/
theorem read_of_inserted {who : Holder} (hs : s.session.holder = who)
    (hengine : engine.Heeds who.tx (Call.Upholds who.tx (E.key id) (E.SavableRow id)) types)
    (hstaging : Backend.Staging store mine who.tx staged s.world.backend)
    (himage : imageIn staged (E.key id) = some image) (hsavable : E.SavableRow id image)
    {written : Record E} {queue : DeferredWork σ}
    (hqueue : DeferredWork.Holds (fun work => work.run.Heeds who.tx
      (Call.Upholds who.tx (E.key id) (E.SavableRow id)) types) queue)
    (hrun : (do
      announceNew engine id written
      drain engine (operationsAt engine engine.nesting) queue
      load engine E id).run s = (.ok t, s')) :
    s'.session.holder = who ∧ ∃ staged' image',
      Backend.Staging store mine who.tx staged' s'.world.backend ∧
      imageIn staged' (E.key id) = some image' ∧ Record.ofRow E image' = .ok t ∧ t.Savable id := by
  obtain ⟨_, s₁, hannounce, hrun⟩ := of_run_bind_ok hrun
  obtain ⟨_, s₂, hdrain, hload⟩ := of_run_bind_ok hrun
  have hstart (row : Row) (hrow : (imageIn staged (E.key id)).or
      ((store s.world.backend).committedRow? (E.key id)) = some row) : E.SavableRow id row := by
    rw [himage, Option.some_or] at hrow
    exact Option.some.inj hrow ▸ hsavable
  have hguards := hshares.guards_upheld who.tx hstaging.hosts.sound hstart
  have hpermits := hE.permits hnames who id
  have hoperations := operationsAt_maintains hguards hpermits hshares.overhears_gathers hengine
    engine.nesting
  obtain ⟨hholder₁, hgathers₁, -⟩ := (announceNew_maintains hguards hpermits
    hshares.overhears_gathers id written).ends hs (hstaging.gathers_upheld hstart) hannounce
  obtain ⟨hholder₂, hgathers₂, -⟩ :=
    (drainAll_maintains hguards hpermits hoperations hqueue).ends hholder₁ hgathers₁ hdrain
  obtain ⟨hholder', hgathers', -⟩ :=
    (load_maintains hguards hpermits.fetch E id).ends hholder₂ hgathers₂ hload
  obtain ⟨-, staged', hstaging', hread⟩ :=
    load_staged hshares (congrArg Holder.tx hholder₂) hgathers₂.since.hosts hload
  obtain ⟨later, rfl, hupheld⟩ := hgathers'.gathered staged' hstaging'.staged
  obtain ⟨image', himage'⟩ : ∃ image', imageIn (staged ++ later) (E.key id) = some image' := by
    rw [imageIn_append, himage]
    cases imageIn later (E.key id) <;> exact ⟨_, rfl⟩
  have hrow := hread image' himage'
  obtain ⟨t', ht', hsavable'⟩ :=
    hupheld (.inl (by rw [himage]; exact Option.some_ne_none _)) image' himage'
  obtain rfl : t = t' := Except.ok.inj (hrow.symm.trans ht')
  exact ⟨hholder', _, image', hstaging', himage', hrow, hsavable'⟩

/-- What a create gives back is what it has staged, and it could be saved. -/
theorem create_reads (hengine : engine.Heeds s.session.tx (Call.SparesRows s.session.tx) types)
    (hstaging : Backend.Staging store mine s.session.tx staged s.world.backend)
    (hrun : (create engine record).run s = (.ok t, s')) :
    s'.session.holder = s.session.holder ∧ ∃ id staged' image, id ≠ "" ∧
      Backend.Staging store mine s.session.tx staged' s'.world.backend ∧
      imageIn staged' (E.key id) = some image ∧ Record.ofRow E image = .ok t ∧ t.Savable id := by
  rw [create_eq] at hrun
  obtain ⟨given, s₁, hadmitted, hrun⟩ := of_run_bind_ok hrun
  obtain ⟨s₂, hbody, rfl⟩ := of_run_withSpan hrun
  obtain ⟨written, s₃, hinsert, hrest⟩ := of_run_bind_ok hbody
  have hheeds : engine.Heeds s.session.tx
      (Call.Upholds s.session.tx (E.key given.id) (E.SavableRow given.id)) types :=
    hengine.mono fun c hc => hc.upholds _ _
  -- Up to the write it is enough to know that the transaction is still one's own.
  obtain ⟨hholder₁, hsince, -⟩ := (admitNew_maintains (hshares.guards_since s.session.holder.tx
    s.world.backend) record).ends rfl hstaging.since hadmitted
  obtain ⟨hholder₃, hqueue, before, stamped, audit, hcreation, hstaging₃⟩ :=
    insertNew_staging hshares s.session.holder (hheeds E) (s := s₁.within _) hholder₁ hsince hinsert
  obtain ⟨hholder₂, staged', image, hstaging', himage, hrow, hsavable⟩ :=
    read_of_inserted hshares hnames hE hholder₃ hheeds hstaging₃ (Store.imageIn_written rfl _)
      ⟨stamped, stamped.ofRow_toRow, hE.savable_of_creation hcreation⟩ hqueue hrest
  exact ⟨hholder₂, given.id, staged', image, id_ne_of_admitNew hadmitted, hstaging', himage, hrow,
    hsavable⟩

omit hnames hE in
/-- A save that went well closes with a load, unless there was nothing to do. -/
theorem closeSave_reads {start : β} {who : Holder} (hs : s.session.holder = who)
    (hsince : Backend.Since store mine who.tx start s.world.backend) {written : Option (Record E)}
    {queue : DeferredWork σ}
    (hrun : (closeSave engine (drain engine (operationsAt engine engine.nesting)) record written
      queue).run s = (.ok t, s')) :
    (written = none ∧ s' = s) ∨ ∃ s₁ : Scope β σ, s₁.session.tx = who.tx ∧
      Backend.Hosts store mine who.tx s₁.world.backend ∧
      (load engine E record.id).run s₁ = (.ok t, s') := by
  unfold closeSave at hrun
  split at hrun
  · next hidle =>
    rw [Bool.and_eq_true, Option.isNone_iff_eq_none] at hidle
    obtain ⟨-, rfl⟩ := Prod.mk.inj hrun
    exact .inl ⟨hidle.1, rfl⟩
  · obtain ⟨_, s₁, hdrain, hload⟩ := of_run_bind_ok hrun
    have hguards := hshares.guards_since who.tx start
    have hoperations := operationsAt_maintains hguards who.permits_any
      (hshares.overhears_since who.tx start) (engine.heeds_any who.tx) engine.nesting
    obtain ⟨hholder, hsince₁, -⟩ := (drainAll_maintains hguards who.permits_any hoperations
      fun action _ => action.2.run.heeds_any who.tx).ends hs hsince hdrain
    exact .inr ⟨s₁, congrArg Holder.tx hholder, hsince₁.hosts, hload⟩

omit hnames hE in
/-- A save that staged an image of its row gives back the record that reads as the last one. -/
theorem save_reads (hengine : engine.Heeds s.session.tx (Call.SparesRows s.session.tx) types)
    (hstaging : Backend.Staging store mine s.session.tx staged s.world.backend)
    (hrun : (save engine record).run s = (.ok t, s')) {later : List Change}
    (hlater : (store s'.world.backend).changesOf s.session.tx = some (staged ++ later))
    (himage : imageIn later (E.key record.id) = some image) :
    record.id ≠ "" ∧ s'.session.tx = s.session.tx ∧
      Backend.Staging store mine s.session.tx (staged ++ later) s'.world.backend ∧
      imageIn (staged ++ later) (E.key record.id) = some image ∧ Record.ofRow E image = .ok t := by
  rw [save_eq] at hrun
  obtain ⟨stored, s₁, hadmitted, hrun⟩ := of_run_bind_ok hrun
  obtain ⟨s₂, hbody, rfl⟩ := of_run_withSpan hrun
  obtain ⟨written, s₃, hwrite, hrest⟩ := of_run_bind_ok hbody
  obtain ⟨_, s₄, hannounce, hclose⟩ := of_run_bind_ok hrest
  have hguards : engine.backend.Guards s.session.holder.tx (Call.SparesRows s.session.holder.tx)
      (Backend.Gathers store mine s.session.holder.tx s.world.backend staged
        fun _ later => ∀ key, imageIn later key = none) := hshares.guards_rowless
  have hany := hshares.guards_since s.session.holder.tx s.world.backend
  obtain ⟨hholder₁, hgathers₁, hversion⟩ := (admitChange_maintains hguards
    (fun _ _ => trivial) record).ends rfl (hstaging.gathers fun _ => rfl) hadmitted
  obtain ⟨hholder₃, hreaches⟩ := (updateChanged_leaves hguards (hengine E)
    (hversion stored rfl)).ends (s := s₁.within _) hholder₁ hgathers₁ hwrite
  -- Until the write of the save, if it comes to that, no row was written.
  obtain ⟨hsince₃, hrowless⟩ :
      Backend.Since store mine s.session.holder.tx s.world.backend s₃.world.backend ∧
        (written.1 = none → Backend.Gathers store mine s.session.holder.tx s.world.backend staged
          (fun _ later => ∀ key, imageIn later key = none) s₃.world.backend) := by
    generalize s₃.world.backend = b at hreaches
    cases hreaches with
    | made c b answer _ hc hI hanswer hmade =>
      exact ⟨(hany c b trivial hI.since).1, fun hnone => absurd hnone hmade.1⟩
    | idle _ _ hI hidle => exact ⟨hI.since, fun _ => hI⟩
  obtain ⟨hholder₄, hsince₄, -⟩ := (announceChange_maintains hany s.session.holder.permits_any
    (hshares.overhears_since _ _) record.id stored written.1).ends hholder₃ hsince₃ hannounce
  rcases closeSave_reads hshares hholder₄ hsince₄ hclose with
    ⟨hnone, rfl⟩ | ⟨s₅, htx, hhosts, hload⟩
  · rw [hnone] at hannounce
    obtain ⟨-, rfl⟩ := Prod.mk.inj hannounce
    obtain ⟨gathered, hsame, hnothing⟩ := (hrowless hnone).gathered _ hlater
    obtain rfl := List.append_cancel_left hsame
    rw [hnothing] at himage
    cases himage
  · obtain ⟨htx', staged', hstaging', hread⟩ := load_staged hshares htx hhosts hload
    obtain rfl := Option.some.inj (hlater.symm.trans hstaging'.staged)
    have hlast : imageIn (staged ++ later) (E.key record.id) = some image := by
      rw [imageIn_append, himage, Option.some_or]
    exact ⟨(load_of_admitChange hadmitted).1, htx', hstaging', hlast, hread image hlast⟩

/-- A save leaves its row in order, if it was and nobody commits it meanwhile. -/
theorem save_savable (htypes : types E)
    (hengine : engine.Heeds s.session.tx (Call.SparesRows s.session.tx) types)
    (hstaging : Backend.Staging store mine s.session.tx staged s.world.backend)
    (hseen : ∀ row, s.row store (E.key record.id) = .ok (some row) → E.SavableRow record.id row)
    (hcalm : Calm engine store s record) {later : List Change}
    (hlater : (store ((save engine record).run s).2.world.backend).changesOf s.session.tx =
      some (staged ++ later))
    (himage : imageIn later (E.key record.id) = some image) : E.SavableRow record.id image := by
  have hstart (row : Row) (hrow : (imageIn staged (E.key record.id)).or
      ((store s.world.backend).committedRow? (E.key record.id)) = some row) :
      E.SavableRow record.id row :=
    hseen row (hstaging.hosts.sound.visibleRow_eq_ok.2 ⟨staged, hstaging.staged, hrow⟩)
  have hguards := hshares.guards_upheld s.session.holder.tx hstaging.hosts.sound hstart
  have hheeds : engine.Heeds s.session.holder.tx
      (Call.Upholds s.session.holder.tx (E.key record.id) (E.SavableRow record.id)) types :=
    hengine.mono fun c hc => hc.upholds _ _
  have hoperations := operationsAt_maintains hguards (hE.permits hnames s.session.holder record.id)
    hshares.overhears_gathers hheeds (engine.nesting + 1)
  obtain ⟨-, hgathers', -⟩ := (hoperations E htypes record).2 s rfl (hstaging.gathers_upheld hstart)
  obtain ⟨gathered, hsame, hupheld⟩ := hgathers'.gathered _ hlater
  obtain rfl := List.append_cancel_left hsame
  refine hupheld (.inr ?_) image (by rw [imageIn_append, himage, Option.some_or])
  rw [Store.stampNo, Store.stampNo]
  exact congrArg (Option.getD · 0) hcalm

end

end

/-! ## Saving again -/

/-- Looking at a row moves nothing, in whichever transaction. -/
theorem looked_unmoved {heard : β → H} (hfronts : engine.backend.Fronts store heard)
    (hsound : (store s.world.backend).Sound) (record : Record E) :
    (store (looked engine s record).world.backend).Sound ∧
      ∀ tx, (store s.world.backend).Unmoved tx
        (store (looked engine s record).world.backend) := by
  have hlooked : (looked engine s record).world.backend = (engine.backend.call
    (.fetch s.session.tx (E.key record.id)) s.world.backend).2 := rfl
  rw [hlooked]
  rcases hfronts.call (.fetch s.session.tx (E.key record.id)) s.world.backend with
    ⟨-, hstore⟩ | ⟨-, hstore⟩
  · rw [hstore]
    have hafter := hsound.step (.fetch s.session.tx (E.key record.id))
    have heffect := Store.effect_step hsound (.fetch s.session.tx (E.key record.id))
    generalize (store s.world.backend).step (.fetch s.session.tx (E.key record.id)) = out
      at hafter heffect
    obtain ⟨answer, after⟩ := out
    refine ⟨hafter, fun tx => ?_⟩
    cases heffect with
    | unknown => exact .refl _ tx
    | fetched _ _ _ hopen => exact Store.unmoved_touched hopen _
  · rw [hstore]
    exact ⟨hsound, fun tx => .refl _ tx⟩

/-- **Saving what is stored already.** Let no handler be forced for a record. Whatever the handlers
of an engine do, a save of the record gives it back and does nothing but look at its row, if the
record passes the check, has an identifier, is of the stored version and agrees in every field with
the row that the session is shown. To look at a row moves nothing in any transaction and is heard by
nobody, and everybody sees of every row what they saw.

On a store that others use as well, let the transaction of a session be open, let handlers and the
work they put off write no row in it past the session and no record of another type of the name, and
let no field that is stamped be limited to some texts and every version be a whole number. Then the
record that a create gives back can be saved again at once: that save does nothing but look. So can
the record that a save gives back which staged an image of its row, if the record could be saved as
it is; and it could, if the row that the save began with was one of a record that could be, and
nobody committed it while the save went on. -/
theorem save_again (engine : Engine β σ) (E : EntityType) :
    (∀ (s : Scope β σ) (record stored : Record E) (row : Row),
      E.schema.checkRow record.toRow = .ok () → record.id ≠ "" →
      (engine.backend.call (.fetch s.session.tx (E.key record.id)) s.world.backend).1 =
        .ok (some row) →
      Record.ofRow E row = .ok stored → checkVersion record stored record.id = .ok () →
      (∀ i, (stored.field i).agrees (record.field i) = true) →
      Convergence.forcePending engine E s.session record.id = false →
      LooksOnly engine s record) ∧
    (∀ (store : β → Store) (heard : β → H), engine.backend.Fronts store heard →
      ∀ s : Scope β σ, (store s.world.backend).Sound → ∀ record : Record E,
        heard (looked engine s record).world.backend = heard s.world.backend ∧
        ∀ tx, (store s.world.backend).Unmoved tx (store (looked engine s record).world.backend) ∧
          ∀ key, ((store (looked engine s record).world.backend).visibleRow tx key).1 =
            ((store s.world.backend).visibleRow tx key).1) ∧
    (∀ (store : β → Store) (mine : β → TxId → Prop), engine.backend.Shares store mine →
      ∀ types : EntityType → Prop, types E → (∀ F, types F → F.name = E.name → F = E) →
      E.Stampable → ∀ (s s' : Scope β σ) (staged : List Change),
      Backend.Staging store mine s.session.tx staged s.world.backend →
      engine.Heeds s.session.tx (Call.SparesRows s.session.tx) types → ∀ record t : Record E,
        ((create engine record).run s = (.ok t, s') →
          Convergence.forcePending engine E s'.session t.id = false → LooksOnly engine s' t) ∧
        ((save engine record).run s = (.ok t, s') →
          (∃ later image, (store s'.world.backend).changesOf s.session.tx = some (staged ++ later) ∧
            imageIn later (E.key record.id) = some image) →
          (t.Savable record.id → Convergence.forcePending engine E s'.session t.id = false →
            LooksOnly engine s' t) ∧
          ((∀ row, s.row store (E.key record.id) = .ok (some row) →
              E.SavableRow record.id row) →
            Calm engine store s record → t.Savable record.id))) := by
  refine ⟨fun s record stored row hcheck hid hanswer hrow hversion hsame hforced =>
      looksOnly_of_stored hcheck hid hanswer hrow hversion hsame hforced,
    fun store heard hfronts s hsound record => ⟨hfronts.silent _ _, fun tx => ?_⟩,
    fun store mine hshares types htypes hnames hE s s' staged hstaging hengine record t =>
      ⟨fun hrun hforced => ?_, fun hrun hwrote => ?_⟩⟩
  · obtain ⟨hafter, hunmoved⟩ := looked_unmoved hfronts hsound record
    exact ⟨hunmoved tx, (hunmoved tx).visibleRow hsound hafter⟩
  · obtain ⟨hholder, id, staged', image, hid, hstaging', himage, hrow, hsavable⟩ :=
      create_reads hshares hnames hE hengine hstaging hrun
    have htx : s'.session.tx = s.session.tx := congrArg Holder.tx hholder
    rw [← htx] at hstaging'
    exact looksOnly_of_staged hshares hstaging' himage hrow hsavable hid hforced
  · obtain ⟨later, image, hlater, himage⟩ := hwrote
    obtain ⟨hid, htx, hstaging', hlast, hrow⟩ :=
      save_reads hshares hengine hstaging hrun hlater himage
    refine ⟨fun hsavable hforced => ?_, fun hseen hcalm => ?_⟩
    · rw [← htx] at hstaging'
      exact looksOnly_of_staged hshares hstaging' hlast hrow hsavable hid hforced
    · have hend : ((save engine record).run s).2 = s' := by rw [hrun]
      rw [← hend] at hlater
      obtain ⟨t', ht', hsavable⟩ :=
        save_savable hshares hnames hE htypes hengine hstaging hseen hcalm hlater himage
      obtain rfl : t = t' := Except.ok.inj (hrow.symm.trans ht')
      exact hsavable

end Session

/-! ## Tickets and parcels -/

theorem ticketType_stampable : ticketType.Stampable where
  free := by decide
  version _ := ⟨3, rfl, by rintro f ⟨⟩; rfl⟩

theorem ticketEngine_heeds :
    ticketEngine.Heeds ⟨2⟩ (Call.SparesRows ⟨2⟩) (· = ticketType) := by
  intro F
  have htally : tally.Heeds ⟨2⟩ (Call.SparesRows ⟨2⟩) fun work =>
      work.run.Heeds ⟨2⟩ (Call.SparesRows ⟨2⟩) (· = ticketType) := fun _ _ _ _ => trivial
  exact Registry.forall_handlers_singleton
    (P := fun _ handler => handler.Heeds ⟨2⟩ (Call.SparesRows ⟨2⟩) fun work =>
      work.run.Heeds ⟨2⟩ (Call.SparesRows ⟨2⟩) (· = ticketType)) htally F

/-- A ticket as somebody would create it. -/
def flood : Record ticketType :=
  ⟨[.text "t-2", .text "flood", .integer 0, .integer 0, .timestamp ⟨0, 0⟩, .text ""],
    ⟨rfl, rfl, rfl, rfl, rfl, rfl, trivial⟩⟩

/-- What a ticket is after Bob has written it. -/
def ticketOfBob (id title : String) (views version : Nat) (h : fitsBits 64 views = true)
    (hversion : fitsBits 64 version = true) : Record ticketType :=
  ⟨[.text id, .text title, .integer views, .integer version, .timestamp ⟨0, 5⟩, .text "bob"],
    ⟨rfl, rfl, h, hversion, rfl, rfl, trivial⟩⟩

/-- The handler would set the views at every save, but it is not asked. -/
theorem save_again_tickets :
    Session.LooksOnly ticketEngine ticketScope (ticket "fire" 0 rfl) ∧
      (∀ tx key, ((Session.looked ticketEngine ticketScope
          (ticket "fire" 0 rfl)).world.backend.store.visibleRow tx key).1 =
        (ticketScope.world.backend.store.visibleRow tx key).1) ∧
      (((Session.create ticketEngine flood).run ticketScope).1 =
          .ok (ticketOfBob "t-2" "flood" 9 1 rfl rfl) ∧
        Session.LooksOnly ticketEngine ((Session.create ticketEngine flood).run ticketScope).2
          (ticketOfBob "t-2" "flood" 9 1 rfl rfl)) ∧
      ((Session.save ticketEngine (ticket "smoke" 40 rfl)).run ticketScope).1 =
          .ok (ticketOfBob "t-1" "smoke" 0 2 rfl rfl) ∧
        Session.LooksOnly ticketEngine
          ((Session.save ticketEngine (ticket "smoke" 40 rfl)).run ticketScope).2
          (ticketOfBob "t-1" "smoke" 0 2 rfl rfl) := by
  obtain ⟨hlaw, hlooked, hagain⟩ := Session.save_again ticketEngine ticketType
  have hsound : ticketScope.world.backend.store.Sound := Store.sound_empty.run _
  have hagain := hagain Memory.store (fun _ _ => True) Backend.memory_shares (· = ticketType) rfl
    (fun _ hF _ => hF) ticketType_stampable ticketScope
  have hstaging : Backend.Staging Memory.store (fun _ _ => True) ⟨2⟩ []
      ticketScope.world.backend := ⟨⟨hsound, trivial⟩, by decide +kernel⟩
  have hcreated : ((Session.create ticketEngine flood).run ticketScope).1 =
      .ok (ticketOfBob "t-2" "flood" 9 1 rfl rfl) := by decide +kernel
  have hsaved : ((Session.save ticketEngine (ticket "smoke" 40 rfl)).run ticketScope).1 =
      .ok (ticketOfBob "t-1" "smoke" 0 2 rfl rfl) := by decide +kernel
  refine ⟨?_, fun tx key => ?_, ⟨hcreated, ?_⟩, hsaved, ?_⟩
  · exact hlaw ticketScope _ (ticket "fire" 0 rfl) (ticket "fire" 0 rfl).toRow rfl (by decide)
      (by decide +kernel) rfl rfl (fun _ => Value.agrees_refl _) (by decide +kernel)
  · exact ((hlooked Memory.store Memory.channel Backend.memory_fronts ticketScope hsound _).2
      tx).2 key
  · have hforced : Convergence.forcePending ticketEngine ticketType
        ((Session.create ticketEngine flood).run ticketScope).2.session "t-2" = false := by
      decide +kernel
    exact (hagain _ [] hstaging ticketEngine_heeds flood _).1 (Session.run_eq hcreated) hforced
  · have hforced : Convergence.forcePending ticketEngine ticketType
        ((Session.save ticketEngine (ticket "smoke" 40 rfl)).run ticketScope).2.session "t-1" =
          false := by decide +kernel
    have hwrote : (((Session.save ticketEngine (ticket "smoke" 40 rfl)).run
        ticketScope).2.world.backend.store.changesOf ⟨2⟩).bind
          (imageIn · (ticketType.key "t-1")) =
            some (ticketOfBob "t-1" "smoke" 0 2 rfl rfl).toRow := by decide +kernel
    have hcalm : Session.Calm ticketEngine Memory.store ticketScope (ticket "smoke" 40 rfl) := by
      unfold Session.Calm
      decide +kernel
    have hfire : ticketScope.row Memory.store (ticketType.key "t-1") =
        .ok (some (ticket "fire" 0 rfl).toRow) := by decide +kernel
    obtain ⟨later, hlater, himage⟩ := Option.bind_eq_some_iff.1 hwrote
    obtain ⟨hidle, hsavable⟩ := (hagain _ [] hstaging ticketEngine_heeds (ticket "smoke" 40 rfl)
      _).2 (Session.run_eq hsaved) ⟨later, _, hlater, himage⟩
    refine hidle (hsavable (fun row hrow => ?_) hcalm) hforced
    obtain rfl := Option.some.inj (Except.ok.inj (hfire.symm.trans hrow))
    exact ⟨ticket "fire" 0 rfl, rfl, rfl, rfl, rfl⟩

def parcelType : EntityType where
  name := "parcel"
  fields := [{ name := "id", role := some .identifier, type := .text },
    { name := "state", allowed := some ["sent", "held"], settable := false, type := .text },
    { name := "remark", type := .text }]

def parcel (state remark : String) : Record parcelType :=
  ⟨[.text "p-1", .text state, .text remark], ⟨rfl, rfl, rfl, trivial⟩⟩

/-- A session of Bob's that sees a parcel in a state that the type does not allow. -/
def parcelScope : Scope Memory Unit where
  world := noteOutside.on
    ⟨Store.empty.run
      [.begin, .insert ⟨1⟩ (parcelType.key "p-1") (parcel "lost" "light").toRow, .commit ⟨1⟩,
        .begin], none⟩
  session := .start ⟨2⟩ (.ofId "bob") {}

/-- A save may not write the state, so it writes the remark and gives back a record that a save
refuses, though there are no handlers and no field of a role is limited. -/
theorem parcel_refused_again :
    (parcelType.schema.validate = .ok () ∧
      ∀ field ∈ parcelType.schema.fields, field.role ≠ none → field.allowed = none) ∧
    noteEngine.registry.handlers parcelType = [] ∧
    ((Session.save noteEngine (parcel "sent" "heavy")).run parcelScope).1 =
        .ok (parcel "lost" "heavy") ∧
    ((Session.save noteEngine (parcel "sent" "heavy")).run parcelScope).2.row Memory.store
        (parcelType.key "p-1") = .ok (some (parcel "lost" "heavy").toRow) ∧
    Convergence.forcePending noteEngine parcelType
      ((Session.save noteEngine (parcel "sent" "heavy")).run parcelScope).2.session "p-1" = false ∧
    ((Session.save noteEngine (parcel "sent" "heavy") >>= fun returned =>
      Session.save noteEngine returned).run parcelScope).1 =
        .error (.validation "Field 'state' must be one of [sent, held], got 'lost'") := by
  refine ⟨⟨rfl, by decide⟩, rfl, ?_, ?_, ?_, ?_⟩
  · decide +kernel
  · decide +kernel
  · decide +kernel
  · decide +kernel

end RecordEngine
