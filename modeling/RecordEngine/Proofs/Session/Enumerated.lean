import RecordEngine.Proofs.Record.Stamps
import RecordEngine.Proofs.Session.Returns
import RecordEngine.Proofs.Store.Images
/-!
Fields limited to a set of texts.

Rows are checked before the handlers run and again after, and what is written is the record that was
checked, with the stamps of the engine put in. So a limited field holds one of its texts in every
row there ever is, as long as no stamp goes there. A field of a stamped role that is limited as well
is written unchecked, and the record that comes back may be one that the next save refuses.
-/

set_option autoImplicit false

namespace RecordEngine

/-! ## The check of a row -/

/-- Whether a create or a save puts a stamp into fields of this role. -/
def Role.isStamped : Role → Bool
  | identifier => false
  | version | createdAt | updatedAt | createdBy | updatedBy => true

/-- Whether the engine puts a stamp into the field. -/
def FieldDef.isStamped (field : FieldDef) : Bool := field.role.any (·.isStamped)

theorem forM_eq_ok {α : Type} {f : α → Except Failure Unit} {l : List α} :
    l.forM f = .ok () ↔ ∀ a ∈ l, f a = .ok () := by
  induction l with
  | nil => exact ⟨fun _ => List.forall_mem_nil _, fun _ => rfl⟩
  | cons a rest ih =>
    change (f a >>= fun _ => rest.forM f) = .ok () ↔ _
    rw [bind_eq_ok, List.forall_mem_cons, ← ih]
    constructor
    · rintro ⟨_, ha, hrest⟩
      exact ⟨ha, hrest⟩
    · rintro ⟨ha, hrest⟩
      exact ⟨(), ha, hrest⟩

namespace Record

variable {E : EntityType} {r r' : Record E}

/-- A row is checked field by field. -/
theorem checkRow_toRow (r : Record E) :
    E.schema.checkRow r.toRow = .ok () ↔
      ∀ (i : Nat) (field : FieldDef), E.schema.fields[i]? = some field →
        field.checkValue (r.field i) = .ok () := by
  rw [Schema.checkRow, forM_eq_ok]
  constructor
  · intro h i field hfield
    have hi : i < E.fields.length := by
      rw [← E.fieldCount_schema]
      exact (List.getElem?_eq_some_iff.1 hfield).1
    apply h (field, r.field i)
    rw [List.mem_iff_getElem?]
    refine ⟨i, ?_⟩
    rw [List.getElem?_zip_eq_some]
    exact ⟨hfield, r.values_getElem? hi⟩
  · rintro h ⟨field, value⟩ hmem
    obtain ⟨i, hi⟩ := List.mem_iff_getElem?.1 hmem
    obtain ⟨hfield, hvalue⟩ := List.getElem?_zip_eq_some.1 hi
    have hlt : i < E.fields.length := by
      rw [← E.fieldCount_schema]
      exact (List.getElem?_eq_some_iff.1 hfield).1
    obtain rfl := Option.some.inj ((r.values_getElem? hlt).symm.trans hvalue)
    exact h i field hfield

/-- Every limited field that is not the engine's own holds one of its texts. -/
def Enumerated (r : Record E) : Prop :=
  ∀ (i : Nat) (field : FieldDef), E.schema.fields[i]? = some field → field.isStamped = false →
    field.checkValue (r.field i) = .ok ()

theorem enumerated_of_checkRow (h : E.schema.checkRow r.toRow = .ok ()) : r.Enumerated :=
  fun i field hfield _ => r.checkRow_toRow.1 h i field hfield

/-- Where no field of the engine's own is limited nothing is left to check. -/
theorem Enumerated.checkRow (h : r.Enumerated)
    (hfree : ∀ field ∈ E.schema.fields, field.isStamped = true → field.allowed = none) :
    E.schema.checkRow r.toRow = .ok () := by
  rw [checkRow_toRow]
  intro i field hfield
  cases hstamped : field.isStamped with
  | false => exact h i field hfield hstamped
  | true => rw [FieldDef.checkValue, hfree field (List.mem_of_getElem? hfield) hstamped]

/-- No stamp goes to a field that is not the engine's own. -/
theorem roleIndex?_ne_of_not_stamped {i : Nat} {field : FieldDef}
    (hfield : E.schema.fields[i]? = some field) (hstamped : field.isStamped = false) {role : Role}
    (hrole : role.isStamped = true) : E.schema.roleIndex? role ≠ some i := by
  intro hi
  have hat := Schema.roleAt?_of_roleIndex? hi
  rw [Schema.roleAt?, hfield, Option.bind_some] at hat
  rw [FieldDef.isStamped, hat, Option.any_some, hrole] at hstamped
  cases hstamped

end Record

/-! ## Writes -/

variable {E : EntityType} {id : String}

/-- A new record is the one that was checked last, but for the stamps. -/
theorem Creation.enumerated {record : Record E} {audit : AuditRecord}
    (h : Creation E id record audit) : record.Enumerated := by
  obtain ⟨converged, now, -, hcheck, hstamp⟩ := h.stamped
  intro i field hfield hstamped
  have hsame : record.field i = converged.field i := by
    apply Session.field_of_stampNew hstamp
    intro role hrole
    apply Record.roleIndex?_ne_of_not_stamped hfield hstamped
    cases role with
    | identifier => exact absurd rfl hrole
    | _ => rfl
  rw [hsame]
  exact Record.enumerated_of_checkRow hcheck i field hfield hstamped

/-- What a save writes is taken from the record that was checked last, but for the stamps. -/
theorem Revision.enumerated {stored proposed : Record E} {audit : AuditRecord}
    (h : Revision E id stored proposed audit) : proposed.Enumerated := by
  obtain ⟨given, converged, now, -, -, -, hcheck, -, hstamp⟩ := h.stamped
  intro i field hfield hstamped
  have hsame : proposed.field i = converged.field i := by
    apply Session.field_of_stampChanged hstamp
    intro role hrole
    apply Record.roleIndex?_ne_of_not_stamped hfield hstamped
    cases role with
    | identifier => cases hrole
    | _ => rfl
  rw [hsame]
  exact Record.enumerated_of_checkRow hcheck i field hfield hstamped

/-- A row of the type is one of a record whose limited fields are in order. -/
def EntityType.OrderlyRow (E : EntityType) (key : RowKey) (row : Row) : Prop :=
  ∀ id, key = E.key id → ∃ record : Record E, row = record.toRow ∧ record.Enumerated

theorem Revision.upholds {stored proposed : Record E} {audit : AuditRecord}
    (h : Revision E id stored proposed audit) {old row : Row}
    (hold : ∃ record : Record E, old = record.toRow ∧ record.Enumerated)
    (hrow : Store.overwrite (E.key id) old
      ((Session.writtenFields stored proposed).indices.map fun i => (i, proposed.field i)) =
        .ok row) :
    ∃ record : Record E, row = record.toRow ∧ record.Enumerated := by
  obtain ⟨record, rfl, henumerated⟩ := hold
  have hlt : ∀ i ∈ (Session.writtenFields stored proposed).indices, i < E.fields.length :=
    fun i hi => Session.lt_of_contains_writtenFields (FieldMask.mem_indices.1 hi)
  obtain ⟨next, hnext, hfield⟩ := Record.overwrite_toRow (E.key id) proposed _ record hlt
  refine ⟨next, Except.ok.inj (hrow.symm.trans hnext), fun i field hdef hstamped => ?_⟩
  -- Whichever of the two the field is taken from, it is in order there.
  rw [hfield]
  split
  · exact h.enumerated i field hdef hstamped
  · exact henumerated i field hdef hstamped

section Protocol

variable {types : EntityType → Prop} {tx : TxId} {m m' : Mode}

theorem Mode.Step.upholds (hnames : ∀ F, types F → F.name = E.name → F = E) {e : Event}
    (h : Mode.Step types tx m e m') : e.Upholds E.OrderlyRow := by
  cases h with
  | read _ _ hread =>
    obtain ⟨call, answer⟩ := e
    cases call with
    | insert | update => cases hread
    | _ => trivial
  | loaded _ _ F id row => trivial
  | refused _ _ _ hwrite hrefused =>
    obtain ⟨call, answer⟩ := e
    cases answer with
    | error failure => cases call <;> trivial
    | ok a => cases hrefused
  | inserted _ _ F hF id record audit hcreation =>
    intro id' hkey
    obtain ⟨hname, rfl⟩ := RowKey.mk.inj hkey
    obtain rfl := hnames F hF hname
    exact ⟨record, rfl, hcreation.enumerated⟩
  | updated F hF id row stored proposed hrow audit hrevision =>
    intro old new hold hnew id' hkey
    obtain ⟨hname, rfl⟩ := RowKey.mk.inj hkey
    obtain rfl := hnames F hF hname
    exact hrevision.upholds (hold id rfl) hnew
  | audited audit answer => trivial
  | committed _ _ answer => trivial

theorem Mode.Steps.upholds (hnames : ∀ F, types F → F.name = E.name → F = E) {events : List Event}
    (h : Mode.Steps types tx m events m') : ∀ e ∈ events, e.Upholds E.OrderlyRow := by
  induction h with
  | nil m => exact List.forall_mem_nil _
  | cons m m₁ m₂ e rest hstep hrest ih =>
    exact List.forall_mem_cons.2 ⟨hstep.upholds hnames, ih⟩

theorem Obeys.upholds (hnames : ∀ F, types F → F.name = E.name → F = E) {events : List Event}
    (h : Obeys types events) : ∀ e ∈ events, e.Upholds E.OrderlyRow := by
  cases h with
  | silent => exact List.forall_mem_nil _
  | unopened failure => exact List.forall_mem_singleton.2 trivial
  | opened tx rest m' hsteps => exact List.forall_mem_cons.2 ⟨trivial, hsteps.upholds hnames⟩

end Protocol

/-! ## Interleaved sessions -/

section

variable {β σ : Type}

/-- A record that was read where only orderly rows are shown, or that passed the check, is in order.
-/
theorem Record.enumerated_of_returned {events : List Event} {r : Record E}
    (h : r.ReadIn events ∨ E.schema.checkRow r.toRow = .ok ())
    (hshows : ∀ e ∈ events, e.succeeded = true → e.Shows E.OrderlyRow) : r.Enumerated := by
  rcases h with ⟨tx, id, row, hmem, hrow⟩ | hcheck
  · obtain ⟨record, rfl, henumerated⟩ := hshows _ hmem rfl id rfl
    rw [record.ofRow_toRow] at hrow
    exact Except.ok.inj hrow ▸ henumerated
  · exact enumerated_of_checkRow hcheck

/-- **Limited fields stay in order, but for stamps.** Let any number of sessions of an engine share
a store, their calls interleaved in any way, and let rows be staged only by creates and saves. After
any run every committed row of a type, and every row as an open transaction sees it, is that of a
record whose limited fields hold texts they are limited to, except for fields that the engine
stamps. So is every record that a create or a save gives back, to a caller or to deferred work,
wherever its session stands in the run. If the type limits none of the stamped fields, all of these
pass the check of its schema, and so they can be given to a save. -/
theorem enumerated_of_interleaved (engine : Engine β σ) (types : EntityType → Prop)
    (hengine : engine.Behaves types) (lives : Nat → Life σ)
    (hlives : ∀ i, (lives i).Behaves types) (calls : List (Nat × Call))
    (hplays : ∀ i, (lives i).Plays engine (Store.empty.part i calls)) (E : EntityType)
    (hnames : ∀ F, types F → F.name = E.name → F = E) :
    (∀ id row, (Store.empty.run (calls.map (·.2))).committedRow? ⟨E.name, id⟩ = some row →
      ∃ record : Record E, row = record.toRow ∧ record.Enumerated) ∧
    (∀ tx t id row, (Store.empty.run (calls.map (·.2))).transactions.get? tx = some t →
      (Store.empty.run (calls.map (·.2))).seen t ⟨E.name, id⟩ = some row →
        ∃ record : Record E, row = record.toRow ∧ record.Enumerated) ∧
    (types E → ∀ (i : Nat) (script : List Event), script <:+ Store.empty.part i calls →
      ∀ s : Scope (Option (List Event)) σ, s.world.backend = some script →
        ∀ (level : Nat) (record returned : Record E),
          (((Session.operationsAt engine.onScript level).create E record).run s).1 =
              .ok returned ∨
            (((Session.operationsAt engine.onScript level).save E record).run s).1 =
              .ok returned →
          returned.Enumerated) ∧
    ((∀ field ∈ E.schema.fields, field.isStamped = true → field.allowed = none) →
      ∀ record : Record E, record.Enumerated → E.schema.checkRow record.toRow = .ok ()) := by
  have hupholds : ∀ e ∈ Store.empty.transcript (calls.map (·.2)), e.Upholds E.OrderlyRow := by
    intro e he
    obtain ⟨i, hi⟩ := Store.mem_transcript_iff.1 he
    exact ((hplays i).obeys hengine (hlives i)).upholds hnames e hi
  have hempty := Store.throughout_empty E.OrderlyRow
  have hrows := hempty.run Store.sound_empty _ hupholds
  refine ⟨fun id row hrow => ?_, fun tx t id row hopen hseen => ?_,
    fun hE i script hscript s hs level record returned hreturned => ?_,
    fun hfree record hrecord => ?_⟩
  · exact hrows.committed _ row hrow id rfl
  · exact hrows.seen hopen hseen id rfl
  · have honScript : engine.onScript.Behaves types := hengine
    have hannounce : engine.onScript.Announces := fun _ _ => rfl
    -- What the session is answered with success stands in its script, and so in the run.
    have hshows {es : List Event} {script' : Option (List Event)}
        (hserves : Backend.scripted.Serves s.world.backend es script') :
        ∀ e ∈ es, e.succeeded = true → e.Shows E.OrderlyRow := by
      intro e he hok
      obtain ⟨events, hevents, hmem⟩ := hserves.mem_script he hok
      obtain rfl := Option.some.inj (hs.symm.trans hevents)
      apply hempty.shows Store.sound_empty _ hupholds
      exact Store.mem_transcript_iff.2 ⟨i, hscript.subset hmem⟩
    obtain ⟨hcreate, hsave⟩ := Session.operationsAt_returns level record
    rcases hreturned with hcreated | hsaved
    · obtain ⟨-, es, hserves, hread⟩ := hcreate s rfl
      exact Record.enumerated_of_returned (hread _ hcreated) (hshows hserves)
    · obtain ⟨-, es, hserves, hread⟩ := hsave s rfl
      exact Record.enumerated_of_returned (hread _ hsaved) (hshows hserves)
  · exact hrecord.checkRow hfree

end

/-! ## A memo that its editor may not save -/

def memoType : EntityType where
  name := "memo"
  fields := [{ name := "id", role := some .identifier, type := .text },
    { name := "status", allowed := some ["open", "closed"], type := .text },
    { name := "editor", role := some .updatedBy, allowed := some ["alice"], type := .text }]

def memo (status editor : String) : Record memoType :=
  ⟨[.text "a", .text status, .text editor], ⟨rfl, rfl, rfl, trivial⟩⟩

/-- Bob creates a memo that names Alice as its editor, as the type demands. -/
def memoLife (i : Nat) : Life Unit where
  outside := noteOutside
  actor := .ofId "bob"
  options := {}
  visits :=
    if i = 0 then
      [⟨noteOutside, do let _ ← SessionWork.create memoType (memo "open" "alice")⟩]
    else []
  ending := .commit

def memoCalls : List (Nat × Call) :=
  let key : RowKey := ⟨"memo", "a"⟩
  [(0, .begin), (0, .insert ⟨1⟩ key [.text "a", .text "open", .text "bob"]),
    (0, .audit ⟨1⟩ ⟨"bob", "bob", .create, "memo", "a",
      ⟨[⟨"id", none, .text "a"⟩, ⟨"status", none, .text "open"⟩,
        ⟨"editor", none, .text "bob"⟩]⟩⟩),
    (0, .fetch ⟨1⟩ key), (0, .commit ⟨1⟩)]

theorem memoLife_behaves (i : Nat) : (memoLife i).Behaves (· = memoType) := by
  intro visit hvisit
  by_cases hi : i = 0
  · subst hi
    obtain rfl := List.mem_singleton.1 hvisit
    refine ⟨rfl, fun answer => ?_⟩
    cases answer <;> trivial
  · rw [memoLife, if_neg hi] at hvisit
    cases hvisit

theorem memoLife_plays (i : Nat) :
    (memoLife i).Plays noteEngine (Store.empty.part i memoCalls) := by
  match i with
  | 0 => rfl
  | i + 1 =>
    have hpart : Store.empty.part (i + 1) memoCalls = [] := by simp [memoCalls, Store.part]
    rw [hpart]
    exact Life.plays_nil (noteEngine_behaves _) (memoLife_behaves _)

theorem enumerated_of_memoCalls :
    (Store.empty.run (memoCalls.map (·.2))).committedRow? ⟨"memo", "a"⟩ =
        some (memo "open" "bob").toRow ∧
      ∃ record : Record memoType, (memo "open" "bob").toRow = record.toRow ∧ record.Enumerated := by
  have hrow : (Store.empty.run (memoCalls.map (·.2))).committedRow? ⟨"memo", "a"⟩ =
      some (memo "open" "bob").toRow := rfl
  obtain ⟨hcommitted, -⟩ := enumerated_of_interleaved noteEngine (· = memoType)
    (noteEngine_behaves _) memoLife memoLife_behaves memoCalls memoLife_plays memoType
    fun _ hF _ => hF
  exact ⟨hrow, hcommitted "a" _ hrow⟩

/-- Bob's session, just begun. -/
def memoScope : Scope Memory Unit where
  world :=
    { backend := ⟨(Store.empty.step .begin).2, none⟩
      trace := .numbering 0
      clock := .ofNanos
      ids := fun _ => ⟨"new", new_ne_empty⟩
      host := () }
  session := .start ⟨1⟩ (.ofId "bob") {}

/-- The stamp makes the memo Bob's. It is committed though its schema refuses it, and what the
create gave back a save refuses. -/
theorem memo_editor_refused :
    (memoType.schema.validate = .ok () ∧
      memoType.schema.checkRow (memo "open" "alice").toRow = .ok ()) ∧
    ((∀ i, (memoLife i).Plays noteEngine (Store.empty.part i memoCalls)) ∧
      (Store.empty.run (memoCalls.map (·.2))).committedRow? ⟨"memo", "a"⟩ =
        some (memo "open" "bob").toRow ∧
      memoType.schema.checkRow (memo "open" "bob").toRow =
        .error (.validation "Field 'editor' must be one of [alice], got 'bob'")) ∧
    ((Session.create noteEngine (memo "open" "alice")).run memoScope).1 =
        .ok (memo "open" "bob") ∧
      ((Session.create noteEngine (memo "open" "alice") >>= fun returned =>
        Session.save noteEngine returned).run memoScope).1 =
          .error (.validation "Field 'editor' must be one of [alice], got 'bob'") := by
  refine ⟨⟨rfl, rfl⟩, ⟨memoLife_plays, rfl, rfl⟩, ?_, ?_⟩
  · decide +kernel
  · decide +kernel

end RecordEngine
