import RecordEngine.Proofs.Session.Interleaving
import RecordEngine.Proofs.Store.Origin
/-!
Fields that no save changes.

The identifier, the stamps of the creation and the fields declared unsettable are written once, by
the create that made the row. Callers and handlers may put what they like into the record that they
hand over: a save takes from it only the fields in its mask, and none of these ever is. The store
keeps this through every interleaving, because each image of a row goes back by updates to one
insert, which is the one of the transaction that made the row.

Nothing depends on who else listens. The notifier may refuse what it is told, and the audit records
may go to the store or to a log of their own, which may refuse them as well.
-/

set_option autoImplicit false

namespace RecordEngine

variable {β σ : Type} {E : EntityType}

/-! ## Playing amid other services -/

/-- What the services beside the store answer a session in the course of a run: the notifier, and,
if audit records are not kept in the store, the audit log. Where a list ends, all goes well. -/
structure Surroundings where
  notices : List (Except Failure Unit)
  audits : Option (List (Except Failure Unit))

/-- The next answer and those left. -/
def Surroundings.next :
    List (Except Failure Unit) → Except Failure Unit × List (Except Failure Unit)
  | [] => (.ok (), [])
  | answer :: rest => (answer, rest)

/-- A backend that gives the answers of a script in place of a store, amid other services. -/
def Backend.amid : Backend (Option (List Event) × Surroundings) where
  call c b :=
    match c, b.2.audits with
    | .audit _ _, some answers =>
      let (answer, rest) := Surroundings.next answers
      (answer, (b.1, { b.2 with audits := some rest }))
    | c, _ =>
      let (answer, script) := Backend.scripted.call c b.1
      (answer, (script, b.2))
  announce _ b :=
    let (answer, rest) := Surroundings.next b.2.notices
    (answer, (b.1, { b.2 with notices := rest }))

/-- A call is put to the script, or it is an audit record that goes elsewhere. -/
theorem Backend.amid_cases (c : Call) (b : Option (List Event) × Surroundings) :
    (amid.call c b).2.1 = b.1 ∨
      ((amid.call c b).1 = (scripted.call c b.1).1 ∧
        (amid.call c b).2.1 = (scripted.call c b.1).2) := by
  obtain ⟨script, notices, audits⟩ := b
  cases c with
  | audit tx record =>
    cases audits with
    | none => exact .inr ⟨rfl, rfl⟩
    | some answers => exact .inl rfl
  | _ => exact .inr ⟨rfl, rfl⟩

/-- Whoever has come to the end of a script has made every call of the script. -/
theorem Backend.Serves.mem_of_script {b b' : Option (List Event) × Surroundings} {es : List Event}
    (h : Backend.amid.Serves b es b') (hend : b'.1 = some []) :
    ∃ played, b.1 = some played ∧ ∀ e ∈ played, e ∈ es := by
  induction h with
  | nil => exact ⟨[], hend, List.forall_mem_nil _⟩
  | announce notice b b' events hrest ih => exact ih hend
  | call c b b' rest hrest ih =>
    obtain ⟨played, hplayed, hmem⟩ := ih hend
    rcases Backend.amid_cases c b with hleft | ⟨hanswer, hleft⟩
    · exact ⟨played, hleft.symm.trans hplayed, fun e he => List.mem_cons_of_mem _ (hmem e he)⟩
    rw [hleft] at hplayed
    rw [hanswer]
    rcases Backend.scripted_cases c b.1 with ⟨answer, events, hscript, hcall⟩ | ⟨left, hcall, hoff⟩
    · rw [hcall] at hplayed ⊢
      obtain rfl := Option.some.inj hplayed
      refine ⟨_, hscript, List.forall_mem_cons.2 ⟨List.mem_cons_self, fun e he => ?_⟩⟩
      exact List.mem_cons_of_mem _ (hmem e he)
    · rw [hcall] at hplayed
      obtain ⟨rfl, hscript⟩ := hoff played hplayed
      exact ⟨[], hscript, List.forall_mem_nil _⟩

/-- The engine with a script for a store, amid other services. -/
def Engine.amid (engine : Engine β σ) : Engine (Option (List Event) × Surroundings) σ where
  registry := engine.registry
  backend := .amid
  config := engine.config
  nesting := engine.nesting

namespace Life

/-- The events are what the session does, up to some point, when the store answers as they say and
the services around it answer as given. -/
def PlaysAmid (engine : Engine β σ) (life : Life σ) (around : Surroundings)
    (events : List Event) : Prop :=
  (life.play engine.amid (some events, around)).1 = some []

/-- All work of the session asks only for what is of a kind, past its creates and saves. -/
def Asks (direct : Call → Prop) (types : EntityType → Prop) (life : Life σ) : Prop :=
  ∀ visit ∈ life.visits, visit.work.run.Asks direct types

/-- A session may do nothing. -/
theorem playsAmid_nil (engine : Engine β σ) (life : Life σ) (around : Surroundings) :
    life.PlaysAmid engine around [] := rfl

end Life

section
variable {engine : Engine β σ} {direct : Call → Prop} {types : EntityType → Prop}
  {Q : Event → Prop} (hgrants : ∀ who : Holder, who.Grants types Q)
  (hdirect : ∀ c answer, direct c → Q ⟨c, answer⟩) (hengine : engine.Asks direct types)
include hgrants hdirect hengine

theorem Visit.performAll_confined {visits : List (Visit σ)}
    (h : ∀ visit ∈ visits, visit.work.run.Asks direct types) (session : Session) (backend : β) :
    ∃ es, engine.backend.Serves backend es (performAll engine visits session backend).2 ∧
      ∀ e ∈ es, Q e := by
  induction visits generalizing session backend with
  | nil => exact ⟨[], .nil _, List.forall_mem_nil _⟩
  | cons visit rest ih =>
    obtain ⟨hfirst, hrest⟩ := List.forall_mem_cons.1 h
    obtain ⟨-, es, hserves, hkind, -⟩ :=
      Session.perform_confined (hgrants session.holder) hdirect hengine hfirst
        ⟨visit.outside.on backend, session⟩ rfl
    obtain ⟨es', hserves', hkind'⟩ :=
      ih hrest (visit.perform engine session backend).1 (visit.perform engine session backend).2
    exact ⟨_, hserves.append hserves', List.forall_mem_append.2 ⟨hkind, hkind'⟩⟩

/-- Every call of a session is of a kind, from the one that opens it to the one that ends it. -/
theorem Life.play_confined (hbegin : ∀ answer, Q ⟨.begin, answer⟩)
    (hending : ∀ (ending : Ending) tx answer, Q ⟨ending.call tx, answer⟩) {life : Life σ}
    (h : life.Asks direct types) (backend : β) :
    ∃ es, engine.backend.Serves backend es (life.play engine backend) ∧ ∀ e ∈ es, Q e := by
  rw [play_eq]
  have hcall (es : List Event) (b' : β)
      (hserves : engine.backend.Serves (engine.backend.call .begin backend).2 es b') :
      engine.backend.Serves backend (⟨.begin, (engine.backend.call .begin backend).1⟩ :: es) b' :=
    .call .begin backend b' es hserves
  generalize engine.backend.call .begin backend = answered at hcall
  obtain ⟨answer, opened⟩ := answered
  cases answer with
  | error failure =>
    exact ⟨_, hcall [] opened (.nil opened), List.forall_mem_singleton.2 (hbegin _)⟩
  | ok tx =>
    obtain ⟨es, hserves, hkind⟩ := Visit.performAll_confined hgrants hdirect hengine h
      (Session.start tx life.actor life.options) opened
    dsimp only
    generalize Visit.performAll engine life.visits (Session.start tx life.actor life.options)
      opened = out at hserves ⊢
    obtain ⟨session, ended⟩ := out
    refine ⟨_, hcall _ _ (hserves.append (.call _ _ _ [] (.nil _))), ?_⟩
    exact List.forall_mem_cons.2 ⟨hbegin _,
      List.forall_mem_append.2 ⟨hkind, List.forall_mem_singleton.2 (hending _ _ _)⟩⟩

end

/-! ## What a save leaves alone -/

/-- Whether the field keeps the value of the creation: it is the identifier or a stamp of the
creation, or it has no role and is declared unsettable. -/
def FieldDef.isImmutable (field : FieldDef) : Bool :=
  match field.role with
  | some .identifier | some .createdAt | some .createdBy => true
  | some _ => false
  | none => !field.settable

/-- A field that keeps its value is none that a save may write. -/
theorem Schema.isWritable_of_isImmutable {i : Nat} {f : Field} (hf : E.fields[i]? = some f)
    (himmutable : f.isImmutable = true) : E.schema.isWritable i = false := by
  have hfield : E.schema.fields[i]? = some f.toFieldDef := by
    rw [EntityType.schema, List.getElem?_map, hf]
    rfl
  rw [isWritable, hfield]
  dsimp only
  unfold FieldDef.isImmutable at himmutable
  cases hrole : f.role with
  | none =>
    rw [hrole, Bool.not_eq_true'] at himmutable
    exact himmutable
  | some role =>
    rw [hrole] at himmutable
    cases role with
    | identifier | createdAt | createdBy => rfl
    | version | updatedAt | updatedBy => cases himmutable

/-- Rows under an identifier, the second of which came from the first by writes that a save may
make. -/
def EntityType.Descends (E : EntityType) (id : String) (origin row : Row) : Prop :=
  ∃ made record : Record E, origin = made.toRow ∧ row = record.toRow ∧ made.id = id ∧
    ∀ i, E.schema.isWritable i = false → record.field i = made.field i

/-- A call that stages no row. -/
def Call.LeavesRows : Call → Prop
  | .insert .. | .update .. => False
  | _ => True

/-- The event is one that create and save may make: it inserts the row of a record under its
identifier, or overwrites fields with the mask of a save, or stages no row. -/
def Event.Regular (types : EntityType → Prop) (e : Event) : Prop :=
  match e.call with
  | .insert _ key row =>
    ∃ F, types F ∧ ∃ record : Record F, key = F.key record.id ∧ row = record.toRow
  | .update _ key fields =>
    ∃ F, types F ∧ ∃ id, key = F.key id ∧ ∃ stored proposed : Record F,
      fields = (Session.writtenFields stored proposed).indices.map fun i => (i, proposed.field i)
  | _ => True

variable {types : EntityType → Prop}

theorem Holder.grants_regular (who : Holder) : who.Grants types (Event.Regular types) where
  fetch _ _ _ := trivial
  insert F hF record _ := ⟨F, hF, record, rfl, rfl⟩
  update F hF id stored proposed _ := ⟨F, hF, id, rfl, stored, proposed, rfl⟩
  audit _ _ := trivial

theorem Event.regular_of_leavesRows {c : Call} (answer : Except Failure c.Answer)
    (h : c.LeavesRows) : Event.Regular types ⟨c, answer⟩ := by
  cases c with
  | insert => exact h.elim
  | update => exact h.elim
  | _ => trivial

/-- What create and save write of a row descends from what was inserted. -/
theorem Event.Regular.hands (hnames : ∀ F, types F → F.name = E.name → F = E) {e : Event}
    (h : e.Regular types) (id : String) : e.Hands (E.key id) (E.Descends id) := by
  obtain ⟨c, answer⟩ := e
  cases c with
  | insert tx key row =>
    cases answer with
    | error failure => trivial
    | ok done =>
      intro hkey
      obtain ⟨F, hF, record, rfl, rfl⟩ := h
      obtain rfl := hnames F hF (congrArg RowKey.table hkey)
      exact ⟨record, record, rfl, rfl, congrArg RowKey.id hkey, fun _ _ => rfl⟩
  | update tx key fields =>
    cases answer with
    | error failure => trivial
    | ok done =>
      intro hkey origin old row hold hrow
      obtain ⟨F, hF, id', rfl, stored, proposed, rfl⟩ := h
      obtain rfl := hnames F hF (congrArg RowKey.table hkey)
      obtain ⟨made, record, rfl, rfl, hid, hkept⟩ := hold
      obtain ⟨next, hnext, hfield⟩ := Record.overwrite_toRow (F.key id) proposed
        (Session.writtenFields stored proposed).indices record
        fun i hi => Session.lt_of_contains_writtenFields (FieldMask.mem_indices.1 hi)
      obtain rfl := Except.ok.inj (hnext.symm.trans hrow)
      refine ⟨made, next, rfl, rfl, hid, fun i hi => ?_⟩
      -- A field that is written is writable.
      have hunwritten : i ∉ (Session.writtenFields stored proposed).indices := by
        intro hmem
        rw [Session.isWritable_of_contains_writtenFields (FieldMask.mem_indices.1 hmem)] at hi
        cases hi
      rw [hfield, if_neg hunwritten, hkept i hi]
  | _ => trivial

/-- **Immutable fields and keys.** Let any number of sessions of an engine share a store, their
calls interleaved in any way, and let rows be written only by creates and saves. After any run, a
committed row of a key reads as a record of the identifier of that key. There is one transaction
that made the row, and the identifier, the stamps of the creation and the unsettable fields without
a role have the values it was inserted with. -/
theorem immutable_of_interleaved (engine : Engine β σ) (types : EntityType → Prop)
    (hengine : engine.Asks Call.LeavesRows types) (lives : Nat → Life σ)
    (hlives : ∀ i, (lives i).Asks Call.LeavesRows types) (around : Nat → Surroundings)
    (calls : List (Nat × Call))
    (hplays : ∀ i, (lives i).PlaysAmid engine (around i) (Store.empty.part i calls))
    (E : EntityType) (hnames : ∀ F, types F → F.name = E.name → F = E) (id : String) (row : Row)
    (hrow : (Store.empty.run (calls.map (·.2))).committedRow? (E.key id) = some row) :
    (∃ record, Record.ofRow E row = .ok record ∧ record.id = id) ∧
      ∃ maker origin, Made maker (E.key id) origin (Store.empty.transcript (calls.map (·.2))) ∧
        (∀ maker' origin',
          Made maker' (E.key id) origin' (Store.empty.transcript (calls.map (·.2))) →
            maker' = maker ∧ origin' = origin) ∧
        ∀ (i : Nat) (f : Field), E.fields[i]? = some f → f.isImmutable = true →
          row[i]? = origin[i]? := by
  have hregular : ∀ e ∈ Store.empty.transcript (calls.map (·.2)), e.Regular types := by
    intro e he
    obtain ⟨i, hi⟩ := Store.mem_transcript_iff.1 he
    have hamid : engine.amid.Asks Call.LeavesRows types := hengine
    obtain ⟨es, hserves, hkind⟩ := Life.play_confined (Q := Event.Regular types)
      Holder.grants_regular (fun _ answer => Event.regular_of_leavesRows answer) hamid
      (fun _ => trivial) (fun ending _ _ => by cases ending <;> trivial) (hlives i)
      (some (Store.empty.part i calls), around i)
    obtain ⟨played, hplayed, hmem⟩ := hserves.mem_of_script (hplays i)
    obtain rfl := Option.some.inj hplayed
    exact hkind e (hmem e hi)
  have hroot : (Store.empty.run (calls.map (·.2))).Rooted (E.key id) (E.Descends id)
      (Store.empty.transcript (calls.map (·.2))) :=
    Store.rooted_run fun e he => (hregular e he).hands hnames id
  obtain ⟨maker, origin, hmaker, made, record, rfl, rfl, hid, hkept⟩ := hroot.committed row hrow
  refine ⟨⟨record, record.ofRow_toRow, ?_⟩, maker, made.toRow, hmaker, ?_, fun i f hf him => ?_⟩
  · rw [Record.id_eq_of_not_writable hkept, hid]
  · intro maker' origin' hmaker'
    exact hroot.single maker' origin' maker made.toRow hmaker' hmaker
  · have hi : i < E.fields.length := (List.getElem?_eq_some_iff.1 hf).1
    have hsame := hkept i (Schema.isWritable_of_isImmutable hf him)
    rw [Record.toRow, Record.toRow, record.values_getElem? hi, made.values_getElem? hi, hsame]

/-! ## A badge whose number is given out once -/

def badgeType : EntityType where
  name := "badge"
  fields := [{ name := "id", role := some .identifier, type := .text },
    { name := "holder", type := .text },
    { name := "number", settable := false, type := .text },
    { name := "issuer", role := some .createdBy, type := .text }]

def badge (holder number issuer : String) : Record badgeType :=
  ⟨[.text "a", .text holder, .text number, .text issuer], ⟨rfl, rfl, rfl, rfl, trivial⟩⟩

/-- Ann issues badge number 7. Bob hands it on, and tries to give it another number and another
issuer; nobody hears of it, because the notifier is out of order. -/
def badgeLife (i : Nat) : Life Unit where
  outside := noteOutside
  actor := .ofId (if i = 0 then "ann" else "bob")
  options := {}
  visits :=
    [⟨noteOutside, do
      let _ ← if i = 0 then SessionWork.create badgeType (badge "cleo" "7" "")
        else SessionWork.save badgeType (badge "dora" "8" "bob")⟩]
  ending := .commit

def badgeSurroundings (i : Nat) : Surroundings where
  notices := if i = 0 then [] else [.error (.execution "out of order")]
  audits := none

def badgeCalls : List (Nat × Call) :=
  let key : RowKey := ⟨"badge", "a"⟩
  [(0, .begin), (1, .begin),
    (0, .insert ⟨1⟩ key [.text "a", .text "cleo", .text "7", .text "ann"]),
    (0, .audit ⟨1⟩ ⟨"ann", "ann", .create, "badge", "a",
      ⟨[⟨"id", none, .text "a"⟩, ⟨"holder", none, .text "cleo"⟩, ⟨"number", none, .text "7"⟩,
        ⟨"issuer", none, .text "ann"⟩]⟩⟩),
    (0, .fetch ⟨1⟩ key), (0, .commit ⟨1⟩), (1, .fetch ⟨2⟩ key),
    (1, .update ⟨2⟩ key [(1, .text "dora")]), (1, .commit ⟨2⟩)]

theorem badgeLife_asks (i : Nat) : (badgeLife i).Asks Call.LeavesRows (· = badgeType) := by
  intro visit hvisit
  obtain rfl := List.mem_singleton.1 hvisit
  by_cases hi : i = 0
  · subst hi
    refine ⟨rfl, fun answer => ?_⟩
    cases answer <;> trivial
  · simp only [hi, if_false]
    refine ⟨rfl, fun answer => ?_⟩
    cases answer <;> trivial

theorem badgeLife_plays (i : Nat) :
    (badgeLife i).PlaysAmid noteEngine (badgeSurroundings i) (Store.empty.part i badgeCalls) := by
  match i with
  | 0 => rfl
  | 1 => rfl
  | i + 2 =>
    have hpart : Store.empty.part (i + 2) badgeCalls = [] := by simp [badgeCalls, Store.part]
    rw [hpart]
    exact Life.playsAmid_nil _ _ _

theorem immutable_of_badgeCalls :
    (Store.empty.run (badgeCalls.map (·.2))).committedRow? (badgeType.key "a") =
        some (badge "dora" "7" "ann").toRow ∧
      ∃ maker origin,
        Made maker (badgeType.key "a") origin (Store.empty.transcript (badgeCalls.map (·.2))) ∧
          origin[2]? = some (.text "7") ∧ origin[3]? = some (.text "ann") := by
  have hrow : (Store.empty.run (badgeCalls.map (·.2))).committedRow? (badgeType.key "a") =
      some (badge "dora" "7" "ann").toRow := rfl
  obtain ⟨-, maker, origin, hmaker, -, hkept⟩ := immutable_of_interleaved noteEngine (· = badgeType)
    (fun _ _ h => by cases h) badgeLife badgeLife_asks badgeSurroundings badgeCalls badgeLife_plays
    badgeType (fun _ hF _ => hF) "a" _ hrow
  exact ⟨hrow, maker, origin, hmaker, (hkept 2 _ rfl rfl).symm, (hkept 3 _ rfl rfl).symm⟩

end RecordEngine
