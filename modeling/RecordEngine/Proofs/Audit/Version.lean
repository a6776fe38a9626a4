import RecordEngine.Proofs.Record.Stamps
import RecordEngine.Proofs.Session.Interleaving
/-!
Versions count writes.

A version field is the engine's own: a create stamps it with 1 and a save that writes with one more
than is stored, after the handlers have run, so nothing a caller or a handler puts there survives.
Along the trail of a record the version is therefore the number of audit records, and each audit
record lists the version it brought.
-/

set_option autoImplicit false

namespace RecordEngine

/-! ## Version fields -/

theorem Value.asInteger?_eq_some {v : Value} {n : Int} :
    v.asInteger? = some n ↔ v = .integer n := by
  cases v <;> simp [asInteger?]

/-- Whether the values of a type are whole numbers, or absent. -/
def FieldType.isInteger : FieldType → Bool
  | int64 | int32 => true
  | option inner => inner.isInteger
  | _ => false

/-- A whole number that such a type can hold is stored as it is. -/
theorem FieldType.eq_of_convert_integer {t : FieldType} (ht : t.isInteger = true) {n : Int}
    {w : Value} (h : t.convert (.integer n) = .ok w) : w = .integer n := by
  have hinteger {bits : Nat} (hbits : convertInteger bits (.integer n) = .ok w) :
      w = .integer n := by
    rw [convertInteger] at hbits
    split at hbits
    · exact (Except.ok.inj hbits).symm
    · cases hbits
  induction t with
  | int64 => exact hinteger h
  | int32 => exact hinteger h
  | option inner ih => exact ih ht h
  | _ => cases ht

/-- A type that can hold a whole number holds nothing else but absent values. -/
theorem FieldType.isInteger_of_admits {t : FieldType} {n : Int}
    (h : t.admits (.integer n) = true) : t.isInteger = true := by
  induction t with
  | int64 => rfl
  | int32 => rfl
  | option inner ih => exact ih h
  | _ => cases h

/-- The field at a position is the version, and its type is one that declarations admit for it. -/
structure EntityType.VersionAt (E : EntityType) (i : Nat) : Prop where
  role : E.schema.roleIndex? .version = some i
  integer : ∀ f, E.fields[i]? = some f → f.type.isInteger = true

variable {E : EntityType} {i : Nat} {id : String} {log : List AuditRecord}

namespace EntityType.VersionAt

theorem lt (h : E.VersionAt i) : i < E.fields.length := by
  obtain ⟨hi, -⟩ := List.findIdx?_eq_some_iff_getElem.1 h.role
  rwa [← E.fieldCount_schema]

theorem version?_eq (h : E.VersionAt i) (r : Record E) :
    r.version? = (r.field i).asInteger? := by
  rw [Record.version?, h.role, Option.bind_some]

/-- The record carries a version just if the field holds it. -/
theorem version?_eq_some (h : E.VersionAt i) {r : Record E} {n : Int} :
    r.version? = some n ↔ r.field i = .integer n := by
  rw [h.version?_eq, Value.asInteger?_eq_some]

theorem isWritable (h : E.VersionAt i) : E.schema.isWritable i = true :=
  Schema.isWritable_of_roleIndex? h.role rfl

end EntityType.VersionAt

/-! ## Versions along a trail -/

theorem Creation.version (hi : E.VersionAt i) {record : Record E} {audit : AuditRecord}
    (h : Creation E id record audit) : record.field i = .integer 1 := by
  obtain ⟨converged, now, -, -, hstamp⟩ := h.stamped
  obtain ⟨f, w, hf, hw, hfield⟩ := Session.version_of_stampNew hstamp hi.role
  rw [hfield, FieldType.eq_of_convert_integer (hi.integer f hf) hw]

theorem Revision.version (hi : E.VersionAt i) {stored proposed : Record E} {audit : AuditRecord}
    (h : Revision E id stored proposed audit) {n : Int} (hn : stored.version? = some n) :
    proposed.field i = .integer (n + 1) := by
  obtain ⟨given, converged, now, -, -, -, -, -, hstamp⟩ := h.stamped
  rw [hn, Option.map_some] at hstamp
  obtain ⟨f, w, hf, hw, hfield⟩ := Session.version_of_stampChanged hstamp hi.role
  rw [hfield, FieldType.eq_of_convert_integer (hi.integer f hf) hw]

/-- The first version is one of the fields that a create lists, unless new records begin with it. -/
theorem Creation.lists_version (hi : E.VersionAt i) {record : Record E} {audit : AuditRecord}
    (h : Creation E id record audit) (hfirst : (Record.default E).field i ≠ .integer 1) :
    (FieldMask.diff (.default E) record).contains i = true := by
  rw [FieldMask.contains_diff_iff, h.version hi]
  exact Value.agrees_of_ne hfirst fun _ h => by cases h

/-- The new version is one of the fields that a save writes. -/
theorem Revision.writes_version (hi : E.VersionAt i) {stored proposed : Record E}
    {audit : AuditRecord} (h : Revision E id stored proposed audit) {n : Int}
    (hn : stored.version? = some n) :
    (Session.writtenFields stored proposed).contains i = true := by
  rw [Session.writtenFields, FieldMask.contains_retain, hi.isWritable, Bool.and_true,
    FieldMask.contains_diff_iff, h.version hi hn, hi.version?_eq_some.1 hn]
  have hne : n ≠ n + 1 := by omega
  exact beq_eq_false_iff_ne.2 hne

/-- The version of a record is the number of its audit records. -/
theorem Trail.version (hi : E.VersionAt i) {record : Record E} (h : Trail E id log (some record)) :
    record.version? = some (log.length : Int) := by
  generalize hstate : some record = state at h
  induction h generalizing record with
  | absent => cases hstate
  | created record' audit h =>
    obtain rfl := Option.some.inj hstate
    exact hi.version?_eq_some.2 (h.version hi)
  | revised log stored proposed next audit before h hnext ih =>
    obtain rfl := Option.some.inj hstate
    have hstored := ih rfl
    rw [hi.version?_eq_some, hnext, if_pos (h.writes_version hi hstored), h.version hi hstored,
      List.length_append, List.length_singleton, Int.natCast_add, Int.natCast_one]

/-- The change of a field in the mask is among the changes. -/
theorem ChangeSet.mem_ofMask {mask : FieldMask} {before : Option (Record E)} {after : Record E}
    (h : mask.contains i = true) {field : String} (hfield : E.schema.fieldName? i = some field) :
    ⟨field, before.map (·.field i), after.field i⟩ ∈ (ofMask mask before after).changes := by
  rw [ofMask, List.mem_filterMap]
  exact ⟨i, FieldMask.mem_indices.2 h, by rw [hfield, Option.map_some]⟩

/-- Each audit record of a trail lists the version that its write brought, one more than the number
of audit records before it; that of a create need not, if new records begin with the version. -/
theorem Trail.lists_version (hi : E.VersionAt i) {state : Option (Record E)}
    (h : Trail E id log state) {k : Nat} {audit : AuditRecord} (hk : log[k]? = some audit)
    (hfirst : k = 0 → (Record.default E).field i ≠ .integer 1) :
    ∃ change ∈ audit.changes.changes, E.schema.fieldName? i = some change.field ∧
      change.new = .integer (k + 1) := by
  have hname : ∃ field, E.schema.fieldName? i = some field := by
    apply Schema.fieldName?_isSome
    rw [← Schema.fieldCount, E.fieldCount_schema]
    exact hi.lt
  obtain ⟨field, hfield⟩ := hname
  induction h generalizing k audit with
  | absent => cases hk
  | created record audit' h =>
    obtain ⟨rfl, rfl⟩ : k = 0 ∧ audit' = audit := by
      cases k with
      | zero => exact ⟨rfl, Option.some.inj hk⟩
      | succ k => cases hk
    have hlists := h.lists_version hi (hfirst rfl)
    exact ⟨_, h.changes ▸ ChangeSet.mem_ofMask hlists hfield, hfield, h.version hi⟩
  | revised log stored proposed next audit' before h hnext ih =>
    rcases Nat.lt_or_ge k log.length with hlt | hge
    · rw [List.getElem?_append_left hlt] at hk
      exact ih hk hfirst
    · have hlast : k - log.length < [audit'].length := by
        rw [List.getElem?_append_right hge] at hk
        exact (List.getElem?_eq_some_iff.1 hk).1
      obtain rfl : k = log.length := by
        rw [List.length_singleton] at hlast
        omega
      obtain rfl : audit' = audit := by
        rw [List.getElem?_concat_length] at hk
        exact Option.some.inj hk
      have hstored := before.version hi
      exact ⟨_, h.changes ▸ ChangeSet.mem_ofMask (h.writes_version hi hstored) hfield, hfield,
        h.version hi hstored⟩

/-! ## Stale saves -/

namespace Session

variable {β σ : Type}

/-- The version check lets only the stored version pass. -/
theorem checkVersion_eq_ok (hversioned : E.schema.isVersioned = true) {record stored : Record E}
    (h : checkVersion record stored id = .ok ()) :
    ∃ version, record.version? = some version ∧ stored.version? = some version := by
  rw [checkVersion, if_pos hversioned] at h
  split at h
  · next expected actual hexpected hactual =>
    split at h
    · next hsame => exact ⟨expected, hexpected, hsame ▸ hactual⟩
    · cases h
  · cases h
  · cases h

/-- A record of a type without versions, or one that carries the stored version, passes. -/
theorem checkVersion_of_eq {record stored : Record E} (h : E.schema.isVersioned = true →
      ∃ version, record.version? = some version ∧ stored.version? = some version) :
    checkVersion record stored id = .ok () := by
  unfold checkVersion
  by_cases hversioned : E.schema.isVersioned = true
  · obtain ⟨version, hgiven, hstored⟩ := h hversioned
    rw [if_pos hversioned, hgiven, hstored]
    exact if_pos rfl
  · rw [if_neg hversioned]

/-- A save that carries another version than its session sees, or none, or that finds no row, fails
and makes no call but the read that tells it so. -/
theorem saveWith_current_or_refused (hversioned : E.schema.isVersioned = true)
    (engine : Engine β σ) (drain : DeferredWork σ → SessionM β σ Unit) (record : Record E)
    (s : Scope β σ) :
    (∃ row stored version,
      (engine.backend.call (.fetch s.session.tx (E.key record.id)) s.world.backend).1 =
          .ok (some row) ∧
        Record.ofRow E row = .ok stored ∧ record.version? = some version ∧
        stored.version? = some version) ∨
      ∃ failure, (saveWith engine drain record).run s = (.error failure, s) ∨
        (saveWith engine drain record).run s =
          (.error failure, { s with world.backend :=
            (engine.backend.call (.fetch s.session.tx (E.key record.id)) s.world.backend).2 }) := by
  unfold saveWith
  rw [SessionM.run_bind, SessionM.ofExcept_run]
  cases E.schema.checkRow record.toRow with
  | error failure => exact .inr ⟨failure, .inl rfl⟩
  | ok _ =>
    dsimp only
    split
    · exact .inr ⟨missingId E, .inl rfl⟩
    · obtain ⟨result, hload, hstored⟩ := load_run engine E record.id s
      rw [SessionM.run_bind, hload]
      cases result with
      | error failure => exact .inr ⟨failure, .inr rfl⟩
      | ok stored =>
        dsimp only
        rw [SessionM.run_bind, SessionM.ofExcept_run]
        cases hcheck : checkVersion record stored record.id with
        | error failure => exact .inr ⟨failure, .inr rfl⟩
        | ok _ =>
          obtain ⟨row, hrow, hread⟩ := hstored stored rfl
          obtain ⟨version, hgiven, hversion⟩ := checkVersion_eq_ok hversioned hcheck
          exact .inl ⟨row, stored, version, hrow, hread, hgiven, hversion⟩

end Session

/-! ## Interleaved sessions -/

/-- **Versions are exact.** Let any number of sessions of an engine share a store, their calls
interleaved in any way and their commits seen half done, and let rows and audit records be staged
only by creates and saves. After any run a committed row of a versioned type carries as its version
the number of its audit records, in the log and owed by commits under way. In the order in which
they were published these brought the versions 1, 2, 3 and so on, whatever callers and handlers put
into the field; the log has them in this order unless a commit of the row was overtaken on the way
to the log. And a save, at whatever level of nesting, calls nothing but the read of the stored row
unless it carries the version that its session sees. -/
theorem versions_of_interleaved {β σ : Type} (engine : Engine β σ) (types : EntityType → Prop)
    (hengine : engine.Behaves types) (lives : Nat → Life σ)
    (hlives : ∀ i, (lives i).Behaves types) (beats : List Beat)
    (hplays : ∀ i, (lives i).Plays engine (Ledger.empty.part i beats)) (E : EntityType)
    (index : Nat) (hversion : E.VersionAt index)
    (hnames : ∀ F, types F → F.name = E.name → F = E) :
    (∀ id row, (Ledger.empty.run beats).store.committedRow? ⟨E.name, id⟩ = some row →
      ∃ record, Record.ofRow E row = .ok record ∧ record.version? =
        some (((auditsOf ⟨E.name, id⟩ (Ledger.empty.run beats).store.audits).length +
          (auditsOf ⟨E.name, id⟩ (Ledger.empty.run beats).due).length : Nat) : Int)) ∧
    (∀ id (k : Nat) (audit : AuditRecord),
      (auditsOf ⟨E.name, id⟩ (Ledger.empty.run beats).published)[k]? = some audit →
      (k = 0 → (Record.default E).field index ≠ .integer 1) →
        ∃ change ∈ audit.changes.changes,
          E.schema.fieldName? index = some change.field ∧ change.new = .integer (k + 1)) ∧
    (∀ id, Ledger.empty.Orderly ⟨E.name, id⟩ beats →
      auditsOf ⟨E.name, id⟩ (Ledger.empty.run beats).published =
        auditsOf ⟨E.name, id⟩ (Ledger.empty.run beats).store.audits ++
          auditsOf ⟨E.name, id⟩ (Ledger.empty.run beats).due) ∧
    ∀ (level : Nat) (record : Record E) (s : Scope β σ),
      (∃ row stored version,
        (engine.backend.call (.fetch s.session.tx ⟨E.name, record.id⟩) s.world.backend).1 =
            .ok (some row) ∧
          Record.ofRow E row = .ok stored ∧ record.version? = some version ∧
          stored.version? = some version) ∨
      ∃ failure, ((Session.operationsAt engine level).save E record).run s = (.error failure, s) ∨
        ((Session.operationsAt engine level).save E record).run s =
          (.error failure, { s with world.backend :=
            (engine.backend.call (.fetch s.session.tx ⟨E.name, record.id⟩)
              s.world.backend).2 }) := by
  have hobeys (i : Nat) : Obeys types (Ledger.empty.part i beats) :=
    (hplays i).obeys hengine (hlives i)
  refine ⟨fun id row hrow => ?_, fun id k audit hk hfirst => ?_,
    fun id => (Ledger.auditsOf_published beats ⟨E.name, id⟩).2, fun level record s => ?_⟩
  · obtain ⟨state, hstate, htrail⟩ := Ledger.trail_of_obeys hnames beats hobeys id
    obtain ⟨record, rfl, rfl⟩ := Option.map_eq_some_iff.1 (hstate.symm.trans hrow)
    have hlength := (Ledger.auditsOf_published beats ⟨E.name, id⟩).1.length_eq
    rw [List.length_append] at hlength
    refine ⟨record, Record.ofRow_toRow record, ?_⟩
    rw [← hlength]
    exact htrail.version hversion
  · obtain ⟨state, -, htrail⟩ := Ledger.trail_of_obeys hnames beats hobeys id
    exact htrail.lists_version hversion hk hfirst
  · have hversioned : E.schema.isVersioned = true := by
      rw [Schema.isVersioned, hversion.role, Option.isSome_some]
    cases level with
    -- A save nested too deep is turned down at once.
    | zero => exact .inr ⟨Session.nestedTooDeep, .inl rfl⟩
    | succ level => exact Session.saveWith_current_or_refused hversioned engine _ record s

/-! ## Two sessions and a chapter -/

def chapterType : EntityType where
  name := "chapter"
  fields := [{ name := "id", role := some .identifier, type := .text },
    { name := "text", type := .text }, { name := "edition", role := some .version, type := .int64 }]

def chapter (text : String) (edition : Int) (h : fitsBits 64 edition = true) :
    Record chapterType :=
  ⟨[.text "a", .text text, .integer edition], ⟨rfl, rfl, h, trivial⟩⟩

/-- Ann creates the chapter, and Bob, and whoever else comes, changes its text. -/
def chapterLife (i : Nat) : Life Unit where
  outside := noteOutside
  actor := .ofId (if i = 0 then "ann" else "bob")
  options := {}
  visits :=
    [⟨noteOutside, do
      let _ ← if i = 0 then SessionWork.create chapterType (chapter "one" 0 rfl)
        else SessionWork.save chapterType (chapter "two" 1 rfl)⟩]
  ending := .commit

/-- Bob's session is open while Ann's is at work, and reads the chapter before Ann's commit is
done. -/
def chapterBeats : List Beat :=
  let key : RowKey := ⟨"chapter", "a"⟩
  [.call 0 .begin, .call 1 .begin,
    .call 0 (.insert ⟨1⟩ key [.text "a", .text "one", .integer 1]),
    .call 0 (.audit ⟨1⟩ ⟨"ann", "ann", .create, "chapter", "a",
      ⟨[⟨"id", none, .text "a"⟩, ⟨"text", none, .text "one"⟩,
        ⟨"edition", none, .integer 1⟩]⟩⟩),
    .call 0 (.fetch ⟨1⟩ key), .call 0 (.commit ⟨1⟩), .call 1 (.fetch ⟨2⟩ key), .append ⟨1⟩,
    .call 1 (.update ⟨2⟩ key [(1, .text "two"), (2, .integer 2)]),
    .call 1 (.audit ⟨2⟩ ⟨"bob", "bob", .update, "chapter", "a",
      ⟨[⟨"text", some (.text "one"), .text "two"⟩,
        ⟨"edition", some (.integer 1), .integer 2⟩]⟩⟩),
    .call 1 (.fetch ⟨2⟩ key), .call 1 (.commit ⟨2⟩), .append ⟨2⟩]

theorem chapterType_version : chapterType.VersionAt 2 where
  role := rfl
  integer f hf := by
    obtain rfl := Option.some.inj hf
    rfl

theorem chapterLife_behaves (i : Nat) : (chapterLife i).Behaves (· = chapterType) := by
  intro visit hvisit
  obtain rfl := List.mem_singleton.1 hvisit
  by_cases hi : i = 0
  · subst hi
    refine ⟨rfl, fun answer => ?_⟩
    cases answer <;> trivial
  · simp only [hi, if_false]
    refine ⟨rfl, fun answer => ?_⟩
    cases answer <;> trivial

theorem chapterLife_plays (i : Nat) :
    (chapterLife i).Plays noteEngine (Ledger.empty.part i chapterBeats) := by
  match i with
  | 0 => rfl
  | 1 => rfl
  | i + 2 =>
    have hpart : Ledger.empty.part (i + 2) chapterBeats = [] := by
      simp [chapterBeats, Ledger.part]
    rw [hpart]
    exact Life.plays_nil (noteEngine_behaves _) (chapterLife_behaves _)

/-- The chapter is in its second edition. -/
theorem versions_of_chapterBeats :
    (Ledger.empty.run chapterBeats).store.committedRow? ⟨"chapter", "a"⟩ =
        some [.text "a", .text "two", .integer 2] ∧
      ∃ record : Record chapterType,
        Record.ofRow chapterType [.text "a", .text "two", .integer 2] = .ok record ∧
          record.version? = some (((auditsOf ⟨"chapter", "a"⟩
            (Ledger.empty.run chapterBeats).store.audits).length + (auditsOf ⟨"chapter", "a"⟩
              (Ledger.empty.run chapterBeats).due).length : Nat) : Int) := by
  have hrow : (Ledger.empty.run chapterBeats).store.committedRow? ⟨"chapter", "a"⟩ =
      some [.text "a", .text "two", .integer 2] := rfl
  obtain ⟨hcommitted, -, -, -⟩ := versions_of_interleaved noteEngine (· = chapterType)
    (noteEngine_behaves _) chapterLife chapterLife_behaves chapterBeats chapterLife_plays
    chapterType 2 chapterType_version fun _ hF _ => hF
  exact ⟨hrow, hcommitted "a" _ hrow⟩

/-- Ann's commit has published the chapter and has yet to get hold of the log. -/
def halfwayBeats : List Beat := chapterBeats.take 6

theorem chapterLife_plays_halfway (i : Nat) :
    (chapterLife i).Plays noteEngine (Ledger.empty.part i halfwayBeats) := by
  match i with
  | 0 => rfl
  | 1 => rfl
  | i + 2 =>
    have hpart : Ledger.empty.part (i + 2) halfwayBeats = [] := by
      simp [halfwayBeats, chapterBeats, Ledger.part]
    rw [hpart]
    exact Life.plays_nil (noteEngine_behaves _) (chapterLife_behaves _)

/-- A type whose versions are floats. -/
def dialType : EntityType where
  name := "dial"
  fields := [{ name := "id", role := some .identifier, type := .text },
    { name := "edition", role := some .version, type := .float64 }]

def dialLife : Life Unit :=
  annCreates (E := dialType) ⟨[.text "a", .float (.zero false)], ⟨rfl, rfl, trivial⟩⟩

def dialBeats : List Beat :=
  let key : RowKey := ⟨"dial", "a"⟩
  let one : Value := .float ⟨0x3ff0000000000000⟩
  [.call 0 .begin, .call 0 (.insert ⟨1⟩ key [.text "a", one]),
    .call 0 (.audit ⟨1⟩ ⟨"ann", "ann", .create, "dial", "a",
      ⟨[⟨"id", none, .text "a"⟩, ⟨"edition", none, one⟩]⟩⟩),
    .call 0 (.fetch ⟨1⟩ key), .call 0 (.commit ⟨1⟩), .append ⟨1⟩]

theorem dialLife_plays (i : Nat) :
    dialLife.Plays noteEngine (Ledger.empty.part i dialBeats) := by
  match i with
  | 0 => rfl
  | i + 1 =>
    have hpart : Ledger.empty.part (i + 1) dialBeats = [] := by simp [dialBeats, Ledger.part]
    rw [hpart]
    exact Life.plays_nil (noteEngine_behaves _) (annCreates_behaves _)

/-- The log alone need not tell the version of a row. While the commit that created it is under way
there is a first version and no record of it; and a version that is a float counts nothing, because
only integers are read as versions. -/
theorem not_versions_halfway :
    ((∀ i, (chapterLife i).Behaves (· = chapterType) ∧
        (chapterLife i).Plays noteEngine (Ledger.empty.part i halfwayBeats)) ∧
      (Ledger.empty.run halfwayBeats).store.committedRow? ⟨"chapter", "a"⟩ =
        some [.text "a", .text "one", .integer 1] ∧
      ¬ ∃ record : Record chapterType,
        Record.ofRow chapterType [.text "a", .text "one", .integer 1] = .ok record ∧
          record.version? = some ((auditsOf ⟨"chapter", "a"⟩
            (Ledger.empty.run halfwayBeats).store.audits).length : Int)) ∧
    (dialType.schema.isVersioned = true ∧ dialLife.Behaves (· = dialType) ∧
      (∀ i, dialLife.Plays noteEngine (Ledger.empty.part i dialBeats)) ∧
      (Ledger.empty.run dialBeats).owed = [] ∧
      (Ledger.empty.run dialBeats).store.committedRow? ⟨"dial", "a"⟩ =
        some [.text "a", .float ⟨0x3ff0000000000000⟩] ∧
      ¬ ∃ record : Record dialType,
        Record.ofRow dialType [.text "a", .float ⟨0x3ff0000000000000⟩] = .ok record ∧
          record.version? = some ((auditsOf ⟨"dial", "a"⟩
            (Ledger.empty.run dialBeats).store.audits).length : Int)) := by
  refine ⟨⟨fun i => ⟨chapterLife_behaves i, chapterLife_plays_halfway i⟩, rfl, ?_⟩,
    rfl, annCreates_behaves _, dialLife_plays, rfl, rfl, ?_⟩
  · rintro ⟨record, hrecord, hversion⟩
    obtain rfl := Except.ok.inj hrecord
    cases hversion
  · rintro ⟨record, hrecord, hversion⟩
    obtain rfl := Except.ok.inj hrecord
    cases hversion

end RecordEngine
