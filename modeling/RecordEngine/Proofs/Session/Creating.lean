import RecordEngine.Proofs.Record.Rewritten
import RecordEngine.Proofs.Session.Account
import RecordEngine.Proofs.Session.Sharing
/-!
What a create refuses, and what it writes.

A record is looked at before anything happens: it needs an identifier, the texts its type allows and
no version but the first one or the one before it. Records that fall short are refused with nothing
done, and only those are, because whatever else a create comes to, it has entered a span by then,
and no sink takes back what it was told (`Story.told_le_play`).

What the handlers leave of the record is written whatever it is. Its stamps replace those that the
caller or the handlers put in, and the row is read back as the record that was written, since a
record survives the way into a row and out of it.
-/

set_option autoImplicit false

namespace RecordEngine

variable {β σ : Type} {E : EntityType}

/-! ## Sinks only grow -/

/-- How much a sink has been told. -/
def TraceSink.told : TraceSink → Nat
  | recorder log => log.entries.length
  | numbering next => next
  | journal calls => calls.length

namespace TraceSink

theorem told_enter (sink : TraceSink) (event : TraceEvent) :
    (sink.enter event).2.told = sink.told + 1 := by
  cases sink with
  | recorder log => exact List.length_append
  | numbering next => rfl
  | journal calls => exact List.length_append

theorem told_le_exit (sink : TraceSink) (span : Nat) : sink.told ≤ (sink.exit span).told := by
  cases sink with
  | recorder log => exact Nat.le_of_eq (List.length_modify _ _ _).symm
  | numbering next => exact Nat.le_refl _
  | journal calls =>
    change _ ≤ (calls ++ _).length
    rw [List.length_append]
    exact Nat.le_add_right _ _

theorem told_le_add (sink : TraceSink) (event : TraceEvent) :
    sink.told ≤ (sink.add event).told := by
  cases sink with
  | recorder log =>
    change _ ≤ (log.entries ++ _).length
    rw [List.length_append]
    exact Nat.le_add_right _ _
  | numbering next => exact Nat.le_refl _
  | journal calls =>
    change _ ≤ (calls ++ _).length
    rw [List.length_append]
    exact Nat.le_add_right _ _

end TraceSink

/-- No sink takes back what it was told. -/
theorem Story.told_le_play (story : Story β σ) (sink : TraceSink) :
    sink.told ≤ (story.play sink).told := by
  induction story generalizing sink with
  | nil => exact Nat.le_refl _
  | span event inside rest ihinside ihrest =>
    calc sink.told
      _ ≤ (sink.enter event).2.told := by rw [TraceSink.told_enter]; exact Nat.le_succ _
      _ ≤ (inside.play (sink.enter event).2).told := ihinside _
      _ ≤ _ := TraceSink.told_le_exit _ _
      _ ≤ _ := ihrest _
  | note event rest ih => exact Nat.le_trans (sink.told_le_add event) (ih _)
  | call caller exchange rest ih => exact ih _
  | announce notice answer rest ih => exact ih _
  | host state change rest ih => exact ih _
  | putOff label action rest ih => exact ih _
  | work label action inside rest ihinside ihrest => exact Nat.le_trans (ihinside _) (ihrest _)

namespace Session

open SessionM

variable {engine : Engine β σ} {store : β → Store} {mine : β → TxId → Prop}
  {s s₁ s₂ : Scope β σ} {record given proposed stamped t : Record E}

/-- A span is not without a trace, whatever happens inside it. -/
theorem told_lt_withSpan {α : Type} {m : SessionM β σ α} {A : Story β σ → Except Failure α → Prop}
    (h : Accounts engine s.session.holder m A) (event : TraceEvent) :
    s.world.trace.told < ((SessionM.withSpan event m).run s).2.world.trace.told := by
  obtain ⟨story, r, s', hplays, -⟩ := h s rfl
  rw [(hplays.withSpan event).run_self]
  calc s.world.trace.told
    _ < (s.world.trace.enter event).2.told := by rw [TraceSink.told_enter]; exact Nat.lt_succ_self _
    _ ≤ (story.play (s.world.trace.enter event).2).told := story.told_le_play _
    _ ≤ _ := TraceSink.told_le_exit _ _

/-! ## Records that are refused -/

/-- Identifiers can be assigned: there is a field for them, and its type takes text. -/
structure Identifiable (E : EntityType) : Prop where
  field : ∃ i, E.schema.roleIndex? .identifier = some i
  accepts : ∀ id, E.Accepts .identifier (.text id)

/-- The record that a create takes up: where identifiers are assigned, one without has been given
the next one. -/
def named (engine : Engine β σ) (s : Scope β σ) (record : Record E) : Record E :=
  if record.id = "" ∧ engine.config.assignMissingIds = true then
    (record.stamp .identifier (.text s.world.ids.next)).toOption.getD record
  else record

/-- A record that cannot be created: it has no identifier and is not assigned one, it holds a text
that its type does not allow, or it is of a version that no record begins with. -/
inductive Unfit (engine : Engine β σ) (s : Scope β σ) (record : Record E) : Prop where
  | nameless (hid : record.id = "") (hassigns : engine.config.assignMissingIds = false)
  | disallowed (failure : Failure)
      (hcheck : E.schema.checkRow (named engine s record).toRow = .error failure)
  | misversioned (n : Int) (hversion : record.version? = some n) (hnew : n ≠ 0 ∧ n ≠ 1)

/-- A create refuses a record before it does anything: whatever handlers there are, it comes to the
same failure, and session, trace, backend and host are left as they were. -/
def Refuses (engine : Engine β σ) (s : Scope β σ) (record : Record E) : Prop :=
  ∃ text s',
    (∀ registry, (create { engine with registry } record).run s = (.error (.validation text), s')) ∧
      s'.session = s.session ∧ s'.world.trace = s.world.trace ∧
      s'.world.backend = s.world.backend ∧ s'.world.host = s.world.host

/-! ## What a create looks at -/

/-- A row that does not pass is reported as that. -/
theorem validation_of_checkRow {schema : Schema} {row : Row} {failure : Failure}
    (h : schema.checkRow row = .error failure) : ∃ text, failure = .validation text := by
  unfold Schema.checkRow at h
  generalize schema.fields.zip row = pairs at h
  induction pairs with
  | nil => cases h
  | cons pair rest ih =>
    obtain ⟨field, value⟩ := pair
    change (field.checkValue value >>= fun _ => rest.forM _) = _ at h
    cases hfirst : field.checkValue value with
    | ok _ =>
      rw [hfirst] at h
      exact ih h
    | error first =>
      rw [hfirst] at h
      obtain rfl : first = failure := Except.error.inj h
      unfold FieldDef.checkValue at hfirst
      grind

theorem checkNewVersion_cases (r : Record E) :
    (checkNewVersion r = .ok () ∧ ∀ n, r.version? = some n → n = 0 ∨ n = 1) ∨
      ∃ text n, checkNewVersion r = .error (.validation text) ∧ r.version? = some n ∧
        n ≠ 0 ∧ n ≠ 1 := by
  unfold checkNewVersion
  cases hversion : r.version? with
  | none => exact .inl ⟨rfl, nofun⟩
  | some n =>
    by_cases hn : n = 0 ∨ n = 1
    · refine .inl ⟨if_pos hn, ?_⟩
      rintro m ⟨⟩
      exact hn
    · exact .inr ⟨_, n, if_neg hn, rfl, not_or.1 hn⟩

/-- An assigned identifier leaves the version alone. -/
theorem version?_of_named : (named engine s record).version? = record.version? := by
  rw [named]
  split
  · cases hstamp : record.stamp .identifier (.text s.world.ids.next) with
    | error failure => rfl
    | ok r =>
      cases hi : E.schema.roleIndex? .version with
      | none => simp only [Record.version?, hi, Option.bind_none]
      | some i =>
        have hne : E.schema.roleIndex? .identifier ≠ some i :=
          Schema.roleIndex?_ne hi fun h => by cases h
        simp only [Record.version?, hi, Option.bind_some]
        exact congrArg _ (Record.field_of_stamp_of_ne hstamp hne)
  · rfl

/-- A record that has an identifier or is given one. -/
theorem withId_run (hassigns : engine.config.assignMissingIds = true → Identifiable E)
    (h : record.id = "" → engine.config.assignMissingIds = true) :
    ∃ ids, (withId engine record).run s =
      (.ok (named engine s record), { s with world.ids := ids }) := by
  by_cases hid : record.id = ""
  · obtain ⟨⟨index, hindex⟩, haccepts⟩ := hassigns (h hid)
    obtain ⟨r, hr⟩ := Record.stamp_of_accepts (haccepts s.world.ids.next) record
    have hnamed : named engine s record = r := by
      rw [named, if_pos ⟨hid, h hid⟩, hr]
      rfl
    have hidentifier : E.schema.identifierIndex = .ok index := by
      rw [Schema.identifierIndex, hindex]
    refine ⟨s.world.ids.rest, ?_⟩
    simp only [Record.stamp, hindex] at hr
    rw [hnamed, withId, if_pos (by simp [hid]), if_pos (h hid), run_bind, ofExcept_run, hidentifier]
    exact congrArg (fun result => (result, _)) hr
  · refine ⟨s.world.ids, ?_⟩
    rw [named, if_neg (fun hboth => hid hboth.1), withId, if_neg (by simpa using hid)]
    rfl

/-- A record is refused if it is unfit, and else taken up. -/
theorem admitNew_run (engine : Engine β σ) (s : Scope β σ) (record : Record E)
    (hassigns : engine.config.assignMissingIds = true → Identifiable E) :
    ∃ ids, (Unfit engine s record ∧ ∃ text, (admitNew engine record).run s =
          (.error (.validation text), { s with world.ids := ids })) ∨
      ¬ Unfit engine s record ∧ (admitNew engine record).run s =
        (.ok (named engine s record), { s with world.ids := ids }) := by
  by_cases hnameless : record.id = "" ∧ engine.config.assignMissingIds = false
  · have hwithId : (withId engine record).run s = (.error (missingId E), s) := by
      rw [withId, if_pos (by simp [hnameless.1]), if_neg (by simp [hnameless.2])]
      rfl
    exact ⟨_, .inl ⟨.nameless hnameless.1 hnameless.2, _, run_bind_of_error hwithId⟩⟩
  obtain ⟨ids, hwithId⟩ := withId_run (s := s) hassigns fun hid => by
    rw [← Bool.not_eq_false]
    exact fun hnever => hnameless ⟨hid, hnever⟩
  refine ⟨ids, ?_⟩
  rw [admitNew, run_bind_of_ok hwithId, run_bind, ofExcept_run]
  cases hcheck : E.schema.checkRow (named engine s record).toRow with
  | error failure =>
    obtain ⟨text, rfl⟩ := validation_of_checkRow hcheck
    exact .inl ⟨.disallowed _ hcheck, text, rfl⟩
  | ok _ =>
    dsimp only
    rw [run_bind, ofExcept_run]
    rcases checkNewVersion_cases (named engine s record) with ⟨hok, hnew⟩ | ⟨text, m, herror, hm⟩
    · rw [hok]
      refine .inr ⟨fun hunfit => ?_, rfl⟩
      cases hunfit with
      | nameless hid hnever => exact hnameless ⟨hid, hnever⟩
      | disallowed failure hfailure =>
        rw [hcheck] at hfailure
        cases hfailure
      | misversioned m hm hbad =>
        have hsame : (named engine s record).version? = record.version? := version?_of_named
        exact (hnew m (hsame.trans hm)).elim hbad.1 hbad.2
    · rw [herror, version?_of_named] at *
      exact .inl ⟨.misversioned m hm.1 hm.2, text, rfl⟩

theorem create_eq (engine : Engine β σ) (record : Record E) :
    create engine record = (do
      let record ← admitNew engine record
      SessionM.withSpan (.modelActivity E.name record.id .create) do
        let written ← insertNew engine record
        announceNew engine record.id written.1
        drain engine (operationsAt engine engine.nesting) written.2
        load engine E record.id) :=
  createWith_eq engine (drain engine (operationsAt engine engine.nesting)) record

/-- A record that is taken up leaves a trace. -/
theorem told_lt_create {ids : Supply { id : String // id ≠ "" }}
    (hadmitted : (admitNew engine record).run s = (.ok given, { s with world.ids := ids })) :
    s.world.trace.told < ((create engine record).run s).2.world.trace.told := by
  have hbody : Accounts engine s.session.holder (do
      let written ← insertNew engine given
      announceNew engine given.id written.1
      drain engine (operationsAt engine engine.nesting) written.2
      load engine E given.id : SessionM β σ (Record E)) fun _ _ => True := by
    refine (insertNew_accounts given).bind (fun _ _ _ => trivial) fun _ written _ => ?_
    refine (publish_accounts .create given.id (.default E) written.1).bind
      (fun _ _ _ => trivial) fun _ _ _ => ?_
    exact (drain_load_accounts (operationsAt_accounts engine.nesting) given
      (.inl (Option.some_ne_none written.1))).mono fun _ _ _ => trivial
  rw [create_eq, run_bind_of_ok hadmitted]
  exact told_lt_withSpan (s := { s with world.ids := ids }) hbody _

/-- A record is refused with nothing done just if it is unfit. -/
theorem refuses_iff (engine : Engine β σ) (s : Scope β σ) (record : Record E)
    (hassigns : engine.config.assignMissingIds = true → Identifiable E) :
    Refuses engine s record ↔ Unfit engine s record := by
  obtain ⟨ids, ⟨hunfit, text, hrefused⟩ | ⟨hfit, htaken⟩⟩ := admitNew_run engine s record hassigns
  · refine iff_of_true ⟨text, { s with world.ids := ids }, fun registry => ?_, rfl, rfl, rfl, rfl⟩
      hunfit
    -- Whether a record is taken up has nothing to do with the handlers.
    have hrefused' : (admitNew { engine with registry } record).run s =
        (.error (.validation text), { s with world.ids := ids }) := hrefused
    rw [create_eq, run_bind_of_error hrefused']
  · refine iff_of_false ?_ hfit
    rintro ⟨text, s', hrun, -, htrace, -⟩
    have htold := told_lt_create htaken
    rw [hrun engine.registry, htrace] at htold
    exact Nat.lt_irrefl _ htold

/-! ## What a create writes -/

/-- The scope in which the handlers of a create begin: the record was taken up, and the span of the
create was entered. -/
def createStart (engine : Engine β σ) (record : Record E) (s : Scope β σ) : Scope β σ :=
  ((admitNew engine record).run s).2.within
    (.modelActivity E.name (named engine s record).id .create)

/-- No row is seen under a key, and when one is inserted none has been committed. -/
structure Unclaimed (engine : Engine β σ) (store : β → Store) (s : Scope β σ) (key : RowKey) :
    Prop where
  unseen : s.row store key = .ok none
  uncommitted : ∀ image, (store (engine.backend.call (.insert s.session.tx key image)
    s.world.backend).2).committedRow? key = none

/-- On a store that nobody else uses, it is enough that no row is seen. -/
theorem unclaimed_of_row (hstore : ∀ c b, store (engine.backend.call c b).2 = ((store b).step c).2)
    (hsound : (store s.world.backend).Sound) {key : RowKey} (h : s.row store key = .ok none) :
    Unclaimed engine store s key where
  unseen := h
  uncommitted image := by
    obtain ⟨staged, -, hnone⟩ := hsound.visibleRow_eq_ok.1 h
    rw [hstore, Store.committedRow?,
      (Store.effect_step hsound (.insert s.session.tx key image)).rows_eq fun _ h => by cases h]
    exact (Option.or_eq_none_iff.1 hnone).2

/-- A record is what a create makes of the one that the handlers propose: the version is what its
type makes of 1, times and authors are those of the create, and all else is as proposed. -/
structure Establishes (proposed : Record E) (now : Instant) (who : String) (t : Record E) :
    Prop where
  version : ∀ i f, E.schema.roleIndex? .version = some i → E.fields[i]? = some f →
    f.type.convert (.integer 1) = .ok (t.field i)
  created : ∀ i, E.schema.roleIndex? .createdAt = some i → t.field i = .timestamp now
  updated : ∀ i, E.schema.roleIndex? .updatedAt = some i → t.field i = .timestamp now
  creator : ∀ i, E.schema.roleIndex? .createdBy = some i → t.field i = .text who
  editor : ∀ i, E.schema.roleIndex? .updatedBy = some i → t.field i = .text who
  others : ∀ i, (∀ role, role ≠ .identifier → E.schema.roleIndex? role ≠ some i) →
    t.field i = proposed.field i

theorem establishes_of_stampNew {now : Instant} {who : String}
    (h : stampNew proposed now who = .ok t) : Establishes proposed now who t := by
  rw [stampNew_eq] at h
  have hstamp {role : Role} {v : Value} {i : Nat} (hmem : (role, v) ∈ newStamps now who)
      (hv : ∀ n, v ≠ .integer n) (hi : E.schema.roleIndex? role = some i) : t.field i = v := by
    obtain ⟨f, -, hconvert⟩ := Record.field_of_stampAll h (nodup_newStamps now who) hmem hi
    exact FieldType.eq_of_convert hconvert hv
  exact {
    version := fun i f hi hf => by
      obtain ⟨g, hg, hconvert⟩ := Record.field_of_stampAll h (nodup_newStamps now who)
        (List.mem_cons_self) hi
      obtain rfl := Option.some.inj (hf.symm.trans hg)
      exact hconvert
    created := fun i hi => hstamp (by simp [newStamps]) nofun hi
    updated := fun i hi => hstamp (by simp [newStamps]) nofun hi
    creator := fun i hi => hstamp (by simp [newStamps]) nofun hi
    editor := fun i hi => hstamp (by simp [newStamps]) nofun hi
    others := fun i hi => Record.field_of_stampAll_of_ne h fun p hp => hi p.1 fun hrole => by
      simp only [newStamps, List.mem_cons, List.not_mem_nil, or_false] at hp
      rcases hp with rfl | rfl | rfl | rfl | rfl <;> cases hrole }

/-- The write of a create is one call, after the handlers and a look at the clock. -/
theorem insertNew_run {passes : Nat} {queue : DeferredWork σ}
    (hrun : (Convergence.run engine (.default E) given false).run s =
      (.ok ⟨passes, proposed, queue⟩, s₂))
    (hproposed : E.schema.checkRow proposed.toRow = .ok ())
    (hstamped : stampNew proposed s₂.world.clock.next s₂.session.actor.effective =
      .ok stamped) :
    (insertNew engine given).run s =
      (((engine.backend.call (.insert s₂.session.tx (E.key given.id) stamped.toRow)
          s₂.world.backend).1.mapError (.persistence Stage.insert.label)).map
            fun _ => (stamped, queue),
        { s₂ with
          world.clock := s₂.world.clock.rest
          world.backend := (engine.backend.call (.insert s₂.session.tx (E.key given.id)
            stamped.toRow) s₂.world.backend).2 }) := by
  have hnow : (SessionM.now (β := β) (σ := σ)).run s₂ =
      (.ok s₂.world.clock.next, { s₂ with world.clock := s₂.world.clock.rest }) := rfl
  rw [insertNew, run_bind_of_ok hrun]
  dsimp only
  rw [run_bind, ofExcept_run, hproposed]
  dsimp only
  rw [run_bind_of_ok hnow, run_bind, read_run]
  dsimp only
  rw [run_bind, ofExcept_run, hstamped]
  exact call_pure_run .insert (.insert s₂.session.tx (E.key given.id) stamped.toRow)
    (stamped, queue) _

/-- What a create does once its record was taken up, if no row has its key. -/
theorem establish_run (hshares : engine.backend.Shares store mine)
    {staged : List Change} {passes : Nat}
    (hrun : (Convergence.run engine (.default E) given false).run s =
      (.ok ⟨passes, proposed, .empty⟩, s₂))
    (hstaging : Backend.Staging store mine s₂.session.tx staged s₂.world.backend)
    (hunclaimed : Unclaimed engine store s₂ (E.key given.id))
    (hproposed : E.schema.checkRow proposed.toRow = .ok ())
    (hstamped : stampNew proposed s₂.world.clock.next s₂.session.actor.effective =
      .ok stamped) (operations : Operations β σ) :
    ∃ result b later,
      (do
        let written ← insertNew engine given
        announceNew engine given.id written.1
        drain engine operations written.2
        load engine E given.id : SessionM β σ (Record E)).run s =
          (result, { s₂ with world.clock := s₂.world.clock.rest, world.backend := b }) ∧
      Backend.Staging store mine s₂.session.tx
        (staged ++ [.insertRow (E.key given.id) stamped.toRow] ++ later) b ∧
      imageIn (staged ++ [.insertRow (E.key given.id) stamped.toRow] ++ later) (E.key given.id) =
        some stamped.toRow ∧
      (engine.Announces → result = .ok stamped ∧ ∃ audited, later = [.appendAudit audited]) := by
  have hinsert := insertNew_run hrun hproposed hstamped
  obtain ⟨staged', hstaged', hunseen⟩ :=
    hstaging.hosts.sound.visibleRow_eq_ok.1 hunclaimed.unseen
  obtain rfl := Option.some.inj (hstaged'.symm.trans hstaging.staged)
  obtain ⟨hanswer, hinserted⟩ := hstaging.insert hshares (E.key given.id) stamped.toRow
    (Option.or_eq_none_iff.1 hunseen).1 (hunclaimed.uncommitted stamped.toRow)
  rw [hanswer] at hinsert
  obtain ⟨result, b, later, hfinish, hstaged, hlast, hgiven⟩ := finish_run hshares
    (s := { s₂ with
      world.clock := s₂.world.clock.rest
      world.backend := (engine.backend.call (.insert s₂.session.tx (E.key given.id)
        stamped.toRow) s₂.world.backend).2 })
    hinserted (Store.imageIn_written rfl _) (Record.ofRow_toRow stamped)
    ⟨E.name, given.id, stamped.version?⟩ .create
    (ChangeSet.ofMask (FieldMask.diff (.default E) stamped) none stamped)
  refine ⟨result, b, later, ?_, hstaged, hlast, fun h => ⟨(hgiven h).1, _, (hgiven h).2⟩⟩
  rw [run_bind_of_ok hinsert, announceNew, bind_assoc]
  exact hfinish

/-- **What a create writes.** Where identifiers are assigned, let there be a field for them that
takes text. A create refuses a record with nothing done just if the record is unfit: nameless, with
a text that its type does not allow, or of a version that no record begins with. For any other, let
the handlers, begun with the empty record as baseline, make a proposal of it without failing and
putting nothing off; let the proposal pass the check, its key be unclaimed and the types of the
stamped fields take their stamps. Then, however few handlers ran and whatever they left, the session
stages one row, under the identifier that the record had, and sees it: that of the record with the
stamps of the create and all else as proposed. As long as the notifier does not fail, the create
stages one audit record besides and gives this record back. -/
theorem create_writes (engine : Engine β σ) (store : β → Store) (mine : β → TxId → Prop)
    (hshares : engine.backend.Shares store mine) (E : EntityType)
    (hassigns : engine.config.assignMissingIds = true → Identifiable E) (s : Scope β σ)
    (record : Record E) :
    (Refuses engine s record ↔ Unfit engine s record) ∧
    (¬ Unfit engine s record → Backend.Hosts store mine s.session.tx s.world.backend →
      s.session.tx.number < (store s.world.backend).nextTx →
      ∀ passes proposed s₂,
        (Convergence.run engine (.default E) (named engine s record) false).run
          (createStart engine record s) = (.ok ⟨passes, proposed, .empty⟩, s₂) →
        E.schema.checkRow proposed.toRow = .ok () →
        Unclaimed engine store s₂ (E.key proposed.id) →
        (∀ stamp ∈ newStamps s₂.world.clock.next s.session.actor.effective,
          E.Accepts stamp.1 stamp.2) →
        ∃ t staged later,
          (store s₂.world.backend).changesOf s.session.tx = some staged ∧
          (store ((create engine record).run s).2.world.backend).changesOf s.session.tx =
            some (staged ++ [.insertRow (E.key proposed.id) t.toRow] ++ later) ∧
          ((create engine record).run s).2.row store (E.key proposed.id) = .ok (some t.toRow) ∧
          proposed.id = (named engine s record).id ∧ t.id = proposed.id ∧
          Establishes proposed s₂.world.clock.next s.session.actor.effective t ∧
          (engine.Announces → ((create engine record).run s).1 = .ok t ∧
            ∃ audited, later = [.appendAudit audited])) := by
  refine ⟨refuses_iff engine s record hassigns, ?_⟩
  intro hfit hhosts hbegun passes proposed s₂ hrun hproposed hunclaimed haccepts
  obtain ⟨ids, ⟨hunfit, -⟩ | ⟨-, htaken⟩⟩ := admitNew_run engine s record hassigns
  · exact absurd hunfit hfit
  have hstart : createStart engine record s = ({ s with world.ids := ids } : Scope β σ).within
      (.modelActivity E.name (named engine s record).id .create) := by
    rw [createStart, htaken]
  have hsession : (createStart engine record s).session = s.session := by rw [hstart]; rfl
  -- Until the handlers have converged, the session only made calls.
  have hsince : Backend.Since store mine (createStart engine record s).session.tx s.world.backend
      (createStart engine record s).world.backend := by
    rw [hstart]
    exact ⟨hhosts, hbegun, .refl _⟩
  obtain ⟨hholder, ⟨hhosts₂, -, -⟩, -, hkept⟩ := run_since hshares (fun _ => ())
    (fun _ _ => rfl) hsince hrun
  rw [hsession] at hholder hhosts₂
  have htx : s₂.session.tx = s.session.tx := congrArg Holder.tx hholder
  have hactor : s₂.session.actor = s.session.actor := congrArg Holder.actor hholder
  have hid : proposed.id = (named engine s record).id := hkept _ rfl
  rw [← htx] at hhosts₂
  obtain ⟨staged, hstaged, -⟩ := hhosts₂.sound.visibleRow_eq_ok.1 hunclaimed.unseen
  obtain ⟨stamped, hstamped⟩ : ∃ stamped, stampNew proposed s₂.world.clock.next
      s₂.session.actor.effective = .ok stamped := by
    rw [stampNew_eq, hactor]
    exact Record.stampAll_of_accepts haccepts proposed
  rw [hid] at hunclaimed
  obtain ⟨result, b, later, hrest, hend, hlast, hgiven⟩ := establish_run hshares hrun
    ⟨hhosts₂, hstaged⟩ hunclaimed hproposed hstamped (operationsAt engine engine.nesting)
  rw [hstart] at hrest
  have hcreate : (create engine record).run s = (result, Scope.leave
      { s₂ with world.clock := s₂.world.clock.rest, world.backend := b }
      (s.world.trace.enter (.modelActivity E.name (named engine s record).id .create)).1) := by
    rw [create_eq, run_bind_of_ok htaken, SessionM.withSpan_run]
    have hbody := congrArg (fun out : Except Failure (Record E) × Scope β σ =>
      (out.1, out.2.leave (s.world.trace.enter
        (.modelActivity E.name (named engine s record).id .create)).1)) hrest
    exact hbody
  rw [hcreate, ← htx, ← hactor, hid]
  refine ⟨stamped, staged, later, hstaged, hend.staged,
    hend.hosts.sound.visibleRow_eq_ok.2 ⟨_, hend.staged, ?_⟩, rfl,
    (id_of_stampNew hstamped).trans hid, establishes_of_stampNew hstamped, hgiven⟩
  rw [hlast, Option.some_or]

end Session

/-! ## A letter by somebody else -/

def letterType : EntityType where
  name := "letter"
  fields := [{ name := "id", role := some .identifier, type := .text },
    { name := "text", type := .text },
    { name := "version", role := some .version, type := .int64 },
    { name := "written", role := some .createdAt, type := .instant },
    { name := "author", role := some .createdBy, type := .option .text }]

def letter (id text : String) (version : Int) (author : Value)
    (hversion : fitsBits 64 version = true)
    (hauthor : (FieldType.option .text).admits author = true) : Record letterType :=
  ⟨[.text id, .text text, .integer version, .timestamp ⟨0, 0⟩, author],
    ⟨rfl, rfl, hversion, rfl, hauthor, trivial⟩⟩

/-- A handler that passes a letter off as a later version, by nobody. -/
def forge : Handler Unit letterType where
  name := "forge"
  trigger := none
  function _ _ proposed := .done do
    let numbered ← proposed.setField 2 (.integer 9)
    numbered.setField 4 .null

def letterEngine : Engine Memory Unit :=
  { noteEngine with registry := ⟨[⟨letterType, forge⟩]⟩, config := { assignMissingIds := true } }

def unheardLetters : Engine Memory Unit := { letterEngine with backend := .unheard }

/-- Bob's session, just begun. -/
def letterScope : Scope Memory Unit where
  world := { noteOutside.on ⟨Store.empty.run [.begin], none⟩ with
    clock := fun n => .ofNanos (n + 5) }
  session := .start ⟨1⟩ (.ofId "bob") {}

theorem letterType_identifiable : Session.Identifiable letterType :=
  ⟨⟨0, rfl⟩, fun _ => EntityType.accepts_of_roleIndex? (i := 0) rfl rfl rfl⟩

theorem fitsBits_zero : fitsBits 64 0 = true := rfl

/-- A letter that says it is Eve's, and what the handler leaves of it. -/
def letterOfEve : Record letterType := letter "" "hello" 0 (.text "eve") fitsBits_zero rfl

def letterForged : Record letterType :=
  letter "new" "hello" 9 .null rfl rfl

theorem letterOfEve_fit : ¬ Session.Unfit letterEngine letterScope letterOfEve := by
  intro hunfit
  cases hunfit with
  | nameless hid hassigns => cases hassigns
  | disallowed failure hcheck =>
    have hok : letterType.schema.checkRow
        (Session.named letterEngine letterScope letterOfEve).toRow = .ok () := rfl
    rw [hok] at hcheck
    cases hcheck
  | misversioned n hversion hnew =>
    obtain rfl : 0 = n := Option.some.inj hversion
    exact hnew.1 rfl

theorem create_writes_forged :
    Session.Refuses letterEngine letterScope (letter "a" "hello" 2 .null rfl rfl) ∧
    ∃ t, ((Session.create letterEngine letterOfEve).run letterScope).1 = .ok t ∧
      t.toRow = [.text "new", .text "hello", .integer 1,
        .timestamp ⟨0, 5⟩, .text "bob"] ∧
      ((Session.create letterEngine letterOfEve).run letterScope).2.row Memory.store
        (letterType.key "new") = .ok (some t.toRow) := by
  have hwrites := Session.create_writes letterEngine Memory.store (fun _ _ => True)
    Backend.memory_shares letterType (fun _ => letterType_identifiable)
    letterScope
  constructor
  · exact (hwrites _).1.2 (.misversioned 2 rfl (by decide))
  have hresult : ((Convergence.run letterEngine (.default letterType)
      (Session.named letterEngine letterScope letterOfEve) false).run
        (Session.createStart letterEngine letterOfEve letterScope)).1.map
          (fun out => (out.record.toRow, out.queue.isEmpty)) = .ok (letterForged.toRow, true) := by
    decide +kernel
  obtain ⟨passes, hpasses⟩ := Session.outcome_eq hresult
  generalize hs₂ : ((Convergence.run letterEngine (.default letterType)
      (Session.named letterEngine letterScope letterOfEve) false).run
        (Session.createStart letterEngine letterOfEve letterScope)).2 = s₂
  have hunseen : s₂.row Memory.store (letterType.key letterForged.id) = .ok none := by
    rw [← hs₂]
    decide +kernel
  have hstart : Backend.Since Memory.store (fun _ _ => True) ⟨1⟩ letterScope.world.backend
      (Session.createStart letterEngine letterOfEve letterScope).world.backend :=
    ⟨⟨Store.sound_empty.run _, trivial⟩, by decide +kernel, .refl _⟩
  obtain ⟨-, hsince, -⟩ := Session.run_since Backend.memory_shares Memory.channel
    (fun _ _ => rfl) hstart (Prod.ext hpasses hs₂)
  have haccepts (stamp : Role × Value)
      (hstamp : stamp ∈ Session.newStamps s₂.world.clock.next "bob") :
      letterType.Accepts stamp.1 stamp.2 := by
    simp only [Session.newStamps, List.mem_cons, List.not_mem_nil, or_false] at hstamp
    rcases hstamp with rfl | rfl | rfl | rfl | rfl
    · exact EntityType.accepts_of_roleIndex? (i := 2) rfl rfl rfl
    · exact EntityType.accepts_of_roleIndex? (i := 3) rfl rfl rfl
    · rintro i f ⟨⟩
    · exact EntityType.accepts_of_roleIndex? (i := 4) rfl rfl rfl
    · rintro i f ⟨⟩
  obtain ⟨t, staged, later, -, -, hrow, -, -, -, hgiven⟩ :=
    (hwrites letterOfEve).2 letterOfEve_fit ⟨Store.sound_empty.run _, trivial⟩ (by decide +kernel)
      passes letterForged s₂ (Prod.ext hpasses hs₂) rfl
      (Session.unclaimed_of_row (fun _ _ => rfl) hsince.hosts.sound hunseen) haccepts
  have htoRow : ((Session.create letterEngine letterOfEve).run letterScope).1.map (·.toRow) =
      .ok [.text "new", .text "hello", .integer 1,
        .timestamp ⟨0, 5⟩, .text "bob"] := by decide +kernel
  obtain ⟨hcreated, -⟩ := hgiven fun _ _ => rfl
  rw [hcreated] at htoRow
  exact ⟨t, hcreated, Except.ok.inj htoRow, hrow⟩

/-- The notifier has a say in what a create gives back. The letter is as before, and its row is
there, but nobody hears of it, and what comes back is the failure to tell, with nothing audited. -/
theorem create_unheard :
    ¬ Session.Unfit unheardLetters letterScope letterOfEve ∧
    ((Convergence.run unheardLetters (.default letterType)
      (Session.named unheardLetters letterScope letterOfEve) false).run
        (Session.createStart unheardLetters letterOfEve letterScope)).1.map
          (fun out => (out.record.toRow, out.queue.isEmpty)) = .ok (letterForged.toRow, true) ∧
    letterType.schema.checkRow letterForged.toRow = .ok () ∧
    letterScope.row Memory.store (letterType.key letterForged.id) = .ok none ∧
    ((((Session.create unheardLetters letterOfEve).run
      letterScope).2.world.backend.store).changesOf ⟨1⟩ =
        some [.insertRow (letterType.key "new") [.text "new", .text "hello", .integer 1,
          .timestamp ⟨0, 5⟩, .text "bob"]]) ∧
    ((Session.create unheardLetters letterOfEve).run letterScope).1.map (·.toRow) =
      .error (.persistence "notify" (.execution "nobody listens")) := by
  refine ⟨fun hunfit => ?_, ?_, rfl, ?_, ?_, ?_⟩
  · refine letterOfEve_fit ?_
    cases hunfit with
    | nameless hid hassigns => exact .nameless hid hassigns
    | disallowed failure hcheck => exact .disallowed failure hcheck
    | misversioned n hversion hnew => exact .misversioned n hversion hnew
  all_goals decide +kernel

end RecordEngine
