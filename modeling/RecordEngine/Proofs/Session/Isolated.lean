import RecordEngine.Proofs.Session.Outcome
/-!
Records of one session, each for itself.

The records that are saved in a session share its lists of selectors, its history, its transaction
and the clock. Saving one is nevertheless the same whatever was done to the others before, but for
the time of its stamps, and it makes no difference to the others. So records that are saved one
after another can be saved in any order.

A save is a function of what the session sees and knows of the record (`Session.outcome`), and two
outcomes that differ in the time are the same apart from it. The order follows: a run of saves gives
for every record what saving it alone would have given.
-/

set_option autoImplicit false

namespace RecordEngine

variable {β σ H : Type} {E : EntityType}

/-! ## Outcomes apart from their time -/

/-- A change apart from the time of its stamps. -/
def EntityType.untimedChange (E : EntityType) : Change → Change
  | .insertRow key row => .insertRow key (E.untimed row)
  | .updateRow key row => .updateRow key (E.untimed row)
  | .appendAudit record =>
    .appendAudit { record with changes := E.untimedChanges record.changes }

/-- An outcome apart from the time of its stamps: the row of the record that is given back, what is
staged and what is announced. -/
def SaveOutcome.untimed (out : SaveOutcome E) : Except Failure Row × List Change × List Notice :=
  (out.result.map (·.untimed), out.staged.map E.untimedChange, out.notices)

theorem SaveOutcome.untimed_of_written (reply : Notice → Except Failure Unit) (record : Record E)
    (actor : Actor) (written : Written E) :
    (SaveOutcome.of reply record actor (.ok (some written))).untimed =
      match reply (written.notice record.id) with
      | .error failure =>
        (.error (.persistence Stage.notify.label failure),
          [.updateRow (E.key record.id) (E.untimed written.image)], [written.notice record.id])
      | .ok () =>
        ((Record.ofRow E written.image).map (·.untimed),
          [.updateRow (E.key record.id) (E.untimed written.image),
            .appendAudit { written.audit record.id actor with
              changes := E.untimedChanges (written.audit record.id actor).changes }],
          [written.notice record.id]) := by
  simp only [untimed, of, Written.finish]
  cases reply (written.notice record.id) <;> rfl

namespace Session

variable {stored : Record E} {row : Row} {now now' : Instant}

/-- Two writes of the same record at two times: they fail alike, or they are the same apart from the
time, and both images read as records. -/
inductive AlikeWritten : Except Failure (Written E) → Except Failure (Written E) → Prop where
  | failed (failure : Failure) : AlikeWritten (.error failure) (.error failure)
  | written (stored next next' after after' : Record E) (image image' : Row)
      (hnext : next'.untimed = next.untimed) (himage : E.untimed image' = E.untimed image)
      (hafter : Record.ofRow E image = .ok after) (hafter' : Record.ofRow E image' = .ok after') :
      AlikeWritten (.ok ⟨stored, next, image⟩) (.ok ⟨stored, next', image'⟩)

theorem rewritten_alike (id : String) (hreads : Record.ofRow E row = .ok stored)
    (proposed : Record E) (who : String) (hnow : E.Dates now) (hnow' : E.Dates now') :
    AlikeWritten (rewritten id stored row proposed now who)
      (rewritten id stored row proposed now' who) := by
  unfold rewritten
  obtain ⟨failure, hnext, hnext'⟩ | ⟨next, next', hnext, hnext', hsame⟩ :=
    map_eq_map (stampChanged_untimed proposed (stored.version?.map (· + 1)) now now' who)
  · rw [hnext, hnext']
    exact .failed failure
  rw [hnext, hnext', ok_bind, ok_bind]
  obtain ⟨failure, himage, himage'⟩ | ⟨image, image', himage, himage', himages⟩ :=
    map_eq_map (image_untimed (E.key id) hreads hnext hnext' hsame hnow hnow')
  · rw [himage, himage']
    exact .failed _
  rw [himage, himage']
  obtain ⟨after, hafter⟩ := Record.ofRow_overwrite ⟨stored, hreads⟩ himage
  obtain ⟨after', hafter'⟩ := Record.ofRow_overwrite ⟨stored, hreads⟩ himage'
  exact .written stored next next' after after' image image' hsame himages hafter hafter'

/-- At any two times a save comes to the same, apart from the time. -/
theorem of_changed_untimed (hreads : Record.ofRow E row = .ok stored)
    (reply : Notice → Except Failure Unit) (record : Record E) (actor : Actor)
    (made : Except Failure (Record E)) (hnow : E.Dates now) (hnow' : E.Dates now') :
    (SaveOutcome.of reply record actor
        (changed record.id stored row made now' actor.effective)).untimed =
      (SaveOutcome.of reply record actor
        (changed record.id stored row made now actor.effective)).untimed := by
  unfold changed
  cases made with
  | error failure => rfl
  | ok proposed =>
    rw [ok_bind, ok_bind]
    cases E.schema.checkRow proposed.toRow with
    | error failure => rfl
    | ok done =>
      rw [ok_bind, ok_bind]
      by_cases hchanged : (changedFields stored proposed).isEmpty
      · simp only [hchanged, if_true]
      simp only [hchanged, if_false, Bool.false_eq_true]
      have halike := rewritten_alike record.id hreads proposed actor.effective hnow hnow'
      generalize rewritten record.id stored row proposed now actor.effective = w at halike ⊢
      generalize rewritten record.id stored row proposed now' actor.effective = w' at halike ⊢
      cases halike with
      | failed failure => rfl
      | written stored next next' after after' image image' hnext himage hafter hafter' =>
        have hresult : (Record.ofRow E image').map (·.untimed) =
            (Record.ofRow E image).map (·.untimed) := by
          rw [hafter, hafter']
          exact congrArg Except.ok (record_untimed himage hafter hafter')
        have hchanges :
            E.untimedChanges (ChangeSet.ofMask (writtenFields stored next') (some stored) next') =
              E.untimedChanges
                (ChangeSet.ofMask (writtenFields stored next) (some stored) next) :=
          changes_untimed hnext
        change (SaveOutcome.of reply record actor (.ok (some ⟨stored, next', image'⟩))).untimed =
          (SaveOutcome.of reply record actor (.ok (some ⟨stored, next, image⟩))).untimed
        rw [SaveOutcome.untimed_of_written, SaveOutcome.untimed_of_written]
        simp only [Written.audit, Written.notice, hresult, himage, hchanges]

end Session

/-! ## One record -/

theorem imageIn_untimed (changes : List Change) (key : RowKey) :
    imageIn (changes.map E.untimedChange) key = (imageIn changes key).map E.untimed := by
  induction changes using List.reverseRecOn with
  | nil => rfl
  | append_singleton changes change ih =>
    rw [List.map_append, List.map_singleton, imageIn_snoc, imageIn_snoc, ih]
    cases change with
    | insertRow k row =>
      by_cases hk : k = key <;>
        simp [EntityType.untimedChange, Change.imageOf?, Change.written?, hk]
    | updateRow k row =>
      by_cases hk : k = key <;>
        simp [EntityType.untimedChange, Change.imageOf?, Change.written?, hk]
    | appendAudit record => rfl

/-- After its write a save writes no row. -/
theorem Written.imageIn_finish (written : Written E) (reply : Notice → Except Failure Unit)
    (id : String) (actor : Actor) (key : RowKey) :
    imageIn (written.finish reply id actor).staged key = none := by
  unfold finish
  cases reply (written.notice id) <;> rfl

/-- A save writes no row but its own. -/
theorem SaveOutcome.imageIn_of (reply : Notice → Except Failure Unit) (record : Record E)
    (actor : Actor) (written : Except Failure (Option (Written E))) {key : RowKey}
    (hkey : key ≠ E.key record.id) :
    imageIn (SaveOutcome.of reply record actor written).staged key = none :=
  match written with
  | .error _ => rfl
  | .ok none => rfl
  | .ok (some written) =>
    (imageIn_updateRow _ _ key (written.imageIn_finish _ _ _ key)).trans (if_neg hkey.symm)

namespace Scope

variable {books : Books β H} {id other : String} {s s' s'' : Scope β σ}

/-- The session has not ended, the store is one that runs lead to, and the clock will not tell the
time that new records of the type begin with. -/
structure Live (books : Books β H) (E : EntityType) (s : Scope β σ) : Prop where
  sound : (books.store s.world.backend).Sound
  isOpen : (books.store s.world.backend).transactions.get? s.session.tx ≠ none
  clock : ∀ n, E.Dates (s.world.clock n)

/-- In two scopes the same row is seen under an identifier, and the sessions agree on the record. -/
structure AgreesOn (books : Books β H) (E : EntityType) (id : String) (s s' : Scope β σ) :
    Prop where
  session : s.session.AgreesOn id s'.session
  row : s'.row books.store (E.key id) = s.row books.store (E.key id)

theorem AgreesOn.trans (h : s.AgreesOn books E id s') (h' : s'.AgreesOn books E id s'') :
    s.AgreesOn books E id s'' where
  session := h.session.trans h'.session
  row := h'.row.trans h.row

theorem Live.seen (h : s.Live books E) (key : RowKey) :
    ∃ row?, s.row books.store key = .ok row? := by
  obtain ⟨t, hopen⟩ := Option.ne_none_iff_exists'.1 h.isOpen
  exact ⟨_, row_of_open hopen key⟩

theorem Live.advance {staged : List Change} {notices : List Notice} (h : s.Live books E)
    (hadvances : s.Advances books id staged notices s') : s'.Live books E where
  sound := hadvances.store.sound
  isOpen := by
    obtain ⟨t, t', -, hopen', -⟩ := hadvances.store.changes
    rw [hadvances.tx, hopen']
    exact Option.some_ne_none t'
  clock n := by
    obtain ⟨m, hm⟩ := hadvances.clock n
    exact hm ▸ h.clock m

end Scope

namespace Session

open SessionM

/-- How a save of the record of an identifier ends that comes to an outcome. Besides, the session
has not ended, the row that it sees under the identifier is the image staged, if there is one, and
the rows and what is known of other records are as they were. -/
structure Saves (books : Books β H) (s : Scope β σ) (id : String) (out : SaveOutcome E)
    (r : Except Failure (Record E)) (s' : Scope β σ) : Prop where
  comes : Comes books s id out r s'
  live : s'.Live books E
  image : s'.row books.store (E.key id) =
    (s.row books.store (E.key id)).map fun row? => (imageIn out.staged (E.key id)).or row?
  rows : ∀ key, key ≠ E.key id → s'.row books.store key = s.row books.store key
  others : ∀ other, other ≠ id → s.session.AgreesOn other s'.session

variable {engine : Engine β σ} {books : Books β H} {s s' : Scope β σ}

/-- After two saves that come to the same, apart from the time, so is the row that is seen. -/
theorem Saves.row_untimed {id : String} {out out' : SaveOutcome E}
    {r r' : Except Failure (Record E)} {t t' : Scope β σ} (hs : s.Live books E)
    (hagrees : s.AgreesOn books E id s') (hsame : out'.untimed = out.untimed)
    (h : Saves books s id out r t) (h' : Saves books s' id out' r' t') :
    (t'.row books.store (E.key id)).map (Option.map E.untimed) =
      (t.row books.store (E.key id)).map (Option.map E.untimed) := by
  have himage : (imageIn out'.staged (E.key id)).map E.untimed =
      (imageIn out.staged (E.key id)).map E.untimed := by
    rw [← imageIn_untimed, ← imageIn_untimed]
    exact congrArg (fun untimed => imageIn untimed.2.1 (E.key id)) hsame
  obtain ⟨row?, hrow?⟩ := hs.seen (E.key id)
  rw [h.image, h'.image, hagrees.row, hrow?]
  change Except.ok (Option.map _ (Option.or _ _)) = Except.ok (Option.map _ (Option.or _ _))
  rw [Option.map_or, Option.map_or, himage]

section
variable (hbooks : engine.backend.KeepsBooks books)
  (hhandlers : ∀ handler ∈ engine.registry.handlers E, handler.IsPure)
include hhandlers

/-- Sessions that agree on a record have saves of it come to the same, apart from the time. -/
theorem outcome_untimed {record : Record E} (hs : E.Dates s.world.clock.next)
    (hs' : E.Dates s'.world.clock.next) (h : s.session.AgreesOn record.id s'.session)
    (reply : Notice → Except Failure Unit) (seen : Option Row) :
    (outcome engine reply s' record seen).untimed =
      (outcome engine reply s record seen).untimed := by
  unfold outcome
  rw [h.actor]
  cases hadmitted : admitted record seen with
  | error failure => rfl
  | ok stored =>
    obtain ⟨row, rfl, hreads⟩ := row_of_admitted hadmitted
    rw [ok_bind, ok_bind, converged_of_agrees hhandlers h]
    exact of_changed_untimed hreads reply record _ _ hs hs'

include hbooks

theorem save_saves {record : Record E} {seen : Option Row} (hs : s.Live books E)
    (hrow : s.row books.store (E.key record.id) = .ok seen) :
    Ends (save engine record) s
      (Saves books s record.id (outcome engine books.reply s record seen)) := by
  refine (save_ends hbooks hhandlers hs.sound hrow).mono fun r s' hcomes => ?_
  refine ⟨hcomes, hs.advance hcomes.advances, hcomes.advances.row hs.sound _, fun key hkey => ?_,
    hcomes.advances.others⟩
  have hnone : imageIn (outcome engine books.reply s record seen).staged key = none :=
    SaveOutcome.imageIn_of _ _ _ _ hkey
  obtain ⟨row?, hrow?⟩ := hs.seen key
  rw [hcomes.advances.row hs.sound, hnone, hrow?]
  rfl

/-- In two scopes that agree on a record, saving it comes to the same, apart from the time. -/
theorem save_alike {record : Record E} (hs : s.Live books E) (hs' : s'.Live books E)
    (h : s.AgreesOn books E record.id s') :
    ∃ out out' : SaveOutcome E, out'.untimed = out.untimed ∧
      Ends (save engine record) s (Saves books s record.id out) ∧
      Ends (save engine record) s' (Saves books s' record.id out') := by
  obtain ⟨seen, hrow⟩ := hs.seen (E.key record.id)
  exact ⟨_, _, outcome_untimed hhandlers (hs.clock 0) (hs'.clock 0) h.session _ seen,
    save_saves hbooks hhandlers hs hrow, save_saves hbooks hhandlers hs' (h.row.trans hrow)⟩

/-! ### Many records -/

omit hbooks hhandlers in
theorem saveMany_cons (record : Record E) (rest : List (Record E)) :
    saveMany engine (record :: rest) = (do
      let saved ← save engine record
      let more ← saveMany engine rest
      return saved :: more) := by
  unfold saveMany perform
  rw [SessionWork.saveMany, runWork_bind]
  refine congrArg _ (funext fun saved => ?_)
  rw [runWork_bind]
  rfl

/-- What a save of a record comes to, apart from the time of its stamps. -/
def savedAlone (engine : Engine β σ) (s : Scope β σ) (record : Record E) : Except Failure Row :=
  ((save engine record).run s).1.map (·.untimed)

/-- Saved one after another, each record comes to what it would have come to alone. -/
theorem saveMany_untimed (hs : s.Live books E) {records : List (Record E)} (hs' : s'.Live books E)
    (hagrees : ∀ record ∈ records, s.AgreesOn books E record.id s')
    (hdistinct : (records.map (·.id)).Nodup) :
    ((saveMany engine records).run s').1.map (List.map (·.untimed)) =
      records.mapM (savedAlone engine s) := by
  induction records generalizing s' with
  | nil => rfl
  | cons record rest ih =>
    obtain ⟨hfirst, hrest⟩ := List.forall_mem_cons.1 hagrees
    rw [List.map_cons, List.nodup_cons] at hdistinct
    obtain ⟨out, out', hsame, hsave, hsave'⟩ := save_alike hbooks hhandlers hs hs' hfirst
    have halone : ((save engine record).run s').1.map (·.untimed) = savedAlone engine s record := by
      rw [savedAlone, hsave.comes.result, hsave'.comes.result]
      exact congrArg Prod.fst hsame
    unfold Ends at hsave'
    rw [saveMany_cons, run_bind, List.mapM_cons, ← halone]
    generalize (save engine record).run s' = end₁ at hsave' ⊢
    obtain ⟨_ | saved, s₁⟩ := end₁
    · rfl
    -- The records that are left are not the one just saved.
    have hleft : ∀ next ∈ rest, s.AgreesOn books E next.id s₁ := by
      intro next hnext
      have hne : next.id ≠ record.id := fun heq =>
        hdistinct.1 (heq ▸ List.mem_map_of_mem hnext)
      have hkey : E.key next.id ≠ E.key record.id := fun heq => hne (RowKey.mk.inj heq).2
      exact (hrest next hnext).trans ⟨hsave'.others _ hne, hsave'.rows _ hkey⟩
    have hmore := ih hsave'.live hleft hdistinct.2
    change Except.map _ ((saveMany engine rest >>= fun more => pure (saved :: more)).run s₁).1 = _
    rw [run_bind]
    change _ = (rest.mapM (savedAlone engine s)).map (saved.untimed :: ·)
    rw [← hmore]
    generalize (saveMany engine rest).run s₁ = end₂
    obtain ⟨_ | more, s₂⟩ := end₂
    · rfl
    · rfl

end

end Session

/-- All goes well if it goes well for each. -/
theorem mapM_eq_ok {α γ : Type} {f : α → Except Failure γ} {l : List α} {results : List γ} :
    l.mapM f = .ok results ↔ l.map f = results.map .ok := by
  induction l generalizing results with
  | nil =>
    rw [List.mapM_nil, List.map_nil, eq_comm (a := []), List.map_eq_nil_iff, eq_comm]
    exact ⟨Except.ok.inj, congrArg Except.ok⟩
  | cons a rest ih =>
    rw [List.mapM_cons, bind_eq_ok, List.map_cons]
    constructor
    · rintro ⟨c, hc, h⟩
      obtain ⟨more, hmore, h⟩ := bind_eq_ok.1 h
      obtain rfl := Except.ok.inj h
      rw [hc, ih.1 hmore, List.map_cons]
    · intro h
      cases results with
      | nil => cases h
      | cons c more =>
        obtain ⟨hc, hmore⟩ := List.cons.inj h
        exact ⟨c, hc, bind_eq_ok.2 ⟨more, ih.2 hmore, rfl⟩⟩

/-- What goes well in one order goes well in any other, with the same results. -/
theorem mapM_ok_perm {α γ : Type} [Inhabited γ] {f : α → Except Failure γ} {l : List α}
    {results : List γ} (h : l.mapM f = .ok results) :
    ∃ g : α → γ, results = l.map g ∧ ∀ l' : List α, l'.Perm l → l'.mapM f = .ok (l'.map g) := by
  have hall := mapM_eq_ok.1 h
  have hgiven : ∀ a ∈ l, f a = .ok ((f a).toOption.getD default) := by
    intro a ha
    obtain ⟨c, -, hc⟩ : ∃ c ∈ results, .ok c = f a := by
      rw [← List.mem_map, ← hall]
      exact List.mem_map_of_mem ha
    rw [← hc]
    rfl
  have hok (l' : List α) (hl' : ∀ a ∈ l', a ∈ l) :
      l'.mapM f = .ok (l'.map fun a => (f a).toOption.getD default) := by
    refine mapM_eq_ok.2 ?_
    rw [List.map_map]
    exact List.map_congr_left fun a ha => hgiven a (hl' a ha)
  refine ⟨fun a => (f a).toOption.getD default, ?_, fun l' hperm => ?_⟩
  · exact Except.ok.inj (h.symm.trans (hok l fun _ ha => ha))
  · exact hok l' fun _ ha => hperm.mem_iff.1 ha

open Session in
/-- **Records of one session, each for itself.** Let the handlers of a type be functions of the two
records, the actor, the flags and the pass, and let the backend do what it is asked to; its notifier
may fail, if what it answers is a matter of what it is told. If two sessions of an engine see the
same row under an identifier and agree on the record (the same actor and options, the same handlers
that have run on it, the same selectors used up for it), a save of that record comes to the same in
both, apart from the time of its stamps: the result, the changes staged in the transaction with the
image of the row and the audit record, and the announcement. It leaves every other row that the
session sees, and all that the session knows of other records, as it was.

So if records with different identifiers are saved one after another and all of it goes well, it
goes well in any other order, and for each record the same is given back. -/
theorem save_isolated (engine : Engine β σ) (books : Books β H)
    (hbooks : engine.backend.KeepsBooks books)
    (hhandlers : ∀ handler ∈ engine.registry.handlers E, handler.IsPure) :
    (∀ (record : Record E) (s s' : Scope β σ), s.Live books E → s'.Live books E →
      s.AgreesOn books E record.id s' →
      ∃ out out' : SaveOutcome E,
        out'.untimed = out.untimed ∧
        SessionM.Ends (save engine record) s (Saves books s record.id out) ∧
        SessionM.Ends (save engine record) s' (Saves books s' record.id out') ∧
        (((save engine record).run s').2.row books.store (E.key record.id)).map
            (Option.map E.untimed) =
          (((save engine record).run s).2.row books.store (E.key record.id)).map
            (Option.map E.untimed)) ∧
    ∀ (s : Scope β σ) (records saved : List (Record E)), s.Live books E →
      (records.map (·.id)).Nodup → ((saveMany engine records).run s).1 = .ok saved →
      ∃ alone : Record E → Row, saved.map (·.untimed) = records.map alone ∧
        ∀ records', records'.Perm records → ∃ saved',
          ((saveMany engine records').run s).1 = .ok saved' ∧
            saved'.map (·.untimed) = records'.map alone := by
  constructor
  · intro record s s' hs hs' hagrees
    obtain ⟨out, out', hsame, hsave, hsave'⟩ := save_alike hbooks hhandlers hs hs' hagrees
    exact ⟨out, out', hsame, hsave, hsave', Saves.row_untimed hs hagrees hsame hsave hsave'⟩
  · intro s records saved hs hdistinct hsaved
    have halone (records' : List (Record E)) (hperm : records'.Perm records) :
        ((saveMany engine records').run s).1.map (List.map (·.untimed)) =
          records'.mapM (savedAlone engine s) :=
      saveMany_untimed hbooks hhandlers hs hs (fun record _ => ⟨.refl _ _, rfl⟩)
        ((hperm.map (·.id)).nodup_iff.2 hdistinct)
    obtain ⟨alone, hrows, horder⟩ := mapM_ok_perm ((halone records (.refl records)).symm.trans
      (congrArg (Except.map (List.map (·.untimed))) hsaved))
    refine ⟨alone, hrows, fun records' hperm => ?_⟩
    have hok := horder records' hperm
    rw [← halone records' hperm] at hok
    generalize ((saveMany engine records').run s).1 = result at hok ⊢
    cases result with
    | error failure => cases hok
    | ok saved' => exact ⟨saved', rfl, Except.ok.inj hok⟩

/-! ## Two visitors -/

def visitorType : EntityType where
  name := "visitor"
  fields := [{ name := "id", role := some .identifier, type := .text },
    { name := "name", type := .text },
    { name := "seen", role := some .updatedAt, type := .instant }]

def visitor (id name : String) : Record visitorType :=
  ⟨[.text id, .text name, .timestamp ⟨0, 0⟩], ⟨rfl, rfl, rfl, trivial⟩⟩

/-- A handler that calls visitors without a name guests. -/
def nameless : Handler Unit visitorType where
  name := "nameless"
  trigger := none
  function _ _ proposed :=
    .done (if proposed.field 1 = .text "" then proposed.setField 1 (.text "guest")
      else .ok proposed)

def visitorEngine : Engine Memory Unit :=
  { noteEngine with registry := ⟨[⟨visitorType, nameless⟩]⟩ }

theorem nameless_isPure :
    ∀ handler ∈ visitorEngine.registry.handlers visitorType, handler.IsPure := by
  intro handler hhandler
  obtain rfl := List.mem_singleton.1 hhandler
  exact ⟨fun _ _ _ _ proposed => if proposed.field 1 = .text "" then
    proposed.setField 1 (.text "guest") else .ok proposed, fun _ _ _ => rfl⟩

/-- A session that sees two visitors and skips every handler once for each of them. -/
def visitorScope : Scope Memory Unit where
  world := { noteOutside.on
    ⟨Store.empty.run
      [.begin, .insert ⟨1⟩ (visitorType.key "v-1") (visitor "v-1" "Ann").toRow,
        .insert ⟨1⟩ (visitorType.key "v-2") (visitor "v-2" "Bob").toRow, .commit ⟨1⟩, .begin],
      none⟩ with clock := fun n => .ofNanos (n + 1) }
  session := .start ⟨2⟩ (.ofId "ann") { skip := [{ once := true }] }

theorem Instant.ofNanos_ne_zero {n : Nat} (h : 0 < n) : Instant.ofNanos n ≠ ⟨0, 0⟩ := by
  intro hzero
  obtain ⟨hseconds, hnanos⟩ := Instant.mk.inj hzero
  have hquotient : n / billion = 0 := Int.ofNat.inj hseconds
  have hsplit := Nat.div_add_mod n billion
  rw [hquotient, hnanos] at hsplit
  omega

theorem visitorScope_live : visitorScope.Live Memory.books visitorType where
  sound := Store.sound_empty.run _
  isOpen := by
    have hopen : (visitorScope.world.backend.store.transactions.get? ⟨2⟩).isSome = true := by
      decide +kernel
    exact fun hnone => by
      rw [show visitorScope.world.backend.store.transactions.get? ⟨2⟩ = none from hnone] at hopen
      cases hopen
  clock n i hi := by
    obtain rfl : 2 = i := Option.some.inj (EntityType.isTime_iff.1 hi)
    intro hheld
    exact Instant.ofNanos_ne_zero (Nat.succ_pos n) (Value.timestamp.inj hheld).symm

/-- The one selector works for both visitors, whichever is saved first, and saving the one after the
other is like saving it first. -/
theorem visitors_isolated :
    (∃ out out' : SaveOutcome visitorType,
      out'.untimed = out.untimed ∧
      out.untimed.1 = .ok [.text "v-1", .text "", .null] ∧
      SessionM.Ends (Session.save visitorEngine (visitor "v-1" "")) visitorScope
        (Session.Saves Memory.books visitorScope "v-1" out) ∧
      SessionM.Ends (Session.save visitorEngine (visitor "v-2" "")) visitorScope fun _ s =>
        SessionM.Ends (Session.save visitorEngine (visitor "v-1" "")) s
          (Session.Saves Memory.books s "v-1" out')) ∧
    ∃ alone : Record visitorType → Row,
      alone (visitor "v-1" "") = [.text "v-1", .text "", .null] ∧
      ∃ saved, ((Session.saveMany visitorEngine [visitor "v-2" "", visitor "v-1" ""]).run
          visitorScope).1 = .ok saved ∧
        saved.map (·.untimed) = [alone (visitor "v-2" ""), alone (visitor "v-1" "")] := by
  obtain ⟨hsave, hmany⟩ := save_isolated (E := visitorType) visitorEngine Memory.books
    Backend.memory_keepsBooks nameless_isPure
  constructor
  · obtain ⟨-, out₂, -, -, hsecond, -⟩ := hsave (visitor "v-2" "") visitorScope visitorScope
      visitorScope_live visitorScope_live ⟨.refl _ _, rfl⟩
    obtain ⟨out, out', hsame, hout, hout', -⟩ := hsave (visitor "v-1" "") visitorScope _
      visitorScope_live hsecond.live
      ⟨hsecond.others "v-1" (by decide), hsecond.rows (visitorType.key "v-1") (by decide)⟩
    have hrow : ((Session.save visitorEngine (visitor "v-1" "")).run visitorScope).1.map
        (·.untimed) = .ok [.text "v-1", .text "", .null] := by decide +kernel
    rw [hout.comes.result] at hrow
    exact ⟨out, out', hsame, hrow, hout, hout'⟩
  · have hrows : ((Session.saveMany visitorEngine [visitor "v-1" "", visitor "v-2" ""]).run
        visitorScope).1.map (List.map (·.untimed)) =
          .ok [[.text "v-1", .text "", .null], [.text "v-2", .text "", .null]] := by
      decide +kernel
    obtain ⟨saved, hsaved⟩ : ∃ saved, ((Session.saveMany visitorEngine
        [visitor "v-1" "", visitor "v-2" ""]).run visitorScope).1 = .ok saved := by
      generalize ((Session.saveMany visitorEngine [visitor "v-1" "", visitor "v-2" ""]).run
        visitorScope).1 = result at hrows
      cases result with
      | error failure => cases hrows
      | ok saved => exact ⟨saved, rfl⟩
    obtain ⟨alone, halone, horder⟩ :=
      hmany visitorScope _ saved visitorScope_live (by decide) hsaved
    rw [hsaved] at hrows
    obtain ⟨saved', hsaved', hrows'⟩ := horder _ (.swap (visitor "v-1" "") (visitor "v-2" "") [])
    exact ⟨alone, (List.cons.inj (halone.symm.trans (Except.ok.inj hrows))).1, saved', hsaved',
      hrows'⟩

end RecordEngine
