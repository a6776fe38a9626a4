import RecordEngine.Proofs.Session.Account
/-!
Deferred work runs once, in order, and late.

All of this can be read off the story of an operation. The queue is what the handlers put off in the
passes of the operation, and the pieces of work that are run stand in the story after these passes,
after the write, its announcement and its audit record, and before the last look at the row. What a
piece of work creates and saves, with all that is put off there in its turn, stands inside the
piece, so it is over before the next one begins. Handlers run nothing of what they put off; with this
the two lists, what was put off and what was run, can be compared.
-/

set_option autoImplicit false

namespace RecordEngine

variable {β σ : Type} {E : EntityType} {engine : Engine β σ} {who : Holder}

/-! ## What runs no work -/

namespace Convergence

variable {handler : Handler σ E} {id : String} {pass : Nat} {mask : FieldMask}
  {before proposed : Record E} {story : Story β σ} {r : Except Failure (Record E)}

theorem Called.works_eq_nil (h : Called who handler id pass before proposed story r) :
    story.works = [] := by
  cases h with
  | failed _ hfollows => exact hfollows.works_eq_nil
  | returned _ hfollows =>
    rw [Story.works_append, hfollows.works_eq_nil]
    rfl

theorem Dispatched.works_eq_nil (h : Dispatched who handler id pass mask before proposed story r) :
    story.works = [] := by
  cases h with
  | passed => rfl
  | skipped => rfl
  | called _ hcalled =>
    rw [Story.works, hcalled.works_eq_nil]
    rfl

theorem DispatchedAll.works_eq_nil {handlers : List (Handler σ E)}
    (h : DispatchedAll who id pass mask before handlers proposed story r) : story.works = [] := by
  induction h with
  | nil => rfl
  | stopped hfirst => exact hfirst.works_eq_nil
  | next hfirst _ ih => rw [Story.works_append, hfirst.works_eq_nil, ih, List.append_nil]

theorem Converged.works_eq_nil {baseline : Record E} {forced : Bool} {left : Nat}
    {passes : List (Story β σ)}
    (h : Converged engine who id pass baseline proposed forced left passes r) :
    (iterations E.name id pass passes).works = [] := by
  induction h with
  | settled => rfl
  | exhausted => rfl
  | stopped _ hpass =>
    rw [iterations, Story.works, hpass.works_eq_nil]
    rfl
  | passed _ hpass _ ih => rw [iterations, Story.works, hpass.works_eq_nil, ih, List.append_nil]

end Convergence

namespace Session

variable {inner : Inner β σ} {kind : AuditAction} {story : Story β σ}

theorem Admitted.bare {record : Record E} {r : Except Failure (Record E × Record E)}
    (h : Admitted who kind record story r) : story.putOffs = [] ∧ story.works = [] := by
  cases h <;> exact ⟨rfl, rfl⟩

theorem Headed.works_eq_nil {baseline given : Record E} {r : Except Failure (Option (Record E))}
    (h : Headed engine who kind baseline given story r) : story.works = [] := by
  cases h with
  | unsettled hconverged => exact hconverged.works_eq_nil
  | settled hconverged hwrote =>
    have hwrite : ∀ {id : String} {told : Story β σ} {proposed : Record E},
        Wrote who kind id baseline proposed told r → told.works = [] := by
      intro id told proposed h
      cases h <;> rfl
    rw [Story.works_append, hconverged.works_eq_nil, hwrite hwrote]
    rfl

/-- Only a save can find nothing to write. -/
theorem Headed.kind_of_none {baseline given : Record E}
    (h : Headed engine who kind baseline given story (.ok none)) : kind = .update := by
  cases h with
  | settled _ hwrote =>
    cases hwrote with
    | unchanged hkind => exact hkind

theorem Published.bare {id : String} {baseline : Record E} {written : Option (Record E)}
    {r : Except Failure Unit} (h : Published who kind id baseline written story r) :
    story.putOffs = [] ∧ story.works = [] := by
  cases h <;> exact ⟨rfl, rfl⟩

/-! ## What runs the queue -/

variable {queue : List (String × SessionWork σ Unit)} {d : Except Failure Unit}

/-- The pieces of work have put their own work into their own queues. -/
theorem Drained.putOffs_eq_nil (h : Drained who inner queue story d) : story.putOffs = [] := by
  induction h with
  | nil => rfl
  | stopped => rfl
  | next _ _ ih => exact ih

theorem Drained.works_prefix (h : Drained who inner queue story d) : story.works <+: queue := by
  induction h with
  | nil => exact List.prefix_rfl
  | @stopped label action rest => exact ⟨rest, rfl⟩
  | next _ _ ih => exact (List.prefix_cons_inj _).2 ih

theorem Drained.works_eq (h : Drained who inner queue story d) (hok : d = .ok ()) :
    story.works = queue := by
  induction h with
  | nil => rfl
  | stopped => cases hok
  | next _ _ ih => exact congrArg _ (ih hok)

section
variable {id : String} {record : Record E} {written : Option (Record E)}
  {r : Except Failure (Record E)}

theorem Closed.putOffs_eq_nil (h : Closed who inner id record written queue story r) :
    story.putOffs = [] := by
  cases h with
  | idle => rfl
  | stopped _ hdrained => exact hdrained.putOffs_eq_nil
  | read _ hdrained =>
    rw [Story.putOffs_append, hdrained.putOffs_eq_nil]
    rfl

theorem Closed.works_prefix (h : Closed who inner id record written queue story r) :
    story.works <+: queue := by
  cases h with
  | idle => exact List.nil_prefix
  | stopped _ hdrained => exact hdrained.works_prefix
  | read _ hdrained =>
    rw [Story.works_append]
    exact (List.append_nil _).symm ▸ hdrained.works_prefix

theorem Closed.works_eq (h : Closed who inner id record written queue story r) {found : Record E}
    (hfound : r = .ok found) : story.works = queue := by
  cases h with
  | idle _ hqueue => exact hqueue.symm
  | stopped => cases hfound
  | read _ hdrained =>
    rw [Story.works_append, hdrained.works_eq rfl]
    exact List.append_nil _

end

/-- What is known of the work put off in an operation. -/
structure RunsWork (engine : Engine β σ) (who : Holder) (inner : Inner β σ) (kind : AuditAction)
    (record : Record E) (story : Story β σ) (r : Except Failure (Record E)) : Prop where
  /-- Work is run in the order in which it was put off, over all passes and handlers, each piece
  once. -/
  order : story.works <+: story.putOffs
  /-- If the operation goes well, none is left out. -/
  all : ∀ found, r = .ok found → story.works = story.putOffs
  /-- None is run before the handlers are done, the write has been made or there turned out to be
  none to make, and it has been announced and audited. Then it is the queue of the operation that is
  carried out, before the operation is over. -/
  late : story.works ≠ [] → ∃ (asked head shown closing : Story β σ) (baseline given : Record E)
    (written : Option (Record E)),
    story = asked ++ .span (.modelActivity E.name given.id kind) (head ++ (shown ++ closing)) .nil ∧
      Headed engine who kind baseline given head (.ok written) ∧
      Published who kind given.id baseline written shown (.ok ()) ∧
      Closed who inner given.id record written story.putOffs closing r ∧
      asked.works = [] ∧ head.works = [] ∧ shown.works = []
  /-- What a successful operation gives back is the row as it is seen at the very end, except that a
  save that wrote nothing and had nothing put off gives back the record it was given. -/
  returned : ∀ found, r = .ok found →
    (∃ (asked inside : Story β σ) (id : String) (before : β) (row : Row) (after : β),
      story = asked ++ .span (.modelActivity E.name id kind)
        (inside ++ fetchCall who.tx E id before (.ok (some row)) after) .nil ∧
        Record.ofRow E row = .ok found) ∨
      kind = .update ∧ found = record ∧ story.putOffs = [] ∧
      ∃ (asked head : Story β σ) (baseline given : Record E),
        story = asked ++ .span (.modelActivity E.name given.id kind) head .nil ∧
          Headed engine who kind baseline given head (.ok none)

/-- An operation that fails before it comes to its queue. -/
theorem RunsWork.of_error {record : Record E} {failure : Failure} (h : story.works = []) :
    RunsWork engine who inner kind record story (.error failure) where
  order := h ▸ List.nil_prefix
  all _ hok := by cases hok
  late hworks := absurd h hworks
  returned _ hok := by cases hok

theorem Operated.runsWork {record : Record E} {r : Except Failure (Record E)}
    (h : Operated engine who inner kind record story r) :
    RunsWork engine who inner kind record story r := by
  cases h with
  | refused hadmitted => exact .of_error hadmitted.bare.2
  | unwritten hadmitted hheaded =>
    refine .of_error ?_
    rw [Story.works_append, Story.works, hadmitted.bare.2, hheaded.works_eq_nil]
    rfl
  | unpublished hadmitted hheaded hpublished =>
    refine .of_error ?_
    rw [Story.works_append, Story.works, Story.works_append, hadmitted.bare.2,
      hheaded.works_eq_nil, hpublished.bare.2]
    rfl
  | @closed asked head shown closing baseline given written _ hadmitted hheaded hpublished hclosed =>
    let event : TraceEvent := .modelActivity E.name given.id kind
    have hputOffs : (asked ++ .span event (head ++ (shown ++ closing)) .nil).putOffs =
        head.putOffs := by
      simp only [Story.putOffs_append, Story.putOffs, hadmitted.bare.1, hpublished.bare.1,
        hclosed.putOffs_eq_nil, List.nil_append, List.append_nil]
    have hworks : (asked ++ .span event (head ++ (shown ++ closing)) .nil).works = closing.works := by
      simp only [Story.works_append, Story.works, hadmitted.bare.2, hheaded.works_eq_nil,
        hpublished.bare.2, List.nil_append, List.append_nil]
    refine ⟨?_, fun found hfound => ?_, fun _ => ?_, fun found hfound => ?_⟩
    · rw [hputOffs, hworks]
      exact hclosed.works_prefix
    · rw [hputOffs, hworks]
      exact hclosed.works_eq hfound
    · rw [hputOffs]
      exact ⟨asked, head, shown, closing, baseline, given, written, rfl, hheaded, hpublished, hclosed,
        hadmitted.bare.2, hheaded.works_eq_nil, hpublished.bare.2⟩
    · rw [hputOffs]
      cases hclosed with
      | idle hwritten hqueue =>
        subst hwritten
        cases hpublished
        exact .inr ⟨hheaded.kind_of_none, (Except.ok.inj hfound).symm, hqueue, asked, head,
          baseline, given, by rw [Story.nil_append, Story.append_nil], hheaded⟩
      | stopped => cases hfound
      | @read told hbusy hdrained before after answer =>
        obtain ⟨row, rfl, hrow⟩ := loadOutcome_eq_ok hfound
        refine .inl ⟨asked, head ++ (shown ++ told), given.id, before, row, after, ?_, hrow⟩
        simp only [Story.append_assoc]

/-- **Deferred work runs once, in order, and after the write.** Whatever the engine, its handlers and
its backend, a create or a save at any level has a story: so it runs, whichever sink is told of it,
and so the backend answered. In this story the work that the handlers put off is run in the order in
which it was put off, over all passes and handlers, each piece once and from its start to its end,
with all the operations it makes and the work that these put off. No piece is run unless the handlers
came to an end and what they left passed its check and was written, announced and audited, or there
was nothing to write. The first piece that fails is the last one to be run, and the operation fails
with it. An operation that succeeds has run them all, and gives back the row as it is seen after the
last one, except that a save with nothing written and nothing put off gives back the record it was
given. -/
theorem deferred_work_runs_once (engine : Engine β σ) (level : Nat) (kind : AuditAction)
    (record : Record E) (s : Scope β σ) : ∃ story r s',
      SessionM.Plays engine ((operationsAt engine level).operate kind record) s story r s' ∧
      accountAt engine s.session.holder level kind E record story r ∧
      RunsWork engine s.session.holder (accountAt engine s.session.holder (level - 1)) kind record
        story r := by
  obtain ⟨story, r, s', hplays, haccount⟩ := operationsAt_accounts level kind E record s rfl
  refine ⟨story, r, s', hplays, haccount, ?_⟩
  cases level with
  | zero =>
    obtain ⟨rfl, rfl⟩ := haccount
    exact .of_error rfl
  | succ level => exact haccount.runsWork

end Session

end RecordEngine
