import RecordEngine.Proofs.Session.Interleaving
import RecordEngine.Proofs.Session.Modify
import RecordEngine.Proofs.Store.Journal
/-!
No update is lost.

Sessions take turns: one is begun, changes a row by find-and-modify, commits or rolls back, in any
order and as often as it likes. The journal of such a run notes the operations that staged an image
of the row and the commits that went through, and the committed row is what the landed writes make
of the row at the beginning, each as a function of the row and in the order of the commits.

Two mechanisms are at work. A find-and-modify reads what its transaction sees, which need not be
what it saw before; the store refuses the commit if that changed in between. What carries the proof
is `Store.Accounts`: as long as a transaction would be let through, what it sees is accounted for.
-/

set_option autoImplicit false

namespace RecordEngine

variable {β σ : Type} {E : EntityType}

/-- The world an engine is at work on, and the sessions begun so far. -/
structure Hub (β σ : Type) where
  world : World β σ
  sessions : List Session

/-- What happens next: a session is begun, which skips and forces nothing, or something is done with
one that was. -/
inductive Turn (E : EntityType) where
  | begin (actor : Actor) (flags : List (String × Document))
  | modify (i : Nat) (change : Record E → Except Failure (Record E))
  | commit (i : Nat)
  | rollback (i : Nat)

namespace Hub

/-- A find-and-modify of one session. -/
def modify (engine : Engine β σ) (id : String) (hub : Hub β σ) (session : Session)
    (change : Record E → Except Failure (Record E)) : Except Failure (Record E) × Scope β σ :=
  (Session.findAndModify engine id (.ofFunction σ change)).run ⟨hub.world, session⟩

/-- The hub after a turn about the row of an identifier. -/
def turn (engine : Engine β σ) (id : String) (hub : Hub β σ) : Turn E → Hub β σ
  | .begin actor flags =>
    match (engine.begin actor { flags }).run hub.world with
    | (.ok session, world) => ⟨world, hub.sessions ++ [session]⟩
    | (.error _, world) => ⟨world, hub.sessions⟩
  | .modify i change =>
    match hub.sessions[i]? with
    | some session =>
      let (_, s) := hub.modify engine id session change
      ⟨s.world, hub.sessions.set i s.session⟩
    | none => hub
  | .commit i =>
    match hub.sessions[i]? with
    | some session => ⟨((engine.commit session).run hub.world).2, hub.sessions⟩
    | none => hub
  | .rollback i =>
    match hub.sessions[i]? with
    | some session => ⟨((engine.rollback session).run hub.world).2, hub.sessions⟩
    | none => hub

/-- What the journal notes of a turn: a find-and-modify after which its transaction has staged more
images of the row than before, and a commit that goes through. -/
def deeds (engine : Engine β σ) (store : β → Store) (id : String) (hub : Hub β σ) :
    Turn E → List (Deed (Write E))
  | .modify i change =>
    match hub.sessions[i]? with
    | some session =>
      let (result, s) := hub.modify engine id session change
      if ((store hub.world.backend).drafted session.tx (E.key id)).length <
          ((store s.world.backend).drafted session.tx (E.key id)).length then
        [.wrote session.tx
          ⟨change, session.actor.effective, hub.world.clock.next⟩ result.isOk]
      else []
    | none => []
  | .commit i =>
    match hub.sessions[i]? with
    | some session =>
      if ((engine.commit session).run hub.world).1.isOk then [.committed session.tx] else []
    | none => []
  | _ => []

/-- The hub after turns. -/
def run (engine : Engine β σ) (id : String) (hub : Hub β σ) (turns : List (Turn E)) : Hub β σ :=
  turns.foldl (turn engine id) hub

/-- The journal of turns. -/
def journal (engine : Engine β σ) (store : β → Store) (id : String) :
    Hub β σ → List (Turn E) → List (Deed (Write E))
  | _, [] => []
  | hub, next :: rest =>
    hub.deeds engine store id next ++ journal engine store id (hub.turn engine id next) rest

/-- The transactions of the sessions. -/
def Begun (hub : Hub β σ) (tx : TxId) : Prop := ∃ session ∈ hub.sessions, session.tx = tx

/-- What turns keep: the sessions skip and force nothing, the journal accounts for the row, and what
it notes as failed was failed by the notifier or the audit log. -/
structure Tracked (engine : Engine β σ) (store : β → Store) (handlers : List (PureHandler E))
    (id : String) (row₀ : Row) (hub : Hub β σ) (deeds : List (Deed (Write E))) : Prop where
  accounts : Store.Accounts (Write.image? handlers engine.config.maxPasses.toNat id) (E.key id)
    row₀ (store hub.world.backend) hub.Begun deeds
  plain : ∀ session ∈ hub.sessions, session.Plain
  granted : engine.Announces → engine.Audits store →
    ∀ tx write granted, Deed.wrote tx write granted ∈ deeds → granted = true

variable {engine : Engine β σ} {store : β → Store} {handlers : List (PureHandler E)} {id : String}
  {row₀ : Row} {hub : Hub β σ} {deeds : List (Deed (Write E))}

/-- Before the first turn. -/
theorem tracked_nil (engine : Engine β σ) (handlers : List (PureHandler E)) {world : World β σ}
    (hsound : (store world.backend).Sound)
    (hrow : (store world.backend).committedRow? (E.key id) = some row₀) :
    Tracked engine store handlers id row₀ ⟨world, []⟩ [] where
  accounts := by
    refine (Store.accounts_nil hsound hrow).mono ?_
    rintro tx ⟨session, hsession, -⟩
    cases hsession
  plain _ hsession := by cases hsession
  granted _ _ _ _ _ hmem := by cases hmem

/-- A turn that nobody sees keeps track without a note. -/
theorem Tracked.quiet (h : Tracked engine store handlers id row₀ hub deeds) {hub' : Hub β σ}
    (hsound : (store hub'.world.backend).Sound)
    (hquiet : Store.Quiet (store hub.world.backend) (store hub'.world.backend))
    (hsessions : ∀ session ∈ hub'.sessions, session ∈ hub.sessions ∨
      session.Plain ∧ (store hub.world.backend).nextTx ≤ session.tx.number) :
    Tracked engine store handlers id row₀ hub' deeds where
  accounts := by
    refine h.accounts.quiet hsound hquiet ?_
    rintro tx ⟨session, hsession, rfl⟩
    rcases hsessions session hsession with hold | ⟨-, hnew⟩
    · exact .inl ⟨session, hold, rfl⟩
    · exact .inr hnew
  plain := by
    intro session hsession
    rcases hsessions session hsession with hold | ⟨hplain, -⟩
    · exact h.plain session hold
    · exact hplain
  granted := h.granted

/-- Beginning a session. -/
theorem Tracked.begin (hkeeps : engine.backend.KeepsRows store)
    (h : Tracked engine store handlers id row₀ hub deeds) (actor : Actor)
    (flags : List (String × Document)) :
    Tracked engine store handlers id row₀
      (hub.turn engine id (Turn.begin actor flags : Turn E)) deeds := by
  obtain ⟨hanswer, hstore⟩ := hkeeps.call .begin hub.world.backend (fun _ _ h => by cases h)
  have hstep : (store hub.world.backend).step .begin =
      (.ok ⟨(store hub.world.backend).nextTx⟩, (store hub.world.backend).begin.2) := rfl
  have hsound := h.accounts.sound.step .begin
  rw [hstep] at hanswer hstore hsound
  simp only [turn, Engine.begin_run, hanswer]
  refine h.quiet (by rw [← hstore] at hsound; exact hsound) ?_ ?_
  · change Store.Quiet _ (store (engine.backend.call .begin hub.world.backend).2)
    rw [hstore]
    exact Store.quiet_opened _
  · intro session hsession
    rcases List.mem_append.1 hsession with hold | hlast
    · exact .inl hold
    · obtain rfl := List.mem_singleton.1 hlast
      exact .inr ⟨rfl, Nat.le_refl _⟩

/-- Ending a session, or failing to. -/
theorem Tracked.rollback (hkeeps : engine.backend.KeepsRows store)
    (h : Tracked engine store handlers id row₀ hub deeds) (i : Nat) :
    Tracked engine store handlers id row₀
      (hub.turn engine id (Turn.rollback i : Turn E)) deeds := by
  simp only [turn]
  cases hsession : hub.sessions[i]? with
  | none => exact h
  | some session =>
    obtain ⟨-, hstore⟩ := hkeeps.call (.rollback session.tx) hub.world.backend
      (fun _ _ h => by cases h)
    have hsound := h.accounts.sound.step (.rollback session.tx)
    have hquiet := Store.quiet_rollback h.accounts.sound session.tx
    rw [← hstore] at hsound hquiet
    exact h.quiet hsound hquiet fun session hold => .inl hold

/-- A commit, which goes through or is refused. -/
theorem Tracked.commit (hkeeps : engine.backend.KeepsRows store)
    (h : Tracked engine store handlers id row₀ hub deeds) (i : Nat) :
    Tracked engine store handlers id row₀ (hub.turn engine id (Turn.commit i : Turn E))
      (deeds ++ hub.deeds engine store id (.commit i)) := by
  simp only [turn, Hub.deeds]
  cases hsession : hub.sessions[i]? with
  | none => rw [List.append_nil]; exact h
  | some session =>
    have hmine : hub.Begun session.tx := ⟨session, List.mem_of_getElem? hsession, rfl⟩
    obtain ⟨hanswer, hstore⟩ := hkeeps.call (.commit session.tx) hub.world.backend
      (fun _ _ h => by cases h)
    have haccounts := h.accounts.commit hmine
    rw [← hanswer, ← hstore] at haccounts
    -- The engine wraps the failure of a commit; whether it goes through is up to the backend.
    have hanswered : ((engine.commit session).run hub.world).1.isOk =
        (engine.backend.call (.commit session.tx) hub.world.backend).1.isOk := by
      change (Except.mapError _ (engine.backend.call (.commit session.tx) _).1).isOk = _
      cases (engine.backend.call (.commit session.tx) hub.world.backend).1 <;> rfl
    dsimp only
    rw [hanswered]
    refine ⟨haccounts, h.plain, ?_⟩
    intro hannounces haudits tx write granted hmem
    rcases List.mem_append.1 hmem with hbefore | hlast
    · exact h.granted hannounces haudits tx write granted hbefore
    · split at hlast
      · cases List.mem_singleton.1 hlast
      · cases hlast

/-- A session goes on where an operation left it. -/
theorem Tracked.resume (h : Tracked engine store handlers id row₀ hub deeds) {i : Nat}
    {session : Session} (hsession : hub.sessions[i]? = some session) {s : Scope β σ}
    (htx : s.session.tx = session.tx) (hplain : s.session.Plain) {deeds' : List (Deed (Write E))}
    (haccounts : Store.Accounts (Write.image? handlers engine.config.maxPasses.toNat id) (E.key id)
      row₀ (store s.world.backend) hub.Begun deeds')
    (hgranted : engine.Announces → engine.Audits store →
      ∀ tx write granted, Deed.wrote tx write granted ∈ deeds' → granted = true) :
    Tracked engine store handlers id row₀ ⟨s.world, hub.sessions.set i s.session⟩ deeds' where
  accounts := by
    refine haccounts.mono ?_
    rintro tx ⟨other, hother, rfl⟩
    rcases List.mem_or_eq_of_mem_set hother with hold | rfl
    · exact ⟨other, hold, rfl⟩
    · exact ⟨session, List.mem_of_getElem? hsession, htx.symm⟩
  plain := by
    intro other hother
    rcases List.mem_or_eq_of_mem_set hother with hold | rfl
    · exact h.plain other hold
    · exact hplain
  granted := hgranted

/-- A find-and-modify, which stages an image of the row or does not. -/
theorem Tracked.modify (hkeeps : engine.backend.KeepsRows store)
    (hhandlers : engine.registry.handlers E = handlers.map (·.toHandler σ))
    (h : Tracked engine store handlers id row₀ hub deeds) (i : Nat)
    (change : Record E → Except Failure (Record E)) :
    Tracked engine store handlers id row₀ (hub.turn engine id (.modify i change))
      (deeds ++ hub.deeds engine store id (.modify i change)) := by
  simp only [turn, Hub.deeds]
  cases hsession : hub.sessions[i]? with
  | none => rw [List.append_nil]; exact h
  | some session =>
    have hplain := h.plain session (List.mem_of_getElem? hsession)
    dsimp only
    cases hopen : (store hub.world.backend).transactions.get? session.tx with
    | none =>
      -- A session that was ended before is turned away at its load.
      obtain ⟨-, hstore, hsame⟩ :=
        Session.findAndModify_closed (s := ⟨hub.world, session⟩) hkeeps hopen id
          (.ofFunction σ change)
      change store (hub.modify engine id session change).2.world.backend = _ at hstore
      change (hub.modify engine id session change).2.session = session at hsame
      rw [hstore, if_neg (Nat.lt_irrefl _), List.append_nil]
      refine h.resume hsession (congrArg Session.tx hsame) ?_ ?_ h.granted
      · rw [hsame]
        exact hplain
      · rw [hstore]
        exact h.accounts
    | some t =>
      obtain ⟨images, hdrafts, hcase⟩ := Session.findAndModify_ends (s := ⟨hub.world, session⟩)
        hkeeps hhandlers hplain h.accounts.sound hopen id change
      change Scope.Drafts store _ images (hub.modify engine id session change).2 at hdrafts
      -- The journal tells by the number of images whether the turn staged one.
      have hdrafted : (store (hub.modify engine id session change).2.world.backend).drafted
          session.tx (E.key id) =
            (store hub.world.backend).drafted session.tx (E.key id) ++ images (E.key id) :=
        hdrafts.store.drafted (E.key id)
      rw [hdrafted, List.length_append]
      rcases hcase with hnone | ⟨row, image, hseen, himage, hone, hok⟩
      · rw [hnone, List.length_nil, Nat.add_zero, if_neg (Nat.lt_irrefl _), List.append_nil]
        refine h.resume hsession hdrafts.tx hdrafts.plain ?_ h.granted
        exact h.accounts.unwritten hdrafts.store hnone
      · rw [hone, List.length_singleton, if_pos (Nat.lt_succ_self _)]
        refine h.resume hsession hdrafts.tx hdrafts.plain ?_ ?_
        · exact h.accounts.wrote hdrafts.store hopen hseen himage hone _
        · intro hannounces haudits tx write granted hmem
          rcases List.mem_append.1 hmem with hbefore | hlast
          · exact h.granted hannounces haudits tx write granted hbefore
          · -- Nothing but the notifier and the audit log could have failed it.
            obtain ⟨-, -, rfl⟩ := Deed.wrote.inj (List.mem_singleton.1 hlast)
            obtain ⟨record, hresult⟩ := hok hannounces haudits
            change (hub.modify engine id session change).1 = _ at hresult
            rw [hresult]
            rfl

theorem Tracked.turn (hkeeps : engine.backend.KeepsRows store)
    (hhandlers : engine.registry.handlers E = handlers.map (·.toHandler σ))
    (h : Tracked engine store handlers id row₀ hub deeds) (next : Turn E) :
    Tracked engine store handlers id row₀ (hub.turn engine id next)
      (deeds ++ hub.deeds engine store id next) := by
  cases next with
  | begin actor flags =>
    change Tracked _ _ _ _ _ _ (deeds ++ [])
    rw [List.append_nil]
    exact h.begin hkeeps actor flags
  | modify i change => exact h.modify hkeeps hhandlers i change
  | commit i => exact h.commit hkeeps i
  | rollback i =>
    change Tracked _ _ _ _ _ _ (deeds ++ [])
    rw [List.append_nil]
    exact h.rollback hkeeps i

theorem Tracked.run (hkeeps : engine.backend.KeepsRows store)
    (hhandlers : engine.registry.handlers E = handlers.map (·.toHandler σ)) (turns : List (Turn E))
    (h : Tracked engine store handlers id row₀ hub deeds) :
    Tracked engine store handlers id row₀ (hub.run engine id turns)
      (deeds ++ hub.journal engine store id turns) := by
  induction turns generalizing hub deeds with
  | nil =>
    rw [journal, List.append_nil]
    exact h
  | cons next rest ih =>
    rw [journal, ← List.append_assoc]
    exact ih (h.turn hkeeps hhandlers next)

/-- **No update is lost.** Let sessions that skip and force nothing take any turns at a row that is
there, on an engine whose handlers are functions of the records and whose rows are kept in a store.
Then the committed row is what the writes that landed make of the row at the beginning, one after
another in the order of the commits, each applied to the row that the one before it left. With a
notifier and an audit log that never fail, every write noted is one that the session was granted. -/
theorem committedRow?_replayed (engine : Engine β σ) (store : β → Store)
    (hkeeps : engine.backend.KeepsRows store) (handlers : List (PureHandler E))
    (hhandlers : engine.registry.handlers E = handlers.map (·.toHandler σ)) (world : World β σ)
    (calls : List Call) (hreached : store world.backend = Store.empty.run calls) (id : String)
    (row₀ : Row) (hrow : (store world.backend).committedRow? (E.key id) = some row₀)
    (turns : List (Turn E)) :
    (∃ row, (store (run engine id ⟨world, []⟩ turns).world.backend).committedRow? (E.key id) =
        some row ∧
      Store.replayed (Write.image? handlers engine.config.maxPasses.toNat id) row₀
        (Deed.landed (journal engine store id ⟨world, []⟩ turns)) = some row) ∧
    (engine.Announces → engine.Audits store → ∀ tx write granted,
      Deed.wrote tx write granted ∈ journal engine store id ⟨world, []⟩ turns →
        granted = true) := by
  have hsound : (store world.backend).Sound := by
    rw [hreached]
    exact Store.sound_empty.run calls
  have hend := (tracked_nil engine handlers hsound hrow).run hkeeps hhandlers turns
  rw [List.nil_append] at hend
  exact ⟨hend.accounts.committed, hend.granted⟩

/-! ## Notes that several people change -/

/-- A note left without a text is given one. -/
def titling : PureHandler noteType where
  name := "titling"
  trigger := none
  revise _ proposed :=
    if proposed.field 1 = .text "" then proposed.setField 1 (.text "untitled") else .ok proposed

def titlingEngine : Engine Memory Unit :=
  { noteEngine with registry := ⟨[⟨noteType, titling.toHandler Unit⟩]⟩ }

/-- A note is stored. -/
def noteRows : List Call :=
  [.begin, .insert ⟨1⟩ (noteType.key "a") [.text "a", .text "one"], .commit ⟨1⟩]

def noteWorld : World Memory Unit := noteOutside.on ⟨Store.empty.run noteRows, none⟩

/-- Gives a note another text. -/
def retext (text : String) (record : Record noteType) : Except Failure (Record noteType) :=
  record.setField 1 (.text text)

/-- Ann and Bob change the note at the same time, and Ann is the first to commit; then Ann changes
it twice. -/
def noteTurns : List (Turn noteType) :=
  [.begin (.ofId "ann") [], .begin (.ofId "bob") [], .modify 0 (retext "two"),
    .modify 1 (retext "three"), .commit 0, .modify 1 (retext "four"), .commit 1,
    .begin (.ofId "ann") [], .modify 2 (retext "five"), .modify 2 (retext ""), .commit 2]

theorem committedRow?_noteTurns :
    (run titlingEngine "a" ⟨noteWorld, []⟩ noteTurns).world.backend.store.committedRow?
        (noteType.key "a") = some [.text "a", .text "untitled"] ∧
      Store.replayed (Write.image? [titling] titlingEngine.config.maxPasses.toNat "a")
        [.text "a", .text "one"]
        (Deed.landed (journal titlingEngine Memory.store "a" ⟨noteWorld, []⟩ noteTurns)) =
          some [.text "a", .text "untitled"] := by
  have hcommitted : (run titlingEngine "a" ⟨noteWorld, []⟩
      noteTurns).world.backend.store.committedRow? (noteType.key "a") =
        some [.text "a", .text "untitled"] := by decide +kernel
  obtain ⟨⟨row, hrow, hreplayed⟩, -⟩ := committedRow?_replayed titlingEngine Memory.store
    Backend.memory_keepsRows [titling] rfl noteWorld noteRows rfl "a" _ rfl noteTurns
  rw [hcommitted] at hrow
  rw [← hrow] at hreplayed
  exact ⟨hcommitted, hreplayed⟩

/-- The engine with a notifier that never gets through. -/
def unheardEngine : Engine Memory Unit := { noteEngine with backend := .unheard }

/-- Ann commits although she was told that her change failed. -/
def unheardTurns : List (Turn noteType) :=
  [.begin (.ofId "ann") [], .modify 0 (retext "two"), .commit 0]

/-- A change is reported as failed when the notifier fails, but it stays staged, and a session that
is committed all the same publishes it: the committed row is not what the granted writes make of the
row at the beginning. -/
theorem committedRow?_ne_granted :
    (run unheardEngine "a" ⟨noteWorld, []⟩ unheardTurns).world.backend.store.committedRow?
        (noteType.key "a") ≠
      Store.replayed (Write.image? [] unheardEngine.config.maxPasses.toNat "a")
        [.text "a", .text "one"]
        (Deed.landed ((journal unheardEngine Memory.store "a" ⟨noteWorld, []⟩
          unheardTurns).filter Deed.isGranted)) := by
  decide

end Hub

end RecordEngine
