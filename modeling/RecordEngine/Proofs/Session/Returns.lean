import RecordEngine.Proofs.Session.Interleaving
/-!
What create and save give back.

Neither gives back the record it has been working on. When all is done, deferred work included, the
row is fetched once more, and it is the record of this row that the caller gets. Only a save that
finds nothing to do gives back a record that was not read, which is the one it was given, and that
one has passed the check.
-/

set_option autoImplicit false

namespace RecordEngine

variable {β σ α : Type} {E : EntityType}

/-- The record is that of a row that some fetch was answered. -/
def Record.ReadIn (r : Record E) (events : List Event) : Prop :=
  ∃ tx id row, (⟨.fetch tx (E.key id), .ok (some row)⟩ : Event) ∈ events ∧
    Record.ofRow E row = .ok r

theorem Record.ReadAt.readIn {r : Record E} {tx : TxId} {id : String} {e : Event}
    (h : r.ReadAt tx id e) {events : List Event} (he : e ∈ events) : r.ReadIn events := by
  obtain ⟨row, rfl, hrow⟩ := h
  exact ⟨tx, id, row, he, hrow⟩

namespace SessionM

variable {engine : Engine β σ} {who : Holder}

/-- In the session of a holder, the record that an operation gives back was read by one of its calls
or has passed the check. -/
def Returns (engine : Engine β σ) (who : Holder) (m : SessionM β σ (Record E)) : Prop :=
  Issues engine who m fun es result => ∀ r, result = .ok r →
    r.ReadIn es ∨ E.schema.checkRow r.toRow = .ok ()

theorem Gives.returns {Q : Event → Prop} {m : SessionM β σ (Record E)} {P : Record E → Prop}
    {ids : String → Prop} (h : Gives engine who Q m P ids)
    (hP : ∀ r, P r → E.schema.checkRow r.toRow = .ok ()) : Returns engine who m := by
  refine Issues.mono h fun es result hgiven r hr => ?_
  rcases hgiven.2 r hr with hr | ⟨id, -, e, he, hread⟩
  · exact .inr (hP r hr)
  · exact .inl (hread.readIn he)

end SessionM

namespace Session

open SessionM

variable {engine : Engine β σ} {who : Holder}

/-- What create and save give back was read or has passed the check, for a caller and for deferred
work alike, whatever handlers and deferred work do. -/
theorem operationsAt_returns (level : Nat) (record : Record E) :
    Returns engine who ((operationsAt engine level).create E record) ∧
      Returns engine who ((operationsAt engine level).save E record) := by
  cases level with
  | zero =>
    have hthrow : Returns engine who (throw nestedTooDeep : SessionM β σ (Record E)) := by
      refine Issues.mono (Issues.ofExcept (.error nestedTooDeep)) ?_
      rintro es result ⟨-, rfl⟩ r hr
      cases hr
    exact ⟨hthrow, hthrow⟩
  | succ level =>
    -- Nothing is asked of the calls, so anything may make them.
    have hgrants : who.Grants (fun _ => True) fun _ => True :=
      ⟨fun _ _ _ => trivial, fun _ _ _ _ => trivial, fun _ _ _ _ _ _ => trivial,
        fun _ _ => trivial⟩
    have hdirect (c : Call) (_ : Except Failure c.Answer) : True → True := id
    have hengine : engine.Asks (fun _ => True) (fun _ => True) :=
      fun _ _ _ _ _ _ => HandlerProgram.asks_any (fun work => work.run.asks_any) _
    have hoperations := operationsAt_confined hgrants hdirect hengine level
    have hdrain (queue : DeferredWork σ)
        (hqueue : DeferredWork.Holds (·.run.Asks (fun _ => True) fun _ => True) queue) :
        Confines engine who (fun _ => True) (drain engine (operationsAt engine level) queue)
          fun _ => True :=
      drainAll_confined hgrants hdirect hoperations hqueue
    have hcreate := createWith_gives hdirect (hengine E) hgrants.audit hdrain (hgrants.fetch E)
      (hgrants.insert E trivial) record
    have hsave := saveWith_gives hdirect (hengine E) hgrants.audit hdrain
      (hgrants.fetch E record.id) (hgrants.update E trivial record.id)
    refine ⟨hcreate.returns fun _ hfalse => hfalse.elim, hsave.returns ?_⟩
    rintro r ⟨rfl, hcheck⟩
    exact hcheck

end Session

end RecordEngine
