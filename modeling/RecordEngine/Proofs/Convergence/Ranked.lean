import RecordEngine.Proofs.Convergence.Passes
import Mathlib.Data.List.Count
/-!
Handlers that cannot feed each other in circles.

Say of each handler which fields it may write, and suppose the handlers can be ranked so that one
that writes a field comes before every one that reacts to it. Then a change travels up the ranks,
one pass for each step: a handler called in pass number `n + 1` has at least `n` handlers below it.
Since no handler is below itself, `N` handlers are called in the first `N` passes or not at all, and
the pass after that finds nothing to do.

The order in which handlers are registered plays no part, nor does what the session skips or forces.
Forced handlers are called without a change that calls for them, but only in the first pass: after
their turn they are in the history, or the force list no longer selects them.
-/

set_option autoImplicit false

namespace RecordEngine

variable {β σ : Type} {E : EntityType}

/-! ## Handlers with a rank -/

/-- Whether a change of a field calls for a handler. -/
def Handler.reactsTo (handler : Handler σ E) (i : Nat) : Bool :=
  match handler.trigger with
  | some trigger => trigger.contains i
  | none => true

theorem Handler.triggered_iff {handler : Handler σ E} {mask : FieldMask} :
    (handler.triggeredBy mask).isEmpty = false ↔
      ∃ i, mask.contains i = true ∧ handler.reactsTo i = true := by
  rw [FieldMask.isEmpty_eq_false_iff, triggeredBy]
  unfold reactsTo
  cases handler.trigger with
  | none => simp
  | some trigger =>
    simp only [FieldMask.contains_intersect, Bool.and_eq_true]
    exact exists_congr fun i => and_comm

/-- A handler, the fields it may write and its rank. -/
structure Ranked (σ : Type) (E : EntityType) where
  handler : Handler σ E
  writes : FieldMask
  rank : Nat

namespace Ranked

/-- Whatever it is given and however it is answered, the handler keeps the identifier and every
field it may not write. -/
def Confined (node : Ranked σ E) : Prop :=
  ∀ cx before proposed, (node.handler.function cx before proposed).Ends fun after =>
    after.id = proposed.id ∧
      ∀ i, node.writes.contains i = false → (proposed.field i).agrees (after.field i) = true

/-- A handler that reacts to what another one may write has the higher rank. -/
def Ascending (nodes : List (Ranked σ E)) : Prop :=
  ∀ a ∈ nodes, ∀ b ∈ nodes,
    (b.handler.triggeredBy a.writes).isEmpty = false → a.rank < b.rank

/-- The number of handlers with a lower rank. -/
def below (nodes : List (Ranked σ E)) (node : Ranked σ E) : Nat :=
  nodes.countP fun other => other.rank < node.rank

variable {nodes : List (Ranked σ E)} {a b : Ranked σ E}

theorem below_lt_length (h : a ∈ nodes) : below nodes a < nodes.length := by
  rw [below, List.countP_lt_length_iff]
  exact ⟨a, h, decide_eq_false (Nat.lt_irrefl _)⟩

/-- Of two handlers the higher one has more below it, the lower one among them. -/
theorem below_lt_below (ha : a ∈ nodes) (hrank : a.rank < b.rank) :
    below nodes a < below nodes b := by
  have hmem : a ∈ nodes.filter (·.rank < b.rank) :=
    List.mem_filter.2 ⟨ha, decide_eq_true hrank⟩
  have hlower : below nodes a = (nodes.filter (·.rank < b.rank)).countP (·.rank < a.rank) := by
    rw [List.countP_filter]
    apply List.countP_congr
    intro c _
    simp only [Bool.and_eq_true, decide_eq_true_eq]
    omega
  have hhigher : below nodes b = (nodes.filter (·.rank < b.rank)).length :=
    List.countP_eq_length_filter
  rw [hlower, hhigher, List.countP_lt_length_iff]
  exact ⟨a, hmem, decide_eq_false (Nat.lt_irrefl _)⟩

end Ranked

/-! ## One pass -/

namespace Convergence

section Turns

variable {engine : Engine β σ} {id : String} {pass : Nat} {mask : FieldMask}
  {before proposed : Record E} {queue : DeferredWork σ} {s s' : Scope β σ}
  {handlers : List (Handler σ E)} {handler : Handler σ E}

theorem mem_of_mem_calledIn
    (h : handler ∈ calledIn engine id pass mask before handlers proposed queue s) :
    handler ∈ handlers := by
  induction handlers generalizing proposed queue s with
  | nil => cases h
  | cons first rest ih =>
    rcases mem_calledIn_cons h with ⟨rfl, -⟩ | ⟨after, queue', s₁, -, hlater⟩
    · exact List.mem_cons_self
    · exact List.mem_cons_of_mem _ (ih hlater)

/-- Where no handler is forced, those that are called react to a field that changed. -/
theorem triggered_of_mem_calledIn (hspent : ∀ other ∈ handlers, forces other id s.session = false)
    (h : handler ∈ calledIn engine id pass mask before handlers proposed queue s) :
    (handler.triggeredBy mask).isEmpty = false := by
  induction handlers generalizing proposed queue s with
  | nil => cases h
  | cons first rest ih =>
    rcases mem_calledIn_cons h with ⟨rfl, hcalls⟩ | ⟨after, queue', s₁, hturn, hlater⟩
    · rw [calls, hspent _ List.mem_cons_self, Bool.false_or, Bool.and_eq_true,
        Bool.not_eq_true'] at hcalls
      exact hcalls.1
    · apply ih _ hlater
      intro other hother
      exact forces_of_dispatch hturn (hspent other (List.mem_cons_of_mem _ hother))

/-- What confined handlers leave different was written by one that was called. -/
theorem writer_of_dispatchAll {nodes : List (Ranked σ E)}
    (hconfined : ∀ node ∈ nodes, node.Confined) {after : Record E} {queue' : DeferredWork σ}
    (hrun : (dispatchAll engine id pass mask before (nodes.map (·.handler)) proposed queue).run s =
      (.ok (after, queue'), s')) {i : Nat}
    (hi : (proposed.field i).agrees (after.field i) = false) :
    ∃ node ∈ nodes, node.writes.contains i = true ∧
      node.handler ∈
        calledIn engine id pass mask before (nodes.map (·.handler)) proposed queue s := by
  induction nodes generalizing proposed queue s with
  | nil =>
    obtain ⟨hleft, -⟩ := Prod.mk.inj hrun
    obtain ⟨rfl, -⟩ := Prod.mk.inj (Except.ok.inj hleft)
    rw [Value.agrees_refl] at hi
    cases hi
  | cons node rest ih =>
    rcases dispatchAll_cases hrun with ⟨failure, hfailure, -⟩ | ⟨middle, queue₁, s₁, hturn, hrest⟩
    · cases hfailure
    · rw [List.map_cons, calledIn_of_ok hturn]
      cases hmiddle : (middle.field i).agrees (after.field i) with
      | false =>
        -- A later handler left the field different.
        obtain ⟨writer, hmem, hwrites, hcalled⟩ :=
          ih (fun other hother => hconfined other (List.mem_cons_of_mem _ hother)) hrest hmiddle
        exact ⟨writer, List.mem_cons_of_mem _ hmem, hwrites, List.mem_append_right _ hcalled⟩
      | true =>
        have hchanged : (proposed.field i).agrees (middle.field i) = false := by
          by_contra hsame
          rw [Bool.not_eq_false] at hsame
          rw [Value.agrees_trans hsame hmiddle] at hi
          cases hi
        rcases dispatch_cases hturn with ⟨-, hresult, -⟩ | ⟨hcalls, hreturned, -⟩
        · obtain ⟨rfl, -⟩ := Prod.mk.inj (Except.ok.inj hresult)
          rw [Value.agrees_refl] at hchanged
          cases hchanged
        · cases hreturned with
          | left _ _ hends _ =>
            have hkept := (hends _ fun cx =>
              hconfined node List.mem_cons_self cx before proposed).2 i
            refine ⟨node, List.mem_cons_self, ?_, ?_⟩
            · by_contra hwrites
              rw [hkept (Bool.not_eq_true _ ▸ hwrites)] at hchanged
              cases hchanged
            · rw [hcalls, if_pos rfl]
              exact List.mem_append_left _ List.mem_cons_self

end Turns

/-! ## Pass by pass -/

section Steps

variable {engine : Engine β σ} {nodes : List (Ranked σ E)} {id : String} {pass left : Nat}
  {baseline proposed : Record E} {queue : DeferredWork σ} {forced : Bool} {s s' : Scope β σ}

/-- What holds between passes. Nobody is forced any more, and each field that changed was written by
a handler with at least `pass - 1` handlers below it. Before the first pass nothing is known. -/
structure Climbing (nodes : List (Ranked σ E)) (id : String) (pass : Nat)
    (baseline proposed : Record E) (session : Session) : Prop where
  spent : 0 < pass → ∀ node ∈ nodes, forces node.handler id session = false
  written : 0 < pass → ∀ i, (baseline.field i).agrees (proposed.field i) = false →
    ∃ node ∈ nodes, node.writes.contains i = true ∧ pass ≤ Ranked.below nodes node + 1

theorem climbing_zero (session : Session) : Climbing nodes id 0 baseline proposed session where
  spent h := absurd h (Nat.lt_irrefl 0)
  written h := absurd h (Nat.lt_irrefl 0)

/-- A handler called in pass number `pass + 1` has at least `pass` handlers below it. -/
theorem le_below_of_called (hregistry : engine.registry.handlers E = nodes.map (·.handler))
    (hascending : Ranked.Ascending nodes)
    (hclimbing : Climbing nodes id pass baseline proposed s.session) {node : Ranked σ E}
    (hnode : node ∈ nodes)
    (hcalled : node.handler ∈ (nextEntry engine id pass baseline proposed queue s).called) :
    pass ≤ Ranked.below nodes node := by
  rcases Nat.eq_zero_or_pos pass with rfl | hpass
  · exact Nat.zero_le _
  · rw [nextEntry, hregistry] at hcalled
    have htriggered : (node.handler.triggeredBy (FieldMask.diff baseline proposed)).isEmpty =
        false := by
      refine triggered_of_mem_calledIn (fun other hother => ?_) hcalled
      obtain ⟨node', hnode', rfl⟩ := List.mem_map.1 hother
      exact hclimbing.spent hpass node' hnode'
    obtain ⟨i, hi, hreacts⟩ := Handler.triggered_iff.1 htriggered
    -- The field it reacts to was written by a handler of lower rank.
    obtain ⟨writer, hwriter, hwrites, hbelow⟩ :=
      hclimbing.written hpass i (FieldMask.contains_diff_iff.1 hi)
    have hrank : writer.rank < node.rank :=
      hascending writer hwriter node hnode (Handler.triggered_iff.2 ⟨i, hwrites, hreacts⟩)
    have hlt := Ranked.below_lt_below hwriter hrank
    omega

/-- A pass begun later than that calls nobody. -/
theorem called_eq_nil (hregistry : engine.registry.handlers E = nodes.map (·.handler))
    (hascending : Ranked.Ascending nodes)
    (hclimbing : Climbing nodes id pass baseline proposed s.session) (hpass : nodes.length ≤ pass) :
    (nextEntry engine id pass baseline proposed queue s).called = [] := by
  apply List.eq_nil_iff_forall_not_mem.2
  intro handler hcalled
  have hmem : handler ∈ nodes.map (·.handler) := hregistry ▸ mem_of_mem_calledIn hcalled
  obtain ⟨node, hnode, rfl⟩ := List.mem_map.1 hmem
  have hle := le_below_of_called hregistry hascending hclimbing hnode hcalled
  have hlt := Ranked.below_lt_length hnode
  omega

/-- If another pass is due after the first, it is one of the first `N + 1`. -/
theorem lt_of_due (hclimbing : Climbing nodes id pass baseline proposed s.session)
    (hforced : forced = true → pass = 0) (hdue : due baseline proposed forced = true) :
    pass < nodes.length + 1 := by
  rcases Nat.eq_zero_or_pos pass with rfl | hpass
  · exact Nat.zero_lt_succ _
  · have hquiet : forced = false := by
      by_contra h
      exact Nat.ne_of_gt hpass (hforced (Bool.not_eq_false _ ▸ h))
    rw [due, hquiet, Bool.not_false, Bool.and_true, Bool.not_eq_true',
      FieldMask.isEmpty_eq_false_iff] at hdue
    obtain ⟨i, hi⟩ := hdue
    obtain ⟨writer, hwriter, -, hbelow⟩ :=
      hclimbing.written hpass i (FieldMask.contains_diff_iff.1 hi)
    have hlt := Ranked.below_lt_length hwriter
    omega

theorem climbing_next (hregistry : engine.registry.handlers E = nodes.map (·.handler))
    (hconfined : ∀ node ∈ nodes, node.Confined) (hascending : Ranked.Ascending nodes)
    (hclimbing : Climbing nodes id pass baseline proposed s.session) {after : Record E}
    {queue' : DeferredWork σ}
    (hpass : (nextPass engine id pass baseline proposed queue).run s = (.ok (after, queue'), s')) :
    Climbing nodes id (pass + 1) proposed after s'.session := by
  obtain ⟨s₁, hrun, hsession⟩ := dispatchAll_of_nextPass hpass
  rw [hregistry] at hrun
  constructor
  · intro _ node hnode
    rw [hsession]
    exact spent_of_dispatchAll hrun (List.mem_map_of_mem hnode)
  · intro _ i hi
    obtain ⟨writer, hwriter, hwrites, hcalled⟩ := writer_of_dispatchAll hconfined hrun hi
    have hentry : writer.handler ∈ (nextEntry engine id pass baseline proposed queue s).called := by
      rw [nextEntry, hregistry]
      exact hcalled
    have hbelow := le_below_of_called hregistry hascending hclimbing hwriter hentry
    exact ⟨writer, hwriter, hwrites, Nat.succ_le_succ hbelow⟩

end Steps

/-! ## The whole run -/

section Runs

variable {engine : Engine β σ} {nodes : List (Ranked σ E)} {id : String} {pass left : Nat}
  {baseline proposed : Record E} {queue : DeferredWork σ} {forced : Bool} {s s' : Scope β σ}
  {account : List (Pass σ E)} {result : Except Failure (Outcome σ E)}

/-- A run of confined handlers with ranks fails only by the failure of a handler that was called;
otherwise it converges in at most one pass more than there are handlers, if so many are allowed. -/
theorem Course.of_ascending
    (h : Course engine id pass baseline proposed queue forced left s account result s')
    (hregistry : engine.registry.handlers E = nodes.map (·.handler))
    (hconfined : ∀ node ∈ nodes, node.Confined) (hascending : Ranked.Ascending nodes)
    (hclimbing : Climbing nodes id pass baseline proposed s.session)
    (hforced : forced = true → pass = 0) (hid : proposed.id = id)
    (hpass : pass ≤ nodes.length + 1) (hleft : nodes.length + 1 ≤ pass + left) :
    (∃ out, result = .ok out ∧ out.passes ≤ nodes.length + 1) ∨
      ∃ p ∈ account, ∃ handler ∈ p.called, ∃ cause,
        p.result = .error (.handler handler.qualifiedName id cause) ∧
          result = .error (.handler handler.qualifiedName id cause) := by
  induction h with
  | settled => exact .inl ⟨_, rfl, hpass⟩
  | exhausted hdue =>
    have hlt := lt_of_due hclimbing hforced hdue
    omega
  | stopped hdue hnext =>
    obtain ⟨handler, hcalled, entry, hentry, hreturned⟩ := nextPass_error hnext
    refine .inr ⟨_, List.mem_cons_self, handler, hcalled, ?_⟩
    cases hreturned with
    | failed cause => exact ⟨cause, nextEntry_result hnext, rfl⟩
    | strayed after detail hends hstrayed =>
      -- A confined handler keeps the identifier.
      have hmem : handler ∈ nodes.map (·.handler) := hregistry ▸ mem_of_mem_calledIn hcalled
      obtain ⟨node, hnode, rfl⟩ := List.mem_map.1 hmem
      have hkept := (hends _ fun cx => hconfined node hnode cx _ entry).1
      exact absurd (hkept.trans (hentry hid)) hstrayed
  | passed hdue hnext hrest ih =>
    have hlt := lt_of_due hclimbing hforced hdue
    have hclimbing' := climbing_next hregistry hconfined hascending hclimbing hnext
    obtain ⟨s₁, hrun, -⟩ := dispatchAll_of_nextPass hnext
    have hlater := ih hclimbing' (fun h => by cases h) (id_of_dispatchAll hrun hid) (by omega)
      (by omega)
    refine hlater.imp_right ?_
    rintro ⟨p, hp, hfailed⟩
    exact ⟨p, List.mem_cons_of_mem _ hp, hfailed⟩

/-- What is left of a list in which `pass` have gone before, when `n` are dropped of them all. -/
theorem forall_mem_drop_cons {α : Type} {P : α → Prop} {x : α} {rest : List α} {n pass : Nat}
    (hx : n ≤ pass → P x) (hrest : ∀ y ∈ rest.drop (n - (pass + 1)), P y) :
    ∀ y ∈ (x :: rest).drop (n - pass), P y := by
  rcases Nat.lt_or_ge pass n with hlt | hle
  · have hsucc : n - pass = n - (pass + 1) + 1 := by omega
    rw [hsucc, List.drop_succ_cons]
    exact hrest
  · have hzero : n - (pass + 1) = 0 := by omega
    rw [hzero, List.drop_zero] at hrest
    rw [Nat.sub_eq_zero_of_le hle, List.drop_zero]
    exact List.forall_mem_cons.2 ⟨hx hle, hrest⟩

/-- After the first `N` passes nobody is called. -/
theorem Course.called_drop
    (h : Course engine id pass baseline proposed queue forced left s account result s')
    (hregistry : engine.registry.handlers E = nodes.map (·.handler))
    (hconfined : ∀ node ∈ nodes, node.Confined) (hascending : Ranked.Ascending nodes)
    (hclimbing : Climbing nodes id pass baseline proposed s.session) :
    ∀ p ∈ account.drop (nodes.length - pass), p.called = [] := by
  induction h with
  | settled | exhausted =>
    rw [List.drop_nil]
    exact List.forall_mem_nil _
  | stopped hdue hnext =>
    refine forall_mem_drop_cons (fun hle => called_eq_nil hregistry hascending hclimbing hle) ?_
    rw [List.drop_nil]
    exact List.forall_mem_nil _
  | passed hdue hnext hrest ih =>
    refine forall_mem_drop_cons (fun hle => called_eq_nil hregistry hascending hclimbing hle) ?_
    exact ih (climbing_next hregistry hconfined hascending hclimbing hnext)

/-- **Handlers that cannot feed each other in circles converge.** Let every handler of a type keep
the identifier and the fields it may not write, and let the handlers have ranks such that one that
may write a field stands below every one that reacts to it. Then, in whatever order they are
registered, whatever the session skips, forces or has run before, and whatever the records are, a
run that is allowed one pass more than there are handlers is never stopped by the limit: it
converges within that many passes, unless a handler fails of its own. After the first `N` passes no
handler is called. -/
theorem run_of_ascending (engine : Engine β σ) (nodes : List (Ranked σ E))
    (hregistry : engine.registry.handlers E = nodes.map (·.handler))
    (hconfined : ∀ node ∈ nodes, node.Confined) (hascending : Ranked.Ascending nodes)
    (hlimit : nodes.length + 1 ≤ engine.config.maxPasses.toNat) (baseline proposed : Record E)
    (forceFirst : Bool) (s : Scope β σ) :
    ((∃ out, ((run engine baseline proposed forceFirst).run s).1 = .ok out ∧
        out.passes ≤ nodes.length + 1) ∨
      ∃ p ∈ passes engine baseline proposed forceFirst s, ∃ handler ∈ p.called, ∃ cause,
        p.result = .error (.handler handler.qualifiedName proposed.id cause) ∧
        ((run engine baseline proposed forceFirst).run s).1 =
          .error (.handler handler.qualifiedName proposed.id cause)) ∧
    ∀ p ∈ (passes engine baseline proposed forceFirst s).drop nodes.length, p.called = [] := by
  have hcourse := course_of_runFrom (Prod.eta
    ((run engine baseline proposed forceFirst).run s)).symm
  have hclimbing : Climbing nodes proposed.id 0 baseline proposed s.session := climbing_zero _
  constructor
  · exact hcourse.of_ascending hregistry hconfined hascending hclimbing (fun _ => rfl) rfl
      (Nat.zero_le _) (by omega)
  · exact hcourse.called_drop hregistry hconfined hascending hclimbing

end Runs

end Convergence

/-! ## A change handed on -/

def relayType : EntityType where
  name := "relay"
  fields := [{ name := "id", role := some .identifier, type := .text },
    { name := "first", type := .boolean }, { name := "second", type := .boolean },
    { name := "third", type := .boolean }]

def relay (first second third : Bool) : Record relayType :=
  ⟨[.text "a", .boolean first, .boolean second, .boolean third], ⟨rfl, rfl, rfl, rfl, trivial⟩⟩

/-- Copies a field to another one whenever it changed. -/
def copies (name : String) (source target : Nat) : Handler Unit relayType where
  name
  trigger := some (.ofIndices 4 [source])
  function _ _ proposed := .done (proposed.setField target (proposed.field source))

/-- The handler that has to wait is registered first. -/
def relayNodes : List (Ranked Unit relayType) :=
  [⟨copies "third_from_second" 2 3, .ofIndices 4 [3], 1⟩,
    ⟨copies "second_from_first" 1 2, .ofIndices 4 [2], 0⟩]

def relayEngine : Engine Memory Unit where
  registry := ⟨relayNodes.map fun node => ⟨relayType, node.handler⟩⟩
  backend := .memory
  config := { maxPasses := 3 }
  nesting := 0

theorem copies_confined (name : String) (source target rank : Nat) (htarget : 0 < target) :
    (⟨copies name source target, .ofIndices 4 [target], rank⟩ :
      Ranked Unit relayType).Confined := by
  intro cx before proposed
  change (HandlerProgram.done (proposed.setField target (proposed.field source)) :
    HandlerProgram Unit relayType).Ends _
  cases hset : proposed.setField target (proposed.field source) with
  | error failure => trivial
  | ok after =>
    obtain ⟨f, w, hf, -, hfield⟩ := Record.field_of_setField hset
    have hlt : target < 4 := (List.getElem?_eq_some_iff.1 hf).1
    constructor
    · change Record.idText (after.field 0) = Record.idText (proposed.field 0)
      rw [hfield, if_neg (Nat.ne_of_lt htarget)]
    · intro i hi
      have hne : i ≠ target := by
        rintro rfl
        simp [FieldMask.contains_ofIndices, hlt] at hi
      rw [hfield, if_neg hne, Value.agrees_refl]

theorem relay_converges :
    relayNodes.length + 1 ≤ relayEngine.config.maxPasses.toNat ∧
      (∃ out, ((Convergence.run relayEngine (relay false false false) (relay true false false)
          false).run switchScope).1 = .ok out ∧ out.passes ≤ 3) ∧
      ∀ p ∈ (Convergence.passes relayEngine (relay false false false) (relay true false false) false
        switchScope).drop 2, p.called = [] := by
  have hregistry : relayEngine.registry.handlers relayType = relayNodes.map (·.handler) := rfl
  have hconfined : ∀ node ∈ relayNodes, node.Confined :=
    List.forall_mem_cons.2 ⟨copies_confined _ 2 3 1 (by decide),
      List.forall_mem_singleton.2 (copies_confined _ 1 2 0 (by decide))⟩
  have hascending : Ranked.Ascending relayNodes := by
    unfold Ranked.Ascending
    decide
  have hlimit : relayNodes.length + 1 ≤ relayEngine.config.maxPasses.toNat := by decide
  obtain ⟨hend, hquiet⟩ := Convergence.run_of_ascending relayEngine relayNodes hregistry hconfined
    hascending hlimit (relay false false false) (relay true false false) false switchScope
  refine ⟨hlimit, ?_, hquiet⟩
  rcases hend with hconverged | ⟨p, -, handler, -, cause, -, hfailed⟩
  · exact hconverged
  · -- No handler fails here.
    have hok : ((Convergence.run relayEngine (relay false false false) (relay true false false)
        false).run switchScope).1.isOk = true := by decide +kernel
    rw [hfailed] at hok
    cases hok

end RecordEngine
