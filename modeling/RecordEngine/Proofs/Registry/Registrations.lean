import RecordEngine.Proofs.Convergence.Passes
import RecordEngine.Proofs.Record.Membership
import RecordEngine.Proofs.Schema.Validation
/-!
What a registry holds.

A registry is filled by calls, some of which are refused. The calls that were not (`taken`) are all
there is to it: the handlers of a type and the list of names are both read off them
(`Holds`), and so is which calls are refused from then on (`ask_cases`). The induction over the calls
carries `Holds` and nothing else.

Registrations in one list are the plainest form of this. `Tables` is the other one, with a table of
handlers for each type and the names in a list beside the tables; a table is there as soon as a
handler for its type gets past the checks of its declaration, whether or not its name is free. The
two answer and show the same (`Shows.ask`).
-/

set_option autoImplicit false

namespace RecordEngine

variable {β σ : Type}

/-- A request to take a handler into a registry. -/
structure RegistryCall (σ : Type) where
  entity : EntityType
  name : String
  trigger : Option (List String)
  function : HandlerContext → Record entity → Record entity → HandlerProgram σ entity

namespace RegistryCall

/-- The fields that are named as triggers. -/
def mask? (call : RegistryCall σ) : Option FieldMask :=
  call.trigger.map fun names =>
    .ofIndices call.entity.schema.fieldCount (names.filterMap call.entity.schema.fieldIndex?)

def registration (call : RegistryCall σ) : Registration σ :=
  ⟨call.entity, ⟨call.name, call.mask?, call.function⟩⟩

def qualifiedName (call : RegistryCall σ) : String := call.entity.name ++ "." ++ call.name

/-- The type is valid, and the triggers, if there are any, are fields of it. -/
structure Declared (call : RegistryCall σ) : Prop where
  valid : call.entity.schema.validate = .ok ()
  nonempty : call.trigger ≠ some []
  known (names : List String) (h : call.trigger = some names) :
    ∀ name ∈ names, name ∈ call.entity.schema.fields.map (·.name)

/-- Why a call is refused, and what is said then; `earlier` are the calls taken before it. -/
inductive Refusal (earlier : List (RegistryCall σ)) (call : RegistryCall σ) : Failure → Prop
  | invalid {failure : Failure} (h : call.entity.schema.validate = .error failure) :
    Refusal earlier call
      (.registry (call.entity.name ++ " has an invalid schema: " ++ failure.message))
  | triggerless (h : call.trigger = some []) :
    Refusal earlier call (.registry (call.qualifiedName ++ " has an empty trigger list"))
  | unknown {known rest : List String} {name : String}
    (htrigger : call.trigger = some (known ++ name :: rest))
    (hknown : ∀ other ∈ known, other ∈ call.entity.schema.fields.map (·.name))
    (hname : name ∉ call.entity.schema.fields.map (·.name)) :
    Refusal earlier call (.registry (call.qualifiedName ++ ": " ++
      (Failure.validation
        ("Entity '" ++ call.entity.name ++ "' has no field '" ++ name ++ "'")).message))
  | taken {other : RegistryCall σ} (hother : other ∈ earlier)
    (hentity : other.entity = call.entity) (hname : other.name = call.name) :
    Refusal earlier call (.registry
      ("handler " ++ call.entity.name ++ "." ++ call.name ++ " is already registered"))

/-- There is a reason to refuse a call. -/
def Refused (earlier : List (RegistryCall σ)) (call : RegistryCall σ) : Prop :=
  call.entity.schema.validate ≠ .ok () ∨ call.trigger = some [] ∨
    (∃ names, call.trigger = some names ∧
      ∃ name ∈ names, name ∉ call.entity.schema.fields.map (·.name)) ∨
    ∃ other ∈ earlier, other.entity = call.entity ∧ other.name = call.name

theorem Refusal.refused {earlier : List (RegistryCall σ)} {call : RegistryCall σ}
    {failure : Failure} (h : Refusal earlier call failure) : Refused earlier call := by
  cases h with
  | invalid h => exact .inl (by simp [h])
  | triggerless h => exact .inr (.inl h)
  | unknown htrigger _ hname => exact .inr (.inr (.inl ⟨_, htrigger, _, by simp, hname⟩))
  | taken hother hentity hname => exact .inr (.inr (.inr ⟨_, hother, hentity, hname⟩))

end RegistryCall

/-! ## Triggers -/

namespace FieldMask

variable {schema : Schema}

theorem fieldIndex?_eq_none_iff {name : String} :
    schema.fieldIndex? name = none ↔ name ∉ schema.fields.map (·.name) := by
  rw [Schema.fieldIndex?, List.findIdx?_eq_none_iff]
  simp

/-- Names are looked up one after another; all are found, or one is the first that is not. -/
theorem foldlM_setNamed_cases (schema : Schema) (names : List String) (start : FieldMask) :
    ((∀ name ∈ names, name ∈ schema.fields.map (·.name)) ∧
        names.foldlM (setNamed schema) start =
          .ok ((names.filterMap schema.fieldIndex?).foldl set start)) ∨
      ∃ known name rest, names = known ++ name :: rest ∧
        (∀ other ∈ known, other ∈ schema.fields.map (·.name)) ∧
        name ∉ schema.fields.map (·.name) ∧
        names.foldlM (setNamed schema) start =
          .error (.validation ("Entity '" ++ schema.name ++ "' has no field '" ++ name ++ "'")) := by
  induction names generalizing start with
  | nil => exact .inl ⟨by simp, rfl⟩
  | cons name rest ih =>
    rw [List.foldlM_cons, setNamed, List.filterMap_cons]
    cases hindex : schema.fieldIndex? name with
    | none => exact .inr ⟨[], name, rest, rfl, by simp, fieldIndex?_eq_none_iff.1 hindex, rfl⟩
    | some index =>
      have hmem : name ∈ schema.fields.map (·.name) := by
        by_contra hnot
        simp [fieldIndex?_eq_none_iff.2 hnot] at hindex
      rcases ih (start.set index) with ⟨hall, hfold⟩ | ⟨known, other, rest', rfl, hknown, hother, hfold⟩
      · exact .inl ⟨List.forall_mem_cons.2 ⟨hmem, hall⟩, hfold⟩
      · exact .inr ⟨name :: known, other, rest', rfl, List.forall_mem_cons.2 ⟨hmem, hknown⟩,
          hother, hfold⟩

end FieldMask

namespace RegistryCall

variable {call : RegistryCall σ}

/-- The triggers make a mask, or there is something wrong with them. -/
theorem triggerMask_cases (earlier : List (RegistryCall σ)) (call : RegistryCall σ) :
    ((call.trigger ≠ some [] ∧ ∀ names, call.trigger = some names →
          ∀ name ∈ names, name ∈ call.entity.schema.fields.map (·.name)) ∧
        Registry.triggerMask call.entity call.name call.trigger = .ok call.mask?) ∨
      ∃ failure, Refusal earlier call failure ∧
        Registry.triggerMask call.entity call.name call.trigger = .error failure := by
  obtain ⟨entity, name, trigger, function⟩ := call
  match trigger with
  | none => exact .inl ⟨⟨by simp, by simp⟩, rfl⟩
  | some [] => exact .inr ⟨_, .triggerless rfl, rfl⟩
  | some (first :: rest) =>
    rcases FieldMask.foldlM_setNamed_cases entity.schema (first :: rest)
      (.empty entity.schema.fieldCount) with
      ⟨hall, hfold⟩ | ⟨known, other, rest', hsplit, hknown, hother, hfold⟩
    · left
      refine ⟨⟨by simp, ?_⟩, ?_⟩
      · rintro _ ⟨⟩
        exact hall
      · simp only [Registry.triggerMask, FieldMask.ofNames_eq, hfold]
        rfl
    · right
      refine ⟨_, .unknown (congrArg some hsplit) hknown hother, ?_⟩
      simp only [Registry.triggerMask, FieldMask.ofNames_eq, hfold]
      rfl

/-- The mask of a call that was in order has the fields named, of which there are some. -/
theorem Declared.mask (h : call.Declared) {names : List String} (hnames : call.trigger = some names) :
    ∃ mask, call.mask? = some mask ∧ mask.isEmpty = false ∧
      mask.len = call.entity.schema.fieldCount ∧
      ∀ i, mask.contains i = true ↔
        ∃ name ∈ names, call.entity.schema.fieldName? i = some name := by
  have horderly := (Schema.validate_ok_iff.1 h.valid).orderly
  let mask : FieldMask := .ofIndices call.entity.schema.fieldCount
    (names.filterMap call.entity.schema.fieldIndex?)
  have hmembers (i : Nat) : mask.contains i = true ↔
      ∃ name ∈ names, call.entity.schema.fieldName? i = some name := by
    have hlt {name : String} (hname : call.entity.schema.fieldName? i = some name) :
        i < call.entity.schema.fieldCount := (horderly.named_iff i).1 ⟨name, hname⟩
    simp only [mask, FieldMask.contains_ofIndices, Bool.and_eq_true, decide_eq_true_eq,
      List.mem_filterMap, horderly.index_iff]
    constructor
    · rintro ⟨-, hfound⟩
      exact hfound
    · rintro ⟨name, hmem, hname⟩
      exact ⟨hlt hname, name, hmem, hname⟩
  refine ⟨mask, by rw [mask?, hnames]; rfl, ?_, FieldMask.len_ofIndices _ _, hmembers⟩
  cases hempty : mask.isEmpty with
  | false => rfl
  | true =>
    -- The first name is a field, and its flag is set.
    cases names with
    | nil => exact absurd hnames h.nonempty
    | cons first rest =>
      obtain ⟨i, hi⟩ : ∃ i, call.entity.schema.fieldIndex? first = some i := by
        rw [← Option.ne_none_iff_exists', Ne, FieldMask.fieldIndex?_eq_none_iff, not_not]
        exact h.known _ hnames first List.mem_cons_self
      have hset : mask.contains i = true :=
        (hmembers i).2 ⟨first, List.mem_cons_self, (horderly.index_iff i first).1 hi⟩
      rw [FieldMask.isEmpty_iff.1 hempty i] at hset
      exact absurd hset (by decide)

/-- A call gives a handler for its own type, and for no other. -/
theorem of_handlerFor? {E : EntityType} {handler : Handler σ E}
    (h : call.registration.handlerFor? E = some handler) :
    call.entity = E ∧ handler.name = call.name ∧ handler.trigger = call.mask? := by
  unfold Registration.handlerFor? at h
  split at h
  · next hentity =>
    cases hentity
    rw [← Option.some.inj h]
    exact ⟨rfl, rfl, rfl⟩
  · cases h

end RegistryCall

/-! ## Calls and what is taken -/

namespace Registry

variable {registry registry' : Registry σ} {calls earlier : List (RegistryCall σ)}
  {call : RegistryCall σ} {failure : Failure}

def ask (registry : Registry σ) (call : RegistryCall σ) : Except Failure (Registry σ) :=
  registry.register call.entity call.name call.trigger call.function

/-- What a call comes to, one check after another. -/
theorem ask_eq (registry : Registry σ) (call : RegistryCall σ) :
    registry.ask call =
      match call.entity.schema.validate with
      | .error failure =>
        .error (.registry (call.entity.name ++ " has an invalid schema: " ++ failure.message))
      | .ok () =>
        match triggerMask call.entity call.name call.trigger with
        | .error failure => .error failure
        | .ok mask =>
          if (registry.handlers call.entity).any (·.name == call.name) then
            .error (.registry
              ("handler " ++ call.entity.name ++ "." ++ call.name ++ " is already registered"))
          else
            .ok ⟨registry.registrations ++ [⟨call.entity, ⟨call.name, mask, call.function⟩⟩]⟩ := by
  unfold ask register
  cases call.entity.schema.validate with
  | error failure => rfl
  | ok _ =>
    cases triggerMask call.entity call.name call.trigger with
    | error failure => rfl
    | ok mask => rfl

/-- The registry after a call. When the call was refused it is the one there was. -/
def step (registry : Registry σ) (call : RegistryCall σ) : Registry σ :=
  match registry.ask call with
  | .ok registry' => registry'
  | .error _ => registry

/-- The registry after a sequence of calls. -/
def after (registry : Registry σ) (calls : List (RegistryCall σ)) : Registry σ :=
  calls.foldl step registry

/-- The calls of a sequence that are not refused. -/
def taken (registry : Registry σ) : List (RegistryCall σ) → List (RegistryCall σ)
  | [] => []
  | call :: rest =>
    match registry.ask call with
    | .ok registry' => call :: registry'.taken rest
    | .error _ => registry.taken rest

/-- The registry has the handlers of some calls, each of which was in order and had a name that no
other one has for its type. -/
structure Holds (registry : Registry σ) (earlier : List (RegistryCall σ)) : Prop where
  registrations : registry.registrations = earlier.map (·.registration)
  declared : ∀ call ∈ earlier, call.Declared
  distinct : earlier.Pairwise fun a b => a.entity = b.entity → a.name ≠ b.name

theorem holds_empty : (empty : Registry σ).Holds [] := ⟨rfl, by simp, .nil⟩

theorem Holds.handlers (h : registry.Holds earlier) (E : EntityType) :
    registry.handlers E = earlier.filterMap (·.registration.handlerFor? E) := by
  rw [Registry.handlers, h.registrations, List.filterMap_map]
  rfl

theorem Holds.any_name (h : registry.Holds earlier) (E : EntityType) (name : String) :
    (registry.handlers E).any (·.name == name) = true ↔
      ∃ other ∈ earlier, other.entity = E ∧ other.name = name := by
  rw [h.handlers, List.any_eq_true]
  constructor
  · rintro ⟨handler, hmem, hname⟩
    obtain ⟨other, hother, hfor⟩ := List.mem_filterMap.1 hmem
    obtain ⟨hentity, hsame, -⟩ := RegistryCall.of_handlerFor? hfor
    exact ⟨other, hother, hentity, hsame.symm.trans (eq_of_beq hname)⟩
  · rintro ⟨other, hother, rfl, rfl⟩
    exact ⟨_, List.mem_filterMap.2 ⟨other, hother, dif_pos rfl⟩, beq_self_eq_true _⟩

/-- A call is taken and adds its handler, or there is a reason to refuse it. -/
theorem Holds.ask_cases (h : registry.Holds earlier) (call : RegistryCall σ) :
    ((call.Declared ∧ ∀ other ∈ earlier, other.entity = call.entity → other.name ≠ call.name) ∧
        registry.ask call = .ok ⟨registry.registrations ++ [call.registration]⟩) ∨
      ∃ failure, call.Refusal earlier failure ∧ registry.ask call = .error failure := by
  rw [ask_eq]
  cases hvalid : call.entity.schema.validate with
  | error failure => exact .inr ⟨_, .invalid hvalid, rfl⟩
  | ok _ =>
    rcases call.triggerMask_cases earlier with ⟨⟨hnonempty, hknown⟩, hmask⟩ |
      ⟨failure, hrefusal, hmask⟩
    · rw [hmask]
      by_cases hname : (registry.handlers call.entity).any (·.name == call.name) = true
      · right
        obtain ⟨other, hother, hentity, hsame⟩ := (h.any_name _ _).1 hname
        exact ⟨_, .taken hother hentity hsame, if_pos hname⟩
      · left
        refine ⟨⟨⟨hvalid, hnonempty, hknown⟩, ?_⟩, if_neg hname⟩
        intro other hother hentity hsame
        exact hname ((h.any_name _ _).2 ⟨other, hother, hentity, hsame⟩)
    · right
      rw [hmask]
      exact ⟨failure, hrefusal, rfl⟩

/-- A call that is in order and has a new name is not refused. -/
theorem not_refused (hdeclared : call.Declared)
    (hfresh : ∀ other ∈ earlier, other.entity = call.entity → other.name ≠ call.name) :
    ¬ call.Refused earlier := by
  rintro (hvalid | htrigger | ⟨names, hnames, name, hname, hunknown⟩ |
    ⟨other, hother, hentity, hname⟩)
  · exact hvalid hdeclared.valid
  · exact hdeclared.nonempty htrigger
  · exact hunknown (hdeclared.known names hnames name hname)
  · exact hfresh other hother hentity hname

/-- A call is refused exactly if there is a reason to, and the reason is given. -/
theorem Holds.ask_error_iff (h : registry.Holds earlier) :
    (∃ failure, registry.ask call = .error failure) ↔ call.Refused earlier := by
  rcases h.ask_cases call with ⟨⟨hdeclared, hfresh⟩, hok⟩ | ⟨failure, hrefusal, herror⟩
  · exact iff_of_false (by simp [hok]) (not_refused hdeclared hfresh)
  · exact iff_of_true ⟨failure, herror⟩ hrefusal.refused

theorem Holds.refusal (h : registry.Holds earlier) (herror : registry.ask call = .error failure) :
    call.Refusal earlier failure := by
  rcases h.ask_cases call with ⟨-, hok⟩ | ⟨failure', hrefusal, herror'⟩
  · rw [hok] at herror
    cases herror
  · rw [herror] at herror'
    rwa [Except.error.inj herror']

/-- A registry that took a call holds it after the others. -/
theorem Holds.ask (h : registry.Holds earlier) (hok : registry.ask call = .ok registry') :
    registry'.Holds (earlier ++ [call]) := by
  rcases h.ask_cases call with ⟨⟨hdeclared, hfresh⟩, hok'⟩ | ⟨failure, -, herror⟩
  · obtain rfl := Except.ok.inj (hok.symm.trans hok')
    constructor
    case registrations => simp [h.registrations]
    case declared =>
      intro other hother
      rcases List.mem_append.1 hother with hother | hother
      · exact h.declared other hother
      · rw [List.mem_singleton.1 hother]
        exact hdeclared
    case distinct =>
      rw [List.pairwise_append]
      refine ⟨h.distinct, List.pairwise_singleton .., ?_⟩
      intro other hother last hlast
      rw [List.mem_singleton.1 hlast]
      exact hfresh other hother
  · rw [hok] at herror
    cases herror

/-- **What a registry holds.** After any sequence of calls it holds those that were taken, besides
what it held. -/
theorem Holds.after (h : registry.Holds earlier) (calls : List (RegistryCall σ)) :
    (registry.after calls).Holds (earlier ++ registry.taken calls) := by
  induction calls generalizing registry earlier with
  | nil =>
    rw [taken, List.append_nil]
    exact h
  | cons call rest ih =>
    rw [Registry.after, List.foldl_cons, step, taken]
    cases hask : registry.ask call with
    | error failure => exact ih h
    | ok registry' =>
      rw [List.append_cons]
      exact ih (h.ask hask)

theorem after_append (registry : Registry σ) (calls more : List (RegistryCall σ)) :
    registry.after (calls ++ more) = (registry.after calls).after more := List.foldl_append

/-- The handlers of a type have distinct names. -/
theorem Holds.nodup_names (h : registry.Holds earlier) (E : EntityType) :
    ((registry.handlers E).map (·.name)).Nodup := by
  rw [h.handlers, List.Nodup, List.pairwise_map, List.pairwise_filterMap]
  refine h.distinct.imp ?_
  intro a b hab handler hfor handler' hfor'
  obtain ⟨hentity, hname, -⟩ := RegistryCall.of_handlerFor? hfor
  obtain ⟨hentity', hname', -⟩ := RegistryCall.of_handlerFor? hfor'
  rw [hname, hname']
  exact hab (hentity.trans hentity'.symm)

theorem Holds.names (h : registry.Holds earlier) :
    registry.names = earlier.map (·.qualifiedName) := by
  rw [Registry.names, h.registrations, List.map_map]
  rfl

theorem Holds.length (h : registry.Holds earlier) : registry.length = earlier.length := by
  rw [Registry.length, h.registrations, List.length_map]

/-- The triggers of a handler are as many flags as its type has fields. -/
theorem Holds.len_trigger (h : registry.Holds earlier) {E : EntityType} {handler : Handler σ E}
    (hmem : handler ∈ registry.handlers E) {mask : FieldMask} (hmask : handler.trigger = some mask) :
    mask.len = E.schema.fieldCount := by
  rw [h.handlers] at hmem
  obtain ⟨call, hcall, hfor⟩ := List.mem_filterMap.1 hmem
  obtain ⟨rfl, -, htrigger⟩ := RegistryCall.of_handlerFor? hfor
  rw [htrigger] at hmask
  obtain ⟨names, hnames, -⟩ := Option.map_eq_some_iff.1 hmask
  obtain ⟨mask', hmask', -, hlen, -⟩ := (h.declared call hcall).mask hnames
  rwa [Option.some.inj (hmask.symm.trans hmask')]

/-- With one handler more, its type has it at the end. -/
theorem handlers_snoc (registry : Registry σ) (r : Registration σ) (E : EntityType) :
    (Registry.mk (registry.registrations ++ [r])).handlers E =
      registry.handlers E ++ (r.handlerFor? E).toList := by
  simp only [Registry.handlers, List.filterMap_append]
  cases hfor : r.handlerFor? E <;> simp [hfor]

end Registry

/-! ## The same in tables -/

/-- The handlers in a table for each type, and the names of all of them beside the tables. -/
structure Tables (σ : Type) where
  tables : List ((E : EntityType) × List (Handler σ E))
  names : List String

namespace Tables

def empty : Tables σ := ⟨[], []⟩

/-- The first table for a type. -/
def find? (E : EntityType) :
    List ((E : EntityType) × List (Handler σ E)) → Option (List (Handler σ E))
  | [] => none
  | ⟨F, table⟩ :: rest => if h : F = E then some (h ▸ table) else find? E rest

/-- The handlers for one entity type. -/
def table (t : Tables σ) (E : EntityType) : List (Handler σ E) := (find? E t.tables).getD []

/-- The tables with one for a type, which is empty if there was none. -/
def opened (t : Tables σ) (E : EntityType) : Tables σ :=
  match find? E t.tables with
  | some _ => t
  | none => { t with tables := t.tables ++ [⟨E, []⟩] }

/-- The first table for a type with a handler at its end. -/
def pushIn {E : EntityType} (handler : Handler σ E) :
    List ((E : EntityType) × List (Handler σ E)) → List ((E : EntityType) × List (Handler σ E))
  | [] => []
  | ⟨F, table⟩ :: rest =>
    if h : E = F then ⟨F, table ++ [h ▸ handler]⟩ :: rest else ⟨F, table⟩ :: pushIn handler rest

/-- Answers a call. The table of the type is there by the time the name is looked up in it. -/
def ask (t : Tables σ) (call : RegistryCall σ) : Except Failure Unit × Tables σ :=
  match call.entity.schema.validate with
  | .error failure =>
    (.error (.registry (call.entity.name ++ " has an invalid schema: " ++ failure.message)), t)
  | .ok () =>
    match Registry.triggerMask call.entity call.name call.trigger with
    | .error failure => (.error failure, t)
    | .ok mask =>
      let t := t.opened call.entity
      if (t.table call.entity).any (·.name == call.name) then
        (.error (.registry
          ("handler " ++ call.entity.name ++ "." ++ call.name ++ " is already registered")), t)
      else
        (.ok (),
          { tables := pushIn ⟨call.name, mask, call.function⟩ t.tables
            names := t.names ++ [call.qualifiedName] })

def after (t : Tables σ) (calls : List (RegistryCall σ)) : Tables σ :=
  calls.foldl (fun t call => (t.ask call).2) t

/-- Tables and a registry that show the same handlers and names. -/
structure Shows (t : Tables σ) (registry : Registry σ) : Prop where
  table (E : EntityType) : t.table E = registry.handlers E
  names : t.names = registry.names

variable {t : Tables σ} {registry : Registry σ} {E F : EntityType}

theorem shows_empty : (empty : Tables σ).Shows .empty := ⟨fun _ => rfl, rfl⟩

theorem find?_snoc (tables : List ((E : EntityType) × List (Handler σ E))) :
    find? F (tables ++ [⟨E, []⟩]) = (find? F tables).or (if E = F then some [] else none) := by
  induction tables with
  | nil =>
    by_cases hEF : E = F
    · subst hEF
      simp [find?]
    · simp [find?, hEF]
  | cons entry rest ih =>
    obtain ⟨G, table⟩ := entry
    by_cases hGF : G = F
    · simp [find?, hGF]
    · simp [find?, hGF, ih]

/-- An empty table shows nothing. -/
theorem table_opened : (t.opened E).table F = t.table F := by
  unfold opened
  split
  · rfl
  · next hnone =>
    simp only [table, find?_snoc]
    by_cases hEF : E = F
    · subst hEF
      simp [hnone]
    · simp [hEF]

theorem find?_opened : ∃ table, find? E (t.opened E).tables = some table := by
  unfold opened
  split
  · next table hsome => exact ⟨table, hsome⟩
  · next hnone => exact ⟨[], by simp [find?_snoc, hnone]⟩

/-- A handler goes into the table of its type and no other. -/
theorem find?_pushIn (handler : Handler σ E)
    {tables : List ((E : EntityType) × List (Handler σ E))}
    (h : ∃ table, find? E tables = some table) :
    (find? F (pushIn handler tables)).getD [] =
      (find? F tables).getD [] ++ ((Registration.mk E handler).handlerFor? F).toList := by
  induction tables with
  | nil =>
    obtain ⟨table, hsome⟩ := h
    cases hsome
  | cons entry rest ih =>
    obtain ⟨G, table⟩ := entry
    by_cases hEG : E = G
    · subst hEG
      by_cases hEF : E = F
      · subst hEF
        simp [pushIn, find?, Registration.handlerFor?]
      · simp [pushIn, find?, Registration.handlerFor?, hEF]
    · by_cases hGF : G = F
      · subst hGF
        simp [pushIn, find?, Registration.handlerFor?, hEG]
      · have hrest : ∃ table, find? E rest = some table := by
          simpa [find?, Ne.symm hEG] using h
        simpa [pushIn, find?, hEG, hGF] using ih hrest

/-- Both answer a call alike and show the same after it. -/
theorem Shows.ask (h : t.Shows registry) (call : RegistryCall σ) :
    (t.ask call).1 = (registry.ask call).map (fun _ => ()) ∧
      (t.ask call).2.Shows (registry.step call) := by
  have hopened : (t.opened call.entity).table call.entity = registry.handlers call.entity := by
    rw [table_opened, h.table]
  have hnames : (t.opened call.entity).names = t.names := by
    unfold opened
    split <;> rfl
  rw [Registry.step, Registry.ask_eq, Tables.ask]
  cases call.entity.schema.validate with
  | error failure => exact ⟨rfl, h⟩
  | ok _ =>
    cases Registry.triggerMask call.entity call.name call.trigger with
    | error failure => exact ⟨rfl, h⟩
    | ok mask =>
      dsimp only
      rw [hopened]
      by_cases hname : (registry.handlers call.entity).any (·.name == call.name) = true
      · rw [if_pos hname, if_pos hname]
        refine ⟨rfl, ⟨?_, hnames.trans h.names⟩⟩
        intro E
        rw [table_opened, h.table]
      · rw [if_neg hname, if_neg hname]
        refine ⟨rfl, ⟨?_, ?_⟩⟩
        · intro E
          rw [Registry.handlers_snoc, ← h.table, ← table_opened (t := t) (E := call.entity)]
          exact find?_pushIn _ find?_opened
        · dsimp only
          rw [hnames, h.names, Registry.names, Registry.names, List.map_append]
          rfl

theorem Shows.after (h : t.Shows registry) (calls : List (RegistryCall σ)) :
    (t.after calls).Shows (registry.after calls) := by
  induction calls generalizing t registry with
  | nil => exact h
  | cons call rest ih => exact ih (h.ask call).2

end Tables

/-! ## Masks of one length -/

namespace Convergence

variable {E : EntityType}

/-- The masks that are combined, trigger and change, when handlers take their turns one after
another. -/
def combinedIn (engine : Engine β σ) (id : String) (pass : Nat) (mask : FieldMask)
    (before : Record E) :
    List (Handler σ E) → Record E → DeferredWork σ → Scope β σ → List (FieldMask × FieldMask)
  | [], _, _, _ => []
  | handler :: rest, proposed, queue, s =>
    handler.trigger.toList.map (·, mask) ++
      match (dispatch engine handler id pass mask before proposed queue).run s with
      | (.ok (proposed, queue), s) => combinedIn engine id pass mask before rest proposed queue s
      | (.error _, _) => []

/-- The masks that are combined in the passes number `pass + 1` and on, of which `left` more are
allowed. -/
def combinedFrom (engine : Engine β σ) (id : String) (pass : Nat) (baseline proposed : Record E)
    (queue : DeferredWork σ) (forced : Bool) (left : Nat) (s : Scope β σ) :
    List (FieldMask × FieldMask) :=
  match left with
  | 0 => []
  | left + 1 =>
    let mask := FieldMask.diff baseline proposed
    if mask.isEmpty && !forced then []
    else
      combinedIn engine id (pass + 1) mask baseline (engine.registry.handlers E) proposed queue
          { s with world.trace := (s.world.trace.enter (.iteration E.name id (pass + 1))).2 } ++
        match (nextPass engine id pass baseline proposed queue).run s with
        | (.ok (after, queue), s) =>
          combinedFrom engine id (pass + 1) proposed after queue false left s
        | (.error _, _) => []

/-- The masks that are combined in a run. -/
def combined (engine : Engine β σ) (baseline proposed : Record E) (forceFirst : Bool)
    (s : Scope β σ) : List (FieldMask × FieldMask) :=
  combinedFrom engine proposed.id 0 baseline proposed .empty forceFirst
    engine.config.maxPasses.toNat s

variable {engine : Engine β σ} {id : String} {pass : Nat} {mask : FieldMask}
  {before baseline proposed : Record E} {queue : DeferredWork σ} {forced : Bool} {left : Nat}
  {s : Scope β σ} {pair : FieldMask × FieldMask}

theorem of_mem_combinedIn {handlers : List (Handler σ E)}
    (h : pair ∈ combinedIn engine id pass mask before handlers proposed queue s) :
    pair.2 = mask ∧ ∃ handler ∈ handlers, handler.trigger = some pair.1 := by
  induction handlers generalizing proposed queue s with
  | nil => cases h
  | cons handler rest ih =>
    rw [combinedIn] at h
    rcases List.mem_append.1 h with h | h
    · obtain ⟨trigger, htrigger, rfl⟩ := List.mem_map.1 h
      exact ⟨rfl, handler, List.mem_cons_self, Option.mem_toList.1 htrigger⟩
    · split at h
      · obtain ⟨hmask, found, hfound, htrigger⟩ := ih h
        exact ⟨hmask, found, List.mem_cons_of_mem _ hfound, htrigger⟩
      · cases h

/-- What is combined is the trigger of a handler with the difference of two records. -/
theorem of_mem_combinedFrom
    (h : pair ∈ combinedFrom engine id pass baseline proposed queue forced left s) :
    pair.2.len = E.schema.fieldCount ∧
      ∃ handler ∈ engine.registry.handlers E, handler.trigger = some pair.1 := by
  induction left generalizing pass baseline proposed queue forced s with
  | zero => cases h
  | succ left ih =>
    rw [combinedFrom] at h
    split at h
    · cases h
    · rcases List.mem_append.1 h with h | h
      · obtain ⟨hmask, hhandler⟩ := of_mem_combinedIn h
        refine ⟨?_, hhandler⟩
        rw [hmask]
        exact FieldMask.len_ofIndices _ _
      · split at h
        · exact ih h
        · cases h

end Convergence

/-! ## The registry as a whole -/

/-- **A registry holds exactly the registrations that succeeded.** -/
theorem Registry.holds_what_was_taken (calls : List (RegistryCall σ)) :
    (∀ call,
        ((∃ failure, (empty.after calls).ask call = .error failure) ↔
          call.Refused (empty.taken calls)) ∧
        (∀ failure, (empty.after calls).ask call = .error failure →
          call.Refusal (empty.taken calls) failure ∧
            empty.after (calls ++ [call]) = empty.after calls)) ∧
      (∀ E, (empty.after calls).handlers E =
          (empty.taken calls).filterMap (·.registration.handlerFor? E) ∧
        (((empty.after calls).handlers E).map (·.name)).Nodup) ∧
      (empty.after calls).names = (empty.taken calls).map (·.qualifiedName) ∧
      (empty.after calls).length = (empty.taken calls).length ∧
      (∀ call ∈ empty.taken calls, ∀ names, call.trigger = some names →
        ∃ mask, call.mask? = some mask ∧ mask.isEmpty = false ∧
          mask.len = call.entity.schema.fieldCount ∧
          ∀ i, mask.contains i = true ↔
            ∃ name ∈ names, call.entity.schema.fieldName? i = some name) ∧
      (Tables.empty.after calls).Shows (empty.after calls) ∧
      ∀ (β : Type) (engine : Engine β σ), engine.registry = empty.after calls →
        ∀ (E : EntityType) (baseline proposed : Record E) (forceFirst : Bool) (s : Scope β σ),
          ∀ pair ∈ Convergence.combined engine baseline proposed forceFirst s,
            pair.1.len = pair.2.len := by
  have hholds : (empty.after calls).Holds (empty.taken calls) := holds_empty.after calls
  refine ⟨?_, ?_, hholds.names, hholds.length, ?_, Tables.shows_empty.after calls, ?_⟩
  · intro call
    refine ⟨hholds.ask_error_iff, ?_⟩
    intro failure herror
    refine ⟨hholds.refusal herror, ?_⟩
    rw [after_append, Registry.after, List.foldl_cons, List.foldl_nil, step, herror]
  · intro E
    exact ⟨hholds.handlers E, hholds.nodup_names E⟩
  · intro call hcall names hnames
    exact (hholds.declared call hcall).mask hnames
  · intro β engine hregistry E baseline proposed forceFirst s pair hpair
    obtain ⟨hlen, handler, hhandler, htrigger⟩ := Convergence.of_mem_combinedFrom hpair
    rw [hregistry] at hhandler
    rw [hlen, hholds.len_trigger hhandler htrigger]

/-- A type of things that have a state. -/
def statefulType (name : String) : EntityType where
  name
  fields :=
    [{ name := "id", role := some .identifier, type := .text }, { name := "state", type := .text }]

/-- A request for a handler that does nothing. -/
def idleCall (entity : EntityType) (name : String) (trigger : Option (List String)) :
    RegistryCall Unit where
  entity
  name
  trigger
  function _ _ proposed := .done (.ok proposed)

/-- Two types with handlers of one name, and in between all that is refused. -/
def registeredCalls : List (RegistryCall Unit) :=
  [idleCall (statefulType "invoice") "void" (some ["state"]),
    idleCall ⟨"heap", []⟩ "void" none,
    idleCall (statefulType "invoice") "audit" (some []),
    idleCall (statefulType "invoice") "audit" (some ["state", "total"]),
    idleCall (statefulType "customer") "void" none,
    idleCall (statefulType "invoice") "void" none,
    idleCall (statefulType "invoice") "audit" (some ["id", "state", "id"])]

theorem Registry.holds_what_was_taken_desk :
    (Registry.empty.after registeredCalls).names = ["invoice.void", "customer.void", "invoice.audit"] ∧
      (∃ failure, (Registry.empty.after registeredCalls).ask
        (idleCall (statefulType "customer") "void" (some ["state"])) = .error failure) ∧
      (Tables.empty.after registeredCalls).Shows (Registry.empty.after registeredCalls) := by
  have hnames : (Registry.empty.after registeredCalls).names =
      ["invoice.void", "customer.void", "invoice.audit"] := by decide
  obtain ⟨hcalls, -, -, -, -, hshows, -⟩ := Registry.holds_what_was_taken registeredCalls
  refine ⟨hnames, (hcalls _).1.2 ?_, hshows⟩
  refine .inr (.inr (.inr ⟨idleCall (statefulType "customer") "void" none, ?_, rfl, rfl⟩))
  exact List.mem_cons_of_mem _ List.mem_cons_self

end RecordEngine
