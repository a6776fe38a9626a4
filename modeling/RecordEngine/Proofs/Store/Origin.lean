import RecordEngine.Proofs.Store.Conflict
/-!
Where rows come from.

A row is never removed, so at most one transaction that inserted it can ever be committed: any other
one that tried first looked at the row when it was not there yet, and the commit refuses it. That
transaction made the row, and every image of it goes back to what it inserted, by updates alone. The
images that other transactions staged of the row go back there as well, or to an insert of their own
that will never be committed.
-/

set_option autoImplicit false

namespace RecordEngine

/-- A transaction inserted a row. -/
def Inserted (tx : TxId) (key : RowKey) (row : Row) (events : List Event) : Prop :=
  (⟨.insert tx key row, .ok ()⟩ : Event) ∈ events

/-- A transaction made a row: it inserted it and was committed. -/
def Made (tx : TxId) (key : RowKey) (row : Row) (events : List Event) : Prop :=
  ∃ past future, events = past ++ ⟨.commit tx, .ok ()⟩ :: future ∧ Inserted tx key row past

variable {tx : TxId} {key : RowKey} {row : Row} {events : List Event} {e : Event}
  {R : Row → Row → Prop}

theorem inserted_snoc : Inserted tx key row (events ++ [e]) ↔
    Inserted tx key row events ∨ e = ⟨.insert tx key row, .ok ()⟩ := by
  simp only [Inserted, List.mem_append, List.mem_singleton, eq_comm]

theorem made_snoc : Made tx key row (events ++ [e]) ↔
    Made tx key row events ∨ (e.Commits tx ∧ Inserted tx key row events) := by
  constructor
  · rintro ⟨past, future, hsplit, hinserted⟩
    rcases snoc_eq_append_cons.1 hsplit with ⟨rfl, rfl, -⟩ | ⟨rest, -, rfl⟩
    · exact .inr ⟨rfl, hinserted⟩
    · exact .inl ⟨past, rest, rfl, hinserted⟩
  · rintro (⟨past, future, rfl, hinserted⟩ | ⟨rfl, hinserted⟩)
    · exact ⟨past, future ++ [e], by simp, hinserted⟩
    · exact ⟨events, [], rfl, hinserted⟩

theorem inserted_snoc_of_ne (h : e ≠ ⟨.insert tx key row, .ok ()⟩) :
    Inserted tx key row (events ++ [e]) ↔ Inserted tx key row events := by
  rw [inserted_snoc, or_iff_left h]

theorem made_snoc_of_not_commits (h : ¬ e.Commits tx) :
    Made tx key row (events ++ [e]) ↔ Made tx key row events := by
  rw [made_snoc, or_iff_left fun hboth => h hboth.1]

theorem made_snoc_commit {maker : TxId} :
    Made maker key row (events ++ [⟨.commit tx, .ok ()⟩]) ↔
      Made maker key row events ∨ (tx = maker ∧ Inserted tx key row events) := by
  rw [made_snoc]
  refine or_congr_right ⟨?_, ?_⟩
  · rintro ⟨hcommits, hins⟩
    obtain rfl : tx = maker := Call.commit.inj (congrArg Event.call hcommits)
    exact ⟨rfl, hins⟩
  · rintro ⟨rfl, hins⟩
    exact ⟨rfl, hins⟩

/-- The event keeps a relation between the images of a row and what it was inserted as: the row
inserted is related to itself, and an update leaves an image that is related to whatever the one
before it was. -/
def Event.Hands (key : RowKey) (R : Row → Row → Prop) (e : Event) : Prop :=
  match e with
  | ⟨.insert _ k row, .ok _⟩ => k = key → R row row
  | ⟨.update _ k fields, .ok _⟩ =>
    k = key → ∀ origin old row, R origin old → Store.overwrite key old fields = .ok row →
      R origin row
  | _ => True

namespace Store

/-- What is known, after some events, of where the images of a row come from. -/
structure Rooted (s : Store) (key : RowKey) (R : Row → Row → Prop) (events : List Event) :
    Prop where
  committed : ∀ row, s.committedRow? key = some row →
    ∃ maker origin, Made maker key origin events ∧ R origin row
  present : ∀ maker origin, Made maker key origin events → s.committedRow? key ≠ none
  single : ∀ maker origin maker' origin', Made maker key origin events →
    Made maker' key origin' events → maker = maker' ∧ origin = origin'
  once : ∀ tx origin origin', Inserted tx key origin events → Inserted tx key origin' events →
    origin = origin'
  issued : ∀ tx origin, Inserted tx key origin events → tx.number < s.nextTx
  /-- A transaction that inserted the row has staged it, and can only be committed as long as nobody
  has made it. -/
  own : ∀ tx t origin, s.transactions.get? tx = some t → Inserted tx key origin events →
    (∃ row, t.stagedRow? key = some row ∧ R origin row) ∧
      (s.Current t key → s.committedRow? key = none)
  staged : ∀ tx t row, s.transactions.get? tx = some t → t.stagedRow? key = some row →
    (∃ origin, Inserted tx key origin events) ∨
      ∃ maker origin, Made maker key origin events ∧ R origin row

theorem rooted_empty (key : RowKey) (R : Row → Row → Prop) : empty.Rooted key R [] where
  committed _ h := by cases h
  present _ _ h := by
    obtain ⟨past, future, hsplit, -⟩ := h
    simp at hsplit
  single _ _ _ _ h := by
    obtain ⟨past, future, hsplit, -⟩ := h
    simp at hsplit
  once _ _ _ h := by cases h
  issued _ _ h := by cases h
  own _ _ _ h := by cases h
  staged _ _ _ h := by cases h

variable {s s' : Store} {t : Transaction}

/-- An event that neither inserts nor publishes the row and changes no image of it. -/
theorem Rooted.elsewhere (h : s.Rooted key R events)
    (hinserts : ∀ tx row, e ≠ ⟨.insert tx key row, .ok ()⟩) (hcommits : ∀ tx, ¬ e.Commits tx)
    (hrows : s'.rows = s.rows) (hnext : s.nextTx ≤ s'.nextTx)
    (hopen : ∀ tx t', s'.transactions.get? tx = some t' →
      (s.nextTx ≤ tx.number ∧ t' = .start tx) ∨
        ∃ t, s.transactions.get? tx = some t ∧ t'.stagedRow? key = t.stagedRow? key ∧
          (s.Current t' key → s.Current t key)) :
    s'.Rooted key R (events ++ [e]) := by
  have hinserted (tx : TxId) (row : Row) :
      Inserted tx key row (events ++ [e]) ↔ Inserted tx key row events :=
    inserted_snoc_of_ne (hinserts tx row)
  have hmade (tx : TxId) (row : Row) : Made tx key row (events ++ [e]) ↔ Made tx key row events :=
    made_snoc_of_not_commits (hcommits tx)
  constructor
  · simpa only [committedRow?_congr hrows, hmade] using h.committed
  · simpa only [committedRow?_congr hrows, hmade] using h.present
  · simpa only [hmade] using h.single
  · simpa only [hinserted] using h.once
  · intro tx origin horigin
    exact Nat.lt_of_lt_of_le (h.issued tx origin ((hinserted tx origin).1 horigin)) hnext
  · intro tx t' origin hopen' horigin
    rw [hinserted] at horigin
    rcases hopen tx t' hopen' with ⟨hfresh, -⟩ | ⟨t, ht, hstaged, hcurrent⟩
    -- A transaction that was just opened has inserted nothing.
    · have := h.issued tx origin horigin
      omega
    · obtain ⟨hrow, hfree⟩ := h.own tx t origin ht horigin
      rw [hstaged, committedRow?_congr hrows]
      exact ⟨hrow, fun hnow => hfree (hcurrent ((current_congr hrows t' key).1 hnow))⟩
  · intro tx t' row hopen' hrow
    simp only [hinserted, hmade]
    rcases hopen tx t' hopen' with ⟨-, rfl⟩ | ⟨t, ht, hstaged, -⟩
    · cases hrow
    · exact h.staged tx t row ht (hstaged ▸ hrow)

/-- A change of one transaction that leaves the image of the row alone. -/
theorem Rooted.holding (h : s.Rooted key R events)
    (hinserts : ∀ tx row, e ≠ ⟨.insert tx key row, .ok ()⟩) (hcommits : ∀ tx, ¬ e.Commits tx)
    (hopen : s.transactions.get? tx = some t) {t' : Transaction}
    (hstaged : t'.stagedRow? key = t.stagedRow? key)
    (hcurrent : s.Current t' key → s.Current t key) :
    (s.holding tx t').Rooted key R (events ++ [e]) := by
  refine h.elsewhere hinserts hcommits rfl (Nat.le_refl _) fun other u hu => .inr ?_
  rw [get?_holding] at hu
  split at hu
  · next heq =>
    obtain rfl := Option.some.inj hu
    exact ⟨t, heq ▸ hopen, hstaged, hcurrent⟩
  · exact ⟨u, hu, rfl, id⟩

/-- The end of a transaction that publishes nothing. -/
theorem Rooted.without (h : s.Rooted key R events)
    (hinserts : ∀ tx row, e ≠ ⟨.insert tx key row, .ok ()⟩) (hcommits : ∀ tx, ¬ e.Commits tx) :
    (s.without tx).Rooted key R (events ++ [e]) := by
  refine h.elsewhere hinserts hcommits rfl (Nat.le_refl _) fun other u hu => .inr ?_
  rw [get?_without] at hu
  split at hu
  · cases hu
  · exact ⟨u, hu, rfl, id⟩

/-- A look at some row. -/
theorem Rooted.touched (hs : s.Sound) (h : s.Rooted key R events)
    (hinserts : ∀ tx row, e ≠ ⟨.insert tx key row, .ok ()⟩) (hcommits : ∀ tx, ¬ e.Commits tx)
    (hopen : s.transactions.get? tx = some t) (k : RowKey) :
    (s.holding tx (s.touched t k)).Rooted key R (events ++ [e]) :=
  h.holding hinserts hcommits hopen (Transaction.stagedRow?_touch t k key _)
    (current_touched hs hopen k key).1

/-- A write of another row. -/
theorem Rooted.apart (hs : s.Sound) (h : s.Rooted key R events)
    (hinserts : ∀ tx row, e ≠ ⟨.insert tx key row, .ok ()⟩) (hcommits : ∀ tx, ¬ e.Commits tx)
    (hopen : s.transactions.get? tx = some t) {k : RowKey} (hk : k ≠ key) {change : Change}
    (hchange : change.written? = some (k, row)) :
    (s.holding tx ((s.touched t k).stage change)).Rooted key R (events ++ [e]) := by
  refine h.holding hinserts hcommits hopen ?_ (current_touched hs hopen k key).1
  rw [stagedRow?_wrote t hchange, if_neg hk]

/-- The image that a transaction sees goes back to an insert of its own or to what was made. -/
theorem Rooted.seen_origin (h : s.Rooted key R events) (hopen : s.transactions.get? tx = some t)
    (hseen : s.seen t key = some row) :
    (∃ origin, Inserted tx key origin events) ∨
      ∃ maker origin, Made maker key origin events ∧ R origin row := by
  rcases Option.or_eq_some_iff.1 hseen with hstaged | ⟨-, hcommitted⟩
  · exact h.staged tx t row hopen hstaged
  · exact .inr (h.committed row hcommitted)

/-- Who made the row before and who could make it now exclude each other. -/
theorem Rooted.first (h : s.Rooted key R events) (hopen : s.transactions.get? tx = some t)
    (hcurrent : t.stagedRow? key ≠ none → s.Current t key) {origin : Row}
    (hins : Inserted tx key origin events) :
    (∀ maker origin', ¬ Made maker key origin' events) ∧
      ∃ row, t.stagedRow? key = some row ∧ R origin row := by
  obtain ⟨⟨row, hstaged, hR⟩, hfree⟩ := h.own tx t origin hopen hins
  refine ⟨fun maker origin' hmaker => h.present maker origin' hmaker (hfree ?_), row, hstaged, hR⟩
  exact hcurrent (by rw [hstaged]; exact Option.some_ne_none row)

/-- An insert of the row, which nobody has made and the transaction has not staged. -/
theorem Rooted.inserted (hs : s.Sound) (h : s.Rooted key R events) (hrow : R row row)
    (hopen : s.transactions.get? tx = some t) (hseen : s.seen t key = none) :
    (s.holding tx ((s.touched t key).stage (.insertRow key row))).Rooted key R
      (events ++ [⟨.insert tx key row, .ok ()⟩]) := by
  obtain ⟨hunstaged, habsent⟩ := Option.or_eq_none_iff.1 hseen
  have hfirst (origin : Row) : ¬ Inserted tx key origin events := by
    intro horigin
    obtain ⟨⟨row', hrow', -⟩, -⟩ := h.own tx t origin hopen horigin
    rw [hunstaged] at hrow'
    cases hrow'
  have hinserted (other : TxId) (origin : Row) :
      Inserted other key origin (events ++ [⟨.insert tx key row, .ok ()⟩]) ↔
        Inserted other key origin events ∨ (tx = other ∧ row = origin) := by
    simp [inserted_snoc]
  have hmade (maker : TxId) (origin : Row) :
      Made maker key origin (events ++ [⟨.insert tx key row, .ok ()⟩]) ↔
        Made maker key origin events := made_snoc_of_not_commits fun h => by cases h
  have hstaged : ((s.touched t key).stage (.insertRow key row)).stagedRow? key = some row := by
    rw [stagedRow?_wrote t (rfl : (Change.insertRow key row).written? = _), if_pos rfl]
  constructor
  · simpa only [committedRow?_holding, hmade] using h.committed
  · simpa only [committedRow?_holding, hmade] using h.present
  · simpa only [hmade] using h.single
  · intro other origin origin' horigin horigin'
    rw [hinserted] at horigin horigin'
    rcases horigin with horigin | ⟨rfl, rfl⟩
    · rcases horigin' with horigin' | ⟨rfl, -⟩
      · exact h.once other origin origin' horigin horigin'
      · exact absurd horigin (hfirst origin)
    · rcases horigin' with horigin' | ⟨-, rfl⟩
      · exact absurd horigin' (hfirst origin')
      · rfl
  · intro other origin horigin
    rcases (hinserted other origin).1 horigin with horigin | ⟨rfl, -⟩
    · exact h.issued other origin horigin
    · exact hs.fresh tx t hopen
  · intro other u origin hu horigin
    rw [get?_holding] at hu
    rw [hinserted] at horigin
    split at hu
    · next heq =>
      obtain rfl := Option.some.inj hu
      subst heq
      obtain ⟨-, rfl⟩ := horigin.resolve_left (hfirst origin)
      exact ⟨⟨row, hstaged, hrow⟩, fun _ => habsent⟩
    · next hne => exact h.own other u origin hu (horigin.resolve_right fun hsame => hne hsame.1)
  · intro other u row' hu hrow'
    rw [get?_holding] at hu
    simp only [hinserted, hmade]
    split at hu
    · next heq => exact .inl ⟨row, .inr ⟨heq, rfl⟩⟩
    · refine (h.staged other u row' hu hrow').imp_left ?_
      rintro ⟨origin, horigin⟩
      exact ⟨origin, .inl horigin⟩

/-- An update of the row: the new image goes back to wherever the one before it went. -/
theorem Rooted.updated (hs : s.Sound) (h : s.Rooted key R events) {old : Row}
    {fields : List (Nat × Value)} (hrow : ∀ origin, R origin old → R origin row)
    (hopen : s.transactions.get? tx = some t) (hseen : s.seen t key = some old) :
    (s.holding tx ((s.touched t key).stage (.updateRow key row))).Rooted key R
      (events ++ [⟨.update tx key fields, .ok ()⟩]) := by
  have hinserted (other : TxId) (origin : Row) :
      Inserted other key origin (events ++ [⟨.update tx key fields, .ok ()⟩]) ↔
        Inserted other key origin events := inserted_snoc_of_ne fun h => by cases h
  have hmade (maker : TxId) (origin : Row) :
      Made maker key origin (events ++ [⟨.update tx key fields, .ok ()⟩]) ↔
        Made maker key origin events := made_snoc_of_not_commits fun h => by cases h
  have hstaged : ((s.touched t key).stage (.updateRow key row)).stagedRow? key = some row := by
    rw [stagedRow?_wrote t (rfl : (Change.updateRow key row).written? = _), if_pos rfl]
  constructor
  · simpa only [committedRow?_holding, hmade] using h.committed
  · simpa only [committedRow?_holding, hmade] using h.present
  · simpa only [hmade] using h.single
  · simpa only [hinserted] using h.once
  · simpa only [hinserted, holding_nextTx] using h.issued
  · intro other u origin hu horigin
    rw [get?_holding] at hu
    rw [hinserted] at horigin
    split at hu
    · next heq =>
      obtain rfl := Option.some.inj hu
      subst heq
      obtain ⟨⟨old', hold', hbefore⟩, hfree⟩ := h.own tx t origin hopen horigin
      -- The transaction staged the row, so what it sees is its own image.
      rw [seen, hold'] at hseen
      obtain rfl := Option.some.inj hseen
      refine ⟨⟨row, hstaged, hrow origin hbefore⟩, fun hcurrent => hfree ?_⟩
      exact (current_touched hs hopen key key).1 hcurrent
    · exact h.own other u origin hu horigin
  · intro other u row' hu hrow'
    rw [get?_holding] at hu
    simp only [hinserted, hmade]
    split at hu
    · next heq =>
      obtain rfl := Option.some.inj hu
      subst heq
      obtain rfl := Option.some.inj (hstaged.symm.trans hrow')
      refine (h.seen_origin hopen hseen).imp_right ?_
      rintro ⟨maker, origin, hmaker, hold⟩
      exact ⟨maker, origin, hmaker, hrow origin hold⟩
    · exact h.staged other u row' hu hrow'

/-- A commit. If its transaction inserted the row, nobody had made it before, and nobody else who
inserted it can be committed from now on. -/
theorem Rooted.published (hs : s.Sound) (h : s.Rooted key R events)
    (hopen : s.transactions.get? tx = some t)
    (hcurrent : ∀ key, t.stagedRow? key ≠ none → s.Current t key) :
    (s.publish tx t.changes).Rooted key R (events ++ [⟨.commit tx, .ok ()⟩]) := by
  have hinserted (other : TxId) (origin : Row) :
      Inserted other key origin (events ++ [⟨.commit tx, .ok ()⟩]) ↔
        Inserted other key origin events := inserted_snoc_of_ne fun h => by cases h
  have hmade (maker : TxId) (origin : Row) :
      Made maker key origin (events ++ [⟨.commit tx, .ok ()⟩]) ↔
        Made maker key origin events ∨ (tx = maker ∧ Inserted tx key origin events) :=
    made_snoc_commit
  have hrow : (s.publish tx t.changes).committedRow? key = s.seen t key := by
    rw [committedRow?_publish, ← hs.stagedRow? hopen]
    rfl
  have hnew {origin : Row} (hins : Inserted tx key origin events) :=
    h.first hopen (hcurrent key) hins
  constructor
  · intro row hcommitted
    rw [hrow] at hcommitted
    rcases h.seen_origin hopen hcommitted with ⟨origin, hins⟩ | ⟨maker, origin, hmaker, hR⟩
    · obtain ⟨-, row', hstaged, hR⟩ := hnew hins
      rw [seen, hstaged] at hcommitted
      obtain rfl := Option.some.inj hcommitted
      exact ⟨tx, origin, (hmade tx origin).2 (.inr ⟨rfl, hins⟩), hR⟩
    · exact ⟨maker, origin, (hmade maker origin).2 (.inl hmaker), hR⟩
  · intro maker origin hmaker hnone
    obtain ⟨hunstaged, habsent⟩ := Option.or_eq_none_iff.1 (hrow.symm.trans hnone)
    rcases (hmade maker origin).1 hmaker with hmaker | ⟨-, hins⟩
    · exact h.present maker origin hmaker habsent
    · obtain ⟨-, row, hstaged, -⟩ := hnew hins
      rw [hunstaged] at hstaged
      cases hstaged
  · intro maker origin maker' origin' hmaker hmaker'
    rcases (hmade maker origin).1 hmaker with hmaker | ⟨rfl, hins⟩
    · rcases (hmade maker' origin').1 hmaker' with hmaker' | ⟨-, hins'⟩
      · exact h.single maker origin maker' origin' hmaker hmaker'
      · exact absurd hmaker ((hnew hins').1 maker origin)
    · rcases (hmade maker' origin').1 hmaker' with hmaker' | ⟨rfl, hins'⟩
      · exact absurd hmaker' ((hnew hins).1 maker' origin')
      · exact ⟨rfl, h.once tx origin origin' hins hins'⟩
  · simpa only [hinserted] using h.once
  · simpa only [hinserted, publish_nextTx] using h.issued
  · intro other u origin hu horigin
    rw [get?_publish] at hu
    rw [hinserted] at horigin
    split at hu
    · cases hu
    obtain ⟨hstaged, hfree⟩ := h.own other u origin hu horigin
    refine ⟨hstaged, fun hnow => ?_⟩
    -- It has looked at the row, so it still finds it current only if the commit left it alone.
    obtain ⟨row, hrow', -⟩ := hstaged
    have hpin := (hs.transactions other u hu).pinned key
      (by rw [hrow']; exact Option.some_ne_none row)
    obtain ⟨himage, hbefore⟩ := current_of_publish hs hu hpin hnow
    rw [committedRow?_publish, himage, Option.none_or]
    exact hfree hbefore
  · intro other u row hu hstaged
    rw [get?_publish] at hu
    simp only [hinserted, hmade]
    split at hu
    · cases hu
    · refine (h.staged other u row hu hstaged).imp_right ?_
      rintro ⟨maker, origin, hmaker, hR⟩
      exact ⟨maker, origin, .inl hmaker, hR⟩

/-- One call. -/
theorem Rooted.effect (hs : s.Sound) (h : s.Rooted key R events) {c : Call}
    {answer : Except Failure c.Answer} (heffect : Effect s c answer s')
    (hhands : Event.Hands key R ⟨c, answer⟩) : s'.Rooted key R (events ++ [⟨c, answer⟩]) := by
  cases heffect with
  | opened =>
    refine h.elsewhere (fun _ _ h => by cases h) (fun _ h => by cases h) rfl (Nat.le_succ _) ?_
    intro other t' hopen
    change (s.holding _ _).transactions.get? other = some t' at hopen
    rw [get?_holding] at hopen
    split at hopen
    · next heq =>
      obtain rfl := Option.some.inj hopen
      exact .inl ⟨heq ▸ Nat.le_refl _, heq ▸ rfl⟩
    · exact .inr ⟨t', hopen, rfl, id⟩
  | unknown c tx htx hclosed =>
    exact h.elsewhere (fun _ _ h => by cases h) (fun _ h => by cases h) rfl (Nat.le_refl _)
      fun _ t' hopen => .inr ⟨t', hopen, rfl, id⟩
  | fetched tx k t hopen =>
    exact h.touched hs (fun _ _ h => by cases h) (fun _ h => by cases h) hopen k
  | inserted tx k row t hopen hseen =>
    by_cases hk : k = key
    · subst hk
      exact h.inserted hs (hhands rfl) hopen hseen
    · refine h.apart hs (fun _ _ h => ?_) (fun _ h => by cases h) hopen hk rfl
      simp [hk] at h
  | duplicate tx k row old t hopen =>
    exact h.touched hs (fun _ _ h => by cases h) (fun _ h => by cases h) hopen k
  | updated tx k fields old row t hopen hseen hrow =>
    by_cases hk : k = key
    · subst hk
      exact h.updated hs (fun origin hold => hhands rfl origin old row hold hrow) hopen hseen
    · exact h.apart hs (fun _ _ h => by cases h) (fun _ h => by cases h) hopen hk rfl
  | missing tx k fields t hopen =>
    exact h.touched hs (fun _ _ h => by cases h) (fun _ h => by cases h) hopen k
  | misfit tx k fields old failure t hopen =>
    exact h.touched hs (fun _ _ h => by cases h) (fun _ h => by cases h) hopen k
  | audited tx record t hopen =>
    refine h.holding (fun _ _ h => by cases h) (fun _ h => by cases h) hopen ?_ fun h => h
    rw [Transaction.stagedRow?_stage]
    rfl
  | committed tx t hopen hcurrent => exact h.published hs hopen hcurrent
  | conflicted tx t k hopen => exact h.without (fun _ _ h => by cases h) fun _ h => by cases h
  | rolledBack tx t hopen => exact h.without (fun _ _ h => by cases h) fun _ h => by cases h

/-- A run whose inserts and updates of the row keep the relation. -/
theorem rooted_run {calls : List Call}
    (hhands : ∀ e ∈ empty.transcript calls, e.Hands key R) :
    (empty.run calls).Rooted key R (empty.transcript calls) := by
  induction calls using List.reverseRecOn with
  | nil => exact rooted_empty key R
  | append_singleton calls c ih =>
    rw [transcript_snoc] at hhands ⊢
    obtain ⟨hbefore, hlast⟩ := List.forall_mem_append.1 hhands
    have hs := sound_empty.run calls
    rw [run_snoc]
    exact (ih hbefore).effect hs (effect_step hs c) (List.forall_mem_singleton.1 hlast)

end Store

end RecordEngine
