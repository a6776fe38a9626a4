import RecordEngine.Proofs.Store.Draft
/-!
A journal of writes, and the row it accounts for.

A journal tells which transaction wrote a row, by which write, and which transaction committed. A
write is a partial function of the row; a write that landed is one whose transaction committed, and
`landed` lists them in the order of the commits. `Accounts` says that a journal accounts for a row
of the store: the committed image is what the landed writes make of the image at the beginning, and
a transaction that would still be let through sees what its own writes make of that. A step of the
store is accounted for by what it adds to the journal: nothing, the write behind a staged image, or
the commit.
-/

set_option autoImplicit false

namespace RecordEngine

/-- What a journal notes; a write may have been granted or reported as failed after it was staged.
-/
inductive Deed (ω : Type) where
  | wrote (tx : TxId) (write : ω) (granted : Bool)
  | committed (tx : TxId)

namespace Deed

variable {ω : Type}

/-- The write, if it is one of the given transaction. -/
def writeOf? (tx : TxId) : Deed ω → Option ω
  | wrote other write _ => if tx = other then some write else none
  | committed _ => none

/-- The transaction that committed. -/
def commit? : Deed ω → Option TxId
  | wrote .. => none
  | committed tx => some tx

/-- Whether a write was granted; a commit that is noted always was. -/
def isGranted : Deed ω → Bool
  | wrote _ _ granted => granted
  | committed _ => true

/-- The writes of a transaction, in order. -/
def writesOf (tx : TxId) (deeds : List (Deed ω)) : List ω := deeds.filterMap (writeOf? tx)

/-- The writes of the transactions that committed, in the order of the commits. -/
def landed (deeds : List (Deed ω)) : List ω :=
  (deeds.filterMap commit?).flatMap fun tx => writesOf tx deeds

variable {deeds : List (Deed ω)} {tx other : TxId} {write : ω} {granted : Bool}

theorem writesOf_wrote :
    writesOf other (deeds ++ [wrote tx write granted]) =
      writesOf other deeds ++ if other = tx then [write] else [] := by
  rw [writesOf, List.filterMap_append]
  congr 1
  by_cases h : other = tx <;> simp [writeOf?, h]

theorem writesOf_committed :
    writesOf other (deeds ++ [committed tx]) = writesOf other deeds := by
  rw [writesOf, List.filterMap_append]
  exact List.append_nil _

theorem landed_committed :
    landed (deeds ++ [committed tx]) = landed deeds ++ writesOf tx deeds := by
  have hwrites : (fun other => writesOf other (deeds ++ [committed tx])) =
      fun other => writesOf other deeds := funext fun _ => writesOf_committed
  rw [landed, hwrites, List.filterMap_append, List.flatMap_append]
  congr 1
  exact List.append_nil _

/-- A write of a transaction that has not committed has not landed. -/
theorem landed_wrote (h : committed tx ∉ deeds) :
    landed (deeds ++ [wrote tx write granted]) = landed deeds := by
  rw [landed, List.filterMap_append]
  change (deeds.filterMap commit? ++ []).flatMap _ = _
  rw [List.append_nil, landed]
  rw [List.flatMap_def, List.flatMap_def]
  refine congrArg List.flatten (List.map_congr_left fun other hother => ?_)
  obtain ⟨deed, hdeed, hcommit⟩ := List.mem_filterMap.1 hother
  have hne : other ≠ tx := by
    rintro rfl
    cases deed with
    | wrote => cases hcommit
    | committed tx' => exact h (Option.some.inj hcommit ▸ hdeed)
  rw [writesOf_wrote, if_neg hne, List.append_nil]

end Deed

namespace Store

open Deed

variable {ω : Type} {image? : ω → Row → Option Row} {key : RowKey} {row₀ : Row}
  {s s' : Store} {mine mine' : TxId → Prop} {deeds : List (Deed ω)} {tx : TxId}

/-- What writes make of a row, each applied to the row that the one before it left. -/
def replayed (image? : ω → Row → Option Row) (row : Row) (writes : List ω) : Option Row :=
  writes.foldlM (fun row write => image? write row) row

theorem replayed_append (row : Row) (a b : List ω) :
    replayed image? row (a ++ b) = (replayed image? row a).bind (replayed image? · b) :=
  List.foldlM_append

/-- A journal accounts for a row, as far as the transactions of its keeper are concerned; others may
be open, but only those commit. -/
structure Accounts (image? : ω → Row → Option Row) (key : RowKey) (row₀ : Row) (s : Store)
    (mine : TxId → Prop) (deeds : List (Deed ω)) : Prop where
  sound : s.Sound
  /-- The committed row is what the landed writes make of the row at the beginning. -/
  committed : ∃ row, s.committedRow? key = some row ∧ replayed image? row₀ (landed deeds) = some row
  /-- A transaction that staged no image made no write, and one that finds the row current sees what
  its writes make of the committed row. -/
  pending : ∀ tx t, mine tx → s.transactions.get? tx = some t →
    (t.images key = [] → writesOf tx deeds = []) ∧
      (s.Current t key → ∃ row, s.seen t key = some row ∧
        replayed image? row₀ (landed deeds ++ writesOf tx deeds) = some row)
  fresh : ∀ tx : TxId, s.nextTx ≤ tx.number → writesOf tx deeds = []
  ended : ∀ tx, Deed.committed tx ∈ deeds → tx.number < s.nextTx ∧ s.transactions.get? tx = none

/-- The empty journal accounts for every row that is there. -/
theorem accounts_nil (hs : s.Sound) (hrow : s.committedRow? key = some row₀) :
    Accounts image? key row₀ s (fun _ => False) [] where
  sound := hs
  committed := ⟨row₀, hrow, rfl⟩
  pending _ _ h := h.elim
  fresh _ _ := rfl
  ended _ h := by cases h

/-- A transaction that staged no image of a row sees the committed one. -/
theorem seen_of_no_images (hs : s.Sound) {t : Transaction}
    (hopen : s.transactions.get? tx = some t) (h : t.images key = []) :
    s.seen t key = s.committedRow? key := by
  rw [seen_eq_getLast? hs hopen, h]
  rfl

/-- A transaction without an image of the row sees what the journal accounts for. -/
theorem Accounts.seen_of_no_images (h : Accounts image? key row₀ s mine deeds)
    {t : Transaction} (hopen : s.transactions.get? tx = some t) (himages : t.images key = [])
    (hwrites : writesOf tx deeds = []) :
    ∃ row, s.seen t key = some row ∧
      replayed image? row₀ (landed deeds ++ writesOf tx deeds) = some row := by
  obtain ⟨row, hrow, hreplayed⟩ := h.committed
  refine ⟨row, ?_, ?_⟩
  · rw [Store.seen_of_no_images h.sound hopen himages, hrow]
  · rw [hwrites, List.append_nil, hreplayed]

/-- A step that nobody sees adds nothing to the journal. -/
theorem Accounts.quiet (h : Accounts image? key row₀ s mine deeds) (hs' : s'.Sound)
    (hq : Quiet s s') (hmine : ∀ tx, mine' tx → mine tx ∨ s.nextTx ≤ tx.number) :
    Accounts image? key row₀ s' mine' deeds := by
  have hrows : s'.committedRow? = s.committedRow? := committedRow?_congr hq.rows
  refine ⟨hs', ?_, ?_, ?_, ?_⟩
  · rw [hrows]
    exact h.committed
  · intro tx t' hmine' hopen'
    rcases hq.transactions tx t' hopen' with ⟨hnew, rfl⟩ | ⟨t, hopen, hchanges, hcurrent, -⟩
    · -- A transaction just begun has no images, and the journal has not heard of it.
      have hwrites := h.fresh tx hnew
      refine ⟨fun _ => hwrites, fun _ => ?_⟩
      obtain ⟨row, hrow, hreplayed⟩ := h.committed
      refine ⟨row, ?_, ?_⟩
      · rw [Store.seen_of_no_images hs' hopen' rfl, hrows, hrow]
      · rw [hwrites, List.append_nil, hreplayed]
    -- An open transaction is older than the numbers to be given out, so it was the keeper's before.
    · have hold : mine tx := by
        rcases hmine tx hmine' with hold | hnew
        · exact hold
        · have hlt := h.sound.fresh tx t hopen
          omega
      obtain ⟨hwrote, hsees⟩ := h.pending tx t hold hopen
      have himages : t'.images key = t.images key := by
        rw [Transaction.images, Transaction.images, hchanges]
      have hseen : s'.seen t' key = s.seen t key := by
        rw [seen_eq_getLast? hs' hopen', seen_eq_getLast? h.sound hopen, himages, hrows]
      rw [himages, hseen]
      refine ⟨hwrote, fun hcurrent' => hsees ?_⟩
      exact (hcurrent key).1 ((current_congr hq.rows t' key).1 hcurrent')
  · intro tx hnew
    have hle := hq.nextTx_le
    exact h.fresh tx (by omega)
  · intro tx hcommitted
    obtain ⟨hlt, hclosed⟩ := h.ended tx hcommitted
    have hle := hq.nextTx_le
    refine ⟨by omega, ?_⟩
    by_contra hne
    obtain ⟨t', hopen'⟩ := Option.ne_none_iff_exists'.1 hne
    rcases hq.transactions tx t' hopen' with ⟨hnew, -⟩ | ⟨t, hopen, -⟩
    · omega
    · rw [hclosed] at hopen
      cases hopen

/-- Who keeps a journal of some transactions keeps one of fewer. -/
theorem Accounts.mono (h : Accounts image? key row₀ s mine deeds)
    (hmine : ∀ tx, mine' tx → mine tx) : Accounts image? key row₀ s mine' deeds :=
  h.quiet h.sound (.refl s) fun tx htx => .inl (hmine tx htx)

/-- A run of calls of one transaction is accounted for by a journal that differs at most in the
writes of that transaction. -/
theorem Accounts.drafts (h : Accounts image? key row₀ s mine deeds) {images : RowKey → List Row}
    (hdrafts : s.Drafts tx images s') {deeds' : List (Deed ω)}
    (hlanded : landed deeds' = landed deeds)
    (hothers : ∀ other, other ≠ tx → writesOf other deeds' = writesOf other deeds)
    (hcommits : ∀ other, Deed.committed other ∈ deeds' → Deed.committed other ∈ deeds)
    (hown : ∀ t, s.transactions.get? tx = some t → mine tx →
      (t.images key ++ images key = [] → writesOf tx deeds' = []) ∧
        (s.Current t key → ∃ row, ((images key).getLast?).or (s.seen t key) = some row ∧
          replayed image? row₀ (landed deeds ++ writesOf tx deeds') = some row)) :
    Accounts image? key row₀ s' mine deeds' := by
  obtain ⟨t, t', hopen, rfl, hdraft⟩ := hdrafts.held
  refine ⟨hdrafts.sound, ?_, ?_, ?_, ?_⟩
  · rw [hlanded]
    exact h.committed
  · intro other u hmine hopen'
    rw [hlanded]
    by_cases hother : other = tx
    · subst hother
      have hu : t' = u := by
        rw [get?_holding, if_pos rfl] at hopen'
        exact Option.some.inj hopen'
      subst hu
      obtain ⟨hwrote, hsees⟩ := hown t hopen hmine
      obtain ⟨himages, hcurrent⟩ := hdraft key
      rw [himages, hdrafts.seen h.sound hopen hopen' key]
      exact ⟨hwrote, fun hcurrent' => hsees (hcurrent.1 hcurrent')⟩
    · rw [get?_holding, if_neg (Ne.symm hother)] at hopen'
      rw [hothers other hother]
      exact h.pending other u hmine hopen'
  · intro other hnew
    have hlt := h.sound.fresh tx t hopen
    -- The transaction is open, so its number is not one still to be given out.
    have hne : other ≠ tx := by
      rintro rfl
      have hle : s.nextTx ≤ other.number := hnew
      omega
    rw [hothers other hne]
    exact h.fresh other hnew
  · intro other hcommitted
    obtain ⟨hlt, hclosed⟩ := h.ended other (hcommits other hcommitted)
    have hne : tx ≠ other := by
      rintro rfl
      rw [hopen] at hclosed
      cases hclosed
    refine ⟨hlt, ?_⟩
    rw [get?_holding, if_neg hne]
    exact hclosed

/-- Calls that staged no image of the row add nothing to the journal. -/
theorem Accounts.unwritten (h : Accounts image? key row₀ s mine deeds)
    {images : RowKey → List Row} (hdrafts : s.Drafts tx images s') (himages : images key = []) :
    Accounts image? key row₀ s' mine deeds := by
  refine h.drafts hdrafts rfl (fun _ _ => rfl) (fun _ => id) fun t hopen hmine => ?_
  rw [himages, List.append_nil]
  exact h.pending tx t hmine hopen

/-- Calls that staged one image of the row add the write behind it. -/
theorem Accounts.wrote (h : Accounts image? key row₀ s mine deeds) {images : RowKey → List Row}
    (hdrafts : s.Drafts tx images s') {t : Transaction}
    (hopen : s.transactions.get? tx = some t) {row image : Row} {write : ω}
    (hseen : s.seen t key = some row) (himage : image? write row = some image)
    (himages : images key = [image]) (granted : Bool) :
    Accounts image? key row₀ s' mine (deeds ++ [.wrote tx write granted]) := by
  have hopened : Deed.committed tx ∉ deeds := by
    intro hcommitted
    rw [(h.ended tx hcommitted).2] at hopen
    cases hopen
  refine h.drafts hdrafts (landed_wrote hopened) ?_ ?_ ?_
  · intro other hne
    rw [writesOf_wrote, if_neg hne, List.append_nil]
  · intro other hcommitted
    rcases List.mem_append.1 hcommitted with hbefore | hlast
    · exact hbefore
    · cases List.mem_singleton.1 hlast
  · intro u hu hmine
    obtain rfl := Option.some.inj (hopen.symm.trans hu)
    rw [himages]
    refine ⟨fun hnone => by simp at hnone, fun hcurrent => ⟨image, rfl, ?_⟩⟩
    -- The write was applied to the row the transaction saw, which is what the journal says.
    obtain ⟨row', hrow', hreplayed⟩ := (h.pending tx t hmine hopen).2 hcurrent
    obtain rfl := Option.some.inj (hseen.symm.trans hrow')
    rw [writesOf_wrote, if_pos rfl, ← List.append_assoc, replayed_append, hreplayed]
    change replayed image? row [write] = some image
    rw [replayed, List.foldlM_cons, himage]
    rfl

/-- A commit that goes through lands the writes of its transaction. -/
theorem Accounts.published (h : Accounts image? key row₀ s mine deeds) (hmine : mine tx)
    {t : Transaction} (hopen : s.transactions.get? tx = some t)
    (hcurrent : ∀ k, t.stagedRow? k ≠ none → s.Current t k) :
    Accounts image? key row₀ (s.publish tx t.changes) mine (deeds ++ [.committed tx]) := by
  have hsound := h.sound.publish tx t.changes
  obtain ⟨hwrote, hsees⟩ := h.pending tx t hmine hopen
  have himage : imageIn t.changes key = (t.images key).getLast? := imageIn_eq_getLast? _ _
  -- The row published is the row the transaction saw, with or without an image of its own.
  have hcommitted : (s.publish tx t.changes).committedRow? key = s.seen t key := by
    rw [committedRow?_publish, himage, seen_eq_getLast? h.sound hopen]
  have hrow : ∃ row, s.seen t key = some row ∧
      replayed image? row₀ (landed deeds ++ writesOf tx deeds) = some row := by
    by_cases himages : t.images key = []
    · exact h.seen_of_no_images hopen himages (hwrote himages)
    · refine hsees (hcurrent key ?_)
      rw [h.sound.stagedRow? hopen, himage]
      exact fun hnone => himages (List.getLast?_eq_none_iff.1 hnone)
  refine ⟨hsound, ?_, ?_, ?_, ?_⟩
  · rw [hcommitted, landed_committed]
    exact hrow
  · intro other u hmine' hopen'
    rw [get?_publish] at hopen'
    split at hopen'
    · cases hopen'
    rw [writesOf_committed, landed_committed]
    obtain ⟨hwrote', hsees'⟩ := h.pending other u hmine' hopen'
    refine ⟨hwrote', fun hcurrent' => ?_⟩
    by_cases hpin : u.bases.get? key = none
    · -- One that never looked at the row wrote nothing, and sees what was just published.
      have hunstaged : u.stagedRow? key = none := by
        by_contra hstaged
        exact (h.sound.transactions other u hopen').pinned key hstaged hpin
      have himages : u.images key = [] := by
        rw [h.sound.stagedRow? hopen', imageIn_eq_getLast?] at hunstaged
        exact List.getLast?_eq_none_iff.1 hunstaged
      rw [hwrote' himages, List.append_nil, Store.seen, hunstaged, Option.none_or, hcommitted]
      exact hrow
    · -- One that looked before and still finds the row current saw no write land.
      obtain ⟨hnone, hbefore⟩ := current_of_publish h.sound hopen' hpin hcurrent'
      have himages : t.images key = [] := by
        rw [himage] at hnone
        exact List.getLast?_eq_none_iff.1 hnone
      rw [hwrote himages, List.append_nil, Store.seen, committedRow?_publish, hnone,
        Option.none_or]
      exact hsees' hbefore
  · intro other hnew
    rw [publish_nextTx] at hnew
    rw [writesOf_committed]
    exact h.fresh other hnew
  · intro other hmem
    rw [get?_publish, publish_nextTx]
    rcases List.mem_append.1 hmem with hbefore | hlast
    · obtain ⟨hlt, hclosed⟩ := h.ended other hbefore
      refine ⟨hlt, ?_⟩
      rw [hclosed, ite_self]
    · obtain rfl : other = tx := Deed.committed.inj (List.mem_singleton.1 hlast)
      exact ⟨h.sound.fresh other t hopen, if_pos rfl⟩

/-- A commit is noted if it goes through. -/
theorem Accounts.commit (h : Accounts image? key row₀ s mine deeds) (hmine : mine tx) :
    Accounts image? key row₀ (s.step (.commit tx)).2 mine
      (deeds ++ if (s.step (.commit tx)).1.isOk then [.committed tx] else []) := by
  have hsound := h.sound.step (.commit tx)
  have hprogress := progress_step h.sound (.commit tx)
  -- Once answer and store are variables, the kinds of progress can be told apart by cases.
  generalize (s.step (.commit tx)).1 = answer at *
  generalize (s.step (.commit tx)).2 = s' at *
  cases hprogress with
  | quiet _ _ hcommits _ hquiet =>
    cases answer with
    | ok answer => cases hcommits
    | error failure =>
      change Accounts image? key row₀ s' mine (deeds ++ [])
      rw [List.append_nil]
      exact h.quiet hsound hquiet fun _ => .inl
  | staged _ _ _ _ _ _ _ hchange => cases hchange
  | published _ t hopen hcurrent => exact h.published hmine hopen hcurrent

/-- Nobody sees a rollback. -/
theorem quiet_rollback (hs : s.Sound) (tx : TxId) : Quiet s (s.step (.rollback tx)).2 := by
  have hprogress := progress_step hs (.rollback tx)
  generalize (s.step (.rollback tx)).1 = answer at *
  generalize (s.step (.rollback tx)).2 = s' at *
  cases hprogress with
  | quiet _ _ _ _ hquiet => exact hquiet
  | staged _ _ _ _ _ _ _ hchange => cases hchange

end Store

end RecordEngine
