import Mathlib.Tactic

/-!
# SqlxCloudflare.Ledger

A store with transactions that do not nest, over any state and any kind of
write: each write is applied as it is made, whoever makes it, and a rollback
restores the state the transaction began in.

The ledger remembers every write it was ever given (`history`) and the ones
the state is made of (`journal`), so that a write can be asked about after the
fact:

* `Sound.replays` -- the state is the journal, replayed from the start;
* `Sound.mem_journal_iff` -- a write is still in the journal exactly when no
  transaction was open when it was made, or the one that was has not been
  rolled back;
* `Sound.mem_journal_iff_committed` -- so after its transaction, a write is
  kept exactly if that committed;
* `Sound.mem_journal_rollback_iff` -- and a rollback undoes exactly the writes
  made while the transaction was open.
-/

/-- A write that was made, and the transaction that was open at the time. -/
structure Ledger.Record (W : Type) where
  index : ℕ
  during : Option ℕ
  write : W

/-- An open transaction, and what its rollback restores. -/
structure Ledger.Savepoint (W S : Type) where
  id : ℕ
  state : S
  journal : List (Record W)

/-- A store of states `S` written by writes `W`. -/
structure Ledger (W S : Type) where
  state : S
  /-- The writes the state is made of, in order. -/
  journal : List (Ledger.Record W)
  /-- Every write that was ever made, in order. -/
  history : List (Ledger.Record W)
  savepoint : Option (Ledger.Savepoint W S)
  committed : List ℕ
  /-- The id of the next transaction. -/
  next : ℕ

namespace Ledger

variable {W S : Type}

/-- A store nothing has been written to. -/
def start (s : S) : Ledger W S := ⟨s, [], [], none, [], 0⟩

/-- The transaction that is open. -/
def opened (l : Ledger W S) : Option ℕ := l.savepoint.map Savepoint.id

def record (l : Ledger W S) (w : W) : Record W := ⟨l.history.length, l.opened, w⟩

/-- A write takes effect at once, in whatever transaction is open. -/
def write (apply : W → S → S) (w : W) (l : Ledger W S) : Ledger W S :=
  { l with
    state := apply w l.state
    journal := l.journal ++ [l.record w]
    history := l.history ++ [l.record w] }

/-- Opens a transaction; none is open. -/
def begin (l : Ledger W S) : Ledger W S :=
  { l with
    savepoint := some ⟨l.next, l.state, l.journal⟩
    next := l.next + 1 }

def commit (l : Ledger W S) : Ledger W S :=
  match l.savepoint with
  | some point => { l with savepoint := none, committed := point.id :: l.committed }
  | none => l

def rollback (l : Ledger W S) : Ledger W S :=
  match l.savepoint with
  | some point => { l with state := point.state, journal := point.journal, savepoint := none }
  | none => l

/-- The state a list of writes leads to. -/
def replay (apply : W → S → S) (s : S) (journal : List (Record W)) : S :=
  journal.foldl (fun s r => apply r.write s) s

/-- No transaction was open when the write was made, or the one that was has
committed. -/
def Settled (l : Ledger W S) (r : Record W) : Prop :=
  r.during = none ∨ ∃ t ∈ l.committed, r.during = some t

/-- The write has not been undone, as far as its transaction goes. -/
def Kept (l : Ledger W S) (r : Record W) : Prop :=
  l.Settled r ∨ ∃ t, l.opened = some t ∧ r.during = some t

/-! ## the invariant -/

/-- What holds of a savepoint. -/
structure Restorable (apply : W → S → S) (s : S) (l : Ledger W S) (point : Savepoint W S) :
    Prop where
  id_lt : point.id < l.next
  not_committed : point.id ∉ l.committed
  replays : point.state = replay apply s point.journal
  sublist : point.journal.Sublist l.history
  mem_journal_iff : ∀ r ∈ l.history, r ∈ point.journal ↔ l.Settled r

/-- What holds of every ledger that was started at `s`. -/
structure Sound (apply : W → S → S) (s : S) (l : Ledger W S) : Prop where
  replays : l.state = replay apply s l.journal
  sublist : l.journal.Sublist l.history
  index_lt : ∀ r ∈ l.history, r.index < l.history.length
  during_lt : ∀ r ∈ l.history, ∀ t, r.during = some t → t < l.next
  committed_lt : ∀ t ∈ l.committed, t < l.next
  mem_journal_iff : ∀ r ∈ l.history, r ∈ l.journal ↔ l.Kept r
  restorable : ∀ point, l.savepoint = some point → l.Restorable apply s point

variable {apply : W → S → S} {s : S} {l : Ledger W S}

theorem sound_start (apply : W → S → S) (s : S) : (start s : Ledger W S).Sound apply s := by
  constructor <;> simp [start, replay]

/-- The record of a new write is not one of the history's. -/
theorem Sound.record_notMem (h : l.Sound apply s) (w : W) : l.record w ∉ l.history :=
  fun hmem => absurd (h.index_lt _ hmem) (lt_irrefl _)

theorem opened_eq_some {t : ℕ} (h : l.opened = some t) :
    ∃ point, l.savepoint = some point ∧ point.id = t := Option.map_eq_some_iff.mp h

theorem Sound.opened_lt (h : l.Sound apply s) {t : ℕ} (ht : l.opened = some t) : t < l.next := by
  obtain ⟨point, hpoint, rfl⟩ := opened_eq_some ht
  exact (h.restorable point hpoint).id_lt

theorem replay_concat (journal : List (Record W)) (r : Record W) :
    replay apply s (journal ++ [r]) = apply r.write (replay apply s journal) := by
  simp [replay]

/-! ### a write -/

@[simp] theorem history_write (w : W) :
    (l.write apply w).history = l.history ++ [l.record w] := rfl

@[simp] theorem settled_write (w : W) (r : Record W) :
    (l.write apply w).Settled r ↔ l.Settled r := Iff.rfl

@[simp] theorem kept_write (w : W) (r : Record W) : (l.write apply w).Kept r ↔ l.Kept r := Iff.rfl

/-- The write just made is in the journal. -/
theorem kept_record (w : W) : l.Kept (l.record w) := by
  cases hopened : l.opened with
  | none => exact .inl (.inl hopened)
  | some t => exact .inr ⟨t, hopened, hopened⟩

theorem sound_write (h : l.Sound apply s) (w : W) : (l.write apply w).Sound apply s where
  replays := by
    rw [write, replay_concat, ← h.replays]
    rfl
  sublist := h.sublist.append (List.Sublist.refl _)
  index_lt := by
    intro r hr
    rcases List.mem_append.mp hr with hold | hnew
    · have := h.index_lt r hold
      simp only [history_write, List.length_append, List.length_singleton]
      omega
    · rw [List.mem_singleton.mp hnew]
      simp [record]
  during_lt := by
    intro r hr t ht
    rcases List.mem_append.mp hr with hold | hnew
    · exact h.during_lt r hold t ht
    · rw [List.mem_singleton.mp hnew] at ht
      exact h.opened_lt ht
  committed_lt := h.committed_lt
  mem_journal_iff := by
    intro r hr
    rw [kept_write]
    rcases List.mem_append.mp hr with hold | hnew
    · have hne : r ≠ l.record w := fun heq => h.record_notMem w (heq ▸ hold)
      rw [← h.mem_journal_iff r hold, write, List.mem_append, List.mem_singleton]
      exact or_iff_left hne
    · rw [List.mem_singleton.mp hnew]
      exact iff_of_true (List.mem_append_right _ List.mem_cons_self) (kept_record w)
  restorable := by
    intro point hpoint
    have hold := h.restorable point hpoint
    refine ⟨hold.id_lt, hold.not_committed, hold.replays,
      hold.sublist.trans (List.sublist_append_left _ _), fun r hr => ?_⟩
    rw [settled_write]
    rcases List.mem_append.mp hr with hmem | hnew
    · exact hold.mem_journal_iff r hmem
    · -- made inside the transaction, so neither restored nor settled
      rw [List.mem_singleton.mp hnew]
      have hopened : l.opened = some point.id := by
        rw [opened, show l.savepoint = some point from hpoint]
        rfl
      refine iff_of_false (fun hmem => h.record_notMem w (hold.sublist.subset hmem)) ?_
      rintro (hnone | ⟨t, hcommitted, ht⟩)
      · rw [record, hopened] at hnone
        cases hnone
      · rw [record, hopened] at ht
        cases ht
        exact hold.not_committed hcommitted

/-! ### a transaction -/

theorem sound_begin (h : l.Sound apply s) (hclosed : l.savepoint = none) :
    l.begin.Sound apply s := by
  have hopened : l.opened = none := by
    rw [opened, hclosed]
    rfl
  have hsettled : ∀ r ∈ l.history, r ∈ l.journal ↔ l.Settled r := by
    intro r hr
    rw [h.mem_journal_iff r hr, Kept, hopened]
    simp
  have hnew : ∀ r ∈ l.history, l.begin.Kept r ↔ l.Settled r := by
    intro r hr
    refine ⟨?_, .inl⟩
    rintro (hkept | ⟨t, ht, hduring⟩)
    · exact hkept
    · cases ht
      exact absurd (h.during_lt r hr _ hduring) (lt_irrefl _)
  refine ⟨h.replays, h.sublist, h.index_lt, ?_, ?_, ?_, ?_⟩
  · exact fun r hr t ht => Nat.lt_succ_of_lt (h.during_lt r hr t ht)
  · exact fun t ht => Nat.lt_succ_of_lt (h.committed_lt t ht)
  · exact fun r hr => (hsettled r hr).trans (hnew r hr).symm
  · intro point hpoint
    cases hpoint
    exact ⟨Nat.lt_succ_self _, fun ht => absurd (h.committed_lt _ ht) (lt_irrefl _), h.replays,
      h.sublist, hsettled⟩

theorem commit_of_savepoint {point : Savepoint W S} (h : l.savepoint = some point) :
    l.commit = { l with savepoint := none, committed := point.id :: l.committed } := by
  rw [commit, h]

theorem rollback_of_savepoint {point : Savepoint W S} (h : l.savepoint = some point) :
    l.rollback = { l with state := point.state, journal := point.journal, savepoint := none } := by
  rw [rollback, h]

@[simp] theorem savepoint_commit (l : Ledger W S) : l.commit.savepoint = none := by
  unfold commit
  split
  · rfl
  · assumption

@[simp] theorem savepoint_rollback (l : Ledger W S) : l.rollback.savepoint = none := by
  unfold rollback
  split
  · rfl
  · assumption

@[simp] theorem history_commit (l : Ledger W S) : l.commit.history = l.history := by
  unfold commit
  split <;> rfl

@[simp] theorem journal_commit (l : Ledger W S) : l.commit.journal = l.journal := by
  unfold commit
  split <;> rfl

@[simp] theorem history_rollback (l : Ledger W S) : l.rollback.history = l.history := by
  unfold rollback
  split <;> rfl

@[simp] theorem next_commit (l : Ledger W S) : l.commit.next = l.next := by
  unfold commit
  split <;> rfl

@[simp] theorem next_rollback (l : Ledger W S) : l.rollback.next = l.next := by
  unfold rollback
  split <;> rfl

theorem sound_commit (h : l.Sound apply s) : l.commit.Sound apply s := by
  cases hpoint : l.savepoint with
  | none =>
      rw [commit, hpoint]
      exact h
  | some point =>
      have hold := h.restorable point hpoint
      have hopened : l.opened = some point.id := by
        rw [opened, hpoint]
        rfl
      rw [commit_of_savepoint hpoint]
      refine ⟨h.replays, h.sublist, h.index_lt, h.during_lt, ?_, ?_, ?_⟩
      · intro t ht
        rcases List.mem_cons.mp ht with rfl | hmem
        · exact hold.id_lt
        · exact h.committed_lt t hmem
      · intro r hr
        have hjournal := h.mem_journal_iff r hr
        simp only [Kept, Settled, hopened] at hjournal
        simp only [Kept, Settled, opened, hjournal]
        grind
      · intro point' hpoint'
        cases hpoint'

theorem sound_rollback (h : l.Sound apply s) : l.rollback.Sound apply s := by
  cases hpoint : l.savepoint with
  | none =>
      rw [rollback, hpoint]
      exact h
  | some point =>
      have hold := h.restorable point hpoint
      rw [rollback_of_savepoint hpoint]
      refine ⟨hold.replays, hold.sublist, h.index_lt, h.during_lt, h.committed_lt, ?_, ?_⟩
      · intro r hr
        have hjournal := hold.mem_journal_iff r hr
        simp only [Settled] at hjournal
        simp only [Kept, Settled, opened, hjournal]
        simp
      · intro point' hpoint'
        cases hpoint'

/-! ## what becomes of a write -/

/-- Once its transaction has ended, a write is kept exactly if that
committed. -/
theorem Sound.mem_journal_iff_committed (h : l.Sound apply s) {r : Record W}
    (hr : r ∈ l.history) {t : ℕ} (hduring : r.during = some t) (hended : l.opened ≠ some t) :
    r ∈ l.journal ↔ t ∈ l.committed := by
  rw [h.mem_journal_iff r hr, Kept, Settled, hduring]
  grind

/-- **A rollback undoes exactly the writes made while the transaction was
open**, whoever made them. -/
theorem Sound.mem_journal_rollback_iff (h : l.Sound apply s) {t : ℕ} (hopened : l.opened = some t)
    {r : Record W} (hr : r ∈ l.history) :
    r ∈ l.rollback.journal ↔ r ∈ l.journal ∧ r.during ≠ some t := by
  obtain ⟨point, hpoint, rfl⟩ := opened_eq_some hopened
  have hold := h.restorable point hpoint
  have hkept := h.mem_journal_iff r hr
  have hsettled := hold.mem_journal_iff r hr
  have hnot := hold.not_committed
  rw [rollback_of_savepoint hpoint]
  simp only [hkept, hsettled, Kept, Settled, hopened]
  grind

end Ledger
