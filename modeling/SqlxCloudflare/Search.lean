import Mathlib.Data.List.Infix

/-!
# SqlxCloudflare.Search

Searching a text for a pattern, from its end: Rust's `rsplit_once` and `rfind`,
over any alphabet.

The patterns it is used with begin with a letter they do not repeat, and then
an occurrence cannot overlap another: the last one is the one that is not
followed by any (`rsplitOnce_eq_some_iff`).  What the texts around a pattern
can contain is settled by letters too: a separator that is not in the pattern
keeps it on one side (`infix_append_cons_iff`).
-/

namespace SqlxCloudflare

variable {α : Type}

/-! ## where a pattern can be -/

/-- A pattern is not in a text without one of its letters. -/
theorem not_infix_of_not_mem {pattern text : List α} {a : α} (ha : a ∈ pattern)
    (htext : a ∉ text) : ¬pattern <:+: text :=
  fun h => htext (h.subset ha)

/-- A pattern lies on one side of a letter it does not have. -/
theorem infix_append_cons_iff {pattern before after : List α} {a : α} (ha : a ∉ pattern) :
    pattern <:+: before ++ a :: after ↔ pattern <:+: before ∨ pattern <:+: after := by
  constructor
  · intro h
    rcases List.infix_append_iff_ne_nil.mp h with h | h | ⟨u, v, _, hv, rfl, _, hprefix⟩
    · exact .inl h
    · rcases List.infix_cons_iff.mp h with h | h
      · cases pattern with
        | nil => exact .inl List.nil_infix
        | cons b pattern =>
            have hhead : b = a := (List.cons_prefix_cons.mp h).1
            exact absurd (by simp [hhead]) ha
      · exact .inr h
    · cases v with
      | nil => exact absurd rfl hv
      | cons b v =>
          have hhead : b = a := (List.cons_prefix_cons.mp hprefix).1
          exact absurd (by simp [hhead]) ha
  · intro h
    rcases h with h | h
    · exact h.trans (List.infix_append_of_infix_left List.infix_rfl)
    · exact h.trans ((List.infix_cons List.infix_rfl).trans
        (List.infix_append_of_infix_right List.infix_rfl))

/-- A pattern that ends differently from how `after` begins lies on one side of
the seam: no end of it is a beginning of `after`. -/
theorem infix_append_iff_of_seam {pattern before after : List α}
    (hseam : ∀ v ∈ pattern.tails, v ≠ [] → ¬v <+: after) :
    pattern <:+: before ++ after ↔ pattern <:+: before ∨ pattern <:+: after := by
  constructor
  · intro h
    rcases List.infix_append_iff_ne_nil.mp h with h | h | ⟨u, v, _, hv, rfl, _, hprefix⟩
    · exact .inl h
    · exact .inr h
    · exact absurd hprefix (hseam v (by simp) hv)
  · intro h
    rcases h with h | h
    · exact List.infix_append_of_infix_left h
    · exact List.infix_append_of_infix_right h

/-- A pattern cannot begin in a text that does not have its first letter. -/
theorem infix_append_iff_of_head_not_mem {a : α} {pattern before after : List α}
    (ha : a ∉ before) : (a :: pattern) <:+: before ++ after ↔ (a :: pattern) <:+: after := by
  constructor
  · intro h
    rcases List.infix_append_iff_ne_nil.mp h with h | h | ⟨u, v, hu, _, huv, hsuffix, _⟩
    · exact absurd h (not_infix_of_not_mem List.mem_cons_self ha)
    · exact h
    · cases u with
      | nil => exact absurd rfl hu
      | cons b u =>
          have hhead : b = a := by
            rw [List.cons_append] at huv
            exact (List.cons.inj huv).1.symm
          exact absurd (hsuffix.subset (by simp [hhead])) ha
  · exact List.infix_append_of_infix_right

/-- An end without the letter does not reach back to it. -/
theorem suffix_append_cons_iff {pattern before after : List α} {a : α} (ha : a ∉ pattern) :
    pattern <:+ before ++ a :: after ↔ pattern <:+ after := by
  constructor
  · intro h
    have hafter : after <:+ before ++ a :: after :=
      (List.suffix_cons a after).trans (List.suffix_append before _)
    rcases List.suffix_or_suffix_of_suffix h hafter with h' | ⟨rest, rfl⟩
    · exact h'
    · obtain ⟨front, hfront⟩ := h
      rw [← List.append_assoc, ← List.singleton_append, ← List.append_assoc] at hfront
      have hend := List.append_cancel_right hfront
      cases rest using List.reverseRecOn with
      | nil => exact List.suffix_rfl
      | append_singleton rest b =>
          rw [← List.append_assoc] at hend
          have hhead : b = a := by simpa using (List.append_inj_right' hend rfl)
          exact absurd (by simp [hhead]) ha
  · intro h
    exact h.trans ((List.suffix_cons a after).trans (List.suffix_append before _))

/-- Two splits at an occurrence that no other follows are the same: the
pattern would begin in the one and come again in the other. -/
theorem split_unique {a : α} {pattern before after before' after' : List α} (ha : a ∉ pattern)
    (h : before ++ (a :: pattern) ++ after = before' ++ (a :: pattern) ++ after')
    (hlast : ¬(a :: pattern) <:+: after) (hlast' : ¬(a :: pattern) <:+: after') :
    before = before' ∧ after = after' := by
  have hfirst : ∀ {b : α} {front last last' : List α},
      (a :: pattern) ++ last = b :: front ++ (a :: pattern) ++ last' →
        (a :: pattern) <:+: last := by
    intro b front last last' heq
    have hrest : pattern ++ last = front ++ (a :: pattern) ++ last' := (List.cons.inj heq).2
    rw [← infix_append_iff_of_head_not_mem ha, hrest]
    exact List.infix_append _ _ _
  induction before generalizing before' with
  | nil =>
      cases before' with
      | nil => exact ⟨rfl, List.append_cancel_left h⟩
      | cons b before' => exact absurd (hfirst h) hlast
  | cons b before ih =>
      cases before' with
      | nil => exact absurd (hfirst h.symm) hlast'
      | cons b' before' =>
          obtain ⟨hhead, hrest⟩ := List.cons.inj h
          obtain ⟨hbefore, hafter⟩ := ih hrest
          exact ⟨by rw [hhead, hbefore], hafter⟩

/-! ## the last occurrence -/

variable [DecidableEq α]

/-- The text before and after the last occurrence of the pattern: Rust's
`rsplit_once`. -/
def rsplitOnce (pattern : List α) : List α → Option (List α × List α)
  | [] => if pattern = [] then some ([], []) else none
  | a :: text =>
    match rsplitOnce pattern text with
    | some (before, after) => some (a :: before, after)
    | none =>
      if pattern <+: a :: text then some ([], (a :: text).drop pattern.length) else none

/-- Where the last occurrence of the pattern begins: Rust's `rfind`. -/
def rfind (pattern text : List α) : Option ℕ :=
  (rsplitOnce pattern text).map fun split => split.1.length

theorem rsplitOnce_eq_none_iff {pattern text : List α} :
    rsplitOnce pattern text = none ↔ ¬pattern <:+: text := by
  induction text with
  | nil => simp [rsplitOnce]
  | cons a text ih =>
      rw [rsplitOnce, List.infix_cons_iff]
      cases hrest : rsplitOnce pattern text with
      | some split =>
          have hinside : pattern <:+: text := by
            by_contra hnot
            rw [ih.mpr hnot] at hrest
            cases hrest
          simp [hinside]
      | none => simp [ih.mp hrest]

variable {a : α} {pattern : List α}

theorem not_infix_of_rsplitOnce {text before after : List α}
    (h : rsplitOnce (a :: pattern) text = some (before, after)) :
    text = before ++ (a :: pattern) ++ after ∧ ¬(a :: pattern) <:+: after := by
  induction text generalizing before with
  | nil => simp [rsplitOnce] at h
  | cons b text ih =>
      rw [rsplitOnce] at h
      cases hrest : rsplitOnce (a :: pattern) text with
      | some split =>
          rw [hrest] at h
          cases h
          obtain ⟨htext, hlast⟩ := ih hrest
          exact ⟨by rw [htext]; rfl, hlast⟩
      | none =>
          have hnot := rsplitOnce_eq_none_iff.mp hrest
          by_cases hprefix : (a :: pattern) <+: b :: text
          · obtain ⟨rest, htext⟩ := hprefix
            have hinside : rest <:+: text := by
              rw [← (List.cons.inj htext).2]
              exact List.infix_append_of_infix_right List.infix_rfl
            simp only [hrest, ← htext, List.prefix_append, if_true, List.drop_left] at h
            cases h
            exact ⟨htext.symm, fun h => hnot (h.trans hinside)⟩
          · simp [hrest, hprefix] at h

/-- The last occurrence is the one no other follows. -/
theorem rsplitOnce_eq_some_iff (ha : a ∉ pattern) {text before after : List α} :
    rsplitOnce (a :: pattern) text = some (before, after) ↔
      text = before ++ (a :: pattern) ++ after ∧ ¬(a :: pattern) <:+: after := by
  constructor
  · exact not_infix_of_rsplitOnce
  · intro ⟨htext, hlast⟩
    cases hsplit : rsplitOnce (a :: pattern) text with
    | none =>
        rw [htext] at hsplit
        exact absurd (List.infix_append _ _ _) (rsplitOnce_eq_none_iff.mp hsplit)
    | some split =>
        obtain ⟨htext', hlast'⟩ := not_infix_of_rsplitOnce hsplit
        obtain ⟨hbefore, hafter⟩ := split_unique ha (htext'.symm.trans htext) hlast' hlast
        rw [← hbefore, ← hafter]

/-- More text in front moves the last occurrence, if it adds none. -/
theorem rsplitOnce_append (ha : a ∉ pattern) {front text : List α}
    (hfront : (a :: pattern) <:+: front ++ text → (a :: pattern) <:+: text) :
    rsplitOnce (a :: pattern) (front ++ text) =
      (rsplitOnce (a :: pattern) text).map fun split => (front ++ split.1, split.2) := by
  cases hsplit : rsplitOnce (a :: pattern) text with
  | none =>
      have hnot := rsplitOnce_eq_none_iff.mp hsplit
      rw [Option.map_none, rsplitOnce_eq_none_iff]
      exact fun h => hnot (hfront h)
  | some split =>
      obtain ⟨htext, hlast⟩ := (rsplitOnce_eq_some_iff ha).mp hsplit
      rw [Option.map_some, rsplitOnce_eq_some_iff ha]
      exact ⟨by rw [htext]; simp, hlast⟩

end SqlxCloudflare
