import Mathlib.Tactic

/-!
# SqlxCloudflare.Machine

Runs of a partial transition function `step : L → S → Option S`: a label that
is not enabled in a state has no step there.

* `run` -- the state a list of labels leads to;
* `invariant` -- what every step preserves holds after every run;
* `invariant_along` -- the same for runs whose steps all meet a condition;
* `always_iff_along` -- when meeting the condition is exactly what keeps a
  property, the runs that always have it are the runs that always meet it.
-/

namespace Machine

variable {S L : Type}

/-- The state after the steps `labels`, if every one of them is enabled. -/
def run (step : L → S → Option S) (s : S) : List L → Option S
  | [] => some s
  | l :: labels =>
    match step l s with
    | some t => run step t labels
    | none => none

/-- Every step of the run is taken in a state where it meets `C`. -/
def Along (step : L → S → Option S) (C : L → S → Prop) (s : S) : List L → Prop
  | [] => True
  | l :: labels => C l s ∧ ∀ t, step l s = some t → Along step C t labels

/-- Every state of the run, its first and last included, has `P`. -/
def Always (step : L → S → Option S) (P : S → Prop) (s : S) : List L → Prop
  | [] => P s
  | l :: labels => P s ∧ ∀ t, step l s = some t → Always step P t labels

variable {step : L → S → Option S} {s t u : S} {l : L} {labels : List L}

theorem run_cons_of_step (h : step l s = some t) :
    run step s (l :: labels) = run step t labels := by
  rw [run, h]

/-- A run that takes a step takes it from the state it starts in. -/
theorem run_cons_eq_some (h : run step s (l :: labels) = some u) :
    ∃ t, step l s = some t ∧ run step t labels = some u := by
  rw [run] at h
  cases hstep : step l s with
  | none =>
      rw [hstep] at h
      cases h
  | some t =>
      rw [hstep] at h
      exact ⟨t, rfl, h⟩

/-- Two runs, one after the other. -/
theorem run_append (labels' : List L) (h : run step s labels = some t) :
    run step s (labels ++ labels') = run step t labels' := by
  induction labels generalizing s with
  | nil =>
      cases h
      rfl
  | cons l labels ih =>
      obtain ⟨s', hstep, hrest⟩ := run_cons_eq_some h
      rw [List.cons_append, run_cons_of_step hstep]
      exact ih hrest

/-- A label leads to one state. -/
theorem forall_step_iff (h : step l s = some t) {Q : S → Prop} :
    (∀ t', step l s = some t' → Q t') ↔ Q t := by
  refine ⟨fun hQ => hQ t h, fun hQ t' ht' => ?_⟩
  rw [h] at ht'
  cases ht'
  exact hQ

theorem along_cons_iff {C : L → S → Prop} (h : step l s = some t) :
    Along step C s (l :: labels) ↔ C l s ∧ Along step C t labels :=
  and_congr_right fun _ => forall_step_iff h

theorem always_cons_iff {P : S → Prop} (h : step l s = some t) :
    Always step P s (l :: labels) ↔ P s ∧ Always step P t labels :=
  and_congr_right fun _ => forall_step_iff h

theorem Always.head {P : S → Prop} (h : Always step P s labels) : P s := by
  cases labels with
  | nil => exact h
  | cons l labels => exact h.1

theorem Along.mono {C D : L → S → Prop} (hCD : ∀ l s, C l s → D l s)
    (h : Along step C s labels) : Along step D s labels := by
  induction labels generalizing s with
  | nil => trivial
  | cons l labels ih => exact ⟨hCD l s h.1, fun t ht => ih (h.2 t ht)⟩

/-- **The invariant rule**, for runs whose steps all meet `C`. -/
theorem invariant_along {C : L → S → Prop} {I : S → Prop}
    (hpreserved : ∀ l s t, I s → C l s → step l s = some t → I t) (h0 : I s)
    (hC : Along step C s labels) (h : run step s labels = some t) : I t := by
  induction labels generalizing s with
  | nil =>
      cases h
      exact h0
  | cons l labels ih =>
      obtain ⟨s', hstep, hrest⟩ := run_cons_eq_some h
      obtain ⟨hcond, halong⟩ := hC
      exact ih (hpreserved l s s' h0 hcond hstep) (halong s' hstep) hrest

theorem along_true (s : S) (labels : List L) : Along step (fun _ _ => True) s labels := by
  induction labels generalizing s with
  | nil => trivial
  | cons l labels ih => exact ⟨trivial, fun t _ => ih t⟩

/-- **The invariant rule.** -/
theorem invariant {I : S → Prop} (hpreserved : ∀ l s t, I s → step l s = some t → I t) (h0 : I s)
    (h : run step s labels = some t) : I t :=
  invariant_along (fun l s t hI _ => hpreserved l s t hI) h0 (along_true s labels) h

/-- A run always has `P` exactly when its steps all meet `C`, if under an
invariant `C` is exactly what a step needs to keep `P`. -/
theorem always_iff_along {C : L → S → Prop} {I P : S → Prop}
    (hI : ∀ l s t, I s → step l s = some t → I t)
    (hP : ∀ l s t, I s → P s → step l s = some t → (P t ↔ C l s)) (h0 : I s) (hs : P s)
    (h : run step s labels = some t) : Always step P s labels ↔ Along step C s labels := by
  induction labels generalizing s with
  | nil => exact ⟨fun _ => trivial, fun _ => hs⟩
  | cons l labels ih =>
      obtain ⟨s', hstep, hrest⟩ := run_cons_eq_some h
      have hkeeps := hP l s s' h0 hs hstep
      have hnext := hI l s s' h0 hstep
      rw [along_cons_iff hstep, always_cons_iff hstep]
      constructor
      · rintro ⟨_, hall⟩
        have hs' : P s' := hall.head
        exact ⟨hkeeps.mp hs', (ih hnext hs' hrest).mp hall⟩
      · rintro ⟨hcond, halong⟩
        exact ⟨hs, (ih hnext (hkeeps.mpr hcond) hrest).mpr halong⟩

end Machine
