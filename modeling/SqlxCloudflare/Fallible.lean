import Mathlib.Data.List.Forall2
import Mathlib.Tactic

/-!
# SqlxCloudflare.Fallible

Fallible computations in sequence: `List.mapM`, the loop that stops at its
first error, in `Except` and in `EStateM`, whose steps also change a state and
keep what they changed when they fail.

* `mapM_eq_ok_iff`, `mapM_eq_error_iff` -- what a sequence without state
  returns, element by element;
* `All`, `FirstFails` -- stateful steps that all succeed one after another,
  and stateful steps of which one is the first to fail;
* `run_mapM_eq_ok_iff`, `run_mapM_eq_error_iff` -- the loop returns exactly
  what these two say, and `all_or_firstFails`: one of them always holds;
* `Raises` -- what is known of every error of a computation, step by step.
-/

namespace Fallible

variable {α β γ ε σ : Type}

/-! ## without state -/

theorem ok_bind (a : α) (f : α → Except ε β) : (Except.ok a >>= f) = f a := rfl

theorem mapError_eq_ok_iff {ε' : Type} {x : Except ε α} {f : ε → ε'} {a : α} :
    x.mapError f = .ok a ↔ x = .ok a := by
  cases x <;> simp [Except.mapError]

theorem error_bind (e : ε) (f : α → Except ε β) : (Except.error e >>= f) = .error e := rfl

theorem bind_eq_ok_iff {x : Except ε α} {f : α → Except ε β} {b : β} :
    (x >>= f) = .ok b ↔ ∃ a, x = .ok a ∧ f a = .ok b := by
  cases x with
  | error e =>
      constructor
      · intro h
        cases h
      · rintro ⟨a, ha, _⟩
        cases ha
  | ok a =>
      constructor
      · exact fun h => ⟨a, rfl, h⟩
      · rintro ⟨a', ha, h⟩
        cases ha
        exact h

theorem bind_eq_error_iff {x : Except ε α} {f : α → Except ε β} {e : ε} :
    (x >>= f) = .error e ↔ x = .error e ∨ ∃ a, x = .ok a ∧ f a = .error e := by
  cases x with
  | error e' =>
      constructor
      · intro h
        cases h
        exact .inl rfl
      · rintro (h | ⟨a, ha, _⟩)
        · cases h
          rfl
        · cases ha
  | ok a =>
      constructor
      · exact fun h => .inr ⟨a, rfl, h⟩
      · rintro (h | ⟨a', ha, h⟩)
        · cases h
        · cases ha
          exact h

/-- A sequence succeeds exactly when every step does, with their results in
order. -/
theorem mapM_eq_ok_iff {f : α → Except ε β} {l : List α} {r : List β} :
    l.mapM f = .ok r ↔ List.Forall₂ (fun a b => f a = .ok b) l r := by
  induction l generalizing r with
  | nil =>
      rw [List.mapM_nil, List.forall₂_nil_left_iff]
      exact ⟨fun h => (Except.ok.inj h).symm, fun h => h ▸ rfl⟩
  | cons a l ih =>
      rw [List.mapM_cons, List.forall₂_cons_left_iff, bind_eq_ok_iff]
      constructor
      · rintro ⟨b, hb, hrest⟩
        obtain ⟨bs, hbs, hr⟩ := bind_eq_ok_iff.mp hrest
        cases hr
        exact ⟨b, bs, hb, ih.mp hbs, rfl⟩
      · rintro ⟨b, bs, hb, hbs, rfl⟩
        exact ⟨b, hb, bind_eq_ok_iff.mpr ⟨bs, ih.mpr hbs, rfl⟩⟩

/-- A sequence that undoes what was done to each element. -/
theorem mapM_map_of_eq_ok {f : α → Except ε β} {g : β → α} (h : ∀ b, f (g b) = .ok b)
    (l : List β) : (l.map g).mapM f = .ok l := by
  rw [mapM_eq_ok_iff, List.forall₂_map_left_iff, List.forall₂_same]
  exact fun b _ => h b

/-- Every step of a sequence that succeeds does. -/
theorem exists_of_mapM_eq_ok {f : α → Except ε β} {l : List α} {r : List β}
    (h : l.mapM f = .ok r) {a : α} (ha : a ∈ l) : ∃ b, f a = .ok b := by
  have hall := mapM_eq_ok_iff.mp h
  clear h
  induction hall with
  | nil => cases ha
  | cons hb _ ih =>
      rcases List.mem_cons.mp ha with rfl | hmem
      · exact ⟨_, hb⟩
      · exact ih hmem

/-- A step of a sequence that succeeds, by its position. -/
theorem getElem?_of_mapM_eq_ok {f : α → Except ε β} {l : List α} {r : List β}
    (h : l.mapM f = .ok r) {i : ℕ} {a : α} (ha : l[i]? = some a) :
    ∃ b, r[i]? = some b ∧ f a = .ok b := by
  have hall := mapM_eq_ok_iff.mp h
  clear h
  induction hall generalizing i with
  | nil => simp at ha
  | cons hb _ ih =>
      cases i with
      | zero =>
          cases ha
          exact ⟨_, rfl, hb⟩
      | succ i => exact ih ha

/-- What holds of some result holds of the step it comes from. -/
theorem exists_mem_iff_of_mapM_eq_ok {f : α → Except ε β} {l : List α} {r : List β}
    (h : l.mapM f = .ok r) {p : α → Prop} {q : β → Prop}
    (hpq : ∀ a b, f a = .ok b → (p a ↔ q b)) : (∃ b ∈ r, q b) ↔ ∃ a ∈ l, p a := by
  have hall := mapM_eq_ok_iff.mp h
  clear h
  induction hall with
  | nil => simp
  | cons hb _ ih => simp [ih, hpq _ _ hb]

/-- The first steps of a sequence that succeeds. -/
theorem mapM_take {f : α → Except ε β} {l : List α} {r : List β} (h : l.mapM f = .ok r) (n : ℕ) :
    (l.take n).mapM f = .ok (r.take n) :=
  mapM_eq_ok_iff.mpr (List.forall₂_take n (mapM_eq_ok_iff.mp h))

/-- A sequence succeeds exactly when each of its steps does on its own. -/
theorem exists_mapM_eq_ok_iff {f : α → Except ε β} {l : List α} :
    (∃ r, l.mapM f = .ok r) ↔ ∀ a ∈ l, ∃ b, f a = .ok b := by
  constructor
  · rintro ⟨r, h⟩ a ha
    exact exists_of_mapM_eq_ok h ha
  · intro hall
    induction l with
    | nil => exact ⟨[], rfl⟩
    | cons a l ih =>
        obtain ⟨b, hb⟩ := hall a List.mem_cons_self
        obtain ⟨bs, hbs⟩ := ih fun a' ha' => hall a' (List.mem_cons_of_mem _ ha')
        exact ⟨b :: bs, mapM_eq_ok_iff.mpr (.cons hb (mapM_eq_ok_iff.mp hbs))⟩

theorem length_of_mapM_eq_ok {f : α → Except ε β} {l : List α} {r : List β}
    (h : l.mapM f = .ok r) : r.length = l.length := (mapM_eq_ok_iff.mp h).length_eq.symm

/-- Every result of a sequence is some step's. -/
theorem exists_mem_of_mapM_eq_ok {f : α → Except ε β} {l : List α} {r : List β}
    (h : l.mapM f = .ok r) {b : β} (hb : b ∈ r) : ∃ a ∈ l, f a = .ok b := by
  have hiff := exists_mem_iff_of_mapM_eq_ok (p := fun a => f a = .ok b) (q := (· = b)) h
    (by simp_all)
  exact hiff.mp ⟨b, hb, rfl⟩

/-- Two element-by-element relations, one after the other. -/
theorem forall₂_comp {R : α → β → Prop} {S : β → γ → Prop} {as : List α} {bs : List β}
    {cs : List γ} (hab : List.Forall₂ R as bs) (hbc : List.Forall₂ S bs cs) :
    List.Forall₂ (fun a c => ∃ b, R a b ∧ S b c) as cs := by
  induction hab generalizing cs with
  | nil =>
      cases hbc
      exact .nil
  | cons hR _ ih =>
      cases hbc with
      | cons hS hrest => exact .cons ⟨_, hR, hS⟩ (ih hrest)

/-- An element-by-element relation, by position. -/
theorem getElem?_of_forall₂ {R : α → β → Prop} {as : List α} {bs : List β}
    (h : List.Forall₂ R as bs) {i : ℕ} {a : α} (ha : as[i]? = some a) :
    ∃ b, bs[i]? = some b ∧ R a b := by
  induction h generalizing i with
  | nil => simp at ha
  | cons hR _ ih =>
      cases i with
      | zero =>
          cases ha
          exact ⟨_, rfl, hR⟩
      | succ i => exact ih ha

/-- A sequence fails exactly with the error of its first failing step. -/
theorem mapM_eq_error_iff {f : α → Except ε β} {l : List α} {e : ε} :
    l.mapM f = .error e ↔
      ∃ pre a post bs, l = pre ++ a :: post ∧
        List.Forall₂ (fun a b => f a = .ok b) pre bs ∧ f a = .error e := by
  induction l with
  | nil =>
      constructor
      · intro h
        cases h
      · rintro ⟨pre, a, post, bs, h, _⟩
        simp at h
  | cons a l ih =>
      rw [List.mapM_cons, bind_eq_error_iff]
      constructor
      · rintro (ha | ⟨b, hb, hrest⟩)
        · exact ⟨[], a, l, [], rfl, .nil, ha⟩
        · rcases bind_eq_error_iff.mp hrest with hl | ⟨bs, _, h⟩
          · obtain ⟨pre, a', post, bs, rfl, hpre, ha'⟩ := ih.mp hl
            exact ⟨a :: pre, a', post, b :: bs, rfl, .cons hb hpre, ha'⟩
          · cases h
      · rintro ⟨pre, a', post, bs, h, hpre, ha'⟩
        cases hpre with
        | nil =>
            cases h
            exact .inl ha'
        | cons hb hbs =>
            cases h
            exact .inr ⟨_, hb, bind_eq_error_iff.mpr (.inl (ih.mpr ⟨_, _, _, _, rfl, hbs, ha'⟩))⟩

/-! ## with a state -/

section

variable {x : EStateM ε σ α} {f : α → EStateM ε σ β} {a : α} {e : ε} {s s' : σ}

theorem run_bind_of_ok (h : x s = .ok a s') : (x >>= f) s = f a s' := by
  simp only [bind, EStateM.bind, h]

theorem run_bind_of_error (h : x s = .error e s') : (x >>= f) s = .error e s' := by
  simp only [bind, EStateM.bind, h]

theorem run_map_of_ok {g : α → β} (h : x s = .ok a s') : (g <$> x) s = .ok (g a) s' := by
  simp only [Functor.map, EStateM.map, h]

theorem run_map_of_error {g : α → β} (h : x s = .error e s') : (g <$> x) s = .error e s' := by
  simp only [Functor.map, EStateM.map, h]

theorem run_map_congr {y : EStateM ε σ α} (g : α → β) (h : x s = y s') :
    (g <$> x) s = (g <$> y) s' := by
  simp only [Functor.map, EStateM.map, h]

theorem run_bind_eq_ok {b : β} {t : σ} (h : (x >>= f) s = .ok b t) :
    ∃ a s', x s = .ok a s' ∧ f a s' = .ok b t := by
  cases hx : x s with
  | ok a s' =>
      rw [run_bind_of_ok hx] at h
      exact ⟨a, s', rfl, h⟩
  | error e s' =>
      rw [run_bind_of_error hx] at h
      cases h

theorem run_map_eq_ok {g : α → β} {b : β} {t : σ} (h : (g <$> x) s = .ok b t) :
    ∃ a, x s = .ok a t ∧ b = g a := by
  cases hx : x s with
  | ok a s' =>
      rw [run_map_of_ok hx] at h
      cases h
      exact ⟨a, rfl, rfl⟩
  | error e s' =>
      rw [run_map_of_error hx] at h
      cases h

theorem run_map_eq_error {g : α → β} (h : (g <$> x) s = .error e s') : x s = .error e s' := by
  cases hx : x s with
  | ok a t =>
      rw [run_map_of_ok hx] at h
      cases h
  | error e' t =>
      rw [run_map_of_error hx] at h
      cases h
      rfl

theorem run_pure (a : α) (s : σ) : (pure a : EStateM ε σ α) s = .ok a s := rfl

/-- A computation that does not touch the state. -/
def lift (x : Except ε α) : EStateM ε σ α := fun s =>
  match x with
  | .ok a => .ok a s
  | .error e => .error e s

theorem run_lift_ok (a : α) (s : σ) : lift (.ok a : Except ε α) s = .ok a s := rfl

theorem run_lift_error (e : ε) (s : σ) : lift (.error e : Except ε α) s = .error e s := rfl

end

/-- What a computation returned. -/
def outcome : EStateM.Result ε σ α → Except ε α
  | .ok a _ => .ok a
  | .error e _ => .error e

/-- The state a computation left. -/
def stateOf : EStateM.Result ε σ α → σ
  | .ok _ s | .error _ s => s

theorem outcome_eq_ok_iff {r : EStateM.Result ε σ α} {a : α} :
    outcome r = .ok a ↔ ∃ s, r = .ok a s := by
  cases r with
  | ok a' s => simp [outcome]
  | error e s => simp [outcome]

theorem outcome_lift (x : Except ε α) (s : σ) : outcome (lift x s) = x := by
  cases x with
  | ok a => rfl
  | error e => rfl

theorem stateOf_lift (x : Except ε α) (s : σ) : stateOf (lift x s) = s := by
  cases x with
  | ok a => rfl
  | error e => rfl

/-- A result is what was returned and the state that was left. -/
theorem result_ext {r r' : EStateM.Result ε σ α} (houtcome : outcome r = outcome r')
    (hstate : stateOf r = stateOf r') : r = r' := by
  cases r with
  | ok a s =>
      cases r' with
      | ok a' s' =>
          cases houtcome
          cases hstate
          rfl
      | error e' s' => cases houtcome
  | error e s =>
      cases r' with
      | ok a' s' => cases houtcome
      | error e' s' =>
          cases houtcome
          cases hstate
          rfl

theorem outcome_map (g : α → β) (x : EStateM ε σ α) (s : σ) :
    outcome ((g <$> x) s) = (outcome (x s)).map g := by
  cases h : x s with
  | ok a s' =>
      rw [run_map_of_ok h]
      rfl
  | error e s' =>
      rw [run_map_of_error h]
      rfl

theorem stateOf_map (g : α → β) (x : EStateM ε σ α) (s : σ) :
    stateOf ((g <$> x) s) = stateOf (x s) := by
  cases h : x s with
  | ok a s' =>
      rw [run_map_of_ok h]
      rfl
  | error e s' =>
      rw [run_map_of_error h]
      rfl

/-- The steps `f a`, one after another from `s`, all succeed: their results,
and the state they leave. -/
inductive All (f : α → EStateM ε σ β) : σ → List α → List β → σ → Prop where
  | nil (s : σ) : All f s [] [] s
  | cons {s s' t : σ} {a : α} {b : β} {as : List α} {bs : List β} :
      f a s = .ok b s' → All f s' as bs t → All f s (a :: as) (b :: bs) t

/-- Of the steps `f a`, one after another from `s`, all up to some step
succeed and that step fails: its error, and the state it leaves. -/
def FirstFails (f : α → EStateM ε σ β) (s : σ) (l : List α) (e : ε) (t : σ) : Prop :=
  ∃ pre a post bs s', l = pre ++ a :: post ∧ All f s pre bs s' ∧ f a s' = .error e t

/-- The loop after its first step. -/
theorem run_mapM_cons_of_ok {f : α → EStateM ε σ β} {s s' : σ} {a : α} {b : β} (l : List α)
    (h : f a s = .ok b s') : (a :: l).mapM f s = (List.cons b <$> l.mapM f) s' := by
  rw [List.mapM_cons, run_bind_of_ok h]
  simp only [bind_pure_comp]

theorem run_mapM_cons_of_error {f : α → EStateM ε σ β} {s s' : σ} {a : α} {e : ε} (l : List α)
    (h : f a s = .error e s') : (a :: l).mapM f s = .error e s' := by
  rw [List.mapM_cons, run_bind_of_error h]

theorem run_mapM_of_all {f : α → EStateM ε σ β} {s t : σ} {l : List α} {bs : List β}
    (h : All f s l bs t) : l.mapM f s = .ok bs t := by
  induction h with
  | nil s => rfl
  | cons ha _ ih =>
      rw [run_mapM_cons_of_ok _ ha]
      exact run_map_of_ok ih

theorem run_mapM_of_firstFails {f : α → EStateM ε σ β} {s t : σ} {l : List α} {e : ε}
    (h : FirstFails f s l e t) : l.mapM f s = .error e t := by
  obtain ⟨pre, a, post, bs, s', rfl, hpre, ha⟩ := h
  induction hpre with
  | nil s => exact run_mapM_cons_of_error post ha
  | cons ha' _ ih =>
      rw [List.cons_append, run_mapM_cons_of_ok _ ha']
      exact run_map_of_error (ih ha)

/-- A sequence of steps either succeeds throughout or has a first failure. -/
theorem all_or_firstFails (f : α → EStateM ε σ β) (s : σ) (l : List α) :
    (∃ bs t, All f s l bs t) ∨ ∃ e t, FirstFails f s l e t := by
  induction l generalizing s with
  | nil => exact .inl ⟨[], s, .nil s⟩
  | cons a l ih =>
      cases ha : f a s with
      | error e t => exact .inr ⟨e, t, [], a, l, [], s, rfl, .nil s, ha⟩
      | ok b s' =>
          rcases ih s' with ⟨bs, t, hall⟩ | ⟨e, t, pre, a', post, bs, s'', rfl, hpre, ha'⟩
          · exact .inl ⟨b :: bs, t, .cons ha hall⟩
          · exact .inr ⟨e, t, a :: pre, a', post, b :: bs, s'', rfl, .cons ha hpre, ha'⟩

/-- The loop succeeds exactly when every step does, one after another. -/
theorem run_mapM_eq_ok_iff {f : α → EStateM ε σ β} {s t : σ} {l : List α} {bs : List β} :
    l.mapM f s = .ok bs t ↔ All f s l bs t := by
  refine ⟨fun h => ?_, run_mapM_of_all⟩
  rcases all_or_firstFails f s l with ⟨bs', t', hall⟩ | ⟨e, t', hfail⟩
  · rw [run_mapM_of_all hall] at h
    cases h
    exact hall
  · rw [run_mapM_of_firstFails hfail] at h
    cases h

/-- The loop fails exactly with its first failing step. -/
theorem run_mapM_eq_error_iff {f : α → EStateM ε σ β} {s t : σ} {l : List α} {e : ε} :
    l.mapM f s = .error e t ↔ FirstFails f s l e t := by
  refine ⟨fun h => ?_, run_mapM_of_firstFails⟩
  rcases all_or_firstFails f s l with ⟨bs, t', hall⟩ | ⟨e', t', hfail⟩
  · rw [run_mapM_of_all hall] at h
    cases h
  · rw [run_mapM_of_firstFails hfail] at h
    cases h
    exact hfail

/-- As many results as steps. -/
theorem All.length_eq {f : α → EStateM ε σ β} {s t : σ} {l : List α} {bs : List β}
    (h : All f s l bs t) : bs.length = l.length := by
  induction h with
  | nil s => rfl
  | cons _ _ ih => rw [List.length_cons, List.length_cons, ih]

/-- One of the steps, and those before it. -/
theorem All.at {f : α → EStateM ε σ β} {s t : σ} {l : List α} {bs : List β} (h : All f s l bs t)
    {k : ℕ} {a : α} (ha : l[k]? = some a) :
    ∃ b s' s'', bs[k]? = some b ∧ All f s (l.take k) (bs.take k) s' ∧ f a s' = .ok b s'' := by
  induction h generalizing k with
  | nil s => cases ha
  | @cons s s' t first b as bs hfirst _ ih =>
      cases k with
      | zero =>
          cases ha
          exact ⟨b, s, s', rfl, .nil s, hfirst⟩
      | succ k =>
          obtain ⟨b', u, u', hb, hall, hstep⟩ := ih ha
          exact ⟨b', u, u', hb, .cons hfirst hall, hstep⟩

/-! ## which errors there are -/

/-- Whatever error there is, is one of these. -/
def Raises (p : ε → Prop) (x : Except ε α) : Prop := ∀ e, x = .error e → p e

section

variable {p q : ε → Prop}

theorem raises_ok (a : α) : Raises p (.ok a : Except ε α) := by
  intro e h
  cases h

theorem raises_error {e : ε} (h : p e) : Raises p (.error e : Except ε α) := by
  intro e' h'
  cases h'
  exact h

theorem Raises.mono {x : Except ε α} (h : Raises p x) (hpq : ∀ e, p e → q e) : Raises q x :=
  fun e he => hpq e (h e he)

theorem Raises.bind {x : Except ε α} {f : α → Except ε β} (hx : Raises p x)
    (hf : ∀ a, x = .ok a → Raises p (f a)) : Raises p (x >>= f) := by
  intro e h
  rcases bind_eq_error_iff.mp h with he | ⟨a, ha, he⟩
  · exact hx e he
  · exact hf a ha e he

theorem Raises.map {x : Except ε α} (h : Raises p x) (g : α → β) : Raises p (x.map g) := by
  intro e he
  cases x with
  | ok a => cases he
  | error e' =>
      cases he
      exact h _ rfl

theorem raises_mapM {f : α → Except ε β} {l : List α} (h : ∀ a ∈ l, Raises p (f a)) :
    Raises p (l.mapM f) := by
  intro e he
  obtain ⟨pre, a, post, _, rfl, _, ha⟩ := mapM_eq_error_iff.mp he
  exact h a (by simp) e ha

theorem raises_mapError {ε' : Type} {f : ε' → ε} {x : Except ε' α}
    (h : ∀ e, x = .error e → p (f e)) : Raises p (x.mapError f) := by
  intro e he
  cases x with
  | ok a => cases he
  | error e' =>
      cases he
      exact h e' rfl

/-- With a state, a step's errors may depend on what the step before it did. -/
theorem raises_run_bind {x : EStateM ε σ α} {f : α → EStateM ε σ β} {s : σ}
    (hx : Raises p (outcome (x s)))
    (hf : ∀ a t, x s = .ok a t → Raises p (outcome (f a t))) :
    Raises p (outcome ((x >>= f) s)) := by
  cases h : x s with
  | ok a t =>
      rw [run_bind_of_ok h]
      exact hf a t h
  | error e t =>
      rw [run_bind_of_error h]
      rw [h] at hx
      exact raises_error (hx e rfl)

theorem raises_run_map {x : EStateM ε σ α} {s : σ} (h : Raises p (outcome (x s))) (g : α → β) :
    Raises p (outcome ((g <$> x) s)) := by
  rw [outcome_map]
  exact h.map g

theorem raises_run_lift {x : Except ε α} (h : Raises p x) (s : σ) :
    Raises p (outcome (lift x s)) := by
  rwa [outcome_lift]

end

/-- The error there is, if any. -/
def errorOf : Except ε α → Option ε
  | .ok _ => none
  | .error e => some e

theorem mem_errorOf {x : Except ε α} {e : ε} : e ∈ (errorOf x).toList ↔ x = .error e := by
  cases x <;> simp [errorOf, eq_comm]

theorem filterMap_errorOf_ok (l : List α) :
    (l.map (.ok : α → Except ε α)).filterMap errorOf = [] := by
  rw [List.filterMap_map]
  exact List.filterMap_eq_nil_iff.mpr fun a _ => rfl

end Fallible
