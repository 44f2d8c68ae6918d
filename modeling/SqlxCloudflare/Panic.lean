import SqlxCloudflare.Fallible

/-!
# SqlxCloudflare.Panic

Computations that may panic.  An error is a value, which a caller may look at
and recover from; a panic is not, and nothing runs after it.  Both end a
computation early, so they share its error channel (`Stop`), and a sequence
stops at either; but whoever looks at a computation's result goes through
`attempt`, which hands out errors and lets panics pass.

* `attempt_eq_ok_iff`, `attempt_eq_panic_iff` -- what a caller is given, and
  when it is not given anything.
-/

namespace Fallible

variable {α β ε σ : Type}

/-- A panic: nobody catches it. -/
structure Panic where
  message : String
deriving DecidableEq, Repr

/-- How a computation ends without a value: it returns an error, or panics. -/
inductive Stop (ε : Type) where
  | err (e : ε)
  | panic (panic : Panic)
deriving DecidableEq, Repr

/-! ## without state -/

/-- A computation that does not panic. -/
def returns (x : Except ε α) : Except (Stop ε) α := x.mapError .err

@[simp] theorem returns_ok (a : α) : returns (.ok a : Except ε α) = .ok a := rfl

@[simp] theorem returns_error (e : ε) : returns (.error e : Except ε α) = .error (.err e) := rfl

@[simp] theorem returns_eq_ok_iff {x : Except ε α} {a : α} : returns x = .ok a ↔ x = .ok a :=
  mapError_eq_ok_iff

@[simp] theorem returns_eq_err_iff {x : Except ε α} {e : ε} :
    returns x = .error (.err e) ↔ x = .error e := by
  cases x <;> simp

theorem returns_ne_panic (x : Except ε α) (panic : Panic) : returns x ≠ .error (.panic panic) := by
  cases x <;> simp

/-- What its caller is given: a value or an error to look at, unless there was
a panic. -/
def returned : Except (Stop ε) α → Except Panic (Except ε α)
  | .ok a => .ok (.ok a)
  | .error (.err e) => .ok (.error e)
  | .error (.panic panic) => .error panic

@[simp] theorem returned_eq_ok_iff {x : Except (Stop ε) α} {r : Except ε α} :
    returned x = .ok r ↔ x = returns r := by
  match x with
  | .ok a => cases r <;> simp [returned]
  | .error (.err e) => cases r <;> simp [returned]
  | .error (.panic panic) => cases r <;> simp [returned]

theorem returned_eq_error_iff {x : Except (Stop ε) α} {panic : Panic} :
    returned x = .error panic ↔ x = .error (.panic panic) := by
  match x with
  | .ok a => simp [returned]
  | .error (.err e) => simp [returned]
  | .error (.panic panic') => simp [returned]

/-! ## with a state -/

/-- A computation that does not panic. -/
def returning (x : EStateM ε σ α) : EStateM (Stop ε) σ α := fun s =>
  match x s with
  | .ok a s => .ok a s
  | .error e s => .error (.err e) s

/-- A computation that fails only by a panic. -/
def unfailing (x : EStateM Panic σ α) : EStateM (Stop ε) σ α := fun s =>
  match x s with
  | .ok a s => .ok a s
  | .error panic s => .error (.panic panic) s

/-- A computation whose result its caller looks at. -/
def attempt (x : EStateM (Stop ε) σ α) : EStateM Panic σ (Except ε α) := fun s =>
  match x s with
  | .ok a s => .ok (.ok a) s
  | .error (.err e) s => .ok (.error e) s
  | .error (.panic panic) s => .error panic s

section

variable {s t : σ}

theorem run_returning_of_ok {x : EStateM ε σ α} {a : α} (h : x s = .ok a t) :
    returning x s = .ok a t := by
  rw [returning, h]

theorem run_returning_of_error {x : EStateM ε σ α} {e : ε} (h : x s = .error e t) :
    returning x s = .error (.err e) t := by
  rw [returning, h]

theorem run_returning_eq_ok {x : EStateM ε σ α} {a : α} (h : returning x s = .ok a t) :
    x s = .ok a t := by
  rw [returning] at h
  split at h
  · next hx =>
      cases h
      exact hx
  · cases h

theorem outcome_returning (x : EStateM ε σ α) (s : σ) :
    outcome (returning x s) = returns (outcome (x s)) := by
  rw [returning]
  cases x s <;> rfl

theorem stateOf_returning (x : EStateM ε σ α) (s : σ) :
    stateOf (returning x s) = stateOf (x s) := by
  rw [returning]
  cases x s <;> rfl

theorem returning_map (f : α → β) (x : EStateM ε σ α) :
    returning (f <$> x) = f <$> returning x := by
  funext s
  cases h : x s with
  | ok a t =>
      rw [run_map_of_ok (run_returning_of_ok h)]
      exact run_returning_of_ok (run_map_of_ok h)
  | error e t =>
      rw [run_map_of_error (run_returning_of_error h)]
      exact run_returning_of_error (run_map_of_error h)

theorem run_unfailing_of_ok {x : EStateM Panic σ α} {a : α} (h : x s = .ok a t) :
    (unfailing x : EStateM (Stop ε) σ α) s = .ok a t := by
  rw [unfailing, h]

theorem run_unfailing_of_panic {x : EStateM Panic σ α} {panic : Panic}
    (h : x s = .error panic t) :
    (unfailing x : EStateM (Stop ε) σ α) s = .error (.panic panic) t := by
  rw [unfailing, h]

variable {x : EStateM (Stop ε) σ α}

theorem run_attempt_of_ok {a : α} (h : x s = .ok a t) : attempt x s = .ok (.ok a) t := by
  rw [attempt, h]

theorem run_attempt_of_err {e : ε} (h : x s = .error (.err e) t) :
    attempt x s = .ok (.error e) t := by
  rw [attempt, h]

theorem run_attempt_of_panic {panic : Panic} (h : x s = .error (.panic panic) t) :
    attempt x s = .error panic t := by
  rw [attempt, h]

/-- A caller is given what a computation returned, in the state it left. -/
theorem attempt_eq_ok_iff {r : Except ε α} :
    attempt x s = .ok r t ↔ outcome (x s) = returns r ∧ stateOf (x s) = t := by
  match h : x s with
  | .ok a s' => cases r <;> simp [run_attempt_of_ok h, outcome, stateOf]
  | .error (.err e) s' => cases r <;> simp [run_attempt_of_err h, outcome, stateOf]
  | .error (.panic panic) s' => cases r <;> simp [run_attempt_of_panic h, outcome]

/-- A panic is nobody's to look at. -/
theorem attempt_eq_panic_iff {panic : Panic} :
    attempt x s = .error panic t ↔ x s = .error (.panic panic) t := by
  match h : x s with
  | .ok a s' => simp [run_attempt_of_ok h]
  | .error (.err e) s' => simp [run_attempt_of_err h]
  | .error (.panic panic') s' => simp [run_attempt_of_panic h]

/-- An error that a caller is given. -/
theorem eq_err_of_attempt {e : ε} (h : attempt x s = .ok (.error e) t) :
    x s = .error (.err e) t := by
  obtain ⟨houtcome, hstate⟩ := attempt_eq_ok_iff.mp h
  exact result_ext houtcome hstate

theorem attempt_congr {y : EStateM (Stop ε) σ α} {s' : σ} (h : x s = y s') :
    attempt x s = attempt y s' := by
  simp only [attempt, h]

theorem attempt_map (f : α → β) (x : EStateM (Stop ε) σ α) :
    attempt (f <$> x) = Except.map f <$> attempt x := by
  funext s
  match h : x s with
  | .ok a s' =>
      rw [run_map_of_ok (run_attempt_of_ok h)]
      exact run_attempt_of_ok (run_map_of_ok h)
  | .error (.err e) s' =>
      rw [run_map_of_ok (run_attempt_of_err h)]
      exact run_attempt_of_err (run_map_of_error h)
  | .error (.panic panic) s' =>
      rw [run_map_of_error (run_attempt_of_panic h)]
      exact run_attempt_of_panic (run_map_of_error h)

/-- What does not panic, is always looked at. -/
theorem attempt_returning (x : EStateM ε σ α) (s : σ) :
    attempt (returning x) s = .ok (outcome (x s)) (stateOf (x s)) :=
  attempt_eq_ok_iff.mpr ⟨outcome_returning x s, stateOf_returning x s⟩

theorem attempt_lift_returns (r : Except ε α) (s : σ) : attempt (lift (returns r)) s = .ok r s :=
  attempt_eq_ok_iff.mpr ⟨outcome_lift _ s, stateOf_lift _ s⟩

/-- A computation whose error is looked at, in one that may panic itself. -/
def caught {ε' : Type} (x : EStateM (Stop ε) σ α) : EStateM (Stop ε') σ (Except ε α) :=
  unfailing (attempt x)

variable {ε' : Type}

theorem run_caught_of_ok {r : Except ε α} (h : returned (outcome (x s)) = .ok r) :
    (caught x : EStateM (Stop ε') σ (Except ε α)) s = .ok r (stateOf (x s)) :=
  run_unfailing_of_ok (attempt_eq_ok_iff.mpr ⟨returned_eq_ok_iff.mp h, rfl⟩)

theorem run_caught_of_panic {panic : Panic} (h : returned (outcome (x s)) = .error panic) :
    (caught x : EStateM (Stop ε') σ (Except ε α)) s = .error (.panic panic) (stateOf (x s)) := by
  refine run_unfailing_of_panic (attempt_eq_panic_iff.mpr ?_)
  exact result_ext (returned_eq_error_iff.mp h) rfl

end

end Fallible
