import SqlxCloudflare.Core.RoundTrip

/-!
# SqlxCloudflare.Core.NormalForm

What `fromJs` returns.  A value that was read is in normal form
(`normal_of_fromJs`): a number that could be an `INTEGER` is one, and every
`INTEGER` is safe.  So it can be bound as it is, and comes back unchanged.
-/

namespace SqlxCloudflare

open Fallible Ieee

/-! ## the image of `fromJs` -/

/-- Classifying a number that was left a `REAL` leaves it one. -/
theorem normal_fromNumber (x : F64) : (Value.fromNumber x).normal = Value.fromNumber x := by
  rcases fromNumber_cases x with ⟨n, hsafe, _, hinteger⟩ | hreal
  · rw [hinteger]
    rfl
  · rw [hreal, Value.normal, hreal]

/-- A value that was read is in normal form. -/
theorem normal_of_fromJs [JsDebug] {value : JsValue} {v : Value} (h : fromJs value = .ok v) :
    v.normal = v := by
  cases value with
  | number x =>
      cases h
      exact normal_fromNumber x
  | array elements =>
      obtain ⟨bytes, _, hbytes⟩ := bind_eq_ok_iff.mp h
      cases hbytes
      rfl
  | undefined | null | boolean _ | string _ | arrayBuffer _ | uint8Array _ =>
      cases h
      rfl
  | object _ | error _ _ | other _ => cases h

/-- An integer that was read is safe. -/
theorem safe_of_fromJs [JsDebug] {value : JsValue} {n : I64} (h : fromJs value = .ok (.integer n)) :
    Safe n.val := by
  cases value with
  | number x =>
      have hx : Value.fromNumber x = .integer n := Except.ok.inj h
      rcases fromNumber_cases x with ⟨m, hsafe, _, hinteger⟩ | hreal
      · rw [hinteger] at hx
        cases hx
        exact hsafe
      · rw [hreal] at hx
        cases hx
  | boolean b =>
      cases h
      cases b <;> decide
  | array elements =>
      obtain ⟨bytes, _, hbytes⟩ := bind_eq_ok_iff.mp h
      cases hbytes
  | undefined | null | string _ | arrayBuffer _ | uint8Array _ => cases h
  | object _ | error _ _ | other _ => cases h

/-- Every value but an integer that is not safe can be bound. -/
theorem exists_toJs_of_safe {v : Value} (h : ∀ n, v = .integer n → Safe n.val) :
    ∃ sent, toJs v = .ok sent := by
  cases v with
  | integer n => exact ⟨_, by rw [toJs, safeInteger_of_safe (h n rfl)]; rfl⟩
  | null | real _ | text _ | blob _ => exact ⟨_, rfl⟩

/-! ## arrays -/

/-- An array that is not of bytes is refused, whatever the element is. -/
theorem exists_fromJs_array_eq_error_iff [JsDebug] (elements : List JsValue) :
    (∃ error, fromJs (.array elements) = .error error) ↔
      ∃ element ∈ elements, ¬∃ number n, element = .number number ∧
        number.toRat? = some ((n : ℤ) : ℚ) ∧ 0 ≤ n ∧ n ≤ 255 := by
  have hbyte : ∀ element : JsValue, (∃ number, element.asF64 = some number ∧ isByte number) ↔
      ∃ number n, element = .number number ∧
        number.toRat? = some ((n : ℤ) : ℚ) ∧ 0 ≤ n ∧ n ≤ 255 := by
    intro element
    cases element with
    | number x => simp [JsValue.asF64, isByte_iff]
    | _ => simp [JsValue.asF64]
  have hconvertible := exists_fromJs_iff (.array elements)
  simp only [Convertible, hbyte] at hconvertible
  cases hread : fromJs (.array elements) with
  | error error =>
      rw [hread] at hconvertible
      simpa using hconvertible
  | ok v =>
      rw [hread] at hconvertible
      simpa using hconvertible

/-! ## values that were read -/

/-- **A value that was read is in normal form, and can be bound again.** -/
theorem fromJs_normalForm [JsDebug] (value : JsValue) :
    (∀ v, fromJs value = .ok v →
      (∀ n, v = .integer n → Safe n.val) ∧
        ∃ sent, toJs v = .ok sent ∧ fromJs sent = .ok v) ∧
    ∀ elements, value = .array elements →
      ((∃ error, fromJs value = .error error) ↔
        ∃ element ∈ elements, ¬∃ number n, element = .number number ∧
          number.toRat? = some ((n : ℤ) : ℚ) ∧ 0 ≤ n ∧ n ≤ 255) := by
  constructor
  · intro v hv
    have hsafe : ∀ n, v = .integer n → Safe n.val := fun n hn => safe_of_fromJs (hn ▸ hv)
    obtain ⟨sent, hsent⟩ := exists_toJs_of_safe hsafe
    have hback := fromJs_of_comesBackAs hsent (.same sent)
    rw [normal_of_fromJs hv] at hback
    exact ⟨hsafe, sent, hsent, hback⟩
  · intro elements h
    subst h
    exact exists_fromJs_array_eq_error_iff elements

/-- Negative zero is read as the integer 0, which is bound as zero. -/
theorem fromJs_normalForm_negative_zero :
    letI := JsDebug.describing
    ∃ v, fromJs (.number (.zero true)) = .ok v ∧
      ∃ sent, toJs v = .ok sent ∧ fromJs sent = .ok v :=
  letI := JsDebug.describing
  ⟨_, rfl, ((fromJs_normalForm (.number (.zero true))).1 _ rfl).2⟩

end SqlxCloudflare
