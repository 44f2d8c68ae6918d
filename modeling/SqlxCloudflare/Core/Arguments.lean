import SqlxCloudflare.Core.Js

/-!
# SqlxCloudflare.Core.Arguments

The parameters bound to one query, and `addArgument`, the one way values get
onto them.

An encoder is lent the whole buffer and may do anything to it, so what
`addArgument` guarantees depends on what the encoder did:

* an encoder that only pushes is harmless when it reports NULL or fails,
  because the buffer is cut back to its old length;
* an encoder that reports a value is trusted to have pushed exactly one;
* no encoder is stopped from changing the values already there.

`argumentsLineUp_iff` is the exact condition under which every placeholder of
a sequence of calls gets the value bound for it.
-/

namespace SqlxCloudflare

/-- What an encoder reports it has written. -/
inductive IsNull where
  | yes
  | no
deriving DecidableEq, Repr

/-- An `Encode` implementation at work on one value: what it reports, and what
it leaves of the buffer it is lent. -/
abbrev Encoder := List Value → Except BoxDynError IsNull × List Value

/-- Encodes a value onto `values`, as one placeholder's worth. -/
def addArgument (encode : Encoder) (values : List Value) :
    Except BoxDynError Unit × List Value :=
  let len := values.length
  match encode values with
  | (.ok .yes, values) => (.ok (), values.take len ++ [.null])
  | (.ok .no, values) => (.ok (), values)
  | (.error error, values) => (.error error, values.take len)

/-- The parameters bound to one query, in placeholder order: `DoArguments` and
`D1Arguments`, which are one struct in each driver. -/
structure Arguments where
  values : List Value
deriving DecidableEq

namespace Arguments

def default : Arguments := ⟨[]⟩

/-- `Arguments::add`. -/
def add (encode : Encoder) (arguments : Arguments) : Except BoxDynError Unit × Arguments :=
  let (result, values) := addArgument encode arguments.values
  (result, ⟨values⟩)

/-- The arguments after one `add` for each encoder, in order. -/
def addAll (encoders : List Encoder) (arguments : Arguments) : Arguments :=
  encoders.foldl (fun arguments encode => (arguments.add encode).2) arguments

end Arguments

/-! ## one call -/

/-- One call of `add`: the encoder, and the values it is lent. -/
structure AddCall where
  encode : Encoder
  before : List Value

namespace AddCall

def result (call : AddCall) : Except BoxDynError Unit := (addArgument call.encode call.before).1

def after (call : AddCall) : List Value := (addArgument call.encode call.before).2

/-- The call succeeded and appended `value`, and only that. -/
def Appends (call : AddCall) (value : Value) : Prop :=
  call.result = .ok () ∧ call.after = call.before ++ [value]

/-- The call keeps placeholders and values lined up: one value more if it
succeeds, none if it fails. -/
def LinesUp (call : AddCall) : Prop :=
  match call.result with
  | .ok () => ∃ value, call.after = call.before ++ [value]
  | .error _ => call.after = call.before

/-- What the call needs of its encoder: exactly one value pushed when it
reports one, and otherwise at least the values it was lent left in place. -/
def Disciplined (call : AddCall) : Prop :=
  match call.encode call.before with
  | (.ok .no, values) => ∃ value, values = call.before ++ [value]
  | (.ok .yes, values) => call.before <+: values
  | (.error _, values) => call.before <+: values

theorem take_length_eq_iff_prefix {before values : List Value} :
    values.take before.length = before ↔ before <+: values :=
  ⟨fun h => List.prefix_iff_eq_take.mpr h.symm, fun h => (List.prefix_iff_eq_take.mp h).symm⟩

theorem concat_eq_concat_iff {xs ys : List Value} {x : Value} :
    (∃ y, xs ++ [x] = ys ++ [y]) ↔ xs = ys := by
  constructor
  · rintro ⟨y, h⟩
    exact (List.append_inj' h rfl).1
  · rintro rfl
    exact ⟨x, rfl⟩

/-- A call lines up exactly when its encoder is disciplined. -/
theorem linesUp_iff_disciplined (call : AddCall) : call.LinesUp ↔ call.Disciplined := by
  unfold LinesUp Disciplined result after addArgument
  obtain ⟨report, values⟩ := call.encode call.before
  cases report with
  | error error => exact take_length_eq_iff_prefix
  | ok isNull =>
      cases isNull with
      | no => exact Iff.rfl
      | yes => exact concat_eq_concat_iff.trans take_length_eq_iff_prefix

theorem linesUp_iff (call : AddCall) :
    call.LinesUp ↔ (∃ value, call.Appends value) ∨
      (∃ error, call.result = .error error ∧ call.after = call.before) := by
  unfold LinesUp Appends
  cases call.result with
  | ok u => simp
  | error e => simp

end AddCall

/-! ## a sequence of calls -/

/-- The calls of a sequence, each with the values it finds. -/
def addCalls : List Encoder → List Value → List AddCall
  | [], _ => []
  | encode :: encoders, values =>
    ⟨encode, values⟩ :: addCalls encoders (addArgument encode values).2

/-- The calls that succeeded. -/
def AddCall.succeeded (call : AddCall) : Bool := call.result.isOk

/-- Every placeholder of a sequence of calls gets the value bound for it. -/
structure ArgumentsLineUp (encoders : List Encoder) : Prop where
  /-- A successful call appends one value, a failing one changes nothing. -/
  each_call : ∀ call ∈ addCalls encoders [], call.LinesUp
  /-- The values are one for each successful call, in order. -/
  values : List.Forall₂ AddCall.Appends ((addCalls encoders []).filter AddCall.succeeded)
    (Arguments.default.addAll encoders).values
  /-- What is sent for the i-th parameter is the i-th successful call's value. -/
  sent : ∀ parameters, toJsArray (Arguments.default.addAll encoders).values = .ok parameters →
    List.Forall₂ (fun (call : AddCall) parameter =>
        ∃ value, call.Appends value ∧ toJs value = .ok parameter)
      ((addCalls encoders []).filter AddCall.succeeded) parameters

/-- The values after a sequence of calls that line up: those before it, then
one for each successful call. -/
theorem values_addAll_of_linesUp (encoders : List Encoder) (arguments : Arguments)
    (h : ∀ call ∈ addCalls encoders arguments.values, call.LinesUp) :
    ∃ new, (arguments.addAll encoders).values = arguments.values ++ new ∧
      List.Forall₂ AddCall.Appends
        ((addCalls encoders arguments.values).filter AddCall.succeeded) new := by
  induction encoders generalizing arguments with
  | nil => exact ⟨[], by simp [Arguments.addAll], .nil⟩
  | cons encode encoders ih =>
      let call : AddCall := ⟨encode, arguments.values⟩
      have hhead : call.LinesUp := h call List.mem_cons_self
      have htail := ih (arguments.add encode).2 fun c hc => h c (List.mem_cons_of_mem _ hc)
      obtain ⟨new, hnew, happends⟩ := htail
      have hvalues : (arguments.addAll (encode :: encoders)).values = call.after ++ new := hnew
      rw [hvalues]
      rcases (AddCall.linesUp_iff call).mp hhead with ⟨value, hvalue⟩ | ⟨error, herror, hsame⟩
      · refine ⟨value :: new, by rw [hvalue.2, List.append_assoc]; rfl, ?_⟩
        have hok : call.succeeded = true := by simp [AddCall.succeeded, hvalue.1, Except.isOk,
          Except.toBool]
        rw [addCalls, List.filter_cons_of_pos hok]
        exact .cons hvalue happends
      · refine ⟨new, by rw [hsame], ?_⟩
        have hfail : ¬call.succeeded = true := by simp [AddCall.succeeded, herror, Except.isOk,
          Except.toBool]
        rw [addCalls, List.filter_cons_of_neg hfail]
        exact happends

/-- **Arguments line up exactly when every encoder is disciplined**: each one
that reports a value pushed exactly one, and each one that reports NULL or
fails left in place the values it was lent. -/
theorem argumentsLineUp_iff (encoders : List Encoder) :
    ArgumentsLineUp encoders ↔ ∀ call ∈ addCalls encoders [], call.Disciplined := by
  have heach : (∀ call ∈ addCalls encoders [], call.LinesUp) ↔
      ∀ call ∈ addCalls encoders [], call.Disciplined :=
    forall₂_congr fun call _ => call.linesUp_iff_disciplined
  rw [← heach]
  refine ⟨ArgumentsLineUp.each_call, fun h => ?_⟩
  obtain ⟨new, hnew, happends⟩ := values_addAll_of_linesUp encoders Arguments.default h
  rw [show Arguments.default.values = [] from rfl, List.nil_append] at hnew
  rw [← hnew] at happends
  refine ⟨h, happends, fun parameters hsent => ?_⟩
  have hsent' := Fallible.mapM_eq_ok_iff.mp hsent
  exact Fallible.forall₂_comp happends hsent'

/-- An encoder that reports a value it never pushed is believed: the call
succeeds with no value for its placeholder, and the next call's value is sent
in its place. -/
theorem not_argumentsLineUp_of_no_push :
    ¬ArgumentsLineUp [fun values => (.ok .no, values),
      fun values => (.ok .no, values ++ [.text "second"])] := by
  intro h
  obtain ⟨value, hvalue⟩ := h.each_call ⟨fun values => (.ok .no, values), []⟩ List.mem_cons_self
  cases hvalue

end SqlxCloudflare
