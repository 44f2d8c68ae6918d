import SqlxCloudflare.Core.Result
import SqlxCloudflare.Panic

/-!
# SqlxCloudflare.Core.Total

`Extend` for `QueryResult`: many results taken together as one.  The rows
affected are added up as `u64`s, which past 2^64 panics in a build with
overflow checks and wraps around in one without; the rowid is the last one
reported, not the last statement's.

* `extend_eq` -- the loop, as one sum and one rowid;
* `extend_totals` -- so results may be totalled in groups first.
-/

namespace SqlxCloudflare

open Fallible

/-! ## adding -/

theorem U64.wrap_nonneg (n : ℤ) : 0 ≤ n % 2 ^ 64 := Int.emod_nonneg n (by norm_num)

theorem U64.wrap_le (n : ℤ) : n % 2 ^ 64 ≤ 2 ^ 64 - 1 := by omega

/-- The `u64` a number wraps around to. -/
def U64.wrap (n : ℤ) : U64 := ⟨n % 2 ^ 64, U64.wrap_nonneg n, U64.wrap_le n⟩

/-- The panic of a sum past the end of its type. -/
def addOverflow : Panic := ⟨"attempt to add with overflow"⟩

/-- Rust's `a + b`, in a build with overflow checks or without. -/
def U64.add (checked : Bool) (a b : U64) : Except Panic U64 :=
  if checked && decide (2 ^ 64 ≤ a.val + b.val) then .error addOverflow
  else .ok (U64.wrap (a.val + b.val))

namespace QueryResult

/-- One turn of the loop: the last statement that reported a rowid, not the
last statement. -/
def extendOne (checked : Bool) (self result : QueryResult) : Except Panic QueryResult := do
  let rowsAffected ← U64.add checked self.rowsAffected result.rowsAffected
  return ⟨rowsAffected, result.lastInsertRowid.or self.lastInsertRowid⟩

def extend (checked : Bool) (self : QueryResult) (results : List QueryResult) :
    Except Panic QueryResult :=
  results.foldlM (extendOne checked) self

/-! ## the loop, as one sum -/

/-- The rows all of the results affected. -/
def affected (results : List QueryResult) : ℤ :=
  (results.map fun result => result.rowsAffected.val).sum

/-- The last rowid reported, or the one there was. -/
def lastReported (rowid : Option I64) (results : List QueryResult) : Option I64 :=
  (results.filterMap lastInsertRowid).getLast?.or rowid

/-- A sum of rows affected, and the last rowid. -/
def settle (checked : Bool) (rows : ℤ) (rowid : Option I64) : Except Panic QueryResult :=
  if checked && decide (2 ^ 64 ≤ rows) then .error addOverflow
  else .ok ⟨U64.wrap rows, rowid⟩

@[simp] theorem affected_nil : affected [] = 0 := rfl

theorem affected_cons (result : QueryResult) (results : List QueryResult) :
    affected (result :: results) = result.rowsAffected.val + affected results := by
  simp [affected]

theorem affected_nonneg (results : List QueryResult) : 0 ≤ affected results := by
  refine List.sum_nonneg fun n hn => ?_
  obtain ⟨result, _, rfl⟩ := List.mem_map.mp hn
  exact result.rowsAffected.lo_le

theorem lastReported_cons (rowid : Option I64) (result : QueryResult)
    (results : List QueryResult) : lastReported rowid (result :: results) =
      lastReported (result.lastInsertRowid.or rowid) results := by
  unfold lastReported
  cases hrowid : result.lastInsertRowid with
  | none => rw [List.filterMap_cons_none hrowid, Option.none_or]
  | some reported =>
      rw [List.filterMap_cons_some hrowid, List.getLast?_cons, Option.some_or, Option.some_or]
      cases (results.filterMap lastInsertRowid).getLast? <;> rfl

theorem wrap_val (n : U64) : U64.wrap n.val = n := by
  have := n.lo_le
  have := n.le_hi
  exact IntRange.ext (by simp only [U64.wrap]; omega)

/-- The rows of a sum that wrapped around, added to more rows. -/
theorem wrap_wrap_add (a b : ℤ) : U64.wrap ((U64.wrap a).val + b) = U64.wrap (a + b) :=
  IntRange.ext (Int.emod_add_emod a (2 ^ 64) b)

/-- **The loop adds up**: it comes to the sum of the rows affected and the last
rowid reported, and panics only where the whole sum is too large. -/
theorem extend_eq (checked : Bool) (self : QueryResult) (results : List QueryResult) :
    self.extend checked results = settle checked (self.rowsAffected.val + affected results)
      (lastReported self.lastInsertRowid results) := by
  induction results generalizing self with
  | nil =>
      have hself : ¬2 ^ 64 ≤ self.rowsAffected.val := by
        have := self.rowsAffected.le_hi
        omega
      rw [affected_nil, add_zero, settle, decide_eq_false hself, Bool.and_false, wrap_val]
      rfl
  | cons result results ih =>
      have hrest := affected_nonneg results
      have hassoc : self.rowsAffected.val + affected (result :: results) =
          self.rowsAffected.val + result.rowsAffected.val + affected results := by
        rw [affected_cons]
        omega
      rw [extend, List.foldlM_cons, extendOne, U64.add, hassoc, lastReported_cons]
      by_cases hpanics : (checked && decide (2 ^ 64 ≤
          self.rowsAffected.val + result.rowsAffected.val)) = true
      · -- the sum only grows from here
        rw [if_pos hpanics, error_bind, error_bind, settle, if_pos]
        rw [Bool.and_eq_true, decide_eq_true_eq] at hpanics ⊢
        exact ⟨hpanics.1, by omega⟩
      · rw [if_neg hpanics, ok_bind]
        have hnext := ih ⟨U64.wrap (self.rowsAffected.val + result.rowsAffected.val),
          result.lastInsertRowid.or self.lastInsertRowid⟩
        refine hnext.trans ?_
        have hval : checked = true →
            (U64.wrap (self.rowsAffected.val + result.rowsAffected.val)).val =
              self.rowsAffected.val + result.rowsAffected.val := by
          intro hchecked
          have := self.rowsAffected.lo_le
          have := result.rowsAffected.lo_le
          simp only [hchecked, Bool.true_and, decide_eq_true_eq] at hpanics
          simp only [U64.wrap]
          omega
        cases checked with
        | true => simp only [settle, hval rfl]
        | false => simp only [settle, Bool.false_and, Bool.false_eq_true, if_false, wrap_wrap_add]

/-! ## totals of totals -/

variable {checked : Bool}

/-- The only way to fail. -/
theorem eq_addOverflow_of_extend {self : QueryResult} {results : List QueryResult} {panic : Panic}
    (h : self.extend checked results = .error panic) : panic = addOverflow := by
  rw [extend_eq, settle] at h
  split at h
  · cases h
    rfl
  · cases h

/-- Extending by the total of a group is extending by the group. -/
theorem extend_total (self : QueryResult) (group : List QueryResult) :
    (default.extend checked group >>= fun total => self.extend checked [total]) =
      self.extend checked group := by
  have hself := self.rowsAffected.lo_le
  have hzero : (default : QueryResult).rowsAffected.val + affected group = affected group :=
    zero_add _
  rw [extend_eq checked default, extend_eq checked self group, hzero]
  by_cases hpanics : (checked && decide (2 ^ 64 ≤ affected group)) = true
  · rw [settle, if_pos hpanics, error_bind, settle, if_pos]
    rw [Bool.and_eq_true, decide_eq_true_eq] at hpanics ⊢
    exact ⟨hpanics.1, by omega⟩
  · have hrowid : lastReported self.lastInsertRowid
        [⟨U64.wrap (affected group), lastReported (default : QueryResult).lastInsertRowid group⟩] =
          lastReported self.lastInsertRowid group := by
      simp only [lastReported, List.filterMap_cons, List.filterMap_nil]
      cases (group.filterMap lastInsertRowid).getLast? <;> rfl
    rw [settle, if_neg hpanics, ok_bind, extend_eq, hrowid, affected_cons]
    cases checked with
    | true =>
        have hgroup := affected_nonneg group
        have hval : (U64.wrap (affected group)).val = affected group := by
          simp only [Bool.true_and, decide_eq_true_eq] at hpanics
          simp only [U64.wrap]
          omega
        rw [hval]
        rw [affected_nil, add_zero]
    | false =>
        have hwrap : U64.wrap (self.rowsAffected.val +
            ((U64.wrap (affected group)).val + affected [])) =
              U64.wrap (self.rowsAffected.val + affected group) :=
          IntRange.ext (by simp [U64.wrap, affected])
        simp only [settle, Bool.false_and, Bool.false_eq_true, if_false, hwrap]

/-- **Results may be totalled in groups**: extending by the total of each group
comes to what extending by every result does, whether the sums wrap around or
panic. -/
theorem extend_totals (checked : Bool) (self : QueryResult) (groups : List (List QueryResult)) :
    (groups.mapM (default.extend checked) >>= self.extend checked) =
      settle checked (self.rowsAffected.val + affected groups.flatten)
        (lastReported self.lastInsertRowid groups.flatten) := by
  rw [← extend_eq]
  induction groups generalizing self with
  | nil => rfl
  | cons group groups ih =>
      have happend : self.extend checked (group ++ groups.flatten) =
          self.extend checked group >>= fun s => s.extend checked groups.flatten :=
        List.foldlM_append
      rw [List.flatten_cons, happend, List.mapM_cons, ← extend_total self group]
      cases hgroup : default.extend checked group with
      | error error => rfl
      | ok total =>
          rw [ok_bind, ok_bind]
          cases htotals : groups.mapM (default.extend checked) with
          | ok totals =>
              have hcons : self.extend checked (total :: totals) =
                  self.extend checked [total] >>= fun s => s.extend checked totals := by
                rw [extend, ← List.singleton_append, List.foldlM_append]
                rfl
              rw [ok_bind, pure_bind, hcons]
              cases self.extend checked [total] with
              | error error => rfl
              | ok s =>
                  have hrest := ih s
                  rw [htotals, ok_bind] at hrest
                  rw [ok_bind, ok_bind, hrest]
          | error error =>
              rw [error_bind, error_bind]
              cases htotal : self.extend checked [total] with
              | ok s =>
                  have hrest := ih s
                  rw [htotals, error_bind] at hrest
                  rw [ok_bind, ← hrest]
              | error error' =>
                  -- whichever sum is too large, the panic is the same
                  obtain ⟨_, group', _, _, _, _, herror⟩ := mapM_eq_error_iff.mp htotals
                  rw [error_bind, eq_addOverflow_of_extend herror, eq_addOverflow_of_extend htotal]

/-- Results that wrote nothing do not erase the rowid before them. -/
example : (default : QueryResult).extend true
    [⟨IntRange.lit 2 rfl, some (IntRange.lit 7 rfl)⟩,
      ⟨IntRange.lit 1 rfl, some (IntRange.lit 9 rfl)⟩, ⟨IntRange.lit 0 rfl, none⟩] =
    .ok ⟨IntRange.lit 3 rfl, some (IntRange.lit 9 rfl)⟩ := rfl

end QueryResult

end SqlxCloudflare
