import SqlxCloudflare.Core.Stored
import SqlxCloudflare.D1.Batch
import SqlxCloudflare.D1.Fetch

/-!
# SqlxCloudflare.D1.Rowid

The rowid D1 reports.  It crosses as a double, and the driver casts the double
back to an `i64` without asking whether it was exact: a second way from a
number to an integer, beside `Value.fromNumber`, and without its range check.

* `asI64_asF64_eq_iff` -- which integers survive the two casts;
* `lastInsertRowid_iff` -- so which rowids are reported as they are.
-/

namespace SqlxCloudflare

open Fallible Ieee

/-! ## to a double and back -/

/-- A double of an `i64` is a whole number, no smaller than the least `i64`. -/
theorem exists_toRat?_asF64 (n : I64) :
    ∃ m : ℤ, (I64.asF64 n).toRat? = some (m : ℚ) ∧ binary64.rounded n.val = m ∧ -2 ^ 63 ≤ m := by
  obtain ⟨m, hm⟩ := binary64.exists_rounded_intCast (by decide) (by decide) n.val
  have hrep := binary64.representable_neg binary64_representable_two_pow_63
  have hlo : (-2 ^ 63 : ℚ) ≤ n.val := by exact_mod_cast n.lo_le
  have hle := binary64.le_rounded hrep hlo
  rw [hm] at hle
  exact ⟨m, by rw [toRat?_asF64_eq_rounded, hm], hm, by exact_mod_cast hle⟩

/-- The greatest `i64` is rounded up: it is one less than a double, and the
double below is far from it. -/
theorem le_rounded_greatest {n : I64} (hn : n.val = 2 ^ 63 - 1) {m : ℤ}
    (hm : (I64.asF64 n).toRat? = some (m : ℚ)) : 2 ^ 63 - 1 ≤ m := by
  have hrep : binary64.Representable m := Binary.representable_of_toRat? hm
  have hrounded : binary64.rounded n.val = m := by
    rw [toRat?_asF64_eq_rounded] at hm
    exact Option.some.inj hm
  have hnear := binary64.abs_rounded_sub_le (q := n.val) binary64_representable_two_pow_63
  rw [hrounded, hn] at hnear
  have hone : |m - (2 ^ 63 - 1)| ≤ 1 := by
    have hcast : ((|m - (2 ^ 63 - 1)| : ℤ) : ℚ) ≤ 1 := by
      push_cast at hnear ⊢
      norm_num at hnear ⊢
      exact hnear
    exact_mod_cast hcast
  obtain ⟨hlo, hhi⟩ := abs_le.mp hone
  obtain ⟨k, hk⟩ := binary64.dvd_of_representable (k := 9) hrep (by
    rw [abs_of_nonneg (by omega)]
    change (2 : ℤ) ^ 62 ≤ m
    omega)
  omega

/-- The integers that survive: those a double holds, and the greatest, whose
double is beyond the range and saturates back. -/
theorem asI64_asF64_eq_iff (n : I64) :
    asI64 (I64.asF64 n) = n ↔ binary64.Representable n.val ∨ n.val = 2 ^ 63 - 1 := by
  obtain ⟨m, hm, hrounded, hlo⟩ := exists_toRat?_asF64 n
  have hcast : (asI64 (I64.asF64 n)).val = max (-2 ^ 63) (min (2 ^ 63 - 1) m) :=
    Binary.val_toIntRange_intCast _ _ hm
  have hn := n.le_hi
  constructor
  · intro h
    rw [h] at hcast
    by_cases hmn : m = n.val
    · rw [hmn] at hm
      exact .inl (Binary.representable_of_toRat? hm)
    · exact .inr (by omega)
  · intro h
    refine IntRange.ext (hcast.trans ?_)
    rcases h with hrep | hgreatest
    · rw [binary64.rounded_of_representable hrep] at hrounded
      have hmn : n.val = m := by exact_mod_cast hrounded
      have hlo' := n.lo_le
      omega
    · have hge := le_rounded_greatest hgreatest hm
      omega

/-! ## what is reported -/

namespace D1

section

variable [JsDebug] {result : D1Result} {object : JsObject} {r : I64}

/-- A rowid that D1 reports is cast back. -/
theorem exists_queryResult_of_rowid (hmetadata : result.metadata = .ok object)
    (hrowid : object.get "last_row_id" = .ok (.number (I64.asF64 r))) :
    ∃ q, queryResult result = .ok q ∧ q.lastInsertRowid = some (asI64 (I64.asF64 r)) := by
  have hnumber : number object "last_row_id" = some (I64.asF64 r) := by
    rw [number, hrowid]
    rfl
  refine ⟨_, by rw [queryResult, hmetadata]; rfl, ?_⟩
  simp only [hnumber, Option.map_some, wholeNumberI64]

/-- An entry of a batch reports what its result does. -/
theorem result_of_batch {DB P : Type} {db : D1Database DB P} {statements : List P} {s s' : DB}
    {results : List D1Result} {entries : List (BatchResult Row)} {q : QueryResult}
    (hbatch : db.batch statements s = (.resolves (some results), s'))
    (hentries : batch db statements s = .ok entries s') (hq : queryResult result = .ok q)
    {i : ℕ} (hi : results[i]? = some result) :
    ∃ e, entries[i]? = some e ∧ e.result = q := by
  rw [D1Connection.batch_of_resolves hbatch] at hentries
  cases hall : results.mapM entry with
  | error error =>
      rw [hall] at hentries
      cases hentries
  | ok es =>
      rw [hall] at hentries
      cases hentries
      obtain ⟨e, he, hentry⟩ := getElem?_of_mapM_eq_ok hall hi
      obtain ⟨rs, _, hrest⟩ := bind_eq_ok_iff.mp hentry
      obtain ⟨q', hq', hresult⟩ := bind_eq_ok_iff.mp hrest
      rw [hq] at hq'
      cases hq'
      cases hresult
      exact ⟨_, he, rfl⟩

/-- **Which rowids are reported as they are**, by a statement run on its own
and by an entry of a batch: those a double holds exactly, and the greatest of
all.  Every other one is reported as a neighbour of it. -/
theorem lastInsertRowid_iff (hmetadata : result.metadata = .ok object)
    (hrowid : object.get "last_row_id" = .ok (.number (I64.asF64 r))) :
    ∃ q, queryResult result = .ok q ∧
      ((q.lastInsertRowid = some r ∨ q.lastInsertRowid = none) ↔
        binary64.Representable r.val ∨ r.val = 2 ^ 63 - 1) ∧
      (∀ (DB P : Type) (statements : D1Statements DB P) (statement : P) (s s' : DB),
        statements.run statement s = (.resolves result, s') →
          run statements statement s = .ok q s') ∧
      ∀ (DB P : Type) (db : D1Database DB P) (statements : List P) (s s' : DB)
        (results : List D1Result) (entries : List (BatchResult Row)),
        db.batch statements s = (.resolves (some results), s') →
          batch db statements s = .ok entries s' →
            ∀ i : ℕ, results[i]? = some result → ∃ e, entries[i]? = some e ∧ e.result = q := by
  obtain ⟨q, hq, hvalue⟩ := exists_queryResult_of_rowid hmetadata hrowid
  refine ⟨q, hq, ?_, ?_, ?_⟩
  · rw [hvalue, Option.some_inj, asI64_asF64_eq_iff]
    simp
  · intro DB P statements statement s s' h
    rw [run_of_resolves h, hq]
    rfl
  · intro DB P db statements s s' results entries hbatch hentries i hi
    exact result_of_batch hbatch hentries hq hi

end

/-! ## results with a rowid -/

/-- Metadata of the rowid `r` and nothing else. -/
def rowidMetadata (r : I64) : JsObject where
  ownKeys := ["last_row_id"]
  get
    | "last_row_id" => .ok (.number (I64.asF64 r))
    | _ => .ok .undefined

/-- The result of a statement that inserted the row `r`. -/
def reporting (r : I64) : D1Result := ⟨.ok none, .ok (rowidMetadata r)⟩

/-- The first row of a table is reported as it is. -/
theorem lastInsertRowid_one :
    letI := JsDebug.describing
    ∃ q, queryResult (reporting (.lit 1 rfl)) = .ok q ∧
      (q.lastInsertRowid = some (.lit 1 rfl) ∨ q.lastInsertRowid = none) := by
  let := JsDebug.describing
  have hmetadata : (reporting (.lit 1 rfl)).metadata = .ok (rowidMetadata _) := rfl
  obtain ⟨q, hq, hiff, _⟩ := lastInsertRowid_iff hmetadata rfl
  have hsmall : |(1 : ℤ)| < 2 ^ 53 := by norm_num
  exact ⟨q, hq, hiff.mpr (.inl (binary64_representable_intCast hsmall))⟩

/-- The row 2^53 + 1 is reported as another one. -/
theorem not_lastInsertRowid :
    letI := JsDebug.describing
    ¬∀ r : I64, ∃ q, queryResult (reporting r) = .ok q ∧
      (q.lastInsertRowid = some r ∨ q.lastInsertRowid = none) := by
  let := JsDebug.describing
  intro h
  have hmetadata : (reporting ⟨2 ^ 53 + 1, by norm_num, by norm_num⟩).metadata =
      .ok (rowidMetadata _) := rfl
  obtain ⟨q, hq, hreported⟩ := h ⟨2 ^ 53 + 1, by norm_num, by norm_num⟩
  obtain ⟨q', hq', hvalue⟩ := exists_queryResult_of_rowid hmetadata rfl
  rw [hq] at hq'
  cases hq'
  rw [hvalue, Option.some_inj, asI64_asF64_eq_iff] at hreported
  rcases hreported with (hrep | hgreatest) | hnone
  · obtain ⟨k, hk⟩ := binary64.dvd_of_representable (k := 0) hrep (by decide)
    norm_num at hk
    omega
  · norm_num at hgreatest
  · cases hnone

end D1

end SqlxCloudflare
