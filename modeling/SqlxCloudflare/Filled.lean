import Mathlib.Data.List.Induction
import Mathlib.Data.List.Basic
import Mathlib.Data.Bool.Basic

/-!
# SqlxCloudflare.Filled

A map filled from a list of entries, left to right: an entry replaces what was
there under its key, so the last one wins.

Filled from a list of keys and their positions it is the position of the last
occurrence of each (`filled_zipIdx_eq_some_iff`), and from keys and values
side by side it is the value at that position (`filled_zip`).

`assigned` is the same map as a list that keeps the order in which the keys
came: an entry replaces the value of its key where the key is, and goes to the
end when there is none (`lookup_assigned`).
-/

namespace SqlxCloudflare

variable {K V W : Type} [DecidableEq K]

/-- The map the entries leave behind. -/
def filled (entries : List (K × V)) : K → Option V :=
  entries.foldl (fun map entry => Function.update map entry.1 (some entry.2)) fun _ => none

@[simp]
theorem filled_nil (key : K) : filled ([] : List (K × V)) key = none := rfl

theorem filled_append_singleton (entries : List (K × V)) (entry : K × V) (key : K) :
    filled (entries ++ [entry]) key =
      if key = entry.1 then some entry.2 else filled entries key := by
  simp only [filled, List.foldl_append, List.foldl_cons, List.foldl_nil, Function.update_apply]

/-- A key that no entry has. -/
theorem filled_eq_none_iff {entries : List (K × V)} {key : K} :
    filled entries key = none ↔ ∀ entry ∈ entries, entry.1 ≠ key := by
  induction entries using List.reverseRecOn with
  | nil => simp
  | append_singleton entries entry ih =>
      rw [filled_append_singleton]
      by_cases hkey : key = entry.1
      · rw [if_pos hkey]
        constructor
        · intro h
          cases h
        · intro h
          exact absurd hkey.symm (h entry (by simp))
      · rw [if_neg hkey, ih]
        simp [or_imp, forall_and, Ne.symm hkey]

/-- The map of what the values are sent to. -/
theorem filled_map (f : V → W) (entries : List (K × V)) (key : K) :
    filled (entries.map fun entry => (entry.1, f entry.2)) key = (filled entries key).map f := by
  induction entries using List.reverseRecOn with
  | nil => simp
  | append_singleton entries entry ih =>
      rw [List.map_append, List.map_singleton, filled_append_singleton, filled_append_singleton, ih]
      by_cases hkey : key = entry.1
      · simp [hkey]
      · simp [hkey]

/-! ## positions -/

/-- The map from each key to its last position. -/
theorem filled_zipIdx_eq_some_iff {keys : List K} {key : K} {i : ℕ} :
    filled keys.zipIdx key = some i ↔
      keys[i]? = some key ∧ ∀ j, i < j → keys[j]? ≠ some key := by
  induction keys using List.reverseRecOn with
  | nil => simp
  | append_singleton keys last ih =>
      have hentries : (keys ++ [last]).zipIdx = keys.zipIdx ++ [(last, keys.length)] := by
        simp [List.zipIdx_append]
      rw [hentries, filled_append_singleton]
      by_cases hkey : key = last
      · subst hkey
        rw [if_pos rfl, Option.some_inj]
        constructor
        · intro hi
          subst hi
          refine ⟨by simp, fun j hj => ?_⟩
          have hnone : (keys ++ [key])[j]? = none := List.getElem?_eq_none (by simp; omega)
          simp [hnone]
        · rintro ⟨hi, hlast⟩
          by_contra hne
          have hlt : i < keys.length + 1 := by
            simpa using (List.getElem?_eq_some_iff.mp hi).1
          exact hlast keys.length (by omega) (by simp)
      · rw [if_neg hkey, ih]
        have hget : ∀ j : ℕ, (keys ++ [last])[j]? = some key ↔ keys[j]? = some key := by
          intro j
          rcases Nat.lt_trichotomy j keys.length with hj | hj | hj
          · rw [List.getElem?_append_left hj]
          · simp [hj, Ne.symm hkey]
          · have hlong : (keys ++ [last])[j]? = none := List.getElem?_eq_none (by simp; omega)
            have hshort : keys[j]? = none := List.getElem?_eq_none (by omega)
            rw [hlong, hshort]
        simp only [hget, ne_eq]

theorem filled_zipIdx_eq_none_iff {keys : List K} {key : K} :
    filled keys.zipIdx key = none ↔ key ∉ keys := by
  rw [filled_eq_none_iff]
  constructor
  · intro h hmem
    obtain ⟨i, hi, hget⟩ := List.getElem_of_mem hmem
    exact h (key, i) (by rw [List.mem_zipIdx_iff_getElem?]; simp [hget, hi]) rfl
  · intro h entry hentry heq
    rw [List.mem_zipIdx_iff_getElem?] at hentry
    exact h (heq ▸ List.mem_of_getElem? hentry)

/-- The last value beside a key is the one at the key's last position. -/
theorem filled_zip {keys : List K} {values : List V} (h : keys.length = values.length) (key : K) :
    filled (keys.zip values) key = (filled keys.zipIdx key).bind (values[·]?) := by
  have hentries : (keys.zip values).map (fun entry => (entry.1, some entry.2)) =
      keys.zipIdx.map fun entry => (entry.1, values[entry.2]?) := by
    refine List.ext_getElem (by simp [h]) fun i hi hi' => ?_
    simp
  have hmaps := filled_map some (keys.zip values) key
  rw [hentries, filled_map (fun i => values[i]?)] at hmaps
  cases hzip : filled (keys.zip values) key <;> cases hidx : filled keys.zipIdx key <;>
    simp_all

/-- Values computed from the keys beside them are found again. -/
theorem filled_zip_map (f : K → V) (keys : List K) (key : K) :
    filled (keys.zip (keys.map f)) key = if key ∈ keys then some (f key) else none := by
  have hentries : keys.zip (keys.map f) = keys.map fun k => (k, f k) := by
    simpa using List.zip_map' (f := id) (g := f) (l := keys)
  rw [hentries]
  clear hentries
  induction keys using List.reverseRecOn with
  | nil => simp
  | append_singleton keys last ih =>
      rw [List.map_append, List.map_singleton, filled_append_singleton, ih]
      by_cases hkey : key = last
      · simp [hkey]
      · simp [hkey]

/-- Each key has a value of its own when no two are the same. -/
theorem filled_zip_of_nodup {keys : List K} {values : List V} (h : keys.length = values.length)
    (hkeys : keys.Nodup) {i : ℕ} {key : K} (hi : keys[i]? = some key) :
    filled (keys.zip values) key = values[i]? := by
  have hlast : filled keys.zipIdx key = some i := by
    refine filled_zipIdx_eq_some_iff.mpr ⟨hi, fun j hj hget => ?_⟩
    have hlt := (List.getElem?_eq_some_iff.mp hi).1
    have heq := (List.getElem?_inj hlt hkeys).mp (hi.trans hget.symm)
    omega
  rw [filled_zip h, hlast, Option.bind_some]

theorem filled_zip_eq_none_iff {keys : List K} {values : List V}
    (h : keys.length = values.length) {key : K} :
    filled (keys.zip values) key = none ↔ key ∉ keys := by
  rw [filled_zip h, ← filled_zipIdx_eq_none_iff]
  cases hfilled : filled keys.zipIdx key with
  | none => simp
  | some i =>
      have hi := (List.getElem?_eq_some_iff.mp (filled_zipIdx_eq_some_iff.mp hfilled).1).1
      simp only [Option.bind_some, List.getElem?_eq_none_iff, reduceCtorEq, iff_false]
      omega

/-- A map is what it holds under its keys, in whatever order they are. -/
theorem filled_zip_getD {keys keys' : List K} {values : List V} (h : keys.length = values.length)
    (hkeys : ∀ key, key ∈ keys' ↔ key ∈ keys) (default : V) (key : K) :
    filled (keys'.zip (keys'.map fun k => (filled (keys.zip values) k).getD default)) key =
      filled (keys.zip values) key := by
  rw [filled_zip_map]
  by_cases hmem : key ∈ keys
  · rw [if_pos ((hkeys key).mpr hmem)]
    cases hfilled : filled (keys.zip values) key with
    | none => exact absurd hmem ((filled_zip_eq_none_iff h).mp hfilled)
    | some value => rfl
  · rw [if_neg fun hmem' => hmem ((hkeys key).mp hmem'), (filled_zip_eq_none_iff h).mpr hmem]

/-! ## keys in order -/

/-- One more entry: under a key that is there, its value is replaced. -/
def assign (entries : List (K × V)) (entry : K × V) : List (K × V) :=
  if entry.1 ∈ entries.map Prod.fst then
    entries.map fun old => if old.1 = entry.1 then entry else old
  else entries ++ [entry]

/-- The entries the list leaves behind, in the order of their keys' first
occurrences. -/
def assigned (entries : List (K × V)) : List (K × V) := entries.foldl assign []

theorem assigned_append_singleton (entries : List (K × V)) (entry : K × V) :
    assigned (entries ++ [entry]) = assign (assigned entries) entry := by
  rw [assigned, List.foldl_append, List.foldl_cons, List.foldl_nil, assigned]

/-- The keys are left as they are, or the new one is added to them. -/
theorem keys_assign (entries : List (K × V)) (entry : K × V) :
    (assign entries entry).map Prod.fst =
      if entry.1 ∈ entries.map Prod.fst then entries.map Prod.fst
      else entries.map Prod.fst ++ [entry.1] := by
  unfold assign
  split
  · rw [List.map_map]
    refine List.map_congr_left fun old _ => ?_
    by_cases hold : old.1 = entry.1
    · simp [hold]
    · simp [hold]
  · rw [List.map_append, List.map_singleton]

theorem mem_keys_assigned {entries : List (K × V)} {key : K} :
    key ∈ (assigned entries).map Prod.fst ↔ key ∈ entries.map Prod.fst := by
  induction entries using List.reverseRecOn with
  | nil => simp [assigned]
  | append_singleton entries entry ih =>
      rw [assigned_append_singleton, keys_assign, List.map_append, List.map_singleton,
        List.mem_append, List.mem_singleton, ← ih]
      split
      · next hmem =>
          constructor
          · exact .inl
          · intro h
            rcases h with h | h
            · exact h
            · exact h ▸ hmem
      · rw [List.mem_append, List.mem_singleton]

/-- What replacing a key's value does to each key. -/
theorem lookup_map_replace (entries : List (K × V)) (entry : K × V) (key : K) :
    (entries.map fun old => if old.1 = entry.1 then entry else old).lookup key =
      if key = entry.1 ∧ key ∈ entries.map Prod.fst then some entry.2
      else entries.lookup key := by
  induction entries with
  | nil => simp
  | cons old entries ih =>
      rw [List.map_cons, List.map_cons]
      by_cases hold : old.1 = entry.1
      · rw [if_pos hold, List.lookup_cons, List.lookup_cons, ih]
        grind
      · rw [if_neg hold, List.lookup_cons, List.lookup_cons, ih]
        grind

theorem lookup_assign (entries : List (K × V)) (entry : K × V) (key : K) :
    (assign entries entry).lookup key =
      if key = entry.1 then some entry.2 else entries.lookup key := by
  have hsingle : [entry].lookup key = if key = entry.1 then some entry.2 else none := by
    rw [List.lookup_cons, List.lookup_nil]
    by_cases hkey : key = entry.1
    · simp [hkey]
    · rw [beq_eq_false_iff_ne.mpr hkey, if_neg hkey]
  unfold assign
  by_cases hmem : entry.1 ∈ entries.map Prod.fst
  · rw [if_pos hmem, lookup_map_replace]
    by_cases hkey : key = entry.1
    · rw [if_pos ⟨hkey, hkey ▸ hmem⟩, if_pos hkey]
    · rw [if_neg fun h => hkey h.1, if_neg hkey]
  · rw [if_neg hmem, List.lookup_append, hsingle]
    by_cases hkey : key = entry.1
    · have hnone : entries.lookup key = none := by
        rw [List.lookup_eq_none_iff]
        grind
      rw [hnone, Option.none_or, if_pos hkey]
    · rw [if_neg hkey, if_neg hkey, Option.or_none]

/-- It is the map the entries fill. -/
theorem lookup_assigned (entries : List (K × V)) (key : K) :
    (assigned entries).lookup key = filled entries key := by
  induction entries using List.reverseRecOn with
  | nil => rfl
  | append_singleton entries entry ih =>
      rw [assigned_append_singleton, lookup_assign, filled_append_singleton, ih]

/-- Entries whose keys are pairwise different are left as they are. -/
theorem assigned_of_nodup {entries : List (K × V)} (h : (entries.map Prod.fst).Nodup) :
    assigned entries = entries := by
  induction entries using List.reverseRecOn with
  | nil => rfl
  | append_singleton entries entry ih =>
      rw [List.map_append, List.map_singleton, List.nodup_append] at h
      obtain ⟨hentries, _, hdisjoint⟩ := h
      have hmem : entry.1 ∉ entries.map Prod.fst := fun hmem => hdisjoint _ hmem _ (by simp) rfl
      rw [assigned_append_singleton, ih hentries, assign, if_neg hmem]

end SqlxCloudflare
