import Mathlib.Data.List.AList

/-!
# Hash maps

A `HashMap<String, V>` or `DashMap<String, V>` of the source: an association
list without duplicate keys. The order of the entries stands for the iteration
order, which no result here depends on. Proved here, for every map:

* `get?_insert`, `get?_modify`, `get?_erase`, `get?_extend`: what is found under
  any key after a call;
* `mem_entries`: the entries are what is found.
-/

namespace NacosSdk.Common

def HashMap (V : Type _) : Type _ := AList fun _ : String => V

namespace HashMap

variable {V : Type _}

def empty : HashMap V := (∅ : AList fun _ : String => V)

instance : EmptyCollection (HashMap V) := ⟨empty⟩

instance [DecidableEq V] : DecidableEq (HashMap V) := fun a b =>
  decidable_of_iff (AList.entries a = AList.entries b) AList.ext_iff.symm

def get? (map : HashMap V) (key : String) : Option V := AList.lookup key map

def containsKey (map : HashMap V) (key : String) : Bool := (map.get? key).isSome

def insert (map : HashMap V) (key : String) (v : V) : HashMap V := AList.insert key v map

/-- Write through the reference that `get_mut` yields, if any. -/
def modify (map : HashMap V) (key : String) (f : V → V) : HashMap V :=
  match map.get? key with
  | none => map
  | some v => map.insert key (f v)

def erase (map : HashMap V) (key : String) : HashMap V := AList.erase key map

def map {W : Type _} (f : V → W) (m : HashMap V) : HashMap W :=
  ⟨(AList.entries m).map (Sigma.map id fun _ => f), List.NodupKeys.map₂ _ _ m.nodupKeys⟩

def entries (map : HashMap V) : List (String × V) := (AList.entries map).map fun e => (e.1, e.2)

def values (map : HashMap V) : List V := map.entries.map (·.2)

/-- `extend`: the entries of `other` replace those of their keys. -/
def extend (map other : HashMap V) : HashMap V :=
  other.entries.foldl (fun map entry => map.insert entry.1 entry.2) map

@[simp] theorem get?_empty (key : String) : (∅ : HashMap V).get? key = none := rfl

@[simp] theorem get?_insert_self (map : HashMap V) (key : String) (v : V) :
    (map.insert key v).get? key = some v :=
  AList.lookup_insert _

theorem get?_insert_ne (map : HashMap V) {key k : String} (v : V) (h : k ≠ key) :
    (map.insert key v).get? k = map.get? k :=
  AList.lookup_insert_ne h

theorem get?_insert (map : HashMap V) (key k : String) (v : V) :
    (map.insert key v).get? k = if k = key then some v else map.get? k := by
  by_cases hk : k = key
  · rw [if_pos hk, hk, get?_insert_self]
  · rw [if_neg hk, get?_insert_ne _ _ hk]

theorem get?_modify (map : HashMap V) (key k : String) (f : V → V) :
    (map.modify key f).get? k = if k = key then (map.get? k).map f else map.get? k := by
  unfold modify
  by_cases hk : k = key
  · rw [if_pos hk, hk]
    cases hv : map.get? key with
    | none => simp only [hv, Option.map_none]
    | some v => rw [get?_insert_self, Option.map_some]
  · rw [if_neg hk]
    cases map.get? key with
    | none => rfl
    | some v => exact get?_insert_ne _ _ hk

/-- A write through a reference makes no entry and removes none. -/
theorem get?_modify_eq_none (map : HashMap V) (key k : String) (f : V → V) :
    (map.modify key f).get? k = none ↔ map.get? k = none := by
  rw [get?_modify]
  split
  · exact Option.map_eq_none_iff
  · exact Iff.rfl

theorem get?_erase (map : HashMap V) (key k : String) :
    (map.erase key).get? k = if k = key then none else map.get? k := by
  by_cases hk : k = key
  · rw [if_pos hk, hk]
    exact AList.lookup_erase _ _
  · rw [if_neg hk]
    exact AList.lookup_erase_ne hk

theorem get?_map {W : Type _} (f : V → W) (m : HashMap V) (key : String) :
    (m.map f).get? key = (m.get? key).map f :=
  List.dlookup_map₂ key

theorem mem_entries (map : HashMap V) (key : String) (v : V) :
    (key, v) ∈ map.entries ↔ map.get? key = some v := by
  have hfound : map.get? key = some v ↔ ⟨key, v⟩ ∈ AList.entries map :=
    AList.mem_lookup_iff
  rw [hfound]
  simp only [entries, List.mem_map, Prod.mk.injEq, Sigma.exists]
  constructor
  · rintro ⟨k, w, hm, rfl, rfl⟩
    exact hm
  · intro hm
    exact ⟨key, v, hm, rfl, rfl⟩

theorem nodup_keys (map : HashMap V) : (map.entries.map (·.1)).Nodup := by
  unfold entries
  rw [List.map_map]
  exact AList.nodupKeys map

theorem mem_values (map : HashMap V) (v : V) :
    v ∈ map.values ↔ ∃ key, map.get? key = some v := by
  unfold values
  simp only [List.mem_map, Prod.exists, mem_entries]
  constructor
  · rintro ⟨key, w, hm, rfl⟩
    exact ⟨key, hm⟩
  · rintro ⟨key, hm⟩
    exact ⟨key, v, hm, rfl⟩

theorem get?_foldl_insert_of_notMem {entries : List (String × V)} {key : String}
    (h : key ∉ entries.map (·.1)) (map : HashMap V) :
    (entries.foldl (fun map entry => map.insert entry.1 entry.2) map).get? key = map.get? key := by
  induction entries generalizing map with
  | nil => rfl
  | cons entry entries ih =>
    rw [List.map_cons, List.mem_cons, not_or] at h
    rw [List.foldl_cons, ih h.2, get?_insert_ne _ _ h.1]

theorem get?_foldl_insert_of_mem {entries : List (String × V)} {key : String} {v : V}
    (hn : (entries.map (·.1)).Nodup) (h : (key, v) ∈ entries) (map : HashMap V) :
    (entries.foldl (fun map entry => map.insert entry.1 entry.2) map).get? key = some v := by
  induction entries generalizing map with
  | nil => cases h
  | cons entry entries ih =>
    rw [List.map_cons, List.nodup_cons] at hn
    rw [List.foldl_cons]
    rcases List.mem_cons.mp h with rfl | hrest
    · rw [get?_foldl_insert_of_notMem hn.1, get?_insert_self]
    · exact ih hn.2 hrest _

theorem get?_extend (map other : HashMap V) (key : String) :
    (map.extend other).get? key = (other.get? key).or (map.get? key) := by
  unfold extend
  cases hv : other.get? key with
  | none =>
    rw [get?_foldl_insert_of_notMem, Option.none_or]
    intro hkey
    obtain ⟨⟨k, v⟩, hm, rfl⟩ := List.mem_map.mp hkey
    rw [(mem_entries other k v).mp hm] at hv
    cases hv
  | some v =>
    rw [get?_foldl_insert_of_mem (nodup_keys other) ((mem_entries other key v).mpr hv),
      Option.some_or]

end HashMap

end NacosSdk.Common
