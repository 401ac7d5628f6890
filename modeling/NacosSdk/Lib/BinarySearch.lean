import Mathlib.Data.List.Basic

/-!
# Binary search

`slice::binary_search_by` of the standard library: the window is halved until
one place is left, whatever the comparisons say, and that place is looked at
last. Proved here, for every list and comparison:

* `binarySearchBy_ok`: a place that is found holds a match;
* `binarySearchBy_error`: in an ordered list without a match the place that is
  returned parts what is less from what is greater.
-/

namespace NacosSdk.Lib

variable {α : Type _}

/-- The last place of the window of `size` places from `base` on, when `greater`
cuts it in two. -/
def searchBase (greater : Nat → Bool) (base size : Nat) : Nat :=
  if 1 < size then
    let half := size / 2
    if greater (base + half) then searchBase greater base (size - half)
    else searchBase greater (base + half) (size - half)
  else base
termination_by size

/-- The comparison at a place is `Greater`. -/
def greaterAt (xs : List α) (f : α → Ordering) (i : Nat) : Bool := xs[i]?.map f = some .gt

/-- `binary_search_by`: the place of a match, or where one could be inserted. -/
def binarySearchBy (xs : List α) (f : α → Ordering) : Except Nat Nat :=
  let base := searchBase (greaterAt xs f) 0 xs.length
  match xs[base]?.map f with
  | none => .error 0
  | some .eq => .ok base
  | some .lt => .error (base + 1)
  | some .gt => .error base

theorem binarySearchBy_ok {xs : List α} {f : α → Ordering} {i : Nat}
    (h : binarySearchBy xs f = .ok i) : ∃ a, xs[i]? = some a ∧ f a = .eq := by
  unfold binarySearchBy at h
  dsimp only at h
  split at h
  · cases h
  · next heq =>
    cases h
    exact Option.map_eq_some_iff.mp heq
  · cases h
  · cases h

/-- The place that is left is in the window; before it nothing is greater but
perhaps the first place, and after it everything is. -/
theorem searchBase_spec {greater : Nat → Bool} {base size : Nat} (hsize : 0 < size)
    (hmono : ∀ i j, i ≤ j → j < base + size → greater i = true → greater j = true) :
    base ≤ searchBase greater base size ∧ searchBase greater base size < base + size ∧
      (∀ i, base < i → i ≤ searchBase greater base size → greater i = false) ∧
      ∀ i, searchBase greater base size < i → i < base + size → greater i = true := by
  fun_induction searchBase greater base size with
  | case1 base size hlt half hmid ih =>
    have hhalf : half = size / 2 := rfl
    obtain ⟨hlow, hhigh, hbefore, hafter⟩ := ih (by omega) fun i j hij hj hi =>
      hmono i j hij (by omega) hi
    refine ⟨hlow, by omega, hbefore, fun i hi hlt' => ?_⟩
    by_cases hin : i < base + (size - half)
    · exact hafter i hi hin
    · exact hmono (base + half) i (by omega) hlt' hmid
  | case2 base size hlt half hmid ih =>
    have hhalf : half = size / 2 := rfl
    obtain ⟨hlow, hhigh, hbefore, hafter⟩ := ih (by omega) fun i j hij hj hi =>
      hmono i j hij (by omega) hi
    refine ⟨by omega, by omega, fun i hi hle => ?_, fun i hi hlt' => hafter i hi (by omega)⟩
    by_cases hin : base + half < i
    · exact hbefore i hin hle
    · cases hgreater : greater i with
      | false => rfl
      | true => exact absurd (hmono i (base + half) (by omega) (by omega) hgreater) hmid
  | case3 base size hle =>
    exact ⟨Nat.le_refl _, by omega, fun i hi hle' => by omega, fun i hi hlt => by omega⟩

/-- What is compared comes in order: less, equal, greater. -/
def OrderedBy (f : α → Ordering) (xs : List α) : Prop :=
  xs.Pairwise fun a b => (f a = .gt → f b = .gt) ∧ (f b = .lt → f a = .lt)

section Ordered

variable {xs : List α} {f : α → Ordering}

theorem orderedBy_pair (hord : OrderedBy f xs) {j k : Nat} {a b : α} (hjk : j ≤ k)
    (ha : xs[j]? = some a) (hb : xs[k]? = some b) :
    (f a = .gt → f b = .gt) ∧ (f b = .lt → f a = .lt) := by
  rcases Nat.lt_or_eq_of_le hjk with hlt | rfl
  · obtain ⟨hj, rfl⟩ := List.getElem?_eq_some_iff.mp ha
    obtain ⟨hk, rfl⟩ := List.getElem?_eq_some_iff.mp hb
    exact List.pairwise_iff_getElem.mp hord j k hj hk hlt
  · rw [ha] at hb
    cases hb
    exact ⟨id, id⟩

theorem greaterAt_iff {j : Nat} {a : α} (ha : xs[j]? = some a) :
    greaterAt xs f j = true ↔ f a = .gt := by
  simp [greaterAt, ha]

theorem greaterAt_mono (hord : OrderedBy f xs) {j k : Nat} (hjk : j ≤ k) (hk : k < xs.length)
    (hj : greaterAt xs f j = true) : greaterAt xs f k = true := by
  have ha := List.getElem?_eq_getElem (show j < xs.length by omega)
  have hb := List.getElem?_eq_getElem hk
  rw [greaterAt_iff ha] at hj
  rw [greaterAt_iff hb]
  exact (orderedBy_pair hord hjk ha hb).1 hj

theorem binarySearchBy_error {i : Nat} (hord : OrderedBy f xs)
    (h : binarySearchBy xs f = .error i) :
    i ≤ xs.length ∧ (∀ j a, j < i → xs[j]? = some a → f a = .lt) ∧
      ∀ j a, i ≤ j → xs[j]? = some a → f a = .gt := by
  rcases Nat.eq_zero_or_pos xs.length with hnil | hpos
  · rw [List.length_eq_zero_iff] at hnil
    subst hnil
    cases h
    exact ⟨Nat.le_refl _, fun j a hj => by omega, fun j a _ ha => by cases ha⟩
  · have hmono : ∀ j k, j ≤ k → k < 0 + xs.length → greaterAt xs f j = true →
        greaterAt xs f k = true :=
      fun j k hjk hk => greaterAt_mono hord hjk (by omega)
    obtain ⟨-, hlen, hbefore, hafter⟩ := searchBase_spec hpos hmono
    have hgreater : ∀ j a, xs[j]? = some a →
        searchBase (greaterAt xs f) 0 xs.length < j → f a = .gt := by
      intro j a ha hj
      have hjlen := (List.getElem?_eq_some_iff.mp ha).1
      exact (greaterAt_iff ha).mp (hafter j hj (by omega))
    have hbase := List.getElem?_eq_getElem (show
      searchBase (greaterAt xs f) 0 xs.length < xs.length by omega)
    unfold binarySearchBy at h
    dsimp only at h
    rw [hbase, Option.map_some] at h
    split at h
    · next hnone => cases hnone
    · cases h
    · next hless =>
      -- everything up to the place that is left is less
      cases h
      refine ⟨by omega, fun j a hj ha => ?_, fun j a hj ha => hgreater j a ha (by omega)⟩
      exact (orderedBy_pair hord (by omega) ha hbase).2 (Option.some.inj hless)
    · next hmore =>
      -- only the first place can be left and greater
      cases h
      have hzero : searchBase (greaterAt xs f) 0 xs.length = 0 := by
        by_contra hne
        have hnot := hbefore _ (by omega) (Nat.le_refl _)
        rw [(greaterAt_iff hbase).mpr (Option.some.inj hmore)] at hnot
        cases hnot
      refine ⟨by omega, fun j a hj ha => by omega, fun j a hj ha => ?_⟩
      exact (orderedBy_pair hord hj hbase ha).1 (Option.some.inj hmore)

end Ordered

end NacosSdk.Lib
