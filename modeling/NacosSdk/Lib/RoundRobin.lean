import Mathlib.Data.List.Rotate

/-!
# Taking turns

A counter modulo the length of a list picks its entries in turn. Proved here, for
every list and counter:

* `turn_isSome`, `turn_of_mem`: a counter always picks an entry of a list that is
  not empty, and every entry is picked by one;
* `window_eq_rotate`: as many picks in a row as the list is long are its entries,
  each one once by its place and in cyclic order.
-/

namespace NacosSdk.Lib

variable {α : Type _}

/-- The entry whose turn it is. -/
def turn (l : List α) (i : Nat) : Option α := l[i % l.length]?

theorem turn_isSome {l : List α} (hne : l ≠ []) (i : Nat) : ∃ a ∈ l, turn l i = some a := by
  have hlt : i % l.length < l.length := Nat.mod_lt _ (List.length_pos_iff.mpr hne)
  exact ⟨l[i % l.length], List.getElem_mem hlt, List.getElem?_eq_getElem hlt⟩

theorem turn_of_mem {l : List α} {a : α} (h : a ∈ l) : ∃ i, turn l i = some a := by
  obtain ⟨i, hi⟩ := List.mem_iff_getElem?.mp h
  have hlt : i < l.length := (List.getElem?_eq_some_iff.mp hi).1
  refine ⟨i, ?_⟩
  unfold turn
  rw [Nat.mod_eq_of_lt hlt, hi]

theorem turn_map {β : Type _} (f : α → β) (l : List α) (i : Nat) :
    turn (l.map f) i = (turn l i).map f := by
  unfold turn
  rw [List.length_map, List.getElem?_map]

theorem window_eq_rotate {l picks : List α} {start k : Nat}
    (hk : k + l.length ≤ picks.length)
    (hpicks : ∀ j a, k ≤ j → j < k + l.length → picks[j]? = some a →
      turn l (start + j) = some a) :
    (picks.drop k).take l.length = l.rotate (start + k) := by
  apply List.ext_getElem?
  intro j
  by_cases hj : j < l.length
  · have hlt : k + j < picks.length := by omega
    have hindex : start + (k + j) = j + (start + k) := by omega
    have hpick := hpicks (k + j) _ (by omega) (by omega) (List.getElem?_eq_getElem hlt)
    rw [List.getElem?_take_of_lt hj, List.getElem?_drop, List.getElem?_rotate hj,
      List.getElem?_eq_getElem hlt, ← hpick, turn, hindex]
  · rw [List.getElem?_eq_none (by simp; omega), List.getElem?_eq_none (by simp; omega)]

end NacosSdk.Lib
