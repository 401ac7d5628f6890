import Mathlib.Algebra.BigOperators.Group.List.Basic
import Mathlib.Algebra.Order.BigOperators.Group.List
import Mathlib.Algebra.Order.Field.Basic

/-!
# Cumulative shares

Positive weights cut the interval from 0 to 1 into shares. Proved here, for
every list of weights over an ordered field:

* `shares_succ`: a share is as long as its part of the total weight;
* `shares_length`: the last one ends at 1;
* `shares_mono`, `shares_lt`: they come one after another, and none is empty.
-/

namespace NacosSdk.Lib

variable {K : Type _} [Field K]

/-- Where the first `i` shares end. -/
def shares (ws : List K) (i : Nat) : K := (ws.take i).sum / ws.sum

@[simp] theorem shares_zero (ws : List K) : shares ws 0 = 0 := by
  simp [shares]

theorem shares_succ (ws : List K) {i : Nat} {w : K} (h : ws[i]? = some w) :
    shares ws (i + 1) = shares ws i + w / ws.sum := by
  unfold shares
  rw [List.take_add_one, h, List.sum_append, add_div]
  simp

variable [LinearOrder K] [IsStrictOrderedRing K]

theorem shares_length {ws : List K} (hpos : ∀ w ∈ ws, 0 < w) (hne : ws ≠ []) :
    shares ws ws.length = 1 := by
  unfold shares
  rw [List.take_length]
  exact div_self (ws.sum_pos hpos hne).ne'

theorem shares_lt {ws : List K} (hpos : ∀ w ∈ ws, 0 < w) {i : Nat} (hi : i < ws.length) :
    shares ws i < shares ws (i + 1) := by
  have hw := List.getElem?_eq_getElem hi
  have hm := List.mem_of_getElem? hw
  rw [shares_succ ws hw]
  have hsum := ws.sum_pos hpos (List.ne_nil_of_mem hm)
  exact lt_add_of_pos_right _ (div_pos (hpos _ hm) hsum)

theorem shares_mono {ws : List K} (hpos : ∀ w ∈ ws, 0 < w) {i j : Nat} (hij : i ≤ j) :
    shares ws i ≤ shares ws j := by
  induction j, hij using Nat.le_induction with
  | base => exact le_rfl
  | succ j hij ih =>
    rcases Nat.lt_or_ge j ws.length with hj | hj
    · exact ih.trans (shares_lt hpos hj).le
    · have hstop : shares ws (j + 1) = shares ws j := by
        unfold shares
        rw [List.take_of_length_le hj, List.take_of_length_le (by omega)]
      rw [hstop]
      exact ih

end NacosSdk.Lib
