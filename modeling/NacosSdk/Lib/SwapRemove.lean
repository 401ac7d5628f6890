import Mathlib.Data.List.Basic

/-!
# Removal by swapping with the last element

`Vec::swap_remove` puts the last element in the place of the removed one.
Proved here, for every list and valid index: what is left is what a removal
leaves, in another order.
-/

namespace NacosSdk.Lib

variable {α : Type _}

def swapRemove (xs : List α) (i : Nat) : List α :=
  match xs.getLast? with
  | none => []
  | some last => (xs.set i last).dropLast

theorem swapRemove_concat (ys : List α) (last : α) (i : Nat) :
    swapRemove (ys ++ [last]) i = ((ys ++ [last]).set i last).dropLast := by
  unfold swapRemove
  rw [List.getLast?_concat]

theorem swapRemove_perm {xs : List α} {i : Nat} (h : i < xs.length) :
    (swapRemove xs i).Perm (xs.eraseIdx i) := by
  rcases List.eq_nil_or_concat xs with rfl | ⟨ys, last, rfl⟩
  · simp at h
  · rw [List.concat_eq_append, swapRemove_concat]
    rw [List.concat_eq_append] at h
    simp only [List.length_append, List.length_singleton] at h
    by_cases hi : i < ys.length
    · have hset : ((ys ++ [last]).set i last).dropLast = ys.take i ++ last :: ys.drop (i + 1) := by
        rw [List.set_append_left _ _ hi, List.dropLast_concat, List.set_eq_take_append_cons_drop,
          if_pos hi]
      have herase : (ys ++ [last]).eraseIdx i = ys.take i ++ ys.drop (i + 1) ++ [last] := by
        rw [List.eraseIdx_append_of_lt_length hi, List.eraseIdx_eq_take_drop_succ]
      rw [hset, herase]
      exact List.perm_middle.trans (List.perm_append_singleton _ _).symm
    · have hlast : i = ys.length := by omega
      subst hlast
      have hset : ((ys ++ [last]).set ys.length last).dropLast = ys := by simp
      have herase : (ys ++ [last]).eraseIdx ys.length = ys := by
        rw [List.eraseIdx_append_of_length_le (Nat.le_refl _)]
        simp
      rw [hset, herase]

end NacosSdk.Lib
