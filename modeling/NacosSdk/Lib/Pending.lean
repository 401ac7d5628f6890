import Mathlib.Data.List.Basic

/-!
# Jobs that leave a queue in any order

Jobs wait in a list and any of them may leave it next. What matters to a
reader of the stage behind is which job arrives last. Proved here, for every
list, every selection `p` of its jobs and every reading `f` of a job:

* `mem_set_or`, `set_cases`: which jobs are there when one is replaced;
* `selected_take_out`: a job outside the selection leaves it as it was;
* `getLast?_take_out`: a selected job that overtakes nobody leaves the last
  of the selection, before and after the stage together, as it was;
* `newestOf_later`, `newestOf_here`, `newestOf_other`: the newest selected job
  when a job is taken out or replaced;
* `getLast?_filterMap_eq_some`, `perm_moved_last`: the last reading, and which
  jobs may come last.
-/

namespace NacosSdk.Lib.Pending

variable {α : Type _} {β : Type _}

/-- The readings of the jobs that `p` selects, in order. -/
def selected (p : α → Bool) (f : α → β) (xs : List α) : List β := (xs.filter p).map f

/-- Of the selected jobs the newest leaves while an older one still waits. -/
def Overtakes (p : α → Bool) (xs : List α) (i : Nat) : Prop :=
  (xs.drop (i + 1)).filter p = [] ∧ (xs.take i).filter p ≠ []

/-- The oldest job overtakes nobody. -/
theorem not_overtakes_zero (p : α → Bool) (xs : List α) : ¬ Overtakes p xs 0 := by
  rintro ⟨_, h⟩
  exact h rfl

theorem selected_append (p : α → Bool) (f : α → β) (xs ys : List α) :
    selected p f (xs ++ ys) = selected p f xs ++ selected p f ys := by
  simp [selected]

theorem selected_singleton {p : α → Bool} {x : α} (h : p x = true) (f : α → β) :
    selected p f [x] = [f x] := by
  simp [selected, h]

theorem selected_singleton_neg {p : α → Bool} {x : α} (h : p x = false) (f : α → β) :
    selected p f [x] = [] := by
  simp [selected, h]

theorem split_at {xs : List α} {i : Nat} {x : α} (h : xs[i]? = some x) :
    xs = xs.take i ++ [x] ++ xs.drop (i + 1) := by
  obtain ⟨hi, rfl⟩ := List.getElem?_eq_some_iff.mp h
  simp

/-- Who is not the job at `i` stays when that job is replaced or removed. -/
theorem mem_set_or {xs : List α} {i : Nat} {x y : α} (h : xs[i]? = some x) (hy : y ∈ xs) (x' : α) :
    y = x ∨ y ∈ xs.set i x' := by
  obtain ⟨j, hj⟩ := List.mem_iff_getElem?.mp hy
  by_cases hij : i = j
  · subst hij
    rw [h] at hj
    exact Or.inl (Option.some.inj hj).symm
  · exact Or.inr (List.mem_iff_getElem?.mpr ⟨j, by rw [List.getElem?_set_ne hij, hj]⟩)

/-- A job after a replacement is the new one or an old one at another place. -/
theorem set_cases {xs : List α} {i j : Nat} {x' y : α} (h : (xs.set i x')[j]? = some y) :
    (j = i ∧ y = x') ∨ (j ≠ i ∧ xs[j]? = some y) := by
  rw [List.getElem?_set] at h
  split at h
  · next hij =>
    split at h
    · cases h
      exact Or.inl ⟨hij.symm, rfl⟩
    · cases h
  · next hij => exact Or.inr ⟨fun hji => hij hji.symm, h⟩

theorem mem_eraseIdx_or {xs : List α} {i : Nat} {x y : α} (h : xs[i]? = some x) (hy : y ∈ xs) :
    y = x ∨ y ∈ xs.eraseIdx i := by
  rw [split_at h] at hy
  rw [List.eraseIdx_eq_take_drop_succ]
  simp only [List.mem_append, List.mem_singleton] at hy ⊢
  tauto

theorem selected_take_out {p : α → Bool} {xs : List α} {i : Nat} {x : α} (h : xs[i]? = some x)
    (hp : p x = false) (f : α → β) : selected p f (xs.eraseIdx i) = selected p f xs := by
  conv_rhs => rw [split_at h]
  rw [List.eraseIdx_eq_take_drop_succ, selected_append, selected_append, selected_append,
    selected_singleton_neg hp, List.append_nil]

theorem getLast?_take_out {p : α → Bool} {xs : List α} {i : Nat} {x : α} (h : xs[i]? = some x)
    (hp : p x = true) (ho : ¬ Overtakes p xs i) (f : α → β) (done : List β) :
    (done ++ [f x] ++ selected p f (xs.eraseIdx i)).getLast? =
      (done ++ selected p f xs).getLast? := by
  conv_rhs => rw [split_at h]
  rw [List.eraseIdx_eq_take_drop_succ, selected_append, selected_append, selected_append,
    selected_singleton hp]
  by_cases hlater : (xs.drop (i + 1)).filter p = []
  · have hearlier : (xs.take i).filter p = [] := by
      by_contra hne
      exact ho ⟨hlater, hne⟩
    simp [selected, hlater, hearlier]
  · have hlast : ((xs.drop (i + 1)).filter p).getLast? =
        some (((xs.drop (i + 1)).filter p).getLast hlater) := List.getLast?_eq_some_getLast hlater
    simp only [selected, List.getLast?_append, List.getLast?_map, hlast, Option.map_some,
      Option.some_or]

/-- What comes after a stage keeps an equality of the last entries before it. -/
theorem getLast?_append_congr {as bs : List β} (h : as.getLast? = bs.getLast?) (cs : List β) :
    (as ++ cs).getLast? = (bs ++ cs).getLast? := by
  rw [List.getLast?_append, List.getLast?_append, h]

/-! ## The newest reading -/

/-- The last reading is that of a job no later one of which has a reading. -/
theorem getLast?_filterMap_eq_some {f : α → Option β} {xs : List α} {b : β} :
    (xs.filterMap f).getLast? = some b ↔
      ∃ before x after, xs = before ++ x :: after ∧ f x = some b ∧ ∀ y ∈ after, f y = none := by
  constructor
  · intro h
    obtain ⟨readings, hreadings⟩ := List.getLast?_eq_some_iff.mp h
    obtain ⟨before, rest, rfl, hbefore, hrest⟩ := List.filterMap_eq_append_iff.mp hreadings
    obtain ⟨skipped, x, after, rfl, hskipped, hx, hafter⟩ := List.filterMap_eq_cons_iff.mp hrest
    refine ⟨before ++ skipped, x, after, by simp, hx, ?_⟩
    exact List.filterMap_eq_nil_iff.mp hafter
  · rintro ⟨before, x, after, rfl, hx, hafter⟩
    have hnone : after.filterMap f = [] := List.filterMap_eq_nil_iff.mpr hafter
    rw [List.filterMap_append, List.filterMap_cons_some hx, hnone, List.getLast?_concat]

/-- Any job can be brought to the end. -/
theorem perm_moved_last {xs : List α} {x : α} (h : x ∈ xs) : ∃ ys, (ys ++ [x]).Perm xs := by
  obtain ⟨before, after, rfl⟩ := List.append_of_mem h
  refine ⟨before ++ after, ?_⟩
  rw [List.append_assoc]
  exact List.Perm.append_left before List.perm_append_comm

/-! ## The newest selected job -/

def newestOf (p : α → Bool) (xs : List α) : Option α := (xs.filter p).getLast?

theorem newestOf_append (p : α → Bool) (xs ys : List α) :
    newestOf p (xs ++ ys) = (newestOf p ys).or (newestOf p xs) := by
  simp [newestOf, List.getLast?_append]

theorem newestOf_singleton {p : α → Bool} {x : α} (h : p x = true) : newestOf p [x] = some x := by
  simp [newestOf, h]

theorem newestOf_singleton_neg {p : α → Bool} {x : α} (h : p x = false) :
    newestOf p [x] = none := by
  simp [newestOf, h]

theorem newestOf_concat {p : α → Bool} {x : α} (h : p x = true) (xs : List α) :
    newestOf p (xs ++ [x]) = some x := by
  rw [newestOf_append, newestOf_singleton h, Option.some_or]

theorem newestOf_concat_neg {p : α → Bool} {x : α} (h : p x = false) (xs : List α) :
    newestOf p (xs ++ [x]) = newestOf p xs := by
  rw [newestOf_append, newestOf_singleton_neg h, Option.none_or]

theorem newestOf_eq_none {p : α → Bool} {xs : List α} (h : newestOf p xs = none) :
    ∀ x ∈ xs, p x = false := by
  intro x hx
  rw [newestOf, List.getLast?_eq_none_iff, List.filter_eq_nil_iff] at h
  exact Bool.eq_false_iff.mpr (h x hx)

theorem newestOf_eq_some {p : α → Bool} {xs : List α} {x : α} :
    newestOf p xs = some x ↔
      ∃ before after, xs = before ++ x :: after ∧ p x = true ∧ ∀ y ∈ after, p y = false := by
  rw [newestOf, ← List.filterMap_eq_filter, getLast?_filterMap_eq_some]
  constructor
  · rintro ⟨before, y, after, hsplit, hy, hafter⟩
    obtain ⟨rfl, hp⟩ := Option.guard_eq_some_iff.mp hy
    exact ⟨before, after, hsplit, hp, fun z hz => by simpa using hafter z hz⟩
  · rintro ⟨before, after, hsplit, hp, hafter⟩
    refine ⟨before, x, after, hsplit, Option.guard_eq_some_iff.mpr ⟨rfl, hp⟩, fun y hy => ?_⟩
    simpa using hafter y hy

theorem newestOf_mem {p : α → Bool} {xs : List α} {x : α} (h : newestOf p xs = some x) :
    x ∈ xs ∧ p x = true :=
  List.mem_filter.mp (List.mem_of_getLast? h)

/-- A later job stays the newest, whatever becomes of the one at `i`. -/
theorem newestOf_later {p : α → Bool} {xs : List α} {i : Nat} {x y : α} (h : xs[i]? = some x)
    (hlater : newestOf p (xs.drop (i + 1)) = some y) (x' : α) :
    newestOf p xs = some y ∧ newestOf p (xs.eraseIdx i) = some y ∧
      newestOf p (xs.set i x') = some y := by
  have hi := (List.getElem?_eq_some_iff.mp h).1
  refine ⟨?_, ?_, ?_⟩
  · rw [split_at h, newestOf_append, hlater, Option.some_or]
  · rw [List.eraseIdx_eq_take_drop_succ, newestOf_append, hlater, Option.some_or]
  · rw [List.set_eq_take_append_cons_drop, if_pos hi,
      show x' :: xs.drop (i + 1) = [x'] ++ xs.drop (i + 1) from rfl, newestOf_append,
      newestOf_append, hlater, Option.some_or, Option.some_or]

/-- No later job is selected: the one at `i` is the newest. -/
theorem newestOf_here {p : α → Bool} {xs : List α} {i : Nat} {x x' : α} (h : xs[i]? = some x)
    (hlater : newestOf p (xs.drop (i + 1)) = none) (hx : p x = true) (hx' : p x' = true) :
    newestOf p xs = some x ∧ newestOf p (xs.eraseIdx i) = newestOf p (xs.take i) ∧
      newestOf p (xs.set i x') = some x' := by
  have hi := (List.getElem?_eq_some_iff.mp h).1
  refine ⟨?_, ?_, ?_⟩
  · rw [split_at h, newestOf_append, hlater, Option.none_or, newestOf_concat hx]
  · rw [List.eraseIdx_eq_take_drop_succ, newestOf_append, hlater, Option.none_or]
  · rw [List.set_eq_take_append_cons_drop, if_pos hi,
      show x' :: xs.drop (i + 1) = [x'] ++ xs.drop (i + 1) from rfl, newestOf_append,
      newestOf_append, hlater, Option.none_or, newestOf_singleton hx', Option.some_or]

/-- A job outside the selection does not matter. -/
theorem newestOf_other {p : α → Bool} {xs : List α} {i : Nat} {x x' : α} (h : xs[i]? = some x)
    (hx : p x = false) (hx' : p x' = false) :
    newestOf p (xs.eraseIdx i) = newestOf p xs ∧ newestOf p (xs.set i x') = newestOf p xs := by
  have hi := (List.getElem?_eq_some_iff.mp h).1
  have hsplit : newestOf p xs =
      (newestOf p (xs.drop (i + 1))).or (newestOf p (xs.take i)) := by
    conv_lhs => rw [split_at h]
    rw [newestOf_append, newestOf_concat_neg hx]
  constructor
  · rw [hsplit, List.eraseIdx_eq_take_drop_succ, newestOf_append]
  · rw [hsplit, List.set_eq_take_append_cons_drop, if_pos hi,
      show x' :: xs.drop (i + 1) = [x'] ++ xs.drop (i + 1) from rfl, newestOf_append,
      newestOf_append, newestOf_singleton_neg hx', Option.or_none]

end NacosSdk.Lib.Pending
