import Mathlib.Data.List.TakeWhile

/-!
# Text joined by a separator

Two texts that are cut at the first separator. Proved here, for every alphabet:
what stands before the first separator, and what follows it, is determined by
the whole (`append_inj_of_tail`), and what `splitOn` yields for both
(`splitOn_first`, `splitOn_second`).
-/

namespace NacosSdk.Lib.Separator

variable {α : Type _}

/-- A text that is empty or starts with the separator. -/
def Tail (sep : α) (t : List α) : Prop := ∀ c ∈ t.head?, c = sep

theorem tail_nil (sep : α) : Tail sep [] := fun _ h => by simp at h

theorem tail_cons (sep : α) (t : List α) : Tail sep (sep :: t) := fun c h => by
  simp only [List.head?_cons, Option.mem_def, Option.some.injEq] at h
  exact h.symm

/-- The first separator stands at the same place in equal texts. -/
theorem append_inj_of_tail {sep : α} {a b t u : List α} (ha : sep ∉ a) (hb : sep ∉ b)
    (ht : Tail sep t) (hu : Tail sep u) (h : a ++ t = b ++ u) : a = b ∧ t = u := by
  induction a generalizing b with
  | nil =>
    cases b with
    | nil => exact ⟨rfl, h⟩
    | cons c b =>
      have hc : c = sep := ht c (by rw [show t = c :: b ++ u from h]; rfl)
      exact absurd (by simp [hc]) hb
  | cons c a ih =>
    cases b with
    | nil =>
      have hc : c = sep := hu c (by rw [show u = c :: a ++ t from h.symm]; rfl)
      exact absurd (by simp [hc]) ha
    | cons d b =>
      simp only [List.cons_append, List.cons.injEq] at h
      obtain ⟨rfl, h⟩ := h
      obtain ⟨rfl, rfl⟩ := ih (fun hm => ha (by simp [hm])) (fun hm => hb (by simp [hm])) h
      exact ⟨rfl, rfl⟩

/-! ## Segments -/

section Segments

variable [DecidableEq α]

/-- What stands before the first separator. -/
def segment (sep : α) (t : List α) : List α := t.takeWhile fun c => c ≠ sep

theorem segment_not_mem (sep : α) (t : List α) : sep ∉ segment sep t := by
  intro hm
  have hne := List.mem_takeWhile_imp hm
  simp at hne

/-- The segment is followed by nothing or by the separator. -/
theorem segment_tail (sep : α) (t : List α) :
    ∃ rest, t = segment sep t ++ rest ∧ (rest = [] ∨ ∃ after, rest = sep :: after) := by
  refine ⟨t.dropWhile fun c => c ≠ sep, List.takeWhile_append_dropWhile.symm, ?_⟩
  cases hrest : t.dropWhile fun c => c ≠ sep with
  | nil => exact Or.inl rfl
  | cons c after =>
    have hc : c = sep := by
      have hnot := List.head?_dropWhile_not (fun c => decide (c ≠ sep)) t
      rw [hrest] at hnot
      simpa using hnot
    exact Or.inr ⟨after, by rw [hc]⟩

theorem segment_append_sep (sep : α) (t rest : List α) :
    segment sep (t ++ sep :: rest) = segment sep t := by
  induction t with
  | nil => simp [segment]
  | cons c t ih =>
    unfold segment at ih ⊢
    rw [List.cons_append, List.takeWhile_cons, List.takeWhile_cons, ih]

theorem splitOn_first (sep : α) (t : List α) : (t.splitOn sep)[0]? = some (segment sep t) := by
  obtain ⟨rest, hsplit, rfl | ⟨after, rfl⟩⟩ := segment_tail sep t
  · rw [List.append_nil] at hsplit
    have hnot : sep ∉ t := hsplit ▸ segment_not_mem sep t
    rw [List.splitOn_eq_singleton hnot, ← hsplit]
    rfl
  · have hcut : t.splitOn sep = segment sep t :: after.splitOn sep := by
      rw [← List.splitOn_append_cons_self_of_not_mem (segment_not_mem sep t), ← hsplit]
    rw [hcut]
    rfl

theorem splitOn_second {sep : α} {before : List α} (h : sep ∉ before) (t : List α) :
    ((before ++ sep :: t).splitOn sep)[1]? = some (segment sep t) := by
  rw [List.splitOn_append_cons_self_of_not_mem h, List.getElem?_cons_succ]
  exact splitOn_first sep t

end Segments

end NacosSdk.Lib.Separator
