import Mathlib.Order.Lattice
import Mathlib.Data.List.Induction

/-!
# The newest element of a sequence

A register that keeps, of all the values shown to it, the one with the
greatest stamp and the later one in case of a tie. Proved here, for every
linear order of stamps:

* `le_newest`, `newest_mem`: the register holds an element of the sequence
  with the greatest stamp;
* `newest_later`: every element after it has a smaller stamp;
* `older_iff`: being older than some element is being older than the newest.
-/

namespace NacosSdk.Lib.Newest

variable {α : Type _} {τ : Type _} [LinearOrder τ] (stamp : α → τ)

/-- Show `x` to a register that holds `best`. -/
def pick (best : Option α) (x : α) : Option α :=
  match best with
  | none => some x
  | some b => if stamp x < stamp b then some b else some x

/-- The element with the greatest stamp, the later one in case of a tie. -/
def newest (l : List α) : Option α := l.foldl (pick stamp) none

theorem newest_snoc (l : List α) (x : α) :
    newest stamp (l ++ [x]) = pick stamp (newest stamp l) x := by
  simp [newest]

theorem newest_snoc_ne_none (l : List α) (x : α) : newest stamp (l ++ [x]) ≠ none := by
  rw [newest_snoc]
  unfold pick
  split
  · exact Option.some_ne_none _
  · split <;> exact Option.some_ne_none _

theorem newest_eq_none {l : List α} (h : newest stamp l = none) : l = [] := by
  induction l using List.reverseRecOn with
  | nil => rfl
  | append_singleton l x _ => exact absurd h (newest_snoc_ne_none stamp l x)

variable {stamp}

theorem le_newest {l : List α} {b : α} (h : newest stamp l = some b) :
    ∀ x ∈ l, stamp x ≤ stamp b := by
  induction l using List.reverseRecOn generalizing b with
  | nil => simp
  | append_singleton l y ih =>
    rw [newest_snoc] at h
    cases hb : newest stamp l with
    | none =>
      rw [hb] at h
      cases h
      simp [newest_eq_none stamp hb]
    | some c =>
      simp only [hb, pick] at h
      have hc := ih hb
      intro x hx
      split at h
      · cases h
        rcases List.mem_append.mp hx with hm | hm
        · exact hc x hm
        · rw [List.mem_singleton.mp hm]
          exact le_of_lt ‹_›
      · cases h
        rcases List.mem_append.mp hx with hm | hm
        · exact le_trans (hc x hm) (not_lt.mp ‹_›)
        · rw [List.mem_singleton.mp hm]

/-- The newest element splits the sequence: what follows it is older. -/
theorem newest_later {l : List α} {b : α} (h : newest stamp l = some b) :
    ∃ pre post, l = pre ++ b :: post ∧ ∀ x ∈ post, stamp x < stamp b := by
  induction l using List.reverseRecOn generalizing b with
  | nil => simp [newest] at h
  | append_singleton l y ih =>
    rw [newest_snoc] at h
    cases hb : newest stamp l with
    | none =>
      rw [hb] at h
      cases h
      exact ⟨l, [], rfl, by simp⟩
    | some c =>
      simp only [hb, pick] at h
      split at h
      · cases h
        obtain ⟨pre, post, rfl, hp⟩ := ih hb
        refine ⟨pre, post ++ [y], by simp, fun x hx => ?_⟩
        rcases List.mem_append.mp hx with hm | hm
        · exact hp x hm
        · rw [List.mem_singleton.mp hm]
          assumption
      · cases h
        exact ⟨l, [], rfl, by simp⟩

theorem newest_mem {l : List α} {b : α} (h : newest stamp l = some b) : b ∈ l := by
  obtain ⟨pre, post, rfl, _⟩ := newest_later h
  simp

theorem older_iff {l : List α} {b : α} (h : newest stamp l = some b) (t : τ) :
    (∃ y ∈ l, t < stamp y) ↔ t < stamp b := by
  constructor
  · rintro ⟨y, hy, ht⟩
    exact lt_of_lt_of_le ht (le_newest h y hy)
  · intro ht
    exact ⟨b, newest_mem h, ht⟩

end NacosSdk.Lib.Newest
