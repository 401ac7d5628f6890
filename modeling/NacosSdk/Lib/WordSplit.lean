import Mathlib.Data.List.Infix

/-!
# Text cut at a word

`str::split` with a word of several characters: the word is cut out wherever it
stands first, and the search goes on behind it. A word may overlap itself, so
what stands before it can end with the start of an earlier one. Proved here, for
every alphabet and word:

* `overlap_of_eq`: two cuts of one text at different places overlap;
* `splitWord_first`, `splitWord_none`: what `splitWord` yields.
-/

namespace NacosSdk.Lib.WordSplit

variable {α : Type _} {word : List α}

/-! ## Overlaps -/

/-- What stands before the later of two cuts ends with the start of the earlier
word, when that whole word is missing there or the later one behind the earlier. -/
theorem overlap_of_eq {a b r s : List α} (hfree : ¬ (word <:+: b ∧ word <:+: r))
    (h : a ++ word ++ r = b ++ word ++ s) (hlt : a.length < b.length) :
    ∃ u v, u ≠ [] ∧ v ≠ [] ∧ word = u ++ v ∧ b = a ++ u ∧ v ++ r = word ++ s := by
  rw [List.append_assoc, List.append_assoc] at h
  have hbegins : b <+: a ++ (word ++ r) := h ▸ List.prefix_append b _
  obtain ⟨u, rfl⟩ : a <+: b :=
    List.prefix_of_prefix_length_le (List.prefix_append a _) hbegins (Nat.le_of_lt hlt)
  have hu : u ≠ [] := by
    rintro rfl
    simp at hlt
  rw [List.append_assoc] at h
  have hrest : word ++ r = u ++ (word ++ s) := List.append_cancel_left h
  have hstart : u <+: word ++ r := hrest ▸ List.prefix_append u _
  have hshort : u.length < word.length := by
    -- a longer piece would hold the whole earlier word, and the rest the later one
    by_contra hlong
    obtain ⟨w, rfl⟩ : word <+: u :=
      List.prefix_of_prefix_length_le (List.prefix_append word r) hstart (Nat.le_of_not_lt hlong)
    have hbetween : r = w ++ word ++ s := by simpa using hrest
    exact hfree ⟨⟨a, w, by simp⟩, ⟨w, s, hbetween.symm⟩⟩
  obtain ⟨v, rfl⟩ : u <+: word :=
    List.prefix_of_prefix_length_le hstart (List.prefix_append word r) (Nat.le_of_lt hshort)
  have hv : v ≠ [] := by
    rintro rfl
    simp at hshort
  rw [List.append_assoc] at hrest
  exact ⟨u, v, hu, hv, rfl, rfl, List.append_cancel_left hrest⟩

/-- The first piece of a cut starts as the whole does. -/
theorem cons_of_cut {c : α} {w u v : List α} (hu : u ≠ []) (h : c :: w = u ++ v) :
    ∃ u', u = c :: u' ∧ w = u' ++ v := by
  cases u with
  | nil => exact absurd rfl hu
  | cons d u' =>
    cases h
    exact ⟨u', rfl, rfl⟩

/-- The word does not stand earlier than behind `a`. -/
def First (word a r : List α) : Prop :=
  ∀ b s, a ++ word ++ r = b ++ word ++ s → a.length ≤ b.length

theorem First.tail {c : α} {a r : List α} (h : First word (c :: a) r) : First word a r := by
  intro b s heq
  have hcons : c :: a ++ word ++ r = c :: b ++ word ++ s := by
    simp only [List.cons_append, heq]
  exact Nat.le_of_succ_le_succ (h (c :: b) s hcons)

/-! ## Splitting -/

variable [BEq α]

/-- The parts from the place on where `skip` more characters belong to a word
that was cut out. -/
def splitFrom (word : List α) : Nat → List α → List (List α)
  | _, [] => [[]]
  | skip + 1, _ :: t => splitFrom word skip t
  | 0, c :: t =>
    if word.isPrefixOf (c :: t) then [] :: splitFrom word (word.length - 1) t
    else (splitFrom word 0 t).modifyHead (c :: ·)

/-- `str::split`, for a word that is not empty. -/
def splitWord (word : List α) (t : List α) : List (List α) := splitFrom word 0 t

theorem splitFrom_skip (u t : List α) : splitFrom word u.length (u ++ t) = splitWord word t := by
  induction u with
  | nil => rfl
  | cons c u ih => exact ih

variable [LawfulBEq α]

/-- A word at the start. -/
theorem splitWord_word (hword : word ≠ []) (r : List α) :
    splitWord word (word ++ r) = [] :: splitWord word r := by
  obtain ⟨c, rest, rfl⟩ := List.exists_cons_of_ne_nil hword
  have hprefix : (c :: rest).isPrefixOf (c :: (rest ++ r)) = true := by simp
  unfold splitWord
  rw [List.cons_append, splitFrom, if_pos hprefix]
  congr 1
  exact splitFrom_skip rest r

theorem splitWord_first (hword : word ≠ []) {a r : List α} (h : First word a r) :
    splitWord word (a ++ word ++ r) = a :: splitWord word r := by
  induction a with
  | nil => exact splitWord_word hword r
  | cons c a ih =>
    have hnot : ¬ word.isPrefixOf (c :: (a ++ word ++ r)) = true := by
      intro hprefix
      obtain ⟨s, hs⟩ := List.isPrefixOf_iff_prefix.mp hprefix
      have hlength := h [] s (by simpa using hs.symm)
      simp at hlength
    unfold splitWord at ih ⊢
    rw [List.cons_append, List.cons_append, splitFrom, if_neg hnot, ih h.tail]
    rfl

theorem splitWord_none {t : List α} (h : ¬ word <:+: t) :
    splitWord word t = [t] := by
  induction t with
  | nil => rfl
  | cons c t ih =>
    have hnot : ¬ word.isPrefixOf (c :: t) = true := by
      intro hprefix
      exact h (List.isPrefixOf_iff_prefix.mp hprefix).isInfix
    unfold splitWord at ih ⊢
    rw [splitFrom, if_neg hnot, ih fun hpart => h (hpart.trans (List.suffix_cons c t).isInfix)]
    rfl

end NacosSdk.Lib.WordSplit
