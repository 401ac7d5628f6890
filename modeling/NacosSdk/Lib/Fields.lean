import Mathlib.Data.List.DropRight

/-!
# The fields of a text

A text is cut at separators, every piece is trimmed and blank pieces are
dropped. Proved here, for every alphabet, separators and spaces:

* `fields_gap`, `fields_trim`: what may stand around the text;
* `fields_entry`: an entry at its start is its first field;
* `fields_joined`: with them, the entries of a text are its fields.
-/

namespace NacosSdk.Lib

variable {α : Type _}

def trimBy (isSpace : α → Bool) (s : List α) : List α :=
  (s.dropWhile isSpace).rdropWhile isSpace

/-- The pieces between separators, trimmed, without the blank ones. -/
def fields (isSeparator isSpace : α → Bool) (s : List α) : List (List α) :=
  ((s.splitOnP isSeparator).map (trimBy isSpace)).filter fun field => !field.isEmpty

/-! ## Trimming -/

section Trim

variable {isSpace : α → Bool}

theorem trimBy_append_left {w : List α} (h : ∀ c ∈ w, isSpace c = true) (s : List α) :
    trimBy isSpace (w ++ s) = trimBy isSpace s := by
  unfold trimBy
  rw [List.dropWhile_append_of_pos h]

theorem rdropWhile_append {w : List α} (h : ∀ c ∈ w, isSpace c = true) (s : List α) :
    (s ++ w).rdropWhile isSpace = s.rdropWhile isSpace := by
  induction w using List.reverseRecOn with
  | nil => rw [List.append_nil]
  | append_singleton w c ih =>
    rw [← List.append_assoc, List.rdropWhile_concat_pos _ _ _ (h c (by simp))]
    exact ih fun d hd => h d (List.mem_append_left _ hd)

theorem trimBy_append_right {w : List α} (h : ∀ c ∈ w, isSpace c = true) (s : List α) :
    trimBy isSpace (s ++ w) = trimBy isSpace s := by
  unfold trimBy
  rw [List.dropWhile_append]
  split
  · next hblank =>
    rw [List.isEmpty_iff] at hblank
    have hw : w.dropWhile isSpace = [] := by
      rw [List.dropWhile_eq_nil_iff]
      exact h
    rw [hblank, hw]
  · exact rdropWhile_append h _

theorem trimBy_eq_self {s : List α} (h : ∀ c ∈ s, isSpace c = false) : trimBy isSpace s = s := by
  have hleft : s.dropWhile isSpace = s := by
    cases s with
    | nil => rfl
    | cons c s => rw [List.dropWhile_cons_of_neg (by simp [h c])]
  unfold trimBy
  rw [hleft, List.rdropWhile_eq_self_iff]
  intro hne hlast
  rw [h _ (List.getLast_mem hne)] at hlast
  cases hlast

/-- What trimming takes away. -/
theorem trimBy_split (isSpace : α → Bool) (s : List α) :
    ∃ before after, s = before ++ trimBy isSpace s ++ after ∧
      (∀ c ∈ before, isSpace c = true) ∧ ∀ c ∈ after, isSpace c = true := by
  refine ⟨s.takeWhile isSpace, (s.dropWhile isSpace).rtakeWhile isSpace, ?_,
    fun c hc => List.mem_takeWhile_imp hc, fun c hc => List.mem_rtakeWhile_imp hc⟩
  unfold trimBy
  rw [List.append_assoc, List.rdropWhile_append_rtakeWhile, List.takeWhile_append_dropWhile]

end Trim

/-! ## Gaps -/

section Gap

variable {isSeparator isSpace : α → Bool}

/-- Separators and spaces in any order. -/
def Gap (isSeparator isSpace : α → Bool) (gap : List α) : Prop :=
  ∀ c ∈ gap, isSeparator c = true ∨ isSpace c = true

instance (isSeparator isSpace : α → Bool) (gap : List α) :
    Decidable (Gap isSeparator isSpace gap) :=
  inferInstanceAs (Decidable (∀ c ∈ gap, _ ∨ _))

theorem fields_cons {c : α} (h : isSeparator c = true ∨ isSpace c = true) (s : List α) :
    fields isSeparator isSpace (c :: s) = fields isSeparator isSpace s := by
  unfold fields
  rw [List.splitOnP_cons_eq_if_modifyHead]
  split
  · rfl
  · next hsep =>
    have hspace : ∀ d ∈ [c], isSpace d = true := by simpa using h.resolve_left hsep
    cases hpieces : s.splitOnP isSeparator with
    | nil => exact absurd hpieces (List.splitOnP_ne_nil _ _)
    | cons piece pieces =>
      have htrim := trimBy_append_left hspace piece
      simp only [List.modifyHead_cons, List.map_cons]
      rw [show c :: piece = [c] ++ piece from rfl, htrim]

/-- A gap before a text adds no field. -/
theorem fields_gap {gap : List α} (h : Gap isSeparator isSpace gap) (s : List α) :
    fields isSeparator isSpace (gap ++ s) = fields isSeparator isSpace s := by
  induction gap with
  | nil => rfl
  | cons c gap ih =>
    rw [List.cons_append, fields_cons (h c (by simp))]
    exact ih fun d hd => h d (List.mem_cons_of_mem _ hd)

/-- What follows the last separator goes to the last piece. -/
theorem splitOnP_append {w : List α} (h : ∀ c ∈ w, isSeparator c = false) (s : List α) :
    ∃ pieces last, s.splitOnP isSeparator = pieces ++ [last] ∧
      (s ++ w).splitOnP isSeparator = pieces ++ [last ++ w] := by
  induction s with
  | nil => exact ⟨[], [], rfl, List.splitOnP_eq_singleton h⟩
  | cons c s ih =>
    obtain ⟨pieces, last, hs, hsw⟩ := ih
    rw [List.cons_append, List.splitOnP_cons_eq_if_modifyHead,
      List.splitOnP_cons_eq_if_modifyHead, hs, hsw]
    split
    · exact ⟨[] :: pieces, last, rfl, rfl⟩
    · cases pieces with
      | nil => exact ⟨[], c :: last, rfl, rfl⟩
      | cons piece pieces => exact ⟨(c :: piece) :: pieces, last, rfl, rfl⟩

theorem fields_concat {c : α} (h : isSpace c = true) (s : List α) :
    fields isSeparator isSpace (s ++ [c]) = fields isSeparator isSpace s := by
  unfold fields
  by_cases hsep : isSeparator c = true
  · rw [List.splitOnP_append_cons s [] hsep]
    simp [trimBy]
  · have hnot : ∀ d ∈ [c], isSeparator d = false := by simpa using hsep
    have hspace : ∀ d ∈ [c], isSpace d = true := by simpa using h
    obtain ⟨pieces, last, hs, hsw⟩ := splitOnP_append hnot s
    have htrim := trimBy_append_right hspace last
    rw [hs, hsw, List.map_append, List.map_append, List.map_singleton, List.map_singleton, htrim]

theorem fields_spaces {after : List α} (h : ∀ c ∈ after, isSpace c = true) (s : List α) :
    fields isSeparator isSpace (s ++ after) = fields isSeparator isSpace s := by
  induction after using List.reverseRecOn with
  | nil => rw [List.append_nil]
  | append_singleton after c ih =>
    rw [← List.append_assoc, fields_concat (h c (by simp))]
    exact ih fun d hd => h d (List.mem_append_left _ hd)

/-- Trimming the whole text changes no field. -/
theorem fields_trim (s : List α) :
    fields isSeparator isSpace (trimBy isSpace s) = fields isSeparator isSpace s := by
  obtain ⟨before, after, hsplit, hbefore, hafter⟩ := trimBy_split isSpace s
  conv_rhs => rw [hsplit]
  rw [List.append_assoc, fields_gap fun c hc => Or.inr (hbefore c hc), fields_spaces hafter]

/-! ## Entries -/

/-- Without separators and spaces, and not empty. -/
structure Entry (isSeparator isSpace : α → Bool) (entry : List α) : Prop where
  nonempty : entry ≠ []
  separator : ∀ c ∈ entry, isSeparator c = false
  space : ∀ c ∈ entry, isSpace c = false

/-- A gap without a separator is blank. -/
theorem gap_spaces {gap : List α} (h : Gap isSeparator isSpace gap)
    (hnone : ∀ c ∈ gap, isSeparator c = false) : ∀ c ∈ gap, isSpace c = true := by
  intro c hc
  rcases h c hc with hsep | hspace
  · rw [hnone c hc] at hsep
    cases hsep
  · exact hspace

theorem piece_field {entry spaces : List α} (he : Entry isSeparator isSpace entry)
    (hs : ∀ c ∈ spaces, isSpace c = true) (pieces : List (List α)) :
    (((entry ++ spaces) :: pieces).map (trimBy isSpace)).filter (fun field => !field.isEmpty) =
      entry :: (pieces.map (trimBy isSpace)).filter fun field => !field.isEmpty := by
  rw [List.map_cons, trimBy_append_right hs, trimBy_eq_self he.space, List.filter_cons_of_pos]
  simpa [List.isEmpty_iff] using he.nonempty

/-- The text after an entry: the gap behind it has a separator, or nothing
follows the gap. -/
theorem fields_entry {entry gap rest : List α} (he : Entry isSeparator isSpace entry)
    (hg : Gap isSeparator isSpace gap)
    (hrest : (∃ c ∈ gap, isSeparator c = true) ∨ rest = []) :
    fields isSeparator isSpace (entry ++ gap ++ rest) =
      entry :: fields isSeparator isSpace rest := by
  cases hfind : gap.find? isSeparator with
  | some c =>
    -- the first separator ends the piece of the entry
    obtain ⟨hc, spaces, after, rfl, hbefore⟩ := List.find?_eq_some_iff_append.mp hfind
    have hnone : ∀ d ∈ spaces, isSeparator d = false := by simpa using hbefore
    have hspaces : ∀ d ∈ spaces, isSpace d = true :=
      gap_spaces (fun d hd => hg d (List.mem_append_left _ hd)) hnone
    have hafter : Gap isSeparator isSpace after := fun d hd => hg d (by simp [hd])
    have hpiece : ∀ d ∈ entry ++ spaces, isSeparator d = false := by
      intro d hd
      rcases List.mem_append.mp hd with hd | hd
      · exact he.separator d hd
      · exact hnone d hd
    have hsplit : entry ++ (spaces ++ c :: after) ++ rest =
        (entry ++ spaces) ++ c :: (after ++ rest) := by simp
    rw [← fields_gap hafter rest, hsplit]
    unfold fields
    rw [List.splitOnP_append_cons_of_forall_mem hpiece c hc, piece_field he hspaces]
  | none =>
    have hnone : ∀ d ∈ gap, isSeparator d = false := by simpa using hfind
    rcases hrest with ⟨c, hm, hc⟩ | rfl
    · rw [hnone c hm] at hc
      cases hc
    · have hpiece : ∀ d ∈ entry ++ gap, isSeparator d = false := by
        intro d hd
        rcases List.mem_append.mp hd with hd | hd
        · exact he.separator d hd
        · exact hnone d hd
      rw [List.append_nil]
      unfold fields
      rw [List.splitOnP_eq_singleton hpiece, piece_field he (gap_spaces hg hnone)]
      rfl

/-- Entries in a text: gaps around them, and a separator in each gap between
two of them. -/
inductive Joined (isSeparator isSpace : α → Bool) : List (List α) → List α → Prop
  | last (before entry after : List α) (hbefore : Gap isSeparator isSpace before)
      (hafter : Gap isSeparator isSpace after) :
      Joined isSeparator isSpace [entry] (before ++ entry ++ after)
  | next (before entry between : List α) {entries : List (List α)} {text : List α}
      (hbefore : Gap isSeparator isSpace before) (hbetween : Gap isSeparator isSpace between)
      (hseparator : ∃ c ∈ between, isSeparator c = true)
      (htext : Joined isSeparator isSpace entries text) :
      Joined isSeparator isSpace (entry :: entries) (before ++ entry ++ between ++ text)

theorem fields_joined {entries : List (List α)} {text : List α}
    (h : Joined isSeparator isSpace entries text)
    (he : ∀ entry ∈ entries, Entry isSeparator isSpace entry) :
    fields isSeparator isSpace text = entries := by
  induction h with
  | last before entry after hbefore hafter =>
    have hfirst := fields_entry (he entry (by simp)) hafter (Or.inr rfl)
    rw [List.append_nil] at hfirst
    rw [List.append_assoc, fields_gap hbefore, hfirst]
    rfl
  | next before entry between hbefore hbetween hseparator _ ih =>
    have hrest := ih fun other hm => he other (List.mem_cons_of_mem _ hm)
    rw [List.append_assoc, List.append_assoc, fields_gap hbefore, ← List.append_assoc,
      fields_entry (he entry (by simp)) hbetween (Or.inl hseparator), hrest]

end Gap

end NacosSdk.Lib
