import Mathlib.Data.List.Basic

/-!
# Shared cells

A cell is made once, keeps its address for ever and is read and written
through it: the memory behind `Arc<AtomicBool>`. Proved here, for every memory
and every type of contents: what a cell holds after another one was made or
written, and what a measure of the contents adds up to.
-/

namespace NacosSdk.Lib

variable {α : Type _}

/-- The contents of the cells, by address. -/
abbrev Cells (α : Type _) := List α

/-- The address of the next cell. -/
def Cells.fresh (cells : Cells α) : Nat := cells.length

def Cells.make (cells : Cells α) (a : α) : Cells α := cells ++ [a]

def Cells.load (cells : Cells α) (addr : Nat) : Option α := cells[addr]?

def Cells.store (cells : Cells α) (addr : Nat) (a : α) : Cells α := cells.set addr a

@[simp] theorem load_make_fresh (cells : Cells α) (a : α) :
    (cells.make a).load cells.fresh = some a := by
  simp [Cells.load, Cells.make, Cells.fresh]

theorem load_make_of_lt (cells : Cells α) (a : α) {addr : Nat} (h : addr < cells.fresh) :
    (cells.make a).load addr = cells.load addr := by
  unfold Cells.fresh at h
  simp [Cells.load, Cells.make, List.getElem?_append_left h]

theorem load_store_self (cells : Cells α) (a : α) {addr : Nat} (h : addr < cells.fresh) :
    (cells.store addr a).load addr = some a := by
  unfold Cells.fresh at h
  simp [Cells.load, Cells.store, h]

theorem load_store_ne (cells : Cells α) (a : α) {addr other : Nat} (h : addr ≠ other) :
    (cells.store addr a).load other = cells.load other := by
  simp [Cells.load, Cells.store, List.getElem?_set_ne h]

@[simp] theorem fresh_make (cells : Cells α) (a : α) : (cells.make a).fresh = cells.fresh + 1 := by
  simp [Cells.make, Cells.fresh]

@[simp] theorem fresh_store (cells : Cells α) (addr : Nat) (a : α) :
    (cells.store addr a).fresh = cells.fresh := by
  simp [Cells.store, Cells.fresh]

theorem lt_fresh_of_load {cells : Cells α} {addr : Nat} {a : α} (h : cells.load addr = some a) :
    addr < cells.fresh :=
  (List.getElem?_eq_some_iff.mp h).1

/-- What a cell holds after one was made. -/
theorem made_cases {cells : Cells α} {a b : α} {addr : Nat} (h : (cells.make a).load addr = some b) :
    b = a ∧ addr = cells.fresh ∨ cells.load addr = some b := by
  rcases Nat.lt_trichotomy addr cells.fresh with hlt | rfl | hgt
  · rw [load_make_of_lt cells a hlt] at h
    exact Or.inr h
  · rw [load_make_fresh] at h
    cases h
    exact Or.inl ⟨rfl, rfl⟩
  · have hlt := lt_fresh_of_load h
    rw [fresh_make] at hlt
    omega

/-- What a cell holds after one was written. -/
theorem stored_cases {cells : Cells α} {a b : α} {addr other : Nat}
    (h : (cells.store addr a).load other = some b) :
    b = a ∧ other = addr ∨ other ≠ addr ∧ cells.load other = some b := by
  by_cases heq : other = addr
  · subst heq
    have hlt := lt_fresh_of_load h
    rw [fresh_store] at hlt
    rw [load_store_self cells a hlt] at h
    cases h
    exact Or.inl ⟨rfl, rfl⟩
  · rw [load_store_ne cells a (Ne.symm heq)] at h
    exact Or.inr ⟨heq, h⟩

/-- A measure of the contents, added up. -/
def Cells.total (f : α → Nat) : Cells α → Nat
  | [] => 0
  | a :: cells => f a + Cells.total f cells

theorem total_make (f : α → Nat) (cells : Cells α) (a : α) :
    (cells.make a).total f = cells.total f + f a := by
  unfold Cells.make
  induction cells with
  | nil => simp [Cells.total]
  | cons c cells ih =>
    simp only [List.cons_append, Cells.total, ih]
    omega

theorem total_store (f : α → Nat) {cells : Cells α} {addr : Nat} {a : α}
    (h : cells.load addr = some a) (b : α) :
    (cells.store addr b).total f + f a = cells.total f + f b := by
  unfold Cells.store
  induction cells generalizing addr with
  | nil => cases h
  | cons c cells ih =>
    cases addr with
    | zero =>
      cases h
      simp only [List.set_cons_zero, Cells.total]
      omega
    | succ addr =>
      have hrest := @ih addr h
      simp only [List.set_cons_succ, Cells.total]
      omega

end NacosSdk.Lib
