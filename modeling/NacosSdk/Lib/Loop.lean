/-!
# Loops that return

A loop whose passes are numbered from 0 on: each one returns a result or goes on
with a new state. Proved here, for every body:

* `loop_returns`: a loop returns within as many passes as a rank that every pass
  which goes on lowers;
* `loop_eq_of_le`: more passes change nothing.
-/

namespace NacosSdk.Lib.Loop

variable {σ : Type _} {ρ : Type _} {body : Nat → σ → σ × Option ρ}

/-- The state before each pass, when no pass returns. -/
def before (body : Nat → σ → σ × Option ρ) (s : σ) : Nat → σ
  | 0 => s
  | i + 1 => (body i (before body s i)).1

/-- At most `n` passes from pass `i` on; without a result they were not enough. -/
def loop (body : Nat → σ → σ × Option ρ) : Nat → Nat → σ → σ × Option ρ
  | 0, _, s => (s, none)
  | n + 1, i, s =>
    match body i s with
    | (t, some r) => (t, some r)
    | (t, none) => loop body n (i + 1) t

theorem loop_some {n i : Nat} {s : σ} {r : ρ} (h : (body i s).2 = some r) :
    loop body (n + 1) i s = ((body i s).1, some r) := by
  unfold loop
  cases hb : body i s with
  | mk t result =>
    rw [hb] at h
    cases h
    rfl

theorem loop_none {n i : Nat} {s : σ} (h : (body i s).2 = none) :
    loop body (n + 1) i s = loop body n (i + 1) (body i s).1 := by
  rw [loop]
  cases hb : body i s with
  | mk t result =>
    rw [hb] at h
    cases h
    rfl

/-- **Rank rule.** -/
theorem loop_returns {inv : Nat → σ → Prop} (rank : Nat → σ → Nat)
    (hinv : ∀ i s, inv i s → (body i s).2 = none → inv (i + 1) (body i s).1)
    (hrank : ∀ i s, inv i s → (body i s).2 = none → rank (i + 1) (body i s).1 < rank i s)
    {n i : Nat} {s : σ} (hs : inv i s) (hn : rank i s < n) : ∃ r, (loop body n i s).2 = some r := by
  induction n generalizing i s with
  | zero => omega
  | succ n ih =>
    cases hb : (body i s).2 with
    | some r => exact ⟨r, by rw [loop_some hb]⟩
    | none =>
      have hlower := hrank i s hs hb
      rw [loop_none hb]
      exact ih (hinv i s hs hb) (by omega)

theorem loop_eq_of_le {n m i : Nat} {s : σ} {r : ρ} (h : (loop body n i s).2 = some r)
    (hle : n ≤ m) : loop body m i s = loop body n i s := by
  induction n generalizing i s m with
  | zero => cases h
  | succ n ih =>
    obtain ⟨m, rfl⟩ : ∃ k, m = k + 1 := ⟨m - 1, by omega⟩
    cases hb : (body i s).2 with
    | some r' => rw [loop_some hb, loop_some hb]
    | none =>
      rw [loop_none hb] at h
      rw [loop_none hb, loop_none hb]
      exact ih h (by omega)

end NacosSdk.Lib.Loop
