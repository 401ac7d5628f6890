import Mathlib.Data.List.Induction

/-!
# Membership by the last call

A collection whose calls add or remove keys. Proved here, for every collection
and sequence of calls: its members are the keys whose last call was an addition
(`mem_iff_lastEffect`).
-/

namespace NacosSdk.Lib.LastCall

variable {σ : Type _} {ε : Type _} {κ : Type _}

/-- Whether the last call that is about the key added it. -/
def lastEffect (effect : ε → κ → Option Bool) (calls : List ε) (k : κ) : Option Bool :=
  (calls.filterMap fun e => effect e k).getLast?

variable {effect : ε → κ → Option Bool}

theorem lastEffect_some {e : ε} {k : κ} {b : Bool} (h : effect e k = some b) (calls : List ε) :
    lastEffect effect (calls ++ [e]) k = some b := by
  simp [lastEffect, h]

theorem lastEffect_none {e : ε} {k : κ} (h : effect e k = none) (calls : List ε) :
    lastEffect effect (calls ++ [e]) k = lastEffect effect calls k := by
  simp [lastEffect, h]

theorem mem_iff_lastEffect {step : σ → ε → σ} (mem : σ → κ → Prop)
    (hsome : ∀ s e k b, effect e k = some b → (mem (step s e) k ↔ b = true))
    (hnone : ∀ s e k, effect e k = none → (mem (step s e) k ↔ mem s k))
    {s : σ} (hs : ∀ k, ¬ mem s k) (calls : List ε) (k : κ) :
    mem (calls.foldl step s) k ↔ lastEffect effect calls k = some true := by
  induction calls using List.reverseRecOn with
  | nil => simpa [lastEffect] using hs k
  | append_singleton calls e ih =>
    rw [List.foldl_append, List.foldl_cons, List.foldl_nil]
    cases he : effect e k with
    | none => rw [hnone _ e k he, lastEffect_none he, ih]
    | some b => rw [hsome _ e k b he, lastEffect_some he, Option.some.injEq]

end NacosSdk.Lib.LastCall
