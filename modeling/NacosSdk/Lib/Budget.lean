import NacosSdk.Lib.Run

/-!
# Budgets of time

A system with a clock `spent`, in which some of the time does not count
(`free`), and an estimate `budget` of the time that is left until `D` holds.
Proved here, for every system, guard and invariant:

* `Reaches.withinBudget`: if no step runs over its budget, no run does;
* `Reaches.overdue`: a run that is past the budget is done.
-/

namespace NacosSdk.Lib.Run

variable {σ : Type _} {ε : Type _} {step : σ → ε → Option σ} {ok : σ → ε → Prop}
  {I D : σ → Prop} {spent free budget : σ → Nat}

/-- Between the states the clock runs no further than the budget shrinks and
free time passes. -/
def Within (spent free budget : σ → Nat) (s t : σ) : Prop :=
  spent t + budget t + free s ≤ spent s + budget s + free t

theorem within_trans {s s' t : σ} (h : Within spent free budget s s')
    (h' : Within spent free budget s' t) : Within spent free budget s t := by
  unfold Within at *
  omega

/-- **Budget rule.** -/
theorem Reaches.withinBudget (hI : ∀ s e s', ok s e → step s e = some s' → I s → I s')
    (hdone : ∀ s e s', ok s e → step s e = some s' → D s → D s')
    (hstep : ∀ s e s', ok s e → step s e = some s' → I s → ¬ D s →
      D s' ∨ Within spent free budget s s')
    {s t : σ} {es : List ε} (h : Reaches step ok s es t) (hi : I s) :
    D t ∨ Within spent free budget s t := by
  induction h with
  | refl s => exact Or.inr (Nat.le_refl _)
  | next hok hs hrest ih =>
    rename_i s s' t e es
    have hkept : D s' → D t := hrest.invariant hdone
    by_cases hd : D s
    · exact Or.inl (hkept (hdone s e s' hok hs hd))
    · rcases hstep s e s' hok hs hi hd with hd' | hw
      · exact Or.inl (hkept hd')
      · exact (ih (hI s e s' hok hs hi)).imp_right fun hw' => within_trans hw hw'

/-- What is not done within the budget is late. -/
theorem Reaches.overdue (hI : ∀ s e s', ok s e → step s e = some s' → I s → I s')
    (hdone : ∀ s e s', ok s e → step s e = some s' → D s → D s')
    (hstep : ∀ s e s', ok s e → step s e = some s' → I s → ¬ D s →
      D s' ∨ Within spent free budget s s')
    {s t : σ} {es : List ε} (h : Reaches step ok s es t) (hi : I s) {bound : Nat}
    (hbound : budget s ≤ bound) (hlate : spent s + bound + free t < spent t + free s) :
    D t := by
  rcases h.withinBudget hI hdone hstep hi with hd | hw
  · exact hd
  · unfold Within at hw
    omega

end NacosSdk.Lib.Run
