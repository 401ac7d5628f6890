/-!
# Guarded runs of a partial step function

A system is a step function `step : σ → ε → Option σ`: an event is taken in a
state where `step` is defined on it. `Reaches step ok s es t` is a run from
`s` to `t` along the events `es` in which every event meets the guard `ok` in
the state it is taken from. Proved here, for every system and guard:

* `Reaches.invariant`: what every guarded step preserves holds at the end;
* `Reaches.history`: the same for a relation of the events so far and the state;
* `Reaches.weaken`: a run under a guard is one under every weaker guard;
* `Reaches.congr`: two guards that agree wherever an invariant of the one holds
  allow the same runs;
* `run_reaches`, `runWhile_reaches`: the executable `run` and `runWhile` yield
  runs.
-/

namespace NacosSdk.Lib.Run

variable {σ : Type _} {ε : Type _} {step : σ → ε → Option σ} {ok ok' : σ → ε → Prop}

/-- The events `es` lead from `s` to `t`, each one enabled and meeting `ok` in
the state it is taken from. -/
inductive Reaches (step : σ → ε → Option σ) (ok : σ → ε → Prop) : σ → List ε → σ → Prop
  | refl (s : σ) : Reaches step ok s [] s
  | next {s s' t : σ} {e : ε} {es : List ε} : ok s e → step s e = some s' →
      Reaches step ok s' es t → Reaches step ok s (e :: es) t

/-- The guard that allows every event. -/
def anyStep : σ → ε → Prop := fun _ _ => True

/-- Take the events one after another; `none` when one is not enabled. -/
def run (step : σ → ε → Option σ) : σ → List ε → Option σ
  | s, [] => some s
  | s, e :: es =>
    match step s e with
    | none => none
    | some s' => run step s' es

/-- A run that was computed, under a guard that only looks at the events. -/
theorem run_reaches_of {P : ε → Prop} {s t : σ} {es : List ε} (h : run step s es = some t)
    (hp : ∀ e ∈ es, P e) : Reaches step (fun _ e => P e) s es t := by
  induction es generalizing s with
  | nil =>
    cases h
    exact Reaches.refl _
  | cons e es ih =>
    cases hs : step s e with
    | none => simp [run, hs] at h
    | some s' =>
      simp only [run, hs] at h
      exact Reaches.next (hp e (by simp)) hs (ih h fun e he => hp e (by simp [he]))

theorem run_reaches {s t : σ} {es : List ε} (h : run step s es = some t) :
    Reaches step anyStep s es t :=
  run_reaches_of h fun _ _ => trivial

/-- Take the events one after another while a test of state and event holds. -/
def runWhile (step : σ → ε → Option σ) (test : σ → ε → Bool) : σ → List ε → Option σ
  | s, [] => some s
  | s, e :: es =>
    if test s e then
      match step s e with
      | none => none
      | some s' => runWhile step test s' es
    else none

theorem runWhile_reaches {test : σ → ε → Bool} (htest : ∀ s e, test s e = true → ok s e)
    {s t : σ} {es : List ε} (h : runWhile step test s es = some t) : Reaches step ok s es t := by
  induction es generalizing s with
  | nil =>
    cases h
    exact Reaches.refl _
  | cons e es ih =>
    unfold runWhile at h
    split at h
    · next hok =>
      cases hs : step s e with
      | none => simp [hs] at h
      | some s' =>
        simp only [hs] at h
        exact Reaches.next (htest s e hok) hs (ih h)
    · cases h

theorem runWhile_run {test : σ → ε → Bool} {s t : σ} {es : List ε}
    (h : runWhile step test s es = some t) : run step s es = some t := by
  induction es generalizing s with
  | nil => exact h
  | cons e es ih =>
    unfold runWhile at h
    unfold run
    split at h
    · cases hs : step s e with
      | none => simp [hs] at h
      | some s' =>
        simp only [hs] at h ⊢
        exact ih h
    · cases h

/-- The end of a run that was only computed as far as it exists. -/
theorem run_getD_reaches {s : σ} {es : List ε} (h : (run step s es).isSome = true) (d : σ) :
    Reaches step anyStep s es ((run step s es).getD d) := by
  obtain ⟨t, ht⟩ := Option.isSome_iff_exists.mp h
  rw [ht]
  exact run_reaches ht

theorem runWhile_getD_reaches {test : σ → ε → Bool} (htest : ∀ s e, test s e = true → ok s e)
    {s : σ} {es : List ε} (h : (runWhile step test s es).isSome = true) (d : σ) :
    Reaches step ok s es ((run step s es).getD d) := by
  obtain ⟨t, ht⟩ := Option.isSome_iff_exists.mp h
  rw [runWhile_run ht]
  exact runWhile_reaches htest ht

/-- The test of a guard is the guard itself where it can be decided. -/
theorem runDecided_reaches (ok : σ → ε → Prop) [∀ s e, Decidable (ok s e)] {s : σ} {es : List ε}
    (h : (runWhile step (fun s e => decide (ok s e)) s es).isSome = true) (d : σ) :
    Reaches step ok s es ((run step s es).getD d) :=
  runWhile_getD_reaches (fun _ _ htest => of_decide_eq_true htest) h d

theorem Reaches.append {s t u : σ} {es fs : List ε} (h : Reaches step ok s es t)
    (h' : Reaches step ok t fs u) : Reaches step ok s (es ++ fs) u := by
  induction h with
  | refl => exact h'
  | next hok hs _ ih => exact Reaches.next hok hs (ih h')

theorem Reaches.split {s t : σ} {es fs : List ε} (h : Reaches step ok s (es ++ fs) t) :
    ∃ u, Reaches step ok s es u ∧ Reaches step ok u fs t := by
  induction es generalizing s with
  | nil => exact ⟨s, Reaches.refl s, h⟩
  | cons e es ih =>
    cases h with
    | next hok hs hrest =>
      obtain ⟨u, hes, hfs⟩ := ih hrest
      exact ⟨u, Reaches.next hok hs hes, hfs⟩

/-- The events decide where a run ends, whatever the guards. -/
theorem Reaches.unique {s t u : σ} {es : List ε} (h : Reaches step ok s es t)
    (h' : Reaches step ok' s es u) : t = u := by
  induction h with
  | refl =>
    cases h'
    rfl
  | next _ hs _ ih =>
    cases h' with
    | next _ hs' hrest =>
      rw [hs] at hs'
      cases hs'
      exact ih hrest

/-- The same event again and again, along the states `f`. -/
theorem replicate_reaches (f : Nat → σ) {e : ε} (n : Nat) (hok : ∀ k < n, ok (f k) e)
    (h : ∀ k < n, step (f k) e = some (f (k + 1))) :
    Reaches step ok (f 0) (List.replicate n e) (f n) := by
  induction n with
  | zero => exact Reaches.refl _
  | succ n ih =>
    have hbefore := ih (fun k hk => hok k (Nat.lt_succ_of_lt hk))
      fun k hk => h k (Nat.lt_succ_of_lt hk)
    rw [List.replicate_succ']
    exact hbefore.append (Reaches.next (hok n (Nat.lt_succ_self n)) (h n (Nat.lt_succ_self n))
      (Reaches.refl _))

/-- A weaker guard allows the same run. -/
theorem Reaches.weaken {s t : σ} {es : List ε} (h : Reaches step ok s es t)
    (hw : ∀ s e, ok s e → ok' s e) : Reaches step ok' s es t := by
  induction h with
  | refl => exact Reaches.refl _
  | next hok hs _ ih => exact Reaches.next (hw _ _ hok) hs ih

/-- What holds of all events of a run joins its guard. -/
theorem Reaches.restrict {P : ε → Prop} {s t : σ} {es : List ε} (h : Reaches step ok s es t)
    (hp : ∀ e ∈ es, P e) : Reaches step (fun s e => ok s e ∧ P e) s es t := by
  induction h with
  | refl => exact Reaches.refl _
  | next hok hs _ ih =>
    exact Reaches.next ⟨hok, hp _ List.mem_cons_self⟩ hs
      (ih fun e he => hp e (List.mem_cons_of_mem _ he))

/-- A guard that only looks at the events holds of a run whose events meet it. -/
theorem Reaches.guarded {P : ε → Prop} {s t : σ} {es : List ε} (h : Reaches step ok s es t)
    (hp : ∀ e ∈ es, P e) : Reaches step (fun _ e => P e) s es t :=
  (h.restrict hp).weaken fun _ _ hok => hok.2

/-- **Invariant rule.** What every guarded step preserves holds at the end of
every guarded run that starts with it. -/
theorem Reaches.invariant {I : σ → Prop}
    (hstep : ∀ s e s', ok s e → step s e = some s' → I s → I s')
    {s t : σ} {es : List ε} (h : Reaches step ok s es t) (hi : I s) : I t := by
  induction h with
  | refl => exact hi
  | next hok hs _ ih => exact ih (hstep _ _ _ hok hs hi)

/-- **History rule.** What holds at the start, and what every guarded step carries
on to the events so far with its own, holds of the events of every guarded run
and the state it ends in. -/
theorem Reaches.history {I : List ε → σ → Prop} {s t : σ} {es : List ε}
    (h : Reaches step ok s es t) (hi : I [] s)
    (hstep : ∀ past u e u', Reaches step ok s past u → ok u e → step u e = some u' → I past u →
      I (past ++ [e]) u') : I es t := by
  suffices hall : ∀ past u, Reaches step ok s past u → I past u → Reaches step ok u es t →
      I (past ++ es) t by
    exact hall [] s (Reaches.refl s) hi h
  clear h hi
  induction es with
  | nil =>
    intro past u _ hu hrest
    cases hrest
    rwa [List.append_nil]
  | cons e es ih =>
    intro past u hpast hu hrest
    cases hrest with
    | next hok hs hrest =>
      rw [← List.singleton_append, ← List.append_assoc]
      exact ih _ _ (hpast.append (Reaches.next hok hs (Reaches.refl _)))
        (hstep past u e _ hpast hok hs hu) hrest

/-- Guards that agree under an invariant of the runs under one of them. -/
theorem Reaches.congr {I : σ → Prop}
    (hiff : ∀ s e s', step s e = some s' → I s → (ok s e ↔ ok' s e))
    (hstep : ∀ s e s', ok s e → step s e = some s' → I s → I s')
    {s t : σ} {es : List ε} (hi : I s) : Reaches step ok s es t ↔ Reaches step ok' s es t := by
  constructor
  · intro h
    induction h with
    | refl => exact Reaches.refl _
    | next hok hs _ ih =>
      exact Reaches.next ((hiff _ _ _ hs hi).mp hok) hs (ih (hstep _ _ _ hok hs hi))
  · intro h
    induction h with
    | refl => exact Reaches.refl _
    | next hok' hs _ ih =>
      have hok := (hiff _ _ _ hs hi).mpr hok'
      exact Reaches.next hok hs (ih (hstep _ _ _ hok hs hi))

end NacosSdk.Lib.Run
