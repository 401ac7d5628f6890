import Mathlib.Algebra.BigOperators.Ring.List
import Mathlib.Algebra.Order.Field.Rat
import NacosSdk.Lib.BinarySearch
import NacosSdk.Lib.Shares
import NacosSdk.Naming.Service

/-!
# Choosing an instance by its weight

`RandomWeightChooser` of `naming/chooser/mod.rs`, `select_instances_async` and
`select_one_healthy_instance_async` of `naming/mod.rs`. Weights are computed with
as `f64` does, but without rounding. Proved here, for every list of instances:

* `new_finite`, `new_lost`: what the constructor returns;
* `choose_law`: which instance is chosen for a random number;
* `chooser_law_iff`: with them, exactly when an instance is chosen by its weight
  and a healthy one selected;
* `infiniteWeight_not_law`: an instance of infinite weight.
-/

namespace NacosSdk.Naming
open NacosSdk.Common NacosSdk.Lib

/-! ## Weights -/

/-- `partial_cmp` on `f64`. -/
def Weight.partialCmp : Weight → Weight → Option Ordering
  | .nan, _ | _, .nan => none
  | .finite p, .finite q => some (compare p q)
  | .infinity, .infinity | .negInfinity, .negInfinity => some .eq
  | .infinity, _ | _, .negInfinity => some .gt
  | .negInfinity, _ | _, .infinity => some .lt

def Weight.lt (a b : Weight) : Bool := a.partialCmp b = some .lt

def Weight.le (a b : Weight) : Bool := a.partialCmp b = some .lt || a.partialCmp b = some .eq

def Weight.isInfinite : Weight → Bool
  | .infinity | .negInfinity => true
  | _ => false

def Weight.isNan : Weight → Bool
  | .nan => true
  | _ => false

def Weight.neg : Weight → Weight
  | .finite q => .finite (-q)
  | .infinity => .negInfinity
  | .negInfinity => .infinity
  | .nan => .nan

def Weight.abs : Weight → Weight
  | .finite q => .finite |q|
  | .infinity | .negInfinity => .infinity
  | .nan => .nan

def Weight.add : Weight → Weight → Weight
  | .nan, _ | _, .nan => .nan
  | .infinity, .negInfinity | .negInfinity, .infinity => .nan
  | .infinity, _ | _, .infinity => .infinity
  | .negInfinity, _ | _, .negInfinity => .negInfinity
  | .finite p, .finite q => .finite (p + q)

def Weight.sub (a b : Weight) : Weight := a.add b.neg

/-- A finite divisor; zero counts as positive. -/
def Weight.divFinite (a : Weight) (q : Rat) : Weight :=
  match a with
  | .nan => .nan
  | .infinity => if q < 0 then .negInfinity else .infinity
  | .negInfinity => if q < 0 then .infinity else .negInfinity
  | .finite p =>
    if q = 0 then
      if p = 0 then .nan else if 0 < p then .infinity else .negInfinity
    else .finite (p / q)

def Weight.div (a b : Weight) : Weight :=
  match b with
  | .nan => .nan
  | .finite q => a.divFinite q
  | .infinity | .negInfinity =>
    match a with
    | .finite _ => .finite 0
    | _ => .nan

/-! ## The chooser -/

structure RandomWeightChooser where
  weights : List Weight
  items : List ServiceInstance

/-- The test that both passes make, `weight <= 0_f64`. -/
def ServiceInstance.skipped (instance_ : ServiceInstance) : Bool :=
  instance_.weight.le (.finite 0)

/-- The weight that an instance is given in the first pass. -/
def Weight.normal (weight : Weight) : Weight :=
  let weight := if weight.isInfinite then .finite 10000 else weight
  if weight.isNan then .finite 1 else weight

def addWeight (sum : Weight) (instance_ : ServiceInstance) : Weight :=
  if instance_.skipped then sum else sum.add instance_.weight.normal

/-- The first pass. -/
def originWeightSum (items : List ServiceInstance) : Weight := items.foldl addWeight (.finite 0)

/-- The second pass. -/
def exactWeights (items : List ServiceInstance) (originWeightSum : Weight) : List Weight :=
  (items.filter fun instance_ => !instance_.skipped).map fun instance_ =>
    instance_.weight.div originWeightSum

/-- The third pass. -/
def cumulate (randomRange : Weight) : List Weight → List Weight
  | [] => []
  | item :: exactWeights => randomRange.add item :: cumulate (randomRange.add item) exactWeights

def noInstanceError (serviceName : String) : Error :=
  .errResult ("no available " ++ serviceName ++ " service instance can be selected")

def RandomWeightChooser.new (serviceName : String) (items : List ServiceInstance) :
    Except Error RandomWeightChooser :=
  if items.isEmpty then .error (noInstanceError serviceName)
  else
    let initItems := items.filter fun instance_ => !instance_.skipped
    let weights := cumulate (.finite 0) (exactWeights items (originWeightSum items))
    match weights.getLast? with
    | none => .ok { weights, items := initItems }
    | some last =>
      if (last.sub (.finite 1)).abs.lt (.finite (1 / 10000)) then
        .ok { weights, items := initItems }
      else
        .error (.errResult
          "Cumulative Weight calculate wrong , the sum of probabilities does not equals 1.")

/-- `choose`, when `randomNumber` is drawn. -/
def RandomWeightChooser.choose (chooser : RandomWeightChooser) (randomNumber : Rat) :
    Option ServiceInstance :=
  let found := binarySearchBy chooser.weights fun d =>
    (d.partialCmp (.finite randomNumber)).getD .lt
  match found with
  | .ok index =>
    match chooser.items[index]? with
    | some instance_ => some instance_
    | none => chooser.items.getLast?
  | .error index =>
    match chooser.weights[index]? with
    | none => chooser.items.getLast?
    | some weight =>
      if (Weight.finite randomNumber).lt weight then
        match chooser.items[index]? with
        | some instance_ => some instance_
        | none => chooser.items.getLast?
      else chooser.items.getLast?

/-! ## Selection -/

def NamingService.selectInstancesAsync (s : NamingService) (serviceName : String)
    (groupName : Option String) (clusters : List String) (subscribe healthy : Bool)
    (answer : Answer) : Except Error (List ServiceInstance) × NamingService :=
  let groupName := normalizeGroupName groupName
  let all := s.getAllInstancesAsync serviceName (some groupName) clusters subscribe answer
  match all.1 with
  | .error e => (.error e, all.2)
  | .ok allInstance =>
    (.ok (allInstance.filter fun instance_ =>
      healthy == instance_.healthy && instance_.enabled && instance_.weight.positive), all.2)

def NamingService.selectOneHealthyInstanceAsync (s : NamingService) (serviceName : String)
    (groupName : Option String) (clusters : List String) (subscribe : Bool) (answer : Answer)
    (randomNumber : Rat) : Except Error ServiceInstance × NamingService :=
  let groupName := normalizeGroupName groupName
  let selected := s.selectInstancesAsync serviceName (some groupName) clusters subscribe true answer
  match selected.1 with
  | .error e => (.error e, selected.2)
  | .ok ret =>
    match RandomWeightChooser.new serviceName ret with
    | .error e => (.error e, selected.2)
    | .ok chooser =>
      match chooser.choose randomNumber with
      | none => (.error (noInstanceError serviceName), selected.2)
      | some instance_ => (.ok instance_, selected.2)

/-! ## The passes -/

/-- The instances whose weight counts. -/
def countedItems (items : List ServiceInstance) : List ServiceInstance :=
  items.filter fun instance_ => !instance_.skipped

/-- The weight of the first pass as a rational number. -/
def Weight.rational : Weight → Rat
  | .finite q => q
  | .infinity | .negInfinity => 10000
  | .nan => 1

/-- The counted weights. -/
def countedWeights (items : List ServiceInstance) : List Rat :=
  (countedItems items).map fun instance_ => instance_.weight.rational

theorem normal_eq (w : Weight) : w.normal = .finite w.rational := by
  cases w <;> rfl

theorem skipped_iff (instance_ : ServiceInstance) :
    instance_.skipped = false ↔ instance_.weight = .nan ∨ instance_.weight.positive = true := by
  unfold ServiceInstance.skipped Weight.le
  cases hw : instance_.weight with
  | finite q =>
    simp only [Weight.partialCmp, Option.some.injEq, Bool.or_eq_false_iff, decide_eq_false_iff_not,
      compare_lt_iff_lt, compare_eq_iff_eq, Weight.positive, decide_eq_true_eq, reduceCtorEq,
      false_or]
    constructor
    · rintro ⟨hlt, hne⟩
      exact lt_of_le_of_ne (not_lt.mp hlt) (Ne.symm hne)
    · intro hpos
      exact ⟨not_lt.mpr hpos.le, hpos.ne'⟩
  | infinity => simp [Weight.partialCmp, Weight.positive]
  | negInfinity => simp [Weight.partialCmp, Weight.positive]
  | nan => simp [Weight.partialCmp]

theorem mem_countedItems {items : List ServiceInstance} {instance_ : ServiceInstance} :
    instance_ ∈ countedItems items ↔
      instance_ ∈ items ∧ (instance_.weight = .nan ∨ instance_.weight.positive = true) := by
  unfold countedItems
  rw [List.mem_filter, ← skipped_iff, Bool.not_eq_true']

theorem countedWeights_length (items : List ServiceInstance) :
    (countedWeights items).length = (countedItems items).length := by
  simp [countedWeights]

theorem countedWeights_pos (items : List ServiceInstance) : ∀ w ∈ countedWeights items, 0 < w := by
  intro w hw
  obtain ⟨instance_, hm, rfl⟩ := List.mem_map.mp hw
  rcases (mem_countedItems.mp hm).2 with hnan | hpos
  · simp [hnan, Weight.rational]
  · cases hweight : instance_.weight with
    | finite q =>
      show 0 < q
      simpa [hweight, Weight.positive] using hpos
    | _ => simp [Weight.rational]

theorem originWeightSum_eq (items : List ServiceInstance) :
    originWeightSum items = .finite (countedWeights items).sum := by
  have hfold : ∀ c : Rat, items.foldl addWeight (.finite c) =
      .finite (c + (countedWeights items).sum) := by
    induction items with
    | nil => simp [countedWeights, countedItems]
    | cons instance_ items ih =>
      intro c
      rw [List.foldl_cons]
      cases hskip : instance_.skipped with
      | true =>
        have hrest : countedWeights (instance_ :: items) = countedWeights items := by
          simp [countedWeights, countedItems, hskip]
        rw [addWeight, if_pos hskip, ih, hrest]
      | false =>
        have hrest : countedWeights (instance_ :: items) =
            instance_.weight.rational :: countedWeights items := by
          simp [countedWeights, countedItems, hskip]
        rw [addWeight, if_neg (by simp [hskip]), normal_eq, Weight.add, ih, hrest,
          List.sum_cons, add_assoc]
  unfold originWeightSum
  rw [hfold, zero_add]

/-- The cumulative weights of finite weights. -/
theorem cumulate_finite (c : Rat) (qs : List Rat) (i : Nat) :
    (cumulate (.finite c) (qs.map Weight.finite))[i]? =
      (qs[i]?).map fun _ => Weight.finite (c + (qs.take (i + 1)).sum) := by
  induction qs generalizing c i with
  | nil => simp [cumulate]
  | cons q qs ih =>
    simp only [List.map_cons, cumulate, Weight.add]
    cases i with
    | zero => simp
    | succ i =>
      rw [List.getElem?_cons_succ, List.getElem?_cons_succ, ih, List.take_succ_cons,
        List.sum_cons, ← add_assoc]

theorem cumulate_length (w : Weight) (ws : List Weight) :
    (cumulate w ws).length = ws.length := by
  induction ws generalizing w with
  | nil => rfl
  | cons v ws ih => simp [cumulate, ih]

/-! ## What the constructor returns -/

/-- The counted weights are numbers. -/
def AllFinite (items : List ServiceInstance) : Prop :=
  ∀ instance_ ∈ countedItems items, instance_.weight ≠ .infinity ∧ instance_.weight ≠ .nan

theorem exactWeights_finite {items : List ServiceInstance} (h : AllFinite items) {total : Rat}
    (htotal : total ≠ 0) :
    exactWeights items (.finite total) =
      ((countedWeights items).map fun w => w / total).map Weight.finite := by
  unfold exactWeights countedWeights
  rw [List.map_map, List.map_map]
  apply List.map_congr_left
  intro instance_ hm
  obtain ⟨hinfinity, hnan⟩ := h instance_ hm
  rcases (mem_countedItems.mp hm).2 with hnan' | hpos
  · exact absurd hnan' hnan
  · cases hw : instance_.weight with
    | finite q =>
      simp only [Weight.div, Weight.divFinite, if_neg htotal, Function.comp_apply, hw,
        Weight.rational]
    | infinity => exact absurd hw hinfinity
    | negInfinity =>
      rw [hw] at hpos
      cases hpos
    | nan => exact absurd hw hnan

/-- A chooser over the shares of the counted weights. -/
structure RandomWeightChooser.Shared (chooser : RandomWeightChooser)
    (items : List ServiceInstance) : Prop where
  kept : chooser.items = countedItems items
  ends : ∀ i : Nat, chooser.weights[i]? =
    ((countedWeights items)[i]?).map fun _ =>
      Weight.finite (shares (countedWeights items) (i + 1))

theorem countedWeights_ne {items : List ServiceInstance} (hne : countedItems items ≠ []) :
    countedWeights items ≠ [] := by
  unfold countedWeights
  simpa using hne

/-- The cumulative weights of the constructor. -/
theorem weights_end {items : List ServiceInstance} (h : AllFinite items)
    (hne : countedItems items ≠ []) (i : Nat) :
    (cumulate (.finite 0) (exactWeights items (originWeightSum items)))[i]? =
      ((countedWeights items)[i]?).map fun _ =>
        Weight.finite (shares (countedWeights items) (i + 1)) := by
  have htotal := List.sum_pos _ (countedWeights_pos items) (countedWeights_ne hne)
  rw [originWeightSum_eq, exactWeights_finite h htotal.ne', cumulate_finite, List.getElem?_map,
    Option.map_map, zero_add]
  have hsum : (((countedWeights items).map fun w => w / (countedWeights items).sum).take
      (i + 1)).sum = shares (countedWeights items) (i + 1) := by
    unfold shares
    rw [← List.map_take]
    simp only [div_eq_mul_inv]
    rw [List.sum_map_mul_right, List.map_id']
  rw [hsum]
  rfl

theorem weights_last {items : List ServiceInstance} (h : AllFinite items)
    (hne : countedItems items ≠ []) :
    (cumulate (.finite 0) (exactWeights items (originWeightSum items))).getLast? =
      some (.finite 1) := by
  have hlength : (cumulate (.finite 0) (exactWeights items (originWeightSum items))).length =
      (countedWeights items).length := by
    rw [cumulate_length, exactWeights, countedWeights, countedItems, List.length_map,
      List.length_map]
  have hwne := countedWeights_ne hne
  have hpositive := List.length_pos_iff.mpr hwne
  have hone := shares_length (countedWeights_pos items) hwne
  have hindex : (countedWeights items).length - 1 + 1 = (countedWeights items).length := by
    omega
  rw [List.getLast?_eq_getElem?, hlength, weights_end h hne,
    List.getElem?_eq_getElem (show _ < (countedWeights items).length by omega), Option.map_some,
    hindex, hone]

theorem new_finite {items : List ServiceInstance} (h : AllFinite items)
    (hne : countedItems items ≠ []) (serviceName : String) :
    ∃ chooser, RandomWeightChooser.new serviceName items = .ok chooser ∧ chooser.Shared items := by
  have hitems : items.isEmpty = false := by
    cases items with
    | nil => exact absurd rfl hne
    | cons instance_ items => rfl
  have hdelta : ((Weight.finite 1).sub (.finite 1)).abs.lt (.finite (1 / 10000)) = true := by
    decide +kernel
  refine ⟨{ weights := _, items := _ }, ?_, rfl, weights_end h hne⟩
  unfold RandomWeightChooser.new
  rw [if_neg (by simp [hitems])]
  simp only [weights_last h hne, hdelta, ↓reduceIte]

/-- A sum or quotient in which the numbers are lost. -/
def Weight.Lost (w : Weight) : Prop := w = .infinity ∨ w = .nan

theorem lost_add_left {a b : Weight} (ha : a.Lost) : (a.add b).Lost := by
  rcases ha with rfl | rfl
  · cases b
    · exact Or.inl rfl
    · exact Or.inl rfl
    · exact Or.inr rfl
    · exact Or.inr rfl
  · cases b <;> exact Or.inr rfl

theorem lost_add_right {a b : Weight} (hb : b.Lost) : (a.add b).Lost := by
  rcases hb with rfl | rfl
  · cases a
    · exact Or.inl rfl
    · exact Or.inl rfl
    · exact Or.inr rfl
    · exact Or.inr rfl
  · cases a <;> exact Or.inr rfl

/-- What is lost once is lost at the end. -/
theorem cumulate_lost {w : Weight} {ws : List Weight} (hne : ws ≠ [])
    (h : w.Lost ∨ ∃ v ∈ ws, v.Lost) :
    ∃ last, (cumulate w ws).getLast? = some last ∧ last.Lost := by
  induction ws generalizing w with
  | nil => exact absurd rfl hne
  | cons v ws ih =>
    have hnext : (w.add v).Lost ∨ ∃ u ∈ ws, u.Lost := by
      rcases h with hw | ⟨u, hu, hlost⟩
      · exact Or.inl (lost_add_left hw)
      · rcases List.mem_cons.mp hu with rfl | hu
        · exact Or.inl (lost_add_right hlost)
        · exact Or.inr ⟨u, hu, hlost⟩
    cases ws with
    | nil =>
      rcases hnext with hlost | ⟨u, hu, _⟩
      · exact ⟨w.add v, rfl, hlost⟩
      · cases hu
    | cons u ws =>
      obtain ⟨last, hlast, hlost⟩ := ih (by simp) hnext
      refine ⟨last, ?_, hlost⟩
      rw [cumulate, ← hlast]
      exact List.getLast?_cons_cons

theorem lost_far {last : Weight} (h : last.Lost) :
    (last.sub (.finite 1)).abs.lt (.finite (1 / 10000)) = false := by
  rcases h with rfl | rfl <;> rfl

/-- An infinite weight is left infinite by the second pass, and NaN stays NaN. -/
theorem new_lost {items : List ServiceInstance} (h : ¬ AllFinite items) (serviceName : String) :
    ∃ e, RandomWeightChooser.new serviceName items = .error e := by
  have hlost : ∃ instance_ ∈ countedItems items, instance_.weight.Lost := by
    by_contra hnone
    refine h fun instance_ hm => ⟨fun hinfinity => hnone ?_, fun hnan => hnone ?_⟩
    · exact ⟨instance_, hm, Or.inl hinfinity⟩
    · exact ⟨instance_, hm, Or.inr hnan⟩
  obtain ⟨instance_, hm, hweight⟩ := hlost
  have htotal : 0 < (countedWeights items).sum :=
    List.sum_pos _ (countedWeights_pos items) (List.ne_nil_of_mem (List.mem_map_of_mem hm))
  have hquotient : (instance_.weight.div (.finite (countedWeights items).sum)).Lost := by
    rcases hweight with hw | hw
    · rw [hw]
      exact Or.inl (if_neg (not_lt.mpr htotal.le))
    · rw [hw]
      exact Or.inr rfl
  have hexact : instance_.weight.div (.finite (countedWeights items).sum) ∈
      exactWeights items (originWeightSum items) := by
    rw [originWeightSum_eq]
    exact List.mem_map_of_mem hm
  obtain ⟨last, hlast, hlastLost⟩ := cumulate_lost (w := .finite 0)
    (List.ne_nil_of_mem hexact) (Or.inr ⟨_, hexact, hquotient⟩)
  unfold RandomWeightChooser.new
  split
  · exact ⟨_, rfl⟩
  · simp only [hlast, lost_far hlastLost, Bool.false_eq_true, ↓reduceIte]
    exact ⟨_, rfl⟩

/-! ## What is chosen -/

/-- The instance whose share of the total weight holds the random number. -/
def ChosenByWeight (items : List ServiceInstance) (randomNumber : Rat)
    (instance_ : ServiceInstance) : Prop :=
  ∃ i, (countedItems items)[i]? = some instance_ ∧
    (shares (countedWeights items) i < randomNumber ∨ i = 0 ∧ randomNumber = 0) ∧
    randomNumber ≤ shares (countedWeights items) (i + 1) ∧
    shares (countedWeights items) (i + 1) - shares (countedWeights items) i =
      instance_.weight.rational / (countedWeights items).sum

theorem chosen_of_index {items : List ServiceInstance} {randomNumber : Rat} {i : Nat}
    {instance_ : ServiceInstance} (hitem : (countedItems items)[i]? = some instance_)
    (hlow : shares (countedWeights items) i < randomNumber ∨ i = 0 ∧ randomNumber = 0)
    (hhigh : randomNumber ≤ shares (countedWeights items) (i + 1)) :
    ChosenByWeight items randomNumber instance_ := by
  refine ⟨i, hitem, hlow, hhigh, ?_⟩
  have hweight : (countedWeights items)[i]? = some instance_.weight.rational := by
    simp [countedWeights, hitem]
  rw [shares_succ _ hweight]
  exact add_sub_cancel_left _ _

/-- The comparison of `choose` on a cumulative weight. -/
def compareTo (randomNumber : Rat) (d : Weight) : Ordering :=
  (d.partialCmp (.finite randomNumber)).getD .lt

theorem compareTo_finite (randomNumber q : Rat) :
    compareTo randomNumber (.finite q) = compare q randomNumber := rfl

theorem choose_of_ok {chooser : RandomWeightChooser} {randomNumber : Rat} {i : Nat}
    {instance_ : ServiceInstance}
    (hfound : binarySearchBy chooser.weights (compareTo randomNumber) = .ok i)
    (hitem : chooser.items[i]? = some instance_) :
    chooser.choose randomNumber = some instance_ := by
  show (match binarySearchBy chooser.weights (compareTo randomNumber) with
    | .ok index => _
    | .error index => _) = _
  simp only [hfound, hitem]

theorem choose_of_error {chooser : RandomWeightChooser} {randomNumber : Rat} {i : Nat}
    {instance_ : ServiceInstance} {weight : Weight}
    (hfound : binarySearchBy chooser.weights (compareTo randomNumber) = .error i)
    (hweight : chooser.weights[i]? = some weight)
    (hlt : (Weight.finite randomNumber).lt weight = true)
    (hitem : chooser.items[i]? = some instance_) :
    chooser.choose randomNumber = some instance_ := by
  show (match binarySearchBy chooser.weights (compareTo randomNumber) with
    | .ok index => _
    | .error index => _) = _
  simp only [hfound, hweight, hlt, ↓reduceIte, hitem]

section Shared

variable {chooser : RandomWeightChooser} {items : List ServiceInstance} {randomNumber : Rat}

theorem shared_weight (h : chooser.Shared items) {i : Nat} {weight : Weight}
    (hweight : chooser.weights[i]? = some weight) :
    i < (countedItems items).length ∧
      weight = .finite (shares (countedWeights items) (i + 1)) := by
  rw [h.ends] at hweight
  obtain ⟨w, hw, rfl⟩ := Option.map_eq_some_iff.mp hweight
  have hlen := (List.getElem?_eq_some_iff.mp hw).1
  rw [countedWeights_length] at hlen
  exact ⟨hlen, rfl⟩

theorem shared_end (h : chooser.Shared items) {i : Nat} (hi : i < (countedItems items).length) :
    chooser.weights[i]? = some (.finite (shares (countedWeights items) (i + 1))) := by
  rw [← countedWeights_length] at hi
  rw [h.ends, List.getElem?_eq_getElem hi]
  rfl

theorem shared_ordered (h : chooser.Shared items) (randomNumber : Rat) :
    OrderedBy (compareTo randomNumber) chooser.weights := by
  unfold OrderedBy
  rw [List.pairwise_iff_getElem]
  intro i j hi hj hij
  rw [(shared_weight h (List.getElem?_eq_getElem hi)).2,
    (shared_weight h (List.getElem?_eq_getElem hj)).2]
  have hle : shares (countedWeights items) (i + 1) ≤ shares (countedWeights items) (j + 1) :=
    shares_mono (countedWeights_pos items) (by omega)
  rw [compareTo_finite, compareTo_finite, compare_gt_iff_gt, compare_gt_iff_gt,
    compare_lt_iff_lt, compare_lt_iff_lt]
  exact ⟨fun hgt => lt_of_lt_of_le hgt hle, fun hlt => lt_of_le_of_lt hle hlt⟩

/-- The last share ends at 1, so the search stops before. -/
theorem search_in_range (h : chooser.Shared items) (hne : countedItems items ≠ [])
    (hhigh : randomNumber < 1) {i : Nat}
    (hbefore : ∀ j weight, j < i → chooser.weights[j]? = some weight →
      compareTo randomNumber weight = .lt) : i < (countedItems items).length := by
  by_contra hge
  have hlast := List.length_pos_iff.mpr hne
  have hless := hbefore ((countedItems items).length - 1) _ (by omega)
    (shared_end h (by omega))
  have hlength := countedWeights_length items
  have hindex : (countedItems items).length - 1 + 1 = (countedWeights items).length := by
    omega
  have hone := shares_length (countedWeights_pos items)
    (List.length_pos_iff.mp (show 0 < (countedWeights items).length by omega))
  rw [compareTo_finite, compare_lt_iff_lt, hindex, hone] at hless
  exact absurd hhigh (not_lt.mpr hless.le)

/-- The random number is the end of a share. -/
theorem choose_end (h : chooser.Shared items) {i : Nat}
    (hfound : binarySearchBy chooser.weights (compareTo randomNumber) = .ok i) :
    ∃ instance_, chooser.choose randomNumber = some instance_ ∧
      ChosenByWeight items randomNumber instance_ := by
  obtain ⟨weight, hweight, hequal⟩ := binarySearchBy_ok hfound
  obtain ⟨hi, rfl⟩ := shared_weight h hweight
  rw [compareTo_finite, compare_eq_iff_eq] at hequal
  have hitem := List.getElem?_eq_getElem hi
  refine ⟨(countedItems items)[i], choose_of_ok hfound (by rw [h.kept, hitem]), ?_⟩
  apply chosen_of_index hitem (Or.inl ?_) hequal.ge
  rw [← hequal]
  exact shares_lt (countedWeights_pos items) (by rwa [countedWeights_length])

/-- The random number stands inside a share. -/
theorem choose_inside (h : chooser.Shared items) (hne : countedItems items ≠ [])
    (hlow : 0 ≤ randomNumber) (hhigh : randomNumber < 1) {i : Nat}
    (hfound : binarySearchBy chooser.weights (compareTo randomNumber) = .error i) :
    ∃ instance_, chooser.choose randomNumber = some instance_ ∧
      ChosenByWeight items randomNumber instance_ := by
  obtain ⟨_, hbefore, hafter⟩ := binarySearchBy_error (shared_ordered h randomNumber) hfound
  have hi := search_in_range h hne hhigh hbefore
  have hitem := List.getElem?_eq_getElem hi
  have hgreater := hafter i _ (Nat.le_refl _) (shared_end h hi)
  rw [compareTo_finite, compare_gt_iff_gt] at hgreater
  have hlt : (Weight.finite randomNumber).lt
      (.finite (shares (countedWeights items) (i + 1))) = true := by
    simpa [Weight.lt, Weight.partialCmp, compare_lt_iff_lt] using hgreater
  refine ⟨(countedItems items)[i],
    choose_of_error hfound (shared_end h hi) hlt (by rw [h.kept, hitem]), ?_⟩
  apply chosen_of_index hitem _ hgreater.le
  cases i with
  | zero =>
    rw [shares_zero]
    rcases lt_or_eq_of_le hlow with hlt | heq
    · exact Or.inl hlt
    · exact Or.inr ⟨rfl, heq.symm⟩
  | succ i =>
    have hless := hbefore i _ (by omega) (shared_end h (by omega))
    rw [compareTo_finite, compare_lt_iff_lt] at hless
    exact Or.inl hless

/-- The search ends in the share that holds the random number. -/
theorem choose_law (h : chooser.Shared items) (hne : countedItems items ≠ [])
    (hlow : 0 ≤ randomNumber) (hhigh : randomNumber < 1) :
    ∃ instance_, chooser.choose randomNumber = some instance_ ∧
      ChosenByWeight items randomNumber instance_ := by
  cases hfound : binarySearchBy chooser.weights (compareTo randomNumber) with
  | ok i => exact choose_end h hfound
  | error i => exact choose_inside h hne hlow hhigh hfound

end Shared

/-! ## The laws -/

/-- The constructor succeeds, and every random number chooses by weight. -/
def ChooserLaw (serviceName : String) (items : List ServiceInstance) : Prop :=
  ∃ chooser, RandomWeightChooser.new serviceName items = .ok chooser ∧
    ∀ randomNumber, 0 ≤ randomNumber → randomNumber < 1 →
      ∃ instance_, chooser.choose randomNumber = some instance_ ∧
        ChosenByWeight items randomNumber instance_

/-- Healthy, enabled and of positive weight. -/
def ServiceInstance.Selectable (instance_ : ServiceInstance) : Prop :=
  instance_.healthy = true ∧ instance_.enabled = true ∧ instance_.weight.positive = true

/-- The instances that a selection starts from, none when the call for them
failed. -/
def NamingService.instances (s : NamingService) (serviceName : String)
    (groupName : Option String) (clusters : List String) (subscribe : Bool) (answer : Answer) :
    List ServiceInstance :=
  ((s.getAllInstancesAsync serviceName groupName clusters subscribe answer).1.toOption).getD []

/-- A selection succeeds when there is a selectable instance, and yields one. -/
def SelectLaw (s : NamingService) (serviceName : String) (groupName : Option String)
    (clusters : List String) (subscribe : Bool) (answer : Answer) : Prop :=
  ∀ randomNumber, 0 ≤ randomNumber → randomNumber < 1 →
    let instances := s.instances serviceName groupName clusters subscribe answer
    let selected := (s.selectOneHealthyInstanceAsync serviceName groupName clusters subscribe
      answer randomNumber).1
    ((∃ instance_, selected = .ok instance_) ↔ ∃ instance_ ∈ instances, instance_.Selectable) ∧
      ∀ instance_, selected = .ok instance_ → instance_ ∈ instances ∧ instance_.Selectable

theorem chooserLaw_iff_finite {items : List ServiceInstance} (hne : countedItems items ≠ [])
    (serviceName : String) : ChooserLaw serviceName items ↔ AllFinite items := by
  constructor
  · rintro ⟨chooser, hnew, _⟩
    by_contra hlost
    obtain ⟨e, herror⟩ := new_lost hlost serviceName
    rw [hnew] at herror
    cases herror
  · intro h
    obtain ⟨chooser, hnew, hshared⟩ := new_finite h hne serviceName
    exact ⟨chooser, hnew, fun randomNumber hlow hhigh => choose_law hshared hne hlow hhigh⟩

/-- The candidates of a selection. -/
def selectableOf (instances : List ServiceInstance) : List ServiceInstance :=
  instances.filter fun instance_ =>
    true == instance_.healthy && instance_.enabled && instance_.weight.positive

theorem mem_selectableOf {instances : List ServiceInstance} {instance_ : ServiceInstance} :
    instance_ ∈ selectableOf instances ↔ instance_ ∈ instances ∧ instance_.Selectable := by
  unfold selectableOf ServiceInstance.Selectable
  rw [List.mem_filter]
  simp [and_assoc]

theorem selectableOf_counted (instances : List ServiceInstance) :
    countedItems (selectableOf instances) = selectableOf instances := by
  unfold countedItems
  rw [List.filter_eq_self]
  intro instance_ hm
  obtain ⟨_, _, _, hpos⟩ := mem_selectableOf.mp hm
  rw [(skipped_iff instance_).mpr (Or.inr hpos)]
  rfl

theorem getAllInstancesAsync_normalized (s : NamingService) (serviceName : String)
    (groupName : Option String) (clusters : List String) (subscribe : Bool) (answer : Answer) :
    s.getAllInstancesAsync serviceName (some (normalizeGroupName groupName)) clusters subscribe
      answer = s.getAllInstancesAsync serviceName groupName clusters subscribe answer := by
  unfold NamingService.getAllInstancesAsync
  rw [normalizeGroupName_idem]

/-- What a selection yields, by the instances it starts from. -/
def selectFrom (serviceName : String) (instances : List ServiceInstance) (randomNumber : Rat) :
    Except Error ServiceInstance :=
  match RandomWeightChooser.new serviceName (selectableOf instances) with
  | .error e => .error e
  | .ok chooser =>
    match chooser.choose randomNumber with
    | none => .error (noInstanceError serviceName)
    | some instance_ => .ok instance_

theorem selectOne_cases (s : NamingService) (serviceName : String) (groupName : Option String)
    (clusters : List String) (subscribe : Bool) (answer : Answer) (randomNumber : Rat) :
    (s.selectOneHealthyInstanceAsync serviceName groupName clusters subscribe answer
        randomNumber).1 =
      selectFrom serviceName (s.instances serviceName groupName clusters subscribe answer)
        randomNumber ∨
    s.instances serviceName groupName clusters subscribe answer = [] ∧
      ∃ e, (s.selectOneHealthyInstanceAsync serviceName groupName clusters subscribe answer
        randomNumber).1 = .error e := by
  unfold NamingService.selectOneHealthyInstanceAsync NamingService.selectInstancesAsync
    NamingService.instances
  dsimp only
  rw [normalizeGroupName_idem, getAllInstancesAsync_normalized]
  cases hall : (s.getAllInstancesAsync serviceName groupName clusters subscribe answer).1 with
  | error e => exact Or.inr ⟨rfl, e, rfl⟩
  | ok instances =>
    refine Or.inl ?_
    show (match RandomWeightChooser.new serviceName (selectableOf instances) with
      | .error e => _
      | .ok chooser => _ : Except Error ServiceInstance × NamingService).1 = _
    unfold selectFrom
    simp only [Except.toOption, Option.getD_some]
    cases RandomWeightChooser.new serviceName (selectableOf instances) with
    | error e => rfl
    | ok chooser =>
      dsimp only
      cases chooser.choose randomNumber <;> rfl

theorem selectFrom_empty {serviceName : String} {instances : List ServiceInstance}
    (h : selectableOf instances = []) (randomNumber : Rat) :
    selectFrom serviceName instances randomNumber = .error (noInstanceError serviceName) := by
  unfold selectFrom
  rw [h]
  rfl

theorem selectFrom_finite {instances : List ServiceInstance}
    (hfinite : ∀ instance_ ∈ instances, instance_.Selectable → instance_.weight ≠ .infinity)
    (hne : selectableOf instances ≠ []) (serviceName : String) {randomNumber : Rat}
    (hlow : 0 ≤ randomNumber) (hhigh : randomNumber < 1) :
    ∃ instance_ ∈ selectableOf instances,
      selectFrom serviceName instances randomNumber = .ok instance_ := by
  have hcounted := selectableOf_counted instances
  have hall : AllFinite (selectableOf instances) := by
    intro instance_ hm
    rw [hcounted] at hm
    obtain ⟨hin, hselectable⟩ := mem_selectableOf.mp hm
    refine ⟨hfinite instance_ hin hselectable, fun hnan => ?_⟩
    have hpos := hselectable.2.2
    rw [hnan] at hpos
    cases hpos
  obtain ⟨chooser, hnew, hlaw⟩ :=
    (chooserLaw_iff_finite (by rwa [hcounted]) serviceName).mpr hall
  obtain ⟨instance_, hchosen, i, hitem, _⟩ := hlaw randomNumber hlow hhigh
  rw [hcounted] at hitem
  refine ⟨instance_, List.mem_of_getElem? hitem, ?_⟩
  unfold selectFrom
  simp only [hnew, hchosen]

theorem selectLaw_iff (s : NamingService) (serviceName : String) (groupName : Option String)
    (clusters : List String) (subscribe : Bool) (answer : Answer) :
    SelectLaw s serviceName groupName clusters subscribe answer ↔
      ∀ instance_ ∈ s.instances serviceName groupName clusters subscribe answer,
        instance_.Selectable → instance_.weight ≠ .infinity := by
  constructor
  · intro h instance_ hm hselectable hinfinity
    obtain ⟨hiff, _⟩ := h 0 le_rfl zero_lt_one
    obtain ⟨chosen, hchosen⟩ := hiff.mpr ⟨instance_, hm, hselectable⟩
    have hcounted : instance_ ∈ countedItems
        (selectableOf (s.instances serviceName groupName clusters subscribe answer)) := by
      rw [selectableOf_counted]
      exact mem_selectableOf.mpr ⟨hm, hselectable⟩
    obtain ⟨e, herror⟩ := new_lost (fun hall => (hall instance_ hcounted).1 hinfinity) serviceName
    rcases selectOne_cases s serviceName groupName clusters subscribe answer 0 with
      hselect | ⟨hnone, _⟩
    · rw [hselect, selectFrom, herror] at hchosen
      cases hchosen
    · rw [hnone] at hm
      cases hm
  · intro h randomNumber hlow hhigh
    dsimp only
    rcases selectOne_cases s serviceName groupName clusters subscribe answer randomNumber with
      hselect | ⟨hnone, e, herror⟩
    · rw [hselect]
      by_cases hne : selectableOf (s.instances serviceName groupName clusters subscribe answer) = []
      · rw [selectFrom_empty hne]
        refine ⟨⟨fun ⟨_, hok⟩ => (by cases hok), fun ⟨instance_, hm, hselectable⟩ => ?_⟩,
          fun _ hok => by cases hok⟩
        have hin := mem_selectableOf.mpr ⟨hm, hselectable⟩
        rw [hne] at hin
        cases hin
      · obtain ⟨chosen, hm, hchosen⟩ := selectFrom_finite h hne serviceName hlow hhigh
        have hmem := mem_selectableOf.mp hm
        rw [hchosen]
        refine ⟨⟨fun _ => ⟨chosen, hmem⟩, fun _ => ⟨chosen, rfl⟩⟩, fun instance_ hok => ?_⟩
        cases hok
        exact hmem
    · rw [hnone, herror]
      exact ⟨⟨fun ⟨_, hok⟩ => (by cases hok), fun ⟨_, hm, _⟩ => (by cases hm)⟩,
        fun _ hok => by cases hok⟩

/-- **Choosing by weight.** Of a list with a counted weight the constructor makes
a chooser by weight exactly when no counted weight is infinite or NaN, and a
selection is as it should be exactly when no instance that it may select has an
infinite weight. -/
theorem chooser_law_iff (serviceName : String) (items : List ServiceInstance)
    (hne : countedItems items ≠ []) (s : NamingService) (groupName : Option String)
    (clusters : List String) (subscribe : Bool) (answer : Answer) :
    (ChooserLaw serviceName items ↔ AllFinite items) ∧
      (SelectLaw s serviceName groupName clusters subscribe answer ↔
        ∀ instance_ ∈ s.instances serviceName groupName clusters subscribe answer,
          instance_.Selectable → instance_.weight ≠ .infinity) :=
  ⟨chooserLaw_iff_finite hne serviceName, selectLaw_iff _ _ _ _ _ _⟩

/-! ## Instances of an infinite weight -/

def weightedHost (ip : String) (weight : Weight) : ServiceInstance :=
  { hostAt ip 8080 with weight }

/-- The server answers a query with these hosts. -/
def hostsAnswer (hosts : List ServiceInstance) : Answer :=
  .ok { GrpcResponse.ok with serviceInfo := ordersInfo 1 hosts }

def twoWeights : List ServiceInstance :=
  [weightedHost "10.0.0.1" (.finite 1), weightedHost "10.0.0.2" (.finite 3)]

def withInfinity : List ServiceInstance :=
  [weightedHost "10.0.0.1" (.finite 1), weightedHost "10.0.0.2" .infinity]

theorem chooser_law_iff_twoWeights :
    ChooserLaw "orders" twoWeights ∧
      SelectLaw (NamingService.new "public" false ∅) "orders" none [] false
        (hostsAnswer twoWeights) := by
  have hnormal : ∀ instance_ ∈ twoWeights,
      instance_.weight ≠ .infinity ∧ instance_.weight ≠ .nan := by decide +kernel
  obtain ⟨hchooser, hselect⟩ := chooser_law_iff "orders" twoWeights (by decide +kernel)
    (NamingService.new "public" false ∅) none [] false (hostsAnswer twoWeights)
  exact ⟨hchooser.mpr fun instance_ hm => hnormal instance_ (mem_countedItems.mp hm).1,
    hselect.mpr fun instance_ hm _ => (hnormal instance_ hm).1⟩

/-- The second pass divides the infinite weight itself. -/
theorem infiniteWeight_not_law :
    countedItems withInfinity = withInfinity ∧
      (RandomWeightChooser.new "orders" withInfinity).toOption.isNone = true ∧
      ((NamingService.new "public" false ∅).selectOneHealthyInstanceAsync "orders" none [] false
        (hostsAnswer withInfinity) 0).1.toOption = none ∧
      ¬ ChooserLaw "orders" withInfinity ∧
      ¬ SelectLaw (NamingService.new "public" false ∅) "orders" none [] false
        (hostsAnswer withInfinity) := by
  have hnone : (RandomWeightChooser.new "orders" withInfinity).toOption.isNone = true := by
    decide +kernel
  have hunselected : ((NamingService.new "public" false ∅).selectOneHealthyInstanceAsync "orders"
      none [] false (hostsAnswer withInfinity) 0).1.toOption = none := by decide +kernel
  refine ⟨by decide +kernel, hnone, hunselected, ?_, fun h => ?_⟩
  · rintro ⟨chooser, hnew, _⟩
    rw [hnew] at hnone
    cases hnone
  · have hselectable : (weightedHost "10.0.0.1" (.finite 1)).Selectable :=
      ⟨rfl, rfl, by decide +kernel⟩
    obtain ⟨instance_, hok⟩ := (h 0 le_rfl zero_lt_one).1.mpr
      ⟨_, by decide +kernel, hselectable⟩
    rw [hok] at hunselected
    cases hunselected

end NacosSdk.Naming
