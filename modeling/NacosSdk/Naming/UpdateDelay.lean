import NacosSdk.Lib.Run
import NacosSdk.Naming.UpdateTask

/-!
# How long an update loop sleeps

The delay of the loop in 64-bit arithmetic: the `cache_millis` that the server
sends, times six, shifted left by the number of failures, at most a minute.
Proved here, for every answer and every run:

* `answered_law_iff`, `failed_law_iff`: exactly when one answer leaves the loop
  with a sleep as it should be;
* `delayLaw_iff`: with them, exactly in which runs the law holds;
* `cacheMillis_not_law`: three values of `cache_millis` that break it.
-/

namespace NacosSdk.Naming
open NacosSdk.Common NacosSdk.Lib.Run

/-! ## The arithmetic -/

/-- `cache_millis * MULTIPLE` is no overflow. -/
def ProductFits (cacheMillis : Int64) : Prop :=
  Int64.minValue.toInt ≤ cacheMillis.toInt * 6 ∧ cacheMillis.toInt * 6 ≤ Int64.maxValue.toInt

theorem toNat_delayTimeMillis (delayTime : UInt64) (failedCount : UInt8) :
    (delayTimeMillis delayTime failedCount).toNat =
      min (delayTime <<< failedCount.toUInt64).toNat 60000 := by
  have hlimit : (defaultDelay * 60).toNat = 60000 := rfl
  have hmin : delayTimeMillis delayTime failedCount =
      if delayTime <<< failedCount.toUInt64 ≤ defaultDelay * 60 then
        delayTime <<< failedCount.toUInt64 else defaultDelay * 60 := rfl
  rw [hmin]
  split
  · next hle =>
    rw [UInt64.le_iff_toNat_le, hlimit] at hle
    rw [Nat.min_eq_left hle]
  · next hgt =>
    rw [UInt64.le_iff_toNat_le, hlimit] at hgt
    rw [Nat.min_eq_right (by omega), hlimit]

theorem delayTimeMillis_le (delayTime : UInt64) (failedCount : UInt8) :
    delayTimeMillis delayTime failedCount ≤ 60000 := by
  rw [UInt64.le_iff_toNat_le, toNat_delayTimeMillis]
  exact Nat.min_le_right _ _

/-- One more failure shifts by one more place. -/
theorem toNat_shift_succ (delayTime : UInt64) {failedCount : UInt8} (h : failedCount < maxFailed) :
    (delayTime <<< (failedCount + 1).toUInt64).toNat =
      2 * (delayTime <<< failedCount.toUInt64).toNat % 0x10000000000000000 := by
  have hlt : failedCount.toNat < 6 := UInt8.lt_iff_toNat_lt.mp h
  have hsucc : (failedCount + 1).toUInt64.toNat % 64 = failedCount.toUInt64.toNat % 64 + 1 := by
    simp only [UInt8.toNat_toUInt64, UInt8.toNat_add, UInt8.toNat_one]
    omega
  rw [UInt64.toNat_shiftLeft, UInt64.toNat_shiftLeft, hsucc, Nat.shiftLeft_succ]
  omega

/-- The shift does not carry the delay past the top bit to less than it was. -/
def ShiftKeeps (delayTime : UInt64) (failedCount : UInt8) : Prop :=
  ¬ (0x8000000000000000 ≤ delayTime <<< failedCount.toUInt64 ∧
    delayTime <<< failedCount.toUInt64 < 0x8000000000000000 + 30000)

theorem shift_succ_iff {delayTime : UInt64} {failedCount : UInt8} (h : failedCount < maxFailed)
    (hpos : 0 < delayTimeMillis delayTime failedCount) :
    (0 < delayTimeMillis delayTime (failedCount + 1) ∧
        delayTimeMillis delayTime failedCount ≤ delayTimeMillis delayTime (failedCount + 1)) ↔
      ShiftKeeps delayTime failedCount := by
  have hsucc := toNat_shift_succ delayTime h
  have hlt := UInt64.toNat_lt (delayTime <<< failedCount.toUInt64)
  have htop : (0x8000000000000000 : UInt64).toNat = 0x8000000000000000 := rfl
  have hbelow : (0x8000000000000000 + 30000 : UInt64).toNat = 0x8000000000000000 + 30000 := rfl
  unfold ShiftKeeps
  simp only [UInt64.lt_iff_toNat_lt, UInt64.le_iff_toNat_le, toNat_delayTimeMillis,
    UInt64.toNat_zero, htop, hbelow, hsucc] at hpos ⊢
  omega

theorem cacheDelay_eq_zero_iff {cacheMillis : Int64} (h : ProductFits cacheMillis) :
    cacheDelay cacheMillis = 0 ↔ cacheMillis = 0 := by
  obtain ⟨hlow, hhigh⟩ := h
  have hmin : Int64.minValue.toInt = -0x8000000000000000 := rfl
  have hmax : Int64.maxValue.toInt = 0x7FFFFFFFFFFFFFFF := rfl
  have hsix : defaultUpdateCacheTimeMultiple.toInt = 6 := rfl
  have hproduct : (cacheMillis * defaultUpdateCacheTimeMultiple).toInt = cacheMillis.toInt * 6 := by
    rw [Int64.toInt_mul, hsix]
    apply Int.bmod_eq_of_le
    · omega
    · omega
  constructor
  · intro hzero
    have hmul : cacheMillis * defaultUpdateCacheTimeMultiple = 0 := congrArg UInt64.toInt64 hzero
    rw [hmul] at hproduct
    apply Int64.toInt_inj.mp
    rw [Int64.toInt_zero] at hproduct ⊢
    omega
  · rintro rfl
    rfl

/-! ## The law -/

/-- The sleep that the loop is in or takes next. -/
def UpdateLoop.nextSleep (loop : UpdateLoop) : UInt64 :=
  match loop.phase with
  | .sleeping millis => millis
  | .emitting _ => delayTimeMillis loop.delayTime 0
  | _ => delayTimeMillis loop.delayTime loop.failedCount

/-- A step of the loop, with the flag as it is read. -/
def UpdateLoop.stepWith (loop : UpdateLoop) (e : Bool × UpdateEvent) : Option UpdateLoop :=
  loop.step e.1 e.2

/-- Computing the delay does not overflow, and the sleep that comes next is
positive, at most a minute and after a failure no shorter than the last one. -/
structure DelayLaw (loop : UpdateLoop) (e : Bool × UpdateEvent) : Prop where
  product : ∀ response, e.2 = .answer (.ok response) → response.isSuccess = true →
    ProductFits response.serviceInfo.cacheMillis64
  shift : ∀ loop', loop.stepWith e = some loop' → loop'.failedCount < 64
  positive : ∀ loop', loop.stepWith e = some loop' → 0 < loop'.nextSleep
  atMost : ∀ loop', loop.stepWith e = some loop' → loop'.nextSleep ≤ 60000
  longer : ∀ answer loop', e.2 = .answer answer → acknowledged answer = false →
    loop.stepWith e = some loop' → loop.nextSleep ≤ loop'.nextSleep

/-- The answer leaves the loop with a delay as it should be. -/
def DelaySafe (loop : UpdateLoop) (e : Bool × UpdateEvent) : Prop :=
  match e.2 with
  | .answer (.ok response) =>
    if response.isSuccess then
      response.serviceInfo.cacheMillis64 ≠ 0 ∧ ProductFits response.serviceInfo.cacheMillis64
    else loop.failedCount < maxFailed → ShiftKeeps loop.delayTime loop.failedCount
  | .answer (.error _) => loop.failedCount < maxFailed → ShiftKeeps loop.delayTime loop.failedCount
  | _ => True

/-- What the loop keeps from step to step. -/
structure UpdateLoop.Paced (loop : UpdateLoop) : Prop where
  failures : loop.failedCount ≤ maxFailed
  asleep : ∀ millis, loop.phase = .sleeping millis →
    millis = delayTimeMillis loop.delayTime loop.failedCount
  positive : 0 < loop.nextSleep

theorem start_paced (task : ServiceInfoUpdateTask) : (UpdateLoop.start task).Paced where
  failures := by
    show (0 : UInt8) ≤ maxFailed
    decide
  asleep := fun _ h => by cases h
  positive := by
    show 0 < delayTimeMillis defaultDelay 0
    decide

theorem nextSleep_of_not_emitting {loop : UpdateLoop} (h : loop.Paced)
    (hphase : ∀ serviceInfo, loop.phase ≠ .emitting serviceInfo) :
    loop.nextSleep = delayTimeMillis loop.delayTime loop.failedCount := by
  unfold UpdateLoop.nextSleep
  split
  · next millis hsleeping => exact h.asleep millis hsleeping
  · next serviceInfo hemitting => exact absurd hemitting (hphase serviceInfo)
  · rfl

theorem nextSleep_le {loop : UpdateLoop} (h : loop.Paced) : loop.nextSleep ≤ 60000 := by
  unfold UpdateLoop.nextSleep
  split
  · next millis hsleeping =>
    rw [h.asleep millis hsleeping]
    exact delayTimeMillis_le _ _
  · exact delayTimeMillis_le _ _
  · exact delayTimeMillis_le _ _

/-! ## Answers -/

theorem fail_failures {loop : UpdateLoop} (h : loop.Paced) : loop.fail.failedCount ≤ maxFailed := by
  unfold UpdateLoop.fail
  dsimp only
  split
  · next hlt =>
    have hlt' : loop.failedCount.toNat < 6 := UInt8.lt_iff_toNat_lt.mp hlt
    rw [UInt8.le_iff_toNat_le, UInt8.toNat_add, UInt8.toNat_one]
    show _ ≤ 6
    omega
  · exact h.failures

theorem failed_law_iff {loop : UpdateLoop} (h : loop.Paced) (hphase : loop.phase = .querying) :
    (0 < loop.fail.nextSleep ∧ loop.nextSleep ≤ loop.fail.nextSleep) ↔
      (loop.failedCount < maxFailed → ShiftKeeps loop.delayTime loop.failedCount) := by
  have hsleep : loop.nextSleep = delayTimeMillis loop.delayTime loop.failedCount :=
    nextSleep_of_not_emitting h fun serviceInfo hemitting => by
      rw [hphase] at hemitting
      cases hemitting
  have hfail : loop.fail.nextSleep = delayTimeMillis loop.delayTime loop.fail.failedCount := rfl
  have hpos := h.positive
  rw [hsleep] at hpos ⊢
  rw [hfail]
  by_cases hlt : loop.failedCount < maxFailed
  · have hcount : loop.fail.failedCount = loop.failedCount + 1 := if_pos hlt
    rw [hcount, shift_succ_iff hlt hpos]
    exact ⟨fun hkeeps _ => hkeeps, fun hkeeps => hkeeps hlt⟩
  · have hcount : loop.fail.failedCount = loop.failedCount := if_neg hlt
    rw [hcount]
    exact ⟨fun _ hk => absurd hk hlt, fun _ => ⟨hpos, UInt64.le_refl _⟩⟩

theorem answered_law_iff (cacheMillis : Int64) :
    (ProductFits cacheMillis ∧ 0 < delayTimeMillis (cacheDelay cacheMillis) 0) ↔
      (cacheMillis ≠ 0 ∧ ProductFits cacheMillis) := by
  have hshift : (cacheDelay cacheMillis <<< (0 : UInt8).toUInt64).toNat =
      (cacheDelay cacheMillis).toNat := by
    rw [UInt64.toNat_shiftLeft]
    exact Nat.mod_eq_of_lt (UInt64.toNat_lt _)
  have hpositive : 0 < delayTimeMillis (cacheDelay cacheMillis) 0 ↔
      cacheDelay cacheMillis ≠ 0 := by
    rw [UInt64.lt_iff_toNat_lt, toNat_delayTimeMillis, hshift, ne_eq, ← UInt64.toNat_inj,
      UInt64.toNat_zero]
    omega
  rw [hpositive, and_comm]
  exact and_congr_left fun hfits => not_congr (cacheDelay_eq_zero_iff hfits)

/-! ## Steps and runs -/

theorem refresh_delay (loop : UpdateLoop) (cached : Option ServiceInfo) :
    (loop.refresh cached).delayTime = loop.delayTime ∧
      (loop.refresh cached).failedCount = loop.failedCount := by
  unfold UpdateLoop.refresh
  split
  · exact ⟨rfl, rfl⟩
  · split <;> exact ⟨rfl, rfl⟩

/-- Only an answer changes the sleep that comes next. -/
theorem quiet_step {loop loop' : UpdateLoop} {e : Bool × UpdateEvent} (h : loop.Paced)
    (hstep : loop.stepWith e = some loop') (hquiet : ∀ answer, e.2 ≠ .answer answer) :
    loop'.nextSleep = loop.nextSleep ∧ loop'.failedCount ≤ maxFailed ∧
      ∀ millis, loop'.phase = .sleeping millis →
        millis = delayTimeMillis loop'.delayTime loop'.failedCount := by
  obtain ⟨running, e⟩ := e
  have hsleep : (∀ serviceInfo, loop.phase ≠ .emitting serviceInfo) →
      delayTimeMillis loop.delayTime loop.failedCount = loop.nextSleep :=
    fun hphase => (nextSleep_of_not_emitting h hphase).symm
  cases updateStep_cases hstep with
  | sleep hphase _ =>
    refine ⟨hsleep (by simp [hphase]), h.failures, fun millis hmillis => ?_⟩
    cases hmillis
    rfl
  | stopAtHead hphase _ =>
    exact ⟨hsleep (by simp [hphase]), h.failures, fun _ hmillis => by cases hmillis⟩
  | wake hphase _ =>
    exact ⟨hsleep (by simp [hphase]), h.failures, fun _ hmillis => by cases hmillis⟩
  | stopAfterSleep hphase _ =>
    exact ⟨hsleep (by simp [hphase]), h.failures, fun _ hmillis => by cases hmillis⟩
  | refresh cached hphase =>
    obtain ⟨hdelay, hcount⟩ := refresh_delay loop cached
    have hnext : (loop.refresh cached).nextSleep =
        delayTimeMillis (loop.refresh cached).delayTime (loop.refresh cached).failedCount := by
      unfold UpdateLoop.nextSleep
      rcases refresh_phase loop cached with hnext | hnext <;> rw [hnext]
    refine ⟨?_, ?_, fun millis hmillis => ?_⟩
    · rw [hnext, hdelay, hcount]
      exact hsleep (by simp [hphase])
    · rw [hcount]
      exact h.failures
    · rcases refresh_phase loop cached with hnext | hnext <;> rw [hnext] at hmillis <;>
        cases hmillis
  | send hphase =>
    exact ⟨hsleep (by simp [hphase]), h.failures, fun _ hmillis => by cases hmillis⟩
  | answer answer hphase => exact absurd rfl (hquiet answer)
  | emit hphase =>
    refine ⟨?_, by show (0 : UInt8) ≤ maxFailed; decide, fun _ hmillis => by cases hmillis⟩
    unfold UpdateLoop.nextSleep
    rw [hphase]

/-- What follows an answer, for the two kinds of answers. -/
theorem receive_cases (loop : UpdateLoop) (answer : Answer) :
    (acknowledged answer = false ∧ loop.receive answer = loop.fail ∧
      ∀ response, answer = .ok response → response.isSuccess = false) ∨
    ∃ response, answer = .ok response ∧ response.isSuccess = true ∧
      loop.receive answer = { loop with
        phase := .emitting response.serviceInfo
        lastRefreshTime := response.serviceInfo.lastRefTime64
        delayTime := cacheDelay response.serviceInfo.cacheMillis64 } := by
  cases answer with
  | error e => exact Or.inl ⟨rfl, rfl, fun _ h => by cases h⟩
  | ok response =>
    cases hs : response.isSuccess with
    | false =>
      refine Or.inl ⟨hs, ?_, fun response' h => ?_⟩
      · simp [UpdateLoop.receive, hs]
      · cases h
        exact hs
    | true =>
      refine Or.inr ⟨response, rfl, hs, ?_⟩
      simp [UpdateLoop.receive, hs]

theorem count_lt {failedCount : UInt8} (h : failedCount ≤ maxFailed) : failedCount < 64 := by
  have hle : failedCount.toNat ≤ 6 := UInt8.le_iff_toNat_le.mp h
  rw [UInt8.lt_iff_toNat_lt]
  show _ < 64
  omega

/-- The law of a step that leads to `loop'`. -/
theorem delayLaw_of_step {loop loop' : UpdateLoop} {e : Bool × UpdateEvent}
    (hstep : loop.stepWith e = some loop')
    (hproduct : ∀ response, e.2 = .answer (.ok response) → response.isSuccess = true →
      ProductFits response.serviceInfo.cacheMillis64)
    (hpaced : loop'.Paced)
    (hlonger : ∀ answer, e.2 = .answer answer → acknowledged answer = false →
      loop.nextSleep ≤ loop'.nextSleep) : DelayLaw loop e := by
  have hnext : ∀ other, loop.stepWith e = some other → other = loop' := by
    intro other hother
    rw [hstep] at hother
    exact (Option.some.inj hother).symm
  constructor
  · exact hproduct
  · intro other hother
    rw [hnext other hother]
    exact count_lt hpaced.failures
  · intro other hother
    rw [hnext other hother]
    exact hpaced.positive
  · intro other hother
    rw [hnext other hother]
    exact nextSleep_le hpaced
  · intro answer other hanswer hfailed hother
    rw [hnext other hother]
    exact hlonger answer hanswer hfailed

theorem quiet_law {loop loop' : UpdateLoop} {e : Bool × UpdateEvent} (h : loop.Paced)
    (hstep : loop.stepWith e = some loop') (hquiet : ∀ answer, e.2 ≠ .answer answer) :
    DelayLaw loop e ∧ DelaySafe loop e ∧ loop'.Paced := by
  obtain ⟨hsleep, hfailures, hasleep⟩ := quiet_step h hstep hquiet
  have hpaced : loop'.Paced := ⟨hfailures, hasleep, by rw [hsleep]; exact h.positive⟩
  refine ⟨delayLaw_of_step hstep (fun _ he => absurd he (hquiet _)) hpaced
    (fun _ he => absurd he (hquiet _)), ?_, hpaced⟩
  unfold DelaySafe
  split
  · next he => exact absurd he (hquiet _)
  · next he => exact absurd he (hquiet _)
  · trivial

theorem failed_law {loop : UpdateLoop} {running : Bool} {answer : Answer} (h : loop.Paced)
    (hphase : loop.phase = .querying) (hfailed : acknowledged answer = false)
    (hstep : loop.stepWith (running, .answer answer) = some loop.fail)
    (hresponse : ∀ response, answer = .ok response → response.isSuccess = false) :
    (DelayLaw loop (running, .answer answer) ↔ DelaySafe loop (running, .answer answer)) ∧
      (DelayLaw loop (running, .answer answer) → loop.fail.Paced) := by
  have hpaced : 0 < loop.fail.nextSleep → loop.fail.Paced :=
    fun hpos => ⟨fail_failures h, (fun _ hmillis => by cases hmillis), hpos⟩
  have hsafe : DelaySafe loop (running, .answer answer) ↔
      (loop.failedCount < maxFailed → ShiftKeeps loop.delayTime loop.failedCount) := by
    cases answer with
    | error e => rfl
    | ok response =>
      unfold DelaySafe
      dsimp only
      rw [if_neg (by rw [hresponse response rfl]; simp)]
  rw [hsafe, ← failed_law_iff h hphase]
  refine ⟨⟨fun hlaw => ?_, fun hsleep => ?_⟩, fun hlaw => hpaced (hlaw.positive _ hstep)⟩
  · exact ⟨hlaw.positive _ hstep, hlaw.longer answer _ rfl hfailed hstep⟩
  · apply delayLaw_of_step hstep _ (hpaced hsleep.1)
    · intro _ _ _
      exact hsleep.2
    · intro response he hsuccess
      have hok : answer = .ok response := by
        simp only [UpdateEvent.answer.injEq] at he
        exact he
      rw [hresponse response hok] at hsuccess
      cases hsuccess

theorem answered_law {loop loop' : UpdateLoop} {running : Bool} {response : ServiceInfoResponse}
    (h : loop.Paced) (hsuccess : response.isSuccess = true)
    (hnext : loop' = { loop with
      phase := .emitting response.serviceInfo
      lastRefreshTime := response.serviceInfo.lastRefTime64
      delayTime := cacheDelay response.serviceInfo.cacheMillis64 })
    (hstep : loop.stepWith (running, .answer (.ok response)) = some loop') :
    (DelayLaw loop (running, .answer (.ok response)) ↔
        DelaySafe loop (running, .answer (.ok response))) ∧
      (DelayLaw loop (running, .answer (.ok response)) → loop'.Paced) := by
  have hsleep : loop'.nextSleep =
      delayTimeMillis (cacheDelay response.serviceInfo.cacheMillis64) 0 := by rw [hnext]; rfl
  have hpaced : 0 < loop'.nextSleep → loop'.Paced := by
    intro hpos
    refine ⟨?_, fun _ hmillis => ?_, hpos⟩
    · rw [hnext]
      exact h.failures
    · rw [hnext] at hmillis
      cases hmillis
  have hsafe : DelaySafe loop (running, .answer (.ok response)) ↔
      (response.serviceInfo.cacheMillis64 ≠ 0 ∧
        ProductFits response.serviceInfo.cacheMillis64) := by
    unfold DelaySafe
    dsimp only
    rw [if_pos hsuccess]
  rw [hsafe, ← answered_law_iff, ← hsleep]
  refine ⟨⟨fun hlaw => ?_, fun hgood => ?_⟩, fun hlaw => hpaced (hlaw.positive _ hstep)⟩
  · exact ⟨hlaw.product response rfl hsuccess, hlaw.positive _ hstep⟩
  · apply delayLaw_of_step hstep _ (hpaced hgood.2)
    · intro answer he hfailed
      cases he
      rw [acknowledged, hsuccess] at hfailed
      cases hfailed
    · intro response' he _
      cases he
      exact hgood.1

/-- **Step lemma.** The law holds of a step exactly when it is safe, and keeps
the loop as it should be. -/
theorem delayLaw_step {loop loop' : UpdateLoop} {e : Bool × UpdateEvent} (h : loop.Paced)
    (hstep : loop.stepWith e = some loop') :
    (DelayLaw loop e ↔ DelaySafe loop e) ∧ (DelayLaw loop e → loop'.Paced) := by
  by_cases hanswer : ∃ answer, e.2 = .answer answer
  · obtain ⟨running, e⟩ := e
    obtain ⟨answer, rfl⟩ := hanswer
    cases updateStep_cases hstep with
    | answer _ hphase =>
      rcases receive_cases loop answer with ⟨hfailed, hfail, hresponse⟩ |
        ⟨response, rfl, hsuccess, hnext⟩
      · rw [hfail] at hstep ⊢
        exact failed_law h hphase hfailed hstep hresponse
      · exact answered_law h hsuccess hnext hstep
  · obtain ⟨hlaw, hsafe, hpaced⟩ := quiet_law h hstep fun answer he => hanswer ⟨answer, he⟩
    exact ⟨⟨fun _ => hsafe, fun _ => hlaw⟩, fun _ => hpaced⟩

/-- **The delay.** In every run of a loop, whatever it reads and is answered,
the law holds of every step exactly when every step is safe. -/
theorem delayLaw_iff (task : ServiceInfoUpdateTask) (es : List (Bool × UpdateEvent))
    (loop : UpdateLoop) :
    Reaches UpdateLoop.stepWith DelayLaw (UpdateLoop.start task) es loop ↔
      Reaches UpdateLoop.stepWith DelaySafe (UpdateLoop.start task) es loop := by
  apply Reaches.congr (I := UpdateLoop.Paced) _ _ (start_paced task)
  · intro loop e loop' hstep h
    exact (delayLaw_step h hstep).1
  · intro loop e loop' hlaw hstep h
    exact (delayLaw_step h hstep).2 hlaw

/-! ## Answers that break the law -/

def ordersTask : ServiceInfoUpdateTask where
  running := 0
  serviceName := "orders"
  namespace_ := "public"
  groupName := defaultGroup
  cluster := ""

def loopAfter (es : List (Bool × UpdateEvent)) : UpdateLoop :=
  (run UpdateLoop.stepWith (UpdateLoop.start ordersTask) es).getD (UpdateLoop.start ordersTask)

def untilQuery : List (Bool × UpdateEvent) :=
  [(true, .test), (true, .wake), (true, .refresh none), (true, .send)]

def cacheMillisAnswer (cacheMillis : Int) : Answer :=
  .ok { GrpcResponse.ok with serviceInfo := { ordersInfo 1 [] with cacheMillis } }

/-- One answer, and as many failed queries after it. -/
def failuresAfter (cacheMillis : Int) (failures : Nat) : List (Bool × UpdateEvent) :=
  untilQuery ++ [(true, .answer (cacheMillisAnswer cacheMillis)), (true, .emit)] ++
    (List.replicate failures
      (untilQuery ++ [(true, .answer (.error .noAvailableServer))])).flatten ++ [(true, .test)]

/-- No sleep at all after a `cache_millis` of 0, an overflow for the greatest
one, and for 2^57 the sleep is gone after six failures. -/
theorem cacheMillis_not_law :
    (Reaches UpdateLoop.stepWith anyStep (UpdateLoop.start ordersTask) (failuresAfter 0 0)
        (loopAfter (failuresAfter 0 0)) ∧
      (loopAfter (failuresAfter 0 0)).phase = .sleeping 0) ∧
    (Reaches UpdateLoop.stepWith anyStep (UpdateLoop.start ordersTask) untilQuery
        (loopAfter untilQuery) ∧
      ¬ DelayLaw (loopAfter untilQuery) (true, .answer (cacheMillisAnswer 0x7FFFFFFFFFFFFFFF))) ∧
    Reaches UpdateLoop.stepWith anyStep (UpdateLoop.start ordersTask)
        (failuresAfter 0x200000000000000 6) (loopAfter (failuresAfter 0x200000000000000 6)) ∧
      (loopAfter (failuresAfter 0x200000000000000 5)).phase = .sleeping 60000 ∧
      (loopAfter (failuresAfter 0x200000000000000 6)).phase = .sleeping 0 := by
  refine ⟨⟨run_getD_reaches (by decide +kernel) _, by decide +kernel⟩,
    ⟨run_getD_reaches (by decide +kernel) _, fun h => ?_⟩,
    run_getD_reaches (by decide +kernel) _, by decide +kernel, by decide +kernel⟩
  have hfits := h.product _ rfl rfl
  have htoo : ¬ ProductFits (Int64.ofInt 0x7FFFFFFFFFFFFFFF) := by
    unfold ProductFits
    decide +kernel
  exact htoo hfits

end NacosSdk.Naming
