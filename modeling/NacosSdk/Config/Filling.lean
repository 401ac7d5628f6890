import NacosSdk.Config.Worker

/-!
# Answers that lack a part

`fill_data` of `config/worker.rs` writes the parts of an answer one after
another and unwraps them on the way. Proved here, for every entry, answer and
run:

* `fillLaw_iff`: exactly when the entry takes all of an answer or nothing;
* `loop_alive`: the notify loop goes on while the answers to its queries are
  complete;
* `missingContent_not_law`: an answer without its content.
-/

namespace NacosSdk.Config
open NacosSdk.Common NacosSdk.Lib.Run

/-- All that `fill_data` takes from an answer. -/
structure FilledFrom (configResp : ConfigQueryResponse) (d : CacheData) : Prop where
  contentType : configResp.contentType = some d.contentType
  content : configResp.content = some d.content
  md5 : configResp.md5 = some d.md5
  encryptedDataKey : d.encryptedDataKey = configResp.encryptedDataKey.getD ""
  lastModified : d.lastModified = configResp.lastModified

/-- Filling does not panic, and takes all of the answer or nothing. -/
structure FillLaw (d : CacheData) (configResp : ConfigQueryResponse) : Prop where
  returns : (fillData d configResp).2 ≠ none
  whole : FilledFrom configResp (fillData d configResp).1 ∨ (fillData d configResp).1 = d

/-- The answer has all the parts that are unwrapped. -/
structure ConfigQueryResponse.Complete (configResp : ConfigQueryResponse) : Prop where
  contentType : configResp.contentType.isSome = true
  content : configResp.content.isSome = true
  md5 : configResp.md5.isSome = true

theorem fillData_complete_filled {configResp : ConfigQueryResponse} (h : configResp.Complete)
    (d : CacheData) :
    (fillData d configResp).2 = some (!d.initializing) ∧
      FilledFrom configResp (fillData d configResp).1 := by
  obtain ⟨contentType, ht⟩ := Option.isSome_iff_exists.mp h.contentType
  obtain ⟨content, hc⟩ := Option.isSome_iff_exists.mp h.content
  obtain ⟨md5, hm⟩ := Option.isSome_iff_exists.mp h.md5
  rw [fillData_complete d ht hc hm]
  exact ⟨rfl, ht, hc, hm, rfl, rfl⟩

theorem complete_of_returns {configResp : ConfigQueryResponse} {d : CacheData}
    (h : (fillData d configResp).2 ≠ none) : configResp.Complete := by
  obtain ⟨flag, hflag⟩ := Option.ne_none_iff_exists'.mp h
  obtain ⟨contentType, content, md5, ht, hc, hm⟩ := fillData_filled hflag
  exact ⟨by rw [ht]; rfl, by rw [hc]; rfl, by rw [hm]; rfl⟩

/-! ## The notify loop -/

/-- The loop can take its next step, whatever the server answers. -/
def ConfigWorker.LoopAlive (s : ConfigWorker) : Prop :=
  match s.loop with
  | .idle => ∀ key rest, s.notifyChange = key :: rest → (s.step .recv).isSome = true
  | .querying _ _ _ => ∀ answer, (s.step (.changeAnswer answer)).isSome = true
  | .filtering _ _ => (s.step .dispatch).isSome = true
  | .dead => False

/-- A successful answer to a query of the loop is complete. -/
def ConfigWorker.AnswersComplete (_ : ConfigWorker) : WorkerEvent → Prop
  | .changeAnswer (.ok configResp) => configResp.isSuccess = true → configResp.Complete
  | _ => True

theorem loopAlive_of_ne_dead {s : ConfigWorker} (h : s.loop ≠ .dead) : s.LoopAlive := by
  unfold ConfigWorker.LoopAlive
  cases hloop : s.loop with
  | idle =>
    intro key rest hchange
    simp [ConfigWorker.step, hloop, hchange]
  | querying key request query =>
    intro answer
    simp [ConfigWorker.step, hloop]
  | filtering key configResp => simp [ConfigWorker.step, hloop]
  | dead => exact absurd hloop h

theorem changeAnswer_ne_dead {s : ConfigWorker} {answer : QueryAnswer}
    (hok : s.AnswersComplete (.changeAnswer answer)) (key : String) (query : Nat) :
    (s.changeAnswer key query answer).loop ≠ .dead := by
  unfold ConfigWorker.changeAnswer
  cases ha : getConfigInnerAsync answer with
  | error e => simp
  | ok configResp =>
    obtain ⟨rfl, hsuccess⟩ := getConfigInnerAsync_ok ha
    cases s.unifiedCache.get? key with
    | none => simp
    | some d =>
      obtain ⟨hflag, _⟩ := fillData_complete_filled (hok hsuccess) d
      show NotifyLoop.afterFill key (fillData d configResp).1 (fillData d configResp).2 ≠ .dead
      rw [hflag]
      cases d.initializing <;> simp [NotifyLoop.afterFill]

theorem step_ne_dead {s s' : ConfigWorker} {e : WorkerEvent} (hok : s.AnswersComplete e)
    (hstep : s.step e = some s') (h : s.loop ≠ .dead) : s'.loop ≠ .dead := by
  cases step_cases hstep with
  | addListener dataId group listener =>
    unfold ConfigWorker.addListener
    dsimp only
    split <;> exact h
  | addAnswer answer hcall =>
    unfold ConfigWorker.addAnswer
    split <;> exact h
  | removeListener | change | notify => exact h
  | recv hloop hchange =>
    unfold ConfigWorker.recv
    split
    · exact h
    · simp
  | changeAnswer answer hloop => exact changeAnswer_ne_dead hok _ _
  | dispatch hloop =>
    unfold ConfigWorker.dispatch
    split <;> simp

theorem loop_alive {namespace_ : String} {configFilters : List ConfigFilter}
    {unifiedCache : HashMap CacheData} {es : List WorkerEvent} {s : ConfigWorker}
    (h : Reaches ConfigWorker.step ConfigWorker.AnswersComplete
      (ConfigWorker.new namespace_ configFilters unifiedCache) es s) : s.LoopAlive := by
  apply loopAlive_of_ne_dead
  apply Reaches.invariant (I := fun s : ConfigWorker => s.loop ≠ .dead) _ h
  · simp [ConfigWorker.new]
  · intro s e s' hok hstep hs
    exact step_ne_dead hok hstep hs

/-- **Filling an entry.** The law holds of an answer exactly when it is
complete, and in every run in which the successful answers to the queries of the
notify loop are complete the loop goes on. -/
theorem fillLaw_iff (d : CacheData) (configResp : ConfigQueryResponse) (namespace_ : String)
    (configFilters : List ConfigFilter) (unifiedCache : HashMap CacheData) :
    (FillLaw d configResp ↔ configResp.Complete) ∧
      ∀ es s, Reaches ConfigWorker.step ConfigWorker.AnswersComplete
        (ConfigWorker.new namespace_ configFilters unifiedCache) es s → s.LoopAlive := by
  refine ⟨⟨fun h => complete_of_returns h.returns, fun h => ?_⟩, fun es s hrun => loop_alive hrun⟩
  obtain ⟨hflag, hfilled⟩ := fillData_complete_filled h d
  exact ⟨by rw [hflag]; simp, Or.inl hfilled⟩

/-! ## An answer without its content -/

/-- A listener is added, and the config changes. -/
def changedOnce (answer : QueryAnswer) : List WorkerEvent :=
  [.addListener "app.yaml" "DEFAULT_GROUP" 0, .addAnswer 0 (.ok (appConfig "a: 1" "m1")),
    .change appKey, .recv, .changeAnswer answer]

theorem fillLaw_iff_changedOnce :
    FillLaw (CacheData.new [] "app.yaml" "DEFAULT_GROUP" "public") (appConfig "a: 1" "m1") ∧
      (workerAfter (changedOnce (.ok (appConfig "a: 2" "m2")))).LoopAlive := by
  have hcomplete : ∀ content md5, (appConfig content md5).Complete :=
    fun _ _ => ⟨rfl, rfl, rfl⟩
  have hrun : Reaches ConfigWorker.step
      (fun _ e => ConfigWorker.AnswersComplete workerStart e) workerStart
      (changedOnce (.ok (appConfig "a: 2" "m2")))
      (workerAfter (changedOnce (.ok (appConfig "a: 2" "m2")))) := by
    apply run_reaches_of rfl
    intro e he
    simp only [changedOnce, List.mem_cons, List.not_mem_nil, or_false] at he
    rcases he with rfl | rfl | rfl | rfl | rfl
    · trivial
    · trivial
    · trivial
    · trivial
    · exact fun _ => hcomplete _ _
  obtain ⟨hlaw, halive⟩ := fillLaw_iff (CacheData.new [] "app.yaml" "DEFAULT_GROUP" "public")
    (appConfig "a: 1" "m1") "public" [] ∅
  exact ⟨hlaw.mpr (hcomplete _ _), halive _ _ (hrun.weaken fun _ _ hok => hok)⟩

def missingContent : ConfigQueryResponse := { appConfig "a: 2" "m2" with content := none }

/-- The content type is written, then `fill_data` panics and ends the loop. -/
theorem missingContent_not_law :
    ¬ FillLaw { CacheData.new [] "app.yaml" "DEFAULT_GROUP" "public" with contentType := "yaml" }
        missingContent ∧
      missingContent.isSuccess = true ∧
      ¬ (workerAfter (changedOnce (.ok missingContent))).LoopAlive := by
  refine ⟨fun h => h.returns rfl, rfl, fun h => ?_⟩
  have hdead : (workerAfter (changedOnce (.ok missingContent))).loop = .dead := by decide +kernel
  unfold ConfigWorker.LoopAlive at h
  rw [hdead] at h
  exact h

end NacosSdk.Config
