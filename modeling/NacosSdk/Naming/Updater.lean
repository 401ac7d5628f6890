import NacosSdk.Common.HashMap
import NacosSdk.Lib.Cells
import NacosSdk.Naming.ServiceInfo

/-!
# The service info updater

`schedule_update` and `stop_update` of `naming/updater/mod.rs`. The `running`
flag of a task is a cell that it shares with its spawned loop. Proved here, for
every updater that these calls can build (`Updater.Sound`):

* `scheduleUpdate_sound`, `stopUpdate_sound`: every mapped task is running and
  shares its flag with no other;
* `scheduleUpdate_lookup`, `stopUpdate_lookup`: the map after a call.
-/

namespace NacosSdk.Naming
open NacosSdk.Common NacosSdk.Lib

structure ServiceInfoUpdateTask where
  /-- The cell of the running flag. -/
  running : Nat
  serviceName : String
  namespace_ : String
  groupName : String
  cluster : String
  deriving DecidableEq

/-- The task map with the running flags of all tasks ever made. -/
structure ServiceInfoUpdater where
  taskMap : HashMap ServiceInfoUpdateTask
  flags : Cells Bool

def ServiceInfoUpdater.new : ServiceInfoUpdater where
  taskMap := ∅
  flags := []

def updateTaskKey (serviceName groupName cluster : String) : String :=
  getKey (getGroupedServiceName serviceName groupName) cluster

def ServiceInfoUpdater.isRunning (updater : ServiceInfoUpdater) (task : ServiceInfoUpdateTask) :
    Bool :=
  updater.flags.load task.running = some true

/-- `ServiceInfoUpdateTask::new` followed by `start`: the flag is made false
and set before the loop is spawned. -/
def ServiceInfoUpdater.startTask (updater : ServiceInfoUpdater)
    (serviceName namespace_ groupName cluster : String) :
    ServiceInfoUpdateTask × ServiceInfoUpdater :=
  let running := updater.flags.fresh
  ({ running, serviceName, namespace_, groupName, cluster },
    { updater with flags := (updater.flags.make false).store running true })

def ServiceInfoUpdater.scheduleUpdate (updater : ServiceInfoUpdater)
    (namespace_ serviceName groupName cluster : String) : ServiceInfoUpdater :=
  let taskKey := updateTaskKey serviceName groupName cluster
  if (updater.taskMap.get? taskKey).isSome then updater
  else
    let (task, updater) := updater.startTask serviceName namespace_ groupName cluster
    { updater with taskMap := updater.taskMap.insert taskKey task }

def ServiceInfoUpdater.stopUpdate (updater : ServiceInfoUpdater)
    (serviceName groupName cluster : String) : ServiceInfoUpdater :=
  let taskKey := updateTaskKey serviceName groupName cluster
  match updater.taskMap.get? taskKey with
  | none => { updater with taskMap := updater.taskMap.erase taskKey }
  | some task =>
    { taskMap := updater.taskMap.erase taskKey, flags := updater.flags.store task.running false }

/-! ## The map after a call -/

theorem scheduleUpdate_lookup (updater : ServiceInfoUpdater)
    (namespace_ serviceName groupName cluster key : String) :
    (updater.scheduleUpdate namespace_ serviceName groupName cluster).taskMap.get? key =
      if key = updateTaskKey serviceName groupName cluster ∧ updater.taskMap.get? key = none then
        some { running := updater.flags.fresh, serviceName, namespace_, groupName, cluster }
      else updater.taskMap.get? key := by
  unfold ServiceInfoUpdater.scheduleUpdate
  cases h : updater.taskMap.get? (updateTaskKey serviceName groupName cluster) with
  | some task =>
    simp only [h, Option.isSome_some, ↓reduceIte]
    rw [if_neg]
    rintro ⟨rfl, hnone⟩
    rw [h] at hnone
    cases hnone
  | none =>
    simp only [h, Option.isSome_none, Bool.false_eq_true, ↓reduceIte,
      ServiceInfoUpdater.startTask]
    rw [HashMap.get?_insert]
    by_cases hk : key = updateTaskKey serviceName groupName cluster
    · rw [if_pos hk, if_pos ⟨hk, by rw [hk, h]⟩]
    · rw [if_neg hk, if_neg fun hc => hk hc.1]

theorem stopUpdate_lookup (updater : ServiceInfoUpdater)
    (serviceName groupName cluster key : String) :
    (updater.stopUpdate serviceName groupName cluster).taskMap.get? key =
      if key = updateTaskKey serviceName groupName cluster then none
      else updater.taskMap.get? key := by
  have hmap : (updater.stopUpdate serviceName groupName cluster).taskMap =
      updater.taskMap.erase (updateTaskKey serviceName groupName cluster) := by
    unfold ServiceInfoUpdater.stopUpdate
    cases h : updater.taskMap.get? (updateTaskKey serviceName groupName cluster) <;> simp [h]
  rw [hmap, HashMap.get?_erase]

/-! ## Running flags -/

/-- Every mapped task is running, and two keys never share a flag. -/
structure ServiceInfoUpdater.Sound (updater : ServiceInfoUpdater) : Prop where
  running : ∀ key task, updater.taskMap.get? key = some task →
    updater.flags.load task.running = some true
  apart : ∀ k l s t, updater.taskMap.get? k = some s → updater.taskMap.get? l = some t →
    s.running = t.running → k = l

theorem new_sound : ServiceInfoUpdater.new.Sound where
  running := fun _ _ h => by cases h
  apart := fun _ _ _ _ h => by cases h

theorem scheduleUpdate_sound {updater : ServiceInfoUpdater} (h : updater.Sound)
    (namespace_ serviceName groupName cluster : String) :
    (updater.scheduleUpdate namespace_ serviceName groupName cluster).Sound := by
  cases hl : updater.taskMap.get? (updateTaskKey serviceName groupName cluster) with
  | some task =>
    unfold ServiceInfoUpdater.scheduleUpdate
    simp only [hl, Option.isSome_some, ↓reduceIte]
    exact h
  | none =>
    have hflags : (updater.scheduleUpdate namespace_ serviceName groupName cluster).flags =
        (updater.flags.make false).store updater.flags.fresh true := by
      unfold ServiceInfoUpdater.scheduleUpdate
      simp [hl, ServiceInfoUpdater.startTask]
    have hold : ∀ key task, updater.taskMap.get? key = some task →
        task.running < updater.flags.fresh :=
      fun key task ht => lt_fresh_of_load (h.running key task ht)
    constructor
    · intro key task ht
      rw [scheduleUpdate_lookup] at ht
      rw [hflags]
      split at ht
      · cases ht
        exact load_store_self _ _ (by simp)
      · have hlt := hold key task ht
        rw [load_store_ne _ _ (by omega), load_make_of_lt _ _ hlt]
        exact h.running key task ht
    · intro k l s t hs ht he
      rw [scheduleUpdate_lookup] at hs ht
      split at hs
      · next hk =>
        cases hs
        split at ht
        · next hl' => rw [hk.1, hl'.1]
        · have hlt := hold l t ht
          simp only at he
          omega
      · split at ht
        · cases ht
          have hlt := hold k s hs
          simp only at he
          omega
        · exact h.apart k l s t hs ht he

theorem stopUpdate_sound {updater : ServiceInfoUpdater} (h : updater.Sound)
    (serviceName groupName cluster : String) :
    (updater.stopUpdate serviceName groupName cluster).Sound := by
  constructor
  · intro key task ht
    rw [stopUpdate_lookup] at ht
    split at ht
    · cases ht
    · next hne =>
      have hrun := h.running key task ht
      unfold ServiceInfoUpdater.stopUpdate
      cases hs : updater.taskMap.get? (updateTaskKey serviceName groupName cluster) with
      | none => simpa [hs] using hrun
      | some stopped =>
        have hother : stopped.running ≠ task.running :=
          fun he => hne (h.apart _ _ _ _ hs ht he).symm
        simp only [hs]
        rw [load_store_ne _ _ hother]
        exact hrun
  · intro k l s t hs ht he
    rw [stopUpdate_lookup] at hs ht
    split at hs
    · cases hs
    · split at ht
      · cases ht
      · exact h.apart k l s t hs ht he

end NacosSdk.Naming
