import NacosSdk.Lib.Run
import NacosSdk.Naming.UpdateTask

/-!
# Update loops under the task map lock

`schedule_update` and `stop_update` of `naming/updater/mod.rs` step by step
under the lock of the task map, between them the steps of the loops they spawn.
Proved here, for every interleaving:

* `opened_step`: what the lock holder does amounts to one atomic call of
  `Naming/Updater.lean`;
* `runningLoops_free`: the running loops of a key when the lock is free;
* `updateLoops_law`: with them, what a stopped loop still does.
-/

namespace NacosSdk.Naming
open NacosSdk.Common NacosSdk.Lib NacosSdk.Lib.Run

/-! ## The system -/

/-- Where the holder of the task map lock is. -/
inductive LockHolder where
  | free
  | scheduling (namespace_ serviceName groupName cluster : String)
  /-- The task is made, `start` is called. -/
  | starting (taskKey : String) (task : ServiceInfoUpdateTask)
  /-- The flag is set. -/
  | spawning (taskKey : String) (task : ServiceInfoUpdateTask)
  | inserting (taskKey : String) (task : ServiceInfoUpdateTask)
  | removing (serviceName groupName cluster : String)
  /-- The task is out of the map, `stop` is called. -/
  | clearing (serviceName groupName cluster : String) (task : ServiceInfoUpdateTask)
  | unlocking

structure UpdateLoops where
  updater : ServiceInfoUpdater
  holder : LockHolder
  /-- All loops ever spawned. -/
  loops : List UpdateLoop

def UpdateLoops.start : UpdateLoops where
  updater := ServiceInfoUpdater.new
  holder := .free
  loops := []

inductive LoopsEvent where
  /-- `schedule_update` takes the lock. -/
  | scheduleUpdate (namespace_ serviceName groupName cluster : String)
  /-- `stop_update` takes the lock. -/
  | stopUpdate (serviceName groupName cluster : String)
  /-- The lock holder goes on. -/
  | proceed
  | loop (i : Nat) (e : UpdateEvent)

def UpdateLoops.proceed (s : UpdateLoops) : Option UpdateLoops :=
  match s.holder with
  | .free => none
  | .scheduling namespace_ serviceName groupName cluster =>
    let taskKey := updateTaskKey serviceName groupName cluster
    if (s.updater.taskMap.get? taskKey).isSome then some { s with holder := .unlocking }
    else
      some { s with
        updater := { s.updater with flags := s.updater.flags.make false }
        holder := .starting taskKey
          { running := s.updater.flags.fresh, serviceName, namespace_, groupName, cluster } }
  | .starting taskKey task =>
    -- `start` returns at once when the flag is already set
    if s.updater.isRunning task then some { s with holder := .inserting taskKey task }
    else
      some { s with
        updater := { s.updater with flags := s.updater.flags.store task.running true }
        holder := .spawning taskKey task }
  | .spawning taskKey task =>
    some { s with
      holder := .inserting taskKey task
      loops := s.loops ++ [UpdateLoop.start task] }
  | .inserting taskKey task =>
    some { s with
      updater := { s.updater with taskMap := s.updater.taskMap.insert taskKey task }
      holder := .unlocking }
  | .removing serviceName groupName cluster =>
    let taskKey := updateTaskKey serviceName groupName cluster
    some { s with
      updater := { s.updater with taskMap := s.updater.taskMap.erase taskKey }
      holder :=
        match s.updater.taskMap.get? taskKey with
        | none => .unlocking
        | some task => .clearing serviceName groupName cluster task }
  | .clearing _ _ _ task =>
    some { s with
      updater := { s.updater with flags := s.updater.flags.store task.running false }
      holder := .unlocking }
  | .unlocking => some { s with holder := .free }

/-- The running flag that a loop reads. -/
def UpdateLoops.isRunning (s : UpdateLoops) (loop : UpdateLoop) : Bool :=
  s.updater.flags.load loop.running = some true

/-- Take the lock when it is free. -/
def UpdateLoops.lock (s : UpdateLoops) (holder : LockHolder) : Option UpdateLoops :=
  match s.holder with
  | .free => some { s with holder }
  | _ => none

def UpdateLoops.step (s : UpdateLoops) : LoopsEvent → Option UpdateLoops
  | .scheduleUpdate namespace_ serviceName groupName cluster =>
    s.lock (.scheduling namespace_ serviceName groupName cluster)
  | .stopUpdate serviceName groupName cluster => s.lock (.removing serviceName groupName cluster)
  | .proceed => s.proceed
  | .loop i e =>
    match s.loops[i]? with
    | none => none
    | some loop =>
      match loop.step (s.isRunning loop) e with
      | none => none
      | some loop' => some { s with loops := s.loops.set i loop' }

/-- How many loops of a key have their flag set. -/
def UpdateLoops.runningLoops (s : UpdateLoops) (key : String) : Nat :=
  s.loops.countP fun loop => loop.key = key && s.isRunning loop

/-- The flag and the key of every loop. -/
def UpdateLoops.tasks (s : UpdateLoops) : List (Nat × String) := s.loops.map UpdateLoop.task

/-! ## Updater and loops -/

/-- Every mapped task has a loop, and every loop with a set flag has its task in
the map. -/
structure ServiceInfoUpdater.Paired (updater : ServiceInfoUpdater)
    (tasks : List (Nat × String)) : Prop where
  sound : updater.Sound
  distinct : (tasks.map Prod.fst).Nodup
  made : ∀ t ∈ tasks, t.1 < updater.flags.fresh
  mapped : ∀ key task, updater.taskMap.get? key = some task → (task.running, key) ∈ tasks
  live : ∀ t ∈ tasks, updater.flags.load t.1 = some true →
    ∃ task, updater.taskMap.get? t.2 = some task ∧ task.running = t.1

theorem new_paired : ServiceInfoUpdater.new.Paired [] where
  sound := new_sound
  distinct := by simp
  made := fun _ h => by cases h
  mapped := fun _ _ h => by cases h
  live := fun _ h => by cases h

theorem countP_one {α : Type _} [DecidableEq α] {l : List α} {p : α → Bool} {a : α}
    (hn : l.Nodup) (ha : a ∈ l) (h : ∀ b ∈ l, p b = true ↔ b = a) : l.countP p = 1 := by
  have hcount : l.countP p = l.count a := by
    unfold List.count
    apply List.countP_congr
    intro b hb
    rw [h b hb, beq_iff_eq]
  rw [hcount, List.count_eq_one_of_mem hn ha]

theorem paired_count {updater : ServiceInfoUpdater} {tasks : List (Nat × String)}
    (h : updater.Paired tasks) (key : String) :
    tasks.countP (fun t => t.2 = key && updater.flags.load t.1 = some true) =
      if (updater.taskMap.get? key).isSome then 1 else 0 := by
  cases hkey : updater.taskMap.get? key with
  | none =>
    rw [if_neg (by simp), List.countP_eq_zero]
    intro t ht hrunning
    simp only [Bool.and_eq_true, decide_eq_true_eq] at hrunning
    obtain ⟨task, htask, _⟩ := h.live t ht hrunning.2
    rw [hrunning.1, hkey] at htask
    cases htask
  | some task =>
    rw [if_pos (by simp)]
    apply countP_one (List.Nodup.of_map _ h.distinct) (h.mapped key task hkey)
    intro t ht
    simp only [Bool.and_eq_true, decide_eq_true_eq]
    constructor
    · rintro ⟨rfl, hrunning⟩
      obtain ⟨task', htask', hcell⟩ := h.live t ht hrunning
      rw [hkey] at htask'
      cases htask'
      rw [hcell]
    · rintro rfl
      exact ⟨rfl, h.sound.running key task hkey⟩

/-- A new task comes with a loop of its own. -/
theorem scheduleUpdate_paired {updater : ServiceInfoUpdater} {tasks : List (Nat × String)}
    (h : updater.Paired tasks) {namespace_ serviceName groupName cluster : String}
    (hnone : updater.taskMap.get? (updateTaskKey serviceName groupName cluster) = none) :
    (updater.scheduleUpdate namespace_ serviceName groupName cluster).Paired
      (tasks ++ [(updater.flags.fresh, updateTaskKey serviceName groupName cluster)]) := by
  have hflags : (updater.scheduleUpdate namespace_ serviceName groupName cluster).flags =
      (updater.flags.make false).store updater.flags.fresh true := by
    unfold ServiceInfoUpdater.scheduleUpdate
    simp [hnone, ServiceInfoUpdater.startTask]
  constructor
  · exact scheduleUpdate_sound h.sound _ _ _ _
  · rw [List.map_append, List.nodup_append]
    refine ⟨h.distinct, by simp, fun a ha b hb hab => ?_⟩
    obtain ⟨t, ht, rfl⟩ := List.mem_map.mp ha
    have hlt := h.made t ht
    simp only [List.map_cons, List.map_nil, List.mem_singleton] at hb
    omega
  · intro t ht
    rw [hflags, fresh_store, fresh_make]
    rcases List.mem_append.mp ht with hold | hnew
    · have hlt := h.made t hold
      omega
    · rw [List.mem_singleton.mp hnew]
      exact Nat.lt_succ_self _
  · intro key task htask
    rw [scheduleUpdate_lookup] at htask
    split at htask
    · next hk =>
      cases htask
      simp [hk.1]
    · exact List.mem_append_left _ (h.mapped key task htask)
  · intro t ht hrunning
    rw [scheduleUpdate_lookup]
    rcases List.mem_append.mp ht with hold | hnew
    · have hlt := h.made t hold
      rw [hflags, load_store_ne _ _ (by omega), load_make_of_lt _ _ hlt] at hrunning
      obtain ⟨task, htask, hcell⟩ := h.live t hold hrunning
      rw [if_neg fun hk => by rw [htask] at hk; cases hk.2]
      exact ⟨task, htask, hcell⟩
    · rw [List.mem_singleton.mp hnew, if_pos ⟨rfl, hnone⟩]
      exact ⟨_, rfl, rfl⟩

theorem stopUpdate_paired {updater : ServiceInfoUpdater} {tasks : List (Nat × String)}
    (h : updater.Paired tasks) (serviceName groupName cluster : String) :
    (updater.stopUpdate serviceName groupName cluster).Paired tasks := by
  have hcells : (updater.stopUpdate serviceName groupName cluster).flags.fresh =
      updater.flags.fresh := by
    unfold ServiceInfoUpdater.stopUpdate
    cases hk : updater.taskMap.get? (updateTaskKey serviceName groupName cluster) <;> simp [hk]
  constructor
  · exact stopUpdate_sound h.sound _ _ _
  · exact h.distinct
  · intro t ht
    rw [hcells]
    exact h.made t ht
  · intro key task htask
    rw [stopUpdate_lookup] at htask
    split at htask
    · cases htask
    · exact h.mapped key task htask
  · intro t ht hrunning
    rw [stopUpdate_lookup]
    cases hk : updater.taskMap.get? (updateTaskKey serviceName groupName cluster) with
    | none =>
      have hflags : (updater.stopUpdate serviceName groupName cluster).flags =
          updater.flags := by
        unfold ServiceInfoUpdater.stopUpdate
        simp [hk]
      rw [hflags] at hrunning
      obtain ⟨task, htask, hcell⟩ := h.live t ht hrunning
      rw [if_neg fun he => by rw [he, hk] at htask; cases htask]
      exact ⟨task, htask, hcell⟩
    | some stopped =>
      have hflags : (updater.stopUpdate serviceName groupName cluster).flags =
          updater.flags.store stopped.running false := by
        unfold ServiceInfoUpdater.stopUpdate
        simp [hk]
      rw [hflags] at hrunning
      by_cases hcell : stopped.running = t.1
      · rw [hcell, load_store_self _ _ (h.made t ht)] at hrunning
        cases hrunning
      · rw [load_store_ne _ _ hcell] at hrunning
        obtain ⟨task, htask, hrun⟩ := h.live t ht hrunning
        rw [if_neg]
        · exact ⟨task, htask, hrun⟩
        · intro he
          rw [he, hk] at htask
          cases htask
          exact hcell hrun

/-! ## The lock holder -/

/-- A call that ran alone. -/
inductive UpdaterCall where
  | scheduleUpdate (namespace_ serviceName groupName cluster : String)
  | stopUpdate (serviceName groupName cluster : String)

def ServiceInfoUpdater.call (updater : ServiceInfoUpdater) : UpdaterCall → ServiceInfoUpdater
  | .scheduleUpdate namespace_ serviceName groupName cluster =>
    updater.scheduleUpdate namespace_ serviceName groupName cluster
  | .stopUpdate serviceName groupName cluster => updater.stopUpdate serviceName groupName cluster

/-- The key that a task is mapped under. -/
def ServiceInfoUpdateTask.key (task : ServiceInfoUpdateTask) : String :=
  updateTaskKey task.serviceName task.groupName task.cluster

/-- Where a state is, seen from the updater that the lock was last taken with. -/
def UpdateLoops.Opened (s : UpdateLoops) (base : ServiceInfoUpdater) : Prop :=
  match s.holder with
  | .free | .scheduling _ _ _ _ | .removing _ _ _ | .unlocking =>
    s.updater = base ∧ base.Paired s.tasks
  | .starting taskKey task =>
    s.updater = { base with flags := base.flags.make false } ∧ base.Paired s.tasks ∧
      base.taskMap.get? taskKey = none ∧ taskKey = task.key ∧ task.running = base.flags.fresh
  | .spawning taskKey task =>
    s.updater = { base with flags := (base.flags.make false).store base.flags.fresh true } ∧
      base.Paired s.tasks ∧ base.taskMap.get? taskKey = none ∧ taskKey = task.key ∧
      task.running = base.flags.fresh
  | .inserting taskKey task =>
    s.updater = { base with flags := (base.flags.make false).store base.flags.fresh true } ∧
      (∃ before, base.Paired before ∧ s.tasks = before ++ [(base.flags.fresh, taskKey)]) ∧
      base.taskMap.get? taskKey = none ∧ taskKey = task.key ∧ task.running = base.flags.fresh
  | .clearing serviceName groupName cluster task =>
    s.updater =
        { base with
          taskMap := base.taskMap.erase (updateTaskKey serviceName groupName cluster) } ∧
      base.Paired s.tasks ∧
      base.taskMap.get? (updateTaskKey serviceName groupName cluster) = some task

theorem start_opened : UpdateLoops.start.Opened ServiceInfoUpdater.new := ⟨rfl, new_paired⟩

/-- `schedule_update` as one call, when the key is not in the map. -/
theorem call_scheduleUpdate {base : ServiceInfoUpdater} {task : ServiceInfoUpdateTask}
    (hnone : base.taskMap.get? task.key = none) (hcell : task.running = base.flags.fresh) :
    base.call (.scheduleUpdate task.namespace_ task.serviceName task.groupName task.cluster) =
      { taskMap := base.taskMap.insert task.key task
        flags := (base.flags.make false).store base.flags.fresh true } := by
  obtain ⟨running, serviceName, namespace_, groupName, cluster⟩ := task
  simp only [ServiceInfoUpdateTask.key] at hnone hcell ⊢
  simp only [ServiceInfoUpdater.call, ServiceInfoUpdater.scheduleUpdate, hnone,
    Option.isSome_none, Bool.false_eq_true, ↓reduceIte, ServiceInfoUpdater.startTask, hcell]

theorem proceed_opened {s s' : UpdateLoops} {base : ServiceInfoUpdater} (h : s.Opened base)
    (hstep : s.proceed = some s') :
    s'.Opened base ∨ ∃ call, s'.Opened (base.call call) := by
  obtain ⟨updater, holder, loops⟩ := s
  cases holder with
  | free => cases hstep
  | scheduling namespace_ serviceName groupName cluster =>
    obtain ⟨rfl, hpaired⟩ := h
    simp only [UpdateLoops.proceed] at hstep
    split at hstep
    · cases hstep
      exact Or.inl ⟨rfl, hpaired⟩
    · next hnone =>
      cases hstep
      exact Or.inl ⟨rfl, hpaired, by simpa using hnone, rfl, rfl⟩
  | starting taskKey task =>
    obtain ⟨rfl, hpaired, hnone, hkey, hcell⟩ := h
    have hflag : (base.flags.make false).load task.running = some false := by
      rw [hcell, load_make_fresh]
    simp only [UpdateLoops.proceed, ServiceInfoUpdater.isRunning, hflag] at hstep
    cases hstep
    refine Or.inl ⟨?_, hpaired, hnone, hkey, hcell⟩
    simp only [hcell]
  | spawning taskKey task =>
    obtain ⟨rfl, hpaired, hnone, hkey, hcell⟩ := h
    cases hstep
    refine Or.inl ⟨rfl, ⟨_, hpaired, ?_⟩, hnone, hkey, hcell⟩
    simp only [UpdateLoops.tasks, List.map_append, List.map_cons, List.map_nil]
    rw [hkey, ← hcell]
    rfl
  | inserting taskKey task =>
    obtain ⟨rfl, ⟨before, hpaired, htasks⟩, hnone, rfl, hcell⟩ := h
    cases hstep
    have hscheduled : (base.call
        (.scheduleUpdate task.namespace_ task.serviceName task.groupName task.cluster)).Paired
          (before ++ [(base.flags.fresh, task.key)]) := scheduleUpdate_paired hpaired hnone
    rw [← htasks] at hscheduled
    exact Or.inr ⟨_, (call_scheduleUpdate hnone hcell).symm, hscheduled⟩
  | removing serviceName groupName cluster =>
    obtain ⟨rfl, hpaired⟩ := h
    cases hstep
    cases hk : updater.taskMap.get? (updateTaskKey serviceName groupName cluster) with
    | none =>
      refine Or.inr ⟨.stopUpdate serviceName groupName cluster, ?_⟩
      have hpaired' := stopUpdate_paired hpaired serviceName groupName cluster
      simp only [UpdateLoops.Opened]
      refine ⟨?_, hpaired'⟩
      simp only [ServiceInfoUpdater.call, ServiceInfoUpdater.stopUpdate, hk]
    | some task =>
      refine Or.inl ?_
      simp only [UpdateLoops.Opened, hk]
      exact ⟨trivial, hpaired, trivial⟩
  | clearing serviceName groupName cluster task =>
    obtain ⟨rfl, hpaired, hk⟩ := h
    cases hstep
    refine Or.inr ⟨.stopUpdate serviceName groupName cluster, ?_,
      stopUpdate_paired hpaired serviceName groupName cluster⟩
    simp only [ServiceInfoUpdater.call, ServiceInfoUpdater.stopUpdate, hk]
  | unlocking =>
    obtain ⟨rfl, hpaired⟩ := h
    cases hstep
    exact Or.inl ⟨rfl, hpaired⟩

theorem loop_tasks {loops : List UpdateLoop} {i : Nat} {loop loop' : UpdateLoop}
    (hloop : loops[i]? = some loop) (htask : loop'.task = loop.task) :
    (loops.set i loop').map UpdateLoop.task = loops.map UpdateLoop.task := by
  obtain ⟨hlen, rfl⟩ := List.getElem?_eq_some_iff.mp hloop
  rw [List.map_set, htask, ← List.map_set, List.set_getElem_self]

theorem lock_cases {s s' : UpdateLoops} {holder : LockHolder} (h : s.lock holder = some s') :
    s.holder = .free ∧ s' = { s with holder } := by
  unfold UpdateLoops.lock at h
  split at h
  · next hfree =>
    cases h
    exact ⟨hfree, rfl⟩
  · cases h

theorem loopStep_cases {s s' : UpdateLoops} {i : Nat} {e : UpdateEvent}
    (h : s.step (.loop i e) = some s') :
    ∃ loop loop', s.loops[i]? = some loop ∧ loop.step (s.isRunning loop) e = some loop' ∧
      s' = { s with loops := s.loops.set i loop' } := by
  simp only [UpdateLoops.step] at h
  split at h
  · cases h
  · next loop hloop =>
    split at h
    · cases h
    · next loop' hloop' =>
      cases h
      exact ⟨loop, loop', hloop, hloop', rfl⟩

/-- **Step lemma.** Whatever step is taken, the updater is that of the calls made
so far, one after another, and has its loops. -/
theorem opened_step {s s' : UpdateLoops} {e : LoopsEvent} {base : ServiceInfoUpdater}
    (h : s.Opened base) (hstep : s.step e = some s') :
    s'.Opened base ∨ ∃ call, s'.Opened (base.call call) := by
  cases e with
  | scheduleUpdate namespace_ serviceName groupName cluster =>
    obtain ⟨hfree, rfl⟩ := lock_cases hstep
    unfold UpdateLoops.Opened at h
    rw [hfree] at h
    exact Or.inl h
  | stopUpdate serviceName groupName cluster =>
    obtain ⟨hfree, rfl⟩ := lock_cases hstep
    unfold UpdateLoops.Opened at h
    rw [hfree] at h
    exact Or.inl h
  | proceed => exact proceed_opened h hstep
  | loop i e =>
    obtain ⟨loop, loop', hloop, hloop', rfl⟩ := loopStep_cases hstep
    have htasks : UpdateLoops.tasks { s with loops := s.loops.set i loop' } = s.tasks :=
      loop_tasks hloop (updateStep_task hloop')
    refine Or.inl ?_
    unfold UpdateLoops.Opened at h ⊢
    rw [htasks]
    exact h

/-- In every state the updater is that of some calls, one after another. -/
theorem reaches_opened {es : List LoopsEvent} {s : UpdateLoops}
    (h : Reaches UpdateLoops.step anyStep UpdateLoops.start es s) :
    ∃ calls : List UpdaterCall,
      s.Opened (calls.foldl ServiceInfoUpdater.call ServiceInfoUpdater.new) := by
  apply Reaches.invariant _ h ⟨[], start_opened⟩
  rintro s e s' - hstep ⟨calls, hopened⟩
  rcases opened_step hopened hstep with hsame | ⟨call, hcall⟩
  · exact ⟨calls, hsame⟩
  · refine ⟨calls ++ [call], ?_⟩
    rw [List.foldl_append]
    exact hcall

theorem runningLoops_free {s : UpdateLoops} {base : ServiceInfoUpdater} (h : s.Opened base)
    (hfree : s.holder = .free) (key : String) :
    s.runningLoops key = if (s.updater.taskMap.get? key).isSome then 1 else 0 := by
  unfold UpdateLoops.Opened at h
  rw [hfree] at h
  obtain ⟨rfl, hpaired⟩ := h
  rw [← paired_count hpaired key]
  unfold UpdateLoops.tasks
  rw [List.countP_map]
  rfl

/-! ## Stopped loops -/

/-- A flag that was cleared stays so. -/
theorem step_cleared {s s' : UpdateLoops} {e : LoopsEvent} {base : ServiceInfoUpdater}
    (h : s.Opened base) (hstep : s.step e = some s') {t : Nat × String} (ht : t ∈ s.tasks)
    (hcleared : s.updater.flags.load t.1 = some false) :
    s'.updater.flags.load t.1 = some false := by
  cases e with
  | scheduleUpdate namespace_ serviceName groupName cluster =>
    obtain ⟨_, rfl⟩ := lock_cases hstep
    exact hcleared
  | stopUpdate serviceName groupName cluster =>
    obtain ⟨_, rfl⟩ := lock_cases hstep
    exact hcleared
  | loop i e =>
    obtain ⟨loop, loop', _, _, rfl⟩ := loopStep_cases hstep
    exact hcleared
  | proceed =>
    have hlt := lt_fresh_of_load hcleared
    obtain ⟨updater, holder, loops⟩ := s
    cases holder with
    | free => cases hstep
    | scheduling namespace_ serviceName groupName cluster =>
      simp only [UpdateLoops.step, UpdateLoops.proceed] at hstep
      split at hstep
      · cases hstep
        exact hcleared
      · cases hstep
        exact (load_make_of_lt _ _ hlt).trans hcleared
    | starting taskKey task =>
      obtain ⟨_, hpaired, _, _, hcell⟩ := h
      have hmade := hpaired.made t ht
      simp only [UpdateLoops.step, UpdateLoops.proceed] at hstep
      split at hstep
      · cases hstep
        exact hcleared
      · cases hstep
        exact (load_store_ne _ _ (by omega)).trans hcleared
    | clearing serviceName groupName cluster task =>
      cases hstep
      by_cases hcell : task.running = t.1
      · rw [hcell]
        exact load_store_self _ _ hlt
      · exact (load_store_ne _ _ hcell).trans hcleared
    | _ =>
      cases hstep
      exact hcleared

theorem proceed_found {s s' : UpdateLoops} {i : Nat} {loop : UpdateLoop}
    (hstep : s.proceed = some s') (h : s.loops[i]? = some loop) : s'.loops[i]? = some loop := by
  obtain ⟨updater, holder, loops⟩ := s
  cases holder with
  | free => cases hstep
  | scheduling namespace_ serviceName groupName cluster =>
    simp only [UpdateLoops.proceed] at hstep
    split at hstep <;> cases hstep <;> exact h
  | starting taskKey task =>
    simp only [UpdateLoops.proceed] at hstep
    split at hstep <;> cases hstep <;> exact h
  | spawning taskKey task =>
    cases hstep
    have hlen : i < loops.length := (List.getElem?_eq_some_iff.mp h).1
    exact (List.getElem?_append_left hlen).trans h
  | _ =>
    cases hstep
    exact h

theorem task_mem {s : UpdateLoops} {i : Nat} {loop : UpdateLoop} (h : s.loops[i]? = some loop) :
    loop.task ∈ s.tasks :=
  List.mem_map_of_mem (List.mem_of_getElem? h)

theorem opened_made {s : UpdateLoops} {base : ServiceInfoUpdater} (h : s.Opened base)
    {t : Nat × String} (ht : t ∈ s.tasks) : t.1 < s.updater.flags.fresh := by
  obtain ⟨updater, holder, loops⟩ := s
  cases holder with
  | starting taskKey task =>
    obtain ⟨rfl, hpaired, _⟩ := h
    have hlt := hpaired.made t ht
    rw [fresh_make]
    omega
  | spawning taskKey task =>
    obtain ⟨rfl, hpaired, _⟩ := h
    have hlt := hpaired.made t ht
    rw [fresh_store, fresh_make]
    omega
  | inserting taskKey task =>
    obtain ⟨rfl, ⟨before, hpaired, htasks⟩, _⟩ := h
    rw [fresh_store, fresh_make]
    rw [htasks] at ht
    rcases List.mem_append.mp ht with hold | hnew
    · have hlt := hpaired.made t hold
      omega
    · rw [List.mem_singleton.mp hnew]
      exact Nat.lt_succ_self _
  | clearing serviceName groupName cluster task =>
    obtain ⟨rfl, hpaired, _⟩ := h
    exact hpaired.made t ht
  | _ =>
    obtain ⟨rfl, hpaired⟩ := h
    exact hpaired.made t ht

/-- Every loop has a flag. -/
theorem loop_cleared {s : UpdateLoops} {base : ServiceInfoUpdater} (h : s.Opened base) {i : Nat}
    {loop : UpdateLoop} (hloop : s.loops[i]? = some loop) (hflag : s.isRunning loop = false) :
    s.updater.flags.load loop.running = some false := by
  have hmade : loop.running < s.updater.flags.fresh := opened_made h (task_mem hloop)
  have hload : s.updater.flags.load loop.running =
      some (s.updater.flags.get ⟨loop.running, hmade⟩) := by
    exact List.getElem?_eq_getElem hmade
  unfold UpdateLoops.isRunning at hflag
  rw [hload] at hflag ⊢
  cases hget : s.updater.flags.get ⟨loop.running, hmade⟩ with
  | false => rfl
  | true =>
    rw [hget] at hflag
    cases hflag

/-- What is known of a loop from the state on in which its flag is false. -/
structure UpdateLoops.Stopped (s : UpdateLoops) (i : Nat) (loop loop' : UpdateLoop) : Prop where
  found : s.loops[i]? = some loop'
  cleared : s.updater.flags.load loop'.running = some false
  queries : loop'.queriesBound ≤ loop.queriesBound
  emits : loop'.emitsBound ≤ loop.emitsBound

theorem step_stopped {s s' : UpdateLoops} {e : LoopsEvent} {base : ServiceInfoUpdater}
    {i : Nat} {loop now : UpdateLoop} (hopened : s.Opened base) (h : s.Stopped i loop now)
    (hstep : s.step e = some s') : ∃ next, s'.Stopped i loop next := by
  have hcleared := step_cleared hopened hstep (task_mem h.found) h.cleared
  cases e with
  | scheduleUpdate namespace_ serviceName groupName cluster =>
    obtain ⟨_, rfl⟩ := lock_cases hstep
    exact ⟨now, h.found, hcleared, h.queries, h.emits⟩
  | stopUpdate serviceName groupName cluster =>
    obtain ⟨_, rfl⟩ := lock_cases hstep
    exact ⟨now, h.found, hcleared, h.queries, h.emits⟩
  | proceed => exact ⟨now, proceed_found hstep h.found, hcleared, h.queries, h.emits⟩
  | loop j e =>
    obtain ⟨stepped, next, hstepped, hnext, rfl⟩ := loopStep_cases hstep
    by_cases hij : j = i
    · subst hij
      rw [h.found] at hstepped
      cases hstepped
      have hflag : s.isRunning now = false := by
        unfold UpdateLoops.isRunning
        rw [h.cleared]
        rfl
      rw [hflag] at hnext
      obtain ⟨hqueries, hemits⟩ := updateStep_late hnext
      have hcell : next.running = now.running := congrArg Prod.fst (updateStep_task hnext)
      have hlen : j < s.loops.length := (List.getElem?_eq_some_iff.mp h.found).1
      refine ⟨next, ?_, ?_, hqueries.trans h.queries, hemits.trans h.emits⟩
      · simp [hlen]
      · rw [hcell]
        exact h.cleared
    · refine ⟨now, ?_, h.cleared, h.queries, h.emits⟩
      show (s.loops.set j next)[i]? = some now
      rw [List.getElem?_set_ne hij, h.found]

theorem reaches_stopped {s t : UpdateLoops} {es : List LoopsEvent} {base : ServiceInfoUpdater}
    {i : Nat} {loop : UpdateLoop} (hopened : s.Opened base) (hloop : s.Stopped i loop loop)
    (h : Reaches UpdateLoops.step anyStep s es t) : ∃ last, t.Stopped i loop last := by
  have hinv : ∃ base last, t.Opened base ∧ t.Stopped i loop last := by
    apply Reaches.invariant _ h ⟨base, loop, hopened, hloop⟩
    rintro s e s' - hstep ⟨base, now, hopened, hnow⟩
    obtain ⟨next, hnext⟩ := step_stopped hopened hnow hstep
    rcases opened_step hopened hstep with hsame | ⟨call, hcall⟩
    · exact ⟨base, next, hsame, hnext⟩
    · exact ⟨_, next, hcall, hnext⟩
  obtain ⟨_, last, _, hlast⟩ := hinv
  exact ⟨last, hlast⟩

/-- **Update loops.** In every reachable state with a free lock, one loop of
each mapped key and no loop of another key has its flag set. From any state on
in which its flag is false, a loop sends and emits at most once more. -/
theorem updateLoops_law {es : List LoopsEvent} {s : UpdateLoops}
    (h : Reaches UpdateLoops.step anyStep UpdateLoops.start es s) :
    (s.holder = .free → ∀ key, s.runningLoops key =
      if (s.updater.taskMap.get? key).isSome then 1 else 0) ∧
    ∀ (i : Nat) (loop : UpdateLoop), s.loops[i]? = some loop → s.isRunning loop = false →
      ∀ es' t, Reaches UpdateLoops.step anyStep s es' t →
        ∃ last : UpdateLoop, t.loops[i]? = some last ∧ last.sent.length ≤ loop.sent.length + 1 ∧
          last.emitted.length ≤ loop.emitted.length + 1 := by
  obtain ⟨calls, hopened⟩ := reaches_opened h
  refine ⟨runningLoops_free hopened, fun i loop hloop hflag es' t ht => ?_⟩
  have hcleared := loop_cleared hopened hloop hflag
  obtain ⟨last, hlast⟩ := reaches_stopped hopened ⟨hloop, hcleared, le_rfl, le_rfl⟩ ht
  have hqueries := hlast.queries
  have hemits := hlast.emits
  have hone := queriesLeft_le loop.phase
  have hone' := emitsLeft_le loop.phase
  unfold UpdateLoop.queriesBound at hqueries
  unfold UpdateLoop.emitsBound at hemits
  exact ⟨last, hlast.found, by omega, by omega⟩

/-- The updates of a service are stopped while its loop refreshes, and scheduled
again. -/
def restarted : List LoopsEvent :=
  [.scheduleUpdate "public" "orders" defaultGroup "", .proceed, .proceed, .proceed, .proceed,
    .proceed, .loop 0 .test, .loop 0 .wake, .stopUpdate "orders" defaultGroup "", .proceed,
    .proceed, .proceed, .scheduleUpdate "public" "orders" defaultGroup "", .proceed, .proceed,
    .proceed, .proceed, .proceed]

/-- The stopped loop goes on to its end. -/
def lastRound : List LoopsEvent :=
  [.loop 0 (.refresh none), .loop 0 .send,
    .loop 0 (.answer (.ok { GrpcResponse.ok with serviceInfo := ordersInfo 1 [] })),
    .loop 0 .emit, .loop 0 .test]

def loopsAfter (s : UpdateLoops) (es : List LoopsEvent) : UpdateLoops :=
  (run UpdateLoops.step s es).getD s

theorem updateLoops_law_restarted :
    (loopsAfter .start restarted).runningLoops ordersKey = 1 ∧
      ∃ last : UpdateLoop,
        (loopsAfter (loopsAfter .start restarted) lastRound).loops[0]? = some last ∧
          last.sent.length ≤ 1 ∧ last.emitted.length ≤ 1 := by
  have hrun : Reaches UpdateLoops.step anyStep UpdateLoops.start restarted
      (loopsAfter .start restarted) := run_getD_reaches (by decide +kernel) _
  have hlate : Reaches UpdateLoops.step anyStep (loopsAfter .start restarted) lastRound
      (loopsAfter (loopsAfter .start restarted) lastRound) :=
    run_getD_reaches (by decide +kernel) _
  obtain ⟨hfree, hstopped⟩ := updateLoops_law hrun
  constructor
  · rw [hfree rfl, if_pos (by decide +kernel)]
  · exact hstopped 0
      { UpdateLoop.start
          { running := 0, serviceName := "orders", namespace_ := "public",
            groupName := defaultGroup, cluster := "" } with phase := .refreshing }
      (by decide +kernel) (by decide +kernel) lastRound _ hlate

end NacosSdk.Naming
