import NacosSdk.Common.DiskStore
import NacosSdk.Common.HashMap
import NacosSdk.Lib.Pending

/-!
# The disk-backed cache

`Cache` and `CacheRefMut` of `common/cache/mod.rs` over `DiskStore`. Every
change of the memory spawns a task that writes it to the store, and the tasks
run in any order. `toVec` is what `serde_json::to_vec` makes of a value. Proved
here, for every run over any keys and values:

* `cache_step`: what an operation and a task preserve;
* `run_isSome`: a task that is left can go on;
* `stored_when_done`: once no task is left the store holds what the memory
  holds, while no newest task overtakes an older insertion or removal and no
  save takes the file of another key for its temporary one;
* `overtaken_insert_not_stored`: two insertions that are saved out of order.
-/

namespace NacosSdk.Common
open NacosSdk.Lib NacosSdk.Lib.Run NacosSdk.Lib.Pending

/-- A spawned store task that is not done. -/
inductive StoreTask where
  /-- It holds the bytes to save: those of an insertion, or those that the task
  of a guard has read. -/
  | save (key : String) (bytes : List UInt8)
  /-- The task of a guard, which will read the value of the key. -/
  | resave (key : String)
  | remove (key : String)
  deriving DecidableEq

def StoreTask.key : StoreTask → String
  | .save key _ => key
  | .resave key => key
  | .remove key => key

structure Cache (V : Type) where
  inner : HashMap V
  fs : FileSystem String UInt8
  tasks : List StoreTask

def Cache.new (V : Type) : Cache V where
  inner := ∅
  fs := FileSystem.empty
  tasks := []

inductive CacheEvent (V : Type) where
  | insert (key : String) (value : V)
  /-- `get_mut`, a mutation and the drop of the guard. -/
  | mutate (key : String) (f : V → V)
  | remove (key : String)
  /-- The task at `i` takes its next step. -/
  | run (i : Nat)

variable {V : Type} (toVec : V → Option (List UInt8))

def Cache.insert (c : Cache V) (key : String) (value : V) : Cache V :=
  { c with
    inner := c.inner.insert key value
    tasks := c.tasks ++ ((toVec value).map (StoreTask.save key)).toList }

/-- The guard is dropped with its lock, and the task reads after that. -/
def Cache.mutate (c : Cache V) (key : String) (f : V → V) : Cache V :=
  match c.inner.get? key with
  | none => c
  | some v => { c with inner := c.inner.insert key (f v), tasks := c.tasks ++ [.resave key] }

def Cache.remove (c : Cache V) (key : String) : Cache V :=
  match c.inner.get? key with
  | none => c
  | some _ => { c with inner := c.inner.erase key, tasks := c.tasks ++ [.remove key] }

/-- What the file of the key should hold. -/
def Cache.bytesOf (c : Cache V) (key : String) : Option (List UInt8) :=
  (c.inner.get? key).bind toVec

/-- `save` and `remove` of the store, each in one step. -/
def Cache.runTask (c : Cache V) (i : Nat) : StoreTask → Option (Cache V)
  | .save key bytes =>
    (c.fs.replaceVia 0 (tmpName key) key bytes).map fun fs =>
      { c with fs, tasks := c.tasks.eraseIdx i }
  | .resave key =>
    match c.bytesOf toVec key with
    | some bytes => some { c with tasks := c.tasks.set i (.save key bytes) }
    | none => some { c with tasks := c.tasks.eraseIdx i }
  | .remove key => some { c with fs := c.fs.remove key, tasks := c.tasks.eraseIdx i }

def Cache.step (c : Cache V) : CacheEvent V → Option (Cache V)
  | .insert key value => if legalFileName key then some (c.insert toVec key value) else none
  | .mutate key f => some (c.mutate key f)
  | .remove key => some (c.remove key)
  | .run i => (c.tasks[i]?).bind (c.runTask toVec i)

/-- Every file is the serialisation of the value of its key, and every value
has its file. -/
def Cache.Stored (c : Cache V) : Prop := ∀ key, c.fs.read key = c.bytesOf toVec key

/-! ## The invariant -/

def isOf (key : String) (task : StoreTask) : Bool := task.key = key

/-- The task leaves the file of its key as the memory wants it. -/
def Cache.Right (c : Cache V) : StoreTask → Prop
  | .save key bytes => c.bytesOf toVec key = some bytes
  | .resave key => (c.inner.get? key).isSome = true
  | .remove key => c.inner.get? key = none

/-- The file is right, and the tasks left only read the value. -/
structure Cache.Settled (c : Cache V) (key : String) : Prop where
  file : c.fs.read key = c.bytesOf toVec key
  tasks : ∀ task ∈ c.tasks, isOf key task = true → task = .resave key

/-- The key is settled, or its newest task is right. -/
def Cache.SoundAt (c : Cache V) (key : String) : Prop :=
  c.Settled toVec key ∨ ∃ task, newestOf (isOf key) c.tasks = some task ∧ c.Right toVec task

def Cache.Sound (c : Cache V) : Prop := ∀ key, c.SoundAt toVec key

/-- The newest task of a key does not overtake an older one that holds bytes or
removes; it may overtake the task of a guard that has not read yet. -/
def Cache.InTurn (c : Cache V) (i : Nat) (task : StoreTask) : Prop :=
  newestOf (isOf task.key) (c.tasks.drop (i + 1)) = none →
    ∀ older ∈ c.tasks.take i, isOf task.key older = true → older = .resave task.key

/-- The temporary file is not the file of another key in memory, unless a task
of that key is left. -/
def Cache.TmpFree (c : Cache V) (key : String) : Prop :=
  tmpName key ≠ key → c.inner.get? (tmpName key) = none ∨
    newestOf (isOf (tmpName key)) c.tasks ≠ none

/-- The task may take its next step. -/
def Cache.MayRun (c : Cache V) (i : Nat) : StoreTask → Prop
  | .save key bytes => c.InTurn i (.save key bytes) ∧ c.TmpFree key
  | .resave _ => True
  | .remove key => c.InTurn i (.remove key)

def Cache.Ordered (c : Cache V) : CacheEvent V → Prop
  | .run i => ∀ task ∈ c.tasks[i]?, c.MayRun i task
  | _ => True

instance (c : Cache V) (i : Nat) : DecidablePred (c.MayRun i)
  | .save _ _ => inferInstanceAs (Decidable ((_ = none → _) ∧ (_ ≠ _ → _ = none ∨ _ ≠ none)))
  | .resave _ => inferInstanceAs (Decidable True)
  | .remove _ => inferInstanceAs (Decidable (_ = none → _))

instance (c : Cache V) : DecidablePred c.Ordered
  | .run i => inferInstanceAs (Decidable (∀ task ∈ c.tasks[i]?, c.MayRun i task))
  | .insert _ _ => inferInstanceAs (Decidable True)
  | .mutate _ _ => inferInstanceAs (Decidable True)
  | .remove _ => inferInstanceAs (Decidable True)

variable {toVec} {c c' : Cache V}

theorem isOf_self (task : StoreTask) : isOf task.key task = true := by
  simp [isOf]

theorem isOf_ne {key : String} {task : StoreTask} (h : task.key ≠ key) :
    isOf key task = false := by
  simp [isOf, h]

/-- Right is what the value of the key makes it. -/
theorem right_congr {key : String} {task : StoreTask} (hkey : isOf key task = true)
    (h : c'.inner.get? key = c.inner.get? key) (hr : c.Right toVec task) :
    c'.Right toVec task := by
  have hk : task.key = key := of_decide_eq_true hkey
  subst hk
  cases task with
  | save k bytes =>
    have hr : (c.inner.get? k).bind toVec = some bytes := hr
    show (c'.inner.get? k).bind toVec = some bytes
    rw [← hr]
    exact congrArg (fun v => v.bind toVec) h
  | resave k =>
    show (c'.inner.get? k).isSome = true
    rw [show c'.inner.get? k = c.inner.get? k from h]
    exact hr
  | remove k => exact h.trans hr

theorem new_cache_sound : (Cache.new V).Sound toVec := by
  intro key
  exact Or.inl ⟨rfl, fun _ h => by cases h⟩

theorem run_isSome {i : Nat} {task : StoreTask} (h : c.tasks[i]? = some task) :
    (c.step toVec (.run i)).isSome = true := by
  simp only [Cache.step, h, Option.bind_some]
  cases task with
  | save key bytes =>
    have hsaves : ∃ fs', c.fs.replaceVia 0 (tmpName key) key bytes = some fs' :=
      FileSystem.replaceVia_isSome 0 (tmpName key) key bytes
    obtain ⟨fs', hfs⟩ := hsaves
    simp [Cache.runTask, hfs]
  | resave key =>
    cases hbytes : c.bytesOf toVec key <;> simp [Cache.runTask, hbytes]
  | remove key => rfl

/-! ## Operations -/

/-- An operation changes its own key and appends a task of it that is right. -/
theorem Cache.Sound.operation (h : c.Sound toVec) (task : StoreTask)
    (hfs : c'.fs = c.fs) (htasks : c'.tasks = c.tasks ++ [task])
    (hinner : ∀ key, key ≠ task.key → c'.inner.get? key = c.inner.get? key)
    (hright : c'.Right toVec task) : c'.Sound toVec := by
  intro key
  by_cases hk : task.key = key
  · subst hk
    exact Or.inr ⟨task, by rw [htasks, newestOf_concat (isOf_self task)], hright⟩
  · have hvalue := hinner key (Ne.symm hk)
    have hnot := isOf_ne hk
    rcases h key with hsettled | ⟨newest, hnewest, hr⟩
    · refine Or.inl ⟨?_, ?_⟩
      · rw [hfs, hsettled.file, Cache.bytesOf, Cache.bytesOf, hvalue]
      · intro t ht hof
        rw [htasks, List.mem_append, List.mem_singleton] at ht
        rcases ht with hold | rfl
        · exact hsettled.tasks t hold hof
        · rw [hnot] at hof
          cases hof
    · refine Or.inr ⟨newest, ?_, right_congr (newestOf_mem hnewest).2 hvalue hr⟩
      rw [htasks, newestOf_concat_neg hnot, hnewest]

theorem insert_sound (h : c.Sound toVec) (hser : ∀ v, (toVec v).isSome = true) (key : String)
    (value : V) : (c.insert toVec key value).Sound toVec := by
  obtain ⟨bytes, hbytes⟩ := Option.isSome_iff_exists.mp (hser value)
  refine h.operation (.save key bytes) rfl ?_ ?_ ?_
  · simp [Cache.insert, hbytes]
  · exact fun k hk => HashMap.get?_insert_ne _ _ hk
  · show ((c.inner.insert key value).get? key).bind toVec = some bytes
    rw [HashMap.get?_insert_self]
    exact hbytes

theorem mutate_sound (h : c.Sound toVec) (key : String) (f : V → V) :
    (c.mutate key f).Sound toVec := by
  unfold Cache.mutate
  split
  · exact h
  · next v _ =>
    refine h.operation (.resave key) rfl rfl ?_ ?_
    · exact fun k hk => HashMap.get?_insert_ne _ _ hk
    · show ((c.inner.insert key (f v)).get? key).isSome = true
      rw [HashMap.get?_insert_self]
      rfl

theorem remove_sound (h : c.Sound toVec) (key : String) : (c.remove key).Sound toVec := by
  unfold Cache.remove
  split
  · exact h
  · refine h.operation (.remove key) rfl rfl ?_ ?_
    · intro k hk
      have hne : k ≠ key := hk
      show (c.inner.erase key).get? k = _
      rw [HashMap.get?_erase, if_neg hne]
    · show (c.inner.erase key).get? key = none
      rw [HashMap.get?_erase, if_pos rfl]

/-! ## Tasks -/

/-- A task of another key is none of this key's, whatever it becomes. -/
theorem tasks_other {key : String} {i : Nat} {task : StoreTask} (hi : c.tasks[i]? = some task)
    (hne : task.key ≠ key)
    (htasks : c'.tasks = c.tasks.eraseIdx i ∨
      ∃ next : StoreTask, next.key = task.key ∧ c'.tasks = c.tasks.set i next) :
    newestOf (isOf key) c'.tasks = newestOf (isOf key) c.tasks ∧
      ∀ t ∈ c'.tasks, isOf key t = true → t ∈ c.tasks := by
  have hnot := isOf_ne hne
  rcases htasks with heq | ⟨next, hkey, heq⟩
  · rw [heq]
    exact ⟨(newestOf_other hi hnot hnot).1, fun t ht _ => List.mem_of_mem_eraseIdx ht⟩
  · have hnext : isOf key next = false := isOf_ne (hkey ▸ hne)
    rw [heq]
    refine ⟨(newestOf_other hi hnot hnext).2, ?_⟩
    intro t ht hof
    rcases List.mem_or_eq_of_mem_set ht with hold | rfl
    · exact hold
    · rw [hnext] at hof
      cases hof

/-- A task of another key leaves a key sound, whatever it becomes, when the file
of that key is as it was or not wanted. -/
theorem sound_other {key : String} {i : Nat} {task : StoreTask} (hi : c.tasks[i]? = some task)
    (hne : task.key ≠ key) (h : c.SoundAt toVec key) (hinner : c'.inner = c.inner)
    (htasks : c'.tasks = c.tasks.eraseIdx i ∨
      ∃ next : StoreTask, next.key = task.key ∧ c'.tasks = c.tasks.set i next)
    (hfile : c'.fs.read key = c.fs.read key ∨
      (c'.fs.read key = none ∧
        (c.inner.get? key = none ∨ newestOf (isOf key) c.tasks ≠ none))) :
    c'.SoundAt toVec key := by
  have hvalue : c'.inner.get? key = c.inner.get? key := by rw [hinner]
  obtain ⟨hnewest, hmem⟩ := tasks_other hi hne htasks
  rcases h with hsettled | ⟨newest, hn, hr⟩
  · have hgone : (c'.fs.read key = c.fs.read key ∨ c.inner.get? key = none) → c'.Settled toVec key := by
      intro hcase
      refine ⟨?_, fun t ht hof => hsettled.tasks t (hmem t ht hof) hof⟩
      rcases hcase with hsame | hnone
      · rw [hsame, hsettled.file, Cache.bytesOf, Cache.bytesOf, hvalue]
      · have hwas : c.fs.read key = none := by
          rw [hsettled.file, Cache.bytesOf, hnone, Option.bind_none]
        rw [Cache.bytesOf, hvalue, hnone, Option.bind_none]
        rcases hfile with hsame | ⟨hnow, _⟩
        · rw [hsame, hwas]
        · exact hnow
    rcases hfile with hsame | ⟨_, hnone | hleft⟩
    · exact Or.inl (hgone (Or.inl hsame))
    · exact Or.inl (hgone (Or.inr hnone))
    · -- the file is gone, and a task that will read the value is left
      cases hv : c.inner.get? key with
      | none => exact Or.inl (hgone (Or.inr hv))
      | some v =>
        obtain ⟨newest, hn⟩ := Option.ne_none_iff_exists'.mp hleft
        obtain ⟨hm, hof⟩ := newestOf_mem hn
        refine Or.inr ⟨newest, hnewest.trans hn, ?_⟩
        rw [hsettled.tasks newest hm hof]
        show (c'.inner.get? key).isSome = true
        rw [hvalue, hv]
        rfl
  · exact Or.inr ⟨newest, hnewest.trans hn, right_congr (newestOf_mem hn).2 hvalue hr⟩

/-- The key of a task that is done is settled if the task was the newest, and
its newest task is right if not. -/
theorem sound_done {i : Nat} {task : StoreTask} (hi : c.tasks[i]? = some task)
    (hfixed : task ≠ .resave task.key) (hturn : c.InTurn i task)
    (h : c.SoundAt toVec task.key) (hinner : c'.inner = c.inner)
    (htasks : c'.tasks = c.tasks.eraseIdx i)
    (hfile : c.Right toVec task → c'.fs.read task.key = c.bytesOf toVec task.key) :
    c'.SoundAt toVec task.key := by
  have hvalue : c'.inner.get? task.key = c.inner.get? task.key := by rw [hinner]
  have hmem : task ∈ c.tasks := List.mem_of_getElem? hi
  rcases h with hsettled | ⟨newest, hn, hr⟩
  · exact absurd (hsettled.tasks task hmem (isOf_self task)) hfixed
  · cases hlater : newestOf (isOf task.key) (c.tasks.drop (i + 1)) with
    | some later =>
      obtain ⟨hwas, hnow, _⟩ := newestOf_later hi hlater task
      rw [hwas] at hn
      obtain rfl := Option.some.inj hn
      exact Or.inr ⟨later, by rw [htasks, hnow], right_congr (newestOf_mem hwas).2 hvalue hr⟩
    | none =>
      obtain ⟨hwas, _, _⟩ := newestOf_here hi hlater (isOf_self task) (isOf_self task)
      rw [hwas] at hn
      obtain rfl := Option.some.inj hn
      refine Or.inl ⟨?_, ?_⟩
      · rw [hfile hr, Cache.bytesOf, Cache.bytesOf, hvalue]
      · intro t ht hof
        rw [htasks, List.eraseIdx_eq_take_drop_succ, List.mem_append] at ht
        rcases ht with hold | hnew
        · exact hturn hlater t hold hof
        · rw [newestOf_eq_none hlater t hnew] at hof
          cases hof

/-- A task that has read the value holds the bytes of the memory. -/
theorem sound_read {i : Nat} {key : String} (hi : c.tasks[i]? = some (.resave key))
    {bytes : List UInt8} (hbytes : c.bytesOf toVec key = some bytes)
    (h : c.SoundAt toVec key) :
    ∃ newest, newestOf (isOf key) (c.tasks.set i (.save key bytes)) = some newest ∧
      c.Right toVec newest := by
  have hself : isOf key (.resave key) = true := isOf_self (.resave key)
  have hself' : isOf key (.save key bytes) = true := isOf_self (.save key bytes)
  cases hlater : newestOf (isOf key) (c.tasks.drop (i + 1)) with
  | none =>
    obtain ⟨_, _, hnow⟩ := newestOf_here hi hlater hself hself'
    exact ⟨_, hnow, hbytes⟩
  | some later =>
    obtain ⟨hwas, _, hnow⟩ := newestOf_later hi hlater (.save key bytes)
    refine ⟨later, hnow, ?_⟩
    rcases h with hsettled | ⟨newest, hn, hr⟩
    · obtain ⟨hm, hof⟩ := newestOf_mem hwas
      rw [hsettled.tasks later hm hof]
      cases hv : c.inner.get? key with
      | none => simp [Cache.bytesOf, hv] at hbytes
      | some v =>
        show (c.inner.get? key).isSome = true
        rw [hv]
        rfl
    · rw [hwas] at hn
      obtain rfl := Option.some.inj hn
      exact hr

/-- A task that finds no value is done. -/
theorem sound_gone {i : Nat} {key : String} (hi : c.tasks[i]? = some (.resave key))
    (hgone : c.inner.get? key = none) (h : c.SoundAt toVec key) :
    Cache.SoundAt toVec { c with tasks := c.tasks.eraseIdx i } key := by
  have hself : isOf key (.resave key) = true := isOf_self (.resave key)
  rcases h with hsettled | ⟨newest, hn, hr⟩
  · exact Or.inl ⟨hsettled.file, fun t ht hof =>
      hsettled.tasks t (List.mem_of_mem_eraseIdx ht) hof⟩
  · refine Or.inr ⟨newest, ?_, hr⟩
    cases hlater : newestOf (isOf key) (c.tasks.drop (i + 1)) with
    | some later =>
      obtain ⟨hwas, hnow, _⟩ := newestOf_later hi hlater (.resave key)
      rw [hnow, ← hwas, hn]
    | none =>
      -- the newest task would be the one that found nothing
      obtain ⟨hwas, _, _⟩ := newestOf_here hi hlater hself hself
      rw [hwas] at hn
      obtain rfl := Option.some.inj hn
      have hsome : (c.inner.get? key).isSome = true := hr
      rw [hgone] at hsome
      cases hsome

theorem run_save (h : c.Sound toVec) {i : Nat} {key : String} {bytes : List UInt8}
    (hi : c.tasks[i]? = some (.save key bytes)) (hturn : c.InTurn i (.save key bytes))
    (hfree : c.TmpFree key) {fs : FileSystem String UInt8}
    (hfs : c.fs.replaceVia 0 (tmpName key) key bytes = some fs) :
    Cache.Sound toVec { c with fs, tasks := c.tasks.eraseIdx i } := by
  intro k
  by_cases hk : k = key
  · subst hk
    refine sound_done hi (by simp) hturn (h k) rfl rfl fun hr => ?_
    have hbytes : c.bytesOf toVec k = some bytes := hr
    show fs.read k = c.bytesOf toVec k
    rw [FileSystem.read_replaceVia hfs, if_pos rfl, hbytes]
  · refine sound_other hi (Ne.symm hk) (h k) rfl (Or.inl rfl) ?_
    show fs.read k = c.fs.read k ∨ (fs.read k = none ∧ _)
    rw [FileSystem.read_replaceVia hfs, if_neg hk]
    by_cases ht : k = tmpName key
    · rw [if_pos ht]
      subst ht
      exact Or.inr ⟨rfl, hfree hk⟩
    · rw [if_neg ht]
      exact Or.inl rfl

theorem run_remove (h : c.Sound toVec) {i : Nat} {key : String}
    (hi : c.tasks[i]? = some (.remove key)) (hturn : c.InTurn i (.remove key)) :
    Cache.Sound toVec { c with fs := c.fs.remove key, tasks := c.tasks.eraseIdx i } := by
  intro k
  by_cases hk : k = key
  · subst hk
    refine sound_done hi (by simp) hturn (h k) rfl rfl fun hr => ?_
    have hgone : c.inner.get? k = none := hr
    show (c.fs.remove k).read k = c.bytesOf toVec k
    rw [FileSystem.read_remove, if_pos rfl, Cache.bytesOf, hgone, Option.bind_none]
  · refine sound_other hi (Ne.symm hk) (h k) rfl (Or.inl rfl) (Or.inl ?_)
    show (c.fs.remove key).read k = c.fs.read k
    rw [FileSystem.read_remove, if_neg hk]

theorem run_resave_some (h : c.Sound toVec) {i : Nat} {key : String}
    (hi : c.tasks[i]? = some (.resave key)) {bytes : List UInt8}
    (hbytes : c.bytesOf toVec key = some bytes) :
    Cache.Sound toVec { c with tasks := c.tasks.set i (.save key bytes) } := by
  intro k
  by_cases hk : k = key
  · subst hk
    exact Or.inr (sound_read hi hbytes (h k))
  · exact sound_other hi (Ne.symm hk) (h k) rfl (Or.inr ⟨.save key bytes, rfl, rfl⟩) (Or.inl rfl)

theorem run_resave_none (h : c.Sound toVec) (hser : ∀ v, (toVec v).isSome = true) {i : Nat}
    {key : String} (hi : c.tasks[i]? = some (.resave key)) (hnone : c.bytesOf toVec key = none) :
    Cache.Sound toVec { c with tasks := c.tasks.eraseIdx i } := by
  have hgone : c.inner.get? key = none := by
    cases hv : c.inner.get? key with
    | none => rfl
    | some v =>
      rw [Cache.bytesOf, hv, Option.bind_some] at hnone
      have hsome := hser v
      rw [hnone] at hsome
      cases hsome
  intro k
  by_cases hk : k = key
  · subst hk
    exact sound_gone hi hgone (h k)
  · exact sound_other hi (Ne.symm hk) (h k) rfl (Or.inl rfl) (Or.inl rfl)

/-! ## Runs -/

theorem run_task_sound (h : c.Sound toVec) (hser : ∀ v, (toVec v).isSome = true) {i : Nat}
    {task : StoreTask} (hi : c.tasks[i]? = some task) (hok : c.MayRun i task)
    (hs : c.runTask toVec i task = some c') : c'.Sound toVec := by
  cases task with
  | save key bytes =>
    obtain ⟨fs, hfs, rfl⟩ := Option.map_eq_some_iff.mp hs
    exact run_save h hi hok.1 hok.2 hfs
  | resave key =>
    cases hb : c.bytesOf toVec key with
    | some bytes =>
      simp only [Cache.runTask, hb] at hs
      obtain rfl := Option.some.inj hs
      exact run_resave_some h hi hb
    | none =>
      simp only [Cache.runTask, hb] at hs
      obtain rfl := Option.some.inj hs
      exact run_resave_none h hser hi hb
  | remove key =>
    obtain rfl := Option.some.inj hs
    exact run_remove h hi hok

theorem cache_step (hser : ∀ v, (toVec v).isSome = true) {e : CacheEvent V} (hok : c.Ordered e)
    (hs : c.step toVec e = some c') (h : c.Sound toVec) : c'.Sound toVec := by
  cases e with
  | insert key value =>
    simp only [Cache.step] at hs
    split at hs
    · obtain rfl := Option.some.inj hs
      exact insert_sound h hser key value
    · cases hs
  | mutate key f =>
    obtain rfl := Option.some.inj hs
    exact mutate_sound h key f
  | remove key =>
    obtain rfl := Option.some.inj hs
    exact remove_sound h key
  | run i =>
    obtain ⟨task, hi, htask⟩ := Option.bind_eq_some_iff.mp hs
    exact run_task_sound h hser hi (hok task hi) htask

/-- **The store follows the memory.** In every run from an empty cache in which
the tasks of each key keep their turn and no save takes the file of another
key, once no task is left the files are the serialised values. -/
theorem stored_when_done (hser : ∀ v, (toVec v).isSome = true) {es : List (CacheEvent V)}
    (h : Reaches (Cache.step toVec) Cache.Ordered (Cache.new V) es c) (hdone : c.tasks = []) :
    c.Stored toVec := by
  have hsound : c.Sound toVec := by
    apply Reaches.invariant (I := fun c => c.Sound toVec) _ h new_cache_sound
    intro c e c' hok hs hsound
    exact cache_step hser hok hs hsound
  intro key
  rcases hsound key with hsettled | ⟨task, hnewest, _⟩
  · exact hsettled.file
  · rw [hdone] at hnewest
    cases hnewest

/-! ## Two insertions of one key -/

/-- What `serde_json` writes for a `bool`. -/
def boolJson (b : Bool) : Option (List UInt8) :=
  some ((if b then "true" else "false").toList.map fun c => UInt8.ofNat c.toNat)

/-- Two insertions and a mutation; the task of the guard reads before the
insertions are saved and saves after them. -/
def savedInTurn : List (CacheEvent Bool) :=
  [.insert "k" true, .insert "k" false, .mutate "k" not, .run 2, .run 0, .run 0, .run 0]

theorem boolJson_isSome (b : Bool) : (boolJson b).isSome = true := rfl

theorem stored_when_done_savedInTurn :
    ((run (Cache.step boolJson) (Cache.new Bool) savedInTurn).getD (Cache.new Bool)).Stored
      boolJson :=
  stored_when_done boolJson_isSome
    (runDecided_reaches Cache.Ordered (by decide +kernel) _) (by decide +kernel)

def savedOutOfTurn : List (CacheEvent Bool) :=
  [.insert "k" true, .insert "k" false, .run 1, .run 0]

/-- The second value is saved first, and its file replaced by the first one. -/
theorem overtaken_insert_not_stored :
    ¬ ∀ es c, Reaches (Cache.step boolJson) anyStep (Cache.new Bool) es c → c.tasks = [] →
      c.Stored boolJson := by
  intro h
  have hrun : (run (Cache.step boolJson) (Cache.new Bool) savedOutOfTurn).isSome = true := by
    decide +kernel
  have hstored := h _ _ (run_getD_reaches hrun (Cache.new Bool)) (by decide +kernel) "k"
  exact absurd hstored (by decide +kernel)

end NacosSdk.Common
