import NacosSdk.Lib.Pending
import NacosSdk.Lib.SwapRemove
import Mathlib.Data.List.Nodup

/-!
# The cached data of one config

`CacheData` of `config/cache.rs` with its listeners and filters. A listener is
the address of its `Arc`; a filter is the pair of functions that its `filter`
method computes on a request and on a response. Proved here, for every entry:

* `mem_add`, `mem_remove`: the listeners after a call;
* `dispatchNotify_wrappers`, `dispatchNotify_notified`: a dispatch gives every
  listener the md5 of the entry and notifies those that had another one.
-/

namespace NacosSdk.Config
open NacosSdk.Lib NacosSdk.Lib.Pending

/-! ## Filters -/

structure ConfigReq where
  dataId : String
  group : String
  namespace_ : String
  content : String
  encryptedDataKey : String
  deriving DecidableEq

structure ConfigResp where
  dataId : String
  group : String
  namespace_ : String
  content : String
  encryptedDataKey : String
  deriving DecidableEq

/-- `api::config::ConfigResponse`, what the user gets. -/
structure ConfigResponse where
  dataId : String
  group : String
  namespace_ : String
  content : String
  contentType : String
  md5 : String
  deriving DecidableEq

structure ConfigFilter where
  filterReq : ConfigReq → ConfigReq
  filterResp : ConfigResp → ConfigResp

/-- Every filter in turn. -/
def applyFilters (filters : List ConfigFilter) (confResp : ConfigResp) : ConfigResp :=
  filters.foldl (fun resp configFilter => configFilter.filterResp resp) confResp

/-! ## Listeners -/

/-- The address of an `Arc<dyn ConfigChangeListener>`. -/
abbrev ConfigListener := Nat

structure ListenerWrapper where
  lastMd5 : String
  listener : ConfigListener
  deriving DecidableEq

def ListenerWrapper.new (listener : ConfigListener) : ListenerWrapper where
  lastMd5 := ""
  listener := listener

/-- The listeners of an entry; no listener is in the list twice. -/
structure ListenerList where
  wrappers : List ListenerWrapper
  nodup : (wrappers.map ListenerWrapper.listener).Nodup

def ListenerList.empty : ListenerList := ⟨[], List.nodup_nil⟩

def ListenerList.registered (list : ListenerList) : List ConfigListener :=
  list.wrappers.map ListenerWrapper.listener

def indexOfListener (listenWarpVec : List ListenerWrapper) (listener : ConfigListener) :
    Option Nat :=
  listenWarpVec.findIdx? fun listenWarp => listenWarp.listener == listener

theorem indexOfListener_none {wrappers : List ListenerWrapper} {listener : ConfigListener} :
    indexOfListener wrappers listener = none ↔
      listener ∉ wrappers.map ListenerWrapper.listener := by
  unfold indexOfListener
  rw [List.findIdx?_eq_none_iff]
  simp only [beq_eq_false_iff_ne, ne_eq, List.mem_map, not_exists, not_and]

theorem indexOfListener_some {wrappers : List ListenerWrapper} {listener : ConfigListener}
    {i : Nat} (h : indexOfListener wrappers listener = some i) :
    ∃ wrapper, wrappers[i]? = some wrapper ∧ wrapper.listener = listener := by
  unfold indexOfListener at h
  rw [List.findIdx?_eq_some_iff_getElem] at h
  obtain ⟨hi, heq, _⟩ := h
  exact ⟨wrappers[i], List.getElem?_eq_getElem hi, by simpa using heq⟩

/-- `add_listener` on the list. -/
def ListenerList.add (list : ListenerList) (listener : ConfigListener) : ListenerList :=
  match h : indexOfListener list.wrappers listener with
  | some _ => list
  | none =>
    ⟨list.wrappers ++ [ListenerWrapper.new listener], by
      have hnot := indexOfListener_none.mp h
      rw [List.map_append]
      refine list.nodup.append (List.nodup_singleton _) ?_
      intro l hl hs
      cases List.mem_singleton.mp hs
      exact hnot hl⟩

theorem swapRemove_nodup {wrappers : List ListenerWrapper} {i : Nat}
    (h : (wrappers.map ListenerWrapper.listener).Nodup) (hi : i < wrappers.length) :
    ((swapRemove wrappers i).map ListenerWrapper.listener).Nodup := by
  have hp := (swapRemove_perm hi).map ListenerWrapper.listener
  rw [hp.nodup_iff]
  exact h.sublist ((List.eraseIdx_sublist wrappers i).map _)

/-- `remove_listener` on the list. -/
def ListenerList.remove (list : ListenerList) (listener : ConfigListener) : ListenerList :=
  match h : indexOfListener list.wrappers listener with
  | some idx =>
    ⟨swapRemove list.wrappers idx, by
      obtain ⟨_, hw, _⟩ := indexOfListener_some h
      exact swapRemove_nodup list.nodup (List.getElem?_eq_some_iff.mp hw).1⟩
  | none => list

theorem add_wrappers (list : ListenerList) (listener : ConfigListener) :
    (list.add listener).wrappers =
      if listener ∈ list.registered then list.wrappers
      else list.wrappers ++ [ListenerWrapper.new listener] := by
  unfold ListenerList.add
  split
  · next i h =>
    have hmem : listener ∈ list.registered := by
      by_contra hnot
      rw [indexOfListener_none.mpr hnot] at h
      cases h
    rw [if_pos hmem]
  · next h =>
    have hnot : listener ∉ list.registered := indexOfListener_none.mp h
    rw [if_neg hnot]

theorem mem_add (list : ListenerList) (listener other : ConfigListener) :
    other ∈ (list.add listener).registered ↔ other = listener ∨ other ∈ list.registered := by
  unfold ListenerList.registered
  rw [add_wrappers]
  split
  · next hmem =>
    constructor
    · exact Or.inr
    · rintro (rfl | h)
      · exact hmem
      · exact h
  · simp [ListenerWrapper.new, or_comm]

/-- Only the removed listener goes, and the others keep their md5. -/
theorem mem_remove {list : ListenerList} {listener : ConfigListener} {wrapper : ListenerWrapper}
    (h : wrapper ∈ list.wrappers) (hne : wrapper.listener ≠ listener) :
    wrapper ∈ (list.remove listener).wrappers := by
  unfold ListenerList.remove
  split
  · next idx hidx =>
    obtain ⟨removed, hr, hl⟩ := indexOfListener_some hidx
    have hlt := (List.getElem?_eq_some_iff.mp hr).1
    rw [(swapRemove_perm hlt).mem_iff]
    rcases mem_eraseIdx_or hr h with rfl | hm
    · exact absurd hl hne
    · exact hm
  · exact h

/-- A removal adds nothing. -/
theorem mem_of_mem_remove {list : ListenerList} {listener : ConfigListener}
    {wrapper : ListenerWrapper} (h : wrapper ∈ (list.remove listener).wrappers) :
    wrapper ∈ list.wrappers := by
  unfold ListenerList.remove at h
  split at h
  · next idx hidx =>
    obtain ⟨_, hr, _⟩ := indexOfListener_some hidx
    rw [(swapRemove_perm (List.getElem?_eq_some_iff.mp hr).1).mem_iff] at h
    exact List.mem_of_mem_eraseIdx h
  · exact h

/-! ## Entries -/

structure CacheData where
  dataId : String
  group : String
  namespace_ : String
  contentType : String
  content : String
  md5 : String
  encryptedDataKey : String
  lastModified : Int
  initializing : Bool
  listeners : ListenerList
  configFilters : List ConfigFilter

/-- `CacheData::new`. -/
def CacheData.new (configFilters : List ConfigFilter) (dataId group namespace_ : String) :
    CacheData where
  dataId := dataId
  group := group
  namespace_ := namespace_
  contentType := "text"
  content := ""
  md5 := ""
  encryptedDataKey := ""
  lastModified := 0
  initializing := true
  listeners := ListenerList.empty
  configFilters := configFilters

/-- What an entry is after it was written to disk and read again: the fields
that serde skips come back as their defaults. -/
def CacheData.reloaded (d : CacheData) : CacheData :=
  { d with initializing := false, listeners := ListenerList.empty, configFilters := [] }

def CacheData.addListener (d : CacheData) (listener : ConfigListener) : CacheData :=
  { d with listeners := d.listeners.add listener }

def CacheData.removeListener (d : CacheData) (listener : ConfigListener) : CacheData :=
  { d with listeners := d.listeners.remove listener }

/-- `RespSnapshot`. -/
structure RespSnapshot where
  filters : List ConfigFilter
  confResp : ConfigResp
  contentType : String
  md5 : String

def CacheData.respSnapshot (d : CacheData) : RespSnapshot where
  filters := d.configFilters
  confResp := ⟨d.dataId, d.group, d.namespace_, d.content, d.encryptedDataKey⟩
  contentType := d.contentType
  md5 := d.md5

def filteredResponse (snapshot : RespSnapshot) : ConfigResponse :=
  let confResp := applyFilters snapshot.filters snapshot.confResp
  { dataId := confResp.dataId
    group := confResp.group
    namespace_ := confResp.namespace_
    content := confResp.content
    contentType := snapshot.contentType
    md5 := snapshot.md5 }

/-- One listener of a dispatch: it gets the md5 of the entry. -/
def ListenerWrapper.seen (wrapper : ListenerWrapper) (md5 : String) : ListenerWrapper :=
  if wrapper.lastMd5 = md5 then wrapper else { wrapper with lastMd5 := md5 }

theorem seen_listener (wrapper : ListenerWrapper) (md5 : String) :
    (wrapper.seen md5).listener = wrapper.listener := by
  unfold ListenerWrapper.seen
  split <;> rfl

theorem seen_lastMd5 (wrapper : ListenerWrapper) (md5 : String) :
    (wrapper.seen md5).lastMd5 = md5 := by
  unfold ListenerWrapper.seen
  split
  · assumption
  · rfl

def ListenerList.seen (list : ListenerList) (md5 : String) : ListenerList :=
  ⟨list.wrappers.map fun wrapper => wrapper.seen md5, by
    rw [List.map_map]
    have hsame : (ListenerWrapper.listener ∘ fun wrapper => wrapper.seen md5) =
        ListenerWrapper.listener := funext fun wrapper => seen_listener wrapper md5
    rw [hsame]
    exact list.nodup⟩

theorem seen_registered (list : ListenerList) (md5 : String) :
    (list.seen md5).registered = list.registered := by
  simp only [ListenerList.registered, ListenerList.seen, List.map_map]
  exact List.map_congr_left fun wrapper _ => seen_listener wrapper md5

/-- `dispatch_notify`: the entry and the tasks that are spawned. -/
def CacheData.dispatchNotify (d : CacheData) (configResp : ConfigResponse) :
    CacheData × List (ConfigListener × ConfigResponse) :=
  ({ d with listeners := d.listeners.seen d.md5 },
    (d.listeners.wrappers.filter fun wrapper => wrapper.lastMd5 ≠ d.md5).map
      fun wrapper => (wrapper.listener, configResp))

theorem dispatchNotify_wrappers (d : CacheData) (configResp : ConfigResponse) :
    ∀ wrapper ∈ (d.dispatchNotify configResp).1.listeners.wrappers, wrapper.lastMd5 = d.md5 := by
  intro wrapper hm
  obtain ⟨before, _, rfl⟩ := List.mem_map.mp hm
  exact seen_lastMd5 before d.md5

/-- A listener is notified exactly when its md5 was another one. -/
theorem dispatchNotify_notified {d : CacheData} (configResp : ConfigResponse)
    {wrapper : ListenerWrapper} (h : wrapper ∈ d.listeners.wrappers) :
    wrapper.listener ∈ (d.dispatchNotify configResp).2.map (·.1) ↔ wrapper.lastMd5 ≠ d.md5 := by
  simp only [CacheData.dispatchNotify, List.map_map, List.mem_map, List.mem_filter,
    Function.comp_apply]
  constructor
  · rintro ⟨other, ⟨ho, hmd5⟩, heq⟩
    have hsame : other = wrapper := List.inj_on_of_nodup_map d.listeners.nodup ho h heq
    rw [← hsame]
    simpa using hmd5
  · intro hmd5
    exact ⟨wrapper, ⟨h, by simpa using hmd5⟩, rfl⟩

end NacosSdk.Config
