import NacosSdk.Common.HashMap
import NacosSdk.Naming.ServiceInfo

/-!
# Differences between two host lists

`ServiceInfoDiff::calculate` collapses both lists into maps keyed by
`ip:port`, a later host replacing an earlier one of the same address, and
compares the maps. Proved here, for every two lists:

* `hostsMap_lookup`: the map holds the last host of each address;
* `calculate_unchanged_iff`: `changed` is false exactly when the two lists
  agree by address (`SameByAddress`);
* `perm_of_sameByAddress`: lists that repeat no address and agree by address
  are reorderings of each other, and `sameByAddress_of_perm` for the converse
  when the weights are numbers.
-/

namespace NacosSdk.Naming
open NacosSdk.Common

structure ServiceInfoDiff where
  newInstances : List ServiceInstance
  removedInstances : List ServiceInstance
  modifiedInstances : List ServiceInstance
  changed : Bool

/-- `hosts.iter().map(|host| (host.ip_and_port(), host)).collect()`. -/
def hostsMap (hosts : List ServiceInstance) : HashMap ServiceInstance :=
  hosts.foldl (fun m host => m.insert host.ipAndPort host) ∅

def ServiceInfoDiff.calculate (oldHosts newHosts : List ServiceInstance) : ServiceInfoDiff :=
  let oldHostsMap := hostsMap oldHosts
  let newHostsMap := hostsMap newHosts
  let newInstances := (newHostsMap.entries.filter fun e => (oldHostsMap.get? e.1).isNone).map (·.2)
  let modifiedInstances := (newHostsMap.entries.filter fun e =>
    match oldHostsMap.get? e.1 with
    | none => false
    | some oldHost => !oldHost.isSameInstance e.2).map (·.2)
  let removedInstances :=
    (oldHostsMap.entries.filter fun e => (newHostsMap.get? e.1).isNone).map (·.2)
  { newInstances, removedInstances, modifiedInstances
    changed := !newInstances.isEmpty || !removedInstances.isEmpty || !modifiedInstances.isEmpty }

/-- `is_outdated_data`. -/
def isOutdatedData (oldService newService : ServiceInfo) : Bool :=
  oldService.lastRefTime > newService.lastRefTime

/-! ## The maps -/

/-- The last host listed under an address. -/
def lastAt (hosts : List ServiceInstance) (addr : String) : Option ServiceInstance :=
  hosts.reverse.find? fun host => host.ipAndPort = addr

theorem lastAt_append (hosts : List ServiceInstance) (host : ServiceInstance) (addr : String) :
    lastAt (hosts ++ [host]) addr =
      if host.ipAndPort = addr then some host else lastAt hosts addr := by
  simp only [lastAt, List.reverse_append, List.reverse_cons, List.reverse_nil, List.nil_append,
    List.cons_append, List.find?_cons]
  by_cases h : host.ipAndPort = addr <;> simp [h]

theorem hostsMap_lookup (hosts : List ServiceInstance) (addr : String) :
    (hostsMap hosts).get? addr = lastAt hosts addr := by
  induction hosts using List.reverseRecOn with
  | nil => rfl
  | append_singleton hosts host ih =>
    have hm : hostsMap (hosts ++ [host]) = (hostsMap hosts).insert host.ipAndPort host := by
      simp [hostsMap]
    rw [hm, lastAt_append]
    by_cases h : host.ipAndPort = addr
    · subst h
      simp
    · rw [HashMap.get?_insert_ne _ _ (Ne.symm h), ih, if_neg h]

theorem lastAt_some {hosts : List ServiceInstance} {addr : String} {host : ServiceInstance}
    (h : lastAt hosts addr = some host) : host ∈ hosts ∧ host.ipAndPort = addr := by
  have hp := List.find?_some h
  have hm := List.mem_of_find?_eq_some h
  exact ⟨List.mem_reverse.mp hm, by simpa using hp⟩

/-- Without repeated addresses every host is the last one of its address. -/
theorem lastAt_of_mem {hosts : List ServiceInstance} {host : ServiceInstance}
    (hn : (hosts.map ServiceInstance.ipAndPort).Nodup) (h : host ∈ hosts) :
    lastAt hosts host.ipAndPort = some host := by
  induction hosts using List.reverseRecOn with
  | nil => simp at h
  | append_singleton hosts last ih =>
    rw [lastAt_append]
    simp only [List.map_append, List.map_cons, List.map_nil, List.nodup_append, List.mem_map,
      List.mem_singleton] at hn
    rcases List.mem_append.mp h with hm | hm
    · have hne : last.ipAndPort ≠ host.ipAndPort := by
        intro he
        exact hn.2.2 _ ⟨host, hm, rfl⟩ _ rfl he.symm
      rw [if_neg hne]
      exact ih hn.1 hm
    · rw [List.mem_singleton.mp hm, if_pos rfl]

/-! ## Agreement by address -/

/-- The two lists end with the same instance at every address. -/
def SameByAddress (oldHosts newHosts : List ServiceInstance) : Prop :=
  (∀ addr host, lastAt newHosts addr = some host →
    ∃ oldHost, lastAt oldHosts addr = some oldHost ∧ oldHost.isSameInstance host = true) ∧
  ∀ addr host, lastAt oldHosts addr = some host → lastAt newHosts addr ≠ none

theorem calculate_unchanged_iff (oldHosts newHosts : List ServiceInstance) :
    (ServiceInfoDiff.calculate oldHosts newHosts).changed = false ↔
      SameByAddress oldHosts newHosts := by
  simp only [ServiceInfoDiff.calculate, Bool.or_eq_false_iff, Bool.not_eq_false',
    List.isEmpty_iff, List.map_eq_nil_iff, List.filter_eq_nil_iff, Prod.forall,
    HashMap.mem_entries, hostsMap_lookup, Option.isNone_iff_eq_none]
  constructor
  · rintro ⟨⟨hnew, hold⟩, hmod⟩
    refine ⟨fun addr host hh => ?_, fun addr host hh => hold addr host hh⟩
    cases ho : lastAt oldHosts addr with
    | none => exact absurd ho (hnew addr host hh)
    | some oldHost =>
      have := hmod addr host hh
      simp only [ho] at this
      exact ⟨oldHost, rfl, by simpa using this⟩
  · rintro ⟨hnew, hold⟩
    refine ⟨⟨fun addr host hh => ?_, fun addr host hh => hold addr host hh⟩,
      fun addr host hh => ?_⟩
    · obtain ⟨oldHost, ho, _⟩ := hnew addr host hh
      simp [ho]
    · obtain ⟨oldHost, ho, hs⟩ := hnew addr host hh
      simp [ho, hs]

theorem perm_of_sameByAddress {oldHosts newHosts : List ServiceInstance}
    (ho : (oldHosts.map ServiceInstance.ipAndPort).Nodup)
    (hn : (newHosts.map ServiceInstance.ipAndPort).Nodup)
    (h : SameByAddress oldHosts newHosts) : oldHosts.Perm newHosts := by
  rw [List.perm_ext_iff_of_nodup (List.Nodup.of_map _ ho) (List.Nodup.of_map _ hn)]
  intro host
  constructor
  · intro hm
    have hl := lastAt_of_mem ho hm
    obtain ⟨newHost, hnew⟩ := Option.ne_none_iff_exists'.mp (h.2 _ host hl)
    obtain ⟨oldHost, hold, hs⟩ := h.1 _ newHost hnew
    rw [hl] at hold
    cases hold
    rw [((isSameInstance_iff _ _).mp hs).1]
    exact (lastAt_some hnew).1
  · intro hm
    obtain ⟨oldHost, hold, hs⟩ := h.1 _ host (lastAt_of_mem hn hm)
    rw [← ((isSameInstance_iff _ _).mp hs).1]
    exact (lastAt_some hold).1

theorem sameByAddress_of_perm {oldHosts newHosts : List ServiceInstance}
    (hn : (newHosts.map ServiceInstance.ipAndPort).Nodup)
    (hw : ∀ host ∈ newHosts, host.weight ≠ .nan) (h : oldHosts.Perm newHosts) :
    SameByAddress oldHosts newHosts := by
  have ho : (oldHosts.map ServiceInstance.ipAndPort).Nodup :=
    (h.map ServiceInstance.ipAndPort).nodup_iff.mpr hn
  constructor
  · intro addr host hh
    obtain ⟨hm, rfl⟩ := lastAt_some hh
    exact ⟨host, lastAt_of_mem ho (h.mem_iff.mpr hm),
      (isSameInstance_iff _ _).mpr ⟨rfl, hw host hm⟩⟩
  · intro addr host hh
    obtain ⟨hm, rfl⟩ := lastAt_some hh
    simp [lastAt_of_mem hn (h.mem_iff.mp hm)]

end NacosSdk.Naming
