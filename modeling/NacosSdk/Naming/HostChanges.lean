import Mathlib
import NacosSdk.Lib.Separator
import NacosSdk.Naming.Observable

/-!
# What a difference of host lists tells

`ServiceInfoDiff::calculate` against the lists it compares, address by address
and as a whole. Proved here, for every two lists:

* `ipAndPort_iff`: an address tells the ip and the port;
* `freshInstances_perm_iff`, `modifiedInstances_perm_iff`: exactly when the
  three lists of a difference are as they should be;
* `diffLaw_iff`: with them, exactly when the whole difference is, and when a
  snapshot with other hosts is stored;
* `twoClusters_not_law`: an address that is registered in two clusters.
-/

namespace NacosSdk.Naming
open NacosSdk.Common NacosSdk.Lib

/-! ## Addresses -/

theorem not_mem_repr {c : Char} (hc : c.isDigit = false) (n : Nat) : c ∉ (Nat.repr n).toList := by
  rw [Nat.toList_repr]
  intro hm
  rw [Nat.isDigit_of_mem_toDigits (by decide) (by decide) hm] at hc
  cases hc

theorem colon_not_mem_repr (n : Int) : ':' ∉ (Int.repr n).toList := by
  rw [Int.repr_eq_if]
  split
  · exact not_mem_repr rfl _
  · rw [String.toList_append]
    intro hm
    rcases List.mem_append.mp hm with hm | hm
    · simp at hm
    · exact not_mem_repr rfl _ hm

theorem ipAndPort_iff (a b : ServiceInstance) :
    a.ipAndPort = b.ipAndPort ↔ a.ip = b.ip ∧ a.port = b.port := by
  constructor
  · intro h
    have hreversed : ∀ i : ServiceInstance, i.ipAndPort.toList.reverse =
        (Int.repr i.port).toList.reverse ++ ':' :: i.ip.toList.reverse := by
      intro i
      simp [ServiceInstance.ipAndPort, String.toList_append]
    have hlists := congrArg (fun s => s.toList.reverse) h
    simp only [hreversed] at hlists
    -- the last colon stands before the port
    obtain ⟨hport, hip⟩ := Separator.append_inj_of_tail
      (fun hm => colon_not_mem_repr _ (List.mem_reverse.mp hm))
      (fun hm => colon_not_mem_repr _ (List.mem_reverse.mp hm))
      (Separator.tail_cons _ _) (Separator.tail_cons _ _) hlists
    constructor
    · simp only [List.cons.injEq, true_and, List.reverse_inj] at hip
      exact String.toList_inj.mp hip
    · exact Int.repr_injective (String.toList_inj.mp (List.reverse_inj.mp hport))
  · rintro ⟨hip, hport⟩
    unfold ServiceInstance.ipAndPort
    rw [hip, hport]

/-- The ip and the port of a host are those of one of the list. -/
def occurs (host : ServiceInstance) (hosts : List ServiceInstance) : Bool :=
  hosts.any fun other => other.ip = host.ip && other.port = host.port

theorem lastAt_eq_none_iff (hosts : List ServiceInstance) (addr : String) :
    lastAt hosts addr = none ↔ ∀ host ∈ hosts, host.ipAndPort ≠ addr := by
  unfold lastAt
  rw [List.find?_eq_none]
  simp

theorem occurs_iff (host : ServiceInstance) (hosts : List ServiceInstance) :
    occurs host hosts = true ↔ ∃ last, lastAt hosts host.ipAndPort = some last := by
  rw [← Option.ne_none_iff_exists', ne_eq, lastAt_eq_none_iff]
  unfold occurs
  simp only [List.any_eq_true, Bool.and_eq_true, decide_eq_true_eq, not_forall, not_not,
    exists_prop, ipAndPort_iff]

theorem not_occurs_iff (host : ServiceInstance) (hosts : List ServiceInstance) :
    (!occurs host hosts) = true ↔ lastAt hosts host.ipAndPort = none := by
  rw [Bool.not_eq_true', ← Bool.not_eq_true, occurs_iff]
  cases lastAt hosts host.ipAndPort <;> simp

/-! ## The entries of a map of hosts -/

/-- The hosts of the entries that are kept, each the last one of its address. -/
def keptHosts (hosts : List ServiceInstance) (p : String × ServiceInstance → Bool) :
    List ServiceInstance :=
  ((hostsMap hosts).entries.filter p).map (·.2)

theorem mem_keptHosts {hosts : List ServiceInstance} {p : String × ServiceInstance → Bool}
    {host : ServiceInstance} :
    host ∈ keptHosts hosts p ↔
      lastAt hosts host.ipAndPort = some host ∧ p (host.ipAndPort, host) = true := by
  unfold keptHosts
  simp only [List.mem_map, List.mem_filter, Prod.exists, HashMap.mem_entries, hostsMap_lookup]
  constructor
  · rintro ⟨addr, last, ⟨hlast, hp⟩, rfl⟩
    obtain ⟨_, rfl⟩ := lastAt_some hlast
    exact ⟨hlast, hp⟩
  · rintro ⟨hlast, hp⟩
    exact ⟨_, host, ⟨hlast, hp⟩, rfl⟩

theorem keptHosts_nodup (hosts : List ServiceInstance) (p : String × ServiceInstance → Bool) :
    ((keptHosts hosts p).map ServiceInstance.ipAndPort).Nodup := by
  have hkeys : (keptHosts hosts p).map ServiceInstance.ipAndPort =
      ((hostsMap hosts).entries.filter p).map (·.1) := by
    unfold keptHosts
    rw [List.map_map]
    apply List.map_congr_left
    rintro ⟨addr, host⟩ hm
    have hlast := (HashMap.mem_entries _ _ _).mp (List.mem_of_mem_filter hm)
    rw [hostsMap_lookup] at hlast
    exact (lastAt_some hlast).2
  rw [hkeys]
  exact (List.filter_sublist.map _).nodup (HashMap.nodup_keys _)

/-- A list of different keys is a reordering of every list of different keys with
the same members. -/
theorem perm_iff_of_nodup_map {α β : Type _} {f : α → β} {l m : List α}
    (h : (l.map f).Nodup) : l.Perm m ↔ (m.map f).Nodup ∧ ∀ a, a ∈ l ↔ a ∈ m := by
  constructor
  · intro hperm
    exact ⟨(hperm.map f).nodup_iff.mp h, fun a => hperm.mem_iff⟩
  · rintro ⟨hm, hiff⟩
    exact (List.perm_ext_iff_of_nodup (List.Nodup.of_map f h) (List.Nodup.of_map f hm)).mpr hiff

/-! ## The lists of a difference -/

/-- The hosts at addresses that the other list does not have. -/
def freshHosts (hosts otherHosts : List ServiceInstance) : List ServiceInstance :=
  hosts.filter fun host => !occurs host otherHosts

/-- The hosts at addresses of the other list that are none of its instances. -/
def modifiedHosts (oldHosts newHosts : List ServiceInstance) : List ServiceInstance :=
  newHosts.filter fun host =>
    occurs host oldHosts && !oldHosts.any fun oldHost => oldHost.isSameInstance host

theorem newInstances_eq (oldHosts newHosts : List ServiceInstance) :
    (ServiceInfoDiff.calculate oldHosts newHosts).newInstances =
      keptHosts newHosts fun e => ((hostsMap oldHosts).get? e.1).isNone := rfl

theorem removedInstances_eq (oldHosts newHosts : List ServiceInstance) :
    (ServiceInfoDiff.calculate oldHosts newHosts).removedInstances =
      keptHosts oldHosts fun e => ((hostsMap newHosts).get? e.1).isNone := rfl

theorem modifiedInstances_eq (oldHosts newHosts : List ServiceInstance) :
    (ServiceInfoDiff.calculate oldHosts newHosts).modifiedInstances =
      keptHosts newHosts fun e =>
        match (hostsMap oldHosts).get? e.1 with
        | none => false
        | some oldHost => !oldHost.isSameInstance e.2 := rfl

theorem lastAt_isSome {hosts : List ServiceInstance} {host : ServiceInstance} (h : host ∈ hosts) :
    ∃ last, lastAt hosts host.ipAndPort = some last := by
  cases hlast : lastAt hosts host.ipAndPort with
  | none => exact absurd rfl ((lastAt_eq_none_iff _ _).mp hlast host h)
  | some last => exact ⟨last, rfl⟩

theorem freshInstances_perm_iff (hosts otherHosts : List ServiceInstance) :
    (keptHosts hosts fun e => ((hostsMap otherHosts).get? e.1).isNone).Perm
        (freshHosts hosts otherHosts) ↔
      ((freshHosts hosts otherHosts).map ServiceInstance.ipAndPort).Nodup := by
  have hfresh : ∀ host, host ∈ freshHosts hosts otherHosts ↔
      host ∈ hosts ∧ lastAt otherHosts host.ipAndPort = none := by
    intro host
    unfold freshHosts
    rw [List.mem_filter, not_occurs_iff]
  rw [perm_iff_of_nodup_map (keptHosts_nodup _ _)]
  constructor
  · intro h
    exact h.1
  · intro hn
    refine ⟨hn, fun host => ?_⟩
    rw [mem_keptHosts, hfresh, hostsMap_lookup, Option.isNone_iff_eq_none]
    constructor
    · rintro ⟨hlast, hnone⟩
      exact ⟨(lastAt_some hlast).1, hnone⟩
    · rintro ⟨hm, hnone⟩
      obtain ⟨last, hlast⟩ := lastAt_isSome hm
      obtain ⟨hlastm, haddr⟩ := lastAt_some hlast
      have hsame : last = host := List.inj_on_of_nodup_map hn
        ((hfresh last).mpr ⟨hlastm, by rw [haddr]; exact hnone⟩)
        ((hfresh host).mpr ⟨hm, hnone⟩) haddr
      rw [hlast, hsame]
      exact ⟨rfl, hnone⟩

section Modified

variable {oldHosts newHosts : List ServiceInstance}

theorem mem_modifiedHosts (hw : ∀ host ∈ newHosts, host.weight ≠ .nan) {host : ServiceInstance} :
    host ∈ modifiedHosts oldHosts newHosts ↔
      host ∈ newHosts ∧ (∃ last, lastAt oldHosts host.ipAndPort = some last) ∧
        host ∉ oldHosts := by
  unfold modifiedHosts
  rw [List.mem_filter, Bool.and_eq_true, occurs_iff, Bool.not_eq_true', List.any_eq_false]
  constructor
  · rintro ⟨hm, hshared, hnone⟩
    refine ⟨hm, hshared, fun hold => hnone host hold ?_⟩
    exact (isSameInstance_iff _ _).mpr ⟨rfl, hw host hm⟩
  · rintro ⟨hm, hshared, hnot⟩
    refine ⟨hm, hshared, fun oldHost hold hsame => hnot ?_⟩
    rw [← ((isSameInstance_iff _ _).mp hsame).1]
    exact hold

theorem mem_modifiedInstances (hw : ∀ host ∈ newHosts, host.weight ≠ .nan)
    {host : ServiceInstance} :
    host ∈ (ServiceInfoDiff.calculate oldHosts newHosts).modifiedInstances ↔
      lastAt newHosts host.ipAndPort = some host ∧
        ∃ last, lastAt oldHosts host.ipAndPort = some last ∧ last ≠ host := by
  rw [modifiedInstances_eq, mem_keptHosts, hostsMap_lookup]
  apply and_congr_right
  intro hlast
  have hweight := hw host (lastAt_some hlast).1
  cases hold : lastAt oldHosts host.ipAndPort with
  | none => simp
  | some oldHost =>
    simp only [Bool.not_eq_true', Option.some.injEq, exists_eq_left']
    rw [← Bool.not_eq_true, isSameInstance_iff, not_and_or, not_not]
    constructor
    · rintro (hne | hnan) rfl
      · exact hne rfl
      · exact hweight hnan
    · exact Or.inl

/-- Where the two lists end differently at an address, the new list ends with an
instance that the old one does not have. -/
def NewAtLast (oldHosts newHosts : List ServiceInstance) : Prop :=
  ∀ addr oldHost newHost, lastAt oldHosts addr = some oldHost →
    lastAt newHosts addr = some newHost → oldHost ≠ newHost → newHost ∉ oldHosts

theorem modifiedInstances_perm_iff (hw : ∀ host ∈ newHosts, host.weight ≠ .nan) :
    (ServiceInfoDiff.calculate oldHosts newHosts).modifiedInstances.Perm
        (modifiedHosts oldHosts newHosts) ↔
      ((modifiedHosts oldHosts newHosts).map ServiceInstance.ipAndPort).Nodup ∧
        (∀ host ∈ modifiedHosts oldHosts newHosts,
          lastAt newHosts host.ipAndPort = some host) ∧
        NewAtLast oldHosts newHosts := by
  rw [modifiedInstances_eq, perm_iff_of_nodup_map (keptHosts_nodup _ _), ← modifiedInstances_eq]
  apply and_congr_right
  intro _
  constructor
  · intro hiff
    refine ⟨fun host hm => ?_, fun addr oldHost newHost hold hnew hne => ?_⟩
    · exact ((mem_modifiedInstances hw).mp ((hiff host).mpr hm)).1
    · obtain ⟨_, rfl⟩ := lastAt_some hnew
      have hmodified := (mem_modifiedInstances hw).mpr ⟨hnew, oldHost, hold, hne⟩
      exact ((mem_modifiedHosts hw).mp ((hiff newHost).mp hmodified)).2.2
  · rintro ⟨hlasts, hnewAtLast⟩ host
    constructor
    · intro hm
      obtain ⟨hnew, oldHost, hold, hne⟩ := (mem_modifiedInstances hw).mp hm
      exact (mem_modifiedHosts hw).mpr ⟨(lastAt_some hnew).1, ⟨oldHost, hold⟩,
        hnewAtLast _ oldHost host hold hnew hne⟩
    · intro hm
      obtain ⟨_, ⟨oldHost, hold⟩, hnot⟩ := (mem_modifiedHosts hw).mp hm
      refine (mem_modifiedInstances hw).mpr ⟨hlasts host hm, oldHost, hold, ?_⟩
      rintro rfl
      exact hnot (lastAt_some hold).1

/-- Reorderings agree by address where `NewAtLast` holds. -/
theorem sameByAddress_of_newAtLast (hw : ∀ host ∈ newHosts, host.weight ≠ .nan)
    (hlast : NewAtLast oldHosts newHosts) (h : oldHosts.Perm newHosts) :
    SameByAddress oldHosts newHosts := by
  constructor
  · intro addr host hnew
    obtain ⟨hm, rfl⟩ := lastAt_some hnew
    have hmold := h.mem_iff.mpr hm
    obtain ⟨oldHost, hold⟩ := lastAt_isSome hmold
    have hsame : oldHost = host := by
      by_contra hne
      exact hlast _ oldHost host hold hnew hne hmold
    refine ⟨oldHost, hold, (isSameInstance_iff _ _).mpr ⟨hsame, ?_⟩⟩
    rw [hsame]
    exact hw host hm
  · intro addr host hold
    obtain ⟨hm, rfl⟩ := lastAt_some hold
    obtain ⟨last, hnew⟩ := lastAt_isSome (h.mem_iff.mp hm)
    rw [hnew]
    simp

end Modified

/-! ## The law -/

/-- The difference tells exactly what is new, removed and modified, and that
there is nothing of it exactly for a reordering. -/
structure DiffLaw (oldHosts newHosts : List ServiceInstance) : Prop where
  changed : (ServiceInfoDiff.calculate oldHosts newHosts).changed = false ↔
    oldHosts.Perm newHosts
  newInstances : (ServiceInfoDiff.calculate oldHosts newHosts).newInstances.Perm
    (freshHosts newHosts oldHosts)
  removedInstances : (ServiceInfoDiff.calculate oldHosts newHosts).removedInstances.Perm
    (freshHosts oldHosts newHosts)
  modifiedInstances : (ServiceInfoDiff.calculate oldHosts newHosts).modifiedInstances.Perm
    (modifiedHosts oldHosts newHosts)

/-- No address is repeated in a way that the maps cannot tell. -/
structure Distinguishable (oldHosts newHosts : List ServiceInstance) : Prop where
  newOnce : ((freshHosts newHosts oldHosts).map ServiceInstance.ipAndPort).Nodup
  removedOnce : ((freshHosts oldHosts newHosts).map ServiceInstance.ipAndPort).Nodup
  modifiedOnce : ((modifiedHosts oldHosts newHosts).map ServiceInstance.ipAndPort).Nodup
  modifiedLast : ∀ host ∈ modifiedHosts oldHosts newHosts,
    lastAt newHosts host.ipAndPort = some host
  newAtLast : NewAtLast oldHosts newHosts
  nothingHidden : SameByAddress oldHosts newHosts → oldHosts.Perm newHosts

theorem diffLaw_iff_distinguishable {oldHosts newHosts : List ServiceInstance}
    (hw : ∀ host ∈ newHosts, host.weight ≠ .nan) :
    DiffLaw oldHosts newHosts ↔ Distinguishable oldHosts newHosts := by
  constructor
  · intro h
    have hnew := h.newInstances
    have hremoved := h.removedInstances
    rw [newInstances_eq, freshInstances_perm_iff] at hnew
    rw [removedInstances_eq, freshInstances_perm_iff] at hremoved
    obtain ⟨honce, hlast, hnewAtLast⟩ := (modifiedInstances_perm_iff hw).mp h.modifiedInstances
    refine ⟨hnew, hremoved, honce, hlast, hnewAtLast, fun hsame => ?_⟩
    exact h.changed.mp ((calculate_unchanged_iff _ _).mpr hsame)
  · intro h
    constructor
    · rw [calculate_unchanged_iff]
      exact ⟨h.nothingHidden, sameByAddress_of_newAtLast hw h.newAtLast⟩
    · rw [newInstances_eq, freshInstances_perm_iff]
      exact h.newOnce
    · rw [removedInstances_eq, freshInstances_perm_iff]
      exact h.removedOnce
    · exact (modifiedInstances_perm_iff hw).mpr ⟨h.modifiedOnce, h.modifiedLast, h.newAtLast⟩

/-- Lists that repeat no address can be told apart. -/
theorem distinguishable_of_nodup {oldHosts newHosts : List ServiceInstance}
    (ho : (oldHosts.map ServiceInstance.ipAndPort).Nodup)
    (hn : (newHosts.map ServiceInstance.ipAndPort).Nodup) :
    Distinguishable oldHosts newHosts where
  newOnce := (List.filter_sublist.map _).nodup hn
  removedOnce := (List.filter_sublist.map _).nodup ho
  modifiedOnce := (List.filter_sublist.map _).nodup hn
  modifiedLast := fun _ hm => lastAt_of_mem hn (List.mem_of_mem_filter hm)
  newAtLast := by
    intro addr oldHost newHost hold hnew hne hm
    obtain ⟨_, rfl⟩ := lastAt_some hnew
    rw [lastAt_of_mem ho hm] at hold
    exact hne (Option.some.inj hold).symm
  nothingHidden := perm_of_sameByAddress ho hn

/-! ## Snapshots -/

/-- The snapshot is no older than the cached one. -/
def NotOutdated (cache : HashMap ServiceInfo) (info : ServiceInfo) : Prop :=
  ∀ old, cache.get? info.key = some old → ¬ info.lastRefTime < old.lastRefTime

/-- The hosts are no reordering of the cached ones. -/
def HostsDiffer (cache : HashMap ServiceInfo) (info : ServiceInfo)
    (newHosts : List ServiceInstance) : Prop :=
  ∀ old oldHosts, cache.get? info.key = some old → old.hosts = some oldHosts →
    ¬ oldHosts.Perm newHosts

/-- The snapshot is inserted and sent to the observer when its hosts differ. -/
def StoredLaw (p : Bool) (cache : HashMap ServiceInfo) (info : ServiceInfo)
    (newHosts : List ServiceInstance) : Prop :=
  HostsDiffer cache info newHosts →
    processServiceInfo p cache info = (true, cache.insert info.key info)

theorem isChanged_unknown {old info : ServiceInfo} {newHosts : List ServiceInstance}
    (hnew : info.hosts = some newHosts) (hold : old.hosts = none)
    (htime : ¬ info.lastRefTime < old.lastRefTime) :
    isChangedServiceInfo (some old) info = true := by
  simp [isChangedServiceInfo, isOutdatedData, hnew, hold, htime]

theorem storedLaw_iff {p : Bool} {cache : HashMap ServiceInfo} {info : ServiceInfo}
    {newHosts : List ServiceInstance} (hconsidered : considered p info = true)
    (hnew : info.hosts = some newHosts) (htime : NotOutdated cache info) :
    StoredLaw p cache info newHosts ↔
      ∀ old oldHosts, cache.get? info.key = some old → old.hosts = some oldHosts →
        SameByAddress oldHosts newHosts → oldHosts.Perm newHosts := by
  have hstored : isChangedServiceInfo (cache.get? info.key) info = true →
      processServiceInfo p cache info = (true, cache.insert info.key info) := by
    intro hchanged
    rw [processServiceInfo_considered hconsidered, hchanged]
    rfl
  constructor
  · intro h old oldHosts hcached hold hsame
    by_contra hdiffer
    have hall : HostsDiffer cache info newHosts := by
      intro old' oldHosts' hcached' hold'
      rw [hcached] at hcached'
      cases hcached'
      rw [hold] at hold'
      cases hold'
      exact hdiffer
    have hprocessed := h hall
    rw [processServiceInfo_considered hconsidered, hcached,
      (isChanged_false_iff hold hnew).mpr (Or.inr hsame)] at hprocessed
    cases hprocessed
  · intro h hdiffer
    apply hstored
    cases hcached : cache.get? info.key with
    | none => rfl
    | some old =>
      cases hold : old.hosts with
      | none => exact isChanged_unknown hnew hold (htime old hcached)
      | some oldHosts =>
        by_contra hunchanged
        rw [Bool.not_eq_true, isChanged_false_iff hold hnew] at hunchanged
        rcases hunchanged with hlt | hsame
        · exact htime old hcached hlt
        · exact hdiffer old oldHosts hcached hold (h old oldHosts hcached hold hsame)

/-- **Differences.** The difference of two lists whose weights are numbers is as
it should be exactly when no address is repeated in a way that the maps cannot
tell, and a snapshot is stored whenever its hosts differ exactly when no cached
list of other hosts agrees with it by address. -/
theorem diffLaw_iff (oldHosts newHosts : List ServiceInstance)
    (hw : ∀ host ∈ newHosts, host.weight ≠ .nan) :
    (DiffLaw oldHosts newHosts ↔ Distinguishable oldHosts newHosts) ∧
    ∀ p cache info, considered p info = true → info.hosts = some newHosts →
      NotOutdated cache info →
        (StoredLaw p cache info newHosts ↔
          ∀ old cachedHosts, cache.get? info.key = some old → old.hosts = some cachedHosts →
            SameByAddress cachedHosts newHosts → cachedHosts.Perm newHosts) :=
  ⟨diffLaw_iff_distinguishable hw,
    fun _ _ _ hconsidered hnew htime => storedLaw_iff hconsidered hnew htime⟩

/-! ## An address in two clusters -/

def clusterHost (cluster : String) (healthy : Bool) : ServiceInstance :=
  { hostAt "10.0.0.1" 8080 with clusterName := some cluster, healthy }

/-- The instance of the first cluster has become unhealthy. -/
def twoClusters : List ServiceInstance × List ServiceInstance :=
  ([clusterHost "a" true, clusterHost "b" true], [clusterHost "a" false, clusterHost "b" true])

/-- A cache that holds one snapshot of the service. -/
def cachedOrders (hosts : List ServiceInstance) : HashMap ServiceInfo :=
  handleAll false ∅ [ordersInfo 1 hosts]

theorem cachedOrders_lookup (hosts newHosts : List ServiceInstance) (old : ServiceInfo)
    (h : (cachedOrders hosts).get? (ordersInfo 2 newHosts).key = some old) :
    old = ordersInfo 1 hosts := by
  have hfound : (cachedOrders hosts).get? (ordersInfo 2 newHosts).key =
      some (ordersInfo 1 hosts) := HashMap.get?_insert_self _ _ _
  rw [hfound] at h
  exact (Option.some.inj h).symm

theorem diffLaw_iff_twoHosts :
    DiffLaw [hostAt "10.0.0.1" 8080] [hostAt "10.0.0.2" 8080] ∧
      StoredLaw false (cachedOrders [hostAt "10.0.0.1" 8080])
        (ordersInfo 2 [hostAt "10.0.0.2" 8080]) [hostAt "10.0.0.2" 8080] := by
  have hone : ∀ ip : String, ([hostAt ip 8080].map ServiceInstance.ipAndPort).Nodup :=
    fun _ => List.nodup_singleton _
  obtain ⟨hlaw, hstored⟩ := diffLaw_iff [hostAt "10.0.0.1" 8080] [hostAt "10.0.0.2" 8080]
    (by decide)
  constructor
  · exact hlaw.mpr (distinguishable_of_nodup (hone _) (hone _))
  · refine (hstored _ _ _ (by decide) rfl fun old hcached => ?_).mpr
      fun old oldHosts hcached hold hsame => ?_
    · rw [cachedOrders_lookup _ _ _ hcached]
      decide
    · rw [cachedOrders_lookup _ _ _ hcached] at hold
      cases hold
      exact perm_of_sameByAddress (hone _) (hone _) hsame

/-- The map of the new hosts holds the instance of the second cluster only. -/
theorem twoClusters_not_law :
    (ServiceInfoDiff.calculate twoClusters.1 twoClusters.2).changed = false ∧
      ¬ DiffLaw twoClusters.1 twoClusters.2 ∧
      ¬ StoredLaw false (cachedOrders twoClusters.1) (ordersInfo 2 twoClusters.2)
        twoClusters.2 := by
  have hunchanged : (ServiceInfoDiff.calculate twoClusters.1 twoClusters.2).changed = false := by
    decide +kernel
  have hother : ¬ twoClusters.1.Perm twoClusters.2 := by decide +kernel
  refine ⟨hunchanged, fun h => hother (h.changed.mp hunchanged), fun h => ?_⟩
  have hstored := h fun old oldHosts hcached hold => by
    rw [cachedOrders_lookup _ _ _ hcached] at hold
    cases hold
    exact hother
  have hrefused : (processServiceInfo false (cachedOrders twoClusters.1)
      (ordersInfo 2 twoClusters.2)).1 = false := by decide +kernel
  rw [hstored] at hrefused
  cases hrefused

end NacosSdk.Naming
