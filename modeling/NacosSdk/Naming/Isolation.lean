import NacosSdk.Common.Error
import NacosSdk.Lib.WordSplit
import NacosSdk.Naming.Observable
import NacosSdk.Naming.Observer

/-!
# Services apart

What one service emits, seen from another one. Two services meet only in the key
that the cache and the registry of the observer use. Proved here, for every
state of both:

* `isolated_iff_key`: services are isolated exactly when their keys differ;
* `key_eq_iff`: when the keys of different services are equal;
* `isolated_iff`: with them, exactly which services are isolated;
* `atSign_shared`: a group that ends with `@` and a service that starts with it.
-/

namespace NacosSdk.Naming
open NacosSdk.Common NacosSdk.Lib.WordSplit

/-! ## Keys -/

theorem not_infix_of_containsSeparator {s : String} (h : containsSeparator s = false) :
    ¬ serviceInfoSeparator.toList <:+: s.toList := of_decide_eq_false h

theorem key_toList {serviceName groupName : String} (hgroup : groupName ≠ "")
    (hservice : containsSeparator serviceName = false) :
    (getKeyWithoutClusters serviceName groupName).toList =
      groupName.toList ++ serviceInfoSeparator.toList ++ serviceName.toList := by
  unfold getKeyWithoutClusters getGroupedServiceName
  rw [if_pos ⟨hgroup, hservice⟩]
  simp [String.toList_append]

/-- The group has an `@` more at its end, which the other service has at its start. -/
def AtShift (service1 group1 service2 group2 : String) : Prop :=
  group1 = group2 ++ "@" ∧ service2 = "@" ++ service1

instance (service1 group1 service2 group2 : String) :
    Decidable (AtShift service1 group1 service2 group2) :=
  inferInstanceAs (Decidable (group1 = group2 ++ "@" ∧ service2 = "@" ++ service1))

/-- A separator that overlaps another one shares a single `@` with it. -/
theorem at_of_overlap {u v r s : List Char} (hu : u ≠ []) (hv : v ≠ [])
    (hword : serviceInfoSeparator.toList = u ++ v)
    (h : v ++ r = serviceInfoSeparator.toList ++ s) : u = ['@'] ∧ r = '@' :: s := by
  have hseparator : serviceInfoSeparator.toList = ['@', '@'] := rfl
  rw [hseparator] at hword h
  obtain ⟨u', rfl, hrest⟩ := cons_of_cut hu hword
  rcases List.append_eq_singleton_iff.mp hrest.symm with ⟨rfl, rfl⟩ | ⟨_, hv'⟩
  · refine ⟨rfl, ?_⟩
    simpa using h
  · exact absurd hv' hv

theorem atShift_of_longer {service1 group1 service2 group2 : String}
    (hservice2 : containsSeparator service2 = false)
    (h : group2.toList ++ serviceInfoSeparator.toList ++ service2.toList =
      group1.toList ++ serviceInfoSeparator.toList ++ service1.toList)
    (hlt : group2.toList.length < group1.toList.length) :
    AtShift service1 group1 service2 group2 := by
  have hfree := not_infix_of_containsSeparator hservice2
  obtain ⟨u, v, hu, hv, hword, hgroup, hrest⟩ := overlap_of_eq (fun hboth => hfree hboth.2) h hlt
  obtain ⟨rfl, hservice⟩ := at_of_overlap hu hv hword hrest
  constructor
  · apply String.toList_inj.mp
    rw [hgroup, String.toList_append]
    rfl
  · apply String.toList_inj.mp
    rw [hservice, String.toList_append]
    rfl

section Services

variable {service1 group1 service2 group2 : String}

theorem atShift_key (hgroup1 : group1 ≠ "") (hgroup2 : group2 ≠ "")
    (hservice1 : containsSeparator service1 = false)
    (hservice2 : containsSeparator service2 = false)
    (h : AtShift service1 group1 service2 group2) :
    getKeyWithoutClusters service1 group1 = getKeyWithoutClusters service2 group2 := by
  apply String.toList_inj.mp
  rw [key_toList hgroup1 hservice1, key_toList hgroup2 hservice2, h.1, h.2]
  simp [String.toList_append, serviceInfoSeparator]

theorem key_eq_iff (hgroup1 : group1 ≠ "") (hgroup2 : group2 ≠ "")
    (hservice1 : containsSeparator service1 = false)
    (hservice2 : containsSeparator service2 = false)
    (hne : (service1, group1) ≠ (service2, group2)) :
    getKeyWithoutClusters service1 group1 = getKeyWithoutClusters service2 group2 ↔
      AtShift service1 group1 service2 group2 ∨ AtShift service2 group2 service1 group1 := by
  constructor
  · intro hkey
    have heq := congrArg String.toList hkey
    rw [key_toList hgroup1 hservice1, key_toList hgroup2 hservice2] at heq
    rcases Nat.lt_trichotomy group1.toList.length group2.toList.length with hlt | hlength | hlt
    · exact Or.inr (atShift_of_longer hservice1 heq hlt)
    · exfalso
      rw [List.append_assoc, List.append_assoc] at heq
      obtain ⟨hgroup, hrest⟩ := List.append_inj heq hlength
      have hservice := List.append_cancel_left hrest
      exact hne (Prod.ext (String.toList_inj.mp hservice) (String.toList_inj.mp hgroup))
    · exact Or.inl (atShift_of_longer hservice2 heq.symm hlt)
  · rintro (hshift | hshift)
    · exact atShift_key hgroup1 hgroup2 hservice1 hservice2 hshift
    · exact (atShift_key hgroup2 hgroup1 hservice2 hservice1 hshift).symm

end Services

/-! ## Isolation -/

/-- `emit`, and `observe` of what it sends: the cache then, and the callbacks. -/
def emitObserved (pushEmptyProtection : Bool) (cache : HashMap ServiceInfo)
    (registry : ListenerRegistry) (info : ServiceInfo) :
    HashMap ServiceInfo × List (Listener × NamingChangeEvent) :=
  let processed := processServiceInfo pushEmptyProtection cache info
  (processed.2, if processed.1 then observe registry info else [])

/-- The registries differ at most in the list under one key. -/
def AgreeOff (key : String) (registry registry' : ListenerRegistry) : Prop :=
  ∀ k, k ≠ key → registry.listenersOf k = registry'.listenersOf k

/-- In every state an info of the second service leaves the cache entry of the
first one as it was, and calls nobody for being subscribed to the first one. -/
structure Isolated (service1 group1 service2 group2 : String) : Prop where
  cache : ∀ p cache registry info, info.name = service2 → info.groupName = group2 →
    (emitObserved p cache registry info).1.get? (getKeyWithoutClusters service1 group1) =
      cache.get? (getKeyWithoutClusters service1 group1)
  events : ∀ p cache registry registry' info, info.name = service2 → info.groupName = group2 →
    AgreeOff (getKeyWithoutClusters service1 group1) registry registry' →
      (emitObserved p cache registry info).2 = (emitObserved p cache registry' info).2

theorem processServiceInfo_other (p : Bool) (cache : HashMap ServiceInfo) {info : ServiceInfo}
    {key : String} (h : key ≠ info.key) :
    (processServiceInfo p cache info).2.get? key = cache.get? key := by
  cases hc : considered p info with
  | false => rw [processServiceInfo_rejected hc]
  | true =>
    rw [processServiceInfo_considered hc]
    dsimp only
    split
    · exact HashMap.get?_insert_ne _ _ h
    · rfl

theorem observe_agreeOff {key : String} {registry registry' : ListenerRegistry}
    (h : AgreeOff key registry registry') {info : ServiceInfo} (hkey : info.key ≠ key) :
    observe registry info = observe registry' info := by
  rw [observe_eq, observe_eq, h info.key hkey]

/-- An info that enters every empty cache. -/
def firstInfo (serviceName groupName : String) : ServiceInfo :=
  { ServiceInfo.default with name := serviceName, groupName := groupName, hosts := some [] }

theorem emitObserved_firstInfo (registry : ListenerRegistry) (serviceName groupName : String) :
    (emitObserved false ∅ registry (firstInfo serviceName groupName)).1.get?
        (getKeyWithoutClusters serviceName groupName) =
      some (firstInfo serviceName groupName) := by
  have hc : considered false (firstInfo serviceName groupName) = true := rfl
  unfold emitObserved
  rw [processServiceInfo_considered hc, HashMap.get?_empty]
  exact HashMap.get?_insert_self _ _ _

theorem isolated_iff_key (service1 group1 service2 group2 : String) :
    Isolated service1 group1 service2 group2 ↔
      getKeyWithoutClusters service1 group1 ≠ getKeyWithoutClusters service2 group2 := by
  constructor
  · intro hisolated hkey
    have hsame := hisolated.cache false ∅ ListenerRegistry.empty (firstInfo service2 group2) rfl rfl
    rw [hkey, emitObserved_firstInfo] at hsame
    cases hsame
  · intro hkey
    constructor
    · rintro p cache registry info rfl rfl
      exact processServiceInfo_other p cache hkey
    · rintro p cache registry registry' info rfl rfl hagree
      unfold emitObserved
      rw [observe_agreeOff hagree fun heq => hkey heq.symm]

/-- **Services apart.** Two different services, with groups and with names that do
not contain the separator, are isolated exactly when neither group is the other
one with an `@` more, which the other service has at its start. -/
theorem isolated_iff {service1 group1 service2 group2 : String} (hgroup1 : group1 ≠ "")
    (hgroup2 : group2 ≠ "") (hservice1 : containsSeparator service1 = false)
    (hservice2 : containsSeparator service2 = false)
    (hne : (service1, group1) ≠ (service2, group2)) :
    Isolated service1 group1 service2 group2 ↔
      ¬ (AtShift service1 group1 service2 group2 ∨ AtShift service2 group2 service1 group1) := by
  rw [isolated_iff_key, ← key_eq_iff hgroup1 hgroup2 hservice1 hservice2 hne]

theorem isolated_iff_twoGroups : Isolated "b@" "a@" "b@" "a" :=
  (isolated_iff (by decide) (by decide) (by decide) (by decide) (by decide)).mpr (by decide)

/-- An `@` at the boundary: both services have one key, and what one emits is
cached and delivered for the other. -/
theorem atSign_shared :
    isBlank "b" = false ∧ isBlank "@b" = false ∧ containsSeparator "b" = false ∧
      containsSeparator "@b" = false ∧ ¬ Isolated "b" "a@" "@b" "a" ∧
      (emitObserved true ∅
          (ListenerRegistry.empty.subscribe (getKeyWithoutClusters "b" "a@") 1)
          { firstInfo "@b" "a" with allIps := some true }).2.map (·.1) = [1] := by
  refine ⟨by decide, by decide, by decide, by decide, ?_, by decide +kernel⟩
  rw [isolated_iff_key]
  decide

end NacosSdk.Naming
