import NacosSdk.Lib.Newest
import NacosSdk.Naming.ServiceInfoDiff

/-!
# The service info emitter and observer

`ServiceInfoEmitter` (`naming/observable/service_info_observable.rs`) decides
which snapshots of a service enter the naming cache; `ServiceInfoObserver`
turns the accepted ones into events for the registered listeners. Proved here,
for every sequence of snapshots of one service:

* `processServiceInfo_considered`, `isChanged_false_iff`: what one snapshot
  does to the cache;
* `newestWins_iff`: exactly when the cached hosts are, at every moment, those
  of the newest considered snapshot;
* `newestWins_of_times`: with addresses listed once, it is enough that no
  snapshot falls between the cached time and the newest time seen.
-/

namespace NacosSdk.Naming
open NacosSdk.Common NacosSdk.Lib.Newest

/-! ## The emitter -/

def isEmptyOrErrorPush (pushEmptyProtection : Bool) (info : ServiceInfo) : Bool :=
  info.hosts.isNone || (pushEmptyProtection && !info.validate)

def isChangedServiceInfo (oldService : Option ServiceInfo) (newService : ServiceInfo) : Bool :=
  match oldService with
  | none => true
  | some oldService =>
    if isOutdatedData oldService newService then false
    else if newService.hosts.isNone && oldService.hosts.isNone then false
    else if newService.hosts.isNone || oldService.hosts.isNone then true
    else (ServiceInfoDiff.calculate (oldService.hosts.getD []) (newService.hosts.getD [])).changed

/-- The answer tells whether the snapshot was inserted and has to be sent to
the observer. -/
def processServiceInfo (pushEmptyProtection : Bool) (cache : HashMap ServiceInfo)
    (info : ServiceInfo) : Bool × HashMap ServiceInfo :=
  if isEmptyOrErrorPush pushEmptyProtection info then (false, cache)
  else
    let changed := isChangedServiceInfo (cache.get? info.key) info
    (changed, if changed then cache.insert info.key info else cache)

/-- The snapshots handled one after another. -/
def handleAll (pushEmptyProtection : Bool) (cache : HashMap ServiceInfo)
    (infos : List ServiceInfo) : HashMap ServiceInfo :=
  infos.foldl (fun c info => (processServiceInfo pushEmptyProtection c info).2) cache

/-! ## One snapshot -/

/-- Hosts are present and not rejected by the push-empty protection. -/
def considered (pushEmptyProtection : Bool) (info : ServiceInfo) : Bool :=
  !isEmptyOrErrorPush pushEmptyProtection info

theorem considered_hosts {p : Bool} {info : ServiceInfo} (h : considered p info = true) :
    ∃ hosts, info.hosts = some hosts := by
  cases hh : info.hosts with
  | none => simp [considered, isEmptyOrErrorPush, hh] at h
  | some hosts => exact ⟨hosts, rfl⟩

theorem processServiceInfo_rejected {p : Bool} {cache : HashMap ServiceInfo} {info : ServiceInfo}
    (h : considered p info = false) : processServiceInfo p cache info = (false, cache) := by
  have hr : isEmptyOrErrorPush p info = true := by simpa [considered] using h
  simp [processServiceInfo, hr]

theorem processServiceInfo_considered {p : Bool} {cache : HashMap ServiceInfo}
    {info : ServiceInfo} (h : considered p info = true) :
    processServiceInfo p cache info =
      (isChangedServiceInfo (cache.get? info.key) info,
        if isChangedServiceInfo (cache.get? info.key) info then cache.insert info.key info
        else cache) := by
  have hr : isEmptyOrErrorPush p info = false := by simpa [considered] using h
  simp [processServiceInfo, hr]

/-- A snapshot is refused exactly when it is older than the cached one or
agrees with it by address. -/
theorem isChanged_false_iff {old new : ServiceInfo} {oldHosts newHosts : List ServiceInstance}
    (ho : old.hosts = some oldHosts) (hn : new.hosts = some newHosts) :
    isChangedServiceInfo (some old) new = false ↔
      new.lastRefTime < old.lastRefTime ∨ SameByAddress oldHosts newHosts := by
  rw [← calculate_unchanged_iff]
  simp only [isChangedServiceInfo, isOutdatedData, ho, hn, Option.isNone_some, Bool.and_self,
    Bool.or_self, Bool.false_eq_true, ↓reduceIte, Option.getD_some, decide_eq_true_eq]
  split
  · simp_all
  · simp_all

theorem handleAll_snoc (p : Bool) (cache : HashMap ServiceInfo) (infos : List ServiceInfo)
    (info : ServiceInfo) :
    handleAll p cache (infos ++ [info]) =
      (processServiceInfo p (handleAll p cache infos) info).2 := by
  simp [handleAll]

/-! ## The cache and the newest snapshot -/

/-- Of the considered snapshots of `seen`, the one with the greatest
`last_ref_time`, the later one in case of a tie. -/
def newestSeen (p : Bool) (seen : List ServiceInfo) : Option ServiceInfo :=
  newest ServiceInfo.lastRefTime (seen.filter (considered p))

/-- The cached hosts of the key are, up to their order, those of the newest
considered snapshot of `seen`. -/
def CachedNewest (p : Bool) (cache : HashMap ServiceInfo) (key : String)
    (seen : List ServiceInfo) : Prop :=
  ∀ best, newestSeen p seen = some best →
    ∃ info hosts bestHosts, cache.get? key = some info ∧ info.hosts = some hosts ∧
      best.hosts = some bestHosts ∧ hosts.Perm bestHosts

/-- Some considered snapshot of `seen` is newer than `info`. -/
def OlderThanSeen (p : Bool) (seen : List ServiceInfo) (info : ServiceInfo) : Prop :=
  ∃ y ∈ seen.filter (considered p), info.lastRefTime < y.lastRefTime

/-- After every step the cached hosts are those of the newest snapshot, and no
snapshot older than one already seen is inserted. -/
def NewestWins (p : Bool) (cache : HashMap ServiceInfo) (key : String)
    (infos : List ServiceInfo) : Prop :=
  ∀ seen info rest, infos = seen ++ info :: rest →
    CachedNewest p (handleAll p cache (seen ++ [info])) key (seen ++ [info]) ∧
    (OlderThanSeen p seen info → (processServiceInfo p (handleAll p cache seen) info).1 = false)

/-- What a considered snapshot has to satisfy against the entry it meets: one
at least as new as all before it that agrees with the entry by address is a
reordering of its hosts, and an older one is older than the entry too or agrees
with it by address. -/
def InStep (p : Bool) (cache : HashMap ServiceInfo) (key : String) (seen : List ServiceInfo)
    (info : ServiceInfo) : Prop :=
  considered p info = true → ∀ old oldHosts newHosts, cache.get? key = some old →
    old.hosts = some oldHosts → info.hosts = some newHosts →
    (¬ OlderThanSeen p seen info → SameByAddress oldHosts newHosts → oldHosts.Perm newHosts) ∧
    (OlderThanSeen p seen info →
      info.lastRefTime < old.lastRefTime ∨ SameByAddress oldHosts newHosts)

theorem newestSeen_rejected {p : Bool} {info : ServiceInfo} (h : considered p info = false)
    (seen : List ServiceInfo) : newestSeen p (seen ++ [info]) = newestSeen p seen := by
  simp [newestSeen, List.filter_append, h]

theorem newestSeen_considered {p : Bool} {info : ServiceInfo} (h : considered p info = true)
    (seen : List ServiceInfo) :
    newestSeen p (seen ++ [info]) = pick ServiceInfo.lastRefTime (newestSeen p seen) info := by
  simp only [newestSeen, List.filter_append, List.filter_cons, h, ↓reduceIte, List.filter_nil,
    newest_snoc]

theorem handleAll_newestSeen_none {p : Bool} {seen : List ServiceInfo}
    (h : newestSeen p seen = none) (cache : HashMap ServiceInfo) :
    handleAll p cache seen = cache := by
  induction seen using List.reverseRecOn with
  | nil => rfl
  | append_singleton seen info ih =>
    cases hc : considered p info with
    | false =>
      rw [newestSeen_rejected hc] at h
      rw [handleAll_snoc, processServiceInfo_rejected hc, ih h]
    | true =>
      have hf := newest_eq_none _ h
      simp [hc] at hf

/-- What is cached under a key that was absent at the start is one of the
considered snapshots. -/
theorem handleAll_lookup_mem {p : Bool} {cache : HashMap ServiceInfo} {key : String}
    (hcache : cache.get? key = none) {seen : List ServiceInfo} {old : ServiceInfo}
    (h : (handleAll p cache seen).get? key = some old) :
    old ∈ seen.filter (considered p) := by
  induction seen using List.reverseRecOn with
  | nil => simp [handleAll, hcache] at h
  | append_singleton seen info ih =>
    rw [handleAll_snoc] at h
    cases hc : considered p info with
    | false =>
      rw [processServiceInfo_rejected hc] at h
      simp [hc, ih h]
    | true =>
      rw [processServiceInfo_considered hc] at h
      simp only [List.filter_append, List.filter_cons, hc, ↓reduceIte, List.filter_nil,
        List.mem_append, List.mem_singleton]
      split at h
      · by_cases hk : key = info.key
        · subst hk
          rw [HashMap.get?_insert_self] at h
          exact Or.inr (Option.some.inj h).symm
        · rw [HashMap.get?_insert_ne _ _ hk] at h
          exact Or.inl (ih h)
      · exact Or.inl (ih h)

section Sequence

variable {p : Bool} {cache : HashMap ServiceInfo} {key : String}

theorem cachedNewest_iff {cache : HashMap ServiceInfo} {seen : List ServiceInfo}
    {best info : ServiceInfo} {hosts bestHosts : List ServiceInstance}
    (hb : newestSeen p seen = some best) (hl : cache.get? key = some info)
    (hi : info.hosts = some hosts) (hbh : best.hosts = some bestHosts) :
    CachedNewest p cache key seen ↔ hosts.Perm bestHosts := by
  constructor
  · intro h
    obtain ⟨info', hosts', bestHosts', hl', hi', hbh', hp⟩ := h best hb
    rw [hl] at hl'
    cases hl'
    rw [hi] at hi'
    rw [hbh] at hbh'
    cases hi'
    cases hbh'
    exact hp
  · intro hp best' hb'
    rw [hb] at hb'
    cases hb'
    exact ⟨info, hosts, bestHosts, hl, hi, hbh, hp⟩

theorem inStep_iff {cache : HashMap ServiceInfo} {seen : List ServiceInfo}
    {old info : ServiceInfo} {oldHosts newHosts : List ServiceInstance}
    (hc : considered p info = true) (hl : cache.get? key = some old)
    (ho : old.hosts = some oldHosts) (hn : info.hosts = some newHosts) :
    InStep p cache key seen info ↔
      (¬ OlderThanSeen p seen info → SameByAddress oldHosts newHosts → oldHosts.Perm newHosts) ∧
      (OlderThanSeen p seen info →
        info.lastRefTime < old.lastRefTime ∨ SameByAddress oldHosts newHosts) := by
  constructor
  · intro h
    exact h hc old oldHosts newHosts hl ho hn
  · intro h _ old' oldHosts' newHosts' hl' ho' hn'
    rw [hl] at hl'
    cases hl'
    rw [ho] at ho'
    rw [hn] at hn'
    cases ho'
    cases hn'
    exact h

/-- The first considered snapshot of a key enters the cache. -/
theorem step_first (hcache : cache.get? key = none) {seen : List ServiceInfo}
    {info : ServiceInfo} (hkey : info.key = key) (hc : considered p info = true)
    (hb : newestSeen p seen = none) :
    CachedNewest p (processServiceInfo p (handleAll p cache seen) info).2 key (seen ++ [info]) ∧
      ¬ OlderThanSeen p seen info ∧ InStep p (handleAll p cache seen) key seen info := by
  obtain ⟨hosts, hh⟩ := considered_hosts hc
  have hl : (handleAll p cache seen).get? key = none := by
    rw [handleAll_newestSeen_none hb, hcache]
  refine ⟨?_, ?_, ?_⟩
  · have hn : newestSeen p (seen ++ [info]) = some info := by
      rw [newestSeen_considered hc, hb, pick]
    rw [processServiceInfo_considered hc, hkey, hl]
    have hins : ((handleAll p cache seen).insert key info).get? key = some info :=
      HashMap.get?_insert_self _ _ _
    exact (cachedNewest_iff hn hins hh hh).mpr (List.Perm.refl _)
  · rintro ⟨y, hy, _⟩
    rw [newest_eq_none _ hb] at hy
    simp at hy
  · intro _ old _ _ ho
    rw [hl] at ho
    cases ho

/-- An old snapshot: the newest one stays, so only a refusal keeps it cached. -/
theorem step_old {seen : List ServiceInfo} {info best : ServiceInfo} (hkey : info.key = key)
    (hc : considered p info = true) (hnow : CachedNewest p (handleAll p cache seen) key seen)
    (hb : newestSeen p seen = some best) (hlt : info.lastRefTime < best.lastRefTime) :
    CachedNewest p (processServiceInfo p (handleAll p cache seen) info).2 key (seen ++ [info]) ∧
        (processServiceInfo p (handleAll p cache seen) info).1 = false ↔
      InStep p (handleAll p cache seen) key seen info := by
  obtain ⟨newHosts, hnew⟩ := considered_hosts hc
  obtain ⟨old, oldHosts, bestHosts, hl, ho, hbh, hperm⟩ := hnow best hb
  have hn : newestSeen p (seen ++ [info]) = some best := by
    rw [newestSeen_considered hc, hb, pick, if_pos hlt]
  have holder : OlderThanSeen p seen info := (older_iff hb _).mpr hlt
  have hrefused := isChanged_false_iff ho hnew
  rw [inStep_iff hc hl ho hnew, processServiceInfo_considered hc, hkey, hl]
  constructor
  · rintro ⟨_, hf⟩
    exact ⟨fun h => absurd holder h, fun _ => hrefused.mp hf⟩
  · rintro ⟨_, hin⟩
    have hf := hrefused.mpr (hin holder)
    simp only [hf, Bool.false_eq_true, ↓reduceIte, and_true]
    exact (cachedNewest_iff hn hl ho hbh).mpr hperm

/-- A snapshot at least as new as all before it: only agreement by address can
keep it out of the cache. -/
theorem step_new (hcache : cache.get? key = none) {seen : List ServiceInfo}
    {info best : ServiceInfo} (hkey : info.key = key) (hc : considered p info = true)
    (hnow : CachedNewest p (handleAll p cache seen) key seen)
    (hb : newestSeen p seen = some best) (hge : ¬ info.lastRefTime < best.lastRefTime) :
    CachedNewest p (processServiceInfo p (handleAll p cache seen) info).2 key (seen ++ [info]) ↔
      InStep p (handleAll p cache seen) key seen info := by
  obtain ⟨newHosts, hnew⟩ := considered_hosts hc
  obtain ⟨old, oldHosts, bestHosts, hl, ho, hbh, _⟩ := hnow best hb
  have hn : newestSeen p (seen ++ [info]) = some info := by
    rw [newestSeen_considered hc, hb, pick, if_neg hge]
  have holder : ¬ OlderThanSeen p seen info := fun h => hge ((older_iff hb _).mp h)
  have hold : old.lastRefTime ≤ best.lastRefTime :=
    le_newest hb old (handleAll_lookup_mem hcache hl)
  have htime : ¬ info.lastRefTime < old.lastRefTime := by omega
  have hrefused := isChanged_false_iff ho hnew
  simp only [htime, false_or] at hrefused
  rw [inStep_iff hc hl ho hnew, processServiceInfo_considered hc, hkey, hl]
  cases hch : isChangedServiceInfo (some old) info with
  | false =>
    have hsame := hrefused.mp hch
    simp only [Bool.false_eq_true, ↓reduceIte]
    rw [cachedNewest_iff hn hl ho hnew]
    constructor
    · intro hp
      exact ⟨fun _ _ => hp, fun h => absurd h holder⟩
    · rintro ⟨hin, _⟩
      exact hin holder hsame
  | true =>
    have hdiff : ¬ SameByAddress oldHosts newHosts := by
      intro hsame
      rw [hrefused.mpr hsame] at hch
      exact Bool.false_ne_true hch
    have hins : ((handleAll p cache seen).insert key info).get? key = some info :=
      HashMap.get?_insert_self _ _ _
    simp only [↓reduceIte]
    rw [cachedNewest_iff hn hins hnew hnew]
    constructor
    · intro _
      exact ⟨fun _ h => absurd h hdiff, fun h => absurd h holder⟩
    · intro _
      exact List.Perm.refl _

/-- **One step.** From a state that holds the newest snapshot, the next one
keeps it so, and is refused when it is old, exactly when it is in step. -/
theorem step_iff (hcache : cache.get? key = none) {seen : List ServiceInfo} {info : ServiceInfo}
    (hkey : info.key = key) (hnow : CachedNewest p (handleAll p cache seen) key seen) :
    CachedNewest p (handleAll p cache (seen ++ [info])) key (seen ++ [info]) ∧
        (OlderThanSeen p seen info →
          (processServiceInfo p (handleAll p cache seen) info).1 = false) ↔
      InStep p (handleAll p cache seen) key seen info := by
  rw [handleAll_snoc]
  cases hc : considered p info with
  | false =>
    rw [processServiceInfo_rejected hc]
    unfold CachedNewest InStep
    rw [newestSeen_rejected hc, hc]
    exact ⟨fun _ h => absurd h Bool.false_ne_true, fun _ => ⟨hnow, fun _ => rfl⟩⟩
  | true =>
    cases hb : newestSeen p seen with
    | none =>
      obtain ⟨hcached, holder, hin⟩ := step_first hcache hkey hc hb
      exact ⟨fun _ => hin, fun _ => ⟨hcached, fun h => absurd h holder⟩⟩
    | some best =>
      by_cases hlt : info.lastRefTime < best.lastRefTime
      · have holder : OlderThanSeen p seen info := (older_iff hb _).mpr hlt
        rw [← step_old hkey hc hnow hb hlt]
        exact and_congr_right' ⟨fun h => h holder, fun h _ => h⟩
      · have holder : ¬ OlderThanSeen p seen info := fun h => hlt ((older_iff hb _).mp h)
        rw [← step_new hcache hkey hc hnow hb hlt]
        exact and_iff_left fun h => absurd h holder

theorem cachedNewest_nil : CachedNewest p cache key [] := by
  intro best h
  cases h

/-- **Newest wins.** Over a run of snapshots of one service that starts without
an entry, the cached hosts are those of the newest considered snapshot after
every step, and nothing old is inserted, exactly when every snapshot is in step
with the entry it meets. -/
theorem newestWins_iff (hcache : cache.get? key = none) (infos : List ServiceInfo)
    (hkeys : ∀ info ∈ infos, info.key = key) :
    NewestWins p cache key infos ↔
      ∀ seen info rest, infos = seen ++ info :: rest →
        InStep p (handleAll p cache seen) key seen info := by
  constructor
  · intro h seen info rest he
    have hk : info.key = key := hkeys info (by simp [he])
    have hnow : CachedNewest p (handleAll p cache seen) key seen := by
      cases hs : seen using List.reverseRecOn with
      | nil => exact cachedNewest_nil
      | append_singleton seen' last =>
        exact (h seen' last (info :: rest) (by simp [he, hs])).1
    exact (step_iff hcache hk hnow).mp (h seen info rest he)
  · intro h
    have hall : ∀ seen rest, infos = seen ++ rest →
        CachedNewest p (handleAll p cache seen) key seen := by
      intro seen
      induction seen using List.reverseRecOn with
      | nil => intro _ _; exact cachedNewest_nil
      | append_singleton seen last ih =>
        intro rest he
        have he' : infos = seen ++ last :: rest := by simp [he]
        have hk : last.key = key := hkeys last (by simp [he])
        exact ((step_iff hcache hk (ih _ he')).mpr (h seen last rest he')).1
    intro seen info rest he
    have hk : info.key = key := hkeys info (by simp [he])
    exact (step_iff hcache hk (hall seen _ he)).mpr (h seen info rest he)

/-- With every address listed once, it is enough that a snapshot older than
one already seen is older than the cached entry too. -/
theorem newestWins_of_times (hcache : cache.get? key = none) (infos : List ServiceInfo)
    (hkeys : ∀ info ∈ infos, info.key = key)
    (haddr : ∀ info ∈ infos, ∀ hosts, info.hosts = some hosts →
      (hosts.map ServiceInstance.ipAndPort).Nodup)
    (htimes : ∀ seen info rest old, infos = seen ++ info :: rest → OlderThanSeen p seen info →
      (handleAll p cache seen).get? key = some old → info.lastRefTime < old.lastRefTime) :
    NewestWins p cache key infos := by
  rw [newestWins_iff hcache infos hkeys]
  intro seen info rest he _ old oldHosts newHosts hl ho hn
  refine ⟨fun _ hsame => ?_, fun hold => Or.inl (htimes seen info rest old he hold hl)⟩
  have hmem : old ∈ infos := by
    have := List.mem_of_mem_filter (handleAll_lookup_mem hcache hl)
    simp [he, this]
  exact perm_of_sameByAddress (haddr old hmem oldHosts ho)
    (haddr info (by simp [he]) newHosts hn) hsame

end Sequence

/-! ## A refresh without a change -/

def hostAt (ip : String) (port : Int) : ServiceInstance :=
  { ServiceInstance.default with ip := ip, port := port }

def ordersInfo (time : Int) (hosts : List ServiceInstance) : ServiceInfo :=
  { ServiceInfo.default with
    name := "orders", groupName := defaultGroup, lastRefTime := time, hosts := some hosts }

def ordersKey : String := "DEFAULT_GROUP@@orders"

/-- A poll at time 5 repeats the hosts of time 1. The cached time stays 1, so a
push of time 3 that was overtaken replaces the hosts of time 5. -/
def overtakenPush : List ServiceInfo :=
  [ordersInfo 1 [hostAt "10.0.0.1" 8080], ordersInfo 5 [hostAt "10.0.0.1" 8080],
    ordersInfo 3 [hostAt "10.0.0.2" 8080]]

theorem overtakenPush_not_newestWins :
    (∅ : HashMap ServiceInfo).get? ordersKey = none ∧
      (∀ info ∈ overtakenPush, info.key = ordersKey) ∧
      ¬ NewestWins false ∅ ordersKey overtakenPush := by
  refine ⟨rfl, by decide, fun h => ?_⟩
  have hold : OlderThanSeen false (overtakenPush.take 2) (ordersInfo 3 [hostAt "10.0.0.2" 8080]) :=
    ⟨ordersInfo 5 [hostAt "10.0.0.1" 8080], by decide, by decide⟩
  have hfalse := (h (overtakenPush.take 2) _ [] rfl).2 hold
  exact absurd hfalse (by decide)

theorem newestWins_iff_overtakenPush :
    NewestWins false ∅ ordersKey overtakenPush ↔
      ∀ seen info rest, overtakenPush = seen ++ info :: rest →
        InStep false (handleAll false ∅ seen) ordersKey seen info :=
  newestWins_iff rfl overtakenPush (by decide)

end NacosSdk.Naming
