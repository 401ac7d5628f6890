import NacosSdk.Naming.EventOrder

/-!
# The push-empty protection

`ServiceInfoEmitter` with the push-empty protection on: a snapshot without
hosts, or without a healthy host of positive weight, is rejected. Proved here,
from an empty cache:

* `emitAll_protected`: for every sequence of snapshots of any services, what is
  cached and what is sent to the observer is valid, and no entry is lost;
* `pipeline_protected`: the same for every interleaving of concurrent emits.
-/

namespace NacosSdk.Naming
open NacosSdk.Common NacosSdk.Lib.Run

/-- The emitter with its cache and all it has sent to the observer. -/
structure ServiceInfoEmitter where
  cache : HashMap ServiceInfo
  pushEmptyProtection : Bool
  sent : List ServiceInfo

def ServiceInfoEmitter.new (pushEmptyProtection : Bool) : ServiceInfoEmitter where
  cache := ∅
  pushEmptyProtection
  sent := []

def ServiceInfoEmitter.emit (e : ServiceInfoEmitter) (info : ServiceInfo) : ServiceInfoEmitter :=
  let (notify, cache) := processServiceInfo e.pushEmptyProtection e.cache info
  { e with cache, sent := if notify then e.sent ++ [info] else e.sent }

/-- The snapshots emitted one after another. -/
def ServiceInfoEmitter.emitAll (e : ServiceInfoEmitter) (infos : List ServiceInfo) :
    ServiceInfoEmitter :=
  infos.foldl ServiceInfoEmitter.emit e

/-- Hosts are present and the snapshot validates. -/
def ServiceInfo.Valid (info : ServiceInfo) : Prop :=
  (∃ hosts, info.hosts = some hosts) ∧ info.validate = true

theorem considered_valid {info : ServiceInfo} (h : considered true info = true) : info.Valid := by
  refine ⟨considered_hosts h, ?_⟩
  cases hv : info.validate with
  | true => rfl
  | false => simp [considered, isEmptyOrErrorPush, hv] at h

/-! ## One snapshot -/

theorem emit_refused {e : ServiceInfoEmitter} {info : ServiceInfo}
    (h : (processServiceInfo e.pushEmptyProtection e.cache info).1 = false) : e.emit info = e := by
  have hcache : (processServiceInfo e.pushEmptyProtection e.cache info).2 = e.cache := by
    cases hc : considered e.pushEmptyProtection info with
    | false => rw [processServiceInfo_rejected hc]
    | true =>
      rw [processServiceInfo_considered hc] at h ⊢
      exact if_neg (Bool.eq_false_iff.mp h)
  simp only [ServiceInfoEmitter.emit, h, hcache, Bool.false_eq_true, ↓reduceIte]

theorem emit_rejected {e : ServiceInfoEmitter} (hp : e.pushEmptyProtection = true)
    {info : ServiceInfo} (h : info.hosts = none ∨ info.validate = false) : e.emit info = e := by
  apply emit_refused
  have hrejected : considered e.pushEmptyProtection info = false := by
    rcases h with h | h <;> simp [considered, isEmptyOrErrorPush, h, hp]
  rw [processServiceInfo_rejected hrejected]

theorem emit_accepted {e : ServiceInfoEmitter} {info : ServiceInfo}
    (h : (processServiceInfo e.pushEmptyProtection e.cache info).1 = true) :
    considered e.pushEmptyProtection info = true ∧
      e.emit info = { e with cache := e.cache.insert info.key info, sent := e.sent ++ [info] } := by
  cases hc : considered e.pushEmptyProtection info with
  | false =>
    rw [processServiceInfo_rejected hc] at h
    cases h
  | true =>
    refine ⟨rfl, ?_⟩
    rw [processServiceInfo_considered hc] at h
    have h : isChangedServiceInfo (e.cache.get? info.key) info = true := h
    simp only [ServiceInfoEmitter.emit, processServiceInfo_considered hc, h, ↓reduceIte]

/-! ## A sequence of snapshots -/

/-- All that is cached and all that was sent is valid. -/
structure ServiceInfoEmitter.Protected (e : ServiceInfoEmitter) : Prop where
  protection : e.pushEmptyProtection = true
  cached : ∀ key info, e.cache.get? key = some info → info.Valid
  sent : ∀ info ∈ e.sent, info.Valid

theorem new_protected : (ServiceInfoEmitter.new true).Protected where
  protection := rfl
  cached := fun _ _ h => by cases h
  sent := fun _ h => by cases h

theorem insert_valid {cache : HashMap ServiceInfo} {info : ServiceInfo} (hvalid : info.Valid)
    (h : ∀ key info, cache.get? key = some info → info.Valid) (key : String) {found : ServiceInfo}
    (hfound : (cache.insert info.key info).get? key = some found) : found.Valid := by
  rw [HashMap.get?_insert] at hfound
  split at hfound
  · obtain rfl := Option.some.inj hfound
    exact hvalid
  · exact h key found hfound

theorem ServiceInfoEmitter.Protected.emit {e : ServiceInfoEmitter} (h : e.Protected)
    (info : ServiceInfo) : (e.emit info).Protected := by
  cases hn : (processServiceInfo e.pushEmptyProtection e.cache info).1 with
  | false =>
    rw [emit_refused hn]
    exact h
  | true =>
    obtain ⟨hc, heq⟩ := emit_accepted hn
    rw [h.protection] at hc
    have hvalid := considered_valid hc
    rw [heq]
    refine ⟨h.protection, fun key _ hfound => insert_valid hvalid h.cached key hfound, ?_⟩
    intro sent hsent
    rcases List.mem_append.mp hsent with hold | hnew
    · exact h.sent sent hold
    · rw [List.mem_singleton.mp hnew]
      exact hvalid

theorem ServiceInfoEmitter.Protected.emitAll {e : ServiceInfoEmitter} (h : e.Protected)
    (infos : List ServiceInfo) : (e.emitAll infos).Protected := by
  induction infos generalizing e with
  | nil => exact h
  | cons info rest ih => exact ih (h.emit info)

/-- A snapshot replaces an entry or adds one. -/
theorem emit_keeps_entry {e : ServiceInfoEmitter} {key : String}
    (h : (e.cache.get? key).isSome = true) (info : ServiceInfo) :
    ((e.emit info).cache.get? key).isSome = true := by
  cases hn : (processServiceInfo e.pushEmptyProtection e.cache info).1 with
  | false => rwa [emit_refused hn]
  | true =>
    rw [(emit_accepted hn).2, HashMap.get?_insert]
    split
    · rfl
    · exact h

theorem emitAll_keeps_entry {e : ServiceInfoEmitter} {key : String}
    (h : (e.cache.get? key).isSome = true) (infos : List ServiceInfo) :
    ((e.emitAll infos).cache.get? key).isSome = true := by
  induction infos generalizing e with
  | nil => exact h
  | cons info rest ih => exact ih (emit_keeps_entry h info)

/-- **Protected snapshots.** After every sequence of snapshots, what is cached
and what was sent has hosts and validates; what is rejected, or refused as no
change, leaves cache and channel as they are; and an entry stays, and valid. -/
theorem emitAll_protected (infos : List ServiceInfo) :
    let e := (ServiceInfoEmitter.new true).emitAll infos
    (∀ key info, e.cache.get? key = some info → info.Valid) ∧
    (∀ info ∈ e.sent, info.Valid) ∧
    (∀ info, info.hosts = none ∨ info.validate = false ∨
        isChangedServiceInfo (e.cache.get? info.key) info = false → e.emit info = e) ∧
    (∀ key, (e.cache.get? key).isSome = true → ∀ later, ∃ info,
      (e.emitAll later).cache.get? key = some info ∧ info.Valid) := by
  intro e
  have h : e.Protected := new_protected.emitAll infos
  refine ⟨h.cached, h.sent, ?_, ?_⟩
  · rintro info (hnone | hinvalid | hsame)
    · exact emit_rejected h.protection (Or.inl hnone)
    · exact emit_rejected h.protection (Or.inr hinvalid)
    · apply emit_refused
      cases hc : considered e.pushEmptyProtection info with
      | false => rw [processServiceInfo_rejected hc]
      | true =>
        rw [processServiceInfo_considered hc]
        exact hsame
  · intro key hkey later
    obtain ⟨info, hinfo⟩ := Option.isSome_iff_exists.mp (emitAll_keeps_entry hkey later)
    exact ⟨info, hinfo, (h.emitAll later).cached key info hinfo⟩

/-! ## Concurrent emits -/

/-- All that is cached or on its way is valid. -/
structure Pipeline.Protected (s : Pipeline) : Prop where
  cached : ∀ key info, s.cache.get? key = some info → info.Valid
  checked : ∀ info ∈ s.checked, info.Valid
  inserted : ∀ info ∈ s.inserted, info.Valid
  channel : ∀ info ∈ s.channel, info.Valid

theorem forall_append {P : ServiceInfo → Prop} {infos : List ServiceInfo} {info : ServiceInfo}
    (h : ∀ i ∈ infos, P i) (hinfo : P info) : ∀ i ∈ infos ++ [info], P i := by
  intro i hi
  rcases List.mem_append.mp hi with hold | hnew
  · exact h i hold
  · rw [List.mem_singleton.mp hnew]
    exact hinfo

theorem pipeline_protected_step {s s' : Pipeline} {e : PipelineEvent}
    (hs : Pipeline.step true s e = some s') (h : s.Protected) : s'.Protected := by
  cases e with
  | check info =>
    simp only [Pipeline.step] at hs
    split at hs
    · next hnotify =>
      obtain rfl := Option.some.inj hs
      have hc : considered true info = true := by
        by_contra hne
        rw [processServiceInfo_rejected (Bool.eq_false_iff.mpr hne)] at hnotify
        cases hnotify
      exact ⟨h.cached, forall_append h.checked (considered_valid hc), h.inserted, h.channel⟩
    · obtain rfl := Option.some.inj hs
      exact h
  | insert i =>
    simp only [Pipeline.step] at hs
    split at hs
    · cases hs
    · next info hinfo =>
      obtain rfl := Option.some.inj hs
      have hvalid := h.checked info (List.mem_of_getElem? hinfo)
      exact ⟨fun key _ hfound => insert_valid hvalid h.cached key hfound,
        fun info hm => h.checked info (List.mem_of_mem_eraseIdx hm),
        forall_append h.inserted hvalid, h.channel⟩
  | send i =>
    simp only [Pipeline.step] at hs
    split at hs
    · cases hs
    · next info hinfo =>
      split at hs
      · obtain rfl := Option.some.inj hs
        have hvalid := h.inserted info (List.mem_of_getElem? hinfo)
        exact ⟨h.cached, h.checked, fun info hm => h.inserted info (List.mem_of_mem_eraseIdx hm),
          forall_append h.channel hvalid⟩
      · cases hs
  | observe =>
    simp only [Pipeline.step] at hs
    split at hs
    · cases hs
    · next info rest hchannel =>
      obtain rfl := Option.some.inj hs
      exact ⟨h.cached, h.checked, h.inserted, fun info hm => h.channel info (by simp [hchannel, hm])⟩
  | execute i =>
    simp only [Pipeline.step] at hs
    split at hs
    · cases hs
    · obtain rfl := Option.some.inj hs
      exact ⟨h.cached, h.checked, h.inserted, h.channel⟩
  | subscribe key listener =>
    obtain rfl := Option.some.inj hs
    exact ⟨h.cached, h.checked, h.inserted, h.channel⟩
  | unsubscribe key listener =>
    obtain rfl := Option.some.inj hs
    exact ⟨h.cached, h.checked, h.inserted, h.channel⟩

theorem start_protected (registry : ListenerRegistry) :
    (Pipeline.start ∅ registry).Protected where
  cached := fun _ _ h => by cases h
  checked := fun _ h => by cases h
  inserted := fun _ h => by cases h
  channel := fun _ h => by cases h

/-- Emits that run concurrently keep cache and channel valid too. -/
theorem pipeline_protected {registry : ListenerRegistry} {es : List PipelineEvent} {s : Pipeline}
    (h : Reaches (Pipeline.step true) anyStep (Pipeline.start ∅ registry) es s) :
    s.Protected := by
  apply Reaches.invariant (I := Pipeline.Protected) _ h (start_protected registry)
  intro s e s' _ hs hprotected
  exact pipeline_protected_step hs hprotected

end NacosSdk.Naming
