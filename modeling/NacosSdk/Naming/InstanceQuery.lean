import NacosSdk.Naming.Subscription

/-!
# Where the answer of `get_all_instances` comes from

With `subscribe = true` the call reads the naming cache under a key with the
clusters, then under the key without them, and only then asks the server. A
history collects every service info the server sent and what it was sent for.
Proved here, for every history:

* `stepAll_filed`: a cached service info is the last one that a poll or a push
  filed under its key;
* `getAllInstances_faithful_iff`: the answer is what the server sent for the
  service and clusters of the call exactly when the last filed service info was
  sent for them or carries their hosts, or nothing was filed and the request is
  acknowledged;
* `answeredFor_of_ownPolls`: so where no other clusters were polled or pushed;
* `directQuery_faithful`: without the subscription this always holds;
* `otherClusters_not_faithful`: the hosts of another cluster list are returned.
-/

namespace NacosSdk.Naming
open NacosSdk.Common NacosSdk.Lib

/-! ## Requests -/

/-- A service info and the request it was sent for. -/
structure Sent where
  service : Service
  clusters : String
  info : ServiceInfo
  deriving DecidableEq

/-- The cached entry that `get_all_instances` with a subscription finds. -/
def NamingService.cachedInfo (s : NamingService) (service : Service) (clusters : String) :
    Option ServiceInfo :=
  (s.namingCache.get? (service.updateKey clusters)).or (s.namingCache.get? service.key)

/-- The request that a call makes and waits for, with its answer. -/
def ServiceCall.request (call : ServiceCall) (s : NamingService) :
    Option (Service × String × Answer) :=
  match call with
  | .subscribe serviceName groupName clusters _ answer =>
    let service := Service.of serviceName groupName
    if isBlank serviceName || (s.namingCache.get? service.key).isSome then none
    else some (service, joinClusters clusters, answer)
  | .unsubscribe serviceName groupName clusters _ answer =>
    if isBlank serviceName then none
    else some (Service.of serviceName groupName, joinClusters clusters, answer)
  | .getAllInstances serviceName groupName clusters withSubscribe answer =>
    let service := Service.of serviceName groupName
    if isBlank serviceName then none
    else if withSubscribe && (s.cachedInfo service (joinClusters clusters)).isSome then none
    else some (service, joinClusters clusters, answer)
  | .backgroundAnswer i answer =>
    match (s.background[i]?).map NamingRedoTask.automaticRequest with
    | some (AutomaticRequest.subscribe request) =>
      some (⟨request.serviceName.getD "", request.groupName.getD ""⟩, request.clusters, answer)
    | _ => none
  | .emit _ => none

/-- What the server sent in answer to a call. -/
def ServiceCall.responses (call : ServiceCall) (s : NamingService) : List Sent :=
  match call.request s with
  | some (service, clusters, .ok response) =>
    if response.isSuccess then [⟨service, clusters, response.serviceInfo⟩] else []
  | _ => []

/-! ## Histories -/

structure History where
  service : NamingService
  sent : List Sent

inductive HistoryEvent where
  /-- An entry of the store, which `load_cache_at_start` reads; the server sent
  it to an earlier process. -/
  | load (key : String) (stored : Sent)
  /-- An update task emits the answer to its query. -/
  | poll (service : Service) (clusters : String) (info : ServiceInfo)
  /-- A call of the user; `emit` is a push, sent for the service it names. -/
  | call (call : ServiceCall)

/-- The emitter handles a service info. -/
def History.receive (h : History) (m : Sent) : History where
  service := h.service.emit m.info
  sent := h.sent ++ [m]

def History.step (h : History) : HistoryEvent → History
  | .load key stored => {
      service := { h.service with namingCache := h.service.namingCache.insert key stored.info }
      sent := h.sent ++ [stored] }
  | .poll service clusters info => h.receive ⟨service, clusters, info⟩
  | .call (.emit info) => h.receive ⟨⟨info.name, info.groupName⟩, info.clusters, info⟩
  | .call call => {
      service := h.service.take call
      sent := h.sent ++ call.responses h.service }

def History.stepAll (h : History) (events : List HistoryEvent) : History :=
  events.foldl History.step h

def History.start (namespace_ : String) (pushEmptyProtection : Bool) : History where
  service := NamingService.new namespace_ pushEmptyProtection ∅
  sent := []

/-! ## What was filed last -/

/-- The emitter files a service info: it has hosts, the push protection lets it
through, and it is no older than the one filed before it and changes its
hosts. -/
def Sent.filedAfter (m : Sent) (pushEmptyProtection : Bool) (last : Option Sent) : Bool :=
  considered pushEmptyProtection m.info && isChangedServiceInfo (last.map Sent.info) m.info

/-- A poll or a push files under the key of the service that it names. -/
def Sent.fileUnder (m : Sent) (pushEmptyProtection : Bool) (key : String) (last : Option Sent) :
    Option Sent :=
  if m.info.key = key ∧ m.filedAfter pushEmptyProtection last = true then some m else last

def HistoryEvent.fileUnder (e : HistoryEvent) (pushEmptyProtection : Bool) (key : String)
    (last : Option Sent) : Option Sent :=
  match e with
  | .load k stored => if key = k then some stored else last
  | .poll service clusters info =>
    Sent.fileUnder ⟨service, clusters, info⟩ pushEmptyProtection key last
  | .call (.emit info) =>
    Sent.fileUnder ⟨⟨info.name, info.groupName⟩, info.clusters, info⟩ pushEmptyProtection key last
  | .call _ => last

/-- What a poll, a push or the store brings. -/
def HistoryEvent.snapshot : HistoryEvent → Option Sent
  | .load _ stored => some stored
  | .poll service clusters info => some ⟨service, clusters, info⟩
  | .call (.emit info) => some ⟨⟨info.name, info.groupName⟩, info.clusters, info⟩
  | .call _ => none

theorem fileUnder_eq {e : HistoryEvent} {p : Bool} {key : String} {last : Option Sent} {m : Sent}
    (h : e.fileUnder p key last = some m) : last = some m ∨ e.snapshot = some m := by
  have hsnapshot : ∀ new : Sent, new.fileUnder p key last = some m →
      last = some m ∨ some new = some m := by
    intro new hnew
    unfold Sent.fileUnder at hnew
    split at hnew
    · exact Or.inr hnew
    · exact Or.inl hnew
  cases e with
  | load k stored =>
    simp only [HistoryEvent.fileUnder] at h
    split at h
    · exact Or.inr h
    · exact Or.inl h
  | poll service clusters info => exact hsnapshot _ h
  | call call =>
    cases call with
    | emit info => exact hsnapshot _ h
    | subscribe => exact Or.inl h
    | unsubscribe => exact Or.inl h
    | getAllInstances => exact Or.inl h
    | backgroundAnswer => exact Or.inl h

/-- The last service info that the events filed under a key. -/
def lastFiled (pushEmptyProtection : Bool) (events : List HistoryEvent) (key : String) :
    Option Sent :=
  events.foldl (fun last e => e.fileUnder pushEmptyProtection key last) none

/-- The last one for a service, under its key with the clusters or else under
the one without them, which the emitter uses. -/
def lastFiledFor (pushEmptyProtection : Bool) (events : List HistoryEvent) (service : Service)
    (clusters : String) : Option Sent :=
  (lastFiled pushEmptyProtection events (service.updateKey clusters)).or
    (lastFiled pushEmptyProtection events service.key)

/-- The cache holds what was filed last, and the server sent it. -/
structure History.Filed (h : History) (pushEmptyProtection : Bool) (last : String → Option Sent) :
    Prop where
  protection : h.service.pushEmptyProtection = pushEmptyProtection
  cached : ∀ key, h.service.namingCache.get? key = (last key).map Sent.info
  sent : ∀ key m, last key = some m → m ∈ h.sent

theorem start_filed (namespace_ : String) (pushEmptyProtection : Bool) :
    (History.start namespace_ pushEmptyProtection).Filed pushEmptyProtection fun _ => none where
  protection := rfl
  cached := fun _ => rfl
  sent := fun _ _ h => by cases h

theorem processServiceInfo_cache (p : Bool) (cache : HashMap ServiceInfo) (info : ServiceInfo) :
    (processServiceInfo p cache info).2 =
      if considered p info && isChangedServiceInfo (cache.get? info.key) info then
        cache.insert info.key info
      else cache := by
  cases hc : considered p info with
  | true =>
    rw [processServiceInfo_considered hc]
    rfl
  | false =>
    rw [processServiceInfo_rejected hc]
    rfl

section Filing

variable {h : History} {p : Bool} {last : String → Option Sent}

theorem receive_filed (hf : h.Filed p last) (m : Sent) :
    (h.receive m).Filed p fun key => m.fileUnder p key (last key) := by
  constructor
  · exact hf.protection
  · intro key
    simp only [History.receive, NamingService.emit, hf.protection, processServiceInfo_cache,
      hf.cached, Sent.fileUnder, Sent.filedAfter]
    by_cases hkey : m.info.key = key
    · subst hkey
      split
      · next hnotify => simp [hnotify]
      · next hnotify => simp [hnotify, hf.cached]
    · simp only [hkey, false_and, ↓reduceIte]
      split
      · rw [HashMap.get?_insert_ne _ _ (Ne.symm hkey), hf.cached]
      · exact hf.cached key
  · intro key kept hk
    unfold Sent.fileUnder at hk
    split at hk
    · cases hk
      exact List.mem_append_right _ (List.mem_singleton.mpr rfl)
    · exact List.mem_append_left _ (hf.sent key kept hk)

theorem load_filed (hf : h.Filed p last) (k : String) (stored : Sent) :
    (h.step (.load k stored)).Filed p fun key =>
      (HistoryEvent.load k stored).fileUnder p key (last key) := by
  constructor
  · exact hf.protection
  · intro key
    simp only [History.step, HistoryEvent.fileUnder, HashMap.get?_insert]
    split
    · rfl
    · exact hf.cached key
  · intro key kept hk
    simp only [HistoryEvent.fileUnder] at hk
    split at hk
    · cases hk
      exact List.mem_append_right _ (List.mem_singleton.mpr rfl)
    · exact List.mem_append_left _ (hf.sent key kept hk)

/-- No call of the user writes the cache. -/
theorem take_frame (s : NamingService) (call : ServiceCall) (h : ∀ info, call ≠ .emit info) :
    (s.take call).namingCache = s.namingCache ∧
      (s.take call).pushEmptyProtection = s.pushEmptyProtection := by
  cases call with
  | subscribe serviceName groupName clusters eventListener answer =>
    simp only [NamingService.take, NamingService.subscribe]
    split
    · exact ⟨rfl, rfl⟩
    · exact subscribeAsync_frame _ _ _ _ _ _
  | unsubscribe serviceName groupName clusters eventListener answer =>
    simp only [NamingService.take, NamingService.unsubscribe]
    split
    · exact ⟨rfl, rfl⟩
    · simp only [NamingService.unsubscribeAsync]
      split <;> exact ⟨rfl, rfl⟩
  | getAllInstances serviceName groupName clusters subscribe answer =>
    simp only [NamingService.take, NamingService.getAllInstances]
    split
    · exact ⟨rfl, rfl⟩
    · simp only [NamingService.getAllInstancesAsync]
      split
      · split
        · exact ⟨rfl, rfl⟩
        · split
          · exact subscribeAsync_frame _ _ _ _ _ _
          · exact subscribeAsync_frame _ _ _ _ _ _
      · split <;> exact ⟨rfl, rfl⟩
  | backgroundAnswer i answer =>
    simp only [NamingService.take, NamingService.backgroundAnswer]
    split
    · exact ⟨rfl, rfl⟩
    · split <;> exact ⟨rfl, rfl⟩
  | emit info => exact absurd rfl (h info)

theorem call_filed (hf : h.Filed p last) {call : ServiceCall} (hne : ∀ info, call ≠ .emit info) :
    History.Filed { service := h.service.take call, sent := h.sent ++ call.responses h.service }
      p last where
  protection := (take_frame _ _ hne).2.trans hf.protection
  cached := fun key => by
    simp only [take_frame _ _ hne]
    exact hf.cached key
  sent := fun key m hm => List.mem_append_left _ (hf.sent key m hm)

theorem step_filed (hf : h.Filed p last) (e : HistoryEvent) :
    (h.step e).Filed p fun key => e.fileUnder p key (last key) := by
  cases e with
  | load key stored => exact load_filed hf key stored
  | poll service clusters info => exact receive_filed hf _
  | call call =>
    cases call with
    | emit info => exact receive_filed hf _
    | subscribe => exact call_filed hf fun _ => by simp
    | unsubscribe => exact call_filed hf fun _ => by simp
    | getAllInstances => exact call_filed hf fun _ => by simp
    | backgroundAnswer => exact call_filed hf fun _ => by simp

theorem foldl_filed (hf : h.Filed p last) (events : List HistoryEvent) :
    (h.stepAll events).Filed p fun key =>
      events.foldl (fun last e => e.fileUnder p key last) (last key) := by
  induction events generalizing h last with
  | nil => exact hf
  | cons e events ih => exact ih (step_filed hf e)

end Filing

theorem stepAll_filed (namespace_ : String) (p : Bool) (events : List HistoryEvent) :
    ((History.start namespace_ p).stepAll events).Filed p (lastFiled p events) :=
  foldl_filed (start_filed namespace_ p) events

/-! ## One query -/

/-- A successful answer is the host list of a service info that the server sent
for this service and these clusters, and a failed request is not reported as an
empty list. -/
def History.Faithful (h : History) (serviceName : String) (groupName : Option String)
    (clusters : List String) (subscribe : Bool) (answer : Answer) : Prop :=
  let call := ServiceCall.getAllInstances serviceName groupName clusters subscribe answer
  let result := (h.service.getAllInstances serviceName groupName clusters subscribe answer).1
  (∀ v, result = .ok v → ∃ m ∈ (h.step (.call call)).sent,
    m.service = Service.of serviceName groupName ∧ m.clusters = joinClusters clusters ∧
      m.info.hosts.getD [] = v) ∧
  ∀ request, call.request h.service = some request → acknowledged request.2.2 = false →
    result ≠ .ok []

/-- The last filed service info was sent for the service and clusters, or it
carries the hosts of one that was; with none filed, the request of the call is
acknowledged. -/
def AnsweredFor (last : Option Sent) (sent : List Sent) (service : Service) (clusters : String)
    (answer : Answer) : Prop :=
  match last with
  | some m => (m.service = service ∧ m.clusters = clusters) ∨
      ∃ own ∈ sent, own.service = service ∧ own.clusters = clusters ∧
        own.info.hosts.getD [] = m.info.hosts.getD []
  | none => acknowledged answer = true

section Query

variable {s : NamingService} {serviceName : String} {groupName : Option String}
  {clusters : List String} {answer : Answer}

/-- With an entry to find, the call answers with the hosts of that entry. -/
theorem getAllInstancesAsync_cached {info : ServiceInfo}
    (h : s.cachedInfo (Service.of serviceName groupName) (joinClusters clusters) = some info) :
    (s.getAllInstancesAsync serviceName groupName clusters true answer).1 =
      .ok (info.hosts.getD []) := by
  have hkey : getKeyWithoutClusters serviceName (normalizeGroupName groupName) =
      (Service.of serviceName groupName).key := rfl
  have hwith : getKey (getGroupedServiceName serviceName (normalizeGroupName groupName))
      (joinClusters clusters) =
        (Service.of serviceName groupName).updateKey (joinClusters clusters) := rfl
  simp only [NamingService.getAllInstancesAsync, ↓reduceIte, NamingService.subscribeAsync,
    NamingService.addSubscription, normalizeGroupName_idem, hkey, hwith]
  rcases Option.or_eq_some_iff.mp h with hw | ⟨hw, ho⟩
  · rw [hw]
  · rw [hw, ho]

/-- With nothing to find, the answer to the request decides; a failure becomes
an empty list. -/
theorem getAllInstancesAsync_asked
    (h : s.cachedInfo (Service.of serviceName groupName) (joinClusters clusters) = none) :
    (s.getAllInstancesAsync serviceName groupName clusters true answer).1 =
      match acknowledge "subscribe" answer with
      | .ok info => .ok (info.hosts.getD [])
      | .error _ => .ok [] := by
  have hkey : getKeyWithoutClusters serviceName (normalizeGroupName groupName) =
      (Service.of serviceName groupName).key := rfl
  have hwith : getKey (getGroupedServiceName serviceName (normalizeGroupName groupName))
      (joinClusters clusters) =
        (Service.of serviceName groupName).updateKey (joinClusters clusters) := rfl
  obtain ⟨hw, ho⟩ := Option.or_eq_none_iff.mp h
  simp only [NamingService.getAllInstancesAsync, ↓reduceIte, NamingService.subscribeAsync,
    NamingService.addSubscription, normalizeGroupName_idem, hkey, hwith, hw, ho]
  cases acknowledge "subscribe" answer <;> rfl

end Query

theorem getAllInstances_of_blank {serviceName : String} (h : isBlank serviceName = true)
    (s : NamingService) (groupName : Option String) (clusters : List String) (subscribe : Bool)
    (answer : Answer) :
    (s.getAllInstances serviceName groupName clusters subscribe answer).1 =
      .error (.invalidParam "service_name" "param must not blank!") := by
  simp [NamingService.getAllInstances, checkNotBlank, h]

theorem getAllInstances_of_notBlank {serviceName : String} (h : isBlank serviceName = false)
    (s : NamingService) (groupName : Option String) (clusters : List String) (subscribe : Bool)
    (answer : Answer) :
    s.getAllInstances serviceName groupName clusters subscribe answer =
      s.getAllInstancesAsync serviceName groupName clusters subscribe answer := by
  simp [NamingService.getAllInstances, checkNotBlank, h]

/-- What an acknowledged request adds to the history. -/
theorem responses_of_request {call : ServiceCall} {s : NamingService} {service : Service}
    {clusters : String} {answer : Answer} {info : ServiceInfo} {operation : String}
    (h : call.request s = some (service, clusters, answer))
    (ha : acknowledge operation answer = .ok info) :
    ⟨service, clusters, info⟩ ∈ call.responses s := by
  unfold ServiceCall.responses
  rw [h]
  cases answer with
  | error e => cases ha
  | ok response =>
    simp only [acknowledge, handleResponse] at ha
    cases hs : response.isSuccess with
    | true =>
      simp only [hs, ↓reduceIte, Except.ok.injEq] at ha
      simp [hs, ha]
    | false => simp [hs] at ha

theorem step_getAllInstances_sent (h : History) (serviceName : String) (groupName : Option String)
    (clusters : List String) (subscribe : Bool) (answer : Answer) :
    (h.step (.call (.getAllInstances serviceName groupName clusters subscribe answer))).sent =
      h.sent ++ (ServiceCall.getAllInstances serviceName groupName clusters subscribe
        answer).responses h.service := rfl

section Faithful

variable {h : History} {serviceName : String} {groupName : Option String}
  {clusters : List String} {answer : Answer}

/-- A call that finds an entry makes no request, so what was sent before it
decides. -/
theorem faithful_cached_iff (hblank : isBlank serviceName = false) {m : Sent} (hm : m ∈ h.sent)
    (hfound : h.service.cachedInfo (Service.of serviceName groupName) (joinClusters clusters) =
      some m.info) :
    h.Faithful serviceName groupName clusters true answer ↔
      AnsweredFor (some m) h.sent (Service.of serviceName groupName) (joinClusters clusters)
        answer := by
  have hrequest : (ServiceCall.getAllInstances serviceName groupName clusters true answer).request
      h.service = none := by
    simp [ServiceCall.request, hblank, hfound]
  have hsent : (h.step (.call (.getAllInstances serviceName groupName clusters true
      answer))).sent = h.sent := by
    rw [step_getAllInstances_sent, ServiceCall.responses, hrequest, List.append_nil]
  unfold History.Faithful
  simp only [getAllInstances_of_notBlank hblank, getAllInstancesAsync_cached hfound, hsent,
    hrequest]
  constructor
  · rintro ⟨hok, -⟩
    exact Or.inr (hok _ rfl)
  · intro hanswered
    refine ⟨fun v hv => ?_, fun _ hr => by cases hr⟩
    cases hv
    rcases hanswered with ⟨hservice, hclusters⟩ | hown
    · exact ⟨m, hm, hservice, hclusters, rfl⟩
    · exact hown

/-- A call that finds no entry is answered faithfully once its request is
acknowledged, and only then. -/
theorem faithful_asked_iff (hblank : isBlank serviceName = false)
    (hfound : h.service.cachedInfo (Service.of serviceName groupName) (joinClusters clusters) =
      none) :
    h.Faithful serviceName groupName clusters true answer ↔ acknowledged answer = true := by
  have hrequest : (ServiceCall.getAllInstances serviceName groupName clusters true answer).request
      h.service = some (Service.of serviceName groupName, joinClusters clusters, answer) := by
    simp [ServiceCall.request, hblank, hfound]
  unfold History.Faithful
  simp only [getAllInstances_of_notBlank hblank, getAllInstancesAsync_asked hfound]
  cases ha : acknowledged answer with
  | true =>
    obtain ⟨info, hi⟩ := acknowledge_of_true ha "subscribe"
    refine iff_of_true ⟨fun v hv => ?_, fun request hr hfail => ?_⟩ rfl
    · rw [hi] at hv
      refine ⟨⟨Service.of serviceName groupName, joinClusters clusters, info⟩, ?_, rfl, rfl,
        Except.ok.inj hv⟩
      rw [step_getAllInstances_sent]
      exact List.mem_append_right _ (responses_of_request hrequest hi)
    · rw [hrequest] at hr
      cases hr
      rw [ha] at hfail
      cases hfail
  | false =>
    obtain ⟨e, he⟩ := acknowledge_of_false ha "subscribe"
    refine iff_of_false (fun hfaithful => ?_) Bool.false_ne_true
    exact hfaithful.2 _ hrequest ha (by rw [he])

end Faithful

/-- What a call finds was filed last for its service. -/
theorem cachedInfo_filed {h : History} {p : Bool} {events : List HistoryEvent}
    (hf : h.Filed p (lastFiled p events)) (service : Service) (clusters : String) :
    h.service.cachedInfo service clusters =
      (lastFiledFor p events service clusters).map Sent.info := by
  unfold NamingService.cachedInfo lastFiledFor
  rw [hf.cached, hf.cached, Option.map_or]

theorem mem_sent_of_lastFiledFor {h : History} {p : Bool} {events : List HistoryEvent}
    (hf : h.Filed p (lastFiled p events)) {service : Service} {clusters : String} {m : Sent}
    (hm : lastFiledFor p events service clusters = some m) : m ∈ h.sent := by
  rcases Option.or_eq_some_iff.mp hm with hw | ⟨_, ho⟩
  · exact hf.sent _ m hw
  · exact hf.sent _ m ho

/-- What was filed last was brought by one of the events. -/
theorem lastFiled_brought {p : Bool} {events : List HistoryEvent} {key : String} {m : Sent}
    (h : lastFiled p events key = some m) : ∃ e ∈ events, e.snapshot = some m := by
  induction events using List.reverseRecOn with
  | nil => cases h
  | append_singleton events e ih =>
    rw [lastFiled, List.foldl_append, List.foldl_cons, List.foldl_nil] at h
    rcases fileUnder_eq h with hlast | hnew
    · obtain ⟨e', he', hs⟩ := ih hlast
      exact ⟨e', List.mem_append_left _ he', hs⟩
    · exact ⟨e, List.mem_append_right _ (List.mem_singleton.mpr rfl), hnew⟩

/-- The condition holds where no other service and clusters were polled, pushed
or loaded. -/
theorem answeredFor_of_ownPolls {p : Bool} {events : List HistoryEvent} {sent : List Sent}
    {service : Service} {clusters : String} {answer : Answer}
    (hown : ∀ e ∈ events, ∀ m, e.snapshot = some m → m.service = service ∧ m.clusters = clusters)
    (hfiled : (lastFiledFor p events service clusters).isSome = true ∨
      acknowledged answer = true) :
    AnsweredFor (lastFiledFor p events service clusters) sent service clusters answer := by
  cases hlast : lastFiledFor p events service clusters with
  | none =>
    rw [hlast] at hfiled
    exact hfiled.resolve_left Bool.false_ne_true
  | some m =>
    rcases Option.or_eq_some_iff.mp hlast with hw | ⟨_, ho⟩
    · obtain ⟨e, he, hs⟩ := lastFiled_brought hw
      exact Or.inl (hown e he m hs)
    · obtain ⟨e, he, hs⟩ := lastFiled_brought ho
      exact Or.inl (hown e he m hs)

/-- **The answer was sent for the call.** After any history, a call with a
subscription answers faithfully exactly when the last service info filed for
its service was sent for its own clusters or carries their hosts, or none was
filed and the server acknowledges the request. A blank name is refused. -/
theorem getAllInstances_faithful_iff (namespace_ : String) (p : Bool) (events : List HistoryEvent)
    (serviceName : String) (groupName : Option String) (clusters : List String)
    (answer : Answer) :
    ((History.start namespace_ p).stepAll events).Faithful serviceName groupName clusters true
        answer ↔
      isBlank serviceName = true ∨
        AnsweredFor (lastFiledFor p events (Service.of serviceName groupName)
            (joinClusters clusters))
          ((History.start namespace_ p).stepAll events).sent (Service.of serviceName groupName)
          (joinClusters clusters) answer := by
  have hf := stepAll_filed namespace_ p events
  generalize (History.start namespace_ p).stepAll events = h at hf
  cases hblank : isBlank serviceName with
  | true =>
    refine iff_of_true ?_ (Or.inl rfl)
    unfold History.Faithful
    simp only [getAllInstances_of_blank hblank]
    refine ⟨fun _ hv => ?_, fun _ _ _ hv => ?_⟩
    · cases hv
    · cases hv
  | false =>
    have hfound := cachedInfo_filed hf (Service.of serviceName groupName) (joinClusters clusters)
    simp only [Bool.false_eq_true, false_or]
    cases hlast : lastFiledFor p events (Service.of serviceName groupName)
        (joinClusters clusters) with
    | some m =>
      rw [hlast] at hfound
      exact faithful_cached_iff hblank (mem_sent_of_lastFiledFor hf hlast) hfound
    | none =>
      rw [hlast] at hfound
      exact faithful_asked_iff hblank hfound

/-- Without a subscription every call asks the server for its own service and
clusters and reports a failure. -/
theorem directQuery_faithful (h : History) (serviceName : String) (groupName : Option String)
    (clusters : List String) (answer : Answer) :
    h.Faithful serviceName groupName clusters false answer := by
  unfold History.Faithful
  cases hblank : isBlank serviceName with
  | true =>
    simp only [getAllInstances_of_blank hblank]
    refine ⟨fun _ hv => ?_, fun _ _ _ hv => ?_⟩
    · cases hv
    · cases hv
  | false =>
    have hr : (ServiceCall.getAllInstances serviceName groupName clusters false answer).request
        h.service = some (Service.of serviceName groupName, joinClusters clusters, answer) := by
      simp [ServiceCall.request, hblank]
    simp only [getAllInstances_of_notBlank hblank, NamingService.getAllInstancesAsync,
      Bool.false_eq_true, ↓reduceIte]
    cases ha : acknowledge "get_all_instances" answer with
    | error e =>
      refine ⟨fun _ hv => ?_, fun _ _ _ hv => ?_⟩
      · cases hv
      · cases hv
    | ok info =>
      constructor
      · intro v hv
        refine ⟨⟨Service.of serviceName groupName, joinClusters clusters, info⟩, ?_, rfl, rfl,
          Except.ok.inj hv⟩
        rw [step_getAllInstances_sent]
        exact List.mem_append_right _ (responses_of_request hr ha)
      · intro request hreq hfail
        rw [hr] at hreq
        cases hreq
        obtain ⟨e, he⟩ := acknowledge_of_false hfail "get_all_instances"
        rw [he] at ha
        cases ha

/-! ## Two cluster lists of one service -/

def clusterInfo (clusters ip : String) : ServiceInfo :=
  { ordersInfo 1 [hostAt ip 8080] with clusters := clusters }

/-- A listener subscribes to cluster `b` and the update task polls it. -/
def pollOfB : List HistoryEvent :=
  [.call (.subscribe "orders" none ["b"] 0
      (.ok { GrpcResponse.ok with serviceInfo := clusterInfo "b" "10.0.0.2" })),
    .poll ordersService "b" (clusterInfo "b" "10.0.0.2")]

theorem getAllInstances_faithful_pollOfB :
    ((History.start "public" false).stepAll pollOfB).Faithful "orders" none ["b"] true
      (.error .noAvailableServer) :=
  (getAllInstances_faithful_iff "public" false pollOfB "orders" none ["b"] _).mpr
    (Or.inr (answeredFor_of_ownPolls (by decide) (by decide)))

/-- A query for cluster `a` returns the hosts of cluster `b`; a query that the
server never answers returns an empty list. -/
theorem otherClusters_not_faithful :
    ¬ ((History.start "public" false).stepAll pollOfB).Faithful "orders" none ["a"] true
        (.error .noAvailableServer) ∧
      ¬ (History.start "public" false).Faithful "orders" none ["a"] true
        (.error .noAvailableServer) := by
  constructor
  · rintro ⟨hok, _⟩
    obtain ⟨m, hm, _, hclusters, _⟩ := hok [hostAt "10.0.0.2" 8080] (by rfl)
    have hsent : ∀ m ∈ (((History.start "public" false).stepAll pollOfB).step (.call
        (.getAllInstances "orders" none ["a"] true (.error .noAvailableServer)))).sent,
        m.clusters = "b" := by decide
    rw [hsent m hm] at hclusters
    exact absurd hclusters (by decide)
  · rintro ⟨_, hfail⟩
    exact hfail (ordersService, "a", .error .noAvailableServer) rfl rfl rfl

end NacosSdk.Naming
