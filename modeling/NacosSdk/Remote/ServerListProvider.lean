import NacosSdk.Lib.Pending
import NacosSdk.Lib.Run
import NacosSdk.Remote.ServerList

/-!
# The server list of an endpoint

`EndpointServerListProvider` of `common/remote/server_list/provider.rs` under
concurrent calls of `current_server_list`: the due test, the fetch, the store of
the list and the store of the refresh time are steps of their own. Fetches are
numbered in the order in which they start. Proved here, for every interleaving:

* `provider_step`: what one step keeps;
* `created_reliable`: what a call may rely on, from the creation of the provider;
* `serverList_law`: the lists returned, the fetches that failed, and the order
  in which lists are stored;
* `overtaken_not_inOrder`: a fetch that is overtaken by a later one.
-/

namespace NacosSdk.Remote
open NacosSdk.Common NacosSdk.Lib.Pending NacosSdk.Lib.Run

/-! ## Fetching -/

/-- What the endpoint sends, up to the first error. -/
inductive EndpointAnswer where
  | sendError (err : String)
  | statusError (err : String)
  | bodyError (err : String)
  | body (text : String)
  deriving DecidableEq

def fetchServerList (defaultPort : UInt16) (endpointUrl : String) :
    EndpointAnswer → Except Error (List String)
  | .sendError err | .statusError err =>
    .error (.wrongServerAddress
      ("Failed to fetch endpoint server list from " ++ endpointUrl ++ ": " ++ err))
  | .bodyError err =>
    .error (.wrongServerAddress
      ("Failed to read endpoint server list from " ++ endpointUrl ++ ": " ++ err))
  | .body text => parseServerList defaultPort text

theorem fetchServerList_ne_nil {defaultPort : UInt16} {endpointUrl : String}
    {answer : EndpointAnswer} {list : List String}
    (h : fetchServerList defaultPort endpointUrl answer = .ok list) : list ≠ [] := by
  cases answer with
  | body text => exact (parseServerList_ok h).2
  | _ => cases h

/-! ## The provider -/

structure EndpointServerListProvider where
  endpointUrl : String
  /-- `get_value_u16(ENV_NACOS_CLIENT_COMMON_SERVER_PORT, ..)`. -/
  defaultPort : UInt16
  refreshInterval : Nat
  cachedServerList : List String
  lastRefreshAt : Nat

def EndpointServerListProvider.withRefreshInterval (endpointUrl : String) (defaultPort : UInt16)
    (initialServerList : List String) (refreshInterval now : Nat) :
    EndpointServerListProvider where
  endpointUrl := endpointUrl
  defaultPort := defaultPort
  refreshInterval := refreshInterval
  cachedServerList := initialServerList
  lastRefreshAt := now

/-- The endpoint branch of `create_server_list_provider`, which builds the
provider with `new`. -/
def createServerListProvider (endpointUrl : String) (defaultPort : UInt16) (now : Nat)
    (answer : EndpointAnswer) : Except Error EndpointServerListProvider :=
  match fetchServerList defaultPort endpointUrl answer with
  | .error e => .error e
  | .ok initialList =>
    .ok (EndpointServerListProvider.withRefreshInterval endpointUrl defaultPort initialList 30000
      now)

theorem createServerListProvider_ne_nil {endpointUrl : String} {defaultPort : UInt16} {now : Nat}
    {answer : EndpointAnswer} {provider : EndpointServerListProvider}
    (h : createServerListProvider endpointUrl defaultPort now answer = .ok provider) :
    provider.cachedServerList ≠ [] := by
  unfold createServerListProvider at h
  split at h
  · cases h
  · next initialList hok =>
    cases h
    exact fetchServerList_ne_nil hok

def EndpointServerListProvider.shouldRefresh (provider : EndpointServerListProvider) (now : Nat) :
    Bool :=
  now - provider.lastRefreshAt ≥ provider.refreshInterval

/-- Where a call of `current_server_list` is. -/
inductive CallPhase where
  | testing
  | due
  | fetching (n : Nat)
  | storing (n : Nat) (serverList : List String)
  /-- About to store the refresh time. -/
  | stamping
  | returning
  | returned (serverList : List String)
  deriving DecidableEq

structure ProviderCalls where
  provider : EndpointServerListProvider
  now : Nat
  calls : List CallPhase
  /-- How many fetches were started; the initial one has the number 0. -/
  started : Nat
  /-- The answer to every fetch that is over. -/
  answered : List (Nat × EndpointAnswer)
  /-- Every list that was stored, with its fetch. -/
  stored : List (Nat × List String)

def ProviderCalls.start (provider : EndpointServerListProvider) (now : Nat) : ProviderCalls where
  provider := provider
  now := now
  calls := []
  started := 0
  answered := []
  stored := [(0, provider.cachedServerList)]

inductive ProviderEvent where
  | tick (millis : Nat)
  | call
  | answer (i : Nat) (answer : EndpointAnswer)
  /-- A call goes on by one step. -/
  | proceed (i : Nat)

def ProviderCalls.proceed (s : ProviderCalls) (i : Nat) : CallPhase → Option ProviderCalls
  | .testing =>
    some { s with
      calls := s.calls.set i (if s.provider.shouldRefresh s.now then .due else .returning) }
  | .due =>
    some { s with
      calls := s.calls.set i (.fetching (s.started + 1))
      started := s.started + 1 }
  | .storing n serverList =>
    some { s with
      provider := { s.provider with cachedServerList := serverList }
      calls := s.calls.set i .stamping
      stored := s.stored ++ [(n, serverList)] }
  | .stamping =>
    some { s with
      provider := { s.provider with lastRefreshAt := s.now }
      calls := s.calls.set i .returning }
  | .returning =>
    some { s with calls := s.calls.set i (.returned s.provider.cachedServerList) }
  | .fetching _ | .returned _ => none

def ProviderCalls.step (s : ProviderCalls) : ProviderEvent → Option ProviderCalls
  | .tick millis => some { s with now := s.now + millis }
  | .call => some { s with calls := s.calls ++ [.testing] }
  | .answer i answer =>
    match s.calls[i]? with
    | some (.fetching n) =>
      some { s with
        answered := s.answered ++ [(n, answer)]
        calls := s.calls.set i
          (match fetchServerList s.provider.defaultPort s.provider.endpointUrl answer with
          | .ok serverList => .storing n serverList
          | .error _ => .stamping) }
    | _ => none
  | .proceed i =>
    match s.calls[i]? with
    | some phase => s.proceed i phase
    | none => none

/-! ## Steps -/

/-- All that one step can do. -/
inductive ProviderCalls.Step (s : ProviderCalls) : ProviderEvent → ProviderCalls → Prop
  | tick (millis : Nat) : Step s (.tick millis) { s with now := s.now + millis }
  | call : Step s .call { s with calls := s.calls ++ [.testing] }
  | test {i : Nat} {phase : CallPhase} (hcall : s.calls[i]? = some .testing)
      (hphase : phase = .due ∨ phase = .returning) :
      Step s (.proceed i) { s with calls := s.calls.set i phase }
  | fetch {i : Nat} (hcall : s.calls[i]? = some .due) :
      Step s (.proceed i)
        { s with
          calls := s.calls.set i (.fetching (s.started + 1))
          started := s.started + 1 }
  | answer {i n : Nat} {answer : EndpointAnswer} {phase : CallPhase}
      (hcall : s.calls[i]? = some (.fetching n))
      (hphase : (∃ serverList, phase = .storing n serverList ∧
          fetchServerList s.provider.defaultPort s.provider.endpointUrl answer = .ok serverList) ∨
        phase = .stamping) :
      Step s (.answer i answer)
        { s with
          answered := s.answered ++ [(n, answer)]
          calls := s.calls.set i phase }
  | store {i n : Nat} {serverList : List String}
      (hcall : s.calls[i]? = some (.storing n serverList)) :
      Step s (.proceed i)
        { s with
          provider := { s.provider with cachedServerList := serverList }
          calls := s.calls.set i .stamping
          stored := s.stored ++ [(n, serverList)] }
  | stamp {i : Nat} (hcall : s.calls[i]? = some .stamping) :
      Step s (.proceed i)
        { s with
          provider := { s.provider with lastRefreshAt := s.now }
          calls := s.calls.set i .returning }
  | return_ {i : Nat} (hcall : s.calls[i]? = some .returning) :
      Step s (.proceed i)
        { s with calls := s.calls.set i (.returned s.provider.cachedServerList) }

theorem providerStep_cases {s s' : ProviderCalls} {e : ProviderEvent} (h : s.step e = some s') :
    s.Step e s' := by
  cases e with
  | tick millis =>
    cases h
    exact .tick millis
  | call =>
    cases h
    exact .call
  | answer i answer =>
    simp only [ProviderCalls.step] at h
    split at h
    · next n hcall =>
      cases h
      apply ProviderCalls.Step.answer hcall
      split
      · next serverList hok => exact Or.inl ⟨serverList, rfl, hok⟩
      · exact Or.inr rfl
    · cases h
  | proceed i =>
    simp only [ProviderCalls.step] at h
    split at h
    · next phase hcall =>
      cases phase with
      | testing =>
        cases h
        apply ProviderCalls.Step.test hcall
        split
        · exact Or.inl rfl
        · exact Or.inr rfl
      | due =>
        cases h
        exact .fetch hcall
      | storing n serverList =>
        cases h
        exact .store hcall
      | stamping =>
        cases h
        exact .stamp hcall
      | returning =>
        cases h
        exact .return_ hcall
      | fetching n => cases h
      | returned serverList => cases h
    · cases h

/-! ## What every step keeps -/

/-- The fetch that a call has under way: not answered, or not stored yet. -/
def CallPhase.fetch : CallPhase → Option Nat
  | .fetching n | .storing n _ => some n
  | _ => none

def ProviderCalls.fetched (s : ProviderCalls) (answer : EndpointAnswer) :
    Except Error (List String) :=
  fetchServerList s.provider.defaultPort s.provider.endpointUrl answer

/-- No two calls have one fetch under way. -/
def OneCallEach (calls : List CallPhase) : Prop :=
  ∀ (i j : Nat) (a b : CallPhase) (n : Nat), calls[i]? = some a → calls[j]? = some b →
    a.fetch = some n → b.fetch = some n → i = j

structure ProviderCalls.Kept (s : ProviderCalls) : Prop where
  cached : ∃ n, s.stored.getLast? = some (n, s.provider.cachedServerList)
  nonempty : ∀ p ∈ s.stored, p.2 ≠ []
  origin : ∀ p ∈ s.stored, p.1 = 0 ∨
    ∃ answer, (p.1, answer) ∈ s.answered ∧ s.fetched answer = .ok p.2
  returned : ∀ list, .returned list ∈ s.calls → list ≠ []
  storing : ∀ n list, .storing n list ∈ s.calls →
    ∃ answer, (n, answer) ∈ s.answered ∧ s.fetched answer = .ok list
  unanswered : ∀ n, .fetching n ∈ s.calls → ∀ answer, (n, answer) ∉ s.answered
  once : ∀ n a b, (n, a) ∈ s.answered → (n, b) ∈ s.answered → a = b
  numbered : ∀ p ∈ s.answered, 0 < p.1 ∧ p.1 ≤ s.started
  underWay : ∀ call ∈ s.calls, ∀ n, call.fetch = some n → 0 < n ∧ n ≤ s.started
  apart : OneCallEach s.calls

theorem start_kept {provider : EndpointServerListProvider}
    (h : provider.cachedServerList ≠ []) (now : Nat) : (ProviderCalls.start provider now).Kept where
  cached := ⟨0, rfl⟩
  nonempty := by
    intro p hp
    rw [List.mem_singleton.mp hp]
    exact h
  origin := by
    intro p hp
    rw [List.mem_singleton.mp hp]
    exact Or.inl rfl
  returned := fun _ hm => by cases hm
  storing := fun _ _ hm => by cases hm
  unanswered := fun _ hm => by cases hm
  once := fun _ _ _ hm => by cases hm
  numbered := fun _ hm => by cases hm
  underWay := fun _ hm => by cases hm
  apart := fun _ _ _ _ _ hm => by cases hm

/-- A call may go on with its own fetch, with none, or with one that no call
has. -/
theorem oneCallEach_set {calls : List CallPhase} (h : OneCallEach calls) {i : Nat}
    {old new : CallPhase} (hold : calls[i]? = some old)
    (hnew : ∀ n, new.fetch = some n → old.fetch = some n ∨ ∀ call ∈ calls, call.fetch ≠ some n) :
    OneCallEach (calls.set i new) := by
  have hother : ∀ (j : Nat) (b : CallPhase) (n : Nat), j ≠ i → calls[j]? = some b →
      b.fetch = some n → new.fetch ≠ some n := by
    intro j b n hj hb hbn hn
    rcases hnew n hn with hsame | hnone
    · exact hj (h j i b old n hb hold hbn hsame)
    · exact hnone b (List.mem_of_getElem? hb) hbn
  intro j k a b n ha hb han hbn
  rcases set_cases ha with ⟨hj, rfl⟩ | ⟨hj, ha'⟩
  · rcases set_cases hb with ⟨hk, rfl⟩ | ⟨hk, hb'⟩
    · rw [hj, hk]
    · exact absurd han (hother k b n hk hb' hbn)
  · rcases set_cases hb with ⟨hk, rfl⟩ | ⟨hk, hb'⟩
    · exact absurd hbn (hother j a n hj ha' han)
    · exact h j k a b n ha' hb' han hbn

theorem oneCallEach_append {calls : List CallPhase} (h : OneCallEach calls) {new : CallPhase}
    (hnew : new.fetch = none) : OneCallEach (calls ++ [new]) := by
  have hold : ∀ (j : Nat) (a : CallPhase) (n : Nat), (calls ++ [new])[j]? = some a →
      a.fetch = some n → calls[j]? = some a := by
    intro j a n ha han
    rw [List.getElem?_append] at ha
    split at ha
    · exact ha
    · have hm := List.mem_of_getElem? ha
      rw [List.mem_singleton.mp hm, hnew] at han
      cases han
  intro j k a b n ha hb han hbn
  exact h j k a b n (hold j a n ha han) (hold k b n hb hbn) han hbn

/-- A phase that no call goes on to was there before. -/
theorem mem_of_mem_set {calls : List CallPhase} {i : Nat} {phase new : CallPhase}
    (h : phase ∈ calls.set i new) (hne : phase ≠ new) : phase ∈ calls := by
  rcases List.mem_or_eq_of_mem_set h with hm | he
  · exact hm
  · exact absurd he hne

/-- A call goes on without a fetch, and may store the refresh time. -/
theorem kept_move {s : ProviderCalls} (h : s.Kept) {i : Nat} {old new : CallPhase}
    (hold : s.calls[i]? = some old) (hnone : new.fetch = none)
    (hreturned : ∀ list, new = .returned list → list ≠ []) (lastRefreshAt : Nat) :
    ProviderCalls.Kept { s with
      provider := { s.provider with lastRefreshAt }
      calls := s.calls.set i new } where
  cached := h.cached
  nonempty := h.nonempty
  origin := h.origin
  returned := by
    intro list hm
    rcases List.mem_or_eq_of_mem_set hm with hm | rfl
    · exact h.returned list hm
    · exact hreturned list rfl
  storing := by
    intro n list hm
    rcases List.mem_or_eq_of_mem_set hm with hm | rfl
    · exact h.storing n list hm
    · cases hnone
  unanswered := by
    intro n hm
    rcases List.mem_or_eq_of_mem_set hm with hm | rfl
    · exact h.unanswered n hm
    · cases hnone
  once := h.once
  numbered := h.numbered
  underWay := by
    intro call hm n hn
    rcases List.mem_or_eq_of_mem_set hm with hm | rfl
    · exact h.underWay call hm n hn
    · rw [hnone] at hn
      cases hn
  apart := oneCallEach_set h.apart hold fun n hn => by
    rw [hnone] at hn
    cases hn

theorem kept_fetch {s : ProviderCalls} (h : s.Kept) {i : Nat} (hold : s.calls[i]? = some .due) :
    ProviderCalls.Kept { s with
      calls := s.calls.set i (.fetching (s.started + 1))
      started := s.started + 1 } where
  cached := h.cached
  nonempty := h.nonempty
  origin := h.origin
  returned := by
    intro list hm
    exact h.returned list (mem_of_mem_set hm (by simp))
  storing := by
    intro n list hm
    exact h.storing n list (mem_of_mem_set hm (by simp))
  unanswered := by
    intro n hm answer hanswer
    rcases List.mem_or_eq_of_mem_set hm with hm | he
    · exact h.unanswered n hm answer hanswer
    · cases he
      have hle : s.started + 1 ≤ s.started := (h.numbered _ hanswer).2
      omega
  once := h.once
  numbered := by
    intro p hp
    obtain ⟨hpos, hle⟩ := h.numbered p hp
    exact ⟨hpos, Nat.le_succ_of_le hle⟩
  underWay := by
    intro call hm n hn
    rcases List.mem_or_eq_of_mem_set hm with hm | rfl
    · obtain ⟨hpos, hle⟩ := h.underWay call hm n hn
      exact ⟨hpos, Nat.le_succ_of_le hle⟩
    · cases hn
      exact ⟨Nat.succ_pos _, le_rfl⟩
  apart := by
    apply oneCallEach_set h.apart hold
    intro n hn
    cases hn
    refine Or.inr fun call hm hfetch => ?_
    have hle := (h.underWay call hm _ hfetch).2
    omega

/-- No two answers to one fetch, when the next one is the first of its fetch. -/
theorem once_append {answered : List (Nat × EndpointAnswer)} {n : Nat}
    (h : ∀ m a b, (m, a) ∈ answered → (m, b) ∈ answered → a = b)
    (hnew : ∀ given, (n, given) ∉ answered) (answer : EndpointAnswer) :
    ∀ m a b, (m, a) ∈ answered ++ [(n, answer)] → (m, b) ∈ answered ++ [(n, answer)] →
      a = b := by
  intro m a b ha hb
  rcases List.mem_append.mp ha with ha | ha
  · rcases List.mem_append.mp hb with hb | hb
    · exact h m a b ha hb
    · cases List.mem_singleton.mp hb
      exact absurd ha (hnew a)
  · cases List.mem_singleton.mp ha
    rcases List.mem_append.mp hb with hb | hb
    · exact absurd hb (hnew b)
    · cases List.mem_singleton.mp hb
      rfl

/-- The call that is answered is the only one with its fetch. -/
theorem unanswered_set {s : ProviderCalls} (h : s.Kept) {i n : Nat} {phase : CallPhase}
    (hold : s.calls[i]? = some (.fetching n)) (hphase : ∀ m, phase ≠ .fetching m)
    (answer : EndpointAnswer) :
    ∀ m, .fetching m ∈ s.calls.set i phase → ∀ given,
      (m, given) ∉ s.answered ++ [(n, answer)] := by
  intro m hm given hgiven
  obtain ⟨j, hj⟩ := List.mem_iff_getElem?.mp hm
  rcases set_cases hj with ⟨_, hnew⟩ | ⟨hij, hj⟩
  · exact hphase m hnew.symm
  · rcases List.mem_append.mp hgiven with hgiven | hgiven
    · exact h.unanswered m (List.mem_of_getElem? hj) given hgiven
    · cases List.mem_singleton.mp hgiven
      exact hij (h.apart j i _ _ _ hj hold rfl rfl)

theorem kept_answer {s : ProviderCalls} (h : s.Kept) {i n : Nat} {answer : EndpointAnswer}
    {phase : CallPhase} (hold : s.calls[i]? = some (.fetching n))
    (hphase : (∃ serverList, phase = .storing n serverList ∧ s.fetched answer = .ok serverList) ∨
      phase = .stamping) :
    ProviderCalls.Kept { s with
      answered := s.answered ++ [(n, answer)]
      calls := s.calls.set i phase } := by
  have hfetching := List.mem_of_getElem? hold
  have hnew := h.unanswered n hfetching
  have hgrow : ∀ p ∈ s.answered, p ∈ s.answered ++ [(n, answer)] :=
    fun p hp => List.mem_append_left _ hp
  have hfetch : ∀ m, phase.fetch = some m → m = n := by
    intro m hm
    rcases hphase with ⟨serverList, rfl, _⟩ | rfl
    · cases hm
      rfl
    · cases hm
  have hnotFetching : ∀ m, phase ≠ .fetching m := by
    intro m hm
    rcases hphase with ⟨serverList, rfl, _⟩ | rfl <;> cases hm
  constructor
  · exact h.cached
  · exact h.nonempty
  · intro p hp
    rcases h.origin p hp with hzero | ⟨given, hgiven, hok⟩
    · exact Or.inl hzero
    · exact Or.inr ⟨given, hgrow _ hgiven, hok⟩
  · intro list hm
    rcases List.mem_or_eq_of_mem_set hm with hm | he
    · exact h.returned list hm
    · rcases hphase with ⟨serverList, rfl, _⟩ | rfl <;> cases he
  · intro m list hm
    rcases List.mem_or_eq_of_mem_set hm with hm | he
    · obtain ⟨given, hgiven, hok⟩ := h.storing m list hm
      exact ⟨given, hgrow _ hgiven, hok⟩
    · rcases hphase with ⟨serverList, rfl, hok⟩ | rfl
      · cases he
        exact ⟨answer, by simp, hok⟩
      · cases he
  · exact unanswered_set h hold hnotFetching answer
  · exact once_append h.once hnew answer
  · intro p hp
    rcases List.mem_append.mp hp with hp | hp
    · exact h.numbered p hp
    · rw [List.mem_singleton.mp hp]
      exact h.underWay _ hfetching n rfl
  · intro call hm m hm'
    rcases List.mem_or_eq_of_mem_set hm with hm | rfl
    · exact h.underWay call hm m hm'
    · rw [hfetch m hm']
      exact h.underWay _ hfetching n rfl
  · apply oneCallEach_set h.apart hold
    intro m hm
    rw [hfetch m hm]
    exact Or.inl rfl

theorem kept_store {s : ProviderCalls} (h : s.Kept) {i n : Nat} {serverList : List String}
    (hold : s.calls[i]? = some (.storing n serverList)) :
    ProviderCalls.Kept { s with
      provider := { s.provider with cachedServerList := serverList }
      calls := s.calls.set i .stamping
      stored := s.stored ++ [(n, serverList)] } := by
  obtain ⟨answer, hanswer, hok⟩ := h.storing n serverList (List.mem_of_getElem? hold)
  have hmoved := kept_move h hold (rfl : CallPhase.stamping.fetch = none)
    (fun _ he => by cases he) s.provider.lastRefreshAt
  constructor
  · exact ⟨n, by simp⟩
  · intro p hp
    rcases List.mem_append.mp hp with hp | hp
    · exact h.nonempty p hp
    · rw [List.mem_singleton.mp hp]
      exact fetchServerList_ne_nil hok
  · intro p hp
    rcases List.mem_append.mp hp with hp | hp
    · exact h.origin p hp
    · rw [List.mem_singleton.mp hp]
      exact Or.inr ⟨answer, hanswer, hok⟩
  · exact hmoved.returned
  · exact hmoved.storing
  · exact hmoved.unanswered
  · exact h.once
  · exact h.numbered
  · exact hmoved.underWay
  · exact hmoved.apart

theorem kept_call {s : ProviderCalls} (h : s.Kept) :
    ProviderCalls.Kept { s with calls := s.calls ++ [.testing] } := by
  have hold : ∀ phase, phase ≠ .testing → phase ∈ s.calls ++ [.testing] → phase ∈ s.calls := by
    intro phase hne hm
    rcases List.mem_append.mp hm with hm | hm
    · exact hm
    · exact absurd (List.mem_singleton.mp hm) hne
  constructor
  · exact h.cached
  · exact h.nonempty
  · exact h.origin
  · intro list hm
    exact h.returned list (hold _ (by simp) hm)
  · intro n list hm
    exact h.storing n list (hold _ (by simp) hm)
  · intro n hm
    exact h.unanswered n (hold _ (by simp) hm)
  · exact h.once
  · exact h.numbered
  · intro call hm n hn
    refine h.underWay call (hold call ?_ hm) n hn
    rintro rfl
    cases hn
  · exact oneCallEach_append h.apart rfl

theorem provider_step {s s' : ProviderCalls} {e : ProviderEvent} (h : s.Kept)
    (hstep : s.step e = some s') : s'.Kept := by
  cases providerStep_cases hstep with
  | tick millis => exact ⟨h.1, h.2, h.3, h.4, h.5, h.6, h.7, h.8, h.9, h.10⟩
  | call => exact kept_call h
  | test hcall hphase =>
    rcases hphase with rfl | rfl
    · exact kept_move h hcall rfl (fun _ he => by cases he) s.provider.lastRefreshAt
    · exact kept_move h hcall rfl (fun _ he => by cases he) s.provider.lastRefreshAt
  | fetch hcall => exact kept_fetch h hcall
  | answer hcall hphase => exact kept_answer h hcall hphase
  | store hcall => exact kept_store h hcall
  | stamp hcall => exact kept_move h hcall rfl (fun _ he => by cases he) s.now
  | return_ hcall =>
    apply kept_move h hcall rfl _ s.provider.lastRefreshAt
    intro list he
    cases he
    obtain ⟨n, hlast⟩ := h.cached
    exact h.nonempty _ (List.mem_of_getLast? hlast)

/-! ## The order of the lists -/

/-- A call that stores the list of its fetch has no fetch beside it that started
before. -/
def NoneOvertaken (s : ProviderCalls) : ProviderEvent → Prop
  | .proceed i => ∀ n serverList, s.calls[i]? = some (.storing n serverList) →
      ∀ call ∈ s.calls, ∀ m, call.fetch = some m → n ≤ m
  | _ => True

/-- Each list that is stored comes from a later fetch than the one before, and
from an earlier one than those under way. -/
structure ProviderCalls.InOrder (s : ProviderCalls) : Prop where
  sorted : (s.stored.map Prod.fst).Pairwise (· < ·)
  ahead : ∀ call ∈ s.calls, ∀ m, call.fetch = some m → ∀ p ∈ s.stored, p.1 < m

theorem stored_le {s : ProviderCalls} (h : s.Kept) {p : Nat × List String} (hp : p ∈ s.stored) :
    p.1 ≤ s.started := by
  rcases h.origin p hp with hzero | ⟨answer, hanswer, _⟩
  · omega
  · exact (h.numbered _ hanswer).2

theorem ahead_set {s : ProviderCalls} (h : s.InOrder) {i : Nat} {new : CallPhase}
    (hnew : ∀ m, new.fetch = some m → ∀ p ∈ s.stored, p.1 < m) :
    ∀ call ∈ s.calls.set i new, ∀ m, call.fetch = some m → ∀ p ∈ s.stored, p.1 < m := by
  intro call hm m hfetch
  rcases List.mem_or_eq_of_mem_set hm with hm | rfl
  · exact h.ahead call hm m hfetch
  · exact hnew m hfetch

theorem store_ahead {s : ProviderCalls} (hkept : s.Kept) {i n : Nat} {serverList : List String}
    (hcall : s.calls[i]? = some (.storing n serverList))
    (hnone : ∀ call ∈ s.calls, ∀ m, call.fetch = some m → n ≤ m) :
    ∀ call ∈ s.calls.set i .stamping, ∀ m, call.fetch = some m → n < m := by
  intro call hm m hfetch
  obtain ⟨j, hj⟩ := List.mem_iff_getElem?.mp hm
  rcases set_cases hj with ⟨_, rfl⟩ | ⟨hij, hj⟩
  · cases hfetch
  · have hle := hnone call (List.mem_of_getElem? hj) m hfetch
    have hne : n ≠ m := by
      rintro rfl
      exact hij (hkept.apart j i _ _ n hj hcall hfetch rfl)
    omega

theorem inOrder_step {s s' : ProviderCalls} {e : ProviderEvent} (hkept : s.Kept) (h : s.InOrder)
    (hok : NoneOvertaken s e) (hstep : s.step e = some s') : s'.InOrder := by
  cases providerStep_cases hstep with
  | tick millis => exact ⟨h.sorted, h.ahead⟩
  | call =>
    refine ⟨h.sorted, fun call hm m hfetch => ?_⟩
    rcases List.mem_append.mp hm with hm | hm
    · exact h.ahead call hm m hfetch
    · rw [List.mem_singleton.mp hm] at hfetch
      cases hfetch
  | test hcall hphase =>
    refine ⟨h.sorted, ahead_set h fun m hfetch => ?_⟩
    rcases hphase with rfl | rfl <;> cases hfetch
  | fetch hcall =>
    refine ⟨h.sorted, ahead_set h fun m hfetch p hp => ?_⟩
    cases hfetch
    exact Nat.lt_succ_of_le (stored_le hkept hp)
  | answer hcall hphase =>
    refine ⟨h.sorted, ahead_set h fun m hfetch => ?_⟩
    rcases hphase with ⟨serverList, rfl, _⟩ | rfl
    · cases hfetch
      exact h.ahead _ (List.mem_of_getElem? hcall) _ rfl
    · cases hfetch
  | store hcall =>
    have hbefore := h.ahead _ (List.mem_of_getElem? hcall) _ rfl
    constructor
    · rw [List.map_append, List.pairwise_append]
      refine ⟨h.sorted, List.pairwise_singleton _ _, fun a ha b hb => ?_⟩
      obtain ⟨p, hp, rfl⟩ := List.mem_map.mp ha
      rw [List.mem_singleton.mp hb]
      exact hbefore p hp
    · intro call hm m hfetch p hp
      have hafter := store_ahead hkept hcall (hok _ _ hcall) call hm m hfetch
      rcases List.mem_append.mp hp with hp | hp
      · exact (hbefore p hp).trans hafter
      · rw [List.mem_singleton.mp hp]
        exact hafter
  | stamp hcall => exact ⟨h.sorted, ahead_set h fun m hfetch => by cases hfetch⟩
  | return_ hcall => exact ⟨h.sorted, ahead_set h fun m hfetch => by cases hfetch⟩

/-! ## Runs -/

theorem reaches_kept {ok : ProviderCalls → ProviderEvent → Prop} {s t : ProviderCalls}
    {es : List ProviderEvent} (h : Reaches ProviderCalls.step ok s es t) (hs : s.Kept) : t.Kept :=
  Reaches.invariant (fun _ _ _ _ hstep hkept => provider_step hkept hstep) h hs

theorem reaches_inOrder {s t : ProviderCalls} {es : List ProviderEvent}
    (h : Reaches ProviderCalls.step NoneOvertaken s es t) (hkept : s.Kept) (hs : s.InOrder) :
    t.InOrder := by
  have hboth : t.Kept ∧ t.InOrder := by
    apply Reaches.invariant (I := fun s : ProviderCalls => s.Kept ∧ s.InOrder) _ h ⟨hkept, hs⟩
    rintro s e s' hok hstep ⟨hkept, hs⟩
    exact ⟨provider_step hkept hstep, inOrder_step hkept hs hok hstep⟩
  exact hboth.2

/-- What a call may rely on: no list that is returned is empty, and the cached
list is the one stored last, which no failed fetch has stored. -/
structure ProviderCalls.Reliable (s : ProviderCalls) : Prop where
  returned : ∀ list, .returned list ∈ s.calls → list ≠ []
  cached : (s.stored.getLast?).map Prod.snd = some s.provider.cachedServerList
  failed : ∀ n answer e, (n, answer) ∈ s.answered → s.fetched answer = .error e →
    n ∉ s.stored.map Prod.fst

theorem kept_reliable {s : ProviderCalls} (h : s.Kept) : s.Reliable where
  returned := h.returned
  cached := by
    obtain ⟨n, hlast⟩ := h.cached
    rw [hlast]
    rfl
  failed := by
    intro n answer e hanswer herror hm
    obtain ⟨p, hp, rfl⟩ := List.mem_map.mp hm
    have hpos := (h.numbered _ hanswer).1
    rcases h.origin p hp with hzero | ⟨given, hgiven, hok⟩
    · omega
    · rw [h.once p.1 given answer hgiven hanswer, herror] at hok
      cases hok

/-- A provider that was created is reliable in every reachable state. -/
theorem created_reliable {endpointUrl : String} {defaultPort : UInt16} {now : Nat}
    {answer : EndpointAnswer} {provider : EndpointServerListProvider}
    (h : createServerListProvider endpointUrl defaultPort now answer = .ok provider)
    {es : List ProviderEvent} {s : ProviderCalls}
    (hrun : Reaches ProviderCalls.step anyStep (.start provider now) es s) : s.Reliable :=
  kept_reliable (reaches_kept hrun (start_kept (createServerListProvider_ne_nil h) now))

/-- **Server lists.** From a provider whose list was fetched, whatever the
refresh interval: every reachable state is reliable, and in every run in which
no storing call has an earlier fetch beside it the lists are stored in the order
in which their fetches started. -/
theorem serverList_law {endpointUrl : String} {defaultPort : UInt16} {first : EndpointAnswer}
    {initialList : List String}
    (hfirst : fetchServerList defaultPort endpointUrl first = .ok initialList)
    (refreshInterval now : Nat) :
    (∀ es s, Reaches ProviderCalls.step anyStep
      (.start (.withRefreshInterval endpointUrl defaultPort initialList refreshInterval now) now)
      es s → s.Reliable) ∧
    ∀ es s, Reaches ProviderCalls.step NoneOvertaken
      (.start (.withRefreshInterval endpointUrl defaultPort initialList refreshInterval now) now)
      es s → (s.stored.map Prod.fst).Pairwise (· < ·) := by
  have hkept : (ProviderCalls.start
      (.withRefreshInterval endpointUrl defaultPort initialList refreshInterval now) now).Kept :=
    start_kept (fetchServerList_ne_nil hfirst) now
  refine ⟨fun es s h => kept_reliable (reaches_kept h hkept), fun es s h => ?_⟩
  exact (reaches_inOrder h hkept
    ⟨List.pairwise_singleton _ _, fun _ hm => by cases hm⟩).sorted

/-! ## Overlapping calls -/

def endpointStart : ProviderCalls :=
  .start (.withRefreshInterval "http://endpoint:8080/nacos/serverlist" 8848 ["10.0.0.0:8848"]
    30000 0) 0

def providerAfter (es : List ProviderEvent) : ProviderCalls :=
  (run ProviderCalls.step endpointStart es).getD endpointStart

/-- Three calls find the list due and fetch; the middle one fails, the others
store in the order of their fetches while the next one is under way. -/
def inTurn : List ProviderEvent :=
  [.tick 30000, .call, .call, .call, .proceed 2, .proceed 1, .proceed 0, .proceed 1, .proceed 2,
    .proceed 0, .answer 2 (.sendError "timed out"), .answer 1 (.body "10.0.0.1"), .answer 0 (.body "10.0.0.2"),
    .proceed 1, .proceed 0]

/-- Two calls find the list due; the fetch that starts first is answered last. -/
def overtaken : List ProviderEvent :=
  [.tick 30000, .call, .call, .proceed 0, .proceed 1, .proceed 0, .proceed 1,
    .answer 1 (.body "10.0.0.2"), .proceed 1, .answer 0 (.body "10.0.0.1"), .proceed 0]

/-- The guard as a test. -/
def noneOvertaken (s : ProviderCalls) : ProviderEvent → Bool
  | .proceed i =>
    match s.calls[i]? with
    | some (.storing n _) => s.calls.all fun call => call.fetch.all fun m => n ≤ m
    | _ => true
  | _ => true

theorem noneOvertaken_sound (s : ProviderCalls) (e : ProviderEvent)
    (h : noneOvertaken s e = true) : NoneOvertaken s e := by
  cases e with
  | proceed i =>
    intro n serverList hcall call hm m hfetch
    simp only [noneOvertaken, hcall, List.all_eq_true] at h
    have hle := h call hm
    rw [hfetch] at hle
    simpa using hle
  | _ => trivial

theorem serverList_law_inTurn :
    (providerAfter overtaken).Reliable ∧
      ((providerAfter inTurn).stored.map Prod.fst).Pairwise (· < ·) ∧
      (providerAfter inTurn).stored =
        [(0, ["10.0.0.0:8848"]), (1, ["10.0.0.1:8848"]), (3, ["10.0.0.2:8848"])] := by
  have hfirst : fetchServerList 8848 "http://endpoint:8080/nacos/serverlist" (.body "10.0.0.0") =
      .ok ["10.0.0.0:8848"] := by decide +kernel
  obtain ⟨hreliable, hsorted⟩ := serverList_law hfirst 30000 0
  exact ⟨hreliable overtaken _ (run_getD_reaches (by decide +kernel) _),
    hsorted inTurn _ (runWhile_getD_reaches noneOvertaken_sound (by decide +kernel) _),
    by decide +kernel⟩

theorem overtaken_not_inOrder :
    Reaches ProviderCalls.step anyStep endpointStart overtaken (providerAfter overtaken) ∧
      (providerAfter overtaken).provider.cachedServerList = ["10.0.0.1:8848"] ∧
      ¬ ((providerAfter overtaken).stored.map Prod.fst).Pairwise (· < ·) :=
  ⟨run_getD_reaches (by decide +kernel) _, by decide +kernel, by decide +kernel⟩

end NacosSdk.Remote
