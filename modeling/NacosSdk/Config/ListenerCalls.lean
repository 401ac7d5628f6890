import NacosSdk.Config.CacheData
import NacosSdk.Lib.LastCall
import NacosSdk.Naming.Observer

/-!
# Calls on a listener list

Any calls of `add_listener`, `remove_listener` and `dispatch_notify` on one entry,
whose other fields change between them. Each listener has a view of the entry:
its md5, if it is registered, and its notifications. Proved here, for every
sequence of calls:

* `add_lastMd5`, `remove_lastMd5`, `dispatch_count`: what a call does to the md5 of
  every listener, and whom a dispatch notifies;
* `view_step`: the list refines one small machine for each listener;
* `reach_noRepeat`: what that machine keeps while its listener is not added;
* `listenerCalls_law`: with them, who is registered and who is notified.
-/

namespace NacosSdk.Config
open NacosSdk.Lib NacosSdk.Lib.LastCall NacosSdk.Lib.Pending

/-! ## The md5 of one listener -/

/-- The md5 that is kept for a listener, if it is registered. -/
def ListenerList.lastMd5 (list : ListenerList) (listener : ConfigListener) : Option String :=
  (list.wrappers.find? fun wrapper => wrapper.listener == listener).map ListenerWrapper.lastMd5

theorem lastMd5_eq_some {list : ListenerList} {listener : ConfigListener} {md5 : String} :
    list.lastMd5 listener = some md5 ↔ ⟨md5, listener⟩ ∈ list.wrappers := by
  unfold ListenerList.lastMd5
  constructor
  · intro h
    obtain ⟨wrapper, hfound, rfl⟩ := Option.map_eq_some_iff.mp h
    obtain rfl : wrapper.listener = listener := by simpa using List.find?_some hfound
    exact List.mem_of_find?_eq_some hfound
  · intro hm
    have hsome : (list.wrappers.find? fun wrapper => wrapper.listener == listener).isSome = true :=
      List.find?_isSome.mpr ⟨_, hm, by simp⟩
    obtain ⟨wrapper, hfound⟩ := Option.isSome_iff_exists.mp hsome
    have hlistener : wrapper.listener = listener := by simpa using List.find?_some hfound
    have hsame := List.inj_on_of_nodup_map list.nodup (List.mem_of_find?_eq_some hfound) hm
      hlistener
    rw [hfound, hsame]
    rfl

theorem lastMd5_isSome {list : ListenerList} {listener : ConfigListener} :
    (list.lastMd5 listener).isSome = true ↔ listener ∈ list.registered := by
  rw [Option.isSome_iff_exists]
  unfold ListenerList.registered
  constructor
  · rintro ⟨md5, h⟩
    exact List.mem_map_of_mem (lastMd5_eq_some.mp h)
  · intro hm
    obtain ⟨wrapper, hw, rfl⟩ := List.mem_map.mp hm
    exact ⟨wrapper.lastMd5, lastMd5_eq_some.mpr hw⟩

theorem lastMd5_eq_none {list : ListenerList} {listener : ConfigListener} :
    list.lastMd5 listener = none ↔ listener ∉ list.registered := by
  rw [← lastMd5_isSome, Bool.not_eq_true, Option.isSome_eq_false_iff, Option.isNone_iff_eq_none]

theorem not_mem_remove (list : ListenerList) (listener : ConfigListener) :
    listener ∉ (list.remove listener).registered := by
  unfold ListenerList.remove
  split
  · next idx hidx =>
    obtain ⟨removed, hr, hlistener⟩ := indexOfListener_some hidx
    have hperm := swapRemove_perm (List.getElem?_eq_some_iff.mp hr).1
    have hnodup := list.nodup
    rw [split_at hr, List.append_assoc, List.singleton_append, List.map_append, List.map_cons,
      List.nodup_middle, List.nodup_cons, hlistener] at hnodup
    unfold ListenerList.registered
    rw [(hperm.map _).mem_iff, List.eraseIdx_eq_take_drop_succ, List.map_append]
    exact hnodup.1
  · next h => exact indexOfListener_none.mp h

/-- A new listener has no md5 yet; one that is registered keeps its own. -/
theorem add_lastMd5 (list : ListenerList) (listener other : ConfigListener) :
    (list.add listener).lastMd5 other =
      if other = listener then some ((list.lastMd5 listener).getD "") else list.lastMd5 other := by
  by_cases hmem : listener ∈ list.registered
  · have hsame : (list.add listener).lastMd5 other = list.lastMd5 other := by
      unfold ListenerList.lastMd5
      rw [add_wrappers, if_pos hmem]
    rw [hsame]
    split
    · next heq =>
      obtain ⟨md5, hmd5⟩ := Option.isSome_iff_exists.mp (lastMd5_isSome.mpr hmem)
      rw [heq, hmd5]
      rfl
    · rfl
  · have hnew : (list.add listener).lastMd5 other =
        (list.lastMd5 other).or (if listener = other then some "" else none) := by
      unfold ListenerList.lastMd5
      rw [add_wrappers, if_neg hmem, List.find?_append, Option.map_or]
      by_cases hother : listener = other
      · simp [ListenerWrapper.new, hother]
      · simp [ListenerWrapper.new, hother]
    rw [hnew]
    by_cases hother : other = listener
    · rw [hother, lastMd5_eq_none.mpr hmem]
      simp
    · rw [if_neg hother, if_neg fun heq => hother heq.symm, Option.or_none]

theorem remove_lastMd5 (list : ListenerList) (listener other : ConfigListener) :
    (list.remove listener).lastMd5 other =
      if other = listener then none else list.lastMd5 other := by
  split
  · next heq =>
    rw [heq]
    exact lastMd5_eq_none.mpr (not_mem_remove list listener)
  · next hne =>
    apply Option.ext
    intro md5
    rw [lastMd5_eq_some, lastMd5_eq_some]
    constructor
    · exact mem_of_mem_remove
    · exact fun hm => mem_remove hm hne

theorem seen_lastMd5_of (list : ListenerList) (md5 : String) (listener : ConfigListener) :
    (list.seen md5).lastMd5 listener = (list.lastMd5 listener).map fun _ => md5 := by
  unfold ListenerList.lastMd5 ListenerList.seen
  rw [List.find?_map, Option.map_map, Option.map_map]
  have hsame : ((fun wrapper : ListenerWrapper => wrapper.listener == listener) ∘
      fun wrapper : ListenerWrapper => wrapper.seen md5) =
        fun wrapper => wrapper.listener == listener := by
    funext wrapper
    simp [seen_listener]
  have hmd5 : (ListenerWrapper.lastMd5 ∘ fun wrapper : ListenerWrapper => wrapper.seen md5) =
      (fun _ => md5) ∘ ListenerWrapper.lastMd5 := by
    funext wrapper
    exact seen_lastMd5 wrapper md5
  rw [hsame, hmd5]

/-- A dispatch notifies a listener once, when its md5 is another one. -/
theorem dispatch_count (d : CacheData) (configResp : ConfigResponse)
    (listener : ConfigListener) :
    ((d.dispatchNotify configResp).2.map (·.1)).count listener =
      if d.listeners.lastMd5 listener = none ∨ d.listeners.lastMd5 listener = some d.md5 then 0
      else 1 := by
  have hnames : (d.dispatchNotify configResp).2.map (·.1) =
      (d.listeners.wrappers.filter fun wrapper => wrapper.lastMd5 ≠ d.md5).map
        ListenerWrapper.listener := by
    unfold CacheData.dispatchNotify
    rw [List.map_map]
    rfl
  have hsub : ((d.dispatchNotify configResp).2.map (·.1)).Sublist d.listeners.registered := by
    rw [hnames]
    exact List.filter_sublist.map _
  cases hlast : d.listeners.lastMd5 listener with
  | none =>
    rw [if_pos (Or.inl rfl)]
    exact List.count_eq_zero.mpr fun hm => lastMd5_eq_none.mp hlast (hsub.mem hm)
  | some last =>
    have hnotified := dispatchNotify_notified configResp (lastMd5_eq_some.mp hlast)
    by_cases hsame : last = d.md5
    · rw [if_pos (Or.inr (by rw [hsame]))]
      exact List.count_eq_zero.mpr fun hm => hnotified.mp hm hsame
    · rw [if_neg (by simp [hsame])]
      exact List.count_eq_one_of_mem (d.listeners.nodup.sublist hsub) (hnotified.mpr hsame)

/-! ## Calls -/

inductive ListenerCall where
  | addListener (listener : ConfigListener)
  | removeListener (listener : ConfigListener)
  | dispatchNotify (configResp : ConfigResponse)
  /-- All fields but the listeners are written. -/
  | write (data : CacheData)

structure Listening where
  data : CacheData
  /-- Who was notified, and of which md5. -/
  notified : List (ConfigListener × String)

namespace Listening

def start (data : CacheData) : Listening := ⟨data, []⟩

def step (s : Listening) : ListenerCall → Listening
  | .addListener listener => { s with data := s.data.addListener listener }
  | .removeListener listener => { s with data := s.data.removeListener listener }
  | .dispatchNotify configResp =>
    let dispatched := s.data.dispatchNotify configResp
    { data := dispatched.1
      notified := s.notified ++ dispatched.2.map fun task => (task.1, s.data.md5) }
  | .write data => { s with data := { data with listeners := s.data.listeners } }

def after (s : Listening) (calls : List ListenerCall) : Listening := calls.foldl step s

/-- The md5s that a listener was notified of. -/
def noticesOf (s : Listening) (listener : ConfigListener) : List String :=
  (s.notified.filter fun notice => notice.1 == listener).map (·.2)

end Listening

/-! ## One listener -/

/-- What one listener has to do with an entry. -/
structure ListenerView where
  lastMd5 : Option String
  notices : List String

/-- A call, when the entry has `md5`, seen by one listener. -/
def ListenerView.step (view : ListenerView) (listener : ConfigListener) (md5 : String) :
    ListenerCall → ListenerView
  | .addListener added =>
    if listener = added then { view with lastMd5 := some (view.lastMd5.getD "") } else view
  | .removeListener removed => if listener = removed then { view with lastMd5 := none } else view
  | .dispatchNotify _ =>
    if view.lastMd5 = none ∨ view.lastMd5 = some md5 then view
    else { lastMd5 := some md5, notices := view.notices ++ [md5] }
  | .write _ => view

def Listening.view (s : Listening) (listener : ConfigListener) : ListenerView where
  lastMd5 := s.data.listeners.lastMd5 listener
  notices := s.noticesOf listener

theorem notices_tasks (tasks : List (ConfigListener × ConfigResponse)) (md5 : String)
    (listener : ConfigListener) :
    ((tasks.map fun task => (task.1, md5)).filter fun notice => notice.1 == listener).map (·.2) =
      List.replicate ((tasks.map (·.1)).count listener) md5 := by
  induction tasks with
  | nil => rfl
  | cons task tasks ih =>
    by_cases hlistener : task.1 = listener
    · simp [hlistener, ih, List.replicate_succ]
    · simp [hlistener, ih]

/-- **Refinement.** A call is one step of the view of every listener. -/
theorem view_step (s : Listening) (call : ListenerCall) (listener : ConfigListener) :
    (s.step call).view listener = (s.view listener).step listener s.data.md5 call := by
  cases call with
  | addListener added =>
    simp only [Listening.view, Listening.step, ListenerView.step, CacheData.addListener,
      add_lastMd5, Listening.noticesOf]
    split
    · next heq => rw [heq]
    · rfl
  | removeListener removed =>
    simp only [Listening.view, Listening.step, ListenerView.step, CacheData.removeListener,
      remove_lastMd5, Listening.noticesOf]
    split
    · rfl
    · rfl
  | write data => rfl
  | dispatchNotify configResp =>
    have hlast : (s.data.dispatchNotify configResp).1.listeners.lastMd5 listener =
        (s.data.listeners.lastMd5 listener).map fun _ => s.data.md5 :=
      seen_lastMd5_of s.data.listeners s.data.md5 listener
    have hnotices : (s.step (.dispatchNotify configResp)).noticesOf listener =
        s.noticesOf listener ++
          List.replicate (((s.data.dispatchNotify configResp).2.map (·.1)).count listener)
            s.data.md5 := by
      rw [← notices_tasks]
      unfold Listening.noticesOf Listening.step
      rw [List.filter_append, List.map_append]
    unfold Listening.view ListenerView.step
    rw [hnotices, dispatch_count]
    dsimp only [Listening.step]
    rw [hlast]
    split
    · next hsame =>
      rcases hsame with hnone | hsame
      · rw [hnone]
        simp
      · rw [hsame]
        simp
    · next hother =>
      cases hcurrent : s.data.listeners.lastMd5 listener with
      | none => exact absurd (Or.inl hcurrent) hother
      | some last => rfl

/-! ## Without a call that adds the listener -/

/-- No notice is for the md5 of the one before it, and the md5 that is kept for a
registered listener is that of its last notice. -/
structure ListenerView.NoRepeat (view : ListenerView) : Prop where
  chain : view.notices.IsChain (· ≠ ·)
  last : ∀ md5, view.notices.getLast? = some md5 → view.lastMd5 = none ∨ view.lastMd5 = some md5

theorem noRepeat_step {view : ListenerView} (h : view.NoRepeat) {listener : ConfigListener}
    {call : ListenerCall} (hcall : call ≠ .addListener listener) (md5 : String) :
    (view.step listener md5 call).NoRepeat := by
  cases call with
  | addListener added =>
    have hother : listener ≠ added := fun heq => hcall (by rw [heq])
    unfold ListenerView.step
    dsimp only
    rw [if_neg hother]
    exact h
  | removeListener removed =>
    unfold ListenerView.step
    dsimp only
    split
    · exact ⟨h.chain, fun _ _ => Or.inl rfl⟩
    · exact h
  | write data => exact h
  | dispatchNotify configResp =>
    unfold ListenerView.step
    dsimp only
    split
    · exact h
    · next hother =>
      constructor
      · rw [List.isChain_append]
        refine ⟨h.chain, List.isChain_singleton md5, ?_⟩
        intro last hlast first hfirst hsame
        cases hfirst
        rw [hsame] at hlast
        exact hother (h.last md5 hlast)
      · intro last hlast
        rw [List.getLast?_concat] at hlast
        exact Or.inr hlast

theorem reach_noRepeat {listener : ConfigListener} {calls : List ListenerCall}
    (hcalls : ∀ call ∈ calls, call ≠ .addListener listener) {s : Listening}
    (h : (s.view listener).NoRepeat) : ((s.after calls).view listener).NoRepeat := by
  induction calls generalizing s with
  | nil => exact h
  | cons call calls ih =>
    apply ih fun other hm => hcalls other (List.mem_cons_of_mem call hm)
    rw [view_step]
    exact noRepeat_step h (hcalls call List.mem_cons_self) s.data.md5

theorem start_noRepeat (data : CacheData) (listener : ConfigListener) :
    ((Listening.start data).view listener).NoRepeat where
  chain := List.isChain_nil
  last := fun _ h => by cases h

/-! ## Registration -/

/-- Whether a call puts a listener into the list or takes it away. -/
def ListenerCall.effect : ListenerCall → ConfigListener → Option Bool
  | .addListener added, listener => if listener = added then some true else none
  | .removeListener removed, listener => if listener = removed then some false else none
  | .dispatchNotify _, _ => none
  | .write _, _ => none

theorem step_registered (s : Listening) (call : ListenerCall) (listener : ConfigListener) :
    listener ∈ (s.step call).data.listeners.registered ↔
      match call.effect listener with
      | some added => added = true
      | none => listener ∈ s.data.listeners.registered := by
  have hview := congrArg ListenerView.lastMd5 (view_step s call listener)
  dsimp only [Listening.view] at hview
  rw [← lastMd5_isSome, ← lastMd5_isSome, hview]
  cases call with
  | addListener added =>
    by_cases heq : listener = added <;> simp [ListenerView.step, ListenerCall.effect, heq]
  | removeListener removed =>
    by_cases heq : listener = removed <;> simp [ListenerView.step, ListenerCall.effect, heq]
  | write data => rfl
  | dispatchNotify configResp =>
    simp only [ListenerView.step, ListenerCall.effect]
    split
    · rfl
    · next hother =>
      have hsome : (s.data.listeners.lastMd5 listener).isSome = true :=
        Option.isSome_iff_ne_none.mpr fun hnone => hother (Or.inl hnone)
      simp [hsome]

theorem after_registered (data : CacheData) (hdata : data.listeners = ListenerList.empty)
    (calls : List ListenerCall) (listener : ConfigListener) :
    listener ∈ ((Listening.start data).after calls).data.listeners.registered ↔
      lastEffect ListenerCall.effect calls listener = some true := by
  refine mem_iff_lastEffect
    (fun (s : Listening) l => l ∈ s.data.listeners.registered) ?_ ?_ ?_ calls listener
  · intro s call l added he
    rw [step_registered, he]
  · intro s call l he
    rw [step_registered, he]
  · intro l hm
    simp [Listening.start, hdata, ListenerList.registered, ListenerList.empty] at hm

/-! ## The law -/

/-- From here to the next call that adds the listener, no two notices in a row are
for one md5, and a registered listener keeps the md5 of its last notice. -/
def NoRepeats (d : CacheData) (listener : ConfigListener) : Prop :=
  ∀ later, (∀ call ∈ later, call ≠ .addListener listener) →
    (((Listening.start d).after later).noticesOf listener).IsChain (· ≠ ·) ∧
    ∀ md5, (((Listening.start d).after later).noticesOf listener).getLast? = some md5 →
      listener ∈ ((Listening.start d).after later).data.listeners.registered →
        ((Listening.start d).after later).data.listeners.lastMd5 listener = some md5

/-- What holds of an entry after calls. -/
structure ListenersLaw (calls : List ListenerCall) (d : CacheData) : Prop where
  nodup : d.listeners.registered.Nodup
  registered : ∀ listener, listener ∈ d.listeners.registered ↔
    lastEffect ListenerCall.effect calls listener = some true
  /-- A call for one listener leaves the md5 of the others. -/
  others : ∀ listener other, other ≠ listener →
    (d.addListener listener).listeners.lastMd5 other = d.listeners.lastMd5 other ∧
    (d.removeListener listener).listeners.lastMd5 other = d.listeners.lastMd5 other
  dispatched : ∀ listener configResp,
    ((d.dispatchNotify configResp).2.map (·.1)).count listener =
      if d.listeners.lastMd5 listener = none ∨ d.listeners.lastMd5 listener = some d.md5 then 0
      else 1
  between : ∀ listener, NoRepeats d listener

theorem noRepeats (d : CacheData) (listener : ConfigListener) : NoRepeats d listener := by
  intro later hlater
  have hreach := reach_noRepeat hlater (start_noRepeat d listener)
  refine ⟨hreach.chain, ?_⟩
  intro md5 hlast hregistered
  rcases hreach.last md5 hlast with hnone | hsome
  · exact absurd hregistered (lastMd5_eq_none.mp hnone)
  · exact hsome

/-- **Listeners.** After any calls on a new entry the list holds each listener
whose last call was an addition, once; calls for one listener leave the others; a
dispatch notifies a registered listener once when its md5 is another one, and not
at all otherwise; and until a listener is added again no two notices in a row are
for one md5. Under each key the registry of the observer holds the listeners whose
last call was a subscription, once. -/
theorem listenerCalls_law (configFilters : List ConfigFilter) (dataId group namespace_ : String)
    (calls : List ListenerCall) (registryCalls : List Naming.RegistryCall) (key : String) :
    ListenersLaw calls ((Listening.start
      (CacheData.new configFilters dataId group namespace_)).after calls).data ∧
    ((registryCalls.foldl Naming.ListenerRegistry.call .empty).listenersOf key).Nodup ∧
    ∀ listener,
      listener ∈ (registryCalls.foldl Naming.ListenerRegistry.call .empty).listenersOf key ↔
        lastEffect (Naming.RegistryCall.effect key) registryCalls listener = some true := by
  refine ⟨?_, Naming.registry_law registryCalls key⟩
  constructor
  · exact ListenerList.nodup _
  · exact after_registered _ rfl calls
  · intro listener other hne
    refine ⟨?_, ?_⟩
    · exact (add_lastMd5 _ listener other).trans (if_neg hne)
    · exact (remove_lastMd5 _ listener other).trans (if_neg hne)
  · exact fun listener configResp => dispatch_count _ configResp listener
  · exact fun listener => noRepeats _ listener

end NacosSdk.Config
