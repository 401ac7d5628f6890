import Mathlib.Algebra.Group.Nat.Defs
import NacosSdk.Lib.Pending
import NacosSdk.Lib.RoundRobin
import NacosSdk.Lib.Run
import NacosSdk.Remote.ServerList

/-!
# Servers in turn

`PollingServerListService` of `common/remote/server_list/service.rs`: a call
takes the counter at once, and its future reads the list of the provider later.
The counter has any width. Proved here, for every run:

* `selectServer_law`: what one future returns for the list that it read;
* `polling_step`: what one step keeps;
* `polling_law`: every window of calls takes each legal entry once and in cyclic
  order while the list stays the same, and no call leaves the list it read.
-/

namespace NacosSdk.Remote
open NacosSdk.Common NacosSdk.Lib NacosSdk.Lib.Pending NacosSdk.Lib.Run

/-! ## Selection -/

structure PollingServerAddress where
  host : String
  port : UInt16
  deriving DecidableEq

/-- The body of the future, when the list is `serverList`; without a result the
index is out of range. -/
def selectServer (nextIdx : Nat) (serverList : List String) :
    Option (Except Error PollingServerAddress) :=
  match parseHostPortVec serverList with
  | .error e => some (.error e)
  | .ok parsed =>
    match parsed[nextIdx % parsed.length]? with
    | some (host, port) => some (.ok { host, port })
    | none => none

/-- The entries of a list that have a legal port. -/
def legalAddresses (serverList : List String) : List PollingServerAddress :=
  (serverList.filterMap hostPort).map fun pair => ⟨pair.1, pair.2⟩

theorem selectServer_legal {serverList : List String} (h : legalAddresses serverList ≠ [])
    (nextIdx : Nat) :
    selectServer nextIdx serverList = (turn (legalAddresses serverList) nextIdx).map .ok := by
  have hpairs : serverList.filterMap hostPort ≠ [] := by simpa [legalAddresses] using h
  unfold selectServer
  rw [parseHostPortVec_ok_iff.mpr ⟨rfl, hpairs⟩]
  unfold turn legalAddresses
  rw [List.length_map, List.getElem?_map]
  dsimp only
  cases (serverList.filterMap hostPort)[nextIdx % (serverList.filterMap hostPort).length]? with
  | none => rfl
  | some pair => rfl

/-- An entry of the list, or an error when the list has no legal one. -/
theorem selectServer_law (nextIdx : Nat) (serverList : List String) :
    (∃ address ∈ legalAddresses serverList,
      selectServer nextIdx serverList = some (.ok address)) ∨
    legalAddresses serverList = [] ∧ ∃ e, selectServer nextIdx serverList = some (.error e) := by
  by_cases hnone : legalAddresses serverList = []
  · have hpairs : serverList.filterMap hostPort = [] := by simpa [legalAddresses] using hnone
    obtain ⟨e, herror⟩ := parseHostPortVec_error hpairs
    refine Or.inr ⟨hnone, e, ?_⟩
    unfold selectServer
    rw [herror]
  · obtain ⟨address, hm, hturn⟩ := turn_isSome hnone nextIdx
    refine Or.inl ⟨address, hm, ?_⟩
    rw [selectServer_legal hnone, hturn]
    rfl

theorem mem_legalAddresses {serverList : List String} {address : PollingServerAddress} :
    address ∈ legalAddresses serverList ↔
      ∃ server ∈ serverList, hostPort server = some (address.host, address.port) := by
  unfold legalAddresses
  simp only [List.mem_map, List.mem_filterMap]
  constructor
  · rintro ⟨pair, ⟨server, hm, hpair⟩, rfl⟩
    exact ⟨server, hm, hpair⟩
  · rintro ⟨server, hm, hpair⟩
    exact ⟨_, ⟨server, hm, hpair⟩, rfl⟩

/-! ## The service -/

structure PollingCall where
  nextIdx : Nat
  /-- The list that the future read, and what it returned. -/
  done : Option (List String × Option (Except Error PollingServerAddress))

/-- What the future returned, once it has. -/
def PollingCall.result (call : PollingCall) : Option (Except Error PollingServerAddress) :=
  call.done.bind (·.2)

structure PollingServerListService (w : Nat) where
  index : BitVec w
  /-- All calls so far. -/
  calls : List PollingCall

inductive PollingEvent where
  | call
  /-- The list is there, and the future runs to its end. -/
  | read (i : Nat) (serverList : List String)

namespace PollingServerListService

variable {w : Nat}

/-- The service with any counter. -/
def start (index : BitVec w) : PollingServerListService w where
  index := index
  calls := []

/-- `from_provider`, when `drawn` is the random number; no number is below an
empty list. -/
def fromProvider (initialList : List String) (drawn : BitVec w) :
    Option (PollingServerListService w) :=
  if drawn.toNat < initialList.length then some (start drawn) else none

def step (s : PollingServerListService w) : PollingEvent → Option (PollingServerListService w)
  | .call =>
    some
      { index := s.index + 1
        calls := s.calls ++ [{ nextIdx := s.index.toNat, done := none }] }
  | .read i serverList =>
    match s.calls[i]? with
    | some ⟨nextIdx, none⟩ =>
      some { s with
        calls := s.calls.set i
          { nextIdx, done := some (serverList, selectServer nextIdx serverList) } }
    | _ => none

/-- Every list that is read is allowed. -/
def ReadsOnly (allowed : List String → Prop) : PollingServerListService w → PollingEvent → Prop
  | _, .call => True
  | _, .read _ serverList => allowed serverList

/-! ## What every step keeps -/

structure Kept (s : PollingServerListService w) (start : BitVec w)
    (allowed : List String → Prop) : Prop where
  index : s.index = start + BitVec.ofNat w s.calls.length
  taken : ∀ k call, s.calls[k]? = some call →
    call.nextIdx = (start + BitVec.ofNat w k).toNat
  done : ∀ call ∈ s.calls, ∀ serverList result, call.done = some (serverList, result) →
    allowed serverList ∧ result = selectServer call.nextIdx serverList

theorem start_kept (index : BitVec w) (allowed : List String → Prop) :
    (start index).Kept index allowed where
  index := by simp [start]
  taken := fun _ _ hm => by cases hm
  done := fun _ hm => by cases hm

variable {s s' : PollingServerListService w} {index : BitVec w} {allowed : List String → Prop}

theorem kept_call (h : s.Kept index allowed) :
    Kept
      { index := s.index + 1
        calls := s.calls ++ [{ nextIdx := s.index.toNat, done := none }] } index allowed where
  index := by
    rw [h.index, List.length_append, List.length_singleton, BitVec.ofNat_add, ← BitVec.add_assoc]
    rfl
  taken := by
    intro k call hcall
    rw [List.getElem?_append] at hcall
    split at hcall
    · exact h.taken k call hcall
    · next hge =>
      obtain ⟨hlt, rfl⟩ := List.getElem?_eq_some_iff.mp hcall
      have hk : k = s.calls.length := by
        simp only [List.length_singleton] at hlt
        omega
      rw [List.getElem_singleton, hk, h.index]
  done := by
    intro call hm serverList result hdone
    rcases List.mem_append.mp hm with hm | hm
    · exact h.done call hm serverList result hdone
    · rw [List.mem_singleton.mp hm] at hdone
      cases hdone

theorem kept_read (h : s.Kept index allowed) {i nextIdx : Nat} {serverList : List String}
    (hcall : s.calls[i]? = some ⟨nextIdx, none⟩) (hallowed : allowed serverList) :
    Kept
      { s with
        calls := s.calls.set i
          { nextIdx, done := some (serverList, selectServer nextIdx serverList) } }
      index allowed where
  index := by
    rw [List.length_set]
    exact h.index
  taken := by
    intro k call hk
    rcases set_cases hk with ⟨rfl, rfl⟩ | ⟨_, hold⟩
    · have htaken := h.taken k _ hcall
      exact htaken
    · exact h.taken k call hold
  done := by
    intro call hm list result hdone
    rcases List.mem_or_eq_of_mem_set hm with hm | rfl
    · exact h.done call hm list result hdone
    · cases hdone
      exact ⟨hallowed, rfl⟩

/-- **Step lemma.** Each call has the counter of its turn, and has returned what
was selected for it. -/
theorem polling_step (h : s.Kept index allowed) {e : PollingEvent} (hok : ReadsOnly allowed s e)
    (hstep : s.step e = some s') : s'.Kept index allowed := by
  cases e with
  | call =>
    cases hstep
    exact kept_call h
  | read i serverList =>
    simp only [step] at hstep
    split at hstep
    · next nextIdx hcall =>
      cases hstep
      exact kept_read h hcall hok
    · cases hstep

theorem reaches_kept {es : List PollingEvent}
    (h : Reaches step (ReadsOnly allowed) (start index) es s) : s.Kept index allowed :=
  Reaches.invariant (fun _ _ _ hok hstep hkept => polling_step hkept hok hstep) h
    (start_kept index allowed)

/-! ## Turns -/

/-- The counter of a call, while it does not wrap. -/
theorem kept_nextIdx (h : s.Kept index allowed) (hwrap : index.toNat + s.calls.length ≤ 2 ^ w)
    {k : Nat} {call : PollingCall} (hcall : s.calls[k]? = some call) :
    call.nextIdx = index.toNat + k := by
  have hk := (List.getElem?_eq_some_iff.mp hcall).1
  rw [h.taken k call hcall, BitVec.toNat_add, BitVec.toNat_ofNat, Nat.add_mod_mod]
  exact Nat.mod_eq_of_lt (by omega)

/-- As many calls in a row as there are legal entries, all of them done. -/
def Window (s : PollingServerListService w) (serverList : List String) (k : Nat) : Prop :=
  k + (legalAddresses serverList).length ≤ s.calls.length ∧
    ∀ call ∈ (s.calls.drop k).take (legalAddresses serverList).length, call.done.isSome = true

/-- A call of a window returns the entry whose turn it is. -/
theorem kept_turn {serverList : List String} (h : s.Kept index (· = serverList))
    (hlegal : legalAddresses serverList ≠ []) {call : PollingCall} (hcall : call ∈ s.calls)
    (hdone : call.done.isSome = true) :
    call.result = (turn (legalAddresses serverList) call.nextIdx).map .ok := by
  obtain ⟨⟨list, result⟩, hread⟩ := Option.isSome_iff_exists.mp hdone
  obtain ⟨rfl, rfl⟩ := h.done call hcall list result hread
  unfold PollingCall.result
  rw [hread, Option.bind_some]
  exact selectServer_legal hlegal call.nextIdx

theorem kept_window {serverList : List String} (h : s.Kept index (· = serverList))
    (hwrap : index.toNat + s.calls.length ≤ 2 ^ w) {k : Nat} (hk : s.Window serverList k) :
    ((s.calls.drop k).take (legalAddresses serverList).length).map PollingCall.result =
      ((legalAddresses serverList).rotate (index.toNat + k)).map fun address =>
        some (.ok address) := by
  obtain ⟨hlength, hdone⟩ := hk
  have hlen : ((legalAddresses serverList).map fun address =>
      some (Except.ok (ε := Error) address)).length = (legalAddresses serverList).length :=
    List.length_map _
  rw [List.map_take, List.map_drop, List.map_rotate, ← hlen]
  apply window_eq_rotate
  · rw [hlen, List.length_map]
    exact hlength
  · intro j result hlow hhigh hresult
    rw [List.getElem?_map] at hresult
    obtain ⟨call, hcall, rfl⟩ := Option.map_eq_some_iff.mp hresult
    rw [hlen] at hhigh
    have hlegal : legalAddresses serverList ≠ [] := by
      intro hnil
      rw [hnil, List.length_nil] at hhigh
      omega
    have hm : call ∈ (s.calls.drop k).take (legalAddresses serverList).length := by
      apply List.mem_of_getElem? (i := j - k)
      rw [List.getElem?_take_of_lt (by omega), List.getElem?_drop, ← hcall]
      congr 1
      omega
    obtain ⟨address, _, hturn⟩ := turn_isSome hlegal (index.toNat + j)
    rw [kept_turn h hlegal (List.mem_of_getElem? hcall) (hdone call hm),
      kept_nextIdx h hwrap hcall, turn_map, hturn]
    rfl

/-- **Servers in turn.** In every run in which the list stays the same and the
counter does not wrap, a window of calls returns the legal entries, each once by
its place and in cyclic order. In every run, each call returns an entry of the
list that it read, or an error when that list has no legal entry. -/
theorem polling_law (index : BitVec w) :
    (∀ serverList es s, Reaches step (ReadsOnly (· = serverList)) (start index) es s →
      index.toNat + s.calls.length ≤ 2 ^ w → ∀ k, s.Window serverList k →
        ((s.calls.drop k).take (legalAddresses serverList).length).map PollingCall.result =
          ((legalAddresses serverList).rotate (index.toNat + k)).map fun address =>
            some (.ok address)) ∧
    ∀ es s, Reaches step anyStep (start index) es s → ∀ call ∈ s.calls,
      ∀ serverList result, call.done = some (serverList, result) →
        (∃ server ∈ serverList, ∃ address : PollingServerAddress,
          hostPort server = some (address.host, address.port) ∧ result = some (.ok address)) ∨
        (∀ server ∈ serverList, hostPort server = none) ∧ ∃ e, result = some (.error e) := by
  constructor
  · intro serverList es s h hwrap k hk
    exact kept_window (reaches_kept h) hwrap hk
  · intro es s h call hcall serverList result hdone
    have hkept : s.Kept index fun _ => True :=
      reaches_kept (h.weaken fun _ e _ => by cases e <;> trivial)
    obtain ⟨_, rfl⟩ := hkept.done call hcall serverList result hdone
    rcases selectServer_law call.nextIdx serverList with ⟨address, hm, hselect⟩ | ⟨hnone, hselect⟩
    · obtain ⟨server, hserver, hpair⟩ := mem_legalAddresses.mp hm
      exact Or.inl ⟨server, hserver, address, hpair, hselect⟩
    · refine Or.inr ⟨?_, hselect⟩
      simpa [legalAddresses] using hnone

/-! ## Three calls -/

def twoLegal : List String := ["10.0.0.1:8848", "bad_host", "10.0.0.2:8850"]

/-- Three calls from the counter 5 on; the futures run in another order. -/
def threeCalls : List PollingEvent :=
  [.call, .call, .read 1 twoLegal, .call, .read 0 twoLegal, .read 2 twoLegal]

def readsTwoLegal : PollingEvent → Bool
  | .call => true
  | .read _ serverList => serverList == twoLegal

theorem readsTwoLegal_sound (s : PollingServerListService w) (e : PollingEvent)
    (h : readsTwoLegal e = true) : ReadsOnly (· = twoLegal) s e := by
  cases e with
  | call => trivial
  | read i serverList => exact eq_of_beq h

def pollingAfter (es : List PollingEvent) : PollingServerListService 64 :=
  (run step (start 5) es).getD (start 5)

theorem twoLegal_addresses :
    legalAddresses twoLegal = [⟨"10.0.0.1", 8848⟩, ⟨"10.0.0.2", 8850⟩] := by
  decide +kernel

theorem polling_law_threeCalls :
    ((pollingAfter threeCalls).calls.drop 1 |>.take 2).map PollingCall.result =
        [some (.ok ⟨"10.0.0.1", 8848⟩), some (.ok ⟨"10.0.0.2", 8850⟩)] ∧
      ∃ server ∈ twoLegal, ∃ address : PollingServerAddress,
        hostPort server = some (address.host, address.port) ∧
          (pollingAfter threeCalls).calls[0]?.bind PollingCall.result = some (.ok address) := by
  obtain ⟨hturns, hread⟩ := polling_law (5 : BitVec 64)
  have hrun : Reaches step (ReadsOnly (· = twoLegal)) (start 5) threeCalls
      (pollingAfter threeCalls) :=
    runWhile_getD_reaches readsTwoLegal_sound (by decide +kernel) _
  have hwindow : (pollingAfter threeCalls).Window twoLegal 1 := by
    unfold Window
    rw [twoLegal_addresses]
    decide +kernel
  constructor
  · have hturn := hturns twoLegal threeCalls _ hrun (by decide +kernel) 1 hwindow
    rw [twoLegal_addresses] at hturn
    exact hturn
  · have hcall : ⟨5, some (twoLegal, selectServer 5 twoLegal)⟩ ∈ (pollingAfter threeCalls).calls :=
      List.mem_of_getElem? (i := 0) rfl
    have hany : Reaches step anyStep (start 5) threeCalls (pollingAfter threeCalls) :=
      hrun.weaken fun _ _ _ => trivial
    rcases hread threeCalls _ hany _ hcall twoLegal _ rfl with hentry | ⟨hnone, _⟩
    · exact hentry
    · exact absurd hnone (by decide +kernel)

end PollingServerListService

end NacosSdk.Remote
