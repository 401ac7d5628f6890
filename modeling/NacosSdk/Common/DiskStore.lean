import Mathlib.Data.List.Perm.Basic
import NacosSdk.Lib.FileSystem
import NacosSdk.Lib.Run

/-!
# The disk store

`DiskStore` of `common/cache/disk.rs`. Every `save` opens the temporary file of
its key, writes its bytes in pieces, syncs and renames, and starts again when a
step fails; the steps of all saves interleave. Proved here, for every run:

* `tmpName_idem`: a temporary name is its own temporary name;
* `step_intact`: what one step preserves;
* `saves_complete`: while no save opens a temporary file that another one is
  using, every file is one complete value of its key;
* `sharedTmp_not_complete`: two keys with one temporary file mix.
-/

namespace NacosSdk.Common
open NacosSdk.Lib NacosSdk.Lib.Run

/-! ## Names -/

/-- A key that is one component of a path. -/
def legalFileName (key : String) : Bool :=
  key ≠ "" && key ≠ "." && key ≠ ".." && key.toList.all fun c => c ≠ '/' && c ≠ Char.ofNat 0

/-- `file_stem`: what comes before the last dot, unless that is nothing. -/
def fileStem (name : String) : String :=
  let before := (name.toList.reverse.dropWhile fun c => c ≠ '.').drop 1
  if before = [] then name else String.ofList before.reverse

/-- `with_extension`. For a name such as `..x` the code is left with `..`, which
no save can open; here it has `..tmp`, and its saves may fail at every opening. -/
def withExtension (name extension : String) : String := fileStem name ++ "." ++ extension

/-- The name of the temporary file of a key. -/
def tmpName (key : String) : String := withExtension key "tmp"

theorem fileStem_ne_empty {name : String} (h : name ≠ "") : fileStem name ≠ "" := by
  unfold fileStem
  simp only
  split
  · exact h
  · next hne =>
    intro he
    have hlist := congrArg String.toList he
    simp only [String.toList_ofList, String.toList_empty, List.reverse_eq_nil_iff] at hlist
    exact hne hlist

theorem fileStem_tmp {stem : String} (h : stem ≠ "") : fileStem (stem ++ "." ++ "tmp") = stem := by
  have hrev : (stem ++ "." ++ "tmp").toList.reverse = 'p' :: 'm' :: 't' :: '.' ::
      stem.toList.reverse := by
    simp [String.toList_append]
  have hne : stem.toList.reverse ≠ [] := by
    intro he
    exact h (String.toList_inj.mp (List.reverse_eq_nil_iff.mp he))
  unfold fileStem
  rw [hrev]
  simp [hne]

theorem tmpName_idem {key : String} (h : key ≠ "") : tmpName (tmpName key) = tmpName key := by
  unfold tmpName withExtension
  rw [fileStem_tmp (fileStem_ne_empty h)]

/-! ## Saves in flight -/

/-- Where an attempt of `save` stands; `writing` holds the open file and the
offset of this writer. -/
inductive SavePhase where
  | opening
  | writing (inode offset : Nat)
  | synced
  deriving DecidableEq

structure SaveCall where
  key : String
  value : List UInt8
  attempt : Nat
  phase : SavePhase
  deriving DecidableEq

def SaveCall.tmp (call : SaveCall) : String := tmpName call.key

/-- The attempt has opened its file and has not renamed it yet. -/
def SaveCall.started (call : SaveCall) : Bool := call.phase ≠ .opening

/-- The store with the saves in flight and all values `save` was called with. -/
structure DiskStore where
  fs : FileSystem String UInt8
  calls : List SaveCall
  saved : List (String × List UInt8)

def DiskStore.start : DiskStore where
  fs := FileSystem.empty
  calls := []
  saved := []

def maxRetries : Nat := 3

inductive DiskEvent where
  | save (key : String) (value : List UInt8)
  | openTmp (i : Nat)
  /-- Any part of the bytes that are left. -/
  | write (i n : Nat)
  | sync (i : Nat)
  | rename (i : Nat)
  /-- The next step of the save returns an error. -/
  | fail (i : Nat)

/-- The error path of `save`: the next attempt, or none. -/
def DiskStore.retry (s : DiskStore) (i : Nat) (call : SaveCall) : DiskStore :=
  if call.attempt = maxRetries then { s with calls := s.calls.eraseIdx i }
  else
    { s with
      calls := s.calls.set i { call with attempt := call.attempt + 1, phase := .opening } }

def DiskStore.step (s : DiskStore) : DiskEvent → Option DiskStore
  | .save key value =>
    if legalFileName key then
      some { s with
        calls := s.calls ++ [⟨key, value, 1, .opening⟩]
        saved := s.saved ++ [(key, value)] }
    else none
  | .openTmp i =>
    match s.calls[i]? with
    | some ⟨key, value, attempt, .opening⟩ =>
      some { s with
        fs := s.fs.openTruncate (tmpName key)
        calls := s.calls.set i
          ⟨key, value, attempt, .writing (s.fs.opened (tmpName key)) 0⟩ }
    | _ => none
  | .write i n =>
    match s.calls[i]? with
    | some ⟨key, value, attempt, .writing inode offset⟩ =>
      let bytes := (value.drop offset).take n
      some { s with
        fs := s.fs.write 0 inode offset bytes
        calls := s.calls.set i ⟨key, value, attempt, .writing inode (offset + bytes.length)⟩ }
    | _ => none
  | .sync i =>
    match s.calls[i]? with
    | some ⟨key, value, attempt, .writing _ offset⟩ =>
      if offset = value.length then
        some { s with calls := s.calls.set i ⟨key, value, attempt, .synced⟩ }
      else none
    | _ => none
  | .rename i =>
    match s.calls[i]? with
    | some ⟨key, value, attempt, .synced⟩ =>
      match s.fs.rename (tmpName key) key with
      | some fs => some { s with fs := fs, calls := s.calls.eraseIdx i }
      | none => some (s.retry i ⟨key, value, attempt, .synced⟩)
    | _ => none
  | .fail i =>
    match s.calls[i]? with
    | some call => some (s.retry i call)
    | none => none

/-! ## The invariant -/

/-- What the file of a started save holds. -/
def SaveCall.Progress (fs : FileSystem String UInt8) (call : SaveCall) : Prop :=
  match call.phase with
  | .opening => True
  | .writing inode offset =>
    fs.dir call.tmp = some inode ∧ fs.read call.tmp = some (call.value.take offset) ∧
      offset ≤ call.value.length
  | .synced => fs.read call.tmp = some call.value

/-- Two started saves use two files. -/
def SaveCall.Apart (a b : SaveCall) : Prop :=
  a.started = true → b.started = true → a.tmp ≠ b.tmp

theorem apart_symm {a b : SaveCall} (h : a.Apart b) : b.Apart a :=
  fun hb ha he => h ha hb he.symm

/-- The saves `calls` stand over a directory whose other files are complete. -/
structure Intact (fs : FileSystem String UInt8) (calls : List SaveCall)
    (saved : List (String × List UInt8)) : Prop where
  keys : ∀ p ∈ saved, p.1 ≠ "" ∧ tmpName p.1 ≠ p.1
  called : ∀ call ∈ calls, (call.key, call.value) ∈ saved
  progress : ∀ call ∈ calls, call.Progress fs
  apart : calls.Pairwise SaveCall.Apart
  complete : ∀ name content, fs.read name = some content →
    (∃ p ∈ saved, tmpName p.1 = name) ∨ (name, content) ∈ saved

theorem start_intact : Intact FileSystem.empty [] [] where
  keys := fun _ h => by cases h
  called := fun _ h => by cases h
  progress := fun _ h => by cases h
  apart := List.Pairwise.nil
  complete := fun _ _ h => by cases h

section Steps

variable {fs : FileSystem String UInt8} {calls others : List SaveCall} {call : SaveCall}
  {saved : List (String × List UInt8)}

/-- Progress is about the save's own temporary file. -/
theorem progress_frame {fs' : FileSystem String UInt8} (h : call.Progress fs)
    (hframe : call.started = true → fs'.dir call.tmp = fs.dir call.tmp ∧
      fs'.read call.tmp = fs.read call.tmp) : call.Progress fs' := by
  unfold SaveCall.Progress at h ⊢
  unfold SaveCall.started at hframe
  cases hphase : call.phase with
  | opening => trivial
  | writing inode offset =>
    simp only [hphase] at h hframe
    obtain ⟨hdir, hread⟩ := hframe (by simp)
    simp only [hdir, hread]
    exact h
  | synced =>
    simp only [hphase] at h hframe
    obtain ⟨_, hread⟩ := hframe (by simp)
    simp only [hread]
    exact h

theorem intact_perm {calls' : List SaveCall} (hp : calls.Perm calls')
    (h : Intact fs calls saved) : Intact fs calls' saved where
  keys := h.keys
  called := fun call hm => h.called call (hp.mem_iff.mpr hm)
  progress := fun call hm => h.progress call (hp.mem_iff.mpr hm)
  apart := (hp.pairwise_iff apart_symm).mp h.apart
  complete := h.complete

/-- A key in use is not the temporary name of one. -/
theorem key_ne_tmp (h : Intact fs calls saved) {p q : String × List UInt8} (hp : p ∈ saved)
    (hq : q ∈ saved) : q.1 ≠ tmpName p.1 := by
  intro he
  obtain ⟨hne, _⟩ := h.keys p hp
  obtain ⟨_, hself⟩ := h.keys q hq
  rw [he, tmpName_idem hne] at hself
  exact hself rfl

theorem intact_drop (h : Intact fs (call :: others) saved) : Intact fs others saved where
  keys := h.keys
  called := fun other hm => h.called other (List.mem_cons_of_mem _ hm)
  progress := fun other hm => h.progress other (List.mem_cons_of_mem _ hm)
  apart := (List.pairwise_cons.mp h.apart).2
  complete := h.complete

/-- A save that is not started can be added anywhere. -/
theorem intact_opening (h : Intact fs others saved) (hm : (call.key, call.value) ∈ saved)
    (hp : call.phase = .opening) : Intact fs (call :: others) saved where
  keys := h.keys
  called := by
    intro other ho
    rcases List.mem_cons.mp ho with rfl | ho
    · exact hm
    · exact h.called other ho
  progress := by
    intro other ho
    rcases List.mem_cons.mp ho with rfl | ho
    · unfold SaveCall.Progress
      rw [hp]
      trivial
    · exact h.progress other ho
  apart := by
    refine List.pairwise_cons.mpr ⟨fun other _ hs => ?_, h.apart⟩
    simp [SaveCall.started, hp] at hs
  complete := h.complete

/-- A step of a save that writes only to its temporary file. -/
theorem intact_tmp (h : Intact fs (call :: others) saved) {fs' : FileSystem String UInt8}
    {next : SaveCall} (hkey : next.key = call.key) (hvalue : next.value = call.value)
    (hapart : ∀ other ∈ others, other.started = true → other.tmp ≠ call.tmp)
    (hdir : ∀ n, n ≠ call.tmp → fs'.dir n = fs.dir n)
    (hread : ∀ n, n ≠ call.tmp → fs'.read n = fs.read n) (hnext : next.Progress fs') :
    Intact fs' (next :: others) saved where
  keys := h.keys
  called := by
    intro other ho
    rcases List.mem_cons.mp ho with rfl | ho
    · rw [hkey, hvalue]
      exact h.called call List.mem_cons_self
    · exact h.called other (List.mem_cons_of_mem _ ho)
  progress := by
    intro other ho
    rcases List.mem_cons.mp ho with rfl | ho
    · exact hnext
    · refine progress_frame (h.progress other (List.mem_cons_of_mem _ ho)) fun hs => ?_
      have hne := hapart other ho hs
      exact ⟨hdir _ hne, hread _ hne⟩
  apart := by
    refine List.pairwise_cons.mpr ⟨fun other ho _ hs he => ?_, (List.pairwise_cons.mp h.apart).2⟩
    have htmp : next.tmp = call.tmp := congrArg tmpName hkey
    exact hapart other ho hs (he.symm.trans htmp)
  complete := by
    intro name content hc
    by_cases hn : name = call.tmp
    · exact Or.inl ⟨_, h.called call List.mem_cons_self, hn.symm⟩
    · rw [hread name hn] at hc
      exact h.complete name content hc

/-- What is apart from a started save. -/
theorem apart_of_started (h : Intact fs (call :: others) saved) (hs : call.started = true) :
    ∀ other ∈ others, other.started = true → other.tmp ≠ call.tmp := by
  intro other ho hother he
  exact (List.pairwise_cons.mp h.apart).1 other ho hs hother he.symm

theorem intact_rename {fs' : FileSystem String UInt8} (h : Intact fs (call :: others) saved)
    (hphase : call.phase = .synced) (hrename : fs.rename call.tmp call.key = some fs') :
    Intact fs' others saved := by
  have hcalled := h.called call List.mem_cons_self
  have hvalue := h.progress call List.mem_cons_self
  simp only [SaveCall.Progress, hphase] at hvalue
  have hapart := apart_of_started h (by simp [SaveCall.started, hphase])
  refine ⟨h.keys, (intact_drop h).called, ?_, (intact_drop h).apart, ?_⟩
  · intro other ho
    have hm := List.mem_cons_of_mem call ho
    refine progress_frame (h.progress other hm) fun hs => ?_
    have hne := hapart other ho hs
    have hkey : other.tmp ≠ call.key := fun he => key_ne_tmp h (h.called other hm) hcalled he.symm
    rw [FileSystem.rename_dir hrename, FileSystem.read_rename hrename]
    simp only [if_neg hkey, if_neg hne, and_self]
  · intro name content hc
    rw [FileSystem.read_rename hrename] at hc
    split at hc
    · next hn =>
      rw [hvalue] at hc
      cases hc
      rw [hn]
      exact Or.inr hcalled
    · split at hc
      · cases hc
      · exact h.complete name content hc

/-- The calls with the one at `i` in front. -/
theorem perm_front {i : Nat} (h : calls[i]? = some call) :
    calls.Perm (call :: calls.eraseIdx i) := by
  obtain ⟨hi, rfl⟩ := List.getElem?_eq_some_iff.mp h
  exact (List.getElem_cons_eraseIdx_perm hi).symm

theorem set_perm_front {i : Nat} (h : calls[i]? = some call) (next : SaveCall) :
    (next :: calls.eraseIdx i).Perm (calls.set i next) :=
  (List.set_perm_cons_eraseIdx (List.getElem?_eq_some_iff.mp h).1 next).symm

/-- An attempt that ends with an error leaves its file behind. -/
theorem retry_intact {s : DiskStore} {i : Nat} (h : Intact s.fs s.calls s.saved)
    (hcall : s.calls[i]? = some call) :
    Intact (s.retry i call).fs (s.retry i call).calls (s.retry i call).saved := by
  have hfront := intact_perm (perm_front hcall) h
  have hrest := intact_drop hfront
  unfold DiskStore.retry
  split
  · exact hrest
  · exact intact_perm (set_perm_front hcall _)
      (intact_opening hrest (hfront.called call List.mem_cons_self) rfl)

end Steps

/-- No key is the name of its temporary file, and no save opens a temporary
file that another one has open or is about to rename. -/
def SafeStep (s : DiskStore) (e : DiskEvent) : Prop :=
  match e with
  | .save key _ => tmpName key ≠ key
  | .openTmp i => ∀ call, s.calls[i]? = some call →
      ∀ other ∈ s.calls, other.started = true → other.tmp ≠ call.tmp
  | _ => True

theorem legal_ne_empty {key : String} (h : legalFileName key = true) : key ≠ "" := by
  simp only [legalFileName, Bool.and_eq_true, decide_eq_true_eq] at h
  exact h.1.1.1

section OneStep

variable {s s' : DiskStore}

theorem save_intact {key : String} {value : List UInt8} (hok : SafeStep s (.save key value))
    (hstep : s.step (.save key value) = some s') (h : Intact s.fs s.calls s.saved) :
    Intact s'.fs s'.calls s'.saved := by
  simp only [DiskStore.step] at hstep
  split at hstep
  · next hlegal =>
    cases hstep
    have hgrown : Intact s.fs s.calls (s.saved ++ [(key, value)]) := by
      refine ⟨?_, fun call hm => List.mem_append_left _ (h.called call hm), h.progress, h.apart,
        ?_⟩
      · intro p hp
        rcases List.mem_append.mp hp with hold | hnew
        · exact h.keys p hold
        · rw [List.mem_singleton.mp hnew]
          exact ⟨legal_ne_empty hlegal, hok⟩
      · intro name content hc
        rcases h.complete name content hc with ⟨p, hp, he⟩ | hm
        · exact Or.inl ⟨p, List.mem_append_left _ hp, he⟩
        · exact Or.inr (List.mem_append_left _ hm)
    refine intact_perm (List.perm_append_singleton _ _).symm (intact_opening hgrown ?_ rfl)
    exact List.mem_append_right _ (List.mem_singleton_self _)
  · cases hstep

theorem openTmp_intact {i : Nat} (hok : SafeStep s (.openTmp i))
    (hstep : s.step (.openTmp i) = some s') (h : Intact s.fs s.calls s.saved) :
    Intact s'.fs s'.calls s'.saved := by
  simp only [DiskStore.step] at hstep
  split at hstep
  · next key value attempt hcall =>
    cases hstep
    have hfront := intact_perm (perm_front hcall) h
    refine intact_perm (set_perm_front hcall _) (intact_tmp hfront rfl rfl ?_ ?_ ?_ ?_)
    · exact fun other ho => hok _ hcall other (List.mem_of_mem_eraseIdx ho)
    · intro n hn
      rw [FileSystem.openTruncate_dir]
      exact if_neg hn
    · intro n hn
      rw [FileSystem.read_openTruncate]
      exact if_neg hn
    · refine ⟨?_, ?_, Nat.zero_le _⟩
      · rw [FileSystem.openTruncate_dir]
        exact if_pos rfl
      · rw [FileSystem.read_openTruncate]
        exact if_pos rfl
  · cases hstep

/-- The file of a save holds what it has written so far. -/
theorem write_intact {i n : Nat} (hstep : s.step (.write i n) = some s')
    (h : Intact s.fs s.calls s.saved) : Intact s'.fs s'.calls s'.saved := by
  simp only [DiskStore.step] at hstep
  split at hstep
  · next key value attempt inode offset hcall =>
    cases hstep
    have hfront := intact_perm (perm_front hcall) h
    obtain ⟨hdir, hread, hle⟩ : s.fs.dir (tmpName key) = some inode ∧
        s.fs.read (tmpName key) = some (value.take offset) ∧ offset ≤ value.length :=
      hfront.progress _ List.mem_cons_self
    refine intact_perm (set_perm_front hcall _) (intact_tmp hfront rfl rfl
      (apart_of_started hfront rfl) ?_ ?_ ?_)
    · intro m _
      rw [FileSystem.write_dir]
    · intro m hm
      rw [FileSystem.read_write s.fs hdir hread]
      exact if_neg hm
    · refine ⟨?_, ?_, ?_⟩
      · rw [FileSystem.write_dir]
        exact hdir
      · rw [FileSystem.read_write s.fs hdir hread, ← FileSystem.writeAt_take 0 value hle]
        exact if_pos rfl
      · show offset + ((value.drop offset).take n).length ≤ value.length
        rw [List.length_take, List.length_drop]
        omega
  · cases hstep

theorem sync_intact {i : Nat} (hstep : s.step (.sync i) = some s')
    (h : Intact s.fs s.calls s.saved) : Intact s'.fs s'.calls s'.saved := by
  simp only [DiskStore.step] at hstep
  split at hstep
  · next key value attempt inode offset hcall =>
    split at hstep
    · next hend =>
      cases hstep
      have hfront := intact_perm (perm_front hcall) h
      obtain ⟨_, hread, _⟩ := hfront.progress _ List.mem_cons_self
      refine intact_perm (set_perm_front hcall _) (intact_tmp hfront rfl rfl
        (apart_of_started hfront rfl) (fun _ _ => rfl) (fun _ _ => rfl) ?_)
      show s.fs.read (tmpName key) = some value
      rw [hend, List.take_length] at hread
      exact hread
    · cases hstep
  · cases hstep

theorem rename_intact {i : Nat} (hstep : s.step (.rename i) = some s')
    (h : Intact s.fs s.calls s.saved) : Intact s'.fs s'.calls s'.saved := by
  simp only [DiskStore.step] at hstep
  split at hstep
  · next key value attempt hcall =>
    split at hstep
    · next fs hrename =>
      cases hstep
      exact intact_rename (intact_perm (perm_front hcall) h) rfl hrename
    · cases hstep
      exact retry_intact h hcall
  · cases hstep

theorem fail_intact {i : Nat} (hstep : s.step (.fail i) = some s')
    (h : Intact s.fs s.calls s.saved) : Intact s'.fs s'.calls s'.saved := by
  simp only [DiskStore.step] at hstep
  split at hstep
  · next call hcall =>
    cases hstep
    exact retry_intact h hcall
  · cases hstep

/-- **One step.** -/
theorem step_intact {e : DiskEvent} (hok : SafeStep s e) (hstep : s.step e = some s')
    (h : Intact s.fs s.calls s.saved) : Intact s'.fs s'.calls s'.saved := by
  cases e with
  | save key value => exact save_intact hok hstep h
  | openTmp i => exact openTmp_intact hok hstep h
  | write i n => exact write_intact hstep h
  | sync i => exact sync_intact hstep h
  | rename i => exact rename_intact hstep h
  | fail i => exact fail_intact hstep h

end OneStep

/-! ## Whole runs -/

/-- The file of a key holds one complete value that was saved for this key. -/
def DiskStore.Complete (s : DiskStore) : Prop :=
  ∀ key content, (∃ value, (key, value) ∈ s.saved) → s.fs.read key = some content →
    (key, content) ∈ s.saved

/-- **Files are complete.** In every run of saves in which no key is a
temporary name and no temporary file is opened while another save uses it,
every file of a key holds exactly one value saved for this key. -/
theorem saves_complete {es : List DiskEvent} {t : DiskStore}
    (hrun : Reaches DiskStore.step SafeStep DiskStore.start es t) : t.Complete := by
  have hinv : Intact t.fs t.calls t.saved :=
    hrun.invariant (fun _ _ _ hok hs hi => step_intact hok hs hi) start_intact
  rintro key content ⟨value, hsaved⟩ hread
  rcases hinv.complete key content hread with ⟨p, hp, he⟩ | hm
  · exact absurd he.symm (key_ne_tmp hinv hp hsaved)
  · exact hm

/-! ## Two keys with one temporary file -/

def yamlKey : String := "app.yaml+_+G+_+N"
def jsonKey : String := "app.json+_+G+_+N"

def dbKey : String := "db.yaml+_+G+_+N"

/-- The saves of two keys overlap and one starts again; a second save of the
first key waits until its temporary file was renamed. -/
def savesBeside : List DiskEvent :=
  [.save yamlKey [1, 1], .save dbKey [2, 2], .save yamlKey [3], .openTmp 0, .openTmp 1,
    .write 0 1, .write 1 1, .write 0 1, .fail 1, .sync 0, .rename 0, .openTmp 1, .openTmp 0,
    .write 1 1, .write 0 2, .sync 0, .sync 1, .rename 1, .rename 0]

/-- The second save opens the file that the first one is about to rename. -/
def savesAcross : List DiskEvent :=
  [.save yamlKey [1, 1], .save jsonKey [2], .openTmp 0, .write 0 2, .sync 0, .openTmp 1,
    .write 1 1, .rename 0]

def DiskStore.after (es : List DiskEvent) : DiskStore :=
  (run DiskStore.step DiskStore.start es).getD DiskStore.start

/-- The guard as a test. -/
def safeStep (s : DiskStore) : DiskEvent → Bool
  | .save key _ => tmpName key ≠ key
  | .openTmp i =>
    s.calls[i]?.all fun call => s.calls.all fun other => !other.started || other.tmp ≠ call.tmp
  | _ => true

theorem safeStep_sound (s : DiskStore) (e : DiskEvent) (h : safeStep s e = true) :
    SafeStep s e := by
  cases e with
  | save key value => simpa [safeStep, SafeStep] using h
  | openTmp i =>
    intro call hcall other ho hs
    simp only [safeStep, hcall, Option.all_some, List.all_eq_true] at h
    have htest := h other ho
    simpa [hs] using htest
  | write | sync | rename | fail => trivial

theorem saves_complete_beside : (DiskStore.after savesBeside).Complete ∧
    (DiskStore.after savesBeside).fs.read yamlKey = some [3] ∧
    (DiskStore.after savesBeside).fs.read dbKey = some [2, 2] := by
  have hrun : Reaches DiskStore.step SafeStep DiskStore.start savesBeside
      (DiskStore.after savesBeside) :=
    runWhile_getD_reaches safeStep_sound (by decide +kernel) _
  exact ⟨saves_complete hrun, by decide +kernel, by decide +kernel⟩

/-- The bytes of the second key stand under the first one. -/
theorem sharedTmp_not_complete :
    Reaches DiskStore.step anyStep DiskStore.start savesAcross (DiskStore.after savesAcross) ∧
      (DiskStore.after savesAcross).saved = [(yamlKey, [1, 1]), (jsonKey, [2])] ∧
      (DiskStore.after savesAcross).fs.read yamlKey = some [2] ∧
      ¬ (DiskStore.after savesAcross).Complete := by
  refine ⟨run_getD_reaches (by decide +kernel) _, by decide +kernel, by decide +kernel,
    fun hcomplete => ?_⟩
  have hmixed := hcomplete yamlKey [2] ⟨[1, 1], by decide +kernel⟩ (by decide +kernel)
  exact absurd hmixed (by decide +kernel)

end NacosSdk.Common
