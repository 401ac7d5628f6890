import NacosSdk.Common.DiskLoad

/-!
# Crashes of the disk store

Saves in all their steps, removals and crashes of the process over one directory,
beside the calls `commits` that took effect, one after the other. Proved here, for
every run in which no save opens a temporary file that another one is using:

* `crash_simulates`: a step is none, or one call of the store that runs one call
  after the other;
* `crash_law`: wherever the process stops, what is loaded is what the commits have
  saved.
-/

namespace NacosSdk.Common
open NacosSdk.Lib NacosSdk.Lib.Run NacosSdk.Lib.Pending

/-- The store with the calls that took effect, in their order. -/
structure CrashStore where
  store : DiskStore
  commits : List StoreCall

def CrashStore.start : CrashStore where
  store := DiskStore.start
  commits := []

inductive CrashEvent where
  | disk (e : DiskEvent)
  | remove (key : String)
  /-- The process stops; its files stay. -/
  | crash

/-- A save takes effect when it renames its temporary file. -/
def DiskStore.commit (s : DiskStore) : DiskEvent → List StoreCall
  | .rename i =>
    match s.calls[i]? with
    | some ⟨key, value, _, .synced⟩ =>
      if (s.fs.rename (tmpName key) key).isSome then [.save key value] else []
    | _ => []
  | _ => []

def CrashStore.step (s : CrashStore) : CrashEvent → Option CrashStore
  | .disk e =>
    (s.store.step e).map fun store => { store, commits := s.commits ++ s.store.commit e }
  | .remove key =>
    if legalFileName key then
      some {
        store := { s.store with fs := tryRemove s.store.fs key }
        commits := s.commits ++ [.remove key] }
    else none
  | .crash => some { s with store := { s.store with calls := [] } }

/-- No key reads like a temporary name, and no save opens a temporary file that
another one has open or is about to rename. -/
def Careful (s : CrashStore) : CrashEvent → Prop
  | .disk (.save key _) => isTemporary key = false
  | .disk e => SafeStep s.store e
  | .remove key => isTemporary key = false
  | .crash => True

/-! ## One step -/

theorem ne_tmpName {name : String} (h : isTemporary name = false) (key : String) :
    name ≠ tmpName key := by
  intro he
  rw [he, tmpName_isTemporary] at h
  cases h

theorem careful_safe {s : CrashStore} {e : DiskEvent} (h : Careful s (.disk e)) :
    SafeStep s.store e := by
  cases e with
  | save key value => exact (ne_tmpName h key).symm
  | openTmp | write | sync | rename | fail => exact h

/-- The directory shows the files of `fs`, but for temporary ones. -/
def Shows (shown fs : FileSystem String UInt8) : Prop :=
  ∀ name, isTemporary name = false → shown.read name = fs.read name

structure CrashStore.Refines (s : CrashStore) (fs : FileSystem String UInt8) : Prop where
  intact : Intact s.store.fs s.store.calls s.store.saved
  legal : ∀ p ∈ s.store.saved, legalFileName p.1 = true ∧ isTemporary p.1 = false
  shows : Shows s.store.fs fs

theorem start_refines : CrashStore.start.Refines FileSystem.empty where
  intact := start_intact
  legal := nofun
  shows := fun _ _ => rfl

section OneStep

variable {s s' : DiskStore}

/-- The error path leaves the files and what was saved. -/
theorem retry_files (s : DiskStore) (i : Nat) (call : SaveCall) :
    (s.retry i call).fs = s.fs ∧ (s.retry i call).saved = s.saved := by
  unfold DiskStore.retry
  split <;> exact ⟨rfl, rfl⟩

theorem saved_step {e : DiskEvent} (hstep : s.step e = some s') :
    s'.saved = s.saved ∨ ∃ key value, e = .save key value ∧ legalFileName key = true ∧
      s'.saved = s.saved ++ [(key, value)] := by
  cases e with
  | save key value =>
    simp only [DiskStore.step] at hstep
    split at hstep
    · next hlegal =>
      cases hstep
      exact Or.inr ⟨key, value, rfl, hlegal, rfl⟩
    · cases hstep
  | openTmp i | write i n =>
    simp only [DiskStore.step] at hstep
    split at hstep
    · cases hstep
      exact Or.inl rfl
    · cases hstep
  | sync i =>
    simp only [DiskStore.step] at hstep
    split at hstep
    · split at hstep
      · cases hstep
        exact Or.inl rfl
      · cases hstep
    · cases hstep
  | rename i =>
    simp only [DiskStore.step] at hstep
    split at hstep
    · split at hstep
      · cases hstep
        exact Or.inl rfl
      · cases hstep
        exact Or.inl (retry_files _ _ _).2
    · cases hstep
  | fail i =>
    simp only [DiskStore.step] at hstep
    split at hstep
    · cases hstep
      exact Or.inl (retry_files _ _ _).2
    · cases hstep

/-- A synced save finds its temporary file. -/
theorem rename_found {fs : FileSystem String UInt8} {source target : String} {value : List UInt8}
    (h : fs.read source = some value) : ∃ fs', fs.rename source target = some fs' := by
  unfold FileSystem.rename
  split
  · next hnone => simp [FileSystem.read, hnone] at h
  · exact ⟨_, rfl⟩

/-- A rename of a synced save takes effect. -/
theorem rename_committed {i : Nat} (h : Intact s.fs s.calls s.saved)
    (hstep : s.step (.rename i) = some s') :
    ∃ call, s.calls[i]? = some call ∧ s'.calls = s.calls.eraseIdx i ∧
      s.commit (.rename i) = [.save call.key call.value] ∧
      ∀ name, isTemporary name = false →
        s'.fs.read name = if name = call.key then some call.value else s.fs.read name := by
  simp only [DiskStore.step] at hstep
  split at hstep
  · next key value attempt hcall =>
    have hread : s.fs.read (tmpName key) = some value :=
      h.progress _ (List.mem_of_getElem? hcall)
    obtain ⟨fs, hrename⟩ := @rename_found s.fs (tmpName key) key value hread
    rw [hrename] at hstep
    cases hstep
    refine ⟨_, hcall, rfl, by simp [DiskStore.commit, hcall, hrename], fun name hname => ?_⟩
    simp only [FileSystem.read_rename hrename, if_neg (ne_tmpName hname key), hread]
  · cases hstep

/-- The other steps write to no file but a temporary one. -/
theorem quiet_shows {e : DiskEvent} (h : Intact s.fs s.calls s.saved)
    (hstep : s.step e = some s') (hquiet : ∀ i, e ≠ .rename i) :
    Shows s'.fs s.fs ∧ s.commit e = [] := by
  cases e with
  | save key value =>
    simp only [DiskStore.step] at hstep
    split at hstep
    · cases hstep
      exact ⟨fun _ _ => rfl, rfl⟩
    · cases hstep
  | openTmp i =>
    simp only [DiskStore.step] at hstep
    split at hstep
    · next key value attempt hcall =>
      cases hstep
      refine ⟨fun name hname => ?_, rfl⟩
      rw [FileSystem.read_openTruncate]
      exact if_neg (ne_tmpName hname key)
    · cases hstep
  | write i n =>
    simp only [DiskStore.step] at hstep
    split at hstep
    · next key value attempt inode offset hcall =>
      cases hstep
      refine ⟨fun name hname => ?_, rfl⟩
      obtain ⟨hdir, hread, _⟩ : s.fs.dir (tmpName key) = some inode ∧
          s.fs.read (tmpName key) = some (value.take offset) ∧ offset ≤ value.length :=
        h.progress _ (List.mem_of_getElem? hcall)
      rw [FileSystem.read_write s.fs hdir hread]
      exact if_neg (ne_tmpName hname key)
    · cases hstep
  | sync i =>
    simp only [DiskStore.step] at hstep
    split at hstep
    · split at hstep
      · cases hstep
        exact ⟨fun _ _ => rfl, rfl⟩
      · cases hstep
    · cases hstep
  | rename i => exact absurd rfl (hquiet i)
  | fail i =>
    simp only [DiskStore.step] at hstep
    split at hstep
    · cases hstep
      refine ⟨fun name _ => ?_, rfl⟩
      rw [(retry_files _ _ _).1]
    · cases hstep

end OneStep

theorem storeStep_save {fs : FileSystem String UInt8} {key : String} (h : legalFileName key = true)
    (value : List UInt8) : ∃ fs', storeStep fs (.save key value) = some fs' := by
  obtain ⟨fs', hsave⟩ := fs.replaceVia_isSome 0 (tmpName key) key value
  exact ⟨fs', by simp [storeStep, h, trySave, hsave]⟩

/-- A call of the one-by-one store, on what the directory shows. -/
theorem storeStep_shows {shown shown' fs fs' : FileSystem String UInt8} {call : StoreCall}
    (h : Shows shown fs) (hstep : storeStep fs call = some fs')
    (hread : ∀ name, isTemporary name = false →
      shown'.read name = if name = call.key then call.left else shown.read name) :
    Shows shown' fs' := by
  intro name hname
  rw [hread name hname, storeStep_read hstep, h name hname]
  split
  · rfl
  · rw [if_neg fun hc => ne_tmpName hname call.key hc.1]

theorem tryRemove_dir (fs : FileSystem String UInt8) {key name : String} (h : name ≠ key) :
    (tryRemove fs key).dir name = fs.dir name := by
  unfold tryRemove
  split
  · rfl
  · change unlink fs.dir key name = fs.dir name
    rw [unlink_apply, if_neg h]

theorem remove_intact {s : DiskStore} {key : String} (h : Intact s.fs s.calls s.saved)
    (hkey : isTemporary key = false) : Intact (tryRemove s.fs key) s.calls s.saved where
  keys := h.keys
  called := h.called
  progress := by
    intro call hm
    refine progress_frame (h.progress call hm) fun _ => ?_
    have hne : call.tmp ≠ key := (ne_tmpName hkey call.key).symm
    exact ⟨tryRemove_dir s.fs hne, by rw [tryRemove_read, if_neg hne]⟩
  apart := h.apart
  complete := by
    intro name content hread
    rw [tryRemove_read] at hread
    split at hread
    · cases hread
    · exact h.complete name content hread

theorem disk_legal {s : CrashStore} {store : DiskStore} {e : DiskEvent} (hok : Careful s (.disk e))
    (hstore : s.store.step e = some store)
    (h : ∀ p ∈ s.store.saved, legalFileName p.1 = true ∧ isTemporary p.1 = false) :
    ∀ p ∈ store.saved, legalFileName p.1 = true ∧ isTemporary p.1 = false := by
  intro p hp
  rcases saved_step hstore with hsame | ⟨key, value, rfl, hlegal, hsaved⟩
  · rw [hsame] at hp
    exact h p hp
  · rw [hsaved] at hp
    rcases List.mem_append.mp hp with hold | hnew
    · exact h p hold
    · rw [List.mem_singleton.mp hnew]
      exact ⟨hlegal, hok⟩

/-- **Simulation.** Each step is none or one call of the store that runs one call
after the other. -/
theorem crash_simulates {s s' : CrashStore} {e : CrashEvent} {fs : FileSystem String UInt8}
    (hok : Careful s e) (hstep : s.step e = some s') (h : s.Refines fs) :
    ∃ calls fs', s'.commits = s.commits ++ calls ∧ Reaches storeStep anyStep fs calls fs' ∧
      s'.Refines fs' := by
  cases e with
  | crash =>
    cases hstep
    refine ⟨[], fs, (List.append_nil _).symm, Reaches.refl _, ⟨?_, h.legal, h.shows⟩⟩
    exact ⟨h.intact.keys, nofun, nofun, List.Pairwise.nil, h.intact.complete⟩
  | remove key =>
    simp only [CrashStore.step] at hstep
    split at hstep
    · next hlegal =>
      cases hstep
      have hcall : storeStep fs (.remove key) = some (tryRemove fs key) := by
        simp [storeStep, hlegal]
      refine ⟨[.remove key], _, rfl, Reaches.next trivial hcall (Reaches.refl _),
        ⟨remove_intact h.intact hok, h.legal, ?_⟩⟩
      exact storeStep_shows h.shows hcall fun name _ => tryRemove_read _ key name
    · cases hstep
  | disk e =>
    obtain ⟨store, hstore, rfl⟩ := Option.map_eq_some_iff.mp hstep
    have hintact := step_intact (careful_safe hok) hstore h.intact
    have hlegal := disk_legal hok hstore h.legal
    by_cases hrename : ∃ i, e = .rename i
    · obtain ⟨i, rfl⟩ := hrename
      obtain ⟨call, hcall, _, hcommit, hread⟩ := rename_committed h.intact hstore
      have hkey := (h.legal _ (h.intact.called call (List.mem_of_getElem? hcall))).1
      obtain ⟨fs', hsave⟩ := @storeStep_save fs call.key hkey call.value
      refine ⟨[.save call.key call.value], fs', by simp only [hcommit],
        Reaches.next trivial hsave (Reaches.refl _), ⟨hintact, hlegal, ?_⟩⟩
      exact storeStep_shows h.shows hsave hread
    · obtain ⟨hshows, hcommit⟩ := quiet_shows h.intact hstore fun i he => hrename ⟨i, he⟩
      refine ⟨[], fs, by simp only [hcommit], Reaches.refl _, ⟨hintact, hlegal, ?_⟩⟩
      exact fun name hname => (hshows name hname).trans (h.shows name hname)

/-! ## Whole runs -/

/-- The commits run one after the other, over an empty directory, to what the
directory shows. -/
def CrashStore.Simulated (s : CrashStore) : Prop :=
  ∃ fs, Reaches storeStep anyStep FileSystem.empty s.commits fs ∧ s.Refines fs

theorem crash_simulated {s s' : CrashStore} {e : CrashEvent} (hok : Careful s e)
    (hstep : s.step e = some s') (h : s.Simulated) : s'.Simulated := by
  obtain ⟨fs, hrun, hrefines⟩ := h
  obtain ⟨calls, fs', hcommits, hcalls, hrefines'⟩ := crash_simulates hok hstep hrefines
  refine ⟨fs', ?_, hrefines'⟩
  rw [hcommits]
  exact hrun.append hcalls

/-! ## What becomes of a save -/

def SaveCall.pair (call : SaveCall) : String × List UInt8 := (call.key, call.value)

/-- The value that a commit has saved. -/
def StoreCall.savedPair : StoreCall → Option (String × List UInt8)
  | .save key value => some (key, value)
  | .remove _ => none

/-- Every save is in flight, committed or lost, and only one of these. -/
def CrashStore.Accounted (lost : List (String × List UInt8)) (s : CrashStore) : Prop :=
  (s.store.calls.map SaveCall.pair ++ (s.commits.filterMap StoreCall.savedPair ++ lost)).Perm
    s.store.saved

/-- No step fails and the process does not stop. -/
def CrashEvent.Untroubled : CrashEvent → Prop
  | .disk (.fail _) | .crash => False
  | _ => True

theorem pairs_set {calls : List SaveCall} {i : Nat} {call next : SaveCall}
    (hcall : calls[i]? = some call) (hpair : next.pair = call.pair) :
    (calls.set i next).map SaveCall.pair = calls.map SaveCall.pair := by
  obtain ⟨hi, rfl⟩ := List.getElem?_eq_some_iff.mp hcall
  rw [List.map_set, hpair, ← List.getElem_map SaveCall.pair (h := by simpa using hi),
    List.set_getElem_self]

theorem pairs_erase {calls : List SaveCall} {i : Nat} {call : SaveCall}
    (hcall : calls[i]? = some call) (rest : List (String × List UInt8)) :
    ((calls.eraseIdx i).map SaveCall.pair ++ call.pair :: rest).Perm
      (calls.map SaveCall.pair ++ rest) := by
  have hfront := (perm_front hcall).map SaveCall.pair
  exact List.perm_middle.trans (hfront.symm.append_right rest)

theorem accounted_same {s s' : CrashStore} {lost : List (String × List UInt8)}
    (hcalls : s'.store.calls.map SaveCall.pair = s.store.calls.map SaveCall.pair)
    (hcommits : s'.commits.filterMap StoreCall.savedPair = s.commits.filterMap StoreCall.savedPair)
    (hsaved : s'.store.saved = s.store.saved) (h : s.Accounted lost) : s'.Accounted lost := by
  unfold CrashStore.Accounted
  rw [hcalls, hcommits, hsaved]
  exact h

/-- A save that fails goes on or is lost. -/
theorem retry_accounted {s : CrashStore} {lost : List (String × List UInt8)} {i : Nat}
    {call : SaveCall} (hcall : s.store.calls[i]? = some call) (h : s.Accounted lost) :
    ∃ more, ({ s with store := s.store.retry i call } : CrashStore).Accounted (more ++ lost) := by
  unfold DiskStore.retry
  split
  · refine ⟨[call.pair], ?_⟩
    have hmiddle : (s.commits.filterMap StoreCall.savedPair ++ ([call.pair] ++ lost)).Perm
        (call.pair :: (s.commits.filterMap StoreCall.savedPair ++ lost)) := List.perm_middle
    exact ((hmiddle.append_left _).trans (pairs_erase hcall _)).trans h
  · exact ⟨[], accounted_same (pairs_set hcall rfl) rfl rfl h⟩

theorem disk_accounted {s : CrashStore} {store : DiskStore} {e : DiskEvent}
    {lost : List (String × List UInt8)} (hintact : Intact s.store.fs s.store.calls s.store.saved)
    (hstore : s.store.step e = some store) (h : s.Accounted lost) :
    ∃ more, ({ store, commits := s.commits ++ s.store.commit e } : CrashStore).Accounted
      (more ++ lost) ∧ ((∀ i, e ≠ .fail i) → more = []) := by
  have hnone : s.commits ++ [] = s.commits := List.append_nil _
  cases e with
  | save key value =>
    simp only [DiskStore.step] at hstore
    split at hstore
    · cases hstore
      refine ⟨[], ?_, fun _ => rfl⟩
      unfold CrashStore.Accounted
      simp only [DiskStore.commit, hnone, List.map_append, List.append_assoc, List.nil_append]
      refine (List.Perm.append_left _ List.perm_append_comm).trans ?_
      rw [← List.append_assoc]
      exact h.append_right _
    · cases hstore
  | openTmp i | write i n =>
    simp only [DiskStore.step] at hstore
    split at hstore
    · next hcall =>
      cases hstore
      refine ⟨[], accounted_same (pairs_set hcall rfl) ?_ rfl h, fun _ => rfl⟩
      simp only [DiskStore.commit, hnone]
    · cases hstore
  | sync i =>
    simp only [DiskStore.step] at hstore
    split at hstore
    · next hcall =>
      split at hstore
      · cases hstore
        refine ⟨[], accounted_same (pairs_set hcall rfl) ?_ rfl h, fun _ => rfl⟩
        simp only [DiskStore.commit, hnone]
      · cases hstore
    · cases hstore
  | rename i =>
    obtain ⟨call, hcall, hcalls, hcommit, _⟩ := rename_committed hintact hstore
    have hsaved : store.saved = s.store.saved := by
      refine (saved_step hstore).resolve_right ?_
      rintro ⟨_, _, he, _⟩
      cases he
    have hmiddle : (s.commits.filterMap StoreCall.savedPair ++ ([call.pair] ++ lost)).Perm
        (call.pair :: (s.commits.filterMap StoreCall.savedPair ++ lost)) := List.perm_middle
    refine ⟨[], ?_, fun _ => rfl⟩
    unfold CrashStore.Accounted
    rw [hcommit, hcalls, hsaved, List.filterMap_append, List.append_assoc]
    exact ((hmiddle.append_left _).trans (pairs_erase hcall _)).trans h
  | fail i =>
    simp only [DiskStore.step] at hstore
    split at hstore
    · next call hcall =>
      cases hstore
      obtain ⟨more, hmore⟩ := retry_accounted hcall h
      refine ⟨more, ?_, fun hno => absurd rfl (hno i)⟩
      simp only [DiskStore.commit, hnone]
      exact hmore
    · cases hstore

theorem crash_accounted {s s' : CrashStore} {e : CrashEvent} {lost : List (String × List UInt8)}
    (hintact : Intact s.store.fs s.store.calls s.store.saved) (hstep : s.step e = some s')
    (h : s.Accounted lost) :
    ∃ more, s'.Accounted (more ++ lost) ∧ (e.Untroubled → more = []) := by
  cases e with
  | crash =>
    cases hstep
    refine ⟨s.store.calls.map SaveCall.pair, ?_, fun hno => hno.elim⟩
    unfold CrashStore.Accounted
    simp only [List.map_nil, List.nil_append]
    have hfront : (s.commits.filterMap StoreCall.savedPair ++
        (s.store.calls.map SaveCall.pair ++ lost)).Perm (s.store.calls.map SaveCall.pair ++
          (s.commits.filterMap StoreCall.savedPair ++ lost)) := by
      rw [← List.append_assoc, ← List.append_assoc]
      exact List.perm_append_comm.append_right _
    exact hfront.trans h
  | remove key =>
    simp only [CrashStore.step] at hstep
    split at hstep
    · cases hstep
      refine ⟨[], accounted_same (s := s) rfl ?_ rfl h, fun _ => rfl⟩
      rw [List.filterMap_append]
      exact List.append_nil _
    · cases hstep
  | disk e =>
    obtain ⟨store, hstore, rfl⟩ := Option.map_eq_some_iff.mp hstep
    obtain ⟨more, haccounted, hmore⟩ := disk_accounted hintact hstore h
    refine ⟨more, haccounted, fun hno => hmore fun i he => ?_⟩
    rw [he] at hno
    exact hno

theorem start_simulated : CrashStore.start.Simulated :=
  ⟨FileSystem.empty, Reaches.refl _, start_refines⟩

theorem start_accounted : CrashStore.start.Accounted [] := List.Perm.refl _

variable {V : Type} {fromSlice : List UInt8 → Option V}

/-- What is loaded from a directory that shows the result of calls. -/
theorem shown_loads {shown fs : FileSystem String UInt8} {calls : List StoreCall}
    (hshows : Shows shown fs) (hrun : Reaches storeStep anyStep FileSystem.empty calls fs)
    (hnames : ∀ key value, .save key value ∈ calls → isTemporary key = false)
    {entries : List String} (hlisting : Listing shown entries) :
    LoadsBack fromSlice calls (load fromSlice shown entries) := by
  intro key
  rw [load_lookup hlisting, fileValue]
  split
  · next htmp =>
    cases hlast : lastSaved calls key with
    | none => rfl
    | some value =>
      rw [hnames key value (lastSaved_mem hlast)] at htmp
      cases htmp
  · next hnot =>
    have hname := Bool.not_eq_true _ ▸ hnot
    rw [hshows key hname, run_read hrun hname, lastSaved]
    cases newestOf (fun call => decide (call.key = key)) calls <;> rfl

theorem run_accounted {es : List CrashEvent} {t : CrashStore}
    (h : Reaches CrashStore.step Careful CrashStore.start es t) :
    ∃ lost, t.Accounted lost ∧ ((∀ e ∈ es, e.Untroubled) → lost = []) := by
  by_cases huntroubled : ∀ e ∈ es, e.Untroubled
  · have hend : t.Simulated ∧ t.Accounted [] := by
      refine (h.restrict huntroubled).invariant
        (I := fun s : CrashStore => s.Simulated ∧ s.Accounted []) ?_
        ⟨start_simulated, start_accounted⟩
      rintro s e s' ⟨hok, hno⟩ hstep ⟨hsimulated, haccounted⟩
      obtain ⟨fs, _, hrefines⟩ := id hsimulated
      obtain ⟨more, hmore, hnone⟩ := crash_accounted hrefines.intact hstep haccounted
      rw [hnone hno] at hmore
      exact ⟨crash_simulated hok hstep hsimulated, hmore⟩
    exact ⟨[], hend.2, fun _ => rfl⟩
  · have hend : t.Simulated ∧ ∃ lost, t.Accounted lost := by
      refine h.invariant (I := fun s : CrashStore => s.Simulated ∧ ∃ lost, s.Accounted lost) ?_
        ⟨start_simulated, [], start_accounted⟩
      rintro s e s' hok hstep ⟨hsimulated, lost, haccounted⟩
      obtain ⟨fs, _, hrefines⟩ := id hsimulated
      obtain ⟨more, hmore, _⟩ := crash_accounted hrefines.intact hstep haccounted
      exact ⟨crash_simulated hok hstep hsimulated, _, hmore⟩
    obtain ⟨lost, haccounted⟩ := hend.2
    exact ⟨lost, haccounted, fun hall => absurd hall huntroubled⟩

theorem committed_named {s : CrashStore} {lost : List (String × List UInt8)}
    {fs : FileSystem String UInt8} (hrefines : s.Refines fs) (h : s.Accounted lost) :
    ∀ key value, .save key value ∈ s.commits → isTemporary key = false := by
  intro key value hm
  have hpair : (key, value) ∈ s.commits.filterMap StoreCall.savedPair :=
    List.mem_filterMap.mpr ⟨_, hm, rfl⟩
  have hsaved := h.subset (List.mem_append_right _ (List.mem_append_left _ hpair))
  exact (hrefines.legal _ hsaved).2

/-- **Crashes.** In every run of interleaved saves, removals and crashes in which
no key reads like a temporary name and no temporary file is shared: the commits,
run one after the other, leave what the directory shows; whenever the process
starts again it loads exactly what they saved last; every save is in flight,
committed once or lost; and none is lost while nothing fails. -/
theorem crash_law {es : List CrashEvent} {t : CrashStore}
    (h : Reaches CrashStore.step Careful CrashStore.start es t) :
    (∃ fs, Reaches storeStep anyStep FileSystem.empty t.commits fs ∧ Shows t.store.fs fs) ∧
    (∀ entries, Listing t.store.fs entries →
      LoadsBack fromSlice t.commits (load fromSlice t.store.fs entries)) ∧
    (∃ lost, t.Accounted lost ∧ ((∀ e ∈ es, e.Untroubled) → lost = [])) := by
  obtain ⟨fs, hrun, hrefines⟩ : t.Simulated :=
    h.invariant (fun _ _ _ hok hstep => crash_simulated hok hstep) start_simulated
  obtain ⟨lost, haccounted, hlost⟩ := run_accounted h
  have hnames := committed_named hrefines haccounted
  exact ⟨⟨fs, hrun, hrefines.shows⟩,
    fun _ hlisting => shown_loads hrefines.shows hrun hnames hlisting,
    ⟨lost, haccounted, hlost⟩⟩

/-! ## A crash in the middle of a save -/

/-- The guard as a test. -/
def careful (s : CrashStore) : CrashEvent → Bool
  | .disk (.save key _) => !isTemporary key
  | .disk (.openTmp i) => safeStep s.store (.openTmp i)
  | .remove key => !isTemporary key
  | _ => true

theorem careful_sound (s : CrashStore) (e : CrashEvent) (h : careful s e = true) :
    Careful s e := by
  cases e with
  | disk e =>
    cases e with
    | save key value => simpa [careful, Careful] using h
    | openTmp i => exact safeStep_sound s.store (.openTmp i) h
    | write | sync | rename | fail => trivial
  | remove key => simpa [careful, Careful] using h
  | crash => trivial

/-- The process stops when the second save has written a part of its bytes. -/
def halfSaved : List CrashEvent :=
  [.disk (.save "app" [49]), .disk (.openTmp 0), .disk (.write 0 1), .disk (.sync 0),
    .disk (.rename 0), .disk (.save "app" [50, 51]), .disk (.openTmp 0), .disk (.write 0 1), .crash]

def crashedAfter (es : List CrashEvent) : CrashStore :=
  (run CrashStore.step CrashStore.start es).getD CrashStore.start

theorem crash_law_halfSaved :
    (crashedAfter halfSaved).commits = [.save "app" [49]] ∧
    ∀ entries, Listing (crashedAfter halfSaved).store.fs entries →
      LoadsBack digitSlice (crashedAfter halfSaved).commits
        (load digitSlice (crashedAfter halfSaved).store.fs entries) := by
  have hrun : Reaches CrashStore.step Careful CrashStore.start halfSaved (crashedAfter halfSaved) :=
    runWhile_getD_reaches careful_sound (by decide +kernel) _
  exact ⟨by decide +kernel, (crash_law hrun).2.1⟩

end NacosSdk.Common
