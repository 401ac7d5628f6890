import NacosSdk.Common.DiskStore
import NacosSdk.Common.HashMap
import NacosSdk.Lib.Pending

/-!
# Loading the disk store

`save`, `remove` and `load` of `common/cache/disk.rs`, one call after the other
with every step succeeding. The directory may be listed in any order, and
`fromSlice` is what `serde_json::from_slice` makes of a file. Proved here, for
every sequence of calls:

* `save_alone`: the steps of one save are `replaceVia`;
* `run_read`: what the file of a key holds that is not a temporary name;
* `load_lookup`: what a loaded map holds;
* `load_iff`: exactly when the last saved values come back;
* `tmpKey_not_loaded`: a key that reads like a temporary name.
-/

namespace NacosSdk.Common
open NacosSdk.Lib NacosSdk.Lib.Run NacosSdk.Lib.Pending

/-! ## Calls -/

inductive StoreCall where
  | save (key : String) (value : List UInt8)
  | remove (key : String)
  deriving DecidableEq

def StoreCall.key : StoreCall → String
  | .save key _ => key
  | .remove key => key

/-- What the call leaves behind its key. -/
def StoreCall.left : StoreCall → Option (List UInt8)
  | .save _ value => some value
  | .remove _ => none

/-- `try_save`, with nothing in between. -/
def trySave (fs : FileSystem String UInt8) (key : String) (value : List UInt8) :
    Option (FileSystem String UInt8) :=
  fs.replaceVia 0 (tmpName key) key value

/-- `try_remove`: nothing is done for a path that does not exist. -/
def tryRemove (fs : FileSystem String UInt8) (key : String) : FileSystem String UInt8 :=
  if (fs.read key).isNone then fs else fs.remove key

def storeStep (fs : FileSystem String UInt8) : StoreCall → Option (FileSystem String UInt8)
  | .save key value => if legalFileName key then trySave fs key value else none
  | .remove key => if legalFileName key then some (tryRemove fs key) else none

/-- The fine-grained steps of a save that has the store for itself. -/
theorem save_alone {s : DiskStore} (hcalls : s.calls = []) {key : String}
    (hkey : legalFileName key = true) (value : List UInt8) :
    (run DiskStore.step s
        [.save key value, .openTmp 0, .write 0 value.length, .sync 0, .rename 0]).map
        (fun t => (t.fs, t.calls)) =
      (trySave s.fs key value).map fun fs => (fs, []) := by
  obtain ⟨fs, hfs⟩ := s.fs.replaceVia_isSome 0 (tmpName key) key value
  have hrename : ((s.fs.openTruncate (tmpName key)).write 0 (s.fs.opened (tmpName key)) 0
      value).rename (tmpName key) key = some fs := hfs
  simp [run, DiskStore.step, hkey, hcalls, trySave, hfs, hrename]

/-! ## Loading -/

/-- `filename.ends_with(".tmp")`. -/
def isTemporary (filename : String) : Bool := ".tmp".toList.isSuffixOf filename.toList

variable {V : Type} (fromSlice : List UInt8 → Option V)

/-- One round of the loop of `load`. -/
def loadEntry (fs : FileSystem String UInt8) (loaded : HashMap V) (filename : String) :
    HashMap V :=
  if isTemporary filename then loaded
  else
    match fs.read filename with
    | none => loaded
    | some content =>
      match fromSlice content with
      | none => loaded
      | some value => loaded.insert filename value

def load (fs : FileSystem String UInt8) (entries : List String) : HashMap V :=
  entries.foldl (loadEntry fromSlice fs) ∅

/-- What `read_dir` may yield: the names of all files, in any order. -/
def Listing (fs : FileSystem String UInt8) (entries : List String) : Prop :=
  ∀ filename, filename ∈ entries ↔ (fs.read filename).isSome = true

/-- The bytes of the last call of the key, if that was a save. -/
def lastSaved (calls : List StoreCall) (key : String) : Option (List UInt8) :=
  (newestOf (fun call => call.key = key) calls).bind StoreCall.left

/-- The map is what was saved last, decoded, and nothing else. -/
def LoadsBack (calls : List StoreCall) (loaded : HashMap V) : Prop :=
  ∀ key, loaded.get? key = (lastSaved calls key).bind fromSlice

theorem lastSaved_mem {calls : List StoreCall} {key : String} {value : List UInt8}
    (h : lastSaved calls key = some value) : .save key value ∈ calls := by
  obtain ⟨call, hnewest, hleft⟩ := Option.bind_eq_some_iff.mp h
  obtain ⟨hmem, hkey⟩ := newestOf_mem hnewest
  cases call with
  | save k v =>
    obtain rfl := Option.some.inj hleft
    obtain rfl : k = key := of_decide_eq_true hkey
    exact hmem
  | remove k => cases hleft

theorem tmpName_isTemporary (key : String) : isTemporary (tmpName key) = true := by
  rw [isTemporary, List.isSuffixOf_iff_suffix]
  refine ⟨(fileStem key).toList, ?_⟩
  simp [tmpName, withExtension, String.toList_append]

/-! ## What the files hold -/

theorem trySave_read {fs fs' : FileSystem String UInt8} {key : String} {value : List UInt8}
    (h : trySave fs key value = some fs') (name : String) :
    fs'.read name = if name = key then some value
      else if name = tmpName key then none else fs.read name :=
  FileSystem.read_replaceVia h name

theorem tryRemove_read (fs : FileSystem String UInt8) (key name : String) :
    (tryRemove fs key).read name = if name = key then none else fs.read name := by
  unfold tryRemove
  split
  · next hnone =>
    split
    · next hn =>
      rw [hn]
      exact Option.isNone_iff_eq_none.mp hnone
    · rfl
  · exact FileSystem.read_remove key name

/-- A call sets its own file and may lose its temporary one. -/
theorem storeStep_read {fs fs' : FileSystem String UInt8} {call : StoreCall}
    (h : storeStep fs call = some fs') (name : String) :
    fs'.read name = if name = call.key then call.left
      else if name = tmpName call.key ∧ call.left ≠ none then none else fs.read name := by
  cases call with
  | save key value =>
    simp only [storeStep] at h
    split at h
    · rw [trySave_read h]
      simp [StoreCall.key, StoreCall.left]
    · cases h
  | remove key =>
    simp only [storeStep] at h
    split at h
    · obtain rfl := Option.some.inj h
      rw [tryRemove_read]
      simp [StoreCall.key, StoreCall.left]
    · cases h

/-- The file of a key that is no temporary name holds what the last call of the
key left there. -/
theorem run_read {fs fs' : FileSystem String UInt8} {calls : List StoreCall}
    (h : Reaches storeStep anyStep fs calls fs') {key : String} (hkey : isTemporary key = false) :
    fs'.read key =
      (newestOf (fun call => call.key = key) calls).elim (fs.read key) StoreCall.left := by
  induction h with
  | refl => rfl
  | @next s s' t call calls _ hstep _ ih =>
    have htmp : key ≠ tmpName call.key := by
      intro he
      rw [he, tmpName_isTemporary] at hkey
      cases hkey
    rw [ih, storeStep_read hstep, show call :: calls = [call] ++ calls from rfl, newestOf_append]
    cases newestOf (fun call => decide (call.key = key)) calls with
    | some later => rfl
    | none =>
      by_cases hk : key = call.key
      · rw [if_pos hk, newestOf_singleton (by simp [hk])]
        rfl
      · rw [if_neg hk, if_neg fun hc => htmp hc.1, newestOf_singleton_neg (by simp [Ne.symm hk])]
        rfl

/-- Every directory that calls can leave has a listing. -/
theorem exists_listing {fs : FileSystem String UInt8} {calls : List StoreCall}
    (h : Reaches storeStep anyStep FileSystem.empty calls fs) :
    ∃ entries, Listing fs entries := by
  have hnames : ∃ names : List String, ∀ name, (fs.read name).isSome = true → name ∈ names := by
    apply Reaches.invariant (I := fun fs : FileSystem String UInt8 =>
      ∃ names : List String, ∀ name, (fs.read name).isSome = true → name ∈ names) _ h
      ⟨[], fun _ hread => by cases hread⟩
    rintro s call s' _ hstep ⟨names, hnames⟩
    refine ⟨call.key :: names, fun name hread => ?_⟩
    rw [storeStep_read hstep] at hread
    split at hread
    · next hn => exact hn ▸ List.mem_cons_self
    · split at hread
      · cases hread
      · exact List.mem_cons_of_mem _ (hnames name hread)
  obtain ⟨names, hnames⟩ := hnames
  refine ⟨names.filter fun name => (fs.read name).isSome, fun name => ?_⟩
  rw [List.mem_filter]
  exact ⟨fun hm => hm.2, fun hread => ⟨hnames name hread, hread⟩⟩

/-! ## What is loaded -/

/-- The value that the loop finds in a file. -/
def fileValue (fs : FileSystem String UInt8) (filename : String) : Option V :=
  if isTemporary filename then none else (fs.read filename).bind fromSlice

variable {fromSlice} {fs : FileSystem String UInt8}

theorem loadEntry_eq (loaded : HashMap V) (filename : String) :
    loadEntry fromSlice fs loaded filename =
      (fileValue fromSlice fs filename).elim loaded (loaded.insert filename) := by
  unfold loadEntry fileValue
  split
  · rfl
  · cases fs.read filename with
    | none => rfl
    | some content => cases hvalue : fromSlice content <;> simp [hvalue]

theorem loadEntry_lookup (loaded : HashMap V) (filename key : String) :
    (loadEntry fromSlice fs loaded filename).get? key =
      if key = filename then (fileValue fromSlice fs key).or (loaded.get? key)
      else loaded.get? key := by
  rw [loadEntry_eq]
  by_cases hk : key = filename
  · subst hk
    rw [if_pos rfl]
    cases fileValue fromSlice fs key with
    | none => rfl
    | some value => exact HashMap.get?_insert_self _ _ _
  · rw [if_neg hk]
    cases fileValue fromSlice fs filename with
    | none => rfl
    | some value => exact HashMap.get?_insert_ne _ _ hk

theorem foldl_loadEntry_lookup (entries : List String) (loaded : HashMap V) (key : String) :
    (entries.foldl (loadEntry fromSlice fs) loaded).get? key =
      if key ∈ entries then (fileValue fromSlice fs key).or (loaded.get? key)
      else loaded.get? key := by
  induction entries generalizing loaded with
  | nil => simp
  | cons filename entries ih =>
    rw [List.foldl_cons, ih, loadEntry_lookup]
    by_cases hk : key = filename
    · subst hk
      cases fileValue fromSlice fs key <;> simp
    · simp [hk]

theorem load_lookup {entries : List String} (h : Listing fs entries) (key : String) :
    (load fromSlice fs entries).get? key = fileValue fromSlice fs key := by
  rw [load, foldl_loadEntry_lookup, HashMap.get?_empty, Option.or_none]
  split
  · rfl
  · next hnot =>
    have hread : fs.read key = none := by
      rw [← Option.not_isSome_iff_eq_none]
      exact fun hs => hnot ((h key).mpr hs)
    simp [fileValue, hread]

/-- **The disk store.** What a sequence of calls has saved last is what is
loaded, exactly when no key that reads like a temporary name was saved last. -/
theorem load_iff {calls : List StoreCall} {entries : List String}
    (h : Reaches storeStep anyStep FileSystem.empty calls fs)
    (hdecodes : ∀ key value, .save key value ∈ calls → (fromSlice value).isSome = true)
    (hlisting : Listing fs entries) :
    LoadsBack fromSlice calls (load fromSlice fs entries) ↔
      ∀ key, isTemporary key = true → lastSaved calls key = none := by
  constructor
  · intro hback key htmp
    have hload := hback key
    rw [load_lookup hlisting, fileValue, if_pos htmp] at hload
    cases hlast : lastSaved calls key with
    | none => rfl
    | some value =>
      have hdecoded := hdecodes key value (lastSaved_mem hlast)
      rw [hlast, Option.bind_some] at hload
      rw [← hload] at hdecoded
      cases hdecoded
  · intro hquiet key
    rw [load_lookup hlisting, fileValue]
    split
    · next htmp => rw [hquiet key htmp, Option.bind_none]
    · next hnot =>
      rw [run_read h (Bool.not_eq_true _ ▸ hnot), lastSaved]
      cases newestOf (fun call => decide (call.key = key)) calls <;> rfl

/-! ## A key that reads like a temporary name -/

/-- What `serde_json` reads in a number of one digit. -/
def digitSlice : List UInt8 → Option Nat
  | [b] => if 48 ≤ b ∧ b ≤ 57 then some (b.toNat - 48) else none
  | _ => none

def storeAfter (calls : List StoreCall) : FileSystem String UInt8 :=
  (run storeStep FileSystem.empty calls).getD FileSystem.empty

/-- Two keys that share a temporary file, one of them removed and saved again. -/
def savedTwice : List StoreCall :=
  [.save "app.yaml" [49], .save "app.json" [50], .remove "app.yaml", .save "app.yaml" [51]]

theorem load_iff_savedTwice :
    ∃ entries, Listing (storeAfter savedTwice) entries ∧
      LoadsBack digitSlice savedTwice (load digitSlice (storeAfter savedTwice) entries) := by
  have hrun : Reaches storeStep anyStep FileSystem.empty savedTwice (storeAfter savedTwice) :=
    run_getD_reaches (by decide +kernel) _
  have hsaves : ∀ key value, .save key value ∈ savedTwice →
      isTemporary key = false ∧ (digitSlice value).isSome = true := by
    intro key value hm
    simp only [savedTwice, List.mem_cons, StoreCall.save.injEq, reduceCtorEq, List.not_mem_nil,
      or_false, false_or] at hm
    rcases hm with ⟨rfl, rfl⟩ | ⟨rfl, rfl⟩ | ⟨rfl, rfl⟩
    · decide
    · decide
    · decide
  obtain ⟨entries, hlisting⟩ := exists_listing hrun
  refine ⟨entries, hlisting, ?_⟩
  apply (load_iff hrun (fun key value hm => (hsaves key value hm).2) hlisting).mpr
  intro key htmp
  cases hlast : lastSaved savedTwice key with
  | none => rfl
  | some value =>
    rw [(hsaves key value (lastSaved_mem hlast)).1] at htmp
    cases htmp

/-- The only call saves a key that `load` takes for a temporary file. -/
def savedTmp : List StoreCall := [.save "app.tmp" [49]]

theorem tmpKey_not_loaded :
    ¬ ∀ calls fs entries, Reaches storeStep anyStep FileSystem.empty calls fs →
      (∀ key value, .save key value ∈ calls → (digitSlice value).isSome = true) →
      Listing fs entries → LoadsBack digitSlice calls (load digitSlice fs entries) := by
  intro h
  have hrun : Reaches storeStep anyStep FileSystem.empty savedTmp (storeAfter savedTmp) :=
    run_getD_reaches (by decide +kernel) _
  obtain ⟨entries, hlisting⟩ := exists_listing hrun
  have hdecodes : ∀ key value, .save key value ∈ savedTmp → (digitSlice value).isSome = true := by
    intro key value hm
    obtain ⟨rfl, rfl⟩ := StoreCall.save.inj (List.mem_singleton.mp hm)
    decide
  have hback := h _ _ entries hrun hdecodes hlisting "app.tmp"
  rw [load_lookup hlisting] at hback
  exact absurd hback (by decide +kernel)

end NacosSdk.Common
