import Mathlib.Data.List.TakeDrop
import Mathlib.Logic.Function.Basic
import NacosSdk.Lib.Cells

/-!
# A directory of files

Names in one directory, each the link of an inode, as a POSIX system keeps
them: a writer holds the inode and an offset of its own, and a rename moves the
link. Every operation is one atomic step. Proved here, for every directory, any
names and any bytes:

* `read_openTruncate`, `read_write`, `read_rename`: what every name holds
  after an operation;
* `read_remove`, `read_replaceVia`: what a removal and a replacement leave;
* `writeAt_take`: writing a value piece by piece at one's own offset.
-/

namespace NacosSdk.Lib

variable {Name : Type _} [DecidableEq Name] {β : Type _}

/-! ## Links -/

/-- Every link leads to an inode that was made. -/
def Allocated (dir : Name → Option Nat) (bound : Nat) : Prop :=
  ∀ name inode, dir name = some inode → inode < bound

/-- No inode has two names. -/
def Unshared (dir : Name → Option Nat) : Prop :=
  ∀ name other inode, dir name = some inode → dir other = some inode → name = other

def link (dir : Name → Option Nat) (name : Name) (inode : Nat) : Name → Option Nat :=
  Function.update dir name (some inode)

def unlink (dir : Name → Option Nat) (name : Name) : Name → Option Nat :=
  Function.update dir name none

theorem link_apply (dir : Name → Option Nat) (name n : Name) (inode : Nat) :
    link dir name inode n = if n = name then some inode else dir n :=
  Function.update_apply dir name (some inode) n

theorem unlink_apply (dir : Name → Option Nat) (name n : Name) :
    unlink dir name n = if n = name then none else dir n :=
  Function.update_apply dir name none n

theorem allocated_link {dir : Name → Option Nat} {bound inode : Nat} (h : Allocated dir bound)
    (hi : inode < bound) (name : Name) : Allocated (link dir name inode) bound := by
  intro n i hn
  rw [link_apply] at hn
  split at hn
  · cases hn
    exact hi
  · exact h n i hn

theorem allocated_unlink {dir : Name → Option Nat} {bound : Nat} (h : Allocated dir bound)
    (name : Name) : Allocated (unlink dir name) bound := by
  intro n i hn
  rw [unlink_apply] at hn
  split at hn
  · cases hn
  · exact h n i hn

omit [DecidableEq Name] in
theorem allocated_succ {dir : Name → Option Nat} {bound : Nat} (h : Allocated dir bound) :
    Allocated dir (bound + 1) :=
  fun n i hn => Nat.lt_succ_of_lt (h n i hn)

theorem unshared_unlink {dir : Name → Option Nat} (h : Unshared dir) (name : Name) :
    Unshared (unlink dir name) := by
  intro n m i hn hm
  rw [unlink_apply] at hn hm
  split at hn
  · cases hn
  · split at hm
    · cases hm
    · exact h n m i hn hm

/-- A link to an inode that has no name. -/
theorem unshared_link {dir : Name → Option Nat} (h : Unshared dir) (name : Name) {inode : Nat}
    (hfree : ∀ n, dir n ≠ some inode) : Unshared (link dir name inode) := by
  intro n m i hn hm
  rw [link_apply] at hn hm
  split at hn
  · next hnn =>
    cases hn
    split at hm
    · next hmn => rw [hnn, hmn]
    · exact absurd hm (hfree m)
  · split at hm
    · cases hm
      exact absurd hn (hfree n)
    · exact h n m i hn hm

/-- Once its only name is gone, an inode has none. -/
theorem unlink_free {dir : Name → Option Nat} (h : Unshared dir) {name : Name} {inode : Nat}
    (hl : dir name = some inode) (n : Name) : unlink dir name n ≠ some inode := by
  rw [unlink_apply]
  split
  · simp
  · next hne =>
    intro hn
    exact hne (h n name inode hn hl)

/-! ## The directory -/

structure FileSystem (Name : Type _) (β : Type _) where
  dir : Name → Option Nat
  files : Cells (List β)
  allocated : Allocated dir files.fresh
  unshared : Unshared dir

namespace FileSystem

/-- The empty directory. -/
def empty : FileSystem Name β where
  dir := fun _ => none
  files := []
  allocated := fun _ _ h => by cases h
  unshared := fun _ _ _ h => by cases h

def read (fs : FileSystem Name β) (name : Name) : Option (List β) :=
  (fs.dir name).bind fs.files.load

/-- Put new contents behind an inode. -/
def setFile (fs : FileSystem Name β) (inode : Nat) (file : List β) : FileSystem Name β where
  dir := fs.dir
  files := fs.files.store inode file
  allocated := by
    rw [fresh_store]
    exact fs.allocated
  unshared := fs.unshared

/-- Open for writing: the file is created or truncated. -/
def openTruncate (fs : FileSystem Name β) (name : Name) : FileSystem Name β :=
  match fs.dir name with
  | some inode => fs.setFile inode []
  | none =>
    { dir := link fs.dir name fs.files.fresh
      files := fs.files.make []
      allocated := by
        rw [fresh_make]
        exact allocated_link (allocated_succ fs.allocated) (Nat.lt_succ_self _) name
      unshared := unshared_link fs.unshared name fun n hn =>
        absurd (fs.allocated n _ hn) (Nat.lt_irrefl _) }

/-- The inode that the opened file has. -/
def opened (fs : FileSystem Name β) (name : Name) : Nat := (fs.dir name).getD fs.files.fresh

/-- Bytes put at an offset; a gap before them reads as `pad`. -/
def writeAt (pad : β) (file : List β) (offset : Nat) (bytes : List β) : List β :=
  (file ++ List.replicate (offset - file.length) pad).take offset ++ bytes ++
    file.drop (offset + bytes.length)

/-- Write through an inode, under whatever name it is now. -/
def write (fs : FileSystem Name β) (pad : β) (inode offset : Nat) (bytes : List β) :
    FileSystem Name β :=
  match fs.files.load inode with
  | none => fs
  | some file => fs.setFile inode (writeAt pad file offset bytes)

/-- Move a link over another one; `none` when the source does not exist. -/
def rename (fs : FileSystem Name β) (source target : Name) : Option (FileSystem Name β) :=
  match h : fs.dir source with
  | none => none
  | some inode =>
    some
      { dir := link (unlink fs.dir source) target inode
        files := fs.files
        allocated :=
          allocated_link (allocated_unlink fs.allocated source) (fs.allocated source inode h) target
        unshared :=
          unshared_link (unshared_unlink fs.unshared source) target (unlink_free fs.unshared h) }

/-- Remove a link, if there is one. -/
def remove (fs : FileSystem Name β) (name : Name) : FileSystem Name β where
  dir := unlink fs.dir name
  files := fs.files
  allocated := allocated_unlink fs.allocated name
  unshared := unshared_unlink fs.unshared name

/-- Write a temporary file and move it over the target, with nothing in
between. -/
def replaceVia (fs : FileSystem Name β) (pad : β) (tmp target : Name) (bytes : List β) :
    Option (FileSystem Name β) :=
  ((fs.openTruncate tmp).write pad (fs.opened tmp) 0 bytes).rename tmp target

/-! ## What a name holds -/

section Reads

variable (fs : FileSystem Name β)

theorem read_setFile {name : Name} {inode : Nat} (h : fs.dir name = some inode)
    (file : List β) (n : Name) :
    (fs.setFile inode file).read n = if n = name then some file else fs.read n := by
  unfold read setFile
  split
  · next hn =>
    rw [hn, h]
    exact load_store_self fs.files file (fs.allocated name inode h)
  · next hn =>
    cases hd : fs.dir n with
    | none => rfl
    | some other =>
      have hne : inode ≠ other := fun he => hn (fs.unshared n name inode (he ▸ hd) h)
      exact load_store_ne fs.files file hne

theorem openTruncate_dir (name n : Name) :
    (fs.openTruncate name).dir n = if n = name then some (fs.opened name) else fs.dir n := by
  unfold openTruncate opened
  cases hd : fs.dir name with
  | some inode =>
    by_cases hn : n = name
    · rw [if_pos hn, hn]
      exact hd
    · rw [if_neg hn]
      rfl
  | none => simp only [link_apply, Option.getD_none]

theorem read_openTruncate (name n : Name) :
    (fs.openTruncate name).read n = if n = name then some [] else fs.read n := by
  unfold openTruncate
  cases hd : fs.dir name with
  | some inode => exact fs.read_setFile hd [] n
  | none =>
    simp only [read, link_apply]
    split
    · exact load_make_fresh fs.files []
    · cases ho : fs.dir n with
      | none => rfl
      | some other => exact load_make_of_lt fs.files [] (fs.allocated n other ho)

omit [DecidableEq Name] in
theorem write_dir (pad : β) (inode offset : Nat) (bytes : List β) :
    (fs.write pad inode offset bytes).dir = fs.dir := by
  unfold write
  split <;> rfl

theorem read_write {name : Name} {inode : Nat} {file : List β} (h : fs.dir name = some inode)
    (hr : fs.read name = some file) (pad : β) (offset : Nat) (bytes : List β) (n : Name) :
    (fs.write pad inode offset bytes).read n =
      if n = name then some (writeAt pad file offset bytes) else fs.read n := by
  have hload : fs.files.load inode = some file := by
    simpa only [read, h, Option.bind_some] using hr
  unfold write
  rw [hload]
  exact fs.read_setFile h _ n

variable {fs}

theorem rename_dir {fs' : FileSystem Name β} {source target : Name}
    (h : fs.rename source target = some fs') (n : Name) :
    fs'.dir n = if n = target then fs.dir source else if n = source then none else fs.dir n := by
  unfold rename at h
  split at h
  · cases h
  · next inode hs =>
    cases h
    simp only [link_apply, unlink_apply, hs]

theorem read_rename {fs' : FileSystem Name β} {source target : Name}
    (h : fs.rename source target = some fs') (n : Name) :
    fs'.read n = if n = target then fs.read source
      else if n = source then none else fs.read n := by
  have hfiles : fs'.files = fs.files := by
    unfold rename at h
    split at h
    · cases h
    · cases h
      rfl
  unfold read
  rw [rename_dir h, hfiles]
  split
  · rfl
  · split <;> rfl

theorem read_remove (name n : Name) :
    (fs.remove name).read n = if n = name then none else fs.read n := by
  unfold read remove
  simp only [unlink_apply]
  split <;> rfl

theorem replaceVia_isSome (pad : β) (tmp target : Name) (bytes : List β) :
    ∃ fs', fs.replaceVia pad tmp target bytes = some fs' := by
  have hdir : ((fs.openTruncate tmp).write pad (fs.opened tmp) 0 bytes).dir tmp =
      some (fs.opened tmp) := by
    rw [write_dir, openTruncate_dir, if_pos rfl]
  unfold replaceVia rename
  split
  · next hnone =>
    rw [hdir] at hnone
    cases hnone
  · exact ⟨_, rfl⟩

/-- The target holds the bytes, and a temporary file of another name is gone. -/
theorem read_replaceVia {fs' : FileSystem Name β} {pad : β} {tmp target : Name} {bytes : List β}
    (h : fs.replaceVia pad tmp target bytes = some fs') (n : Name) :
    fs'.read n = if n = target then some bytes else if n = tmp then none else fs.read n := by
  have hopen : (fs.openTruncate tmp).dir tmp = some (fs.opened tmp) := by
    rw [openTruncate_dir, if_pos rfl]
  have hempty : (fs.openTruncate tmp).read tmp = some [] := by
    rw [read_openTruncate, if_pos rfl]
  have hwritten : writeAt pad ([] : List β) 0 bytes = bytes := by simp [writeAt]
  rw [read_rename h, read_write _ hopen hempty, if_pos rfl, hwritten]
  by_cases hn : n = target
  · rw [if_pos hn, if_pos hn]
  · rw [if_neg hn, if_neg hn]
    by_cases ht : n = tmp
    · rw [if_pos ht, if_pos ht]
    · rw [if_neg ht, if_neg ht, read_write _ hopen hempty, if_neg ht, read_openTruncate, if_neg ht]

end Reads

/-- The next piece of a value, written where the pieces before it end. -/
theorem writeAt_take (pad : β) (value : List β) {offset : Nat} (h : offset ≤ value.length)
    (n : Nat) :
    writeAt pad (value.take offset) offset ((value.drop offset).take n) =
      value.take (offset + ((value.drop offset).take n).length) := by
  have hlen : (value.take offset).length = offset := List.length_take_of_le h
  unfold writeAt
  rw [hlen, Nat.sub_self, List.replicate_zero, List.append_nil, List.take_take, Nat.min_self]
  have hdrop : (value.take offset).drop (offset + ((value.drop offset).take n).length) = [] := by
    apply List.drop_eq_nil_of_le
    omega
  rw [hdrop, List.append_nil, List.take_add, List.length_take, ← List.take_eq_take_min]

end FileSystem

end NacosSdk.Lib
