import Mathlib.Data.List.TakeWhile

/-!
# The path of a cache file

`DiskStore` pushes a key on its directory and opens the path. A key with a
separator in it is a path of its own: the system walks its components, and
several spellings lead to one file. Paths are lists of names from the root;
links are left aside. Proved here, for every directory and key:

* `storePath_name`: a key that is one name leads to this name in the directory;
* `storePath_dot`: a key with `./` before it leads to the same file;
* `storePath_slash`: so does an absolute key with another `/` before it.
-/

namespace NacosSdk.Common

/-- What stands between the separators. -/
def pathComponents (path : String) : List String :=
  (path.toList.splitOn '/').map String.ofList

/-- Empty components and `.` stay, `..` goes up; the root is its own parent. -/
def walkComponent (place : List String) (component : String) : List String :=
  if component = "" ∨ component = "." then place
  else if component = ".." then place.dropLast
  else place ++ [component]

/-- Where `PathBuf::from(disk_path)` leads after `push(key)`; an absolute key
replaces the directory. -/
def storePath (diskPath : List String) (key : String) : List String :=
  (pathComponents key).foldl walkComponent (if key.toList.head? = some '/' then [] else diskPath)

example : storePath ["cache"] "a/.././b" = ["cache", "b"] := by decide

theorem storePath_name (diskPath : List String) {key : String} (hslash : '/' ∉ key.toList)
    (hname : key ≠ "" ∧ key ≠ "." ∧ key ≠ "..") : storePath diskPath key = diskPath ++ [key] := by
  have hcomponents : pathComponents key = [key] := by
    rw [pathComponents, List.splitOn_eq_singleton hslash, List.map_singleton, String.ofList_toList]
  have hrelative : key.toList.head? ≠ some '/' := fun h => hslash (List.mem_of_head? h)
  rw [storePath, hcomponents, if_neg hrelative, List.foldl_cons, List.foldl_nil, walkComponent,
    if_neg (by simp [hname]), if_neg hname.2.2]

theorem storePath_dot (diskPath : List String) {key : String}
    (hrelative : key.toList.head? ≠ some '/') :
    storePath diskPath ("./" ++ key) = storePath diskPath key := by
  have hcomponents : pathComponents ("./" ++ key) = "." :: pathComponents key := by
    have hsplit : ("./" ++ key).toList = ['.'] ++ '/' :: key.toList := by
      simp [String.toList_append]
    rw [pathComponents, hsplit, List.splitOn_append_cons_self_of_not_mem (by decide)]
    rfl
  have hfirst : ("./" ++ key).toList.head? ≠ some '/' := by
    simp [String.toList_append]
  rw [storePath, hcomponents, if_neg hfirst, List.foldl_cons, storePath, if_neg hrelative]
  rfl

theorem storePath_slash (diskPath : List String) {key : String}
    (habsolute : key.toList.head? = some '/') :
    storePath diskPath ("/" ++ key) = storePath diskPath key := by
  have hsplit : ("/" ++ key).toList = '/' :: key.toList := by
    simp [String.toList_append]
  have hcomponents : pathComponents ("/" ++ key) = "" :: pathComponents key := by
    rw [pathComponents, hsplit, ← List.nil_append ('/' :: key.toList),
      List.splitOn_append_cons_self_of_not_mem List.not_mem_nil]
    rfl
  have hfirst : ("/" ++ key).toList.head? = some '/' := by
    rw [hsplit, List.head?_cons]
  rw [storePath, hcomponents, if_pos hfirst, List.foldl_cons, storePath, if_pos habsolute]
  rfl

end NacosSdk.Common
