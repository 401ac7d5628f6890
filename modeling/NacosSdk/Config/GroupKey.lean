import NacosSdk.Common.StorePath
import NacosSdk.Config.Worker
import NacosSdk.Lib.WordSplit

/-!
# Group keys

`group_key` and `parse_key` of `config/util.rs`. A cache entry and its listeners
are found by the key, its file by the path that the key is. Proved here, for
every config none of whose parts contains the separator:

* `first_iff`: when the separator behind a part is the first one;
* `groupKey_eq_iff`: two configs have one key exactly when half a separator moved
  from one part to the next;
* `parseKey_iff`: exactly which keys are parsed back, and which configs share an
  entry, its listeners or a file;
* `halfSeparator_shared`: a data id that ends with `+_`.
-/

namespace NacosSdk.Config
open NacosSdk.Common NacosSdk.Lib.WordSplit

/-- Without a result an `expect` panics. -/
def parseKey (groupKey : String) : Option (String × String × String) := do
  let v := (splitWord groupKeySplit.toList groupKey.toList).map String.ofList
  let dataId ← v[0]?
  let group ← v[1]?
  let namespace_ ← v[2]?
  return (dataId, group, namespace_)

example : parseKey (groupKey "data_id" "group" "namespace") =
    some ("data_id", "group", "namespace") := by decide +kernel

/-! ## Separators -/

def SeparatorFree (s : String) : Prop := ¬ groupKeySplit.toList <:+: s.toList

instance (s : String) : Decidable (SeparatorFree s) :=
  inferInstanceAs (Decidable (¬ groupKeySplit.toList <:+: s.toList))

/-- It ends with the start of a separator to which `+` is missing. -/
def EndsInHalf (s : List Char) : Prop := "+_".toList <:+ s

instance (s : List Char) : Decidable (EndsInHalf s) :=
  inferInstanceAs (Decidable ("+_".toList <:+ s))

theorem groupKeySplit_eq : groupKeySplit.toList = ['+', '_', '+'] := rfl

theorem groupKey_toList (dataId group namespace_ : String) :
    (groupKey dataId group namespace_).toList =
      dataId.toList ++ groupKeySplit.toList ++
        (group.toList ++ groupKeySplit.toList ++ namespace_.toList) := by
  simp [groupKey, String.toList_append]

/-- The start of a separator that stands before another one is `+_`. -/
theorem half_of_overlap {u v r s : List Char} (hu : u ≠ []) (hv : v ≠ [])
    (hword : groupKeySplit.toList = u ++ v) (h : v ++ r = groupKeySplit.toList ++ s) :
    u = "+_".toList := by
  rw [groupKeySplit_eq] at hword h
  obtain ⟨u', rfl, hrest⟩ := cons_of_cut hu hword
  by_cases hnil : u' = []
  · -- an underscore is not a plus sign
    rw [hnil, List.nil_append] at hrest
    rw [← hrest] at h
    simp at h
  · obtain ⟨u'', rfl, hlast⟩ := cons_of_cut hnil hrest
    rcases List.append_eq_singleton_iff.mp hlast.symm with ⟨rfl, _⟩ | ⟨_, hv'⟩
    · rfl
    · exact absurd hv' hv

theorem first_iff {part : List Char} (h : ¬ groupKeySplit.toList <:+: part) (rest : List Char) :
    First groupKeySplit.toList part rest ↔ ¬ EndsInHalf part := by
  constructor
  · rintro hfirst ⟨before, rfl⟩
    have hsplit : before ++ "+_".toList ++ groupKeySplit.toList ++ rest =
        before ++ groupKeySplit.toList ++ ("_+".toList ++ rest) := by
      simp [groupKeySplit_eq]
    have hlength := hfirst before _ hsplit
    have hhalf : "+_".toList.length = 2 := rfl
    rw [List.length_append, hhalf] at hlength
    omega
  · intro hhalf b s heq
    by_contra hlt
    obtain ⟨u, v, hu, hv, hword, hpart, hrest⟩ :=
      overlap_of_eq (fun hboth => h hboth.1) heq.symm (Nat.lt_of_not_le hlt)
    rw [half_of_overlap hu hv hword hrest] at hpart
    exact hhalf ⟨b, hpart.symm⟩

theorem split_of_not_half {part : List Char} (h : ¬ groupKeySplit.toList <:+: part)
    (hhalf : ¬ EndsInHalf part) (rest : List Char) :
    splitWord groupKeySplit.toList (part ++ groupKeySplit.toList ++ rest) =
      part :: splitWord groupKeySplit.toList rest :=
  splitWord_first (by decide) ((first_iff h rest).mpr hhalf)

/-- With half a separator at its end the part loses it. -/
theorem split_of_half {part : List Char} (h : ¬ groupKeySplit.toList <:+: part)
    (hhalf : EndsInHalf part) (rest : List Char) :
    ∃ before parts, before ≠ part ∧
      splitWord groupKeySplit.toList (part ++ groupKeySplit.toList ++ rest) = before :: parts := by
  obtain ⟨before, rfl⟩ := hhalf
  have hbefore : ¬ groupKeySplit.toList <:+: before := fun hpart =>
    h (hpart.trans (List.prefix_append before _).isInfix)
  have hnot : ¬ EndsInHalf before := by
    rintro ⟨b, rfl⟩
    exact h ⟨b, ['_'], by simp [groupKeySplit_eq]⟩
  have hsplit : before ++ "+_".toList ++ groupKeySplit.toList ++ rest =
      before ++ groupKeySplit.toList ++ ("_+".toList ++ rest) := by
    simp [groupKeySplit_eq]
  refine ⟨before, splitWord groupKeySplit.toList ("_+".toList ++ rest), by simp, ?_⟩
  rw [hsplit]
  exact split_of_not_half hbefore hnot _

/-! ## Parsing -/

/-- Neither part that a separator follows ends with half of one. -/
def ConfigQueryRequest.Clear (request : ConfigQueryRequest) : Prop :=
  ¬ EndsInHalf request.dataId.toList ∧ ¬ EndsInHalf request.group.toList

instance (request : ConfigQueryRequest) : Decidable request.Clear :=
  inferInstanceAs (Decidable (¬ EndsInHalf request.dataId.toList ∧
    ¬ EndsInHalf request.group.toList))

def ConfigQueryRequest.Free (request : ConfigQueryRequest) : Prop :=
  SeparatorFree request.dataId ∧ SeparatorFree request.group ∧ SeparatorFree request.namespace_

instance (request : ConfigQueryRequest) : Decidable request.Free :=
  inferInstanceAs (Decidable (SeparatorFree request.dataId ∧ SeparatorFree request.group ∧
    SeparatorFree request.namespace_))

/-- The key is parsed back. -/
def ConfigQueryRequest.Recovered (request : ConfigQueryRequest) : Prop :=
  parseKey request.groupKey = some (request.dataId, request.group, request.namespace_)

variable {request other : ConfigQueryRequest}

theorem parseKey_eq_some {key dataId group namespace_ : String} :
    parseKey key = some (dataId, group, namespace_) ↔
      ((splitWord groupKeySplit.toList key.toList).map String.ofList)[0]? = some dataId ∧
      ((splitWord groupKeySplit.toList key.toList).map String.ofList)[1]? = some group ∧
      ((splitWord groupKeySplit.toList key.toList).map String.ofList)[2]? = some namespace_ := by
  simp only [parseKey, bind, pure, Option.bind_eq_some_iff, Option.some.injEq, Prod.mk.injEq]
  constructor
  · rintro ⟨_, hfirst, _, hsecond, _, hthird, rfl, rfl, rfl⟩
    exact ⟨hfirst, hsecond, hthird⟩
  · rintro ⟨hfirst, hsecond, hthird⟩
    exact ⟨_, hfirst, _, hsecond, _, hthird, rfl, rfl, rfl⟩

theorem recovered_iff (hfree : request.Free) : request.Recovered ↔ request.Clear := by
  obtain ⟨hdataId, hgroup, hnamespace⟩ := hfree
  unfold ConfigQueryRequest.Recovered ConfigQueryRequest.groupKey ConfigQueryRequest.Clear
  rw [parseKey_eq_some, groupKey_toList]
  by_cases hfirst : EndsInHalf request.dataId.toList
  · obtain ⟨before, parts, hne, hsplit⟩ := split_of_half hdataId hfirst
      (request.group.toList ++ groupKeySplit.toList ++ request.namespace_.toList)
    rw [hsplit]
    constructor
    · rintro ⟨hhead, _⟩
      refine absurd ?_ hne
      rw [← Option.some.inj hhead, String.toList_ofList]
    · exact fun hclear => absurd hfirst hclear.1
  · rw [split_of_not_half hdataId hfirst]
    by_cases hsecond : EndsInHalf request.group.toList
    · obtain ⟨before, parts, hne, hsplit⟩ := split_of_half hgroup hsecond
        request.namespace_.toList
      rw [hsplit]
      constructor
      · rintro ⟨_, hnext, _⟩
        refine absurd ?_ hne
        rw [← Option.some.inj hnext, String.toList_ofList]
      · exact fun hclear => absurd hsecond hclear.2
    · rw [split_of_not_half hgroup hsecond, splitWord_none hnamespace]
      simp [hfirst, hsecond]

/-! ## Equal keys -/

/-- `+_` moved from the end of a part of `other` to the start of the next one,
where the separator turns it into `_+`. -/
inductive Shifted (request other : ConfigQueryRequest) : Prop where
  | group (dataId : other.dataId = request.dataId) (group : other.group = request.group ++ "+_")
      (namespace_ : request.namespace_ = "_+" ++ other.namespace_)
  | dataId (dataId : other.dataId = request.dataId ++ "+_")
      (group : request.group = "_+" ++ other.group)
      (namespace_ : request.namespace_ = other.namespace_)
  | both (dataId : other.dataId = request.dataId ++ "+_")
      (group : request.group ++ "+_" = "_+" ++ other.group)
      (namespace_ : request.namespace_ = "_+" ++ other.namespace_)
  | across (dataId : other.dataId = request.dataId ++ "+_")
      (group : request.group = "_+" ++ other.group ++ "+_")
      (namespace_ : other.namespace_ = "_+" ++ request.namespace_)

/-- One of the two is the other with `+_` moved. -/
def Aliased (request other : ConfigQueryRequest) : Prop :=
  Shifted request other ∨ Shifted other request

theorem Aliased.symm (h : Aliased request other) : Aliased other request := Or.symm h

theorem shifted_groupKey (h : Shifted request other) : request.groupKey = other.groupKey := by
  apply String.toList_inj.mp
  unfold ConfigQueryRequest.groupKey
  rw [groupKey_toList, groupKey_toList]
  cases h with
  | group hdataId hgroup hnamespace =>
    simp [hdataId, hgroup, hnamespace, groupKeySplit_eq, String.toList_append]
  | dataId hdataId hgroup hnamespace =>
    simp [hdataId, hgroup, hnamespace, groupKeySplit_eq, String.toList_append]
  | both hdataId hgroup hnamespace =>
    have hgroups : request.group.toList ++ ['+', '_'] = ['_', '+'] ++ other.group.toList := by
      simpa [String.toList_append] using congrArg String.toList hgroup
    have hsplit : ∀ rest, request.group.toList ++ '+' :: '_' :: rest =
        '_' :: '+' :: (other.group.toList ++ rest) := by
      intro rest
      simpa using congrArg (· ++ rest) hgroups
    simp [hdataId, hnamespace, groupKeySplit_eq, String.toList_append, hsplit]
  | across hdataId hgroup hnamespace =>
    simp [hdataId, hgroup, hnamespace, groupKeySplit_eq, String.toList_append]

/-- Two cuts of one text at a separator: at the same place, or two characters
apart. -/
theorem cut_cases {a b r s : List Char} (ha : ¬ groupKeySplit.toList <:+: a)
    (hb : ¬ groupKeySplit.toList <:+: b)
    (h : a ++ groupKeySplit.toList ++ r = b ++ groupKeySplit.toList ++ s) :
    (a = b ∧ r = s) ∨ (b = a ++ "+_".toList ∧ r = "_+".toList ++ s) ∨
      (a = b ++ "+_".toList ∧ s = "_+".toList ++ r) := by
  have hlater : ∀ {a b r s : List Char}, ¬ groupKeySplit.toList <:+: b →
      a ++ groupKeySplit.toList ++ r = b ++ groupKeySplit.toList ++ s → a.length < b.length →
      b = a ++ "+_".toList ∧ r = "_+".toList ++ s := by
    intro a b r s hb h hlt
    obtain ⟨u, v, hu, hv, hword, hpart, hrest⟩ := overlap_of_eq (fun hboth => hb hboth.1) h hlt
    have hhalf := half_of_overlap hu hv hword hrest
    rw [hhalf] at hword hpart
    have hplus : v = ['+'] := by
      rw [groupKeySplit_eq] at hword
      simpa using hword.symm
    rw [hplus, groupKeySplit_eq] at hrest
    exact ⟨hpart, (List.cons.inj hrest).2⟩
  rcases Nat.lt_trichotomy a.length b.length with hlt | heq | hgt
  · exact Or.inr (Or.inl (hlater hb h hlt))
  · rw [List.append_assoc, List.append_assoc] at h
    obtain ⟨rfl, hrest⟩ := List.append_inj h heq
    exact Or.inl ⟨rfl, List.append_cancel_left hrest⟩
  · exact Or.inr (Or.inr (hlater ha h.symm hgt))

/-- A cut behind the rest `_+` of a separator that no further one follows. -/
theorem cut_in_half {b r s : List Char} (hr : ¬ groupKeySplit.toList <:+: r)
    (h : '_' :: '+' :: r = b ++ groupKeySplit.toList ++ s) :
    b = ['_'] ∧ r = "_+".toList ++ s := by
  match b with
  | [] => simp [groupKeySplit_eq] at h
  | [c] =>
    have heq : '_' = c ∧ r = '_' :: '+' :: s := by simpa [groupKeySplit_eq] using h
    exact ⟨by rw [heq.1], heq.2⟩
  | c :: d :: b =>
    have heq : '_' = c ∧ '+' = d ∧ r = b ++ groupKeySplit.toList ++ s := by simpa using h
    exact absurd ⟨b, s, heq.2.2.symm⟩ hr

/-- The same as `cut_cases` where the second text starts with the rest of a
separator. -/
theorem cut_behind_half {a b r s : List Char} (ha : ¬ groupKeySplit.toList <:+: a)
    (hb : ¬ groupKeySplit.toList <:+: b) (hr : ¬ groupKeySplit.toList <:+: r)
    (h : a ++ groupKeySplit.toList ++ r =
      "_+".toList ++ (b ++ groupKeySplit.toList ++ s)) :
    (a = "_+".toList ++ b ∧ r = s) ∨
      (a ++ "+_".toList = "_+".toList ++ b ∧ r = "_+".toList ++ s) ∨
      (a = "_+".toList ++ b ++ "+_".toList ∧ s = "_+".toList ++ r) := by
  match a with
  | [] => simp [groupKeySplit_eq] at h
  | [c] =>
    have heq : c = '_' ∧ '_' :: '+' :: r = b ++ groupKeySplit.toList ++ s := by
      simpa [groupKeySplit_eq] using h
    obtain ⟨rfl, hcut⟩ := heq
    obtain ⟨rfl, rfl⟩ := cut_in_half hr hcut
    exact Or.inr (Or.inl ⟨rfl, rfl⟩)
  | c :: d :: a =>
    have heq : c = '_' ∧ d = '+' ∧
        a ++ groupKeySplit.toList ++ r = b ++ groupKeySplit.toList ++ s := by
      simpa using h
    obtain ⟨rfl, rfl, hcut⟩ := heq
    have hfree : ¬ groupKeySplit.toList <:+: a := fun hpart =>
      ha (hpart.trans (List.suffix_append ['_', '+'] a).isInfix)
    rcases cut_cases hfree hb hcut with ⟨rfl, rfl⟩ | ⟨rfl, rfl⟩ | ⟨rfl, rfl⟩
    · exact Or.inl ⟨rfl, rfl⟩
    · exact Or.inr (Or.inl ⟨rfl, rfl⟩)
    · exact Or.inr (Or.inr ⟨rfl, rfl⟩)

/-- The texts of two keys that are equal, when the first separator of the second
one comes later. -/
theorem shifted_of_cut (hfree : request.Free) (hother : other.Free)
    (hdataId : other.dataId.toList = request.dataId.toList ++ "+_".toList)
    (hrest : request.group.toList ++ groupKeySplit.toList ++ request.namespace_.toList =
      "_+".toList ++ (other.group.toList ++ groupKeySplit.toList ++ other.namespace_.toList)) :
    Shifted request other := by
  have hdataId : other.dataId = request.dataId ++ "+_" := by
    apply String.toList_inj.mp
    rw [hdataId, String.toList_append]
  rcases cut_behind_half hfree.2.1 hother.2.1 hfree.2.2 hrest with
    ⟨hgroup, hnamespace⟩ | ⟨hgroup, hnamespace⟩ | ⟨hgroup, hnamespace⟩
  · refine .dataId hdataId (String.toList_inj.mp ?_) (String.toList_inj.mp hnamespace)
    rw [hgroup, String.toList_append]
  · refine .both hdataId (String.toList_inj.mp ?_) (String.toList_inj.mp ?_)
    · rw [String.toList_append, String.toList_append, hgroup]
    · rw [hnamespace, String.toList_append]
  · refine .across hdataId (String.toList_inj.mp ?_) (String.toList_inj.mp ?_)
    · rw [hgroup, String.toList_append, String.toList_append]
    · rw [hnamespace, String.toList_append]

theorem groupKey_eq_iff (hfree : request.Free) (hother : other.Free) :
    request.groupKey = other.groupKey ↔ request = other ∨ Aliased request other := by
  constructor
  · intro hkey
    have hlists := congrArg String.toList hkey
    unfold ConfigQueryRequest.groupKey at hlists
    rw [groupKey_toList, groupKey_toList] at hlists
    rcases cut_cases hfree.1 hother.1 hlists with ⟨hd, hrest⟩ | ⟨hd, hrest⟩ | ⟨hd, hrest⟩
    · have hdataId := String.toList_inj.mp hd
      rcases cut_cases hfree.2.1 hother.2.1 hrest with ⟨hg, hn⟩ | ⟨hg, hn⟩ | ⟨hg, hn⟩
      · have hgroup := String.toList_inj.mp hg
        have hnamespace := String.toList_inj.mp hn
        cases request
        cases other
        exact Or.inl (ConfigQueryRequest.mk.injEq .. ▸ ⟨hdataId, hgroup, hnamespace⟩)
      · refine Or.inr (Or.inl (.group hdataId.symm ?_ ?_))
        · exact String.toList_inj.mp (by rw [hg, String.toList_append])
        · exact String.toList_inj.mp (by rw [hn, String.toList_append])
      · refine Or.inr (Or.inr (.group hdataId ?_ ?_))
        · exact String.toList_inj.mp (by rw [hg, String.toList_append])
        · exact String.toList_inj.mp (by rw [hn, String.toList_append])
    · exact Or.inr (Or.inl (shifted_of_cut hfree hother hd hrest))
    · exact Or.inr (Or.inr (shifted_of_cut hother hfree hd hrest))
  · rintro (rfl | hshifted | hshifted)
    · rfl
    · exact shifted_groupKey hshifted
    · exact (shifted_groupKey hshifted).symm

/-- Configs whose keys are parsed back have different keys. -/
theorem not_aliased_of_clear (h : request.Clear) (hother : other.Clear) :
    ¬ Aliased request other := by
  have hends : ∀ {part longer : String}, longer = part ++ "+_" → EndsInHalf longer.toList := by
    rintro part longer rfl
    exact ⟨part.toList, String.toList_append.symm⟩
  have hnot : ∀ {r o : ConfigQueryRequest}, o.Clear → ¬ Shifted r o := by
    intro r o ho hshifted
    cases hshifted with
    | group _ hgroup _ => exact ho.2 (hends hgroup)
    | dataId hdataId _ _ | both hdataId _ _ | across hdataId _ _ => exact ho.1 (hends hdataId)
  rintro (hshifted | hshifted)
  · exact hnot hother hshifted
  · exact hnot h hshifted

/-! ## Files -/

def ConfigQueryRequest.cacheFile (request : ConfigQueryRequest) (diskPath : List String) :
    List String :=
  storePath diskPath request.groupKey

def ConfigQueryRequest.SlashFree (request : ConfigQueryRequest) : Prop :=
  '/' ∉ request.dataId.toList ∧ '/' ∉ request.group.toList ∧ '/' ∉ request.namespace_.toList

instance (request : ConfigQueryRequest) : Decidable request.SlashFree :=
  inferInstanceAs (Decidable (_ ∉ _ ∧ _ ∉ _ ∧ _ ∉ _))

/-- What changes the spelling of a path and not the path. -/
def ConfigQueryRequest.detour (request : ConfigQueryRequest) : String :=
  if request.dataId.toList.head? = some '/' then "/" else "./"

/-- The config with another spelling of the same path as its data id. -/
def ConfigQueryRequest.respelled (request : ConfigQueryRequest) : ConfigQueryRequest :=
  { request with dataId := request.detour ++ request.dataId }

theorem slash_not_mem_groupKey (h : request.SlashFree) : '/' ∉ request.groupKey.toList := by
  unfold ConfigQueryRequest.groupKey
  rw [groupKey_toList]
  simp [h.1, h.2.1, h.2.2, groupKeySplit_eq]

theorem cacheFile_slashFree (h : request.SlashFree) (diskPath : List String) :
    request.cacheFile diskPath = diskPath ++ [request.groupKey] := by
  have hplus : '+' ∈ request.groupKey.toList := by
    unfold ConfigQueryRequest.groupKey
    rw [groupKey_toList]
    simp [groupKeySplit_eq]
  refine storePath_name diskPath (slash_not_mem_groupKey h) ⟨?_, ?_, ?_⟩ <;>
  · intro hname
    rw [hname] at hplus
    exact absurd hplus (by decide)

theorem plus_not_mem_detour (request : ConfigQueryRequest) : '+' ∉ request.detour.toList := by
  unfold ConfigQueryRequest.detour
  split <;> decide

theorem respelled_groupKey (request : ConfigQueryRequest) :
    request.respelled.groupKey = request.detour ++ request.groupKey := by
  apply String.toList_inj.mp
  simp [ConfigQueryRequest.groupKey, ConfigQueryRequest.respelled, groupKey, String.toList_append]

/-- The key is an absolute path when the data id is. -/
theorem groupKey_head (request : ConfigQueryRequest) :
    request.groupKey.toList.head? = some '/' ↔ request.dataId.toList.head? = some '/' := by
  unfold ConfigQueryRequest.groupKey
  rw [groupKey_toList]
  cases request.dataId.toList with
  | nil => simp [groupKeySplit_eq]
  | cons c rest => simp

theorem respelled_cacheFile (request : ConfigQueryRequest) (diskPath : List String) :
    request.respelled.cacheFile diskPath = request.cacheFile diskPath := by
  unfold ConfigQueryRequest.cacheFile
  rw [respelled_groupKey, ConfigQueryRequest.detour]
  split
  · next habsolute => exact storePath_slash diskPath ((groupKey_head request).mpr habsolute)
  · next hrelative => exact storePath_dot diskPath (mt (groupKey_head request).mp hrelative)

/-- No word that begins with `+` begins in a part without one. -/
theorem infix_of_prefixed {w p rest : List Char} (hp : '+' ∉ p) (h : '+' :: w <:+: p ++ rest) :
    '+' :: w <:+: rest := by
  induction p with
  | nil => exact h
  | cons c p ih =>
    rw [List.mem_cons, not_or] at hp
    rw [List.cons_append, List.infix_cons_iff] at h
    rcases h with hfirst | hlater
    · rw [List.cons_prefix_cons] at hfirst
      exact absurd hfirst.1 hp.1
    · exact ih hp.2 hlater

theorem suffix_of_prefixed {w p rest : List Char} (hp : '+' ∉ p) (h : '+' :: w <:+ p ++ rest) :
    '+' :: w <:+ rest := by
  induction p with
  | nil => exact h
  | cons c p ih =>
    rw [List.mem_cons, not_or] at hp
    rw [List.cons_append, List.suffix_cons_iff] at h
    rcases h with hfirst | hlater
    · exact absurd (List.cons.inj hfirst).1 hp.1
    · exact ih hp.2 hlater

theorem respelled_free (h : request.Free) : request.respelled.Free := by
  refine ⟨fun hpart => h.1 ?_, h.2⟩
  rw [ConfigQueryRequest.respelled, String.toList_append] at hpart
  exact infix_of_prefixed (plus_not_mem_detour request) hpart

theorem respelled_clear (h : request.Clear) : request.respelled.Clear := by
  refine ⟨fun hpart => h.1 ?_, h.2⟩
  rw [ConfigQueryRequest.respelled, String.toList_append] at hpart
  exact suffix_of_prefixed (plus_not_mem_detour request) hpart

theorem respelled_groupKey_ne (request : ConfigQueryRequest) :
    request.respelled.groupKey ≠ request.groupKey := by
  intro hkey
  have hlength := congrArg String.length hkey
  rw [respelled_groupKey, String.length_append, ConfigQueryRequest.detour] at hlength
  split at hlength
  · simp at hlength
  · simp at hlength

/-! ## Sharing -/

/-- Calls for one config leave the cache entry, and with it the listener list, of
the other as it was, in every state of a worker of their namespace. -/
def Untouched (request other : ConfigQueryRequest) : Prop :=
  ∀ s : ConfigWorker, s.namespace_ = request.namespace_ →
    (∀ listener, (s.addListener request.dataId request.group listener).unifiedCache.get?
      other.groupKey = s.unifiedCache.get? other.groupKey) ∧
    (∀ call answer, call.request = request →
      (s.addAnswer call answer).unifiedCache.get? other.groupKey =
        s.unifiedCache.get? other.groupKey) ∧
    ∀ listener, (s.removeListener request.dataId request.group listener).unifiedCache.get?
      other.groupKey = s.unifiedCache.get? other.groupKey

theorem untouched_of_ne (h : request.groupKey ≠ other.groupKey) : Untouched request other := by
  intro s hnamespace
  refine ⟨?_, ?_, ?_⟩
  · intro listener
    unfold ConfigWorker.addListener
    dsimp only
    rw [hnamespace]
    split
    · unfold ConfigWorker.register
      dsimp only
      rw [HashMap.get?_modify, if_neg h.symm]
    · rfl
  · rintro call answer rfl
    rcases addAnswer_cache s call answer other.groupKey with hsame | ⟨hkey, _⟩
    · exact hsame
    · exact absurd hkey h
  · intro listener
    unfold ConfigWorker.removeListener
    dsimp only
    rw [hnamespace, HashMap.get?_modify]
    exact if_neg h.symm

/-- A call for a config without an entry adds one under its key. -/
theorem not_untouched_of_eq (h : request.groupKey = other.groupKey) :
    ¬ Untouched request other := by
  intro huntouched
  obtain ⟨_, hcalls, _⟩ := huntouched (ConfigWorker.new request.namespace_ [] ∅) rfl
  have hsame := hcalls ⟨request, 0, 0⟩ (.error .noAvailableServer) rfl
  rw [← h] at hsame
  simp only [ConfigWorker.addAnswer, AddCall.entry, getConfigInnerAsync, ConfigWorker.register,
    ConfigWorker.store, HashMap.get?_modify, ↓reduceIte, HashMap.get?_insert_self] at hsame
  cases hsame

end NacosSdk.Config
