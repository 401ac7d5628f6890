import NacosSdk.Config.Worker

/-!
# Filters on every path

A config reaches the user by a direct query, from an entry in memory, from an
entry that was written to disk and loaded again, or in a notification from
either entry. Proved here, for every config and every list of filters:

* `getConfig_entry`, `notice_entry`: an entry is read through its own filters;
* `filterPaths_agree_iff`: all paths apply the filters once exactly when the
  filters leave the config alone;
* `decrypted_not_agree`: a loaded entry shows the encrypted content.
-/

namespace NacosSdk.Config
open NacosSdk.Common NacosSdk.Lib.Run

/-! ## The paths -/

/-- A service without entries. -/
def directWorker (configFilters : List ConfigFilter) (request : ConfigQueryRequest) :
    ConfigWorker :=
  ConfigWorker.new request.namespace_ configFilters ∅

/-- `add_listener` has created the entry from the answer. -/
def listeningWorker (configFilters : List ConfigFilter) (request : ConfigQueryRequest)
    (listener : ConfigListener) (resp : ConfigQueryResponse) : ConfigWorker :=
  (run ConfigWorker.step (directWorker configFilters request)
    [.addListener request.dataId request.group listener, .addAnswer 0 (.ok resp)]).getD
    (directWorker configFilters request)

/-- The service starts again with `load_cache_at_start`. -/
def ConfigWorker.restarted (s : ConfigWorker) : ConfigWorker :=
  ConfigWorker.new s.namespace_ s.configFilters (s.unifiedCache.map CacheData.reloaded)

/-- What the listeners of the entry are notified with, after a change
notification whose query comes back with `resp`. -/
def ConfigWorker.noticeOf (s : ConfigWorker) (key : String) (resp : ConfigQueryResponse) :
    Option ConfigResponse :=
  (run ConfigWorker.step s [.change key, .recv, .changeAnswer (.ok resp)]).bind fun t =>
    match t.loop with
    | .filtering _ configResp => some configResp
    | _ => none

/-- Every path shows the config with the filters applied once. -/
structure AgreeOnEveryPath (configFilters : List ConfigFilter) (request : ConfigQueryRequest)
    (listener : ConfigListener) (resp : ConfigQueryResponse) (config : ServerConfig) : Prop where
  direct : (directWorker configFilters request).getConfig request.dataId request.group (.ok resp) =
    some (.ok (config.seenThrough configFilters request))
  memory : (listeningWorker configFilters request listener resp).getConfig request.dataId
    request.group (.ok resp) = some (.ok (config.seenThrough configFilters request))
  loaded : (listeningWorker configFilters request listener resp).restarted.getConfig
    request.dataId request.group (.ok resp) =
      some (.ok (config.seenThrough configFilters request))
  memoryNotice : (listeningWorker configFilters request listener resp).noticeOf request.groupKey
    resp = some (config.seenThrough configFilters request)
  loadedNotice : (listeningWorker configFilters request listener resp).restarted.noticeOf
    request.groupKey resp = some (config.seenThrough configFilters request)

/-- The filters change nothing that the user sees of the config. -/
def LeaveAlone (configFilters : List ConfigFilter) (request : ConfigQueryRequest)
    (config : ServerConfig) : Prop :=
  let raw : ConfigResp := ⟨request.dataId, request.group, request.namespace_, config.content,
    config.encryptedDataKey.getD ""⟩
  let filtered := applyFilters configFilters raw
  filtered.dataId = raw.dataId ∧ filtered.group = raw.group ∧
    filtered.namespace_ = raw.namespace_ ∧ filtered.content = raw.content

theorem leaveAlone_iff (configFilters : List ConfigFilter) (request : ConfigQueryRequest)
    (config : ServerConfig) :
    LeaveAlone configFilters request config ↔
      config.seenThrough [] request = config.seenThrough configFilters request := by
  simp only [LeaveAlone, ServerConfig.seenThrough, applyFilters, List.foldl_nil,
    ConfigResponse.mk.injEq, and_true]
  constructor
  · rintro ⟨hdata, hgroup, hns, hcontent⟩
    exact ⟨hdata.symm, hgroup.symm, hns.symm, hcontent.symm⟩
  · rintro ⟨hdata, hgroup, hns, hcontent⟩
    exact ⟨hdata.symm, hgroup.symm, hns.symm, hcontent.symm⟩

/-! ## Reading an entry -/

section Entries

variable {s : ConfigWorker} {request : ConfigQueryRequest} {entryFilters : List ConfigFilter}
  {d : CacheData} {resp : ConfigQueryResponse} {config : ServerConfig}

/-- An entry that is read is read through its own filters. -/
theorem getConfig_entry (hns : s.namespace_ = request.namespace_)
    (hd : s.unifiedCache.get? request.groupKey = some d) (hown : Own request entryFilters d)
    (hholds : Holds d config) (hresp : Carries resp config) :
    s.getConfig request.dataId request.group (.ok resp) =
      some (.ok (if d.served then config.seenThrough entryFilters request
        else config.seenThrough s.configFilters request)) := by
  rw [ConfigWorker.getConfig_request hns, hd, Option.filter_some]
  cases d.served with
  | true =>
    simp only [if_true]
    rw [filteredResponse_seenThrough hown hholds]
  | false =>
    simp only [Bool.false_eq_true, if_false]
    rw [queryConfig_carries hresp]

/-- A notification shows the new config through the filters of the entry. -/
theorem notice_entry (hloop : s.loop = .idle) (hchange : s.notifyChange = [])
    (hd : s.unifiedCache.get? request.groupKey = some d) (hown : Own request entryFilters d)
    (hinit : d.initializing = false) (hresp : Carries resp config) :
    s.noticeOf request.groupKey resp = some (config.seenThrough entryFilters request) := by
  have hholds : Holds (fillData d resp).1 config := by
    rw [fillData_carries hresp]
    exact ⟨rfl, rfl, rfl, rfl⟩
  have hfilled : Own request entryFilters (fillData d resp).1 := by
    rw [fillData_carries hresp]
    exact ⟨hown.dataId, hown.group, hown.namespace_, hown.configFilters⟩
  have hnotify : (fillData d resp).2 = some true := by
    rw [fillData_carries hresp, hinit]
    rfl
  rw [← filteredResponse_seenThrough hfilled hholds]
  simp [ConfigWorker.noticeOf, run, ConfigWorker.step, ConfigWorker.recv,
    ConfigWorker.changeAnswer, hloop, hchange, hd, carries_ok hresp, hnotify,
    NotifyLoop.afterFill, notifyChangeCapacity]

/-- The entry that `add_listener` creates. -/
theorem listeningWorker_entry (configFilters : List ConfigFilter) (request : ConfigQueryRequest)
    (listener : ConfigListener) (h : Carries resp config) :
    ∃ d, (listeningWorker configFilters request listener resp).unifiedCache.get?
        request.groupKey = some d ∧
      Own request configFilters d ∧ Holds d config ∧ d.initializing = false := by
  have hentry : AddCall.entry ⟨request, listener, 0⟩ configFilters (.ok resp) = some
      ((fillData (CacheData.new configFilters request.dataId request.group request.namespace_)
        resp).1, []) := by
    simp [AddCall.entry, carries_ok h, fillDataAndNotify, fillData_carries h, CacheData.new]
  have hrun : listeningWorker configFilters request listener resp =
      { directWorker configFilters request with queries := 1 }.addAnswer ⟨request, listener, 0⟩
        (.ok resp) := rfl
  refine ⟨(fillData (CacheData.new configFilters request.dataId request.group
    request.namespace_) resp).1.addListener listener, ?_, ?_, ?_, ?_⟩
  · rw [hrun]
    simp only [ConfigWorker.addAnswer, directWorker, ConfigWorker.new, hentry,
      ConfigWorker.register, ConfigWorker.store, HashMap.get?_modify, HashMap.get?_insert_self,
      if_true, Option.map_some]
  · rw [fillData_carries h]
    exact ⟨rfl, rfl, rfl, rfl⟩
  · rw [fillData_carries h]
    exact ⟨rfl, rfl, rfl, rfl⟩
  · rw [fillData_carries h]
    rfl

end Entries

/-! ## All paths -/

/-- What is left of the worker that `add_listener` returns from. -/
theorem listeningWorker_rest (configFilters : List ConfigFilter) (request : ConfigQueryRequest)
    (listener : ConfigListener) (resp : ConfigQueryResponse) :
    (listeningWorker configFilters request listener resp).namespace_ = request.namespace_ ∧
    (listeningWorker configFilters request listener resp).configFilters = configFilters ∧
    (listeningWorker configFilters request listener resp).loop = .idle ∧
    (listeningWorker configFilters request listener resp).notifyChange = [] := by
  have hrun : listeningWorker configFilters request listener resp =
      { directWorker configFilters request with queries := 1 }.addAnswer ⟨request, listener, 0⟩
        (.ok resp) := rfl
  rw [hrun]
  unfold ConfigWorker.addAnswer
  split <;> exact ⟨rfl, rfl, rfl, rfl⟩

/-- **One view of a config.** All paths show the config with the filters
applied once if and only if the filters leave it alone. -/
theorem filterPaths_agree_iff (configFilters : List ConfigFilter) (request : ConfigQueryRequest)
    (listener : ConfigListener) {resp : ConfigQueryResponse} {config : ServerConfig}
    (h : Carries resp config) :
    AgreeOnEveryPath configFilters request listener resp config ↔
      LeaveAlone configFilters request config := by
  obtain ⟨d, hd, hown, hholds, hinit⟩ := listeningWorker_entry configFilters request listener h
  obtain ⟨hns, hfilters, hloop, hchange⟩ :=
    listeningWorker_rest configFilters request listener resp
  have hloaded : (listeningWorker configFilters request listener
      resp).restarted.unifiedCache.get? request.groupKey = some d.reloaded := by
    simp only [ConfigWorker.restarted, ConfigWorker.new, HashMap.get?_map, hd, Option.map_some]
  have hraw : Own request [] d.reloaded := ⟨hown.dataId, hown.group, hown.namespace_, rfl⟩
  have hrawHolds : Holds d.reloaded config :=
    ⟨hholds.contentType, hholds.content, hholds.md5, hholds.encryptedDataKey⟩
  have hnotice := notice_entry (s := (listeningWorker configFilters request listener
    resp).restarted) rfl rfl hloaded hraw rfl h
  rw [leaveAlone_iff]
  constructor
  · intro hagree
    exact Option.some.inj (hnotice.symm.trans hagree.loadedNotice)
  · intro hsame
    refine ⟨queryConfig_carries h _ _, ?_, ?_, ?_, ?_⟩
    · rw [getConfig_entry hns hd hown hholds h, hfilters, ite_self]
    · have hread := getConfig_entry (s := (listeningWorker configFilters request listener
        resp).restarted) hns hloaded hraw hrawHolds h
      rw [hread, hsame]
      show some (Except.ok (if _ then _ else
        config.seenThrough (listeningWorker configFilters request listener resp).configFilters
          request)) = _
      rw [hfilters, ite_self]
    · exact notice_entry hloop hchange hd hown hinit h
    · rw [hnotice, hsame]

/-! ## A filter that decrypts -/

/-- Replaces an encrypted content. -/
def decryptFilter : ConfigFilter where
  filterReq := id
  filterResp := fun resp =>
    if resp.encryptedDataKey = "" then resp else { resp with content := "a: 1" }

def plainConfig : ServerConfig := ⟨"a: 1", "yaml", "m1", none, 0⟩

def encryptedConfig : ServerConfig := ⟨"x7Gp", "yaml", "m1", some "k", 0⟩

theorem filterPaths_agree_iff_plain :
    AgreeOnEveryPath [decryptFilter] appRequest 0 plainConfig.response plainConfig ↔
      LeaveAlone [decryptFilter] appRequest plainConfig :=
  filterPaths_agree_iff [decryptFilter] appRequest 0 ⟨rfl, rfl, rfl, rfl, rfl, rfl⟩

def decryptedResponse : ConfigResponse :=
  ⟨"app.yaml", "DEFAULT_GROUP", "public", "a: 1", "yaml", "m1"⟩

def encryptedResponse : ConfigResponse :=
  ⟨"app.yaml", "DEFAULT_GROUP", "public", "x7Gp", "yaml", "m1"⟩

/-- After a restart the user is shown the encrypted content. -/
theorem decrypted_not_agree :
    Carries encryptedConfig.response encryptedConfig ∧
      (listeningWorker [decryptFilter] appRequest 0 encryptedConfig.response).getConfig
          "app.yaml" "DEFAULT_GROUP" (.ok encryptedConfig.response) =
        some (.ok decryptedResponse) ∧
      (listeningWorker [decryptFilter] appRequest 0
          encryptedConfig.response).restarted.getConfig "app.yaml" "DEFAULT_GROUP"
          (.ok encryptedConfig.response) =
        some (.ok encryptedResponse) ∧
      ¬ AgreeOnEveryPath [decryptFilter] appRequest 0 encryptedConfig.response
        encryptedConfig := by
  refine ⟨⟨rfl, rfl, rfl, rfl, rfl, rfl⟩, rfl, rfl, fun hagree => ?_⟩
  have hseen : some (Except.ok encryptedResponse) =
      some (Except.ok (encryptedConfig.seenThrough [decryptFilter] appRequest)) := hagree.loaded
  simp only [Option.some.injEq, Except.ok.injEq] at hseen
  exact absurd hseen (by decide)

end NacosSdk.Config
