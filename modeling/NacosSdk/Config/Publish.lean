import NacosSdk.Config.Worker

/-!
# Publishing through the filters

`publish_config_inner` and `publish_config_inner_async` of `config/worker.rs`
and the encryption filter of `api/plugin/encryption.rs`. Publishing and reading
apply the filters in the same order, and all filters share one encrypted data
key. Proved here, for every list of lossless filters:

* `published_request`: what a publication sends;
* `publish_read_back`: a published config is read back as it was when what a
  filter decodes passes through the filters after it;
* `passesThrough_of_quiet`: at most one filter acts on the config;
* `two_ciphers_not_read_back`: two that do;
* `evenKeys_read_back`: two whose wrong turns cancel out.
-/

namespace NacosSdk.Config
open NacosSdk.Common

/-! ## Encryption plugins -/

def defaultCipherPrefix : String := "cipher-"

def defaultCipherSplit : Char := '-'

/-- `parse_algorithm_name`: the second segment of the data id; the caller has
checked the prefix, so there is one. -/
def parseAlgorithmName (dataId : String) : String :=
  String.ofList (((dataId.toList.splitOn defaultCipherSplit)[1]?).getD [])

/-- The provided method `need_cipher` of `EncryptionPlugin`. -/
def defaultNeedCipher (algorithmName dataId : String) : Bool :=
  defaultCipherPrefix.toList.isPrefixOf dataId.toList && parseAlgorithmName dataId = algorithmName

/-- `EncryptionPlugin`; a secret key is generated for one publication. -/
structure EncryptionPlugin where
  algorithmName : String
  needCipher : String → Bool := defaultNeedCipher algorithmName
  encrypt : String → String → String
  decrypt : String → String → String
  generateSecretKey : String
  encryptSecretKey : String → String
  decryptSecretKey : String → String

/-- `ConfigEncryptionFilter` with its plugins. -/
def configEncryptionFilter (encryptionPlugins : List EncryptionPlugin) : ConfigFilter where
  filterReq := fun configReq =>
    match encryptionPlugins.find? fun plugin => plugin.needCipher configReq.dataId with
    | none => configReq
    | some plugin =>
      let secretKey := plugin.generateSecretKey
      { configReq with
        encryptedDataKey := plugin.encryptSecretKey secretKey
        content := plugin.encrypt secretKey configReq.content }
  filterResp := fun configResp =>
    if configResp.encryptedDataKey = "" then configResp
    else
      match encryptionPlugins.find? fun plugin => plugin.needCipher configResp.dataId with
      | none => configResp
      | some plugin =>
        let secretKey := plugin.decryptSecretKey configResp.encryptedDataKey
        { configResp with content := plugin.decrypt secretKey configResp.content }

/-! ## Publication -/

structure ConfigPublishRequest where
  dataId : String
  group : String
  namespace_ : String
  content : String
  casMd5 : Option String
  additionMap : HashMap String

def keyParamContentType : String := "type"
def keyParamBetaIps : String := "betaIps"
def keyParamEncryptedDataKey : String := "encryptedDataKey"

def ConfigPublishRequest.addAdditionParam (req : ConfigPublishRequest) (key val : String) :
    ConfigPublishRequest :=
  { req with additionMap := req.additionMap.insert key val }

def ConfigPublishRequest.addAdditionParams (req : ConfigPublishRequest) (params : HashMap String) :
    ConfigPublishRequest :=
  params.entries.foldl (fun req param => req.addAdditionParam param.1 param.2) req

/-- Every filter in turn on a request. -/
def publishFilters (filters : List ConfigFilter) (confReq : ConfigReq) : ConfigReq :=
  filters.foldl (fun req configFilter => configFilter.filterReq req) confReq

/-- The request of `publish_config_inner_async`. -/
def publishConfigInnerAsync (confReq : ConfigReq) (contentType casMd5 betaIps : Option String)
    (params : Option (HashMap String)) : ConfigPublishRequest :=
  let req : ConfigPublishRequest :=
    { dataId := confReq.dataId
      group := confReq.group
      namespace_ := confReq.namespace_
      content := confReq.content
      casMd5
      additionMap := ∅ }
  -- customised parameters have low priority
  let req := params.elim req req.addAdditionParams
  let req := contentType.elim req (req.addAdditionParam keyParamContentType)
  let req := betaIps.elim req (req.addAdditionParam keyParamBetaIps)
  req.addAdditionParam keyParamEncryptedDataKey confReq.encryptedDataKey

/-- `publish_config_inner`, up to its request. -/
def ConfigWorker.publishConfigInner (s : ConfigWorker) (dataId group content : String)
    (contentType casMd5 betaIps : Option String) (params : Option (HashMap String)) :
    ConfigPublishRequest :=
  let confReq := publishFilters s.configFilters ⟨dataId, group, s.namespace_, content, ""⟩
  publishConfigInnerAsync confReq contentType casMd5 betaIps params

/-- What `publish_config_inner` returns for the response. -/
def publishAnswer (resp : GrpcResponse) : Except Error Bool :=
  (handleResponse resp "publish_config").map fun _ => true

/-- The request carries what the filters made of the config, whatever the
parameters are. -/
theorem published_request (confReq : ConfigReq) (contentType casMd5 betaIps : Option String)
    (params : Option (HashMap String)) :
    (publishConfigInnerAsync confReq contentType casMd5 betaIps params).content =
        confReq.content ∧
      (publishConfigInnerAsync confReq contentType casMd5 betaIps params).additionMap.get?
        keyParamEncryptedDataKey = some confReq.encryptedDataKey := by
  have hparams : ∀ (req : ConfigPublishRequest) (params : HashMap String),
      (req.addAdditionParams params).content = req.content := by
    intro req params
    unfold ConfigPublishRequest.addAdditionParams
    induction params.entries generalizing req with
    | nil => rfl
    | cons param rest ih =>
      rw [List.foldl_cons, ih]
      rfl
  constructor
  · unfold publishConfigInnerAsync
    cases params with
    | none => cases contentType <;> cases betaIps <;> rfl
    | some params => cases contentType <;> cases betaIps <;> exact hparams _ params
  · exact HashMap.get?_insert_self _ _ _

/-! ## Lossless filters -/

/-- The response to a query of a config that was published as `req`. -/
def ConfigReq.stored (req : ConfigReq) : ConfigResp :=
  ⟨req.dataId, req.group, req.namespace_, req.content, req.encryptedDataKey⟩

/-- The request that would publish what was read. -/
def ConfigResp.republish (resp : ConfigResp) : ConfigReq :=
  ⟨resp.dataId, resp.group, resp.namespace_, resp.content, resp.encryptedDataKey⟩

/-- The config is the same, up to content and key. -/
structure SameConfig (req : ConfigReq) (dataId group namespace_ : String) : Prop where
  dataId : req.dataId = dataId
  group : req.group = group
  namespace_ : req.namespace_ = namespace_

/-- Alone, the filter restores from its own output the content, and it leaves
data id, group and namespace alone. -/
structure ConfigFilter.Lossless (F : ConfigFilter) : Prop where
  keeps : ∀ req, SameConfig (F.filterReq req) req.dataId req.group req.namespace_
  keepsBack : ∀ req, SameConfig (F.filterResp (F.filterReq req).stored).republish
    req.dataId req.group req.namespace_
  content : ∀ req, (F.filterResp (F.filterReq req).stored).content = req.content

/-- What is read of a filter's own output. -/
def ConfigFilter.restored (F : ConfigFilter) (req : ConfigReq) : ConfigReq :=
  (F.filterResp (F.filterReq req).stored).republish

/-- Each filter decodes through the filters after it: what it reads of all that
they published is what they publish of what it would read of its own output. -/
def PassesThrough : List ConfigFilter → ConfigReq → Prop
  | [], _ => True
  | F :: rest, req =>
    F.filterResp (publishFilters rest (F.filterReq req)).stored =
        (publishFilters rest (F.restored req)).stored ∧
      PassesThrough rest (F.restored req)

theorem publishFilters_keeps {filters : List ConfigFilter}
    (h : ∀ F ∈ filters, ConfigFilter.Lossless F) (req : ConfigReq) :
    SameConfig (publishFilters filters req) req.dataId req.group req.namespace_ := by
  induction filters generalizing req with
  | nil => exact ⟨rfl, rfl, rfl⟩
  | cons F rest ih =>
    have hF := (h F (by simp)).keeps req
    have hrest := ih (fun G hG => h G (by simp [hG])) (F.filterReq req)
    exact ⟨hrest.dataId.trans hF.dataId, hrest.group.trans hF.group,
      hrest.namespace_.trans hF.namespace_⟩

/-- Reading in the order of publication undoes it. -/
theorem applyFilters_published {filters : List ConfigFilter}
    (h : ∀ F ∈ filters, ConfigFilter.Lossless F) {req : ConfigReq}
    (hpass : PassesThrough filters req) :
    (applyFilters filters (publishFilters filters req).stored).content = req.content := by
  induction filters generalizing req with
  | nil => rfl
  | cons F rest ih =>
    obtain ⟨hF, hrest⟩ := hpass
    have hback := ih (fun G hG => h G (by simp [hG])) hrest
    show (applyFilters rest (F.filterResp (publishFilters rest (F.filterReq req)).stored)).content
      = req.content
    rw [hF, hback]
    exact (h F (by simp)).content req

/-- What is read back from the server is what was published. -/
def ConfigWorker.ReadsBack (s : ConfigWorker) (dataId group content : String)
    (contentType casMd5 betaIps : Option String) (params : Option (HashMap String)) : Prop :=
  let req := s.publishConfigInner dataId group content contentType casMd5 betaIps params
  ∀ resp config, Carries resp config → config.content = req.content →
    some (config.encryptedDataKey.getD "") = req.additionMap.get? keyParamEncryptedDataKey →
      ∃ response, s.getConfig dataId group (.ok resp) = some (.ok response) ∧
        response.content = content

/-- The query of a worker without an entry to answer from. -/
theorem getConfig_miss {s : ConfigWorker} {dataId group : String}
    (hmiss : (s.unifiedCache.get? (groupKey dataId group s.namespace_)).filter CacheData.served =
      none) {resp : ConfigQueryResponse} {config : ServerConfig} (h : Carries resp config) :
    s.getConfig dataId group (.ok resp) =
      some (.ok (config.seenThrough s.configFilters ⟨dataId, group, s.namespace_⟩)) := by
  rw [← queryConfig_carries h]
  unfold ConfigWorker.getConfig
  simp only [ConfigQueryRequest.groupKey, hmiss]

/-- **Publishing and reading back.** Through lossless filters, what is read is
what was published when each filter decodes through the filters after it. -/
theorem publish_read_back {s : ConfigWorker} {dataId group content : String}
    (hlossless : ∀ F ∈ s.configFilters, ConfigFilter.Lossless F)
    (hmiss : (s.unifiedCache.get? (groupKey dataId group s.namespace_)).filter CacheData.served =
      none)
    (hpass : PassesThrough s.configFilters ⟨dataId, group, s.namespace_, content, ""⟩)
    (contentType casMd5 betaIps : Option String) (params : Option (HashMap String)) :
    s.ReadsBack dataId group content contentType casMd5 betaIps params := by
  intro resp config hresp hcontent hkey
  obtain ⟨hsent, hparam⟩ := published_request
    (publishFilters s.configFilters ⟨dataId, group, s.namespace_, content, ""⟩)
    contentType casMd5 betaIps params
  have hcontent := hcontent.trans hsent
  have hkey := Option.some.inj (hkey.trans hparam)
  have hkeeps := publishFilters_keeps hlossless ⟨dataId, group, s.namespace_, content, ""⟩
  refine ⟨_, getConfig_miss hmiss hresp, ?_⟩
  refine Eq.trans ?_ (applyFilters_published hlossless hpass)
  simp only [ServerConfig.seenThrough, ConfigReq.stored, hcontent, hkey, hkeeps.dataId,
    hkeeps.group, hkeeps.namespace_]

/-! ## At most one filter acts -/

/-- The filter leaves every config with this data id alone. -/
structure ConfigFilter.Quiet (F : ConfigFilter) (dataId : String) : Prop where
  req : ∀ req, req.dataId = dataId → F.filterReq req = req
  resp : ∀ resp, resp.dataId = dataId → F.filterResp resp = resp

theorem publishFilters_quiet {filters : List ConfigFilter} {req : ConfigReq}
    (h : ∀ F ∈ filters, F.Quiet req.dataId) : publishFilters filters req = req := by
  induction filters with
  | nil => rfl
  | cons F rest ih =>
    show publishFilters rest (F.filterReq req) = req
    rw [(h F (by simp)).req req rfl]
    exact ih fun G hG => h G (by simp [hG])

/-- Of any two filters at least one leaves the config alone. -/
theorem passesThrough_of_quiet {filters : List ConfigFilter} {req : ConfigReq}
    (hlossless : ∀ F ∈ filters, ConfigFilter.Lossless F)
    (h : filters.Pairwise fun F G => F.Quiet req.dataId ∨ G.Quiet req.dataId) :
    PassesThrough filters req := by
  induction filters generalizing req with
  | nil => trivial
  | cons F rest ih =>
    rw [List.pairwise_cons] at h
    obtain ⟨hfirst, hrest⟩ := h
    have hl : ∀ G ∈ rest, ConfigFilter.Lossless G := fun G hG => hlossless G (by simp [hG])
    have hid : (F.restored req).dataId = req.dataId := ((hlossless F (by simp)).keepsBack req).dataId
    refine ⟨?_, ih hl (hid ▸ hrest)⟩
    by_cases hF : F.Quiet req.dataId
    · have hreq := hF.req req rfl
      have hback : F.restored req = req := by
        rw [ConfigFilter.restored, hreq, hF.resp req.stored rfl]
        rfl
      rw [hreq, hback]
      exact hF.resp _ (publishFilters_keeps hl req).dataId
    · have hquiet : ∀ G ∈ rest, G.Quiet req.dataId := fun G hG => (hfirst G hG).resolve_left hF
      have hout : (F.filterReq req).dataId = req.dataId := ((hlossless F (by simp)).keeps req).dataId
      rw [publishFilters_quiet (hout ▸ hquiet), publishFilters_quiet (hid ▸ hquiet)]
      rfl

/-- The plugin decrypts what it has encrypted, under a key that is not empty. -/
structure EncryptionPlugin.Decrypts (plugin : EncryptionPlugin) : Prop where
  key : plugin.encryptSecretKey plugin.generateSecretKey ≠ ""
  content : ∀ content,
    plugin.decrypt (plugin.decryptSecretKey (plugin.encryptSecretKey plugin.generateSecretKey))
      (plugin.encrypt plugin.generateSecretKey content) = content

theorem configEncryptionFilter_quiet {plugins : List EncryptionPlugin} {dataId : String}
    (h : ∀ plugin ∈ plugins, plugin.needCipher dataId = false) :
    (configEncryptionFilter plugins).Quiet dataId := by
  have hfind : (plugins.find? fun plugin => plugin.needCipher dataId) = none := by
    rw [List.find?_eq_none]
    intro plugin hp
    simp [h plugin hp]
  constructor
  · intro req hreq
    simp only [configEncryptionFilter, hreq, hfind]
  · intro resp hresp
    simp only [configEncryptionFilter, hresp, hfind, ite_self]

theorem configEncryptionFilter_lossless {plugins : List EncryptionPlugin}
    (h : ∀ plugin ∈ plugins, plugin.Decrypts) : (configEncryptionFilter plugins).Lossless := by
  have hact : ∀ req : ConfigReq,
      (configEncryptionFilter plugins).Quiet req.dataId ∨
      ∃ plugin, (plugins.find? fun plugin => plugin.needCipher req.dataId) = some plugin ∧
        plugin.Decrypts := by
    intro req
    cases hfind : plugins.find? fun plugin => plugin.needCipher req.dataId with
    | none =>
      refine Or.inl (configEncryptionFilter_quiet fun plugin hp => ?_)
      simpa using List.find?_eq_none.mp hfind plugin hp
    | some plugin => exact Or.inr ⟨plugin, rfl, h plugin (List.mem_of_find?_eq_some hfind)⟩
  constructor
  · intro req
    rcases hact req with hquiet | ⟨plugin, hfind, _⟩
    · rw [hquiet.req req rfl]
      exact ⟨rfl, rfl, rfl⟩
    · simp only [configEncryptionFilter, hfind]
      exact ⟨rfl, rfl, rfl⟩
  · intro req
    rcases hact req with hquiet | ⟨plugin, hfind, hplugin⟩
    · rw [hquiet.req req rfl, hquiet.resp req.stored rfl]
      exact ⟨rfl, rfl, rfl⟩
    · simp only [configEncryptionFilter, hfind, ConfigReq.stored, if_neg hplugin.key]
      exact ⟨rfl, rfl, rfl⟩
  · intro req
    rcases hact req with hquiet | ⟨plugin, hfind, hplugin⟩
    · rw [hquiet.req req rfl, hquiet.resp req.stored rfl]
      rfl
    · simp only [configEncryptionFilter, hfind, ConfigReq.stored, if_neg hplugin.key]
      exact hplugin.content req.content

/-! ## Two filters that act -/

/-- A plugin that writes its key before the content. -/
def prefixPlugin (algorithmName secretKey : String) : EncryptionPlugin where
  algorithmName
  encrypt := fun key content => key ++ content
  decrypt := fun key content => String.ofList (content.toList.drop key.toList.length)
  generateSecretKey := secretKey
  encryptSecretKey := id
  decryptSecretKey := id

theorem prefixPlugin_decrypts (algorithmName : String) {secretKey : String} (h : secretKey ≠ "") :
    (prefixPlugin algorithmName secretKey).Decrypts where
  key := h
  content := fun content => by simp [prefixPlugin]

/-- `with_encryption_plugins` once for each plugin. -/
def cipherWorker (plugins : List EncryptionPlugin) : ConfigWorker :=
  ConfigWorker.new "public" (plugins.map fun plugin => configEncryptionFilter [plugin]) ∅

theorem cipherWorker_lossless {plugins : List EncryptionPlugin}
    (h : ∀ plugin ∈ plugins, plugin.Decrypts) :
    ∀ F ∈ (cipherWorker plugins).configFilters, ConfigFilter.Lossless F := by
  intro F hF
  obtain ⟨plugin, hp, rfl⟩ := List.mem_map.mp hF
  apply configEncryptionFilter_lossless
  intro plugin' hp'
  rw [List.mem_singleton.mp hp']
  exact h plugin hp

theorem prefixPlugins_decrypt {plugins : List (String × String)} (h : ∀ p ∈ plugins, p.2 ≠ "") :
    ∀ plugin ∈ plugins.map fun p => prefixPlugin p.1 p.2, plugin.Decrypts := by
  intro plugin hp
  obtain ⟨p, hmem, rfl⟩ := List.mem_map.mp hp
  exact prefixPlugin_decrypts p.1 (h p hmem)

/-- Two algorithms, of which the data id names one. -/
def twoAlgorithms : List EncryptionPlugin :=
  [("AES", "a1"), ("DES", "b")].map fun p => prefixPlugin p.1 p.2

theorem twoAlgorithms_pairwise : (cipherWorker twoAlgorithms).configFilters.Pairwise fun F G =>
    F.Quiet "cipher-AES-x" ∨ G.Quiet "cipher-AES-x" := by
  have hquiet : (configEncryptionFilter [prefixPlugin "DES" "b"]).Quiet "cipher-AES-x" := by
    apply configEncryptionFilter_quiet
    intro plugin hp
    rw [List.mem_singleton.mp hp]
    decide +kernel
  show List.Pairwise _ [_, configEncryptionFilter [prefixPlugin "DES" "b"]]
  rw [List.pairwise_cons]
  refine ⟨?_, List.pairwise_singleton _ _⟩
  intro G hG
  rw [List.mem_singleton.mp hG]
  exact Or.inr hquiet

theorem twoAlgorithms_read_back :
    (cipherWorker twoAlgorithms).ReadsBack "cipher-AES-x" "DEFAULT_GROUP" "x" none none none none :=
  have hlossless := cipherWorker_lossless (prefixPlugins_decrypt (by decide))
  publish_read_back hlossless rfl (passesThrough_of_quiet hlossless twoAlgorithms_pairwise)
    none none none none

/-- Two keys for one data id. -/
def twoKeys : List EncryptionPlugin :=
  [("AES", "a1"), ("AES", "b")].map fun p => prefixPlugin p.1 p.2

/-- The first filter decrypts with the key of the second and takes one character
off where it had put two. -/
theorem two_ciphers_not_read_back :
    (∀ F ∈ (cipherWorker twoKeys).configFilters, ConfigFilter.Lossless F) ∧
      ¬ (cipherWorker twoKeys).ReadsBack "cipher-AES-x" "DEFAULT_GROUP" "x" none none none none := by
  constructor
  · exact cipherWorker_lossless (prefixPlugins_decrypt (by decide))
  · intro h
    let config : ServerConfig := ⟨"ba1x", "text", "m1", some "b", 0⟩
    obtain ⟨response, hread, hcontent⟩ := h config.response config ⟨rfl, rfl, rfl, rfl, rfl, rfl⟩
      (by decide +kernel) (by decide +kernel)
    have hgot : ((cipherWorker twoKeys).getConfig "cipher-AES-x" "DEFAULT_GROUP"
        (.ok config.response)).map (fun answer => answer.toOption.map ConfigResponse.content) =
        some (some "1x") := by
      decide +kernel
    rw [hread, Option.map_some, Except.toOption, Option.map_some, hcontent] at hgot
    exact absurd hgot (by decide)

/-- Two keys of the same length. -/
def evenKeys : List EncryptionPlugin :=
  [("AES", "aa"), ("AES", "bb")].map fun p => prefixPlugin p.1 p.2

/-- Wrong turns may cancel out: each filter takes off what the other one has
put, and the content comes back although neither decodes through the other. -/
theorem evenKeys_read_back :
    ¬ PassesThrough (cipherWorker evenKeys).configFilters
        ⟨"cipher-AES-x", "DEFAULT_GROUP", "public", "x", ""⟩ ∧
      (cipherWorker evenKeys).ReadsBack "cipher-AES-x" "DEFAULT_GROUP" "x" none none none none := by
  constructor
  · rintro ⟨hfirst, _⟩
    exact absurd hfirst (by decide +kernel)
  · intro resp config hresp hcontent hkey
    have hcontent : config.content = "bbaax" := hcontent.trans (by decide +kernel)
    have hkey : config.encryptedDataKey.getD "" = "bb" :=
      Option.some.inj (hkey.trans (by decide +kernel))
    refine ⟨_, getConfig_miss rfl hresp, ?_⟩
    simp only [ServerConfig.seenThrough, hcontent, hkey]
    decide +kernel

end NacosSdk.Config
