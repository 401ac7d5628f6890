import NacosSdk.Config.Publish
import NacosSdk.Lib.Separator
import Mathlib.Data.List.Find

/-!
# The encryption filter

One `ConfigEncryptionFilter` of `api/plugin/encryption.rs` on its own: what it
makes of a publication and of the response to a later query, and which data ids
name an algorithm. Proved here, for every list of plugins:

* `encryption_round_trip`: what one filter has encrypted it decrypts;
* `defaultNeedCipher_iff`: a data id names the algorithm that stands between
  its first two separators;
* `cipher_published_iff`: exactly when a data id that should be encrypted is;
* `hyphenated_published_plain`: an algorithm name with a separator in it.
-/

namespace NacosSdk.Config
open NacosSdk.Common NacosSdk.Lib

/-! ## Encrypting and decrypting -/

/-- Under every key the plugin reads what it wrote, and it never writes an empty
key. -/
structure EncryptionPlugin.Undoes (plugin : EncryptionPlugin) : Prop where
  content : ∀ secretKey content,
    plugin.decrypt secretKey (plugin.encrypt secretKey content) = content
  key : ∀ secretKey, plugin.decryptSecretKey (plugin.encryptSecretKey secretKey) = secretKey
  keyFilled : ∀ secretKey, plugin.encryptSecretKey secretKey ≠ ""

theorem EncryptionPlugin.Undoes.decrypts {plugin : EncryptionPlugin} (h : plugin.Undoes) :
    plugin.Decrypts where
  key := h.keyFilled _
  content := fun content => by rw [h.key, h.content]

section Filter

variable (plugins : List EncryptionPlugin)

theorem configEncryptionFilter_keeps (req : ConfigReq) :
    SameConfig ((configEncryptionFilter plugins).filterReq req) req.dataId req.group
      req.namespace_ := by
  unfold configEncryptionFilter
  dsimp only
  split <;> exact ⟨rfl, rfl, rfl⟩

theorem configEncryptionFilter_keepsBack (resp : ConfigResp) :
    SameConfig ((configEncryptionFilter plugins).filterResp resp).republish resp.dataId resp.group
      resp.namespace_ := by
  unfold configEncryptionFilter
  dsimp only
  split
  · exact ⟨rfl, rfl, rfl⟩
  · split <;> exact ⟨rfl, rfl, rfl⟩

variable {plugins}

/-- **Encryption.** A config that was published with an empty key is read back
as it was, no config is taken for another one, and a config that no plugin needs
passes through as it is. -/
theorem encryption_round_trip (h : ∀ plugin ∈ plugins, plugin.Undoes)
    (dataId group namespace_ content : String) :
    ((configEncryptionFilter plugins).filterResp ((configEncryptionFilter plugins).filterReq
        ⟨dataId, group, namespace_, content, ""⟩).stored).content = content ∧
      (∀ req, SameConfig ((configEncryptionFilter plugins).filterReq req) req.dataId req.group
        req.namespace_) ∧
      (∀ resp, SameConfig ((configEncryptionFilter plugins).filterResp resp).republish resp.dataId
        resp.group resp.namespace_) ∧
      ((∀ plugin ∈ plugins, plugin.needCipher dataId = false) →
        (∀ req, req.dataId = dataId → (configEncryptionFilter plugins).filterReq req = req) ∧
        ∀ resp, resp.dataId = dataId → (configEncryptionFilter plugins).filterResp resp = resp) := by
  have hlossless : (configEncryptionFilter plugins).Lossless :=
    configEncryptionFilter_lossless fun plugin hp => (h plugin hp).decrypts
  refine ⟨hlossless.content _, configEncryptionFilter_keeps plugins,
    configEncryptionFilter_keepsBack plugins, ?_⟩
  intro hnone
  have hquiet := configEncryptionFilter_quiet hnone
  exact ⟨hquiet.req, hquiet.resp⟩

end Filter

/-- A plugin that writes its key before the content, and a mark before its key. -/
def markedPlugin (algorithmName secretKey : String) : EncryptionPlugin where
  algorithmName
  encrypt := fun key content => key ++ content
  decrypt := fun key content => String.ofList (content.toList.drop key.toList.length)
  generateSecretKey := secretKey
  encryptSecretKey := fun key => "crypt_" ++ key
  decryptSecretKey := fun key => String.ofList (key.toList.drop "crypt_".toList.length)

theorem markedPlugin_undoes (algorithmName secretKey : String) :
    (markedPlugin algorithmName secretKey).Undoes where
  content := fun key content => by simp [markedPlugin]
  key := fun key => by simp [markedPlugin]
  keyFilled := fun key he => by
    have hlist := congrArg String.toList he
    simp [markedPlugin, String.toList_append] at hlist

/-- The config of the test of the filter, with a data id that names the plugin. -/
theorem encryption_round_trip_marked :
    ((configEncryptionFilter [markedPlugin "TEST" "secret-key"]).filterResp
      ((configEncryptionFilter [markedPlugin "TEST" "secret-key"]).filterReq
        ⟨"cipher-TEST-D", "G", "N", "C", ""⟩).stored).content = "C" := by
  refine (encryption_round_trip ?_ "cipher-TEST-D" "G" "N" "C").1
  intro plugin hp
  rw [List.mem_singleton.mp hp]
  exact markedPlugin_undoes "TEST" "secret-key"

/-! ## Data ids that name an algorithm -/

/-- The plugin keeps the provided `need_cipher` and `parse_algorithm_name`. -/
def EncryptionPlugin.Provided (plugin : EncryptionPlugin) : Prop :=
  plugin.needCipher = defaultNeedCipher plugin.algorithmName

/-- What stands before the first separator of an algorithm name. -/
def firstSegment (algorithmName : String) : String :=
  String.ofList (Separator.segment defaultCipherSplit algorithmName.toList)

theorem cipherPrefix_toList :
    defaultCipherPrefix.toList = ['c', 'i', 'p', 'h', 'e', 'r'] ++ [defaultCipherSplit] := by
  decide

/-- The data id names what stands between its first two separators. -/
theorem defaultNeedCipher_iff (algorithmName dataId : String) :
    defaultNeedCipher algorithmName dataId = true ↔
      ∃ after, dataId.toList = defaultCipherPrefix.toList ++ after ∧
        Separator.segment defaultCipherSplit after = algorithmName.toList := by
  have hsecond : ∀ after, dataId.toList = defaultCipherPrefix.toList ++ after →
      parseAlgorithmName dataId =
        String.ofList (Separator.segment defaultCipherSplit after) := by
    intro after h
    have hnot : defaultCipherSplit ∉ ['c', 'i', 'p', 'h', 'e', 'r'] := by decide
    rw [parseAlgorithmName, h, cipherPrefix_toList, List.append_assoc, List.singleton_append,
      Separator.splitOn_second hnot, Option.getD_some]
  rw [defaultNeedCipher, Bool.and_eq_true, List.isPrefixOf_iff_prefix, decide_eq_true_eq]
  constructor
  · rintro ⟨⟨after, hid⟩, hname⟩
    refine ⟨after, hid.symm, ?_⟩
    rw [← hname, hsecond after hid.symm, String.toList_ofList]
  · rintro ⟨after, hid, hname⟩
    refine ⟨⟨after, hid.symm⟩, ?_⟩
    rw [hsecond after hid, hname, String.ofList_toList]

/-- A data id of the documented form names the first segment of its algorithm. -/
theorem defaultNeedCipher_documented (algorithmName algorithm rest : String) :
    defaultNeedCipher algorithmName (defaultCipherPrefix ++ algorithm ++ "-" ++ rest) = true ↔
      algorithmName = firstSegment algorithm := by
  have hid : (defaultCipherPrefix ++ algorithm ++ "-" ++ rest).toList =
      defaultCipherPrefix.toList ++ (algorithm.toList ++ defaultCipherSplit :: rest.toList) := by
    simp [String.toList_append, defaultCipherSplit]
  have hseg : Separator.segment defaultCipherSplit
      (algorithm.toList ++ defaultCipherSplit :: rest.toList) =
        Separator.segment defaultCipherSplit algorithm.toList :=
    Separator.segment_append_sep _ _ _
  rw [defaultNeedCipher_iff, firstSegment]
  constructor
  · rintro ⟨after, hafter, hname⟩
    obtain rfl := List.append_cancel_left (hid.symm.trans hafter)
    rw [← hseg, hname, String.ofList_toList]
  · intro hname
    exact ⟨_, hid, by rw [hseg, hname, String.toList_ofList]⟩

/-- Nothing else names an algorithm. -/
theorem documented_of_need {algorithmName dataId : String}
    (h : defaultNeedCipher algorithmName dataId = true) :
    dataId = defaultCipherPrefix ++ algorithmName ∨
      ∃ rest, dataId = defaultCipherPrefix ++ algorithmName ++ "-" ++ rest := by
  obtain ⟨after, hid, hname⟩ := (defaultNeedCipher_iff _ _).mp h
  obtain ⟨tail, hsplit, rfl | ⟨rest, rfl⟩⟩ := Separator.segment_tail defaultCipherSplit after
  · refine Or.inl (String.toList_inj.mp ?_)
    rw [hid, hsplit, hname, List.append_nil, String.toList_append]
  · refine Or.inr ⟨String.ofList rest, String.toList_inj.mp ?_⟩
    rw [hid, hsplit, hname]
    simp [String.toList_append, defaultCipherSplit]

/-! ## What is published -/

/-- The request carries what the plugin has encrypted, with the plugin's key. -/
def EncryptionPlugin.Wrote (plugin : EncryptionPlugin) (content : String)
    (req : ConfigPublishRequest) : Prop :=
  req.content = plugin.encrypt plugin.generateSecretKey content ∧
    req.additionMap.get? keyParamEncryptedDataKey =
      some (plugin.encryptSecretKey plugin.generateSecretKey)

/-- The request carries the plain content, and its key is left empty. -/
def CarriesPlain (content : String) (req : ConfigPublishRequest) : Prop :=
  req.content = content ∧ req.additionMap.get? keyParamEncryptedDataKey = some ""

/-- What the plugin writes cannot be told from a plain publication. -/
def EncryptionPlugin.Transparent (plugin : EncryptionPlugin) (content : String) : Prop :=
  plugin.encrypt plugin.generateSecretKey content = content ∧
    plugin.encryptSecretKey plugin.generateSecretKey = ""

section Published

variable {s : ConfigWorker} {plugins : List EncryptionPlugin} {dataId : String}

/-- The request that a publication through known filters sends. -/
theorem published_filtered {group content : String} {confReq : ConfigReq}
    (h : publishFilters s.configFilters ⟨dataId, group, s.namespace_, content, ""⟩ = confReq)
    (contentType casMd5 betaIps : Option String) (params : Option (HashMap String)) :
    (s.publishConfigInner dataId group content contentType casMd5 betaIps params).content =
        confReq.content ∧
      (s.publishConfigInner dataId group content contentType casMd5 betaIps params).additionMap.get?
        keyParamEncryptedDataKey = some confReq.encryptedDataKey := by
  subst h
  exact published_request _ contentType casMd5 betaIps params

theorem carriesPlain_iff {plugin : EncryptionPlugin} {content : String}
    {req : ConfigPublishRequest} (h : plugin.Wrote content req) :
    CarriesPlain content req ↔ plugin.Transparent content := by
  unfold CarriesPlain EncryptionPlugin.Transparent
  rw [h.1, h.2, Option.some.injEq]

/-- The first plugin that needs the data id encrypts the content. -/
theorem published_wrote (hfilters : s.configFilters = [configEncryptionFilter plugins])
    {plugin : EncryptionPlugin}
    (hfind : (plugins.find? fun plugin => plugin.needCipher dataId) = some plugin)
    (group content : String) (contentType casMd5 betaIps : Option String)
    (params : Option (HashMap String)) :
    plugin.Wrote content
      (s.publishConfigInner dataId group content contentType casMd5 betaIps params) := by
  have hfiltered : publishFilters s.configFilters ⟨dataId, group, s.namespace_, content, ""⟩ =
      ⟨dataId, group, s.namespace_, plugin.encrypt plugin.generateSecretKey content,
        plugin.encryptSecretKey plugin.generateSecretKey⟩ := by
    rw [hfilters]
    simp only [publishFilters, List.foldl_cons, List.foldl_nil, configEncryptionFilter, hfind]
  exact published_filtered hfiltered contentType casMd5 betaIps params

/-- Without a plugin that needs the data id the publication is plain. -/
theorem published_plain (hfilters : s.configFilters = [configEncryptionFilter plugins])
    (h : ∀ plugin ∈ plugins, plugin.needCipher dataId = false) (group content : String)
    (contentType casMd5 betaIps : Option String) (params : Option (HashMap String)) :
    CarriesPlain content
      (s.publishConfigInner dataId group content contentType casMd5 betaIps params) := by
  have hquiet := configEncryptionFilter_quiet h
  have hfiltered : publishFilters s.configFilters ⟨dataId, group, s.namespace_, content, ""⟩ =
      ⟨dataId, group, s.namespace_, content, ""⟩ := by
    rw [hfilters]
    exact publishFilters_quiet fun F hF => List.mem_singleton.mp hF ▸ hquiet
  exact published_filtered hfiltered contentType casMd5 betaIps params

/-- **Encryption by data id.** With the provided methods, a data id of the
documented form is encrypted exactly when some plugin is named by the first
segment of its algorithm, and the first such plugin does write something; and a
data id that is of this form for no plugin is published as it is. -/
theorem cipher_published_iff (hfilters : s.configFilters = [configEncryptionFilter plugins])
    (hprovided : ∀ plugin ∈ plugins, plugin.Provided) (algorithm rest group content : String)
    (contentType casMd5 betaIps : Option String) (params : Option (HashMap String)) :
    (((∃ plugin ∈ plugins, plugin.Wrote content
          (s.publishConfigInner (defaultCipherPrefix ++ algorithm ++ "-" ++ rest) group content
            contentType casMd5 betaIps params)) ∧
        ¬ CarriesPlain content
          (s.publishConfigInner (defaultCipherPrefix ++ algorithm ++ "-" ++ rest) group content
            contentType casMd5 betaIps params)) ↔
      ∃ plugin,
        (plugins.find? fun plugin => plugin.algorithmName = firstSegment algorithm) =
            some plugin ∧
          ¬ plugin.Transparent content) ∧
    ∀ dataId, (∀ plugin ∈ plugins, dataId ≠ defaultCipherPrefix ++ plugin.algorithmName ∧
        ∀ rest, dataId ≠ defaultCipherPrefix ++ plugin.algorithmName ++ "-" ++ rest) →
      CarriesPlain content
        (s.publishConfigInner dataId group content contentType casMd5 betaIps params) := by
  have hneed : ∀ plugin ∈ plugins,
      plugin.needCipher (defaultCipherPrefix ++ algorithm ++ "-" ++ rest) =
        decide (plugin.algorithmName = firstSegment algorithm) := by
    intro plugin hp
    rw [hprovided plugin hp, Bool.eq_iff_iff, decide_eq_true_iff]
    exact defaultNeedCipher_documented _ _ _
  have hfind := List.find?_congr hneed
  refine ⟨?_, ?_⟩
  · cases hfirst : plugins.find? fun plugin =>
        plugin.needCipher (defaultCipherPrefix ++ algorithm ++ "-" ++ rest) with
    | none =>
      have hplain := published_plain hfilters
        (fun plugin hp => Bool.eq_false_iff.mpr (List.find?_eq_none.mp hfirst plugin hp)) group
        content contentType casMd5 betaIps params
      rw [← hfind, hfirst]
      refine iff_of_false (fun h => h.2 hplain) ?_
      rintro ⟨_, hnone, _⟩
      cases hnone
    | some plugin =>
      have hwrote := published_wrote hfilters hfirst group content contentType casMd5 betaIps params
      rw [← hfind, hfirst, carriesPlain_iff hwrote]
      constructor
      · rintro ⟨_, hvisible⟩
        exact ⟨plugin, rfl, hvisible⟩
      · rintro ⟨first, heq, hvisible⟩
        cases heq
        exact ⟨⟨plugin, List.mem_of_find?_eq_some hfirst, hwrote⟩, hvisible⟩
  · intro dataId hother
    refine published_plain hfilters (fun plugin hp => ?_) group content contentType casMd5 betaIps
      params
    rw [hprovided plugin hp, Bool.eq_false_iff]
    intro hneeds
    rcases documented_of_need hneeds with hid | ⟨rest, hid⟩
    · exact (hother plugin hp).1 hid
    · exact (hother plugin hp).2 rest hid

end Published

/-! ## An algorithm name with a separator -/

/-- `with_encryption_plugins`, once. -/
def encryptingWorker (plugins : List EncryptionPlugin) : ConfigWorker :=
  ConfigWorker.new "public" [configEncryptionFilter plugins] ∅

def twoPlugins : List EncryptionPlugin := [markedPlugin "SM4" "s1", markedPlugin "AES" "a1"]

theorem twoPlugins_provided : ∀ plugin ∈ twoPlugins, plugin.Provided := by
  intro plugin hp
  rcases List.mem_cons.mp hp with rfl | hp
  · rfl
  · rw [List.mem_singleton.mp hp]
    rfl

theorem cipher_published_iff_aes :
    (∃ plugin ∈ twoPlugins, plugin.Wrote "x"
        ((encryptingWorker twoPlugins).publishConfigInner
          (defaultCipherPrefix ++ "AES" ++ "-" ++ "db-1.yaml") "DEFAULT_GROUP" "x" none none none
          none)) ∧
      ¬ CarriesPlain "x"
        ((encryptingWorker twoPlugins).publishConfigInner
          (defaultCipherPrefix ++ "AES" ++ "-" ++ "db-1.yaml") "DEFAULT_GROUP" "x" none none none
          none) :=
  (cipher_published_iff rfl twoPlugins_provided "AES" "db-1.yaml" "DEFAULT_GROUP" "x" none none
    none none).1.mpr ⟨markedPlugin "AES" "a1", by rfl, fun h => absurd h.2 (by decide)⟩

/-- The data id names the algorithm `AES`, which no plugin has. -/
theorem hyphenated_published_plain :
    CarriesPlain "x" ((encryptingWorker [markedPlugin "AES-256" "a1"]).publishConfigInner
        "cipher-AES-256-db.yaml" "DEFAULT_GROUP" "x" none none none none) ∧
      ¬ ∃ plugin ∈ [markedPlugin "AES-256" "a1"], plugin.Wrote "x"
        ((encryptingWorker [markedPlugin "AES-256" "a1"]).publishConfigInner
          "cipher-AES-256-db.yaml" "DEFAULT_GROUP" "x" none none none none) := by
  have hplain : CarriesPlain "x"
      ((encryptingWorker [markedPlugin "AES-256" "a1"]).publishConfigInner
        "cipher-AES-256-db.yaml" "DEFAULT_GROUP" "x" none none none none) :=
    published_plain rfl (by decide +kernel) "DEFAULT_GROUP" "x" none none none none
  refine ⟨hplain, ?_⟩
  rintro ⟨plugin, hp, hcontent, _⟩
  rw [List.mem_singleton.mp hp, hplain.1] at hcontent
  exact absurd hcontent (by decide)

end NacosSdk.Config
