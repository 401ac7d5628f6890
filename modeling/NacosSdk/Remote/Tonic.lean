import NacosSdk.Remote.HostPort
import NacosSdk.Remote.PollingServerList

/-!
# From a server to its endpoint

`TonicBuilder::call` and `Tonic::new` of `common/remote/grpc/tonic.rs`, as far as
they use the selected server. `Uri::builder` is an argument; so is whether the
build checks for overflows. A result is missing where the source panics. Proved
here, for every text:

* `connects_iff`: when the connection to one server is built as it should be;
* `connectLaw_iff`: with it, exactly which texts only have such servers;
* `parsedServers_panic`: a port from 64536 on, and a space in a host.
-/

namespace NacosSdk.Remote
open NacosSdk.Common NacosSdk.Lib

/-! ## The code -/

/-- The fields that `Uri::builder` is given. -/
structure GrpcConfiguration where
  host : String := "127.0.0.1"
  port : Option UInt16 := none

/-- `Uri::host` and `Uri::port_u16`. -/
structure EndpointUri where
  host : String
  port : Option UInt16
  deriving DecidableEq

structure Tonic where
  endpointUri : EndpointUri
  serverAddress : PollingServerAddress
  deriving DecidableEq

/-- `+` on `u16`; a release build wraps. -/
def addU16 (checked : Bool) (a b : UInt16) : Option UInt16 :=
  if checked && UInt16.size ≤ a.toNat + b.toNat then none else some (a + b)

/-- `Tonic::new`, where `build().expect(..)` panics without a `Uri`. -/
def Tonic.new (buildUri : String → Option EndpointUri) (grpcConfig : GrpcConfiguration)
    (serverAddress : PollingServerAddress) : Option Tonic :=
  let urlAuthority :=
    match grpcConfig.port with
    | some port => grpcConfig.host ++ ":" ++ toString port.toNat
    | none => grpcConfig.host
  (buildUri urlAuthority).map fun endpointUri => { endpointUri, serverAddress }

/-- `TonicBuilder::call`, when the server list returned `serverInfo`. -/
def TonicBuilder.call (checked : Bool) (buildUri : String → Option EndpointUri)
    (grpcConfig : GrpcConfiguration)
    (serverInfo : Option (Except Error PollingServerAddress)) : Option (Except Error Tonic) := do
  match ← serverInfo with
  | .error e => return .error e
  | .ok serverAddress =>
    let port ←
      match grpcConfig.port with
      | none => addU16 checked serverAddress.port 1000
      | some port => some port
    let tonic ←
      Tonic.new buildUri { grpcConfig with host := serverAddress.host, port := some port }
        serverAddress
    return .ok tonic

/-! ## One server -/

def authorityOf (host : String) (port : UInt16) : String := host ++ ":" ++ toString port.toNat

/-- An error, or an endpoint with the selected host and the port 1000 above. -/
def Connects (serverInfo : Option (Except Error PollingServerAddress))
    (outcome : Option (Except Error Tonic)) : Prop :=
  (∃ e, outcome = some (.error e)) ∨
    ∃ address tonic port, serverInfo = some (.ok address) ∧ outcome = some (.ok tonic) ∧
      tonic.endpointUri = ⟨address.host, some port⟩ ∧ port.toNat = address.port.toNat + 1000

/-- The port has room for 1000 more, and the authority is one of that host. -/
def Reachable (buildUri : String → Option EndpointUri) (address : PollingServerAddress) : Prop :=
  address.port.toNat + 1000 < UInt16.size ∧
    buildUri (authorityOf address.host (address.port + 1000)) =
      some ⟨address.host, some (address.port + 1000)⟩

variable {checked : Bool} {buildUri : String → Option EndpointUri}
  {grpcConfig : GrpcConfiguration}

theorem call_ok (hport : grpcConfig.port = none) (address : PollingServerAddress) :
    TonicBuilder.call checked buildUri grpcConfig (some (.ok address)) =
      (addU16 checked address.port 1000).bind fun port =>
        (buildUri (authorityOf address.host port)).map fun uri => .ok ⟨uri, address⟩ := by
  unfold TonicBuilder.call Tonic.new
  rw [hport]
  dsimp only [bind, Option.bind]
  cases addU16 checked address.port 1000 with
  | none => rfl
  | some port =>
    dsimp only [authorityOf]
    cases buildUri (address.host ++ ":" ++ toString port.toNat) with
    | none => rfl
    | some uri => rfl

theorem toNat_add_fits {a b : UInt16} (h : a.toNat + b.toNat < UInt16.size) :
    (a + b).toNat = a.toNat + b.toNat := by
  rw [UInt16.toNat_add]
  exact Nat.mod_eq_of_lt h

theorem addU16_fits {a b : UInt16} (h : a.toNat + b.toNat < UInt16.size) :
    addU16 checked a b = some (a + b) := by
  have hfits : decide (UInt16.size ≤ a.toNat + b.toNat) = false := by simpa using h
  unfold addU16
  rw [hfits, Bool.and_false]
  rfl

theorem addU16_some {a b c : UInt16} (h : addU16 checked a b = some c) : c = a + b := by
  unfold addU16 at h
  split at h
  · cases h
  · exact (Option.some.inj h).symm

theorem connects_iff (hport : grpcConfig.port = none) (address : PollingServerAddress) :
    Connects (some (.ok address))
        (TonicBuilder.call checked buildUri grpcConfig (some (.ok address))) ↔
      Reachable buildUri address := by
  rw [call_ok hport]
  constructor
  · rintro (⟨e, herror⟩ | ⟨_, tonic, port, haddress, htonic, huri, hvalue⟩)
    · obtain ⟨port, _, hbuilt⟩ := Option.bind_eq_some_iff.mp herror
      obtain ⟨uri, _, hok⟩ := Option.map_eq_some_iff.mp hbuilt
      cases hok
    · cases haddress
      obtain ⟨sum, hsum, hbuilt⟩ := Option.bind_eq_some_iff.mp htonic
      obtain ⟨uri, hbuild, hok⟩ := Option.map_eq_some_iff.mp hbuilt
      cases hok
      -- a wrapped port could not be 1000 above the selected one
      have hroom : address.port.toNat + 1000 < UInt16.size := hvalue ▸ port.toNat_lt
      obtain rfl := addU16_some hsum
      have hsumPort : address.port + 1000 = port := by
        apply UInt16.toNat_inj.mp
        rw [hvalue]
        exact toNat_add_fits (b := 1000) hroom
      dsimp only at huri
      rw [huri] at hbuild
      rw [hsumPort] at hbuild
      exact ⟨hroom, by rw [hsumPort, hbuild]⟩
  · rintro ⟨hroom, hbuild⟩
    refine Or.inr ⟨address, ⟨_, address⟩, address.port + 1000, rfl, ?_, rfl,
      toNat_add_fits (b := 1000) hroom⟩
    rw [addU16_fits hroom, Option.bind_some, hbuild]
    rfl

/-! ## All servers of a text -/

/-- Every selection connects, for every counter and without a configured port. -/
def ConnectLaw (checked : Bool) (buildUri : String → Option EndpointUri)
    (serverList : List String) : Prop :=
  ∀ grpcConfig nextIdx, grpcConfig.port = none →
    Connects (selectServer nextIdx serverList)
      (TonicBuilder.call checked buildUri grpcConfig (selectServer nextIdx serverList))

theorem connectLaw_legal {serverList : List String} :
    ConnectLaw checked buildUri serverList ↔
      ∀ address ∈ legalAddresses serverList, Reachable buildUri address := by
  constructor
  · intro hlaw address hm
    obtain ⟨nextIdx, hturn⟩ := turn_of_mem hm
    have hselect : selectServer nextIdx serverList = some (.ok address) := by
      rw [selectServer_legal (List.ne_nil_of_mem hm), hturn]
      rfl
    have hconnects := hlaw {} nextIdx rfl
    rw [hselect] at hconnects
    exact (connects_iff rfl address).mp hconnects
  · intro hall grpcConfig nextIdx hport
    rcases selectServer_law nextIdx serverList with ⟨address, hm, hselect⟩ | ⟨_, e, herror⟩
    · rw [hselect]
      exact (connects_iff hport address).mpr (hall address hm)
    · rw [herror]
      exact Or.inl ⟨e, rfl⟩

/-- The server that is selected for an address of the text. -/
def segmentServer (defaultPort : UInt16) (addr : List Char) : PollingServerAddress where
  host := String.ofList (parseHostPort addr).1
  port := (parseHostPort addr).2.getD defaultPort

theorem mem_legalAddresses_parsed {defaultPort : UInt16} {serverAddr : String}
    {serverList : List String} (h : parseServerList defaultPort serverAddr = .ok serverList)
    {address : PollingServerAddress} :
    address ∈ legalAddresses serverList ↔
      ∃ addr ∈ serverSegments serverAddr.toList, addr.head? ≠ some ':' ∧
        address = segmentServer defaultPort addr := by
  obtain ⟨rfl, _⟩ := parseServerList_ok h
  rw [mem_legalAddresses]
  constructor
  · rintro ⟨server, hm, hpair⟩
    obtain ⟨addr, haddr, rfl⟩ := List.mem_map.mp hm
    have hcolon : addr.head? ≠ some ':' := by
      intro hcolon
      rw [hostPort_colon defaultPort hcolon] at hpair
      cases hpair
    refine ⟨addr, haddr, hcolon, ?_⟩
    rw [hostPort_render (segment_ne_nil haddr) hcolon, Option.some.injEq, Prod.mk.injEq] at hpair
    cases address
    simp only [segmentServer, PollingServerAddress.mk.injEq]
    exact ⟨hpair.1.symm, hpair.2.symm⟩
  · rintro ⟨addr, haddr, hcolon, rfl⟩
    exact ⟨_, List.mem_map_of_mem haddr, hostPort_render (segment_ne_nil haddr) hcolon⟩

theorem connectLaw_parsed {defaultPort : UInt16} {serverAddr : String} {serverList : List String}
    (h : parseServerList defaultPort serverAddr = .ok serverList) :
    ConnectLaw checked buildUri serverList ↔
      ∀ addr ∈ serverSegments serverAddr.toList, addr.head? ≠ some ':' →
        Reachable buildUri (segmentServer defaultPort addr) := by
  rw [connectLaw_legal]
  constructor
  · intro hall addr hm hcolon
    exact hall _ ((mem_legalAddresses_parsed h).mpr ⟨addr, hm, hcolon, rfl⟩)
  · intro hall address hm
    obtain ⟨addr, haddr, hcolon, rfl⟩ := (mem_legalAddresses_parsed h).mp hm
    exact hall addr haddr hcolon

/-! ## Authorities -/

/-- The characters of an authority. -/
def isAuthorityChar (c : Char) : Bool :=
  c.isAlphanum || "-._~%!$&'()*+,;=:@[]".toList.contains c

/-- The characters of host names and IPv4 addresses. -/
def isPlainChar (c : Char) : Bool := c.isAlphanum || c = '-' || c = '.'

/-- A host name or an IPv4 address. -/
def PlainHost (host : String) : Prop :=
  host.toList ≠ [] ∧ host.toList.all isPlainChar = true

instance (host : String) : Decidable (PlainHost host) :=
  inferInstanceAs (Decidable (host.toList ≠ [] ∧ host.toList.all isPlainChar = true))

/-- What `Uri::builder` is known to do with an authority. -/
structure AuthorityRules (buildUri : String → Option EndpointUri) : Prop where
  rejects : ∀ authority, (∃ c ∈ authority.toList, isAuthorityChar c = false) →
    buildUri authority = none
  accepts : ∀ host port, PlainHost host →
    buildUri (authorityOf host port) = some ⟨host, some port⟩

theorem reachable_plain (rules : AuthorityRules buildUri) {address : PollingServerAddress}
    (h : PlainHost address.host) :
    Reachable buildUri address ↔ address.port.toNat + 1000 < UInt16.size := by
  constructor
  · exact fun hreach => hreach.1
  · exact fun hroom => ⟨hroom, rules.accepts _ _ h⟩

theorem not_reachable_char (rules : AuthorityRules buildUri) {address : PollingServerAddress}
    (h : ∃ c ∈ address.host.toList, isAuthorityChar c = false) :
    ¬ Reachable buildUri address := by
  rintro ⟨_, hbuild⟩
  obtain ⟨c, hm, hc⟩ := h
  have hmem : c ∈ (authorityOf address.host (address.port + 1000)).toList := by
    simp only [authorityOf, String.toList_append, List.mem_append]
    exact Or.inl (Or.inl hm)
  rw [rules.rejects _ ⟨c, hmem, hc⟩] at hbuild
  cases hbuild

/-- **Connections.** The connection to every server of a parsed text is built as
it should be exactly when each address that does not start with a colon has a port
up to 64535 and a host that is built as itself. That is so of no host with a
character outside of authorities, and of every plain one. -/
theorem connectLaw_iff (rules : AuthorityRules buildUri) (checked : Bool) {defaultPort : UInt16}
    {serverAddr : String} {serverList : List String}
    (h : parseServerList defaultPort serverAddr = .ok serverList) :
    (ConnectLaw checked buildUri serverList ↔
      ∀ addr ∈ serverSegments serverAddr.toList, addr.head? ≠ some ':' →
        Reachable buildUri (segmentServer defaultPort addr)) ∧
    (∀ addr ∈ serverSegments serverAddr.toList, addr.head? ≠ some ':' →
      (∃ c ∈ (parseHostPort addr).1, isAuthorityChar c = false) →
        ¬ ConnectLaw checked buildUri serverList) ∧
    ((∀ addr ∈ serverSegments serverAddr.toList, addr.head? ≠ some ':' →
        PlainHost (String.ofList (parseHostPort addr).1)) →
      (ConnectLaw checked buildUri serverList ↔
        ∀ addr ∈ serverSegments serverAddr.toList, addr.head? ≠ some ':' →
          ((parseHostPort addr).2.getD defaultPort).toNat ≤ 64535)) := by
  rw [connectLaw_parsed h]
  refine ⟨Iff.rfl, ?_, ?_⟩
  · rintro addr hm hcolon hchar hall
    refine not_reachable_char rules ?_ (hall addr hm hcolon)
    rwa [segmentServer, String.toList_ofList]
  · intro hplain
    refine forall₃_congr fun addr hm hcolon => ?_
    have hhost : PlainHost (segmentServer defaultPort addr).host := hplain addr hm hcolon
    rw [reachable_plain rules hhost]
    dsimp only [segmentServer, UInt16.size]
    omega

/-- A host up to the first colon, with the characters of plain hosts. -/
def plainUri (authority : String) : Option EndpointUri :=
  let host := String.ofList (authority.toList.takeWhile (· ≠ ':'))
  if authority.toList.all isAuthorityChar && decide (PlainHost host) then
    some ⟨host, parsePortSuffix (authority.toList.dropWhile (· ≠ ':'))⟩
  else none

theorem plainHost_chars {host : String} (h : PlainHost host) :
    ∀ c ∈ host.toList, isAuthorityChar c = true ∧ c ≠ ':' := by
  intro c hm
  have hplain := List.all_eq_true.mp h.2 c hm
  simp only [isPlainChar, Bool.or_eq_true, decide_eq_true_eq, or_assoc] at hplain
  rcases hplain with halnum | rfl | rfl
  · refine ⟨by simp [isAuthorityChar, halnum], ?_⟩
    rintro rfl
    exact absurd halnum (by decide)
  · decide
  · decide

theorem digit_authorityChar {c : Char} (h : c.isDigit = true) : isAuthorityChar c = true := by
  simp [isAuthorityChar, Char.isAlphanum, h]

theorem plainUri_rules : AuthorityRules plainUri where
  rejects := by
    rintro authority ⟨c, hm, hc⟩
    have hall : authority.toList.all isAuthorityChar = false :=
      List.all_eq_false.mpr ⟨c, hm, by simp [hc]⟩
    unfold plainUri
    simp [hall]
  accepts := by
    intro host port hplain
    have hchars := plainHost_chars hplain
    have hcolon : ':' ∉ host.toList := fun hm => (hchars ':' hm).2 rfl
    have hsplit : (authorityOf host port).toList = host.toList ++ ':' :: Nat.toDigits 10 port.toNat := by
      simp [authorityOf, String.toList_append]
    have hall : (authorityOf host port).toList.all isAuthorityChar = true := by
      rw [hsplit, List.all_eq_true]
      intro c hm
      rcases List.mem_append.mp hm with hm | hm
      · exact (hchars c hm).1
      · rcases List.mem_cons.mp hm with rfl | hm
        · decide
        · exact digit_authorityChar (Nat.isDigit_of_mem_toDigits (by decide) (by decide) hm)
    unfold plainUri
    dsimp only
    rw [hall, hsplit, takeWhile_to hcolon, dropWhile_to hcolon, String.ofList_toList]
    simp only [hplain, decide_true, Bool.and_self, ↓reduceIte, parsePortSuffix,
      parseU16_toDigits]

theorem connectLaw_iff_plain :
    ConnectLaw true plainUri ["10.0.0.1:8848", "nacos-1.example:64535"] := by
  have hparse : parseServerList 8848 "10.0.0.1; nacos-1.example:64535" =
      .ok ["10.0.0.1:8848", "nacos-1.example:64535"] := by decide +kernel
  obtain ⟨_, _, hplain⟩ := connectLaw_iff plainUri_rules true hparse
  exact (hplain (by decide +kernel)).mpr (by decide +kernel)

/-- Texts that are parsed and not connected. The port panics, or becomes 464, and
no `Uri::builder` can help; the space in a host panics. -/
theorem parsedServers_panic :
    parseServerList 8848 "127.0.0.1:65000" = .ok ["127.0.0.1:65000"] ∧
      (∀ checked buildUri, ¬ ConnectLaw checked buildUri ["127.0.0.1:65000"]) ∧
      TonicBuilder.call true plainUri {} (selectServer 0 ["127.0.0.1:65000"]) = none ∧
      TonicBuilder.call false plainUri {} (selectServer 0 ["127.0.0.1:65000"]) =
        some (.ok ⟨⟨"127.0.0.1", some 464⟩, ⟨"127.0.0.1", 65000⟩⟩) ∧
      parseServerList 8848 "a b" = .ok ["a b:8848"] ∧
      TonicBuilder.call true plainUri {} (selectServer 0 ["a b:8848"]) = none := by
  have hparse : parseServerList 8848 "127.0.0.1:65000" = .ok ["127.0.0.1:65000"] := by
    decide +kernel
  refine ⟨hparse, ?_, by decide +kernel, by decide +kernel, by decide +kernel, by decide +kernel⟩
  intro checked buildUri hlaw
  have hreach := (connectLaw_parsed hparse).mp hlaw "127.0.0.1:65000".toList
    (by decide +kernel) (by decide)
  exact absurd hreach.1 (by decide +kernel)

end NacosSdk.Remote
