import NacosSdk.Lib.Fields
import NacosSdk.Remote.HostPort

/-!
# The grammar of server lists

Addresses in a text, with separators and whitespace around them, against
`parse_server_list` and `parse_host_port_vec`. Proved here, for every text of the
grammar:

* `parseHostPort_address`: an address is read as its host and port;
* `serverText_parsed`: the two parsers yield its addresses in order.
-/

namespace NacosSdk.Remote
open NacosSdk.Common NacosSdk.Lib

/-! ## Addresses -/

/-- A name or an IPv4 address, or any text in brackets. -/
inductive HostText : List Char → Prop
  | plain {host : List Char} (nonempty : host ≠ []) (bracket : host.head? ≠ some '[')
      (chars : ∀ c ∈ host, isWhitespace c = false ∧ c ≠ ',' ∧ c ≠ ';' ∧ c ≠ ':') :
      HostText host
  | bracketed {text : List Char}
      (chars : ∀ c ∈ text, isWhitespace c = false ∧ c ≠ ',' ∧ c ≠ ';' ∧ c ≠ ']') :
      HostText ('[' :: text ++ [']'])

/-- A `u16` in decimal. -/
structure PortText where
  digits : List Char
  nonempty : digits ≠ []
  decimal : ∀ c ∈ digits, c.isDigit = true
  fits : Nat.ofDigitChars 10 digits 0 < UInt16.size

def PortText.port (portText : PortText) : UInt16 :=
  UInt16.ofNat (Nat.ofDigitChars 10 portText.digits 0)

structure ConfiguredAddress where
  host : List Char
  portText : Option PortText
  hostText : HostText host

def ConfiguredAddress.text (address : ConfiguredAddress) : List Char :=
  match address.portText with
  | none => address.host
  | some portText => address.host ++ ':' :: portText.digits

/-- The host with its own port or the default one. -/
def ConfiguredAddress.pair (address : ConfiguredAddress) (defaultPort : UInt16) :
    String × UInt16 :=
  (String.ofList address.host, (address.portText.map PortText.port).getD defaultPort)

theorem hostText_shape {host : List Char} (h : HostText host) : HostShape host := by
  cases h with
  | plain nonempty bracket chars =>
    exact Or.inr ⟨nonempty, fun hm => (chars _ hm).2.2.2 rfl, fun hhead => absurd hhead bracket⟩
  | bracketed chars => exact Or.inl ⟨_, rfl, fun hm => (chars _ hm).2.2.2 rfl⟩

theorem portText_parsed (portText : PortText) :
    parseU16 portText.digits = some portText.port := by
  rw [parseU16_digits portText.nonempty portText.decimal, if_pos portText.fits]
  rfl

theorem not_mem_digits {c : Char} (hc : c.isDigit = false) (portText : PortText) :
    c ∉ portText.digits := by
  intro hm
  rw [portText.decimal c hm] at hc
  cases hc

theorem parseHostPort_address (address : ConfiguredAddress) :
    parseHostPort address.text = (address.host, address.portText.map PortText.port) := by
  have hshape := hostText_shape address.hostText
  unfold ConfiguredAddress.text
  cases address.portText with
  | none => exact parseHostPort_alone hshape
  | some portText =>
    rw [parseHostPort_join hshape (not_mem_digits (by decide) portText), portText_parsed]
    rfl

/-! ## Entries -/

theorem not_separator {c : Char} (h : isWhitespace c = false ∧ c ≠ ',' ∧ c ≠ ';') :
    isServerSeparator c = false := by
  obtain ⟨hspace, hcomma, hsemicolon⟩ := h
  have hnewline : c ≠ '\n' := by
    rintro rfl
    exact absurd hspace (by decide)
  simp [isServerSeparator, hcomma, hsemicolon, hnewline]

theorem hostText_plain {host : List Char} (h : HostText host) :
    host ≠ [] ∧ ∀ c ∈ host, isWhitespace c = false ∧ c ≠ ',' ∧ c ≠ ';' := by
  cases h with
  | plain nonempty bracket chars =>
    exact ⟨nonempty, fun c hc => ⟨(chars c hc).1, (chars c hc).2.1, (chars c hc).2.2.1⟩⟩
  | bracketed chars =>
    refine ⟨by simp, fun c hc => ?_⟩
    simp only [List.cons_append, List.mem_cons, List.mem_append, List.not_mem_nil,
      or_false] at hc
    rcases hc with rfl | hc | rfl
    · decide
    · exact ⟨(chars c hc).1, (chars c hc).2.1, (chars c hc).2.2.1⟩
    · decide

theorem digit_plain {c : Char} (h : c.isDigit = true) :
    isWhitespace c = false ∧ c ≠ ',' ∧ c ≠ ';' := by
  have hrange : 48 ≤ c.toNat ∧ c.toNat ≤ 57 := by
    simp only [Char.isDigit, ge_iff_le, Bool.and_eq_true, decide_eq_true_eq,
      UInt32.le_iff_toNat_le] at h
    exact h
  refine ⟨?_, ?_, ?_⟩
  · simp only [isWhitespace, Bool.or_eq_false_iff, Bool.and_eq_false_iff, decide_eq_false_iff_not]
    omega
  · rintro rfl
    exact absurd hrange (by decide)
  · rintro rfl
    exact absurd hrange (by decide)

theorem address_plain (address : ConfiguredAddress) :
    ∀ c ∈ address.text, isWhitespace c = false ∧ c ≠ ',' ∧ c ≠ ';' := by
  have hhost := (hostText_plain address.hostText).2
  unfold ConfiguredAddress.text
  cases address.portText with
  | none => exact hhost
  | some portText =>
    intro c hc
    rcases List.mem_append.mp hc with hc | hc
    · exact hhost c hc
    · rcases List.mem_cons.mp hc with rfl | hc
      · decide
      · exact digit_plain (portText.decimal c hc)

theorem hostText_head {host : List Char} (h : HostText host) :
    ∃ c, host.head? = some c ∧ c ≠ ':' := by
  cases h with
  | plain nonempty bracket chars =>
    obtain ⟨c, hhead⟩ := Option.ne_none_iff_exists'.mp (mt List.head?_eq_none_iff.mp nonempty)
    exact ⟨c, hhead, (chars c (List.mem_of_mem_head? hhead)).2.2.2⟩
  | bracketed chars => exact ⟨'[', rfl, by decide⟩

/-- An address starts as its host does. -/
theorem address_head (address : ConfiguredAddress) :
    ∃ c, address.text.head? = some c ∧ c ≠ ':' := by
  obtain ⟨c, hhead, hc⟩ := hostText_head address.hostText
  refine ⟨c, ?_, hc⟩
  unfold ConfiguredAddress.text
  cases address.portText with
  | none => exact hhead
  | some portText =>
    dsimp only
    rw [List.head?_append, hhead]
    rfl

theorem address_ne_nil (address : ConfiguredAddress) : address.text ≠ [] := by
  obtain ⟨c, hhead, _⟩ := address_head address
  intro hnil
  rw [hnil] at hhead
  cases hhead

theorem address_entry (address : ConfiguredAddress) :
    Entry isServerSeparator isWhitespace address.text where
  nonempty := address_ne_nil address
  separator := fun c hc => not_separator (address_plain address c hc)
  space := fun c hc => (address_plain address c hc).1

/-! ## Texts -/

/-- Addresses with separators between them and any whitespace and further
separators around them. -/
def ServerText (addresses : List ConfiguredAddress) (serverAddr : String) : Prop :=
  Joined isServerSeparator isWhitespace (addresses.map ConfiguredAddress.text) serverAddr.toList

theorem serverSegments_text {addresses : List ConfiguredAddress} {serverAddr : String}
    (h : ServerText addresses serverAddr) :
    serverSegments serverAddr.toList = addresses.map ConfiguredAddress.text := by
  have hfields := fields_joined h fun entry hm => by
    obtain ⟨address, _, rfl⟩ := List.mem_map.mp hm
    exact address_entry address
  rw [← hfields, ← fields_trim]
  rfl

/-- **The grammar of server lists.** -/
theorem serverText_parsed (defaultPort : UInt16) {addresses : List ConfiguredAddress}
    (hne : addresses ≠ []) {serverAddr : String} (h : ServerText addresses serverAddr) :
    ∃ list, parseServerList defaultPort serverAddr = .ok list ∧
      parseHostPortVec list = .ok (addresses.map fun address => address.pair defaultPort) := by
  have hsegments := serverSegments_text h
  refine ⟨(serverSegments serverAddr.toList).map (renderAddress defaultPort), ?_, ?_⟩
  · unfold parseServerList
    rw [hsegments]
    exact if_neg (by simpa [List.isEmpty_iff] using hne)
  · have hall : ∀ addr ∈ serverSegments serverAddr.toList,
        addr ≠ [] ∧ addr.head? ≠ some ':' := by
      intro addr hm
      rw [hsegments] at hm
      obtain ⟨address, _, rfl⟩ := List.mem_map.mp hm
      obtain ⟨c, hhead, hc⟩ := address_head address
      refine ⟨address_ne_nil address, fun hcolon => hc ?_⟩
      rw [hhead] at hcolon
      exact Option.some.inj hcolon
    have hpairs := filterMap_render defaultPort hall
    rw [parseHostPortVec_ok_iff, hpairs, hsegments, List.map_map]
    refine ⟨?_, by simpa using hne⟩
    apply List.map_congr_left
    intro address _
    simp only [Function.comp_apply, parseHostPort_address]
    rfl

/-! ## One text -/

def plainAddress : ConfiguredAddress where
  host := "10.0.0.1".toList
  portText := some ⟨"08850".toList, by decide, by simp, by decide⟩
  hostText := .plain (by decide) (by decide) (by simp [isWhitespace])

def bracketedAddress : ConfiguredAddress where
  host := "[::1]".toList
  portText := none
  hostText := @HostText.bracketed "::1".toList (by simp [isWhitespace])

theorem serverText_parsed_two :
    ∃ list, parseServerList 8848 " 10.0.0.1:08850 ;,\n[::1]," = .ok list ∧
      parseHostPortVec list = .ok [("10.0.0.1", 8850), ("[::1]", 8848)] := by
  have hjoined : ServerText [plainAddress, bracketedAddress] " 10.0.0.1:08850 ;,\n[::1]," :=
    .next " ".toList plainAddress.text " ;,\n".toList (by decide) (by decide)
      ⟨';', by decide, rfl⟩
      (.last [] bracketedAddress.text ",".toList (by decide) (by decide))
  exact serverText_parsed 8848 (by simp) hjoined

end NacosSdk.Remote
