import Mathlib.Data.List.Basic
import NacosSdk.Remote.ServerList

/-!
# Server lists read twice

`parse_server_list` prints `host:port`, and `parse_host_port_vec` reads it
again. Proved here, for every text:

* `parseU16_toDigits`: a printed port is read back;
* `parseHostPort_join`: a host that the first parser may print is read back
  with its port;
* `roundTrips_iff`: with them, exactly which texts keep all their servers;
* `bareIpv6_dropped`: a bare IPv6 address.
-/

namespace NacosSdk.Remote
open NacosSdk.Common

/-! ## Ports -/

/-- Digits without a plus sign are read as a number. -/
theorem parseU16_digits {digits : List Char} (hne : digits ≠ [])
    (hdigits : ∀ c ∈ digits, c.isDigit = true) :
    parseU16 digits =
      if Nat.ofDigitChars 10 digits 0 < UInt16.size then
        some (UInt16.ofNat (Nat.ofDigitChars 10 digits 0))
      else none := by
  have hplus : digits.head? ≠ some '+' := by
    intro hhead
    have hdigit := hdigits '+' (List.mem_of_mem_head? hhead)
    exact absurd hdigit (by decide)
  have hall : digits.all Char.isDigit = true := List.all_eq_true.mpr hdigits
  unfold parseU16
  simp only [hplus, ↓reduceIte, hall, Bool.not_true, Bool.or_false, List.isEmpty_iff, hne]
  rfl

theorem parseU16_toDigits (port : UInt16) : parseU16 (Nat.toDigits 10 port.toNat) = some port := by
  rw [parseU16_digits Nat.toDigits_ne_nil fun c hc =>
      Nat.isDigit_of_mem_toDigits (by decide) (by decide) hc,
    Nat.ofDigitChars_ten_toDigits, if_pos port.toNat_lt, UInt16.ofNat_toNat]

theorem not_mem_toDigits {c : Char} (hc : c.isDigit = false) (n : Nat) :
    c ∉ Nat.toDigits 10 n := by
  intro hm
  rw [Nat.isDigit_of_mem_toDigits (by decide) (by decide) hm] at hc
  cases hc

/-! ## Hosts -/

/-- In brackets, with the first closing one at the end. -/
def Bracketed (host : List Char) : Prop := ∃ text, host = '[' :: text ++ [']'] ∧ ']' ∉ text

/-- A host that is not empty and is not taken for a bracketed one. -/
structure Unbracketed (host : List Char) : Prop where
  nonempty : host ≠ []
  colon : ':' ∉ host
  bracket : host.head? = some '[' → ']' ∉ host

/-- The hosts that are followed by a port. -/
def HostShape (host : List Char) : Prop := Bracketed host ∨ Unbracketed host

theorem takeWhile_to {c : Char} {text : List Char} (h : c ∉ text) (rest : List Char) :
    (text ++ c :: rest).takeWhile (· ≠ c) = text := by
  rw [List.takeWhile_append_of_pos]
  · simp
  · intro d hd
    simpa using fun he : d = c => h (he ▸ hd)

theorem dropWhile_to {c : Char} {text : List Char} (h : c ∉ text) (rest : List Char) :
    (text ++ c :: rest).dropWhile (· ≠ c) = c :: rest := by
  rw [List.dropWhile_append_of_pos]
  · simp
  · intro d hd
    simpa using fun he : d = c => h (he ▸ hd)

theorem parseHostPort_bracketed {text : List Char} (h : ']' ∉ text) (rest : List Char) :
    parseHostPort ('[' :: text ++ ']' :: rest) =
      ('[' :: text ++ [']'], parsePortSuffix rest) := by
  have hnot : ']' ∉ '[' :: text := by simp [h]
  unfold parseHostPort
  rw [if_pos (by simp), takeWhile_to hnot, dropWhile_to hnot]
  rfl

theorem parseHostPort_unbracketed {host : List Char} (h : Unbracketed host) {portStr : List Char}
    (hport : ']' ∉ portStr) :
    parseHostPort (host ++ ':' :: portStr) = (host, parseU16 portStr) := by
  have hbracket : ¬ ((host ++ ':' :: portStr).head? = some '[' &&
      (host ++ ':' :: portStr).contains ']') = true := by
    intro hboth
    simp only [Bool.and_eq_true, decide_eq_true_eq, List.contains_iff_mem, List.mem_append,
      List.mem_cons] at hboth
    obtain ⟨hhead, hmem⟩ := hboth
    have hhost : host.head? = some '[' := by
      cases host with
      | nil => exact absurd rfl h.nonempty
      | cons c host => exact hhead
    rcases hmem with hm | hm | hm
    · exact h.bracket hhost hm
    · exact absurd hm (by decide)
    · exact hport hm
  have hempty : host.isEmpty = false := by
    rw [Bool.eq_false_iff]
    simpa [List.isEmpty_iff] using h.nonempty
  unfold parseHostPort
  rw [if_neg hbracket, if_pos (by simp), takeWhile_to h.colon, dropWhile_to h.colon]
  simp [hempty]

/-- A host with a port behind it is read as both. -/
theorem parseHostPort_join {host portStr : List Char} (h : HostShape host)
    (hport : ']' ∉ portStr) :
    parseHostPort (host ++ ':' :: portStr) = (host, parseU16 portStr) := by
  rcases h with ⟨text, rfl, htext⟩ | hunbracketed
  · have hsplit : '[' :: text ++ [']'] ++ ':' :: portStr = '[' :: text ++ ']' :: ':' :: portStr := by
      simp
    rw [hsplit, parseHostPort_bracketed htext]
    rfl
  · exact parseHostPort_unbracketed hunbracketed hport

/-- A host alone has no port. -/
theorem parseHostPort_alone {host : List Char} (h : HostShape host) :
    parseHostPort host = (host, none) := by
  rcases h with ⟨text, rfl, htext⟩ | hunbracketed
  · rw [parseHostPort_bracketed htext []]
    rfl
  · have hbracket : ¬ (host.head? = some '[' && host.contains ']') = true := by
      intro hboth
      simp only [Bool.and_eq_true, decide_eq_true_eq, List.contains_iff_mem] at hboth
      exact hunbracketed.bracket hboth.1 hboth.2
    have hcolon : host.contains ':' = false := by
      simpa using hunbracketed.colon
    unfold parseHostPort
    rw [if_neg hbracket, hcolon]
    rfl

/-- What starts with a colon is all host. -/
theorem parseHostPort_colon (rest : List Char) :
    parseHostPort (':' :: rest) = (':' :: rest, none) := by
  unfold parseHostPort
  simp

/-- What is cut at a character starts as the whole does, with another one. -/
theorem head_takeWhile {c d : Char} {addr : List Char} :
    (addr.takeWhile (· ≠ d)).head? = some c ↔ addr.head? = some c ∧ c ≠ d := by
  rw [List.head?_takeWhile, Option.filter_eq_some_iff]
  simp

theorem not_mem_takeWhile (d : Char) (addr : List Char) : d ∉ addr.takeWhile (· ≠ d) := by
  intro hm
  have hne := List.mem_takeWhile_imp hm
  simp at hne

/-- The first parser prints no other hosts, unless the address starts with a
colon. -/
theorem parseHostPort_shape {addr : List Char} (hne : addr ≠ []) (hcolon : addr.head? ≠ some ':') :
    HostShape (parseHostPort addr).1 := by
  unfold parseHostPort
  split
  · next hbracket =>
    simp only [Bool.and_eq_true, decide_eq_true_eq] at hbracket
    have hfirst : (addr.takeWhile (· ≠ ']')).head? = some '[' :=
      head_takeWhile.mpr ⟨hbracket.1, by decide⟩
    have hclosing := not_mem_takeWhile ']' addr
    obtain ⟨text, htext⟩ := List.head?_eq_some_iff.mp hfirst
    rw [htext] at hclosing ⊢
    exact Or.inl ⟨text, rfl, fun hm => hclosing (List.mem_cons_of_mem _ hm)⟩
  · next hbracket =>
    have hopen : addr.head? = some '[' → ']' ∉ addr := by
      intro hhead hm
      exact hbracket (by simp [hhead, hm])
    split
    · obtain ⟨c, hhead⟩ := Option.ne_none_iff_exists'.mp (mt List.head?_eq_none_iff.mp hne)
      have hfirst : (addr.takeWhile (· ≠ ':')).head? = some c :=
        head_takeWhile.mpr ⟨hhead, fun he => hcolon (he ▸ hhead)⟩
      have hhost : addr.takeWhile (· ≠ ':') ≠ [] := by
        intro hnil
        rw [hnil] at hfirst
        cases hfirst
      have hempty : (addr.takeWhile (· ≠ ':')).isEmpty = false := by
        rw [Bool.eq_false_iff]
        simpa [List.isEmpty_iff] using hhost
      simp only [hempty, Bool.false_eq_true, ↓reduceIte]
      refine Or.inr ⟨hhost, not_mem_takeWhile ':' addr, fun hbracketed hm => ?_⟩
      exact hopen (head_takeWhile.mp hbracketed).1 ((List.takeWhile_sublist _).mem hm)
    · next hnone => exact Or.inr ⟨hne, by simpa using hnone, hopen⟩

/-! ## Entries -/

/-- A pair as `host:port`. -/
def renderPair (pair : String × UInt16) : String := pair.1 ++ ":" ++ toString pair.2.toNat

/-- The entry that the first parser prints for an address. -/
theorem renderAddress_toList (defaultPort : UInt16) (addr : List Char) :
    (renderAddress defaultPort addr).toList =
      (parseHostPort addr).1 ++
        ':' :: Nat.toDigits 10 ((parseHostPort addr).2.getD defaultPort).toNat := by
  simp [renderAddress, String.toList_append]

theorem hostPort_render {defaultPort : UInt16} {addr : List Char} (hne : addr ≠ [])
    (hcolon : addr.head? ≠ some ':') :
    hostPort (renderAddress defaultPort addr) =
      some (String.ofList (parseHostPort addr).1, (parseHostPort addr).2.getD defaultPort) := by
  unfold hostPort
  rw [renderAddress_toList, parseHostPort_join (parseHostPort_shape hne hcolon)
    (not_mem_toDigits (by decide) _), parseU16_toDigits]
  rfl

/-- The entry of an address that starts with a colon has no legal port. -/
theorem hostPort_colon (defaultPort : UInt16) {addr : List Char} (h : addr.head? = some ':') :
    hostPort (renderAddress defaultPort addr) = none := by
  obtain ⟨rest, rfl⟩ := List.head?_eq_some_iff.mp h
  unfold hostPort
  rw [renderAddress_toList, parseHostPort_colon, List.cons_append, parseHostPort_colon]
  rfl

/-- The list is read again entry by entry, and nothing is dropped. -/
def RoundTrips (list : List String) : Prop :=
  ∃ pairs, parseHostPortVec list = .ok pairs ∧ pairs.map renderPair = list

theorem segment_ne_nil {serverAddr addr : List Char} (h : addr ∈ serverSegments serverAddr) :
    addr ≠ [] := by
  have hne := (List.mem_filter.mp h).2
  simpa [List.isEmpty_iff] using hne

/-- Without an address that starts with a colon every entry has its pair. -/
theorem filterMap_render (defaultPort : UInt16) {addrs : List (List Char)}
    (h : ∀ addr ∈ addrs, addr ≠ [] ∧ addr.head? ≠ some ':') :
    (addrs.map (renderAddress defaultPort)).filterMap hostPort =
      addrs.map fun addr =>
        (String.ofList (parseHostPort addr).1, (parseHostPort addr).2.getD defaultPort) := by
  rw [List.filterMap_map, ← List.filterMap_eq_map]
  apply List.filterMap_congr
  intro addr hm
  exact hostPort_render (h addr hm).1 (h addr hm).2

/-- **Two parsers.** A parsed list is read again without a loss exactly when no
address of the text starts with a colon. -/
theorem roundTrips_iff (defaultPort : UInt16) (serverAddr : String) {list : List String}
    (h : parseServerList defaultPort serverAddr = .ok list) :
    RoundTrips list ↔ ∀ addr ∈ serverSegments serverAddr.toList, addr.head? ≠ some ':' := by
  obtain ⟨rfl, hne⟩ := parseServerList_ok h
  constructor
  · rintro ⟨pairs, hpairs, hrender⟩ addr hm hcolon
    obtain ⟨rfl, _⟩ := parseHostPortVec_ok_iff.mp hpairs
    have hlength := congrArg List.length hrender
    rw [List.length_map] at hlength
    have hsome := List.filterMap_length_eq_length.mp hlength _
      (List.mem_map_of_mem hm)
    rw [hostPort_colon defaultPort hcolon] at hsome
    cases hsome
  · intro hall
    have hpairs := filterMap_render defaultPort fun addr hm =>
      ⟨segment_ne_nil hm, hall addr hm⟩
    refine ⟨_, parseHostPortVec_ok_iff.mpr ⟨rfl, ?_⟩, ?_⟩
    · rw [hpairs]
      simpa using hne
    · rw [hpairs, List.map_map]
      rfl

theorem roundTrips_iff_twoServers :
    RoundTrips ["127.0.0.1:8848", "[::1]:8850"] :=
  (roundTrips_iff 8848 "127.0.0.1; [::1]:8850," (by decide +kernel)).mpr (by decide +kernel)

/-- A bare IPv6 address is printed with the default port and then has none. -/
theorem bareIpv6_dropped :
    parseServerList 8848 "::1" = .ok ["::1:8848"] ∧
      parseHostPortVec ["::1:8848"] =
        .error (.wrongServerAddress "all the server is illegal format!") ∧
      ¬ RoundTrips ["::1:8848"] := by
  have herror : parseHostPortVec ["::1:8848"] =
      .error (.wrongServerAddress "all the server is illegal format!") := by decide +kernel
  refine ⟨by decide +kernel, herror, ?_⟩
  rintro ⟨pairs, hpairs, _⟩
  rw [herror] at hpairs
  cases hpairs

end NacosSdk.Remote
