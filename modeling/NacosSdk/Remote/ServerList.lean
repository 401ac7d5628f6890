import Mathlib.Data.List.DropRight
import NacosSdk.Common.Error

/-!
# Server lists

`parse_server_list`, `parse_host_port_vec` and `parse_host_port` of
`common/remote/server_list/mod.rs` on the characters of a text. The default port,
which the source reads from the environment, is an argument. Proved here, for
every text and every list:

* `parseServerList_ok`: a list that is parsed has the segments of the text, and
  at least one;
* `parseHostPortVec_ok_iff`: the pairs are those of the legal entries.
-/

namespace NacosSdk.Remote
open NacosSdk.Common

/-- `str::trim`. -/
def trim (s : List Char) : List Char := (s.dropWhile isWhitespace).rdropWhile isWhitespace

def digitValue (c : Char) : Nat := c.toNat - '0'.toNat

/-- `str::parse::<u16>`: digits, after a plus sign or none. -/
def parseU16 (s : List Char) : Option UInt16 :=
  let digits := if s.head? = some '+' then s.tail else s
  if digits.isEmpty || !digits.all Char.isDigit then none
  else
    let value := digits.foldl (fun n c => 10 * n + digitValue c) 0
    if value < UInt16.size then some (UInt16.ofNat value) else none

/-- `strip_prefix(':')` and `parse`. -/
def parsePortSuffix : List Char → Option UInt16
  | ':' :: p => parseU16 p
  | _ => none

def parseHostPort (input : List Char) : List Char × Option UInt16 :=
  if input.head? = some '[' && input.contains ']' then
    let host := input.takeWhile (· ≠ ']') ++ [']']
    let rest := (input.dropWhile (· ≠ ']')).tail
    (host, parsePortSuffix rest)
  else if input.contains ':' then
    let host := input.takeWhile (· ≠ ':')
    let portStr := (input.dropWhile (· ≠ ':')).tail
    -- a bare IPv6 address is all host
    if host.isEmpty then (input, none) else (host, parseU16 portStr)
  else (input, none)

example : parseHostPort "[::1]:8848".toList = ("[::1]".toList, some 8848) := by decide

example : parseHostPort "::1".toList = ("::1".toList, none) := by decide

def isServerSeparator (c : Char) : Bool := c = ',' || c = ';' || c = '\n'

/-- `format!("{}:{}", host, port.unwrap_or(default_port))`. -/
def renderAddress (defaultPort : UInt16) (addr : List Char) : String :=
  let parsed := parseHostPort addr
  String.ofList parsed.1 ++ ":" ++ toString (parsed.2.getD defaultPort).toNat

/-- The segments of a text that are not blank. -/
def serverSegments (serverAddr : List Char) : List (List Char) :=
  (((trim serverAddr).splitOnP isServerSeparator).map trim).filter fun addr => !addr.isEmpty

def parseServerList (defaultPort : UInt16) (serverAddr : String) : Except Error (List String) :=
  let result := (serverSegments serverAddr.toList).map (renderAddress defaultPort)
  if result.isEmpty then .error (.wrongServerAddress "Server address is empty")
  else .ok result

theorem parseServerList_ok {defaultPort : UInt16} {serverAddr : String} {result : List String}
    (h : parseServerList defaultPort serverAddr = .ok result) :
    result = (serverSegments serverAddr.toList).map (renderAddress defaultPort) ∧ result ≠ [] := by
  unfold parseServerList at h
  dsimp only at h
  split at h
  · cases h
  · next hne =>
    cases h
    exact ⟨rfl, by simpa [List.isEmpty_iff] using hne⟩

example :
    parseServerList 8848 "127.0.0.1; 192.168.0.1:8850,\n" =
      .ok ["127.0.0.1:8848", "192.168.0.1:8850"] := by decide +kernel

/-- The entry of a server list as a pair, when its port is legal. -/
def hostPort (server : String) : Option (String × UInt16) :=
  let parsed := parseHostPort server.toList
  parsed.2.map fun port => (String.ofList parsed.1, port)

def parseHostPortVec (serverList : List String) : Except Error (List (String × UInt16)) :=
  if serverList.isEmpty then .error (.wrongServerAddress "server list must not empty")
  else
    let resultList := serverList.filterMap hostPort
    if resultList.isEmpty then .error (.wrongServerAddress "all the server is illegal format!")
    else .ok resultList

theorem parseHostPortVec_ok_iff {serverList : List String} {pairs : List (String × UInt16)} :
    parseHostPortVec serverList = .ok pairs ↔ pairs = serverList.filterMap hostPort ∧ pairs ≠ [] := by
  unfold parseHostPortVec
  dsimp only
  cases serverList with
  | nil => simp
  | cons server serverList =>
    rw [if_neg (by simp)]
    cases (server :: serverList).filterMap hostPort with
    | nil => simp
    | cons pair rest =>
      rw [if_neg (by simp), Except.ok.injEq]
      constructor
      · rintro rfl
        exact ⟨rfl, by simp⟩
      · exact fun h => h.1.symm

theorem parseHostPortVec_error {serverList : List String} (h : serverList.filterMap hostPort = []) :
    ∃ e, parseHostPortVec serverList = .error e := by
  unfold parseHostPortVec
  rw [h]
  split
  · exact ⟨_, rfl⟩
  · exact ⟨_, rfl⟩

end NacosSdk.Remote
