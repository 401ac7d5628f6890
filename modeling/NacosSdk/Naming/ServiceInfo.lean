import Mathlib.Data.Finmap
import Mathlib.Data.Rat.Defs

/-!
# Service instances and service infos

The data transfer objects of service discovery (`api/naming.rs`,
`naming/dto/service_info.rs`) with the keys under which the client files them.
An `f64` weight is an exact rational, an infinity or NaN; a metadata
`HashMap<String, String>` is a finite map up to the order of its entries.
-/

namespace NacosSdk.Naming

/-! ## Instances -/

inductive Weight where
  | finite (q : Rat)
  | infinity
  | negInfinity
  | nan
  deriving DecidableEq

/-- `==` on `f64`: NaN differs from itself. -/
def Weight.eq : Weight → Weight → Bool
  | .finite p, .finite q => p = q
  | .infinity, .infinity => true
  | .negInfinity, .negInfinity => true
  | _, _ => false

/-- `weight > 0`. -/
def Weight.positive : Weight → Bool
  | .finite q => 0 < q
  | .infinity => true
  | _ => false

structure ServiceInstance where
  instanceId : Option String
  ip : String
  port : Int
  weight : Weight
  healthy : Bool
  enabled : Bool
  ephemeral : Bool
  clusterName : Option String
  serviceName : Option String
  metadata : Finmap (fun _ : String => String)
  deriving DecidableEq

def defaultClusterName : String := "DEFAULT"

/-- `ServiceInstance::default`. -/
def ServiceInstance.default : ServiceInstance where
  instanceId := none
  ip := ""
  port := 0
  weight := .finite 1
  healthy := true
  enabled := true
  ephemeral := true
  clusterName := some defaultClusterName
  serviceName := none
  metadata := ∅

def ServiceInstance.ipAndPort (i : ServiceInstance) : String := i.ip ++ ":" ++ toString i.port

def ServiceInstance.isSameInstance (a b : ServiceInstance) : Bool :=
  a.instanceId = b.instanceId && a.ip = b.ip && a.port = b.port && a.weight.eq b.weight &&
    a.healthy = b.healthy && a.enabled = b.enabled && a.ephemeral = b.ephemeral &&
    a.clusterName = b.clusterName && a.serviceName = b.serviceName && a.metadata = b.metadata

theorem Weight.eq_iff (a b : Weight) : a.eq b = true ↔ a = b ∧ a ≠ .nan := by
  cases a <;> cases b <;> simp [Weight.eq]

/-- Two instances are the same exactly when all their fields agree and the
weight is a number. -/
theorem isSameInstance_iff (a b : ServiceInstance) :
    a.isSameInstance b = true ↔ a = b ∧ a.weight ≠ .nan := by
  cases a
  cases b
  simp only [ServiceInstance.isSameInstance, Bool.and_eq_true, decide_eq_true_eq,
    Weight.eq_iff, ServiceInstance.mk.injEq]
  tauto

/-! ## Service infos -/

structure ServiceInfo where
  name : String
  groupName : String
  clusters : String
  cacheMillis : Int
  lastRefTime : Int
  allIps : Option Bool
  allIps3x : Option Bool
  hosts : Option (List ServiceInstance)
  deriving DecidableEq

/-- `ServiceInfo::default`. -/
def ServiceInfo.default : ServiceInfo where
  name := ""
  groupName := ""
  clusters := ""
  cacheMillis := 1000
  lastRefTime := 0
  allIps := some false
  allIps3x := some false
  hosts := none

def serviceInfoSeparator : String := "@@"

/-- `service_name.contains(SERVICE_INFO_SEPARATOR)`. -/
def containsSeparator (s : String) : Bool :=
  decide (serviceInfoSeparator.toList <:+: s.toList)

def ServiceInfo.isAllIps (info : ServiceInfo) : Bool :=
  match info.allIps with
  | some item => item
  | none => info.allIps3x.getD false

def ServiceInfo.validate (info : ServiceInfo) : Bool :=
  if info.isAllIps then true
  else match info.hosts with
    | none => false
    | some hosts => hosts.any fun host => host.healthy && host.weight.positive

def getGroupedServiceName (serviceName groupName : String) : String :=
  if groupName ≠ "" ∧ containsSeparator serviceName = false then
    groupName ++ serviceInfoSeparator ++ serviceName
  else serviceName

def getKey (name clusters : String) : String :=
  if clusters ≠ "" then name ++ serviceInfoSeparator ++ clusters else name

/-- The key of the listener registry and of the naming cache. -/
def getKeyWithoutClusters (serviceName groupName : String) : String :=
  getGroupedServiceName serviceName groupName

/-- The key under which a service info is cached and observed. -/
def ServiceInfo.key (info : ServiceInfo) : String :=
  getKeyWithoutClusters info.name info.groupName

def defaultGroup : String := "DEFAULT_GROUP"

/-- `crate::common::util::normalize_group_name`. -/
def normalizeGroupName (groupName : Option String) : String :=
  match groupName with
  | some g => if g = "" then defaultGroup else g
  | none => defaultGroup

theorem normalizeGroupName_ne (groupName : Option String) : normalizeGroupName groupName ≠ "" := by
  unfold normalizeGroupName
  split
  · split
    · decide
    · assumption
  · decide

/-- Calls normalize a group that their caller has normalized. -/
theorem normalizeGroupName_idem (groupName : Option String) :
    normalizeGroupName (some (normalizeGroupName groupName)) = normalizeGroupName groupName :=
  if_neg (normalizeGroupName_ne groupName)

/-- `clusters.join(",")`. -/
def joinClusters (clusters : List String) : String := String.intercalate "," clusters

theorem getKey_toList (name c : String) :
    (getKey name c).toList = name.toList ++ if c = "" then [] else '@' :: '@' :: c.toList := by
  by_cases h : c = ""
  · simp [getKey, h]
  · simp [getKey, h, serviceInfoSeparator, String.toList_append]

end NacosSdk.Naming
