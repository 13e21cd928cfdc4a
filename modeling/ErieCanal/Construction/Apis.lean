import Mathlib.Data.List.AList

namespace ErieCanal

/-- An API object is stored under its namespace and its name. -/
structure NamespacedName where
  ns : String
  name : String
  deriving DecidableEq, Repr

def NamespacedName.string (key : NamespacedName) : String := key.ns ++ "/" ++ key.name

/-- Conditions carry one of the three metav1 status values. -/
inductive ConditionStatus where
  | true | false | unknown
  deriving DecidableEq, Repr

structure Condition where
  type : String
  status : ConditionStatus
  reason : String
  message : String
  deriving DecidableEq, Repr

namespace Conditions

/-- This is `metautil.FindStatusCondition`. -/
def findStatusCondition (conditions : List Condition) (conditionType : String) : Option Condition :=
  conditions.find? fun condition => condition.type == conditionType

def isStatusConditionPresentAndEqual (conditions : List Condition) (conditionType : String)
    (status : ConditionStatus) : Bool :=
  match findStatusCondition conditions conditionType with
  | some condition => condition.status == status
  | none => false

/-- This is `metautil.IsStatusConditionTrue`. -/
def isStatusConditionTrue (conditions : List Condition) (conditionType : String) : Bool :=
  isStatusConditionPresentAndEqual conditions conditionType .true

/-- This is `metautil.IsStatusConditionFalse`. -/
def isStatusConditionFalse (conditions : List Condition) (conditionType : String) : Bool :=
  isStatusConditionPresentAndEqual conditions conditionType .false

/-- A status write replaces the first condition of its type or appends a new one. -/
def setStatusCondition (conditions : List Condition) (newCondition : Condition) : List Condition :=
  match conditions with
  | [] => [newCondition]
  | condition :: rest =>
      if condition.type = newCondition.type then newCondition :: rest
      else condition :: setStatusCondition rest newCondition

theorem find_setStatusCondition (conditions : List Condition) (condition : Condition) :
    findStatusCondition (setStatusCondition conditions condition) condition.type =
      some condition := by
  induction conditions with
  | nil => simp [setStatusCondition, findStatusCondition]
  | cons head rest ih =>
      rw [setStatusCondition]
      split
      · simp [findStatusCondition]
      · rename_i different
        rw [findStatusCondition, List.find?_cons_of_neg (by simpa using different)]
        exact ih

theorem isStatusConditionTrue_set (conditions : List Condition) (condition : Condition) :
    isStatusConditionTrue (setStatusCondition conditions condition) condition.type =
      (condition.status == .true) := by
  rw [isStatusConditionTrue, isStatusConditionPresentAndEqual, find_setStatusCondition]

end Conditions

namespace CoreV1

inductive Protocol where
  | tcp | udp | sctp
  deriving DecidableEq, Repr

inductive ServiceType where
  | clusterIP | nodePort | loadBalancer | externalName
  deriving DecidableEq, Repr

def ServiceType.string : ServiceType → String
  | .clusterIP => "ClusterIP"
  | .nodePort => "NodePort"
  | .loadBalancer => "LoadBalancer"
  | .externalName => "ExternalName"

inductive IntOrString where
  | int (value : Int)
  | string (value : String)
  deriving DecidableEq, Repr

structure ServicePort where
  name : String
  protocol : Protocol
  appProtocol : Option String
  port : Int
  targetPort : IntOrString
  nodePort : Int
  deriving DecidableEq, Repr

inductive IPFamily where
  | ipv4 | ipv6
  deriving DecidableEq, Repr

structure Service where
  ns : String
  name : String
  type : ServiceType
  ports : List ServicePort
  clusterIP : String := ""
  clusterIPs : List String := []
  ipFamilies : List IPFamily := []
  externalName : String := ""
  deletionTimestamp : Option Nat := none
  deriving DecidableEq, Repr

def Service.key (svc : Service) : NamespacedName := ⟨svc.ns, svc.name⟩

end CoreV1

namespace SvcExp

structure ServiceExportRule where
  portNumber : Int
  path : String
  deriving DecidableEq, Repr

/-- The condition types of a ServiceExport. -/
def serviceExportValid : String := "Valid"

def serviceExportConflict : String := "Conflict"

structure ServiceExport where
  ns : String
  name : String
  resourceVersion : Nat
  rules : List ServiceExportRule
  targetClusters : List String
  serviceAccountName : String
  conditions : List Condition
  deriving DecidableEq, Repr

def ServiceExport.key (svcExp : ServiceExport) : NamespacedName := ⟨svcExp.ns, svcExp.name⟩

end SvcExp

namespace SvcImp

inductive ServiceImportType where
  | clusterSetIP | headless
  deriving DecidableEq, Repr

structure Target where
  host : String
  ip : String
  port : Int
  path : String
  deriving DecidableEq, Repr

structure Endpoint where
  target : Target
  clusterKey : String
  deriving DecidableEq, Repr

structure ServicePort where
  name : String
  protocol : CoreV1.Protocol
  appProtocol : Option String
  port : Int
  endpoints : List Endpoint
  deriving DecidableEq, Repr

/-- The resource version is the store revision of the last write. -/
structure ServiceImport where
  ns : String
  name : String
  resourceVersion : Nat
  deletionTimestamp : Option Nat
  type : ServiceImportType
  ports : List ServicePort
  serviceAccountName : String
  deriving DecidableEq, Repr

def ServiceImport.key (imp : ServiceImport) : NamespacedName := ⟨imp.ns, imp.name⟩

end SvcImp
end ErieCanal
