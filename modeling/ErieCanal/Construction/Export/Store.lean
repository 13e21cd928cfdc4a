import ErieCanal.Construction.Kube.ApiServer
import ErieCanal.Construction.Networking

namespace ErieCanal.Export
open Lib Kube CoreV1 NetworkingV1

structure PathRewrite where
  rewriteFrom : String
  rewriteTo : String
  deriving DecidableEq, Repr

/-- The API server admits no rule without a path type. -/
structure ServiceExportRule where
  portNumber : Int
  path : String
  pathType : PathType
  deriving DecidableEq, Repr

/-- The API server admits these names and no others. -/
inductive LoadBalancer where
  | roundRobinLoadBalancer | hashingLoadBalancer | leastWorkLoadBalancer
  deriving DecidableEq, Repr

def LoadBalancer.string : LoadBalancer → String
  | .roundRobinLoadBalancer => "RoundRobinLoadBalancer"
  | .hashingLoadBalancer => "HashingLoadBalancer"
  | .leastWorkLoadBalancer => "LeastWorkLoadBalancer"

structure ServiceExportSpec where
  pathRewrite : Option PathRewrite
  sessionSticky : Bool
  loadBalancer : Option LoadBalancer
  rules : List ServiceExportRule
  targetClusters : List String
  serviceAccountName : String
  deriving DecidableEq, Repr

/-- The controller of exports reads the whole object; the connectors of the control plane read the
part of it that `SvcExp` models. -/
structure ServiceExport where
  ns : String
  name : String
  uid : Nat
  annotations : Option (GoMap String String)
  spec : ServiceExportSpec
  conditions : List Condition
  deriving DecidableEq

def ServiceExport.key (exp : ServiceExport) : NamespacedName := ⟨exp.ns, exp.name⟩

def multiClustersServiceExportHash : String := "multicluster.flomesh.io/export-hash"

/-- An index into a map without the annotation finds the empty text. -/
def ServiceExport.exportHash (exp : ServiceExport) : String :=
  (annotationOf exp.annotations multiClustersServiceExportHash).getD ""

/-- A nil map is made before the annotation is written. -/
def ServiceExport.withExportHash (exp : ServiceExport) (hash : String) : ServiceExport :=
  { exp with
    annotations := some ((exp.annotations.getD ∅).insert multiClustersServiceExportHash hash) }

/-- An update does not touch the status subresource, nor the UID. -/
def ServiceExport.replaceBy (stored exp : ServiceExport) : ServiceExport :=
  { exp with uid := stored.uid, conditions := stored.conditions }

/-- A status update touches the status subresource only. -/
def ServiceExport.replaceStatusBy (stored exp : ServiceExport) : ServiceExport :=
  { stored with conditions := exp.conditions }

def ServiceExport.isValid (exp : ServiceExport) : Bool :=
  Conditions.isStatusConditionTrue exp.conditions SvcExp.serviceExportValid

/-- The Ingress of an export lives beside it. -/
def ingressKey (key : NamespacedName) : NamespacedName := ⟨key.ns, "svcexp-ing-" ++ key.name⟩

/-- The API server's objects that the controller of exports reads and writes. -/
structure ExportStore where
  services : GoMap NamespacedName Service
  exports : Registry ServiceExport.key
  ingresses : Registry Ingress.key
  nextUID : Nat

inductive ExportCall where
  | getExport (key : NamespacedName)
  | getService (key : NamespacedName)
  | listIngresses
  | getIngress (key : NamespacedName)
  | createIngress (ing : Ingress)
  | updateExport (exp : Versioned ServiceExport)
  | updateIngress (ing : Versioned Ingress)
  | updateStatus (exp : Versioned ServiceExport)

@[reducible] def ExportCall.Result : ExportCall → Type
  | .getExport _ => Versioned ServiceExport
  | .getService _ => Service
  | .listIngresses => List (Versioned Ingress)
  | .getIngress _ => Versioned Ingress
  | .createIngress _ => Versioned Ingress
  | .updateExport _ => Versioned ServiceExport
  | .updateIngress _ => Versioned Ingress
  | .updateStatus _ => Versioned ServiceExport

@[reducible] def ExportCall.Answer (call : ExportCall) : Type := Except ApiError call.Result

namespace ExportStore

def empty : ExportStore := ⟨∅, .empty, .empty, 0⟩

def updateExport (store : ExportStore) (exp : Versioned ServiceExport) :
    Except Refusal (Versioned ServiceExport) × Registry ServiceExport.key :=
  store.exports.update exp.object.key exp.version fun stored => stored.replaceBy exp.object

def updateStatus (store : ExportStore) (exp : Versioned ServiceExport) :
    Except Refusal (Versioned ServiceExport) × Registry ServiceExport.key :=
  store.exports.update exp.object.key exp.version fun stored => stored.replaceStatusBy exp.object

def updateIngress (store : ExportStore) (ing : Versioned Ingress) :
    Except Refusal (Versioned Ingress) × Registry Ingress.key :=
  store.ingresses.update ing.object.key ing.version fun _ => ing.object

/-- A fault answers the call with some other error and leaves the store unchanged. -/
def serve (store : ExportStore) (call : ExportCall) (fault : Option String) :
    call.Answer × ExportStore :=
  match fault, call with
  | some message, _ => (.error (.other message), store)
  | none, .getExport key => (ApiServer.present (store.exports.get key), store)
  | none, .getService key => (ApiServer.present (store.services.lookup key), store)
  | none, .listIngresses => (.ok store.ingresses.list, store)
  | none, .getIngress key => (ApiServer.present (store.ingresses.get key), store)
  | none, .createIngress ing =>
      let (answer, ingresses) := store.ingresses.create ing
      (answer.mapError .ofRefusal, { store with ingresses })
  | none, .updateExport exp =>
      let (answer, exports) := store.updateExport exp
      (answer.mapError .ofRefusal, { store with exports })
  | none, .updateIngress ing =>
      let (answer, ingresses) := store.updateIngress ing
      (answer.mapError .ofRefusal, { store with ingresses })
  | none, .updateStatus exp =>
      let (answer, exports) := store.updateStatus exp
      (answer.mapError .ofRefusal, { store with exports })

end ExportStore

/-- The users of the cluster write these objects. -/
inductive UserWrite where
  | createExport (key : NamespacedName) (annotations : Option (GoMap String String))
      (spec : ServiceExportSpec)
  | changeSpec (key : NamespacedName) (spec : ServiceExportSpec)
  | writeService (svc : Service)
  | deleteService (key : NamespacedName)
  | writeIngress (ing : Ingress)

/-- The spec that a write gives to an export. -/
def UserWrite.spec : UserWrite → Option ServiceExportSpec
  | .createExport _ _ spec => some spec
  | .changeSpec _ spec => some spec
  | _ => none

/-- The names of the form `svcexp-ing-<name>` belong to the controller. -/
def isExportIngressName (name : String) : Bool := "svcexp-ing-".toList.isPrefixOf name.toList

/-- The users leave the hash annotation and the Ingresses of the exports to the controller. -/
def ExportStore.apply (store : ExportStore) : UserWrite → Option ExportStore
  | .createExport key annotations spec =>
      if (annotationOf annotations multiClustersServiceExportHash).isSome then none
      else match store.exports.create ⟨key.ns, key.name, store.nextUID, annotations, spec, []⟩ with
        | (.ok _, exports) => some { store with exports, nextUID := store.nextUID + 1 }
        | (.error _, _) => none
  | .changeSpec key spec =>
      (store.exports.get key).map fun stored =>
        { store with exports := store.exports.write { stored.object with spec } }
  | .writeService svc => some { store with services := store.services.insert svc.key svc }
  | .deleteService key => some { store with services := store.services.erase key }
  | .writeIngress ing =>
      if isExportIngressName ing.name then none
      else some { store with ingresses := store.ingresses.write ing }

end ErieCanal.Export
