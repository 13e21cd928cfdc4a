import ErieCanal.Construction.ServiceLB.Status
import ErieCanal.Lib.Worker

namespace ErieCanal.ServiceLB
open Lib Config

/-- `Reconcile` makes these calls; those of `updateService` are among them. -/
inductive BalancerCall where
  | getService (key : NamespacedName)
  | getConfig
  | deleteDaemonSet (key : NamespacedName)
  | listNodes
  | getDaemonSet (key : NamespacedName)
  | createDaemonSet (ds : DaemonSet)
  | patchDaemonSet (ds : DaemonSet)
  | status (call : StatusCall)

/-- The nodes are selected by their label when the answer is there. -/
@[reducible] def BalancerCall.Answer : BalancerCall → Type
  | .getService _ => Except GetError Service
  | .getConfig => Except String MeshConfig
  | .deleteDaemonSet _ => Except GetError Unit
  | .listNodes => Except String (GoMap String Node)
  | .getDaemonSet _ => Except GetError DaemonSet
  | .createDaemonSet _ => Except String Unit
  | .patchDaemonSet _ => Except String Unit
  | .status call => call.Answer

abbrev BalancerApi := Program BalancerCall BalancerCall.Answer

/-- The site of the load balancers as `newDaemonSet` reads it. -/
def Site.ofNodes (mesh : MeshConfig) (parseTag : String → String) (nodes : GoMap String Node) :
    Site where
  mesh := mesh
  parseTag := parseTag
  nodes := nodes
  services := ∅
  keyed := by
    intro key svc found
    cases found

/-- A Reconcile has its key; the order of a map and the room behind a slice are up to the runtime. -/
structure BalancerRequest where
  key : NamespacedName
  range : RangeOrder String
  room : List String

namespace Balancing

def send (call : BalancerCall) : BalancerApi call.Answer := Program.perform call

/-- A DaemonSet that is already gone is no error. -/
def deleteDaemonSet (svc : Service) : BalancerApi (Except String Unit) := do
  match ← send (.deleteDaemonSet ⟨svc.ns, generateName svc⟩) with
  | .error .notFound => pure (.ok ())
  | .error (.failed message) => pure (.error message)
  | .ok _ => pure (.ok ())

/-- A DaemonSet that was read has a UID and a resource version, so it always gets a patch. -/
def createOrUpdate (ds : DaemonSet) : BalancerApi (Except String Unit) := do
  match ← send (.getDaemonSet ds.key) with
  | .error .notFound => send (.createDaemonSet ds)
  | .error (.failed message) => pure (.error message)
  | .ok _ => send (.patchDaemonSet ds)

def deployDaemonSet (parseTag : String → String) (svc : Service) (mc : MeshConfig) :
    BalancerApi (Except String Unit) :=
  if !mc.serviceLB.enabled || svc.deletionTimestamp ≠ none || svc.type ≠ .loadBalancer ||
      svc.clusterIP = "" || svc.clusterIP = "None" then
    deleteDaemonSet svc
  else do
    match ← send .listNodes with
    | .error message => pure (.error message)
    | .ok nodes =>
        createOrUpdate (ServiceReconciler.newDaemonSet (.ofNodes mc parseTag nodes) svc)

def updateService (parser : AddressParser) (mc : MeshConfig) (req : BalancerRequest)
    (svc : Service) : BalancerApi (Except Failure Unit) :=
  (ServiceReconciler.updateService parser mc req.range req.room svc).lift BalancerCall.status
    fun _ answer => answer

/-- The config is read after the Service; without a valid one the manager panics. -/
def reconcile (parser : AddressParser) (parseTag : String → String) (req : BalancerRequest) :
    BalancerApi (Except Failure Unit) := do
  match ← send (.getService req.key) with
  | .error .notFound => pure (.ok ())
  | .error (.failed message) => pure (.error (.error message))
  | .ok svc =>
      match ← send .getConfig with
      | .error message => pure (.error (.panic message))
      | .ok mc =>
          match ← deployDaemonSet parseTag svc mc with
          | .error message => pure (.error (.error message))
          | .ok _ => updateService parser mc req svc

end Balancing

/-- The API server has every version of each Service. The informer has seen a version of each of
them, and its DaemonSets may lag behind as well. The copy that the reconciler works on has the
resource version `held`. -/
structure BalancerStore where
  mesh : MeshConfig
  nodes : GoMap String Node
  pods : List Pod
  log : NamespacedName → Nat → Option Service
  revision : NamespacedName → Nat
  seen : NamespacedName → Nat
  held : Nat
  uids : List String
  daemonSets : DaemonSets
  cached : DaemonSets

namespace BalancerStore

def new (mesh : MeshConfig) (nodes : GoMap String Node) : BalancerStore where
  mesh := mesh
  nodes := nodes
  pods := []
  log := fun _ _ => none
  revision := fun _ => 0
  seen := fun _ => 0
  held := 0
  uids := []
  daemonSets := fun _ => none
  cached := fun _ => none

def stored (store : BalancerStore) (key : NamespacedName) : Option Service :=
  store.log key (store.revision key)

def write (store : BalancerStore) (key : NamespacedName) (value : Option Service) :
    BalancerStore :=
  { store with
    log := Function.update store.log key
      (Function.update (store.log key) (store.revision key + 1) value)
    revision := Function.update store.revision key (store.revision key + 1) }

/-- A Service that is being deleted goes away with its last finalizer. -/
def settle (store : BalancerStore) (svc : Service) : BalancerStore :=
  store.write svc.key
    (if svc.deletionTimestamp ≠ none ∧ svc.finalizers = [] then none else some svc)

/-- A write of the reconciler needs the latest version, and the API server then completes it from
what is stored. -/
def writeCopy (store : BalancerStore) (svc : Service) (complete : Service → Service) :
    Except String Service × BalancerStore :=
  match store.stored svc.key with
  | none => (.error "not found", store)
  | some current =>
      if store.held ≠ store.revision svc.key then (.error "the object has been modified", store)
      else (.ok (complete current),
        { store.settle (complete current) with held := store.revision svc.key + 1 })

/-- An update cannot change the UID, the deletion and the status. -/
def update (store : BalancerStore) (svc : Service) : Except String Service × BalancerStore :=
  store.writeCopy svc fun current => { svc with
    uid := current.uid
    assigned := current.assigned
    deletionTimestamp := current.deletionTimestamp
    ingress := current.ingress }

def updateStatus (store : BalancerStore) (svc : Service) : Except String Service × BalancerStore :=
  store.writeCopy svc fun current => { current with ingress := svc.ingress }

def handle (store : BalancerStore) : (call : BalancerCall) → call.Answer × BalancerStore
  | .getService key =>
      match store.log key (store.seen key) with
      | none => (.error .notFound, store)
      | some svc => (.ok svc, { store with held := store.seen key })
  | .getConfig => (.ok store.mesh, store)
  | .deleteDaemonSet key =>
      match store.daemonSets key with
      | none => (.error .notFound, store)
      | some _ => (.ok (), { store with daemonSets := Function.update store.daemonSets key none })
  | .listNodes => (.ok store.nodes, store)
  | .getDaemonSet key =>
      match store.cached key with
      | none => (.error .notFound, store)
      | some ds => (.ok ds, store)
  | .createDaemonSet ds =>
      match store.daemonSets ds.key with
      | none => (.ok (), { store with
          daemonSets := Function.update store.daemonSets ds.key (some ds) })
      | some _ => (.error "already exists", store)
  | .patchDaemonSet ds =>
      match store.daemonSets ds.key with
      | none => (.error "not found", store)
      | some found => (.ok (), { store with
          daemonSets := Function.update store.daemonSets ds.key (some (found.patch ds)) })
  | .status (.listPods ns labels) =>
      (.ok (store.pods.filter (StatusStore.selects ns labels)), store)
  | .status (.getNode name) =>
      match store.nodes.lookup name with
      | none => (.error .notFound, store)
      | some node => (.ok node, store)
  | .status (.update svc) => store.update svc
  | .status (.updateStatus svc) => store.updateStatus svc

def failure (message : String) : (call : BalancerCall) → call.Answer
  | .getService _ | .deleteDaemonSet _ | .getDaemonSet _ | .status (.getNode _) =>
      .error (.failed message)
  | .getConfig | .listNodes | .createDaemonSet _ | .patchDaemonSet _ => .error message
  | .status (.listPods _ _) | .status (.update _) | .status (.updateStatus _) => .error message

def serve (store : BalancerStore) (call : BalancerCall) :
    StatusFault → call.Answer × BalancerStore
  | .answered => store.handle call
  | .refused message => (failure message call, store)
  | .answerLost message => (failure message call, (store.handle call).2)

end BalancerStore

/-- What happens beside the reconciler: others work on the Services, the config, the nodes and the
pods, the node reconciler or a user works on the DaemonSets, and the informers catch up. -/
inductive BalancerWrite where
  | create (svc : Service)
  | edit (svc : Service)
  | delete (key : NamespacedName) (time : Nat)
  | configure (mesh : MeshConfig)
  | changeNodes (nodes : GoMap String Node)
  | changePods (pods : List Pod)
  | updateDaemonSet (key : NamespacedName)
  | removeDaemonSet (key : NamespacedName)
  | observe (key : NamespacedName) (version : Nat)
  | observeDaemonSet (key : NamespacedName)

namespace BalancerStore

/-- The API server gives every new Service a new UID. An edit changes neither the UID nor the
deletion, and a DaemonSet that is gone cannot be updated. -/
def apply (store : BalancerStore) : BalancerWrite → Option BalancerStore
  | .create svc =>
      if store.stored svc.key = none ∧ svc.uid ∉ store.uids ∧ svc.deletionTimestamp = none then
        some { store.write svc.key (some svc) with uids := svc.uid :: store.uids }
      else none
  | .edit svc =>
      match store.stored svc.key with
      | none => none
      | some current =>
          if svc.uid = current.uid ∧ svc.deletionTimestamp = current.deletionTimestamp then
            some (store.settle svc)
          else none
  | .delete key time =>
      match store.stored key with
      | none => none
      | some current =>
          if current.deletionTimestamp ≠ none then some store
          else some (store.settle { current with deletionTimestamp := some time })
  | .configure mesh => some { store with mesh }
  | .changeNodes nodes => some { store with nodes }
  | .changePods pods => some { store with pods }
  | .updateDaemonSet key => some { store with
      daemonSets := Function.update store.daemonSets key
        ((store.daemonSets key).map NodeReconciler.updateDaemonSet) }
  | .removeDaemonSet key => some { store with
      daemonSets := Function.update store.daemonSets key none }
  | .observe key version =>
      if store.seen key ≤ version ∧ version ≤ store.revision key then
        some { store with seen := Function.update store.seen key version }
      else none
  | .observeDaemonSet key => some { store with
      cached := Function.update store.cached key (store.daemonSets key) }

end BalancerStore

abbrev Balancer :=
  Worker BalancerStore BalancerRequest BalancerCall BalancerCall.Answer (Except Failure Unit)

/-- The controller has one worker. -/
def Balancer.machine (parser : AddressParser) (parseTag : String → String) :
    Machine Balancer (WorkerStep BalancerWrite BalancerRequest StatusFault) :=
  Worker.machine BalancerStore.apply BalancerStore.serve (Balancing.reconcile parser parseTag)

end ErieCanal.ServiceLB
