import ErieCanal.Construction.Cluster.Admission
import ErieCanal.Construction.Cluster.RemoteConnector
import ErieCanal.Lib.Machine

namespace ErieCanal.Cluster
open Lib Kube Config ClusterV1

/-- The kind of a connector follows its config. -/
inductive Connector where
  | localConnector (context : ConnectorContext)
  | remoteConnector (connector : RemoteConnector)
  deriving DecidableEq, Repr

def newConnectorOf (context : ConnectorContext) : Connector :=
  if context.connectorConfig.inCluster then .localConnector context else .remoteConnector ⟨context⟩

structure ConnectorBackground where
  isInCluster : Bool
  context : ConnectorContext
  connector : Connector
  deriving DecidableEq, Repr

/-- A connector runs until `Run` returns an error; its goroutine then closes the stop channel and
deletes its key. -/
inductive Phase where
  | running
  | closing (error : String)
  | deleting (error : String)
  | returned (error : String)
  deriving DecidableEq, Repr

/-- The goroutine of a connector remembers the cluster that it was started for. -/
structure Runner where
  name : String
  key : String
  stopCh : Nat
  phase : Phase
  deriving DecidableEq, Repr

/-- The goroutine sets `success` and `errorMsg` as soon as `Run` has failed. -/
def Runner.errorMsg (runner : Runner) : Option String :=
  match runner.phase with
  | .running => none
  | .closing error | .deleting error | .returned error => some error

/-- The manager counts how often each stop channel is closed; the second time panics. -/
structure Manager where
  store : ClusterStore
  backgrounds : GoMap String ConnectorBackground
  closes : Nat → Nat
  nextCh : Nat
  goroutines : List Runner

inductive ManagerCall where
  | getCluster (name : String)
  | deriveCodebase (path base : String)
  | getKubeConfig (cluster : Cluster)
  | lookup (key : String)
  | close (stopCh : Nat)
  | delete (key : String)
  | registerExitHandlers
  | newConnector (context : ConnectorContext)
  | record (key : String) (bg : ConnectorBackground)
  | goRun (name key : String) (stopCh : Nat)
  | errorMsg (stopCh : Nat)
  | updateStatus (cluster : Cluster)

@[reducible] def ManagerCall.Answer : ManagerCall → Type
  | .getCluster _ => Except ApiError Cluster
  | .deriveCodebase .. => Except String Unit
  | .getKubeConfig _ => Except String Unit
  | .lookup _ => Option ConnectorBackground
  | .close _ => Unit
  | .delete _ => Unit
  | .registerExitHandlers => Nat
  | .newConnector _ => Except String Connector
  | .record .. => Unit
  | .goRun .. => Unit
  | .errorMsg _ => Option String
  | .updateStatus _ => Except ApiError Unit

namespace Manager

def empty : Manager := ⟨.empty, ∅, fun _ => 0, 0, []⟩

def close (manager : Manager) (stopCh : Nat) : Manager :=
  { manager with closes := Function.update manager.closes stopCh (manager.closes stopCh + 1) }

def delete (manager : Manager) (key : String) : Manager :=
  { manager with backgrounds := manager.backgrounds.erase key }

/-- A fault makes a call to another system fail; the maps, channels and goroutines do not fail. -/
def serve (manager : Manager) (call : ManagerCall) (fault : Option String) : call.Answer × Manager :=
  match call, fault with
  | .getCluster _, some error => (.error (.other error), manager)
  | .getCluster name, none => (ApiServer.present (manager.store.clusters.lookup name), manager)
  | .deriveCodebase .., some error => (.error error, manager)
  | .deriveCodebase .., none => (.ok (), manager)
  | .getKubeConfig _, some error => (.error error, manager)
  | .getKubeConfig _, none => (.ok (), manager)
  | .lookup key, _ => (manager.backgrounds.lookup key, manager)
  | .close stopCh, _ => ((), manager.close stopCh)
  | .delete key, _ => ((), manager.delete key)
  | .registerExitHandlers, _ => (manager.nextCh, { manager with nextCh := manager.nextCh + 1 })
  | .newConnector _, some error => (.error error, manager)
  | .newConnector context, none => (.ok (newConnectorOf context), manager)
  | .record key bg, _ => ((), { manager with backgrounds := manager.backgrounds.insert key bg })
  | .goRun name key stopCh, _ =>
      ((), { manager with goroutines := manager.goroutines ++ [⟨name, key, stopCh, .running⟩] })
  | .errorMsg stopCh, _ =>
      ((manager.goroutines.find? fun runner => runner.stopCh == stopCh).bind Runner.errorMsg, manager)
  | .updateStatus _, some error => (.error (.other error), manager)
  | .updateStatus cluster, none =>
      let updated := manager.store.updateStatus cluster
      (updated.1, { manager with store := updated.2 })

end Manager

/-- The code of the reconciler. -/
abbrev Reconciling := Program ManagerCall ManagerCall.Answer

namespace ClusterReconciler

/-- The reconciler depends on name resolution, on the mesh config and on the hash of a spec. -/
structure Settings where
  net : Net
  mesh : MeshConfig
  hash : ClusterSpec → UInt64

def clusterManaged : String := "Managed"

def Settings.simpleHash (settings : Settings) (spec : ClusterSpec) : String :=
  Strings.hex (settings.hash spec)

def request (call : ManagerCall) : Reconciling call.Answer := Program.perform call

def deriveCodebases : Reconciling (Except String Unit) := do
  match ← request (.deriveCodebase "/local/services" "/base/services") with
  | .error error => pure (.error error)
  | .ok _ => request (.deriveCodebase "/local/ingress" "/base/ingress")

/-- An in-cluster connector takes its locality from the mesh config. -/
def connectorConfig (settings : Settings) (cluster : Cluster) : Except String ConnectorConfig :=
  let spec := cluster.spec
  let mesh := settings.mesh
  if spec.isInCluster then
    newConnectorConfig settings.net mesh.region mesh.zone mesh.group mesh.name spec.gatewayHost
      spec.gatewayPort spec.isInCluster ""
  else
    newConnectorConfig settings.net spec.region spec.zone spec.group cluster.name spec.gatewayHost
      spec.gatewayPort spec.isInCluster mesh.uid

def joinClusterSet (cluster : Cluster) (condition : Condition) : Reconciling (Except String Unit) := do
  let conditions := Conditions.setStatusCondition cluster.conditions condition
  match ← request (.updateStatus { cluster with conditions }) with
  | .error error => pure (.error error.message)
  | .ok _ => pure (.ok ())

def successJoinClusterSet (cluster : Cluster) : Reconciling (Except String Unit) :=
  joinClusterSet cluster {
    type := clusterManaged
    status := .true
    reason := "Success"
    message := "Cluster " ++ cluster.key ++ " joined ClusterSet successfully." }

def failedJoinClusterSet (cluster : Cluster) (error : String) : Reconciling (Except String Unit) :=
  joinClusterSet cluster {
    type := clusterManaged
    status := .false
    reason := "Failed"
    message := "Cluster " ++ cluster.key ++ " failed to join ClusterSet: " ++ error ++ "." }

def newConnector (settings : Settings) (cluster : Cluster) : Reconciling (Except String Unit) := do
  let key := cluster.key
  match ← request (.getKubeConfig cluster) with
  | .error error => pure (.error error)
  | .ok _ =>
      match connectorConfig settings cluster with
      | .error error => pure (.error error)
      | .ok connCfg => do
          let stop ← request .registerExitHandlers
          let background : ConnectorContext :=
            ⟨key, settings.simpleHash cluster.spec, connCfg, stop⟩
          match ← request (.newConnector background) with
          | .error error => pure (.error error)
          | .ok connector => do
              request (.record key ⟨cluster.spec.isInCluster, background, connector⟩)
              request (.goRun cluster.name key stop)
              if cluster.spec.isInCluster then pure (.ok ())
              else
                match ← request (.errorMsg stop) with
                | none => successJoinClusterSet cluster
                | some error => failedJoinClusterSet cluster error

def createConnector (settings : Settings) (cluster : Cluster) : Reconciling (Except String Unit) :=
  newConnector settings cluster

def recreateConnector (settings : Settings) (bg : ConnectorBackground) (cluster : Cluster) :
    Reconciling (Except String Unit) := do
  request (.close bg.context.stopCh)
  request (.delete cluster.key)
  newConnector settings cluster

def destroyConnector (cluster : Cluster) : Reconciling Unit := do
  match ← request (.lookup cluster.key) with
  | none => pure ()
  | some bg => do
      request (.close bg.context.stopCh)
      request (.delete cluster.key)

/-- The object that `Get` leaves behind when it finds nothing. -/
def noCluster : Cluster := ⟨"", 0, "", ⟨false, "", "", "", "", 0, ""⟩, []⟩

/-- One worker reconciles one request at a time, so that the mutex is free. -/
def reconcile (settings : Settings) (name : String) : Reconciling (Except String Unit) := do
  match ← request (.getCluster name) with
  | .error .notFound => do
      destroyConnector noCluster
      pure (.ok ())
  | .error error => pure (.error error.message)
  | .ok cluster =>
      match ← deriveCodebases with
      | .error error => pure (.error error)
      | .ok _ => do
          match ← request (.lookup cluster.key) with
          | some bg =>
              if bg.context.specHash ≠ settings.simpleHash cluster.spec then
                recreateConnector settings bg cluster
              else pure (.ok ())
          | none => createConnector settings cluster

end ClusterReconciler

inductive ClusterOp where
  | apply (cluster : Cluster)
  | delete (name : String)

/-- A reconcile in which no call fails, if it succeeds. -/
def Manager.reconciled (settings : ClusterReconciler.Settings) (manager : Manager) (name : String) :
    Option Manager :=
  match (ClusterReconciler.reconcile settings name).execute Manager.serve (fun _ => none) manager with
  | (.ok _, next) => some next
  | (.error _, _) => none

/-- Each operation on a Cluster object is followed by a successful reconcile of its name. -/
def Manager.lifecycle (settings : ClusterReconciler.Settings) : Machine Manager ClusterOp where
  step manager
    | .apply cluster => (manager.store.apply settings.net cluster).bind fun store =>
        Manager.reconciled settings { manager with store } cluster.name
    | .delete name =>
        Manager.reconciled settings { manager with store := manager.store.delete name } name

/-- A reconcile in progress; `began` is the first stop channel that was free when it began. -/
structure ActiveReconcile where
  name : String
  began : Nat
  program : Reconciling (Except String Unit)

/-- The worker makes the calls of one reconcile while the goroutines of the connectors run. -/
structure ManagerProcess where
  manager : Manager
  reconciling : Option ActiveReconcile

inductive ManagerStep where
  | apply (cluster : Cluster)
  | delete (name : String)
  | reconcile (name : String)
  | advance (fault : Option String)
  | runFails (index : Nat) (error : String)
  | cleanup (index : Nat)

namespace ManagerProcess

def initial : ManagerProcess := ⟨.empty, none⟩

/-- A reconcile that needs no further call is over. -/
def resume (manager : Manager) (name : String) (began : Nat) :
    Reconciling (Except String Unit) → ManagerProcess
  | .call call next => ⟨manager, some ⟨name, began, .call call next⟩⟩
  | .done _ => ⟨manager, none⟩

def advance (process : ManagerProcess) (fault : Option String) : Option ManagerProcess :=
  match process.reconciling with
  | some ⟨name, began, .call call next⟩ =>
      let (answer, manager) := process.manager.serve call fault
      some (resume manager name began (next answer))
  | _ => none

def setPhase (manager : Manager) (index : Nat) (runner : Runner) (phase : Phase) : Manager :=
  { manager with goroutines := manager.goroutines.set index { runner with phase } }

def runFails (manager : Manager) (index : Nat) (error : String) : Option Manager :=
  match manager.goroutines[index]? with
  | some runner =>
      match runner.phase with
      | .running => some (setPhase manager index runner (.closing error))
      | _ => none
  | none => none

/-- The goroutine closes its own stop channel and deletes whatever its key holds. -/
def cleanup (manager : Manager) (index : Nat) : Option Manager :=
  match manager.goroutines[index]? with
  | some runner =>
      match runner.phase with
      | .closing error =>
          some (setPhase (manager.close runner.stopCh) index runner (.deleting error))
      | .deleting error =>
          some (setPhase (manager.delete runner.key) index runner (.returned error))
      | _ => none
  | none => none

def machine (settings : ClusterReconciler.Settings) : Machine ManagerProcess ManagerStep where
  step process
    | .apply cluster => (process.manager.store.apply settings.net cluster).map fun store =>
        { process with manager := { process.manager with store } }
    | .delete name =>
        let store := process.manager.store.delete name
        some { process with manager := { process.manager with store } }
    | .reconcile name =>
        match process.reconciling with
        | some _ => none
        | none => some (resume process.manager name process.manager.nextCh
            (ClusterReconciler.reconcile settings name))
    | .advance fault => process.advance fault
    | .runFails index error =>
        (runFails process.manager index error).map fun manager => { process with manager }
    | .cleanup index => (cleanup process.manager index).map fun manager => { process with manager }

end ManagerProcess
end ErieCanal.Cluster
