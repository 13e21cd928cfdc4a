import ErieCanal.Construction.Cluster.Joining
import ErieCanal.Construction.Cluster.Reconciler

namespace ErieCanal.Cluster
open Lib Kube Config ClusterV1

/-- This is the mesh config that a call has read. -/
def MeshCall.read : (call : MeshCall) → call.Answer → Option MeshConfig
  | .getConfigMap _, answer => answer.map Versioned.object
  | .setConfigMap .., _ => none
  | .updateConfigMap _, _ => none

/-- `Run` of a remote connector begins with the join of its cluster; without an error from the join
it does not return. `read` is the mesh config that the join has read. -/
structure JoinRun where
  connectorCfg : ConnectorConfig
  address : String
  read : Option MeshConfig
  program : Joining JoinOutcome

namespace JoinRun

def outcome (run : JoinRun) : Option JoinOutcome :=
  match run.program with
  | .done outcome => some outcome
  | .call .. => none

def panicked (run : JoinRun) : Bool :=
  match run.program with
  | .done (.panicked _) => true
  | _ => false

end JoinRun

/-- The reconciler has set the Managed condition to True; this is the connector that it had just
started, with the state of its join at that moment. -/
structure ManagedReport where
  stopCh : Option Nat
  join : Option JoinRun

/-- The reconciler works beside the joins of the connectors that it has started, and the joins on
the mesh configs of the remote clusters. A panic of a join ends the whole program. -/
structure ClusterSet where
  process : ManagerProcess
  remotes : String → ManagedCluster
  connectors : Nat → Option ConnectorContext
  joins : Nat → Option JoinRun
  started : Option Nat
  reports : List ManagedReport
  crashed : Bool

inductive ClusterSetStep where
  | manager (step : ManagerStep)
  | join (stopCh : Nat) (fault : Option String)
  | refresh (address : String) (client : Nat)
  | others (address : String) (config : MeshConfig)

namespace ClusterSet

/-- The address is where the kubeconfig of a connector leads. -/
structure Settings where
  reconciler : ClusterReconciler.Settings
  meshConfig : MeshConfigClient.Settings
  address : ConnectorContext → String

/-- A connector of the cluster itself has nothing to join. -/
def Settings.beginJoin (settings : Settings) (context : ConnectorContext) : Option JoinRun :=
  match newConnectorOf context with
  | .localConnector _ => none
  | .remoteConnector connector => some {
      connectorCfg := connector.context.connectorConfig
      address := settings.address connector.context
      read := none
      program := updateConfigsOfManagedCluster settings.meshConfig connector.context.stopCh
        connector.context.connectorConfig }

def new (remotes : String → ManagedCluster) : ClusterSet :=
  ⟨.initial, remotes, fun _ => none, fun _ => none, none, [], false⟩

/-- The call sets the Managed condition to True. -/
def setsManaged (store : ClusterStore) (cluster : Cluster) (fault : Option String) : Bool :=
  fault.isNone && (store.updateStatus cluster).1.isOk &&
    Conditions.isStatusConditionTrue cluster.conditions ClusterReconciler.clusterManaged

/-- The goroutine of a connector starts its join, and a report is logged. -/
def observe (settings : Settings) (set : ClusterSet) (call : ManagerCall) (fault : Option String) :
    ClusterSet :=
  match call with
  | .newConnector context =>
      if fault.isNone then
        { set with connectors := Function.update set.connectors context.stopCh (some context) }
      else set
  | .goRun _ _ stopCh => { set with
      started := some stopCh
      joins := Function.update set.joins stopCh
        ((set.connectors stopCh).bind settings.beginJoin) }
  | .updateStatus cluster =>
      if setsManaged set.process.manager.store cluster fault then
        { set with reports := set.reports ++ [⟨set.started, set.started.bind set.joins⟩] }
      else set
  | _ => set

def advance (settings : Settings) (set : ClusterSet) (fault : Option String) : Option ClusterSet :=
  match set.process.reconciling with
  | some ⟨_, _, .call call _⟩ => (set.process.advance fault).map fun process =>
      { set.observe settings call fault with process }
  | _ => none

/-- `Run` returns the error of its join; the connector of the cluster itself can fail at any time. -/
def runReturns (set : ClusterSet) (index : Nat) (error : String) : Bool :=
  match set.process.manager.goroutines[index]? with
  | none => false
  | some runner =>
      match set.joins runner.stopCh with
      | none => true
      | some join => join.outcome == some (.failed error)

def join (set : ClusterSet) (stopCh : Nat) (fault : Option String) : Option ClusterSet :=
  match set.joins stopCh with
  | some ⟨connectorCfg, address, read, .call call next⟩ =>
      let served := (set.remotes address).serve call fault
      let later : JoinRun := ⟨connectorCfg, address, read.or (call.read served.1), next served.1⟩
      some { set with
        remotes := Function.update set.remotes address served.2
        joins := Function.update set.joins stopCh (some later)
        crashed := later.panicked }
  | _ => none

def manage (settings : Settings) (set : ClusterSet) (step : ManagerStep) : Option ClusterSet :=
  ((ManagerProcess.machine settings.reconciler).step set.process step).map fun process =>
    { set with process }

/-- Other control planes write the mesh configs of the remote clusters, too. -/
def machine (settings : Settings) : Machine ClusterSet ClusterSetStep where
  step set label :=
    if set.crashed then none
    else match label with
      | .manager (.advance fault) => set.advance settings fault
      | .manager (.runFails index error) =>
          if set.runReturns index error then set.manage settings (.runFails index error) else none
      | .manager step => set.manage settings step
      | .join stopCh fault => set.join stopCh fault
      | .refresh address client => some { set with
          remotes := Function.update set.remotes address ((set.remotes address).refresh client) }
      | .others address config => some { set with
          remotes := Function.update set.remotes address { set.remotes address with
            configMap := (set.remotes address).configMap.write config } }

end ClusterSet
end ErieCanal.Cluster
