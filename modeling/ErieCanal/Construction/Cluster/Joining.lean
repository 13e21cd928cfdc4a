import ErieCanal.Construction.Config
import ErieCanal.Construction.Kube.ApiServer
import ErieCanal.Lib.Machine
import ErieCanal.Lib.Pool

namespace ErieCanal.Cluster
open Lib Kube Config

/-- A managed cluster keeps its mesh config in one ConfigMap; every connector reads it through a
cache of its own. -/
structure ManagedCluster where
  configMap : Registry fun _ : MeshConfig => ()
  caches : Nat → Option (Versioned MeshConfig)

inductive MeshCall where
  | getConfigMap (client : Nat)
  | setConfigMap (client : Nat) (config : MeshConfig)
  | updateConfigMap (cm : Versioned MeshConfig)

@[reducible] def MeshCall.Answer : MeshCall → Type
  | .getConfigMap _ => Option (Versioned MeshConfig)
  | .setConfigMap .. => Option (Versioned MeshConfig)
  | .updateConfigMap _ => Except ApiError (Versioned MeshConfig)

namespace ManagedCluster

/-- No connector has read the mesh config of a new cluster yet. -/
def ofConfig (config : MeshConfig) : ManagedCluster := ⟨Registry.empty.write config, fun _ => none⟩

def controlPlaneUID (cluster : ManagedCluster) : String :=
  ((cluster.configMap.get ()).map fun cm => cm.object.controlPlaneUID).getD ""

/-- The API server is asked only when the cache does not have the ConfigMap yet. -/
def getConfigMap (cluster : ManagedCluster) (client : Nat) (fault : Option String) :
    Option (Versioned MeshConfig) :=
  match cluster.caches client, fault with
  | some cm, _ => some cm
  | none, some _ => none
  | none, none => cluster.configMap.get ()

/-- The new data go into the object of the cache itself. -/
def setConfigMap (cluster : ManagedCluster) (client : Nat) (config : MeshConfig)
    (fault : Option String) : Option (Versioned MeshConfig) × ManagedCluster :=
  match cluster.getConfigMap client fault with
  | none => (none, cluster)
  | some cm =>
      (some { cm with object := config }, { cluster with
        caches := Function.update cluster.caches client
          ((cluster.caches client).map fun cached => { cached with object := config }) })

/-- The informer brings the stored ConfigMap into the cache of a connector. -/
def refresh (cluster : ManagedCluster) (client : Nat) : ManagedCluster :=
  { cluster with caches := Function.update cluster.caches client (cluster.configMap.get ()) }

def serve (cluster : ManagedCluster) (call : MeshCall) (fault : Option String) :
    call.Answer × ManagedCluster :=
  match call, fault with
  | .getConfigMap client, fault => (cluster.getConfigMap client fault, cluster)
  | .setConfigMap client config, fault => cluster.setConfigMap client config fault
  | .updateConfigMap _, some message => (.error (.other message), cluster)
  | .updateConfigMap cm, none =>
      let (answer, configMap) := cluster.configMap.update () cm.version fun _ => cm.object
      (answer.mapError .ofRefusal, { cluster with configMap })

end ManagedCluster

inductive JoinOutcome where
  | joined
  | failed (error : String)
  | panicked (message : String)
  deriving DecidableEq, Repr

/-- The code of a connector that joins its cluster. -/
abbrev Joining := Program MeshCall MeshCall.Answer

namespace MeshConfigClient

/-- The validation of a config comes from another library and returns an error or nothing. -/
structure Settings where
  erieCanalNamespace : String
  validate : MeshConfig → Option String

def request (call : MeshCall) : Joining call.Answer := Program.perform call

/-- A stored config decodes to the fields that were encoded. -/
def parseMeshConfig (settings : Settings) (cm : Versioned MeshConfig) : Except String MeshConfig :=
  match settings.validate cm.object with
  | some error => .error error
  | none => .ok cm.object

/-- An error of this function is a panic. -/
def getConfig (settings : Settings) (client : Nat) : Joining (Except String MeshConfig) := do
  match ← request (.getConfigMap client) with
  | none => pure (.error "MeshConfig is not found or has invalid value")
  | some cm => pure (parseMeshConfig settings cm)

def updateConfig (settings : Settings) (client : Nat) (config : MeshConfig) :
    Joining (Except String MeshConfig) := do
  match settings.validate config with
  | some error => pure (.error error)
  | none =>
      match ← request (.setConfigMap client config) with
      | none => pure (.error ("config map '" ++ settings.erieCanalNamespace ++
          "/erie-canal-mesh-config' is not found"))
      | some cm =>
          match ← request (.updateConfigMap cm) with
          | .error error => pure (.error ("Update ConfigMap " ++ settings.erieCanalNamespace ++
              "/erie-canal-mesh-config error, " ++ error.message))
          | .ok cm => pure (parseMeshConfig settings cm)

end MeshConfigClient

open MeshConfigClient in
def updateConfigsOfManagedCluster (settings : MeshConfigClient.Settings) (client : Nat)
    (connectorCfg : ConnectorConfig) : Joining JoinOutcome := do
  if connectorCfg.inCluster then pure .joined
  else
    match ← getConfig settings client with
    | .error message => pure (.panicked message)
    | .ok mc =>
        if mc.isManaged ∧ mc.controlPlaneUID ≠ "" then
          if mc.controlPlaneUID ≠ connectorCfg.controlPlaneUID then
            pure (.failed ("cluster " ++ connectorCfg.key ++
              " is already managed, cannot join the MultiCluster"))
          else pure .joined
        else
          match ← updateConfig settings client { mc with
              isManaged := true
              region := connectorCfg.region
              zone := connectorCfg.zone
              group := connectorCfg.group
              name := connectorCfg.name
              controlPlaneUID := connectorCfg.controlPlaneUID } with
          | .error error => pure (.failed error)
          | .ok _ => pure .joined

/-- A connector joins once, with a cache of its own. -/
structure JoinTag where
  client : Nat
  connectorCfg : ConnectorConfig

abbrev Join := Task JoinTag MeshCall MeshCall.Answer JoinOutcome

/-- The connectors of several control planes join one cluster. -/
structure JoinProcess where
  cluster : ManagedCluster
  joins : List Join

inductive JoinStep where
  | begin (connectorCfg : ConnectorConfig)
  | refresh (client : Nat)
  | advance (index : Nat) (fault : Option String)

namespace JoinProcess

def initial (config : MeshConfig) : JoinProcess := ⟨.ofConfig config, []⟩

def advance (process : JoinProcess) (index : Nat) (fault : Option String) : Option JoinProcess :=
  match process.joins[index]? with
  | some ⟨tag, .call call next⟩ =>
      let served := process.cluster.serve call fault
      some ⟨served.2, process.joins.set index ⟨tag, next served.1⟩⟩
  | _ => none

/-- A remote connector is not in the cluster, and its control plane has a UID. -/
def machine (settings : MeshConfigClient.Settings) : Machine JoinProcess JoinStep where
  step process
    | .begin connectorCfg =>
        if connectorCfg.inCluster ∨ connectorCfg.controlPlaneUID = "" then none
        else
          let client := process.joins.length
          some { process with joins := process.joins ++
            [⟨⟨client, connectorCfg⟩, updateConfigsOfManagedCluster settings client connectorCfg⟩] }
    | .refresh client => some { process with cluster := process.cluster.refresh client }
    | .advance index fault => process.advance index fault

end JoinProcess
end ErieCanal.Cluster
