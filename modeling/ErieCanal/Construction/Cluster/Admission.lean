import ErieCanal.Construction.Config
import ErieCanal.Construction.Kube.ApiServer
import ErieCanal.Construction.Strings
import ErieCanal.Lib.Machine
import ErieCanal.Lib.Range

namespace ErieCanal
open Lib Config Kube

namespace ClusterV1

structure ClusterSpec where
  isInCluster : Bool
  region : String
  zone : String
  group : String
  gatewayHost : String
  gatewayPort : Int
  kubeconfig : String
  deriving DecidableEq, Repr

/-- The connector mode is the value of its label and is empty without the label. -/
structure Cluster where
  name : String
  resourceVersion : Nat
  connectorMode : String
  spec : ClusterSpec
  conditions : List Condition
  deriving DecidableEq, Repr

def Cluster.key (cluster : Cluster) : String :=
  clusterIDTemplate cluster.spec.region cluster.spec.zone cluster.spec.group cluster.name

end ClusterV1

namespace Cluster
open ClusterV1

namespace Webhook

def setDefaults (cluster : Cluster) : Cluster :=
  { cluster with connectorMode := if cluster.spec.isInCluster then "local" else "remote" }

def isValidPortNum (port : Int) : List String :=
  if 1 ≤ port ∧ port ≤ 65535 then [] else ["must be between 1 and 65535, inclusive"]

/-- An in-cluster object is not checked beyond its label. -/
def doValidation (net : Net) (cluster : Cluster) : Except String Unit :=
  let host := cluster.spec.gatewayHost
  let mode := cluster.connectorMode
  if mode = "" then .error "missing required label 'multicluster.flomesh.io/connector-mode'"
  else if mode ≠ "local" ∧ mode ≠ "remote" then
    .error ("invalid value " ++ quoted mode ++
      " for label multicluster.flomesh.io/connector-mode, must be either 'local' or 'remote'")
  else if cluster.spec.isInCluster then
    if mode = "remote" then
      .error ("label and spec doesn't match: multicluster.flomesh.io/connector-mode=remote, " ++
        "spec.IsInCluster=true")
    else .ok ()
  else if mode = "local" then
    .error ("label and spec doesn't match: multicluster.flomesh.io/connector-mode=local, " ++
      "spec.IsInCluster=false")
  else if host = "" then .error "GatewayHost is required in OutCluster mode"
  else if cluster.spec.kubeconfig = "" then .error "kubeconfig must be set in OutCluster mode"
  else match gatewayIPv4 net host
      (fun errors => "invalid DNS name " ++ quoted host ++ ": " ++ listed errors)
      (fun _ => quoted host ++ " cannot be resolved to IP") with
    | .error message => .error message
    | .ok _ =>
        let errs := isValidPortNum cluster.spec.gatewayPort
        if 0 < errs.length then
          .error ("invalid port number " ++ toString cluster.spec.gatewayPort ++ ": " ++ listed errs)
        else .ok ()

/-- There is at most one in-cluster object. -/
def validateCreate (net : Net) (clusterList : List Cluster) (cluster : Cluster) :
    Except String Unit :=
  let numOfInCluster := (clusterList.filter fun c => c.spec.isInCluster).length
  if cluster.spec.isInCluster ∧ 1 ≤ numOfInCluster then
    .error ("there're " ++ toString numOfInCluster ++
      " InCluster resources, should ONLY have exact ONE")
  else doValidation net cluster

def validateUpdate (net : Net) (oldCluster cluster : Cluster) : Except String Unit :=
  if oldCluster.spec.isInCluster ≠ cluster.spec.isInCluster then
    .error "cannot update an immutable field: spec.IsInCluster"
  else doValidation net cluster

end Webhook

/-- The API server of the control plane holds the Cluster objects under their names. -/
structure ClusterStore where
  clusters : GoMap String Cluster
  revision : Nat
  named : ∀ name cluster, clusters.lookup name = some cluster →
    cluster.name = name ∧ Strings.isDNS1123Subdomain name = true

namespace ClusterStore

def empty : ClusterStore := ⟨∅, 0, fun _ _ found => nomatch found⟩

def write (store : ClusterStore) (cluster : Cluster)
    (valid : Strings.isDNS1123Subdomain cluster.name = true) : ClusterStore where
  clusters := store.clusters.insert cluster.name
    { cluster with resourceVersion := store.revision + 1 }
  revision := store.revision + 1
  named := by
    intro name stored found
    by_cases same : name = cluster.name
    · subst same
      rw [AList.lookup_insert, Option.some.injEq] at found
      exact found ▸ ⟨rfl, valid⟩
    · rw [AList.lookup_insert_ne same] at found
      exact store.named name stored found

def delete (store : ClusterStore) (name : String) : ClusterStore where
  clusters := store.clusters.erase name
  revision := store.revision + 1
  named := by
    intro other stored found
    by_cases same : other = name
    · rw [same, AList.lookup_erase] at found
      cases found
    · rw [AList.lookup_erase_ne same] at found
      exact store.named other stored found

/-- A create or an update passes the webhooks, and neither sets the status. -/
def apply (net : Net) (store : ClusterStore) (request : Cluster) : Option ClusterStore :=
  let cluster := Webhook.setDefaults request
  if valid : Strings.isDNS1123Subdomain request.name = true then
    match store.clusters.lookup request.name with
    | none =>
        match Webhook.validateCreate net (GoMap.values store.clusters) cluster with
        | .error _ => none
        | .ok _ => some (store.write { cluster with conditions := [] } valid)
    | some oldCluster =>
        match Webhook.validateUpdate net oldCluster cluster with
        | .error _ => none
        | .ok _ => some (store.write { cluster with conditions := oldCluster.conditions } valid)
  else none

/-- A status update needs the stored resource version and changes the conditions only. -/
def updateStatus (store : ClusterStore) (cluster : Cluster) : Except ApiError Unit × ClusterStore :=
  match found : store.clusters.lookup cluster.name with
  | none => (.error .notFound, store)
  | some stored =>
      if cluster.resourceVersion ≠ stored.resourceVersion then (.error .conflict, store)
      else
        have same := store.named cluster.name stored found
        (.ok (), store.write { stored with conditions := cluster.conditions } (same.1 ▸ same.2))

/-- This is a request that the webhooks have allowed. An update goes with the object that it was
compared with. -/
inductive Admitted where
  | create (cluster : Cluster) (valid : Strings.isDNS1123Subdomain cluster.name = true)
  | update (oldCluster cluster : Cluster)
  | delete (name : String)

/-- A create needs a free name, and an update needs the version that it was compared with; the
server repeats the admission of an update that has lost its version. -/
def persist (store : ClusterStore) : Admitted → ClusterStore
  | .create cluster valid =>
      match store.clusters.lookup cluster.name with
      | some _ => store
      | none => store.write cluster valid
  | .update oldCluster cluster =>
      match found : store.clusters.lookup oldCluster.name with
      | none => store
      | some stored =>
          if oldCluster.resourceVersion ≠ stored.resourceVersion then store
          else
            have same := store.named oldCluster.name stored found
            store.write { cluster with name := stored.name, conditions := stored.conditions }
              (same.1 ▸ same.2)
  | .delete name => store.delete name

end ClusterStore

/-- Requests wait between their admission and their persistence. -/
structure Admission where
  store : ClusterStore
  inFlight : List ClusterStore.Admitted

inductive AdmissionStep where
  | create (request : Cluster)
  | update (request : Cluster)
  | delete (name : String)
  | persist (index : Nat)
  | updateStatus (cluster : Cluster)

namespace Admission

def initial : Admission := ⟨.empty, []⟩

def allow (state : Admission) (admitted : ClusterStore.Admitted) : Admission :=
  { state with inFlight := state.inFlight ++ [admitted] }

/-- The validating webhook lists the stored objects for a create and gets the stored object for an
update; a denied request has no effect. -/
def machine (net : Net) : Machine Admission AdmissionStep where
  step state
    | .create request =>
        if valid : Strings.isDNS1123Subdomain request.name = true then
          match Webhook.validateCreate net (GoMap.values state.store.clusters)
              (Webhook.setDefaults request) with
          | .error _ => some state
          | .ok _ => some (state.allow
              (.create { Webhook.setDefaults request with conditions := [] } valid))
        else some state
    | .update request =>
        match state.store.clusters.lookup request.name with
        | none => some state
        | some oldCluster =>
            match Webhook.validateUpdate net oldCluster (Webhook.setDefaults request) with
            | .error _ => some state
            | .ok _ => some (state.allow (.update oldCluster (Webhook.setDefaults request)))
    | .delete name => some (state.allow (.delete name))
    | .persist index =>
        (state.inFlight[index]?).map fun admitted =>
          ⟨state.store.persist admitted, state.inFlight.eraseIdx index⟩
    | .updateStatus cluster => some { state with store := (state.store.updateStatus cluster).2 }

end Admission
end Cluster
end ErieCanal
