import ErieCanal.Construction.Config
import ErieCanal.Lib.Machine
import ErieCanal.Lib.Range
import Mathlib.Logic.Function.Basic

namespace ErieCanal.ServiceLB
open Lib Config

/-- Labels and node selectors have a value for some names; a nil map has none. -/
abbrev Labels := String → Option String

def finalizerName : String := "servicelb.flomesh.io/daemonset"
def svcNameLabel : String := "servicelb.flomesh.io/svcname"
def svcNamespaceLabel : String := "servicelb.flomesh.io/svcnamespace"
def daemonsetNodeLabel : String := "servicelb.flomesh.io/enablelb"
def daemonsetNodePoolLabel : String := "servicelb.flomesh.io/lbpool"
def nodeSelectorLabel : String := "servicelb.flomesh.io/nodeselector"

namespace Labels

/-- This map literal has the given entries; the names of a literal are different. -/
def of (entries : List (String × String)) : Labels := fun name =>
  (entries.find? fun entry => entry.1 == name).map Prod.snd

/-- An index into a map without the name gives the empty text. -/
def index (labels : Labels) (name : String) : String := (labels name).getD ""

/-- A merge patch overwrites the entries that it has and keeps the others. -/
def patch (stored modified : Labels) : Labels := fun name => (modified name).or (stored name)

end Labels

inductive NodeAddressType where
  | hostname | internalIP | externalIP | internalDNS | externalDNS
  deriving DecidableEq, Repr

structure NodeAddress where
  type : NodeAddressType
  address : String
  deriving DecidableEq, Repr

structure Node where
  name : String
  labels : Labels
  addresses : List NodeAddress := []

inductive IPFamilyPolicy where
  | singleStack | preferDualStack | requireDualStack
  deriving DecidableEq, Repr

structure LoadBalancerIngress where
  ip : String := ""
  hostname : String := ""
  deriving DecidableEq, Repr

/-- The load balancer also reads the labels of a Service and its UID, which the API server has
chosen; its addresses are those of the status. -/
structure Service extends CoreV1.Service where
  labels : Labels
  uid : String
  assigned : 8 ≤ uid.toList.length
  finalizers : List String := []
  ipFamilyPolicy : Option IPFamilyPolicy := none
  ingress : List LoadBalancerIngress := []

inductive PullPolicy where
  | always | ifNotPresent
  deriving DecidableEq, Repr

structure ContainerPort where
  name : String
  containerPort : Int
  hostPort : Int
  protocol : CoreV1.Protocol
  deriving DecidableEq, Repr

structure Container where
  name : String
  image : String
  imagePullPolicy : PullPolicy
  ports : List ContainerPort
  env : List (String × String)
  capabilities : List String
  deriving DecidableEq, Repr

structure Toleration where
  key : String
  operator : String
  effect : String := ""
  deriving DecidableEq, Repr

structure DaemonSet where
  ns : String
  name : String
  labels : Labels
  ownerUID : String
  matchLabels : Labels
  templateLabels : Labels
  containers : List Container
  tolerations : List Toleration
  nodeSelector : Labels

def DaemonSet.key (ds : DaemonSet) : NamespacedName := ⟨ds.ns, ds.name⟩

/-- The nodes, the Services and the mesh config stay as they are; the parser of image names comes
from another library. -/
structure Site where
  mesh : MeshConfig
  parseTag : String → String
  nodes : GoMap String Node
  services : GoMap NamespacedName Service
  keyed : ∀ key svc, services.lookup key = some svc → svc.key = key

def protocolName : CoreV1.Protocol → String
  | .tcp => "TCP"
  | .udp => "UDP"
  | .sctp => "SCTP"

def imagePullPolicyByTag (parseTag : String → String) (image : String) : PullPolicy :=
  let tag := parseTag image
  if tag = "latest" ∨ tag = "dev" ∨ tag = "edge" then .always
  else if tag.endsWith "dev" ∨ tag.endsWith "edge" then .always
  else .ifNotPresent

def generateName (svc : Service) : String :=
  "svclb-" ++ svc.name ++ "-" ++ String.ofList (svc.uid.toList.take 8)

namespace ServiceReconciler

def newContainer (site : Site) (svc : Service) (port : CoreV1.ServicePort) : Container :=
  let portName := "lb-" ++ (protocolName port.protocol).toLower ++ "-" ++ toString port.port
  { name := portName
    image := site.mesh.serviceLbImage
    imagePullPolicy := imagePullPolicyByTag site.parseTag site.mesh.serviceLbImage
    ports := [{
      name := portName
      containerPort := port.port
      hostPort := port.port
      protocol := port.protocol }]
    env := [("SRC_PORT", toString port.port), ("DEST_PROTO", protocolName port.protocol),
      ("DEST_PORT", toString port.port), ("DEST_IPS", " ".intercalate svc.clusterIPs)]
    capabilities := ["NET_ADMIN"] }

/-- The nodes that a load balancer must not run on. -/
def nodesWithLabel (site : Site) : List Node :=
  (GoMap.values site.nodes).filter fun node => node.labels daemonsetNodeLabel = some "false"

/-- The DaemonSet before the nodes are looked at; its controller is the Service. -/
def daemonSetTemplate (site : Site) (svc : Service) : DaemonSet where
  ns := svc.ns
  name := generateName svc
  labels := Labels.of [(nodeSelectorLabel, "false"), (svcNameLabel, svc.name),
    (svcNamespaceLabel, svc.ns)]
  ownerUID := svc.uid
  matchLabels := Labels.of [("app", generateName svc)]
  templateLabels := Labels.of [("app", generateName svc), (svcNameLabel, svc.name),
    (svcNamespaceLabel, svc.ns)]
  containers := svc.ports.map (newContainer site svc)
  tolerations := [
    { key := "node-role.kubernetes.io/master", operator := "Exists", effect := "NoSchedule" },
    { key := "node-role.kubernetes.io/control-plane", operator := "Exists", effect := "NoSchedule" },
    { key := "CriticalAddonsOnly", operator := "Exists" }]
  nodeSelector := Labels.of []

def newDaemonSet (site : Site) (svc : Service) : DaemonSet :=
  let ds := daemonSetTemplate site svc
  if 0 < (nodesWithLabel site).length then
    { ds with
      nodeSelector := Labels.of ((daemonsetNodeLabel, "true") ::
        if svc.labels.index daemonsetNodePoolLabel ≠ "" then
          [(daemonsetNodePoolLabel, svc.labels.index daemonsetNodePoolLabel)]
        else [])
      labels := Function.update ds.labels nodeSelectorLabel (some "true") }
  else ds

end ServiceReconciler

/-- The patch holds the whole modified object; an empty node selector is left out of it. -/
def DaemonSet.patch (stored modified : DaemonSet) : DaemonSet :=
  { modified with
    labels := stored.labels.patch modified.labels
    matchLabels := stored.matchLabels.patch modified.matchLabels
    templateLabels := stored.templateLabels.patch modified.templateLabels
    nodeSelector := stored.nodeSelector.patch modified.nodeSelector }

/-- The DaemonSets of all namespaces. -/
abbrev DaemonSets := NamespacedName → Option DaemonSet

/-- The patch of an object that has not changed does nothing, so that it need not be left out. -/
def createOrUpdate (ds : DaemonSet) (daemonSets : DaemonSets) : DaemonSets :=
  Function.update daemonSets ds.key (match daemonSets ds.key with
    | none => some ds
    | some stored => some (stored.patch ds))

namespace ServiceReconciler

def deleteDaemonSet (svc : Service) (daemonSets : DaemonSets) : DaemonSets :=
  Function.update daemonSets ⟨svc.ns, generateName svc⟩ none

def deployDaemonSet (site : Site) (svc : Service) (daemonSets : DaemonSets) : DaemonSets :=
  if !site.mesh.serviceLB.enabled || svc.deletionTimestamp ≠ none || svc.type ≠ .loadBalancer ||
      svc.clusterIP = "" || svc.clusterIP = "None" then
    deleteDaemonSet svc daemonSets
  else createOrUpdate (newDaemonSet site svc) daemonSets

/-- The update of the Service's addresses touches no DaemonSet. -/
def reconcile (site : Site) (key : NamespacedName) (daemonSets : DaemonSets) : DaemonSets :=
  match site.services.lookup key with
  | none => daemonSets
  | some svc => deployDaemonSet site svc daemonSets

end ServiceReconciler

namespace NodeReconciler

/-- The loop over the DaemonSets sets the selector and the label of each of them. -/
def updateDaemonSet (ds : DaemonSet) : DaemonSet :=
  { ds with
    nodeSelector := Labels.of [(daemonsetNodeLabel, "true")]
    labels := Function.update ds.labels nodeSelectorLabel (some "true") }

def updateDaemonSets (daemonSets : DaemonSets) : DaemonSets := fun key =>
  (daemonSets key).map fun ds =>
    if ds.labels nodeSelectorLabel = some "false" then updateDaemonSet ds else ds

def reconcile (site : Site) (name : String) (daemonSets : DaemonSets) : DaemonSets :=
  match site.nodes.lookup name with
  | none => daemonSets
  | some node =>
      match node.labels daemonsetNodeLabel with
      | none => daemonSets
      | some _ => updateDaemonSets daemonSets

end NodeReconciler

inductive Reconcile where
  | service (key : NamespacedName)
  | node (name : String)

/-- The two reconcilers run in any order. -/
def Site.machine (site : Site) : Machine DaemonSets Reconcile where
  step daemonSets
    | .service key => some (ServiceReconciler.reconcile site key daemonSets)
    | .node name => some (NodeReconciler.reconcile site name daemonSets)

end ErieCanal.ServiceLB
