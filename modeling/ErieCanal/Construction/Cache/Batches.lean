import ErieCanal.Construction.Cache.LocalCache
import ErieCanal.Construction.Cache.Publisher
import ErieCanal.Construction.Cache.ServiceImport

namespace ErieCanal.Cache
open Lib CoreV1 Route Repo

/-- The proxy configuration of the ingress routes. -/
structure IngressConfig where
  trustedCAs : List String
  certificates : GoMap String TLSSpec
  routes : GoMap String RouterSpec
  services : GoMap String BalancerSpec

/-- The cache uploads the service registry and the ingress configuration. -/
inductive RouteFile where
  | registry (services : GoMap String (List String))
  | ingress (config : IngressConfig)

/-- A Service of another type has no route. -/
def serviceRouteEntry (endpoints : List BaseEndpointInfo) (svcInfo : ServiceInfo) :
    Option ServiceRouteEntry :=
  let entry (targets : List Target) : ServiceRouteEntry :=
    ⟨svcInfo.svcName.name, svcInfo.svcName.ns, targets, svcInfo.base.portName⟩
  match svcInfo.type with
  | .clusterIP => some (entry (endpoints.map fun ep =>
      ⟨ep.endpoint, [("Node", ep.nodename), ("Host", ep.hostname)]⟩))
  | .externalName => some (entry [⟨svcInfo.base.address, []⟩])
  | .nodePort | .loadBalancer => none

def importRouteEntry (endpoints : List BaseEndpointInfo) (svcImpInfo : ServiceImportInfo) :
    ServiceRouteEntry :=
  ⟨svcImpInfo.svcName.name, svcImpInfo.svcName.ns,
    endpoints.map fun ep => ⟨ep.endpoint, [("Cluster", ep.cluster)]⟩, svcImpInfo.base.portName⟩

/-- The maps from which the service routes are built. -/
structure ServiceTables where
  serviceMap : ServiceMap
  serviceImportMap : ServiceImportMap
  endpointsMap : EndpointsMap
  multiClusterEndpointsMap : MultiClusterEndpointsMap

/-- A name can have the route of its Service and the route of its import. -/
def serviceRouteEntries (tables : ServiceTables) (svcName : ServicePortName) :
    List ServiceRouteEntry :=
  ((tables.serviceMap.lookup svcName).bind
      (serviceRouteEntry ((tables.endpointsMap.lookup svcName).getD []))).toList ++
    ((tables.serviceImportMap.lookup svcName).map
      (importRouteEntry ((tables.multiClusterEndpointsMap.lookup svcName).getD []))).toList

/-- The names of both maps are collected in a set, which is visited in any order. -/
def buildServiceRoutes (hash64 : List ServiceRouteEntry → UInt64)
    (range : RangeOrder ServicePortName) (tables : ServiceTables) : ServiceRoute :=
  let svcNames := (tables.serviceMap.keys ++ tables.serviceImportMap.keys).dedup
  let routes := (range.order 0 svcNames).flatMap (serviceRouteEntries tables)
  { hash := Strings.hex (hash64 routes), routes }

def addresses (route : ServiceRouteEntry) : List String := route.targets.map Target.address

/-- This is the name of a route in the registry. -/
def registryName (route : ServiceRouteEntry) : String :=
  route.ns ++ "/" ++ route.name ++ fmtPortName route.portName

/-- Routes of one name share a registry entry; a route without an address has none. -/
def addToRegistry (registry : GoMap String (List String)) (route : ServiceRouteEntry) :
    GoMap String (List String) :=
  if (addresses route).isEmpty then registry
  else registry.insert (registryName route)
    ((registry.lookup (registryName route)).getD [] ++ addresses route)

/-- A batch without items would be nil. -/
def batchesOf (batch : Batch RouteFile) : Option (List (Batch RouteFile)) :=
  if 0 < batch.items.length then some [batch] else none

def serviceBatches (serviceRoutes : ServiceRoute) : Option (List (Batch RouteFile)) :=
  batchesOf ⟨Routes.services.basepath,
    [Routes.services.item (.registry (serviceRoutes.routes.foldl addToRegistry ∅))]⟩

def routerKey (r : IngressRouteSpec) : String := r.router.host ++ r.router.path

def collectCA (cert : Option CertificateSpec) (trustedCAs : GoMap String Bool) :
    GoMap String Bool :=
  match cert with
  | some cert => if cert.ca ≠ "" then trustedCAs.insert cert.ca true else trustedCAs
  | none => trustedCAs

/-- The tables that the loop over the routes fills. -/
structure IngressTables where
  routes : GoMap String RouterSpec
  services : GoMap String BalancerSpec
  certificates : GoMap String TLSSpec
  trustedCAMap : GoMap String Bool

/-- A second TLS route of a host ends its round before the trusted CAs are collected. -/
def addIngressRoute (tables : IngressTables) (r : IngressRouteSpec) : IngressTables :=
  let tables := { tables with
    routes := tables.routes.insert (routerKey r) r.router
    services := tables.services.insert r.router.service r.balancer }
  if (r.router.host ≠ "" ∧ r.tls.isTLS) ∧ (tables.certificates.lookup r.router.host).isSome then
    tables
  else { tables with
    certificates := if r.router.host ≠ "" ∧ r.tls.isTLS then
        tables.certificates.insert r.router.host r.tls
      else tables.certificates
    trustedCAMap := collectCA r.tls.certificate (collectCA r.tls.trustedCA tables.trustedCAMap) }

def ingressConfigOf (range : RangeOrder String) (ingressData : IngressData) : IngressConfig :=
  let tables := ingressData.routes.foldl addIngressRoute ⟨∅, ∅, ∅, ∅⟩
  { trustedCAs := range.order 0 tables.trustedCAMap.keys
    certificates := tables.certificates
    routes := tables.routes
    services := tables.services }

def ingressBatches (range : RangeOrder String) (ingressData : IngressData) :
    Option (List (Batch RouteFile)) :=
  batchesOf ⟨Routes.ingress.basepath,
    [Routes.ingress.item (.ingress (ingressConfigOf range ingressData))]⟩

end ErieCanal.Cache
