import ErieCanal.Construction.Cache.Endpoints
import ErieCanal.Construction.Cache.Service

namespace ErieCanal.Cache
open Lib CoreV1 SvcImp

structure ServiceImportInfo where
  base : BaseServiceInfo
  svcName : NamespacedName
  deriving DecidableEq, Repr

abbrev ServiceImportMap := GoMap ServicePortName ServiceImportInfo

abbrev MultiClusterEndpointsMap := GoMap ServicePortName (List BaseEndpointInfo)

/-- One tracker holds the pending ports and the pending endpoints of the imports. -/
structure ServiceImportChanges where
  items : Changes NamespacedName ServicePortName ServiceImportInfo
  endpointItems : Changes NamespacedName ServicePortName (List BaseEndpointInfo)

/-- An import has the cluster IP of the Service of its name, if there is one. -/
def newImportServiceInfo (externals : Externals) (services : NamespacedName → Option Service)
    (port : SvcImp.ServicePort) (svcImp : ServiceImport) : BaseServiceInfo :=
  { address := match services svcImp.key with
      | some svc => getClusterIPByFamily externals .ipv4 svc
      | none => ""
    port := port.port, portName := port.name, protocol := port.protocol }

def enrichServiceImportInfo (svcImp : ServiceImport) (baseInfo : BaseServiceInfo) :
    ServiceImportInfo :=
  { base := baseInfo, svcName := svcImp.key }

/-- This is the name under which a port of an import is stored. -/
def importPortName (svcImp : ServiceImport) (port : SvcImp.ServicePort) : ServicePortName :=
  ⟨svcImp.key, port.name, port.protocol⟩

def serviceImportToServiceMap (externals : Externals)
    (services : NamespacedName → Option Service) : Option ServiceImport → Option ServiceImportMap
  | none => none
  | some svcImp => some (svcImp.ports.foldl (fun map servicePort =>
      map.insert (importPortName svcImp servicePort)
        (enrichServiceImportInfo svcImp
          (newImportServiceInfo externals services servicePort svcImp))) ∅)

def newMultiClusterEndpointInfo (ep : SvcImp.Endpoint) (target : Target) : BaseEndpointInfo :=
  { endpoint := target.host ++ ":" ++ toString target.port ++ target.path
    nodename := "", hostname := "", cluster := ep.clusterKey }

/-- One import port appends its endpoints to the entry of its service port. -/
def addImportEndpoints (svcImp : ServiceImport) (map : MultiClusterEndpointsMap)
    (port : SvcImp.ServicePort) : MultiClusterEndpointsMap :=
  port.endpoints.foldl (fun map ep =>
    map.insert (importPortName svcImp port) ((map.lookup (importPortName svcImp port)).getD [] ++
      [newMultiClusterEndpointInfo ep ep.target])) map

/-- This is the `endpointsToEndpointsMap` of the import tracker. -/
def importToEndpointsMap : Option ServiceImport → Option MultiClusterEndpointsMap
  | none => none
  | some svcImp => some (svcImp.ports.foldl (addImportEndpoints svcImp) ∅)

/-- This is the `Update` of the import tracker; no import is skipped. -/
def ServiceImportChanges.track (externals : Externals)
    (services : NamespacedName → Option Service) (changes : ServiceImportChanges)
    (previous current : Option ServiceImport) : ServiceImportChanges :=
  match current.or previous with
  | none => changes
  | some svcImp =>
      { items := changes.items.update svcImp.key
          (serviceImportToServiceMap externals services previous)
          (serviceImportToServiceMap externals services current)
        endpointItems := changes.endpointItems.update svcImp.key
          (importToEndpointsMap previous) (importToEndpointsMap current) }

/-- The Endpoints and the ServiceImport informers with their trackers and the three maps, and the
Service lister that the import tracker reads. -/
structure EndpointFeed where
  services : NamespacedName → Option Service
  endpoints : GoMap NamespacedName Endpoints
  serviceImports : GoMap NamespacedName ServiceImport
  endpointsChanges : EndpointChanges
  serviceImportChanges : ServiceImportChanges
  endpointsMap : EndpointsMap
  serviceImportMap : ServiceImportMap
  multiClusterEndpointsMap : MultiClusterEndpointsMap

inductive EndpointFeedEvent where
  | serviceStored (key : NamespacedName) (service : Option Service)
  | endpoints (notice : Notice NamespacedName Endpoints)
  | serviceImport (notice : Notice NamespacedName ServiceImport)
  | applyEndpoints (range : RangeOrder (Change ServicePortName (List BaseEndpointInfo)))
  | applyServiceImports (range : RangeOrder (Change ServicePortName ServiceImportInfo))
  | applyMultiClusterEndpoints (range : RangeOrder (Change ServicePortName (List BaseEndpointInfo)))

namespace EndpointFeed

def new : EndpointFeed := ⟨fun _ => none, ∅, ∅, ∅, ⟨∅, ∅⟩, ∅, ∅, ∅⟩

/-- An apply takes its changes out of the tracker at once. The rest of it touches only the map,
which no event handler reads. -/
def machine (externals : Externals) : Machine EndpointFeed EndpointFeedEvent where
  step feed
    | .serviceStored key service => some { feed with
        services := Function.update feed.services key service }
    | .endpoints notice => some { feed with
        endpoints := notice.deliver Endpoints.key feed.endpoints
        endpointsChanges := feed.endpointsChanges.track externals
          (feed.endpoints.lookup (notice.name Endpoints.key)) notice.current }
    | .serviceImport notice => some { feed with
        serviceImports := notice.deliver ServiceImport.key feed.serviceImports
        serviceImportChanges := feed.serviceImportChanges.track externals feed.services
          (feed.serviceImports.lookup (notice.name ServiceImport.key)) notice.current }
    | .applyEndpoints range => some { feed with
        endpointsMap := feed.endpointsChanges.apply range 0 feed.endpointsMap
        endpointsChanges := ∅ }
    | .applyServiceImports range => some { feed with
        serviceImportMap :=
          feed.serviceImportChanges.items.applyOverlay range 0 feed.serviceImportMap
        serviceImportChanges := { feed.serviceImportChanges with items := ∅ } }
    | .applyMultiClusterEndpoints range => some { feed with
        multiClusterEndpointsMap :=
          feed.serviceImportChanges.endpointItems.apply range 0 feed.multiClusterEndpointsMap
        serviceImportChanges := { feed.serviceImportChanges with endpointItems := ∅ } }

end EndpointFeed
end ErieCanal.Cache
