import ErieCanal.Construction.Event
import ErieCanal.Construction.Kube.ApiServer
import ErieCanal.Lib.Range

namespace ErieCanal.Cluster
open Lib Kube Event Config SvcExp SvcImp

structure ConnectorContext where
  clusterKey : String
  specHash : String
  connectorConfig : ConnectorConfig
  stopCh : Nat
  deriving DecidableEq, Repr

structure RemoteConnector where
  context : ConnectorContext
  deriving DecidableEq, Repr

def newEndpoint (event : ServiceExportEvent) (r : ServiceExportRule) (host : String)
    (ip : Option IPv4) (port : Int) : Endpoint where
  clusterKey := event.clusterKey
  target := { host, ip := IPv4.string ip, port, path := r.path }

/-- Every caller passes the gateway of the exporting cluster. -/
def ruleEndpoint (event : ServiceExportEvent) (r : ServiceExportRule) : Endpoint :=
  newEndpoint event r event.geo.GatewayHost event.geo.GatewayIP event.geo.GatewayPort

/-- A new import has one port entry for each pair of a rule and a service port of its number. -/
def newServiceImport (event : ServiceExportEvent) : ServiceImport where
  ns := event.serviceExport.ns
  name := event.serviceExport.name
  resourceVersion := 0
  deletionTimestamp := none
  type := .clusterSetIP
  ports := event.serviceExport.rules.flatMap fun r =>
    (event.service.ports.filter fun p => r.portNumber == p.port).map fun p =>
      { name := p.name, port := p.port, protocol := p.protocol, appProtocol := p.appProtocol,
        endpoints := [ruleEndpoint event r] }
  serviceAccountName := event.serviceExport.serviceAccountName

namespace RemoteConnector

def ask (c : RemoteConnector) (call : ApiCall) : Api (Except ApiError call.Result) :=
  Kube.ask c.context.clusterKey call

/-- The connector creates the import or reads the one that exists. -/
def createOrGetServiceImport (c : RemoteConnector) (event : ServiceExportEvent) :
    Api (Except ApiError ServiceImport) := do
  match ← c.ask (.createServiceImport (newServiceImport event)) with
  | .ok imp => pure (.ok imp)
  | .error .alreadyExists => c.ask (.getServiceImport event.serviceExport.key)
  | .error error => pure (.error error)

def getOrCreateServiceImport (c : RemoteConnector) (event : ServiceExportEvent) :
    Api (Except ApiError ServiceImport) := do
  match ← c.ask (.createNamespace event.serviceExport.ns) with
  | .ok _ => c.createOrGetServiceImport event
  | .error .alreadyExists => c.createOrGetServiceImport event
  | .error error => pure (.error error)

end RemoteConnector

/-- This is the endpoint list of one import port after the loop over the export's rules. -/
def upsertEndpoints (event : ServiceExportEvent) (range : RangeOrder Endpoint) (idx : Nat)
    (p : ServicePort) : List Endpoint :=
  if p.endpoints.length = 0 then
    event.serviceExport.rules.foldl (fun endpoints r =>
      if r.portNumber = p.port then endpoints ++ [ruleEndpoint event r] else endpoints) []
  else
    let epMap : GoMap String Endpoint := event.serviceExport.rules.foldl (fun epMap r =>
      if r.portNumber = p.port then
        (GoMap.insertAll Endpoint.clusterKey p.endpoints epMap).insert event.clusterKey
          (ruleEndpoint event r)
      else epMap) ∅
    range.order idx (GoMap.values epMap)

/-- The upsert rewrites the endpoints of the ports that the import already has. -/
def upsertPorts (event : ServiceExportEvent) (range : RangeOrder Endpoint)
    (imp : ServiceImport) : ServiceImport :=
  { imp with
    ports := imp.ports.mapIdx fun idx p =>
      { p with endpoints := upsertEndpoints event range idx p }
    serviceAccountName := event.serviceExport.serviceAccountName }

/-- The deletion keeps, for each rule, the ports of its number that still have an endpoint. -/
def withdrawPorts (event : ServiceExportEvent) (imp : ServiceImport) : List ServicePort :=
  event.serviceExport.rules.foldl (fun ports r =>
    imp.ports.foldl (fun ports p =>
      if r.portNumber = p.port then
        let endpoints := p.endpoints.filter fun ep => ep.clusterKey ≠ event.clusterKey
        if 0 < endpoints.length then ports ++ [{ p with endpoints }] else ports
      else ports) ports) []

namespace RemoteConnector

/-- Both handlers return the error of their update and drop the stored object. -/
def updateServiceImport (c : RemoteConnector) (imp : ServiceImport) :
    Api (Except ApiError Unit) := do
  match ← c.ask (.updateServiceImport imp) with
  | .error error => pure (.error error)
  | .ok _ => pure (.ok ())

def upsertServiceImport (c : RemoteConnector) (range : RangeOrder Endpoint)
    (event : ServiceExportEvent) : Api (Except ApiError Unit) :=
  if event.clusterKey = c.context.clusterKey then pure (.ok ()) else do
    match ← c.getOrCreateServiceImport event with
    | .error error => pure (.error error)
    | .ok imp => c.updateServiceImport (upsertPorts event range imp)

def deleteServiceImport (c : RemoteConnector) (event : ServiceExportEvent) :
    Api (Except ApiError Unit) :=
  if event.clusterKey = c.context.clusterKey then pure (.ok ()) else do
    match ← c.ask (.getServiceImport event.serviceExport.key) with
    | .error .notFound => pure (.ok ())
    | .error error => pure (.error error)
    | .ok imp =>
        if imp.deletionTimestamp ≠ none then pure (.ok ())
        else if 0 < (withdrawPorts event imp).length then
          c.updateServiceImport { imp with ports := withdrawPorts event imp }
        else c.ask (.deleteServiceImport event.serviceExport.key)

/-- The exporting cluster's own connector records the conflict in the export's status. -/
def rejectServiceExport (c : RemoteConnector) (event : ServiceExportEvent) :
    Api (Except ApiError Unit) :=
  if c.context.clusterKey = event.clusterKey then do
    match ← c.ask (.getServiceExport event.serviceExport.key) with
    | .error error => pure (.error error)
    | .ok exp =>
        let condition : Condition := {
          type := serviceExportConflict
          status := .true
          reason := "Conflict"
          message := "ServiceExport " ++ exp.ns ++ "/" ++ exp.name ++ " conflicts, " ++ event.error }
        let conditions := Conditions.setStatusCondition exp.conditions condition
        match ← c.ask (.updateServiceExportStatus { exp with conditions }) with
        | .error error => pure (.error error)
        | .ok _ => pure (.ok ())
  else pure (.ok ())

/-- A failed read counts as an existing import. -/
def serviceImportExists (c : RemoteConnector) (svcExp : ServiceExport) : Api Bool := do
  match ← c.ask (.getServiceImport svcExp.key) with
  | .error .notFound => pure false
  | .error _ => pure true
  | .ok _ => pure true

def validateServiceExport (c : RemoteConnector) (svcExp : ServiceExport)
    (service : CoreV1.Service) : Api (Except String Unit) := do
  let clusterKey := c.context.clusterKey
  match ← c.ask (.getService svcExp.key) with
  | .error .notFound => pure (.ok ())
  | .error error =>
      pure (.error ("[" ++ clusterKey ++ "] Failed get Service " ++ svcExp.ns ++ "/" ++
        svcExp.name ++ ": " ++ error.message))
  | .ok localSvc =>
      if service.type ≠ localSvc.type then
        pure (.error ("[" ++ clusterKey ++ "] service type doesn't match: " ++
          service.type.string ++ " vs " ++ localSvc.type.string))
      else if service.ports ≠ localSvc.ports then
        pure (.error ("[" ++ clusterKey ++ "] spec.ports conflict, please check service spec"))
      else pure (.ok ())

end RemoteConnector
end ErieCanal.Cluster
