import ErieCanal.Construction.Cluster.RemoteConnector
import ErieCanal.Lib.Informer
import ErieCanal.Lib.Machine

namespace ErieCanal.Cluster
open Lib Kube Event Config SvcExp

/-- A background holds a running connector; its cluster's mesh config decides `isManaged`. -/
structure Background where
  isInCluster : Bool
  isManaged : Bool
  connector : RemoteConnector
  deriving DecidableEq, Repr

namespace Background

def clusterKey (bg : Background) : String := bg.connector.context.clusterKey

/-- A service of an external name cannot be exported. -/
def getService (bg : Background) (svcExp : ServiceExport) : Api (Except String CoreV1.Service) := do
  let key := bg.connector.context.connectorConfig.key
  match ← bg.connector.ask (.getService svcExp.key) with
  | .error error => pure (.error error.message)
  | .ok svc =>
      if svc.type = .externalName then
        pure (.error ("[" ++ key ++ "] ExternalName service " ++ svcExp.ns ++ "/" ++ svcExp.name ++
          " cannot be exported"))
      else pure (.ok svc)

/-- The event carries the export and the service as they are when the informer reports them. -/
def exportEvent (bg : Background) (svcExp : ServiceExport) (svc : CoreV1.Service) :
    ServiceExportEvent :=
  ⟨bg.connector.context.connectorConfig, svcExp, svc, ""⟩

/-- An unmanaged cluster and a failed service read announce nothing. -/
def announce (bg : Background) (svcExp : ServiceExport) (message : ServiceExportEvent → Message) :
    Api (List Message) :=
  if bg.isManaged then do
    match ← bg.getService svcExp with
    | .error _ => pure []
    | .ok svc => pure [message (bg.exportEvent svcExp svc)]
  else pure []

def onUpdate (bg : Background) (svcExp : ServiceExport) : Api (List Message) :=
  bg.announce svcExp fun event => ⟨.serviceExportCreated, none, some event⟩

def onServiceExportAdd (bg : Background) (svcExp : ServiceExport) : Api (List Message) :=
  bg.onUpdate svcExp

def onServiceExportUpdate (bg : Background) (oldExport svcExp : ServiceExport) :
    Api (List Message) :=
  if oldExport.resourceVersion = svcExp.resourceVersion then pure [] else bg.onUpdate svcExp

def onServiceExportDelete (bg : Background) (svcExp : ServiceExport) : Api (List Message) :=
  bg.announce svcExp fun event => ⟨.serviceExportDeleted, some event, none⟩

/-- The informer calls the handler that fits the last version of the export and the new one. -/
def notify (bg : Background) : Option ServiceExport → Option ServiceExport → Api (List Message)
  | none, some svcExp => bg.onServiceExportAdd svcExp
  | some oldExport, some svcExp => bg.onServiceExportUpdate oldExport svcExp
  | some svcExp, none => bg.onServiceExportDelete svcExp
  | none, none => pure []

end Background

/-- The cache of one cluster reads the Services from the API server and the exports from its
informer; it enqueues messages for the control plane. -/
structure ExportFeed where
  server : ApiServer
  delivered : GoMap NamespacedName ServiceExport
  enqueued : List Message

inductive ExportFeedEvent where
  | service (key : NamespacedName) (service : Option CoreV1.Service)
  | svcExport (notice : Notice NamespacedName ServiceExport)

namespace ExportFeed

def new (server : ApiServer) : ExportFeed := ⟨server, ∅, []⟩

/-- Every call of a handler goes to the API server of the cluster and succeeds. -/
def onServiceExport (bg : Background) (notice : Notice NamespacedName ServiceExport)
    (feed : ExportFeed) : ExportFeed :=
  let announcement := bg.notify (feed.delivered.lookup (notice.name ServiceExport.key))
    notice.current
  { feed with
    delivered := notice.deliver ServiceExport.key feed.delivered
    enqueued := feed.enqueued ++ (announcement.execute (fun _ => none) fun _ => feed.server).1 }

def machine (bg : Background) : Machine ExportFeed ExportFeedEvent where
  step feed
    | .service key service => some { feed with
        server.services := Function.update feed.server.services key service }
    | .svcExport notice => some (feed.onServiceExport bg notice)

end ExportFeed

namespace RemoteConnector

/-- Each message of a subscribed topic starts one handler; a message without its event is dropped. -/
def handle (c : RemoteConnector) (range : RangeOrder SvcImp.Endpoint) (message : Message) :
    Option (Api (Except ApiError Unit)) :=
  match message.kind with
  | .serviceExportDeleted => message.oldObj.map c.deleteServiceImport
  | .serviceExportAccepted => message.newObj.map (c.upsertServiceImport range)
  | .serviceExportRejected => message.newObj.map c.rejectServiceExport
  | .serviceExportCreated => none

end RemoteConnector
end ErieCanal.Cluster
