import ErieCanal.Construction.Config

namespace ErieCanal.Event
open Config

inductive EventType where
  | serviceExportCreated
  | serviceExportDeleted
  | serviceExportAccepted
  | serviceExportRejected
  deriving DecidableEq, Repr

structure ServiceExportEvent where
  geo : ConnectorConfig
  serviceExport : SvcExp.ServiceExport
  service : CoreV1.Service
  error : String
  deriving DecidableEq, Repr

def ServiceExportEvent.clusterKey (event : ServiceExportEvent) : String := event.geo.key

/-- The broker carries the event of a deletion in `oldObj` and every other event in `newObj`. -/
structure Message where
  kind : EventType
  oldObj : Option ServiceExportEvent
  newObj : Option ServiceExportEvent
  deriving DecidableEq, Repr

end ErieCanal.Event
