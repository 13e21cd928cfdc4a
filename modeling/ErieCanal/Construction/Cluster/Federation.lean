import ErieCanal.Construction.Cluster.RemoteCache
import ErieCanal.Lib.Machine
import ErieCanal.Lib.Pool

namespace ErieCanal.Cluster
open Lib Kube Event Config SvcExp

/-- The control plane has one background for each cluster key; a remote connector also reports
its exports under that key. -/
structure ControlPlane where
  mesh : MeshConfig
  backgrounds : GoMap String Background
  keyed : ∀ key bg, backgrounds.lookup key = some bg → bg.clusterKey = key
  located : ∀ key bg, backgrounds.lookup key = some bg → bg.isInCluster = false →
    bg.connector.context.connectorConfig.key = key

/-- No remote cluster may have the import yet. -/
def isFirstTimeExport (svcExp : ServiceExport) : List Background → Api Bool
  | [] => pure true
  | bg :: rest =>
      if bg.isInCluster then isFirstTimeExport svcExp rest
      else do
        if ← bg.connector.serviceImportExists svcExp then pure false
        else isFirstTimeExport svcExp rest

/-- The export is checked against the service of every other remote cluster. -/
def isValidServiceExport (event : ServiceExportEvent) :
    List Background → Api (Except String Unit)
  | [] => pure (.ok ())
  | bg :: rest =>
      if bg.isInCluster then isValidServiceExport event rest
      else if bg.clusterKey = event.clusterKey then isValidServiceExport event rest
      else do
        match ← bg.connector.validateServiceExport event.serviceExport event.service with
        | .error error => pure (.error error)
        | .ok _ => isValidServiceExport event rest

def acceptServiceExport (event : ServiceExportEvent) : Message :=
  ⟨.serviceExportAccepted, none, some event⟩

def rejectServiceExport (event : ServiceExportEvent) (error : String) : Message :=
  ⟨.serviceExportRejected, none, some { event with error }⟩

/-- The decision ends with the message that it enqueues. -/
def processServiceExportCreatedEvent (range : RangeOrder Background) (backgrounds : List Background)
    (event : ServiceExportEvent) : Api Message := do
  if ← isFirstTimeExport event.serviceExport (range.order 0 backgrounds) then
    pure (acceptServiceExport event)
  else
    match ← isValidServiceExport event (range.order 1 backgrounds) with
    | .ok _ => pure (acceptServiceExport event)
    | .error error => pure (rejectServiceExport event error)

/-- Only the control plane decides, and only on exports that are neither invalid nor in conflict. -/
def ControlPlane.created (plane : ControlPlane) (message : Message) : Option ServiceExportEvent :=
  if plane.mesh.isManaged ∧ plane.mesh.controlPlaneUID ≠ "" ∧
      plane.mesh.uid ≠ plane.mesh.controlPlaneUID then none
  else message.newObj.filter fun event =>
    let conditions := event.serviceExport.conditions
    !Conditions.isStatusConditionFalse conditions serviceExportValid &&
      !Conditions.isStatusConditionTrue conditions serviceExportConflict

/-- The connectors of the managed remote clusters subscribe to the message bus. -/
def ControlPlane.subscribers (plane : ControlPlane) : List RemoteConnector :=
  ((GoMap.values plane.backgrounds).filter fun bg => !bg.isInCluster && bg.isManaged).map
    Background.connector

/-- Only remote connectors watch the exports of their cluster. -/
def ControlPlane.reporter (plane : ControlPlane) (cluster : String) : Option Background :=
  (plane.backgrounds.lookup cluster).filter fun bg => !bg.isInCluster

structure HandlerTag where
  connector : RemoteConnector
  message : Message
  range : RangeOrder SvcImp.Endpoint

/-- A handler is a goroutine that handles one message in one connector. -/
abbrev Handler := Task HandlerTag Request Request.Answer (Except ApiError Unit)

/-- A handler that needs no call is over at once. -/
def HandlerTag.start (tag : HandlerTag) : List Handler :=
  match tag.connector.handle tag.range tag.message with
  | some (.call request next) => [⟨tag, .call request next⟩]
  | some (.done _) => []
  | none => []

/-- A handler ends on success and starts again on an error. -/
def HandlerTag.resume (tag : HandlerTag) (range : RangeOrder SvcImp.Endpoint) :
    Api (Except ApiError Unit) → List Handler
  | .call request next => [⟨tag, .call request next⟩]
  | .done (.ok _) => []
  | .done (.error _) => HandlerTag.start { tag with range }

/-- The control plane, the broker and the connectors work on the API servers of all clusters.
The informers remember the exports that they reported last; `accepted` logs the decisions. -/
structure Federation where
  fleet : Fleet
  informers : String → NamespacedName → Option ServiceExport
  queue : List Message
  deciding : Option (ServiceExportEvent × Api Message)
  handlers : List Handler
  accepted : List ServiceExportEvent

inductive FederationStep where
  | serviceWritten (cluster : String) (key : NamespacedName) (service : Option CoreV1.Service)
  | exportWritten (cluster : String) (key : NamespacedName) (svcExp : Option ServiceExport)
  | exportAdd (cluster : String) (svcExp : ServiceExport) (fault : Option String)
  | exportUpdate (cluster : String) (svcExp : ServiceExport) (fault : Option String)
  | exportDelete (cluster : String) (key : NamespacedName) (fault : Option String)
  | deliver (index : Nat) (order : RangeOrder Background)
      (ranges : RemoteConnector → RangeOrder SvcImp.Endpoint)
  | decide (fault : Option String)
  | advance (index : Nat) (fault : Option String) (range : RangeOrder SvcImp.Endpoint)

namespace Federation

/-- Nothing is exported and nothing is in flight. -/
def initial (fleet : Fleet) : Federation where
  fleet := fleet
  informers := fun _ _ => none
  queue := []
  deciding := none
  handlers := []
  accepted := []

def writeService (federation : Federation) (cluster : String) (key : NamespacedName)
    (service : Option CoreV1.Service) : Federation :=
  let server := federation.fleet cluster
  let written := { server with services := Function.update server.services key service }
  { federation with fleet := Function.update federation.fleet cluster written }

def writeExport (federation : Federation) (cluster : String) (key : NamespacedName)
    (svcExp : Option ServiceExport) : Federation :=
  let server := federation.fleet cluster
  let written := { server with serviceExports := Function.update server.serviceExports key svcExp }
  { federation with fleet := Function.update federation.fleet cluster written }

/-- The informer reports the export and the cache announces it. -/
def report (federation : Federation) (cluster : String) (key : NamespacedName)
    (svcExp : Option ServiceExport) (announcement : Api (List Message)) (fault : Option String) :
    Federation :=
  { federation with
    informers := Function.update federation.informers cluster
      (Function.update (federation.informers cluster) key svcExp)
    queue := federation.queue ++ (announcement.execute (fun _ => fault) federation.fleet).1 }

/-- A decision that needs no further call enqueues its message. -/
def conclude (federation : Federation) (event : ServiceExportEvent) : Api Message → Federation
  | .call request next => { federation with deciding := some (event, .call request next) }
  | .done message => { federation with
      deciding := none
      queue := federation.queue ++ [message]
      accepted := match message.kind with
        | .serviceExportAccepted => federation.accepted ++ [event]
        | _ => federation.accepted }

/-- The broker hands a created export to the reconciler, which takes one at a time, and any other
message to every subscriber. -/
def deliver (plane : ControlPlane) (federation : Federation) (message : Message) (rest : List Message)
    (order : RangeOrder Background) (ranges : RemoteConnector → RangeOrder SvcImp.Endpoint) :
    Option Federation :=
  match message.kind with
  | .serviceExportCreated =>
      match federation.deciding, plane.created message with
      | some _, _ => none
      | none, none => some { federation with queue := rest }
      | none, some event => some (conclude { federation with queue := rest } event
          (processServiceExportCreatedEvent order (GoMap.values plane.backgrounds) event))
  | _ => some { federation with
      queue := rest
      handlers := federation.handlers ++ plane.subscribers.flatMap fun connector =>
        HandlerTag.start ⟨connector, message, ranges connector⟩ }

def decide (federation : Federation) (fault : Option String) : Option Federation :=
  match federation.deciding with
  | some (event, .call request next) =>
      let (answer, fleet) := federation.fleet.serve request fault
      some (conclude { federation with fleet } event (next answer))
  | _ => none

def advance (federation : Federation) (index : Nat) (fault : Option String)
    (range : RangeOrder SvcImp.Endpoint) : Option Federation :=
  match federation.handlers[index]? with
  | some ⟨tag, .call request next⟩ =>
      let (answer, fleet) := federation.fleet.serve request fault
      some { federation with
        fleet
        handlers := federation.handlers.eraseIdx index ++ tag.resume range (next answer) }
  | _ => none

def machine (plane : ControlPlane) : Machine Federation FederationStep where
  step federation
    | .serviceWritten cluster key service => some (federation.writeService cluster key service)
    | .exportWritten cluster key svcExp => some (federation.writeExport cluster key svcExp)
    | .exportAdd cluster svcExp fault =>
        match plane.reporter cluster, federation.informers cluster svcExp.key with
        | some bg, none => some (federation.report cluster svcExp.key (some svcExp)
            (bg.onServiceExportAdd svcExp) fault)
        | _, _ => none
    | .exportUpdate cluster svcExp fault =>
        match plane.reporter cluster, federation.informers cluster svcExp.key with
        | some bg, some oldExport => some (federation.report cluster svcExp.key (some svcExp)
            (bg.onServiceExportUpdate oldExport svcExp) fault)
        | _, _ => none
    | .exportDelete cluster key fault =>
        match plane.reporter cluster, federation.informers cluster key with
        | some bg, some svcExp => some (federation.report cluster key none
            (bg.onServiceExportDelete svcExp) fault)
        | _, _ => none
    | .deliver index order ranges =>
        match federation.queue[index]? with
        | some message =>
            federation.deliver plane message (federation.queue.eraseIdx index) order ranges
        | none => none
    | .decide fault => federation.decide fault
    | .advance index fault range => federation.advance index fault range

end Federation
end ErieCanal.Cluster
