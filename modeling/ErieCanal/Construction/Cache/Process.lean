import ErieCanal.Construction.Cache.Batches
import ErieCanal.Construction.Cache.IngressFeed

namespace ErieCanal.Cache
open Lib CoreV1 NetworkingV1 SvcImp Route Repo IngressPipy

/-- The five informers whose Synced callbacks the cache waits for. -/
inductive Informer where
  | services | endpoints | ingresses | ingressClasses | serviceImports
  deriving DecidableEq, Repr

def Informer.all : List Informer :=
  [.services, .endpoints, .ingresses, .ingressClasses, .serviceImports]

/-- The maps and sets of a full sync are visited in any order. -/
structure FullSyncOrder extends SyncOrder where
  serviceChanges : RangeOrder (Change ServicePortName ServiceInfo)
  serviceImportChanges : RangeOrder (Change ServicePortName ServiceImportInfo)
  multiClusterChanges : RangeOrder (Change ServicePortName (List BaseEndpointInfo))
  svcNames : RangeOrder ServicePortName
  trustedCAs : RangeOrder String

/-- This order visits everything as it is stored. -/
def FullSyncOrder.stored : FullSyncOrder :=
  { SyncOrder.stored with
    serviceChanges := .stored
    serviceImportChanges := .stored
    multiClusterChanges := .stored
    svcNames := .stored
    trustedCAs := .stored }

/-- A push remembers whether all synced flags were set when it was started. -/
structure Push where
  batches : List (Batch RouteFile)
  complete : Bool

/-- The whole local cache: the trackers and maps of all objects, the synced flags, the recorded
versions and the publishers that have not returned yet. -/
structure CacheProcess where
  cache : LocalCache
  serviceChanges : ServiceChanges
  serviceMap : ServiceMap
  serviceImportChanges : ServiceImportChanges
  serviceImportMap : ServiceImportMap
  multiClusterEndpointsMap : MultiClusterEndpointsMap
  synced : Informer → Bool
  initialized : Bool
  /-- These Synced callbacks have set their flag and have not called the sync yet. -/
  callbacks : Nat
  syncRequested : Bool
  version : Routes → String
  publishers : List (Routes × String)
  pushes : List Push

inductive ProcessEvent where
  | stored (listers : Listers)
  | service (oldService service : Option Service)
  | endpoints (oldEndpoints endpoints : Option Endpoints)
  | ingress (oldIngress ingress : Option Ingress)
  | serviceImport (oldServiceImport serviceImport : Option ServiceImport)
  | ingressClassAdd (ingClass : IngressClass)
  | ingressClassUpdate (oldClass ingClass : IngressClass)
  | ingressClassDelete (ingClass : IngressClass)
  | synced (informer : Informer)
  | callSync (order : FullSyncOrder)
  | runSync (order : FullSyncOrder)
  | periodicSync (order : FullSyncOrder)
  | published (index : Nat) (succeeded : Bool)

namespace CacheProcess
variable (externals : Externals) (serviceHash64 : List ServiceRouteEntry → UInt64)
  (ingressHash64 : List IngressRouteSpec → UInt64)

def new : CacheProcess where
  cache := newLocalCache
  serviceChanges := ∅
  serviceMap := ∅
  serviceImportChanges := ⟨∅, ∅⟩
  serviceImportMap := ∅
  multiClusterEndpointsMap := ∅
  synced _ := false
  initialized := false
  callbacks := 0
  syncRequested := false
  version _ := ""
  publishers := []
  pushes := []

def allSynced (process : CacheProcess) : Bool := Informer.all.all process.synced

/-- A handler asks the runner for a sync when its tracker has changes and the cache is
initialized. -/
def requestSync (changed : Bool) (process : CacheProcess) : CacheProcess :=
  { process with syncRequested := process.syncRequested || changed && process.initialized }

def onServiceUpdate (oldService service : Option Service) (process : CacheProcess) :
    CacheProcess :=
  let changes := process.serviceChanges.track externals oldService service
  let recorded := (service.or oldService).any fun svc => !shouldSkipService svc
  { process with serviceChanges := changes }.requestSync
    (recorded && !changes.entries.isEmpty)

def onEndpointsUpdate (oldEndpoints endpoints : Option Endpoints) (process : CacheProcess) :
    CacheProcess :=
  let cache := process.cache.onEndpointsUpdate externals oldEndpoints endpoints
  { process with cache }.requestSync
    ((endpoints.or oldEndpoints).isSome && !cache.endpointsChanges.entries.isEmpty)

def onIngressUpdate (oldIngress ingress : Option Ingress) (process : CacheProcess) :
    CacheProcess :=
  let cache := process.cache.onIngressUpdate externals oldIngress ingress
  let recorded := (ingress.or oldIngress).any
    (isValidPipyIngress process.cache.defaultIngressClass)
  { process with cache }.requestSync (recorded && !cache.ingressChanges.entries.isEmpty)

def onServiceImportUpdate (oldServiceImport serviceImport : Option ServiceImport)
    (process : CacheProcess) : CacheProcess :=
  let changes := process.serviceImportChanges.track externals process.cache.listers.services
    oldServiceImport serviceImport
  { process with serviceImportChanges := changes }.requestSync
    ((serviceImport.or oldServiceImport).isSome &&
      (!changes.items.entries.isEmpty || !changes.endpointItems.entries.isEmpty))

/-- The sync starts with the pending changes of all trackers. -/
def updateMaps (order : FullSyncOrder) (process : CacheProcess) : CacheProcess :=
  { process with
    serviceMap := process.serviceChanges.applyOverlay order.serviceChanges 0 process.serviceMap
    serviceChanges := ∅
    serviceImportMap := process.serviceImportChanges.items.applyOverlay order.serviceImportChanges 0
      process.serviceImportMap
    multiClusterEndpointsMap := process.serviceImportChanges.endpointItems.apply
      order.multiClusterChanges 0 process.multiClusterEndpointsMap
    serviceImportChanges := ⟨∅, ∅⟩
    cache := (process.cache.updateEndpointsMap order.toSyncOrder).updateIngressMap
      order.toSyncOrder 0 }

def serviceTables (process : CacheProcess) : ServiceTables :=
  ⟨process.serviceMap, process.serviceImportMap, process.cache.endpointsMap,
    process.multiClusterEndpointsMap⟩

/-- The push runs in a goroutine of its own. -/
def push (routes : Routes) (hash : String) (batches : Option (List (Batch RouteFile)))
    (process : CacheProcess) : CacheProcess :=
  match batches with
  | none => process
  | some batches => { process with
      pushes := process.pushes ++ [⟨batches, process.allSynced⟩]
      publishers := process.publishers ++ [(routes, hash)] }

/-- Changed service routes are pushed, and they make the sync refresh the ingress map. -/
def syncServiceRoutes (order : FullSyncOrder) (process : CacheProcess) : CacheProcess :=
  let serviceRoutes := buildServiceRoutes serviceHash64 order.svcNames process.serviceTables
  if process.version .services ≠ serviceRoutes.hash then
    let pushed := process.push .services serviceRoutes.hash (serviceBatches serviceRoutes)
    { pushed with cache := pushed.cache.refreshIngress externals order.toSyncOrder }
  else process

/-- A route without an upstream makes the sync crash. -/
def syncIngressRoutes (order : FullSyncOrder) (process : CacheProcess) : CacheProcess :=
  match process.cache.buildIngressConfig externals ingressHash64 order.routes with
  | none => { process with cache.crashed := true }
  | some ingressRoutes =>
      if process.version .ingress ≠ ingressRoutes.hash then
        process.push .ingress ingressRoutes.hash (ingressBatches order.trustedCAs ingressRoutes)
      else process

def syncRoutes (order : FullSyncOrder) (process : CacheProcess) : CacheProcess :=
  ((process.updateMaps order).syncServiceRoutes externals serviceHash64 order).syncIngressRoutes
    externals ingressHash64 order

/-- A Synced callback sets its flag under the mutex and decides from the other four flags whether
the cache is initialized. Then it calls the sync in any case. -/
def onSynced (informer : Informer) (process : CacheProcess) : CacheProcess :=
  { process with
    synced := Function.update process.synced informer true
    initialized := Informer.all.all fun other => other == informer || process.synced other
    callbacks := process.callbacks + 1 }

/-- A publisher that succeeds records the version that it has pushed. -/
def published (index : Nat) (succeeded : Bool) (process : CacheProcess) : Option CacheProcess :=
  process.publishers[index]?.map fun (routes, hash) => { process with
    version := if succeeded then Function.update process.version routes hash else process.version
    publishers := process.publishers.eraseIdx index }

def handle (process : CacheProcess) : ProcessEvent → Option CacheProcess
  | .stored listers => some { process with cache.listers := listers }
  | .service oldService service => some (process.onServiceUpdate externals oldService service)
  | .endpoints oldEndpoints endpoints =>
      some (process.onEndpointsUpdate externals oldEndpoints endpoints)
  | .ingress oldIngress ingress => some (process.onIngressUpdate externals oldIngress ingress)
  | .serviceImport oldServiceImport serviceImport =>
      some (process.onServiceImportUpdate externals oldServiceImport serviceImport)
  | .ingressClassAdd ingClass => some { process with
      cache := process.cache.updateDefaultIngressClass ingClass ingClass.name }
  | .ingressClassUpdate oldClass ingClass =>
      if oldClass.resourceVersion = ingClass.resourceVersion then some process
      else some { process with
        cache := process.cache.updateDefaultIngressClass ingClass ingClass.name }
  | .ingressClassDelete ingClass => some { process with
      cache := process.cache.updateDefaultIngressClass ingClass noDefaultIngressClass }
  | .synced informer => some (process.onSynced informer)
  | .callSync order =>
      if 0 < process.callbacks then
        some ({ process with callbacks := process.callbacks - 1 }.syncRoutes externals
          serviceHash64 ingressHash64 order)
      else none
  | .runSync order =>
      if process.syncRequested then
        some ({ process with syncRequested := false }.syncRoutes externals serviceHash64
          ingressHash64 order)
      else none
  -- The runner also syncs at the end of its period and does not ask for `isInitialized` there.
  | .periodicSync order => some (process.syncRoutes externals serviceHash64 ingressHash64 order)
  | .published index succeeded => process.published index succeeded

/-- The process handles events until a sync crashes. -/
def machine : Machine CacheProcess ProcessEvent where
  step process event :=
    if process.cache.crashed then none
    else process.handle externals serviceHash64 ingressHash64 event

end CacheProcess
end ErieCanal.Cache
