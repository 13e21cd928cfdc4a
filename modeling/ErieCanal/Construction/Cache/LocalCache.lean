import ErieCanal.Construction.Cache.Endpoints
import ErieCanal.Construction.Cache.Ingress
import ErieCanal.Lib.Machine

namespace ErieCanal.Cache
open Lib CoreV1 NetworkingV1 Route IngressPipy

/-- The state of the ingress side of the cache, with the stores that it reads. -/
structure LocalCache where
  listers : Listers
  defaultIngressClass : String
  endpointsChanges : EndpointChanges
  endpointsMap : EndpointsMap
  ingressChanges : IngressChanges
  ingressMap : IngressMap
  /-- A refresh in progress holds the listed Ingresses that it has not handed on yet. -/
  refreshing : Option (List Ingress)
  /-- A nil dereference in a sync ends the process. -/
  crashed : Bool

def newLocalCache : LocalCache where
  listers := .empty
  defaultIngressClass := noDefaultIngressClass
  endpointsChanges := ∅
  endpointsMap := ∅
  ingressChanges := ∅
  ingressMap := ∅
  refreshing := none
  crashed := false

/-- The maps and the listers are visited in any order. -/
structure SyncOrder where
  endpointsChanges : RangeOrder (Change ServicePortName (List BaseEndpointInfo))
  ingressChanges : RangeOrder (Change RouteKey BaseIngressInfo)
  ingresses : RangeOrder Ingress
  routes : RangeOrder BaseIngressInfo

/-- This order visits everything as it is stored. -/
def SyncOrder.stored : SyncOrder := ⟨.stored, .stored, .stored, .stored⟩

/-- The proxy gets the endpoints whose address and port can be read. -/
def upstreamEndpoints (externals : Externals) (endpoints : List BaseEndpointInfo) :
    List UpstreamEndpoint :=
  endpoints.filterMap fun ep =>
    match externals.portPart ep.endpoint with
    | none => none
    | some port =>
        if externals.ipPart ep.endpoint = "" then none
        else some ⟨externals.ipPart ep.endpoint, port⟩

/-- The accessors of the upstream fields dereference the upstream. -/
def ingressRouteSpec (externals : Externals) (endpointsMap : EndpointsMap)
    (route : BaseIngressInfo) : Option IngressRouteSpec := do
  let upstream ← route.upstream
  pure {
    router := {
      host := route.host, path := route.path, service := route.backend.string
      rewrite := route.rewrite }
    balancer := {
      sticky := route.sessionSticky, balancer := route.lbType
      upstream := {
        sslName := upstream.sslName, sslVerify := upstream.sslVerify, sslCert := upstream.sslCert
        endpoints := upstreamEndpoints externals ((endpointsMap.lookup route.backend).getD []) } }
    tls := {
      isTLS := route.isTLS, verifyDepth := route.verifyDepth, verifyClient := route.verifyClient
      certificate := route.certificate, isWildcardHost := route.isWildcardHost
      trustedCA := route.trustedCA } }

namespace LocalCache
variable (externals : Externals) (hash64 : List IngressRouteSpec → UInt64)

/-- A route without a usable endpoint is left out, after its fields have been read. -/
def buildIngressConfig (range : RangeOrder BaseIngressInfo) (cache : LocalCache) :
    Option IngressData := do
  let specs ← (range.order 0 (GoMap.values cache.ingressMap)).mapM
    (ingressRouteSpec externals cache.endpointsMap)
  let routes := specs.filter fun ir => 0 < ir.balancer.upstream.endpoints.length
  pure { hash := Strings.hex (hash64 routes), routes }

def onIngressUpdate (oldIngress ingress : Option Ingress) (cache : LocalCache) : LocalCache :=
  { cache with ingressChanges :=
      cache.ingressChanges.track externals cache.listers cache.defaultIngressClass oldIngress ingress }

def onEndpointsUpdate (oldEndpoints endpoints : Option Endpoints) (cache : LocalCache) : LocalCache :=
  { cache with endpointsChanges := cache.endpointsChanges.track externals oldEndpoints endpoints }

def updateDefaultIngressClass (ingClass : IngressClass) (className : String) (cache : LocalCache) :
    LocalCache :=
  if annotationOf ingClass.annotations ingressClassAnnotationKey = some "true" then
    { cache with defaultIngressClass := className }
  else cache

/-- The update of the ingress map takes the pending changes out of the tracker. -/
def updateIngressMap (order : SyncOrder) (index : Nat) (cache : LocalCache) : LocalCache :=
  { cache with
    ingressMap := cache.ingressChanges.apply order.ingressChanges index cache.ingressMap
    ingressChanges := ∅ }

def updateEndpointsMap (order : SyncOrder) (cache : LocalCache) : LocalCache :=
  { cache with
    endpointsMap := cache.endpointsChanges.apply order.endpointsChanges 0 cache.endpointsMap
    endpointsChanges := ∅ }

/-- The sync ends with the new configuration, or with a crash while it builds it. -/
def finishSync (order : SyncOrder) (cache : LocalCache) : LocalCache :=
  { cache with crashed := (cache.buildIngressConfig externals hash64 order.routes).isNone }

/-- Changed service routes make the sync refresh the ingress map from the listed Ingresses. -/
def syncRoutes (order : SyncOrder) (servicesChanged : Bool) (cache : LocalCache) : LocalCache :=
  let cache := (cache.updateEndpointsMap order).updateIngressMap order 0
  if servicesChanged then
    let listed := order.ingresses.order 0 (GoMap.values cache.listers.ingresses)
    { cache with refreshing := some listed }
  else cache.finishSync externals hash64 order

/-- The refresh hands each valid Ingress to the tracker as a new one. -/
def refreshNext (ing : Ingress) (cache : LocalCache) : LocalCache :=
  if isValidPipyIngress cache.defaultIngressClass ing then
    cache.onIngressUpdate externals none (some ing)
  else cache

end LocalCache

/-- The informers change their stores and call the handlers, also while a sync refreshes the
ingress map; the sync itself runs under the cache mutex. -/
inductive CacheEvent where
  | serviceStored (key : NamespacedName) (service : Option Service)
  | serviceServed (key : NamespacedName) (service : Option Service)
  | secretStored (key : NamespacedName) (secret : Option Secret)
  | ingressStored (key : NamespacedName) (ingress : Option Ingress)
  | ingressUpdate (oldIngress ingress : Option Ingress)
  | endpointsUpdate (oldEndpoints endpoints : Option Endpoints)
  | ingressClassAdd (ingClass : IngressClass)
  | ingressClassUpdate (oldClass ingClass : IngressClass)
  | ingressClassDelete (ingClass : IngressClass)
  | syncRoutes (order : SyncOrder) (servicesChanged : Bool)
  | refreshNext
  | refreshDone (order : SyncOrder)

namespace LocalCache

def storeIngress (key : NamespacedName) (ingress : Option Ingress) (listers : Listers) : Listers :=
  match ingress with
  | some ing => { listers with ingresses := listers.ingresses.insert key ing }
  | none => { listers with ingresses := listers.ingresses.erase key }

def handle (externals : Externals) (hash64 : List IngressRouteSpec → UInt64) (cache : LocalCache) :
    CacheEvent → Option LocalCache
  | .serviceStored key service => some { cache with
      listers.services := Function.update cache.listers.services key service }
  | .serviceServed key service => some { cache with
      listers.apiServices := Function.update cache.listers.apiServices key service }
  | .secretStored key secret => some { cache with
      listers.secrets := Function.update cache.listers.secrets key secret }
  | .ingressStored key ingress => some { cache with
      listers := storeIngress key ingress cache.listers }
  | .ingressUpdate oldIngress ingress => some (cache.onIngressUpdate externals oldIngress ingress)
  | .endpointsUpdate oldEndpoints endpoints =>
      some (cache.onEndpointsUpdate externals oldEndpoints endpoints)
  | .ingressClassAdd ingClass => some (cache.updateDefaultIngressClass ingClass ingClass.name)
  | .ingressClassUpdate oldClass ingClass =>
      if oldClass.resourceVersion = ingClass.resourceVersion then some cache
      else some (cache.updateDefaultIngressClass ingClass ingClass.name)
  | .ingressClassDelete ingClass =>
      some (cache.updateDefaultIngressClass ingClass noDefaultIngressClass)
  | .syncRoutes order servicesChanged =>
      match cache.refreshing with
      | none => some (cache.syncRoutes externals hash64 order servicesChanged)
      | some _ => none
  | .refreshNext =>
      match cache.refreshing with
      | some (ing :: rest) => some { cache.refreshNext externals ing with refreshing := some rest }
      | _ => none
  | .refreshDone order =>
      match cache.refreshing with
      | some [] =>
          let cache := { cache.updateIngressMap order 1 with refreshing := none }
          some (cache.finishSync externals hash64 order)
      | _ => none

/-- The cache handles one event at a time until a sync crashes. -/
def machine (externals : Externals) (hash64 : List IngressRouteSpec → UInt64) :
    Machine LocalCache CacheEvent where
  step cache event := if cache.crashed then none else cache.handle externals hash64 event

end LocalCache
end ErieCanal.Cache
