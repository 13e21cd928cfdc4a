import ErieCanal.Construction.Cache.LocalCache
import ErieCanal.Lib.Informer

namespace ErieCanal.Cache
open Lib CoreV1 NetworkingV1 IngressPipy

/-- The informers store an object and call the handler before the next event; the Services stay
as they are. A sync updates the ingress map, and it may refresh it from the listed Ingresses. -/
inductive IngressFeedEvent where
  | ingress (notice : Notice NamespacedName Ingress)
  | ingressClassAdd (ingClass : IngressClass)
  | ingressClassUpdate (oldClass ingClass : IngressClass)
  | ingressClassDelete (ingClass : IngressClass)
  | secretStored (key : NamespacedName) (secret : Option Secret)
  | updateIngressMap (order : SyncOrder)
  | refreshIngress (order : SyncOrder)

namespace LocalCache

/-- A cache starts with the Services and the Secrets that exist, and without Ingresses. -/
def withListers (listers : Listers) : LocalCache :=
  { newLocalCache with listers := { listers with ingresses := ∅ } }

/-- The handlers get the last stored version as the old one. -/
def onIngress (externals : Externals) (notice : Notice NamespacedName Ingress)
    (cache : LocalCache) : LocalCache :=
  LocalCache.onIngressUpdate externals
    (cache.listers.ingresses.lookup (notice.name Ingress.key)) notice.current
    { cache with listers.ingresses := notice.deliver Ingress.key cache.listers.ingresses }

/-- The refresh hands on every listed Ingress and updates the ingress map. -/
def refreshIngress (externals : Externals) (order : SyncOrder) (cache : LocalCache) : LocalCache :=
  let listed := order.ingresses.order 0 (GoMap.values cache.listers.ingresses)
  (listed.foldl (fun cache ing => cache.refreshNext externals ing) cache).updateIngressMap order 1

/-- A sync updates the ingress map and refreshes it when the service routes have changed. -/
def syncIngress (externals : Externals) (order : SyncOrder) (servicesChanged : Bool)
    (cache : LocalCache) : LocalCache :=
  let cache := cache.updateIngressMap order 0
  if servicesChanged then cache.refreshIngress externals order else cache

def feed (externals : Externals) (cache : LocalCache) : IngressFeedEvent → LocalCache
  | .ingress notice => cache.onIngress externals notice
  | .ingressClassAdd ingClass => cache.updateDefaultIngressClass ingClass ingClass.name
  | .ingressClassUpdate oldClass ingClass =>
      if oldClass.resourceVersion = ingClass.resourceVersion then cache
      else cache.updateDefaultIngressClass ingClass ingClass.name
  | .ingressClassDelete ingClass =>
      cache.updateDefaultIngressClass ingClass noDefaultIngressClass
  | .secretStored key secret => { cache with
      listers.secrets := Function.update cache.listers.secrets key secret }
  | .updateIngressMap order => cache.updateIngressMap order 0
  | .refreshIngress order => cache.refreshIngress externals order

def feedMachine (externals : Externals) : Machine LocalCache IngressFeedEvent where
  step cache event := some (cache.feed externals event)

end LocalCache

/-- The informer stores an object before it calls the handler, so the listed Ingresses can be
ahead of the delivered ones. A refresh works on the Ingresses that it has listed. -/
structure RefreshFeed where
  cache : LocalCache
  queue : List (Notice NamespacedName Ingress)
  delivered : GoMap NamespacedName Ingress
  listed : List Ingress

inductive RefreshFeedEvent where
  | stored (notice : Notice NamespacedName Ingress)
  | deliver
  | updateIngressMap (order : SyncOrder)
  | listIngresses (order : SyncOrder)
  | refreshNext
  | refreshDone (order : SyncOrder)

namespace RefreshFeed

def new (listers : Listers) : RefreshFeed := ⟨.withListers listers, [], ∅, []⟩

/-- The handlers get the last delivered version as the old one. -/
def onIngress (externals : Externals) (notice : Notice NamespacedName Ingress)
    (feed : RefreshFeed) : RefreshFeed :=
  { feed with
    delivered := notice.deliver Ingress.key feed.delivered
    cache := feed.cache.onIngressUpdate externals
      (feed.delivered.lookup (notice.name Ingress.key)) notice.current }

/-- Informer events interleave with the steps of a refresh; a sync holds the cache mutex, so no
other update of the ingress map runs during a refresh. -/
def machine (externals : Externals) : Machine RefreshFeed RefreshFeedEvent where
  step feed
    | .stored notice => some { feed with
        cache.listers.ingresses := notice.deliver Ingress.key feed.cache.listers.ingresses
        queue := feed.queue ++ [notice] }
    | .deliver => match feed.queue with
        | notice :: rest => some { feed.onIngress externals notice with queue := rest }
        | [] => none
    | .updateIngressMap order => match feed.cache.refreshing with
        | none => some { feed with cache := feed.cache.updateIngressMap order 0 }
        | some _ => none
    | .listIngresses order => match feed.cache.refreshing with
        | none =>
            let listed := order.ingresses.order 0 (GoMap.values feed.cache.listers.ingresses)
            some { feed with cache.refreshing := some listed, listed }
        | some _ => none
    | .refreshNext => match feed.cache.refreshing with
        | some (ing :: rest) => some { feed with
            cache := { feed.cache.refreshNext externals ing with refreshing := some rest } }
        | _ => none
    | .refreshDone order => match feed.cache.refreshing with
        | some [] => some { feed with
            cache := { feed.cache.updateIngressMap order 1 with refreshing := none }, listed := [] }
        | _ => none

end RefreshFeed

/-- The handlers of the classes get the last version of a class as the old one. -/
structure ClassFeed where
  classes : GoMap String IngressClass
  cache : LocalCache

namespace ClassFeed

def new (listers : Listers) : ClassFeed := ⟨∅, .withListers listers⟩

/-- An update brings a changed resource version. -/
def event (feed : ClassFeed) (notice : Notice String IngressClass) : Option IngressFeedEvent :=
  match feed.classes.lookup (notice.name IngressClass.name), notice.current with
  | none, some ingClass => some (.ingressClassAdd ingClass)
  | some oldClass, some ingClass =>
      if oldClass.resourceVersion = ingClass.resourceVersion then none
      else some (.ingressClassUpdate oldClass ingClass)
  | some oldClass, none => some (.ingressClassDelete oldClass)
  | none, none => none

def machine (externals : Externals) : Machine ClassFeed (Notice String IngressClass) where
  step feed notice := (feed.event notice).map fun event =>
    ⟨notice.deliver IngressClass.name feed.classes, feed.cache.feed externals event⟩

end ClassFeed
end ErieCanal.Cache
