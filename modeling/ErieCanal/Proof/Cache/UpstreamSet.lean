import ErieCanal.Construction.Cache.LocalCache

namespace ErieCanal.Cache
open Lib CoreV1 NetworkingV1 Route IngressPipy

/-- The route has the upstream that the accessors dereference. -/
def HasUpstream (info : BaseIngressInfo) : Prop := info.upstream.isSome

/-- The path names a service port that exists and has a supported path type. -/
def PathResolves (listers : Listers) (ing : Ingress) (path : HTTPIngressPath) : Prop :=
  path.pathType ≠ .implementationSpecific ∧
    ∃ service, path.backend = some service ∧ (servicePortName listers ing.ns service).isSome

/-- The Ingress has annotations, or none of its paths resolves to a route. -/
def AnnotatedOrUnrouted (listers : Listers) (ing : Ingress) : Prop :=
  ing.annotations.isSome ∨
    ∀ rule ∈ ing.rules, ∀ path ∈ rule.http.getD [], ¬ PathResolves listers ing path

section Translation
variable (externals : Externals) (listers : Listers)

/-- The enrichment of an annotated Ingress creates the upstream. -/
theorem enrichIngressInfo_hasUpstream (rule : IngressRule) (ing : Ingress) (info : BaseIngressInfo)
    (annotated : ing.annotations.isSome) :
    HasUpstream (enrichIngressInfo externals listers rule ing info) := by
  obtain ⟨annotations, found⟩ := Option.isSome_iff_exists.mp annotated
  simp [HasUpstream, enrichIngressInfo, found]

theorem addPath_all (ing : Ingress) (rule : IngressRule) (path : HTTPIngressPath)
    (safe : ing.annotations.isSome ∨ ¬ PathResolves listers ing path) {ingressMap : IngressMap}
    (all : ingressMap.All HasUpstream) :
    (addPath externals listers ing rule ingressMap path).All HasUpstream := by
  rcases safe with annotated | unresolved
  · rw [addPath]
    split
    · exact all
    · split
      · exact all
      · split
        · exact all
        · dsimp only
          split
          · exact all
          · exact all.insert _ (enrichIngressInfo_hasUpstream externals listers rule ing _ annotated)
  · rw [addPath]
    split
    · exact all
    · next service backend =>
        split
        · exact all
        · next svcPortName named =>
            have specific : path.pathType = .implementationSpecific := by
              by_contra supported
              exact unresolved ⟨supported, service, backend, by rw [named]; rfl⟩
            rw [newBaseIngressInfo, specific]
            exact all

/-- The routes of an Ingress with annotations all have an upstream. -/
theorem ingressToIngressMap_all (ing : Ingress) (safe : AnnotatedOrUnrouted listers ing)
    (ingressMap : IngressMap)
    (translated : ingressToIngressMap externals listers (some ing) = some ingressMap) :
    ingressMap.All HasUpstream := by
  rw [ingressToIngressMap, Option.some.injEq] at translated
  rw [← translated]
  refine List.foldlRecOn ing.rules _ GoMap.all_empty fun map all rule member => ?_
  refine List.foldlRecOn (rule.http.getD []) _ all fun map all path listed => ?_
  exact addPath_all externals listers ing rule path
    (safe.imp_right fun unrouted => unrouted rule member path listed) all

/-- The tracker takes routes from the new version only. -/
theorem IngressChanges.track_currentAll {items : IngressChanges}
    (all : Changes.CurrentAll HasUpstream items) (defaultIngressClass : String)
    (previous current : Option Ingress)
    (safe : ∀ ing, current = some ing → isValidPipyIngress defaultIngressClass ing →
      AnnotatedOrUnrouted listers ing) :
    Changes.CurrentAll HasUpstream
      (items.track externals listers defaultIngressClass previous current) := by
  rw [IngressChanges.track]
  split
  · exact all
  · next ing chosen =>
      split
      · next valid =>
          refine Changes.CurrentAll.update all ing.key _ fun ingressMap translated => ?_
          cases current with
          | none => cases translated
          | some later =>
              obtain rfl := Option.some.inj chosen
              exact ingressToIngressMap_all externals listers later (safe later rfl valid) ingressMap
                translated
      · exact all

end Translation

/-- This is the route of the configuration, if it has a usable endpoint. -/
def usableRoute (externals : Externals) (endpointsMap : EndpointsMap) (route : BaseIngressInfo) :
    Option IngressRouteSpec :=
  (ingressRouteSpec externals endpointsMap route).filter fun ir =>
    0 < ir.balancer.upstream.endpoints.length

/-- These are the usable endpoints of the backend of the route. -/
def usableEndpoints (externals : Externals) (endpointsMap : EndpointsMap) (route : BaseIngressInfo) :
    List UpstreamEndpoint :=
  upstreamEndpoints externals ((endpointsMap.lookup route.backend).getD [])

/-- This is the translation of a route whose upstream is given. -/
def routeSpecOf (route : BaseIngressInfo) (upstream : UpstreamSpec)
    (endpoints : List UpstreamEndpoint) : IngressRouteSpec where
  router := ⟨route.host, route.path, route.backend.string, route.rewrite⟩
  balancer := ⟨route.sessionSticky, route.lbType,
    ⟨upstream.sslName, upstream.sslCert, upstream.sslVerify, endpoints⟩⟩
  tls := ⟨route.isTLS, route.isWildcardHost, route.verifyClient, route.verifyDepth,
    route.certificate, route.trustedCA⟩

theorem usableRoute_eq_some_iff (externals : Externals) (endpointsMap : EndpointsMap)
    (route : BaseIngressInfo) (r : IngressRouteSpec) :
    usableRoute externals endpointsMap route = some r ↔
      usableEndpoints externals endpointsMap route ≠ [] ∧ ∃ upstream,
        route.upstream = some upstream ∧
          r = routeSpecOf route upstream (usableEndpoints externals endpointsMap route) := by
  cases found : route.upstream with
  | none => simp [usableRoute, ingressRouteSpec, found]
  | some upstream =>
      have translated : ingressRouteSpec externals endpointsMap route =
          some (routeSpecOf route upstream (usableEndpoints externals endpointsMap route)) := by
        rw [ingressRouteSpec, found]
        rfl
      rw [usableRoute, translated, Option.filter_eq_some_iff]
      simp only [Option.some.injEq, decide_eq_true_eq, List.length_pos_iff, exists_eq_left']
      constructor
      · rintro ⟨rfl, usable⟩
        exact ⟨usable, rfl⟩
      · rintro ⟨usable, rfl⟩
        exact ⟨rfl, usable⟩

/-- The loop over routes that all have an upstream does not crash. -/
theorem ingressRouteSpecs_eq (externals : Externals) (endpointsMap : EndpointsMap)
    (routes : List BaseIngressInfo) (each : ∀ route ∈ routes, HasUpstream route) :
    routes.mapM (ingressRouteSpec externals endpointsMap) =
      some (routes.filterMap (ingressRouteSpec externals endpointsMap)) := by
  induction routes with
  | nil => rfl
  | cons route rest ih =>
      obtain ⟨upstream, found⟩ := Option.isSome_iff_exists.mp (each route List.mem_cons_self)
      have later := ih fun other member => each other (List.mem_cons_of_mem _ member)
      simp [List.mapM_cons, ingressRouteSpec, found, later]

/-- The loop crashes at a route without an upstream. -/
theorem ingressRouteSpecs_none (externals : Externals) (endpointsMap : EndpointsMap)
    (routes : List BaseIngressInfo) (route : BaseIngressInfo) (visited : route ∈ routes)
    (unset : ¬ HasUpstream route) :
    routes.mapM (ingressRouteSpec externals endpointsMap) = none := by
  induction routes with
  | nil => cases visited
  | cons first rest ih =>
      rw [List.mapM_cons]
      cases visited with
      | head =>
          have missing : route.upstream = none := by simpa [HasUpstream] using unset
          simp [ingressRouteSpec, missing]
      | tail _ later => simp [ih later]

/-- These are the usable routes in the order in which the ingress map is visited. -/
def LocalCache.usableRoutes (externals : Externals) (range : RangeOrder BaseIngressInfo)
    (cache : LocalCache) : List IngressRouteSpec :=
  (range.order 0 (GoMap.values cache.ingressMap)).filterMap (usableRoute externals cache.endpointsMap)

theorem LocalCache.mem_usableRoutes (externals : Externals) (range : RangeOrder BaseIngressInfo)
    (cache : LocalCache) (r : IngressRouteSpec) :
    r ∈ cache.usableRoutes externals range ↔ ∃ route ∈ GoMap.values cache.ingressMap,
      usableRoute externals cache.endpointsMap route = some r := by
  rw [usableRoutes, List.mem_filterMap]
  simp only [RangeOrder.mem_order]

/-- The configuration has the usable routes, if all routes have an upstream. -/
theorem LocalCache.buildIngressConfig_eq (externals : Externals)
    (hash64 : List IngressRouteSpec → UInt64) (range : RangeOrder BaseIngressInfo)
    (cache : LocalCache) (all : cache.ingressMap.All HasUpstream) :
    cache.buildIngressConfig externals hash64 range = some {
      hash := Strings.hex (hash64 (cache.usableRoutes externals range))
      routes := cache.usableRoutes externals range } := by
  have each (route : BaseIngressInfo)
      (member : route ∈ range.order 0 (GoMap.values cache.ingressMap)) : HasUpstream route := by
    obtain ⟨key, found⟩ := (GoMap.mem_values _ _).mp ((range.mem_order _ _ _).mp member)
    exact all key route found
  rw [buildIngressConfig, ingressRouteSpecs_eq externals cache.endpointsMap _ each]
  simp only [Option.bind_eq_bind, Option.bind_some, Option.pure_def, List.filter_filterMap]
  rfl

/-- A configuration is built only if all routes have an upstream. -/
theorem LocalCache.hasUpstream_of_buildIngressConfig {externals : Externals}
    {hash64 : List IngressRouteSpec → UInt64} {range : RangeOrder BaseIngressInfo}
    {cache : LocalCache} {data : IngressData}
    (built : cache.buildIngressConfig externals hash64 range = some data) :
    cache.ingressMap.All HasUpstream := by
  intro key route found
  have visited : route ∈ range.order 0 (GoMap.values cache.ingressMap) :=
    (range.mem_order _ _ _).mpr ((GoMap.mem_values _ _).mpr ⟨key, found⟩)
  by_contra unset
  rw [buildIngressConfig, ingressRouteSpecs_none externals _ _ route visited unset] at built
  cases built

namespace LocalCache

/-- No sync has crashed, and every route that is stored or about to be stored has an upstream. -/
structure UpstreamsSet (cache : LocalCache) : Prop where
  running : cache.crashed = false
  stored : cache.ingressMap.All HasUpstream
  pending : Changes.CurrentAll HasUpstream cache.ingressChanges

/-- A valid Ingress that is handed to the tracker as the new version, by its event or by the
refresh, has annotations or resolves to no route. -/
def HandsOnAnnotated (cache : LocalCache) : CacheEvent → Prop
  | .ingressUpdate _ ingress => ∀ ing, ingress = some ing →
      isValidPipyIngress cache.defaultIngressClass ing → AnnotatedOrUnrouted cache.listers ing
  | .refreshNext => ∀ ing rest, cache.refreshing = some (ing :: rest) →
      isValidPipyIngress cache.defaultIngressClass ing → AnnotatedOrUnrouted cache.listers ing
  | _ => True

variable {externals : Externals} {hash64 : List IngressRouteSpec → UInt64}

theorem newLocalCache_upstreamsSet : newLocalCache.UpstreamsSet :=
  ⟨rfl, GoMap.all_empty, GoMap.all_empty⟩

/-- The other parts of the cache do not matter. -/
theorem UpstreamsSet.congr {cache other : LocalCache} (set : cache.UpstreamsSet)
    (running : other.crashed = cache.crashed) (stored : other.ingressMap = cache.ingressMap)
    (pending : other.ingressChanges = cache.ingressChanges) : other.UpstreamsSet :=
  ⟨running.trans set.running, stored ▸ set.stored, pending ▸ set.pending⟩

theorem UpstreamsSet.onIngressUpdate {cache : LocalCache} (set : cache.UpstreamsSet)
    (oldIngress ingress : Option Ingress)
    (safe : ∀ ing, ingress = some ing → isValidPipyIngress cache.defaultIngressClass ing →
      AnnotatedOrUnrouted cache.listers ing) :
    (cache.onIngressUpdate externals oldIngress ingress).UpstreamsSet :=
  ⟨set.running, set.stored,
    IngressChanges.track_currentAll externals cache.listers set.pending _ oldIngress ingress safe⟩

theorem UpstreamsSet.updateIngressMap {cache : LocalCache} (set : cache.UpstreamsSet)
    (order : SyncOrder) (index : Nat) : (cache.updateIngressMap order index).UpstreamsSet :=
  ⟨set.running, set.pending.apply set.stored order.ingressChanges index, GoMap.all_empty⟩

theorem UpstreamsSet.finishSync {cache : LocalCache} (set : cache.UpstreamsSet)
    (order : SyncOrder) : (cache.finishSync externals hash64 order).UpstreamsSet := by
  have built := buildIngressConfig_eq externals hash64 order.routes cache set.stored
  exact ⟨by simp [LocalCache.finishSync, built], set.stored, set.pending⟩

theorem UpstreamsSet.updateDefaultIngressClass {cache : LocalCache} (set : cache.UpstreamsSet)
    (ingClass : IngressClass) (className : String) :
    (cache.updateDefaultIngressClass ingClass className).UpstreamsSet := by
  rw [LocalCache.updateDefaultIngressClass]
  split
  · exact set.congr rfl rfl rfl
  · exact set

/-- A refresh hands a listed Ingress to the tracker. -/
theorem UpstreamsSet.refreshNext {cache : LocalCache} (set : cache.UpstreamsSet) (ing : Ingress)
    (safe : isValidPipyIngress cache.defaultIngressClass ing →
      AnnotatedOrUnrouted cache.listers ing) :
    (cache.refreshNext externals ing).UpstreamsSet := by
  rw [LocalCache.refreshNext]
  split
  · next valid =>
      refine set.onIngressUpdate none (some ing) fun other same _ => ?_
      obtain rfl := Option.some.inj same
      exact safe valid
  · exact set

/-- Every guarded event keeps the upstreams set and lets no sync crash. -/
theorem UpstreamsSet.handle {cache next : LocalCache} {event : CacheEvent}
    (set : cache.UpstreamsSet) (safe : cache.HandsOnAnnotated event)
    (handled : cache.handle externals hash64 event = some next) : next.UpstreamsSet := by
  cases event with
  | serviceStored key service =>
      obtain rfl := Option.some.inj handled
      exact set.congr rfl rfl rfl
  | serviceServed key service =>
      obtain rfl := Option.some.inj handled
      exact set.congr rfl rfl rfl
  | secretStored key secret =>
      obtain rfl := Option.some.inj handled
      exact set.congr rfl rfl rfl
  | ingressStored key ingress =>
      obtain rfl := Option.some.inj handled
      exact set.congr rfl rfl rfl
  | endpointsUpdate oldEndpoints endpoints =>
      obtain rfl := Option.some.inj handled
      exact set.congr rfl rfl rfl
  | ingressUpdate oldIngress ingress =>
      obtain rfl := Option.some.inj handled
      exact set.onIngressUpdate oldIngress ingress safe
  | ingressClassAdd ingClass =>
      obtain rfl := Option.some.inj handled
      exact set.updateDefaultIngressClass ingClass _
  | ingressClassUpdate oldClass ingClass =>
      rw [LocalCache.handle] at handled
      split at handled
      · exact Option.some.inj handled ▸ set
      · exact Option.some.inj handled ▸ set.updateDefaultIngressClass ingClass _
  | ingressClassDelete ingClass =>
      obtain rfl := Option.some.inj handled
      exact set.updateDefaultIngressClass ingClass _
  | syncRoutes order servicesChanged =>
      rw [LocalCache.handle] at handled
      split at handled
      · obtain rfl := Option.some.inj handled
        have begun : (cache.updateEndpointsMap order).UpstreamsSet := set.congr rfl rfl rfl
        have applied := begun.updateIngressMap order 0
        cases servicesChanged with
        | true => exact applied.congr rfl rfl rfl
        | false => exact applied.finishSync order
      · cases handled
  | refreshNext =>
      rw [LocalCache.handle] at handled
      split at handled
      · next ing rest listed =>
          obtain rfl := Option.some.inj handled
          exact (set.refreshNext ing (safe ing rest listed)).congr rfl rfl rfl
      · cases handled
  | refreshDone order =>
      rw [LocalCache.handle] at handled
      split at handled
      · obtain rfl := Option.some.inj handled
        have applied := set.updateIngressMap order 1
        have ended : ({ cache.updateIngressMap order 1 with refreshing := none } :
          LocalCache).UpstreamsSet := applied.congr rfl rfl rfl
        exact ended.finishSync order
      · cases handled

/-- In every run that hands only annotated or unrouted Ingresses to the tracker, every route of
the ingress map has its upstream and no sync crashes. -/
theorem run_upstreamsSet (externals : Externals) (hash64 : List IngressRouteSpec → UInt64)
    (events : List CacheEvent) (final : LocalCache)
    (guarded : (machine externals hash64).Guarded HandsOnAnnotated newLocalCache events)
    (reached : (machine externals hash64).run newLocalCache events = some final) :
    (∀ key route, final.ingressMap.lookup key = some route → route.upstream.isSome) ∧
      final.crashed = false ∧
      ∀ range, (final.buildIngressConfig externals hash64 range).isSome := by
  have set : final.UpstreamsSet := by
    refine Machine.run_invariant _ ?_ newLocalCache_upstreamsSet guarded reached
    intro cache event next set safe stepped
    simp only [machine, set.running, Bool.false_eq_true, if_false] at stepped
    exact set.handle safe stepped
  exact ⟨set.stored, set.running, fun range =>
    by rw [buildIngressConfig_eq externals hash64 range final set.stored]; rfl⟩

/-- The Ingress sends every path of one host to the port `http` of the service `web`. -/
def exampleIngress (annotations : Option (GoMap String String)) : Ingress where
  ns := "default"
  name := "web"
  annotations := annotations
  ingressClassName := some "pipy"
  tls := []
  rules := [⟨"example.com", some [⟨"/", .pathPrefix, some ⟨"web", ⟨"http", 0⟩⟩⟩]⟩]

def exampleEvents (annotations : Option (GoMap String String)) : List CacheEvent :=
  [.ingressStored ⟨"default", "web"⟩ (some (exampleIngress annotations)),
    .ingressUpdate none (some (exampleIngress annotations)), .syncRoutes .stored false]

theorem run_upstreamsSet_annotated :
    ∃ final, (machine exampleExternals fun _ => 0).run newLocalCache (exampleEvents (some ∅)) =
        some final ∧ final.ingressMap.keys.length = 1 ∧ final.crashed = false := by
  refine ⟨_, rfl, rfl, (run_upstreamsSet exampleExternals (fun _ => 0) (exampleEvents (some ∅)) _
    ⟨trivial, fun first stored => ⟨?_, fun second handled => ⟨trivial, fun _ _ => trivial⟩⟩⟩ rfl).2.1⟩
  intro ing same valid
  obtain rfl := Option.some.inj same
  exact Or.inl rfl

/-- A routed Ingress without annotations makes the next sync crash. -/
theorem run_crashes_without_annotations :
    ∃ final, (machine exampleExternals fun _ => 0).run newLocalCache (exampleEvents none) =
        some final ∧ final.crashed = true ∧
      ∃ key route, final.ingressMap.lookup key = some route ∧ route.upstream = none :=
  ⟨_, rfl, rfl, ⟨⟨⟨"default", "web"⟩, "http", .tcp⟩, "example.com", "/*"⟩, _, rfl, rfl⟩

end LocalCache
end ErieCanal.Cache
