import ErieCanal.Proof.Cache.IngressTables
import ErieCanal.Proof.Cache.UpstreamSet

namespace ErieCanal.Cache
open Lib CoreV1 NetworkingV1 Route Repo IngressPipy

namespace LocalCache

/-- The order of the pending changes does not matter exactly when any two of them that mention a
route agree on it. -/
theorem updateIngressMap_orders_iff (cache : LocalCache) (index : Nat) :
    (∀ (order order' : SyncOrder) (key : RouteKey),
      (cache.updateIngressMap order index).ingressMap.lookup key =
        (cache.updateIngressMap order' index).ingressMap.lookup key) ↔
      cache.ingressChanges.Agreeing := by
  rw [← Changes.apply_orders_iff cache.ingressChanges cache.ingressMap index]
  constructor
  · intro same range range' key
    exact same { SyncOrder.stored with ingressChanges := range }
      { SyncOrder.stored with ingressChanges := range' } key
  · intro same order order' key
    exact same order.ingressChanges order'.ingressChanges key

/-- The first Ingress gives up a route in the same sync in which the second one takes it. -/
def handoverEvents : List CacheEvent :=
  let first := exampleIngress (some ∅)
  let second := { first with name := "other" }
  exampleEvents (some ∅) ++
    [.ingressStored ⟨"default", "web"⟩ (some { first with rules := [] }),
      .ingressUpdate (some first) (some { first with rules := [] }),
      .ingressStored ⟨"default", "other"⟩ (some second), .ingressUpdate none (some second)]

/-- If the first change is applied last, it deletes the route that the second one has brought. -/
theorem run_handover_ordered :
    ∃ cache, (machine exampleExternals fun _ => 0).run newLocalCache handoverEvents = some cache ∧
      ∃ key route, (cache.updateIngressMap .stored 0).ingressMap.lookup key = none ∧
        (cache.updateIngressMap { SyncOrder.stored with ingressChanges := .reversed }
          0).ingressMap.lookup key = some route :=
  ⟨_, rfl, ⟨⟨⟨"default", "web"⟩, "http", .tcp⟩, "example.com", "/*"⟩, _, rfl, rfl⟩

end LocalCache

/-- Both balancers have the same settings and the same endpoints in any order. -/
structure SameBalancer (first second : BalancerSpec) : Prop where
  sticky : first.sticky = second.sticky
  balancer : first.balancer = second.balancer
  sslName : first.upstream.sslName = second.upstream.sslName
  sslCert : first.upstream.sslCert = second.upstream.sslCert
  sslVerify : first.upstream.sslVerify = second.upstream.sslVerify
  endpoints : ∀ ep, ep ∈ first.upstream.endpoints ↔ ep ∈ second.upstream.endpoints

/-- Both configurations have the same tables and the same set of trusted CAs. -/
structure SameConfig (first second : IngressConfig) : Prop where
  routes : ∀ key, first.routes.lookup key = second.routes.lookup key
  certificates : ∀ host, first.certificates.lookup host = second.certificates.lookup host
  services : ∀ service, Option.Rel SameBalancer (first.services.lookup service)
    (second.services.lookup service)
  trustedCAs : ∀ ca, ca ∈ first.trustedCAs ↔ ca ∈ second.trustedCAs

/-- The translated routes do not compete for an entry of a table. -/
structure Compatible (r s : IngressRouteSpec) : Prop where
  router : routerKey r = routerKey s → r.router = s.router
  balancer : r.router.service = s.router.service → SameBalancer r.balancer s.balancer
  tls : Secured r → Secured s → r.router.host = s.router.host → r.tls = s.tls

section Compatible
variable {routes routes' : List IngressRouteSpec}
  (compatible : ∀ r ∈ routes, ∀ s ∈ routes, Compatible r s)

include compatible

/-- A route whose round is cut short has the CAs of the first TLS route of its host. -/
theorem coveredCAs_of_compatible : CoveredCAs routes := by
  intro earlier r later split skipped ca own
  obtain ⟨secured, -⟩ := skipped
  have listed : r ∈ routes := by simp [split]
  have isSome : (routes.find? fun s => Secured s ∧ s.router.host = r.router.host).isSome :=
    (picks_find _ routes).isSome r listed ⟨secured, rfl⟩
  obtain ⟨first, found⟩ := Option.isSome_iff_exists.mp isSome
  obtain ⟨holds, before, after, same, none⟩ := List.find?_eq_some_iff_append.mp found
  obtain ⟨secured', host⟩ := of_decide_eq_true holds
  have tls : first.tls = r.tls :=
    (compatible first (by simp [same]) r listed).tls secured' secured host
  refine ⟨before, first, after, same, ?_, tls ▸ own⟩
  rintro ⟨-, s, member, secured'', host'⟩
  simpa [secured'', host', host] using none s member

/-- Compatible routes give the same configuration in any order. -/
theorem sameConfig_of_compatible (perm : routes.Perm routes') (range range' : RangeOrder String)
    (hash hash' : String) :
    SameConfig (ingressConfigOf range ⟨hash, routes⟩) (ingressConfigOf range' ⟨hash', routes'⟩) where
  routes key := by
    have same := (picks_getLast (fun r => routerKey r = key) routes).eq
      (picks_getLast _ routes') perm IngressRouteSpec.router
      fun r listed s listed' here there =>
        (compatible r listed s listed').router (here.trans there.symm)
    rw [← lookup_routes, ← lookup_routes] at same
    exact same
  certificates host := by
    have same := (picks_find (fun r => Secured r ∧ r.router.host = host) routes).eq
      (picks_find _ routes') perm IngressRouteSpec.tls
      fun r listed s listed' here there =>
        (compatible r listed s listed').tls here.1 there.1 (here.2.trans there.2.symm)
    rw [← lookup_certificates, ← lookup_certificates] at same
    exact same
  services service := by
    have same := (picks_getLast (fun r => r.router.service = service) routes).rel
      (picks_getLast _ routes') perm IngressRouteSpec.balancer SameBalancer
      fun r listed s listed' here there =>
        (compatible r listed s listed').balancer (here.trans there.symm)
    rw [← lookup_services, ← lookup_services] at same
    exact same
  trustedCAs ca := by
    have covered := coveredCAs_of_compatible compatible
    have covered' : CoveredCAs routes' := coveredCAs_of_compatible fun r listed s listed' =>
      compatible r (perm.mem_iff.mpr listed) s (perm.mem_iff.mpr listed')
    rw [mem_trustedCAs, mem_trustedCAs, covered.lookup_trustedCAs, covered'.lookup_trustedCAs]
    simp only [perm.mem_iff]

end Compatible

/-- Neither route takes an entry of a table from the other one. -/
structure Unrivalled (externals : Externals) (endpointsMap : EndpointsMap) (a b : BaseIngressInfo) :
    Prop where
  router : a.host ++ a.path = b.host ++ b.path →
    a.host = b.host ∧ a.path = b.path ∧ a.backend.string = b.backend.string ∧ a.rewrite = b.rewrite
  balancer : a.backend.string = b.backend.string →
    a.sessionSticky = b.sessionSticky ∧ a.lbType = b.lbType ∧
      (a.upstream.map fun upstream => (upstream.sslName, upstream.sslCert, upstream.sslVerify)) =
        (b.upstream.map fun upstream => (upstream.sslName, upstream.sslCert, upstream.sslVerify)) ∧
      ∀ ep, ep ∈ usableEndpoints externals endpointsMap a ↔ ep ∈ usableEndpoints externals endpointsMap b
  tls : a.host = b.host → a.host ≠ "" → a.isTLS = true → b.isTLS = true →
    a.isWildcardHost = b.isWildcardHost ∧ a.verifyClient = b.verifyClient ∧
      a.verifyDepth = b.verifyDepth ∧ a.certificate = b.certificate ∧ a.trustedCA = b.trustedCA

/-- The condition on the routes is the one on their translations. -/
theorem compatible_iff {externals : Externals} {endpointsMap : EndpointsMap} {a b : BaseIngressInfo}
    {r s : IngressRouteSpec} (usable : usableRoute externals endpointsMap a = some r)
    (usable' : usableRoute externals endpointsMap b = some s) :
    Compatible r s ↔ Unrivalled externals endpointsMap a b := by
  obtain ⟨-, upstream, found, rfl⟩ := (usableRoute_eq_some_iff _ _ _ _).mp usable
  obtain ⟨-, upstream', found', rfl⟩ := (usableRoute_eq_some_iff _ _ _ _).mp usable'
  constructor
  · intro compatible
    refine ⟨fun key => ?_, fun service => ?_, fun host named tls tls' => ?_⟩
    · simpa [routeSpecOf] using compatible.router key
    · have same := compatible.balancer service
      refine ⟨same.sticky, same.balancer, ?_, same.endpoints⟩
      rw [found, found']
      have settings := And.intro same.sslName (And.intro same.sslCert same.sslVerify)
      simpa [routeSpecOf] using settings
    · have named' : b.host ≠ "" := host ▸ named
      have same := compatible.tls ⟨named, tls⟩ ⟨named', tls'⟩ host
      simpa [routeSpecOf, tls, tls'] using same
  · intro unrivalled
    refine ⟨fun key => ?_, fun service => ?_, fun secured secured' host => ?_⟩
    · simpa [routeSpecOf] using unrivalled.router key
    · obtain ⟨sticky, balancer, settings, endpoints⟩ := unrivalled.balancer service
      rw [found, found'] at settings
      simp only [Option.map_some, Option.some.injEq, Prod.mk.injEq] at settings
      exact ⟨sticky, balancer, settings.1, settings.2.1, settings.2.2, endpoints⟩
    · obtain ⟨wildcard, verifyClient, verifyDepth, certificate, trustedCA⟩ :=
        unrivalled.tls host secured.1 secured.2 secured'.2
      have tls : a.isTLS = b.isTLS := secured.2.trans secured'.2.symm
      simp [routeSpecOf, tls, wildcard, verifyClient, verifyDepth, certificate, trustedCA]

namespace LocalCache
variable (externals : Externals) (hash64 : List IngressRouteSpec → UInt64) (cache : LocalCache)

/-- The sync publishes this configuration, if it visits the maps in these orders. -/
def Publishes (range : RangeOrder BaseIngressInfo) (caRange : RangeOrder String)
    (config : IngressConfig) : Prop :=
  ∃ data, cache.buildIngressConfig externals hash64 range = some data ∧
    ingressBatches caRange data = some [ingressBatch config]

variable {externals hash64 cache}

theorem publishes_iff (all : cache.ingressMap.All HasUpstream) (range : RangeOrder BaseIngressInfo)
    (caRange : RangeOrder String) (config : IngressConfig) :
    cache.Publishes externals hash64 range caRange config ↔
      let routes := cache.usableRoutes externals range
      config = ingressConfigOf caRange ⟨Strings.hex (hash64 routes), routes⟩ := by
  rw [Publishes, buildIngressConfig_eq externals hash64 range cache all]
  constructor
  · rintro ⟨data, built, rendered⟩
    cases built
    cases rendered
    rfl
  · rintro rfl
    exact ⟨_, rfl, rfl⟩

theorem Publishes.hasUpstream {range : RangeOrder BaseIngressInfo} {caRange : RangeOrder String}
    {config : IngressConfig} (published : cache.Publishes externals hash64 range caRange config) :
    cache.ingressMap.All HasUpstream := by
  obtain ⟨data, built, -⟩ := published
  exact hasUpstream_of_buildIngressConfig built

variable (hash64) in
/-- A usable route that is visited last has its entries in the router and the balancer table. -/
theorem exists_publishes_last (all : cache.ingressMap.All HasUpstream) {a : BaseIngressInfo}
    (member : a ∈ GoMap.values cache.ingressMap) {r : IngressRouteSpec}
    (usable : usableRoute externals cache.endpointsMap a = some r) :
    ∃ range config, cache.Publishes externals hash64 range .stored config ∧
      config.routes.lookup (routerKey r) = some r.router ∧
      config.services.lookup r.router.service = some r.balancer := by
  obtain ⟨range, earlier, visits⟩ := RangeOrder.exists_last member
  refine ⟨range, _, (publishes_iff all range .stored _).mpr rfl, ?_⟩
  have last : cache.usableRoutes externals range =
      earlier.filterMap (usableRoute externals cache.endpointsMap) ++ [r] := by
    rw [usableRoutes, visits, List.filterMap_append, List.filterMap_cons_some usable, List.filterMap_nil]
  rw [last]
  constructor
  · exact (lookup_routes _ _).trans (by simp)
  · exact (lookup_services _ _).trans (by simp)

variable (hash64) in
/-- A usable TLS route that is visited first has the certificate entry of its host. -/
theorem exists_publishes_first (all : cache.ingressMap.All HasUpstream) {a : BaseIngressInfo}
    (member : a ∈ GoMap.values cache.ingressMap) {r : IngressRouteSpec}
    (usable : usableRoute externals cache.endpointsMap a = some r) (secured : Secured r) :
    ∃ range config, cache.Publishes externals hash64 range .stored config ∧
      config.certificates.lookup r.router.host = some r.tls := by
  obtain ⟨range, later, visits⟩ := RangeOrder.exists_first member
  refine ⟨range, _, (publishes_iff all range .stored _).mpr rfl, ?_⟩
  have first : cache.usableRoutes externals range =
      r :: later.filterMap (usableRoute externals cache.endpointsMap) := by
    rw [usableRoutes, visits, List.filterMap_cons_some usable]
  rw [first]
  exact (lookup_certificates _ _).trans (by simp [secured])

theorem exists_usableRoute (all : cache.ingressMap.All HasUpstream) {a : BaseIngressInfo}
    (member : a ∈ GoMap.values cache.ingressMap)
    (usable : usableEndpoints externals cache.endpointsMap a ≠ []) :
    ∃ r, usableRoute externals cache.endpointsMap a = some r := by
  obtain ⟨key, found⟩ := (GoMap.mem_values _ _).mp member
  obtain ⟨upstream, set⟩ := Option.isSome_iff_exists.mp (all key a found)
  exact ⟨_, (usableRoute_eq_some_iff _ _ _ _).mpr ⟨usable, upstream, set, rfl⟩⟩

/-- If the order does not matter, no two usable routes compete. Each of the two is visited last
once and first once, so that the tables show its entries. -/
theorem compatible_of_same (all : cache.ingressMap.All HasUpstream)
    (same : ∀ range range' config config',
      cache.Publishes externals hash64 range .stored config →
      cache.Publishes externals hash64 range' .stored config' → SameConfig config config')
    {a b : BaseIngressInfo} (member : a ∈ GoMap.values cache.ingressMap)
    (member' : b ∈ GoMap.values cache.ingressMap) {r s : IngressRouteSpec}
    (usable : usableRoute externals cache.endpointsMap a = some r)
    (usable' : usableRoute externals cache.endpointsMap b = some s) : Compatible r s := by
  obtain ⟨range, config, published, router, balancer⟩ :=
    exists_publishes_last hash64 all member usable
  obtain ⟨range', config', published', router', balancer'⟩ :=
    exists_publishes_last hash64 all member' usable'
  have lasts := same range range' config config' published published'
  constructor
  case router =>
    intro key
    have equal := lasts.routes (routerKey r)
    rw [router, key, router'] at equal
    exact Option.some.inj equal
  case balancer =>
    intro service
    have related := lasts.services r.router.service
    rw [balancer, service, balancer'] at related
    cases related with
    | some equal => exact equal
  case tls =>
    intro secured secured' host
    obtain ⟨range, config, published, certificate⟩ :=
      exists_publishes_first hash64 all member usable secured
    obtain ⟨range', config', published', certificate'⟩ :=
      exists_publishes_first hash64 all member' usable' secured'
    have equal := (same range range' config config' published published').certificates r.router.host
    rw [certificate, host, certificate'] at equal
    exact Option.some.inj equal

/-- If no two usable routes compete, the order does not matter. -/
theorem Publishes.same {range range' : RangeOrder BaseIngressInfo}
    {caRange caRange' : RangeOrder String} {config config' : IngressConfig}
    (published : cache.Publishes externals hash64 range caRange config)
    (published' : cache.Publishes externals hash64 range' caRange' config')
    (compatible : ∀ a ∈ GoMap.values cache.ingressMap, ∀ b ∈ GoMap.values cache.ingressMap, ∀ r s,
      usableRoute externals cache.endpointsMap a = some r →
      usableRoute externals cache.endpointsMap b = some s → Compatible r s) :
    SameConfig config config' := by
  have all := published.hasUpstream
  have perm : (cache.usableRoutes externals range).Perm (cache.usableRoutes externals range') :=
    ((range.perm 0 _).trans (range'.perm 0 _).symm).filterMap _
  rw [(publishes_iff all _ _ _).mp published, (publishes_iff all _ _ _).mp published']
  apply sameConfig_of_compatible _ perm
  intro r listed s listed'
  obtain ⟨a, member, usable⟩ := (mem_usableRoutes externals range cache r).mp listed
  obtain ⟨b, member', usable'⟩ := (mem_usableRoutes externals range cache s).mp listed'
  exact compatible a member b member' r s usable usable'

/-- The order of the routes does not matter exactly when the usable ones are no rivals, or when
the sync crashes in every order. -/
theorem publishes_orders_iff (externals : Externals) (hash64 : List IngressRouteSpec → UInt64)
    (cache : LocalCache) :
    (∀ range range' caRange caRange' config config',
      cache.Publishes externals hash64 range caRange config →
      cache.Publishes externals hash64 range' caRange' config' → SameConfig config config') ↔
      (∃ a ∈ GoMap.values cache.ingressMap, a.upstream = none) ∨
        ∀ a ∈ GoMap.values cache.ingressMap, ∀ b ∈ GoMap.values cache.ingressMap,
          usableEndpoints externals cache.endpointsMap a ≠ [] →
          usableEndpoints externals cache.endpointsMap b ≠ [] →
          Unrivalled externals cache.endpointsMap a b := by
  by_cases all : cache.ingressMap.All HasUpstream
  · have set : ¬ ∃ a ∈ GoMap.values cache.ingressMap, a.upstream = none := by
      rintro ⟨a, member, unset⟩
      obtain ⟨key, found⟩ := (GoMap.mem_values _ _).mp member
      simpa [HasUpstream, unset] using all key a found
    rw [or_iff_right set]
    constructor
    · intro same a member b member' endpoints endpoints'
      obtain ⟨r, usable⟩ := exists_usableRoute all member endpoints
      obtain ⟨s, usable'⟩ := exists_usableRoute all member' endpoints'
      rw [← compatible_iff usable usable']
      exact compatible_of_same all (fun range range' => same range range' .stored .stored)
        member member' usable usable'
    · intro unrivalled range range' caRange caRange' config config' published published'
      apply published.same published'
      intro a member b member' r s usable usable'
      rw [compatible_iff usable usable']
      exact unrivalled a member b member' ((usableRoute_eq_some_iff _ _ _ _).mp usable).1
        ((usableRoute_eq_some_iff _ _ _ _).mp usable').1
  · have unset : ∃ a ∈ GoMap.values cache.ingressMap, a.upstream = none := by
      rw [GoMap.All] at all
      push Not at all
      obtain ⟨key, a, found, unset⟩ := all
      exact ⟨a, (GoMap.mem_values _ _).mpr ⟨key, found⟩, by simpa [HasUpstream] using unset⟩
    constructor
    · intro _
      exact Or.inl unset
    · intro _ range range' caRange caRange' config config' published
      exact absurd published.hasUpstream all

def rivalBackend (service : String) : ServicePortName := ⟨⟨"default", service⟩, "http", .tcp⟩

/-- A route of every path of one host to this service, with an upstream. -/
def rivalRoute (service : String) : BaseIngressInfo :=
  { baseIngressInfo ⟨"example.com", none⟩ "/*" (rivalBackend service) with upstream := some {} }

/-- The route of this service is added, and an endpoint of the service. -/
def addRival (service endpoint : String) (cache : LocalCache) : LocalCache :=
  { cache with
    ingressMap := cache.ingressMap.insert ⟨rivalBackend service, "example.com", "/*"⟩
      (rivalRoute service)
    endpointsMap := cache.endpointsMap.insert (rivalBackend service) [⟨endpoint, "", "", ""⟩] }

/-- Two Ingresses send the same host and path to two services. -/
def rivalCache : LocalCache :=
  (newLocalCache.addRival "api" "10.0.0.1:80").addRival "web" "10.0.0.2:80"

/-- The host and path lead to the service whose route happens to be visited last. -/
theorem rivalCache_publishes_both :
    ∃ config config', rivalCache.Publishes exampleExternals (fun _ => 0) .stored .stored config ∧
      rivalCache.Publishes exampleExternals (fun _ => 0) .reversed .stored config' ∧
      (config.routes.lookup "example.com/*").map RouterSpec.service = some "default/api:http" ∧
      (config'.routes.lookup "example.com/*").map RouterSpec.service = some "default/web:http" :=
  ⟨_, _, ⟨_, rfl, rfl⟩, ⟨_, rfl, rfl⟩, by decide +kernel, by decide +kernel⟩

end LocalCache
end ErieCanal.Cache
