import ErieCanal.Proof.Cache.UpstreamSet

namespace ErieCanal.Cache
open Lib CoreV1 NetworkingV1 Route IngressPipy

/-- A certificate is read from the data of one Secret. -/
def certificateOf (secret : Secret) : CertificateSpec where
  cert := (secret.data.lookup "tls.crt").getD ""
  key := (secret.data.lookup "tls.key").getD ""
  ca := (secret.data.lookup "ca.crt").getD ""

/-- The certificates of a route come from these Secrets; its own one has both its parts. -/
structure FromSecrets (secrets : Secret → Prop) (info : BaseIngressInfo) : Prop where
  certificate : ∀ c, info.certificate = some c → c.cert ≠ "" ∧ c.key ≠ "" ∧
    ∃ secret, secrets secret ∧ c = certificateOf secret
  trustedCA : ∀ c, info.trustedCA = some c → ∃ secret, secrets secret ∧ c = certificateOf secret
  sslCert : ∀ upstream c, info.upstream = some upstream → upstream.sslCert = some c →
    ∃ secret, secrets secret ∧ c = certificateOf secret

theorem FromSecrets.mono {secrets more : Secret → Prop} {info : BaseIngressInfo}
    (fromSecrets : FromSecrets secrets info) (grown : ∀ secret, secrets secret → more secret) :
    FromSecrets more info where
  certificate c found := by
    obtain ⟨cert, key, secret, known, rfl⟩ := fromSecrets.certificate c found
    exact ⟨cert, key, secret, grown secret known, rfl⟩
  trustedCA c found := by
    obtain ⟨secret, known, rfl⟩ := fromSecrets.trustedCA c found
    exact ⟨secret, grown secret known, rfl⟩
  sslCert upstream c found named := by
    obtain ⟨secret, known, rfl⟩ := fromSecrets.sslCert upstream c found named
    exact ⟨secret, grown secret known, rfl⟩

theorem fromSecrets_base (secrets : Secret → Prop) (rule : IngressRule) (path : String)
    (svcPortName : ServicePortName) :
    FromSecrets secrets (baseIngressInfo rule path svcPortName) := by
  constructor
  · intro c found
    cases found
  · intro c found
    cases found
  · intro upstream c found
    cases found

section Translation
variable {externals : Externals} {listers : Listers} {secrets : Secret → Prop} {ing : Ingress}
  {rule : IngressRule} {info : BaseIngressInfo} {c : CertificateSpec}
  (listed : ∀ key secret, listers.secrets key = some secret → secrets secret)
include listed

theorem fetchSSLCert_origin {ns name : String}
    (fetched : fetchSSLCert listers ing ns name = some c) :
    ∃ secret, secrets secret ∧ c = certificateOf secret := by
  simp only [fetchSSLCert] at fetched
  split at fetched
  · cases fetched
  · obtain ⟨secret, found, rfl⟩ := Option.map_eq_some_iff.mp fetched
    exact ⟨secret, listed _ secret found, rfl⟩

theorem FromSecrets.enrichTLS (fromSecrets : FromSecrets secrets info) :
    FromSecrets secrets (Cache.enrichTLS externals listers rule ing info) := by
  have secured : FromSecrets secrets { info with isTLS := true } :=
    ⟨fromSecrets.certificate, fromSecrets.trustedCA, fromSecrets.sslCert⟩
  simp only [Cache.enrichTLS]
  split
  · split
    · split
      next cert fetched =>
        split
        next whole =>
          refine ⟨?_, fromSecrets.trustedCA, fromSecrets.sslCert⟩
          intro c same
          cases same
          exact ⟨whole.1, whole.2, fetchSSLCert_origin listed fetched⟩
        next => exact secured
      next => exact secured
    · exact secured
  · exact fromSecrets

/-- The upstream gets its certificate from the Secret of its annotation. -/
theorem enrichUpstream_origin {value : PipyIngressAnnotation → String}
    {upstream : Option UpstreamSpec}
    (origin : ∀ given c, upstream = some given → given.sslCert = some c →
      ∃ secret, secrets secret ∧ c = certificateOf secret)
    (found : (enrichUpstream listers ing value upstream).sslCert = some c) :
    ∃ secret, secrets secret ∧ c = certificateOf secret := by
  have kept (same : (upstream.getD {}).sslCert = some c) :
      ∃ secret, secrets secret ∧ c = certificateOf secret := by
    cases upstream with
    | none => cases same
    | some given => exact origin given c rfl same
  simp only [enrichUpstream] at found
  split at found
  · split at found
    · exact fetchSSLCert_origin listed found
    · split at found
      · exact kept found
      · exact kept found
  · split at found
    · exact kept found
    · exact kept found

/-- The trusted CA is that of its annotation, or else that of the certificate. -/
theorem FromSecrets.enrichTrustedCA {value : PipyIngressAnnotation → String}
    (fromSecrets : FromSecrets secrets info)
    (found : Cache.enrichTrustedCA listers ing value info = some c) :
    ∃ secret, secrets secret ∧ c = certificateOf secret := by
  have sources : (∃ ns name, fetchSSLCert listers ing ns name = some c) ∨
      info.certificate = some c ∨ info.trustedCA = some c := by
    rw [Cache.enrichTrustedCA] at found
    grind
  rcases sources with ⟨ns, name, fetched⟩ | certified | trusted
  · exact fetchSSLCert_origin listed fetched
  · exact (fromSecrets.certificate c certified).2.2
  · exact fromSecrets.trustedCA c trusted

theorem FromSecrets.enrichIngressInfo (fromSecrets : FromSecrets secrets info) :
    FromSecrets secrets (Cache.enrichIngressInfo externals listers rule ing info) := by
  have secured : FromSecrets secrets (Cache.enrichTLS externals listers rule ing info) :=
    fromSecrets.enrichTLS listed
  simp only [Cache.enrichIngressInfo]
  split
  · exact secured
  · refine ⟨secured.certificate, ?_, ?_⟩
    · intro c found
      dsimp only at found
      exact secured.enrichTrustedCA listed found
    · intro upstream c same found
      cases same
      exact enrichUpstream_origin listed secured.sslCert found

theorem addPath_fromSecrets {path : HTTPIngressPath}
    {ingressMap : IngressMap} (all : ingressMap.All (FromSecrets secrets)) :
    (addPath externals listers ing rule ingressMap path).All (FromSecrets secrets) := by
  rw [addPath]
  split
  · exact all
  next service backend =>
    split
    · exact all
    next svcPortName named =>
      rw [newBaseIngressInfo]
      cases path.pathType with
      | implementationSpecific => exact all
      | exact =>
          dsimp only
          split
          · exact all
          · exact all.insert _ ((fromSecrets_base secrets _ _ _).enrichIngressInfo listed)
      | pathPrefix =>
          dsimp only
          split
          · exact all
          · exact all.insert _ ((fromSecrets_base secrets _ _ _).enrichIngressInfo listed)

theorem ingressToIngressMap_fromSecrets {ing : Option Ingress} {ingressMap : IngressMap}
    (translated : ingressToIngressMap externals listers ing = some ingressMap) :
    ingressMap.All (FromSecrets secrets) := by
  cases ing with
  | none => cases translated
  | some ing =>
      rw [ingressToIngressMap, Option.some.injEq] at translated
      rw [← translated]
      refine List.foldlRecOn ing.rules _ GoMap.all_empty fun map all rule _ => ?_
      exact List.foldlRecOn (rule.http.getD []) _ all fun map all path _ =>
        addPath_fromSecrets listed all

end Translation

namespace LocalCache
variable {externals : Externals} {hash64 : List IngressRouteSpec → UInt64}
  {cache next : LocalCache} {event : CacheEvent}

/-- An event leaves the routes as they are, tracks an Ingress or applies the tracked changes. -/
inductive Routed (externals : Externals) (cache next : LocalCache) : Prop where
  | kept (stored : next.ingressMap = cache.ingressMap)
      (pending : next.ingressChanges = cache.ingressChanges)
  | tracked (oldIngress ingress : Option Ingress) (stored : next.ingressMap = cache.ingressMap)
      (pending : next.ingressChanges =
        (cache.onIngressUpdate externals oldIngress ingress).ingressChanges)
  | applied (order : SyncOrder) (index : Nat)
      (stored : next.ingressMap = (cache.updateIngressMap order index).ingressMap)
      (pending : next.ingressChanges = (cache.updateIngressMap order index).ingressChanges)

theorem updateDefaultIngressClass_kept (ingClass : IngressClass) (name : String) :
    Routed externals cache (cache.updateDefaultIngressClass ingClass name) ∧
      (cache.updateDefaultIngressClass ingClass name).listers.secrets = cache.listers.secrets := by
  rw [updateDefaultIngressClass]
  split <;> exact ⟨.kept rfl rfl, rfl⟩

/-- No event but that of a Secret changes what the lister has of the Secrets. -/
theorem handle_cases (handled : cache.handle externals hash64 event = some next) :
    Routed externals cache next ∧ (next.listers.secrets = cache.listers.secrets ∨
      ∃ key secret, event = .secretStored key secret ∧
        next.listers.secrets = Function.update cache.listers.secrets key secret) := by
  cases event with
  | serviceStored key service => cases handled; exact ⟨.kept rfl rfl, .inl rfl⟩
  | serviceServed key service => cases handled; exact ⟨.kept rfl rfl, .inl rfl⟩
  | secretStored key secret => cases handled; exact ⟨.kept rfl rfl, .inr ⟨key, secret, rfl, rfl⟩⟩
  | ingressStored key ingress =>
      cases handled
      cases ingress <;> exact ⟨.kept rfl rfl, .inl rfl⟩
  | endpointsUpdate oldEndpoints endpoints => cases handled; exact ⟨.kept rfl rfl, .inl rfl⟩
  | ingressUpdate oldIngress ingress =>
      cases handled
      exact ⟨.tracked oldIngress ingress rfl rfl, .inl rfl⟩
  | ingressClassAdd ingClass =>
      cases handled
      exact (updateDefaultIngressClass_kept ingClass _).imp_right Or.inl
  | ingressClassUpdate oldClass ingClass =>
      rw [LocalCache.handle] at handled
      split at handled
      · cases handled
        exact ⟨.kept rfl rfl, .inl rfl⟩
      · cases handled
        exact (updateDefaultIngressClass_kept ingClass _).imp_right Or.inl
  | ingressClassDelete ingClass =>
      cases handled
      exact (updateDefaultIngressClass_kept ingClass _).imp_right Or.inl
  | syncRoutes order servicesChanged =>
      rw [LocalCache.handle] at handled
      split at handled
      · cases handled
        cases servicesChanged <;> exact ⟨.applied order 0 rfl rfl, .inl rfl⟩
      · cases handled
  | refreshNext =>
      rw [LocalCache.handle] at handled
      split at handled
      next ing rest listed =>
        cases handled
        rw [LocalCache.refreshNext]
        split
        · exact ⟨.tracked none (some ing) rfl rfl, .inl rfl⟩
        · exact ⟨.kept rfl rfl, .inl rfl⟩
      next => cases handled
  | refreshDone order =>
      rw [LocalCache.handle] at handled
      split at handled
      · cases handled
        exact ⟨.applied order 1 rfl rfl, .inl rfl⟩
      · cases handled

/-- Every stored route, and every one that is about to be stored, has the property. -/
def AllRoutes (property : BaseIngressInfo → Prop) (cache : LocalCache) : Prop :=
  cache.ingressMap.All property ∧ Changes.CurrentAll property cache.ingressChanges

section Routes
variable {property : BaseIngressInfo → Prop}

theorem AllRoutes.congr {other : LocalCache} (all : cache.AllRoutes property)
    (stored : other.ingressMap = cache.ingressMap)
    (pending : other.ingressChanges = cache.ingressChanges) : other.AllRoutes property :=
  ⟨stored ▸ all.1, pending ▸ all.2⟩

theorem AllRoutes.mono {weaker : BaseIngressInfo → Prop} (all : cache.AllRoutes property)
    (weakens : ∀ info, property info → weaker info) : cache.AllRoutes weaker :=
  ⟨fun key info found => weakens info (all.1 key info found),
    fun name change found current taken key info held =>
      weakens info (all.2 name change found current taken key info held)⟩

theorem AllRoutes.updateIngressMap (all : cache.AllRoutes property) (order : SyncOrder)
    (index : Nat) : (cache.updateIngressMap order index).AllRoutes property :=
  ⟨all.2.apply all.1 order.ingressChanges index, GoMap.all_empty⟩

variable (translates : ∀ ing ingressMap,
  ingressToIngressMap externals cache.listers ing = some ingressMap → ingressMap.All property)
include translates

theorem AllRoutes.onIngressUpdate (all : cache.AllRoutes property)
    (oldIngress ingress : Option Ingress) :
    (cache.onIngressUpdate externals oldIngress ingress).AllRoutes property := by
  refine ⟨all.1, ?_⟩
  rw [LocalCache.onIngressUpdate, IngressChanges.track]
  split
  · exact all.2
  · split
    · exact Changes.CurrentAll.update all.2 _ _ (translates ingress)
    · exact all.2

/-- Whatever the cache handles, its routes are translations with the listers of that moment. -/
theorem AllRoutes.handle (all : cache.AllRoutes property)
    (handled : cache.handle externals hash64 event = some next) : next.AllRoutes property := by
  cases (handle_cases handled).1 with
  | kept stored pending => exact all.congr stored pending
  | tracked oldIngress ingress stored pending =>
      exact (all.onIngressUpdate translates oldIngress ingress).congr stored pending
  | applied order index stored pending =>
      exact (all.updateIngressMap order index).congr stored pending

end Routes

/-- The Secrets that the informer has stored in these events. -/
def storedSecrets (past : List CacheEvent) (secret : Secret) : Prop :=
  ∃ key, CacheEvent.secretStored key (some secret) ∈ past

theorem storedSecrets_append {past : List CacheEvent} {secret : Secret}
    (stored : storedSecrets past secret) : storedSecrets (past ++ [event]) secret := by
  obtain ⟨key, member⟩ := stored
  exact ⟨key, List.mem_append_left _ member⟩

theorem secrets_handle {key : NamespacedName} {secret : Secret}
    (handled : cache.handle externals hash64 event = some next)
    (found : next.listers.secrets key = some secret) :
    cache.listers.secrets key = some secret ∨ event = .secretStored key (some secret) := by
  rcases (handle_cases handled).2 with same | ⟨stored, value, rfl, updated⟩
  · exact .inl (same ▸ found)
  · rw [updated] at found
    by_cases same : key = stored
    · subst same
      rw [Function.update_self] at found
      exact .inr (by rw [found])
    · rw [Function.update_of_ne same] at found
      exact .inl found

/-- The Secrets of the lister and the certificates of all routes were delivered in the past. -/
structure Delivered (past : List CacheEvent) (cache : LocalCache) : Prop where
  secrets : ∀ key secret, cache.listers.secrets key = some secret → storedSecrets past secret
  routes : cache.AllRoutes (FromSecrets (storedSecrets past))

theorem delivered_new : Delivered [] newLocalCache := by
  refine ⟨?_, GoMap.all_empty, GoMap.all_empty⟩
  intro key secret found
  cases found

theorem Delivered.step {past : List CacheEvent} (delivered : Delivered past cache)
    (stepped : (machine externals hash64).step cache event = some next) :
    Delivered (past ++ [event]) next := by
  have handled : cache.handle externals hash64 event = some next := by
    simp only [machine] at stepped
    split at stepped
    · cases stepped
    · exact stepped
  constructor
  · intro key secret found
    rcases secrets_handle handled found with before | rfl
    · exact storedSecrets_append (delivered.secrets key secret before)
    · exact ⟨key, List.mem_append_right _ (List.mem_singleton_self _)⟩
  · refine (AllRoutes.handle ?_ delivered.routes handled).mono fun info origin =>
      origin.mono fun secret => storedSecrets_append
    intro ing ingressMap translated
    exact ingressToIngressMap_fromSecrets delivered.secrets translated

/-- In every run the certificates of the routes come from Secrets that were delivered. -/
theorem run_fromSecrets {steps : List CacheEvent}
    (reached : (machine externals hash64).run newLocalCache steps = some cache) :
    cache.ingressMap.All (FromSecrets (storedSecrets steps)) := by
  have delivered : Delivered ([] ++ steps) cache := (machine externals hash64).run_history
    (fun past _ _ _ known stepped => known.step stepped) delivered_new reached
  exact delivered.routes.1

/-- The published routes have the certificates of the routes in the ingress map. -/
theorem published_fromSecrets {steps : List CacheEvent} {range : RangeOrder BaseIngressInfo}
    {data : IngressData}
    (reached : (machine externals hash64).run newLocalCache steps = some cache)
    (built : cache.buildIngressConfig externals hash64 range = some data) {r : IngressRouteSpec}
    (member : r ∈ data.routes) :
    ∃ info, FromSecrets (storedSecrets steps) info ∧ r.tls.certificate = info.certificate ∧
      r.tls.trustedCA = info.trustedCA ∧
      ∃ upstream, info.upstream = some upstream ∧
        r.balancer.upstream.sslCert = upstream.sslCert := by
  have all := hasUpstream_of_buildIngressConfig built
  rw [buildIngressConfig_eq externals hash64 range cache all, Option.some.injEq] at built
  rw [← built] at member
  obtain ⟨info, visited, usable⟩ := (mem_usableRoutes externals range cache r).mp member
  obtain ⟨key, found⟩ := (GoMap.mem_values _ _).mp visited
  obtain ⟨-, upstream, present, rfl⟩ := (usableRoute_eq_some_iff externals _ info r).mp usable
  exact ⟨info, run_fromSecrets reached key info found, rfl, rfl, upstream, present, rfl⟩

end LocalCache
end ErieCanal.Cache
