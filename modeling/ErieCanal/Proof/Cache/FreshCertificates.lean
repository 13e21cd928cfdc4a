import ErieCanal.Proof.Cache.GhostRoutes

namespace ErieCanal.Cache
open Lib CoreV1 NetworkingV1 Route IngressPipy

/-- This is what a route takes from the Secrets. -/
structure RouteCertificates where
  certificate : Option CertificateSpec
  trustedCA : Option CertificateSpec
  upstreamSSLCert : Option (Option CertificateSpec)
  deriving DecidableEq

def certificates (info : BaseIngressInfo) : RouteCertificates :=
  ⟨info.certificate, info.trustedCA, info.upstream.map UpstreamSpec.sslCert⟩

namespace LocalCache
variable {externals : Externals}

/-- Every route of the map has the certificates that an existing valid Ingress has for it now. -/
def FreshCertificates (externals : Externals) (cache : LocalCache) : Prop :=
  ∀ key info, cache.ingressMap.lookup key = some info →
    ∃ name ing now, cache.listers.ingresses.lookup name = some ing ∧
      isValidPipyIngress cache.defaultIngressClass ing ∧
        GoMap.find (ingressToIngressMap externals cache.listers (some ing)) key = some now ∧
          certificates now = certificates info

/-- A Secret that changes leaves the certificates of the valid Ingresses as they are. -/
def KeepsCertificates (externals : Externals) (cache : LocalCache) : IngressFeedEvent → Prop
  | .secretStored key secret =>
      ∀ ing ∈ GoMap.values cache.listers.ingresses,
        isValidPipyIngress cache.defaultIngressClass ing →
          (ingressToIngressMap externals (cache.feed externals (.secretStored key secret)).listers
              (some ing)).map (GoMap.mapValues certificates) =
            (ingressToIngressMap externals cache.listers (some ing)).map
              (GoMap.mapValues certificates)
  | _ => True

theorem find_map_certificates (map : Option IngressMap) (key : RouteKey) :
    (GoMap.find map key).map certificates =
      GoMap.find (map.map (GoMap.mapValues certificates)) key := by
  cases map with
  | none => rfl
  | some map => exact (GoMap.lookup_mapValues certificates map key).symm

theorem KeepsCertificates.keepsSeen {cache : LocalCache} {event : IngressFeedEvent}
    (keeps : KeepsCertificates externals cache event) :
    KeepsSeen externals certificates cache event := by
  cases event with
  | secretStored key secret =>
      funext name query
      simp only [routes, contribution, validIngressMap, find_map_certificates]
      cases kept : (cache.listers.ingresses.lookup name).filter
          (isValidPipyIngress cache.defaultIngressClass) with
      | none =>
          have after : ((cache.feed externals (.secretStored key secret)).listers.ingresses.lookup
            name).filter (isValidPipyIngress
              (cache.feed externals (.secretStored key secret)).defaultIngressClass) = none := kept
          rw [after]
          rfl
      | some ing =>
          have after : ((cache.feed externals (.secretStored key secret)).listers.ingresses.lookup
            name).filter (isValidPipyIngress
              (cache.feed externals (.secretStored key secret)).defaultIngressClass) =
                some ing := kept
          obtain ⟨stored, valid⟩ := Option.filter_eq_some_iff.mp kept
          rw [after, keeps ing ((GoMap.mem_values _ ing).mpr ⟨name, stored⟩) valid]
  | _ => trivial

theorem RoutesAccounted.freshCertificates {cache : LocalCache}
    (known : RoutesAccounted externals certificates cache) (drained : cache.ingressChanges = ∅) :
    FreshCertificates externals cache := by
  intro key info found
  have accounted := known.accounted
  rw [drained] at accounted
  obtain ⟨name, contributes⟩ := accounted.source found
  obtain ⟨ing, stored, valid, translated⟩ := validIngressMap_of_contributes contributes
  obtain ⟨now, computed, same⟩ := Option.map_eq_some_iff.mp translated
  exact ⟨name, ing, now, stored, valid, computed, same⟩

/-- In every run in which no valid Ingress becomes invalid and no Secret changes the certificates
of a valid Ingress, a sync leaves routes with fresh certificates. -/
theorem run_freshCertificates (listers : Listers) {events : List IngressFeedEvent}
    {final : LocalCache}
    (guarded : (feedMachine externals).Guarded
      (fun cache event => StaysValid externals cache event ∧ KeepsCertificates externals cache event)
      (withListers listers) events)
    (reached : (feedMachine externals).run (withListers listers) events = some final)
    (order : SyncOrder) (servicesChanged : Bool) :
    FreshCertificates externals (final.syncIngress externals order servicesChanged) := by
  have known : RoutesAccounted externals certificates final := Machine.run_invariant _
    (fun cache event next known guarded stepped =>
      known.step guarded.1 guarded.2.keepsSeen stepped)
    (routesAccounted_withListers externals certificates listers) guarded reached
  have updated := known.updateIngressMap order 0
  cases servicesChanged with
  | false => exact updated.freshCertificates rfl
  | true => exact (updated.refreshIngress order).freshCertificates rfl

instance (cache : LocalCache) : ∀ event, Decidable (KeepsCertificates externals cache event)
  | .secretStored key secret => inferInstanceAs (Decidable
      (∀ ing ∈ GoMap.values cache.listers.ingresses,
        isValidPipyIngress cache.defaultIngressClass ing →
          (ingressToIngressMap externals (cache.feed externals (.secretStored key secret)).listers
              (some ing)).map (GoMap.mapValues certificates) =
            (ingressToIngressMap externals cache.listers (some ing)).map
              (GoMap.mapValues certificates)))
  | .ingress _ | .ingressClassAdd _ | .ingressClassUpdate _ _ | .ingressClassDelete _
  | .updateIngressMap _ | .refreshIngress _ => inferInstanceAs (Decidable True)

/-- The Ingress takes the certificate of its route from the Secret `cert`. -/
def securedIngress : Ingress :=
  { classedIngress "pipy" with tls := [⟨["example.com"], "cert"⟩] }

def certificateSecret (cert : String) : Secret :=
  ⟨(AList.singleton "tls.crt" cert).insert "tls.key" "key"⟩

/-- A Secret changes after the first sync, and a resync hands on the same Ingress again. -/
def renewalRun (name : String) : List IngressFeedEvent :=
  [.secretStored ⟨"default", "cert"⟩ (some (certificateSecret "first")),
    .ingress (.stored securedIngress), .updateIngressMap .stored,
    .secretStored ⟨"default", name⟩ (some (certificateSecret "second")),
    .ingress (.stored securedIngress)]

theorem run_freshCertificates_other :
    ∃ final, (feedMachine exampleExternals).run (withListers .empty) (renewalRun "other") =
        some final ∧
      FreshCertificates exampleExternals (final.syncIngress exampleExternals .stored false) :=
  ⟨_, rfl, @run_freshCertificates exampleExternals .empty (renewalRun "other") _
    (by decide +kernel) rfl .stored false⟩

/-- The route keeps the certificate of the Secret before its renewal. -/
theorem run_stale_certificate :
    ∃ final, (feedMachine exampleExternals).run (withListers .empty) (renewalRun "cert") =
        some final ∧
      ¬ FreshCertificates exampleExternals
        (final.syncIngress exampleExternals .stored false) := by
  refine ⟨_, rfl, fun fresh => ?_⟩
  obtain ⟨name, ing, now, stored, _, computed, same⟩ :=
    fresh ⟨⟨⟨"default", "web"⟩, "http", .tcp⟩, "example.com", "/*"⟩ _ rfl
  have member : ing ∈ [securedIngress] := (GoMap.mem_values _ ing).mpr ⟨name, stored⟩
  rw [List.mem_singleton.mp member] at computed
  cases computed
  exact absurd (congrArg RouteCertificates.certificate same) (by decide +kernel)

end LocalCache
end ErieCanal.Cache
