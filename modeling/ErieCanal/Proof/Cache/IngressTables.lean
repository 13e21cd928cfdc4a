import ErieCanal.Construction.Cache.Batches
import Mathlib.Data.List.Induction

namespace ErieCanal.Cache
open Lib Route Repo

/-- These are the tables after the loop over the routes. -/
def ingressTables (routes : List IngressRouteSpec) : IngressTables :=
  routes.foldl addIngressRoute ⟨∅, ∅, ∅, ∅⟩

/-- A TLS route of a named host has a certificate. -/
def Secured (r : IngressRouteSpec) : Prop := r.router.host ≠ "" ∧ r.tls.isTLS = true

instance decidableSecured (r : IngressRouteSpec) : Decidable (Secured r) :=
  inferInstanceAs (Decidable (_ ∧ _))

/-- An earlier TLS route of the same host cuts the round of a TLS route short. -/
def Skipped (earlier : List IngressRouteSpec) (r : IngressRouteSpec) : Prop :=
  Secured r ∧ ∃ s ∈ earlier, Secured s ∧ s.router.host = r.router.host

instance decidableSkipped (earlier : List IngressRouteSpec) (r : IngressRouteSpec) :
    Decidable (Skipped earlier r) :=
  inferInstanceAs (Decidable (_ ∧ _))

/-- The non-empty CA texts of a route. -/
def caTexts (tls : TLSSpec) : List String :=
  ((tls.trustedCA.toList ++ tls.certificate.toList).map CertificateSpec.ca).filter (· ≠ "")

theorem ingressTables_concat (routes : List IngressRouteSpec) (r : IngressRouteSpec) :
    ingressTables (routes ++ [r]) = addIngressRoute (ingressTables routes) r := by
  rw [ingressTables, List.foldl_append, List.foldl_cons, List.foldl_nil, ingressTables]

section Route
variable (tables : IngressTables) (r : IngressRouteSpec)

@[simp] theorem addIngressRoute_routes :
    (addIngressRoute tables r).routes = tables.routes.insert (routerKey r) r.router := by
  simp only [addIngressRoute]
  split <;> rfl

@[simp] theorem addIngressRoute_services :
    (addIngressRoute tables r).services = tables.services.insert r.router.service r.balancer := by
  simp only [addIngressRoute]
  split <;> rfl

/-- The first TLS route of a host gives its certificate. -/
theorem addIngressRoute_certificates :
    (addIngressRoute tables r).certificates =
      if Secured r ∧ tables.certificates.lookup r.router.host = none then
        tables.certificates.insert r.router.host r.tls
      else tables.certificates := by
  by_cases secured : Secured r
  · cases found : tables.certificates.lookup r.router.host with
    | none => simp [addIngressRoute, Secured, secured.1, secured.2, found]
    | some tls => simp [addIngressRoute, secured.1, secured.2, found]
  · have open' : ¬ (r.router.host ≠ "" ∧ r.tls.isTLS = true) := secured
    simp [addIngressRoute, secured, open']

theorem collectCA_isSome (cert : Option CertificateSpec) (trustedCAs : GoMap String Bool)
    (ca : String) :
    ((collectCA cert trustedCAs).lookup ca).isSome ↔
      ca ∈ (cert.toList.map CertificateSpec.ca).filter (· ≠ "") ∨ (trustedCAs.lookup ca).isSome := by
  cases cert with
  | none => simp [collectCA]
  | some cert =>
      simp only [collectCA]
      by_cases empty : cert.ca = ""
      · simp [empty]
      · by_cases same : ca = cert.ca
        · subst same
          simp [empty]
        · simp [empty, same, AList.lookup_insert_ne]

/-- A round that is not cut short collects the CAs of its route. -/
theorem addIngressRoute_trustedCAs (ca : String) :
    ((addIngressRoute tables r).trustedCAMap.lookup ca).isSome ↔
      (¬ (Secured r ∧ (tables.certificates.lookup r.router.host).isSome) ∧ ca ∈ caTexts r.tls) ∨
        (tables.trustedCAMap.lookup ca).isSome := by
  by_cases cut : Secured r ∧ (tables.certificates.lookup r.router.host).isSome = true
  · have kept : (addIngressRoute tables r).trustedCAMap = tables.trustedCAMap := by
      rw [addIngressRoute]
      exact (congrArg IngressTables.trustedCAMap (if_pos cut)).trans rfl
    simp [kept, cut]
  · have collected : (addIngressRoute tables r).trustedCAMap =
        collectCA r.tls.certificate (collectCA r.tls.trustedCA tables.trustedCAMap) := by
      rw [addIngressRoute]
      exact congrArg IngressTables.trustedCAMap (if_neg cut)
    rw [collected, collectCA_isSome, collectCA_isSome, caTexts, List.map_append, List.filter_append,
      List.mem_append]
    simp only [cut, not_false_eq_true, true_and]
    tauto

end Route

/-- The last route of a key gives its router entry. -/
theorem lookup_routes (routes : List IngressRouteSpec) (key : String) :
    (ingressTables routes).routes.lookup key =
      (routes.filter fun r => routerKey r = key).getLast?.map IngressRouteSpec.router := by
  have loop := @List.foldl_hom _ _ _ IngressTables.routes addIngressRoute
    (fun map r => map.insert (routerKey r) r.router) routes ⟨∅, ∅, ∅, ∅⟩
    fun tables r => (addIngressRoute_routes tables r).symm
  rw [ingressTables, ← loop, GoMap.lookup_foldl_insert, AList.lookup_empty, Option.or_none]

/-- The last route of a service gives its balancer entry. -/
theorem lookup_services (routes : List IngressRouteSpec) (service : String) :
    (ingressTables routes).services.lookup service =
      (routes.filter fun r => r.router.service = service).getLast?.map
        IngressRouteSpec.balancer := by
  have loop := @List.foldl_hom _ _ _ IngressTables.services addIngressRoute
    (fun map r => map.insert r.router.service r.balancer) routes ⟨∅, ∅, ∅, ∅⟩
    fun tables r => (addIngressRoute_services tables r).symm
  rw [ingressTables, ← loop, GoMap.lookup_foldl_insert, AList.lookup_empty, Option.or_none]

/-- A router entry comes from a route. -/
theorem exists_of_lookup_routes {routes : List IngressRouteSpec} {key : String} {router : RouterSpec}
    (found : (ingressTables routes).routes.lookup key = some router) :
    ∃ r ∈ routes, routerKey r = key ∧ r.router = router := by
  rw [lookup_routes, Option.map_eq_some_iff] at found
  obtain ⟨r, last, same⟩ := found
  obtain ⟨listed, named⟩ := (picks_getLast (fun r => routerKey r = key) routes).member r last
  exact ⟨r, listed, named, same⟩

/-- A route leaves the entry of a route with its key in the router table. -/
theorem exists_lookup_routes {routes : List IngressRouteSpec} {r : IngressRouteSpec}
    (listed : r ∈ routes) :
    ∃ s ∈ routes, routerKey s = routerKey r ∧
      (ingressTables routes).routes.lookup (routerKey r) = some s.router := by
  rw [lookup_routes]
  exact (picks_getLast (fun s => routerKey s = routerKey r) routes).exists_some listed rfl _

/-- A route leaves the entry of a route with its service in the balancer table. -/
theorem exists_lookup_services {routes : List IngressRouteSpec} {r : IngressRouteSpec}
    (listed : r ∈ routes) :
    ∃ s ∈ routes, s.router.service = r.router.service ∧
      (ingressTables routes).services.lookup r.router.service = some s.balancer := by
  rw [lookup_services]
  exact (picks_getLast (fun s => s.router.service = r.router.service) routes).exists_some listed rfl _

/-- The first TLS route of a host gives its certificate entry. -/
theorem lookup_certificates (routes : List IngressRouteSpec) (host : String) :
    (ingressTables routes).certificates.lookup host =
      (routes.find? fun r => Secured r ∧ r.router.host = host).map IngressRouteSpec.tls := by
  induction routes using List.reverseRecOn with
  | nil => rfl
  | append_singleton routes r ih =>
      rw [ingressTables_concat, addIngressRoute_certificates, List.find?_append, List.find?_singleton]
      by_cases here : Secured r ∧ r.router.host = host
      · obtain ⟨secured, rfl⟩ := here
        cases found : routes.find? fun s => Secured s ∧ s.router.host = r.router.host with
        | some first =>
            rw [found] at ih
            simp [ih]
        | none =>
            rw [found] at ih
            simp [ih, secured]
      · have kept : (if Secured r ∧ (ingressTables routes).certificates.lookup r.router.host = none
            then (ingressTables routes).certificates.insert r.router.host r.tls
            else (ingressTables routes).certificates).lookup host =
            (ingressTables routes).certificates.lookup host := by
          split
          · next first =>
              exact AList.lookup_insert_ne fun same => here ⟨first.1, same.symm⟩
          · rfl
        rw [kept, ih]
        simp [here]

theorem lookup_certificates_isSome (routes : List IngressRouteSpec) (host : String) :
    ((ingressTables routes).certificates.lookup host).isSome ↔
      ∃ r ∈ routes, Secured r ∧ r.router.host = host := by
  rw [lookup_certificates, Option.isSome_map, List.find?_isSome]
  simp

/-- The trusted CAs are those of the routes whose round is not cut short. -/
theorem lookup_trustedCAs (routes : List IngressRouteSpec) (ca : String) :
    ((ingressTables routes).trustedCAMap.lookup ca).isSome ↔
      ∃ earlier r later, routes = earlier ++ r :: later ∧ ¬ Skipped earlier r ∧
        ca ∈ caTexts r.tls := by
  induction routes using List.reverseRecOn with
  | nil => simp [ingressTables]
  | append_singleton routes r ih =>
      rw [ingressTables_concat, addIngressRoute_trustedCAs, lookup_certificates_isSome, ih]
      constructor
      · rintro (⟨going, own⟩ | ⟨earlier, s, later, rfl, going, own⟩)
        · exact ⟨routes, r, [], rfl, going, own⟩
        · exact ⟨earlier, s, later ++ [r], by simp, going, own⟩
      · rintro ⟨earlier, s, later, split, going, own⟩
        rcases List.eq_nil_or_concat later with rfl | ⟨later, last, rfl⟩
        · obtain ⟨rfl, same⟩ := List.append_inj' split rfl
          cases same
          exact Or.inl ⟨going, own⟩
        · rw [List.concat_eq_append, ← List.cons_append, ← List.append_assoc] at split
          obtain ⟨rfl, -⟩ := List.append_inj' split rfl
          exact Or.inr ⟨earlier, s, later, rfl, going, own⟩

/-- The batch that carries this configuration. -/
def ingressBatch (config : IngressConfig) : Batch RouteFile :=
  ⟨Routes.ingress.basepath, [Routes.ingress.item (.ingress config)]⟩

/-- The list holds, each once, the non-empty CA texts of all routes. -/
def ExactCAs (routes : List IngressRouteSpec) (trustedCAs : List String) : Prop :=
  trustedCAs.Nodup ∧ ∀ ca, ca ∈ trustedCAs ↔ ca ≠ "" ∧
    ∃ r ∈ routes, ∃ cert, (r.tls.trustedCA = some cert ∨ r.tls.certificate = some cert) ∧ cert.ca = ca

/-- Each CA of a route whose round is cut short is also the CA of a route whose round is not. -/
def CoveredCAs (routes : List IngressRouteSpec) : Prop :=
  ∀ earlier r later, routes = earlier ++ r :: later → Skipped earlier r → ∀ ca ∈ caTexts r.tls,
    ∃ earlier' s later', routes = earlier' ++ s :: later' ∧ ¬ Skipped earlier' s ∧ ca ∈ caTexts s.tls

theorem mem_caTexts (tls : TLSSpec) (ca : String) :
    ca ∈ caTexts tls ↔ ca ≠ "" ∧
      ∃ cert, (tls.trustedCA = some cert ∨ tls.certificate = some cert) ∧ cert.ca = ca := by
  simp only [caTexts, List.mem_filter, List.mem_map, List.mem_append, Option.mem_toList,
    decide_eq_true_eq]
  exact and_comm

/-- Without a loss the trusted CAs are those of all routes. -/
theorem CoveredCAs.lookup_trustedCAs {routes : List IngressRouteSpec} (covered : CoveredCAs routes)
    (ca : String) :
    ((ingressTables routes).trustedCAMap.lookup ca).isSome ↔ ∃ r ∈ routes, ca ∈ caTexts r.tls := by
  rw [Cache.lookup_trustedCAs]
  constructor
  · rintro ⟨earlier, r, later, rfl, -, own⟩
    exact ⟨r, by simp, own⟩
  · rintro ⟨r, listed, own⟩
    obtain ⟨earlier, later, split⟩ := List.append_of_mem listed
    by_cases cut : Skipped earlier r
    · exact covered earlier r later split cut ca own
    · exact ⟨earlier, r, later, split, cut, own⟩

theorem mem_trustedCAs (range : RangeOrder String) (data : IngressData) (ca : String) :
    ca ∈ (ingressConfigOf range data).trustedCAs ↔
      ((ingressTables data.routes).trustedCAMap.lookup ca).isSome := by
  rw [AList.lookup_isSome, AList.mem_keys]
  exact range.mem_order 0 _ ca

/-- The published list holds the CAs of all routes exactly when the cut rounds lose none. -/
theorem ingressBatches_exactCAs_iff (range : RangeOrder String) (data : IngressData) :
    (∃ config, ingressBatches range data = some [ingressBatch config] ∧
      ExactCAs data.routes config.trustedCAs) ↔ CoveredCAs data.routes := by
  have published : (∃ config, ingressBatches range data = some [ingressBatch config] ∧
      ExactCAs data.routes config.trustedCAs) ↔
      ExactCAs data.routes (ingressConfigOf range data).trustedCAs := by
    constructor
    · rintro ⟨config, rendered, exact⟩
      cases rendered
      exact exact
    · intro exact
      exact ⟨_, rfl, exact⟩
  rw [published]
  constructor
  · rintro ⟨-, exact⟩ earlier r later split _ ca own
    have listed : r ∈ data.routes := by simp [split]
    obtain ⟨filled, cert, carried⟩ := (mem_caTexts _ _).mp own
    exact (lookup_trustedCAs _ _).mp ((mem_trustedCAs _ _ _).mp
      ((exact ca).mpr ⟨filled, r, listed, cert, carried⟩))
  · intro covered
    refine ⟨(range.perm 0 _).nodup_iff.mpr (AList.keys_nodup _), fun ca => ?_⟩
    rw [mem_trustedCAs, covered.lookup_trustedCAs]
    simp only [mem_caTexts]
    constructor
    · rintro ⟨r, listed, filled, carried⟩
      exact ⟨filled, r, listed, carried⟩
    · rintro ⟨filled, r, listed, carried⟩
      exact ⟨r, listed, filled, carried⟩

/-- A TLS route of one host whose clients are checked against this CA. -/
def trustingRoute (path service ca : String) : IngressRouteSpec where
  router := ⟨"example.com", path, service, []⟩
  balancer := ⟨false, some .roundRobin, { endpoints := [⟨"10.0.0.1", 80⟩] }⟩
  tls := ⟨true, false, true, 1, none, some ⟨"", "", ca⟩⟩

/-- The second TLS route of the host brings another CA, and it is dropped. -/
theorem ingressBatches_drops_ca :
    ¬ ∃ config, ingressBatches RangeOrder.stored
        ⟨"", [trustingRoute "/a" "default/a" "ca-a", trustingRoute "/b" "default/b" "ca-b"]⟩ =
          some [ingressBatch config] ∧
      ExactCAs [trustingRoute "/a" "default/a" "ca-a", trustingRoute "/b" "default/b" "ca-b"]
        config.trustedCAs := by
  rintro ⟨config, rendered, -, exact⟩
  cases rendered
  have kept := (exact "ca-b").mpr
    ⟨by decide, _, List.mem_cons_of_mem _ List.mem_cons_self, _, Or.inl rfl, rfl⟩
  revert kept
  decide +kernel

end ErieCanal.Cache
