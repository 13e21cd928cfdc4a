import ErieCanal.Proof.Cache.IngressTables
import ErieCanal.Proof.Cache.SecretOrigins
import ErieCanal.Proof.Cache.UpstreamSet
import ErieCanal.Proof.Proxy.Certificates
import ErieCanal.Proof.Proxy.UpstreamTLS

namespace ErieCanal.Proxy
open Lib CoreV1 NetworkingV1 Route Cache LocalCache

/-- The file `ingress.json` has the configuration that was published. -/
def ingressJson (config : IngressConfig) : IngressJson := ⟨config.certificates, config.trustedCAs⟩

/-- The certificate and the key are those of one Secret that was delivered. -/
def PairOf (steps : List CacheEvent) (cert key : String) : Prop :=
  ∃ secret, storedSecrets steps secret ∧ secret.data.lookup "tls.crt" = some cert ∧
    secret.data.lookup "tls.key" = some key

theorem eq_some_of_getD {text : Option String} (present : text.getD "" ≠ "") :
    text = some (text.getD "") := by
  cases text with
  | none => exact absurd rfl present
  | some text => rfl

theorem pairOf_certificateOf {steps : List CacheEvent} {secret : Secret}
    (stored : storedSecrets steps secret) (cert : (certificateOf secret).cert ≠ "")
    (key : (certificateOf secret).key ≠ "") :
    PairOf steps (certificateOf secret).cert (certificateOf secret).key :=
  ⟨secret, stored, eq_some_of_getD cert, eq_some_of_getD key⟩

theorem truthy_of_ne {text : String} (present : text ≠ "") : truthy text = some text :=
  if_neg present

theorem ne_of_truthy {text : String} (found : ((some text).bind truthy).isSome) : text ≠ "" := by
  rintro rfl
  cases found

theorem eq_of_truthy {text given : String} (found : truthy given = some text) :
    given = text ∧ text ≠ "" := by
  rw [truthy] at found
  split at found
  · cases found
  next present =>
    cases found
    exact ⟨rfl, present⟩

section Pipeline
variable {externals : Externals} {hash64 : List IngressRouteSpec → UInt64} {cache : LocalCache}
  {steps : List CacheEvent} {range : RangeOrder BaseIngressInfo} {data : IngressData}
  {hash : String → String} {tls : Option CertificateSpec} {g : Global}

/-- A client that asks for a name gets the pair of one delivered Secret, if the first published TLS
route of that host has a certificate; the pair of the proxy, if that route has none; and the default
certificate, if there is no such route. -/
theorem run_presents (reached : (machine externals hash64).run newLocalCache steps = some cache)
    (built : cache.buildIngressConfig externals hash64 range = some data)
    (caRange : RangeOrder String)
    (loaded : config hash tls (ingressJson (ingressConfigOf caRange data)) = some g)
    (names : List String) {sni : String} (named : sni ≠ "") :
    let presented := (certificate tls (handshakes tls names g) sni).1
    let first := data.routes.find? fun r => Secured r ∧ r.router.host = sni
    (∃ r c, first = some r ∧ r.tls.certificate = some c ∧
        presented = some ⟨some c.cert, some c.key⟩ ∧ PairOf steps c.cert c.key) ∨
      (∃ r, first = some r ∧ r.tls.certificate = none ∧
        presented = some ⟨tls.bind fun c => truthy c.cert, tls.bind fun c => truthy c.key⟩) ∨
      (first = none ∧ presented = defaultCertificate tls) := by
  obtain ⟨g', made, invariant⟩ := config_loaded hash tls (ingressJson (ingressConfigOf caRange data))
  cases loaded.symm.trans made
  intro given first
  have presents : given = ((first.map IngressRouteSpec.tls).map (presented tls)).or
      (defaultCertificate tls) := by
    change (certificate tls (handshakes tls names g) sni).1 = _
    rw [handshakes_eq invariant, certificate_eq invariant named]
    change (((ingressTables data.routes).certificates.lookup sni).map _).or _ = _
    rw [lookup_certificates]
  cases found : first with
  | none => exact .inr (.inr ⟨rfl, by rw [presents, found]; rfl⟩)
  | some r =>
      have member : r ∈ data.routes := List.mem_of_find?_eq_some found
      obtain ⟨info, origin, certified, -⟩ := published_fromSecrets reached built member
      have answer : given = some (presented tls r.tls) := by rw [presents, found]; rfl
      cases own : r.tls.certificate with
      | none =>
          refine .inr (.inl ⟨r, rfl, own, ?_⟩)
          rw [answer, presented, own]
          rfl
      | some c =>
          obtain ⟨cert, key, secret, stored, rfl⟩ := origin.certificate c (certified.symm.trans own)
          refine .inl ⟨r, _, rfl, own, ?_, pairOf_certificateOf stored cert key⟩
          rw [answer, presented, own]
          simp [truthy_of_ne cert, truthy_of_ne key]

end Pipeline

/-- The Ingress is served with TLS and shows the same certificate to its service. -/
def certifiedIngress : Ingress :=
  { exampleIngress (some (AList.singleton "pipy.ingress.kubernetes.io/upstream-ssl-secret" "cert")) with
    tls := [⟨["example.com"], "cert"⟩] }

def certifiedSecret : Secret :=
  ⟨((AList.singleton "tls.crt" "cert").insert "tls.key" "key").insert "ca.crt" "ca"⟩

def certifiedEndpoints : Endpoints where
  ns := "default"
  name := "web"
  subsets := [⟨[⟨"10.0.0.1", "", none⟩], [⟨"http", 8080, .tcp⟩]⟩]

def certifiedRun : List CacheEvent :=
  [.secretStored ⟨"default", "cert"⟩ (some certifiedSecret),
    .ingressStored ⟨"default", "web"⟩ (some certifiedIngress),
    .endpointsUpdate none (some certifiedEndpoints), .ingressUpdate none (some certifiedIngress),
    .syncRoutes .stored false]

theorem run_presents_example :
    ∃ cache data g, (machine exampleExternals fun _ => 0).run newLocalCache certifiedRun =
        some cache ∧
      cache.buildIngressConfig exampleExternals (fun _ => 0) .stored = some data ∧
      config id none (ingressJson (ingressConfigOf .stored data)) = some g ∧
      ∃ cert key, (certificate none (handshakes none ["other"] g) "example.com").1 =
        some ⟨some cert, some key⟩ ∧ PairOf certifiedRun cert key := by
  refine ⟨_, _, _, rfl, rfl, rfl, ?_⟩
  rcases @run_presents exampleExternals (fun _ => 0) _ certifiedRun .stored _ id none _ rfl rfl
    .stored rfl ["other"] "example.com" (by decide) with
    ⟨r, c, -, -, answer, pair⟩ | ⟨r, found, absent, -⟩ | ⟨absent, -⟩
  · exact ⟨_, _, answer, pair⟩
  · cases found
    cases absent
  · cases absent

/-- These are the variables of a stream after some messages. -/
def Script.afterMessages (script : Script) (messages : List (Selection × String)) : Context :=
  messages.foldl (fun context message => script.handleMessageStart message.1 message.2 context) {}

section Upstream
variable {externals : Externals} {hash64 : List IngressRouteSpec → UInt64} {cache : LocalCache}
  {steps : List CacheEvent} {range : RangeOrder BaseIngressInfo} {data : IngressData}
  {hash : String → String} {script : Script}

/-- The certificate of a service comes from one delivered Secret. -/
def Served (steps : List CacheEvent) (services : GoMap String BalancerSpec) : Prop :=
  ∀ service v c, services.lookup service = some v → v.upstream.sslCert = some c →
    ∃ secret, storedSecrets steps secret ∧ c = certificateOf secret

theorem run_served (reached : (machine externals hash64).run newLocalCache steps = some cache)
    (built : cache.buildIngressConfig externals hash64 range = some data)
    (caRange : RangeOrder String) : Served steps (ingressConfigOf caRange data).services := by
  intro service v c found named
  change (ingressTables data.routes).services.lookup service = some v at found
  rw [lookup_services] at found
  obtain ⟨r, last, rfl⟩ := Option.map_eq_some_iff.mp found
  have member : r ∈ data.routes := List.mem_of_mem_filter (List.mem_of_getLast? last)
  obtain ⟨info, origin, -, -, upstream, present, same⟩ := published_fromSecrets reached built member
  exact origin.sslCert upstream c present (same.symm.trans named)

/-- A stream has the certificate and the key of one delivered Secret, or none. -/
def Matched (steps : List CacheEvent) (context : Context) : Prop :=
  (context.serviceCertChain = none ∧ context.servicePrivateKey = none) ∨
    ∃ secret, storedSecrets steps secret ∧
      context.serviceCertChain = some (certificateOf secret).cert ∧
      context.servicePrivateKey = some (certificateOf secret).key

theorem Matched.handleMessageStart {services : GoMap String BalancerSpec} {context : Context}
    (matched : Matched steps context) (served : Served steps services) (selection : Selection)
    (route : String) :
    Matched steps ((Script.load hash services).handleMessageStart selection route context) := by
  rw [Script.handleMessageStart, Script.load, GoMap.lookup_mapValues]
  cases found : services.lookup route with
  | none => exact matched
  | some v =>
      simp only [Option.map_some, Matched, serviceEntry]
      cases named : v.upstream.sslCert with
      | none => exact .inl ⟨rfl, rfl⟩
      | some c =>
          obtain ⟨secret, stored, rfl⟩ := served route v c found named
          exact .inr ⟨secret, stored, rfl, rfl⟩

theorem matched_afterMessages (hash : String → String) {services : GoMap String BalancerSpec}
    (served : Served steps services) (messages : List (Selection × String)) :
    Matched steps ((Script.load hash services).afterMessages messages) :=
  List.foldlRecOn messages _ (.inl ⟨rfl, rfl⟩) fun _ matched message _ =>
    matched.handleMessageStart served message.1 message.2

/-- The script trusts no CA but those that the services name. -/
theorem mem_cas {services : GoMap String BalancerSpec} {ca : String}
    (trusted : ca ∈ (Script.load hash services).cas.upstreamIssuingCAs) :
    ∃ v ∈ GoMap.values services, issuingCA v = some ca := by
  have collected : ∀ other ∈ (Script.load hash services).cas.upstreamIssuingCAs,
      ∃ v ∈ GoMap.values services, issuingCA v = some other := by
    refine List.foldlRecOn (GoMap.values services) _
      (motive := fun cas : IssuingCAs => ∀ other ∈ cas.upstreamIssuingCAs,
        ∃ v ∈ GoMap.values services, issuingCA v = some other) ?_ ?_
    · intro other member
      cases member
    · intro cas known v member other listed
      cases named : issuingCA v with
      | none =>
          rw [named] at listed
          exact known other listed
      | some text =>
          simp only [named, IssuingCAs.addUpstreamIssuingCA] at listed
          split at listed
          · exact known other listed
          · rcases List.mem_append.mp listed with earlier | added
            · exact known other earlier
            · rw [List.mem_singleton.mp added]
              exact ⟨v, member, named⟩
  exact collected ca trusted

/-- The proxy shows a certificate only if the certificate and the key are both there. -/
theorem truthy_of_mTLS {selection : Selection} {route : String} {context : Context}
    (both : (script.handleMessageStart selection route context).mTLS = true) :
    ((script.handleMessageStart selection route context).serviceCertChain.bind truthy).isSome ∧
      ((script.handleMessageStart selection route context).servicePrivateKey.bind truthy).isSome := by
  have parts := Bool.and_eq_true_iff.mp both
  exact ⟨(Bool.and_eq_true_iff.mp parts.1).2, parts.2⟩

/-- Whatever messages a stream has carried, the proxy shows an upstream server the certificate and
the key of one delivered Secret, and it trusts no CA but those of delivered Secrets. -/
theorem run_connects (reached : (machine externals hash64).run newLocalCache steps = some cache)
    (built : cache.buildIngressConfig externals hash64 range = some data)
    (caRange : RangeOrder String)
    (loaded : script = Script.load hash (ingressConfigOf caRange data).services)
    (messages : List (Selection × String)) (selection : Selection) (route : String)
    {target : String} {shown : Option (String × String)} {trusted : List String}
    {sni : Option String} {verify : Bool}
    (connects : script.outboundHttp selection route (script.afterMessages messages) =
      .connectTLS target shown trusted sni verify) :
    (∀ cert key, shown = some (cert, key) → PairOf steps cert key) ∧
      ∀ ca ∈ trusted, ∃ secret, storedSecrets steps secret ∧
        secret.data.lookup "ca.crt" = some ca := by
  have served := run_served reached built caRange
  subst loaded
  have matched : Matched steps ((Script.load hash _).handleMessageStart selection route _) :=
    (matched_afterMessages hash served messages).handleMessageStart served selection route
  rw [Script.outboundHttp, Script.branch] at connects
  split at connects
  next picked =>
    split at connects
    next secured =>
      cases connects
      constructor
      · intro cert key same
        split at same
        next both =>
          cases same
          obtain ⟨cert, key⟩ := truthy_of_mTLS both
          rcases matched with ⟨absent, -⟩ | ⟨secret, stored, chain, secretKey⟩
          · simp [absent] at cert
          · rw [chain] at cert ⊢
            rw [secretKey] at key ⊢
            exact pairOf_certificateOf stored (ne_of_truthy cert) (ne_of_truthy key)
        next => cases same
      · intro ca member
        obtain ⟨v, visited, named⟩ := mem_cas member
        obtain ⟨service, found⟩ := (GoMap.mem_values _ _).mp visited
        obtain ⟨c, certified, text⟩ := Option.bind_eq_some_iff.mp named
        obtain ⟨secret, stored, rfl⟩ := served service v c found certified
        obtain ⟨same, present⟩ := eq_of_truthy text
        refine ⟨secret, stored, ?_⟩
        rw [← same] at present ⊢
        exact eq_some_of_getD present
    next => cases connects
  next => cases connects

end Upstream

theorem run_connects_example :
    ∃ cache data, (machine exampleExternals fun _ => 0).run newLocalCache certifiedRun =
        some cache ∧
      cache.buildIngressConfig exampleExternals (fun _ => 0) .stored = some data ∧
      ∃ target sni verify,
        (Script.load id (ingressConfigOf .stored data).services).outboundHttp .head
          "default/web:http" ((Script.load id (ingressConfigOf .stored data).services).afterMessages
            [(.head, "other")]) = .connectTLS target (some ("cert", "key")) ["ca"] sni verify ∧
        PairOf certifiedRun "cert" "key" :=
  ⟨_, _, rfl, rfl, _, _, _, rfl, (@run_connects exampleExternals (fun _ => 0) _ certifiedRun .stored
    _ id _ rfl rfl .stored rfl [(.head, "other")] .head "default/web:http" _ _ _ _ _ rfl).1 _ _ rfl⟩

end ErieCanal.Proxy
