import ErieCanal.Construction.Cache.Types
import ErieCanal.Construction.Route

namespace ErieCanal.IngressPipy
open Lib NetworkingV1

def ingressPipyClass : String := "pipy"
def noDefaultIngressClass : String := ""
def ingressAnnotationKey : String := "kubernetes.io/ingress.class"
def ingressClassAnnotationKey : String := "ingressclass.kubernetes.io/is-default-class"

/-- The constructors name the annotations that extend an Ingress. -/
inductive PipyIngressAnnotation where
  | rewriteFrom | rewriteTo | sessionSticky | loadBalancer
  | upstreamSSLName | upstreamSSLSecret | upstreamSSLVerify
  | tlsVerifyClient | tlsVerifyDepth | tlsTrustedCASecret
  deriving DecidableEq, Repr

def PipyIngressAnnotation.key : PipyIngressAnnotation → String
  | .rewriteFrom => "pipy.ingress.kubernetes.io/rewrite-target-from"
  | .rewriteTo => "pipy.ingress.kubernetes.io/rewrite-target-to"
  | .sessionSticky => "pipy.ingress.kubernetes.io/session-sticky"
  | .loadBalancer => "pipy.ingress.kubernetes.io/lb-type"
  | .upstreamSSLName => "pipy.ingress.kubernetes.io/upstream-ssl-name"
  | .upstreamSSLSecret => "pipy.ingress.kubernetes.io/upstream-ssl-secret"
  | .upstreamSSLVerify => "pipy.ingress.kubernetes.io/upstream-ssl-verify"
  | .tlsVerifyClient => "pipy.ingress.kubernetes.io/tls-verify-client"
  | .tlsVerifyDepth => "pipy.ingress.kubernetes.io/tls-verify-depth"
  | .tlsTrustedCASecret => "pipy.ingress.kubernetes.io/tls-trusted-ca-secret"

/-- The class annotation takes precedence over the class field of the spec. -/
def ingressClass (ing : Ingress) : String :=
  ((annotationOf ing.annotations ingressAnnotationKey).or ing.ingressClassName).getD ""

def isValidPipyIngress (defaultIngressClass : String) (ing : Ingress) : Bool :=
  if ingressClass ing = "" ∧
      (defaultIngressClass = ingressPipyClass ∨ defaultIngressClass = "") then true
  else ingressClass ing = ingressPipyClass

end ErieCanal.IngressPipy

namespace ErieCanal.Cache
open Lib CoreV1 NetworkingV1 Route IngressPipy

structure BaseIngressInfo where
  headers : GoMap String String
  host : String
  path : String
  backend : ServicePortName
  rewrite : List String
  sessionSticky : Bool
  lbType : Option AlgoBalancer
  upstream : Option UpstreamSpec
  certificate : Option CertificateSpec
  isTLS : Bool
  isWildcardHost : Bool
  verifyClient : Bool
  verifyDepth : Int
  trustedCA : Option CertificateSpec
  deriving DecidableEq

structure RouteKey where
  servicePortName : ServicePortName
  host : String
  path : String
  deriving DecidableEq, Repr

abbrev IngressMap := GoMap RouteKey BaseIngressInfo

abbrev IngressChanges := Changes NamespacedName RouteKey BaseIngressInfo

def isWildcardHost (host : String) : Bool :=
  host ≠ "" ∧ Strings.isWildcardDNS1123Subdomain host

/-- A prefix path becomes a wildcard path. -/
def prefixHostPath (path : String) : String :=
  if Strings.hasSuffix path "/*" then path
  else if Strings.hasSuffix path "/" then path ++ "*"
  else path ++ "/*"

def baseIngressInfo (rule : IngressRule) (path : String) (svcPortName : ServicePortName) :
    BaseIngressInfo where
  headers := ∅
  host := rule.host
  path := path
  backend := svcPortName
  rewrite := []
  sessionSticky := false
  lbType := none
  upstream := none
  certificate := none
  isTLS := false
  isWildcardHost := isWildcardHost rule.host
  verifyClient := false
  verifyDepth := 0
  trustedCA := none

def newBaseIngressInfo (rule : IngressRule) (path : HTTPIngressPath)
    (svcPortName : ServicePortName) : Option BaseIngressInfo :=
  match path.pathType with
  | .exact => some (baseIngressInfo rule path.path svcPortName)
  | .pathPrefix => some (baseIngressInfo rule (prefixHostPath path.path) svcPortName)
  | .implementationSpecific => none

section Tracker
variable (externals : Externals) (listers : Listers)

/-- The API server is asked only when the local store has no such service. -/
def findService (key : NamespacedName) : Option Service :=
  (listers.services key).or (listers.apiServices key)

def createSvcPortNameInstance (ns serviceName portName : String) : ServicePortName :=
  ⟨⟨ns, serviceName⟩, portName, .tcp⟩

def servicePortName (ns : String) (service : IngressServiceBackend) : Option ServicePortName :=
  if service.port.name ≠ "" then
    some (createSvcPortNameInstance ns service.name service.port.name)
  else if 0 < service.port.number then
    match findService listers ⟨ns, service.name⟩ with
    | none => none
    | some svc => (svc.ports.find? fun port => port.port = service.port.number).map fun port =>
        createSvcPortNameInstance ns service.name port.name
  else none

def fetchSSLCert (ing : Ingress) (ns name : String) : Option CertificateSpec :=
  let ns := if ns = "" then ing.ns else ns
  if name = "" then none else
    (listers.secrets ⟨ns, name⟩).map fun secret => {
      cert := (secret.data.lookup "tls.crt").getD ""
      key := (secret.data.lookup "tls.key").getD ""
      ca := (secret.data.lookup "ca.crt").getD "" }

/-- A TLS entry that lists the host wins; otherwise the first certificate that covers it. -/
def getTLSSecretName (rule : IngressRule) (ing : Ingress) : String :=
  let listed := ing.tls.find? fun tls =>
    tls.hosts.any fun tlsHost => Strings.toLower rule.host = Strings.toLower tlsHost
  let covered := ing.tls.find? fun tls =>
    tls.secretName ≠ "" ∧ (fetchSSLCert listers ing ing.ns tls.secretName).any fun cert =>
      cert.cert ≠ "" ∧ cert.key ≠ "" ∧ externals.verifyHostname cert.cert rule.host
  match listed with
  | some tls => tls.secretName
  | none => (covered.map IngressTLS.secretName).getD ""

/-- An empty name passes on the error of the key, which is nil for `namespace/`. -/
def secretNamespaceAndName (secretName : String) (ing : Ingress) : Except String (String × String) :=
  match Strings.splitMetaNamespaceKey secretName with
  | .error error => .error error
  | .ok (ns, name) =>
      if name = "" then .ok ("", "")
      else if ns = "" then .ok (ing.ns, name)
      else .ok (ns, name)

/-- The flag annotations accept these spellings; any other value counts as false. -/
def switchedOn (value : String) : Bool :=
  match Strings.toLower value with
  | "yes" | "true" | "1" | "on" => true
  | "no" | "false" | "0" | "off" | "" => false
  | _ => false

def enrichTLS (rule : IngressRule) (ing : Ingress) (info : BaseIngressInfo) : BaseIngressInfo :=
  if 0 < ing.tls.length then
    let info := { info with isTLS := true }
    let secretName := getTLSSecretName externals listers rule ing
    if secretName ≠ "" then
      match fetchSSLCert listers ing ing.ns secretName with
      | some cert => if cert.cert ≠ "" ∧ cert.key ≠ "" then { info with certificate := some cert }
          else info
      | none => info
    else info
  else info

/-- Each annotation that sets an upstream field creates the upstream first. -/
def enrichUpstream (ing : Ingress) (value : PipyIngressAnnotation → String)
    (upstream : Option UpstreamSpec) : UpstreamSpec :=
  let upstream := if value .upstreamSSLName ≠ "" then
      some { upstream.getD {} with sslName := value .upstreamSSLName }
    else upstream
  let upstream := if value .upstreamSSLSecret ≠ "" then
      match secretNamespaceAndName (value .upstreamSSLSecret) ing with
      | .ok (ns, name) => some { upstream.getD {} with sslCert := fetchSSLCert listers ing ns name }
      | .error _ => upstream
    else upstream
  { upstream.getD {} with sslVerify := switchedOn (value .upstreamSSLVerify) }

def lbType (value : String) : AlgoBalancer :=
  if value = "" then .roundRobin else (AlgoBalancer.ofString value).getD .roundRobin

def verifyDepth (value : String) : Int :=
  (Strings.atoi (if value = "" then "1" else value)).getD 1

def enrichTrustedCA (ing : Ingress) (value : PipyIngressAnnotation → String)
    (info : BaseIngressInfo) : Option CertificateSpec :=
  let trustedCA := match info.certificate with
    | some cert => if cert.ca ≠ "" then some cert else info.trustedCA
    | none => info.trustedCA
  if value .tlsTrustedCASecret ≠ "" then
    match secretNamespaceAndName (value .tlsTrustedCASecret) ing with
    | .ok (ns, name) => fetchSSLCert listers ing ns name
    | .error _ => trustedCA
  else trustedCA

/-- An Ingress without annotations returns before any of them is read. -/
def enrichIngressInfo (rule : IngressRule) (ing : Ingress) (info : BaseIngressInfo) :
    BaseIngressInfo :=
  let info := enrichTLS externals listers rule ing info
  match ing.annotations with
  | none => info
  | some annotations =>
      let value (name : PipyIngressAnnotation) : String := (annotations.lookup name.key).getD ""
      { info with
        rewrite := if value .rewriteFrom ≠ "" ∧ value .rewriteTo ≠ "" then
            [value .rewriteFrom, value .rewriteTo]
          else info.rewrite
        sessionSticky := switchedOn (value .sessionSticky)
        lbType := some (lbType (value .loadBalancer))
        upstream := some (enrichUpstream listers ing value info.upstream)
        verifyClient := switchedOn (value .tlsVerifyClient)
        verifyDepth := verifyDepth (value .tlsVerifyDepth)
        trustedCA := enrichTrustedCA listers ing value info }

/-- One path adds its route unless it resolves to no service port or its key is taken. -/
def addPath (ing : Ingress) (rule : IngressRule) (ingressMap : IngressMap)
    (path : HTTPIngressPath) : IngressMap :=
  match path.backend with
  | none => ingressMap
  | some service =>
      match servicePortName listers ing.ns service with
      | none => ingressMap
      | some svcPortName =>
          match newBaseIngressInfo rule path svcPortName with
          | none => ingressMap
          | some info =>
              let routeKey : RouteKey := ⟨svcPortName, info.host, info.path⟩
              if (ingressMap.lookup routeKey).isSome then ingressMap
              else ingressMap.insert routeKey (enrichIngressInfo externals listers rule ing info)

def ingressToIngressMap : Option Ingress → Option IngressMap
  | none => none
  | some ing => some (ing.rules.foldl (fun ingressMap rule =>
      (rule.http.getD []).foldl (addPath externals listers ing rule) ingressMap) ∅)

/-- This is the `Update` of the ingress tracker. -/
def IngressChanges.track (defaultIngressClass : String) (items : IngressChanges)
    (previous current : Option Ingress) : IngressChanges :=
  match current.or previous with
  | none => items
  | some ing =>
      if isValidPipyIngress defaultIngressClass ing then
        items.update ing.key (ingressToIngressMap externals listers previous)
          (ingressToIngressMap externals listers current)
      else items

end Tracker
end ErieCanal.Cache
