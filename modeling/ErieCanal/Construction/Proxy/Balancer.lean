import ErieCanal.Construction.Route
import ErieCanal.Lib.Range

namespace ErieCanal.Proxy
open Lib Route

/-- The empty text is not a truthy value. -/
def truthy (text : String) : Option String := if text = "" then none else some text

/-- The script keeps the issuing CAs of all services in two global variables. -/
structure IssuingCAs where
  upstreamMapIssuingCA : String → Bool
  upstreamIssuingCAs : List String

namespace IssuingCAs

def none : IssuingCAs := ⟨fun _ => false, []⟩

/-- A CA is added unless another one of the same hash is there. -/
def addUpstreamIssuingCA (hash : String → String) (ca : String) (cas : IssuingCAs) : IssuingCAs :=
  if cas.upstreamMapIssuingCA (hash ca) then cas
  else {
    upstreamMapIssuingCA := fun md5 => md5 == hash ca || cas.upstreamMapIssuingCA md5
    upstreamIssuingCAs := cas.upstreamIssuingCAs ++ [ca] }

end IssuingCAs

/-- An entry of the `services` table; `cache` tells whether the service is sticky. -/
structure ServiceEntry where
  targets : List String
  balancer : AlgoBalancer
  cache : Bool
  upstreamSSLName : Option String
  upstreamSSLVerify : Bool
  cert : Option String
  key : Option String

def serviceEntry (v : BalancerSpec) : ServiceEntry where
  targets := v.upstream.endpoints.map fun ep => ep.ip ++ ":" ++ toString ep.port
  balancer := v.balancer.getD .roundRobin
  cache := v.sticky
  upstreamSSLName := truthy v.upstream.sslName
  upstreamSSLVerify := v.upstream.sslVerify
  cert := v.upstream.sslCert.map CertificateSpec.cert
  key := v.upstream.sslCert.map CertificateSpec.key

/-- The CA of a service, if it names one. -/
def issuingCA (v : BalancerSpec) : Option String :=
  v.upstream.sslCert.bind fun cert => truthy cert.ca

/-- The script after it has been loaded with a configuration. -/
structure Script where
  cas : IssuingCAs
  services : GoMap String ServiceEntry

/-- The table of the services is built entry by entry; each entry may add its CA to the globals. -/
def Script.load (hash : String → String) (services : GoMap String BalancerSpec) : Script where
  cas := (GoMap.values services).foldl (fun cas v => match issuingCA v with
    | some ca => cas.addUpstreamIssuingCA hash ca
    | none => cas) .none
  services := GoMap.mapValues serviceEntry services

/-- A balancer picks one of its targets whenever it has one; which one depends on its state, on the
source address and on the caches of the stream. -/
structure Selection where
  pick : List String → Option String
  picks : ∀ targets, pick targets = none ↔ targets = []
  mem : ∀ targets target, pick targets = some target → target ∈ targets

/-- These variables belong to a stream and keep their values from one message to the next. -/
structure Context where
  target : Option String := none
  serviceSNI : Option String := none
  serviceVerify : Bool := false
  serviceCertChain : Option String := none
  servicePrivateKey : Option String := none
  connectTLS : Bool := false
  mTLS : Bool := false

/-- The proxy connects to the target, connects with TLS, or hands the message on. -/
inductive Outbound where
  | connect (target : String)
  | connectTLS (target : String) (certificate : Option (String × String)) (trusted : List String)
      (sni : Option String) (verify : Bool)
  | chain

namespace Script

/-- A message of a service sets the variables of the service; every message sets the last two. -/
def handleMessageStart (script : Script) (selection : Selection) (route : String)
    (context : Context) : Context :=
  let context := match script.services.lookup route with
    | some service => { context with
        serviceSNI := service.upstreamSSLName
        serviceVerify := service.upstreamSSLVerify
        serviceCertChain := service.cert
        servicePrivateKey := service.key
        target := selection.pick service.targets }
    | none => context
  let connectTLS := decide (0 < script.cas.upstreamIssuingCAs.length)
  { context with
    connectTLS
    mTLS := connectTLS && (context.serviceCertChain.bind truthy).isSome &&
      (context.servicePrivateKey.bind truthy).isSome }

/-- The target is a non-empty address. -/
def branch (script : Script) (context : Context) : Outbound :=
  match context.target with
  | some target =>
      if context.connectTLS then
        .connectTLS target
          (if context.mTLS then
            some (context.serviceCertChain.getD "", context.servicePrivateKey.getD "")
          else none)
          script.cas.upstreamIssuingCAs context.serviceSNI context.serviceVerify
      else .connect target
  | none => .chain

def outboundHttp (script : Script) (selection : Selection) (route : String) (context : Context) :
    Outbound :=
  script.branch (script.handleMessageStart selection route context)

end Script
end ErieCanal.Proxy
