import Mathlib.Init

namespace ErieCanal.Route

inductive AlgoBalancer where
  | roundRobin | hashing | leastWork
  deriving DecidableEq, Repr

/-- These are the balancer names that the proxy understands. -/
def AlgoBalancer.ofString : String → Option AlgoBalancer
  | "round-robin" => some .roundRobin
  | "hashing" => some .hashing
  | "least-work" => some .leastWork
  | _ => none

structure CertificateSpec where
  cert : String
  key : String
  ca : String
  deriving DecidableEq, Repr

structure UpstreamEndpoint where
  ip : String
  port : Int
  deriving DecidableEq, Repr

structure UpstreamSpec where
  sslName : String := ""
  sslCert : Option CertificateSpec := none
  sslVerify : Bool := false
  endpoints : List UpstreamEndpoint := []
  deriving DecidableEq, Repr

structure RouterSpec where
  host : String
  path : String
  service : String
  rewrite : List String
  deriving DecidableEq, Repr

/-- A route that was never enriched has no balancer name. -/
structure BalancerSpec where
  sticky : Bool
  balancer : Option AlgoBalancer
  upstream : UpstreamSpec
  deriving DecidableEq, Repr

structure TLSSpec where
  isTLS : Bool
  isWildcardHost : Bool
  verifyClient : Bool
  verifyDepth : Int
  certificate : Option CertificateSpec
  trustedCA : Option CertificateSpec
  deriving DecidableEq, Repr

structure IngressRouteSpec where
  router : RouterSpec
  balancer : BalancerSpec
  tls : TLSSpec
  deriving DecidableEq, Repr

/-- The tags of a target are the node and the host of an endpoint, or its cluster. -/
structure Target where
  address : String
  tags : List (String × String)
  deriving DecidableEq, Repr

structure ServiceRouteEntry where
  name : String
  ns : String
  targets : List Target
  portName : String
  deriving DecidableEq, Repr

structure ServiceRoute where
  hash : String
  routes : List ServiceRouteEntry
  deriving DecidableEq, Repr

structure IngressData where
  hash : String
  routes : List IngressRouteSpec
  deriving DecidableEq, Repr

end ErieCanal.Route
