import ErieCanal.Construction.Apis

namespace ErieCanal

structure IPv4 where
  a : UInt8
  b : UInt8
  c : UInt8
  d : UInt8
  deriving DecidableEq, Repr

namespace IPv4

def zero : IPv4 := ⟨0, 0, 0, 0⟩

def isLoopback (ip : IPv4) : Bool := ip.a == 127

def isUnspecified (ip : IPv4) : Bool := ip == zero

/-- A nil address prints as `<nil>`. -/
def string : Option IPv4 → String
  | none => "<nil>"
  | some ip => toString ip.a ++ "." ++ toString ip.b ++ "." ++ toString ip.c ++ "." ++ toString ip.d

end IPv4

/-- The checks of a host and its resolution come from apimachinery and from the standard library;
a check lists what it finds wrong. -/
structure Net where
  ipv4Errors : String → List String
  dns1123SubdomainErrors : String → List String
  resolveIPAddr : String → Except String (Option IPv4)
  parseIP : String → Option IPv4

/-- This is `%q` of a text without characters to escape. -/
def quoted (text : String) : String := "\"" ++ text ++ "\""

/-- This is `%v` of a list of texts. -/
def listed (texts : List String) : String := "[" ++ " ".intercalate texts ++ "]"

/-- `ClusterIDTemplate` joins the four locality fields. -/
def clusterIDTemplate (region zone group cluster : String) : String :=
  region ++ "/" ++ zone ++ "/" ++ group ++ "/" ++ cluster

namespace Config

structure ConnectorConfig where
  name : String
  region : String
  zone : String
  group : String
  inCluster : Bool
  key : String
  gatewayHost : String
  gatewayIP : Option IPv4
  gatewayPort : Int
  controlPlaneUID : String
  deriving DecidableEq, Repr

/-- A gateway host is an IPv4 address or a DNS name that resolves to one; the webhook and the
connector config word two of the errors differently. -/
def gatewayIPv4 (net : Net) (gatewayHost : String) (invalid : List String → String)
    (unresolved : String → String) : Except String IPv4 :=
  if (net.ipv4Errors gatewayHost).isEmpty then usable (net.parseIP gatewayHost)
  else if (net.dns1123SubdomainErrors gatewayHost).isEmpty then
    match net.resolveIPAddr gatewayHost with
    | .error error => .error (unresolved error)
    | .ok ip => usable ip
  else .error (invalid (net.dns1123SubdomainErrors gatewayHost))
where
  usable : Option IPv4 → Except String IPv4
    | none => .error (quoted gatewayHost ++ " cannot be resolved to a IPv4 address")
    | some ip =>
        if ip.isLoopback || ip.isUnspecified then
          .error ("gateway Host " ++ gatewayHost ++ " is resolved to Loopback IP or Unspecified")
        else .ok ip

def newConnectorConfig (net : Net) (region zone group name gatewayHost : String)
    (gatewayPort : Int) (inCluster : Bool) (controlPlaneUID : String) :
    Except String ConnectorConfig :=
  let config : ConnectorConfig := {
    name, region, zone, group, inCluster, controlPlaneUID
    key := clusterIDTemplate region zone group name
    gatewayHost := ""
    gatewayIP := none
    gatewayPort := 0 }
  if inCluster then .ok config
  else match gatewayIPv4 net gatewayHost
      (fun errors => "invalid DNS name or IP " ++ quoted gatewayHost ++ ": " ++ listed errors)
      (fun error => quoted gatewayHost ++ " cannot be resolved to IP, " ++ error) with
    | .error message => .error message
    | .ok ip => .ok { config with gatewayHost, gatewayPort, gatewayIP := some ip }

namespace ConnectorConfig

def GatewayHost (config : ConnectorConfig) : String :=
  if config.inCluster then "" else config.gatewayHost

def GatewayIP (config : ConnectorConfig) : Option IPv4 :=
  if config.inCluster then some IPv4.zero else config.gatewayIP

def GatewayPort (config : ConnectorConfig) : Int :=
  if config.inCluster then 0 else config.gatewayPort

end ConnectorConfig

structure HTTP where
  enabled : Bool := false
  bind : Int := 0
  listen : Int := 0
  nodePort : Int := 0
  deriving DecidableEq, Repr

structure SSLPassthrough where
  enabled : Bool := false
  upstreamPort : Int := 0
  deriving DecidableEq, Repr

structure TLS where
  enabled : Bool := false
  bind : Int := 0
  listen : Int := 0
  nodePort : Int := 0
  mTLS : Bool := false
  sslPassthrough : SSLPassthrough := {}
  deriving DecidableEq, Repr

structure Ingress where
  enabled : Bool := false
  namespaced : Bool := false
  http : HTTP := {}
  tls : TLS := {}
  deriving DecidableEq, Repr

structure RepoConfig where
  rootURL : String := ""
  deriving DecidableEq, Repr

structure Images where
  repository : String := ""
  pipyImage : String := ""
  proxyInitImage : String := ""
  klipperLbImage : String := ""
  deriving DecidableEq, Repr

structure Webhook where
  serviceName : String := ""
  deriving DecidableEq, Repr

structure GatewayApi where
  enabled : Bool := false
  deriving DecidableEq, Repr

structure ServiceLB where
  enabled : Bool := false
  deriving DecidableEq, Repr

structure Certificate where
  manager : String := ""
  caBundleName : String := ""
  caBundleNamespace : String := ""
  deriving DecidableEq, Repr

/-- The fields of `Cluster` are those of the config itself. -/
structure MeshConfig where
  isManaged : Bool
  region : String
  zone : String
  group : String
  name : String
  uid : String
  controlPlaneUID : String
  repo : RepoConfig := {}
  images : Images := {}
  webhook : Webhook := {}
  ingress : Ingress := {}
  gatewayApi : GatewayApi := {}
  certificate : Certificate := {}
  serviceLB : ServiceLB := {}
  deriving DecidableEq, Repr

namespace MeshConfig

def serviceLbImage (mc : MeshConfig) : String :=
  mc.images.repository ++ "/" ++ mc.images.klipperLbImage

def getCaBundleName (mc : MeshConfig) : String := mc.certificate.caBundleName

/-- The bundle is kept in the namespace of the control plane unless another one is set. -/
def getCaBundleNamespace (erieCanalNamespace : String) (mc : MeshConfig) : String :=
  if mc.certificate.caBundleNamespace ≠ "" then mc.certificate.caBundleNamespace
  else erieCanalNamespace

end MeshConfig
end Config
end ErieCanal
