import ErieCanal.Construction.Networking
import ErieCanal.Construction.Strings
import ErieCanal.Lib.ChangeTracker

namespace ErieCanal.Cache
open Lib CoreV1 NetworkingV1

structure ServicePortName where
  namespacedName : NamespacedName
  port : String
  protocol : Protocol
  deriving DecidableEq, Repr

def fmtPortName (port : String) : String := if port = "" then "" else ":" ++ port

def ServicePortName.string (spn : ServicePortName) : String :=
  spn.namespacedName.ns ++ "/" ++ spn.namespacedName.name ++ fmtPortName spn.port

/-- The local stores of the informers, and the services of the API server itself. -/
structure Listers where
  services : NamespacedName → Option Service
  secrets : NamespacedName → Option Secret
  ingresses : GoMap NamespacedName Ingress
  apiServices : NamespacedName → Option Service

def Listers.empty : Listers := ⟨fun _ => none, fun _ => none, ∅, fun _ => none⟩

/-- The certificate checks and the endpoint parser come from other libraries. -/
structure Externals where
  /-- The PEM text parses as a certificate that covers the host. -/
  verifyHostname : (cert host : String) → Bool
  isIPv4String : String → Bool
  isIPv6String : String → Bool
  /-- A text that is no IP address gives nothing; an address is a loopback address or not. -/
  parseIP : String → Option Bool
  joinHostPort : String → Int → String
  ipPart : String → String
  portPart : String → Option Int

/-- Every certificate fits and every address is an IPv4 address with port 80. -/
def exampleExternals : Externals where
  verifyHostname := fun _ _ => true
  isIPv4String := fun _ => true
  isIPv6String := fun _ => false
  parseIP := fun _ => none
  joinHostPort := fun ip _ => ip ++ ":80"
  ipPart := fun endpoint => endpoint
  portPart := fun _ => some 80

end ErieCanal.Cache
