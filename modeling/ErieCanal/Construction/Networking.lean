import ErieCanal.Construction.Apis
import ErieCanal.Lib.Range

namespace ErieCanal
open Lib

namespace CoreV1

structure Secret where
  data : GoMap String String

structure EndpointPort where
  name : String
  port : Int
  protocol : Protocol
  deriving DecidableEq, Repr

structure EndpointAddress where
  ip : String
  hostname : String
  nodeName : Option String
  deriving DecidableEq, Repr

structure EndpointSubset where
  addresses : List EndpointAddress
  ports : List EndpointPort
  deriving DecidableEq, Repr

structure Endpoints where
  ns : String
  name : String
  subsets : List EndpointSubset
  deriving DecidableEq, Repr

def Endpoints.key (endpoints : Endpoints) : NamespacedName := ⟨endpoints.ns, endpoints.name⟩

end CoreV1

namespace NetworkingV1

/-- The API server admits no path without a type. -/
inductive PathType where
  | exact | pathPrefix | implementationSpecific
  deriving DecidableEq, Repr

structure ServiceBackendPort where
  name : String
  number : Int
  deriving DecidableEq, Repr

structure IngressServiceBackend where
  name : String
  port : ServiceBackendPort
  deriving DecidableEq, Repr

/-- A backend without a service refers to a resource. -/
structure HTTPIngressPath where
  path : String
  pathType : PathType
  backend : Option IngressServiceBackend
  deriving DecidableEq, Repr

structure IngressRule where
  host : String
  http : Option (List HTTPIngressPath)
  deriving DecidableEq, Repr

structure IngressTLS where
  hosts : List String
  secretName : String
  deriving DecidableEq, Repr

/-- An object without annotations decodes to a nil map; the owner that controls an Ingress is
known by its UID. -/
structure Ingress where
  ns : String
  name : String
  annotations : Option (GoMap String String)
  ingressClassName : Option String
  tls : List IngressTLS
  rules : List IngressRule
  controllerUID : Option Nat := none
  deriving DecidableEq

def Ingress.key (ing : Ingress) : NamespacedName := ⟨ing.ns, ing.name⟩

structure IngressClass where
  name : String
  resourceVersion : Nat
  annotations : Option (GoMap String String)

/-- An index into a nil map finds nothing. -/
def annotationOf (annotations : Option (GoMap String String)) (key : String) : Option String :=
  annotations.bind fun entries => entries.lookup key

end NetworkingV1
end ErieCanal
