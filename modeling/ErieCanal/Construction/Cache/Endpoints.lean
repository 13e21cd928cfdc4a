import ErieCanal.Construction.Cache.Types

namespace ErieCanal.Cache
open Lib CoreV1

structure BaseEndpointInfo where
  endpoint : String
  nodename : String
  hostname : String
  cluster : String
  deriving DecidableEq, Repr

abbrev EndpointsMap := GoMap ServicePortName (List BaseEndpointInfo)

abbrev EndpointChanges := Changes NamespacedName ServicePortName (List BaseEndpointInfo)

def newBaseEndpointInfo (externals : Externals) (ip : String) (port : Int)
    (nodename hostname : String) : BaseEndpointInfo :=
  { endpoint := externals.joinHostPort ip port, nodename, hostname, cluster := "" }

def nodename (addr : EndpointAddress) : String := addr.nodeName.getD ""

/-- The usable addresses are the IPv4 ones. -/
def usableAddresses (externals : Externals) (subset : EndpointSubset) : List EndpointAddress :=
  subset.addresses.filter fun addr => addr.ip ≠ "" ∧ externals.isIPv4String addr.ip

/-- One subset port appends its usable addresses to the entry of its service port. -/
def addEndpointPort (externals : Externals) (endpoints : Endpoints) (subset : EndpointSubset)
    (map : EndpointsMap) (port : EndpointPort) : EndpointsMap :=
  if port.port = 0 then map else
    let svcPortName : ServicePortName := ⟨endpoints.key, port.name, port.protocol⟩
    (usableAddresses externals subset).foldl (fun map addr =>
      map.insert svcPortName ((map.lookup svcPortName).getD [] ++
        [newBaseEndpointInfo externals addr.ip port.port (nodename addr) addr.hostname])) map

def endpointsToEndpointsMap (externals : Externals) : Option Endpoints → Option EndpointsMap
  | none => none
  | some endpoints => some (endpoints.subsets.foldl (fun map subset =>
      subset.ports.foldl (addEndpointPort externals endpoints subset) map) ∅)

/-- This is the `Update` of the endpoints tracker. -/
def EndpointChanges.track (externals : Externals) (items : EndpointChanges)
    (previous current : Option Endpoints) : EndpointChanges :=
  match current.or previous with
  | none => items
  | some endpoints => items.update endpoints.key (endpointsToEndpointsMap externals previous)
      (endpointsToEndpointsMap externals current)

end ErieCanal.Cache
