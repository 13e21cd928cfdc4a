import ErieCanal.Construction.Cache.Types
import ErieCanal.Lib.Informer
import ErieCanal.Lib.Machine

namespace ErieCanal.Cache
open Lib CoreV1

structure BaseServiceInfo where
  address : String
  port : Int
  portName : String
  protocol : Protocol
  deriving DecidableEq, Repr

/-- The service map holds the base info with the name and the type of its Service. -/
structure ServiceInfo where
  base : BaseServiceInfo
  svcName : NamespacedName
  type : ServiceType
  deriving DecidableEq, Repr

abbrev ServiceMap := GoMap ServicePortName ServiceInfo

abbrev ServiceChanges := Changes NamespacedName ServicePortName ServiceInfo

/-- This is `IntOrString.IntValue`. -/
def intValue : IntOrString → Int
  | .int value => value
  | .string value => Strings.atoiValue value

/-- A Service without IP families comes from an old API server. -/
def getClusterIPByFamily (externals : Externals) (ipFamily : IPFamily) (service : Service) :
    String :=
  if service.ipFamilies.isEmpty then
    if service.clusterIP = "" ∨ service.clusterIP = "None" then ""
    else if decide (ipFamily = .ipv6) = externals.isIPv6String service.clusterIP then
      service.clusterIP
    else ""
  else ((service.ipFamilies.zip service.clusterIPs).lookup ipFamily).getD ""

/-- A Service cannot stand for the loopback interface or for a name that is no DNS name. -/
def usableExternalName (externals : Externals) (externalName : String) : Bool :=
  externalName ≠ "localhost" && match externals.parseIP externalName with
    | some loopback => !loopback
    | none => Strings.isDNS1123Subdomain (Strings.trimSuffix externalName ".")

/-- Only cluster IPs and external names can be handled. -/
def newBaseServiceInfo (externals : Externals) (port : ServicePort) (service : Service) :
    Option BaseServiceInfo :=
  match service.type with
  | .clusterIP => some {
      address := getClusterIPByFamily externals .ipv4 service
      port := port.port, portName := port.name, protocol := port.protocol }
  | .externalName =>
      if usableExternalName externals service.externalName then some {
        address := service.externalName ++ ":" ++ toString (intValue port.targetPort)
        port := port.port, portName := port.name, protocol := port.protocol }
      else none
  | .nodePort => none
  | .loadBalancer => none

def enrichServiceInfo (service : Service) (baseInfo : BaseServiceInfo) : ServiceInfo :=
  { base := baseInfo, svcName := service.key, type := service.type }

def addServicePort (externals : Externals) (service : Service) (serviceMap : ServiceMap)
    (servicePort : ServicePort) : ServiceMap :=
  match newBaseServiceInfo externals servicePort service with
  | none => serviceMap
  | some baseSvcInfo => serviceMap.insert ⟨service.key, servicePort.name, servicePort.protocol⟩
      (enrichServiceInfo service baseSvcInfo)

/-- A Service without an IPv4 cluster IP has no map. -/
def serviceToServiceMap (externals : Externals) : Option Service → Option ServiceMap
  | none => none
  | some service =>
      if getClusterIPByFamily externals .ipv4 service = "" then none
      else some (service.ports.foldl (addServicePort externals service) ∅)

def shouldSkipService (svc : Service) : Bool :=
  match svc.type with
  | .nodePort | .loadBalancer => true
  | .clusterIP | .externalName => false

/-- This is the `Update` of the service tracker. -/
def ServiceChanges.track (externals : Externals) (items : ServiceChanges)
    (previous current : Option Service) : ServiceChanges :=
  match current.or previous with
  | none => items
  | some svc =>
      if shouldSkipService svc then items
      else items.update svc.key (serviceToServiceMap externals previous)
        (serviceToServiceMap externals current)

/-- The service informer, its tracker and the map that the syncs bring up to date. -/
structure ServiceFeed where
  delivered : GoMap NamespacedName Service
  serviceChanges : ServiceChanges
  serviceMap : ServiceMap

inductive ServiceFeedEvent where
  | service (notice : Notice NamespacedName Service)
  | apply (range : RangeOrder (Change ServicePortName ServiceInfo))

namespace ServiceFeed

def new : ServiceFeed := ⟨∅, ∅, ∅⟩

/-- The handlers get the last delivered version as the old one. -/
def onService (externals : Externals) (notice : Notice NamespacedName Service)
    (feed : ServiceFeed) : ServiceFeed :=
  { feed with
    delivered := notice.deliver Service.key feed.delivered
    serviceChanges := feed.serviceChanges.track externals
      (feed.delivered.lookup (notice.name Service.key)) notice.current }

/-- The pending changes are applied under the lock of the tracker. -/
def apply (range : RangeOrder (Change ServicePortName ServiceInfo)) (feed : ServiceFeed) :
    ServiceFeed :=
  { feed with
    serviceMap := feed.serviceChanges.applyOverlay range 0 feed.serviceMap
    serviceChanges := ∅ }

def machine (externals : Externals) : Machine ServiceFeed ServiceFeedEvent where
  step feed
    | .service notice => some (feed.onService externals notice)
    | .apply range => some (feed.apply range)

end ServiceFeed
end ErieCanal.Cache
