import ErieCanal.Construction.Cache.Batches
import ErieCanal.Lib.SetHash

namespace ErieCanal.Cache
open Lib Route

/-- This is the content of the file that the batch of the service routes uploads. -/
def registryOf (serviceRoutes : ServiceRoute) : GoMap String (List String) :=
  serviceRoutes.routes.foldl addToRegistry ∅

/-- The hash of a route is made of its texts and of the hash of its targets. -/
structure RouteDigest where
  name : String
  ns : String
  targets : UInt64
  portName : String
  deriving DecidableEq, Repr

/-- The targets of a route and the routes are tagged as sets; the finish of the routes includes the
hash of the struct around them. -/
structure RouteHasher where
  targets : SetHash Target
  routes : SetHash RouteDigest

namespace RouteHasher
variable (hasher : RouteHasher)

def digest (route : ServiceRouteEntry) : RouteDigest :=
  ⟨route.name, route.ns, hasher.targets.hash route.targets, route.portName⟩

/-- The own hash of the service routes is ignored. -/
def hash64 (routes : List ServiceRouteEntry) : UInt64 :=
  hasher.routes.hash (routes.map hasher.digest)

/-- The publishers of the service routes compare the hash and upload the registry. -/
def publication : Publication ServiceRoute RouteFile where
  hash64 := fun serviceRoutes => hasher.hash64 serviceRoutes.routes
  render := fun serviceRoutes => .registry (registryOf serviceRoutes)

/-- Different sets of these targets and different sets of these routes have different hashes. -/
structure CollisionFree (routes : List ServiceRouteEntry) : Prop where
  targets : hasher.targets.CollisionFree (routes.flatMap ServiceRouteEntry.targets)
  routes : hasher.routes.CollisionFree (routes.map hasher.digest)

end RouteHasher

end ErieCanal.Cache
