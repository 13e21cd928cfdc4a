import ErieCanal.Construction.Cache.RouteHash
import ErieCanal.Proof.Cache.ServiceRegistry

namespace ErieCanal.Cache
open Lib CoreV1 SvcImp Route

/-- The registry of these tables has the address under the name. -/
def Registered (hash64 : List ServiceRouteEntry → UInt64) (range : RangeOrder ServicePortName)
    (tables : ServiceTables) (name address : String) : Prop :=
  ∃ addrs, (registryOf (buildServiceRoutes hash64 range tables)).lookup name = some addrs ∧
    address ∈ addrs

/-- A service port or an import port that is formatted to the name has the address. -/
def Offered (tables : ServiceTables) (name address : String) : Prop :=
  ∃ svcName : ServicePortName, svcName.string = name ∧
    address ∈ clusterIPAddresses tables svcName ++ externalNameAddresses tables svcName ++
      multiClusterAddresses tables svcName

/-- The service port as the cache names it. -/
def portNameOf (service : Service) (port : CoreV1.ServicePort) : ServicePortName :=
  ⟨service.key, port.name, port.protocol⟩

/-- This is the address under which an ExternalName Service is reached. -/
def externalAddress (service : Service) (port : CoreV1.ServicePort) : String :=
  service.externalName ++ ":" ++ toString (intValue port.targetPort)

section Registry
variable (externals : Externals) {hash64 : List ServiceRouteEntry → UInt64}
  {range : RangeOrder ServicePortName}

theorem mem_svcNames_of_address {tables : ServiceTables} {svcName : ServicePortName}
    {address : String}
    (member : address ∈ clusterIPAddresses tables svcName ++ externalNameAddresses tables svcName ++
      multiClusterAddresses tables svcName) : svcName ∈ svcNames tables := by
  rw [svcNames, List.mem_dedup, List.mem_append, ← AList.mem_keys, ← AList.mem_keys,
    ← AList.lookup_isSome, ← AList.lookup_isSome]
  rw [List.mem_append, List.mem_append] at member
  rcases member with (member | member) | member
  · unfold clusterIPAddresses at member
    split at member
    · next found => exact .inl (by simp [found])
    · cases member
  · unfold externalNameAddresses at member
    split at member
    · next found => exact .inl (by simp [found])
    · cases member
  · unfold multiClusterAddresses at member
    split at member
    · next found => exact .inr found
    · cases member

/-- In every reachable state the registry has what the service ports and the import ports have. -/
theorem registered_iff_offered {serviceEvents : List ServiceFeedEvent}
    {endpointEvents : List EndpointFeedEvent} {services : ServiceFeed} {endpoints : EndpointFeed}
    (served : (ServiceFeed.machine externals).run .new serviceEvents = some services)
    (fed : (EndpointFeed.machine externals).run .new endpointEvents = some endpoints)
    (name address : String) :
    Registered hash64 range (serviceTables services endpoints) name address ↔
      Offered (serviceTables services endpoints) name address := by
  obtain ⟨registry, rendered, exact, -⟩ := serviceBatches_exact externals hash64 range served fed
  have isRegistry : registryOf (buildServiceRoutes hash64 range (serviceTables services endpoints)) =
      registry := by
    simpa [serviceBatches, batchesOf, registryBatch, Routes.item, registryOf] using rendered
  have listed : Registered hash64 range (serviceTables services endpoints) name address ↔
      address ∈ (registry.lookup name).getD [] := by
    rw [Registered, isRegistry]
    cases registry.lookup name <;> simp
  rw [listed, (exact name).mem_iff, List.mem_flatMap]
  constructor
  · rintro ⟨svcName, member, inside⟩
    exact ⟨svcName, by simpa using (List.mem_filter.mp member).2, inside⟩
  · rintro ⟨svcName, named, inside⟩
    exact ⟨svcName, List.mem_filter.mpr ⟨mem_svcNames_of_address inside, by simpa using named⟩,
      inside⟩

end Registry

namespace ServiceFeed
variable (externals : Externals)

/-- A new ExternalName Service leaves no trace in the tracker. -/
theorem onService_external {feed : ServiceFeed} {service : Service}
    (type : service.type = .externalName) (asStored : AsStored service)
    (fresh : feed.delivered.lookup service.key = none)
    (idle : feed.serviceChanges.lookup service.key = none) :
    (feed.onService externals (.stored service)).serviceChanges = feed.serviceChanges := by
  have absent : feed.serviceChanges.erase service.key = feed.serviceChanges := by
    apply AList.ext
    exact List.kerase_of_notMem_keys (AList.lookup_eq_none.mp idle)
  have handled : shouldSkipService service = false := by rw [shouldSkipService, type]
  simp only [onService, Notice.name, fresh, Notice.current, ServiceChanges.track, Option.some_or,
    handled, Changes.update, Changes.record, idle, serviceToServiceMap_external asStored type]
  simp [serviceToServiceMap, GoMap.deepEqual, absent]

/-- With no pending change of its key, the add event and the apply of a stored ExternalName Service
give each of its ports a registry entry with its external address exactly when other objects publish
that address there. -/
theorem external_registered_iff (hash64 : List ServiceRouteEntry → UInt64)
    (range : RangeOrder ServicePortName) (applied : RangeOrder (Change ServicePortName ServiceInfo))
    {serviceEvents : List ServiceFeedEvent} {endpointEvents : List EndpointFeedEvent}
    {services : ServiceFeed} {endpoints : EndpointFeed} {service : Service}
    (served : (machine externals).run new serviceEvents = some services)
    (fed : (EndpointFeed.machine externals).run .new endpointEvents = some endpoints)
    (type : service.type = .externalName) (asStored : AsStored service)
    (fresh : services.delivered.lookup service.key = none)
    (idle : services.serviceChanges.lookup service.key = none) :
    (∀ port ∈ service.ports, Registered hash64 range
        (serviceTables ((services.onService externals (.stored service)).apply applied) endpoints)
        (portNameOf service port).string (externalAddress service port)) ↔
      ∀ port ∈ service.ports, Offered (serviceTables (services.apply applied) endpoints)
        (portNameOf service port).string (externalAddress service port) := by
  have unchanged : ((services.onService externals (.stored service)).apply applied).serviceMap =
      (services.apply applied).serviceMap := by
    simp only [apply, onService_external externals type asStored fresh idle]
    rfl
  have reached : (machine externals).run new (serviceEvents ++ [.apply applied]) =
      some (services.apply applied) :=
    ((machine externals).run_append_eq_some _ _ _ _).mpr ⟨services, served, rfl⟩
  have tables : serviceTables ((services.onService externals (.stored service)).apply applied)
      endpoints = serviceTables (services.apply applied) endpoints := by
    rw [serviceTables, unchanged]
    rfl
  rw [tables]
  simp only [registered_iff_offered externals reached fed]

/-- A Service that stands for an external name, as the API server stores it. -/
def externalService : Service where
  ns := "default"
  name := "web"
  type := .externalName
  ports := [⟨"http", .tcp, none, 80, .int 8080, 0⟩]
  externalName := "example.org"

/-- An import of the same name may publish the external address. -/
theorem external_registered_import :
    ∃ endpoints, (EndpointFeed.machine exampleExternals).run .new
        [.serviceImport (.stored { EndpointFeed.exampleImport with
            ports := [⟨"http", .tcp, none, 80, [⟨⟨"example.org", "", 8080, ""⟩, "r/z/g/b"⟩]⟩] }),
          .applyServiceImports .stored, .applyMultiClusterEndpoints .stored] = some endpoints ∧
      ∀ port ∈ externalService.ports, Registered (fun _ => 0) .stored
        (serviceTables ((new.onService exampleExternals (.stored externalService)).apply .stored)
          endpoints)
        (portNameOf externalService port).string (externalAddress externalService port) := by
  refine ⟨_, rfl, (@external_registered_iff exampleExternals (fun _ => 0) .stored .stored []
    [.serviceImport (.stored { EndpointFeed.exampleImport with
        ports := [⟨"http", .tcp, none, 80, [⟨⟨"example.org", "", 8080, ""⟩, "r/z/g/b"⟩]⟩] }),
      .applyServiceImports .stored, .applyMultiClusterEndpoints .stored] new _ externalService rfl rfl
    rfl (by decide) rfl rfl).mpr ?_⟩
  intro port listed
  rw [List.mem_singleton.mp listed]
  exact ⟨⟨⟨"default", "web"⟩, "http", .tcp⟩, by decide, by decide +kernel⟩

/-- In a cache without other objects, the Service gets no registry entry. -/
theorem external_unregistered :
    AsStored externalService ∧
      (newBaseServiceInfo exampleExternals ⟨"http", .tcp, none, 80, .int 8080, 0⟩ externalService).map
        BaseServiceInfo.address = some "example.org:8080" ∧
      ∃ services, (machine exampleExternals).run new
          [.service (.stored externalService), .apply .stored] = some services ∧
        registryOf (buildServiceRoutes (fun _ => 0) .stored (serviceTables services .new)) = ∅ :=
  ⟨by decide, by decide, _, rfl, rfl⟩

end ServiceFeed
end ErieCanal.Cache
