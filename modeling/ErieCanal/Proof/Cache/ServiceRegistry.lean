import ErieCanal.Construction.Cache.Batches
import ErieCanal.Proof.Cache.EndpointTracking
import ErieCanal.Proof.Cache.ServiceTracking
import Mathlib.Data.List.Dedup

namespace ErieCanal.Cache
open Lib CoreV1 SvcImp Route Repo

/-- The info is the one of the service port under whose name it is stored. -/
def NamesService (key : ServicePortName) (svcInfo : ServiceInfo) : Prop :=
  key.namespacedName = svcInfo.svcName ∧ key.port = svcInfo.base.portName

/-- The same for the info of an import port. -/
def NamesImport (key : ServicePortName) (svcImpInfo : ServiceImportInfo) : Prop :=
  key.namespacedName = svcImpInfo.svcName ∧ key.port = svcImpInfo.base.portName

section Translations
variable (externals : Externals)

theorem newBaseServiceInfo_portName {port : CoreV1.ServicePort} {service : Service}
    {baseInfo : BaseServiceInfo} (handled : newBaseServiceInfo externals port service = some baseInfo) :
    baseInfo.portName = port.name := by
  unfold newBaseServiceInfo at handled
  split at handled
  · cases handled
    rfl
  · split at handled
    · cases handled
      rfl
    · cases handled
  · cases handled
  · cases handled

theorem addServicePort_named (service : Service) (map : ServiceMap) (port : CoreV1.ServicePort)
    (named : map.AllEntries NamesService) :
    (addServicePort externals service map port).AllEntries NamesService := by
  unfold addServicePort
  split
  · exact named
  · next baseInfo handled =>
      exact named.insert ⟨rfl, (newBaseServiceInfo_portName externals handled).symm⟩

/-- A Service stores every info under the name of its port. -/
theorem serviceToServiceMap_named (service : Option Service) (map : ServiceMap)
    (translated : serviceToServiceMap externals service = some map) :
    map.AllEntries NamesService := by
  cases service with
  | none => cases translated
  | some service =>
      rw [serviceToServiceMap] at translated
      split at translated
      · cases translated
      · cases translated
        exact List.foldlRecOn service.ports _ GoMap.allEntries_empty fun map named port _ =>
          addServicePort_named externals service map port named

/-- An import stores every info under the name of its port. -/
theorem serviceImportToServiceMap_named (services : NamespacedName → Option Service)
    (svcImp : Option ServiceImport) (map : ServiceImportMap)
    (translated : serviceImportToServiceMap externals services svcImp = some map) :
    map.AllEntries NamesImport := by
  cases svcImp with
  | none => cases translated
  | some svcImp =>
      cases translated
      exact List.foldlRecOn svcImp.ports _ GoMap.allEntries_empty fun map named port _ =>
        named.insert ⟨rfl, rfl⟩

end Translations

/-- An ExternalName Service is stored by the API server without a cluster IP and without IP
families. -/
def AsStored (service : Service) : Prop :=
  service.type = .externalName → service.clusterIP = "" ∧ service.ipFamilies = []

instance decidableAsStored (service : Service) : Decidable (AsStored service) :=
  inferInstanceAs (Decidable (_ → _))

/-- This is the Service that an event brings. -/
def ServiceFeedEvent.current : ServiceFeedEvent → Option Service
  | .service notice => notice.current
  | .apply _ => none

/-- The stored and the pending infos of the Services have the property. -/
structure ServiceFeed.Entries (property : ServicePortName → ServiceInfo → Prop)
    (feed : ServiceFeed) : Prop where
  stored : feed.serviceMap.AllEntries property
  pending : Changes.CurrentEntries property feed.serviceChanges

theorem ServiceFeed.entries_new (property : ServicePortName → ServiceInfo → Prop) :
    new.Entries property :=
  ⟨GoMap.allEntries_empty, GoMap.all_empty⟩

theorem ServiceFeed.Entries.step {property : ServicePortName → ServiceInfo → Prop}
    {externals : Externals} {feed next : ServiceFeed} {event : ServiceFeedEvent}
    (entries : feed.Entries property)
    (brought : ∀ service ∈ event.current, ∀ map,
      serviceToServiceMap externals (some service) = some map → map.AllEntries property)
    (stepped : (machine externals).step feed event = some next) : next.Entries property := by
  cases event with
  | service notice =>
      cases stepped
      refine ⟨entries.stored, ?_⟩
      rw [onService, ServiceChanges.track]
      split
      · exact entries.pending
      · split
        · exact entries.pending
        · refine entries.pending.update _ _ fun map translated => ?_
          cases current : notice.current with
          | none =>
              rw [current] at translated
              cases translated
          | some service =>
              rw [current] at translated
              exact brought service current map translated
  | apply range =>
      cases stepped
      exact ⟨entries.pending.applied entries.stored (Changes.applied_applyOverlay range 0 _ _),
        GoMap.all_empty⟩

/-- No info is the one of an ExternalName Service. -/
def ServesLocal (_ : ServicePortName) (svcInfo : ServiceInfo) : Prop := svcInfo.type ≠ .externalName

theorem addServicePort_local {externals : Externals} {service : Service}
    (type : service.type ≠ .externalName) (map : ServiceMap) (port : CoreV1.ServicePort)
    (served : map.AllEntries ServesLocal) :
    (addServicePort externals service map port).AllEntries ServesLocal := by
  unfold addServicePort
  split
  · exact served
  · exact served.insert type

/-- A stored ExternalName Service has no map: it has no cluster IP. -/
theorem serviceToServiceMap_external {externals : Externals} {service : Service}
    (asStored : AsStored service) (type : service.type = .externalName) :
    serviceToServiceMap externals (some service) = none := by
  obtain ⟨clusterIP, ipFamilies⟩ := asStored type
  simp [serviceToServiceMap, getClusterIPByFamily, clusterIP, ipFamilies]

theorem serviceToServiceMap_local {externals : Externals} {service : Service}
    (asStored : AsStored service) (map : ServiceMap)
    (translated : serviceToServiceMap externals (some service) = some map) :
    map.AllEntries ServesLocal := by
  by_cases type : service.type = .externalName
  · rw [serviceToServiceMap_external asStored type] at translated
    cases translated
  · rw [serviceToServiceMap] at translated
    split at translated
    · cases translated
    · cases translated
      exact List.foldlRecOn service.ports _ GoMap.allEntries_empty fun map served port _ =>
        addServicePort_local type map port served

/-- With Services as the API server stores them, the service map has no ExternalName Service. -/
theorem ServiceFeed.run_local {externals : Externals} {events : List ServiceFeedEvent}
    {feed : ServiceFeed} (asStored : ∀ event ∈ events, ∀ service ∈ event.current, AsStored service)
    (reached : (machine externals).run new events = some feed) :
    feed.serviceMap.AllEntries ServesLocal := by
  have kept (feed : ServiceFeed) (event : ServiceFeedEvent) (next : ServiceFeed)
      (entries : feed.Entries ServesLocal) (allowed : ∀ service ∈ event.current, AsStored service)
      (stepped : (machine externals).step feed event = some next) : next.Entries ServesLocal :=
    entries.step (fun service brought => serviceToServiceMap_local (allowed service brought)) stepped
  have entries := (machine externals).run_invariant kept (entries_new ServesLocal)
    ((machine externals).guarded_of_forall new asStored) reached
  exact entries.stored

/-- The infos of the Services are stored under their own names. -/
theorem ServiceFeed.run_named {externals : Externals} {events : List ServiceFeedEvent}
    {feed : ServiceFeed} (reached : (machine externals).run new events = some feed) :
    feed.serviceMap.AllEntries NamesService := by
  have kept (feed : ServiceFeed) (event : ServiceFeedEvent) (next : ServiceFeed)
      (entries : feed.Entries NamesService)
      (stepped : (machine externals).step feed event = some next) : next.Entries NamesService :=
    entries.step (fun service _ => serviceToServiceMap_named externals (some service)) stepped
  exact ((machine externals).run_preserves kept (entries_new NamesService) reached).stored

/-- The stored and the pending infos of the imports are stored under their own names. -/
structure EndpointFeed.Named (feed : EndpointFeed) : Prop where
  stored : feed.serviceImportMap.AllEntries NamesImport
  pending : Changes.CurrentEntries NamesImport feed.serviceImportChanges.items

theorem EndpointFeed.Named.step {externals : Externals} {feed next : EndpointFeed}
    {event : EndpointFeedEvent} (named : feed.Named)
    (stepped : (machine externals).step feed event = some next) : next.Named := by
  cases event with
  | serviceStored key service =>
      cases stepped
      exact ⟨named.stored, named.pending⟩
  | endpoints notice =>
      cases stepped
      exact ⟨named.stored, named.pending⟩
  | serviceImport notice =>
      cases stepped
      refine ⟨named.stored, ?_⟩
      dsimp only
      rw [ServiceImportChanges.track]
      split
      · exact named.pending
      · exact named.pending.update _ _ (serviceImportToServiceMap_named externals feed.services _)
  | applyEndpoints range =>
      cases stepped
      exact ⟨named.stored, named.pending⟩
  | applyServiceImports range =>
      cases stepped
      exact ⟨named.pending.applied named.stored (Changes.applied_applyOverlay range 0 _ _),
        GoMap.all_empty⟩
  | applyMultiClusterEndpoints range =>
      cases stepped
      exact ⟨named.stored, named.pending⟩

theorem EndpointFeed.named_new : new.Named := ⟨GoMap.allEntries_empty, GoMap.all_empty⟩

section Registry
variable (registry : GoMap String (List String))

/-- A route adds its addresses to the entry of its name only. -/
theorem lookup_addToRegistry (route : ServiceRouteEntry) (name : String) :
    ((addToRegistry registry route).lookup name).getD [] =
      (registry.lookup name).getD [] ++ if registryName route = name then addresses route else [] := by
  unfold addToRegistry
  by_cases same : registryName route = name
  · subst same
    split
    · next empty => simp [List.isEmpty_iff.mp empty]
    · simp
  · rw [if_neg same, List.append_nil]
    split
    · rfl
    · rw [AList.lookup_insert_ne (Ne.symm same)]

/-- The registry has under a name the addresses of all its routes. -/
theorem lookup_foldl_addToRegistry (routes : List ServiceRouteEntry) (name : String) :
    ((routes.foldl addToRegistry registry).lookup name).getD [] = (registry.lookup name).getD [] ++
      (routes.filter fun route => registryName route = name).flatMap addresses := by
  induction routes generalizing registry with
  | nil => simp
  | cons route rest ih =>
      rw [List.foldl_cons, ih, lookup_addToRegistry]
      by_cases same : registryName route = name
      · simp [same]
      · simp [same]

/-- A route adds no empty entry. -/
theorem addToRegistry_filled (route : ServiceRouteEntry)
    (filled : registry.All fun addrs => addrs ≠ []) :
    (addToRegistry registry route).All fun addrs => addrs ≠ [] := by
  unfold addToRegistry
  split
  · exact filled
  · next some =>
      refine filled.insert _ fun empty => some ?_
      rw [(List.append_eq_nil_iff.mp empty).2, List.isEmpty_nil]

end Registry

section Tables
variable (tables : ServiceTables)

/-- The endpoint addresses of a ClusterIP service port. -/
def clusterIPAddresses (svcName : ServicePortName) : List String :=
  match tables.serviceMap.lookup svcName with
  | some svcInfo =>
      if svcInfo.type = .clusterIP then
        ((tables.endpointsMap.lookup svcName).getD []).map BaseEndpointInfo.endpoint
      else []
  | none => []

/-- The external address of an ExternalName service port. -/
def externalNameAddresses (svcName : ServicePortName) : List String :=
  match tables.serviceMap.lookup svcName with
  | some svcInfo => if svcInfo.type = .externalName then [svcInfo.base.address] else []
  | none => []

theorem externalNameAddresses_eq_nil {tables : ServiceTables}
    (served : tables.serviceMap.AllEntries ServesLocal) (svcName : ServicePortName) :
    externalNameAddresses tables svcName = [] := by
  unfold externalNameAddresses
  split
  · next svcInfo found => exact if_neg (served svcName svcInfo found)
  · rfl

/-- The multi-cluster endpoint addresses of an import port. -/
def multiClusterAddresses (svcName : ServicePortName) : List String :=
  if (tables.serviceImportMap.lookup svcName).isSome then
    ((tables.multiClusterEndpointsMap.lookup svcName).getD []).map BaseEndpointInfo.endpoint
  else []

/-- The routes of a name have these addresses. -/
theorem addresses_serviceRouteEntries (svcName : ServicePortName) :
    (serviceRouteEntries tables svcName).flatMap addresses =
      clusterIPAddresses tables svcName ++ externalNameAddresses tables svcName ++
        multiClusterAddresses tables svcName := by
  have targets (endpoints : List BaseEndpointInfo) (tags : BaseEndpointInfo → List (String × String)) :
      ((endpoints.map fun ep => (⟨ep.endpoint, tags ep⟩ : Route.Target)).map Target.address) =
        endpoints.map BaseEndpointInfo.endpoint := by
    rw [List.map_map]
    rfl
  have services : ((tables.serviceMap.lookup svcName).bind
      (serviceRouteEntry ((tables.endpointsMap.lookup svcName).getD []))).toList.flatMap addresses =
      clusterIPAddresses tables svcName ++ externalNameAddresses tables svcName := by
    unfold clusterIPAddresses externalNameAddresses
    cases tables.serviceMap.lookup svcName with
    | none => rfl
    | some svcInfo =>
        rw [Option.bind_some, serviceRouteEntry]
        cases type : svcInfo.type with
        | clusterIP => simp [addresses, targets, type]
        | externalName => simp [addresses, type]
        | nodePort => simp [type]
        | loadBalancer => simp [type]
  have imports : ((tables.serviceImportMap.lookup svcName).map
      (importRouteEntry ((tables.multiClusterEndpointsMap.lookup svcName).getD []))).toList.flatMap
        addresses = multiClusterAddresses tables svcName := by
    unfold multiClusterAddresses
    cases tables.serviceImportMap.lookup svcName with
    | none => rfl
    | some svcImpInfo => simp [addresses, importRouteEntry, targets]
  rw [serviceRouteEntries, List.flatMap_append, services, imports]

variable {tables} (services : tables.serviceMap.AllEntries NamesService)
  (imports : tables.serviceImportMap.AllEntries NamesImport)

include services imports

/-- All routes of a name get the registry name that the name is formatted to. -/
theorem registryName_of_mem {svcName : ServicePortName} {route : ServiceRouteEntry}
    (member : route ∈ serviceRouteEntries tables svcName) :
    registryName route = svcName.string := by
  have formatted {svcInfo : NamespacedName} {portName : String}
      (names : svcName.namespacedName = svcInfo ∧ svcName.port = portName) :
      svcInfo.ns ++ "/" ++ svcInfo.name ++ fmtPortName portName = svcName.string := by
    rw [ServicePortName.string, names.1, names.2]
  rw [serviceRouteEntries, List.mem_append, Option.mem_toList, Option.mem_toList,
    Option.bind_eq_some_iff, Option.map_eq_some_iff] at member
  rcases member with ⟨svcInfo, found, entry⟩ | ⟨svcImpInfo, found, rfl⟩
  · have named := formatted (services svcName svcInfo found)
    unfold serviceRouteEntry at entry
    split at entry <;> cases entry <;> exact named
  · exact formatted (imports svcName svcImpInfo found)

theorem addresses_named (svcNames : List ServicePortName) (name : String) :
    ((svcNames.flatMap (serviceRouteEntries tables)).filter fun route =>
      registryName route = name).flatMap addresses =
      (svcNames.filter fun svcName => svcName.string = name).flatMap fun svcName =>
        clusterIPAddresses tables svcName ++ externalNameAddresses tables svcName ++
          multiClusterAddresses tables svcName := by
  induction svcNames with
  | nil => rfl
  | cons svcName rest ih =>
      rw [List.flatMap_cons, List.filter_append, List.flatMap_append, ih]
      by_cases same : svcName.string = name
      · have all : (serviceRouteEntries tables svcName).filter (fun route => registryName route = name) =
            serviceRouteEntries tables svcName := by
          refine List.filter_eq_self.mpr fun route member => ?_
          simpa [same] using registryName_of_mem services imports member
        rw [all, addresses_serviceRouteEntries, List.filter_cons_of_pos (by simpa using same),
          List.flatMap_cons]
      · have none : (serviceRouteEntries tables svcName).filter
            (fun route => registryName route = name) = [] := by
          refine List.filter_eq_nil_iff.mpr fun route member => ?_
          simpa [registryName_of_mem services imports member] using same
        rw [none, List.filter_cons_of_neg (by simpa using same)]
        rfl

end Tables

/-- The batch that carries this registry. -/
def registryBatch (registry : GoMap String (List String)) : Batch RouteFile :=
  ⟨Routes.services.basepath, [Routes.services.item (.registry registry)]⟩

/-- The names of the service ports and of the import ports. -/
def svcNames (tables : ServiceTables) : List ServicePortName :=
  (tables.serviceMap.keys ++ tables.serviceImportMap.keys).dedup

/-- The four maps as the two feeds have them. -/
def serviceTables (services : ServiceFeed) (endpoints : EndpointFeed) : ServiceTables :=
  ⟨services.serviceMap, endpoints.serviceImportMap, endpoints.endpointsMap,
    endpoints.multiClusterEndpointsMap⟩

/-- The Endpoints of a name that is in neither map are not read. -/
theorem buildServiceRoutes_insert (hash64 : List ServiceRouteEntry → UInt64)
    (range : RangeOrder ServicePortName) (tables : ServiceTables) {svcName : ServicePortName}
    (unlisted : svcName ∉ svcNames tables) (endpoints : List BaseEndpointInfo) :
    buildServiceRoutes hash64 range
        { tables with endpointsMap := tables.endpointsMap.insert svcName endpoints } =
      buildServiceRoutes hash64 range tables := by
  have routes : (range.order 0 (svcNames tables)).flatMap (serviceRouteEntries
        { tables with endpointsMap := tables.endpointsMap.insert svcName endpoints }) =
      (range.order 0 (svcNames tables)).flatMap (serviceRouteEntries tables) := by
    refine List.flatMap_congr fun other listed => ?_
    have different : other ≠ svcName := by
      rintro rfl
      exact unlisted ((range.mem_order _ _ _).mp listed)
    rw [serviceRouteEntries, serviceRouteEntries, AList.lookup_insert_ne different]
  rw [svcNames] at routes
  rw [buildServiceRoutes, buildServiceRoutes, routes]

/-- In all reachable states and orders, the registry has under each name the addresses of all
service ports that are formatted to it, has no empty entry, and has nothing of other Endpoints. -/
theorem serviceBatches_exact (externals : Externals) (hash64 : List ServiceRouteEntry → UInt64)
    (range : RangeOrder ServicePortName) {serviceEvents : List ServiceFeedEvent}
    {endpointEvents : List EndpointFeedEvent} {services : ServiceFeed} {endpoints : EndpointFeed}
    (served : (ServiceFeed.machine externals).run .new serviceEvents = some services)
    (fed : (EndpointFeed.machine externals).run .new endpointEvents = some endpoints) :
    let tables := serviceTables services endpoints
    ∃ registry, serviceBatches (buildServiceRoutes hash64 range tables) =
        some [registryBatch registry] ∧
      (∀ name, ((registry.lookup name).getD []).Perm
        (((svcNames tables).filter fun svcName => svcName.string = name).flatMap fun svcName =>
          clusterIPAddresses tables svcName ++ externalNameAddresses tables svcName ++
            multiClusterAddresses tables svcName)) ∧
      (∀ name, registry.lookup name ≠ some []) ∧
      ∀ svcName, svcName ∉ tables.serviceMap.keys → svcName ∉ tables.serviceImportMap.keys →
        ∀ others, serviceBatches (buildServiceRoutes hash64 range
          { tables with endpointsMap := tables.endpointsMap.insert svcName others }) =
            some [registryBatch registry] := by
  intro tables
  have stored : tables.serviceMap.AllEntries NamesService :=
    ServiceFeed.run_named served
  have imported : tables.serviceImportMap.AllEntries NamesImport :=
    ((EndpointFeed.machine externals).run_preserves (fun _ _ _ => EndpointFeed.Named.step)
      EndpointFeed.named_new fed).stored
  refine ⟨_, rfl, fun name => ?_, fun name empty => ?_, fun svcName local' import' others => ?_⟩
  · rw [lookup_foldl_addToRegistry, AList.lookup_empty, Option.getD_none, List.nil_append]
    refine (List.Perm.of_eq (addresses_named stored imported _ name)).trans ?_
    exact ((range.perm 0 _).filter _).flatMap_right _
  · have filled := List.foldlRecOn (buildServiceRoutes hash64 range tables).routes addToRegistry
      (motive := fun registry => registry.All fun addrs => addrs ≠ []) GoMap.all_empty
      fun registry filled route _ => addToRegistry_filled registry route filled
    exact filled name [] empty rfl
  · have unlisted : svcName ∉ svcNames tables := by
      simp [svcNames, local', import']
    rw [buildServiceRoutes_insert hash64 range tables unlisted others]
    rfl

/-- With Services as the API server stores them, the registry has under each name the endpoint
addresses of the ClusterIP service ports and of the import ports that are formatted to it. -/
theorem serviceBatches_union (externals : Externals) (hash64 : List ServiceRouteEntry → UInt64)
    (range : RangeOrder ServicePortName) {serviceEvents : List ServiceFeedEvent}
    {endpointEvents : List EndpointFeedEvent} {services : ServiceFeed} {endpoints : EndpointFeed}
    (asStored : ∀ event ∈ serviceEvents, ∀ service ∈ event.current, AsStored service)
    (served : (ServiceFeed.machine externals).run .new serviceEvents = some services)
    (fed : (EndpointFeed.machine externals).run .new endpointEvents = some endpoints) :
    let tables := serviceTables services endpoints
    ∃ registry, serviceBatches (buildServiceRoutes hash64 range tables) =
        some [registryBatch registry] ∧
      (∀ name, ((registry.lookup name).getD []).Perm
        (((svcNames tables).filter fun svcName => svcName.string = name).flatMap fun svcName =>
          clusterIPAddresses tables svcName ++ multiClusterAddresses tables svcName)) ∧
      (∀ name, registry.lookup name ≠ some []) ∧
      ∀ svcName, svcName ∉ tables.serviceMap.keys → svcName ∉ tables.serviceImportMap.keys →
        ∀ others, serviceBatches (buildServiceRoutes hash64 range
          { tables with endpointsMap := tables.endpointsMap.insert svcName others }) =
            some [registryBatch registry] := by
  intro tables
  obtain ⟨registry, rendered, exact, filled, unread⟩ :=
    serviceBatches_exact externals hash64 range served fed
  refine ⟨registry, rendered, fun name => ?_, filled, unread⟩
  have none (svcName : ServicePortName) : externalNameAddresses tables svcName = [] :=
    externalNameAddresses_eq_nil (ServiceFeed.run_local asStored served) svcName
  refine (exact name).trans (List.Perm.of_eq (List.flatMap_congr fun svcName _ => ?_))
  show clusterIPAddresses tables svcName ++ externalNameAddresses tables svcName ++
    multiClusterAddresses tables svcName = _
  rw [none, List.append_nil]

/-- A ClusterIP Service whose name is also imported has both kinds of addresses. -/
theorem serviceBatches_union_web :
    ∃ services endpoints registry,
      (ServiceFeed.machine exampleExternals).run .new
        [.service (.stored (ServiceFeed.exampleService .clusterIP)), .apply .stored] = some services ∧
      (EndpointFeed.machine exampleExternals).run .new
        (EndpointFeed.exampleRun ++ EndpointFeed.exampleApplies) = some endpoints ∧
      serviceBatches (buildServiceRoutes (fun _ => 0) .stored (serviceTables services endpoints)) =
        some [registryBatch registry] ∧
      ((registry.lookup "default/web:http").getD []).Perm ["10.0.0.1:80", "10.1.0.1:80/web"] := by
  obtain ⟨registry, rendered, exact, -⟩ :=
    @serviceBatches_union exampleExternals (fun _ => 0) .stored
      [.service (.stored (ServiceFeed.exampleService .clusterIP)), .apply .stored]
      (EndpointFeed.exampleRun ++ EndpointFeed.exampleApplies) _ _ (by decide) rfl rfl
  exact ⟨_, _, registry, rfl, rfl, rendered,
    (exact "default/web:http").trans (List.Perm.of_eq (by decide +kernel))⟩

end ErieCanal.Cache
