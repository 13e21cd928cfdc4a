import ErieCanal.Construction.Cache.RouteHash
import ErieCanal.Proof.Cache.ServiceRegistry

namespace ErieCanal.Cache
open Lib CoreV1 SvcImp Route Repo

section Repetition
variable (externals : Externals)

def endpointTarget (ep : BaseEndpointInfo) : Route.Target :=
  ⟨ep.endpoint, [("Node", ep.nodename), ("Host", ep.hostname)]⟩

def importTarget (ep : BaseEndpointInfo) : Route.Target := ⟨ep.endpoint, [("Cluster", ep.cluster)]⟩

/-- The endpoints that an Endpoints object lists, each with its service port. -/
def endpointEntries (endpoints : Endpoints) : List (ServicePortName × BaseEndpointInfo) :=
  endpoints.subsets.flatMap fun subset =>
    (subset.ports.filter fun port => port.port ≠ 0).flatMap fun port =>
      (usableAddresses externals subset).map fun addr =>
        (⟨endpoints.key, port.name, port.protocol⟩,
          newBaseEndpointInfo externals addr.ip port.port (nodename addr) addr.hostname)

/-- The endpoints that an import lists, each with its service port. -/
def importEntries (svcImp : ServiceImport) : List (ServicePortName × BaseEndpointInfo) :=
  svcImp.ports.flatMap fun port => port.endpoints.map fun ep =>
    (importPortName svcImp port, newMultiClusterEndpointInfo ep ep.target)

/-- No port name has a target twice. -/
def Unrepeated (target : BaseEndpointInfo → Route.Target)
    (entries : List (ServicePortName × BaseEndpointInfo)) : Prop :=
  (entries.map fun entry => (entry.1.port, target entry.2)).Nodup

instance decidableUnrepeated (target : BaseEndpointInfo → Route.Target)
    (entries : List (ServicePortName × BaseEndpointInfo)) : Decidable (Unrepeated target entries) :=
  inferInstanceAs (Decidable (List.Nodup _))

/-- The object that the event brings lists no target of a port name twice. -/
def EndpointFeedEvent.BringsUnrepeated : EndpointFeedEvent → Prop
  | .endpoints notice => ∀ endpoints ∈ notice.current,
      Unrepeated endpointTarget (endpointEntries externals endpoints)
  | .serviceImport notice => ∀ svcImp ∈ notice.current,
      Unrepeated importTarget (importEntries svcImp)
  | _ => True

instance decidableBringsUnrepeated :
    ∀ event, Decidable (EndpointFeedEvent.BringsUnrepeated externals event)
  | .endpoints notice => inferInstanceAs (Decidable (∀ endpoints ∈ notice.current,
      Unrepeated endpointTarget (endpointEntries externals endpoints)))
  | .serviceImport notice => inferInstanceAs (Decidable (∀ svcImp ∈ notice.current,
      Unrepeated importTarget (importEntries svcImp)))
  | .serviceStored _ _ => inferInstanceAs (Decidable True)
  | .applyEndpoints _ => inferInstanceAs (Decidable True)
  | .applyServiceImports _ => inferInstanceAs (Decidable True)
  | .applyMultiClusterEndpoints _ => inferInstanceAs (Decidable True)

/-- One entry is appended to those of its service port. -/
def appendEntry (map : GoMap ServicePortName (List BaseEndpointInfo))
    (entry : ServicePortName × BaseEndpointInfo) : GoMap ServicePortName (List BaseEndpointInfo) :=
  map.insert entry.1 ((map.lookup entry.1).getD [] ++ [entry.2])

theorem endpointsToEndpointsMap_eq (endpoints : Endpoints) :
    endpointsToEndpointsMap externals (some endpoints) =
      some ((endpointEntries externals endpoints).foldl appendEntry ∅) := by
  rw [endpointsToEndpointsMap, endpointEntries, List.foldl_flatMap]
  congr 2
  funext map subset
  rw [List.foldl_flatMap, List.foldl_filter]
  congr 1
  funext map port
  rw [addEndpointPort, List.foldl_map]
  by_cases absent : port.port = 0 <;> simp [absent, appendEntry]

theorem importToEndpointsMap_eq (svcImp : ServiceImport) :
    importToEndpointsMap (some svcImp) = some ((importEntries svcImp).foldl appendEntry ∅) := by
  rw [importToEndpointsMap, importEntries, List.foldl_flatMap]
  congr 2
  funext map port
  rw [addImportEndpoints, List.foldl_map]
  rfl

end Repetition

/-- No service port has a target twice, and no two protocols of a port name share one. -/
structure Separated (target : BaseEndpointInfo → Route.Target)
    (map : Option (GoMap ServicePortName (List BaseEndpointInfo))) : Prop where
  nodup : ∀ key infos, GoMap.find map key = some infos → (infos.map target).Nodup
  disjoint : ∀ key other infos others, GoMap.find map key = some infos →
    GoMap.find map other = some others → key.namespacedName = other.namespacedName →
      key.port = other.port → key ≠ other → (infos.map target).Disjoint (others.map target)

theorem separated_none (target : BaseEndpointInfo → Route.Target) : Separated target none := by
  constructor <;> simp

section Separation
variable {target : BaseEndpointInfo → Route.Target}

/-- The map of an object that repeats no target separates its service ports. -/
theorem separated_of_unrepeated {entries : List (ServicePortName × BaseEndpointInfo)}
    (unrepeated : Unrepeated target entries) :
    Separated target (some (entries.foldl appendEntry ∅)) := by
  have collected (key : ServicePortName) (infos : List BaseEndpointInfo)
      (found : GoMap.find (some (entries.foldl appendEntry ∅)) key = some infos) :
      infos = (entries.filter fun entry => entry.1 = key).map Prod.snd := by
    have all := GoMap.lookup_foldl_append Prod.fst Prod.snd entries
      (∅ : GoMap ServicePortName (List BaseEndpointInfo)) key
    rw [AList.lookup_empty, Option.getD_none, List.nil_append] at all
    rw [GoMap.find_some] at found
    rw [← all]
    exact (congrArg (fun stored => stored.getD []) found).symm
  constructor
  · intro key infos found
    rw [collected key infos found, List.map_map]
    have ports : ((entries.filter fun entry => entry.1 = key).map fun entry =>
        (entry.1.port, target entry.2)) =
          ((entries.filter fun entry => entry.1 = key).map (target ∘ Prod.snd)).map
            (Prod.mk key.port) := by
      rw [List.map_map]
      refine List.map_congr_left fun entry member => ?_
      have same : entry.1 = key := by simpa using (List.mem_filter.mp member).2
      simp [same]
    have distinct : (((entries.filter fun entry => entry.1 = key).map fun entry =>
        (entry.1.port, target entry.2))).Nodup :=
      unrepeated.sublist (List.filter_sublist.map _)
    rw [ports] at distinct
    exact distinct.of_map
  · intro key other infos others found found' _ port different shared inside inside'
    rw [collected key infos found, List.map_map] at inside
    rw [collected other others found', List.map_map] at inside'
    obtain ⟨first, member, rfl⟩ := List.mem_map.mp inside
    obtain ⟨second, member', equal⟩ := List.mem_map.mp inside'
    obtain ⟨listed, isKey⟩ := List.mem_filter.mp member
    obtain ⟨listed', isOther⟩ := List.mem_filter.mp member'
    have key_eq : first.1 = key := by simpa using isKey
    have other_eq : second.1 = other := by simpa using isOther
    have same : first = second := by
      refine List.inj_on_of_nodup_map unrepeated listed listed' ?_
      rw [key_eq, other_eq, port]
      exact congrArg (Prod.mk other.port) equal.symm
    exact different (key_eq.symm.trans (same ▸ other_eq))

/-- A map that knows separated versions only is separated itself. -/
theorem separated_of_follows {Object : Type} {delivered : GoMap NamespacedName Object}
    {translate : Option Object → Option (GoMap ServicePortName (List BaseEndpointInfo))}
    {items : Changes NamespacedName ServicePortName (List BaseEndpointInfo)}
    {map : GoMap ServicePortName (List BaseEndpointInfo)}
    (follows : Follows ServicePortName.namespacedName id (contribution id translate delivered)
      items map)
    (versions : Versions (Separated target) translate delivered items) :
    Separated target (some map) := by
  constructor
  · intro key infos found
    exact (versions.known _).nodup key infos (follows.find_version found)
  · intro key other infos others found found' name
    have first := follows.find_version found
    have second := follows.find_version found'
    rw [← name] at second
    exact (versions.known _).disjoint key other infos others first second name

variable {map : GoMap ServicePortName (List BaseEndpointInfo)} (separated : Separated target (some map))

include separated

theorem Separated.nodup_lookup (key : ServicePortName) :
    (((map.lookup key).getD []).map target).Nodup := by
  cases found : map.lookup key with
  | none => exact List.nodup_nil
  | some infos => exact separated.nodup key infos found

theorem Separated.disjoint_lookup {key other : ServicePortName}
    (name : key.namespacedName = other.namespacedName) (port : key.port = other.port)
    (different : key ≠ other) :
    (((map.lookup key).getD []).map target).Disjoint (((map.lookup other).getD []).map target) := by
  cases found : map.lookup key with
  | none => exact List.disjoint_nil_left _
  | some infos =>
      cases found' : map.lookup other with
      | none => exact List.disjoint_nil_right _
      | some others =>
          exact separated.disjoint key other infos others found found' name port different

end Separation

namespace EndpointFeed
variable (externals : Externals)

/-- The versions that the endpoint maps know repeat no target. -/
structure KnowsUnrepeated (feed : EndpointFeed) : Prop where
  endpoints : Versions (Separated endpointTarget) (endpointsToEndpointsMap externals) feed.endpoints
    feed.endpointsChanges
  imports : Versions (Separated importTarget) importToEndpointsMap feed.serviceImports
    feed.serviceImportChanges.endpointItems

theorem knowsUnrepeated_new : KnowsUnrepeated externals new where
  endpoints := versions_empty (separated_none _)
  imports := versions_empty (separated_none _)

theorem KnowsUnrepeated.step {feed next : EndpointFeed} {event : EndpointFeedEvent}
    (unrepeated : KnowsUnrepeated externals feed) (upToDate : UpToDate externals feed)
    (allowed : event.BringsUnrepeated externals)
    (stepped : (machine externals).step feed event = some next) :
    KnowsUnrepeated externals next := by
  cases event with
  | serviceStored key service =>
      cases stepped
      exact ⟨unrepeated.endpoints, unrepeated.imports⟩
  | endpoints notice =>
      cases stepped
      have brought : Separated endpointTarget (endpointsToEndpointsMap externals notice.current) := by
        cases current : notice.current with
        | none => exact separated_none _
        | some endpoints =>
            rw [endpointsToEndpointsMap_eq]
            exact separated_of_unrepeated (allowed endpoints current)
      refine ⟨unrepeated.endpoints.track Endpoints.key upToDate.endpointsKeyed brought
        (fun ignored => ?_) (fun object recorded => ?_), unrepeated.imports⟩
      · simp only [EndpointChanges.track, ignored]
      · simp only [EndpointChanges.track, recorded]
  | serviceImport notice =>
      cases stepped
      have brought : Separated importTarget (importToEndpointsMap notice.current) := by
        cases current : notice.current with
        | none => exact separated_none _
        | some svcImp =>
            rw [importToEndpointsMap_eq]
            exact separated_of_unrepeated (allowed svcImp current)
      refine ⟨unrepeated.endpoints, unrepeated.imports.track ServiceImport.key
        upToDate.serviceImportsKeyed brought (fun ignored => ?_) (fun object recorded => ?_)⟩
      · simp only [ServiceImportChanges.track, ignored]
      · simp only [ServiceImportChanges.track, recorded]
  | applyEndpoints range =>
      cases stepped
      exact ⟨unrepeated.endpoints.applied, unrepeated.imports⟩
  | applyServiceImports range =>
      cases stepped
      exact ⟨unrepeated.endpoints, unrepeated.imports⟩
  | applyMultiClusterEndpoints range =>
      cases stepped
      exact ⟨unrepeated.endpoints, unrepeated.imports.applied⟩

/-- With objects that repeat no target, both endpoint maps are separated in every state. -/
theorem run_separated {events : List EndpointFeedEvent} {feed : EndpointFeed}
    (allowed : ∀ event ∈ events, event.BringsUnrepeated externals)
    (reached : (machine externals).run new events = some feed) :
    Separated endpointTarget (some feed.endpointsMap) ∧
      Separated importTarget (some feed.multiClusterEndpointsMap) := by
  have kept (feed : EndpointFeed) (event : EndpointFeedEvent) (next : EndpointFeed)
      (known : UpToDate externals feed ∧ KnowsUnrepeated externals feed)
      (brings : event.BringsUnrepeated externals)
      (stepped : (machine externals).step feed event = some next) :
      UpToDate externals next ∧ KnowsUnrepeated externals next :=
    ⟨known.1.step externals stepped, known.2.step externals known.1 brings stepped⟩
  obtain ⟨upToDate, unrepeated⟩ := (machine externals).run_invariant kept
    ⟨upToDate_new externals, knowsUnrepeated_new externals⟩
    ((machine externals).guarded_of_forall new allowed) reached
  exact ⟨separated_of_follows upToDate.endpoints unrepeated.endpoints,
    separated_of_follows upToDate.multiClusterEndpoints unrepeated.imports⟩

end EndpointFeed

/-- In these tables no route and no target of a route comes twice. -/
structure ServiceTables.Distinct (tables : ServiceTables) : Prop where
  services : tables.serviceMap.AllEntries NamesService
  locals : tables.serviceMap.AllEntries ServesLocal
  imports : tables.serviceImportMap.AllEntries NamesImport
  endpoints : Separated endpointTarget (some tables.endpointsMap)
  multiCluster : Separated importTarget (some tables.multiClusterEndpointsMap)

/-- The route belongs to this service port. -/
def Belongs (route : ServiceRouteEntry) (svcName : ServicePortName) : Prop :=
  svcName.namespacedName = ⟨route.ns, route.name⟩ ∧ svcName.port = route.portName

/-- The hash cannot tell routes with the same texts and the same targets apart. -/
def Alike (first second : ServiceRouteEntry) : Prop :=
  (first.name = second.name ∧ first.ns = second.ns ∧ first.portName = second.portName) ∧
    first.targets.Perm second.targets

theorem Alike.targets_ne_nil {first second : ServiceRouteEntry} (alike : Alike first second)
    (some : second.targets ≠ []) : first.targets ≠ [] := by
  intro empty
  rw [Alike, empty, List.nil_perm] at alike
  exact some alike.2

section Tables
variable {tables : ServiceTables}

/-- A service port has the route of its Service, with its endpoints as targets, and the route of
its import. -/
theorem serviceRouteEntries_cases (distinct : tables.Distinct) (svcName : ServicePortName) :
    ∃ service import' : Option ServiceRouteEntry,
      serviceRouteEntries tables svcName = service.toList ++ import'.toList ∧
      (∀ route ∈ service, Belongs route svcName ∧ route.targets =
        ((tables.endpointsMap.lookup svcName).getD []).map endpointTarget) ∧
      ∀ route ∈ import', Belongs route svcName ∧ route.targets =
        ((tables.multiClusterEndpointsMap.lookup svcName).getD []).map importTarget := by
  refine ⟨_, _, rfl, ?_, ?_⟩
  · intro route member
    rw [Option.mem_def, Option.bind_eq_some_iff] at member
    obtain ⟨svcInfo, found, entry⟩ := member
    have named := distinct.services svcName svcInfo found
    unfold serviceRouteEntry at entry
    split at entry
    · cases entry
      exact ⟨named, rfl⟩
    · next type => exact absurd type (distinct.locals svcName svcInfo found)
    · cases entry
    · cases entry
  · intro route member
    rw [Option.mem_def, Option.map_eq_some_iff] at member
    obtain ⟨svcImpInfo, found, rfl⟩ := member
    exact ⟨distinct.imports svcName svcImpInfo found, rfl⟩

theorem mem_serviceRouteEntries (distinct : tables.Distinct) {svcName : ServicePortName}
    {route : ServiceRouteEntry} (member : route ∈ serviceRouteEntries tables svcName) :
    Belongs route svcName ∧
      (route.targets = ((tables.endpointsMap.lookup svcName).getD []).map endpointTarget ∨
        route.targets =
          ((tables.multiClusterEndpointsMap.lookup svcName).getD []).map importTarget) := by
  obtain ⟨service, import', split, fromService, fromImport⟩ :=
    serviceRouteEntries_cases distinct svcName
  rw [split, List.mem_append, Option.mem_toList, Option.mem_toList] at member
  rcases member with member | member
  · exact ⟨(fromService route member).1, .inl (fromService route member).2⟩
  · exact ⟨(fromImport route member).1, .inr (fromImport route member).2⟩

theorem nodup_targets (distinct : tables.Distinct) {svcName : ServicePortName}
    {route : ServiceRouteEntry} (member : route ∈ serviceRouteEntries tables svcName) :
    route.targets.Nodup := by
  rcases (mem_serviceRouteEntries distinct member).2 with targets | targets
  · rw [targets]
    exact distinct.endpoints.nodup_lookup svcName
  · rw [targets]
    exact distinct.multiCluster.nodup_lookup svcName

/-- The tags tell an endpoint of the cluster from one of an import. -/
theorem disjoint_endpoint_import (endpoints imports : List BaseEndpointInfo) :
    (endpoints.map endpointTarget).Disjoint (imports.map importTarget) := by
  intro target inside inside'
  obtain ⟨ep, _, rfl⟩ := List.mem_map.mp inside
  obtain ⟨imported, _, same⟩ := List.mem_map.mp inside'
  simp [endpointTarget, importTarget] at same

/-- Routes with disjoint targets are not alike unless they have none. -/
theorem not_alike_of_disjoint {first second : ServiceRouteEntry}
    (disjoint : first.targets.Disjoint second.targets) (some : first.targets ≠ []) :
    ¬ Alike first second := by
  intro alike
  obtain ⟨target, inside⟩ := List.exists_mem_of_ne_nil _ some
  exact disjoint inside (alike.2.mem_iff.mp inside)

/-- Routes of different service ports that have a target are not alike. -/
theorem not_alike_of_ne (distinct : tables.Distinct) {svcName other : ServicePortName}
    (different : svcName ≠ other) {first second : ServiceRouteEntry}
    (one : first ∈ serviceRouteEntries tables svcName)
    (two : second ∈ serviceRouteEntries tables other) (some : first.targets ≠ []) :
    ¬ Alike first second := by
  intro alike
  obtain ⟨⟨name, port⟩, targets⟩ := mem_serviceRouteEntries distinct one
  obtain ⟨⟨name', port'⟩, targets'⟩ := mem_serviceRouteEntries distinct two
  obtain ⟨sameName, sameNs, samePort⟩ := alike.1
  have names : svcName.namespacedName = other.namespacedName := by
    rw [name, name', sameName, sameNs]
  have ports : svcName.port = other.port := by rw [port, port', samePort]
  refine not_alike_of_disjoint ?_ some alike
  rcases targets with targets | targets <;> rcases targets' with targets' | targets' <;>
    rw [targets, targets']
  · exact distinct.endpoints.disjoint_lookup names ports different
  · exact disjoint_endpoint_import _ _
  · exact (disjoint_endpoint_import _ _).symm
  · exact distinct.multiCluster.disjoint_lookup names ports different

/-- No target of a route comes twice, and no two routes that have a target are alike. -/
structure Clean (routes : List ServiceRouteEntry) : Prop where
  nodup : ∀ route ∈ routes, route.targets.Nodup
  differ : routes.Pairwise fun first second => first.targets ≠ [] → ¬ Alike first second

/-- The service routes are clean in every order of the names. -/
theorem clean_buildServiceRoutes (distinct : tables.Distinct)
    (hash64 : List ServiceRouteEntry → UInt64) (range : RangeOrder ServicePortName) :
    Clean (buildServiceRoutes hash64 range tables).routes where
  nodup route member := by
    obtain ⟨svcName, _, listed⟩ := List.mem_flatMap.mp member
    exact nodup_targets distinct listed
  differ := by
    refine List.pairwise_flatMap.mpr ⟨fun svcName _ => ?_, ?_⟩
    · obtain ⟨service, import', split, fromService, fromImport⟩ :=
        serviceRouteEntries_cases distinct svcName
      rw [split, List.pairwise_append]
      refine ⟨by cases service <;> simp, by cases import' <;> simp, ?_⟩
      intro first isService second isImport
      refine not_alike_of_disjoint ?_
      rw [(fromService first (Option.mem_toList.mp isService)).2,
        (fromImport second (Option.mem_toList.mp isImport)).2]
      exact disjoint_endpoint_import _ _
    · have names : (range.order 0 (svcNames tables)).Nodup :=
        (range.perm 0 _).nodup_iff.mpr (List.nodup_dedup _)
      refine List.Pairwise.imp ?_ names
      intro svcName other different first one second two
      exact not_alike_of_ne distinct different one two

end Tables

section Hash
variable {hasher : RouteHasher} {known routes others : List ServiceRouteEntry}

/-- The routes that have a target. -/
def filled (routes : List ServiceRouteEntry) : List ServiceRouteEntry :=
  routes.filter fun route => route.targets ≠ []

theorem alike_of_digest_eq (free : hasher.CollisionFree known) {first second : ServiceRouteEntry}
    (one : first ∈ known) (two : second ∈ known) (nodup : first.targets.Nodup)
    (nodup' : second.targets.Nodup) (same : hasher.digest first = hasher.digest second) :
    Alike first second := by
  obtain ⟨name, ns, targets, portName⟩ := RouteDigest.mk.inj same
  have inside {route : ServiceRouteEntry} (member : route ∈ known) :
      route.targets ⊆ known.flatMap ServiceRouteEntry.targets :=
    fun target listed => List.mem_flatMap.mpr ⟨route, member, listed⟩
  exact ⟨⟨name, ns, portName⟩, free.targets _ _ nodup nodup' (inside one) (inside two) targets⟩

theorem nodup_digests (free : hasher.CollisionFree known) (within : routes ⊆ known)
    (clean : Clean routes) : ((filled routes).map hasher.digest).Nodup := by
  have differ : (filled routes).Pairwise fun first second =>
      first.targets ≠ [] → ¬ Alike first second := clean.differ.filter _
  refine List.pairwise_map.mpr (differ.imp_of_mem ?_)
  intro first second one two apart same
  obtain ⟨one, some⟩ := List.mem_filter.mp one
  obtain ⟨two, _⟩ := List.mem_filter.mp two
  exact apart (by simpa using some) (alike_of_digest_eq free (within one) (within two)
    (clean.nodup first one) (clean.nodup second two) same)

/-- The digest of a route with targets is the one of no other route. -/
theorem count_digest (free : hasher.CollisionFree known) (within : routes ⊆ known)
    (clean : Clean routes) {route : ServiceRouteEntry} (member : route ∈ filled routes) :
    (routes.map hasher.digest).count (hasher.digest route) = 1 := by
  obtain ⟨listed, some⟩ := List.mem_filter.mp member
  have same : (routes.map hasher.digest).count (hasher.digest route) =
      ((filled routes).map hasher.digest).count (hasher.digest route) := by
    rw [List.count_eq_countP, List.count_eq_countP, List.countP_map, List.countP_map, filled,
      List.countP_filter]
    refine List.countP_congr fun other inside => ?_
    have kept (equal : hasher.digest other = hasher.digest route) : other.targets ≠ [] :=
      (alike_of_digest_eq free (within inside) (within listed) (clean.nodup other inside)
        (clean.nodup route listed) equal).targets_ne_nil (by simpa using some)
    simpa using kept
  rw [same]
  exact List.count_eq_one_of_mem (nodup_digests free within clean) (List.mem_map_of_mem member)

/-- Equal hashes have the digests of the same routes with targets. -/
theorem digest_mem_of_hash_eq (free : hasher.CollisionFree known) (one : routes ⊆ known)
    (two : others ⊆ known) (clean : Clean routes) (clean' : Clean others)
    (same : hasher.hash64 routes = hasher.hash64 others) {digest : RouteDigest}
    (member : digest ∈ (filled routes).map hasher.digest) :
    digest ∈ (filled others).map hasher.digest := by
  obtain ⟨route, inside, rfl⟩ := List.mem_map.mp member
  obtain ⟨listed, some⟩ := List.mem_filter.mp inside
  have odd := (free.routes.count_odd_iff (List.map_subset _ one) (List.map_subset _ two) same
    (hasher.digest route)).mp (by rw [count_digest free one clean inside])
  have there : hasher.digest route ∈ others.map hasher.digest :=
    List.count_pos_iff.mp (by omega)
  obtain ⟨other, listed', equal⟩ := List.mem_map.mp there
  have alike := alike_of_digest_eq free (two listed') (one listed) (clean'.nodup other listed')
    (clean.nodup route listed) equal
  have some' : other.targets ≠ [] := alike.targets_ne_nil (by simpa using some)
  exact List.mem_map.mpr ⟨other, List.mem_filter.mpr ⟨listed', by simpa using some'⟩, equal⟩

theorem addresses_perm_of_alike {first second : ServiceRouteEntry} (alike : Alike first second)
    (name : String) :
    (if registryName first = name then addresses first else []).Perm
      (if registryName second = name then addresses second else []) := by
  obtain ⟨⟨sameName, sameNs, samePort⟩, targets⟩ := alike
  have names : registryName first = registryName second := by
    rw [registryName, registryName, sameName, sameNs, samePort]
  rw [names]
  split
  · exact targets.map _
  · exact .refl _

/-- The registry has under a name the addresses of the routes with targets. -/
theorem lookup_registryOf (serviceRoutes : ServiceRoute) (name : String) :
    ((registryOf serviceRoutes).lookup name).getD [] =
      (filled serviceRoutes.routes).flatMap fun route =>
        if registryName route = name then addresses route else [] := by
  rw [registryOf, lookup_foldl_addToRegistry, AList.lookup_empty, Option.getD_none, List.nil_append]
  induction serviceRoutes.routes with
  | nil => rfl
  | cons route rest ih =>
      by_cases empty : route.targets = []
      · by_cases named : registryName route = name <;> simp [filled, addresses, empty, named] at ih ⊢ <;>
          exact ih
      · by_cases named : registryName route = name <;> simp [filled, empty, named] at ih ⊢ <;>
          exact ih

/-- Equal hashes have equal registries. -/
theorem registry_perm_of_hash_eq (free : hasher.CollisionFree known)
    {first second : ServiceRoute} (one : first.routes ⊆ known) (two : second.routes ⊆ known)
    (clean : Clean first.routes) (clean' : Clean second.routes)
    (same : hasher.hash64 first.routes = hasher.hash64 second.routes) (name : String) :
    (((registryOf first).lookup name).getD []).Perm (((registryOf second).lookup name).getD []) := by
  have digests : ((filled first.routes).map hasher.digest).Perm
      ((filled second.routes).map hasher.digest) := by
    refine (List.perm_ext_iff_of_nodup (nodup_digests free one clean)
      (nodup_digests free two clean')).mpr fun digest => ⟨?_, ?_⟩
    · exact digest_mem_of_hash_eq free one two clean clean' same
    · exact digest_mem_of_hash_eq free two one clean' clean same.symm
  rw [lookup_registryOf, lookup_registryOf]
  refine perm_flatMap_of_map digests fun route member other member' equal => ?_
  have listed := (List.mem_filter.mp member).1
  have listed' := (List.mem_filter.mp member').1
  exact addresses_perm_of_alike (alike_of_digest_eq free (one listed) (two listed')
    (clean.nodup route listed) (clean'.nodup other listed') equal) name

end Hash

/-- The events that the two feeds of a cache have handled. -/
structure History where
  services : List ServiceFeedEvent
  endpoints : List EndpointFeedEvent

namespace History
variable (externals : Externals)

/-- The feeds share no state, so that only the order within each of them matters. -/
def tables (history : History) : Option ServiceTables := do
  let services ← (ServiceFeed.machine externals).run .new history.services
  let endpoints ← (EndpointFeed.machine externals).run .new history.endpoints
  pure (serviceTables services endpoints)

/-- The Services are as the API server stores them, and no other object lists a target of one of
its port names twice. -/
structure Unrepeated (history : History) : Prop where
  services : ∀ event ∈ history.services, ∀ service ∈ event.current, AsStored service
  endpoints : ∀ event ∈ history.endpoints, event.BringsUnrepeated externals

theorem tables_distinct {history : History} {tables : ServiceTables}
    (unrepeated : history.Unrepeated externals) (reached : history.tables externals = some tables) :
    tables.Distinct := by
  simp only [History.tables, Option.bind_eq_bind, Option.bind_eq_some_iff, Option.pure_def,
    Option.some.injEq] at reached
  obtain ⟨services, served, endpoints, fed, rfl⟩ := reached
  obtain ⟨separated, separated'⟩ := EndpointFeed.run_separated externals unrepeated.endpoints fed
  exact {
    services := ServiceFeed.run_named served
    locals := ServiceFeed.run_local unrepeated.services served
    imports := ((EndpointFeed.machine externals).run_preserves
      (fun _ _ _ => EndpointFeed.Named.step) EndpointFeed.named_new fed).stored
    endpoints := separated
    multiCluster := separated' }

/-- Both registries have the same addresses under each name. -/
def SameRegistry (first second : ServiceRoute) : Prop :=
  ∀ name, (((registryOf first).lookup name).getD []).Perm (((registryOf second).lookup name).getD [])

/-- A cache that has handled an import with these endpoints of its only port. -/
def ofEndpoints (endpoints : List SvcImp.Endpoint) : History where
  services := []
  endpoints := [.serviceImport (.stored { EndpointFeed.exampleImport with
      ports := [⟨"http", .tcp, none, 80, endpoints⟩] }),
    .applyServiceImports .stored, .applyMultiClusterEndpoints .stored]

def exampleEndpoint : SvcImp.Endpoint := ⟨⟨"10.1.0.1", "10.1.0.1", 80, "/web"⟩, "r/z/g/b"⟩

/-- Every set has another hash than the empty one. -/
def exampleHasher : RouteHasher where
  targets := ⟨fun _ => 1, id⟩
  routes := ⟨fun _ => 1, id⟩

end History
end ErieCanal.Cache
