import ErieCanal.Construction.Cache.ServiceImport

namespace ErieCanal.Cache
open Lib CoreV1 SvcImp

section Translations
variable (externals : Externals)

theorem allKeys_addEndpointPort (endpoints : Endpoints) (subset : EndpointSubset)
    (map : EndpointsMap) (port : EndpointPort)
    (all : map.AllKeys fun key => key.namespacedName = endpoints.key) :
    (addEndpointPort externals endpoints subset map port).AllKeys fun key =>
      key.namespacedName = endpoints.key := by
  unfold addEndpointPort
  split
  · exact all
  · refine List.foldlRecOn (usableAddresses externals subset) _ all ?_
    intro map kept addr _
    exact kept.insert rfl _

/-- An Endpoints object contributes to its own ports only. -/
theorem endpointsToEndpointsMap_owned (endpoints : Endpoints) (key : ServicePortName)
    (found : (GoMap.find (endpointsToEndpointsMap externals (some endpoints)) key).isSome) :
    key.namespacedName = endpoints.key := by
  refine List.foldlRecOn (motive := fun map : EndpointsMap =>
    map.AllKeys fun key => key.namespacedName = endpoints.key) endpoints.subsets _
      GoMap.allKeys_empty ?_ key found
  intro map kept subset _
  refine List.foldlRecOn subset.ports _ kept ?_
  intro map kept port _
  exact allKeys_addEndpointPort externals endpoints subset map port kept

theorem allKeys_addImportEndpoints (svcImp : ServiceImport) (map : MultiClusterEndpointsMap)
    (port : SvcImp.ServicePort)
    (all : map.AllKeys fun key => key.namespacedName = svcImp.key) :
    (addImportEndpoints svcImp map port).AllKeys fun key => key.namespacedName = svcImp.key := by
  refine List.foldlRecOn port.endpoints _ all ?_
  intro map kept ep _
  exact kept.insert rfl _

theorem importToEndpointsMap_owned (svcImp : ServiceImport) (key : ServicePortName)
    (found : (GoMap.find (importToEndpointsMap (some svcImp)) key).isSome) :
    key.namespacedName = svcImp.key := by
  refine List.foldlRecOn (motive := fun map : MultiClusterEndpointsMap =>
    map.AllKeys fun key => key.namespacedName = svcImp.key) svcImp.ports _
      GoMap.allKeys_empty ?_ key found
  intro map kept port _
  exact allKeys_addImportEndpoints svcImp map port kept

/-- The keys of an import are those of its ports, whatever Services there are. -/
theorem serviceImportToServiceMap_keys (services : NamespacedName → Option Service)
    (svcImp : ServiceImport) (key : ServicePortName) :
    (GoMap.find (serviceImportToServiceMap externals services (some svcImp)) key).isSome ↔
      ∃ port ∈ svcImp.ports, importPortName svcImp port = key := by
  have keys := GoMap.isSome_lookup_foldl_insert (importPortName svcImp)
    (fun port => enrichServiceImportInfo svcImp
      (newImportServiceInfo externals services port svcImp)) svcImp.ports ∅ key
  simpa [serviceImportToServiceMap] using keys

theorem serviceImportToServiceMap_owned (services : NamespacedName → Option Service)
    (svcImp : ServiceImport) (key : ServicePortName)
    (found : (GoMap.find (serviceImportToServiceMap externals services (some svcImp)) key).isSome) :
    key.namespacedName = svcImp.key := by
  obtain ⟨port, _, rfl⟩ := (serviceImportToServiceMap_keys externals services svcImp key).mp found
  rfl

end Translations

namespace EndpointFeed
variable (externals : Externals)

/-- The ports that the imports contribute do not depend on the Service lister. -/
theorem ports_eq (first second : NamespacedName → Option Service)
    (delivered : GoMap NamespacedName ServiceImport) :
    contribution present (serviceImportToServiceMap externals first) delivered =
      contribution present (serviceImportToServiceMap externals second) delivered := by
  funext name key
  simp only [contribution]
  cases delivered.lookup name with
  | none => rfl
  | some svcImp =>
      apply Option.ext
      intro seen
      simp only [map_present_eq_some, serviceImportToServiceMap_keys]

/-- The three maps follow the delivered objects. -/
structure UpToDate (feed : EndpointFeed) : Prop where
  endpointsKeyed : Notice.Keyed Endpoints.key feed.endpoints
  serviceImportsKeyed : Notice.Keyed ServiceImport.key feed.serviceImports
  endpoints : Follows ServicePortName.namespacedName id
    (contribution id (endpointsToEndpointsMap externals) feed.endpoints)
    feed.endpointsChanges feed.endpointsMap
  serviceImports : Follows ServicePortName.namespacedName present
    (contribution present (serviceImportToServiceMap externals feed.services) feed.serviceImports)
    feed.serviceImportChanges.items feed.serviceImportMap
  multiClusterEndpoints : Follows ServicePortName.namespacedName id
    (contribution id importToEndpointsMap feed.serviceImports)
    feed.serviceImportChanges.endpointItems feed.multiClusterEndpointsMap

theorem upToDate_new : UpToDate externals new where
  endpointsKeyed := Notice.keyed_empty _
  serviceImportsKeyed := Notice.keyed_empty _
  endpoints := follows_empty (contribution_empty rfl)
  serviceImports := follows_empty (contribution_empty rfl)
  multiClusterEndpoints := follows_empty (contribution_empty rfl)

theorem UpToDate.step {feed next : EndpointFeed} {event : EndpointFeedEvent}
    (upToDate : UpToDate externals feed)
    (stepped : (machine externals).step feed event = some next) : UpToDate externals next := by
  obtain ⟨endpointsKeyed, importsKeyed, endpoints, imports, multi⟩ := upToDate
  cases event with
  | serviceStored key service =>
      cases stepped
      exact ⟨endpointsKeyed, importsKeyed, endpoints, ports_eq externals _ _ _ ▸ imports, multi⟩
  | endpoints notice =>
      cases stepped
      refine ⟨endpointsKeyed.deliver _ notice, importsKeyed, ?_, imports, multi⟩
      refine endpoints.track _ notice endpointsKeyed rfl (endpointsToEndpointsMap_owned externals)
        (fun ignored => ?_) (fun object recorded => ?_)
      · simp only [EndpointChanges.track, ignored]
      · simp only [EndpointChanges.track, recorded]
  | serviceImport notice =>
      cases stepped
      refine ⟨endpointsKeyed, importsKeyed.deliver _ notice, endpoints, ?_, ?_⟩
      · refine imports.track _ notice importsKeyed rfl
          (serviceImportToServiceMap_owned externals feed.services)
          (fun ignored => ?_) (fun object recorded => ?_)
        · simp only [ServiceImportChanges.track, ignored]
        · simp only [ServiceImportChanges.track, recorded]
      · refine multi.track _ notice importsKeyed rfl importToEndpointsMap_owned
          (fun ignored => ?_) (fun object recorded => ?_)
        · simp only [ServiceImportChanges.track, ignored]
        · simp only [ServiceImportChanges.track, recorded]
  | applyEndpoints range =>
      cases stepped
      exact ⟨endpointsKeyed, importsKeyed, endpoints.applied (Changes.applied_apply range 0 _ _),
        imports, multi⟩
  | applyServiceImports range =>
      cases stepped
      exact ⟨endpointsKeyed, importsKeyed, endpoints,
        imports.applied (Changes.applied_applyOverlay range 0 _ _), multi⟩
  | applyMultiClusterEndpoints range =>
      cases stepped
      exact ⟨endpointsKeyed, importsKeyed, endpoints, imports,
        multi.applied (Changes.applied_apply range 0 _ _)⟩

def endpointsNotice : EndpointFeedEvent → Option (Notice NamespacedName Endpoints)
  | .endpoints notice => some notice
  | _ => none

def serviceImportNotice : EndpointFeedEvent → Option (Notice NamespacedName ServiceImport)
  | .serviceImport notice => some notice
  | _ => none

/-- The Endpoints that exist after these events. -/
def liveEndpoints (events : List EndpointFeedEvent) : NamespacedName → Option Endpoints :=
  Notice.live Endpoints.key (events.filterMap endpointsNotice)

/-- The ServiceImports that exist after these events. -/
def liveServiceImports (events : List EndpointFeedEvent) : NamespacedName → Option ServiceImport :=
  Notice.live ServiceImport.key (events.filterMap serviceImportNotice)

/-- The old objects of the next events are those that exist after the events so far. -/
structure Delivered (past : List EndpointFeedEvent) (feed : EndpointFeed) : Prop where
  endpoints : ∀ name, feed.endpoints.lookup name = liveEndpoints past name
  serviceImports : ∀ name, feed.serviceImports.lookup name = liveServiceImports past name

theorem Delivered.step {past : List EndpointFeedEvent} {feed next : EndpointFeed}
    {event : EndpointFeedEvent} (delivered : Delivered past feed)
    (stepped : (machine externals).step feed event = some next) :
    Delivered (past ++ [event]) next := by
  obtain ⟨endpoints, imports⟩ := delivered
  unfold liveEndpoints at endpoints
  unfold liveServiceImports at imports
  cases event <;> cases stepped <;> constructor <;> intro name <;>
    simp [liveEndpoints, liveServiceImports, endpointsNotice, serviceImportNotice, List.filterMap_cons,
      Notice.live_append, Notice.lookup_deliver, endpoints, imports]

theorem delivered_run {events : List EndpointFeedEvent} {final : EndpointFeed}
    (reached : (machine externals).run new events = some final) : Delivered events final :=
  (machine externals).run_history (fun _ _ _ _ delivered => delivered.step externals)
    (⟨fun _ => rfl, fun _ => rfl⟩ : Delivered [] new) reached

/-- The maps hold what the objects contribute that exist after the events, and nothing else. -/
structure Exact (events : List EndpointFeedEvent) (feed : EndpointFeed) : Prop where
  endpointsMap : ∀ key infos, feed.endpointsMap.lookup key = some infos ↔
    ∃ name endpoints, liveEndpoints events name = some endpoints ∧
      GoMap.find (endpointsToEndpointsMap externals (some endpoints)) key = some infos
  multiClusterEndpointsMap : ∀ key infos, feed.multiClusterEndpointsMap.lookup key = some infos ↔
    ∃ name svcImp, liveServiceImports events name = some svcImp ∧
      GoMap.find (importToEndpointsMap (some svcImp)) key = some infos
  serviceImportMap : ∀ key, (feed.serviceImportMap.lookup key).isSome ↔
    ∃ name svcImp, liveServiceImports events name = some svcImp ∧
      ∃ port ∈ svcImp.ports, importPortName svcImp port = key

/-- No change waits for one of the maps. -/
structure Drained (feed : EndpointFeed) : Prop where
  endpointsChanges : feed.endpointsChanges = ∅
  items : feed.serviceImportChanges.items = ∅
  endpointItems : feed.serviceImportChanges.endpointItems = ∅

theorem UpToDate.exact {events : List EndpointFeedEvent} {feed : EndpointFeed}
    (upToDate : UpToDate externals feed) (drained : feed.Drained)
    (reached : (machine externals).run new events = some feed) : Exact externals events feed where
  endpointsMap key infos := by
    have tracks := upToDate.endpoints.tracks
    rw [drained.endpointsChanges] at tracks
    simp only [← (delivered_run externals reached).endpoints]
    simpa only [Option.map_id_fun, id] using tracks.objects rfl key infos
  multiClusterEndpointsMap key infos := by
    have tracks := upToDate.multiClusterEndpoints.tracks
    rw [drained.endpointItems] at tracks
    simp only [← (delivered_run externals reached).serviceImports]
    simpa only [Option.map_id_fun, id] using tracks.objects rfl key infos
  serviceImportMap key := by
    have tracks := upToDate.serviceImports.tracks
    rw [drained.items] at tracks
    simp only [← (delivered_run externals reached).serviceImports]
    simpa only [map_present_eq_some, serviceImportToServiceMap_keys] using tracks.objects rfl key ()

/-- These steps only apply pending changes. -/
def Applies : EndpointFeedEvent → Prop
  | .applyEndpoints _ | .applyServiceImports _ | .applyMultiClusterEndpoints _ => True
  | _ => False

/-- An apply drains a tracker or leaves it alone, and every tracker has its apply. -/
theorem drained_of_applies {Pending : Type} [EmptyCollection Pending]
    (pending : EndpointFeed → Pending)
    {last : List EndpointFeedEvent} {event : EndpointFeedEvent} {feed final : EndpointFeed}
    (applies : ∀ event ∈ last, Applies event) (within : event ∈ last)
    (drains : ∀ feed next, (machine externals).step feed event = some next → pending next = ∅)
    (leaves : ∀ feed event next, Applies event → (machine externals).step feed event = some next →
      pending next = pending feed ∨ pending next = ∅)
    (reached : (machine externals).run feed last = some final) : pending final = ∅ :=
  (machine externals).run_establishes applies within drains
    (fun feed event next empty allowed stepped =>
      (leaves feed event next allowed stepped).elim (fun same => same.trans empty) id) reached

/-- After every run that ends with the three applies, in any order, the endpoint maps are the
unions of the contributions and the import map has the ports of the imports. -/
theorem run_applied_exact {events last : List EndpointFeedEvent} {final : EndpointFeed}
    (applies : ∀ event ∈ last, Applies event)
    (endpoints : ∃ range, .applyEndpoints range ∈ last)
    (serviceImports : ∃ range, .applyServiceImports range ∈ last)
    (multiClusterEndpoints : ∃ range, .applyMultiClusterEndpoints range ∈ last)
    (reached : (machine externals).run new (events ++ last) = some final) :
    Exact externals (events ++ last) final := by
  have upToDate := (machine externals).run_preserves (fun _ _ _ => UpToDate.step externals)
    (upToDate_new externals) reached
  obtain ⟨middle, _, applied⟩ := ((machine externals).run_append_eq_some _ _ _ _).mp reached
  refine upToDate.exact externals ⟨?_, ?_, ?_⟩ reached
  · obtain ⟨range, within⟩ := endpoints
    refine drained_of_applies externals endpointsChanges applies within ?_ ?_ applied
    · intro feed next stepped
      cases stepped
      rfl
    · intro feed event next allowed stepped
      cases event <;> cases allowed <;> cases stepped <;> simp
  · obtain ⟨range, within⟩ := serviceImports
    refine drained_of_applies externals (fun feed => feed.serviceImportChanges.items) applies
      within ?_ ?_ applied
    · intro feed next stepped
      cases stepped
      rfl
    · intro feed event next allowed stepped
      cases event <;> cases allowed <;> cases stepped <;> simp
  · obtain ⟨range, within⟩ := multiClusterEndpoints
    refine drained_of_applies externals (fun feed => feed.serviceImportChanges.endpointItems)
      applies within ?_ ?_ applied
    · intro feed next stepped
      cases stepped
      rfl
    · intro feed event next allowed stepped
      cases event <;> cases allowed <;> cases stepped <;> simp

def exampleEndpoints : Endpoints where
  ns := "default"
  name := "web"
  subsets := [⟨[⟨"10.0.0.1", "", none⟩], [⟨"http", 80, .tcp⟩]⟩]

def exampleImport : ServiceImport where
  ns := "default"
  name := "web"
  resourceVersion := 1
  deletionTimestamp := none
  type := .clusterSetIP
  ports := [⟨"http", .tcp, none, 80, [⟨⟨"10.1.0.1", "10.1.0.1", 80, "/web"⟩, "r/z/g/b"⟩]⟩]
  serviceAccountName := ""

/-- The import is drained from one tracker only when its resync and the Endpoints come. -/
def exampleRun : List EndpointFeedEvent :=
  [.serviceImport (.stored exampleImport), .applyMultiClusterEndpoints .stored,
    .serviceImport (.stored exampleImport), .endpoints (.stored exampleEndpoints)]

def exampleApplies : List EndpointFeedEvent :=
  [.applyServiceImports .stored, .applyEndpoints .stored, .applyMultiClusterEndpoints .stored]

theorem run_applied_exact_resync :
    ∃ final, (machine exampleExternals).run new (exampleRun ++ exampleApplies) = some final ∧
      Exact exampleExternals (exampleRun ++ exampleApplies) final ∧
      final.endpointsMap.lookup ⟨⟨"default", "web"⟩, "http", .tcp⟩ =
        some [⟨"10.0.0.1:80", "", "", ""⟩] ∧
      final.multiClusterEndpointsMap.lookup ⟨⟨"default", "web"⟩, "http", .tcp⟩ =
        some [⟨"10.1.0.1:80/web", "", "", "r/z/g/b"⟩] ∧
      (final.serviceImportMap.lookup ⟨⟨"default", "web"⟩, "http", .tcp⟩).isSome :=
  ⟨_, rfl, @run_applied_exact exampleExternals exampleRun exampleApplies _
    (by simp [exampleApplies, Applies]) ⟨.stored, by simp [exampleApplies]⟩
    ⟨.stored, by simp [exampleApplies]⟩ ⟨.stored, by simp [exampleApplies]⟩ rfl, by decide +kernel,
    by decide +kernel, by decide +kernel⟩

end EndpointFeed
end ErieCanal.Cache
