import ErieCanal.Proof.Cluster.UpsertFrame

namespace ErieCanal.Cluster
open Lib Lib.Program Kube Event SvcExp SvcImp

/-- The connector handles accepted exports one after another. -/
def RemoteConnector.upsertAll (c : RemoteConnector) :
    List (RangeOrder Endpoint × ServiceExportEvent) → Api (Except ApiError Unit)
  | [] => pure (.ok ())
  | (range, event) :: rest => do
      match ← c.upsertServiceImport range event with
      | .error error => pure (.error error)
      | .ok _ => upsertAll c rest

/-- The ports with their endpoints, where the order of both lists is ignored. -/
def portView (ports : List ServicePort) : Set (ServicePort × Set Endpoint) :=
  {view | ∃ p ∈ ports, view = (portEntry p, {ep | ep ∈ p.endpoints})}

/-- The view of the connector's import, if it has one. -/
def RemoteConnector.importView (c : RemoteConnector) (key : NamespacedName) (fleet : Fleet) :
    Option (Set (ServicePort × Set Endpoint)) :=
  ((fleet c.context.clusterKey).serviceImports key).map fun imp => portView imp.ports

/-- The entries of the service ports that some rule of the export names. -/
def exportedEntries (event : ServiceExportEvent) : List ServicePort :=
  (newServiceImport event).ports.map portEntry

/-- The endpoint that the last rule of a port number gives. -/
def lastEndpoint (event : ServiceExportEvent) (port : Int) : Option Endpoint :=
  (rulesOf event port).getLast?.map (ruleEndpoint event)

section Merging

/-- One upsert of a port list. -/
def mergePorts (event : ServiceExportEvent) (range : RangeOrder Endpoint)
    (ports : List ServicePort) : List ServicePort :=
  ports.mapIdx fun idx p => { p with endpoints := upsertEndpoints event range idx p }

/-- The ports after all upserts; the first one starts from its own ports when there is no import. -/
def mergeAll : List (RangeOrder Endpoint × ServiceExportEvent) → Option (List ServicePort) →
    Option (List ServicePort)
  | [], ports => ports
  | (range, event) :: rest, ports =>
      mergeAll rest (some (mergePorts event range (ports.getD (newServiceImport event).ports)))

/-- Successful upserts store the merged ports. -/
theorem upsertAll_ensures (c : RemoteConnector) (key : NamespacedName)
    (work : List (RangeOrder Endpoint × ServiceExportEvent))
    (named : ∀ item ∈ work, item.2.serviceExport.key = key)
    (foreign : ∀ item ∈ work, item.2.clusterKey ≠ c.context.clusterKey) (fleet : Fleet) :
    Ensures Fleet.serve (fun answer final => answer = .ok () →
        ((final c.context.clusterKey).serviceImports key).map ServiceImport.ports =
          mergeAll work (((fleet c.context.clusterKey).serviceImports key).map ServiceImport.ports))
      (c.upsertAll work) fleet := by
  induction work generalizing fleet with
  | nil => exact fun _ => rfl
  | cons item rest ih =>
      obtain ⟨range, event⟩ := item
      rw [List.forall_mem_cons] at named foreign
      obtain ⟨rfl, named⟩ := named
      refine Ensures.bind (Ensures.weaken
        (upsertServiceImport_ensures c range event foreign.1 fleet) ?_)
      intro answer middle stored
      cases answer with
      | error error => exact fun failed => nomatch failed
      | ok value =>
          obtain ⟨after, found, merged⟩ := stored rfl
          refine Ensures.weaken (ih named foreign.2 middle) fun answer final continued succeeded => ?_
          rw [continued succeeded, mergeAll, found, Option.map_some, merged, storedOrNew]
          cases (fleet c.context.clusterKey).serviceImports event.serviceExport.key <;> rfl

theorem mergePorts_entries (event : ServiceExportEvent) (range : RangeOrder Endpoint)
    (ports : List ServicePort) :
    (mergePorts event range ports).map portEntry = ports.map portEntry := by
  apply List.ext_getElem?
  intro index
  rw [mergePorts, List.getElem?_map, List.getElem?_mapIdx, List.getElem?_map, Option.map_map]
  rfl

theorem mem_mergePorts {event : ServiceExportEvent} {range : RangeOrder Endpoint}
    {ports : List ServicePort} {p : ServicePort} (member : p ∈ mergePorts event range ports) :
    ∃ idx, ∃ q ∈ ports, p = { q with endpoints := upsertEndpoints event range idx q } := by
  obtain ⟨idx, bound, rfl⟩ := List.mem_mapIdx.mp member
  exact ⟨idx, ports[idx], List.getElem_mem bound, rfl⟩

/-- Later upserts keep the port entries. -/
theorem mergeAll_entries (work : List (RangeOrder Endpoint × ServiceExportEvent))
    (ports : List ServicePort) :
    ∃ merged, mergeAll work (some ports) = some merged ∧
      merged.map portEntry = ports.map portEntry := by
  induction work generalizing ports with
  | nil => exact ⟨ports, rfl, rfl⟩
  | cons item rest ih =>
      obtain ⟨merged, found, kept⟩ := ih (mergePorts item.2 item.1 ports)
      exact ⟨merged, found, kept.trans (mergePorts_entries _ _ _)⟩

/-- A port holds the last endpoint of every one of the events and nothing else. -/
def Merged (events : List ServiceExportEvent) (ports : List ServicePort) : Prop :=
  ∀ p ∈ ports, ∀ ep, ep ∈ p.endpoints ↔ ∃ event ∈ events, lastEndpoint event p.port = some ep

theorem lastEndpoint_eq_some (event : ServiceExportEvent) (port : Int) (ep : Endpoint) :
    lastEndpoint event port = some ep ↔
      ∃ r, (rulesOf event port).getLast? = some r ∧ ruleEndpoint event r = ep := by
  rw [lastEndpoint, Option.map_eq_some_iff]

theorem lastEndpoint_clusterKey {event : ServiceExportEvent} {port : Int} {ep : Endpoint}
    (last : lastEndpoint event port = some ep) : ep.clusterKey = event.clusterKey := by
  obtain ⟨r, -, rfl⟩ := (lastEndpoint_eq_some event port ep).mp last
  rfl

/-- An exported entry has a rule. -/
theorem lastEndpoint_of_exported {event : ServiceExportEvent} (entry : ServicePort)
    (exported : entry ∈ exportedEntries event) : ∃ ep, lastEndpoint event entry.port = some ep := by
  simp only [exportedEntries, newServiceImport, List.mem_map, List.mem_flatMap, List.mem_filter,
    beq_iff_eq] at exported
  obtain ⟨p, ⟨r, ruled, q, ⟨-, number⟩, rfl⟩, rfl⟩ := exported
  obtain ⟨last, found⟩ := rulesOf_getLast_some.mpr ⟨r, ruled, number⟩
  exact ⟨ruleEndpoint event last, (lastEndpoint_eq_some _ _ _).mpr ⟨last, found, rfl⟩⟩

/-- An upsert of a named port replaces the exporter's endpoints and keeps all others when no other
cluster has two. -/
theorem mem_upsertEndpoints_merged (event : ServiceExportEvent) (range : RangeOrder Endpoint)
    (idx : Nat) (p : ServicePort) (filled : p.endpoints ≠ [])
    (ruled : ∃ ep, lastEndpoint event p.port = some ep)
    (unique : ∀ ep ∈ p.endpoints, ep.clusterKey ≠ event.clusterKey →
      ∀ ep' ∈ p.endpoints, ep'.clusterKey = ep.clusterKey → ep' = ep) (ep : Endpoint) :
    ep ∈ upsertEndpoints event range idx p ↔
      lastEndpoint event p.port = some ep ∨ ep.clusterKey ≠ event.clusterKey ∧ ep ∈ p.endpoints := by
  by_cases own : ep.clusterKey = event.clusterKey
  · rw [mem_upsertEndpoints event range idx p filled, lastEndpoint_eq_some]
    constructor
    · rintro ⟨r, last, rfl | ⟨other, -⟩⟩
      · exact Or.inl ⟨r, last, rfl⟩
      · exact absurd own other
    · rintro (⟨r, last, rfl⟩ | ⟨other, -⟩)
      · exact ⟨r, last, Or.inl rfl⟩
      · exact absurd own other
  · obtain ⟨last, found⟩ := ruled
    obtain ⟨r, chosen, -⟩ := (lastEndpoint_eq_some event p.port last).mp found
    have kept := (upsertEndpoints_others_iff event range idx p).mpr fun other member foreign =>
      ⟨rulesOf_getLast_some.mp ⟨r, chosen⟩, unique other member foreign⟩
    rw [kept ep own]
    constructor
    · exact fun member => Or.inr ⟨own, member⟩
    · rintro (mine | ⟨-, member⟩)
      · exact absurd (lastEndpoint_clusterKey mine) own
      · exact member

/-- The first event fills its own ports. -/
theorem Merged.first (event : ServiceExportEvent) (range : RangeOrder Endpoint) :
    Merged [event] (mergePorts event range (newServiceImport event).ports) := by
  intro p member ep
  obtain ⟨idx, q, created, rfl⟩ := mem_mergePorts member
  have ruled : ∃ ep, lastEndpoint event q.port = some ep :=
    lastEndpoint_of_exported (portEntry q) (List.mem_map_of_mem created)
  obtain ⟨r, -, shaped⟩ := List.mem_flatMap.mp created
  obtain ⟨_, -, shape⟩ := List.mem_map.mp shaped
  have endpoints : q.endpoints = [ruleEndpoint event r] := by rw [← shape]
  have own (other : Endpoint) (held : other ∈ q.endpoints) :
      other.clusterKey = event.clusterKey := by
    rw [endpoints] at held
    rw [List.mem_singleton.mp held, ruleEndpoint_clusterKey]
  rw [mem_upsertEndpoints_merged event range idx q (by simp [endpoints]) ruled
    (fun other held foreign => absurd (own other held) foreign)]
  constructor
  · rintro (last | ⟨foreign, held⟩)
    · exact ⟨event, List.mem_singleton_self _, last⟩
    · exact absurd (own ep held) foreign
  · rintro ⟨other, chosen, last⟩
    exact Or.inl (List.mem_singleton.mp chosen ▸ last)

/-- One more event of a new cluster adds its endpoint to every port. -/
theorem Merged.next {events : List ServiceExportEvent} {ports : List ServicePort}
    (merged : Merged events ports) (some_event : events ≠ [])
    (distinct : (events.map ServiceExportEvent.clusterKey).Nodup)
    (event : ServiceExportEvent) (fresh : ∀ other ∈ events, other.clusterKey ≠ event.clusterKey)
    (ruled : ∀ p ∈ ports, ∀ other ∈ event :: events, ∃ ep, lastEndpoint other p.port = some ep)
    (range : RangeOrder Endpoint) : Merged (event :: events) (mergePorts event range ports) := by
  intro p member ep
  obtain ⟨idx, q, present, rfl⟩ := mem_mergePorts member
  have foreign (other : Endpoint) (held : other ∈ q.endpoints) :
      other.clusterKey ≠ event.clusterKey := by
    obtain ⟨earlier, listed, last⟩ := (merged q present other).mp held
    exact lastEndpoint_clusterKey last ▸ fresh earlier listed
  have filled : q.endpoints ≠ [] := by
    obtain ⟨earlier, listed⟩ := List.exists_mem_of_ne_nil events some_event
    obtain ⟨other, last⟩ := ruled q present earlier (List.mem_cons_of_mem _ listed)
    exact List.ne_nil_of_mem ((merged q present other).mpr ⟨earlier, listed, last⟩)
  have unique (first : Endpoint) (held : first ∈ q.endpoints)
      (_ : first.clusterKey ≠ event.clusterKey) (second : Endpoint)
      (held' : second ∈ q.endpoints) (same : second.clusterKey = first.clusterKey) :
      second = first := by
    obtain ⟨earlier, listed, last⟩ := (merged q present first).mp held
    obtain ⟨earlier', listed', last'⟩ := (merged q present second).mp held'
    rw [lastEndpoint_clusterKey last, lastEndpoint_clusterKey last'] at same
    rw [List.inj_on_of_nodup_map distinct listed' listed same, last, Option.some.injEq] at last'
    exact last'.symm
  rw [mem_upsertEndpoints_merged event range idx q filled
    (ruled q present event List.mem_cons_self) unique, merged q present ep]
  simp only [List.mem_cons, exists_eq_or_imp]
  refine or_congr_right (and_iff_right_of_imp ?_)
  rintro ⟨earlier, listed, last⟩
  exact foreign ep ((merged q present ep).mpr ⟨earlier, listed, last⟩)

/-- The exports have the same exported entries. -/
def SameEntries (events : List ServiceExportEvent) : Prop :=
  ∀ first ∈ events, ∀ second ∈ events, ∀ entry ∈ exportedEntries first,
    entry ∈ exportedEntries second

instance (events : List ServiceExportEvent) : Decidable (SameEntries events) :=
  inferInstanceAs (Decidable (∀ first ∈ events, ∀ second ∈ events, _))

/-- Under equal entries the upserts of all later events complete every port. -/
theorem mergeAll_merged (work : List (RangeOrder Endpoint × ServiceExportEvent))
    (events : List ServiceExportEvent) (ports : List ServicePort) (some_event : events ≠ [])
    (merged : Merged events ports)
    (distinct : ((work.map Prod.snd ++ events).map ServiceExportEvent.clusterKey).Nodup)
    (ruled : ∀ p ∈ ports, ∀ event ∈ work.map Prod.snd ++ events,
      ∃ ep, lastEndpoint event p.port = some ep) :
    ∃ final, mergeAll work (some ports) = some final ∧
      Merged (work.map Prod.snd ++ events) final := by
  induction work generalizing events ports with
  | nil => exact ⟨ports, rfl, merged⟩
  | cons item rest ih =>
      obtain ⟨range, event⟩ := item
      have moved : (rest.map Prod.snd ++ event :: events).Perm
          (List.map Prod.snd ((range, event) :: rest) ++ events) := List.perm_middle
      have apart : ((event :: events).map ServiceExportEvent.clusterKey).Nodup :=
        ((List.sublist_append_right (rest.map Prod.snd) (event :: events)).map _).nodup
          ((moved.map _).nodup_iff.mpr distinct)
      rw [List.map_cons, List.nodup_cons] at apart
      have within (other : ServiceExportEvent) (listed : other ∈ event :: events) :
          other ∈ List.map Prod.snd ((range, event) :: rest) ++ events :=
        moved.mem_iff.mp (List.mem_append_right _ listed)
      have continued := merged.next some_event apart.2 event (fun other listed same =>
        apart.1 (same ▸ List.mem_map_of_mem listed))
        (fun p member other listed => ruled p member other (within other listed)) range
      obtain ⟨final, found, complete⟩ := ih (event :: events) _ (List.cons_ne_nil _ _) continued
        ((moved.map _).nodup_iff.mpr distinct) fun p member other listed => by
          obtain ⟨idx, q, present, rfl⟩ := mem_mergePorts member
          exact ruled q present other (moved.mem_iff.mp listed)
      refine ⟨final, found, fun p member ep => (complete p member ep).trans ?_⟩
      simp only [moved.mem_iff]

theorem portView_of_merged {events : List ServiceExportEvent} {ports : List ServicePort}
    (merged : Merged events ports) (view : ServicePort × Set Endpoint) :
    view ∈ portView ports ↔ view.1 ∈ ports.map portEntry ∧
      view.2 = {ep | ∃ event ∈ events, lastEndpoint event view.1.port = some ep} := by
  have endpoints (p : ServicePort) (member : p ∈ ports) :
      {ep | ep ∈ p.endpoints} = {ep | ∃ event ∈ events, lastEndpoint event p.port = some ep} :=
    Set.ext (merged p member)
  constructor
  · rintro ⟨p, member, rfl⟩
    exact ⟨List.mem_map_of_mem member, endpoints p member⟩
  · rintro ⟨listed, same⟩
    obtain ⟨p, member, entry⟩ := List.mem_map.mp listed
    refine ⟨p, member, Prod.ext entry.symm (same.trans ?_)⟩
    rw [← entry]
    exact (endpoints p member).symm

/-- All events together give every exported entry its endpoints. -/
theorem mergeAll_complete {events : List ServiceExportEvent} (same : SameEntries events)
    (distinct : (events.map ServiceExportEvent.clusterKey).Nodup)
    (range : RangeOrder Endpoint) (event : ServiceExportEvent)
    (rest : List (RangeOrder Endpoint × ServiceExportEvent))
    (order : (event :: rest.map Prod.snd).Perm events) :
    ∃ ports, mergeAll ((range, event) :: rest) none = some ports ∧
      ports.map portEntry = exportedEntries event ∧ Merged events ports := by
  have moved : (rest.map Prod.snd ++ [event]).Perm events :=
    (List.perm_append_singleton event _).trans order
  have first := order.mem_iff.mp List.mem_cons_self
  have entries := mergePorts_entries event range (newServiceImport event).ports
  obtain ⟨ports, found, merged⟩ := mergeAll_merged rest [event] _ (List.cons_ne_nil _ _)
    (Merged.first event range) ((moved.map _).nodup_iff.mpr distinct) fun p member other listed => by
      have exported : portEntry p ∈ exportedEntries event := by
        rw [exportedEntries, ← entries]
        exact List.mem_map_of_mem member
      exact lastEndpoint_of_exported (portEntry p)
        (same event first other (moved.mem_iff.mp listed) _ exported)
  obtain ⟨kept, found', listed⟩ := mergeAll_entries rest
    (mergePorts event range (newServiceImport event).ports)
  obtain rfl := Option.some.inj (found.symm.trans found')
  refine ⟨ports, found, listed.trans entries, fun p member ep => (merged p member ep).trans ?_⟩
  simp only [moved.mem_iff]

end Merging

section Success
variable (c : RemoteConnector) (event : ServiceExportEvent) (fleet : Fleet)

/-- Without a fault the namespace exists after the first call. -/
theorem serve_createNamespace (cluster ns : String) :
    let served := fleet.serve ⟨cluster, .createNamespace ns⟩ none
    (served.1 = .ok () ∨ served.1 = .error .alreadyExists) ∧
      (served.2 cluster).namespaces ns = true := by
  simp only [Fleet.serve, ApiServer.serve, Function.update_self]
  split
  · next exists_ns => exact ⟨Or.inr rfl, exists_ns⟩
  · exact ⟨Or.inl rfl, Function.update_self ..⟩

theorem createOrGetServiceImport_succeeds
    (housed : (fleet c.context.clusterKey).namespaces event.serviceExport.ns = true) :
    ∃ imp final, (c.createOrGetServiceImport event).execute (fun _ => none) fleet =
        (.ok imp, final) ∧
      (final c.context.clusterKey).serviceImports event.serviceExport.key = some imp := by
  have served : fleet.serve ⟨c.context.clusterKey, .createServiceImport (newServiceImport event)⟩
      none = (((fleet c.context.clusterKey).createServiceImport (newServiceImport event)).1,
        Function.update fleet c.context.clusterKey
          ((fleet c.context.clusterKey).createServiceImport (newServiceImport event)).2) := rfl
  rw [ApiServer.createServiceImport, newServiceImport_key,
    if_neg (by simp [newServiceImport, housed])] at served
  cases stored : (fleet c.context.clusterKey).serviceImports event.serviceExport.key with
  | none =>
      simp only [stored] at served
      refine ⟨{ newServiceImport event with
        resourceVersion := (fleet c.context.clusterKey).revision + 1 },
        written fleet c.context.clusterKey (newServiceImport event), ?_, ?_⟩
      · change execute Fleet.serve (.call ⟨c.context.clusterKey,
          .createServiceImport (newServiceImport event)⟩ _) (fun _ => none) fleet = _
        rw [execute, served]
        rfl
      · rw [written, Function.update_self, ← newServiceImport_key,
          ApiServer.writeServiceImport_self]
  | some imp =>
      simp only [stored, Function.update_eq_self] at served
      have read : fleet.serve ⟨c.context.clusterKey, .getServiceImport event.serviceExport.key⟩
          none = (.ok imp, fleet) := by
        simp only [Fleet.serve, ApiServer.serve, stored, ApiServer.present, Function.update_eq_self]
      refine ⟨imp, fleet, ?_, stored⟩
      change execute Fleet.serve (.call ⟨c.context.clusterKey,
        .createServiceImport (newServiceImport event)⟩ _) (fun _ => none) fleet = _
      rw [execute, served]
      change execute Fleet.serve (.call ⟨c.context.clusterKey,
        .getServiceImport event.serviceExport.key⟩ _) (fun _ => none) fleet = _
      rw [execute, read]
      rfl

theorem getOrCreateServiceImport_succeeds :
    ∃ imp final, (c.getOrCreateServiceImport event).execute (fun _ => none) fleet =
        (.ok imp, final) ∧
      (final c.context.clusterKey).serviceImports event.serviceExport.key = some imp := by
  obtain ⟨answered, housed⟩ :=
    serve_createNamespace fleet c.context.clusterKey event.serviceExport.ns
  obtain ⟨imp, final, executed, found⟩ := createOrGetServiceImport_succeeds c event _ housed
  refine ⟨imp, final, ?_, found⟩
  change execute Fleet.serve (.call ⟨c.context.clusterKey,
    .createNamespace event.serviceExport.ns⟩ _) (fun _ => none) fleet = _
  rw [execute]
  rcases answered with created | present
  · rw [created]
    exact executed
  · rw [present]
    exact executed

/-- An update of the stored version succeeds. -/
theorem updateServiceImport_succeeds (imp stored : ServiceImport)
    (found : (fleet c.context.clusterKey).serviceImports imp.key = some stored)
    (version : imp.resourceVersion = stored.resourceVersion) :
    ((c.updateServiceImport imp).execute (fun _ => none) fleet).1 = .ok () := by
  have served : ∃ updated,
      (fleet.serve ⟨c.context.clusterKey, .updateServiceImport imp⟩ none).1 = .ok updated := by
    simp only [Fleet.serve, ApiServer.serve, ApiServer.updateServiceImport, found]
    rw [if_neg (not_not.mpr version)]
    split <;> exact ⟨_, rfl⟩
  obtain ⟨updated, answered⟩ := served
  change (execute Fleet.serve (.call ⟨c.context.clusterKey, .updateServiceImport imp⟩ _)
    (fun _ => none) fleet).1 = _
  rw [execute, answered]
  rfl

/-- Without a fault an upsert succeeds. -/
theorem upsertServiceImport_succeeds (range : RangeOrder Endpoint) :
    ((c.upsertServiceImport range event).execute (fun _ => none) fleet).1 = .ok () := by
  rw [RemoteConnector.upsertServiceImport]
  split
  · rfl
  · obtain ⟨imp, middle, executed, found⟩ := getOrCreateServiceImport_succeeds c event fleet
    rw [Api.execute] at executed
    rw [bind_eq, Api.execute, execute_bind, executed]
    refine updateServiceImport_succeeds c middle _ imp ?_ rfl
    rw [upsertPorts_key, (middle _).keyed _ _ found, found]

theorem upsertAll_succeeds (work : List (RangeOrder Endpoint × ServiceExportEvent)) :
    ((c.upsertAll work).execute (fun _ => none) fleet).1 = .ok () := by
  induction work generalizing fleet with
  | nil => rfl
  | cons item rest ih =>
      rw [RemoteConnector.upsertAll, bind_eq, Api.execute, execute_bind]
      have first := upsertServiceImport_succeeds c item.2 fleet item.1
      rw [Api.execute] at first
      rw [first]
      exact ih _

end Success

/-- Any two orders of successful upserts from the same fleet end in imports of the same view. -/
def RemoteConnector.Converges (c : RemoteConnector) (key : NamespacedName) (fleet : Fleet)
    (events : List ServiceExportEvent) : Prop :=
  ∀ (first second : List (RangeOrder Endpoint × ServiceExportEvent))
    (faults faults' : Nat → Option String),
    (first.map Prod.snd).Perm events → (second.map Prod.snd).Perm events →
    ((c.upsertAll first).execute faults fleet).1 = .ok () →
    ((c.upsertAll second).execute faults' fleet).1 = .ok () →
    c.importView key ((c.upsertAll first).execute faults fleet).2 =
      c.importView key ((c.upsertAll second).execute faults' fleet).2

section Convergence
variable {c : RemoteConnector} {key : NamespacedName} {fleet : Fleet}
  {events : List ServiceExportEvent}

theorem importView_upsertAll (named : ∀ event ∈ events, event.serviceExport.key = key)
    (foreign : ∀ event ∈ events, event.clusterKey ≠ c.context.clusterKey)
    (absent : (fleet c.context.clusterKey).serviceImports key = none)
    {work : List (RangeOrder Endpoint × ServiceExportEvent)} {faults : Nat → Option String}
    (order : (work.map Prod.snd).Perm events)
    (succeeded : ((c.upsertAll work).execute faults fleet).1 = .ok ()) :
    c.importView key ((c.upsertAll work).execute faults fleet).2 =
      (mergeAll work none).map portView := by
  have listed (item : RangeOrder Endpoint × ServiceExportEvent) (member : item ∈ work) :
      item.2 ∈ events := order.mem_iff.mp (List.mem_map_of_mem member)
  have stored := (upsertAll_ensures c key work (fun item member => named _ (listed item member))
    (fun item member => foreign _ (listed item member)) fleet).execute faults succeeded
  rw [absent, Option.map_none] at stored
  rw [← stored, RemoteConnector.importView, Option.map_map]
  rfl

/-- Equal entries make the view independent of the order. -/
theorem mergeAll_view (same : SameEntries events)
    (distinct : (events.map ServiceExportEvent.clusterKey).Nodup)
    {first second : List (RangeOrder Endpoint × ServiceExportEvent)}
    (order : (first.map Prod.snd).Perm events) (order' : (second.map Prod.snd).Perm events) :
    (mergeAll first none).map portView = (mergeAll second none).map portView := by
  cases first with
  | nil =>
      obtain rfl : second = [] := by
        simpa using (order'.trans order.symm).eq_nil
      rfl
  | cons item rest =>
      cases second with
      | nil => simpa using (order.trans order'.symm).eq_nil
      | cons item' rest' =>
          obtain ⟨ports, found, entries, merged⟩ :=
            mergeAll_complete same distinct item.1 item.2 rest order
          obtain ⟨ports', found', entries', merged'⟩ :=
            mergeAll_complete same distinct item'.1 item'.2 rest' order'
          have one := order.mem_iff.mp List.mem_cons_self
          have other := order'.mem_iff.mp List.mem_cons_self
          rw [found, found', Option.map_some, Option.map_some, Option.some.injEq]
          ext view
          rw [portView_of_merged merged, portView_of_merged merged', entries, entries']
          exact and_congr_left' ⟨same _ one _ other _, same _ other _ one _⟩

/-- The view shows the entries. -/
theorem entries_of_portView {ports ports' : List ServicePort}
    (views : portView ports = portView ports') {entry : ServicePort}
    (listed : entry ∈ ports.map portEntry) : entry ∈ ports'.map portEntry := by
  obtain ⟨p, member, rfl⟩ := List.mem_map.mp listed
  have viewed : (portEntry p, {ep | ep ∈ p.endpoints}) ∈ portView ports' :=
    views ▸ ⟨p, member, rfl⟩
  obtain ⟨q, held, same⟩ := viewed
  rw [(Prod.mk.inj same).1]
  exact List.mem_map_of_mem held

/-- Any event can come first, and the first event decides the entries. -/
theorem mergeAll_started (event : ServiceExportEvent) (member : event ∈ events) :
    ∃ work ports, (work.map Prod.snd).Perm events ∧ mergeAll work none = some ports ∧
      ports.map portEntry = exportedEntries event := by
  let work := (event :: events.erase event).map fun other =>
    ((RangeOrder.stored : RangeOrder Endpoint), other)
  have order : (work.map Prod.snd).Perm events := by
    rw [List.map_map]
    exact (List.map_id _).symm ▸ (List.perm_cons_erase member).symm
  obtain ⟨ports, found, entries⟩ := mergeAll_entries
    ((events.erase event).map fun other => (RangeOrder.stored, other))
    (mergePorts event .stored (newServiceImport event).ports)
  exact ⟨work, ports, order, found, entries.trans (mergePorts_entries ..)⟩

/-- The orders of upserts converge exactly when all exports have the same exported entries. -/
theorem upsertAll_converges_iff (c : RemoteConnector) (key : NamespacedName) (fleet : Fleet)
    (events : List ServiceExportEvent) (named : ∀ event ∈ events, event.serviceExport.key = key)
    (foreign : ∀ event ∈ events, event.clusterKey ≠ c.context.clusterKey)
    (distinct : (events.map ServiceExportEvent.clusterKey).Nodup)
    (absent : (fleet c.context.clusterKey).serviceImports key = none) :
    c.Converges key fleet events ↔ SameEntries events := by
  constructor
  · intro converges first one second other entry exported
    obtain ⟨work, ports, order, found, entries⟩ := mergeAll_started first one
    obtain ⟨work', ports', order', found', entries'⟩ := mergeAll_started second other
    have views := converges work work' _ _ order order' (upsertAll_succeeds c fleet work)
      (upsertAll_succeeds c fleet work')
    rw [importView_upsertAll named foreign absent order (upsertAll_succeeds c fleet work),
      importView_upsertAll named foreign absent order' (upsertAll_succeeds c fleet work'),
      found, found', Option.map_some, Option.map_some, Option.some.injEq] at views
    rw [← entries']
    rw [← entries] at exported
    exact entries_of_portView views exported
  · intro same first second faults faults' order order' succeeded succeeded'
    rw [importView_upsertAll named foreign absent order succeeded,
      importView_upsertAll named foreign absent order' succeeded']
    exact mergeAll_view same distinct order order'

end Convergence

/-- Two exports of port 80 converge at a third cluster. -/
theorem upsertAll_converges_ruled :
    (exampleConnector "c").Converges ⟨"default", "web"⟩ (fun _ => ApiServer.empty)
      [exampleEvent "a" [⟨80, "/a"⟩], exampleEvent "b" [⟨80, "/b"⟩]] :=
  (upsertAll_converges_iff (exampleConnector "c") ⟨"default", "web"⟩ (fun _ => ApiServer.empty)
    [exampleEvent "a" [⟨80, "/a"⟩], exampleEvent "b" [⟨80, "/b"⟩]] (by decide) (by decide)
    (by decide) rfl).mpr (by decide)

/-- The export that comes first decides whether the import has port 80 or port 8080. -/
theorem upsertAll_diverges :
    ¬ (exampleConnector "c").Converges ⟨"default", "web"⟩ (fun _ => ApiServer.empty)
      [exampleEvent "a" [⟨80, "/a"⟩], exampleEvent "b" [⟨8080, "/b"⟩]] := by
  intro converges
  have views := converges
    [(.stored, exampleEvent "a" [⟨80, "/a"⟩]), (.stored, exampleEvent "b" [⟨8080, "/b"⟩])]
    [(.stored, exampleEvent "b" [⟨8080, "/b"⟩]), (.stored, exampleEvent "a" [⟨80, "/a"⟩])]
    (fun _ => none) (fun _ => none) (.refl _) (.swap _ _ _) rfl rfl
  have listed := entries_of_portView (Option.some.inj views) List.mem_cons_self
  rcases List.mem_cons.mp listed with same | nothing
  · exact absurd same (by decide)
  · cases nothing

end ErieCanal.Cluster
