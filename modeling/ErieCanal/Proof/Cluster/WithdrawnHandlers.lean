import ErieCanal.Construction.Cluster.Federation
import ErieCanal.Proof.Cluster.UpsertFrame
import ErieCanal.Proof.Cluster.WithdrawExact

namespace ErieCanal.Cluster
open Lib Lib.Program Kube Event SvcExp SvcImp

/-- The event is about the export of this name by this cluster. -/
def ServiceExportEvent.Of (exporter : String) (key : NamespacedName) (event : ServiceExportEvent) :
    Prop :=
  event.clusterKey = exporter ∧ event.serviceExport.key = key

instance (exporter : String) (key : NamespacedName) (event : ServiceExportEvent) :
    Decidable (ServiceExportEvent.Of exporter key event) := inferInstanceAs (Decidable (_ ∧ _))

section Watched
variable (exporter : String) (key : NamespacedName) (watched : String)

/-- The watched import has no endpoint of the exporting cluster. -/
def NoEndpoint (fleet : Fleet) : Prop :=
  ∀ imp, (fleet watched).serviceImports key = some imp →
    ∀ p ∈ imp.ports, ∀ ep ∈ p.endpoints, ep.clusterKey ≠ exporter

/-- A change brings no endpoint of the exporting cluster to the watched import. -/
def KeepsClean (before after : Fleet) : Prop :=
  NoEndpoint exporter key watched before → NoEndpoint exporter key watched after

/-- The watched import is not being deleted. -/
def NotTerminating (fleet : Fleet) : Prop :=
  ∀ imp, (fleet watched).serviceImports key = some imp → imp.deletionTimestamp = none

/-- The watched import stays as it is or becomes newer than the store was. -/
def Versioned (before after : Fleet) : Prop :=
  (before watched).revision ≤ (after watched).revision ∧
    ∀ imp, (after watched).serviceImports key = some imp →
      (before watched).serviceImports key = some imp ∨
        (before watched).revision < imp.resourceVersion

/-- Every handler relies on versioned writes that start no deletion in the background. -/
def watchRely (before after : Fleet) : Prop :=
  Versioned key watched before after ∧
    (NotTerminating key watched before → NotTerminating key watched after)

/-- The message will add an endpoint of the exporting cluster, at once or after a decision. -/
def Announces (message : Message) : Prop :=
  (message.kind = .serviceExportCreated ∨ message.kind = .serviceExportAccepted) ∧
    ∃ event, message.newObj = some event ∧ ServiceExportEvent.Of exporter key event

/-- The message will remove the endpoints of the exporting cluster. -/
def Withdraws (message : Message) : Prop :=
  message.kind = .serviceExportDeleted ∧
    ∃ event, message.oldObj = some event ∧ ServiceExportEvent.Of exporter key event

instance (message : Message) : Decidable (Announces exporter key message) :=
  inferInstanceAs (Decidable (_ ∧ ∃ event ∈ message.newObj, ServiceExportEvent.Of exporter key event))

def UpsertsAt (tag : HandlerTag) : Prop :=
  tag.connector.context.clusterKey = watched ∧ Announces exporter key tag.message

def DeletesAt (tag : HandlerTag) : Prop :=
  tag.connector.context.clusterKey = watched ∧ Withdraws exporter key tag.message

/-- Only an upsert of the export itself can bring an endpoint of the exporting cluster back. -/
def watchGuarantee (tag : HandlerTag) (before after : Fleet) : Prop :=
  watchRely key watched before after ∧
    (¬ UpsertsAt exporter key watched tag → NoEndpoint exporter key watched before →
      NoEndpoint exporter key watched after)

/-- A deletion of the export that ends well leaves no endpoint of the exporting cluster. -/
def watchPost (tag : HandlerTag) (answer : Except ApiError Unit) (fleet : Fleet) : Prop :=
  DeletesAt exporter key watched tag → answer = .ok () → NoEndpoint exporter key watched fleet

variable {exporter key watched}

theorem Versioned.refl (fleet : Fleet) : Versioned key watched fleet fleet :=
  ⟨Nat.le_refl _, fun _ stored => Or.inl stored⟩

theorem Versioned.trans {first second third : Fleet} (left : Versioned key watched first second)
    (right : Versioned key watched second third) : Versioned key watched first third := by
  refine ⟨Nat.le_trans left.1 right.1, fun imp stored => ?_⟩
  rcases right.2 imp stored with kept | newer
  · exact left.2 imp kept
  · exact Or.inr (Nat.lt_of_le_of_lt left.1 newer)

theorem watchRely.refl (fleet : Fleet) : watchRely key watched fleet fleet :=
  ⟨.refl fleet, id⟩

theorem watchRely.trans {first second third : Fleet} (left : watchRely key watched first second)
    (right : watchRely key watched second third) : watchRely key watched first third :=
  ⟨left.1.trans right.1, right.2 ∘ left.2⟩

theorem watchRely.of_same {before after : Fleet}
    (imports : (after watched).serviceImports key = (before watched).serviceImports key)
    (revision : (before watched).revision ≤ (after watched).revision) :
    watchRely key watched before after :=
  ⟨⟨revision, fun _ stored => Or.inl (imports ▸ stored)⟩,
    fun live imp stored => live imp (imports ▸ stored)⟩

theorem KeepsClean.refl (fleet : Fleet) : KeepsClean exporter key watched fleet fleet := id

theorem KeepsClean.trans {first second third : Fleet}
    (left : KeepsClean exporter key watched first second)
    (right : KeepsClean exporter key watched second third) :
    KeepsClean exporter key watched first third := right ∘ left

theorem KeepsClean.of_same {before after : Fleet}
    (imports : (after watched).serviceImports key = (before watched).serviceImports key) :
    KeepsClean exporter key watched before after := fun clean imp stored =>
  clean imp (imports ▸ stored)

/-- A write of another kind of object brings no endpoint. -/
theorem KeepsClean.objectWritten {fleet : Fleet} {cluster : String} {server : ApiServer}
    (imports : server.serviceImports = (fleet cluster).serviceImports) :
    KeepsClean exporter key watched fleet (Function.update fleet cluster server) :=
  .of_same (congrFun (Fleet.update_keeps
    (fun before after => after.serviceImports = before.serviceImports) (fun _ => rfl) imports
    watched) key)

theorem KeepsClean.quiet (fleet : Fleet) (cluster : String) (call : ApiCall)
    (quiet : call.writesImport = false) (fault : Option String) :
    KeepsClean exporter key watched fleet (fleet.serve ⟨cluster, call⟩ fault).2 :=
  .of_same (congrFun (fleet.serve_keeps_imports cluster fault call quiet watched).1 key)

/-- A step that keeps the watched import guarantees everything. -/
theorem watchGuarantee.of_same {before after : Fleet} (tag : HandlerTag)
    (imports : (after watched).serviceImports key = (before watched).serviceImports key)
    (revision : (before watched).revision ≤ (after watched).revision) :
    watchGuarantee exporter key watched tag before after :=
  ⟨.of_same imports revision, fun _ => KeepsClean.of_same imports⟩

theorem watchGuarantee.stutter (tag : HandlerTag) (fleet : Fleet) :
    watchGuarantee exporter key watched tag fleet fleet :=
  .of_same tag rfl (Nat.le_refl _)

/-- A call that writes no import guarantees everything. -/
theorem watchGuarantee.quiet (tag : HandlerTag) (fleet : Fleet) (cluster : String) (call : ApiCall)
    (quiet : call.writesImport = false) (fault : Option String) :
    watchGuarantee exporter key watched tag fleet (fleet.serve ⟨cluster, call⟩ fault).2 := by
  obtain ⟨imports, -, revision⟩ := fleet.serve_keeps_imports cluster fault call quiet watched
  exact .of_same tag (congrFun imports key) revision

/-- Only a deletion has to leave the watched import clean. -/
theorem watchPost.of_kind {tag : HandlerTag} (kind : tag.message.kind ≠ .serviceExportDeleted)
    (answer : Except ApiError Unit) (fleet : Fleet) : watchPost exporter key watched tag answer fleet :=
  fun deletes => absurd deletes.2.1 kind

theorem written_revision (fleet : Fleet) (cluster : String) (imp : ServiceImport) :
    (fleet watched).revision ≤ (written fleet cluster imp watched).revision :=
  Fleet.update_keeps (fun before after => before.revision ≤ after.revision)
    (fun _ => Nat.le_refl _) (Nat.le_succ _) watched

/-- A write to another cluster or under another name keeps the watched import. -/
theorem written_elsewhere (fleet : Fleet) (cluster : String) (imp : ServiceImport)
    (elsewhere : ¬ (cluster = watched ∧ imp.key = key)) :
    (written fleet cluster imp watched).serviceImports key =
      (fleet watched).serviceImports key := by
  by_cases same : watched = cluster
  · subst same
    rw [written, Function.update_self]
    exact ApiServer.writeServiceImport_other _ _ _ fun named => elsewhere ⟨rfl, named.symm⟩
  · rw [written, Function.update_of_ne same]

theorem removed_elsewhere (fleet : Fleet) (cluster : String) (name : NamespacedName)
    (elsewhere : ¬ (cluster = watched ∧ name = key)) :
    (removed fleet cluster name watched).serviceImports key =
      (fleet watched).serviceImports key := by
  by_cases same : watched = cluster
  · subst same
    rw [removed, Function.update_self]
    exact ApiServer.removeServiceImport_other _ _ _ fun named => elsewhere ⟨rfl, named.symm⟩
  · rw [removed, Function.update_of_ne same]

theorem removed_revision (fleet : Fleet) (cluster : String) (name : NamespacedName) :
    (fleet watched).revision ≤ (removed fleet cluster name watched).revision :=
  Fleet.update_keeps (fun before after => before.revision ≤ after.revision)
    (fun _ => Nat.le_refl _) (Nat.le_succ _) watched

theorem written_here (fleet : Fleet) (cluster : String) (imp : ServiceImport) :
    (written fleet cluster imp cluster).serviceImports imp.key =
      some { imp with resourceVersion := (fleet cluster).revision + 1 } := by
  rw [written, Function.update_self, ApiServer.writeServiceImport_self]

theorem removed_here (fleet : Fleet) (cluster : String) (name : NamespacedName) :
    (removed fleet cluster name cluster).serviceImports name = none := by
  rw [removed, Function.update_self, ApiServer.removeServiceImport_self]

theorem watchRely.written (fleet : Fleet) (cluster : String) (imp : ServiceImport)
    (live : cluster = watched → imp.key = key → imp.deletionTimestamp = none) :
    watchRely key watched fleet (written fleet cluster imp) := by
  by_cases here : cluster = watched ∧ imp.key = key
  · obtain ⟨rfl, rfl⟩ := here
    refine ⟨⟨written_revision fleet cluster imp, fun _ found => ?_⟩, fun _ _ found => ?_⟩
    all_goals
      rw [written_here, Option.some.injEq] at found
      subst found
    · exact Or.inr (Nat.lt_succ_self _)
    · exact live rfl rfl
  · exact .of_same (written_elsewhere fleet cluster imp here) (written_revision fleet cluster imp)

theorem watchRely.removed (fleet : Fleet) (cluster : String) (name : NamespacedName) :
    watchRely key watched fleet (removed fleet cluster name) := by
  by_cases here : cluster = watched ∧ name = key
  · obtain ⟨rfl, rfl⟩ := here
    refine ⟨⟨removed_revision fleet cluster name, fun _ found => ?_⟩, fun _ _ found => ?_⟩
    all_goals
      rw [removed_here] at found
      cases found
  · exact .of_same (removed_elsewhere fleet cluster name here) (removed_revision fleet cluster name)

theorem KeepsClean.written (fleet : Fleet) (cluster : String) (imp : ServiceImport)
    (clean : cluster = watched → imp.key = key → NoEndpoint exporter key watched fleet →
      ∀ p ∈ imp.ports, ∀ ep ∈ p.endpoints, ep.clusterKey ≠ exporter) :
    KeepsClean exporter key watched fleet (written fleet cluster imp) := by
  by_cases here : cluster = watched ∧ imp.key = key
  · obtain ⟨rfl, rfl⟩ := here
    intro before other found
    rw [written_here, Option.some.injEq] at found
    subst found
    exact clean rfl rfl before
  · exact .of_same (written_elsewhere fleet cluster imp here)

theorem KeepsClean.removed (fleet : Fleet) (cluster : String) (name : NamespacedName) :
    KeepsClean exporter key watched fleet (removed fleet cluster name) := by
  by_cases here : cluster = watched ∧ name = key
  · obtain ⟨rfl, rfl⟩ := here
    intro _ imp found
    rw [removed_here] at found
    cases found
  · exact .of_same (removed_elsewhere fleet cluster name here)

/-- A write guarantees everything when the written import does so where it is watched. -/
theorem watchGuarantee.written (tag : HandlerTag) (fleet : Fleet) (cluster : String)
    (imp : ServiceImport)
    (live : cluster = watched → imp.key = key → imp.deletionTimestamp = none)
    (clean : cluster = watched → imp.key = key → ¬ UpsertsAt exporter key watched tag →
      NoEndpoint exporter key watched fleet →
      ∀ p ∈ imp.ports, ∀ ep ∈ p.endpoints, ep.clusterKey ≠ exporter) :
    watchGuarantee exporter key watched tag fleet (written fleet cluster imp) :=
  ⟨.written fleet cluster imp live, fun foreign =>
    KeepsClean.written fleet cluster imp fun here named => clean here named foreign⟩

theorem watchGuarantee.removed (tag : HandlerTag) (fleet : Fleet) (cluster : String)
    (name : NamespacedName) :
    watchGuarantee exporter key watched tag fleet (removed fleet cluster name) :=
  ⟨.removed fleet cluster name, fun _ => KeepsClean.removed fleet cluster name⟩

/-- A handler's snapshot of the watched import is current as long as its version is stored. -/
def Current (key : NamespacedName) (watched : String) (imp : ServiceImport) (fleet : Fleet) : Prop :=
  imp.deletionTimestamp = none ∧ imp.resourceVersion ≤ (fleet watched).revision ∧
    ∀ stored, (fleet watched).serviceImports key = some stored →
      stored.resourceVersion = imp.resourceVersion → stored = imp

theorem Current.of_stored {imp : ServiceImport} {fleet : Fleet}
    (live : NotTerminating key watched fleet)
    (stored : (fleet watched).serviceImports key = some imp) : Current key watched imp fleet :=
  ⟨live imp stored, (fleet watched).dated key imp stored,
    fun _ found _ => Option.some.inj (found.symm.trans stored)⟩

theorem Current.stored_eq {imp stored : ServiceImport} {fleet later : Fleet}
    (current : Current key watched imp fleet) (interfered : watchRely key watched fleet later)
    (found : (later watched).serviceImports key = some stored)
    (version : imp.resourceVersion = stored.resourceVersion) : stored = imp := by
  rcases interfered.1.2 stored found with kept | newer
  · exact current.2.2 stored kept version.symm
  · have older := current.2.1
    omega

theorem mem_newServiceImport_endpoints {event : ServiceExportEvent} {p : ServicePort}
    {ep : Endpoint} (member : p ∈ (newServiceImport event).ports) (present : ep ∈ p.endpoints) :
    ep.clusterKey = event.clusterKey := by
  obtain ⟨r, -, made⟩ := List.mem_flatMap.mp member
  obtain ⟨port, -, rfl⟩ := List.mem_map.mp made
  rw [List.mem_singleton.mp present, ruleEndpoint_clusterKey]

/-- An upsert adds endpoints of its own cluster only. -/
theorem mem_upsertEndpoints_clusterKey {event : ServiceExportEvent} {range : RangeOrder Endpoint}
    {idx : Nat} {p : ServicePort} {ep : Endpoint}
    (member : ep ∈ upsertEndpoints event range idx p) :
    ep.clusterKey = event.clusterKey ∨ ep ∈ p.endpoints := by
  by_cases own : ep.clusterKey = event.clusterKey
  · exact Or.inl own
  · have kept := (mem_upsertEndpoints_other event range idx p ep own).mp member
    exact Or.inr (endpointsOf_getLast_mem kept.2).1

theorem upsertPorts_clean {event : ServiceExportEvent} {range : RangeOrder Endpoint}
    {imp : ServiceImport} (foreign : event.clusterKey ≠ exporter)
    (clean : ∀ p ∈ imp.ports, ∀ ep ∈ p.endpoints, ep.clusterKey ≠ exporter) :
    ∀ p ∈ (upsertPorts event range imp).ports, ∀ ep ∈ p.endpoints, ep.clusterKey ≠ exporter := by
  intro p member ep present
  obtain ⟨idx, inside, rfl⟩ := List.mem_mapIdx.mp member
  rcases mem_upsertEndpoints_clusterKey present with own | old
  · exact own ▸ foreign
  · exact clean _ (List.getElem_mem inside) ep old

/-- The endpoints that a withdrawal keeps were there and belong to other clusters. -/
theorem mem_withdrawPorts {event : ServiceExportEvent} {imp : ServiceImport} {q : ServicePort}
    {ep : Endpoint} (kept : q ∈ withdrawPorts event imp) (present : ep ∈ q.endpoints) :
    ep.clusterKey ≠ event.clusterKey ∧ ∃ p ∈ imp.ports, ep ∈ p.endpoints := by
  rw [withdrawPorts_eq] at kept
  obtain ⟨r, -, named⟩ := List.mem_flatMap.mp kept
  obtain ⟨p, member, rfl, -⟩ := (mem_survivors _ _ _).mp (List.mem_filter.mp named).1
  obtain ⟨old, other⟩ := List.mem_filter.mp present
  exact ⟨by simpa using other, p, member, old⟩

/-- An upsert handler keeps the watched import versioned and clean of foreign endpoints. -/
theorem upsertServiceImport_watched (tag : HandlerTag) (event : ServiceExportEvent)
    (kind : tag.message.kind = .serviceExportAccepted) (carried : tag.message.newObj = some event)
    (fleet : Fleet) (live : NotTerminating key watched fleet) :
    Sound Fleet.serve (watchRely key watched) (watchGuarantee exporter key watched tag)
      (watchPost exporter key watched tag)
      (tag.connector.upsertServiceImport tag.range event) fleet := by
  have undeleting := @watchPost.of_kind exporter key watched tag (by rw [kind]; decide)
  have foreign (named : event.serviceExport.key = key)
      (here : tag.connector.context.clusterKey = watched)
      (other : ¬ UpsertsAt exporter key watched tag) : event.clusterKey ≠ exporter := fun same =>
    other ⟨here, Or.inr kind, event, carried, same, named⟩
  by_cases own : event.clusterKey = tag.connector.context.clusterKey
  · rw [RemoteConnector.upsertServiceImport, if_pos own]
    exact undeleting _ _
  let snapshot (imp : ServiceImport) (state : Fleet) : Prop :=
    imp.key = event.serviceExport.key ∧
      (tag.connector.context.clusterKey = watched → event.serviceExport.key = key →
        Current key watched imp state)
  refine upsertServiceImport_sound tag.connector event (NotTerminating key watched) snapshot
    tag.range own (watchGuarantee.stutter tag) (fun _ _ => undeleting _ _)
    (fun _ _ start interfered => interfered.2 start) ?_ ?_ ?_ ?_ fleet live
  · intro state fault start
    have kept : watchGuarantee exporter key watched tag state _ :=
      .quiet tag state tag.connector.context.clusterKey (.createNamespace event.serviceExport.ns) rfl
        fault
    exact ⟨kept, kept.1.2 start⟩
  · intro state start free
    have kept : watchGuarantee exporter key watched tag state _ :=
      .written tag state tag.connector.context.clusterKey (newServiceImport event) (fun _ _ => rfl)
      (fun here named other _ p member ep present =>
        mem_newServiceImport_endpoints member present ▸ foreign named here other)
    refine ⟨kept, rfl, fun here named => Current.of_stored (kept.1.2 start) ?_⟩
    rw [← here, ← named, ← newServiceImport_key event, written_here]
  · intro state imp start found
    refine ⟨(state _).keyed _ _ found, fun here named => Current.of_stored start ?_⟩
    rw [← here, ← named]
    exact found
  · rintro state imp ⟨keyed, snapped⟩ later stored interfered found version
    refine ⟨fun _ => undeleting _ _, watchGuarantee.written tag later _ _ ?_ ?_, undeleting _ _⟩
    · intro here named
      exact (snapped here (keyed.symm.trans named)).1
    · intro here named other clean
      have current := snapped here (keyed.symm.trans named)
      rw [here, show imp.key = key from named] at found
      obtain rfl := current.stored_eq interfered found version
      exact upsertPorts_clean (foreign (keyed.symm.trans named) here other) (clean _ found)

/-- A delete handler of any export keeps the watched import clean, and one of the export itself
cleans it. -/
theorem deleteServiceImport_watched (tag : HandlerTag) (event : ServiceExportEvent)
    (carried : tag.message.oldObj = some event)
    (apart : watched ≠ exporter) (fleet : Fleet) (live : NotTerminating key watched fleet) :
    Sound Fleet.serve (watchRely key watched) (watchGuarantee exporter key watched tag)
      (watchPost exporter key watched tag) (tag.connector.deleteServiceImport event) fleet := by
  have about (deletes : DeletesAt exporter key watched tag) :
      tag.connector.context.clusterKey = watched ∧ event.clusterKey = exporter ∧
        event.serviceExport.key = key := by
    obtain ⟨here, -, other, found, of⟩ := deletes
    obtain rfl := Option.some.inj (carried.symm.trans found)
    exact ⟨here, of⟩
  by_cases own : event.clusterKey = tag.connector.context.clusterKey
  · rw [RemoteConnector.deleteServiceImport, if_pos own]
    intro deletes _
    obtain ⟨here, same, -⟩ := about deletes
    exact absurd (here.symm.trans (own.symm.trans same)) apart
  refine deleteServiceImport_sound tag.connector event (NotTerminating key watched) own
    (watchGuarantee.stutter tag) (fun _ _ _ failed => by cases failed)
    (fun _ _ start interfered => interfered.2 start) ?_ ?_ ?_ ?_ fleet live
  · intro state start absent deletes _ imp found
    obtain ⟨here, -, named⟩ := about deletes
    rw [here, named] at absent
    cases found.symm.trans absent
  · intro state imp start found terminating deletes _
    obtain ⟨here, -, named⟩ := about deletes
    rw [here, named] at found
    exact absurd (start imp found) terminating
  · intro state imp start found live filled later stored interfered reread version
    have keyed : imp.key = event.serviceExport.key := (state _).keyed _ _ found
    refine ⟨fun unchanged deletes _ other held => ?_, watchGuarantee.written tag later _ _ ?_ ?_,
      fun deletes _ other held => ?_⟩
    · obtain ⟨here, same, named⟩ := about deletes
      rw [here, keyed, named, held] at reread
      obtain rfl := Option.some.inj reread
      rw [← unchanged]
      exact fun p member ep present => same ▸ (mem_withdrawPorts member present).1
    · exact fun _ _ => live
    · intro here named other clean p member ep present
      rw [here, keyed.symm.trans named] at found
      have current := Current.of_stored start found
      rw [here, show imp.key = key from named] at reread
      obtain rfl := current.stored_eq interfered reread version
      obtain ⟨-, q, old, there⟩ := mem_withdrawPorts member present
      exact clean _ reread q old ep there
    · obtain ⟨here, same, named⟩ := about deletes
      have stored := written_here later tag.connector.context.clusterKey
        { imp with ports := withdrawPorts event imp }
      rw [here] at held stored
      rw [show ({ imp with ports := withdrawPorts event imp } : ServiceImport).key = key from
        keyed.trans named, held] at stored
      obtain rfl := Option.some.inj stored
      exact fun p member ep present => same ▸ (mem_withdrawPorts member present).1
  · intro state imp start found live empty later stored interfered reread
    refine ⟨watchGuarantee.removed tag later _ _, fun deletes _ other held => ?_⟩
    obtain ⟨here, -, named⟩ := about deletes
    have gone := removed_here later tag.connector.context.clusterKey event.serviceExport.key
    rw [here, named] at held gone
    rw [held] at gone
    cases gone

/-- A rejection touches no import. -/
theorem rejectServiceExport_watched (tag : HandlerTag) (event : ServiceExportEvent)
    (kind : tag.message.kind = .serviceExportRejected) (fleet : Fleet) :
    Sound Fleet.serve (watchRely key watched) (watchGuarantee exporter key watched tag)
      (watchPost exporter key watched tag) (tag.connector.rejectServiceExport event) fleet := by
  have undeleting := @watchPost.of_kind exporter key watched tag (by rw [kind]; decide)
  exact rejectServiceExport_sound tag.connector event
    (fun state call fault quiet => .quiet tag state _ call quiet fault) undeleting fleet

/-- Every handler of every message is sound wherever the watched import is not being deleted. -/
theorem handle_watched (tag : HandlerTag) (program : Api (Except ApiError Unit))
    (handled : tag.connector.handle tag.range tag.message = some program)
    (apart : watched ≠ exporter) (fleet : Fleet) (live : NotTerminating key watched fleet) :
    Sound Fleet.serve (watchRely key watched) (watchGuarantee exporter key watched tag)
      (watchPost exporter key watched tag) program fleet := by
  rw [RemoteConnector.handle] at handled
  split at handled
  · obtain ⟨event, carried, rfl⟩ := Option.map_eq_some_iff.mp handled
    exact deleteServiceImport_watched tag event carried apart fleet live
  · next kind =>
      obtain ⟨event, carried, rfl⟩ := Option.map_eq_some_iff.mp handled
      exact upsertServiceImport_watched tag event kind carried fleet live
  · next kind =>
      obtain ⟨event, -, rfl⟩ := Option.map_eq_some_iff.mp handled
      exact rejectServiceExport_watched tag event kind fleet
  · cases handled

end Watched
end ErieCanal.Cluster
