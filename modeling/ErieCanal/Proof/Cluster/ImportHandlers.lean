import ErieCanal.Construction.Cluster.RemoteConnector
import ErieCanal.Proof.Kube.ImportCalls

namespace ErieCanal.Cluster
open Lib Lib.Program Kube Event SvcExp SvcImp

@[simp] theorem newServiceImport_key (event : ServiceExportEvent) :
    (newServiceImport event).key = event.serviceExport.key := rfl

@[simp] theorem upsertPorts_key (event : ServiceExportEvent) (range : RangeOrder Endpoint)
    (imp : ServiceImport) : (upsertPorts event range imp).key = imp.key := rfl

/-- This is the fleet after one cluster stored the import. -/
def written (fleet : Fleet) (cluster : String) (imp : ServiceImport) : Fleet :=
  Function.update fleet cluster ((fleet cluster).writeServiceImport imp)

/-- This is the fleet after one cluster removed the import. -/
def removed (fleet : Fleet) (cluster : String) (key : NamespacedName) : Fleet :=
  Function.update fleet cluster ((fleet cluster).removeServiceImport key)

section Rules
variable (c : RemoteConnector) (event : ServiceExportEvent)
  {rely guarantee : Fleet → Fleet → Prop} (before : Fleet → Prop)
  (snapshot : ServiceImport → Fleet → Prop)

/-- An update that replaces an import of its own version keeps the guarantee. -/
theorem updateServiceImport_sound {post : Except ApiError Unit → Fleet → Prop}
    (imp : ServiceImport) (stutter : ∀ fleet, guarantee fleet fleet)
    (gaveUp : ∀ error fleet, post (.error error) fleet) (fleet : Fleet)
    (updates : ∀ later stored, rely fleet later →
      (later c.context.clusterKey).serviceImports imp.key = some stored →
      imp.resourceVersion = stored.resourceVersion →
      (imp = stored → post (.ok ()) later) ∧
        guarantee later (written later c.context.clusterKey imp) ∧
        post (.ok ()) (written later c.context.clusterKey imp)) :
    Sound Fleet.serve rely guarantee post (c.updateServiceImport imp) fleet := by
  intro later interfered fault
  rcases later.serve_updateServiceImport c.context.clusterKey fault imp with
    ⟨error, failed⟩ | ⟨stored, found, version, ⟨unchanged, kept⟩ | stores⟩
  · rw [failed]
    exact ⟨stutter later, gaveUp error later⟩
  · rw [kept]
    exact ⟨stutter later, (updates later stored interfered found version).1 unchanged⟩
  · rw [stores]
    exact (updates later stored interfered found version).2

variable {post : Except ApiError Unit → Fleet → Prop} (range : RangeOrder Endpoint)
  (foreign : event.clusterKey ≠ c.context.clusterKey) (stutter : ∀ fleet, guarantee fleet fleet)
  (gaveUp : ∀ error fleet, post (.error error) fleet)
  (disturbed : ∀ fleet later, before fleet → rely fleet later → before later)
  (named : ∀ (fleet : Fleet) fault, before fleet →
    let later := (fleet.serve
      ⟨c.context.clusterKey, .createNamespace event.serviceExport.ns⟩ fault).2
    guarantee fleet later ∧ before later)
  (creates : ∀ fleet, before fleet →
    (fleet c.context.clusterKey).serviceImports event.serviceExport.key = none →
    guarantee fleet (written fleet c.context.clusterKey (newServiceImport event)) ∧
      snapshot { newServiceImport event with
        resourceVersion := (fleet c.context.clusterKey).revision + 1 }
        (written fleet c.context.clusterKey (newServiceImport event)))
  (reads : ∀ fleet imp, before fleet →
    (fleet c.context.clusterKey).serviceImports event.serviceExport.key = some imp →
    snapshot imp fleet)

include stutter disturbed creates reads in
/-- The creation or the read leaves the handler with a snapshot of the stored import. -/
theorem createOrGetServiceImport_sound (fleet : Fleet) (start : before fleet) :
    Sound Fleet.serve rely guarantee
      (fun answer final => ∀ imp, answer = .ok imp → snapshot imp final)
      (c.createOrGetServiceImport event) fleet := by
  intro first interfered fault
  have begun := disturbed _ _ start interfered
  rcases first.serve_createServiceImport c.context.clusterKey fault (newServiceImport event) with
    ⟨error, failed⟩ | ⟨free, created⟩
  · rw [failed]
    refine ⟨stutter first, ?_⟩
    cases error with
    | alreadyExists =>
        intro second interfered fault
        have still := disturbed _ _ begun interfered
        rcases second.serve_getServiceImport c.context.clusterKey fault event.serviceExport.key with
          ⟨message, missed⟩ | ⟨-, missed⟩ | ⟨stored, found, read⟩
        · rw [missed]
          exact ⟨stutter second, fun imp absurd => nomatch absurd⟩
        · rw [missed]
          exact ⟨stutter second, fun imp absurd => nomatch absurd⟩
        · rw [read]
          refine ⟨stutter second, fun imp same => ?_⟩
          obtain rfl := Except.ok.inj same
          exact reads second stored still found
    | notFound => exact fun imp absurd => nomatch absurd
    | conflict => exact fun imp absurd => nomatch absurd
    | other message => exact fun imp absurd => nomatch absurd
  · rw [created]
    obtain ⟨kept, held⟩ := creates first begun free
    refine ⟨kept, fun imp same => ?_⟩
    obtain rfl := Except.ok.inj same
    exact held

include stutter disturbed named creates reads in
/-- The namespace step comes before the creation or the read. -/
theorem getOrCreateServiceImport_sound (fleet : Fleet) (start : before fleet) :
    Sound Fleet.serve rely guarantee
      (fun answer final => ∀ imp, answer = .ok imp → snapshot imp final)
      (c.getOrCreateServiceImport event) fleet := by
  have continued (later : Fleet) (begun : before later) :=
    createOrGetServiceImport_sound c event before snapshot stutter disturbed creates reads later begun
  intro current interfered fault
  obtain ⟨kept, begun⟩ := named current fault (disturbed _ _ start interfered)
  refine ⟨kept, ?_⟩
  cases (current.serve ⟨c.context.clusterKey, .createNamespace event.serviceExport.ns⟩ fault).1 with
  | ok value => exact continued _ begun
  | error error =>
      cases error with
      | alreadyExists => exact continued _ begun
      | notFound => exact fun imp absurd => nomatch absurd
      | conflict => exact fun imp absurd => nomatch absurd
      | other message => exact fun imp absurd => nomatch absurd

include foreign stutter gaveUp disturbed named creates reads in
/-- An upsert is sound when its namespace, its creation and its update keep the guarantee. -/
theorem upsertServiceImport_sound
    (updates : ∀ fleet imp, snapshot imp fleet → ∀ later stored, rely fleet later →
      (later c.context.clusterKey).serviceImports imp.key = some stored →
      imp.resourceVersion = stored.resourceVersion →
      (upsertPorts event range imp = stored → post (.ok ()) later) ∧
        guarantee later (written later c.context.clusterKey (upsertPorts event range imp)) ∧
        post (.ok ()) (written later c.context.clusterKey (upsertPorts event range imp)))
    (fleet : Fleet) (start : before fleet) :
    Sound Fleet.serve rely guarantee post (c.upsertServiceImport range event) fleet := by
  rw [RemoteConnector.upsertServiceImport, if_neg foreign]
  apply Sound.bind
  refine Sound.weaken (fun _ _ kept => kept) ?_
    (getOrCreateServiceImport_sound c event before snapshot stutter disturbed named creates reads
      fleet start)
  intro answer final held
  cases answer with
  | error error => exact gaveUp error final
  | ok imp =>
      exact updateServiceImport_sound c _ stutter gaveUp final (updates final imp (held imp rfl))

include foreign stutter gaveUp disturbed in
/-- A deletion is sound when its update and its removal keep the guarantee. -/
theorem deleteServiceImport_sound
    (misses : ∀ fleet, before fleet →
      (fleet c.context.clusterKey).serviceImports event.serviceExport.key = none →
      post (.ok ()) fleet)
    (ignores : ∀ fleet imp, before fleet →
      (fleet c.context.clusterKey).serviceImports event.serviceExport.key = some imp →
      imp.deletionTimestamp ≠ none → post (.ok ()) fleet)
    (updates : ∀ fleet imp, before fleet →
      (fleet c.context.clusterKey).serviceImports event.serviceExport.key = some imp →
      imp.deletionTimestamp = none → withdrawPorts event imp ≠ [] → ∀ later stored,
      rely fleet later →
      (later c.context.clusterKey).serviceImports imp.key = some stored →
      imp.resourceVersion = stored.resourceVersion →
      let withdrawn := { imp with ports := withdrawPorts event imp }
      (withdrawn = stored → post (.ok ()) later) ∧
        guarantee later (written later c.context.clusterKey withdrawn) ∧
        post (.ok ()) (written later c.context.clusterKey withdrawn))
    (deletes : ∀ fleet imp, before fleet →
      (fleet c.context.clusterKey).serviceImports event.serviceExport.key = some imp →
      imp.deletionTimestamp = none → withdrawPorts event imp = [] → ∀ later stored,
      rely fleet later →
      (later c.context.clusterKey).serviceImports event.serviceExport.key = some stored →
      guarantee later (removed later c.context.clusterKey event.serviceExport.key) ∧
        post (.ok ()) (removed later c.context.clusterKey event.serviceExport.key))
    (fleet : Fleet) (start : before fleet) :
    Sound Fleet.serve rely guarantee post (c.deleteServiceImport event) fleet := by
  rw [RemoteConnector.deleteServiceImport, if_neg foreign]
  intro first interfered fault
  have begun := disturbed _ _ start interfered
  rcases first.serve_getServiceImport c.context.clusterKey fault event.serviceExport.key with
    ⟨message, missed⟩ | ⟨absent, missed⟩ | ⟨imp, found, read⟩
  · rw [missed]
    exact ⟨stutter first, gaveUp _ first⟩
  · rw [missed]
    exact ⟨stutter first, misses first begun absent⟩
  · rw [read]
    refine ⟨stutter first, ?_⟩
    simp only [done_bind]
    by_cases terminating : imp.deletionTimestamp = none
    · rw [if_neg (not_not.mpr terminating)]
      by_cases empty : withdrawPorts event imp = []
      · rw [if_neg (by simp [empty])]
        intro second interfered fault
        rcases second.serve_deleteServiceImport c.context.clusterKey fault
            event.serviceExport.key with ⟨error, failed⟩ | ⟨⟨stored, held⟩, deleted⟩
        · rw [failed]
          exact ⟨stutter second, gaveUp error second⟩
        · rw [deleted]
          exact deletes first imp begun found terminating empty second stored interfered held
      · rw [if_pos (List.length_pos_iff.mpr empty)]
        exact updateServiceImport_sound c _ stutter gaveUp first
          (updates first imp begun found terminating empty)
    · rw [if_pos terminating]
      exact ignores first imp begun found terminating

/-- A rejection is sound when calls that write no import keep the guarantee. -/
theorem rejectServiceExport_sound {post : Except ApiError Unit → Fleet → Prop}
    (quiet : ∀ (fleet : Fleet) call fault, call.writesImport = false →
      guarantee fleet (fleet.serve ⟨c.context.clusterKey, call⟩ fault).2)
    (ends : ∀ answer fleet, post answer fleet) (fleet : Fleet) :
    Sound Fleet.serve rely guarantee post (c.rejectServiceExport event) fleet := by
  rw [RemoteConnector.rejectServiceExport]
  split
  · intro first _ fault
    refine ⟨quiet first (.getServiceExport event.serviceExport.key) fault rfl, ?_⟩
    cases (first.serve ⟨c.context.clusterKey, .getServiceExport event.serviceExport.key⟩ fault).1 with
    | error error => exact ends _ _
    | ok exp =>
        intro second _ fault
        refine ⟨quiet second (.updateServiceExportStatus _) fault rfl, ?_⟩
        generalize (second.serve ⟨c.context.clusterKey, _⟩ fault).1 = answer
        cases answer <;> exact ends _ _
  · exact ends _ _

end Rules
end ErieCanal.Cluster
