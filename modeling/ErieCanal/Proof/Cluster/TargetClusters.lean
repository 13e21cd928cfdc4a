import ErieCanal.Proof.Cluster.Resurrection

namespace ErieCanal.Cluster
open Lib Lib.Program Kube Event SvcExp SvcImp

section Reach
variable {exporter : String} {key : NamespacedName} {watched : String}

/-- The program brings no endpoint of the exporting cluster to the watched import. -/
def Harmless (exporter : String) (key : NamespacedName) (watched : String)
    (program : Api (Except ApiError Unit)) (fleet : Fleet) : Prop :=
  program.Sound Fleet.serve (KeepsClean exporter key watched) (KeepsClean exporter key watched)
    (fun _ _ => True) fleet

/-- An upsert is harmless elsewhere, for other exports and at the exporting cluster itself. -/
theorem upsertServiceImport_harmless {c : RemoteConnector} {event : ServiceExportEvent}
    (foreign : c.context.clusterKey = watched → event.serviceExport.key = key →
      event.clusterKey = exporter → watched = exporter)
    (range : RangeOrder Endpoint) (fleet : Fleet) (clean : NoEndpoint exporter key watched fleet) :
    Harmless exporter key watched (c.upsertServiceImport range event) fleet := by
  by_cases own : event.clusterKey = c.context.clusterKey
  · rw [RemoteConnector.upsertServiceImport, if_pos own]
    trivial
  have other (here : c.context.clusterKey = watched) (named : event.serviceExport.key = key) :
      event.clusterKey ≠ exporter := fun same =>
    own (by rw [here, same, foreign here named same])
  let snapshot (imp : ServiceImport) (_ : Fleet) : Prop :=
    imp.key = event.serviceExport.key ∧
      (c.context.clusterKey = watched → event.serviceExport.key = key →
        ∀ p ∈ imp.ports, ∀ ep ∈ p.endpoints, ep.clusterKey ≠ exporter)
  refine upsertServiceImport_sound c event (NoEndpoint exporter key watched) snapshot range own
    KeepsClean.refl (fun _ _ => trivial) (fun _ _ start kept => kept start) ?_ ?_ ?_ ?_ fleet clean
  · intro state fault start
    have kept : KeepsClean exporter key watched state _ :=
      .quiet state c.context.clusterKey (.createNamespace event.serviceExport.ns) rfl fault
    exact ⟨kept, kept start⟩
  · intro state start free
    have fresh (here : c.context.clusterKey = watched) (named : event.serviceExport.key = key)
        (p : ServicePort) (member : p ∈ (newServiceImport event).ports) (ep : Endpoint)
        (present : ep ∈ p.endpoints) : ep.clusterKey ≠ exporter :=
      mem_newServiceImport_endpoints member present ▸ other here named
    exact ⟨.written state _ _ fun here named _ => fresh here named, rfl, fresh⟩
  · intro state imp start found
    refine ⟨(state _).keyed _ _ found, fun here named => start imp ?_⟩
    rw [← here, ← named]
    exact found
  · rintro state imp ⟨keyed, clean⟩ later stored - - -
    refine ⟨fun _ => trivial, .written later _ _ fun here named _ => ?_, trivial⟩
    have named := keyed.symm.trans named
    exact upsertPorts_clean (other here named) (clean here named)

theorem deleteServiceImport_harmless (c : RemoteConnector) (event : ServiceExportEvent)
    (fleet : Fleet) (clean : NoEndpoint exporter key watched fleet) :
    Harmless exporter key watched (c.deleteServiceImport event) fleet := by
  by_cases own : event.clusterKey = c.context.clusterKey
  · rw [RemoteConnector.deleteServiceImport, if_pos own]
    trivial
  refine deleteServiceImport_sound c event (NoEndpoint exporter key watched) own KeepsClean.refl
    (fun _ _ => trivial) (fun _ _ start kept => kept start) (fun _ _ _ => trivial)
    (fun _ _ _ _ _ => trivial) ?_ ?_ fleet clean
  · intro state imp start found _ _ later stored _ _ _
    refine ⟨fun _ => trivial, .written later _ _ fun here named _ p member ep present => ?_, trivial⟩
    have keyed : imp.key = event.serviceExport.key := (state _).keyed _ _ found
    rw [here, ← keyed, show imp.key = key from named] at found
    obtain ⟨-, q, old, there⟩ := mem_withdrawPorts member present
    exact start imp found q old ep there
  · exact fun _ _ _ _ _ _ later _ _ _ => ⟨.removed later _ _, trivial⟩

theorem handle_harmless {tag : HandlerTag} {program : Api (Except ApiError Unit)}
    (handled : tag.connector.handle tag.range tag.message = some program)
    (foreign : ∀ event, tag.message.kind = .serviceExportAccepted →
      tag.message.newObj = some event → tag.connector.context.clusterKey = watched →
      event.serviceExport.key = key → event.clusterKey = exporter → watched = exporter)
    (fleet : Fleet) (clean : NoEndpoint exporter key watched fleet) :
    Harmless exporter key watched program fleet := by
  rw [RemoteConnector.handle] at handled
  split at handled
  · obtain ⟨event, -, rfl⟩ := Option.map_eq_some_iff.mp handled
    exact deleteServiceImport_harmless _ event fleet clean
  · next kind =>
      obtain ⟨event, carried, rfl⟩ := Option.map_eq_some_iff.mp handled
      exact upsertServiceImport_harmless (foreign event kind carried) _ fleet clean
  · obtain ⟨event, -, rfl⟩ := Option.map_eq_some_iff.mp handled
    exact rejectServiceExport_sound _ event
      (fun state call fault quiet => .quiet state _ call quiet fault) (fun _ _ => trivial) fleet
  · cases handled

end Reach

/-- An export is meant for the clusters that it lists, or, without a list, for the cluster of every
connector but its own. -/
def ServiceExportEvent.Targets (plane : ControlPlane) (event : ServiceExportEvent)
    (cluster : String) : Prop :=
  if event.serviceExport.targetClusters = [] then
    Subscribed plane cluster ∧ cluster ≠ event.clusterKey
  else cluster ∈ event.serviceExport.targetClusters

instance (plane : ControlPlane) (event : ServiceExportEvent) (cluster : String) :
    Decidable (ServiceExportEvent.Targets plane event cluster) :=
  have : Decidable (Subscribed plane cluster) :=
    inferInstanceAs (Decidable (∃ connector ∈ plane.subscribers, _))
  inferInstanceAs (Decidable (if event.serviceExport.targetClusters = [] then _ else _))

/-- A list of target clusters names the cluster of every connector but the export's own. -/
def ServiceExportEvent.TargetsAll (plane : ControlPlane) (event : ServiceExportEvent) : Prop :=
  event.serviceExport.targetClusters ≠ [] → ∀ connector ∈ plane.subscribers,
    connector.context.clusterKey ≠ event.clusterKey →
    connector.context.clusterKey ∈ event.serviceExport.targetClusters

instance (plane : ControlPlane) (event : ServiceExportEvent) :
    Decidable (ServiceExportEvent.TargetsAll plane event) :=
  inferInstanceAs (Decidable (_ → ∀ connector ∈ plane.subscribers, _))

theorem ServiceExportEvent.TargetsAll.targets {plane : ControlPlane} {event : ServiceExportEvent}
    (all : ServiceExportEvent.TargetsAll plane event) {cluster : String}
    (subscribed : Subscribed plane cluster) (apart : cluster ≠ event.clusterKey) :
    ServiceExportEvent.Targets plane event cluster := by
  rw [ServiceExportEvent.Targets]
  split
  · exact ⟨subscribed, apart⟩
  · next listed =>
      obtain ⟨connector, member, rfl⟩ := subscribed
      exact all listed connector member apart

namespace Federation
section Confinement
variable (plane : ControlPlane) (exporter : String) (key : NamespacedName) (watched : String)

/-- The export has been accepted, and the watched cluster has a connector of its own. -/
def Reaches (accepted : List ServiceExportEvent) : Prop :=
  watched ≠ exporter ∧ Subscribed plane watched ∧
    ∃ event ∈ accepted, ServiceExportEvent.Of exporter key event

/-- An accepted message carries an event that was accepted. -/
def Recorded (accepted : List ServiceExportEvent) (message : Message) : Prop :=
  message.kind = .serviceExportAccepted → ∀ event, message.newObj = some event → event ∈ accepted

/-- The invariant of every run: no endpoint of the export comes to the watched cluster before the
export reaches it. -/
structure Confined (federation : Federation) : Prop where
  queued : ∀ message ∈ federation.queue, Recorded federation.accepted message
  reading : ∀ event rest, federation.deciding = some (event, rest) →
    rest.Sound Fleet.serve (fun _ _ => True) Unchanged
      (fun message _ => message = acceptServiceExport event ∨
        ∃ error, message = rejectServiceExport event error) federation.fleet
  handled : ∀ handler ∈ federation.handlers, handler.tag.connector ∈ plane.subscribers ∧
    Recorded federation.accepted handler.tag.message
  confined : Reaches plane exporter key watched federation.accepted ∨
    NoEndpoint exporter key watched federation.fleet ∧
      ∀ handler ∈ federation.handlers, Harmless exporter key watched handler.rest federation.fleet

variable {plane exporter key watched} {federation : Federation}

theorem Recorded.mono {accepted later : List ServiceExportEvent} {message : Message}
    (recorded : Recorded accepted message) (more : ∀ event ∈ accepted, event ∈ later) :
    Recorded later message := fun kind event carried => more event (recorded kind event carried)

theorem Reaches.mono {accepted later : List ServiceExportEvent}
    (reaches : Reaches plane exporter key watched accepted)
    (more : ∀ event ∈ accepted, event ∈ later) : Reaches plane exporter key watched later := by
  obtain ⟨apart, subscribed, event, member, of⟩ := reaches
  exact ⟨apart, subscribed, event, more event member, of⟩

theorem Confined.start {fleet : Fleet} (fresh : NoEndpoint exporter key watched fleet) :
    (initial fleet).Confined plane exporter key watched where
  queued := fun _ member => nomatch member
  reading := fun _ _ deciding => nomatch deciding
  handled := fun _ member => nomatch member
  confined := Or.inr ⟨fresh, fun _ member => nomatch member⟩

theorem Harmless.stable {program : Api (Except ApiError Unit)} {before after : Fleet}
    (harmless : Harmless exporter key watched program before)
    (kept : KeepsClean exporter key watched before after) :
    Harmless exporter key watched program after :=
  Sound.stable (fun _ _ _ => KeepsClean.trans) (fun _ _ held => held) harmless kept

/-- A change of the fleet that brings no endpoint keeps the invariant. -/
theorem Confined.environment (confined : federation.Confined plane exporter key watched)
    {fleet : Fleet} (kept : KeepsClean exporter key watched federation.fleet fleet) :
    ({ federation with fleet } : Federation).Confined plane exporter key watched where
  queued := confined.queued
  reading := fun event rest deciding => (confined.reading event rest deciding).stable
    (fun _ _ _ _ _ => trivial) (fun _ _ held => held) trivial
  handled := confined.handled
  confined := confined.confined.imp id fun ⟨clean, harmless⟩ =>
    ⟨kept clean, fun handler member => Harmless.stable (harmless handler member) kept⟩

/-- A report announces no acceptance. -/
theorem Confined.report (confined : federation.Confined plane exporter key watched)
    (cluster : String) (name : NamespacedName) (svcExp : Option ServiceExport)
    (announcement : Api (List Message)) (fault : Option String)
    (undecided : ∀ message ∈ (announcement.execute (fun _ => fault) federation.fleet).1,
      message.kind ≠ .serviceExportAccepted) :
    (federation.report cluster name svcExp announcement fault).Confined plane exporter key
      watched := by
  refine { confined with queued := fun message member => ?_ }
  rcases List.mem_append.mp member with old | new
  · exact confined.queued message old
  · exact fun accepted => absurd accepted (undecided message new)

theorem Confined.conclude (confined : federation.Confined plane exporter key watched)
    (event : ServiceExportEvent) (program : Api Message)
    (reading : program.Sound Fleet.serve (fun _ _ => True) Unchanged
      (fun message _ => message = acceptServiceExport event ∨
        ∃ error, message = rejectServiceExport event error) federation.fleet) :
    (federation.conclude event program).Confined plane exporter key watched := by
  cases program with
  | call request rest =>
      refine { confined with reading := fun other rest deciding => ?_ }
      obtain ⟨rfl, rfl⟩ := Prod.mk.inj (Option.some.inj deciding)
      exact reading
  | done message =>
      rcases reading with rfl | ⟨error, rfl⟩
      · have more (other : ServiceExportEvent) (member : other ∈ federation.accepted) :
            other ∈ federation.accepted ++ [event] := List.mem_append_left _ member
        refine ⟨fun other member => ?_, fun _ _ deciding => ?_, fun handler member => ?_, ?_⟩
        · rcases List.mem_append.mp member with old | new
          · exact (confined.queued other old).mono more
          · obtain rfl := List.mem_singleton.mp new
            intro _ carried same
            obtain rfl := Option.some.inj same
            exact List.mem_append_right _ (List.mem_singleton_self _)
        · cases deciding
        · obtain ⟨subscribed, recorded⟩ := confined.handled handler member
          exact ⟨subscribed, recorded.mono more⟩
        · exact confined.confined.imp (fun reaches => reaches.mono more) id
      · refine ⟨fun other member => ?_, fun _ _ deciding => ?_, confined.handled, confined.confined⟩
        · rcases List.mem_append.mp member with old | new
          · exact confined.queued other old
          · obtain rfl := List.mem_singleton.mp new
            intro accepted
            cases accepted
        · cases deciding

/-- A handler that starts before the export reaches the watched cluster is harmless. -/
theorem handler_harmless {tag : HandlerTag} {handler : Handler} (begun : handler ∈ tag.start)
    {accepted : List ServiceExportEvent} (unreached : ¬ Reaches plane exporter key watched accepted)
    (subscribed : tag.connector ∈ plane.subscribers) (recorded : Recorded accepted tag.message)
    {fleet : Fleet} (clean : NoEndpoint exporter key watched fleet) :
    Harmless exporter key watched handler.rest fleet := by
  obtain ⟨-, program, -⟩ := HandlerTag.mem_start begun
  refine handle_harmless program (fun event kind carried here named exported => ?_) fleet clean
  by_contra apart
  exact unreached ⟨apart, ⟨_, subscribed, here⟩, event, recorded kind event carried, exported,
    named⟩

theorem Confined.dequeue (confined : federation.Confined plane exporter key watched) (index : Nat) :
    ({ federation with queue := federation.queue.eraseIdx index } : Federation).Confined plane
      exporter key watched :=
  { confined with queued := fun message member =>
      confined.queued message (List.mem_of_mem_eraseIdx member) }

/-- The handlers that a message starts are harmless until the export reaches the cluster. -/
theorem Confined.handed (confined : federation.Confined plane exporter key watched) {index : Nat}
    {message : Message} (found : federation.queue[index]? = some message)
    (ranges : RemoteConnector → RangeOrder Endpoint) :
    ({ federation with
      queue := federation.queue.eraseIdx index
      handlers := federation.handlers ++ plane.subscribers.flatMap fun connector =>
        HandlerTag.start ⟨connector, message, ranges connector⟩ } : Federation).Confined plane
      exporter key watched := by
  have recorded := confined.queued message (List.mem_of_getElem? found)
  have started (handler : Handler) (member : handler ∈ plane.subscribers.flatMap fun connector =>
      HandlerTag.start ⟨connector, message, ranges connector⟩) :
      ∃ connector ∈ plane.subscribers, handler ∈
        HandlerTag.start ⟨connector, message, ranges connector⟩ := List.mem_flatMap.mp member
  refine { confined.dequeue index with handled := fun handler member => ?_, confined := ?_ }
  · rcases List.mem_append.mp member with old | new
    · exact confined.handled handler old
    · obtain ⟨connector, subscribed, begun⟩ := started handler new
      rw [(HandlerTag.mem_start begun).1]
      exact ⟨subscribed, recorded⟩
  · by_cases reaches : Reaches plane exporter key watched federation.accepted
    · exact Or.inl reaches
    · obtain ⟨clean, harmless⟩ := confined.confined.resolve_left reaches
      refine Or.inr ⟨clean, fun handler member => ?_⟩
      rcases List.mem_append.mp member with old | new
      · exact harmless handler old
      · obtain ⟨connector, subscribed, begun⟩ := started handler new
        exact handler_harmless begun reaches subscribed recorded clean

theorem Confined.decide (confined : federation.Confined plane exporter key watched)
    {event : ServiceExportEvent} {request : Request} {rest : Request.Answer request → Api Message}
    (deciding : federation.deciding = some (event, .call request rest)) (fault : Option String) :
    (Federation.conclude { federation with fleet := (federation.fleet.serve request fault).2 } event
      (rest (federation.fleet.serve request fault).1)).Confined plane exporter key watched := by
  obtain ⟨unchanged, continued⟩ :=
    confined.reading event _ deciding federation.fleet trivial fault
  rw [Unchanged] at unchanged
  rw [unchanged] at continued ⊢
  exact confined.conclude event _ continued

theorem Confined.advance (confined : federation.Confined plane exporter key watched) {index : Nat}
    {tag : HandlerTag} {request : Request}
    {rest : Request.Answer request → Api (Except ApiError Unit)}
    (found : federation.handlers[index]? = some ⟨tag, .call request rest⟩) (fault : Option String)
    (range : RangeOrder Endpoint) :
    ({ federation with
      fleet := (federation.fleet.serve request fault).2
      handlers := federation.handlers.eraseIdx index ++
        tag.resume range (rest (federation.fleet.serve request fault).1) } : Federation).Confined
      plane exporter key watched := by
  have running := List.mem_of_getElem? found
  obtain ⟨subscribed, recorded⟩ := confined.handled _ running
  refine ⟨confined.queued, fun event rest deciding => ?_, fun handler member => ?_, ?_⟩
  · exact (confined.reading event rest deciding).stable (fun _ _ _ _ _ => trivial)
      (fun _ _ held => held) trivial
  · rcases List.mem_append.mp member with old | new
    · exact confined.handled handler (List.mem_of_mem_eraseIdx old)
    · obtain ⟨connector, message⟩ := HandlerTag.resume_same new
      rw [connector, message]
      exact ⟨subscribed, recorded⟩
  · by_cases reaches : Reaches plane exporter key watched federation.accepted
    · exact Or.inl reaches
    · obtain ⟨clean, harmless⟩ := confined.confined.resolve_left reaches
      obtain ⟨kept, continued⟩ := harmless _ running federation.fleet (.refl _) fault
      refine Or.inr ⟨kept clean, fun handler member => ?_⟩
      rcases List.mem_append.mp member with old | new
      · exact Harmless.stable (harmless handler (List.mem_of_mem_eraseIdx old)) kept
      · rcases HandlerTag.mem_resume new with ⟨rfl, -⟩ | ⟨error, -, begun⟩
        · exact continued
        · exact handler_harmless begun reaches subscribed recorded (kept clean)

/-- An announcement is no acceptance. -/
theorem mem_announcement_kind {announcement : Api (List Message)} {bg : Background}
    {svcExp : ServiceExport}
    (made : announcement = pure [] ∨ announcement = bg.onUpdate svcExp) {fault : Option String}
    {fleet : Fleet} {message : Message}
    (member : message ∈ (announcement.execute (fun _ => fault) fleet).1) :
    message.kind ≠ .serviceExportAccepted := by
  rcases made with rfl | rfl
  · cases member
  · obtain ⟨-, svc, -, rfl⟩ := Background.mem_announce member
    intro accepted
    cases accepted

theorem Confined.step (federation : Federation) (step : FederationStep) (next : Federation)
    (confined : federation.Confined plane exporter key watched)
    (stepped : (machine plane).step federation step = some next) :
    next.Confined plane exporter key watched := by
  cases step_moves stepped with
  | serviceWritten cluster name service => exact confined.environment (.objectWritten rfl)
  | exportWritten cluster name svcExp => exact confined.environment (.objectWritten rfl)
  | exportAdd cluster svcExp fault found absent =>
      exact confined.report _ _ _ _ fault fun _ => mem_announcement_kind (Or.inr rfl)
  | exportUpdate cluster svcExp fault announcement found known made =>
      exact confined.report _ _ _ _ fault fun _ => mem_announcement_kind made
  | exportDelete cluster name fault found known =>
      refine confined.report _ _ _ _ fault fun message member => ?_
      obtain ⟨-, svc, -, rfl⟩ := Background.mem_announce member
      intro accepted
      cases accepted
  | dropped index order ranges found created => exact confined.dequeue index
  | considered index order ranges found created idle chosen =>
      exact (confined.dequeue index).conclude _ _ (processServiceExportCreatedEvent_decides _ _ _ _)
  | handed index order ranges found decided => exact confined.handed found ranges
  | decide fault deciding => exact confined.decide deciding fault
  | advance index fault range found => exact confined.advance found fault range

/-- An export has an endpoint at a cluster only after it was accepted, and only at a cluster that
it targets, when its list names the cluster of every other connector. -/
theorem run_targeted (plane : ControlPlane) (fleet : Fleet) (exporter : String)
    (key : NamespacedName) (watched : String) (fresh : NoEndpoint exporter key watched fleet)
    (steps : List FederationStep) (final : Federation)
    (reached : (machine plane).run (initial fleet) steps = some final)
    (all : ∀ event ∈ final.accepted, ServiceExportEvent.Of exporter key event →
      ServiceExportEvent.TargetsAll plane event)
    (present : ¬ NoEndpoint exporter key watched final.fleet) :
    (∃ event ∈ final.accepted, ServiceExportEvent.Of exporter key event) ∧
      ∀ event ∈ final.accepted, ServiceExportEvent.Of exporter key event →
        ServiceExportEvent.Targets plane event watched := by
  have confined : final.Confined plane exporter key watched :=
    (machine plane).run_preserves Confined.step (Confined.start fresh) reached
  obtain ⟨apart, subscribed, accepted⟩ := confined.confined.resolve_right fun clean =>
    present clean.1
  refine ⟨accepted, fun event member of => (all event member of).targets subscribed ?_⟩
  rw [of.1]
  exact apart

end Confinement

/-- Cluster `a` exports port 80 to these clusters, and the connectors handle the acceptance. -/
def exampleTargeted (targetClusters : List String) : List FederationStep :=
  [.exportAdd (exampleConfig "a").key
      { (exampleEvent "a" [⟨80, "/a"⟩]).serviceExport with targetClusters } none,
    .deliver 0 .stored fun _ => .stored, .decide none, .decide none,
    .deliver 0 .stored fun _ => .stored, .advance 0 none .stored, .advance 0 none .stored,
    .advance 0 none .stored]

/-- The export to cluster `b` reaches cluster `b`. -/
theorem run_targeted_listed :
    ∃ final, (machine examplePlane).run (initial exampleServices)
        (exampleTargeted [(exampleConfig "b").key]) = some final ∧
      (∃ event ∈ final.accepted, ServiceExportEvent.Of (exampleConfig "a").key ⟨"default", "web"⟩
        event) ∧
      ∀ event ∈ final.accepted, ServiceExportEvent.Of (exampleConfig "a").key ⟨"default", "web"⟩
        event → ServiceExportEvent.Targets examplePlane event (exampleConfig "b").key := by
  refine ⟨_, rfl, run_targeted examplePlane exampleServices (exampleConfig "a").key
    ⟨"default", "web"⟩ (exampleConfig "b").key (fun _ found => nomatch found)
    (exampleTargeted [(exampleConfig "b").key]) _ rfl (by decide +kernel) fun clean => ?_⟩
  exact clean _ rfl _ List.mem_cons_self _ List.mem_cons_self rfl

/-- The export to another cluster is imported by cluster `b` all the same. -/
theorem run_reaches_unlisted :
    ∃ final, (machine examplePlane).run (initial exampleServices)
        (exampleTargeted ["default/default/default/c"]) = some final ∧
      final.queue = [] ∧ final.deciding = none ∧ final.handlers = [] ∧
      ¬ NoEndpoint (exampleConfig "a").key ⟨"default", "web"⟩ (exampleConfig "b").key final.fleet ∧
      ∃ event ∈ final.accepted, ServiceExportEvent.Of (exampleConfig "a").key ⟨"default", "web"⟩
        event ∧ ¬ ServiceExportEvent.Targets examplePlane event (exampleConfig "b").key := by
  refine ⟨_, rfl, rfl, rfl, rfl, fun clean => ?_, _, List.mem_cons_self, by decide +kernel,
    by decide +kernel⟩
  exact clean _ rfl _ List.mem_cons_self _ List.mem_cons_self rfl

end Federation
end ErieCanal.Cluster
