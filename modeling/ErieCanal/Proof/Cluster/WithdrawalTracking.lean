import ErieCanal.Proof.Cluster.Announcements
import ErieCanal.Proof.Cluster.WithdrawnHandlers

namespace ErieCanal.Cluster
open Lib Lib.Program Kube Event SvcExp SvcImp

/-- The cluster is managed and remote, so that its connector handles messages. -/
def Subscribed (plane : ControlPlane) (cluster : String) : Prop :=
  ∃ connector ∈ plane.subscribers, connector.context.clusterKey = cluster

section Withdrawal
variable (plane : ControlPlane) (exporter : String) (key : NamespacedName) (watched : String)

namespace Federation

/-- A message, a decision or a handler may still add an endpoint of the exporting cluster. -/
def UpsertPending (federation : Federation) : Prop :=
  Subscribed plane watched ∧ (∃ message ∈ federation.queue, Announces exporter key message) ∨
    Subscribed plane watched ∧ (∃ event rest, federation.deciding = some (event, rest) ∧
      ServiceExportEvent.Of exporter key event) ∨
    ∃ handler ∈ federation.handlers, UpsertsAt exporter key watched handler.tag

/-- A message or a handler will still remove the endpoints of the exporting cluster. -/
def DeletePending (federation : Federation) : Prop :=
  (∃ message ∈ federation.queue, Withdraws exporter key message) ∨
    ∃ handler ∈ federation.handlers, DeletesAt exporter key watched handler.tag

/-- The export exists or its withdrawal is on its way, and both clusters take part. -/
def Excused (federation : Federation) : Prop :=
  Subscribed plane exporter ∧ Subscribed plane watched ∧
    ((federation.informers exporter key).isSome ∨ DeletePending exporter key watched federation)

/-- The watched cluster has no endpoint of the exporting cluster and none is on its way. -/
def Clean (federation : Federation) : Prop :=
  NoEndpoint exporter key watched federation.fleet ∧
    ¬ UpsertPending plane exporter key watched federation

/-- The invariant of a run in which withdrawals come last. -/
structure Tracked (federation : Federation) : Prop where
  informed : ∀ cluster name svcExp, federation.informers cluster name = some svcExp →
    svcExp.key = name
  live : NotTerminating key watched federation.fleet
  calls : ∀ handler ∈ federation.handlers, ∃ request next, handler.rest = .call request next
  sound : Task.AllSound Fleet.serve (fun _ => watchRely key watched)
    (watchGuarantee exporter key watched) (watchPost exporter key watched)
    federation.handlers federation.fleet
  reading : ∀ event rest, federation.deciding = some (event, rest) →
    rest.Sound Fleet.serve (fun _ _ => True) Unchanged
      (fun message _ => message = acceptServiceExport event ∨
        ∃ error, message = rejectServiceExport event error) federation.fleet
  withdrawn : Excused plane exporter key watched federation ∨
    Clean plane exporter key watched federation

/-- No message, decision or upsert handler of the event's export is left at this cluster. -/
def Quiet (federation : Federation) (event : ServiceExportEvent) (cluster : String) : Prop :=
  (∀ message ∈ federation.queue,
    ¬ Announces event.clusterKey event.serviceExport.key message) ∧
  (∀ other rest, federation.deciding = some (other, rest) →
    ¬ ServiceExportEvent.Of event.clusterKey event.serviceExport.key other) ∧
  ∀ handler ∈ federation.handlers,
    ¬ UpsertsAt event.clusterKey event.serviceExport.key cluster handler.tag

/-- A managed cluster can read the service of an export that it deletes, and a delete handler makes
its calls only after everything that its export announced has been handled at its cluster. -/
def WithdrawnLast (federation : Federation) : FederationStep → Prop
  | .exportDelete cluster name fault => ∀ bg, plane.reporter cluster = some bg →
      bg.isManaged = true → fault = none ∧
        ∃ svc, (federation.fleet cluster).services name = some svc ∧ svc.type ≠ .externalName
  | .advance index _ _ => ∀ handler event, federation.handlers[index]? = some handler →
      handler.tag.message.kind = .serviceExportDeleted →
      handler.tag.message.oldObj = some event →
      federation.Quiet event handler.tag.connector.context.clusterKey
  | _ => True

instance (federation : Federation) (event : ServiceExportEvent) (cluster : String) :
    Decidable (federation.Quiet event cluster) :=
  have (handler : Handler) : Decidable (UpsertsAt event.clusterKey event.serviceExport.key cluster
      handler.tag) := inferInstanceAs (Decidable (_ ∧ _))
  have : Decidable (∀ other rest, federation.deciding = some (other, rest) →
      ¬ ServiceExportEvent.Of event.clusterKey event.serviceExport.key other) :=
    decidable_of_iff (∀ decision ∈ federation.deciding,
      ¬ ServiceExportEvent.Of event.clusterKey event.serviceExport.key decision.1) Prod.forall
  inferInstanceAs (Decidable (_ ∧ _ ∧ _))

instance (federation : Federation) : (step : FederationStep) →
    Decidable (federation.WithdrawnLast plane step)
  | .exportDelete cluster name fault =>
      inferInstanceAs (Decidable (∀ bg ∈ plane.reporter cluster, bg.isManaged = true →
        fault = none ∧ ∃ svc ∈ (federation.fleet cluster).services name, svc.type ≠ .externalName))
  | .advance index _ _ =>
      decidable_of_iff (∀ handler ∈ federation.handlers[index]?,
        handler.tag.message.kind = .serviceExportDeleted → ∀ event ∈ handler.tag.message.oldObj,
          federation.Quiet event handler.tag.connector.context.clusterKey)
        ⟨fun quiet handler event found kind carried => quiet handler found kind event carried,
          fun quiet handler found kind event carried => quiet handler event found kind carried⟩
  | .serviceWritten .. | .exportWritten .. | .exportAdd .. | .exportUpdate .. | .deliver ..
  | .decide _ => .isTrue trivial

variable {plane exporter key watched} {federation : Federation}

/-- A step of the environment that keeps the watched import keeps the invariant. -/
theorem Tracked.environment (tracked : federation.Tracked plane exporter key watched)
    {fleet : Fleet}
    (imports : (fleet watched).serviceImports = (federation.fleet watched).serviceImports)
    (revision : (fleet watched).revision = (federation.fleet watched).revision) :
    ({ federation with fleet } : Federation).Tracked plane exporter key watched := by
  have relied : watchRely key watched federation.fleet fleet :=
    .of_same (congrFun imports key) (Nat.le_of_eq revision.symm)
  refine ⟨tracked.informed, relied.2 tracked.live, tracked.calls, ?_, ?_, ?_⟩
  · refine tracked.sound.stable (fun _ _ _ _ => watchRely.trans) ?_ fun _ _ => relied
    intro handler member value ended
    obtain ⟨request, next, call⟩ := tracked.calls handler member
    exact nomatch ended.symm.trans call
  · intro event rest deciding
    exact (tracked.reading event rest deciding).stable (fun _ _ _ _ _ => trivial)
      (fun _ _ held => held) trivial
  · exact tracked.withdrawn.imp id fun clean =>
      ⟨KeepsClean.of_same (congrFun imports key) clean.1, clean.2⟩

/-- New messages about other exports keep the watched cluster clean. -/
theorem Clean.enqueue {fed other : Federation} (clean : fed.Clean plane exporter key watched)
    (fleet : other.fleet = fed.fleet) (deciding : other.deciding = fed.deciding)
    (handlers : other.handlers = fed.handlers)
    (queue : Subscribed plane watched → ∀ message ∈ other.queue, Announces exporter key message →
      message ∈ fed.queue) :
    other.Clean plane exporter key watched := by
  refine ⟨fleet ▸ clean.1, fun pending => clean.2 ?_⟩
  rcases pending with ⟨joined, message, queued, announces⟩ | decided | ⟨handler, member, upserts⟩
  · exact Or.inl ⟨joined, message, queue joined message queued announces, announces⟩
  · exact Or.inr (Or.inl (deciding ▸ decided))
  · exact Or.inr (Or.inr ⟨handler, handlers ▸ member, upserts⟩)

/-- A report of another export, or of a cluster that takes no part, keeps the invariant, and a
report of the export itself excuses its endpoints. -/
theorem Tracked.report (tracked : federation.Tracked plane exporter key watched) (cluster : String)
    (name : NamespacedName) (svcExp : Option ServiceExport) (announcement : Api (List Message))
    (fault : Option String) (named : ∀ stored, svcExp = some stored → stored.key = name)
    (messages : ∀ message ∈ (announcement.execute (fun _ => fault) federation.fleet).1,
      Announces exporter key message → cluster = exporter ∧ name = key ∧ Subscribed plane exporter)
    (reported : cluster = exporter → name = key → Subscribed plane exporter →
      svcExp.isSome ∨ ∃ message ∈ (announcement.execute (fun _ => fault) federation.fleet).1,
        Withdraws exporter key message) :
    (federation.report cluster name svcExp announcement fault).Tracked plane exporter key
      watched := by
  have looked (other : String) (query : NamespacedName) :
      (federation.report cluster name svcExp announcement fault).informers other query =
        if other = cluster ∧ query = name then svcExp else federation.informers other query := by
    simp only [Federation.report, Function.update_apply]
    by_cases same : other = cluster
    · subst same
      by_cases named : query = name <;> simp [named]
    · simp [same]
  refine ⟨?_, tracked.live, tracked.calls, tracked.sound, tracked.reading, ?_⟩
  · intro other query stored found
    rw [looked] at found
    split at found
    · next same => exact (named stored found).trans same.2.symm
    · exact tracked.informed other query stored found
  · by_cases ours : (cluster = exporter ∧ name = key) ∧ Subscribed plane exporter ∧
        Subscribed plane watched
    · obtain ⟨⟨rfl, rfl⟩, exporting, watching⟩ := ours
      refine Or.inl ⟨exporting, watching, ?_⟩
      rcases reported rfl rfl exporting with present | ⟨message, announced, withdraws⟩
      · rw [looked, if_pos ⟨rfl, rfl⟩]
        exact Or.inl present
      · exact Or.inr (Or.inl ⟨message, List.mem_append_right _ announced, withdraws⟩)
    · rcases tracked.withdrawn with ⟨exporting, watching, excuse⟩ | clean
      · have foreign : ¬ (exporter = cluster ∧ key = name) := fun same =>
          ours ⟨⟨same.1.symm, same.2.symm⟩, exporting, watching⟩
        refine Or.inl ⟨exporting, watching, excuse.imp (fun present => ?_) fun pending => ?_⟩
        · rwa [looked, if_neg foreign]
        · exact pending.imp (fun ⟨message, queued, withdraws⟩ =>
            ⟨message, List.mem_append_left _ queued, withdraws⟩) id
      · refine Or.inr (clean.enqueue rfl rfl rfl fun watching message queued announces => ?_)
        rcases List.mem_append.mp queued with old | new
        · exact old
        · obtain ⟨same, named, exporting⟩ := messages message new announces
          exact absurd ⟨⟨same, named⟩, exporting, watching⟩ ours

/-- A decision about another export keeps the watched cluster clean. -/
theorem Tracked.conclude (tracked : federation.Tracked plane exporter key watched)
    (idle : federation.deciding = none) (event : ServiceExportEvent) (program : Api Message)
    (reading : program.Sound Fleet.serve (fun _ _ => True) Unchanged
      (fun message _ => message = acceptServiceExport event ∨
        ∃ error, message = rejectServiceExport event error) federation.fleet)
    (foreign : Excused plane exporter key watched federation ∨
      (Subscribed plane watched → ¬ ServiceExportEvent.Of exporter key event)) :
    (federation.conclude event program).Tracked plane exporter key watched := by
  cases program with
  | call request next =>
      refine ⟨tracked.informed, tracked.live, tracked.calls, tracked.sound, ?_, ?_⟩
      · intro other rest deciding
        obtain ⟨rfl, rfl⟩ := Prod.mk.inj (Option.some.inj deciding)
        exact reading
      · rcases tracked.withdrawn, foreign with ⟨excused | clean, kept | foreign⟩
        · exact Or.inl excused
        · exact Or.inl excused
        · exact Or.inl kept
        · refine Or.inr ⟨clean.1, ?_⟩
          rintro (queued | ⟨watching, other, rest, deciding, of⟩ | handled)
          · exact clean.2 (Or.inl queued)
          · obtain ⟨rfl, -⟩ := Prod.mk.inj (Option.some.inj deciding)
            exact foreign watching of
          · exact clean.2 (Or.inr (Or.inr handled))
  | done message =>
      refine ⟨tracked.informed, tracked.live, tracked.calls, tracked.sound, ?_, ?_⟩
      · intro other rest deciding
        cases deciding
      · have excuse (excused : Excused plane exporter key watched federation) :
            Excused plane exporter key watched (federation.conclude event (.done message)) := by
          obtain ⟨exporting, watching, present | pending⟩ := excused
          · exact ⟨exporting, watching, Or.inl present⟩
          · exact ⟨exporting, watching, Or.inr (pending.imp (fun ⟨message, queued, withdraws⟩ =>
              ⟨message, List.mem_append_left _ queued, withdraws⟩) id)⟩
        rcases tracked.withdrawn, foreign with ⟨excused | clean, kept | foreign⟩
        · exact Or.inl (excuse excused)
        · exact Or.inl (excuse excused)
        · exact Or.inl (excuse kept)
        · refine Or.inr (clean.enqueue rfl idle.symm rfl fun watching other queued announces => ?_)
          rcases List.mem_append.mp queued with old | new
          · exact old
          · obtain rfl := List.mem_singleton.mp new
            obtain ⟨kind, carried, found, of⟩ := announces
            rcases reading with rfl | ⟨error, rfl⟩
            · obtain rfl := Option.some.inj found
              exact absurd of (foreign watching)
            · rcases kind with created | accepted
              · cases created
              · cases accepted

/-- The delete handler of the export has a call to make at the watched cluster. -/
theorem start_of_deletesAt (apart : watched ≠ exporter) (tag : HandlerTag)
    (deletes : DeletesAt exporter key watched tag) :
    ∃ handler ∈ tag.start, handler.tag = tag := by
  obtain ⟨here, kind, event, carried, exported, -⟩ := deletes
  have foreign : ¬ event.clusterKey = tag.connector.context.clusterKey := by
    rw [exported, here]
    exact Ne.symm apart
  have handled : tag.connector.handle tag.range tag.message =
      some (tag.connector.deleteServiceImport event) := by
    rw [RemoteConnector.handle, kind, carried]
    rfl
  rw [HandlerTag.start, handled, RemoteConnector.deleteServiceImport, if_neg foreign]
  exact ⟨_, List.mem_singleton_self _, rfl⟩

theorem mem_eraseIdx_of_ne {A : Type} {items : List A} {index : Nat} {item other : A}
    (found : items[index]? = some item) (member : other ∈ items) (different : other ≠ item) :
    other ∈ items.eraseIdx index := by
  obtain ⟨position, placed⟩ := List.mem_iff_getElem?.mp member
  refine List.mem_eraseIdx_iff_getElem?.mpr ⟨position, fun same => different ?_, placed⟩
  rw [same, found] at placed
  exact (Option.some.inj placed).symm

/-- Taking a message that withdraws nothing out of the queue keeps the excuse. -/
theorem Excused.dequeue (excused : federation.Excused plane exporter key watched) {index : Nat}
    {message : Message} (found : federation.queue[index]? = some message)
    (kept : ¬ Withdraws exporter key message) :
    ({ federation with queue := federation.queue.eraseIdx index } : Federation).Excused plane
      exporter key watched := by
  obtain ⟨exporting, watching, present | ⟨other, queued, withdraws⟩ | handled⟩ := excused
  · exact ⟨exporting, watching, Or.inl present⟩
  · refine ⟨exporting, watching, Or.inr (Or.inl ⟨other, ?_, withdraws⟩)⟩
    exact mem_eraseIdx_of_ne found queued fun same => kept (same ▸ withdraws)
  · exact ⟨exporting, watching, Or.inr (Or.inr handled)⟩

theorem Tracked.dequeue (tracked : federation.Tracked plane exporter key watched) {index : Nat}
    {message : Message} (found : federation.queue[index]? = some message)
    (kept : ¬ Withdraws exporter key message) :
    ({ federation with queue := federation.queue.eraseIdx index } : Federation).Tracked plane
      exporter key watched := by
  refine ⟨tracked.informed, tracked.live, tracked.calls, tracked.sound, tracked.reading, ?_⟩
  refine tracked.withdrawn.imp (fun excused => excused.dequeue found kept) fun clean => ?_
  exact clean.enqueue rfl rfl rfl fun _ _ queued _ => List.mem_of_mem_eraseIdx queued

/-- Handing a message to the subscribers keeps the invariant. -/
theorem Tracked.handled (tracked : federation.Tracked plane exporter key watched)
    (apart : watched ≠ exporter) {index : Nat} {message : Message}
    (found : federation.queue[index]? = some message)
    (ranges : RemoteConnector → RangeOrder Endpoint) :
    ({ federation with
      queue := federation.queue.eraseIdx index
      handlers := federation.handlers ++ plane.subscribers.flatMap fun connector =>
        HandlerTag.start ⟨connector, message, ranges connector⟩ } : Federation).Tracked plane
      exporter key watched := by
  have started (handler : Handler) (member : handler ∈ plane.subscribers.flatMap fun connector =>
      HandlerTag.start ⟨connector, message, ranges connector⟩) :
      ∃ connector ∈ plane.subscribers, handler ∈
        HandlerTag.start ⟨connector, message, ranges connector⟩ := List.mem_flatMap.mp member
  refine ⟨tracked.informed, tracked.live, ?_, ?_, tracked.reading, ?_⟩
  · intro handler member
    rcases List.mem_append.mp member with old | new
    · exact tracked.calls handler old
    · obtain ⟨connector, -, begun⟩ := started handler new
      exact (HandlerTag.mem_start begun).2.2
  · intro handler member
    rcases List.mem_append.mp member with old | new
    · exact tracked.sound handler old
    · obtain ⟨connector, -, begun⟩ := started handler new
      obtain ⟨tagged, program, -⟩ := HandlerTag.mem_start begun
      rw [tagged]
      exact handle_watched _ handler.rest program apart federation.fleet tracked.live
  · rcases tracked.withdrawn with ⟨exporting, watching, excuse⟩ | clean
    · refine Or.inl ⟨exporting, watching, excuse.imp id fun pending => ?_⟩
      rcases pending with ⟨other, queued, withdraws⟩ | ⟨handler, member, deletes⟩
      · by_cases same : other = message
        · subst same
          obtain ⟨connector, subscribed, here⟩ := watching
          obtain ⟨handler, begun, tagged⟩ := start_of_deletesAt apart
            ⟨connector, other, ranges connector⟩ ⟨here, withdraws⟩
          refine Or.inr ⟨handler, List.mem_append_right _ ?_, tagged ▸ ⟨here, withdraws⟩⟩
          exact List.mem_flatMap.mpr ⟨connector, subscribed, begun⟩
        · exact Or.inl ⟨other, mem_eraseIdx_of_ne found queued same, withdraws⟩
      · exact Or.inr ⟨handler, List.mem_append_left _ member, deletes⟩
    · refine Or.inr ⟨clean.1, fun pending => clean.2 ?_⟩
      rcases pending with ⟨watching, other, queued, announces⟩ | decided | ⟨handler, member, upserts⟩
      · exact Or.inl ⟨watching, other, List.mem_of_mem_eraseIdx queued, announces⟩
      · exact Or.inr (Or.inl decided)
      · rcases List.mem_append.mp member with old | new
        · exact Or.inr (Or.inr ⟨handler, old, upserts⟩)
        · obtain ⟨connector, subscribed, begun⟩ := started handler new
          rw [(HandlerTag.mem_start begun).1] at upserts
          exact Or.inl ⟨⟨connector, subscribed, upserts.1⟩, message, List.mem_of_getElem? found,
            upserts.2⟩

theorem not_withdraws_of_created {message : Message}
    (created : message.kind = .serviceExportCreated) : ¬ Withdraws exporter key message := by
  rintro ⟨deleted, -⟩
  rw [created] at deleted
  cases deleted

/-- A decision on an export that the queue announced keeps the invariant. -/
theorem Tracked.considered (tracked : federation.Tracked plane exporter key watched) {index : Nat}
    {message : Message} {event : ServiceExportEvent}
    (found : federation.queue[index]? = some message)
    (created : message.kind = .serviceExportCreated) (idle : federation.deciding = none)
    (chosen : plane.created message = some event) (order : RangeOrder Background) :
    (Federation.conclude { federation with queue := federation.queue.eraseIdx index } event
      (processServiceExportCreatedEvent order (GoMap.values plane.backgrounds) event)).Tracked plane
      exporter key watched := by
  have kept := @not_withdraws_of_created exporter key message created
  refine (tracked.dequeue found kept).conclude idle event _
    (processServiceExportCreatedEvent_decides _ _ _ _) ?_
  refine tracked.withdrawn.imp (fun excused => excused.dequeue found kept) ?_
  intro clean watching of
  exact clean.2 (Or.inl ⟨watching, message, List.mem_of_getElem? found, Or.inl created, event,
    plane.newObj_of_created chosen, of⟩)

/-- A call of the decision reads only. -/
theorem Tracked.decide (tracked : federation.Tracked plane exporter key watched)
    {event : ServiceExportEvent} {request : Request} {rest : Request.Answer request → Api Message}
    (deciding : federation.deciding = some (event, .call request rest)) (fault : Option String) :
    (Federation.conclude { federation with fleet := (federation.fleet.serve request fault).2 } event
      (rest (federation.fleet.serve request fault).1)).Tracked plane exporter key watched := by
  obtain ⟨unchanged, reading⟩ :=
    tracked.reading event _ deciding federation.fleet trivial fault
  have idle : ({ federation with deciding := none } : Federation).Tracked plane exporter key
      watched := by
    refine ⟨tracked.informed, tracked.live, tracked.calls, tracked.sound,
      fun _ _ deciding => ?_, ?_⟩
    · cases deciding
    refine tracked.withdrawn.imp id fun clean => ⟨clean.1, fun pending => clean.2 ?_⟩
    exact pending.imp id (Or.imp (fun ⟨_, _, _, impossible, _⟩ => nomatch impossible) id)
  rw [Unchanged] at unchanged
  rw [unchanged] at reading
  rw [unchanged, ← conclude_idle]
  refine idle.conclude rfl event _ reading (tracked.withdrawn.imp id fun clean watching of => ?_)
  exact clean.2 (Or.inr (Or.inl ⟨watching, event, _, deciding, of⟩))

/-- A delete handler goes on until it ends well. -/
theorem resume_of_deletesAt (apart : watched ≠ exporter) {tag : HandlerTag}
    (deletes : DeletesAt exporter key watched tag) (range : RangeOrder Endpoint)
    (program : Api (Except ApiError Unit)) :
    program = .done (.ok ()) ∨
      ∃ handler ∈ tag.resume range program, DeletesAt exporter key watched handler.tag := by
  cases program with
  | call request rest => exact Or.inr ⟨⟨tag, _⟩, List.mem_singleton_self _, deletes⟩
  | done answer =>
      cases answer with
      | ok value => exact Or.inl rfl
      | error error =>
          obtain ⟨handler, begun, tagged⟩ := start_of_deletesAt apart
            { tag with range } deletes
          exact Or.inr ⟨handler, begun, tagged ▸ deletes⟩

/-- A call of another handler brings no upsert of the export. -/
theorem UpsertPending.of_resume {index : Nat} {tag : HandlerTag} {range : RangeOrder Endpoint}
    {program : Api (Except ApiError Unit)} {fleet : Fleet}
    (calm : ¬ UpsertsAt exporter key watched tag)
    (pending : UpsertPending plane exporter key watched { federation with
      fleet := fleet
      handlers := federation.handlers.eraseIdx index ++ tag.resume range program }) :
    UpsertPending plane exporter key watched federation := by
  rcases pending with queued | decided | ⟨handler, member, upserts⟩
  · exact Or.inl queued
  · exact Or.inr (Or.inl decided)
  · rcases List.mem_append.mp member with old | new
    · exact Or.inr (Or.inr ⟨handler, List.mem_of_mem_eraseIdx old, upserts⟩)
    · obtain ⟨connector, message⟩ := HandlerTag.resume_same new
      rw [UpsertsAt, connector, message] at upserts
      exact absurd upserts calm

theorem Quiet.settled {event : ServiceExportEvent} {cluster : String}
    (quiet : federation.Quiet event cluster) :
    ¬ UpsertPending plane event.clusterKey event.serviceExport.key cluster federation := by
  obtain ⟨queue, deciding, handlers⟩ := quiet
  rintro (⟨-, message, queued, announces⟩ | ⟨-, other, rest, decided, of⟩ |
    ⟨handler, member, upserts⟩)
  · exact queue message queued announces
  · exact deciding other rest decided of
  · exact handlers handler member upserts

/-- A call of one handler keeps the handlers sound, the resumed one included. -/
theorem Tracked.resume (tracked : federation.Tracked plane exporter key watched)
    (apart : watched ≠ exporter) (index : Nat) (range : RangeOrder Endpoint) {tag : HandlerTag}
    {program : Api (Except ApiError Unit)} {fleet : Fleet}
    (relied : watchRely key watched federation.fleet fleet)
    (continued : program.Sound Fleet.serve (watchRely key watched)
      (watchGuarantee exporter key watched tag) (watchPost exporter key watched tag) fleet) :
    ∀ handler ∈ federation.handlers.eraseIdx index ++ tag.resume range program,
      (∃ request next, handler.rest = .call request next) ∧
      handler.rest.Sound Fleet.serve (watchRely key watched)
        (watchGuarantee exporter key watched handler.tag)
        (watchPost exporter key watched handler.tag) fleet := by
  intro handler member
  rcases List.mem_append.mp member with old | new
  · have present := List.mem_of_mem_eraseIdx old
    obtain ⟨request, next, calls⟩ := tracked.calls handler present
    refine ⟨⟨request, next, calls⟩, ?_⟩
    exact (tracked.sound handler present).stable (fun _ _ _ => watchRely.trans)
      (fun value ended => nomatch ended.symm.trans calls) relied
  · rcases HandlerTag.mem_resume new with ⟨rfl, calls⟩ | ⟨error, -, begun⟩
    · exact ⟨calls, continued⟩
    · obtain ⟨tagged, handled, calls⟩ := HandlerTag.mem_start begun
      rw [tagged]
      exact ⟨calls, handle_watched _ handler.rest handled apart fleet (relied.2 tracked.live)⟩

/-- One call of a handler keeps the invariant when a delete handler finds its export quiet. -/
theorem Tracked.advance (tracked : federation.Tracked plane exporter key watched)
    (apart : watched ≠ exporter) {index : Nat} {fault : Option String}
    {range : RangeOrder Endpoint} {tag : HandlerTag} {request : Request}
    {rest : Request.Answer request → Api (Except ApiError Unit)}
    (last : federation.WithdrawnLast plane (.advance index fault range))
    (found : federation.handlers[index]? = some ⟨tag, .call request rest⟩) :
    ({ federation with
      fleet := (federation.fleet.serve request fault).2
      handlers := federation.handlers.eraseIdx index ++
        tag.resume range (rest (federation.fleet.serve request fault).1) } : Federation).Tracked
      plane exporter key watched := by
  have running := List.mem_of_getElem? found
  obtain ⟨kept, continued⟩ := tracked.sound.call (fun _ => watchRely.refl) running fault
  generalize (federation.fleet.serve request fault).2 = fleet at kept continued ⊢
  generalize rest (federation.fleet.serve request fault).1 = program at continued ⊢
  have resumed := tracked.resume apart index range kept.1 continued
  refine ⟨tracked.informed, kept.1.2 tracked.live, fun handler member => (resumed handler member).1,
    fun handler member => (resumed handler member).2, ?_, ?_⟩
  · intro event rest deciding
    exact (tracked.reading event rest deciding).stable (fun _ _ _ _ _ => trivial)
      (fun _ _ held => held) trivial
  · rcases tracked.withdrawn with
      ⟨exporting, watching, present | queued | ⟨handler, member, deletes⟩⟩ | clean
    · exact Or.inl ⟨exporting, watching, Or.inl present⟩
    · exact Or.inl ⟨exporting, watching, Or.inr (Or.inl queued)⟩
    · by_cases same : handler = ⟨tag, .call request rest⟩
      · subst same
        rcases resume_of_deletesAt apart deletes range program with rfl | ⟨handler, new, goes⟩
        · have absent : NoEndpoint exporter key watched fleet := continued deletes rfl
          obtain ⟨rfl, kind, event, carried, rfl, rfl⟩ := deletes
          have quiet := last _ event found kind carried
          exact Or.inr ⟨absent, fun pending =>
            quiet.settled (pending.of_resume (quiet.2.2 _ running))⟩
        · exact Or.inl ⟨exporting, watching, Or.inr (Or.inr ⟨handler,
            List.mem_append_right _ new, goes⟩)⟩
      · exact Or.inl ⟨exporting, watching, Or.inr (Or.inr ⟨handler,
          List.mem_append_left _ (mem_eraseIdx_of_ne found member same), deletes⟩)⟩
    · have calm : ¬ UpsertsAt exporter key watched tag := fun upserts =>
        clean.2 (Or.inr (Or.inr ⟨_, running, upserts⟩))
      exact Or.inr ⟨kept.2 calm clean.1, fun pending => clean.2 (pending.of_resume calm)⟩

end Federation
end Withdrawal
end ErieCanal.Cluster
