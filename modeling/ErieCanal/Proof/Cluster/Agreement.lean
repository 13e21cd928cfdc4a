import ErieCanal.Proof.Cluster.Resurrection

namespace ErieCanal.Cluster
open Lib Lib.Program Kube Event SvcExp SvcImp

/-- Services do not change and imports do not disappear. -/
def Steady (before after : Fleet) : Prop :=
  (∀ cluster, (after cluster).services = (before cluster).services) ∧
    ∀ cluster key, ((before cluster).serviceImports key).isSome →
      ((after cluster).serviceImports key).isSome

theorem Steady.refl (fleet : Fleet) : Steady fleet fleet := ⟨fun _ => rfl, fun _ _ present => present⟩

theorem Steady.trans {first second third : Fleet} (left : Steady first second)
    (right : Steady second third) : Steady first third :=
  ⟨fun cluster => (right.1 cluster).trans (left.1 cluster),
    fun cluster key present => right.2 cluster key (left.2 cluster key present)⟩

/-- A change of one server keeps the fleet steady when it keeps that server steady. -/
theorem Steady.update {fleet : Fleet} {cluster : String} {server : ApiServer}
    (services : server.services = (fleet cluster).services)
    (imports : ∀ key, ((fleet cluster).serviceImports key).isSome →
      (server.serviceImports key).isSome) :
    Steady fleet (Function.update fleet cluster server) := by
  constructor
  · exact Fleet.update_keeps (fun before after => after.services = before.services)
      (fun _ => rfl) services
  · exact Fleet.update_keeps (fun before after => ∀ key, (before.serviceImports key).isSome →
      (after.serviceImports key).isSome) (fun _ _ present => present) imports

theorem Steady.written (fleet : Fleet) (cluster : String) (imp : ServiceImport) :
    Steady fleet (written fleet cluster imp) := by
  refine .update rfl fun key present => ?_
  by_cases same : key = imp.key
  · rw [same, ApiServer.writeServiceImport_self]
    rfl
  · rwa [ApiServer.writeServiceImport_other _ _ _ same]

/-- A call that writes no import is steady. -/
theorem Steady.quiet (fleet : Fleet) (cluster : String) (fault : Option String) (call : ApiCall)
    (quiet : call.writesImport = false) :
    Steady fleet (fleet.serve ⟨cluster, call⟩ fault).2 := by
  refine ⟨fun other => (fleet.serve_keeps_imports cluster fault call quiet other).2.1,
    fun other key present => ?_⟩
  rwa [(fleet.serve_keeps_imports cluster fault call quiet other).1]

/-- The handler of an accepted or a rejected export is steady. -/
theorem handle_steady {c : RemoteConnector} {range : RangeOrder Endpoint} {message : Message}
    {program : Api (Except ApiError Unit)} (handled : c.handle range message = some program)
    (kept : message.kind ≠ .serviceExportDeleted) (fleet : Fleet) :
    program.Sound Fleet.serve (fun _ _ => True) Steady (fun _ _ => True) fleet := by
  rw [RemoteConnector.handle] at handled
  split at handled
  · next deleted => exact absurd deleted kept
  · obtain ⟨event, -, rfl⟩ := Option.map_eq_some_iff.mp handled
    by_cases own : event.clusterKey = c.context.clusterKey
    · rw [RemoteConnector.upsertServiceImport, if_pos own]
      trivial
    · exact upsertServiceImport_sound c event (fun _ => True) (fun _ _ => True) range own Steady.refl
        (fun _ _ => trivial) (fun _ _ _ _ => trivial)
        (fun fleet fault _ => ⟨.quiet fleet _ fault _ rfl, trivial⟩)
        (fun fleet _ _ => ⟨.written fleet _ _, trivial⟩) (fun _ _ _ _ => trivial)
        (fun _ _ _ later _ _ _ _ => ⟨fun _ => trivial, .written later _ _, trivial⟩) fleet trivial
  · obtain ⟨event, -, rfl⟩ := Option.map_eq_some_iff.mp handled
    exact rejectServiceExport_sound c event
      (fun state call fault quiet => .quiet state _ fault call quiet) (fun _ _ => trivial) fleet
  · cases handled

/-- Two clusters export services of different types or ports under one name. -/
def Conflicting (first second : ServiceExportEvent) : Prop :=
  first.serviceExport.key = second.serviceExport.key ∧ first.clusterKey ≠ second.clusterKey ∧
    ¬ SameSpec first.service second.service

instance (first second : ServiceExportEvent) : Decidable (Conflicting first second) :=
  have : Decidable (SameSpec first.service second.service) := inferInstanceAs (Decidable (_ ∧ _))
  inferInstanceAs (Decidable (_ ∧ _ ∧ _))

theorem Conflicting.symm {first second : ServiceExportEvent} (conflict : Conflicting first second) :
    Conflicting second first :=
  ⟨conflict.1.symm, conflict.2.1.symm, fun same => conflict.2.2 ⟨same.1.symm, same.2.symm⟩⟩

namespace Federation
section Agreement
variable (plane : ControlPlane) (start : Fleet)

/-- A remote cluster of the control plane exports the service that it has. -/
def Captured (event : ServiceExportEvent) : Prop :=
  (∃ bg, plane.reporter event.clusterKey = some bg) ∧
    (start event.clusterKey).services event.serviceExport.key = some event.service

/-- A decision rejects its export or finds no conflict with an accepted one. -/
def Decides (accepted : List ServiceExportEvent) (event : ServiceExportEvent) (message : Message) :
    Prop :=
  message = acceptServiceExport event ∧ (∀ other ∈ accepted, ¬ Conflicting other event) ∨
    ∃ error, message = rejectServiceExport event error

/-- The invariant of a run in which no import disappears and no decision comes too early. -/
structure Agreeing (federation : Federation) : Prop where
  services : ∀ cluster, (federation.fleet cluster).services = (start cluster).services
  queued : ∀ message ∈ federation.queue, message.kind ≠ .serviceExportDeleted ∧
    (message.kind = .serviceExportCreated → ∀ event, message.newObj = some event →
      Captured plane start event)
  sound : Task.AllSound Fleet.serve (fun _ _ _ => True) (fun _ => Steady) (fun _ _ _ => True)
    federation.handlers federation.fleet
  messages : ∀ handler ∈ federation.handlers, handler.tag.message.kind ≠ .serviceExportDeleted
  captured : ∀ event ∈ federation.accepted, Captured plane start event
  agreed : ∀ first ∈ federation.accepted, ∀ second ∈ federation.accepted, ¬ Conflicting first second
  reading : ∀ event rest, federation.deciding = some (event, rest) → Captured plane start event ∧
    rest.Sound Fleet.serve Steady Unchanged
      (fun message _ => Decides federation.accepted event message) federation.fleet

/-- No service changes and no export is deleted; a decision on an export that conflicts with an
accepted one starts only when some remote cluster has the import. -/
def DecidedLate (federation : Federation) : FederationStep → Prop
  | .serviceWritten cluster name service => service = (federation.fleet cluster).services name
  | .exportDelete .. => False
  | .deliver index _ _ => ∀ message event, federation.queue[index]? = some message →
      message.kind = .serviceExportCreated → plane.created message = some event →
      (∃ other ∈ federation.accepted, Conflicting other event) →
      ∃ bg ∈ GoMap.values plane.backgrounds, bg.isInCluster = false ∧
        ((federation.fleet bg.clusterKey).serviceImports event.serviceExport.key).isSome
  | _ => True

instance (federation : Federation) : (step : FederationStep) →
    Decidable (federation.DecidedLate plane step)
  | .serviceWritten cluster name service =>
      inferInstanceAs (Decidable (service = (federation.fleet cluster).services name))
  | .deliver index _ _ =>
      decidable_of_iff (∀ message ∈ federation.queue[index]?, message.kind = .serviceExportCreated →
        ∀ event ∈ plane.created message, (∃ other ∈ federation.accepted, Conflicting other event) →
        ∃ bg ∈ GoMap.values plane.backgrounds, bg.isInCluster = false ∧
          ((federation.fleet bg.clusterKey).serviceImports event.serviceExport.key).isSome)
        ⟨fun late message event found created chosen => late message found created event chosen,
          fun late message found created event chosen => late message event found created chosen⟩
  | .exportDelete .. => .isFalse id
  | .exportWritten .. | .exportAdd .. | .exportUpdate .. | .decide _ | .advance .. => .isTrue trivial

variable {plane start} {federation : Federation}

theorem Agreeing.initial (fleet : Fleet) : (initial fleet).Agreeing plane fleet where
  services := fun _ => rfl
  queued := fun _ member => nomatch member
  sound := fun _ member => nomatch member
  messages := fun _ member => nomatch member
  captured := fun _ member => nomatch member
  agreed := fun _ member => nomatch member
  reading := fun _ _ deciding => nomatch deciding

theorem Agreeing.environment (agreeing : federation.Agreeing plane start) {fleet : Fleet}
    (steady : Steady federation.fleet fleet) :
    ({ federation with fleet } : Federation).Agreeing plane start where
  services := fun cluster => (steady.1 cluster).trans (agreeing.services cluster)
  queued := agreeing.queued
  sound := agreeing.sound.stable (fun _ _ _ _ _ _ => trivial) (fun _ _ _ _ _ => trivial)
    fun _ _ => trivial
  messages := agreeing.messages
  captured := agreeing.captured
  agreed := agreeing.agreed
  reading := fun event rest deciding => (agreeing.reading event rest deciding).imp id fun sound =>
    sound.stable (fun _ _ _ => Steady.trans) (fun _ _ held => held) steady

/-- A report announces the services that the clusters have. -/
theorem Agreeing.report (agreeing : federation.Agreeing plane start) {cluster : String}
    {bg : Background} (found : plane.reporter cluster = some bg) (svcExp : ServiceExport)
    (announcement : Api (List Message)) (fault : Option String)
    (made : announcement = pure [] ∨ announcement = bg.onUpdate svcExp) :
    (federation.report cluster svcExp.key (some svcExp) announcement fault).Agreeing plane start := by
  refine ⟨agreeing.services, fun message member => ?_, agreeing.sound, agreeing.messages,
    agreeing.captured, agreeing.agreed, agreeing.reading⟩
  rcases List.mem_append.mp member with old | new
  · exact agreeing.queued message old
  · rcases made with rfl | rfl
    · cases new
    · obtain ⟨-, svc, stored, rfl⟩ := Background.mem_announce new
      refine ⟨nofun, fun _ event carried => ?_⟩
      obtain rfl := Option.some.inj carried
      have located := plane.exportEvent_clusterKey found svcExp svc
      rw [plane.keyed cluster bg (plane.reporter_eq_some found).1, agreeing.services] at stored
      exact ⟨⟨bg, located.symm ▸ found⟩, located.symm ▸ stored⟩

/-- The end of a decision that finds no conflict keeps the accepted exports in agreement. -/
theorem Agreeing.conclude (agreeing : federation.Agreeing plane start) (event : ServiceExportEvent)
    (program : Api Message) (captured : Captured plane start event)
    (sound : program.Sound Fleet.serve Steady Unchanged
      (fun message _ => Decides federation.accepted event message) federation.fleet) :
    (federation.conclude event program).Agreeing plane start := by
  cases program with
  | call request rest =>
      refine ⟨agreeing.services, agreeing.queued, agreeing.sound, agreeing.messages,
        agreeing.captured, agreeing.agreed, fun other rest deciding => ?_⟩
      obtain ⟨rfl, rfl⟩ := Prod.mk.inj (Option.some.inj deciding)
      exact ⟨captured, sound⟩
  | done message =>
      have fresh (other : Message) (listed : other ∈ federation.queue ++ [message]) :
          other ∈ federation.queue ∨ other.kind ≠ .serviceExportDeleted ∧
            other.kind ≠ .serviceExportCreated := by
        rcases List.mem_append.mp listed with old | new
        · exact Or.inl old
        · obtain rfl := List.mem_singleton.mp new
          rcases sound with ⟨rfl, -⟩ | ⟨error, rfl⟩ <;> exact Or.inr ⟨nofun, nofun⟩
      have queued (other : Message) (listed : other ∈ federation.queue ++ [message]) :
          other.kind ≠ .serviceExportDeleted ∧ (other.kind = .serviceExportCreated →
            ∀ event, other.newObj = some event → Captured plane start event) := by
        rcases fresh other listed with old | ⟨kept, decided⟩
        · exact agreeing.queued other old
        · exact ⟨kept, fun created => absurd created decided⟩
      rcases sound with ⟨rfl, peaceful⟩ | ⟨error, rfl⟩
      · refine ⟨agreeing.services, queued, agreeing.sound, agreeing.messages, ?_, ?_,
          fun _ _ deciding => ?_⟩
        · intro other listed
          rcases List.mem_append.mp listed with old | new
          · exact agreeing.captured other old
          · exact List.mem_singleton.mp new ▸ captured
        · intro first one second other
          rcases List.mem_append.mp one with old | new
          · rcases List.mem_append.mp other with old' | new'
            · exact agreeing.agreed first old second old'
            · exact List.mem_singleton.mp new' ▸ peaceful first old
          · rw [List.mem_singleton.mp new]
            rcases List.mem_append.mp other with old' | new'
            · exact fun conflict => peaceful second old' conflict.symm
            · exact fun conflict => conflict.2.1 (by rw [List.mem_singleton.mp new'])
        · cases deciding
      · refine ⟨agreeing.services, queued, agreeing.sound, agreeing.messages, agreeing.captured,
          agreeing.agreed, fun _ _ deciding => ?_⟩
        cases deciding

/-- A decision that starts when every conflict has its import ends without a conflict. -/
theorem Agreeing.decides (agreeing : federation.Agreeing plane start)
    (order : RangeOrder Background) {event : ServiceExportEvent}
    (late : (∃ other ∈ federation.accepted, Conflicting other event) →
      ∃ bg ∈ GoMap.values plane.backgrounds, bg.isInCluster = false ∧
        ((federation.fleet bg.clusterKey).serviceImports event.serviceExport.key).isSome) :
    (processServiceExportCreatedEvent order (GoMap.values plane.backgrounds) event).Sound
      Fleet.serve Steady Unchanged
      (fun message _ => Decides federation.accepted event message) federation.fleet := by
  refine Sound.weaken (fun _ _ kept => kept) ?_ (@processServiceExportCreatedEvent_sound Steady
    (Steady federation.fleet) (fun _ _ => Steady.trans) order (GoMap.values plane.backgrounds) event
    federation.fleet (Steady.refl federation.fleet))
  rintro message - (⟨rfl, first | valid⟩ | rejected)
  · refine Or.inl ⟨rfl, fun other listed conflict => ?_⟩
    obtain ⟨bg, member, remote, present⟩ := late ⟨other, listed, conflict⟩
    obtain ⟨state, steady, absent⟩ := first bg member remote
    have kept := steady.2 _ _ present
    rw [absent] at kept
    cases kept
  · refine Or.inl ⟨rfl, fun other listed conflict => ?_⟩
    obtain ⟨⟨bg, found⟩, stored⟩ := agreeing.captured other listed
    obtain ⟨placed, remote⟩ := plane.reporter_eq_some found
    have own := plane.keyed _ bg placed
    obtain ⟨state, steady, same⟩ := valid bg ((GoMap.mem_values _ _).mpr ⟨_, placed⟩) remote
      (own ▸ conflict.2.1)
    rw [steady.1, agreeing.services, own, ← conflict.1] at same
    exact conflict.symm.2.2 (same other.service stored)
  · exact Or.inr rejected

theorem Agreeing.dequeue (agreeing : federation.Agreeing plane start) (index : Nat) :
    ({ federation with queue := federation.queue.eraseIdx index } : Federation).Agreeing plane
      start :=
  { agreeing with queued := fun message member =>
      agreeing.queued message (List.mem_of_mem_eraseIdx member) }

/-- A decision that is late enough keeps the accepted exports in agreement. -/
theorem Agreeing.considered (agreeing : federation.Agreeing plane start) {index : Nat}
    {message : Message} {event : ServiceExportEvent} {order : RangeOrder Background}
    {ranges : RemoteConnector → RangeOrder Endpoint}
    (found : federation.queue[index]? = some message)
    (created : message.kind = .serviceExportCreated) (chosen : plane.created message = some event)
    (late : federation.DecidedLate plane (.deliver index order ranges)) :
    (Federation.conclude { federation with queue := federation.queue.eraseIdx index } event
      (processServiceExportCreatedEvent order (GoMap.values plane.backgrounds) event)).Agreeing
      plane start := by
  obtain ⟨-, carried⟩ := agreeing.queued message (List.mem_of_getElem? found)
  have captured := carried created event (plane.newObj_of_created chosen)
  have dequeued := agreeing.dequeue index
  exact dequeued.conclude event _ captured
    (dequeued.decides order (late message event found created chosen))

/-- Handing a message to the subscribers starts steady handlers. -/
theorem Agreeing.handed (agreeing : federation.Agreeing plane start) {index : Nat}
    {message : Message} (found : federation.queue[index]? = some message)
    (ranges : RemoteConnector → RangeOrder Endpoint) :
    ({ federation with
      queue := federation.queue.eraseIdx index
      handlers := federation.handlers ++ plane.subscribers.flatMap fun connector =>
        HandlerTag.start ⟨connector, message, ranges connector⟩ } : Federation).Agreeing plane
      start := by
  obtain ⟨kept, -⟩ := agreeing.queued message (List.mem_of_getElem? found)
  have started (handler : Handler) (member : handler ∈ plane.subscribers.flatMap fun connector =>
      HandlerTag.start ⟨connector, message, ranges connector⟩) :
      handler.tag.message.kind ≠ .serviceExportDeleted ∧
        handler.rest.Sound Fleet.serve (fun _ _ => True) Steady (fun _ _ => True)
          federation.fleet := by
    obtain ⟨connector, -, begun⟩ := List.mem_flatMap.mp member
    obtain ⟨tagged, handled, -⟩ := HandlerTag.mem_start begun
    exact ⟨tagged ▸ kept, handle_steady handled kept _⟩
  refine { agreeing.dequeue index with
    sound := fun handler member => ?_, messages := fun handler member => ?_ }
  · rcases List.mem_append.mp member with old | new
    · exact agreeing.sound handler old
    · exact (started handler new).2
  · rcases List.mem_append.mp member with old | new
    · exact agreeing.messages handler old
    · exact (started handler new).1

theorem Agreeing.decide (agreeing : federation.Agreeing plane start) {event : ServiceExportEvent}
    {request : Request} {rest : Request.Answer request → Api Message}
    (deciding : federation.deciding = some (event, .call request rest)) (fault : Option String) :
    (Federation.conclude { federation with fleet := (federation.fleet.serve request fault).2 } event
      (rest (federation.fleet.serve request fault).1)).Agreeing plane start := by
  obtain ⟨captured, sound⟩ := agreeing.reading event _ deciding
  obtain ⟨unchanged, continued⟩ := sound federation.fleet (.refl _) fault
  rw [Unchanged] at unchanged
  rw [unchanged] at continued ⊢
  exact agreeing.conclude event _ captured continued

theorem Agreeing.advance (agreeing : federation.Agreeing plane start) {index : Nat}
    {tag : HandlerTag} {request : Request}
    {rest : Request.Answer request → Api (Except ApiError Unit)}
    (found : federation.handlers[index]? = some ⟨tag, .call request rest⟩) (fault : Option String)
    (range : RangeOrder Endpoint) :
    ({ federation with
      fleet := (federation.fleet.serve request fault).2
      handlers := federation.handlers.eraseIdx index ++
        tag.resume range (rest (federation.fleet.serve request fault).1) } : Federation).Agreeing
      plane start := by
  have running := List.mem_of_getElem? found
  obtain ⟨steady, continued⟩ := agreeing.sound.call (fun _ _ => trivial) running fault
  have moved := agreeing.environment steady
  have resumed (handler : Handler) (member : handler ∈ federation.handlers.eraseIdx index ++
      tag.resume range (rest (federation.fleet.serve request fault).1)) :
      handler.tag.message.kind ≠ .serviceExportDeleted ∧
        handler.rest.Sound Fleet.serve (fun _ _ => True) Steady (fun _ _ => True)
          (federation.fleet.serve request fault).2 := by
    rcases List.mem_append.mp member with old | new
    · have present := List.mem_of_mem_eraseIdx old
      exact ⟨agreeing.messages handler present, moved.sound handler present⟩
    · have kept := agreeing.messages _ running
      rw [← (HandlerTag.resume_same new).2] at kept
      refine ⟨kept, ?_⟩
      rcases HandlerTag.mem_resume new with ⟨rfl, -⟩ | ⟨error, -, begun⟩
      · exact continued
      · obtain ⟨tagged, handled, -⟩ := HandlerTag.mem_start begun
        exact handle_steady handled (tagged ▸ kept) _
  exact { moved with
    sound := fun handler member => (resumed handler member).2
    messages := fun handler member => (resumed handler member).1 }

theorem Agreeing.step (federation : Federation) (step : FederationStep) (next : Federation)
    (agreeing : federation.Agreeing plane start) (late : federation.DecidedLate plane step)
    (stepped : (machine plane).step federation step = some next) : next.Agreeing plane start := by
  cases step_moves stepped with
  | serviceWritten cluster name service =>
      refine agreeing.environment (.update ?_ fun _ present => present)
      rw [show service = _ from late, Function.update_eq_self]
  | exportWritten cluster name svcExp =>
      exact agreeing.environment (.update rfl fun _ present => present)
  | exportAdd cluster svcExp fault found absent =>
      exact agreeing.report found svcExp _ fault (Or.inr rfl)
  | exportUpdate cluster svcExp fault announcement found known made =>
      exact agreeing.report found svcExp announcement fault made
  | exportDelete cluster name fault found known => cases late
  | dropped index order ranges found created => exact agreeing.dequeue index
  | considered index order ranges found created idle chosen =>
      exact agreeing.considered found created chosen late
  | handed index order ranges found decided => exact agreeing.handed found ranges
  | decide fault deciding => exact agreeing.decide deciding fault
  | advance index fault range found => exact agreeing.advance found fault range

/-- Accepted exports of one name agree, and a decision on an export that conflicts with an accepted
one ends with its rejection, when no such decision starts before some import exists. -/
theorem run_accepted_agree (plane : ControlPlane) (fleet : Fleet) (steps : List FederationStep)
    (final : Federation)
    (late : (machine plane).Guarded (DecidedLate plane) (initial fleet) steps)
    (reached : (machine plane).run (initial fleet) steps = some final) :
    (∀ first ∈ final.accepted, ∀ second ∈ final.accepted,
      first.serviceExport.key = second.serviceExport.key → first.clusterKey ≠ second.clusterKey →
      SameSpec first.service second.service) ∧
    ∀ event rest, final.deciding = some (event, rest) →
      (∃ other ∈ final.accepted, Conflicting other event) →
      ∀ faults, ∃ error, (Api.execute rest faults final.fleet).1 = rejectServiceExport event error := by
  have agreeing := (machine plane).run_invariant Agreeing.step (Agreeing.initial fleet) late reached
  constructor
  · intro first one second other named apart
    by_contra different
    exact agreeing.agreed first one second other ⟨named, apart, different⟩
  · rintro event rest deciding ⟨other, listed, conflict⟩ faults
    rcases (agreeing.reading event rest deciding).2.execute Steady.refl faults with
      ⟨-, peaceful⟩ | rejected
    · exact absurd conflict (peaceful other listed)
    · exact rejected

end Agreement
end Federation

/-- Clusters `a` and `b` have services of different ports under one name. -/
def exampleConflicts : Fleet := fun cluster =>
  let service := (exampleEvent "a" []).service
  { ApiServer.empty with
    services := fun name =>
      if name = ⟨"default", "web"⟩ then
        some (if cluster = (exampleConfig "b").key then { service with ports := [] } else service)
      else none }

namespace Federation

/-- The export of cluster `b` is decided after the import of the accepted export exists, and its
decision ends with its rejection. -/
theorem run_accepted_agree_sequential :
    ∃ final, (machine examplePlane).run (initial exampleConflicts) (exampleAccepted ++
        [.deliver 0 .stored fun _ => .stored, .advance 0 none .stored, .advance 0 none .stored,
          .exportAdd (exampleConfig "b").key (exampleEvent "b" [⟨80, "/b"⟩]).serviceExport none,
          .deliver 0 .stored fun _ => .stored, .decide none]) = some final ∧
      ∃ event rest, final.deciding = some (event, rest) ∧ ∃ error,
        (Api.execute rest (fun _ => none) final.fleet).1 = rejectServiceExport event error :=
  ⟨_, rfl, _, _, rfl, (run_accepted_agree examplePlane exampleConflicts (exampleAccepted ++
    [.deliver 0 .stored fun _ => .stored, .advance 0 none .stored, .advance 0 none .stored,
      .exportAdd (exampleConfig "b").key (exampleEvent "b" [⟨80, "/b"⟩]).serviceExport none,
      .deliver 0 .stored fun _ => .stored, .decide none]) _ (by decide +kernel) rfl).2 _ _ rfl
    ⟨_, List.mem_cons_self, by decide +kernel⟩ fun _ => none⟩

/-- Both exports are decided before any import exists, and both are accepted. -/
theorem run_accepts_conflict :
    ∃ final, (machine examplePlane).run (initial exampleConflicts)
        ([.exportAdd (exampleConfig "b").key (exampleEvent "b" [⟨80, "/b"⟩]).serviceExport none,
          .deliver 0 .stored fun _ => .stored, .decide none, .decide none,
          .exportAdd (exampleConfig "a").key (exampleEvent "a" [⟨80, "/a"⟩]).serviceExport none,
          .deliver 1 .stored fun _ => .stored, .decide none, .decide none]) = some final ∧
      ∃ first ∈ final.accepted, ∃ second ∈ final.accepted, Conflicting first second :=
  ⟨_, rfl, _, List.mem_cons_self, _, List.mem_cons_of_mem _ List.mem_cons_self, by decide +kernel⟩

end Federation
end ErieCanal.Cluster
