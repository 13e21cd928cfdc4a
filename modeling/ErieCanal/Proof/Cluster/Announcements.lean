import ErieCanal.Proof.Cluster.Decisions

namespace ErieCanal.Cluster
open Lib Lib.Program Kube Event SvcExp

namespace Background

/-- An announcement carries the service that the cluster has, and comes from a managed cluster. -/
theorem mem_announce {bg : Background} {svcExp : ServiceExport}
    {message : ServiceExportEvent → Message} {fault : Option String} {fleet : Fleet}
    {announced : Message}
    (member : announced ∈ ((bg.announce svcExp message).execute (fun _ => fault) fleet).1) :
    bg.isManaged = true ∧ ∃ svc, (fleet bg.clusterKey).services svcExp.key = some svc ∧
      announced = message (bg.exportEvent svcExp svc) := by
  rw [announce] at member
  split at member
  · next managed =>
      refine ⟨managed, ?_⟩
      change announced ∈ (execute Fleet.serve
        (((bg.connector.ask (.getService svcExp.key)).bind _).bind _) (fun _ => fault) fleet).1 at member
      simp only [RemoteConnector.ask, Kube.ask, perform_bind, call_bind, execute] at member
      rcases fleet.serve_getService bg.connector.context.clusterKey fault svcExp.key with
        ⟨reason, -, missed⟩ | ⟨-, missed⟩ | ⟨svc, found, read⟩
      · rw [missed] at member
        cases member
      · rw [missed] at member
        cases member
      · rw [read] at member
        simp only at member
        split at member
        · cases member
        · exact ⟨svc, found, List.mem_singleton.mp member⟩
  · cases member

/-- A managed cluster whose calls succeed announces the exports of its exportable services. -/
theorem announce_execute {bg : Background} (managed : bg.isManaged = true) (fleet : Fleet)
    (svcExp : ServiceExport) (message : ServiceExportEvent → Message) :
    ((bg.announce svcExp message).execute (fun _ => none) fleet).1 =
      ((((fleet bg.clusterKey).services svcExp.key).filter fun svc =>
        svc.type ≠ .externalName).map fun svc => message (bg.exportEvent svcExp svc)).toList := by
  rw [announce, if_pos managed]
  change (execute Fleet.serve (((bg.connector.ask (.getService svcExp.key)).bind _).bind _)
    (fun _ => none) fleet).1 = _
  simp only [RemoteConnector.ask, Kube.ask, perform_bind, call_bind, execute]
  rcases fleet.serve_getService bg.connector.context.clusterKey none svcExp.key with
    ⟨reason, impossible, -⟩ | ⟨absent, missed⟩ | ⟨svc, found, read⟩
  · cases impossible
  · rw [missed, clusterKey, absent]
    rfl
  · rw [read, clusterKey, found]
    by_cases external : svc.type = .externalName <;> simp [external, execute, Option.filter]

/-- A managed cluster announces an export whose service it can read. -/
theorem announce_made {bg : Background} {svcExp : ServiceExport}
    {message : ServiceExportEvent → Message} {fleet : Fleet} {svc : CoreV1.Service}
    (managed : bg.isManaged = true)
    (found : (fleet bg.clusterKey).services svcExp.key = some svc)
    (exportable : svc.type ≠ .externalName) :
    message (bg.exportEvent svcExp svc) ∈
      ((bg.announce svcExp message).execute (fun _ => none) fleet).1 := by
  rw [announce_execute managed, found]
  simp [Option.filter, exportable]

end Background

/-- A reporting background is remote and stored under its cluster key. -/
theorem ControlPlane.reporter_eq_some {plane : ControlPlane} {cluster : String} {bg : Background}
    (found : plane.reporter cluster = some bg) :
    plane.backgrounds.lookup cluster = some bg ∧ bg.isInCluster = false := by
  simpa [ControlPlane.reporter, Option.filter_eq_some_iff] using found

theorem ControlPlane.exportEvent_clusterKey {plane : ControlPlane} {cluster : String}
    {bg : Background} (found : plane.reporter cluster = some bg) (svcExp : ServiceExport)
    (svc : CoreV1.Service) : (bg.exportEvent svcExp svc).clusterKey = cluster := by
  obtain ⟨stored, remote⟩ := plane.reporter_eq_some found
  exact plane.located cluster bg stored remote

/-- The control plane decides on the export that the message carries. -/
theorem ControlPlane.newObj_of_created {plane : ControlPlane} {message : Message}
    {event : ServiceExportEvent} (chosen : plane.created message = some event) :
    message.newObj = some event := by
  rw [ControlPlane.created] at chosen
  split at chosen
  · cases chosen
  · exact (Option.filter_eq_some_iff.mp chosen).1

/-- The subscribers are the connectors of the managed remote backgrounds. -/
theorem ControlPlane.mem_subscribers (plane : ControlPlane) (connector : RemoteConnector) :
    connector ∈ plane.subscribers ↔ ∃ bg, plane.reporter bg.clusterKey = some bg ∧
      bg.isManaged = true ∧ bg.connector = connector := by
  simp only [ControlPlane.subscribers, List.mem_map, List.mem_filter, GoMap.mem_values]
  constructor
  · rintro ⟨bg, ⟨⟨cluster, found⟩, chosen⟩, rfl⟩
    have own := plane.keyed cluster bg found
    simp only [Bool.and_eq_true, Bool.not_eq_true'] at chosen
    refine ⟨bg, ?_, chosen.2, rfl⟩
    rw [own, ControlPlane.reporter, found]
    simp [chosen.1]
  · rintro ⟨bg, found, managed, rfl⟩
    obtain ⟨stored, remote⟩ := plane.reporter_eq_some found
    exact ⟨bg, ⟨⟨_, stored⟩, by simp [remote, managed]⟩, rfl⟩

/-- A handler that was started makes a call of the program of its message. -/
theorem HandlerTag.mem_start {tag : HandlerTag} {handler : Handler} (member : handler ∈ tag.start) :
    handler.tag = tag ∧ tag.connector.handle tag.range tag.message = some handler.rest ∧
      ∃ request next, handler.rest = .call request next := by
  rw [HandlerTag.start] at member
  split at member
  · next request next handled =>
      obtain rfl := List.mem_singleton.mp member
      exact ⟨rfl, handled, request, next, rfl⟩
  · cases member
  · cases member

/-- A resumed handler goes on, or starts again with the same connector and message. -/
theorem HandlerTag.mem_resume {tag : HandlerTag} {range : RangeOrder SvcImp.Endpoint}
    {program : Api (Except ApiError Unit)} {handler : Handler}
    (member : handler ∈ tag.resume range program) :
    (handler = ⟨tag, program⟩ ∧ ∃ request next, program = .call request next) ∨
      ∃ error, program = .done (.error error) ∧ handler ∈ HandlerTag.start { tag with range } := by
  cases program with
  | call request next => exact Or.inl ⟨List.mem_singleton.mp member, request, next, rfl⟩
  | done answer =>
      cases answer with
      | ok value => cases member
      | error error => exact Or.inr ⟨error, rfl, member⟩

/-- A resumed handler works for the same connector and message. -/
theorem HandlerTag.resume_same {tag : HandlerTag} {range : RangeOrder SvcImp.Endpoint}
    {program : Api (Except ApiError Unit)} {handler : Handler}
    (member : handler ∈ tag.resume range program) :
    handler.tag.connector = tag.connector ∧ handler.tag.message = tag.message := by
  rcases HandlerTag.mem_resume member with ⟨rfl, -⟩ | ⟨error, -, begun⟩
  · exact ⟨rfl, rfl⟩
  · rw [(HandlerTag.mem_start begun).1]
    exact ⟨rfl, rfl⟩

namespace Federation
variable {federation next : Federation}

/-- A decision that goes on replaces the one that was being taken. -/
theorem conclude_idle (federation : Federation) (event : ServiceExportEvent)
    (program : Api Message) :
    conclude { federation with deciding := none } event program =
      conclude federation event program := by
  cases program <;> rfl

/-- A decision makes its next call. -/
theorem decide_eq_some {fault : Option String} (stepped : federation.decide fault = some next) :
    ∃ event request rest, federation.deciding = some (event, .call request rest) ∧
      next = conclude { federation with fleet := (federation.fleet.serve request fault).2 } event
        (rest (federation.fleet.serve request fault).1) := by
  rw [decide] at stepped
  split at stepped
  · next event request rest deciding =>
      exact ⟨event, request, rest, deciding, (Option.some.inj stepped).symm⟩
  · cases stepped

/-- A handler makes its next call. -/
theorem advance_eq_some {index : Nat} {fault : Option String} {range : RangeOrder SvcImp.Endpoint}
    (stepped : federation.advance index fault range = some next) :
    ∃ tag request rest, federation.handlers[index]? = some ⟨tag, .call request rest⟩ ∧
      next = { federation with
        fleet := (federation.fleet.serve request fault).2
        handlers := federation.handlers.eraseIdx index ++
          tag.resume range (rest (federation.fleet.serve request fault).1) } := by
  rw [advance] at stepped
  split at stepped
  · next tag request rest found =>
      exact ⟨tag, request, rest, found, (Option.some.inj stepped).symm⟩
  · cases stepped

/-- Everything that one step of the federation can do, with the conditions under which it does. -/
inductive Moves (plane : ControlPlane) (federation : Federation) :
    FederationStep → Federation → Prop
  | serviceWritten (cluster : String) (name : NamespacedName) (service : Option CoreV1.Service) :
      Moves plane federation (.serviceWritten cluster name service)
        (federation.writeService cluster name service)
  | exportWritten (cluster : String) (name : NamespacedName) (svcExp : Option ServiceExport) :
      Moves plane federation (.exportWritten cluster name svcExp)
        (federation.writeExport cluster name svcExp)
  | exportAdd (cluster : String) (svcExp : ServiceExport) (fault : Option String)
      {bg : Background} (found : plane.reporter cluster = some bg)
      (absent : federation.informers cluster svcExp.key = none) :
      Moves plane federation (.exportAdd cluster svcExp fault)
        (federation.report cluster svcExp.key (some svcExp) (bg.onUpdate svcExp) fault)
  | exportUpdate (cluster : String) (svcExp : ServiceExport) (fault : Option String)
      {bg : Background} {oldExport : ServiceExport} (announcement : Api (List Message))
      (found : plane.reporter cluster = some bg)
      (known : federation.informers cluster svcExp.key = some oldExport)
      (made : announcement = pure [] ∨ announcement = bg.onUpdate svcExp) :
      Moves plane federation (.exportUpdate cluster svcExp fault)
        (federation.report cluster svcExp.key (some svcExp) announcement fault)
  | exportDelete (cluster : String) (name : NamespacedName) (fault : Option String)
      {bg : Background} {svcExp : ServiceExport} (found : plane.reporter cluster = some bg)
      (known : federation.informers cluster name = some svcExp) :
      Moves plane federation (.exportDelete cluster name fault)
        (federation.report cluster name none (bg.onServiceExportDelete svcExp) fault)
  -- The reconciler drops a created export on which it does not decide.
  | dropped (index : Nat) (order : RangeOrder Background)
      (ranges : RemoteConnector → RangeOrder SvcImp.Endpoint) {message : Message}
      (found : federation.queue[index]? = some message)
      (created : message.kind = .serviceExportCreated) :
      Moves plane federation (.deliver index order ranges)
        { federation with queue := federation.queue.eraseIdx index }
  | considered (index : Nat) (order : RangeOrder Background)
      (ranges : RemoteConnector → RangeOrder SvcImp.Endpoint) {message : Message}
      {event : ServiceExportEvent} (found : federation.queue[index]? = some message)
      (created : message.kind = .serviceExportCreated) (idle : federation.deciding = none)
      (chosen : plane.created message = some event) :
      Moves plane federation (.deliver index order ranges)
        (conclude { federation with queue := federation.queue.eraseIdx index } event
          (processServiceExportCreatedEvent order (GoMap.values plane.backgrounds) event))
  | handed (index : Nat) (order : RangeOrder Background)
      (ranges : RemoteConnector → RangeOrder SvcImp.Endpoint) {message : Message}
      (found : federation.queue[index]? = some message)
      (decided : message.kind ≠ .serviceExportCreated) :
      Moves plane federation (.deliver index order ranges)
        { federation with
          queue := federation.queue.eraseIdx index
          handlers := federation.handlers ++ plane.subscribers.flatMap fun connector =>
            HandlerTag.start ⟨connector, message, ranges connector⟩ }
  | decide (fault : Option String) {event : ServiceExportEvent} {request : Request}
      {rest : Request.Answer request → Api Message}
      (deciding : federation.deciding = some (event, .call request rest)) :
      Moves plane federation (.decide fault)
        (conclude { federation with fleet := (federation.fleet.serve request fault).2 } event
          (rest (federation.fleet.serve request fault).1))
  | advance (index : Nat) (fault : Option String) (range : RangeOrder SvcImp.Endpoint)
      {tag : HandlerTag} {request : Request}
      {rest : Request.Answer request → Api (Except ApiError Unit)}
      (found : federation.handlers[index]? = some ⟨tag, .call request rest⟩) :
      Moves plane federation (.advance index fault range)
        { federation with
          fleet := (federation.fleet.serve request fault).2
          handlers := federation.handlers.eraseIdx index ++
            tag.resume range (rest (federation.fleet.serve request fault).1) }

/-- A delivered message is dropped, considered or handed to the subscribers. -/
theorem deliver_moves {plane : ControlPlane} {index : Nat} {message : Message}
    (found : federation.queue[index]? = some message) {order : RangeOrder Background}
    {ranges : RemoteConnector → RangeOrder SvcImp.Endpoint}
    (stepped : federation.deliver plane message (federation.queue.eraseIdx index) order ranges =
      some next) : Moves plane federation (.deliver index order ranges) next := by
  rw [Federation.deliver] at stepped
  split at stepped
  · next created =>
      split at stepped
      · cases stepped
      · obtain rfl := Option.some.inj stepped
        exact .dropped index order ranges found created
      · next event idle chosen =>
          obtain rfl := Option.some.inj stepped
          exact .considered index order ranges found created idle chosen
  · next decided =>
      obtain rfl := Option.some.inj stepped
      exact .handed index order ranges found decided

theorem step_moves {plane : ControlPlane} {step : FederationStep}
    (stepped : (machine plane).step federation step = some next) :
    Moves plane federation step next := by
  cases step with
  | serviceWritten cluster name service =>
      obtain rfl := Option.some.inj stepped
      exact .serviceWritten cluster name service
  | exportWritten cluster name svcExp =>
      obtain rfl := Option.some.inj stepped
      exact .exportWritten cluster name svcExp
  | exportAdd cluster svcExp fault =>
      simp only [machine] at stepped
      split at stepped
      · next bg found absent =>
          obtain rfl := Option.some.inj stepped
          exact .exportAdd cluster svcExp fault found absent
      · cases stepped
  | exportUpdate cluster svcExp fault =>
      simp only [machine] at stepped
      split at stepped
      · next bg oldExport found known =>
          obtain rfl := Option.some.inj stepped
          refine .exportUpdate cluster svcExp fault _ found known ?_
          rw [Background.onServiceExportUpdate]
          split
          · exact Or.inl rfl
          · exact Or.inr rfl
      · cases stepped
  | exportDelete cluster name fault =>
      simp only [machine] at stepped
      split at stepped
      · next bg svcExp found known =>
          obtain rfl := Option.some.inj stepped
          exact .exportDelete cluster name fault found known
      · cases stepped
  | deliver index order ranges =>
      simp only [machine] at stepped
      split at stepped
      · next message found => exact deliver_moves found stepped
      · cases stepped
  | decide fault =>
      obtain ⟨event, request, rest, deciding, rfl⟩ := decide_eq_some stepped
      exact .decide fault deciding
  | advance index fault range =>
      obtain ⟨tag, request, rest, found, rfl⟩ := advance_eq_some stepped
      exact .advance index fault range found

end Federation
end ErieCanal.Cluster
