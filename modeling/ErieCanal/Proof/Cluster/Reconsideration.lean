import ErieCanal.Proof.Cluster.Agreement

namespace ErieCanal.Cluster
open Lib Lib.Program Kube Event SvcExp

/-- A cluster decides on exports when it is not managed or is its own control plane. -/
def ControlPlane.Controls (plane : ControlPlane) : Prop :=
  ¬ (plane.mesh.isManaged ∧ plane.mesh.controlPlaneUID ≠ "" ∧
    plane.mesh.uid ≠ plane.mesh.controlPlaneUID)

/-- The service of the event agrees with the services of its name in all other remote clusters. -/
def AgreesWith (backgrounds : List Background) (event : ServiceExportEvent) (fleet : Fleet) :
    Prop :=
  ∀ bg ∈ backgrounds, bg.isInCluster = false → bg.clusterKey ≠ event.clusterKey →
    ∀ svc ∈ (fleet bg.clusterKey).services event.serviceExport.key, SameSpec event.service svc

instance ControlPlane.decidableControls (plane : ControlPlane) : Decidable plane.Controls :=
  inferInstanceAs (Decidable (¬ _))

instance decidableAgreesWith (backgrounds : List Background) (event : ServiceExportEvent)
    (fleet : Fleet) : Decidable (AgreesWith backgrounds event fleet) :=
  inferInstanceAs (Decidable (∀ bg ∈ backgrounds, bg.isInCluster = false →
    bg.clusterKey ≠ event.clusterKey →
    ∀ svc ∈ (fleet bg.clusterKey).services event.serviceExport.key,
      event.service.type = svc.type ∧ event.service.ports = svc.ports))

section Agreeing
variable (condition : Fleet → Prop)

theorem isFirstTimeExport_returns (svcExp : ServiceExport) (backgrounds : List Background) :
    Returns Fleet.serve none condition (fun _ => True)
      (isFirstTimeExport svcExp backgrounds) backgrounds.length := by
  induction backgrounds with
  | nil => trivial
  | cons bg rest ih =>
      rw [isFirstTimeExport, List.length_cons]
      split
      · exact ih.weaken (by omega) fun _ held => held
      · rw [Nat.add_comm]
        apply Returns.bind
        intro state _
        rcases state.serve_getServiceImport bg.connector.context.clusterKey none svcExp.key with
          ⟨message, missed⟩ | ⟨-, missed⟩ | ⟨imp, -, read⟩
        · rw [missed]
          trivial
        · rw [missed]
          exact ih
        · rw [read]
          trivial

/-- A service that agrees is valid. -/
theorem validateServiceExport_returns (c : RemoteConnector) (svcExp : ServiceExport)
    (service : CoreV1.Service)
    (agrees : ∀ fleet, condition fleet →
      ∀ svc ∈ (fleet c.context.clusterKey).services svcExp.key, SameSpec service svc) :
    Returns Fleet.serve none condition (· = .ok ())
      (c.validateServiceExport svcExp service) 1 := by
  intro state met
  rcases state.serve_getService c.context.clusterKey none svcExp.key with
    ⟨message, faulty, -⟩ | ⟨-, missed⟩ | ⟨svc, found, read⟩
  · cases faulty
  · rw [missed]
    rfl
  · have same := agrees state met svc found
    rw [read]
    simp only [done_bind, same.1, same.2, ne_eq, not_true_eq_false, if_false]
    rfl

theorem isValidServiceExport_returns (event : ServiceExportEvent) (backgrounds : List Background)
    (agrees : ∀ fleet, condition fleet → AgreesWith backgrounds event fleet) :
    Returns Fleet.serve none condition (· = .ok ())
      (isValidServiceExport event backgrounds) backgrounds.length := by
  induction backgrounds with
  | nil => rfl
  | cons bg rest ih =>
      have later := ih fun fleet met other member =>
        agrees fleet met other (List.mem_cons_of_mem _ member)
      rw [isValidServiceExport, List.length_cons]
      split
      · exact later.weaken (by omega) fun _ held => held
      · next remote =>
          split
          · exact later.weaken (by omega) fun _ held => held
          · next foreign =>
              rw [Nat.add_comm]
              apply Returns.bind
              refine (validateServiceExport_returns condition bg.connector event.serviceExport
                event.service fun fleet met =>
                  agrees fleet met bg List.mem_cons_self (by simpa using remote) foreign).weaken
                (Nat.le_refl 1) ?_
              intro answer valid
              rw [valid]
              exact later

/-- An export that agrees is accepted. -/
theorem processServiceExportCreatedEvent_returns (range : RangeOrder Background)
    (backgrounds : List Background) (event : ServiceExportEvent) :
    Returns Fleet.serve none (AgreesWith backgrounds event) (· = acceptServiceExport event)
      (processServiceExportCreatedEvent range backgrounds event)
      (backgrounds.length + backgrounds.length) := by
  have first := isFirstTimeExport_returns (AgreesWith backgrounds event) event.serviceExport
    (range.order 0 backgrounds)
  have valid := isValidServiceExport_returns (AgreesWith backgrounds event) event
    (range.order 1 backgrounds) fun fleet agrees bg member =>
      agrees bg ((range.mem_order _ _ _).mp member)
  rw [(range.perm 0 backgrounds).length_eq] at first
  rw [(range.perm 1 backgrounds).length_eq] at valid
  apply Returns.bind
  refine first.weaken (Nat.le_refl _) fun answer _ => ?_
  cases answer with
  | true => rfl
  | false =>
      change Returns _ _ _ _ _ (backgrounds.length + 0)
      apply Returns.bind
      refine valid.weaken (Nat.le_refl _) fun answer accepted => ?_
      rw [accepted]
      rfl

end Agreeing

/-- The control plane ignores an export in conflict and decides on any other valid export. -/
theorem ControlPlane.created_of_valid {plane : ControlPlane} (controls : plane.Controls)
    {event : ServiceExportEvent} {message : Message} (carried : message.newObj = some event)
    (valid : ¬ Conditions.isStatusConditionFalse event.serviceExport.conditions serviceExportValid) :
    plane.created message =
      if Conditions.isStatusConditionTrue event.serviceExport.conditions serviceExportConflict then
        none
      else some event := by
  rw [ControlPlane.created, if_neg controls, carried]
  by_cases conflict : Conditions.isStatusConditionTrue event.serviceExport.conditions
      serviceExportConflict = true
  · simp [Option.filter, conflict]
  · simp [Option.filter, valid, conflict]

/-- The call of a decision does not fail. -/
def FederationStep.ReadsWell : FederationStep → Prop
  | .decide fault => fault = none
  | _ => True

def FederationStep.decides : FederationStep → Bool
  | .decide _ => true
  | _ => false

namespace Federation

/-- The decision on the event is being taken, the services agree, and no read of it fails. -/
def Handles (plane : ControlPlane) (event : ServiceExportEvent) (federation : Federation)
    (step : FederationStep) : Prop :=
  federation.deciding.map Prod.fst = some event ∧
    AgreesWith (GoMap.values plane.backgrounds) event federation.fleet ∧ step.ReadsWell

instance decidableHandles (plane : ControlPlane) (event : ServiceExportEvent)
    (federation : Federation) : (step : FederationStep) →
    Decidable (federation.Handles plane event step)
  | .decide fault => inferInstanceAs (Decidable (_ = _ ∧ AgreesWith _ _ _ ∧ fault = none))
  | .serviceWritten .. | .exportWritten .. | .exportAdd .. | .exportUpdate .. | .exportDelete ..
  | .deliver .. | .advance .. => inferInstanceAs (Decidable (_ = _ ∧ AgreesWith _ _ _ ∧ True))

section Handling
variable {plane : ControlPlane} {event : ServiceExportEvent} {accepted : List ServiceExportEvent}

/-- The decision on the event accepts it after at most so many calls. -/
def Accepting (plane : ControlPlane) (event : ServiceExportEvent)
    (accepted : List ServiceExportEvent) (federation : Federation) (calls : Nat) : Prop :=
  federation.accepted = accepted ∧ ∃ request next,
    federation.deciding = some (event, .call request next) ∧
      Returns Fleet.serve none (AgreesWith (GoMap.values plane.backgrounds) event)
        (· = acceptServiceExport event) (.call request next) calls

/-- The decision on the event has enqueued its acceptance last. -/
structure Accepts (event : ServiceExportEvent) (accepted : List ServiceExportEvent)
    (federation : Federation) : Prop where
  ended : federation.deciding = none
  enqueued : federation.queue.getLast? = some (acceptServiceExport event)
  logged : federation.accepted = accepted ++ [event]

theorem conclude_accepting {federation : Federation} {program : Api Message} {calls : Nat}
    (log : federation.accepted = accepted)
    (returns : Returns Fleet.serve none (AgreesWith (GoMap.values plane.backgrounds) event)
      (· = acceptServiceExport event) program calls) :
    (conclude federation event program).Accepting plane event accepted calls ∨
      (conclude federation event program).Accepts event accepted := by
  cases program with
  | call request next => exact Or.inl ⟨log, request, next, rfl, returns⟩
  | done message =>
      have accept : message = acceptServiceExport event := returns
      subst accept log
      exact Or.inr ⟨rfl, List.getLast?_concat, rfl⟩

/-- Only the calls of the decision change it. -/
theorem Accepting.step {federation next : Federation} {step : FederationStep} {calls : Nat}
    (accepting : federation.Accepting plane event accepted calls)
    (handles : federation.Handles plane event step)
    (stepped : (machine plane).step federation step = some next) :
    next.Accepting plane event accepted (calls - [step].countP FederationStep.decides) ∨
      next.Accepts event accepted := by
  obtain ⟨log, request, rest, deciding, returns⟩ := accepting
  cases step_moves stepped with
  | considered index order ranges found created idle chosen =>
      rw [deciding] at idle
      cases idle
  | decide fault taken =>
      have same := deciding.symm.trans taken
      simp only [Option.some.injEq, Prod.mk.injEq, Program.call.injEq] at same
      obtain ⟨rfl, rfl, continued⟩ := same
      obtain rfl := eq_of_heq continued
      obtain rfl : fault = none := handles.2.2
      cases calls with
      | zero => exact returns.elim
      | succ calls => exact conclude_accepting log (returns federation.fleet handles.2.1)
  | _ => exact Or.inl ⟨log, request, rest, deciding, returns⟩

/-- The handling of the event has no step after its decision. -/
theorem Accepts.run {federation final : Federation} {steps : List FederationStep}
    (accepts : federation.Accepts event accepted)
    (handled : (machine plane).Guarded (Handles plane event) federation steps)
    (reached : (machine plane).run federation steps = some final) :
    final.Accepts event accepted := by
  cases steps with
  | nil =>
      rw [Machine.run_nil, Option.some.injEq] at reached
      exact reached ▸ accepts
  | cons step rest =>
      have deciding := handled.1.1
      rw [accepts.ended] at deciding
      cases deciding

/-- The handling of the event goes on or ends with its acceptance. -/
theorem Accepting.run {federation final : Federation} {steps : List FederationStep} {calls : Nat}
    (accepting : federation.Accepting plane event accepted calls)
    (handled : (machine plane).Guarded (Handles plane event) federation steps)
    (reached : (machine plane).run federation steps = some final) :
    final.Accepting plane event accepted (calls - steps.countP FederationStep.decides) ∨
      final.Accepts event accepted := by
  induction steps generalizing federation calls with
  | nil =>
      rw [Machine.run_nil, Option.some.injEq] at reached
      subst reached
      exact Or.inl accepting
  | cons step rest ih =>
      obtain ⟨next, stepped, continued⟩ := ((machine plane).run_cons_eq_some _ _ _ _).mp reached
      have later := handled.2 next stepped
      rcases accepting.step handled.1 stepped with going | accepts
      · have ended := ih going later continued
        rwa [Nat.sub_sub, ← List.countP_append, List.singleton_append] at ended
      · exact Or.inr (accepts.run later continued)

/-- A delivered message in conflict is ignored, and any other valid one is decided. -/
theorem deliver_created {queued delivered : Federation} {index : Nat} {message : Message}
    {order : RangeOrder Background} {ranges : RemoteConnector → RangeOrder SvcImp.Endpoint}
    (controls : plane.Controls) (picked : queued.queue[index]? = some message)
    (created : message.kind = .serviceExportCreated) (carried : message.newObj = some event)
    (valid : ¬ Conditions.isStatusConditionFalse event.serviceExport.conditions serviceExportValid)
    (delivers : (machine plane).step queued (.deliver index order ranges) = some delivered) :
    delivered =
      if Conditions.isStatusConditionTrue event.serviceExport.conditions serviceExportConflict then
        { queued with queue := queued.queue.eraseIdx index }
      else conclude { queued with queue := queued.queue.eraseIdx index } event
        (processServiceExportCreatedEvent order (GoMap.values plane.backgrounds) event) := by
  simp only [machine, picked, deliver, created, plane.created_of_valid controls carried valid]
    at delivers
  cases idle : queued.deciding with
  | some taken => simp [idle] at delivers
  | none =>
      rw [idle] at delivers
      by_cases conflict : Conditions.isStatusConditionTrue event.serviceExport.conditions
          serviceExportConflict = true
      · simp only [conflict, if_true, Option.some.injEq] at delivers ⊢
        exact delivers.symm
      · simp only [conflict, Bool.false_eq_true, if_false, Option.some.injEq] at delivers ⊢
        exact delivers.symm

/-- A changed export of a managed cluster is announced with its service. -/
theorem exportUpdate_enqueues {federation next : Federation} {cluster : String} {bg : Background}
    {oldExport svcExp : ServiceExport} {svc : CoreV1.Service}
    (reports : plane.reporter cluster = some bg) (managed : bg.isManaged = true)
    (known : federation.informers cluster svcExp.key = some oldExport)
    (newer : svcExp.resourceVersion ≠ oldExport.resourceVersion)
    (present : (federation.fleet cluster).services svcExp.key = some svc)
    (exportable : svc.type ≠ .externalName)
    (stepped : (machine plane).step federation (.exportUpdate cluster svcExp none) = some next) :
    next.queue = federation.queue ++
      [⟨.serviceExportCreated, none, some (bg.exportEvent svcExp svc)⟩] := by
  have own := plane.keyed cluster bg (plane.reporter_eq_some reports).1
  simp only [machine, reports, known, Option.some.injEq] at stepped
  subst stepped
  rw [report, Background.onServiceExportUpdate, if_neg newer.symm, Background.onUpdate,
    Background.announce_execute managed, own, present]
  simp [Option.filter, exportable]

end Handling

/-- An export that was rejected before is updated, and the services of its name agree when it is
handled. It is ignored while its status is still in conflict, and accepted otherwise. -/
theorem run_reconsidered (plane : ControlPlane) (controls : plane.Controls) (cluster : String)
    (bg : Background) (reports : plane.reporter cluster = some bg) (managed : bg.isManaged = true)
    (before updated queued delivered final : Federation) (oldExport svcExp : ServiceExport)
    (known : before.informers cluster svcExp.key = some oldExport)
    (newer : svcExp.resourceVersion ≠ oldExport.resourceVersion) (svc : CoreV1.Service)
    (present : (before.fleet cluster).services svcExp.key = some svc)
    (exportable : svc.type ≠ .externalName)
    (valid : ¬ Conditions.isStatusConditionFalse svcExp.conditions serviceExportValid)
    (updates : (machine plane).step before (.exportUpdate cluster svcExp none) = some updated)
    (index : Nat) (order : RangeOrder Background)
    (ranges : RemoteConnector → RangeOrder SvcImp.Endpoint)
    (picked : queued.queue[index]? =
      some ⟨.serviceExportCreated, none, some (bg.exportEvent svcExp svc)⟩)
    (delivers : (machine plane).step queued (.deliver index order ranges) = some delivered)
    (handling : List FederationStep)
    (handled : (machine plane).Guarded (Handles plane (bg.exportEvent svcExp svc)) delivered
      handling)
    (reached : (machine plane).run delivered handling = some final) :
    updated.queue = before.queue ++
        [⟨.serviceExportCreated, none, some (bg.exportEvent svcExp svc)⟩] ∧
      if Conditions.isStatusConditionTrue svcExp.conditions serviceExportConflict then
        delivered = { queued with queue := queued.queue.eraseIdx index }
      else
        (final.deciding.map Prod.fst = some (bg.exportEvent svcExp svc) ∧
          ((machine plane).step final (.decide none)).isSome ∧
          handling.countP FederationStep.decides < 2 * (GoMap.values plane.backgrounds).length) ∨
        final.Accepts (bg.exportEvent svcExp svc) queued.accepted := by
  refine ⟨exportUpdate_enqueues reports managed known newer present exportable updates, ?_⟩
  have taken := deliver_created controls picked rfl rfl valid delivers
  change delivered =
    if Conditions.isStatusConditionTrue svcExp.conditions serviceExportConflict then _ else _ at taken
  by_cases conflict : Conditions.isStatusConditionTrue svcExp.conditions serviceExportConflict
  · rw [if_pos conflict] at taken ⊢
    exact taken
  · rw [if_neg conflict] at taken ⊢
    have returns := processServiceExportCreatedEvent_returns order
      (GoMap.values plane.backgrounds) (bg.exportEvent svcExp svc)
    rw [← Nat.two_mul] at returns
    have begun := @conclude_accepting plane _ queued.accepted
      { queued with queue := queued.queue.eraseIdx index } _ _ rfl returns
    rw [← taken] at begun
    have ended : final.Accepting plane (bg.exportEvent svcExp svc) queued.accepted
        (2 * (GoMap.values plane.backgrounds).length - handling.countP FederationStep.decides) ∨
        final.Accepts (bg.exportEvent svcExp svc) queued.accepted := by
      rcases begun with accepting | accepts
      · exact accepting.run handled reached
      · exact Or.inr (accepts.run handled reached)
    rcases ended with ⟨-, request, next, deciding, returns⟩ | accepts
    · refine Or.inl ⟨by rw [deciding]; rfl, by simp [machine, decide, deciding], ?_⟩
      by_contra exhausted
      rw [Nat.sub_eq_zero_of_le (Nat.not_lt.mp exhausted)] at returns
      exact returns
    · exact Or.inr accepts

end Federation

/-- Cluster `b` exports port 80. -/
def exampleExport (resourceVersion : Nat) (conditions : List Condition) : ServiceExport :=
  { (exampleEvent "b" [⟨80, "/b"⟩]).serviceExport with resourceVersion, conditions }

/-- The export of cluster `b` conflicts with the one of cluster `a` and is rejected, its connector
records the conflict, and then the service of cluster `b` is made to agree. -/
def exampleRejected : List FederationStep :=
  exampleAccepted ++
    [.deliver 0 .stored fun _ => .stored, .advance 0 none .stored, .advance 0 none .stored,
      .advance 0 none .stored,
      .exportWritten (exampleConfig "b").key ⟨"default", "web"⟩ (some (exampleExport 1 [])),
      .exportAdd (exampleConfig "b").key (exampleExport 1 []) none,
      .deliver 0 .stored fun _ => .stored, .decide none, .decide none,
      .deliver 0 .stored fun _ => .stored, .advance 0 none .stored, .advance 0 none .stored,
      .serviceWritten (exampleConfig "b").key ⟨"default", "web"⟩
        (some (exampleEvent "a" []).service)]

namespace Federation

/-- The conflict is taken out of the status, and the rejected export is accepted. -/
theorem run_reconsidered_cleared :
    ∃ rejected updated delivered final,
      (machine examplePlane).run (initial exampleConflicts) exampleRejected = some rejected ∧
      (machine examplePlane).step rejected
        (.exportUpdate (exampleConfig "b").key (exampleExport 3 []) none) = some updated ∧
      (machine examplePlane).step updated (.deliver 0 .stored fun _ => .stored) = some delivered ∧
      (machine examplePlane).run delivered [.decide none, .decide none] = some final ∧
      final.Accepts ((exampleBackground "b").exportEvent (exampleExport 3 [])
        (exampleEvent "a" []).service) updated.accepted := by
  have runs : ∃ rejected updated delivered final,
      (machine examplePlane).run (initial exampleConflicts) exampleRejected = some rejected ∧
      (machine examplePlane).step rejected
        (.exportUpdate (exampleConfig "b").key (exampleExport 3 []) none) = some updated ∧
      (machine examplePlane).step updated (.deliver 0 .stored fun _ => .stored) = some delivered ∧
      (machine examplePlane).run delivered [.decide none, .decide none] = some final ∧
      rejected.informers (exampleConfig "b").key ⟨"default", "web"⟩ = some (exampleExport 1 []) ∧
      (rejected.fleet (exampleConfig "b").key).services ⟨"default", "web"⟩ =
        some (exampleEvent "a" []).service ∧
      updated.queue[0]? = some ⟨.serviceExportCreated, none, some ((exampleBackground "b").exportEvent
        (exampleExport 3 []) (exampleEvent "a" []).service)⟩ ∧
      (machine examplePlane).Guarded (Handles examplePlane ((exampleBackground "b").exportEvent
        (exampleExport 3 []) (exampleEvent "a" []).service)) delivered
        [.decide none, .decide none] ∧ final.deciding.isNone :=
    ⟨_, _, _, _, rfl, rfl, rfl, rfl, rfl, rfl, rfl, by decide +kernel, rfl⟩
  obtain ⟨rejected, updated, delivered, final, reached, updates, delivers, ended, known, present,
    picked, handled, idle⟩ := runs
  have reconsidered := run_reconsidered examplePlane (by decide +kernel) (exampleConfig "b").key
    (exampleBackground "b") rfl rfl rejected updated updated delivered final (exampleExport 1 [])
    (exampleExport 3 []) known (by decide) (exampleEvent "a" []).service present (by decide)
    (by decide +kernel) updates 0 .stored (fun _ => .stored) picked delivers
    [.decide none, .decide none] handled ended
  rw [if_neg (by decide +kernel)] at reconsidered
  refine ⟨rejected, updated, delivered, final, reached, updates, delivers, ended, ?_⟩
  rcases reconsidered.2 with ⟨deciding, -⟩ | accepts
  · rw [Option.isNone_iff_eq_none.mp idle] at deciding
    cases deciding
  · exact accepts

/-- The services agree again, but an update of the rejected export is ignored because its status is
still in conflict; and a decision on a cleared status rejects it again when a read fails. -/
theorem run_rejection_lasts :
    ∃ rejected svcExp,
      (machine examplePlane).run (initial exampleConflicts) exampleRejected = some rejected ∧
      (rejected.fleet (exampleConfig "b").key).serviceExports ⟨"default", "web"⟩ = some svcExp ∧
      svcExp.resourceVersion ≠ 1 ∧
      ¬ Conditions.isStatusConditionFalse svcExp.conditions serviceExportValid ∧
      AgreesWith (GoMap.values examplePlane.backgrounds) ((exampleBackground "b").exportEvent svcExp
        (exampleEvent "a" []).service) rejected.fleet ∧
      (∃ final, (machine examplePlane).run rejected
          [.exportUpdate (exampleConfig "b").key svcExp none,
            .deliver 0 .stored fun _ => .stored] = some final ∧
        final.queue = [] ∧ final.deciding = none ∧ final.accepted = rejected.accepted) ∧
      ∃ final error, (machine examplePlane).run rejected
          [.exportUpdate (exampleConfig "b").key (exampleExport 3 []) none,
            .deliver 0 .stored fun _ => .stored, .decide none, .decide (some "timeout")] =
            some final ∧
        final.queue = [rejectServiceExport ((exampleBackground "b").exportEvent
          (exampleExport 3 []) (exampleEvent "a" []).service) error] :=
  ⟨_, _, rfl, rfl, by decide +kernel, by decide +kernel, by decide +kernel,
    ⟨_, rfl, rfl, rfl, rfl⟩, _, _, rfl, rfl⟩

end Federation
end ErieCanal.Cluster
