import ErieCanal.Construction.Cluster.Federation
import ErieCanal.Proof.Kube.ImportCalls

namespace ErieCanal.Cluster
open Lib Lib.Program Kube Event SvcExp

/-- A decision only reads. -/
def Unchanged (before after : Fleet) : Prop := after = before

/-- The two services have the same type and the same ports. -/
def SameSpec (first second : CoreV1.Service) : Prop :=
  first.type = second.type ∧ first.ports = second.ports

section Decision
variable {rely : Fleet → Fleet → Prop} {before : Fleet → Prop}
  (stable : ∀ first second, before first → rely first second → before second)
include stable

/-- A missing import was missing in some state on the way. -/
theorem serviceImportExists_sound (c : RemoteConnector) (svcExp : ServiceExport) (fleet : Fleet)
    (start : before fleet) :
    Sound Fleet.serve rely Unchanged
      (fun answer final => before final ∧ (answer = false →
        ∃ state, before state ∧ (state c.context.clusterKey).serviceImports svcExp.key = none))
      (c.serviceImportExists svcExp) fleet := by
  intro current interfered fault
  have begun := stable _ _ start interfered
  rcases current.serve_getServiceImport c.context.clusterKey fault svcExp.key with
    ⟨message, missed⟩ | ⟨absent, missed⟩ | ⟨imp, -, read⟩
  · rw [missed]
    exact ⟨rfl, begun, fun absurd => nomatch absurd⟩
  · rw [missed]
    exact ⟨rfl, begun, fun _ => ⟨current, begun, absent⟩⟩
  · rw [read]
    exact ⟨rfl, begun, fun absurd => nomatch absurd⟩

/-- A valid export agrees with the service of the cluster in some state on the way. -/
theorem validateServiceExport_sound (c : RemoteConnector) (svcExp : ServiceExport)
    (service : CoreV1.Service) (fleet : Fleet) (start : before fleet) :
    Sound Fleet.serve rely Unchanged
      (fun answer final => before final ∧ (answer = .ok () →
        ∃ state, before state ∧ ∀ svc, (state c.context.clusterKey).services svcExp.key = some svc →
          SameSpec service svc))
      (c.validateServiceExport svcExp service) fleet := by
  intro current interfered fault
  have begun := stable _ _ start interfered
  rcases current.serve_getService c.context.clusterKey fault svcExp.key with
    ⟨message, -, missed⟩ | ⟨absent, missed⟩ | ⟨svc, found, read⟩
  · rw [missed]
    exact ⟨rfl, begun, fun absurd => nomatch absurd⟩
  · rw [missed]
    refine ⟨rfl, begun, fun _ => ⟨current, begun, fun svc found => ?_⟩⟩
    exact nomatch found.symm.trans absent
  · rw [read]
    refine ⟨rfl, ?_⟩
    simp only [done_bind]
    split
    · exact ⟨begun, fun absurd => nomatch absurd⟩
    · next type =>
        split
        · exact ⟨begun, fun absurd => nomatch absurd⟩
        · next ports =>
            refine ⟨begun, fun _ => ⟨current, begun, fun other held => ?_⟩⟩
            obtain rfl := Option.some.inj (found.symm.trans held)
            exact ⟨not_not.mp type, not_not.mp ports⟩

theorem isFirstTimeExport_sound (svcExp : ServiceExport) (backgrounds : List Background)
    (fleet : Fleet) (start : before fleet) :
    Sound Fleet.serve rely Unchanged
      (fun answer final => before final ∧ (answer = true → ∀ bg ∈ backgrounds,
        bg.isInCluster = false →
        ∃ state, before state ∧ (state bg.clusterKey).serviceImports svcExp.key = none))
      (isFirstTimeExport svcExp backgrounds) fleet := by
  induction backgrounds generalizing fleet with
  | nil => exact ⟨start, fun _ _ member => nomatch member⟩
  | cons bg rest ih =>
      rw [isFirstTimeExport]
      split
      · next inside =>
          refine Sound.weaken (fun _ _ kept => kept) ?_ (ih fleet start)
          rintro answer final ⟨held, absent⟩
          refine ⟨held, fun first other member remote => ?_⟩
          rcases List.mem_cons.mp member with rfl | later
          · rw [inside] at remote
            cases remote
          · exact absent first other later remote
      · apply Sound.bind
        refine Sound.weaken (fun _ _ kept => kept) ?_
          (serviceImportExists_sound stable bg.connector svcExp fleet start)
        rintro found middle ⟨begun, missing⟩
        cases found with
        | true => exact ⟨begun, fun absurd => nomatch absurd⟩
        | false =>
            refine Sound.weaken (fun _ _ kept => kept) ?_ (ih middle begun)
            rintro answer final ⟨held, absent⟩
            refine ⟨held, fun first other member remote => ?_⟩
            rcases List.mem_cons.mp member with rfl | later
            · exact missing rfl
            · exact absent first other later remote

theorem isValidServiceExport_sound (event : ServiceExportEvent) (backgrounds : List Background)
    (fleet : Fleet) (start : before fleet) :
    Sound Fleet.serve rely Unchanged
      (fun answer final => before final ∧ (answer = .ok () → ∀ bg ∈ backgrounds,
        bg.isInCluster = false → bg.clusterKey ≠ event.clusterKey →
        ∃ state, before state ∧
          ∀ svc, (state bg.clusterKey).services event.serviceExport.key = some svc →
            SameSpec event.service svc))
      (isValidServiceExport event backgrounds) fleet := by
  induction backgrounds generalizing fleet with
  | nil => exact ⟨start, fun _ _ member => nomatch member⟩
  | cons bg rest ih =>
      have skipped (skip : bg.isInCluster = false → bg.clusterKey = event.clusterKey) :
          Sound Fleet.serve rely Unchanged
            (fun answer final => before final ∧ (answer = .ok () → ∀ other ∈ bg :: rest,
              other.isInCluster = false → other.clusterKey ≠ event.clusterKey →
              ∃ state, before state ∧
                ∀ svc, (state other.clusterKey).services event.serviceExport.key = some svc →
                  SameSpec event.service svc))
            (isValidServiceExport event rest) fleet := by
        refine Sound.weaken (fun _ _ kept => kept) ?_ (ih fleet start)
        rintro answer final ⟨held, agreed⟩
        refine ⟨held, fun valid other member remote foreign => ?_⟩
        rcases List.mem_cons.mp member with rfl | later
        · exact absurd (skip remote) foreign
        · exact agreed valid other later remote foreign
      rw [isValidServiceExport]
      split
      · next inside => exact skipped fun remote => nomatch inside.symm.trans remote
      · split
        · next own => exact skipped fun _ => own
        · apply Sound.bind
          refine Sound.weaken (fun _ _ kept => kept) ?_
            (validateServiceExport_sound stable bg.connector event.serviceExport event.service fleet
              start)
          rintro answer middle ⟨begun, agrees⟩
          cases answer with
          | error error => exact ⟨begun, fun absurd => nomatch absurd⟩
          | ok value =>
              refine Sound.weaken (fun _ _ kept => kept) ?_ (ih middle begun)
              rintro answer final ⟨held, agreed⟩
              refine ⟨held, fun valid other member remote foreign => ?_⟩
              rcases List.mem_cons.mp member with rfl | later
              · exact agrees rfl
              · exact agreed valid other later remote foreign

/-- A decision accepts an export that no remote cluster had, or that agrees with every remote
service, and rejects it otherwise. -/
theorem processServiceExportCreatedEvent_sound (range : RangeOrder Background)
    (backgrounds : List Background) (event : ServiceExportEvent) (fleet : Fleet)
    (start : before fleet) :
    Sound Fleet.serve rely Unchanged
      (fun message _ =>
        message = acceptServiceExport event ∧
          ((∀ bg ∈ backgrounds, bg.isInCluster = false → ∃ state, before state ∧
            (state bg.clusterKey).serviceImports event.serviceExport.key = none) ∨
          ∀ bg ∈ backgrounds, bg.isInCluster = false → bg.clusterKey ≠ event.clusterKey →
            ∃ state, before state ∧
              ∀ svc, (state bg.clusterKey).services event.serviceExport.key = some svc →
                SameSpec event.service svc) ∨
        ∃ error, message = rejectServiceExport event error)
      (processServiceExportCreatedEvent range backgrounds event) fleet := by
  apply Sound.bind
  refine Sound.weaken (fun _ _ kept => kept) ?_
    (isFirstTimeExport_sound stable event.serviceExport (range.order 0 backgrounds) fleet start)
  rintro first middle ⟨begun, absent⟩
  cases first with
  | true =>
      refine Or.inl ⟨rfl, Or.inl fun bg member remote => ?_⟩
      exact absent rfl bg ((range.mem_order _ _ _).mpr member) remote
  | false =>
      apply Sound.bind
      refine Sound.weaken (fun _ _ kept => kept) ?_
        (isValidServiceExport_sound stable event (range.order 1 backgrounds) middle begun)
      rintro answer final ⟨-, agreed⟩
      cases answer with
      | error error => exact Or.inr ⟨error, rfl⟩
      | ok value =>
          refine Or.inl ⟨rfl, Or.inr fun bg member remote foreign => ?_⟩
          exact agreed rfl bg ((range.mem_order _ _ _).mpr member) remote foreign

end Decision

/-- Whatever happens meanwhile, a decision reads only and ends with its message. -/
theorem processServiceExportCreatedEvent_decides (range : RangeOrder Background)
    (backgrounds : List Background) (event : ServiceExportEvent) (fleet : Fleet) :
    Sound Fleet.serve (fun _ _ => True) Unchanged
      (fun message _ => message = acceptServiceExport event ∨
        ∃ error, message = rejectServiceExport event error)
      (processServiceExportCreatedEvent range backgrounds event) fleet := by
  refine Sound.weaken (fun _ _ kept => kept) ?_ (@processServiceExportCreatedEvent_sound
    (fun _ _ => True) (fun _ => True) (fun _ _ _ _ => trivial) range backgrounds event fleet trivial)
  rintro message final (⟨accepted, -⟩ | rejected)
  · exact Or.inl accepted
  · exact Or.inr rejected

end ErieCanal.Cluster
