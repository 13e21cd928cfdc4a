import ErieCanal.Construction.Cluster.ClusterSet
import ErieCanal.Proof.Cluster.ConnectorLifecycle

namespace ErieCanal.Cluster
open Lib Lib.Program Kube Config ClusterV1

/-- This call sets the Managed condition to True. -/
def ManagerCall.reportsManaged : ManagerCall → Bool
  | .updateStatus cluster =>
      Conditions.isStatusConditionTrue cluster.conditions ClusterReconciler.clusterManaged
  | _ => false

def ManagerCall.startsRun : ManagerCall → Bool
  | .goRun .. => true
  | _ => false

section Programs
variable {A : Type}

/-- The program does not set the Managed condition to True. -/
def Unreporting : Reconciling A → Prop
  | .done _ => True
  | .call request next => request.reportsManaged = false ∧ ∀ answer, Unreporting (next answer)

/-- The program starts no further connector. -/
def StartsNone : Reconciling A → Prop
  | .done _ => True
  | .call request next => request.startsRun = false ∧ ∀ answer, StartsNone (next answer)

/-- Before the program sets the Managed condition to True, it asks for the error of the connector
that it has started last. -/
def Asks : Option Nat → Reconciling A → Prop
  | _, .done _ => True
  | _, .call (.goRun _ _ stopCh) next => ∀ answer, Asks (some stopCh) (next answer)
  | started, .call (.errorMsg stopCh) next =>
      started = some stopCh ∧ StartsNone (next none) ∧ ∀ error, Unreporting (next (some error))
  | started, .call (.updateStatus cluster) next =>
      (ManagerCall.updateStatus cluster).reportsManaged = false ∧
        ∀ answer, Asks started (next answer)
  | started, .call _ next => ∀ answer, Asks started (next answer)

end Programs

namespace ClusterReconciler

theorem joinClusterSet_startsNone (cluster : Cluster) (condition : Condition) :
    StartsNone (joinClusterSet cluster condition) := by
  refine ⟨rfl, fun answer => ?_⟩
  cases answer <;> trivial

theorem failedJoinClusterSet_unreporting (cluster : Cluster) (error : String) :
    Unreporting (failedJoinClusterSet cluster error) := by
  refine ⟨Conditions.isStatusConditionTrue_set _ _, fun answer => ?_⟩
  cases answer <;> trivial

theorem newConnector_asks (settings : Settings) (cluster : Cluster) (started : Option Nat) :
    Asks started (newConnector settings cluster) := by
  intro kubeConfig
  cases kubeConfig with
  | error error => trivial
  | ok _ =>
      cases made : connectorConfig settings cluster with
      | error error => trivial
      | ok connCfg =>
          intro stop connector
          cases connector with
          | error error => trivial
          | ok connector =>
              intro recorded running
              by_cases inCluster : cluster.spec.isInCluster = true
              · simp only [inCluster]
                trivial
              · simp only [inCluster]
                exact ⟨rfl, joinClusterSet_startsNone cluster _,
                  failedJoinClusterSet_unreporting cluster⟩

theorem recreateConnector_asks (settings : Settings) (bg : ConnectorBackground) (cluster : Cluster)
    (started : Option Nat) : Asks started (recreateConnector settings bg cluster) :=
  fun _ _ => newConnector_asks settings cluster started

theorem reconcile_asks (settings : Settings) (name : String) (started : Option Nat) :
    Asks started (reconcile settings name) := by
  intro found
  cases found with
  | error error =>
      cases error with
      | notFound =>
          intro entry
          cases entry with
          | none => trivial
          | some bg => exact fun _ _ => trivial
      | alreadyExists => trivial
      | conflict => trivial
      | other message => trivial
  | ok cluster =>
      intro services
      cases services with
      | error error => trivial
      | ok _ =>
          intro ingress
          cases ingress with
          | error error => trivial
          | ok _ =>
              intro entry
              cases entry with
              | none => exact newConnector_asks settings cluster started
              | some bg =>
                  simp only [done_bind]
                  split
                  · exact recreateConnector_asks settings bg cluster started
                  · trivial

end ClusterReconciler

/-- Another control plane manages the cluster of this mesh config. -/
def ManagedByOther (config : MeshConfig) (uid : String) : Prop :=
  config.isManaged = true ∧ config.controlPlaneUID ≠ "" ∧ config.controlPlaneUID ≠ uid

namespace JoinRun
variable {settings : MeshConfigClient.Settings} {client : Nat} {run : JoinRun}

/-- A join fails when the mesh config that it reads names another control plane. -/
structure Refuses (settings : MeshConfigClient.Settings) (client : Nat) (run : JoinRun) : Prop where
  remote : run.connectorCfg.inCluster = false
  unread : run.read = none →
    run.program = updateConfigsOfManagedCluster settings client run.connectorCfg ∨
      ∃ message, run.program = .done (.panicked message)
  refused : ∀ config, run.read = some config →
    ManagedByOther config run.connectorCfg.controlPlaneUID →
    ∃ outcome, run.program = .done outcome ∧ outcome ≠ .joined

/-- A join that has ended well has read a mesh config without another control plane. -/
def Joined (run : JoinRun) : Prop :=
  run.outcome = some .joined ∧ ∃ config, run.read = some config ∧
    ¬ ManagedByOther config run.connectorCfg.controlPlaneUID

theorem outcome_eq_some {outcome : JoinOutcome} :
    run.outcome = some outcome ↔ run.program = .done outcome := by
  rw [JoinRun.outcome]
  split
  · next ended => rw [ended]; simp
  · next request next calls => rw [calls]; simp

/-- A remote connector first reads the mesh config of its cluster. -/
theorem updateConfigsOfManagedCluster_eq {connectorCfg : ConnectorConfig}
    (remote : connectorCfg.inCluster = false) :
    ∃ next, updateConfigsOfManagedCluster settings client connectorCfg =
        .call (.getConfigMap client) next ∧
      (∃ message, next none = .done (.panicked message)) ∧
      ∀ cm, ManagedByOther cm.object connectorCfg.controlPlaneUID →
        ∃ outcome, next (some cm) = .done outcome ∧ outcome ≠ .joined := by
  rw [updateConfigsOfManagedCluster, if_neg (by simp [remote])]
  refine ⟨_, rfl, ⟨_, rfl⟩, ?_⟩
  rintro cm ⟨managed, named, other⟩
  simp only [pure_eq, done_bind, MeshConfigClient.parseMeshConfig]
  cases settings.validate cm.object with
  | some error => exact ⟨.panicked error, rfl, nofun⟩
  | none =>
      simp only [managed, named, other, ne_eq, not_false_eq_true, and_self, if_true]
      exact ⟨.failed _, rfl, nofun⟩

theorem Refuses.joined (refuses : run.Refuses settings client)
    (ended : run.outcome = some .joined) : run.Joined := by
  rw [outcome_eq_some] at ended
  refine ⟨outcome_eq_some.mpr ended, ?_⟩
  cases read : run.read with
  | none =>
      obtain ⟨next, calls, -⟩ :=
        @updateConfigsOfManagedCluster_eq settings client _ refuses.remote
      rcases refuses.unread read with begins | ⟨message, panicked⟩
      · cases ended.symm.trans (begins.trans calls)
      · cases ended.symm.trans panicked
  | some config =>
      refine ⟨config, rfl, fun other => ?_⟩
      obtain ⟨outcome, done, different⟩ := refuses.refused config read other
      cases ended.symm.trans done
      exact different rfl

/-- One call of a join keeps what it has read. -/
theorem Refuses.serve {connectorCfg : ConnectorConfig} {address : String}
    {read : Option MeshConfig} {request : MeshCall}
    {next : request.Answer → Joining JoinOutcome}
    (refuses : Refuses settings client ⟨connectorCfg, address, read, .call request next⟩)
    (cluster : ManagedCluster) (fault : Option String) :
    Refuses settings client ⟨connectorCfg, address,
      read.or (request.read (cluster.serve request fault).1),
      next (cluster.serve request fault).1⟩ := by
  obtain ⟨remote, unread, refused⟩ := refuses
  cases read with
  | some config =>
      refine ⟨remote, nofun, fun other same managed => ?_⟩
      obtain ⟨outcome, impossible, -⟩ := refused other same managed
      cases impossible
  | none =>
      obtain ⟨rest, begins, missing, taken⟩ :=
        @updateConfigsOfManagedCluster_eq settings client _ remote
      rcases unread rfl with calls | ⟨message, impossible⟩
      · have same := calls.trans begins
        rw [Program.call.injEq] at same
        obtain ⟨rfl, same⟩ := same
        obtain rfl := eq_of_heq same
        simp only [Option.none_or, ManagedCluster.serve, MeshCall.read]
        cases cluster.getConfigMap client fault with
        | none => exact ⟨remote, fun _ => Or.inr missing, fun _ impossible => by cases impossible⟩
        | some cm =>
            refine ⟨remote, (fun impossible => by cases impossible), fun config same managed => ?_⟩
            obtain rfl := Option.some.inj same
            exact taken cm managed
      · cases impossible

end JoinRun

namespace ManagerProcess
variable {process next : ManagerProcess}

/-- The reconciler is about to ask for the error of this connector. -/
def asks (process : ManagerProcess) : Option Nat :=
  match process.reconciling with
  | some ⟨_, _, .call (.errorMsg stopCh) _⟩ => some stopCh
  | _ => none

theorem advance_eq_some {fault : Option String} (advanced : process.advance fault = some next) :
    ∃ name began request rest, process.reconciling = some ⟨name, began, .call request rest⟩ ∧
      next = resume (process.manager.serve request fault).2 name began
        (rest (process.manager.serve request fault).1) := by
  obtain ⟨manager, reconciling⟩ := process
  cases reconciling with
  | none => cases advanced
  | some active =>
      obtain ⟨name, began, program⟩ := active
      cases program with
      | done value => cases advanced
      | call request rest => exact ⟨name, began, request, rest, rfl, (Option.some.inj advanced).symm⟩

/-- The program of a reconcile that goes on is the rest of it. -/
theorem program_of_resume {manager : Manager} {name : String} {began : Nat}
    {program : Reconciling (Except String Unit)} {active : ActiveReconcile}
    (running : (resume manager name began program).reconciling = some active) :
    active.program = program := by
  cases program with
  | done value => cases running
  | call request rest =>
      obtain rfl := Option.some.inj running
      rfl

/-- Every step but a call of the reconcile keeps the reconcile or begins one. -/
theorem reconciling_of_step {settings : ClusterReconciler.Settings} {step : ManagerStep}
    (idle : ∀ fault, step ≠ .advance fault)
    (stepped : (machine settings).step process step = some next) {active : ActiveReconcile}
    (running : next.reconciling = some active) :
    process.reconciling = some active ∨
      ∃ name, active.program = ClusterReconciler.reconcile settings name := by
  cases step with
  | apply cluster =>
      obtain ⟨store, -, rfl⟩ := Option.map_eq_some_iff.mp stepped
      exact Or.inl running
  | delete name =>
      obtain rfl := Option.some.inj stepped
      exact Or.inl running
  | reconcile name =>
      obtain ⟨manager, reconciling⟩ := process
      cases reconciling with
      | some active => cases stepped
      | none =>
          obtain rfl := Option.some.inj stepped
          exact Or.inr ⟨name, program_of_resume running⟩
  | advance fault => exact absurd rfl (idle fault)
  | runFails index error =>
      obtain ⟨manager, -, rfl⟩ := Option.map_eq_some_iff.mp stepped
      exact Or.inl running
  | cleanup index =>
      obtain ⟨manager, -, rfl⟩ := Option.map_eq_some_iff.mp stepped
      exact Or.inl running

end ManagerProcess

/-- A report holds when the join of its connector had ended well. -/
def ManagedReport.Holds (report : ManagedReport) : Prop :=
  ∃ run, report.join = some run ∧ run.Joined

namespace ClusterSet
variable {settings : Settings} {set next : ClusterSet} {request : ManagerCall}
  {fault : Option String}

/-- The join of this connector has returned, and an error of it has been noted. -/
def returned (set : ClusterSet) (stopCh : Nat) : Bool :=
  match (set.joins stopCh).bind JoinRun.outcome with
  | some .joined => true
  | some (.failed _) => (set.process.manager.serve (.errorMsg stopCh) none).1.isSome
  | _ => false

/-- The reconciler asks for the error of a connector only after its join has returned. -/
def AsksLate (set : ClusterSet) : ClusterSetStep → Prop
  | .manager (.advance _) => ∀ stopCh, set.process.asks = some stopCh → set.returned stopCh = true
  | _ => True

/-- The connector that was started last has joined its cluster. -/
def LastJoined (set : ClusterSet) : Prop :=
  ∃ stopCh run, set.started = some stopCh ∧ set.joins stopCh = some run ∧
    run.outcome = some .joined

/-- The rest of a reconcile is going to ask for the error, reports a connector that has joined, or
reports none. -/
def Reporting (set : ClusterSet) (program : Reconciling (Except String Unit)) : Prop :=
  Asks set.started program ∨ (set.LastJoined ∧ StartsNone program) ∨ Unreporting program

structure Truthful (settings : Settings) (set : ClusterSet) : Prop where
  made : ∀ stopCh context, set.connectors stopCh = some context → context.stopCh = stopCh
  joins : ∀ stopCh run, set.joins stopCh = some run → run.Refuses settings.meshConfig stopCh
  reporting : ∀ active, set.process.reconciling = some active → set.Reporting active.program
  reported : ∀ report ∈ set.reports, report.Holds

theorem truthful_new (settings : Settings) (remotes : String → ManagedCluster) :
    (new remotes).Truthful settings where
  made := fun _ _ made => nomatch made
  joins := fun _ _ joining => nomatch joining
  reporting := fun _ running => nomatch running
  reported := fun _ member => nomatch member

theorem beginJoin_refuses {context : ConnectorContext} {run : JoinRun}
    (begun : settings.beginJoin context = some run) :
    run.Refuses settings.meshConfig context.stopCh := by
  rw [Settings.beginJoin, newConnectorOf] at begun
  by_cases inCluster : context.connectorConfig.inCluster = true
  · simp only [inCluster] at begun
    cases begun
  · simp only [inCluster] at begun
    obtain rfl := Option.some.inj begun
    exact ⟨by simpa using inCluster, fun _ => Or.inl rfl, fun _ impossible => nomatch impossible⟩

/-- A join that has been told nothing of an error has ended well. -/
theorem joined_of_returned {stopCh : Nat} (returned : set.returned stopCh = true)
    (silent : (set.process.manager.serve (.errorMsg stopCh) fault).1 = none) :
    ∃ run, set.joins stopCh = some run ∧ run.outcome = some .joined := by
  rw [ClusterSet.returned] at returned
  split at returned
  · next ended => exact Option.bind_eq_some_iff.mp ended
  · next error failed =>
      have told : (set.process.manager.serve (.errorMsg stopCh) none).1 = none := silent
      rw [told] at returned
      cases returned
  · cases returned

theorem advance_eq_some (advanced : set.advance settings fault = some next) :
    ∃ name began request rest, set.process.reconciling = some ⟨name, began, .call request rest⟩ ∧
      next = { set.observe settings request fault with
        process := ManagerProcess.resume (set.process.manager.serve request fault).2 name began
          (rest (set.process.manager.serve request fault).1) } := by
  rw [ClusterSet.advance] at advanced
  split at advanced
  · next name began request rest running =>
      obtain ⟨process, moved, rfl⟩ := Option.map_eq_some_iff.mp advanced
      obtain ⟨name', began', request', rest', running', rfl⟩ :=
        ManagerProcess.advance_eq_some moved
      rw [running] at running'
      cases running'
      exact ⟨name, began, request, rest, running, rfl⟩
  · cases advanced

theorem update_eq_some {A B : Type} [DecidableEq A] {f : A → Option B} {changed query : A}
    {value : Option B} {found : B}
    (looked : Function.update f changed value query = some found) :
    (query = changed ∧ value = some found) ∨ f query = some found := by
  by_cases same : query = changed
  · rw [same, Function.update_self] at looked
    exact Or.inl ⟨same, looked⟩
  · rw [Function.update_of_ne same] at looked
    exact Or.inr looked

/-- Only the start of a goroutine changes the joins. -/
theorem observe_keeps (quiet : request.startsRun = false) (fault : Option String) :
    (set.observe settings request fault).started = set.started ∧
      (set.observe settings request fault).joins = set.joins := by
  cases request with
  | goRun name key stopCh => cases quiet
  | newConnector context =>
      rw [observe]
      split <;> exact ⟨rfl, rfl⟩
  | updateStatus cluster =>
      rw [observe]
      split <;> exact ⟨rfl, rfl⟩
  | _ => exact ⟨rfl, rfl⟩

theorem Asks.observe {rest : request.Answer → Reconciling (Except String Unit)}
    (asks : Asks set.started (.call request rest))
    (late : ∀ stopCh, request = .errorMsg stopCh → set.returned stopCh = true) :
    (set.observe settings request fault).Reporting
      (rest (set.process.manager.serve request fault).1) := by
  cases request with
  | goRun name key stopCh => exact Or.inl (asks _)
  | errorMsg stopCh =>
      obtain ⟨started, startsNone, unreporting⟩ := asks
      cases told : (set.process.manager.serve (.errorMsg stopCh) fault).1 with
      | none =>
          obtain ⟨run, joining, joined⟩ := joined_of_returned (late stopCh rfl) told
          exact Or.inr (Or.inl ⟨⟨stopCh, run, started, joining, joined⟩, startsNone⟩)
      | some error => exact Or.inr (Or.inr (unreporting error))
  | updateStatus cluster =>
      refine Or.inl ?_
      rw [(observe_keeps rfl fault).1]
      exact asks.2 _
  | newConnector context =>
      refine Or.inl ?_
      rw [(observe_keeps rfl fault).1]
      exact asks _
  | _ => exact Or.inl (asks _)

theorem Reporting.observe {rest : request.Answer → Reconciling (Except String Unit)}
    (reporting : set.Reporting (.call request rest))
    (late : ∀ stopCh, request = .errorMsg stopCh → set.returned stopCh = true) :
    (set.observe settings request fault).Reporting
      (rest (set.process.manager.serve request fault).1) := by
  rcases reporting with asks | ⟨joined, quiet, startsNone⟩ | ⟨-, unreporting⟩
  · exact Asks.observe asks late
  · obtain ⟨started, joins⟩ := @observe_keeps settings set _ quiet fault
    refine Or.inr (Or.inl ⟨?_, startsNone _⟩)
    rw [LastJoined, started, joins]
    exact joined
  · exact Or.inr (Or.inr (unreporting _))

/-- A report is made by a program that has been told of no error. -/
theorem Truthful.report (truthful : set.Truthful settings) {cluster : Cluster}
    {rest : (ManagerCall.updateStatus cluster).Answer → Reconciling (Except String Unit)}
    (reporting : set.Reporting (.call (.updateStatus cluster) rest))
    (reports : (ManagerCall.updateStatus cluster).reportsManaged = true) :
    ManagedReport.Holds ⟨set.started, set.started.bind set.joins⟩ := by
  rcases reporting with asks | ⟨⟨stopCh, run, started, joining, joined⟩, -⟩ | unreporting
  · cases reports.symm.trans asks.1
  · refine ⟨run, ?_, (truthful.joins stopCh run joining).joined joined⟩
    rw [started]
    exact joining
  · cases reports.symm.trans unreporting.1

theorem Truthful.observe (truthful : set.Truthful settings)
    {rest : request.Answer → Reconciling (Except String Unit)}
    (reporting : set.Reporting (.call request rest)) (fault : Option String) :
    (∀ stopCh context, (set.observe settings request fault).connectors stopCh = some context →
      context.stopCh = stopCh) ∧
    (∀ stopCh run, (set.observe settings request fault).joins stopCh = some run →
      run.Refuses settings.meshConfig stopCh) ∧
    ∀ report ∈ (set.observe settings request fault).reports, report.Holds := by
  have kept := And.intro truthful.made (And.intro truthful.joins truthful.reported)
  cases request with
  | newConnector context =>
      rw [ClusterSet.observe]
      split
      · refine ⟨fun stopCh other made => ?_, truthful.joins, truthful.reported⟩
        rcases update_eq_some made with ⟨rfl, same⟩ | old
        · rw [Option.some.inj same]
        · exact truthful.made stopCh other old
      · exact kept
  | goRun name key channel =>
      refine ⟨truthful.made, fun stopCh run joining => ?_, truthful.reported⟩
      rcases update_eq_some joining with ⟨rfl, new⟩ | old
      · obtain ⟨context, made, begun⟩ := Option.bind_eq_some_iff.mp new
        rw [← truthful.made stopCh context made]
        exact beginJoin_refuses begun
      · exact truthful.joins stopCh run old
  | updateStatus cluster =>
      rw [ClusterSet.observe]
      split
      · next sets =>
          refine ⟨truthful.made, truthful.joins, fun report member => ?_⟩
          rcases List.mem_append.mp member with old | new
          · exact truthful.reported report old
          · rw [List.mem_singleton.mp new]
            rw [setsManaged, Bool.and_eq_true] at sets
            exact truthful.report reporting sets.2
      · exact kept
  | _ => exact kept

theorem Truthful.advance (truthful : set.Truthful settings)
    (late : set.AsksLate (.manager (.advance fault)))
    (advanced : set.advance settings fault = some next) : next.Truthful settings := by
  obtain ⟨name, began, request, rest, running, rfl⟩ := advance_eq_some advanced
  have reporting := truthful.reporting _ running
  obtain ⟨made, joins, reported⟩ := truthful.observe reporting fault
  refine ⟨made, joins, fun active resumed => ?_, reported⟩
  rw [ManagerProcess.program_of_resume resumed]
  have asked (stopCh : Nat) (same : request = .errorMsg stopCh) : set.returned stopCh = true := by
    subst same
    apply late
    rw [ManagerProcess.asks, running]
  exact @Reporting.observe settings set request fault rest reporting asked

theorem Truthful.manage (truthful : set.Truthful settings) {step : ManagerStep}
    (idle : ∀ fault, step ≠ .advance fault) (managed : set.manage settings step = some next) :
    next.Truthful settings := by
  obtain ⟨process, stepped, rfl⟩ := Option.map_eq_some_iff.mp managed
  refine { truthful with reporting := fun active running => ?_ }
  rcases ManagerProcess.reconciling_of_step idle stepped running with before | ⟨name, begun⟩
  · exact truthful.reporting active before
  · rw [begun]
    exact Or.inl (ClusterReconciler.reconcile_asks _ name _)

/-- A join makes its next call. -/
theorem join_eq_some {stopCh : Nat} (joined : set.join stopCh fault = some next) :
    ∃ connectorCfg address read request rest,
      set.joins stopCh = some ⟨connectorCfg, address, read, .call request rest⟩ ∧
      next.process = set.process ∧ next.connectors = set.connectors ∧
      next.started = set.started ∧ next.reports = set.reports ∧
      next.joins = Function.update set.joins stopCh (some ⟨connectorCfg, address,
        read.or (request.read ((set.remotes address).serve request fault).1),
        rest ((set.remotes address).serve request fault).1⟩) := by
  rw [ClusterSet.join] at joined
  split at joined
  · next connectorCfg address read request rest joining =>
      obtain rfl := Option.some.inj joined
      exact ⟨connectorCfg, address, read, request, rest, joining, rfl, rfl, rfl, rfl, rfl⟩
  · cases joined

theorem Truthful.join (truthful : set.Truthful settings) {stopCh : Nat}
    (joined : set.join stopCh fault = some next) : next.Truthful settings := by
  obtain ⟨connectorCfg, address, read, request, rest, joining, process, connectors, started,
    reports, joins⟩ := join_eq_some joined
  refine ⟨by rw [connectors]; exact truthful.made, fun other run found => ?_,
    fun active running => ?_, by rw [reports]; exact truthful.reported⟩
  · rw [joins] at found
    rcases update_eq_some found with ⟨rfl, new⟩ | old
    · obtain rfl := Option.some.inj new
      exact (truthful.joins other _ joining).serve _ _
    · exact truthful.joins other run old
  · rw [process] at running
    rcases truthful.reporting active running with
      asks | ⟨⟨last, run, latest, found, ended⟩, startsNone⟩ | unreporting
    · exact Or.inl (started ▸ asks)
    · refine Or.inr (Or.inl ⟨⟨last, run, started ▸ latest, ?_, ended⟩, startsNone⟩)
      rw [joins, Function.update_of_ne, found]
      -- The join of a connector that has joined makes no further call.
      rintro rfl
      rw [joining, Option.some.injEq] at found
      rw [← found] at ended
      cases ended
    · exact Or.inr (Or.inr unreporting)

/-- A step is one of the reconciler and its goroutines, one of a join, or one of the remote
clusters. -/
theorem step_cases {step : ClusterSetStep} (stepped : (machine settings).step set step = some next) :
    (∃ fault, step = .manager (.advance fault) ∧ set.advance settings fault = some next) ∨
      (∃ managed, (∀ fault, managed ≠ .advance fault) ∧
        set.manage settings managed = some next) ∨
      (∃ stopCh fault, set.join stopCh fault = some next) ∨
      ∃ remotes, next = { set with remotes } := by
  simp only [machine] at stepped
  split at stepped
  · cases stepped
  · cases step with
    | manager step =>
        cases step with
        | advance fault => exact Or.inl ⟨fault, rfl, stepped⟩
        | runFails index error =>
            simp only at stepped
            split at stepped
            · exact Or.inr (Or.inl ⟨.runFails index error, nofun, stepped⟩)
            · cases stepped
        | apply cluster => exact Or.inr (Or.inl ⟨.apply cluster, nofun, stepped⟩)
        | delete name => exact Or.inr (Or.inl ⟨.delete name, nofun, stepped⟩)
        | reconcile name => exact Or.inr (Or.inl ⟨.reconcile name, nofun, stepped⟩)
        | cleanup index => exact Or.inr (Or.inl ⟨.cleanup index, nofun, stepped⟩)
    | join stopCh fault => exact Or.inr (Or.inr (Or.inl ⟨stopCh, fault, stepped⟩))
    | refresh address client =>
        exact Or.inr (Or.inr (Or.inr ⟨_, (Option.some.inj stepped).symm⟩))
    | others address config =>
        exact Or.inr (Or.inr (Or.inr ⟨_, (Option.some.inj stepped).symm⟩))

theorem Truthful.step (set : ClusterSet) (step : ClusterSetStep) (next : ClusterSet)
    (truthful : set.Truthful settings) (late : set.AsksLate step)
    (stepped : (machine settings).step set step = some next) : next.Truthful settings := by
  rcases step_cases stepped with ⟨fault, rfl, advanced⟩ | ⟨managed, idle, moved⟩ |
    ⟨stopCh, fault, joined⟩ | ⟨remotes, rfl⟩
  · exact truthful.advance late advanced
  · exact truthful.manage idle moved
  · exact truthful.join joined
  · exact { truthful with }

/-- The reconciler and its goroutines take steps of the manager process. -/
theorem run_refines {remotes : String → ManagedCluster} {steps : List ClusterSetStep}
    (reached : (machine settings).run (new remotes) steps = some set) :
    ∃ taken, (ManagerProcess.machine settings.reconciler).run .initial taken =
      some set.process := by
  let refines (set : ClusterSet) : Prop :=
    ∃ taken, (ManagerProcess.machine settings.reconciler).run .initial taken = some set.process
  have extend {set : ClusterSet} {process : ManagerProcess} (refined : refines set)
      (step : ManagerStep)
      (stepped : (ManagerProcess.machine settings.reconciler).step set.process step =
        some process) :
      ∃ taken, (ManagerProcess.machine settings.reconciler).run .initial taken = some process := by
    obtain ⟨taken, ran⟩ := refined
    refine ⟨taken ++ [step], (Machine.run_append_eq_some _ _ _ _ _).mpr ⟨_, ran, ?_⟩⟩
    exact (Machine.run_cons_eq_some _ _ _ _ _).mpr ⟨process, stepped, rfl⟩
  have start : refines (new remotes) := ⟨[], rfl⟩
  refine (machine settings).run_preserves (fun before step after refined stepped => ?_) start reached
  rcases step_cases stepped with ⟨fault, -, advanced⟩ | ⟨managed, -, moved⟩ |
    ⟨stopCh, fault, joined⟩ | ⟨remotes, rfl⟩
  · obtain ⟨name, began, request, rest, running, rfl⟩ := advance_eq_some advanced
    refine extend refined (.advance fault) ?_
    simp only [ManagerProcess.machine, ManagerProcess.advance, running]
  · obtain ⟨process, managing, rfl⟩ := Option.map_eq_some_iff.mp moved
    exact extend refined managed managing
  · obtain ⟨_, _, _, _, _, -, process, -⟩ := join_eq_some joined
    obtain ⟨taken, ran⟩ := refined
    exact ⟨taken, by rw [process, ran]⟩
  · exact refined

/-- The Managed condition is set to True only for a connector that has joined its cluster, when the
reconciler asks for the error after the join has returned. -/
theorem run_managed_joined {remotes : String → ManagedCluster} {steps : List ClusterSetStep}
    (late : (machine settings).Guarded AsksLate (new remotes) steps)
    (reached : (machine settings).run (new remotes) steps = some set) :
    ∀ report ∈ set.reports, report.Holds :=
  ((machine settings).run_invariant Truthful.step (truthful_new settings remotes) late
    reached).reported

instance (set : ClusterSet) : ∀ step, Decidable (set.AsksLate step)
  | .manager (.advance _) =>
      inferInstanceAs (Decidable (∀ stopCh ∈ set.process.asks, set.returned stopCh = true))
  | .manager (.apply _) | .manager (.delete _) | .manager (.reconcile _)
  | .manager (.runFails ..) | .manager (.cleanup _) | .join .. | .refresh .. | .others .. =>
      .isTrue trivial

/-- Every kubeconfig of these examples leads to one remote cluster. -/
def exampleSite : Settings := ⟨Manager.exampleSettings, ⟨"erie-canal", fun _ => none⟩, fun _ => ""⟩

/-- The remote cluster is managed by this control plane, or by none. -/
def exampleRemotes (controlPlaneUID : String) : String → ManagedCluster := fun _ => .ofConfig {
  isManaged := controlPlaneUID != "", region := "", zone := "", group := "", name := ""
  uid := "remote", controlPlaneUID }

/-- The reconcile of a new cluster makes so many calls without a fault. -/
def exampleCalls (calls : Nat) : List ClusterSetStep :=
  [.manager (.apply (Manager.exampleCluster "a" "default" 80)), .manager (.reconcile "a")] ++
    List.replicate calls (.manager (.advance none))

/-- The join returns before the reconciler asks for its error. -/
def exampleJoinFirst : List ClusterSetStep :=
  exampleCalls 9 ++ [.join 0 none, .join 0 none, .join 0 none, .manager (.advance none),
    .manager (.advance none)]

theorem run_managed_joined_first :
    ∃ final, (machine exampleSite).run (new (exampleRemotes "")) exampleJoinFirst = some final ∧
      final.reports.length = 1 ∧ ∀ report ∈ final.reports, report.Holds :=
  ⟨_, rfl, rfl, @run_managed_joined exampleSite _ (exampleRemotes "") exampleJoinFirst
    (by decide +kernel) rfl⟩

/-- The status is reported before the join has begun, and the join then finds that the cluster is
managed by another control plane. -/
theorem run_reports_unjoined :
    ∃ final, (machine exampleSite).run (new (exampleRemotes "other"))
        (exampleCalls 11 ++ [.join 0 none]) = some final ∧
      (∃ cluster, final.process.manager.store.clusters.lookup "a" = some cluster ∧
        Conditions.isStatusConditionTrue cluster.conditions ClusterReconciler.clusterManaged =
          true) ∧
      (∃ run error, final.joins 0 = some run ∧ run.outcome = some (.failed error)) ∧
      ∃ report ∈ final.reports, ¬ report.Holds := by
  refine ⟨_, rfl, ⟨_, rfl, rfl⟩, ⟨_, _, rfl, rfl⟩, _, List.mem_cons_self, ?_⟩
  rintro ⟨run, joining, joined, -⟩
  obtain rfl := Option.some.inj joining
  cases joined

end ClusterSet
end ErieCanal.Cluster
