import ErieCanal.Lib.Informer
import ErieCanal.Lib.Machine
import ErieCanal.Proof.Cluster.ImportConvergence
import ErieCanal.Proof.Cluster.WithdrawExact

namespace ErieCanal.Cluster
open Lib Lib.Program Kube Event SvcExp SvcImp

/-- A handler of a connector upserts or deletes the import of an export. -/
inductive ImportCall where
  | upsert (range : RangeOrder Endpoint) (event : ServiceExportEvent)
  | delete (event : ServiceExportEvent)

namespace ImportCall

def event : ImportCall → ServiceExportEvent
  | upsert _ event => event
  | delete event => event

def program (c : RemoteConnector) : ImportCall → Api (Except ApiError Unit)
  | upsert range event => c.upsertServiceImport range event
  | delete event => c.deleteServiceImport event

/-- The handlers of one connector succeed one after another; their API calls may fail as the fault
stream says. -/
def machine (c : RemoteConnector) : Machine Fleet (ImportCall × (Nat → Option String)) where
  step fleet attempt :=
    match (attempt.1.program c).execute attempt.2 fleet with
    | (.ok _, final) => some final
    | (.error _, _) => none

end ImportCall

/-- Port names are not used twice, and no cluster has one path twice on a port. -/
structure WellFormed (ports : List ServicePort) : Prop where
  names : (ports.map ServicePort.name).Nodup
  targets : ∀ p ∈ ports, (p.endpoints.map fun ep => (ep.clusterKey, ep.target.path)).Nodup

/-- Ports that the rules pick in turn are picked once when no two rules have the number of one. -/
theorem nodup_names_of_ruled_once {Port : Type} {name : Port → String} {number : Port → Int}
    {ports : List Port} {rules : List ServiceExportRule} (unique : (ports.map name).Nodup)
    (once : ∀ p ∈ ports, (rules.filter fun r => r.portNumber = number p).length ≤ 1) :
    (rules.flatMap fun r => (ports.filter fun p => r.portNumber = number p).map name).Nodup := by
  rw [List.nodup_flatMap]
  constructor
  · intro r member
    exact unique.sublist (List.filter_sublist.map name)
  · apply List.pairwise_of_forall_sublist
    intro first second pair shared inFirst inSecond
    obtain ⟨p, picked, rfl⟩ := List.mem_map.mp inFirst
    obtain ⟨q, again, same⟩ := List.mem_map.mp inSecond
    simp only [List.mem_filter, decide_eq_true_eq] at picked again
    obtain rfl := List.inj_on_of_nodup_map unique again.1 picked.1 same
    have both := (pair.filter fun r => r.portNumber = number q).length_le
    have one := once q picked.1
    simp [picked.2, again.2] at both
    omega

theorem newServiceImport_wellFormed {event : ServiceExportEvent}
    (unique : (event.service.ports.map CoreV1.ServicePort.name).Nodup)
    (once : ∀ p ∈ event.service.ports, (rulesOf event p.port).length ≤ 1) :
    WellFormed (newServiceImport event).ports := by
  constructor
  · have picked := nodup_names_of_ruled_once unique once
    simpa only [newServiceImport, List.map_flatMap, List.map_map, Function.comp_def,
      beq_eq_decide] using picked
  · intro p member
    obtain ⟨r, -, made⟩ := List.mem_flatMap.mp member
    obtain ⟨q, -, rfl⟩ := List.mem_map.mp made
    exact List.nodup_singleton _

/-- On a port with endpoints an upsert leaves one endpoint for each cluster. -/
theorem upsertEndpoints_clusters_nodup (event : ServiceExportEvent) (range : RangeOrder Endpoint)
    (idx : Nat) (p : ServicePort) (filled : p.endpoints ≠ []) :
    ((upsertEndpoints event range idx p).map Endpoint.clusterKey).Nodup := by
  rw [upsertEndpoints_of_filled event range idx p filled]
  have keyed : Notice.Keyed Endpoint.clusterKey
      ((rulesOf event p.port).foldl (copyAndInsert event p) ∅) := by
    intro query ep found
    rw [lookup_foldl_copyAndInsert, Option.bind_eq_some_iff] at found
    obtain ⟨r, -, chosen⟩ := found
    split at chosen
    · next own =>
        cases chosen
        exact own.symm
    · exact (endpointsOf_getLast_mem chosen).2
  exact ((range.perm idx _).map _).nodup_iff.mpr (keyed.nodup _)

theorem mergePorts_wellFormed {event : ServiceExportEvent} {range : RangeOrder Endpoint}
    {ports : List ServicePort} (known : WellFormed ports)
    (separate : ∀ p ∈ ports, p.endpoints = [] →
      ((rulesOf event p.port).map ServiceExportRule.path).Nodup) :
    WellFormed (mergePorts event range ports) := by
  constructor
  · have names : (mergePorts event range ports).map ServicePort.name =
        ((mergePorts event range ports).map portEntry).map ServicePort.name := by
      rw [List.map_map]
      rfl
    rw [names, mergePorts_entries, List.map_map]
    exact known.names
  · intro q member
    obtain ⟨idx, p, stored, rfl⟩ := mem_mergePorts member
    by_cases empty : p.endpoints = []
    · simp only [upsertEndpoints_of_empty event range idx p empty, List.map_map]
      refine List.Nodup.of_map Prod.snd ?_
      rw [List.map_map]
      exact separate p stored empty
    · refine List.Nodup.of_map Prod.fst ?_
      rw [List.map_map]
      exact upsertEndpoints_clusters_nodup event range idx p empty

theorem withdrawPorts_wellFormed {event : ServiceExportEvent} {imp : ServiceImport}
    (known : WellFormed imp.ports)
    (once : ∀ p ∈ imp.ports, (∃ ep ∈ p.endpoints, ep.clusterKey ≠ event.clusterKey) →
      (rulesOf event p.port).length ≤ 1) :
    WellFormed (withdrawPorts event imp) := by
  rw [withdrawPorts_eq]
  constructor
  · have unique : ((survivors event.clusterKey imp).map ServicePort.name).Nodup := by
      refine known.names.sublist ?_
      have names : imp.ports.map ServicePort.name =
          (imp.ports.map (stripPort event.clusterKey)).map ServicePort.name := by
        rw [List.map_map]
        rfl
      rw [names]
      exact List.filter_sublist.map _
    rw [List.map_flatMap]
    refine nodup_names_of_ruled_once unique fun q survived => ?_
    obtain ⟨p, member, rfl, filled⟩ := (mem_survivors _ _ _).mp survived
    exact once p member filled
  · intro q member
    obtain ⟨r, -, picked⟩ := List.mem_flatMap.mp member
    obtain ⟨p, stored, rfl, -⟩ := (mem_survivors _ _ _).mp (List.mem_filter.mp picked).1
    exact (known.targets p stored).sublist (List.filter_sublist.map _)

/-- A deletion without an import does nothing. -/
theorem deleteServiceImport_absent (c : RemoteConnector) (event : ServiceExportEvent)
    (foreign : event.clusterKey ≠ c.context.clusterKey) (fleet : Fleet)
    (absent : (fleet c.context.clusterKey).serviceImports event.serviceExport.key = none) :
    Ensures Fleet.serve (fun _ final =>
        (final c.context.clusterKey).serviceImports event.serviceExport.key = none)
      (c.deleteServiceImport event) fleet := by
  rw [RemoteConnector.deleteServiceImport, if_neg foreign]
  rintro _ rfl fault
  refine ⟨trivial, ?_⟩
  rcases fleet.serve_getServiceImport c.context.clusterKey fault event.serviceExport.key with
    ⟨message, missed⟩ | ⟨-, missed⟩ | ⟨imp, found, -⟩
  · rw [missed]
    exact absent
  · rw [missed]
    exact absent
  · cases found.symm.trans absent

namespace ImportCall
variable {c : RemoteConnector} {key : NamespacedName} {fleet next final : Fleet}

/-- Two rules of one port number break an import when it is created from them, when they fill a
port without endpoints on one path, and when they keep a port of another cluster. -/
def RulesSeparate (stored : Option ServiceImport) : ImportCall → Prop
  | upsert _ event =>
      (stored = none → ∀ p ∈ event.service.ports, (rulesOf event p.port).length ≤ 1) ∧
        ∀ imp ∈ stored, ∀ p ∈ imp.ports, p.endpoints = [] →
          ((rulesOf event p.port).map ServiceExportRule.path).Nodup
  | delete event => ∀ imp ∈ stored, ∀ p ∈ imp.ports,
      (∃ ep ∈ p.endpoints, ep.clusterKey ≠ event.clusterKey) → (rulesOf event p.port).length ≤ 1

instance (stored : Option ServiceImport) : (call : ImportCall) → Decidable (call.RulesSeparate stored)
  | upsert _ _ => inferInstanceAs (Decidable ((stored = none → _) ∧ ∀ imp ∈ stored, _))
  | delete _ => inferInstanceAs (Decidable (∀ imp ∈ stored, ∀ p ∈ imp.ports, _ → _))

/-- A connector ignores the exports of its own cluster. -/
def Allowed (c : RemoteConnector) (key : NamespacedName) (fleet : Fleet)
    (attempt : ImportCall × (Nat → Option String)) : Prop :=
  attempt.1.event.clusterKey ≠ c.context.clusterKey →
    attempt.1.RulesSeparate ((fleet c.context.clusterKey).serviceImports key)

instance (c : RemoteConnector) (key : NamespacedName) (fleet : Fleet)
    (attempt : ImportCall × (Nat → Option String)) : Decidable (Allowed c key fleet attempt) :=
  inferInstanceAs (Decidable (_ → attempt.1.RulesSeparate _))

/-- The import of this name, if there is one, is well formed. -/
def ImportWellFormed (c : RemoteConnector) (key : NamespacedName) (fleet : Fleet) : Prop :=
  ∀ imp, (fleet c.context.clusterKey).serviceImports key = some imp → WellFormed imp.ports

theorem ImportWellFormed.upsert {range : RangeOrder Endpoint} {event : ServiceExportEvent}
    {faults : Nat → Option String} (known : ImportWellFormed c event.serviceExport.key fleet)
    (unique : (event.service.ports.map CoreV1.ServicePort.name).Nodup)
    (foreign : event.clusterKey ≠ c.context.clusterKey)
    (separate : RulesSeparate ((fleet c.context.clusterKey).serviceImports event.serviceExport.key)
      (.upsert range event))
    (succeeded : ((c.upsertServiceImport range event).execute faults fleet).1 = .ok ()) :
    ImportWellFormed c event.serviceExport.key
      ((c.upsertServiceImport range event).execute faults fleet).2 := by
  obtain ⟨after, found, merged⟩ :=
    (upsertServiceImport_ensures c range event foreign fleet).execute faults succeeded
  intro imp stored
  obtain rfl := Option.some.inj (found.symm.trans stored)
  have ports : after.ports = mergePorts event range
      (storedOrNew (fleet c.context.clusterKey) event).ports := merged
  rw [ports, storedOrNew]
  cases present : (fleet c.context.clusterKey).serviceImports event.serviceExport.key with
  | none =>
      refine mergePorts_wellFormed (newServiceImport_wellFormed unique (separate.1 present)) ?_
      intro p member empty
      obtain ⟨r, -, made⟩ := List.mem_flatMap.mp member
      obtain ⟨q, -, rfl⟩ := List.mem_map.mp made
      cases empty
  | some imp => exact mergePorts_wellFormed (known imp present) (separate.2 imp present)

theorem ImportWellFormed.delete {event : ServiceExportEvent} {faults : Nat → Option String}
    (known : ImportWellFormed c event.serviceExport.key fleet)
    (foreign : event.clusterKey ≠ c.context.clusterKey)
    (separate : RulesSeparate ((fleet c.context.clusterKey).serviceImports event.serviceExport.key)
      (.delete event))
    (succeeded : ((c.deleteServiceImport event).execute faults fleet).1 = .ok ()) :
    ImportWellFormed c event.serviceExport.key
      ((c.deleteServiceImport event).execute faults fleet).2 := by
  intro imp stored
  cases present : (fleet c.context.clusterKey).serviceImports event.serviceExport.key with
  | none =>
      have absent := (deleteServiceImport_absent c event foreign fleet present).execute faults
      exact nomatch stored.symm.trans absent
  | some before =>
      have result := (deleteServiceImport_ensures c event foreign fleet before present).execute
        faults succeeded
      have ports := (congrArg (Option.map ServiceImport.ports) stored).symm.trans result
      split at ports
      · rw [Option.some.inj ports]
        exact known before present
      · split at ports
        · cases ports
        · rw [Option.some.inj ports]
          exact withdrawPorts_wellFormed (known before present) (separate before present)

theorem ImportWellFormed.step {attempt : ImportCall × (Nat → Option String)}
    (known : ImportWellFormed c key fleet) (named : attempt.1.event.serviceExport.key = key)
    (unique : (attempt.1.event.service.ports.map CoreV1.ServicePort.name).Nodup)
    (allowed : Allowed c key fleet attempt)
    (stepped : (machine c).step fleet attempt = some next) : ImportWellFormed c key next := by
  obtain ⟨call, faults⟩ := attempt
  subst named
  have done : ((call.program c).execute faults fleet).1 = .ok () ∧
      ((call.program c).execute faults fleet).2 = next := by
    simp only [machine] at stepped
    split at stepped
    · next answer final result =>
        rw [result]
        exact ⟨rfl, Option.some.inj stepped⟩
    · cases stepped
  obtain ⟨succeeded, rfl⟩ := done
  by_cases foreign : call.event.clusterKey = c.context.clusterKey
  · have ignored : call.program c = pure (.ok ()) := by
      cases call with
      | upsert range event => exact if_pos foreign
      | delete event => exact if_pos foreign
    rw [ignored]
    exact known
  · cases call with
    | upsert range event => exact known.upsert unique foreign (allowed foreign) succeeded
    | delete event => exact known.delete foreign (allowed foreign) succeeded

/-- Successful upserts and deletions keep the import well formed, if no two rules of an export meet
on a port where that shows. -/
theorem run_importWellFormed {attempts : List (ImportCall × (Nat → Option String))}
    (absent : (fleet c.context.clusterKey).serviceImports key = none)
    (named : ∀ attempt ∈ attempts, attempt.1.event.serviceExport.key = key)
    (unique : ∀ attempt ∈ attempts,
      (attempt.1.event.service.ports.map CoreV1.ServicePort.name).Nodup)
    (allowed : (machine c).Guarded (Allowed c key) fleet attempts)
    (reached : (machine c).run fleet attempts = some final) : ImportWellFormed c key final := by
  have events := (machine c).guarded_of_forall fleet fun attempt member =>
    And.intro (named attempt member) (unique attempt member)
  refine (machine c).run_invariant ?_ ?_ (allowed.and events) reached
  · intro fleet attempt next known guard stepped
    exact known.step guard.2.1 guard.2.2 guard.1 stepped
  · intro imp stored
    exact nomatch stored.symm.trans absent

/-- Cluster `a` exports two ports under one rule each, cluster `b` joins, and `a` leaves. -/
def exampleAttempts : List (ImportCall × (Nat → Option String)) :=
  [(.upsert RangeOrder.stored (exampleEvent "a" [⟨80, "/a"⟩, ⟨8080, "/alt"⟩]), fun _ => none),
    (.upsert RangeOrder.stored (exampleEvent "b" [⟨80, "/b"⟩, ⟨80, "/c"⟩]), fun _ => none),
    (.delete (exampleEvent "a" [⟨80, "/a"⟩]), fun _ => none)]

theorem importWellFormed_exampleAttempts : ∃ final imp,
    (machine (exampleConnector "c")).run (fun _ => ApiServer.empty) exampleAttempts = some final ∧
      (final (exampleConfig "c").key).serviceImports ⟨"default", "web"⟩ = some imp ∧
      WellFormed imp.ports :=
  ⟨_, _, rfl, rfl, @run_importWellFormed (exampleConnector "c") ⟨"default", "web"⟩
    (fun _ => ApiServer.empty) _ exampleAttempts rfl (by decide +kernel) (by decide +kernel)
    (by decide +kernel) rfl _ rfl⟩

/-- Two paths of port 80 give the new import two entries named `http`. -/
theorem two_rules_repeat_port :
    ((exampleEvent "a" []).service.ports.map CoreV1.ServicePort.name).Nodup ∧ ∃ final imp,
    (machine (exampleConnector "c")).run (fun _ => ApiServer.empty)
        [(.upsert RangeOrder.stored (exampleEvent "a" [⟨80, "/a"⟩, ⟨80, "/b"⟩]), fun _ => none)] =
      some final ∧
      (final (exampleConfig "c").key).serviceImports ⟨"default", "web"⟩ = some imp ∧
      ¬ WellFormed imp.ports :=
  ⟨by decide +kernel, _, _, rfl, rfl, fun wellFormed =>
    absurd wellFormed.names (by decide +kernel)⟩

end ImportCall
end ErieCanal.Cluster
