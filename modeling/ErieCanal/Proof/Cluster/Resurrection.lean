import ErieCanal.Proof.Cluster.WithdrawalTracking

namespace ErieCanal.Cluster
open Lib Lib.Program Kube Event SvcExp SvcImp

section Withdrawal
variable {plane : ControlPlane} {exporter : String} {key : NamespacedName} {watched : String}
  {federation : Federation}

namespace Federation

theorem subscribed_iff {cluster : String} {bg : Background}
    (found : plane.reporter cluster = some bg) : Subscribed plane cluster ↔ bg.isManaged = true := by
  have own := plane.keyed cluster bg (plane.reporter_eq_some found).1
  constructor
  · rintro ⟨connector, subscribed, rfl⟩
    obtain ⟨other, reporting, managed, rfl⟩ := (plane.mem_subscribers connector).mp subscribed
    obtain rfl := Option.some.inj (reporting.symm.trans found)
    exact managed
  · intro managed
    refine ⟨bg.connector, (plane.mem_subscribers bg.connector).mpr ⟨bg, ?_, managed, rfl⟩, own⟩
    rwa [own]

/-- An export that is added or updated excuses its endpoints. -/
theorem Tracked.announced (tracked : federation.Tracked plane exporter key watched)
    {cluster : String} {bg : Background} (found : plane.reporter cluster = some bg)
    (svcExp : ServiceExport) (announcement : Api (List Message)) (fault : Option String)
    (made : announcement = pure [] ∨ announcement = bg.onUpdate svcExp) :
    (federation.report cluster svcExp.key (some svcExp) announcement fault).Tracked plane exporter
      key watched := by
  refine tracked.report cluster svcExp.key (some svcExp) announcement fault ?_ ?_ ?_
  · intro stored same
    rw [Option.some.inj same]
  · intro message member announces
    rcases made with rfl | rfl
    · cases member
    · obtain ⟨managed, svc, -, rfl⟩ := Background.mem_announce member
      obtain ⟨-, event, carried, rfl, rfl⟩ := announces
      obtain rfl := Option.some.inj carried
      have located := plane.exportEvent_clusterKey found svcExp svc
      refine ⟨located.symm, rfl, ?_⟩
      rw [located]
      exact (subscribed_iff found).mpr managed
  · exact fun _ _ _ => Or.inl rfl

/-- A managed cluster that can read the service withdraws an export that it deletes. -/
theorem Tracked.deleted (tracked : federation.Tracked plane exporter key watched)
    {cluster : String} {bg : Background} (found : plane.reporter cluster = some bg)
    {name : NamespacedName} {svcExp : ServiceExport} {fault : Option String}
    (known : federation.informers cluster name = some svcExp)
    (last : federation.WithdrawnLast plane (.exportDelete cluster name fault)) :
    (federation.report cluster name none (bg.onServiceExportDelete svcExp) fault).Tracked plane
      exporter key watched := by
  have named := tracked.informed cluster name svcExp known
  refine tracked.report cluster name none _ fault nofun ?_ ?_
  · intro message member announces
    obtain ⟨-, svc, -, rfl⟩ := Background.mem_announce member
    rcases announces.1 with created | accepted
    · cases created
    · cases accepted
  · rintro rfl rfl exporting
    have managed := (subscribed_iff found).mp exporting
    obtain ⟨rfl, svc, stored, exportable⟩ := last bg found managed
    have own := plane.keyed cluster bg (plane.reporter_eq_some found).1
    rw [← own, ← named] at stored
    refine Or.inr ⟨_, Background.announce_made managed stored exportable, rfl, _, rfl, ?_, named⟩
    exact plane.exportEvent_clusterKey found svcExp svc

/-- A write of another kind of object keeps the watched import. -/
theorem Tracked.objectWritten (tracked : federation.Tracked plane exporter key watched)
    (cluster : String) {server : ApiServer}
    (imports : server.serviceImports = (federation.fleet cluster).serviceImports)
    (revision : server.revision = (federation.fleet cluster).revision) :
    ({ federation with fleet := Function.update federation.fleet cluster server } :
      Federation).Tracked plane exporter key watched := by
  obtain ⟨keptImports, keptRevision⟩ := Fleet.update_keeps (fun before after =>
    after.serviceImports = before.serviceImports ∧ after.revision = before.revision)
    (fun _ => ⟨rfl, rfl⟩) ⟨imports, revision⟩ watched
  exact tracked.environment keptImports keptRevision

/-- Every guarded step keeps the invariant. -/
theorem Tracked.step (apart : watched ≠ exporter) (federation : Federation) (step : FederationStep)
    (next : Federation) (tracked : federation.Tracked plane exporter key watched)
    (last : federation.WithdrawnLast plane step)
    (stepped : (machine plane).step federation step = some next) :
    next.Tracked plane exporter key watched := by
  cases step_moves stepped with
  | serviceWritten cluster name service => exact tracked.objectWritten cluster rfl rfl
  | exportWritten cluster name svcExp => exact tracked.objectWritten cluster rfl rfl
  | exportAdd cluster svcExp fault found absent =>
      exact tracked.announced found svcExp _ fault (Or.inr rfl)
  | exportUpdate cluster svcExp fault announcement found known made =>
      exact tracked.announced found svcExp announcement fault made
  | exportDelete cluster name fault found known => exact tracked.deleted found known last
  | dropped index order ranges found created =>
      exact tracked.dequeue found (not_withdraws_of_created created)
  | considered index order ranges found created idle chosen =>
      exact tracked.considered found created idle chosen order
  | handed index order ranges found decided => exact tracked.handled apart found ranges
  | decide fault deciding => exact tracked.decide deciding fault
  | advance index fault range found => exact tracked.advance apart last found

theorem Tracked.start (plane : ControlPlane) (exporter : String) {fleet : Fleet}
    (fresh : NoEndpoint exporter key watched fleet) (live : NotTerminating key watched fleet) :
    (initial fleet).Tracked plane exporter key watched where
  informed := fun _ _ _ found => nomatch found
  live := live
  calls := fun _ member => nomatch member
  sound := fun _ member => nomatch member
  reading := fun _ _ deciding => nomatch deciding
  withdrawn := by
    refine Or.inr ⟨fresh, ?_⟩
    rintro (⟨-, _, queued, -⟩ | ⟨-, _, _, deciding, -⟩ | ⟨_, member, -⟩)
    · cases queued
    · cases deciding
    · cases member

/-- An export that is deleted leaves no endpoint behind when its withdrawal comes last. -/
theorem run_withdrawn (plane : ControlPlane) (fleet : Fleet) (exporter : String)
    (key : NamespacedName) (watched : String) (apart : watched ≠ exporter)
    (fresh : NoEndpoint exporter key watched fleet) (live : NotTerminating key watched fleet)
    (steps : List FederationStep) (final : Federation)
    (guarded : (machine plane).Guarded (WithdrawnLast plane) (initial fleet) steps)
    (reached : (machine plane).run (initial fleet) steps = some final)
    (deleted : final.informers exporter key = none) (delivered : final.queue = [])
    (handled : final.handlers = []) : NoEndpoint exporter key watched final.fleet := by
  have tracked := (machine plane).run_invariant (Tracked.step apart)
    (Tracked.start plane exporter fresh live) guarded reached
  rcases tracked.withdrawn with ⟨-, -, present | ⟨_, queued, -⟩ | ⟨_, member, -⟩⟩ | clean
  · rw [deleted] at present
    cases present
  · rw [delivered] at queued
    cases queued
  · rw [handled] at member
    cases member
  · exact clean.1

end Federation
end Withdrawal

def exampleBackground (name : String) : Background := ⟨false, true, exampleConnector name⟩

/-- The clusters `a` and `b` are remote and managed. -/
def exampleBackgrounds : GoMap String Background :=
  ((∅ : GoMap String Background).insert (exampleConfig "a").key (exampleBackground "a")).insert
    (exampleConfig "b").key (exampleBackground "b")

theorem exampleBackgrounds_stored (key : String) (bg : Background)
    (found : exampleBackgrounds.lookup key = some bg) :
    bg.clusterKey = key ∧ bg.connector.context.connectorConfig.key = key := by
  have stored : (⟨key, bg⟩ : Sigma fun _ => Background) ∈
      [⟨(exampleConfig "b").key, exampleBackground "b"⟩,
        ⟨(exampleConfig "a").key, exampleBackground "a"⟩] := AList.mem_lookup_iff.mp found
  rcases List.mem_cons.mp stored with same | stored
  · cases same
    exact ⟨rfl, rfl⟩
  · cases List.mem_singleton.mp stored
    exact ⟨rfl, rfl⟩

def examplePlane : ControlPlane where
  mesh := {
    isManaged := false, region := "default", zone := "default", group := "default"
    name := "local", uid := "uid", controlPlaneUID := "" }
  backgrounds := exampleBackgrounds
  keyed := fun key bg found => (exampleBackgrounds_stored key bg found).1
  located := fun key bg found _ => (exampleBackgrounds_stored key bg found).2

/-- Every cluster has the service of the export and no import. -/
def exampleServices : Fleet := fun _ => { ApiServer.empty with
  services := fun name => if name = ⟨"default", "web"⟩ then some (exampleEvent "a" []).service
    else none }

/-- Cluster `a` exports port 80, and the control plane accepts the first export of the name. -/
def exampleAccepted : List FederationStep :=
  [.exportAdd (exampleConfig "a").key (exampleEvent "a" [⟨80, "/a"⟩]).serviceExport none,
    .deliver 0 .stored fun _ => .stored, .decide none, .decide none]

namespace Federation

/-- The import is made before the export is deleted, and the deletion removes it. -/
theorem run_withdrawn_sequential :
    ∃ final, (machine examplePlane).run (initial exampleServices) (exampleAccepted ++
        [.deliver 0 .stored fun _ => .stored, .advance 0 none .stored, .advance 0 none .stored,
          .advance 0 none .stored, .exportDelete (exampleConfig "a").key ⟨"default", "web"⟩ none,
          .deliver 0 .stored fun _ => .stored, .advance 0 none .stored,
          .advance 0 none .stored]) = some final ∧
      NoEndpoint (exampleConfig "a").key ⟨"default", "web"⟩ (exampleConfig "b").key
        final.fleet := by
  refine ⟨_, rfl, run_withdrawn examplePlane exampleServices (exampleConfig "a").key
    ⟨"default", "web"⟩ (exampleConfig "b").key (by decide) (fun _ found => nomatch found)
    (fun _ found => nomatch found) (exampleAccepted ++ [.deliver 0 .stored fun _ => .stored,
      .advance 0 none .stored, .advance 0 none .stored, .advance 0 none .stored,
      .exportDelete (exampleConfig "a").key ⟨"default", "web"⟩ none,
      .deliver 0 .stored fun _ => .stored, .advance 0 none .stored, .advance 0 none .stored])
    _ (by decide +kernel) rfl rfl rfl rfl⟩

/-- The deletion finds no import yet, and the accepted export is imported after it. -/
theorem run_resurrects :
    ∃ final, (machine examplePlane).run (initial exampleServices) (exampleAccepted ++
        [.exportDelete (exampleConfig "a").key ⟨"default", "web"⟩ none,
          .deliver 0 .stored fun _ => .stored, .deliver 0 .stored fun _ => .stored,
          .advance 1 none .stored, .advance 0 none .stored, .advance 0 none .stored,
          .advance 0 none .stored]) = some final ∧
      final.informers (exampleConfig "a").key ⟨"default", "web"⟩ = none ∧
      final.queue = [] ∧ final.deciding = none ∧ final.handlers = [] ∧
      ¬ NoEndpoint (exampleConfig "a").key ⟨"default", "web"⟩ (exampleConfig "b").key
        final.fleet := by
  refine ⟨_, rfl, rfl, rfl, rfl, rfl, fun clean => ?_⟩
  exact clean _ rfl _ List.mem_cons_self _ List.mem_cons_self rfl

end Federation
end ErieCanal.Cluster
