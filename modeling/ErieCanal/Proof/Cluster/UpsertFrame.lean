import ErieCanal.Proof.Cluster.ImportHandlers
import ErieCanal.Proof.Cluster.UpsertEndpoints

namespace ErieCanal.Cluster
open Lib Lib.Program Kube Event SvcExp SvcImp

/-- An upsert works on the stored import, or on a new one when none is stored. -/
def storedOrNew (server : ApiServer) (event : ServiceExportEvent) : ServiceImport :=
  (server.serviceImports event.serviceExport.key).getD (newServiceImport event)

theorem upsertPorts_congr (event : ServiceExportEvent) (range : RangeOrder Endpoint)
    {first second : ServiceImport} (same : first.ports = second.ports) :
    (upsertPorts event range first).ports = (upsertPorts event range second).ports := by
  simp only [upsertPorts, same]

/-- A successful upsert stores the merged ports of the import that it found or created. -/
theorem upsertServiceImport_ensures (c : RemoteConnector) (range : RangeOrder Endpoint)
    (event : ServiceExportEvent) (foreign : event.clusterKey ≠ c.context.clusterKey)
    (fleet : Fleet) :
    Ensures Fleet.serve (fun answer final => answer = .ok () →
        ∃ after, (final c.context.clusterKey).serviceImports event.serviceExport.key = some after ∧
          after.ports = (upsertPorts event range
            (storedOrNew (fleet c.context.clusterKey) event)).ports)
      (c.upsertServiceImport range event) fleet := by
  let before (state : Fleet) : Prop :=
    (state c.context.clusterKey).serviceImports = (fleet c.context.clusterKey).serviceImports
  let snapshot (imp : ServiceImport) (state : Fleet) : Prop :=
    (state c.context.clusterKey).serviceImports event.serviceExport.key = some imp ∧
      imp.ports = (storedOrNew (fleet c.context.clusterKey) event).ports
  have keyed {imp : ServiceImport} {state : Fleet} (held : snapshot imp state) :
      imp.key = event.serviceExport.key := (state _).keyed _ _ held.1
  refine upsertServiceImport_sound c event before snapshot range foreign ?_ ?_ ?_ ?_ ?_ ?_ ?_
    fleet rfl
  · exact fun _ => trivial
  · exact fun error final absurd => nomatch absurd
  · rintro state _ start rfl
    exact start
  · intro state fault start
    exact ⟨trivial, (state.serve_keeps_imports _ fault _ rfl _).1.trans start⟩
  · intro state start free
    refine ⟨trivial, ?_, ?_⟩
    · rw [written, Function.update_self, ← newServiceImport_key event,
        ApiServer.writeServiceImport_self]
    · rw [storedOrNew, ← start, free]
      rfl
  · intro state imp start found
    refine ⟨found, ?_⟩
    rw [storedOrNew, ← start, found]
    rfl
  · rintro state imp held _ stored rfl found version
    have merged := upsertPorts_congr event range held.2
    refine ⟨fun unchanged _ => ⟨stored, ?_, ?_⟩, trivial, fun _ => ?_⟩
    · rw [← keyed held, found]
    · rw [← unchanged, merged]
    · refine ⟨{ upsertPorts event range imp with
        resourceVersion := (state c.context.clusterKey).revision + 1 }, ?_, merged⟩
      rw [written, Function.update_self, ← keyed held, ← upsertPorts_key event range imp,
        ApiServer.writeServiceImport_self]

/-- The entry of a port is all of it but its endpoints. -/
def portEntry (p : ServicePort) : ServicePort := { p with endpoints := [] }

/-- Every port keeps its entry and exactly its endpoints of the clusters other than `clusterKey`. -/
def OthersUntouched (clusterKey : String) (before after : ServiceImport) : Prop :=
  List.Forall₂ (fun p q => portEntry q = portEntry p ∧
    ∀ ep : Endpoint, ep.clusterKey ≠ clusterKey → (ep ∈ q.endpoints ↔ ep ∈ p.endpoints))
    before.ports after.ports

/-- Each port with an endpoint of another cluster is named by a rule, and no two different
endpoints of the port belong to one other cluster. -/
def OthersRuled (event : ServiceExportEvent) (imp : ServiceImport) : Prop :=
  ∀ p ∈ imp.ports, ∀ ep ∈ p.endpoints, ep.clusterKey ≠ event.clusterKey →
    (∃ r ∈ event.serviceExport.rules, r.portNumber = p.port) ∧
      ∀ ep' ∈ p.endpoints, ep'.clusterKey = ep.clusterKey → ep' = ep

instance (event : ServiceExportEvent) (imp : ServiceImport) : Decidable (OthersRuled event imp) :=
  inferInstanceAs (Decidable (∀ p ∈ imp.ports, ∀ ep ∈ p.endpoints, _))

theorem rulesOf_getLast_some {event : ServiceExportEvent} {port : Int} :
    (∃ r, (rulesOf event port).getLast? = some r) ↔
      ∃ r ∈ event.serviceExport.rules, r.portNumber = port := by
  rw [← Option.isSome_iff_exists, List.getLast?_isSome, ne_eq, rulesOf_eq_nil]
  simp

/-- An endpoint of another cluster stays when a rule names the port and it is the last of its
cluster. -/
theorem mem_upsertEndpoints_other (event : ServiceExportEvent) (range : RangeOrder Endpoint)
    (idx : Nat) (p : ServicePort) (ep : Endpoint) (other : ep.clusterKey ≠ event.clusterKey) :
    ep ∈ upsertEndpoints event range idx p ↔
      (∃ r ∈ event.serviceExport.rules, r.portNumber = p.port) ∧
        (endpointsOf p ep.clusterKey).getLast? = some ep := by
  by_cases empty : p.endpoints = []
  · rw [upsertEndpoints_of_empty event range idx p empty]
    simp only [List.mem_map, endpointsOf, empty, List.filter_nil, List.getLast?_nil, reduceCtorEq,
      and_false, iff_false]
    rintro ⟨r, -, rfl⟩
    exact other rfl
  · rw [mem_upsertEndpoints event range idx p empty, ← rulesOf_getLast_some]
    constructor
    · rintro ⟨r, last, rfl | ⟨-, kept⟩⟩
      · exact absurd rfl other
      · exact ⟨⟨r, last⟩, kept⟩
    · rintro ⟨⟨r, last⟩, kept⟩
      exact ⟨r, last, Or.inr ⟨other, kept⟩⟩

/-- One port keeps its other endpoints exactly under the condition on that port. -/
theorem upsertEndpoints_others_iff (event : ServiceExportEvent) (range : RangeOrder Endpoint)
    (idx : Nat) (p : ServicePort) :
    (∀ ep : Endpoint, ep.clusterKey ≠ event.clusterKey →
      (ep ∈ upsertEndpoints event range idx p ↔ ep ∈ p.endpoints)) ↔
    ∀ ep ∈ p.endpoints, ep.clusterKey ≠ event.clusterKey →
      (∃ r ∈ event.serviceExport.rules, r.portNumber = p.port) ∧
        ∀ ep' ∈ p.endpoints, ep'.clusterKey = ep.clusterKey → ep' = ep := by
  constructor
  · intro kept ep member other
    obtain ⟨ruled, last⟩ := (mem_upsertEndpoints_other event range idx p ep other).mp
      ((kept ep other).mpr member)
    refine ⟨ruled, fun ep' member' same => ?_⟩
    obtain ⟨-, last'⟩ := (mem_upsertEndpoints_other event range idx p ep' (same ▸ other)).mp
      ((kept ep' (same ▸ other)).mpr member')
    rw [same, last, Option.some.injEq] at last'
    exact last'.symm
  · intro condition ep other
    rw [mem_upsertEndpoints_other event range idx p ep other]
    constructor
    · rintro ⟨-, last⟩
      exact (endpointsOf_getLast_mem last).1
    · intro member
      obtain ⟨ruled, unique⟩ := condition ep member other
      refine ⟨ruled, ?_⟩
      have present : ep ∈ endpointsOf p ep.clusterKey := by simpa [endpointsOf] using member
      obtain ⟨last, found⟩ := Option.isSome_iff_exists.mp
        (List.getLast?_isSome.mpr (List.ne_nil_of_mem present))
      obtain ⟨member', same⟩ := endpointsOf_getLast_mem found
      rw [found, unique last member' same]

theorem forall₂_mapIdx_iff {A B C : Type} {related : B → C → Prop} (f : Nat → A → B)
    (g : Nat → A → C) (items : List A) {condition : A → Prop}
    (each : ∀ idx, ∀ item ∈ items, related (f idx item) (g idx item) ↔ condition item) :
    List.Forall₂ related (items.mapIdx f) (items.mapIdx g) ↔ ∀ item ∈ items, condition item := by
  induction items generalizing f g with
  | nil => simp
  | cons item rest ih =>
      rw [List.mapIdx_cons, List.mapIdx_cons, List.forall₂_cons, each 0 item List.mem_cons_self,
        List.forall_mem_cons, ih (fun idx => f (idx + 1)) (fun idx => g (idx + 1))
          fun idx other member => each (idx + 1) other (List.mem_cons_of_mem _ member)]

/-- The upsert of an existing import leaves the endpoints of the other clusters untouched exactly
when every port that holds one is named by a rule and holds it alone for its cluster. -/
theorem upsertServiceImport_others_iff (c : RemoteConnector) (range : RangeOrder Endpoint)
    (event : ServiceExportEvent) (foreign : event.clusterKey ≠ c.context.clusterKey)
    (fleet : Fleet) (stored : ServiceImport)
    (present : (fleet c.context.clusterKey).serviceImports event.serviceExport.key = some stored)
    (faults : Nat → Option String)
    (succeeded : ((c.upsertServiceImport range event).execute faults fleet).1 = .ok ()) :
    (∃ after, (((c.upsertServiceImport range event).execute faults fleet).2
        c.context.clusterKey).serviceImports event.serviceExport.key = some after ∧
        OthersUntouched event.clusterKey stored after) ↔
      OthersRuled event stored := by
  obtain ⟨after, found, merged⟩ :=
    (upsertServiceImport_ensures c range event foreign fleet).execute faults succeeded
  rw [storedOrNew, present, Option.getD_some, upsertPorts] at merged
  simp only [found, Option.some.injEq, exists_eq_left', OthersUntouched, merged]
  have kept : stored.ports.mapIdx (fun _ p => p) = stored.ports := by simp [List.mapIdx_eq_iff]
  nth_rewrite 1 [← kept]
  exact forall₂_mapIdx_iff _ _ _ fun idx p _ =>
    (and_iff_right rfl).trans (upsertEndpoints_others_iff event range idx p)

/-- These examples name their clusters in the default region, zone and group. -/
def exampleConfig (name : String) : Config.ConnectorConfig where
  name := name
  region := "default"
  zone := "default"
  group := "default"
  inCluster := false
  key := clusterIDTemplate "default" "default" "default" name
  gatewayHost := "gateway"
  gatewayIP := some ⟨10, 0, 0, 1⟩
  gatewayPort := 80
  controlPlaneUID := "uid"

def exampleConnector (name : String) : RemoteConnector :=
  ⟨⟨(exampleConfig name).key, "", exampleConfig name, 0⟩⟩

def examplePort (name : String) (port : Int) : CoreV1.ServicePort :=
  ⟨name, .tcp, none, port, .int port, 0⟩

/-- The service has the ports 80 and 8080; the rules choose the exported ones. -/
def exampleEvent (name : String) (rules : List ServiceExportRule) : ServiceExportEvent where
  geo := exampleConfig name
  serviceExport := ⟨"default", "web", 1, rules, [], "", []⟩
  service := {
    ns := "default", name := "web", type := .clusterIP
    ports := [examplePort "http" 80, examplePort "alt" 8080] }
  error := ""

/-- The server holds the import that cluster `b` created with its rule for port 80. -/
def exampleFleet : Fleet := fun _ =>
  ApiServer.empty.writeServiceImport (newServiceImport (exampleEvent "b" [⟨80, "/b"⟩]))

def exampleImport : ServiceImport :=
  { newServiceImport (exampleEvent "b" [⟨80, "/b"⟩]) with resourceVersion := 1 }

/-- A rule for port 80 keeps the endpoint of cluster `b`. -/
theorem upsertServiceImport_keeps_ruled :
    OthersRuled (exampleEvent "a" [⟨80, "/a"⟩]) exampleImport ∧
      ∃ after, ((((exampleConnector "c").upsertServiceImport RangeOrder.stored
        (exampleEvent "a" [⟨80, "/a"⟩])).execute (fun _ => none) exampleFleet).2
          (exampleConnector "c").context.clusterKey).serviceImports ⟨"default", "web"⟩ = some after ∧
        OthersUntouched (exampleEvent "a" []).clusterKey exampleImport after :=
  ⟨by decide, (upsertServiceImport_others_iff (exampleConnector "c") RangeOrder.stored
    (exampleEvent "a" [⟨80, "/a"⟩]) (by decide) exampleFleet exampleImport (by rfl)
    (fun _ => none) (by rfl)).mpr (by decide)⟩

/-- A rule for port 8080 alone drops the endpoint of cluster `b` from port 80. -/
theorem upsertServiceImport_drops_unruled :
    (exampleEvent "a" [⟨8080, "/a"⟩]).clusterKey ≠ (exampleConnector "c").context.clusterKey ∧
      (exampleFleet (exampleConnector "c").context.clusterKey).serviceImports
        (exampleEvent "a" [⟨8080, "/a"⟩]).serviceExport.key = some exampleImport ∧
      (((exampleConnector "c").upsertServiceImport RangeOrder.stored
        (exampleEvent "a" [⟨8080, "/a"⟩])).execute (fun _ => none) exampleFleet).1 = .ok () ∧
      ¬ ∃ after, ((((exampleConnector "c").upsertServiceImport RangeOrder.stored
        (exampleEvent "a" [⟨8080, "/a"⟩])).execute (fun _ => none) exampleFleet).2
          (exampleConnector "c").context.clusterKey).serviceImports ⟨"default", "web"⟩ = some after ∧
        OthersUntouched (exampleEvent "a" []).clusterKey exampleImport after := by
  refine ⟨by decide, by rfl, by rfl, ?_⟩
  rintro ⟨after, found, untouched⟩
  obtain rfl := Option.some.inj found
  obtain ⟨⟨-, kept⟩, -⟩ := List.forall₂_cons.mp untouched
  have dropped := (kept (ruleEndpoint (exampleEvent "b" []) ⟨80, "/b"⟩) (by decide)).mpr
    List.mem_cons_self
  exact absurd dropped List.not_mem_nil

end ErieCanal.Cluster
