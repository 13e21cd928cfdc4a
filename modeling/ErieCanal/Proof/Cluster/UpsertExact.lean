import ErieCanal.Proof.Cluster.UpsertFrame

namespace ErieCanal.Cluster
open Lib Lib.Program Kube Event SvcExp SvcImp

/-- All rules of this port number have the same path. -/
def OnePath (event : ServiceExportEvent) (port : Int) : Prop :=
  ∀ r ∈ rulesOf event port, ∀ r' ∈ rulesOf event port, r.path = r'.path

instance decidableOnePath (event : ServiceExportEvent) (port : Int) : Decidable (OnePath event port) :=
  inferInstanceAs (Decidable (∀ r ∈ rulesOf event port, ∀ r' ∈ rulesOf event port, r.path = r'.path))

@[simp] theorem mem_rulesOf (event : ServiceExportEvent) (port : Int) (r : ServiceExportRule) :
    r ∈ rulesOf event port ↔ r ∈ event.serviceExport.rules ∧ r.portNumber = port := by
  simp [rulesOf]

theorem ruleEndpoint_inj (event : ServiceExportEvent) (r r' : ServiceExportRule) :
    ruleEndpoint event r = ruleEndpoint event r' ↔ r.path = r'.path := by
  simp [ruleEndpoint, newEndpoint]

/-- The last rule stands for all rules of its number exactly when they have one path. -/
theorem ruleEndpoint_getLast_iff {event : ServiceExportEvent} {port : Int} {last : ServiceExportRule}
    (found : (rulesOf event port).getLast? = some last) :
    (∀ r ∈ rulesOf event port, ruleEndpoint event r = ruleEndpoint event last) ↔
      OnePath event port := by
  simp only [ruleEndpoint_inj]
  have member := List.mem_of_getLast? found
  constructor
  · intro same r listed r' listed'
    rw [same r listed, same r' listed']
  · intro one r listed
    exact one r listed last member

/-- A port without endpoints gets one for each rule, and any other port gets that of the last rule. -/
theorem mem_upsertEndpoints_own (event : ServiceExportEvent) (range : RangeOrder Endpoint)
    (idx : Nat) (p : ServicePort) (ep : Endpoint) (own : ep.clusterKey = event.clusterKey) :
    ep ∈ upsertEndpoints event range idx p ↔
      p.endpoints = [] ∧ (∃ r ∈ rulesOf event p.port, ep = ruleEndpoint event r) ∨
      p.endpoints ≠ [] ∧ ∃ r, (rulesOf event p.port).getLast? = some r ∧ ep = ruleEndpoint event r := by
  by_cases empty : p.endpoints = []
  · rw [upsertEndpoints_of_empty event range idx p empty]
    simp [empty, eq_comm]
  · rw [mem_upsertEndpoints event range idx p empty]
    simp [empty, own]

/-- Every rule of a service port has a port entry, and the entries of each number have exactly the
endpoints of its rules from the exporting cluster. -/
def Published (event : ServiceExportEvent) (imp : ServiceImport) : Prop :=
  (∀ r ∈ event.serviceExport.rules, (∃ p ∈ event.service.ports, p.port = r.portNumber) →
    ∃ q ∈ imp.ports, q.port = r.portNumber) ∧
  ∀ (port : Int) (ep : Endpoint), ep.clusterKey = event.clusterKey →
    ((∃ q ∈ imp.ports, q.port = port ∧ ep ∈ q.endpoints) ↔
      ∃ r ∈ rulesOf event port, ep = ruleEndpoint event r)

/-- Each rule has a port entry of its number, and one of these entries is still without endpoints or
all rules of the number have one path. -/
def Covers (event : ServiceExportEvent) (imp : ServiceImport) : Prop :=
  ∀ r ∈ event.serviceExport.rules, (∃ p ∈ imp.ports, p.port = r.portNumber) ∧
    ((∃ p ∈ imp.ports, p.port = r.portNumber ∧ p.endpoints = []) ∨ OnePath event r.portNumber)

instance decidableCovers (event : ServiceExportEvent) (imp : ServiceImport) :
    Decidable (Covers event imp) :=
  inferInstanceAs (Decidable (∀ r ∈ event.serviceExport.rules, _))

/-- The entries of one number publish every rule through an empty entry, and the last rule through
a filled one. -/
theorem upsertPorts_own (event : ServiceExportEvent) (range : RangeOrder Endpoint)
    (imp : ServiceImport) (port : Int) (ep : Endpoint) (own : ep.clusterKey = event.clusterKey) :
    (∃ q ∈ (upsertPorts event range imp).ports, q.port = port ∧ ep ∈ q.endpoints) ↔
      (∃ p ∈ imp.ports, p.port = port ∧ p.endpoints = []) ∧
        (∃ r ∈ rulesOf event port, ep = ruleEndpoint event r) ∨
      (∃ p ∈ imp.ports, p.port = port ∧ p.endpoints ≠ []) ∧
        ∃ r, (rulesOf event port).getLast? = some r ∧ ep = ruleEndpoint event r := by
  simp only [upsertPorts, List.mem_mapIdx]
  constructor
  · rintro ⟨q, ⟨idx, bound, rfl⟩, rfl, member⟩
    have listed := List.getElem_mem bound
    rcases (mem_upsertEndpoints_own event range idx _ ep own).mp member with
      ⟨empty, ruled⟩ | ⟨filled, last⟩
    · exact Or.inl ⟨⟨_, listed, rfl, empty⟩, ruled⟩
    · exact Or.inr ⟨⟨_, listed, rfl, filled⟩, last⟩
  · rintro (⟨⟨p, listed, rfl, empty⟩, ruled⟩ | ⟨⟨p, listed, rfl, filled⟩, last⟩)
    · obtain ⟨idx, bound, rfl⟩ := List.getElem_of_mem listed
      exact ⟨_, ⟨idx, bound, rfl⟩, rfl,
        (mem_upsertEndpoints_own event range idx _ ep own).mpr (Or.inl ⟨empty, ruled⟩)⟩
    · obtain ⟨idx, bound, rfl⟩ := List.getElem_of_mem listed
      exact ⟨_, ⟨idx, bound, rfl⟩, rfl,
        (mem_upsertEndpoints_own event range idx _ ep own).mpr (Or.inr ⟨filled, last⟩)⟩

theorem upsertPorts_port (event : ServiceExportEvent) (range : RangeOrder Endpoint)
    (imp : ServiceImport) (port : Int) :
    (∃ q ∈ (upsertPorts event range imp).ports, q.port = port) ↔ ∃ p ∈ imp.ports, p.port = port := by
  simp only [upsertPorts, List.mem_mapIdx]
  constructor
  · rintro ⟨q, ⟨idx, bound, rfl⟩, rfl⟩
    exact ⟨_, List.getElem_mem bound, rfl⟩
  · rintro ⟨p, listed, rfl⟩
    obtain ⟨idx, bound, rfl⟩ := List.getElem_of_mem listed
    exact ⟨_, ⟨idx, bound, rfl⟩, rfl⟩

/-- The upsert of an import publishes the rules exactly when the import covers them. -/
theorem published_upsertPorts_iff (event : ServiceExportEvent) (range : RangeOrder Endpoint)
    (imp : ServiceImport) : Published event (upsertPorts event range imp) ↔ Covers event imp := by
  constructor
  · rintro ⟨-, exact⟩ r listed
    have own := upsertPorts_own event range imp r.portNumber
    have published (r' : ServiceExportRule) (ruled : r' ∈ rulesOf event r.portNumber) :=
      (own _ rfl).mp ((exact r.portNumber (ruleEndpoint event r') rfl).mpr ⟨r', ruled, rfl⟩)
    rcases published r ((mem_rulesOf _ _ _).mpr ⟨listed, rfl⟩) with
      ⟨⟨p, member, same, empty⟩, -⟩ | ⟨⟨p, member, same, -⟩, last, found, -⟩
    · exact ⟨⟨p, member, same⟩, Or.inl ⟨p, member, same, empty⟩⟩
    · refine ⟨⟨p, member, same⟩, ?_⟩
      by_cases unfilled : ∃ p ∈ imp.ports, p.port = r.portNumber ∧ p.endpoints = []
      · exact Or.inl unfilled
      · refine Or.inr ((ruleEndpoint_getLast_iff found).mp fun r' ruled => ?_)
        rcases published r' ruled with ⟨empty, -⟩ | ⟨-, last', found', equal⟩
        · exact absurd empty unfilled
        · rwa [Option.some.inj (found.symm.trans found')]
  · intro covers
    refine ⟨fun r listed _ => (upsertPorts_port event range imp _).mpr (covers r listed).1, ?_⟩
    intro port ep own
    rw [upsertPorts_own event range imp port ep own]
    constructor
    · rintro (⟨-, ruled⟩ | ⟨-, last, found, equal⟩)
      · exact ruled
      · exact ⟨last, List.mem_of_getLast? found, equal⟩
    · rintro ⟨r, ruled, rfl⟩
      obtain ⟨listed, rfl⟩ := (mem_rulesOf _ _ _).mp ruled
      obtain ⟨⟨p, member, same⟩, unfilled | one⟩ := covers r listed
      · exact Or.inl ⟨unfilled, r, ruled, rfl⟩
      · by_cases empty : p.endpoints = []
        · exact Or.inl ⟨⟨p, member, same, empty⟩, r, ruled, rfl⟩
        · obtain ⟨last, found⟩ := rulesOf_getLast_some.mpr ⟨r, listed, rfl⟩
          exact Or.inr ⟨⟨p, member, same, empty⟩, last, found,
            (ruleEndpoint_getLast_iff found).mpr one r ruled⟩

/-- A new import has entries for the rules of service ports, and none of them is empty. -/
theorem covers_newServiceImport_iff (event : ServiceExportEvent) :
    Covers event (newServiceImport event) ↔ ∀ r ∈ event.serviceExport.rules,
      (∃ p ∈ event.service.ports, p.port = r.portNumber) ∧ OnePath event r.portNumber := by
  have entry (q : ServicePort) (listed : q ∈ (newServiceImport event).ports) :
      (∃ p ∈ event.service.ports, p.port = q.port) ∧ q.endpoints ≠ [] := by
    simp only [newServiceImport, List.mem_flatMap, List.mem_map, List.mem_filter] at listed
    obtain ⟨r, -, p, ⟨member, -⟩, rfl⟩ := listed
    exact ⟨⟨p, member, rfl⟩, List.cons_ne_nil _ _⟩
  constructor
  · intro covers r listed
    obtain ⟨⟨q, member, same⟩, ⟨q', member', -, empty⟩ | one⟩ := covers r listed
    · exact absurd empty (entry q' member').2
    · exact ⟨same ▸ (entry q member).1, one⟩
  · intro condition r listed
    obtain ⟨⟨p, member, same⟩, one⟩ := condition r listed
    refine ⟨⟨{
      name := p.name, port := p.port, protocol := p.protocol, appProtocol := p.appProtocol
      endpoints := [ruleEndpoint event r] }, ?_, same⟩, Or.inr one⟩
    simp only [newServiceImport, List.mem_flatMap, List.mem_map, List.mem_filter]
    exact ⟨r, listed, p, ⟨member, by simp [same]⟩, rfl⟩

/-- The upsert of a stored import needs an entry for each rule, and the upsert that creates it
needs a service port for each rule. Several paths need an entry without endpoints. -/
def Publishable (event : ServiceExportEvent) : Option ServiceImport → Prop
  | some stored => Covers event stored
  | none => ∀ r ∈ event.serviceExport.rules,
      (∃ p ∈ event.service.ports, p.port = r.portNumber) ∧ OnePath event r.portNumber

instance decidablePublishable (event : ServiceExportEvent) :
    (stored : Option ServiceImport) → Decidable (Publishable event stored)
  | some stored => inferInstanceAs (Decidable (Covers event stored))
  | none => inferInstanceAs (Decidable (∀ r ∈ event.serviceExport.rules,
      (∃ p ∈ event.service.ports, p.port = r.portNumber) ∧ OnePath event r.portNumber))

theorem covers_storedOrNew_iff (event : ServiceExportEvent) (server : ApiServer) :
    Covers event (storedOrNew server event) ↔
      Publishable event (server.serviceImports event.serviceExport.key) := by
  rw [storedOrNew]
  cases server.serviceImports event.serviceExport.key with
  | none => exact covers_newServiceImport_iff event
  | some stored => exact Iff.rfl

theorem published_congr {event : ServiceExportEvent} {first second : ServiceImport}
    (same : first.ports = second.ports) : Published event first ↔ Published event second := by
  simp only [Published, same]

/-- A successful upsert publishes exactly the rules of the exporter exactly when each rule has a
port entry, and several paths of a port number meet an entry without endpoints. -/
theorem upsertServiceImport_published_iff (c : RemoteConnector) (range : RangeOrder Endpoint)
    (event : ServiceExportEvent) (foreign : event.clusterKey ≠ c.context.clusterKey)
    (fleet : Fleet) (faults : Nat → Option String)
    (succeeded : ((c.upsertServiceImport range event).execute faults fleet).1 = .ok ()) :
    (∃ after, (((c.upsertServiceImport range event).execute faults fleet).2
        c.context.clusterKey).serviceImports event.serviceExport.key = some after ∧
        Published event after) ↔
      Publishable event
        ((fleet c.context.clusterKey).serviceImports event.serviceExport.key) := by
  obtain ⟨after, found, merged⟩ :=
    (upsertServiceImport_ensures c range event foreign fleet).execute faults succeeded
  simp only [found, Option.some.injEq, exists_eq_left']
  rw [published_congr merged, published_upsertPorts_iff, covers_storedOrNew_iff]

/-- Cluster `a` adds its one path to the port of cluster `b`. -/
theorem upsertServiceImport_publishes_one :
    ∃ after, ((((exampleConnector "c").upsertServiceImport RangeOrder.stored
        (exampleEvent "a" [⟨80, "/a"⟩])).execute (fun _ => none) exampleFleet).2
          (exampleConnector "c").context.clusterKey).serviceImports ⟨"default", "web"⟩ = some after ∧
        Published (exampleEvent "a" [⟨80, "/a"⟩]) after :=
  (upsertServiceImport_published_iff (exampleConnector "c") RangeOrder.stored
    (exampleEvent "a" [⟨80, "/a"⟩]) (by decide) exampleFleet (fun _ => none) (by rfl)).mpr
    (by decide +kernel)

/-- The first of two paths of a new import is lost, and so is a rule for a port that is missing
in a stored import. -/
theorem upsertServiceImport_loses_rules :
    ((((exampleConnector "c").upsertServiceImport RangeOrder.stored
        (exampleEvent "a" [⟨80, "/x"⟩, ⟨80, "/y"⟩])).execute (fun _ => none)
          fun _ => ApiServer.empty).1 = .ok () ∧
      ¬ ∃ after, ((((exampleConnector "c").upsertServiceImport RangeOrder.stored
        (exampleEvent "a" [⟨80, "/x"⟩, ⟨80, "/y"⟩])).execute (fun _ => none)
          fun _ => ApiServer.empty).2
          (exampleConnector "c").context.clusterKey).serviceImports ⟨"default", "web"⟩ = some after ∧
        Published (exampleEvent "a" [⟨80, "/x"⟩, ⟨80, "/y"⟩]) after) ∧
    (((exampleConnector "c").upsertServiceImport RangeOrder.stored
        (exampleEvent "a" [⟨8080, "/a"⟩])).execute (fun _ => none) exampleFleet).1 = .ok () ∧
      ¬ ∃ after, ((((exampleConnector "c").upsertServiceImport RangeOrder.stored
        (exampleEvent "a" [⟨8080, "/a"⟩])).execute (fun _ => none) exampleFleet).2
          (exampleConnector "c").context.clusterKey).serviceImports ⟨"default", "web"⟩ = some after ∧
        Published (exampleEvent "a" [⟨8080, "/a"⟩]) after := by
  refine ⟨⟨by rfl, ?_⟩, by rfl, ?_⟩
  · rintro ⟨after, found, published⟩
    obtain rfl := Option.some.inj found
    have missing := (published.2 80 (ruleEndpoint (exampleEvent "a" []) ⟨80, "/x"⟩) rfl).mpr
      ⟨⟨80, "/x"⟩, by decide, rfl⟩
    revert missing
    decide +kernel
  · rintro ⟨after, found, published⟩
    obtain rfl := Option.some.inj found
    have missing := published.1 ⟨8080, "/a"⟩ (by decide) (by decide)
    revert missing
    decide +kernel

/-- Both imports have the same endpoints on each port entry. -/
def SameEndpoints (first second : ServiceImport) : Prop :=
  List.Forall₂ (fun p q => ∀ ep : Endpoint, ep ∈ p.endpoints ↔ ep ∈ q.endpoints)
    first.ports second.ports

section Twice
variable (event : ServiceExportEvent) (range range' : RangeOrder Endpoint) (idx : Nat)
  (p : ServicePort)

/-- The second upsert keeps what the first has left of the other clusters. -/
theorem upsertEndpoints_twice_other (ep : Endpoint) (other : ep.clusterKey ≠ event.clusterKey) :
    ep ∈ upsertEndpoints event range idx p ↔
      ep ∈ upsertEndpoints event range' idx
        { p with endpoints := upsertEndpoints event range idx p } := by
  have first := mem_upsertEndpoints_other event range idx p
  rw [mem_upsertEndpoints_other event range' idx _ ep other]
  constructor
  · intro member
    refine ⟨((first ep other).mp member).1, ?_⟩
    have listed : ep ∈ endpointsOf { p with endpoints := upsertEndpoints event range idx p }
        ep.clusterKey := by simpa [endpointsOf] using member
    obtain ⟨last, found⟩ := Option.isSome_iff_exists.mp
      (List.getLast?_isSome.mpr (List.ne_nil_of_mem listed))
    obtain ⟨member', same⟩ := endpointsOf_getLast_mem found
    -- Each cluster other than the exporter has one endpoint after the first upsert.
    have kept := ((first last (same ▸ other)).mp member').2
    rw [same, ((first ep other).mp member).2] at kept
    rw [found, Option.some.inj kept]
  · rintro ⟨-, last⟩
    exact (endpointsOf_getLast_mem last).1

/-- The second upsert keeps the endpoints of the exporter exactly when the port was filled before
the first, or its rules have one path. -/
theorem upsertEndpoints_twice_own :
    (∀ ep : Endpoint, ep.clusterKey = event.clusterKey →
      (ep ∈ upsertEndpoints event range idx p ↔
        ep ∈ upsertEndpoints event range' idx
          { p with endpoints := upsertEndpoints event range idx p })) ↔
      (p.endpoints = [] → OnePath event p.port) := by
  have first := mem_upsertEndpoints_own event range idx p
  have second := mem_upsertEndpoints_own event range' idx
    { p with endpoints := upsertEndpoints event range idx p }
  cases found : (rulesOf event p.port).getLast? with
  | none =>
      have unruled : rulesOf event p.port = [] := List.getLast?_eq_none_iff.mp found
      simp only [unruled, List.not_mem_nil, false_and, exists_false, and_false, or_false,
        List.getLast?_nil, reduceCtorEq] at first second
      constructor
      · intro _ _ r ruled
        rw [unruled] at ruled
        cases ruled
      · intro _ ep own
        rw [first ep own, second ep own]
  | some last =>
      simp only [found, Option.some.injEq, exists_eq_left'] at first second
      have listed : ruleEndpoint event last ∈ upsertEndpoints event range idx p := by
        rw [first _ rfl]
        by_cases empty : p.endpoints = []
        · exact Or.inl ⟨empty, last, List.mem_of_getLast? found, rfl⟩
        · exact Or.inr ⟨empty, rfl⟩
      have filled := List.ne_nil_of_mem listed
      simp only [filled, false_and, ne_eq, not_false_eq_true, true_and, false_or] at second
      rw [← ruleEndpoint_getLast_iff found]
      constructor
      · intro same empty r ruled
        rw [← second _ rfl, ← same _ rfl, first _ rfl]
        exact Or.inl ⟨empty, r, ruled, rfl⟩
      · intro one ep own
        rw [first ep own, second ep own]
        by_cases empty : p.endpoints = []
        · constructor
          · rintro (⟨-, r, ruled, rfl⟩ | ⟨filled, -⟩)
            · exact one empty r ruled
            · exact absurd empty filled
          · intro same
            exact Or.inl ⟨empty, last, List.mem_of_getLast? found, same⟩
        · simp [empty]

theorem upsertEndpoints_twice_iff :
    (∀ ep : Endpoint, ep ∈ upsertEndpoints event range idx p ↔
      ep ∈ upsertEndpoints event range' idx
        { p with endpoints := upsertEndpoints event range idx p }) ↔
      (p.endpoints = [] → OnePath event p.port) := by
  rw [← upsertEndpoints_twice_own event range range' idx p]
  constructor
  · exact fun same ep _ => same ep
  · intro same ep
    by_cases own : ep.clusterKey = event.clusterKey
    · exact same ep own
    · exact upsertEndpoints_twice_other event range range' idx p ep own

end Twice

theorem upsertPorts_twice_iff (event : ServiceExportEvent) (range range' : RangeOrder Endpoint)
    (imp : ServiceImport) :
    SameEndpoints (upsertPorts event range imp)
        (upsertPorts event range' (upsertPorts event range imp)) ↔
      ∀ p ∈ imp.ports, p.endpoints = [] → OnePath event p.port := by
  simp only [SameEndpoints, upsertPorts, List.mapIdx_mapIdx]
  exact forall₂_mapIdx_iff _ _ _ fun idx p _ => upsertEndpoints_twice_iff event range range' idx p

theorem sameEndpoints_congr {first first' second second' : ServiceImport}
    (one : first.ports = first'.ports) (two : second.ports = second'.ports) :
    SameEndpoints first second ↔ SameEndpoints first' second' := by
  rw [SameEndpoints, SameEndpoints, one, two]

/-- A second successful upsert of the same event leaves the endpoints of each port as the first did
exactly when the rules of each stored port without endpoints have one path. -/
theorem upsertServiceImport_idempotent_iff (c : RemoteConnector)
    (range range' : RangeOrder Endpoint) (event : ServiceExportEvent)
    (foreign : event.clusterKey ≠ c.context.clusterKey) (fleet : Fleet)
    (faults faults' : Nat → Option String)
    (succeeded : ((c.upsertServiceImport range event).execute faults fleet).1 = .ok ())
    (repeated : ((c.upsertServiceImport range' event).execute faults'
      ((c.upsertServiceImport range event).execute faults fleet).2).1 = .ok ()) :
    (∃ once twice,
      (((c.upsertServiceImport range event).execute faults fleet).2
        c.context.clusterKey).serviceImports event.serviceExport.key = some once ∧
      (((c.upsertServiceImport range' event).execute faults'
        ((c.upsertServiceImport range event).execute faults fleet).2).2
        c.context.clusterKey).serviceImports event.serviceExport.key = some twice ∧
      SameEndpoints once twice) ↔
    ∀ stored ∈ (fleet c.context.clusterKey).serviceImports event.serviceExport.key,
      ∀ p ∈ stored.ports, p.endpoints = [] → OnePath event p.port := by
  obtain ⟨once, found, merged⟩ :=
    (upsertServiceImport_ensures c range event foreign fleet).execute faults succeeded
  obtain ⟨twice, found', merged'⟩ :=
    (upsertServiceImport_ensures c range' event foreign _).execute faults' repeated
  simp only [found, found', Option.some.injEq, exists_and_left, exists_eq_left']
  rw [storedOrNew, found, Option.getD_some, upsertPorts_congr event range' merged] at merged'
  rw [sameEndpoints_congr merged merged', upsertPorts_twice_iff, storedOrNew]
  cases (fleet c.context.clusterKey).serviceImports event.serviceExport.key with
  | some stored => simp
  | none =>
      simp only [Option.getD_none, Option.mem_def, reduceCtorEq, false_implies, implies_true, iff_true]
      intro p listed empty
      simp only [newServiceImport, List.mem_flatMap, List.mem_map] at listed
      obtain ⟨r, -, q, -, rfl⟩ := listed
      cases empty

/-- The port of cluster `b` has an endpoint, and both upserts leave the last path on it. -/
theorem upsertServiceImport_idempotent_filled :
    ∃ once twice,
      ((((exampleConnector "c").upsertServiceImport RangeOrder.stored
        (exampleEvent "a" [⟨80, "/x"⟩, ⟨80, "/y"⟩])).execute (fun _ => none) exampleFleet).2
          (exampleConnector "c").context.clusterKey).serviceImports ⟨"default", "web"⟩ = some once ∧
      ((((exampleConnector "c").upsertServiceImport RangeOrder.stored
        (exampleEvent "a" [⟨80, "/x"⟩, ⟨80, "/y"⟩])).execute (fun _ => none)
        (((exampleConnector "c").upsertServiceImport RangeOrder.stored
          (exampleEvent "a" [⟨80, "/x"⟩, ⟨80, "/y"⟩])).execute (fun _ => none) exampleFleet).2).2
          (exampleConnector "c").context.clusterKey).serviceImports ⟨"default", "web"⟩ = some twice ∧
      SameEndpoints once twice :=
  (upsertServiceImport_idempotent_iff (exampleConnector "c") RangeOrder.stored RangeOrder.stored
    (exampleEvent "a" [⟨80, "/x"⟩, ⟨80, "/y"⟩]) (by decide) exampleFleet (fun _ => none)
    (fun _ => none) (by rfl) (by rfl)).mpr (by decide +kernel)

/-- Cluster `a` has exported port 8080 alone, which leaves port 80 without endpoints. -/
def exampleEmptied : Fleet :=
  (((exampleConnector "c").upsertServiceImport RangeOrder.stored
    (exampleEvent "a" [⟨8080, "/a"⟩])).execute (fun _ => none) exampleFleet).2

/-- The first upsert of an emptied port adds both paths, and the second leaves the last one. -/
theorem upsertServiceImport_repeated_loses :
    ∃ once twice,
      ((((exampleConnector "c").upsertServiceImport RangeOrder.stored
        (exampleEvent "a" [⟨80, "/x"⟩, ⟨80, "/y"⟩])).execute (fun _ => none) exampleEmptied).2
          (exampleConnector "c").context.clusterKey).serviceImports ⟨"default", "web"⟩ = some once ∧
      ((((exampleConnector "c").upsertServiceImport RangeOrder.stored
        (exampleEvent "a" [⟨80, "/x"⟩, ⟨80, "/y"⟩])).execute (fun _ => none)
        (((exampleConnector "c").upsertServiceImport RangeOrder.stored
          (exampleEvent "a" [⟨80, "/x"⟩, ⟨80, "/y"⟩])).execute (fun _ => none) exampleEmptied).2).2
          (exampleConnector "c").context.clusterKey).serviceImports ⟨"default", "web"⟩ = some twice ∧
      ¬ SameEndpoints once twice := by
  refine ⟨_, _, rfl, rfl, fun same => ?_⟩
  obtain ⟨kept, -⟩ := List.forall₂_cons.mp same
  have lost := (kept (ruleEndpoint (exampleEvent "a" []) ⟨80, "/x"⟩)).mp List.mem_cons_self
  revert lost
  decide +kernel

end ErieCanal.Cluster
