import ErieCanal.Construction.Cluster.Admission

namespace ErieCanal.Cluster
open Lib Kube Config ClusterV1

/-- This is the name that an admitted create of an in-cluster object takes. -/
def ClusterStore.Admitted.inClusterName : ClusterStore.Admitted → Option String
  | .create cluster _ => if cluster.spec.isInCluster then some cluster.name else none
  | .update _ _ => none
  | .delete _ => none

/-- A stored object was written last under a new version, or was there before the write. -/
theorem ClusterStore.lookup_write {store : ClusterStore} {cluster found : Cluster}
    (valid : Strings.isDNS1123Subdomain cluster.name = true) {key : String}
    (held : (store.write cluster valid).clusters.lookup key = some found) :
    key = cluster.name ∧ found = { cluster with resourceVersion := store.revision + 1 } ∨
      store.clusters.lookup key = some found := by
  by_cases same : key = cluster.name
  · rw [same, ClusterStore.write, AList.lookup_insert, Option.some.injEq] at held
    exact Or.inl ⟨same, held.symm⟩
  · rw [ClusterStore.write, AList.lookup_insert_ne same] at held
    exact Or.inr held

namespace Admission

/-- No in-cluster object of another name may be between its admission and its persistence when an
in-cluster object is admitted. -/
def Apart (state : Admission) : AdmissionStep → Prop
  | .create request => request.spec.isInCluster = true →
      ∀ admitted ∈ state.inFlight, ∀ name ∈ admitted.inClusterName, name = request.name
  | _ => True

instance decidableApart (state : Admission) : (step : AdmissionStep) → Decidable (state.Apart step)
  | .create request => inferInstanceAs (Decidable (request.spec.isInCluster = true →
      ∀ admitted ∈ state.inFlight, ∀ name ∈ admitted.inClusterName, name = request.name))
  | .update _ | .delete _ | .persist _ | .updateStatus _ => inferInstanceAs (Decidable True)

/-- Every in-cluster object, stored or in flight, has this name, and an update in flight keeps the
mode of the object that it was compared with. -/
structure Sole (name : String) (state : Admission) : Prop where
  stored : ∀ key cluster, state.store.clusters.lookup key = some cluster →
    cluster.spec.isInCluster = true → key = name
  dated : ∀ key cluster, state.store.clusters.lookup key = some cluster →
    cluster.resourceVersion ≤ state.store.revision
  creating : ∀ admitted ∈ state.inFlight, ∀ other ∈ admitted.inClusterName, other = name
  updating : ∀ oldCluster cluster, .update oldCluster cluster ∈ state.inFlight →
    oldCluster.resourceVersion ≤ state.store.revision ∧
      ∀ found, state.store.clusters.lookup oldCluster.name = some found →
        oldCluster.resourceVersion = found.resourceVersion →
        cluster.spec.isInCluster = found.spec.isInCluster

variable {name : String} {state : Admission}

theorem Sole.initial : Sole name Admission.initial where
  stored := fun _ _ found => nomatch found
  dated := fun _ _ found => nomatch found
  creating := fun _ member => nomatch member
  updating := fun _ _ member => nomatch member

theorem Sole.fewer (sole : state.Sole name) {inFlight : List ClusterStore.Admitted}
    (fewer : ∀ admitted ∈ inFlight, admitted ∈ state.inFlight) :
    Sole name { state with inFlight } where
  stored := sole.stored
  dated := sole.dated
  creating := fun admitted member => sole.creating admitted (fewer admitted member)
  updating := fun oldCluster cluster member =>
    sole.updating oldCluster cluster (fewer _ member)

/-- A write takes a version that no update in flight was compared with. -/
theorem Sole.write (sole : state.Sole name) (cluster : Cluster)
    (valid : Strings.isDNS1123Subdomain cluster.name = true)
    (fits : cluster.spec.isInCluster = true → cluster.name = name) :
    Sole name { state with store := state.store.write cluster valid } where
  stored := by
    intro key found held inCluster
    rcases ClusterStore.lookup_write valid held with ⟨rfl, rfl⟩ | kept
    · exact fits inCluster
    · exact sole.stored key found kept inCluster
  dated := by
    intro key found held
    rcases ClusterStore.lookup_write valid held with ⟨-, rfl⟩ | kept
    · exact Nat.le_refl _
    · exact Nat.le_succ_of_le (sole.dated key found kept)
  creating := sole.creating
  updating := by
    intro oldCluster other member
    obtain ⟨older, compared⟩ := sole.updating oldCluster other member
    refine ⟨Nat.le_succ_of_le older, fun found held version => ?_⟩
    rcases ClusterStore.lookup_write valid held with ⟨-, rfl⟩ | kept
    · have newer : oldCluster.resourceVersion = state.store.revision + 1 := version
      omega
    · exact compared found kept version

theorem Sole.delete (sole : state.Sole name) (deleted : String) :
    Sole name { state with store := state.store.delete deleted } := by
  have kept (key : String) (found : Cluster)
      (held : (state.store.delete deleted).clusters.lookup key = some found) :
      state.store.clusters.lookup key = some found := by
    by_cases same : key = deleted
    · rw [ClusterStore.delete, same, AList.lookup_erase] at held
      cases held
    · rwa [ClusterStore.delete, AList.lookup_erase_ne same] at held
  refine ⟨fun key found held => sole.stored key found (kept key found held),
    fun key found held => Nat.le_succ_of_le (sole.dated key found (kept key found held)),
    sole.creating, fun oldCluster cluster member => ?_⟩
  obtain ⟨older, compared⟩ := sole.updating oldCluster cluster member
  exact ⟨Nat.le_succ_of_le older, fun found held => compared found (kept _ found held)⟩

/-- A persisted request keeps the one name. -/
theorem Sole.persist (sole : state.Sole name) {admitted : ClusterStore.Admitted}
    (member : admitted ∈ state.inFlight) :
    Sole name { state with store := state.store.persist admitted } := by
  cases admitted with
  | create cluster valid =>
      rw [ClusterStore.persist]
      split
      · exact sole
      · refine sole.write _ _ fun inCluster => sole.creating _ member cluster.name ?_
        simp [ClusterStore.Admitted.inClusterName, inCluster]
  | update oldCluster cluster =>
      rw [ClusterStore.persist]
      split
      · exact sole
      · next found held =>
          split
          · exact sole
          · next version =>
              refine sole.write _ _ fun inCluster => ?_
              have mode := (sole.updating oldCluster cluster member).2 found held
                (not_not.mp version)
              have own := (state.store.named _ found held).1
              rw [own]
              exact sole.stored _ found held (mode ▸ inCluster)
  | delete deleted => exact sole.delete deleted

theorem Sole.updateStatus (sole : state.Sole name) (cluster : Cluster) :
    Sole name { state with store := (state.store.updateStatus cluster).2 } := by
  rw [ClusterStore.updateStatus]
  split
  · exact sole
  · next found held =>
      split
      · exact sole
      · have own := state.store.named _ found held
        exact sole.write _ (own.1 ▸ own.2) fun inCluster =>
          own.1.trans (sole.stored _ found held inCluster)

theorem Sole.allow (sole : state.Sole name) {admitted : ClusterStore.Admitted}
    (creating : ∀ other ∈ admitted.inClusterName, other = name)
    (updating : ∀ oldCluster cluster, admitted = .update oldCluster cluster →
      state.store.clusters.lookup oldCluster.name = some oldCluster ∧
        cluster.spec.isInCluster = oldCluster.spec.isInCluster) :
    Sole name (state.allow admitted) where
  stored := sole.stored
  dated := sole.dated
  creating := by
    intro earlier member
    rcases List.mem_append.mp member with old | new
    · exact sole.creating earlier old
    · rw [List.mem_singleton.mp new]
      exact creating
  updating := by
    intro oldCluster cluster member
    rcases List.mem_append.mp member with old | new
    · exact sole.updating oldCluster cluster old
    · obtain ⟨stored, mode⟩ := updating oldCluster cluster (List.mem_singleton.mp new).symm
      refine ⟨sole.dated _ oldCluster stored, fun found held _ => ?_⟩
      rw [mode, Option.some.inj (held.symm.trans stored)]

/-- An in-cluster object is admitted only while none is stored. -/
theorem not_inCluster_of_validateCreate {net : Net} {clusters : List Cluster} {cluster : Cluster}
    {passed : Unit} (allowed : Webhook.validateCreate net clusters cluster = .ok passed)
    (inCluster : cluster.spec.isInCluster = true) :
    ∀ other ∈ clusters, other.spec.isInCluster ≠ true := by
  intro other member held
  have counted : 1 ≤ (clusters.filter fun c => c.spec.isInCluster).length :=
    List.length_pos_of_mem (List.mem_filter.mpr ⟨member, held⟩)
  rw [Webhook.validateCreate, if_pos ⟨inCluster, counted⟩] at allowed
  cases allowed

/-- The name of an in-cluster object becomes the one name. -/
theorem Sole.create (sole : state.Sole name) {request : Cluster}
    (valid : Strings.isDNS1123Subdomain request.name = true) {net : Net} {passed : Unit}
    (allowed : Webhook.validateCreate net (GoMap.values state.store.clusters)
      (Webhook.setDefaults request) = .ok passed) (apart : state.Apart (.create request)) :
    ∃ name, Sole name (state.allow
      (.create { Webhook.setDefaults request with conditions := [] } valid)) := by
  by_cases inCluster : request.spec.isInCluster = true
  · have unstored := not_inCluster_of_validateCreate allowed inCluster
    have renamed : state.Sole request.name := {
      stored := fun key cluster found held =>
        absurd held (unstored cluster ((GoMap.mem_values _ _).mpr ⟨key, found⟩))
      dated := sole.dated
      creating := apart inCluster
      updating := sole.updating }
    refine ⟨request.name, renamed.allow ?_ fun _ _ absurd => by cases absurd⟩
    intro other named
    simp only [ClusterStore.Admitted.inClusterName, Webhook.setDefaults, inCluster, if_true,
      Option.mem_def, Option.some.injEq] at named
    exact named.symm
  · refine ⟨name, sole.allow ?_ fun _ _ absurd => by cases absurd⟩
    intro other named
    simp [ClusterStore.Admitted.inClusterName, Webhook.setDefaults, inCluster] at named

/-- Every step keeps some one name. -/
theorem Sole.step (net : Net) (state : Admission) (step : AdmissionStep) (next : Admission)
    (held : ∃ name, state.Sole name) (apart : state.Apart step)
    (stepped : (machine net).step state step = some next) : ∃ name, next.Sole name := by
  obtain ⟨name, sole⟩ := held
  cases step with
  | create request =>
      simp only [machine] at stepped
      split at stepped
      · next valid =>
          split at stepped
          · exact Option.some.inj stepped ▸ ⟨name, sole⟩
          · next allowed => exact Option.some.inj stepped ▸ sole.create valid allowed apart
      · exact Option.some.inj stepped ▸ ⟨name, sole⟩
  | update request =>
      simp only [machine] at stepped
      split at stepped
      · exact Option.some.inj stepped ▸ ⟨name, sole⟩
      · next oldCluster found =>
          split at stepped
          · exact Option.some.inj stepped ▸ ⟨name, sole⟩
          · next allowed =>
              refine Option.some.inj stepped ▸ ⟨name, sole.allow (fun _ named => by cases named) ?_⟩
              intro compared cluster same
              cases same
              have own := (state.store.named _ _ found).1
              refine ⟨own ▸ found, ?_⟩
              by_contra changed
              rw [Webhook.validateUpdate, if_pos (Ne.symm changed)] at allowed
              cases allowed
  | delete deleted =>
      refine Option.some.inj stepped ▸ ⟨name, sole.allow (fun _ named => by cases named) ?_⟩
      exact fun _ _ absurd => by cases absurd
  | persist index =>
      obtain ⟨admitted, found, rfl⟩ := Option.map_eq_some_iff.mp stepped
      exact ⟨name, (sole.persist (List.mem_of_getElem? found)).fewer
        fun _ member => List.mem_of_mem_eraseIdx member⟩
  | updateStatus cluster => exact Option.some.inj stepped ▸ ⟨name, sole.updateStatus cluster⟩

/-- In-cluster objects of one name are at most one. -/
theorem Sole.count_le_one (sole : state.Sole name) :
    ((GoMap.values state.store.clusters).filter fun c => c.spec.isInCluster).length ≤ 1 := by
  let inCluster := state.store.clusters.entries.filter fun entry => entry.2.spec.isInCluster
  have named : inCluster.map Sigma.fst = List.replicate inCluster.length name := by
    rw [List.eq_replicate_iff, List.length_map]
    refine ⟨rfl, fun key member => ?_⟩
    obtain ⟨entry, listed, rfl⟩ := List.mem_map.mp member
    obtain ⟨stored, held⟩ := List.mem_filter.mp listed
    exact sole.stored entry.1 entry.2 (AList.mem_lookup_iff.mpr stored) held
  have distinct : (inCluster.map Sigma.fst).Nodup :=
    List.NodupKeys.sublist List.filter_sublist state.store.clusters.nodupKeys
  rw [named, List.nodup_replicate] at distinct
  rw [GoMap.values, List.filter_map, List.length_map]
  exact distinct

/-- The store holds at most one in-cluster object in every state, when in-cluster objects of
different names are not admitted at the same time. -/
theorem run_soleInCluster (net : Net) (steps : List AdmissionStep) (final : Admission)
    (apart : (machine net).Guarded Apart initial steps)
    (reached : (machine net).run initial steps = some final) :
    ((GoMap.values final.store.clusters).filter fun c => c.spec.isInCluster).length ≤ 1 := by
  obtain ⟨name, sole⟩ := (machine net).run_invariant (Sole.step net) ⟨"", Sole.initial⟩ apart reached
  exact sole.count_le_one

end Admission

/-- No host of these examples is looked up. -/
def exampleNet : Net := ⟨fun _ => [], fun _ => [], fun _ => .ok none, fun _ => none⟩

def exampleInCluster (name : String) : Cluster where
  name := name
  resourceVersion := 0
  connectorMode := ""
  spec := ⟨true, "default", "default", "default", "", 80, ""⟩
  conditions := []

namespace Admission

/-- A second in-cluster object is refused once the first one is stored. -/
theorem run_soleInCluster_inTurn :
    ∃ final, (machine exampleNet).run initial
        [.create (exampleInCluster "local"), .persist 0, .create (exampleInCluster "other"),
          .update (exampleInCluster "local"), .persist 0] = some final ∧
      ((GoMap.values final.store.clusters).filter fun c => c.spec.isInCluster).length ≤ 1 :=
  ⟨_, rfl, run_soleInCluster exampleNet [.create (exampleInCluster "local"), .persist 0,
    .create (exampleInCluster "other"), .update (exampleInCluster "local"), .persist 0] _
    (by decide +kernel) rfl⟩

/-- Two in-cluster objects are admitted before either is stored, and both are stored. -/
theorem run_two_inCluster :
    ∃ final, (machine exampleNet).run initial
        [.create (exampleInCluster "local"), .create (exampleInCluster "other"), .persist 0,
          .persist 0] = some final ∧
      ((GoMap.values final.store.clusters).filter fun c => c.spec.isInCluster).length = 2 :=
  ⟨_, rfl, rfl⟩

end Admission
end ErieCanal.Cluster
