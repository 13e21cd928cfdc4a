import ErieCanal.Construction.Cluster.Federation
import ErieCanal.Proof.Cluster.ReconcilerRules

namespace ErieCanal.Cluster
open Lib Lib.Program Kube Config ClusterV1

/-- The connector works under the key, and reports under it when it is remote. -/
def ConnectorBackground.Keyed (bg : ConnectorBackground) (key : String) : Prop :=
  bg.context.clusterKey = key ∧ (bg.isInCluster = false → bg.context.connectorConfig.key = key)

namespace Manager

/-- Connectors, channels and goroutines stay as they are. -/
structure Untouched (before after : Manager) : Prop where
  backgrounds : after.backgrounds = before.backgrounds
  closes : after.closes = before.closes
  nextCh : after.nextCh = before.nextCh
  goroutines : after.goroutines = before.goroutines

/-- A new connector of the cluster runs and is recorded under its key. -/
structure Started (cluster : Cluster) (before after : Manager) : Prop where
  nextCh : after.nextCh = before.nextCh + 1
  goroutines : after.goroutines =
    before.goroutines ++ [⟨cluster.name, cluster.key, before.nextCh, .running⟩]
  recorded : ∃ bg : ConnectorBackground, bg.context.stopCh = before.nextCh ∧ bg.Keyed cluster.key ∧
    ∀ key, after.backgrounds.lookup key =
      if key = cluster.key then some bg else before.backgrounds.lookup key
  closes : after.closes = before.closes

/-- The connector under the key, if there is one, is stopped and forgotten. -/
def stopOld (manager : Manager) (key : String) : Manager :=
  match manager.backgrounds.lookup key with
  | none => manager
  | some bg => (manager.close bg.context.stopCh).delete key

/-- A successful reconcile finds no object, keeps the connector of its key or starts a new one. -/
inductive Reconciled (name : String) (before after : Manager) : Prop where
  | missing (gone : before.store.clusters.lookup name = none) (kept : before.Untouched after)
  | kept (cluster : Cluster) (found : before.store.clusters.lookup name = some cluster)
      (present : (before.backgrounds.lookup cluster.key).isSome) (kept : before.Untouched after)
  | started (cluster : Cluster) (found : before.store.clusters.lookup name = some cluster)
      (started : (before.stopOld cluster.key).Started cluster after)

end Manager

namespace ClusterReconciler
open Manager

theorem newConnector_ensures (settings : Settings) (cluster : Cluster) (manager : Manager) :
    Ensures Manager.serve (fun answer final => answer = .ok () → manager.Started cluster final)
      (newConnector settings cluster) manager := by
  refine newConnector_sound settings cluster (· = manager)
    (fun stop m => stop = manager.nextCh ∧ m = { manager with nextCh := manager.nextCh + 1 })
    (fun stop m => stop = manager.nextCh ∧ ∃ bg : ConnectorBackground, bg.context.stopCh = stop ∧
      bg.Keyed cluster.key ∧ m = { manager with
        nextCh := manager.nextCh + 1
        backgrounds := manager.backgrounds.insert cluster.key bg })
    (manager.Started cluster) (fun _ => trivial) ?_ ?_ ?_ ?_ ?_ ?_ ?_ ?_ ?_ ?_ ?_ manager rfl
  · rintro m _ held rfl
    exact held
  · rintro stop m _ held rfl
    exact held
  · rintro stop m _ held rfl
    exact held
  · rintro m _ held rfl
    exact held
  · rintro m rfl
    exact ⟨trivial, rfl, rfl⟩
  · rintro m bg ⟨stop, rfl⟩ keyed located
    exact ⟨trivial, stop, bg, rfl, ⟨keyed, located⟩, rfl⟩
  · rintro m stop ⟨rfl, bg, stopCh, keyed, rfl⟩
    refine ⟨trivial, rfl, rfl, ⟨bg, stopCh, keyed, fun key => ?_⟩, rfl⟩
    by_cases same : key = cluster.key
    · rw [if_pos same, same, AList.lookup_insert]
    · rw [if_neg same, AList.lookup_insert_ne same]
  · exact fun m store joined =>
      ⟨trivial, joined.nextCh, joined.goroutines, joined.recorded, joined.closes⟩
  · exact fun _ _ _ failed => nomatch failed
  · exact fun _ _ _ _ failed => nomatch failed
  · exact fun _ _ joined _ => joined

/-- A reconcile that is not disturbed ends in one of the three ways. -/
theorem reconcile_ensures (settings : Settings) (name : String) (manager : Manager)
    (unused : manager.backgrounds.lookup noCluster.key = none) :
    Ensures Manager.serve (fun answer final => answer = .ok () → manager.Reconciled name final)
      (reconcile settings name) manager := by
  refine reconcile_sound settings name (· = manager) (manager.store.clusters.lookup name = none)
    (fun cluster => manager.store.clusters.lookup name = some cluster)
    (fun cluster bg m => m = manager ∧ manager.backgrounds.lookup cluster.key = some bg)
    (fun cluster m => ∃ bg, manager.backgrounds.lookup cluster.key = some bg ∧
      m = manager.close bg.context.stopCh)
    (fun cluster m => m = manager.stopOld cluster.key) (fun _ => trivial)
    ?_ ?_ ?_ ?_ ?_ ?_ ?_ ?_ ?_ ?_ ?_ ?_ ?_ manager rfl
  · rintro m _ held rfl
    exact held
  · rintro cluster bg m _ held rfl
    exact held
  · rintro cluster m _ held rfl
    exact held
  · rintro m rfl
    exact unused
  · rintro m rfl gone
    exact gone
  · rintro m rfl gone -
    exact .missing gone ⟨rfl, rfl, rfl, rfl⟩
  · rintro m cluster rfl found
    exact found
  · rintro m cluster bg rfl found entry
    exact ⟨⟨rfl, entry⟩, fun _ => .kept cluster found (by rw [entry]; rfl) ⟨rfl, rfl, rfl, rfl⟩⟩
  · rintro m cluster rfl - absent
    rw [stopOld, absent]
  · rintro m cluster bg - ⟨rfl, entry⟩
    exact ⟨trivial, bg, entry, rfl⟩
  · rintro m cluster - ⟨bg, entry, rfl⟩
    refine ⟨trivial, ?_⟩
    rw [stopOld, entry]
  · rintro m cluster found rfl
    exact Ensures.weaken (newConnector_ensures settings cluster _) fun _ final started succeeded =>
      .started cluster found (started succeeded)
  · exact fun _ _ _ failed => nomatch failed

end ClusterReconciler

namespace Manager

/-- The invariant of a run of operations: every key that was applied has one connector, which is
the only one of its key that is not stopped. -/
structure Ledger (past : List ClusterOp) (manager : Manager) : Prop where
  unopened : ∀ stopCh, manager.nextCh ≤ stopCh → manager.closes stopCh = 0
  opened : ∀ runner ∈ manager.goroutines, runner.stopCh < manager.nextCh
  distinct : (manager.goroutines.map Runner.stopCh).Nodup
  named : ∀ runner ∈ manager.goroutines, KeyNamed runner.name runner.key
  entries : ∀ key bg, manager.backgrounds.lookup key = some bg → bg.Keyed key ∧
    manager.closes bg.context.stopCh = 0 ∧
    ∃ runner ∈ manager.goroutines, runner.stopCh = bg.context.stopCh ∧ runner.key = key
  recorded : ∀ runner ∈ manager.goroutines, manager.closes runner.stopCh = 0 →
    ∃ bg, manager.backgrounds.lookup runner.key = some bg ∧ bg.context.stopCh = runner.stopCh
  applied : ∀ runner ∈ manager.goroutines,
    ∃ cluster, .apply cluster ∈ past ∧ cluster.name = runner.name ∧ cluster.key = runner.key
  started : ∀ cluster, .apply cluster ∈ past →
    KeyNamed cluster.name cluster.key ∧ ∃ bg, manager.backgrounds.lookup cluster.key = some bg

section Ledger
variable {past : List ClusterOp} {manager next : Manager}

theorem Ledger.empty : Ledger [] empty where
  unopened := fun _ _ => rfl
  opened := fun _ member => nomatch member
  distinct := List.nodup_nil
  named := fun _ member => nomatch member
  entries := fun _ _ found => nomatch found
  recorded := fun _ member => nomatch member
  applied := fun _ member => nomatch member
  started := fun _ member => nomatch member

theorem Ledger.unused (ledger : manager.Ledger past) :
    manager.backgrounds.lookup ClusterReconciler.noCluster.key = none := by
  cases found : manager.backgrounds.lookup ClusterReconciler.noCluster.key with
  | none => rfl
  | some bg =>
      obtain ⟨-, -, runner, member, -, keyed⟩ := ledger.entries _ bg found
      exact absurd keyed (ledger.named runner member).ne_noCluster

/-- Two goroutines of one stop channel are the same. -/
theorem Ledger.runner_eq (ledger : manager.Ledger past) {first second : Runner}
    (one : first ∈ manager.goroutines) (other : second ∈ manager.goroutines)
    (same : first.stopCh = second.stopCh) : first = second :=
  List.inj_on_of_nodup_map ledger.distinct one other same

/-- A reconcile that touches nothing extends the past. -/
theorem Ledger.untouched (ledger : manager.Ledger past) (op : ClusterOp)
    (kept : manager.Untouched next)
    (present : ∀ cluster, op = .apply cluster → KeyNamed cluster.name cluster.key ∧
      ∃ bg, manager.backgrounds.lookup cluster.key = some bg) : next.Ledger (past ++ [op]) where
  unopened := by
    rw [kept.nextCh, kept.closes]
    exact ledger.unopened
  opened := by
    rw [kept.nextCh, kept.goroutines]
    exact ledger.opened
  distinct := by
    rw [kept.goroutines]
    exact ledger.distinct
  named := by
    rw [kept.goroutines]
    exact ledger.named
  entries := by
    rw [kept.backgrounds, kept.closes, kept.goroutines]
    exact ledger.entries
  recorded := by
    rw [kept.backgrounds, kept.closes, kept.goroutines]
    exact ledger.recorded
  applied := by
    rw [kept.goroutines]
    intro runner member
    obtain ⟨cluster, listed, same⟩ := ledger.applied runner member
    exact ⟨cluster, List.mem_append_left _ listed, same⟩
  started := by
    rw [kept.backgrounds]
    intro cluster listed
    rcases List.mem_append.mp listed with old | new
    · exact ledger.started cluster old
    · exact present cluster (List.mem_singleton.mp new).symm

@[simp] theorem stopOld_nextCh (manager : Manager) (key : String) :
    (manager.stopOld key).nextCh = manager.nextCh := by
  rw [stopOld]
  split <;> rfl

@[simp] theorem stopOld_goroutines (manager : Manager) (key : String) :
    (manager.stopOld key).goroutines = manager.goroutines := by
  rw [stopOld]
  split <;> rfl

theorem stopOld_lookup_ne (manager : Manager) {key other : String} (different : other ≠ key) :
    (manager.stopOld key).backgrounds.lookup other = manager.backgrounds.lookup other := by
  rw [stopOld]
  split
  · rfl
  · exact AList.lookup_erase_ne different

/-- Only the channel of the connector under the key is closed. -/
theorem stopOld_closes_eq_zero (manager : Manager) (key : String) (stopCh : Nat) :
    (manager.stopOld key).closes stopCh = 0 ↔ manager.closes stopCh = 0 ∧
      ∀ bg, manager.backgrounds.lookup key = some bg → bg.context.stopCh ≠ stopCh := by
  rw [stopOld]
  split
  · next absent => simp [absent]
  · next bg present =>
      by_cases same : bg.context.stopCh = stopCh
      · subst same
        simp [Manager.delete, Manager.close, present]
      · simp [Manager.delete, Manager.close, present, Function.update_of_ne (Ne.symm same), same]

section Restart
variable {cluster : Cluster} (started : (manager.stopOld cluster.key).Started cluster next)
include started

theorem Started.lookup_ne {key : String} (different : key ≠ cluster.key) :
    next.backgrounds.lookup key = manager.backgrounds.lookup key := by
  obtain ⟨bg, -, -, lookup⟩ := started.recorded
  rw [lookup, if_neg different, stopOld_lookup_ne manager different]

theorem Started.lookup_self : ∃ bg : ConnectorBackground, bg.context.stopCh = manager.nextCh ∧
    bg.Keyed cluster.key ∧ next.backgrounds.lookup cluster.key = some bg := by
  obtain ⟨bg, stopCh, keyed, lookup⟩ := started.recorded
  rw [stopOld_nextCh] at stopCh
  exact ⟨bg, stopCh, keyed, by rw [lookup, if_pos rfl]⟩

theorem Started.mem_goroutines (runner : Runner) : runner ∈ next.goroutines ↔
    runner ∈ manager.goroutines ∨
      runner = ⟨cluster.name, cluster.key, manager.nextCh, .running⟩ := by
  rw [started.goroutines, stopOld_goroutines, stopOld_nextCh, List.mem_append, List.mem_singleton]

theorem Started.closes_eq_zero (stopCh : Nat) : next.closes stopCh = 0 ↔
    manager.closes stopCh = 0 ∧
      ∀ bg, manager.backgrounds.lookup cluster.key = some bg → bg.context.stopCh ≠ stopCh := by
  rw [started.closes, stopOld_closes_eq_zero]

/-- The channels from the next one on stay open. -/
theorem Ledger.fresh (ledger : manager.Ledger past) (stopCh : Nat)
    (above : manager.nextCh ≤ stopCh) : next.closes stopCh = 0 := by
  refine (started.closes_eq_zero stopCh).mpr ⟨ledger.unopened stopCh above, fun old present => ?_⟩
  obtain ⟨-, -, runner, member, same, -⟩ := ledger.entries _ old present
  rw [← same]
  exact Nat.ne_of_lt (Nat.lt_of_lt_of_le (ledger.opened runner member) above)

/-- The entries of the other keys keep their open channels. -/
theorem Ledger.entry_other (ledger : manager.Ledger past) {key : String} {bg : ConnectorBackground}
    (different : key ≠ cluster.key) (found : manager.backgrounds.lookup key = some bg) :
    next.closes bg.context.stopCh = 0 := by
  obtain ⟨-, opened, runner, member, channel, here⟩ := ledger.entries key bg found
  refine (started.closes_eq_zero _).mpr ⟨opened, fun old present clash => different ?_⟩
  obtain ⟨-, -, owner, owns, owned, there⟩ := ledger.entries _ old present
  rw [← here, ← there,
    ledger.runner_eq member owns (channel.trans (clash.symm.trans owned.symm))]

/-- A new connector takes the place of the one under its key. -/
theorem Ledger.start (ledger : manager.Ledger past) {request : Cluster}
    (name : cluster.name = request.name) (key : cluster.key = request.key)
    (named : KeyNamed cluster.name cluster.key) : next.Ledger (past ++ [.apply request]) := by
  have nextCh := started.nextCh
  rw [stopOld_nextCh] at nextCh
  obtain ⟨bg, stopCh, keyed, lookup_self⟩ := started.lookup_self
  refine ⟨?_, ?_, ?_, ?_, ?_, ?_, ?_, ?_⟩
  · intro stopCh above
    rw [nextCh] at above
    exact ledger.fresh started stopCh (Nat.le_of_succ_le above)
  · intro runner member
    rw [nextCh]
    rcases (started.mem_goroutines runner).mp member with old | rfl
    · exact Nat.lt_succ_of_lt (ledger.opened runner old)
    · exact Nat.lt_succ_self _
  · rw [started.goroutines, stopOld_goroutines, stopOld_nextCh, List.map_append, List.nodup_append]
    refine ⟨ledger.distinct, List.nodup_singleton _, ?_⟩
    intro first listed second last
    obtain ⟨runner, member, rfl⟩ := List.mem_map.mp listed
    rw [List.map_singleton, List.mem_singleton] at last
    exact last ▸ Nat.ne_of_lt (ledger.opened runner member)
  · intro runner member
    rcases (started.mem_goroutines runner).mp member with old | rfl
    · exact ledger.named runner old
    · exact named
  · intro other entry found
    by_cases same : other = cluster.key
    · subst same
      obtain rfl := Option.some.inj (lookup_self.symm.trans found)
      exact ⟨keyed, stopCh ▸ ledger.fresh started _ (Nat.le_refl _),
        ⟨cluster.name, cluster.key, manager.nextCh, .running⟩,
        (started.mem_goroutines _).mpr (Or.inr rfl), stopCh.symm, rfl⟩
    · rw [started.lookup_ne same] at found
      obtain ⟨works, -, runner, member, channel, here⟩ := ledger.entries other entry found
      exact ⟨works, ledger.entry_other started same found, runner,
        (started.mem_goroutines _).mpr (Or.inl member), channel, here⟩
  · intro runner member opened
    rcases (started.mem_goroutines runner).mp member with old | rfl
    · obtain ⟨before, free⟩ := (started.closes_eq_zero _).mp opened
      obtain ⟨entry, found, channel⟩ := ledger.recorded runner old before
      refine ⟨entry, ?_, channel⟩
      rw [started.lookup_ne, found]
      intro same
      rw [same] at found
      exact free entry found channel
    · exact ⟨bg, lookup_self, stopCh⟩
  · intro runner member
    rcases (started.mem_goroutines runner).mp member with old | rfl
    · obtain ⟨earlier, listed, same⟩ := ledger.applied runner old
      exact ⟨earlier, List.mem_append_left _ listed, same⟩
    · exact ⟨request, List.mem_append_right _ (List.mem_singleton_self _), name.symm, key.symm⟩
  · intro other listed
    rcases List.mem_append.mp listed with old | new
    · obtain ⟨valid, entry, found⟩ := ledger.started other old
      refine ⟨valid, ?_⟩
      by_cases same : other.key = cluster.key
      · exact ⟨bg, same ▸ lookup_self⟩
      · exact ⟨entry, (started.lookup_ne same).trans found⟩
    · cases List.mem_singleton.mp new
      rw [name, key] at named
      exact ⟨named, bg, key ▸ lookup_self⟩

end Restart

/-- The ledger does not speak about the stored objects. -/
theorem Ledger.stored (ledger : manager.Ledger past) (store : ClusterStore) :
    ({ manager with store } : Manager).Ledger past :=
  ⟨ledger.unopened, ledger.opened, ledger.distinct, ledger.named, ledger.entries, ledger.recorded,
    ledger.applied, ledger.started⟩

/-- A successful reconcile took one of its three ways. -/
theorem Ledger.reconciled (ledger : manager.Ledger past) {settings : ClusterReconciler.Settings}
    {name : String} (succeeded : manager.reconciled settings name = some next) :
    manager.Reconciled name next := by
  rw [Manager.reconciled] at succeeded
  have ensured := (ClusterReconciler.reconcile_ensures settings name manager ledger.unused).execute
    fun _ => none
  split at succeeded
  · next executed =>
      obtain rfl := Option.some.inj succeeded
      rw [executed] at ensured
      exact ensured rfl
  · cases succeeded

/-- Every operation with its reconcile keeps the ledger. -/
theorem Ledger.step (settings : ClusterReconciler.Settings) (past : List ClusterOp)
    (manager : Manager) (op : ClusterOp) (next : Manager) (ledger : manager.Ledger past)
    (stepped : (lifecycle settings).step manager op = some next) : next.Ledger (past ++ [op]) := by
  cases op with
  | apply request =>
      obtain ⟨store, applied, succeeded⟩ := Option.bind_eq_some_iff.mp stepped
      obtain ⟨stored, found, key⟩ := ClusterStore.apply_eq_some applied
      have named := ClusterStore.keyNamed found
      have name := (store.named _ _ found).1
      have written := ledger.stored store
      cases written.reconciled succeeded with
      | missing gone kept => exact nomatch found.symm.trans gone
      | kept cluster read present kept =>
          obtain rfl := Option.some.inj (found.symm.trans read)
          refine written.untouched _ kept fun other same => ?_
          cases same
          exact ⟨key ▸ named, Option.isSome_iff_exists.mp (key ▸ present)⟩
      | started cluster read started =>
          obtain rfl := Option.some.inj (found.symm.trans read)
          exact written.start started name key (name.symm ▸ named)
  | delete name =>
      have written := ledger.stored (manager.store.delete name)
      cases written.reconciled stepped with
      | missing gone kept => exact written.untouched _ kept nofun
      | kept cluster read present kept => exact nomatch (AList.lookup_erase ..).symm.trans read
      | started cluster read started => exact nomatch (AList.lookup_erase ..).symm.trans read

theorem run_ledger (settings : ClusterReconciler.Settings) {ops : List ClusterOp}
    (reached : (lifecycle settings).run .empty ops = some next) : next.Ledger ops :=
  (lifecycle settings).run_history (Ledger.step settings) Ledger.empty reached

/-- The federation sees a connector with what its cluster's mesh config says. -/
def background (isManaged : ConnectorContext → Bool) (bg : ConnectorBackground) : Background :=
  ⟨bg.isInCluster, isManaged bg.context, ⟨bg.context⟩⟩

/-- Every run leaves the connectors of a control plane of the federation. -/
theorem run_controlPlane (settings : ClusterReconciler.Settings)
    (isManaged : ConnectorContext → Bool) {ops : List ClusterOp}
    (reached : (lifecycle settings).run .empty ops = some next) :
    ∃ plane : ControlPlane, plane.mesh = settings.mesh ∧
      plane.backgrounds = GoMap.mapValues (background isManaged) next.backgrounds := by
  have keyed {key : String} {seen : Background}
      (found : (GoMap.mapValues (background isManaged) next.backgrounds).lookup key = some seen) :
      ∃ bg : ConnectorBackground, bg.Keyed key ∧ background isManaged bg = seen := by
    rw [GoMap.lookup_mapValues] at found
    obtain ⟨bg, entry, same⟩ := Option.map_eq_some_iff.mp found
    exact ⟨bg, ((run_ledger settings reached).entries key bg entry).1, same⟩
  refine ⟨⟨settings.mesh, _, ?_, ?_⟩, rfl, rfl⟩
  · intro key seen found
    obtain ⟨bg, works, rfl⟩ := keyed found
    exact works.1
  · intro key seen found remote
    obtain ⟨bg, works, rfl⟩ := keyed found
    exact works.2 remote

/-- The entry of an applied object belongs to a goroutine of its name. -/
theorem Ledger.owner (ledger : manager.Ledger past) {cluster : Cluster}
    (listed : .apply cluster ∈ past) :
    ∃ bg, manager.backgrounds.lookup cluster.key = some bg ∧
      manager.closes bg.context.stopCh = 0 ∧ ∃ runner ∈ manager.goroutines,
        runner.stopCh = bg.context.stopCh ∧ runner.key = cluster.key ∧ runner.name = cluster.name := by
  obtain ⟨named, bg, found⟩ := ledger.started cluster listed
  obtain ⟨-, opened, runner, member, channel, key⟩ := ledger.entries _ bg found
  refine ⟨bg, found, opened, runner, member, channel, key, ?_⟩
  exact (key ▸ ledger.named runner member).unique named

end Ledger

/-- No recorded connector was started for the name, and every one that was started is stopped. -/
def Stopped (manager : Manager) (name : String) : Prop :=
  (∀ key bg, manager.backgrounds.lookup key = some bg →
    ∀ runner ∈ manager.goroutines, runner.stopCh = bg.context.stopCh → runner.name ≠ name) ∧
  ∀ runner ∈ manager.goroutines, runner.name = name → 0 < manager.closes runner.stopCh

/-- The connector was started for the name, is not stopped and is the recorded one of its key. -/
def Running (manager : Manager) (name : String) (runner : Runner) : Prop :=
  runner ∈ manager.goroutines ∧ runner.name = name ∧ manager.closes runner.stopCh = 0 ∧
    ∃ bg, manager.backgrounds.lookup runner.key = some bg ∧ bg.context.stopCh = runner.stopCh

/-- The deletion of an object stops its connector only when there never was one. -/
theorem run_delete_stops_iff (settings : ClusterReconciler.Settings) (ops : List ClusterOp)
    (name : String) (final : Manager)
    (reached : (lifecycle settings).run .empty (ops ++ [.delete name]) = some final) :
    final.Stopped name ↔ ∀ cluster, .apply cluster ∈ ops → cluster.name ≠ name := by
  have ledger := run_ledger settings reached
  constructor
  · rintro ⟨unrecorded, -⟩ cluster listed named
    obtain ⟨bg, found, -, runner, member, channel, -, same⟩ :=
      ledger.owner (List.mem_append_left _ listed)
    exact unrecorded _ bg found runner member channel (same.trans named)
  · intro never
    have unstarted (runner : Runner) (member : runner ∈ final.goroutines) : runner.name ≠ name := by
      obtain ⟨cluster, listed, same, -⟩ := ledger.applied runner member
      rcases List.mem_append.mp listed with old | new
      · exact same ▸ never cluster old
      · cases List.mem_singleton.mp new
    exact ⟨fun _ _ _ runner member _ => unstarted runner member,
      fun runner member named => absurd named (unstarted runner member)⟩

/-- Every host of these examples is the address 10.0.0.1, and the gateway port decides the hash. -/
def exampleSettings : ClusterReconciler.Settings where
  net := ⟨fun _ => [], fun _ => [], fun _ => .ok none, fun _ => some ⟨10, 0, 0, 1⟩⟩
  mesh := {
    isManaged := false, region := "default", zone := "default", group := "default"
    name := "local", uid := "uid", controlPlaneUID := "" }
  hash := fun spec => UInt64.ofNat spec.gatewayPort.toNat

def exampleCluster (name region : String) (gatewayPort : Int) : Cluster where
  name := name
  resourceVersion := 0
  connectorMode := ""
  spec := ⟨false, region, "default", "default", "10.0.0.1", gatewayPort, "kubeconfig"⟩
  conditions := []

/-- Nothing was started for a name that was never applied. -/
theorem run_delete_stops_unknown :
    ∃ final, (lifecycle exampleSettings).run .empty
        ([.apply (exampleCluster "a" "default" 80)] ++ [.delete "b"]) = some final ∧
      final.Stopped "b" := by
  refine ⟨_, rfl, (run_delete_stops_iff exampleSettings
    [.apply (exampleCluster "a" "default" 80)] "b" _ rfl).mpr fun cluster listed => ?_⟩
  cases List.mem_singleton.mp listed
  decide

/-- The connector of cluster `a` stays recorded and open after the deletion. -/
theorem run_delete_keeps_connector :
    ∃ final, (lifecycle exampleSettings).run .empty
        [.apply (exampleCluster "a" "default" 80), .delete "a"] = some final ∧
      ¬ final.Stopped "a" := by
  refine ⟨_, rfl, fun stopped => ?_⟩
  exact stopped.1 (exampleCluster "a" "default" 80).key _ rfl _ List.mem_cons_self rfl rfl

/-- At most one connector runs for a name exactly when all its objects have had one key. -/
theorem run_oneConnector_iff (settings : ClusterReconciler.Settings) (ops : List ClusterOp)
    (final : Manager) (reached : (lifecycle settings).run .empty ops = some final) (name : String) :
    (∀ first second, final.Running name first → final.Running name second → first = second) ↔
      ∀ first second, .apply first ∈ ops → .apply second ∈ ops → first.name = name →
        second.name = name → first.key = second.key := by
  have ledger := run_ledger settings reached
  constructor
  · intro unique first second one other named named'
    have running {cluster : Cluster} (listed : .apply cluster ∈ ops) (named : cluster.name = name) :
        ∃ runner, final.Running name runner ∧ runner.key = cluster.key := by
      obtain ⟨bg, found, opened, runner, member, channel, key, same⟩ := ledger.owner listed
      exact ⟨runner, ⟨member, same.trans named, channel ▸ opened, bg, key ▸ found, channel.symm⟩, key⟩
    obtain ⟨runner, runs, key⟩ := running one named
    obtain ⟨runner', runs', key'⟩ := running other named'
    rw [← key, ← key', unique runner runner' runs runs']
  · rintro same first second ⟨one, named, -, bg, found, channel⟩
      ⟨other, named', -, bg', found', channel'⟩
    obtain ⟨cluster, listed, name_eq, key⟩ := ledger.applied first one
    obtain ⟨cluster', listed', name_eq', key'⟩ := ledger.applied second other
    have keys := same cluster cluster' listed listed' (name_eq.trans named) (name_eq'.trans named')
    rw [← key', ← keys, key, found, Option.some.injEq] at found'
    exact ledger.runner_eq one other (by rw [← channel, ← channel', found'])

/-- A new gateway port keeps the key, so that the second connector replaces the first. -/
theorem run_oneConnector_port :
    ∃ final, (lifecycle exampleSettings).run .empty
        [.apply (exampleCluster "a" "default" 80), .apply (exampleCluster "a" "default" 81)] =
          some final ∧
      ∀ first second, final.Running "a" first → final.Running "a" second → first = second := by
  refine ⟨_, rfl, (run_oneConnector_iff exampleSettings [.apply (exampleCluster "a" "default" 80),
    .apply (exampleCluster "a" "default" 81)] _ rfl "a").mpr fun first second one other _ _ => ?_⟩
  have keyed (cluster : Cluster) (listed : ClusterOp.apply cluster ∈
      [.apply (exampleCluster "a" "default" 80), .apply (exampleCluster "a" "default" 81)]) :
      cluster.key = (exampleCluster "a" "default" 80).key := by
    rcases List.mem_cons.mp listed with same | listed
    · cases same
      rfl
    · cases List.mem_singleton.mp listed
      rfl
  rw [keyed first one, keyed second other]

/-- A new region changes the key, so that two connectors run for one cluster. -/
theorem run_twoConnectors_region :
    ∃ final, (lifecycle exampleSettings).run .empty
        [.apply (exampleCluster "a" "default" 80), .apply (exampleCluster "a" "west" 80)] =
          some final ∧
      ∃ first second, final.Running "a" first ∧ final.Running "a" second ∧ first ≠ second := by
  refine ⟨_, rfl, ⟨"a", (exampleCluster "a" "default" 80).key, 0, .running⟩,
    ⟨"a", (exampleCluster "a" "west" 80).key, 1, .running⟩, ?_, ?_, by decide⟩
  · exact ⟨List.mem_cons_self, rfl, rfl, _, rfl, rfl⟩
  · exact ⟨List.mem_cons_of_mem _ List.mem_cons_self, rfl, rfl, _, rfl, rfl⟩

end Manager
end ErieCanal.Cluster
