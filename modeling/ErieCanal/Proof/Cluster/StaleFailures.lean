import ErieCanal.Proof.Cluster.ConnectorLifecycle
import ErieCanal.Proof.Cluster.StopChannels

namespace ErieCanal.Cluster
open Lib Lib.Program Kube Config ClusterV1

namespace Manager
variable {manager after : Manager} {spared : String → Nat → Prop}

section Reconcile
variable {key : String} {bg : ConnectorBackground} {stop : Nat}

/-- The reconcile closes an entry that nobody else closes. -/
theorem Orderly.closeSpared (orderly : manager.Orderly spared)
    (entry : manager.backgrounds.lookup key = some bg) (free : spared key bg.context.stopCh)
    (opened : manager.closes bg.context.stopCh = 0) :
    (manager.close bg.context.stopCh).Orderly spared := by
  refine ⟨orderly.toAllotted.close (orderly.entries key bg entry).1, ?_, ?_, orderly.cleaning, ?_⟩
  · intro stopCh
    by_cases same : stopCh = bg.context.stopCh
    · rw [same, close_closes_self, opened]
    · rw [close_closes_ne manager same]
      exact orderly.closedOnce stopCh
  · intro runner member error closing
    rw [close_closes_ne]
    · exact orderly.closing runner member error closing
    · intro same
      obtain rfl := orderly.keyed key bg entry runner member same
      exact (orderly.cleaning runner member (cleansUp_of_closing closing)).2 (same ▸ free)
  · intro other bg' found unspared
    rw [close_closes_ne]
    · exact orderly.recorded other bg' found unspared
    · intro same
      obtain rfl := orderly.single other key bg' bg found entry same
      exact unspared (same ▸ free)

/-- The reconcile removes an entry that nobody else removes. -/
theorem Orderly.deleteSpared (orderly : manager.Orderly spared)
    (free : ∀ bg, manager.backgrounds.lookup key = some bg → spared key bg.context.stopCh) :
    (manager.delete key).Orderly spared := by
  refine ⟨orderly.toAllotted.delete key, orderly.closedOnce, orderly.closing, ?_, ?_⟩
  · intro runner member cleans
    obtain ⟨owns, allowed⟩ := orderly.cleaning runner member cleans
    obtain ⟨bg, entry, channel⟩ := owns_iff.mp owns
    refine ⟨owns_iff.mpr ⟨bg, (lookup_delete_ne ?_).trans entry, channel⟩, allowed⟩
    rintro rfl
    exact allowed (channel ▸ free bg entry)
  · intro other bg found unspared
    exact orderly.recorded other bg (lookup_of_delete found).2 unspared

theorem Orderly.register (orderly : manager.Orderly spared) :
    ({ manager with nextCh := manager.nextCh + 1 } : Manager).Orderly spared where
  unopened := fun stopCh above => orderly.unopened stopCh (Nat.le_of_succ_le above)
  opened := fun runner member => Nat.lt_succ_of_lt (orderly.opened runner member)
  named := orderly.named
  distinct := orderly.distinct
  entries := fun key bg entry =>
    ⟨Nat.lt_succ_of_lt (orderly.entries key bg entry).1, (orderly.entries key bg entry).2⟩
  keyed := orderly.keyed
  single := orderly.single
  closedOnce := orderly.closedOnce
  closing := orderly.closing
  cleaning := orderly.cleaning
  recorded := orderly.recorded

/-- No goroutine and no entry has the channel, and it is open. -/
structure Unused (stop : Nat) (manager : Manager) : Prop where
  below : stop < manager.nextCh
  unstarted : stop ∉ manager.goroutines.map Runner.stopCh
  unrecorded : ∀ key bg, manager.backgrounds.lookup key = some bg → bg.context.stopCh ≠ stop
  opened : manager.closes stop = 0

/-- A channel that was just registered is unused. -/
theorem Orderly.unused (orderly : manager.Orderly spared) :
    ({ manager with nextCh := manager.nextCh + 1 } : Manager).Unused manager.nextCh where
  below := Nat.lt_succ_self _
  unstarted := by
    intro member
    obtain ⟨runner, listed, same⟩ := List.mem_map.mp member
    exact Nat.ne_of_lt (orderly.opened runner listed) same
  unrecorded := fun key bg found => Nat.ne_of_lt (orderly.entries key bg found).1
  opened := orderly.unopened _ (Nat.le_refl _)

/-- The key that the reconciler destroys has no entry. -/
theorem Orderly.lookup_noCluster (orderly : manager.Orderly spared) :
    manager.backgrounds.lookup ClusterReconciler.noCluster.key = none := by
  cases found : manager.backgrounds.lookup ClusterReconciler.noCluster.key with
  | none => rfl
  | some bg =>
      obtain ⟨name, named⟩ := (orderly.entries _ bg found).2
      exact absurd rfl named.ne_noCluster

theorem lookup_of_insert {other : String} {bg' : ConnectorBackground}
    (found : (manager.backgrounds.insert key bg).lookup other = some bg') :
    (other = key ∧ bg' = bg) ∨ (other ≠ key ∧ manager.backgrounds.lookup other = some bg') := by
  by_cases same : other = key
  · subst same
    rw [AList.lookup_insert, Option.some.injEq] at found
    exact Or.inl ⟨rfl, found.symm⟩
  · rw [AList.lookup_insert_ne same] at found
    exact Or.inr ⟨same, found⟩

/-- A new entry has a channel of its own. -/
theorem Orderly.record (orderly : manager.Orderly spared) {name : String}
    (named : KeyNamed name key) (absent : manager.backgrounds.lookup key = none)
    (unused : manager.Unused bg.context.stopCh) :
    ({ manager with backgrounds := manager.backgrounds.insert key bg } : Manager).Orderly spared where
  unopened := orderly.unopened
  opened := orderly.opened
  named := orderly.named
  distinct := orderly.distinct
  entries := by
    intro other bg' found
    rcases lookup_of_insert found with ⟨rfl, rfl⟩ | ⟨-, old⟩
    · exact ⟨unused.below, name, named⟩
    · exact orderly.entries other bg' old
  keyed := by
    intro other bg' found runner member same
    rcases lookup_of_insert found with ⟨rfl, rfl⟩ | ⟨-, old⟩
    · exact absurd (List.mem_map.mpr ⟨runner, member, same⟩) unused.unstarted
    · exact orderly.keyed other bg' old runner member same
  single := by
    intro first second bg₁ bg₂ found₁ found₂ same
    rcases lookup_of_insert found₁ with ⟨rfl, rfl⟩ | ⟨-, old₁⟩
    · rcases lookup_of_insert found₂ with ⟨rfl, rfl⟩ | ⟨-, old₂⟩
      · rfl
      · exact absurd same.symm (unused.unrecorded second bg₂ old₂)
    · rcases lookup_of_insert found₂ with ⟨rfl, rfl⟩ | ⟨-, old₂⟩
      · exact absurd same (unused.unrecorded first bg₁ old₁)
      · exact orderly.single first second bg₁ bg₂ old₁ old₂ same
  closedOnce := orderly.closedOnce
  closing := orderly.closing
  cleaning := by
    intro runner member cleans
    obtain ⟨owns, allowed⟩ := orderly.cleaning runner member cleans
    obtain ⟨own, entry, channel⟩ := owns_iff.mp owns
    refine ⟨owns_iff.mpr ⟨own, (AList.lookup_insert_ne ?_).trans entry, channel⟩, allowed⟩
    rintro rfl
    exact nomatch absent.symm.trans entry
  recorded := by
    intro other bg' found unspared
    rcases lookup_of_insert found with ⟨rfl, rfl⟩ | ⟨-, old⟩
    · exact Or.inl unused.opened
    · exact orderly.recorded other bg' old unspared

/-- A new goroutine has a channel of its own. -/
theorem Orderly.goRun (orderly : manager.Orderly spared) {name : String}
    (named : KeyNamed name key) (below : stop < manager.nextCh)
    (unstarted : stop ∉ manager.goroutines.map Runner.stopCh)
    (placed : ∀ other bg, manager.backgrounds.lookup other = some bg →
      bg.context.stopCh = stop → other = key) :
    ({ manager with
      goroutines := manager.goroutines ++ [⟨name, key, stop, .running⟩] } : Manager).Orderly
        spared := by
  have members {runner : Runner}
      (member : runner ∈ manager.goroutines ++ [⟨name, key, stop, .running⟩]) :
      runner ∈ manager.goroutines ∨ runner = ⟨name, key, stop, .running⟩ :=
    (List.mem_append.mp member).imp_right List.mem_singleton.mp
  refine ⟨⟨orderly.unopened, ?_, ?_, ?_, orderly.entries, ?_, orderly.single⟩,
    orderly.closedOnce, ?_, ?_, ?_⟩
  · intro runner member
    rcases members member with old | rfl
    · exact orderly.opened runner old
    · exact below
  · intro runner member
    rcases members member with old | rfl
    · exact orderly.named runner old
    · exact named
  · rw [List.map_append, List.map_singleton, ← List.concat_eq_append]
    exact orderly.distinct.concat unstarted
  · intro other bg found runner member same
    rcases members member with old | rfl
    · exact orderly.keyed other bg found runner old same
    · exact (placed other bg found same.symm).symm
  · intro runner member error closing
    rcases members member with old | rfl
    · exact orderly.closing runner old error closing
    · cases closing
  · intro runner member cleans
    rcases members member with old | rfl
    · exact orderly.cleaning runner old cleans
    · cases cleans
  · intro other bg found unspared
    refine (orderly.recorded other bg found unspared).imp_right fun ⟨runner, old, rest⟩ => ?_
    exact ⟨runner, List.mem_append_left _ old, rest⟩

end Reconcile

/-- An undisturbed entry that may be closed is still open. -/
theorem Calm.stable {some_spared : String → Nat → Prop} (calm : manager.Calm some_spared)
    (weaker : ∀ key stopCh, some_spared key stopCh → spared key stopCh)
    (undisturbed : manager.Undisturbed spared after) : after.Calm some_spared := by
  intro key bg found free
  have old := undisturbed.shrinks key bg found
  rw [undisturbed.closes key bg old (weaker _ _ free)]
  exact calm key bg old free

theorem Undisturbed.absent (undisturbed : manager.Undisturbed spared after) {key : String}
    (absent : manager.backgrounds.lookup key = none) : after.backgrounds.lookup key = none := by
  cases found : after.backgrounds.lookup key with
  | none => rfl
  | some bg => exact nomatch absent.symm.trans (undisturbed.shrinks key bg found)

theorem Unused.stable {stop : Nat} (unused : manager.Unused stop)
    (undisturbed : manager.Undisturbed spared after) : after.Unused stop where
  below := undisturbed.nextCh ▸ unused.below
  unstarted := undisturbed.stopChs ▸ unused.unstarted
  unrecorded := fun key bg found => unused.unrecorded key bg (undisturbed.shrinks key bg found)
  opened := (undisturbed.unstarted stop unused.unstarted).trans unused.opened

/-- Once the reconcile is over, no entry is spared. -/
theorem Orderly.release (orderly : manager.Orderly spared) (calm : manager.Calm spared) :
    manager.Orderly fun _ _ => False := by
  refine ⟨orderly.toAllotted, orderly.closedOnce, orderly.closing, ?_, ?_⟩
  · exact fun runner member cleans => ⟨(orderly.cleaning runner member cleans).1, id⟩
  · intro key bg found _
    by_cases free : spared key bg.context.stopCh
    · exact Or.inl (calm key bg found free)
    · exact orderly.recorded key bg found free

/-- A reconcile may close the entries of its name that were there when it began. -/
def spares (name : String) (began : Nat) (key : String) (stopCh : Nat) : Prop :=
  KeyNamed name key ∧ stopCh < began

/-- Between two calls of a reconcile the other goroutines keep the channels in order. -/
def rely (spared : String → Nat → Prop) (before after : Manager) : Prop :=
  before.Orderly spared → after.Orderly spared ∧ before.Undisturbed spared after

def guarantee (spared : String → Nat → Prop) (before after : Manager) : Prop :=
  before.Orderly spared → after.Orderly spared

/-- The channels are in order, and the reconcile has not closed any of them. -/
def Quiet (spared : String → Nat → Prop) (manager : Manager) : Prop :=
  manager.Orderly spared ∧ manager.Calm spared

/-- A reconcile can begin when no goroutine of its name cleans up. -/
theorem Orderly.begin (orderly : manager.Orderly fun _ _ => False) {name : String}
    (idle : ∀ runner ∈ manager.goroutines, runner.name = name → runner.cleansUp = false) :
    manager.Quiet (spares name manager.nextCh) := by
  have quiet {runner : Runner} (member : runner ∈ manager.goroutines)
      (cleans : runner.cleansUp = true) (named : KeyNamed name runner.key) : False := by
    have same := (orderly.named runner member).unique named
    exact Bool.false_ne_true ((idle runner member same).symm.trans cleans)
  refine ⟨⟨orderly.toAllotted, orderly.closedOnce, orderly.closing, ?_, ?_⟩, ?_⟩
  · exact fun runner member cleans =>
      ⟨(orderly.cleaning runner member cleans).1, fun free => quiet member cleans free.1⟩
  · exact fun key bg found _ => orderly.recorded key bg found id
  · intro key bg found free
    rcases orderly.recorded key bg found id with opened | ⟨runner, member, same, error, deleting⟩
    · exact opened
    · obtain rfl := orderly.keyed key bg found runner member same
      exact (quiet member (cleansUp_of_deleting deleting) free.1).elim

theorem Quiet.interfered (quiet : manager.Quiet spared) (interfered : rely spared manager after) :
    after.Quiet spared ∧ manager.Undisturbed spared after := by
  obtain ⟨orderly, undisturbed⟩ := interfered quiet.1
  exact ⟨⟨orderly, quiet.2.stable (fun _ _ free => free) undisturbed⟩, undisturbed⟩

end Manager

namespace ClusterReconciler
open Manager

/-- A new connector keeps the channels in order. -/
theorem newConnector_orderly (settings : Settings) (cluster : Cluster) {manager : Manager}
    {spared : String → Nat → Prop} (named : KeyNamed cluster.name cluster.key)
    (quiet : manager.Quiet spared) (absent : manager.backgrounds.lookup cluster.key = none) :
    Sound Manager.serve (rely spared) (guarantee spared) (fun _ final => final.Calm spared)
      (newConnector settings cluster) manager := by
  refine newConnector_sound settings cluster
    (fun m => m.Quiet spared ∧ m.backgrounds.lookup cluster.key = none)
    (fun stop m => m.Quiet spared ∧ m.backgrounds.lookup cluster.key = none ∧ m.Unused stop)
    (fun stop m => m.Quiet spared ∧ stop < m.nextCh ∧ stop ∉ m.goroutines.map Runner.stopCh ∧
      ∀ other bg, m.backgrounds.lookup other = some bg → bg.context.stopCh = stop →
        other = cluster.key)
    (Quiet spared) (fun _ orderly => orderly) ?_ ?_ ?_ ?_ ?_ ?_ ?_ ?_ ?_ ?_ ?_ manager ⟨quiet, absent⟩
  · rintro m m' ⟨quiet, absent⟩ interfered
    obtain ⟨still, undisturbed⟩ := quiet.interfered interfered
    exact ⟨still, undisturbed.absent absent⟩
  · rintro stop m m' ⟨quiet, absent, unused⟩ interfered
    obtain ⟨still, undisturbed⟩ := quiet.interfered interfered
    exact ⟨still, undisturbed.absent absent, unused.stable undisturbed⟩
  · rintro stop m m' ⟨quiet, below, unstarted, placed⟩ interfered
    obtain ⟨still, undisturbed⟩ := quiet.interfered interfered
    exact ⟨still, undisturbed.nextCh ▸ below, undisturbed.stopChs ▸ unstarted,
      fun other bg found => placed other bg (undisturbed.shrinks other bg found)⟩
  · exact fun m m' quiet interfered => (quiet.interfered interfered).1
  · rintro m ⟨⟨orderly, calm⟩, absent⟩
    exact ⟨fun _ => orderly.register, ⟨orderly.register, calm⟩, absent, orderly.unused⟩
  · rintro m bg ⟨⟨orderly, calm⟩, absent, unused⟩ - -
    have recorded := orderly.record named absent unused
    refine ⟨fun _ => recorded, ⟨recorded, ?_⟩, unused.below, unused.unstarted, ?_⟩
    · intro other bg' found free
      rcases lookup_of_insert found with ⟨rfl, rfl⟩ | ⟨-, old⟩
      · exact unused.opened
      · exact calm other bg' old free
    · intro other bg' found same
      rcases lookup_of_insert found with ⟨here, -⟩ | ⟨-, old⟩
      · exact here
      · exact absurd same (unused.unrecorded other bg' old)
  · rintro m stop ⟨⟨orderly, calm⟩, below, unstarted, placed⟩
    have running := orderly.goRun named below unstarted placed
    exact ⟨fun _ => running, running, calm⟩
  · rintro m store ⟨orderly, calm⟩
    exact ⟨fun _ => orderly.stored store, orderly.stored store, calm⟩
  · exact fun _ _ opened => opened.1.2
  · exact fun _ _ _ fresh => fresh.1.2
  · exact fun _ _ quiet => quiet.2

/-- A reconcile of a name whose goroutines do not clean up keeps the channels in order. -/
theorem reconcile_orderly (settings : Settings) {name : String} {began : Nat} {manager : Manager}
    (quiet : manager.Quiet (spares name began)) (begins : manager.nextCh = began) :
    Sound Manager.serve (rely (spares name began)) (guarantee (spares name began))
      (fun _ final => final.Calm (spares name began)) (reconcile settings name) manager := by
  let elsewhere (cluster : Cluster) (key : String) (stopCh : Nat) : Prop :=
    key ≠ cluster.key ∧ spares name began key stopCh
  refine reconcile_sound settings name
    (fun m => m.Quiet (spares name began) ∧ m.nextCh = began) True
    (fun cluster => cluster.name = name ∧ KeyNamed name cluster.key)
    (fun cluster bg m => m.Quiet (spares name began) ∧
      m.backgrounds.lookup cluster.key = some bg ∧ spares name began cluster.key bg.context.stopCh)
    (fun cluster m => m.Orderly (spares name began) ∧ m.Calm (elsewhere cluster) ∧
      ∀ bg, m.backgrounds.lookup cluster.key = some bg →
        spares name began cluster.key bg.context.stopCh)
    (fun cluster m => m.Quiet (spares name began) ∧ m.backgrounds.lookup cluster.key = none)
    (fun _ orderly => orderly) ?_ ?_ ?_ ?_ ?_ ?_ ?_ ?_ ?_ ?_ ?_ ?_ ?_ manager ⟨quiet, begins⟩
  · rintro m m' ⟨quiet, begins⟩ interfered
    obtain ⟨still, undisturbed⟩ := quiet.interfered interfered
    exact ⟨still, undisturbed.nextCh.trans begins⟩
  · rintro cluster bg m m' ⟨quiet, entry, free⟩ interfered
    obtain ⟨still, undisturbed⟩ := quiet.interfered interfered
    exact ⟨still, undisturbed.kept _ bg entry free, free⟩
  · rintro cluster m m' ⟨orderly, calm, free⟩ interfered
    obtain ⟨still, undisturbed⟩ := interfered orderly
    exact ⟨still, calm.stable (fun _ _ elsewhere => elsewhere.2) undisturbed,
      fun bg found => free bg (undisturbed.shrinks _ bg found)⟩
  · exact fun _ before => before.1.1.lookup_noCluster
  · exact fun _ _ _ => trivial
  · exact fun _ before _ => before.1.2
  · exact fun m cluster _ found => ⟨(m.store.named _ _ found).1, ClusterStore.keyNamed found⟩
  · rintro m cluster bg ⟨quiet, rfl⟩ ⟨-, named⟩ entry
    exact ⟨⟨quiet, entry, named, (quiet.1.entries _ bg entry).1⟩, quiet.2⟩
  · exact fun _ _ before _ absent => ⟨before.1, absent⟩
  · rintro m cluster bg - ⟨⟨orderly, calm⟩, entry, free⟩
    have closed := orderly.closeSpared entry free (calm _ bg entry free)
    refine ⟨fun _ => closed, closed, ?_, ?_⟩
    · rintro key other found ⟨different, listed⟩
      rw [close_closes_ne]
      · exact calm key other found listed
      · exact fun same => different (orderly.single key _ other bg found entry same)
    · intro other found
      rw [← Option.some.inj (entry.symm.trans found)]
      exact free
  · rintro m cluster - ⟨orderly, calm, free⟩
    have removed := orderly.deleteSpared free
    refine ⟨fun _ => removed, ⟨removed, ?_⟩, AList.lookup_erase ..⟩
    intro key bg found listed
    obtain ⟨different, old⟩ := lookup_of_delete found
    exact calm key bg old ⟨different, listed⟩
  · rintro m cluster ⟨rfl, named⟩ ⟨quiet, absent⟩
    exact newConnector_orderly settings cluster named quiet absent
  · exact fun _ _ before => before.1.2

end ClusterReconciler

namespace Manager

/-- No stop channel was closed twice, and a failed goroutine removes no entry but its own. -/
structure Harmless (manager : Manager) : Prop where
  closedOnce : ∀ stopCh, manager.closes stopCh ≤ 1
  removesOwn : ∀ index runner next, manager.goroutines[index]? = some runner →
    ManagerProcess.cleanup manager index = some next → ∀ key bg,
    manager.backgrounds.lookup key = some bg → next.backgrounds.lookup key = none →
    bg.context.stopCh = runner.stopCh

theorem Orderly.harmless {manager : Manager} {spared : String → Nat → Prop}
    (orderly : manager.Orderly spared) : manager.Harmless := by
  refine ⟨orderly.closedOnce, ?_⟩
  intro index runner next found cleaned key bg entry gone
  rw [ManagerProcess.cleanup, found] at cleaned
  simp only at cleaned
  split at cleaned
  · obtain rfl := Option.some.inj cleaned
    cases entry.symm.trans gone
  · next error deleting =>
      obtain rfl := Option.some.inj cleaned
      have member := List.mem_of_getElem? found
      obtain ⟨own, mine, channel⟩ :=
        owns_iff.mp (orderly.cleaning runner member (cleansUp_of_deleting deleting)).1
      by_cases same : key = runner.key
      · rw [same, mine, Option.some.injEq] at entry
        rw [← entry, channel]
      · cases entry.symm.trans ((lookup_delete_ne same).symm.trans gone)
  · cases cleaned

end Manager

namespace ManagerProcess
open Manager

/-- The entries that the reconcile in progress may close. -/
def spared (process : ManagerProcess) : String → Nat → Prop :=
  match process.reconciling with
  | none => fun _ _ => False
  | some active => spares active.name active.began

/-- A connector fails while it is the recorded one of its key and no reconcile of its cluster is
in progress but the one that started it; and a reconcile of a cluster waits until its failed
goroutines have cleaned up. -/
def FailsAlone (process : ManagerProcess) : ManagerStep → Prop
  | .reconcile name =>
      ∀ runner ∈ process.manager.goroutines, runner.name = name → runner.cleansUp = false
  | .runFails index _ => ∀ runner ∈ process.manager.goroutines[index]?,
      process.manager.Owns runner ∧
        ∀ active ∈ process.reconciling, active.name = runner.name → active.began ≤ runner.stopCh
  | _ => True

instance (process : ManagerProcess) : ∀ step, Decidable (process.FailsAlone step)
  | .reconcile name => inferInstanceAs (Decidable
      (∀ runner ∈ process.manager.goroutines, runner.name = name → runner.cleansUp = false))
  | .runFails index _ => inferInstanceAs (Decidable
      (∀ runner ∈ process.manager.goroutines[index]?, process.manager.Owns runner ∧
        ∀ active ∈ process.reconciling, active.name = runner.name → active.began ≤ runner.stopCh))
  | .apply _ | .delete _ | .advance _ | .cleanup _ => .isTrue trivial

/-- The channels are in order, and the rest of the reconcile keeps them so. -/
structure Safe (process : ManagerProcess) : Prop where
  orderly : process.manager.Orderly process.spared
  sound : ∀ active, process.reconciling = some active →
    Sound Manager.serve (rely process.spared) (guarantee process.spared)
      (fun _ final => final.Calm process.spared) active.program process.manager

section Steps
variable {process next : ManagerProcess} {manager : Manager}

theorem rely_trans (spared : String → Nat → Prop) (first second third : Manager)
    (one : rely spared first second) (other : rely spared second third) :
    rely spared first third := by
  intro orderly
  obtain ⟨middle, undisturbed⟩ := one orderly
  obtain ⟨last, still⟩ := other middle
  exact ⟨last, undisturbed.trans still⟩

/-- The goroutines and the API server do not disturb the reconcile. -/
theorem Safe.disturbed (safe : process.Safe) (orderly : manager.Orderly process.spared)
    (undisturbed : process.manager.Undisturbed process.spared manager) :
    ({ process with manager } : ManagerProcess).Safe := by
  refine ⟨orderly, fun active running => ?_⟩
  refine (safe.sound active running).stable (rely_trans _) ?_ fun _ => ⟨orderly, undisturbed⟩
  exact fun _ _ calm => calm.stable (fun _ _ free => free) undisturbed

theorem Safe.stored (safe : process.Safe) (store : ClusterStore) :
    ({ process with manager := { process.manager with store } } : ManagerProcess).Safe :=
  safe.disturbed (safe.orderly.stored store)
    ⟨rfl, rfl, fun _ _ entry => entry, fun _ _ entry _ => entry, fun _ _ _ _ => rfl, fun _ _ => rfl⟩

/-- The rest of a reconcile goes on, or the reconcile is over. -/
theorem Safe.resume {name : String} {began : Nat} {program : Reconciling (Except String Unit)}
    (orderly : manager.Orderly (spares name began))
    (sound : Sound Manager.serve (rely (spares name began)) (guarantee (spares name began))
      (fun _ final => final.Calm (spares name began)) program manager) :
    (resume manager name began program).Safe := by
  cases program with
  | done value => exact ⟨orderly.release sound, fun _ running => nomatch running⟩
  | call call rest =>
      refine ⟨orderly, fun active running => ?_⟩
      obtain rfl := Option.some.inj running
      exact sound

theorem Safe.advance (safe : process.Safe) {fault : Option String}
    (advanced : process.advance fault = some next) : next.Safe := by
  obtain ⟨manager, reconciling⟩ := process
  cases reconciling with
  | none => cases advanced
  | some active =>
      obtain ⟨name, began, program⟩ := active
      cases program with
      | done value => cases advanced
      | call call rest =>
          obtain rfl := Option.some.inj advanced
          obtain ⟨kept, continued⟩ :=
            safe.sound _ rfl manager (fun orderly => ⟨orderly, .refl _ _⟩) fault
          exact .resume (kept safe.orderly) continued

/-- The guard lets only goroutines fail whose entries the reconcile does not close. -/
theorem Safe.alone (safe : process.Safe) {index : Nat} {error : String}
    (alone : process.FailsAlone (.runFails index error)) (runner : Runner)
    (found : process.manager.goroutines[index]? = some runner) :
    process.manager.Owns runner ∧ ¬ process.spared runner.key runner.stopCh := by
  obtain ⟨owns, late⟩ := alone runner found
  refine ⟨owns, fun free => ?_⟩
  have named := safe.orderly.named runner (List.mem_of_getElem? found)
  obtain ⟨manager, reconciling⟩ := process
  cases reconciling with
  | none => exact free
  | some active => exact Nat.not_lt.mpr (late active rfl (free.1.unique named)) free.2

/-- Every guarded step keeps the process safe. -/
theorem Safe.step (settings : ClusterReconciler.Settings) (process : ManagerProcess)
    (step : ManagerStep) (next : ManagerProcess) (safe : process.Safe)
    (alone : process.FailsAlone step) (stepped : (machine settings).step process step = some next) :
    next.Safe := by
  cases step with
  | apply cluster =>
      obtain ⟨store, -, rfl⟩ := Option.map_eq_some_iff.mp stepped
      exact safe.stored store
  | delete name =>
      obtain rfl := Option.some.inj stepped
      exact safe.stored _
  | reconcile name =>
      obtain ⟨manager, reconciling⟩ := process
      cases reconciling with
      | some active => cases stepped
      | none =>
          obtain rfl := Option.some.inj stepped
          have quiet := safe.orderly.begin alone
          exact .resume quiet.1 (ClusterReconciler.reconcile_orderly settings quiet rfl)
  | advance fault => exact safe.advance stepped
  | runFails index error =>
      obtain ⟨manager, failed, rfl⟩ := Option.map_eq_some_iff.mp stepped
      obtain ⟨orderly, undisturbed⟩ := safe.orderly.runFails failed (safe.alone alone)
      exact safe.disturbed orderly undisturbed
  | cleanup index =>
      obtain ⟨manager, cleaned, rfl⟩ := Option.map_eq_some_iff.mp stepped
      obtain ⟨orderly, undisturbed⟩ := safe.orderly.cleanup cleaned
      exact safe.disturbed orderly undisturbed

theorem Safe.initial : initial.Safe where
  orderly := {
    unopened := fun _ _ => rfl
    opened := fun _ member => nomatch member
    named := fun _ member => nomatch member
    distinct := List.nodup_nil
    entries := fun _ _ found => nomatch found
    keyed := fun _ _ found => nomatch found
    single := fun _ _ _ _ found => nomatch found
    closedOnce := fun _ => Nat.zero_le 1
    closing := fun _ member => nomatch member
    cleaning := fun _ member => nomatch member
    recorded := fun _ _ found => nomatch found }
  sound := fun _ running => nomatch running

end Steps

/-- In every run whose connectors fail alone, no channel is closed twice and no failure removes
the entry of another connector. -/
theorem run_harmless (settings : ClusterReconciler.Settings) (steps : List ManagerStep)
    (final : ManagerProcess) (guarded : (machine settings).Guarded FailsAlone initial steps)
    (reached : (machine settings).run initial steps = some final) : final.manager.Harmless :=
  ((machine settings).run_invariant (Safe.step settings) Safe.initial guarded reached).orderly.harmless

/-- The object is applied, and its reconcile makes so many calls without a fault. -/
def exampleReconcile (gatewayPort : Int) (calls : Nat) : List ManagerStep :=
  [.apply (exampleCluster "a" "default" gatewayPort), .reconcile "a"] ++
    List.replicate calls (.advance none)

/-- The connector fails before its status is reported and cleans up; a new spec then starts
another one. -/
def exampleEarlyFailure : List ManagerStep :=
  exampleReconcile 80 9 ++ [.runFails 0 "already managed", .cleanup 0, .advance none, .cleanup 0,
    .advance none] ++ exampleReconcile 81 11

theorem run_harmless_early : ∃ final,
    (machine exampleSettings).run initial exampleEarlyFailure = some final ∧
      final.manager.Harmless :=
  ⟨_, rfl, run_harmless exampleSettings exampleEarlyFailure _ (by decide +kernel) rfl⟩

/-- The connector is replaced while `Run` waits for the remote cluster, and fails afterwards. -/
theorem run_closes_twice : ∃ final,
    (machine exampleSettings).run initial
      (exampleReconcile 80 11 ++ exampleReconcile 81 13 ++ [.runFails 0 "timeout", .cleanup 0]) =
        some final ∧ ¬ final.manager.Harmless :=
  ⟨_, rfl, fun harmless => absurd (harmless.closedOnce 0) (by decide)⟩

end ManagerProcess
end ErieCanal.Cluster
