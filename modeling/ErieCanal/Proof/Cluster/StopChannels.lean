import ErieCanal.Proof.Cluster.ReconcilerRules

namespace ErieCanal.Cluster
open Lib Kube Config ClusterV1

/-- The goroutine of a failed connector has not finished yet. -/
def Runner.cleansUp (runner : Runner) : Bool :=
  match runner.phase with
  | .closing _ | .deleting _ => true
  | .running | .returned _ => false

namespace Manager

/-- The connector of the goroutine is the recorded one of its key. -/
def Owns (manager : Manager) (runner : Runner) : Prop :=
  (manager.backgrounds.lookup runner.key).map (fun bg => bg.context.stopCh) = some runner.stopCh

instance (manager : Manager) (runner : Runner) : Decidable (manager.Owns runner) :=
  inferInstanceAs (Decidable (_ = _))

theorem owns_iff {manager : Manager} {runner : Runner} : manager.Owns runner ↔
    ∃ bg, manager.backgrounds.lookup runner.key = some bg ∧ bg.context.stopCh = runner.stopCh :=
  Option.map_eq_some_iff

/-- Every channel is below the next one and belongs to at most one goroutine and one entry, which
have the same key. -/
structure Allotted (manager : Manager) : Prop where
  unopened : ∀ stopCh, manager.nextCh ≤ stopCh → manager.closes stopCh = 0
  opened : ∀ runner ∈ manager.goroutines, runner.stopCh < manager.nextCh
  named : ∀ runner ∈ manager.goroutines, KeyNamed runner.name runner.key
  distinct : (manager.goroutines.map Runner.stopCh).Nodup
  entries : ∀ key bg, manager.backgrounds.lookup key = some bg →
    bg.context.stopCh < manager.nextCh ∧ ∃ name, KeyNamed name key
  keyed : ∀ key bg, manager.backgrounds.lookup key = some bg →
    ∀ runner ∈ manager.goroutines, runner.stopCh = bg.context.stopCh → runner.key = key
  single : ∀ key other bg bg', manager.backgrounds.lookup key = some bg →
    manager.backgrounds.lookup other = some bg' →
    bg.context.stopCh = bg'.context.stopCh → key = other

/-- A goroutine that cleans up owns its entry and closes its channel for the first time; `spared`
are the entries that the reconcile in progress may close. -/
structure Orderly (spared : String → Nat → Prop) (manager : Manager) : Prop
    extends Allotted manager where
  closedOnce : ∀ stopCh, manager.closes stopCh ≤ 1
  closing : ∀ runner ∈ manager.goroutines, ∀ error, runner.phase = .closing error →
    manager.closes runner.stopCh = 0
  cleaning : ∀ runner ∈ manager.goroutines, runner.cleansUp = true →
    manager.Owns runner ∧ ¬ spared runner.key runner.stopCh
  recorded : ∀ key bg, manager.backgrounds.lookup key = some bg → ¬ spared key bg.context.stopCh →
    manager.closes bg.context.stopCh = 0 ∨ ∃ runner ∈ manager.goroutines,
      runner.stopCh = bg.context.stopCh ∧ ∃ error, runner.phase = .deleting error

/-- The reconcile in progress has not closed any entry that it may close. -/
def Calm (spared : String → Nat → Prop) (manager : Manager) : Prop :=
  ∀ key bg, manager.backgrounds.lookup key = some bg → spared key bg.context.stopCh →
    manager.closes bg.context.stopCh = 0

/-- The goroutines of other connectors leave the spared entries and the unstarted channels alone. -/
structure Undisturbed (spared : String → Nat → Prop) (before after : Manager) : Prop where
  nextCh : after.nextCh = before.nextCh
  stopChs : after.goroutines.map Runner.stopCh = before.goroutines.map Runner.stopCh
  shrinks : ∀ key bg, after.backgrounds.lookup key = some bg →
    before.backgrounds.lookup key = some bg
  kept : ∀ key bg, before.backgrounds.lookup key = some bg → spared key bg.context.stopCh →
    after.backgrounds.lookup key = some bg
  closes : ∀ key bg, before.backgrounds.lookup key = some bg → spared key bg.context.stopCh →
    after.closes bg.context.stopCh = before.closes bg.context.stopCh
  unstarted : ∀ stopCh, stopCh ∉ before.goroutines.map Runner.stopCh →
    after.closes stopCh = before.closes stopCh

section Changes
variable {manager after : Manager} {spared : String → Nat → Prop}

theorem close_closes_ne (manager : Manager) {stopCh other : Nat} (different : other ≠ stopCh) :
    (manager.close stopCh).closes other = manager.closes other :=
  Function.update_of_ne different ..

theorem close_closes_self (manager : Manager) (stopCh : Nat) :
    (manager.close stopCh).closes stopCh = manager.closes stopCh + 1 :=
  Function.update_self ..

theorem lookup_of_delete {key other : String} {bg : ConnectorBackground}
    (found : (manager.delete key).backgrounds.lookup other = some bg) :
    other ≠ key ∧ manager.backgrounds.lookup other = some bg := by
  have different : other ≠ key := by
    rintro rfl
    exact nomatch (AList.lookup_erase ..).symm.trans found
  exact ⟨different, (AList.lookup_erase_ne different).symm.trans found⟩

theorem lookup_delete_ne {key other : String} (different : other ≠ key) :
    (manager.delete key).backgrounds.lookup other = manager.backgrounds.lookup other :=
  AList.lookup_erase_ne different

/-- Only one goroutine changes its phase. -/
theorem mem_setPhase {index : Nat} {runner : Runner}
    (distinct : (manager.goroutines.map Runner.stopCh).Nodup)
    (found : manager.goroutines[index]? = some runner) (phase : Phase) (other : Runner) :
    other ∈ (ManagerProcess.setPhase manager index runner phase).goroutines ↔
      (other ∈ manager.goroutines ∧ other.stopCh ≠ runner.stopCh) ∨ other = { runner with phase } := by
  obtain ⟨bound, at_index⟩ := List.getElem?_eq_some_iff.mp found
  obtain ⟨front, back, split, -, replaced⟩ := @List.exists_of_set _ index { runner with phase } _ bound
  rw [at_index] at split
  rw [split, List.map_append, List.map_cons, List.nodup_middle, List.nodup_cons,
    ← List.map_append, List.mem_map] at distinct
  have apart (member : other ∈ front ++ back) : other.stopCh ≠ runner.stopCh :=
    fun same => distinct.1 ⟨other, member, same⟩
  rw [ManagerProcess.setPhase, replaced, split, List.mem_append, List.mem_cons]
  rw [List.mem_append] at apart
  constructor
  · rintro (first | rfl | last)
    · exact Or.inl ⟨List.mem_append_left _ first, apart (Or.inl first)⟩
    · exact Or.inr rfl
    · exact Or.inl ⟨List.mem_append_right _ (List.mem_cons_of_mem _ last), apart (Or.inr last)⟩
  · rintro (⟨member, different⟩ | rfl)
    · rcases List.mem_append.mp member with first | later
      · exact Or.inl first
      · rcases List.mem_cons.mp later with rfl | last
        · exact absurd rfl different
        · exact Or.inr (Or.inr last)
    · exact Or.inr (Or.inl rfl)

theorem setPhase_stopChs {index : Nat} {runner : Runner}
    (found : manager.goroutines[index]? = some runner) (phase : Phase) :
    (ManagerProcess.setPhase manager index runner phase).goroutines.map Runner.stopCh =
      manager.goroutines.map Runner.stopCh := by
  obtain ⟨bound, at_index⟩ := List.getElem?_eq_some_iff.mp found
  obtain ⟨front, back, split, -, replaced⟩ := @List.exists_of_set _ index { runner with phase } _ bound
  rw [at_index] at split
  rw [ManagerProcess.setPhase, replaced, split, List.map_append, List.map_append, List.map_cons,
    List.map_cons]

namespace Allotted

/-- Two goroutines of one channel are the same. -/
theorem runner_eq (allotted : manager.Allotted) {first second : Runner}
    (one : first ∈ manager.goroutines) (other : second ∈ manager.goroutines)
    (same : first.stopCh = second.stopCh) : first = second :=
  List.inj_on_of_nodup_map allotted.distinct one other same

/-- Goroutines in different phases have different channels. -/
theorem apart (allotted : manager.Allotted) {first second : Runner}
    (one : first ∈ manager.goroutines) (other : second ∈ manager.goroutines)
    (different : first.phase ≠ second.phase) : first.stopCh ≠ second.stopCh :=
  fun same => different (congrArg Runner.phase (allotted.runner_eq one other same))

/-- The channels stay allotted when entries go and goroutines change their phase. -/
theorem frame (allotted : manager.Allotted) (nextCh : after.nextCh = manager.nextCh)
    (stopChs : after.goroutines.map Runner.stopCh = manager.goroutines.map Runner.stopCh)
    (runners : ∀ runner ∈ after.goroutines, ∃ old ∈ manager.goroutines,
      old.name = runner.name ∧ old.key = runner.key ∧ old.stopCh = runner.stopCh)
    (shrinks : ∀ key bg, after.backgrounds.lookup key = some bg →
      manager.backgrounds.lookup key = some bg)
    (closes : ∀ stopCh, manager.nextCh ≤ stopCh → after.closes stopCh = manager.closes stopCh) :
    after.Allotted where
  unopened := by
    intro stopCh above
    rw [nextCh] at above
    rw [closes stopCh above, allotted.unopened stopCh above]
  opened := by
    intro runner member
    obtain ⟨old, listed, -, -, stopCh⟩ := runners runner member
    rw [nextCh, ← stopCh]
    exact allotted.opened old listed
  named := by
    intro runner member
    obtain ⟨old, listed, name, key, -⟩ := runners runner member
    rw [← name, ← key]
    exact allotted.named old listed
  distinct := by
    rw [stopChs]
    exact allotted.distinct
  entries := by
    intro key bg found
    rw [nextCh]
    exact allotted.entries key bg (shrinks key bg found)
  keyed := by
    intro key bg found runner member same
    obtain ⟨old, listed, -, here, stopCh⟩ := runners runner member
    rw [← here]
    exact allotted.keyed key bg (shrinks key bg found) old listed (stopCh.trans same)
  single := fun key other bg bg' found found' =>
    allotted.single key other bg bg' (shrinks key bg found) (shrinks other bg' found')

theorem close (allotted : manager.Allotted) {stopCh : Nat} (below : stopCh < manager.nextCh) :
    (manager.close stopCh).Allotted :=
  allotted.frame rfl rfl (fun runner member => ⟨runner, member, rfl, rfl, rfl⟩)
    (fun _ _ found => found) fun _ above =>
      manager.close_closes_ne (Nat.ne_of_gt (Nat.lt_of_lt_of_le below above))

theorem delete (allotted : manager.Allotted) (key : String) : (manager.delete key).Allotted :=
  allotted.frame rfl rfl (fun runner member => ⟨runner, member, rfl, rfl, rfl⟩)
    (fun _ _ found => (lookup_of_delete found).2) fun _ _ => rfl

theorem setPhase (allotted : manager.Allotted) {index : Nat} {runner : Runner}
    (found : manager.goroutines[index]? = some runner) (phase : Phase) :
    (ManagerProcess.setPhase manager index runner phase).Allotted := by
  refine allotted.frame rfl (setPhase_stopChs found phase) (fun other member => ?_)
    (fun _ _ found => found) fun _ _ => rfl
  rcases (mem_setPhase allotted.distinct found phase other).mp member with ⟨old, -⟩ | rfl
  · exact ⟨other, old, rfl, rfl, rfl⟩
  · exact ⟨runner, List.mem_of_getElem? found, rfl, rfl, rfl⟩

end Allotted

theorem cleansUp_of_closing {runner : Runner} {error : String}
    (phase : runner.phase = .closing error) : runner.cleansUp = true := by
  rw [Runner.cleansUp, phase]

theorem cleansUp_of_deleting {runner : Runner} {error : String}
    (phase : runner.phase = .deleting error) : runner.cleansUp = true := by
  rw [Runner.cleansUp, phase]

section Goroutine
variable {index : Nat} {runner : Runner} {error : String}
  (found : manager.goroutines[index]? = some runner)
include found

namespace Orderly

/-- The recorded connector of a key may fail. -/
theorem fails (orderly : manager.Orderly spared) (running : runner.phase = .running)
    (owns : manager.Owns runner) (allowed : ¬ spared runner.key runner.stopCh) (error : String) :
    (ManagerProcess.setPhase manager index runner (.closing error)).Orderly spared := by
  have member := List.mem_of_getElem? found
  have others := mem_setPhase orderly.distinct found (.closing error)
  have apart {other : Runner} (listed : other ∈ manager.goroutines) {reason : String}
      (deleting : other.phase = .deleting reason) : other.stopCh ≠ runner.stopCh :=
    orderly.apart listed member (by rw [deleting, running]; exact nofun)
  refine ⟨orderly.setPhase found _, orderly.closedOnce, ?_, ?_, ?_⟩
  · intro other listed reason closing
    rcases (others other).mp listed with ⟨old, -⟩ | rfl
    · exact orderly.closing other old reason closing
    · obtain ⟨bg, entry, channel⟩ := owns_iff.mp owns
      rcases orderly.recorded _ bg entry (channel ▸ allowed) with opened | ⟨same, old, here, _, deleting⟩
      · exact channel ▸ opened
      · exact absurd (here.trans channel) (apart old deleting)
  · intro other listed cleans
    rcases (others other).mp listed with ⟨old, -⟩ | rfl
    · exact orderly.cleaning other old cleans
    · exact ⟨owns, allowed⟩
  · intro key bg entry free
    refine (orderly.recorded key bg entry free).imp_right fun ⟨other, old, here, reason, deleting⟩ => ?_
    exact ⟨other, (others other).mpr (Or.inl ⟨old, apart old deleting⟩), here, reason, deleting⟩

/-- A failed goroutine closes its channel for the first time. -/
theorem closes (orderly : manager.Orderly spared) (closing : runner.phase = .closing error) :
    (ManagerProcess.setPhase (manager.close runner.stopCh) index runner (.deleting error)).Orderly
      spared := by
  have member := List.mem_of_getElem? found
  have allotted := orderly.toAllotted.close (orderly.opened runner member)
  have others := mem_setPhase allotted.distinct found (.deleting error)
  refine ⟨allotted.setPhase found _, ?_, ?_, ?_, ?_⟩
  · intro stopCh
    by_cases same : stopCh = runner.stopCh
    · subst same
      change (manager.close runner.stopCh).closes runner.stopCh ≤ 1
      rw [close_closes_self, orderly.closing runner member error closing]
    · exact Nat.le_trans (Nat.le_of_eq (manager.close_closes_ne same)) (orderly.closedOnce stopCh)
  · intro other listed reason still
    rcases (others other).mp listed with ⟨old, different⟩ | rfl
    · exact (manager.close_closes_ne different).trans (orderly.closing other old reason still)
    · cases still
  · intro other listed cleans
    rcases (others other).mp listed with ⟨old, -⟩ | rfl
    · exact orderly.cleaning other old cleans
    · exact orderly.cleaning runner member (cleansUp_of_closing closing)
  · intro key bg entry free
    by_cases same : bg.context.stopCh = runner.stopCh
    · exact Or.inr ⟨_, (others _).mpr (Or.inr rfl), same.symm, error, rfl⟩
    · refine (orderly.recorded key bg entry free).imp (manager.close_closes_ne same).trans ?_
      rintro ⟨other, old, here, deleting⟩
      exact ⟨other, (others other).mpr (Or.inl ⟨old, here.trans_ne same⟩), here, deleting⟩

/-- A failed goroutine removes its own entry. -/
theorem removes (orderly : manager.Orderly spared) (deleting : runner.phase = .deleting error) :
    (ManagerProcess.setPhase (manager.delete runner.key) index runner (.returned error)).Orderly
      spared := by
  have member := List.mem_of_getElem? found
  have allotted := orderly.toAllotted.delete runner.key
  have others := mem_setPhase allotted.distinct found (.returned error)
  obtain ⟨own, mine, channel⟩ :=
    owns_iff.mp (orderly.cleaning runner member (cleansUp_of_deleting deleting)).1
  refine ⟨allotted.setPhase found _, orderly.closedOnce, ?_, ?_, ?_⟩
  · intro other listed reason closing
    rcases (others other).mp listed with ⟨old, -⟩ | rfl
    · exact orderly.closing other old reason closing
    · cases closing
  · intro other listed cleans
    rcases (others other).mp listed with ⟨old, different⟩ | rfl
    · obtain ⟨owns, allowed⟩ := orderly.cleaning other old cleans
      obtain ⟨bg, entry, here⟩ := owns_iff.mp owns
      refine ⟨owns_iff.mpr ⟨bg, (lookup_delete_ne fun same => different ?_).trans entry, here⟩, allowed⟩
      rw [same, mine, Option.some.injEq] at entry
      rw [← here, ← entry, channel]
    · cases cleans
  · intro key bg entry free
    obtain ⟨elsewhere, old⟩ := lookup_of_delete entry
    refine (orderly.recorded key bg old free).imp_right fun ⟨other, listed, here, cleans⟩ => ?_
    refine ⟨other, (others other).mpr (Or.inl ⟨listed, fun same => elsewhere ?_⟩), here, cleans⟩
    exact (orderly.keyed key bg old runner member (same.symm.trans here)).symm

end Orderly

namespace Undisturbed

theorem of_fails (error : String) :
    manager.Undisturbed spared (ManagerProcess.setPhase manager index runner (.closing error)) :=
  ⟨rfl, setPhase_stopChs found _, fun _ _ entry => entry, fun _ _ entry _ => entry,
    fun _ _ _ _ => rfl, fun _ _ => rfl⟩

theorem of_closes (orderly : manager.Orderly spared) (closing : runner.phase = .closing error) :
    manager.Undisturbed spared
      (ManagerProcess.setPhase (manager.close runner.stopCh) index runner (.deleting error)) := by
  have member := List.mem_of_getElem? found
  refine ⟨rfl, @setPhase_stopChs (manager.close runner.stopCh) _ _ found _,
    fun _ _ entry => entry, fun _ _ entry _ => entry, ?_, ?_⟩
  · intro key bg entry free
    refine manager.close_closes_ne fun same => ?_
    obtain rfl := orderly.keyed key bg entry runner member same.symm
    exact (orderly.cleaning runner member (cleansUp_of_closing closing)).2 (same ▸ free)
  · intro stopCh unstarted
    refine manager.close_closes_ne fun same => unstarted ?_
    exact same ▸ List.mem_map_of_mem member

theorem of_removes (orderly : manager.Orderly spared) (deleting : runner.phase = .deleting error) :
    manager.Undisturbed spared
      (ManagerProcess.setPhase (manager.delete runner.key) index runner (.returned error)) := by
  have member := List.mem_of_getElem? found
  refine ⟨rfl, @setPhase_stopChs (manager.delete runner.key) _ _ found _,
    fun _ _ entry => (lookup_of_delete entry).2, ?_, fun _ _ _ _ => rfl, fun _ _ => rfl⟩
  intro key bg entry free
  refine (lookup_delete_ne ?_).trans entry
  rintro rfl
  obtain ⟨owns, allowed⟩ := orderly.cleaning runner member (cleansUp_of_deleting deleting)
  obtain ⟨own, mine, channel⟩ := owns_iff.mp owns
  rw [entry, Option.some.injEq] at mine
  exact allowed (by rw [← channel, ← mine]; exact free)

end Undisturbed
end Goroutine

theorem Undisturbed.refl (spared : String → Nat → Prop) (manager : Manager) :
    manager.Undisturbed spared manager :=
  ⟨rfl, rfl, fun _ _ entry => entry, fun _ _ entry _ => entry, fun _ _ _ _ => rfl, fun _ _ => rfl⟩

theorem Undisturbed.trans {final : Manager} (first : manager.Undisturbed spared after)
    (second : after.Undisturbed spared final) : manager.Undisturbed spared final where
  nextCh := second.nextCh.trans first.nextCh
  stopChs := second.stopChs.trans first.stopChs
  shrinks := fun key bg entry => first.shrinks key bg (second.shrinks key bg entry)
  kept := fun key bg entry free => second.kept key bg (first.kept key bg entry free) free
  closes := fun key bg entry free =>
    (second.closes key bg (first.kept key bg entry free) free).trans (first.closes key bg entry free)
  unstarted := fun stopCh free =>
    (second.unstarted stopCh (first.stopChs ▸ free)).trans (first.unstarted stopCh free)

/-- The channels do not depend on the stored objects. -/
theorem Orderly.stored (orderly : manager.Orderly spared) (store : ClusterStore) :
    ({ manager with store } : Manager).Orderly spared :=
  ⟨⟨orderly.unopened, orderly.opened, orderly.named, orderly.distinct, orderly.entries,
    orderly.keyed, orderly.single⟩, orderly.closedOnce, orderly.closing, orderly.cleaning,
    orderly.recorded⟩

/-- A failure that is allowed keeps the channels in order. -/
theorem Orderly.runFails {index : Nat} {error : String} (orderly : manager.Orderly spared)
    (failed : ManagerProcess.runFails manager index error = some after)
    (alone : ∀ runner, manager.goroutines[index]? = some runner →
      manager.Owns runner ∧ ¬ spared runner.key runner.stopCh) :
    after.Orderly spared ∧ manager.Undisturbed spared after := by
  rw [ManagerProcess.runFails] at failed
  split at failed
  · next runner found =>
      obtain ⟨owns, allowed⟩ := alone runner found
      split at failed
      · next running =>
          obtain rfl := Option.some.inj failed
          exact ⟨orderly.fails found running owns allowed error, .of_fails found error⟩
      · cases failed
  · cases failed

/-- Cleaning up keeps the channels in order. -/
theorem Orderly.cleanup {index : Nat} (orderly : manager.Orderly spared)
    (cleaned : ManagerProcess.cleanup manager index = some after) :
    after.Orderly spared ∧ manager.Undisturbed spared after := by
  rw [ManagerProcess.cleanup] at cleaned
  split at cleaned
  · next runner found =>
      split at cleaned
      · next error closing =>
          obtain rfl := Option.some.inj cleaned
          exact ⟨orderly.closes found closing, .of_closes found orderly closing⟩
      · next error deleting =>
          obtain rfl := Option.some.inj cleaned
          exact ⟨orderly.removes found deleting, .of_removes found orderly deleting⟩
      · cases cleaned
  · cases cleaned

end Changes
end Manager
end ErieCanal.Cluster
