import ErieCanal.Construction.ServiceLB.Lifecycle
import ErieCanal.Proof.ServiceLB.Reconcilers

namespace ErieCanal.ServiceLB
open Lib Config

def Service.Deleted (svc : Service) : Prop := svc.deletionTimestamp ≠ none

namespace BalancerStore
variable {store next : BalancerStore} {key other : NamespacedName} {version : Nat} {uid : String}
  {svc current written : Service} {value : Option Service}

/-- Each Service keeps its name and its UID in all its versions, and its deletion is final. -/
structure Coherent (store : BalancerStore) : Prop where
  keyed : ∀ key version svc, store.log key version = some svc → svc.key = key
  ahead : ∀ key version, store.revision key < version → store.log key version = none
  known : ∀ key version svc, store.log key version = some svc → svc.uid ∈ store.uids
  sole : ∀ key version svc key' version' svc', store.log key version = some svc →
    store.log key' version' = some svc' → svc.uid = svc'.uid → key = key'
  permanent : ∀ key first second svc svc', first ≤ second → store.log key first = some svc →
    store.log key second = some svc' → svc.uid = svc'.uid → svc.Deleted → svc'.Deleted
  seen : ∀ key, store.seen key ≤ store.revision key

theorem log_write (store : BalancerStore) (key : NamespacedName) (value : Option Service) :
    (store.write key value).log = Function.update store.log key
      (Function.update (store.log key) (store.revision key + 1) value) := rfl

theorem log_write_cases (found : (store.write key value).log other version = some svc) :
    (other = key ∧ version = store.revision key + 1 ∧ value = some svc) ∨
      store.log other version = some svc := by
  by_cases same : other = key
  · subst same
    rw [log_write, Function.update_self] at found
    by_cases latest : version = store.revision other + 1
    · rw [latest, Function.update_self] at found
      exact .inl ⟨rfl, latest, found⟩
    · rw [Function.update_of_ne latest] at found
      exact .inr found
  · rw [log_write, Function.update_of_ne same] at found
    exact .inr found

theorem Coherent.le_revision (coherent : store.Coherent)
    (found : store.log key version = some svc) : version ≤ store.revision key := by
  by_contra newer
  rw [coherent.ahead key version (Nat.lt_of_not_le newer)] at found
  cases found

/-- A write keeps the versions before it. -/
theorem Coherent.log_write (coherent : store.Coherent)
    (found : store.log other version = some svc) :
    (store.write key value).log other version = some svc := by
  by_cases same : other = key
  · subst same
    have older : version ≠ store.revision other + 1 :=
      Nat.ne_of_lt (Nat.lt_succ_of_le (coherent.le_revision found))
    rw [BalancerStore.log_write, Function.update_self, Function.update_of_ne older]
    exact found
  · rw [BalancerStore.log_write, Function.update_of_ne same]
    exact found

theorem stored_write_self : (store.write key value).stored key = value := by
  simp only [stored, write, Function.update_self]

theorem stored_write_of_ne (different : other ≠ key) :
    (store.write key value).stored other = store.stored other := by
  simp only [stored, write, Function.update_of_ne different]

/-- A version that fits to those before it keeps them coherent. -/
theorem Coherent.write (coherent : store.Coherent) {uids : List String}
    (more : ∀ uid ∈ store.uids, uid ∈ uids)
    (fits : ∀ svc, value = some svc → svc.key = key ∧ svc.uid ∈ uids ∧
      ∀ other version earlier, store.log other version = some earlier → earlier.uid = svc.uid →
        other = key ∧ (earlier.Deleted → svc.Deleted)) :
    Coherent { store.write key value with uids } where
  keyed other version svc found := by
    rcases log_write_cases found with ⟨rfl, -, new⟩ | old
    · exact (fits svc new).1
    · exact coherent.keyed other version svc old
  ahead other version newer := by
    cases found : (store.write key value).log other version with
    | none => rfl
    | some svc =>
        exfalso
        by_cases same : other = key
        · subst same
          have bound : store.revision other + 1 < version := by
            simpa [BalancerStore.write] using newer
          rcases log_write_cases found with ⟨-, rfl, -⟩ | old
          · exact Nat.lt_irrefl _ bound
          · have := coherent.le_revision old
            omega
        · have bound : store.revision other < version := by
            simpa [BalancerStore.write, same] using newer
          rcases log_write_cases found with ⟨rfl, -, -⟩ | old
          · exact same rfl
          · have := coherent.le_revision old
            omega
  known other version svc found := by
    rcases log_write_cases found with ⟨-, -, new⟩ | old
    · exact (fits svc new).2.1
    · exact more _ (coherent.known other version svc old)
  sole key version svc key' version' svc' found found' same := by
    rcases log_write_cases found with ⟨rfl, -, new⟩ | old
    · rcases log_write_cases found' with ⟨rfl, -, -⟩ | old'
      · rfl
      · exact (((fits svc new).2.2 key' version' svc' old' same.symm).1).symm
    · rcases log_write_cases found' with ⟨rfl, -, new'⟩ | old'
      · exact ((fits svc' new').2.2 key version svc old same).1
      · exact coherent.sole key version svc key' version' svc' old old' same
  permanent other first second svc svc' ordered found found' same deleted := by
    rcases log_write_cases found with ⟨rfl, rfl, new⟩ | old
    · rcases log_write_cases found' with ⟨-, rfl, new'⟩ | old'
      · cases new.symm.trans new'
        exact deleted
      · have := coherent.le_revision old'
        omega
    · rcases log_write_cases found' with ⟨rfl, -, new'⟩ | old'
      · exact ((fits svc' new').2.2 other first svc old same).2 deleted
      · exact coherent.permanent other first second svc svc' ordered old old' same deleted
  seen other := by
    by_cases same : other = key
    · subst same
      simpa [BalancerStore.write] using Nat.le_succ_of_le (coherent.seen other)
    · simpa [BalancerStore.write, same] using coherent.seen other

/-- The new version of a Service has its UID, and it is being deleted if the Service is. -/
structure Follows (current written : Service) : Prop where
  uid : written.uid = current.uid
  deleted : current.Deleted → written.Deleted

theorem settled_eq (found : (if written.deletionTimestamp ≠ none ∧ written.finalizers = [] then none
    else some written) = some svc) : svc = written := by
  split at found
  · cases found
  · exact (Option.some.inj found).symm

theorem Coherent.settle (coherent : store.Coherent)
    (found : store.stored written.key = some current) (follows : Follows current written) :
    (store.settle written).Coherent := by
  refine coherent.write (fun _ member => member) ?_
  intro svc new
  cases settled_eq new
  refine ⟨rfl, follows.uid ▸ coherent.known _ _ current found, ?_⟩
  intro other version earlier old same
  have same' : earlier.uid = current.uid := same.trans follows.uid
  obtain rfl := coherent.sole _ _ _ _ _ _ old found same'
  refine ⟨rfl, fun deleted => follows.deleted ?_⟩
  exact coherent.permanent _ _ _ _ _ (coherent.le_revision old) old found same' deleted

/-- The Service was being deleted and had the finalizer. -/
def Condemned (store : BalancerStore) (key : NamespacedName) (uid : String) : Prop :=
  ∃ version svc, store.log key version = some svc ∧ svc.uid = uid ∧ svc.Deleted ∧
    finalizerName ∈ svc.finalizers

/-- The Service is still there and has the finalizer. -/
def Kept (store : BalancerStore) (key : NamespacedName) (uid : String) : Prop :=
  ∃ svc, store.stored key = some svc ∧ svc.uid = uid ∧ finalizerName ∈ svc.finalizers

/-- No DaemonSet belongs to the Service. -/
def NoDaemonSet (store : BalancerStore) (uid : String) : Prop :=
  ∀ key ds, store.daemonSets key = some ds → ds.ownerUID ≠ uid

/-- The informer has seen that the Service is being deleted or gone. -/
def SeenDeleted (store : BalancerStore) (key : NamespacedName) (uid : String) : Prop :=
  ∀ version svc, store.seen key ≤ version → store.log key version = some svc → svc.uid = uid →
    svc.Deleted

/-- Every DaemonSet belongs to a Service and has its name. A Service that was being deleted and had
the finalizer still has it, or else it is cleared. -/
structure Intact (store : BalancerStore) : Prop where
  coherent : store.Coherent
  owned : ∀ key ds, store.daemonSets key = some ds → ∃ name version svc,
    store.log name version = some svc ∧ ds.ownerUID = svc.uid ∧ key = svc.daemonSetKey
  cleared : ∀ key uid, store.Condemned key uid →
    store.Kept key uid ∨ (store.NoDaemonSet uid ∧ store.SeenDeleted key uid)

/-- What others do changes no version, makes no DaemonSet and takes no finalizer away. -/
structure Later (store next : BalancerStore) : Prop where
  held : next.held = store.held
  logged : ∀ key version svc, store.log key version = some svc → next.log key version = some svc
  absent : ∀ uid, store.NoDaemonSet uid → next.NoDaemonSet uid
  uids : ∀ uid ∈ store.uids, uid ∈ next.uids
  seen : ∀ key, ∀ uid ∈ store.uids, store.SeenDeleted key uid → next.SeenDeleted key uid
  kept : ∀ key uid, (store.Condemned key uid → store.Kept key uid) →
    next.Condemned key uid → next.Kept key uid

theorem Later.refl (store : BalancerStore) : Later store store :=
  ⟨rfl, fun _ _ _ found => found, fun _ absent => absent, fun _ member => member,
    fun _ _ _ seen => seen, fun _ _ kept => kept⟩

theorem Later.trans {last : BalancerStore} (first : Later store next) (second : Later next last) :
    Later store last :=
  ⟨second.held.trans first.held,
    fun key version svc found => second.logged key version svc (first.logged key version svc found),
    fun uid absent => second.absent uid (first.absent uid absent),
    fun uid member => second.uids uid (first.uids uid member),
    fun key uid member seen =>
      second.seen key uid (first.uids uid member) (first.seen key uid member seen),
    fun key uid kept => second.kept key uid (first.kept key uid kept)⟩

theorem SeenDeleted.settle (coherent : store.Coherent)
    (found : store.stored written.key = some current) (follows : Follows current written)
    (seen : store.SeenDeleted key uid) : (store.settle written).SeenDeleted key uid := by
  intro version svc newer listed same
  rcases log_write_cases listed with ⟨rfl, rfl, new⟩ | old
  · cases settled_eq new
    exact follows.deleted (seen _ current (coherent.seen _) found (follows.uid.symm.trans same))
  · exact seen version svc newer old same

theorem stored_settle (finalizer : finalizerName ∈ written.finalizers) :
    (store.settle written).stored written.key = some written := by
  rw [settle, stored_write_self, if_neg]
  rintro ⟨-, none⟩
  rw [none] at finalizer
  cases finalizer

/-- A Service that was condemned before a write has been condemned by an earlier version or by the
one that is written, which then has the finalizer. -/
theorem condemned_settle (condemned : (store.settle written).Condemned key uid) :
    store.Condemned key uid ∨ (key = written.key ∧ (store.settle written).Kept key uid) := by
  obtain ⟨version, svc, found, same, deleted, finalizer⟩ := condemned
  rcases log_write_cases found with ⟨rfl, -, new⟩ | old
  · cases settled_eq new
    exact .inr ⟨rfl, written, stored_settle finalizer, same, finalizer⟩
  · exact .inl ⟨version, svc, old, same, deleted, finalizer⟩

/-- A condemned Service that is there is being deleted. -/
theorem Coherent.deleted_of_condemned (coherent : store.Coherent)
    (found : store.stored key = some current) (condemned : store.Condemned key current.uid) :
    current.Deleted := by
  obtain ⟨version, svc, old, same, deleted, -⟩ := condemned
  exact coherent.permanent _ _ _ _ _ (coherent.le_revision old) old found same deleted

/-- A write may take the finalizer away if the Service is cleared. -/
theorem Intact.settle (intact : store.Intact) (found : store.stored written.key = some current)
    (follows : Follows current written)
    (removed : finalizerName ∈ current.finalizers → finalizerName ∉ written.finalizers →
      current.Deleted → store.NoDaemonSet current.uid ∧ store.SeenDeleted written.key current.uid) :
    (store.settle written).Intact where
  coherent := intact.coherent.settle found follows
  owned key ds listed := by
    obtain ⟨name, version, svc, old, owner, same⟩ := intact.owned key ds listed
    exact ⟨name, version, svc, intact.coherent.log_write old, owner, same⟩
  cleared key uid condemned := by
    rcases condemned_settle condemned with before | ⟨-, kept⟩
    · rcases intact.cleared key uid before with ⟨svc, stays, rfl, finalizer⟩ | ⟨absent, seen⟩
      · by_cases same : key = written.key
        · subst same
          cases found.symm.trans stays
          by_cases remains : finalizerName ∈ written.finalizers
          · exact .inl ⟨written, stored_settle remains, follows.uid, remains⟩
          · have deleted := intact.coherent.deleted_of_condemned found before
            obtain ⟨absent, seen⟩ := removed finalizer remains deleted
            exact .inr ⟨absent, seen.settle intact.coherent found follows⟩
        · exact .inl ⟨svc, (stored_write_of_ne same).trans stays, rfl, finalizer⟩
      · exact .inr ⟨absent, seen.settle intact.coherent found follows⟩
    · exact .inl kept

theorem Later.settle (coherent : store.Coherent) (found : store.stored written.key = some current)
    (follows : Follows current written)
    (finalizer : finalizerName ∈ current.finalizers → finalizerName ∈ written.finalizers) :
    Later store (store.settle written) where
  held := rfl
  logged _ _ _ old := coherent.log_write old
  absent _ absent := absent
  uids _ member := member
  seen _ _ _ seen := seen.settle coherent found follows
  kept key uid kept condemned := by
    rcases condemned_settle condemned with before | ⟨-, new⟩
    · obtain ⟨svc, stays, rfl, has⟩ := kept before
      by_cases same : key = written.key
      · subst same
        cases found.symm.trans stays
        exact ⟨written, stored_settle (finalizer has), follows.uid, finalizer has⟩
      · exact ⟨svc, (stored_write_of_ne same).trans stays, rfl, has⟩
    · exact new

/-- The new DaemonSets clear the Services that the old ones cleared. -/
theorem Intact.daemonSets (intact : store.Intact) {daemonSets : DaemonSets}
    (owned : ∀ key ds, daemonSets key = some ds → ∃ name version svc,
      store.log name version = some svc ∧ ds.ownerUID = svc.uid ∧ key = svc.daemonSetKey)
    (absent : ∀ key uid, store.Condemned key uid → ¬ store.Kept key uid → store.NoDaemonSet uid →
      NoDaemonSet { store with daemonSets } uid) :
    Intact { store with daemonSets } where
  coherent := ⟨intact.coherent.keyed, intact.coherent.ahead, intact.coherent.known,
    intact.coherent.sole, intact.coherent.permanent, intact.coherent.seen⟩
  owned := owned
  cleared key uid condemned := by
    by_cases kept : store.Kept key uid
    · exact .inl kept
    · rcases intact.cleared key uid condemned with stays | ⟨before, seen⟩
      · exact absurd stays kept
      · exact .inr ⟨absent key uid condemned kept before, seen⟩

/-- Each of the DaemonSets has the owner of one that was there. -/
def Fewer (store : BalancerStore) (daemonSets : DaemonSets) : Prop :=
  ∀ key ds, daemonSets key = some ds →
    ∃ before, store.daemonSets key = some before ∧ ds.ownerUID = before.ownerUID

theorem NoDaemonSet.fewer {daemonSets : DaemonSets} (absent : store.NoDaemonSet uid)
    (fewer : store.Fewer daemonSets) : NoDaemonSet { store with daemonSets } uid := by
  intro key ds listed
  obtain ⟨before, found, owner⟩ := fewer key ds listed
  rw [owner]
  exact absent key before found

theorem Intact.fewer (intact : store.Intact) {daemonSets : DaemonSets}
    (fewer : store.Fewer daemonSets) : Intact { store with daemonSets } := by
  refine intact.daemonSets ?_ fun _ _ _ _ absent => absent.fewer fewer
  intro key ds listed
  obtain ⟨before, found, owner⟩ := fewer key ds listed
  rw [owner]
  exact intact.owned key before found

theorem Later.fewer {daemonSets : DaemonSets} (fewer : store.Fewer daemonSets) :
    Later store { store with daemonSets } :=
  ⟨rfl, fun _ _ _ found => found, fun _ absent => absent.fewer fewer, fun _ member => member,
    fun _ _ _ seen => seen, fun _ _ kept => kept⟩

theorem fewer_remove (store : BalancerStore) (key : NamespacedName) :
    store.Fewer (Function.update store.daemonSets key none) := by
  intro other ds listed
  by_cases same : other = key
  · rw [same, Function.update_self] at listed
    cases listed
  · rw [Function.update_of_ne same] at listed
    exact ⟨ds, listed, rfl⟩

theorem fewer_update (store : BalancerStore) (key : NamespacedName) :
    store.Fewer (Function.update store.daemonSets key
      ((store.daemonSets key).map NodeReconciler.updateDaemonSet)) := by
  intro other ds listed
  by_cases same : other = key
  · rw [same, Function.update_self] at listed
    obtain ⟨before, found, rfl⟩ := Option.map_eq_some_iff.mp listed
    exact ⟨before, same ▸ found, rfl⟩
  · rw [Function.update_of_ne same] at listed
    exact ⟨ds, listed, rfl⟩

section Create
variable (fresh : svc.uid ∉ store.uids) (new : svc.deletionTimestamp = none)

include new in
theorem condemned_create {uids : List String}
    (condemned : Condemned { store.write svc.key (some svc) with uids } key uid) :
    store.Condemned key uid := by
  obtain ⟨version, other, found, same, deleted, finalizer⟩ := condemned
  rcases log_write_cases found with ⟨-, -, created⟩ | old
  · cases created
    exact absurd new deleted
  · exact ⟨version, other, old, same, deleted, finalizer⟩

include fresh in
theorem SeenDeleted.create {uids : List String} (known : uid ∈ store.uids)
    (seen : store.SeenDeleted key uid) :
    SeenDeleted { store.write svc.key (some svc) with uids } key uid := by
  intro version other newer found same
  rcases log_write_cases found with ⟨-, -, created⟩ | old
  · cases created
    exact absurd (same ▸ known) fresh
  · exact seen version other newer old same

theorem Kept.create {uids : List String} (free : store.stored svc.key = none)
    (kept : store.Kept key uid) : Kept { store.write svc.key (some svc) with uids } key uid := by
  obtain ⟨current, found, same, finalizer⟩ := kept
  refine ⟨current, ?_, same, finalizer⟩
  have different : key ≠ svc.key := by
    rintro rfl
    cases free.symm.trans found
  exact (stored_write_of_ne different).trans found

theorem Condemned.known (coherent : store.Coherent) (condemned : store.Condemned key uid) :
    uid ∈ store.uids := by
  obtain ⟨version, other, found, rfl, -, -⟩ := condemned
  exact coherent.known key version other found

include fresh new in
theorem Intact.create (intact : store.Intact) (free : store.stored svc.key = none) :
    Intact { store.write svc.key (some svc) with uids := svc.uid :: store.uids } where
  coherent := by
    refine intact.coherent.write (fun _ member => List.mem_cons_of_mem _ member) ?_
    intro other created
    cases created
    refine ⟨rfl, List.mem_cons_self, ?_⟩
    intro other version earlier old same
    exact absurd (same ▸ intact.coherent.known other version earlier old) fresh
  owned key ds listed := by
    obtain ⟨name, version, other, old, owner, same⟩ := intact.owned key ds listed
    exact ⟨name, version, other, intact.coherent.log_write old, owner, same⟩
  cleared key uid condemned := by
    have before := condemned_create new condemned
    rcases intact.cleared key uid before with kept | ⟨absent, seen⟩
    · exact .inl (kept.create free)
    · exact .inr ⟨absent, seen.create fresh (before.known intact.coherent)⟩

include fresh new in
theorem Later.create (coherent : store.Coherent) (free : store.stored svc.key = none) :
    Later store { store.write svc.key (some svc) with uids := svc.uid :: store.uids } where
  held := rfl
  logged _ _ _ old := coherent.log_write old
  absent _ absent := absent
  uids _ member := List.mem_cons_of_mem _ member
  seen _ _ known seen := seen.create fresh known
  kept _ _ kept condemned := (kept (condemned_create new condemned)).create free

end Create

/-- The informer catches up with one Service. -/
theorem SeenDeleted.observe (later : store.seen key ≤ version)
    (seen : store.SeenDeleted other uid) :
    SeenDeleted { store with seen := Function.update store.seen key version } other uid := by
  intro newer svc reached found same
  refine seen newer svc ?_ found same
  by_cases observed : other = key
  · subst observed
    exact later.trans (by simpa using reached)
  · simpa [observed] using reached

theorem Intact.observe (intact : store.Intact) (later : store.seen key ≤ version)
    (bound : version ≤ store.revision key) :
    Intact { store with seen := Function.update store.seen key version } where
  coherent := by
    refine ⟨intact.coherent.keyed, intact.coherent.ahead, intact.coherent.known,
      intact.coherent.sole, intact.coherent.permanent, ?_⟩
    intro other
    by_cases observed : other = key
    · subst observed
      simpa using bound
    · simpa [observed] using intact.coherent.seen other
  owned := intact.owned
  cleared other uid condemned := by
    rcases intact.cleared other uid condemned with kept | ⟨absent, seen⟩
    · exact .inl kept
    · exact .inr ⟨absent, seen.observe later⟩

theorem Later.observe (later : store.seen key ≤ version) :
    Later store { store with seen := Function.update store.seen key version } :=
  ⟨rfl, fun _ _ _ found => found, fun _ absent => absent, fun _ member => member,
    fun _ _ _ seen => seen.observe later, fun _ _ kept => kept⟩

/-- The parts of a store that no invariant is about may change at any time. -/
theorem Intact.rest (intact : store.Intact) (mesh : MeshConfig) (nodes : GoMap String Node)
    (pods : List Pod) (held : Nat) (cached : DaemonSets) :
    Intact { store with mesh, nodes, pods, held, cached } where
  coherent := ⟨intact.coherent.keyed, intact.coherent.ahead, intact.coherent.known,
    intact.coherent.sole, intact.coherent.permanent, intact.coherent.seen⟩
  owned := intact.owned
  cleared := intact.cleared

theorem Later.rest (mesh : MeshConfig) (nodes : GoMap String Node) (pods : List Pod)
    (cached : DaemonSets) : Later store { store with mesh, nodes, pods, cached } :=
  ⟨rfl, fun _ _ _ found => found, fun _ absent => absent, fun _ member => member,
    fun _ _ _ seen => seen, fun _ _ kept => kept⟩

theorem writeCopy_latest (complete : Service → Service)
    (found : store.stored svc.key = some current) (latest : store.held = store.revision svc.key) :
    store.writeCopy svc complete = (.ok (complete current),
      { store.settle (complete current) with held := store.revision svc.key + 1 }) := by
  rw [writeCopy, found]
  exact if_neg (not_not.mpr latest)

/-- The API server completes what the reconciler writes to a version that follows the stored one. -/
theorem Intact.writeCopy (intact : store.Intact) {complete : Service → Service}
    (keyed : ∀ current, store.stored svc.key = some current → (complete current).key = svc.key)
    (follows : ∀ current, Follows current (complete current))
    (removed : ∀ current, store.stored svc.key = some current →
      store.held = store.revision svc.key → finalizerName ∈ current.finalizers →
      finalizerName ∉ (complete current).finalizers → current.Deleted →
      store.NoDaemonSet current.uid ∧ store.SeenDeleted svc.key current.uid) :
    (store.writeCopy svc complete).2.Intact := by
  cases found : store.stored svc.key with
  | none =>
      rw [BalancerStore.writeCopy, found]
      exact intact
  | some current =>
      by_cases latest : store.held = store.revision svc.key
      · rw [writeCopy_latest complete found latest]
        have found' : store.stored (complete current).key = some current := by
          rw [keyed current found, found]
        refine (intact.settle found' (follows current) ?_).rest _ _ _ _ _
        intro has gone deleted
        rw [keyed current found]
        exact removed current found latest has gone deleted
      · rw [BalancerStore.writeCopy, found]
        simp only [ne_eq, latest, not_false_eq_true, if_true]
        exact intact

theorem Intact.update (intact : store.Intact)
    (removed : ∀ current, store.stored svc.key = some current →
      store.held = store.revision svc.key → finalizerName ∉ svc.finalizers → current.Deleted →
      store.NoDaemonSet current.uid ∧ store.SeenDeleted svc.key current.uid) :
    (store.update svc).2.Intact :=
  intact.writeCopy (fun _ _ => rfl) (fun _ => ⟨rfl, fun deleted => deleted⟩)
    fun current found latest _ gone deleted => removed current found latest gone deleted

theorem Intact.updateStatus (intact : store.Intact) : (store.updateStatus svc).2.Intact :=
  intact.writeCopy (fun current found => intact.coherent.keyed _ _ current found)
    (fun _ => ⟨rfl, fun deleted => deleted⟩) fun _ _ _ has gone _ => absurd has gone

/-- Others leave the finalizer of the load balancer alone. -/
def KeepsFinalizer (store : BalancerStore) : BalancerWrite → Prop
  | .edit svc => ∀ current ∈ store.stored svc.key, finalizerName ∈ current.finalizers →
      finalizerName ∈ svc.finalizers
  | _ => True

instance (store : BalancerStore) (write : BalancerWrite) :
    Decidable (store.KeepsFinalizer write) :=
  match write with
  | .edit svc => inferInstanceAs (Decidable (∀ current ∈ store.stored svc.key,
      finalizerName ∈ current.finalizers → finalizerName ∈ svc.finalizers))
  | .create _ | .delete _ _ | .configure _ | .changeNodes _ | .changePods _ | .updateDaemonSet _
  | .removeDaemonSet _ | .observe _ _ | .observeDaemonSet _ => inferInstanceAs (Decidable True)

/-- A step of others keeps the invariant and disturbs no Reconcile. -/
theorem Intact.apply (intact : store.Intact) {write : BalancerWrite}
    (keeps : store.KeepsFinalizer write) (applied : store.apply write = some next) :
    next.Intact ∧ Later store next := by
  cases write with
  | create svc =>
      rw [BalancerStore.apply] at applied
      split at applied
      next allowed =>
        cases applied
        obtain ⟨free, fresh, new⟩ := allowed
        exact ⟨intact.create fresh new free, .create fresh new intact.coherent free⟩
      next => cases applied
  | edit svc =>
      rw [BalancerStore.apply] at applied
      split at applied
      next => cases applied
      next current found =>
        split at applied
        next same =>
          cases applied
          have follows : Follows current svc :=
            ⟨same.1, fun deleted none => deleted (same.2.symm.trans none)⟩
          have finalizer := keeps current found
          exact ⟨intact.settle found follows fun has removed _ => absurd (finalizer has) removed,
            .settle intact.coherent found follows finalizer⟩
        next => cases applied
  | delete key time =>
      rw [BalancerStore.apply] at applied
      split at applied
      next => cases applied
      next current found =>
        split at applied
        next => cases applied; exact ⟨intact, .refl store⟩
        next =>
          cases applied
          obtain rfl : current.key = key := intact.coherent.keyed _ _ _ found
          have follows : Follows current { current with deletionTimestamp := some time } :=
            ⟨rfl, fun _ none => Option.some_ne_none time none⟩
          exact ⟨intact.settle found follows fun has removed _ => absurd has removed,
            .settle intact.coherent found follows fun has => has⟩
  | configure mesh => cases applied; exact ⟨intact.rest mesh _ _ _ _, .rest mesh _ _ _⟩
  | changeNodes nodes => cases applied; exact ⟨intact.rest _ nodes _ _ _, .rest _ nodes _ _⟩
  | changePods pods => cases applied; exact ⟨intact.rest _ _ pods _ _, .rest _ _ pods _⟩
  | updateDaemonSet key =>
      cases applied
      exact ⟨intact.fewer (fewer_update store key), .fewer (fewer_update store key)⟩
  | removeDaemonSet key =>
      cases applied
      exact ⟨intact.fewer (fewer_remove store key), .fewer (fewer_remove store key)⟩
  | observe key version =>
      rw [BalancerStore.apply] at applied
      split at applied
      next allowed =>
        cases applied
        exact ⟨intact.observe allowed.1 allowed.2, .observe allowed.1⟩
      next => cases applied
  | observeDaemonSet key => cases applied; exact ⟨intact.rest _ _ _ _ _, .rest _ _ _ _⟩

end BalancerStore
end ErieCanal.ServiceLB
