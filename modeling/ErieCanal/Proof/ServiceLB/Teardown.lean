import ErieCanal.Proof.ServiceLB.Finalizers
import ErieCanal.Proof.ServiceLB.Status
import ErieCanal.Proof.ServiceLB.Versions

namespace ErieCanal.ServiceLB
open Lib Config

namespace Balancing
open BalancerStore
variable {store : BalancerStore} {svc : Service} {A : Type}

/-- A Reconcile relies on what others do. -/
def Rely (before after : BalancerStore) : Prop := before.Intact → after.Intact ∧ Later before after

/-- The program keeps the invariant at every call and ends in its postcondition. -/
def Safe (program : BalancerApi A) (post : A → BalancerStore → Prop) (store : BalancerStore) :
    Prop :=
  program.Sound BalancerStore.serve Rely (fun before after => before.Intact → after.Intact) post
    store

/-- Whatever fault a call meets, its effect takes place or not. -/
theorem serve_cases (store : BalancerStore) (call : BalancerCall) (fault : StatusFault) :
    store.serve call fault = store.handle call ∨
      ∃ message, (store.serve call fault).1 = failure message call ∧
        ((store.serve call fault).2 = store ∨
          (store.serve call fault).2 = (store.handle call).2) := by
  cases fault with
  | answered => exact .inl rfl
  | refused message => exact .inr ⟨message, rfl, .inl rfl⟩
  | answerLost message => exact .inr ⟨message, rfl, .inr rfl⟩

/-- A fact that others do not touch still holds when the call is made. -/
theorem safe_call {request : BalancerCall} {next : request.Answer → BalancerApi A}
    {post : A → BalancerStore → Prop} {fact : BalancerStore → Prop}
    (stable : ∀ before after, Later before after → fact before → fact after)
    (effect : ∀ current, current.Intact → fact current → (current.handle request).2.Intact)
    (answered : ∀ current, current.Intact → fact current →
      Safe (next (current.handle request).1) post (current.handle request).2)
    (failed : ∀ current message, current.Intact →
      Safe (next (failure message request)) post current)
    (intact : store.Intact) (holds : fact store) : Safe (.call request next) post store := by
  intro current rely fault
  obtain ⟨intact', later⟩ := rely intact
  have holds' := stable _ _ later holds
  have effect' := effect current intact' holds'
  rcases serve_cases current request fault with served | ⟨message, answer, state⟩
  · rw [served]
    exact ⟨fun _ => effect', answered current intact' holds'⟩
  · rw [answer]
    rcases state with same | same
    · rw [same]
      exact ⟨fun intact => intact, failed current message intact'⟩
    · rw [same]
      exact ⟨fun _ => effect', failed _ message effect'⟩

/-- What the reconciler knows about the copy of the Service that it has read. -/
structure Copy (store : BalancerStore) (svc : Service) : Prop where
  logged : store.log svc.key store.held = some svc
  known : svc.uid ∈ store.uids
  deleted : svc.Deleted → store.SeenDeleted svc.key svc.uid
  kept : ¬ svc.Deleted → store.Condemned svc.key svc.uid → store.Kept svc.key svc.uid

theorem Copy.later {before after : BalancerStore} (later : Later before after)
    (copy : Copy before svc) : Copy after svc where
  logged := by
    rw [later.held]
    exact later.logged _ _ _ copy.logged
  known := later.uids _ copy.known
  deleted deleted := later.seen _ _ copy.known (copy.deleted deleted)
  kept living := later.kept _ _ (copy.kept living)

theorem safe_copy {request : BalancerCall} {next : request.Answer → BalancerApi A}
    {post : A → BalancerStore → Prop}
    (effect : ∀ current, current.Intact → Copy current svc → (current.handle request).2.Intact)
    (answered : ∀ current, current.Intact → Copy current svc →
      Safe (next (current.handle request).1) post (current.handle request).2)
    (failed : ∀ current message, current.Intact →
      Safe (next (failure message request)) post current)
    (intact : store.Intact) (copy : Copy store svc) : Safe (.call request next) post store :=
  safe_call (fun before _ later (held : Copy before svc) => held.later later) effect answered failed
    intact copy

theorem Copy.daemonSets (copy : Copy store svc) (daemonSets : DaemonSets) :
    Copy { store with daemonSets } svc := ⟨copy.logged, copy.known, copy.deleted, copy.kept⟩

theorem daemonSetKey_eq {first second : Service} (key : first.key = second.key)
    (uid : first.uid = second.uid) : first.daemonSetKey = second.daemonSetKey := by
  obtain ⟨ns, name⟩ := NamespacedName.mk.inj key
  rw [Service.daemonSetKey, Service.daemonSetKey, generateName, generateName, ns, name, uid]

/-- The DaemonSets of a Service have one name. -/
theorem noDaemonSet_of_absent (intact : store.Intact) (copy : Copy store svc)
    (absent : store.daemonSets svc.daemonSetKey = none) : store.NoDaemonSet svc.uid := by
  intro key ds listed same
  obtain ⟨name, version, owner, found, owns, rfl⟩ := intact.owned key ds listed
  have uid : owner.uid = svc.uid := owns.symm.trans same
  obtain rfl := intact.coherent.sole _ _ _ _ _ _ found copy.logged uid
  have named : owner.key = svc.key := intact.coherent.keyed _ _ _ found
  rw [daemonSetKey_eq named uid, absent] at listed
  cases listed

/-- A DaemonSet may be stored for a Service that was not being deleted when it was read. -/
theorem intact_place (intact : store.Intact) (copy : Copy store svc) (living : ¬ svc.Deleted)
    {ds : DaemonSet} (owner : ds.ownerUID = svc.uid) :
    Intact { store with
      daemonSets := Function.update store.daemonSets svc.daemonSetKey (some ds) } := by
  refine intact.daemonSets ?_ ?_
  · intro key other listed
    by_cases same : key = svc.daemonSetKey
    · subst same
      rw [Function.update_self] at listed
      cases listed
      exact ⟨svc.key, store.held, svc, copy.logged, owner, rfl⟩
    · rw [Function.update_of_ne same] at listed
      exact intact.owned key other listed
  · intro key uid condemned gone absent name other listed same
    dsimp only at listed
    by_cases placed : name = svc.daemonSetKey
    · subst placed
      rw [Function.update_self] at listed
      cases listed
      obtain rfl : svc.uid = uid := owner.symm.trans same
      obtain ⟨version, earlier, found, uid, -⟩ := id condemned
      obtain rfl := intact.coherent.sole _ _ _ _ _ _ found copy.logged uid
      exact gone (copy.kept living condemned)
    · rw [Function.update_of_ne placed] at listed
      exact absent name other listed same

/-- What `deployDaemonSet` leaves to `updateService`. -/
def Deployed (svc : Service) (outcome : Except String Unit) (final : BalancerStore) : Prop :=
  final.Intact ∧ (outcome = .ok () → Copy final svc ∧ (svc.Deleted → final.NoDaemonSet svc.uid))

theorem deployed_error (intact : store.Intact) (message : String) :
    Deployed svc (.error message) store := by
  refine ⟨intact, ?_⟩
  intro failed
  cases failed

theorem deleteDaemonSet_safe (intact : store.Intact) (copy : Copy store svc) :
    Safe (deleteDaemonSet svc) (Deployed svc) store := by
  refine safe_copy ?_ ?_ ?_ intact copy
  · intro current intact copy
    simp only [handle]
    split
    next => exact intact
    next => exact intact.fewer (fewer_remove current _)
  · intro current intact copy
    simp only [handle]
    split
    next absent =>
      exact ⟨intact, fun _ => ⟨copy, fun _ => noDaemonSet_of_absent intact copy absent⟩⟩
    next found =>
      have intact' := intact.fewer (fewer_remove current svc.daemonSetKey)
      have copy' := copy.daemonSets (Function.update current.daemonSets svc.daemonSetKey none)
      refine ⟨intact', fun _ => ⟨copy', fun _ => noDaemonSet_of_absent intact' copy' ?_⟩⟩
      exact Function.update_self svc.daemonSetKey none current.daemonSets
  · intro current message intact
    exact deployed_error intact message

/-- A DaemonSet is made or patched for a Service that is not being deleted. -/
theorem createOrUpdate_safe {ds : DaemonSet} (key : ds.key = svc.daemonSetKey)
    (owner : ds.ownerUID = svc.uid) (living : ¬ svc.Deleted) (intact : store.Intact)
    (copy : Copy store svc) : Safe (createOrUpdate ds) (Deployed svc) store := by
  have deployed {final : BalancerStore} (intact : final.Intact) (copy : Copy final svc)
      (outcome : Except String Unit) : Deployed svc outcome final :=
    ⟨intact, fun _ => ⟨copy, fun deleted => absurd deleted living⟩⟩
  refine safe_copy ?_ ?_ ?_ intact copy
  · intro current intact copy
    simp only [handle]
    split
    next => exact intact
    next => exact intact
  · intro current intact copy
    simp only [handle]
    split
    next =>
      refine safe_copy ?_ ?_ ?_ intact copy
      · intro current intact copy
        simp only [handle, key]
        split
        next => exact intact_place intact copy living owner
        next => exact intact
      · intro current intact copy
        simp only [handle, key]
        split
        next => exact deployed (intact_place intact copy living owner) (copy.daemonSets _) _
        next => exact deployed intact copy _
      · intro current message intact
        exact deployed_error intact message
    next =>
      refine safe_copy ?_ ?_ ?_ intact copy
      · intro current intact copy
        simp only [handle, key]
        split
        next => exact intact
        next => exact intact_place intact copy living owner
      · intro current intact copy
        simp only [handle, key]
        split
        next => exact deployed intact copy _
        next found _ =>
          have owner' : (found.patch ds).ownerUID = svc.uid := owner
          exact deployed (intact_place intact copy living owner') (copy.daemonSets _) _
      · intro current message intact
        exact deployed_error intact message
  · intro current message intact
    exact deployed_error intact message

theorem ownerUID_newDaemonSet (site : Site) (svc : Service) :
    (ServiceReconciler.newDaemonSet site svc).ownerUID = svc.uid := by
  rw [ServiceReconciler.newDaemonSet]
  split <;> rfl

theorem deployDaemonSet_safe (parseTag : String → String) (mc : MeshConfig) (intact : store.Intact)
    (copy : Copy store svc) : Safe (deployDaemonSet parseTag svc mc) (Deployed svc) store := by
  rw [deployDaemonSet]
  split
  next => exact deleteDaemonSet_safe intact copy
  next wanted =>
    have living : ¬ svc.Deleted := by
      intro deleted
      exact wanted (by simp [Service.Deleted] at deleted; simp [deleted])
    refine safe_copy ?_ ?_ ?_ intact copy
    · intro current intact copy
      exact intact
    · intro current intact copy
      exact createOrUpdate_safe (newDaemonSet_key _ svc) (ownerUID_newDaemonSet _ svc) living
        intact copy
    · intro current message intact
      exact deployed_error intact message

/-- `updateService` makes its calls through the interface of `Reconcile`. -/
def StatusSafe (program : StatusApi A) (post : A → BalancerStore → Prop) (store : BalancerStore) :
    Prop :=
  Safe (program.lift BalancerCall.status fun _ answer => answer) post store

/-- What is left of the status update after the first calls needs the invariant only. -/
def Ends (_ : A) (final : BalancerStore) : Prop := final.Intact

theorem statusSafe_call {request : StatusCall} {next : request.Answer → StatusApi A}
    {post : A → BalancerStore → Prop}
    (effect : ∀ current : BalancerStore, current.Intact →
      (current.handle (.status request)).2.Intact)
    (continued : ∀ (current : BalancerStore) answer, current.Intact →
      StatusSafe (next answer) post current)
    (intact : store.Intact) : StatusSafe (.call request next) post store :=
  safe_call (fun _ _ _ (held : True) => held) (fun current intact _ => effect current intact)
    (fun current intact _ => continued _ _ (effect current intact))
    (fun current _ intact => continued current _ intact) intact trivial

theorem statusSafe_bind {B : Type} {program : StatusApi A} {next : A → StatusApi B}
    {post : B → BalancerStore → Prop} (head : StatusSafe program Ends store)
    (tail : ∀ value final, final.Intact → StatusSafe (next value) post final) :
    StatusSafe (program.bind next) post store := by
  rw [StatusSafe, Program.lift_bind]
  exact Program.Sound.bind (head.weaken (fun _ _ kept => kept) fun value final intact =>
    tail value final intact)

theorem nodeIPs_safe (pods : List Pod) (ips : NodeIPs) (intact : store.Intact) :
    StatusSafe (ServiceReconciler.nodeIPs pods ips) Ends store := by
  induction pods generalizing ips store with
  | nil => exact intact
  | cons pod rest ih =>
      rw [ServiceReconciler.nodeIPs]
      split
      next => exact ih ips intact
      next =>
        split
        next => exact ih ips intact
        next =>
          refine statusSafe_call ?_ ?_ intact
          · intro current intact
            simp only [handle]
            split
            next => exact intact
            next => exact intact
          · intro current answer intact
            rcases answer with (missing | message) | node
            · exact ih ips intact
            · exact intact
            · exact ih _ intact

theorem podIPs_safe (parser : AddressParser) (range : RangeOrder String) (pods : List Pod)
    (intact : store.Intact) :
    StatusSafe (ServiceReconciler.podIPs parser range pods svc) Ends store := by
  refine statusSafe_bind (nodeIPs_safe pods .empty intact) ?_
  intro ips final intact
  cases ips with
  | error failure => exact intact
  | ok ips => exact intact

theorem addFinalizer_safe (intact : store.Intact) :
    StatusSafe (ServiceReconciler.addFinalizer svc) Ends store := by
  rw [ServiceReconciler.addFinalizer]
  split
  next =>
    refine statusSafe_call ?_ (fun _ _ intact => intact) intact
    intro current intact
    refine intact.update ?_
    intro stored _ _ gone
    exact absurd (List.mem_append_right _ List.mem_cons_self) gone
  next => exact intact

/-- The finalizer goes when the DaemonSet of a Service that is being deleted is gone. -/
theorem removeFinalizer_safe (room : List String) (intact : store.Intact) (copy : Copy store svc)
    (absent : svc.Deleted → store.NoDaemonSet svc.uid) :
    StatusSafe (ServiceReconciler.removeFinalizer room svc) Ends store := by
  rw [ServiceReconciler.removeFinalizer]
  split
  next => exact intact
  next =>
    split
    next => exact intact
    next finalizers _ =>
      have effect (current : BalancerStore) (intact : current.Intact)
          (held : Copy current svc ∧ (svc.Deleted → current.NoDaemonSet svc.uid)) :
          (current.update { svc with finalizers }).2.Intact := by
        refine intact.update ?_
        intro stored found latest _ deleted
        -- The latest version is the one that was read.
        have copied : current.log svc.key current.held = some svc := held.1.logged
        rw [latest] at copied
        cases found.symm.trans copied
        exact ⟨held.2 deleted, held.1.deleted deleted⟩
      refine safe_call (fun _ _ later
        (held : Copy _ svc ∧ (svc.Deleted → NoDaemonSet _ svc.uid)) =>
          ⟨held.1.later later, fun deleted => later.absent _ (held.2 deleted)⟩) effect ?_ ?_ intact
        ⟨copy, absent⟩
      · intro current intact held
        have kept := effect current intact held
        generalize (current.handle (.status (.update { svc with finalizers }))).1 = answer
        cases answer with
        | error message => exact kept
        | ok written => exact kept
      · intro current message intact
        exact intact

theorem updateService_safe (parser : AddressParser) (mc : MeshConfig) (req : BalancerRequest)
    (intact : store.Intact) (copy : Copy store svc)
    (absent : svc.Deleted → store.NoDaemonSet svc.uid) :
    Safe (updateService parser mc req svc) Ends store := by
  change StatusSafe (ServiceReconciler.updateService parser mc req.range req.room svc) Ends store
  rw [ServiceReconciler.updateService]
  split
  next => exact removeFinalizer_safe req.room intact copy absent
  next =>
    refine statusSafe_call (fun _ intact => intact) ?_ intact
    intro current pods intact
    cases pods with
    | error message => exact intact
    | ok pods =>
        change StatusSafe ((ServiceReconciler.podIPs parser req.range pods svc).bind _) Ends current
        refine statusSafe_bind (podIPs_safe parser req.range pods intact) ?_
        intro ips final intact
        cases ips with
        | error failure => exact intact
        | ok ips =>
            dsimp only
            split
            next => exact intact
            next =>
              refine statusSafe_bind (addFinalizer_safe intact) ?_
              intro written final intact
              cases written with
              | error message => exact intact
              | ok written =>
                  refine statusSafe_call (fun _ intact => intact.updateStatus) ?_ intact
                  intro current answer intact
                  cases answer with
                  | error message => exact intact
                  | ok answer => exact intact

/-- The version that the informer has seen is the copy. -/
theorem copy_of_seen {key : NamespacedName} (intact : store.Intact)
    (found : store.log key (store.seen key) = some svc) :
    Copy { store with held := store.seen key } svc where
  logged := by
    rw [intact.coherent.keyed _ _ _ found]
    exact found
  known := intact.coherent.known _ _ _ found
  deleted deleted := by
    rw [intact.coherent.keyed _ _ _ found]
    intro version other newer listed same
    exact intact.coherent.permanent _ _ _ _ _ newer found listed same.symm deleted
  kept living condemned := by
    rw [intact.coherent.keyed _ _ _ found] at condemned ⊢
    rcases intact.cleared _ _ condemned with kept | ⟨-, seen⟩
    · exact kept
    · exact absurd (seen _ svc (Nat.le_refl _) found rfl) living

theorem reconcile_safe (parser : AddressParser) (parseTag : String → String) (req : BalancerRequest)
    (intact : store.Intact) : Safe (reconcile parser parseTag req) Ends store := by
  refine safe_call (fun _ _ _ (held : True) => held) ?_ ?_ ?_ intact trivial
  · intro current intact _
    simp only [handle]
    split
    next => exact intact
    next => exact intact.rest _ _ _ _ _
  · intro current intact _
    simp only [handle]
    split
    next => exact intact
    next svc found =>
      refine safe_copy (fun _ intact _ => intact) ?_ (fun _ _ intact => intact)
        (intact.rest _ _ _ _ _) (copy_of_seen intact found)
      intro current intact copy
      change Safe ((deployDaemonSet parseTag svc current.mesh).bind _) Ends current
      refine Program.Sound.bind ((deployDaemonSet_safe parseTag _ intact copy).weaken
        (fun _ _ kept => kept) ?_)
      rintro outcome final ⟨intact, deployed⟩
      cases outcome with
      | error message => exact intact
      | ok done =>
          obtain ⟨copy, absent⟩ := deployed rfl
          exact updateService_safe parser _ req intact copy absent
  · intro current message intact
    exact intact

end Balancing

/-- The reconciler relies on others to leave its finalizer alone. -/
def teardownContract : Worker.Contract BalancerStore BalancerRequest (Except Failure Unit) where
  rely := Balancing.Rely
  invariant := BalancerStore.Intact
  between := fun _ => True
  post := fun _ _ store => store.Intact
  reflexive := fun store intact => ⟨intact, .refl store⟩
  transitive := by
    intro first second third earlier later intact
    obtain ⟨intact', before⟩ := earlier intact
    obtain ⟨intact'', after⟩ := later intact'
    exact ⟨intact'', before.trans after⟩
  stable := fun _ _ _ _ => trivial
  ends := fun _ _ _ _ => trivial

namespace Balancing
variable {A : Type}

/-- The update of the Service's addresses touches no DaemonSet. -/
theorem daemonSets_status (program : StatusApi A) (store : BalancerStore) :
    ((program.lift BalancerCall.status fun _ answer => answer).execute BalancerStore.serve
      (fun _ => .answered) store).2.daemonSets = store.daemonSets := by
  induction program generalizing store with
  | done value => rfl
  | call request next ih =>
      refine (ih _ _).trans ?_
      change (store.handle (.status request)).2.daemonSets = store.daemonSets
      cases request with
      | listPods ns labels => rfl
      | getNode name =>
          simp only [BalancerStore.handle]
          split <;> rfl
      | update svc =>
          simp only [BalancerStore.handle, BalancerStore.update, BalancerStore.writeCopy]
          split
          · rfl
          · split <;> rfl
      | updateStatus svc =>
          simp only [BalancerStore.handle, BalancerStore.updateStatus, BalancerStore.writeCopy]
          split
          · rfl
          · split <;> rfl

variable {store : BalancerStore} {svc : Service}

theorem execute_deleteDaemonSet (store : BalancerStore) (svc : Service) :
    (deleteDaemonSet svc).execute BalancerStore.serve (fun _ => .answered) store =
      (.ok (), { store with
        daemonSets := ServiceReconciler.deleteDaemonSet svc store.daemonSets }) := by
  simp only [deleteDaemonSet, send, Program.bind_eq, Program.perform_bind, Program.execute,
    BalancerStore.serve, BalancerStore.handle, ServiceReconciler.deleteDaemonSet]
  cases found : store.daemonSets ⟨svc.ns, generateName svc⟩ with
  | none =>
      have same := Function.update_eq_self ⟨svc.ns, generateName svc⟩ store.daemonSets
      rw [found] at same
      rw [same]
      rfl
  | some ds => rfl

/-- A DaemonSet is created or patched, as the informer has it. -/
theorem execute_createOrUpdate (cached : store.cached = store.daemonSets) (ds : DaemonSet) :
    (createOrUpdate ds).execute BalancerStore.serve (fun _ => .answered) store =
      (.ok (), { store with daemonSets := ServiceLB.createOrUpdate ds store.daemonSets }) := by
  simp only [createOrUpdate, send, Program.bind_eq, Program.perform_bind, Program.execute,
    BalancerStore.serve, BalancerStore.handle, ServiceLB.createOrUpdate, cached]
  cases found : store.daemonSets ds.key with
  | none =>
      simp only [Program.perform, Program.execute, BalancerStore.serve, BalancerStore.handle, found,
        cached]
  | some stored =>
      simp only [Program.perform, Program.execute, BalancerStore.serve, BalancerStore.handle, found,
        cached]

theorem execute_deployDaemonSet {site : Site} (mesh : site.mesh = store.mesh)
    (nodes : site.nodes = store.nodes) (cached : store.cached = store.daemonSets) (svc : Service) :
    (deployDaemonSet site.parseTag svc store.mesh).execute BalancerStore.serve
        (fun _ => .answered) store =
      (.ok (), { store with
        daemonSets := ServiceReconciler.deployDaemonSet site svc store.daemonSets }) := by
  rw [deployDaemonSet, ServiceReconciler.deployDaemonSet, mesh]
  split
  next => exact execute_deleteDaemonSet store svc
  next =>
    refine (execute_createOrUpdate cached _).trans ?_
    rw [← mesh, ← nodes]
    rfl

/-- The Service keeps the finalizers of the others. -/
theorem stored_removeFinalizer (room : List String) (found : store.stored svc.key = some svc)
    (latest : store.held = store.revision svc.key) (deleted : svc.deletionTimestamp ≠ none)
    (once : svc.finalizers.count finalizerName = 1) :
    (((ServiceReconciler.removeFinalizer room svc).lift BalancerCall.status
        fun _ answer => answer).execute BalancerStore.serve (fun _ => .answered) store).2.stored
        svc.key =
      if ServiceReconciler.others svc.finalizers = [] then none
      else some { svc with finalizers := ServiceReconciler.others svc.finalizers } := by
  have member : finalizerName ∈ svc.finalizers := List.count_pos_iff.mp (by omega)
  have has : ¬ (!ServiceReconciler.hasFinalizer svc) = true := by
    simp [ServiceReconciler.hasFinalizer_eq_decide, member]
  have dropped := (ServiceReconciler.dropFinalizers_eq_others_iff svc.finalizers room).mpr
    (.inl once.le)
  rw [ServiceReconciler.removeFinalizer, if_neg has, dropped]
  generalize ServiceReconciler.others svc.finalizers = finalizers
  have sent : (store.update { svc with finalizers }).2.stored svc.key =
      if finalizers = [] then none else some { svc with finalizers } := by
    rw [BalancerStore.update,
      @BalancerStore.writeCopy_latest store { svc with finalizers } svc _ found latest]
    change (store.settle { svc with finalizers }).stored svc.key = _
    refine BalancerStore.stored_write_self.trans ?_
    simp only [deleted, ne_eq, not_false_eq_true, true_and]
  refine Eq.trans (congrArg (fun final : BalancerStore => final.stored svc.key) ?_) sent
  simp only [Program.bind_eq, ServiceReconciler.request, Program.perform_bind, Program.lift,
    Program.execute, BalancerStore.serve, BalancerStore.handle]
  cases (store.update { svc with finalizers }).1 <;> rfl

section Undisturbed
variable {site : Site} {parser : AddressParser} {req : BalancerRequest}
  (mesh : site.mesh = store.mesh) (nodes : site.nodes = store.nodes)
  (cached : store.cached = store.daemonSets)
  (seen : store.seen req.key = store.revision req.key)

include mesh nodes cached seen

/-- The store between `deployDaemonSet` and `updateService`. -/
theorem execute_reconcile (found : store.stored req.key = some svc) :
    (reconcile parser site.parseTag req).execute BalancerStore.serve (fun _ => .answered) store =
      (updateService parser store.mesh req svc).execute BalancerStore.serve (fun _ => .answered)
        { store with
          held := store.revision req.key
          daemonSets := ServiceReconciler.deployDaemonSet site svc store.daemonSets } := by
  rw [BalancerStore.stored, ← seen] at found
  have head := @execute_deployDaemonSet { store with held := store.seen req.key } site mesh nodes
    cached svc
  simp only [reconcile, send, Program.bind_eq, Program.perform_bind, Program.execute,
    BalancerStore.serve, BalancerStore.handle, found]
  rw [Program.execute_bind, head, seen]

/-- An undisturbed Reconcile that sees the latest version does to the DaemonSets what the atomic
one does, and it takes only its own finalizer from a Service that is being deleted, which goes away
if no other one is left. -/
theorem reconcile_undisturbed
    (listed : site.services.lookup req.key = store.stored req.key) :
    let final := ((reconcile parser site.parseTag req).execute BalancerStore.serve
      (fun _ => .answered) store).2
    final.daemonSets = ServiceReconciler.reconcile site req.key store.daemonSets ∧
      ∀ svc, store.stored req.key = some svc → svc.deletionTimestamp ≠ none →
        svc.finalizers.count finalizerName = 1 →
          final.stored req.key =
            if ServiceReconciler.others svc.finalizers = [] then none
            else some { svc with finalizers := ServiceReconciler.others svc.finalizers } := by
  intro final
  constructor
  · rw [ServiceReconciler.reconcile, listed]
    cases found : store.stored req.key with
    | none =>
        have absent := found
        rw [BalancerStore.stored, ← seen] at absent
        simp only [final, reconcile, send, Program.bind_eq, Program.perform_bind, Program.execute,
          BalancerStore.serve, BalancerStore.handle, absent]
        rfl
    | some svc =>
        simp only [final]
        rw [execute_reconcile mesh nodes cached seen found]
        exact daemonSets_status _ _
  · intro svc found deleted once
    have keyed : svc.key = req.key := site.keyed req.key svc (listed.trans found)
    simp only [final]
    rw [execute_reconcile mesh nodes cached seen found, updateService,
      ServiceReconciler.updateService, if_pos (by simp [deleted]), ← keyed]
    rw [← keyed] at found
    exact stored_removeFinalizer req.room found rfl deleted once

end Undisturbed

def deletedLoadBalancer : Service :=
  { ServiceReconciler.exampleLoadBalancer with deletionTimestamp := some 7 }

/-- The Service of this site is being deleted. -/
def teardownSite : Site :=
  { Site.ofNodes ServiceReconciler.exampleMesh (fun _ => "") ∅ with
    services := (∅ : GoMap NamespacedName Service).insert deletedLoadBalancer.key deletedLoadBalancer
    keyed := by
      intro key svc found
      by_cases same : key = deletedLoadBalancer.key
      · subst same
        rw [AList.lookup_insert, Option.some.injEq] at found
        rw [found]
      · rw [AList.lookup_insert_ne same] at found
        cases found }

def teardownStore : BalancerStore :=
  { (BalancerStore.new teardownSite.mesh teardownSite.nodes).write deletedLoadBalancer.key
      (some deletedLoadBalancer) with
    seen := fun _ => 1 }

theorem reconcile_undisturbed_example :
    ((reconcile ServiceReconciler.exampleParser teardownSite.parseTag
      ⟨deletedLoadBalancer.key, .stored, []⟩).execute BalancerStore.serve (fun _ => .answered)
        teardownStore).2.stored deletedLoadBalancer.key = none :=
  (@reconcile_undisturbed teardownStore teardownSite ServiceReconciler.exampleParser
    ⟨deletedLoadBalancer.key, .stored, []⟩ rfl rfl rfl rfl rfl).2 deletedLoadBalancer rfl
      (by decide) (by decide)

end Balancing

namespace Balancer
variable {parser : AddressParser} {parseTag : String → String}

/-- Others may do anything but take the finalizer of the load balancer away. -/
abbrev Respects (balancer : Balancer)
    (step : WorkerStep BalancerWrite BalancerRequest StatusFault) : Prop :=
  Worker.Meets BalancerStore.KeepsFinalizer (fun _ _ => True) (fun _ _ _ => True) balancer step

theorem intact_new (mesh : MeshConfig) (nodes : GoMap String Node) :
    (BalancerStore.new mesh nodes).Intact := by
  refine ⟨⟨?_, ?_, ?_, ?_, ?_, ?_⟩, ?_, ?_⟩
  · intro _ _ _ found
    cases found
  · intro _ _ _
    rfl
  · intro _ _ _ found
    cases found
  · intro _ _ _ _ _ _ found
    cases found
  · intro _ _ _ _ _ _ found
    cases found
  · intro _
    exact Nat.le_refl 0
  · intro _ _ found
    cases found
  · rintro _ _ ⟨_, _, found, -⟩
    cases found

theorem run_intact {mesh : MeshConfig} {nodes : GoMap String Node}
    {steps : List (WorkerStep BalancerWrite BalancerRequest StatusFault)} {final : Balancer}
    (respected : (machine parser parseTag).Guarded Respects (.idle (.new mesh nodes)) steps)
    (reached : (machine parser parseTag).run (.idle (.new mesh nodes)) steps = some final) :
    final.store.Intact := by
  have start : teardownContract.Fulfils BalancerStore.serve
      (Worker.idle (BalancerStore.new mesh nodes) : Balancer) :=
    Worker.Contract.fulfils_idle (intact_new mesh nodes) trivial
  refine (Machine.run_invariant _ ?_ start respected reached).invariant
  intro balancer step next fulfilled respects stepped
  refine fulfilled.step ?_ ?_ (fun _ _ _ _ => rfl) respects stepped
  · intro store write next keeps applied
    exact ⟨fun intact => intact.apply keeps applied, fun intact => (intact.apply keeps applied).1⟩
  · intro store req _ intact _
    exact Balancing.reconcile_safe parser parseTag req intact

/-- A Service that had the finalizer while it was being deleted takes its DaemonSets with it, and
none comes back. -/
theorem run_cleared {mesh : MeshConfig} {nodes : GoMap String Node}
    {steps : List (WorkerStep BalancerWrite BalancerRequest StatusFault)} {final : Balancer}
    (respected : (machine parser parseTag).Guarded Respects (.idle (.new mesh nodes)) steps)
    (reached : (machine parser parseTag).run (.idle (.new mesh nodes)) steps = some final)
    {key : NamespacedName} {version : Nat} {svc : Service}
    (logged : final.store.log key version = some svc) (deleted : svc.deletionTimestamp ≠ none)
    (finalizer : finalizerName ∈ svc.finalizers)
    (gone : ∀ current, final.store.stored key = some current → current.uid ≠ svc.uid) :
    ∀ name ds, final.store.daemonSets name = some ds → ds.ownerUID ≠ svc.uid := by
  have intact := run_intact respected reached
  rcases intact.cleared key svc.uid ⟨version, svc, logged, rfl, deleted, finalizer⟩ with
    ⟨current, stored, same, -⟩ | ⟨absent, -⟩
  · exact absurd same (gone current stored)
  · exact absent

/-- The Service gets its DaemonSet, although the pods cannot be listed, and is then deleted. -/
def teardownRun : List (WorkerStep BalancerWrite BalancerRequest StatusFault) :=
  let svc := ServiceReconciler.exampleLoadBalancer
  [.client (.create svc), .client (.observe svc.key 1), .start ⟨svc.key, .stored, []⟩] ++
    List.replicate 5 (.advance .answered) ++
    [.advance (.refused "timeout"), .client (.delete svc.key 7), .client (.observe svc.key 2),
      .start ⟨svc.key, .stored, []⟩] ++
    List.replicate 4 (.advance .answered)

open Balancing in
theorem run_cleared_example :
    ∃ final, (machine ServiceReconciler.exampleParser fun _ => "").run
        (.idle (.new ServiceReconciler.exampleMesh ServiceReconciler.exampleStore.nodes))
          teardownRun = some final ∧
      final.store.log deletedLoadBalancer.key 2 = some deletedLoadBalancer ∧
      final.store.stored deletedLoadBalancer.key = none ∧
      ∀ name ds, final.store.daemonSets name = some ds →
        ds.ownerUID ≠ deletedLoadBalancer.uid := by
  refine ⟨_, rfl, rfl, rfl, ?_⟩
  refine @run_cleared ServiceReconciler.exampleParser (fun _ => "") ServiceReconciler.exampleMesh
    ServiceReconciler.exampleStore.nodes teardownRun _ (by decide +kernel) rfl
    deletedLoadBalancer.key 2
    deletedLoadBalancer rfl (by decide) (by decide) ?_
  intro current found
  cases found

end Balancer
end ErieCanal.ServiceLB
