import ErieCanal.Construction.ServiceLB

namespace ErieCanal.ServiceLB
open Lib ServiceReconciler

/-- Different Services have different DaemonSets: the UID part of a name has a fixed length. -/
theorem generateName_injective {first second : Service}
    (same : generateName first = generateName second) : first.name = second.name := by
  have chars := congrArg String.toList same
  simp only [generateName, String.toList_append, String.toList_ofList, List.append_assoc,
    List.append_cancel_left_eq] at chars
  have lengths : (first.uid.toList.take 8).length = (second.uid.toList.take 8).length := by
    rw [List.length_take, List.length_take, Nat.min_eq_left first.assigned,
      Nat.min_eq_left second.assigned]
  have split : first.name.toList ++ "-".toList = second.name.toList ++ "-".toList := by
    rw [← List.append_assoc, ← List.append_assoc] at chars
    exact (List.append_inj' chars lengths).1
  exact String.toList_inj.mp (List.append_cancel_right split)

theorem Labels.patch_patch (stored modified : Labels) :
    (stored.patch modified).patch modified = stored.patch modified := by
  funext name
  simp only [Labels.patch]
  cases modified name <;> rfl

theorem Labels.patch_self (labels : Labels) : labels.patch labels = labels := by
  funext name
  simp only [Labels.patch, Option.or_self]

/-- A second patch with the same object changes nothing. -/
theorem DaemonSet.patch_patch (stored modified : DaemonSet) :
    (stored.patch modified).patch modified = stored.patch modified := by
  simp only [DaemonSet.patch, Labels.patch_patch]

theorem DaemonSet.patch_self (ds : DaemonSet) : ds.patch ds = ds := by
  simp only [DaemonSet.patch, Labels.patch_self]

/-- A Service finds its DaemonSet under this key. -/
def Service.daemonSetKey (svc : Service) : NamespacedName := ⟨svc.ns, generateName svc⟩

theorem newDaemonSet_key (site : Site) (svc : Service) :
    (newDaemonSet site svc).key = svc.daemonSetKey := by
  simp only [newDaemonSet]
  split <;> rfl

theorem daemonSetKey_ne {first second : Service} (different : first.key ≠ second.key) :
    first.daemonSetKey ≠ second.daemonSetKey := by
  intro same
  simp only [Service.daemonSetKey, NamespacedName.mk.injEq] at same
  apply different
  rw [CoreV1.Service.key, CoreV1.Service.key, same.1, generateName_injective same.2]

/-- Both reconcilers give the DaemonSet of the Service the same node selector and label. -/
def SelectorsAgree (site : Site) (svc : Service) : Prop :=
  (newDaemonSet site svc).nodeSelector =
      (NodeReconciler.updateDaemonSet (newDaemonSet site svc)).nodeSelector ∧
    (newDaemonSet site svc).labels nodeSelectorLabel =
      (NodeReconciler.updateDaemonSet (newDaemonSet site svc)).labels nodeSelectorLabel

/-- A node refuses load balancers, and the Service asks for no node pool. -/
def RefusedWithoutPool (site : Site) (svc : Service) : Prop :=
  (∃ node ∈ GoMap.values site.nodes, node.labels daemonsetNodeLabel = some "false") ∧
    svc.labels.index daemonsetNodePoolLabel = ""

theorem nodesWithLabel_pos (site : Site) :
    0 < (nodesWithLabel site).length ↔
      ∃ node ∈ GoMap.values site.nodes, node.labels daemonsetNodeLabel = some "false" := by
  simp [nodesWithLabel, List.length_pos_iff_exists_mem]

theorem labels_newDaemonSet (site : Site) (svc : Service) :
    (newDaemonSet site svc).labels nodeSelectorLabel =
      some (if 0 < (nodesWithLabel site).length then "true" else "false") := by
  simp only [newDaemonSet]
  split
  · simp
  · rfl

theorem selectorsAgree_iff (site : Site) (svc : Service) :
    SelectorsAgree site svc ↔ RefusedWithoutPool site svc := by
  rw [RefusedWithoutPool, ← nodesWithLabel_pos]
  constructor
  · rintro ⟨selectors, labels⟩
    have refused : 0 < (nodesWithLabel site).length := by
      by_contra none
      simp [labels_newDaemonSet, NodeReconciler.updateDaemonSet, none] at labels
    refine ⟨refused, ?_⟩
    by_contra pool
    have value := congrFun selectors daemonsetNodePoolLabel
    simp only [newDaemonSet, if_pos refused, NodeReconciler.updateDaemonSet, if_pos pool] at value
    exact nomatch value
  · rintro ⟨refused, poolless⟩
    refine ⟨?_, ?_⟩
    · simp only [newDaemonSet, if_pos refused, NodeReconciler.updateDaemonSet, poolless, ne_eq,
        not_true_eq_false, if_false]
    · simp [labels_newDaemonSet, NodeReconciler.updateDaemonSet, refused]

section Stability
variable {site : Site} {svc : Service} {daemonSets : DaemonSets}

theorem deployDaemonSet_other {other : Service} (different : other.key ≠ svc.key) :
    deployDaemonSet site other daemonSets svc.daemonSetKey = daemonSets svc.daemonSetKey := by
  have apart := daemonSetKey_ne different.symm
  simp only [deployDaemonSet]
  split
  · exact Function.update_of_ne apart _ _
  · rw [createOrUpdate, newDaemonSet_key, Function.update_of_ne apart]

/-- A second deployment of the Service changes nothing. -/
theorem deployDaemonSet_again {later : DaemonSets}
    (same : later svc.daemonSetKey = deployDaemonSet site svc daemonSets svc.daemonSetKey) :
    deployDaemonSet site svc later svc.daemonSetKey = later svc.daemonSetKey := by
  simp only [deployDaemonSet] at same ⊢
  split
  · next deleted =>
      rw [if_pos deleted, deleteDaemonSet, ← Service.daemonSetKey, Function.update_self] at same
      rw [deleteDaemonSet, ← Service.daemonSetKey, Function.update_self, same]
  · next deployed =>
      rw [if_neg deployed, createOrUpdate, newDaemonSet_key, Function.update_self] at same
      rw [createOrUpdate, newDaemonSet_key, Function.update_self, same]
      cases daemonSets svc.daemonSetKey with
      | none => simp only [DaemonSet.patch_self]
      | some stored => simp only [DaemonSet.patch_patch]

/-- The label of a deployed DaemonSet is the one of the new object. -/
theorem label_deployDaemonSet {ds : DaemonSet}
    (deployed : deployDaemonSet site svc daemonSets svc.daemonSetKey = some ds) :
    ds.labels nodeSelectorLabel = (newDaemonSet site svc).labels nodeSelectorLabel := by
  simp only [deployDaemonSet] at deployed
  split at deployed
  · rw [deleteDaemonSet, ← Service.daemonSetKey, Function.update_self] at deployed
    cases deployed
  · rw [createOrUpdate, newDaemonSet_key, Function.update_self] at deployed
    cases stored : daemonSets svc.daemonSetKey with
    | none =>
        rw [stored] at deployed
        cases deployed
        rfl
    | some old =>
        rw [stored] at deployed
        cases deployed
        simp only [DaemonSet.patch, Labels.patch, labels_newDaemonSet, Option.some_or]

/-- The node reconciler leaves a DaemonSet alone that already has its node selector. -/
theorem nodeReconcile_labelled {name : String} {key : NamespacedName}
    (labelled : ∀ ds, daemonSets key = some ds → ds.labels nodeSelectorLabel = some "true") :
    NodeReconciler.reconcile site name daemonSets key = daemonSets key := by
  have updated : NodeReconciler.updateDaemonSets daemonSets key = daemonSets key := by
    rw [NodeReconciler.updateDaemonSets]
    cases found : daemonSets key with
    | none => rfl
    | some ds => simp [labelled ds found]
  rw [NodeReconciler.reconcile]
  cases site.nodes.lookup name with
  | none => rfl
  | some node =>
      cases marked : node.labels daemonsetNodeLabel with
      | none => simp only [marked]
      | some value =>
          simp only [marked]
          exact updated

/-- After its first deployment the DaemonSet stays the same under every further run. -/
theorem run_stable (listed : site.services.lookup svc.key = some svc)
    (refused : RefusedWithoutPool site svc) {events : List Reconcile} {final : DaemonSets}
    (reached : site.machine.run (ServiceReconciler.reconcile site svc.key daemonSets) events =
      some final) :
    final svc.daemonSetKey =
      ServiceReconciler.reconcile site svc.key daemonSets svc.daemonSetKey := by
  have first : ServiceReconciler.reconcile site svc.key daemonSets =
      deployDaemonSet site svc daemonSets := by
    simp only [ServiceReconciler.reconcile, listed]
  rw [first] at reached ⊢
  have preserved (later : DaemonSets) (event : Reconcile) (next : DaemonSets)
      (known : later svc.daemonSetKey = deployDaemonSet site svc daemonSets svc.daemonSetKey)
      (stepped : site.machine.step later event = some next) :
      next svc.daemonSetKey = deployDaemonSet site svc daemonSets svc.daemonSetKey := by
    cases event with
    | service key =>
        cases stepped
        rw [← known, ServiceReconciler.reconcile]
        cases found : site.services.lookup key with
        | none => rfl
        | some other =>
            by_cases same : other.key = svc.key
            · rw [← same, site.keyed key other found, found, Option.some.injEq] at listed
              rw [listed]
              exact deployDaemonSet_again known
            · exact deployDaemonSet_other same
    | node name =>
        cases stepped
        rw [← known]
        apply nodeReconcile_labelled
        intro ds found
        rw [label_deployDaemonSet (known.symm.trans found), labels_newDaemonSet,
          if_pos ((nodesWithLabel_pos site).mpr refused.1)]
  exact site.machine.run_preserves preserved rfl reached

end Stability

/-- The two reconcilers agree on a Service, and running them again leaves its DaemonSet as it is,
exactly when a node refuses load balancers and the Service asks for no node pool. -/
theorem reconcilers_agree_iff (site : Site) (svc : Service)
    (listed : site.services.lookup svc.key = some svc) :
    (SelectorsAgree site svc ∧ ∀ daemonSets events final,
      site.machine.run (ServiceReconciler.reconcile site svc.key daemonSets) events = some final →
        final svc.daemonSetKey =
          ServiceReconciler.reconcile site svc.key daemonSets svc.daemonSetKey) ↔
      RefusedWithoutPool site svc := by
  constructor
  · rintro ⟨agree, -⟩
    exact (selectorsAgree_iff site svc).mp agree
  · intro refused
    exact ⟨(selectorsAgree_iff site svc).mpr refused, fun _ _ _ => run_stable listed refused⟩

def exampleService : Service where
  ns := "default"
  name := "web"
  type := .loadBalancer
  ports := [⟨"http", .tcp, none, 80, .int 8080, 0⟩]
  clusterIP := "10.96.0.1"
  clusterIPs := ["10.96.0.1"]
  labels := Labels.of []
  uid := "0f3a7c52-41d8-4f0e-9a55-2f1c6f0f9d11"
  assigned := by decide

/-- One node carries the label with this value, another one does not carry it. -/
def exampleSite (value : String) : Site where
  mesh := {
    isManaged := false, region := "default", zone := "default", group := "default"
    name := "local", uid := "uid", controlPlaneUID := ""
    images := { repository := "flomesh", klipperLbImage := "mirrored-klipper-lb:v0.3.5" }
    serviceLB := { enabled := true } }
  parseTag := fun _ => "v0.3.5"
  nodes := ((∅ : GoMap String Node).insert "n1"
      { name := "n1", labels := Labels.of [(daemonsetNodeLabel, value)] }).insert
    "n2" { name := "n2", labels := Labels.of [] }
  services := (∅ : GoMap NamespacedName Service).insert exampleService.key exampleService
  keyed := by
    intro key svc found
    by_cases same : key = exampleService.key
    · subst same
      rw [AList.lookup_insert, Option.some.injEq] at found
      rw [found]
    · rw [AList.lookup_insert_ne same] at found
      cases found

theorem reconcilers_agree_refused :
    SelectorsAgree (exampleSite "false") exampleService ∧ ∀ daemonSets events final,
      (exampleSite "false").machine.run
          (ServiceReconciler.reconcile (exampleSite "false") exampleService.key daemonSets) events =
        some final →
        final exampleService.daemonSetKey = ServiceReconciler.reconcile (exampleSite "false")
          exampleService.key daemonSets exampleService.daemonSetKey :=
  (reconcilers_agree_iff (exampleSite "false") exampleService rfl).mpr
    ⟨⟨_, List.mem_cons_of_mem _ List.mem_cons_self, rfl⟩, rfl⟩

/-- A node that only asks for load balancers makes the reconcilers relabel the DaemonSet in turn. -/
theorem reconcilers_disagree_enabled :
    ¬ SelectorsAgree (exampleSite "true") exampleService ∧ ∃ final,
      (exampleSite "true").machine.run
          (ServiceReconciler.reconcile (exampleSite "true") exampleService.key fun _ => none)
          [.node "n1"] = some final ∧
        final exampleService.daemonSetKey ≠ ServiceReconciler.reconcile (exampleSite "true")
          exampleService.key (fun _ => none) exampleService.daemonSetKey := by
  refine ⟨fun agree => absurd agree.2 (by decide +kernel), _, rfl, fun same => ?_⟩
  have labels := congrArg (Option.map fun ds => ds.labels nodeSelectorLabel) same
  exact absurd labels (by decide +kernel)

end ErieCanal.ServiceLB
