import ErieCanal.Proof.Cache.RoutePaths
import ErieCanal.Proof.Export.UserWrites

namespace ErieCanal.Export
open Lib Lib.Program Kube CoreV1 NetworkingV1 Cache ServiceExportReconciler

/-- The router path depends on neither the rule nor the backend of a path. -/
def routerPath (path : HTTPIngressPath) : Option String :=
  match path.pathType with
  | .exact => some path.path
  | .pathPrefix => some (prefixHostPath path.path)
  | .implementationSpecific => none

theorem routerPath_of_info {rule : IngressRule} {path : HTTPIngressPath}
    {svcPortName : ServicePortName} {info : BaseIngressInfo}
    (made : newBaseIngressInfo rule path svcPortName = some info) :
    routerPath path = some info.path := by
  rcases newBaseIngressInfo_cases made with ⟨kind, named⟩ | ⟨kind, named⟩
  · simp only [routerPath, kind, named]
  · simp only [routerPath, kind, named]

/-- No path of the one list has the router path of a path of the other. -/
def Separate (ours theirs : List HTTPIngressPath) : Prop :=
  ∀ path ∈ ours, ∀ other ∈ theirs, (routerPath path).isSome → routerPath path ≠ routerPath other

theorem Separate.symm {ours theirs : List HTTPIngressPath} (separate : Separate ours theirs) :
    Separate theirs ours := by
  intro path member other listed routed same
  rw [same] at routed
  exact separate other listed path member routed same.symm

/-- The paths of all rules of an Ingress. -/
def pathsOf (ing : Ingress) : List HTTPIngressPath := ing.rules.flatMap fun rule => rule.http.getD []

theorem pathsOf_exportRules {ing : Ingress} {exp : ServiceExport}
    (rules : ing.rules = exportRules exp) : pathsOf ing = ingressPaths exp := by
  simp [pathsOf, rules, exportRules]

/-- The exports own Ingresses without a common router path, and every valid export owns one. -/
structure RoutersApart (store : ExportStore) : Prop where
  fresh : ∀ key exp, store.exports.get key = some exp → exp.object.uid < store.nextUID
  distinct : ∀ first second one two, store.exports.get first = some one →
    store.exports.get second = some two → one.object.uid = two.object.uid → first = second
  owned : ∀ key ing, store.ingresses.get (ingressKey key) = some ing → ∃ exp,
    store.exports.get key = some exp ∧ ing.object.controllerUID = some exp.object.uid ∧
      ing.object.rules = exportRules exp.object
  apart : ∀ first second one two, first ≠ second →
    store.ingresses.get (ingressKey first) = some one →
    store.ingresses.get (ingressKey second) = some two →
    Separate (pathsOf one.object) (pathsOf two.object)
  reported : ∀ key exp, store.exports.get key = some exp → exp.object.isValid = true →
    (store.ingresses.get (ingressKey key)).isSome = true

namespace RoutersApart

theorem empty : RoutersApart .empty where
  fresh := fun _ _ found => by cases found
  distinct := fun _ _ _ _ found => by cases found
  owned := fun _ _ found => by cases found
  apart := fun _ _ _ _ _ found => by cases found
  reported := fun _ _ found => by cases found

/-- A new export has a new UID and no Ingress yet. -/
theorem create {store : ExportStore} {exp : ServiceExport} (apart : RoutersApart store)
    (free : store.exports.get exp.key = none) (unused : exp.uid = store.nextUID)
    (unreported : exp.isValid = false) :
    RoutersApart { store with
      exports := store.exports.write exp, nextUID := store.nextUID + 1 } := by
  refine ⟨?_, ?_, ?_, apart.apart, ?_⟩
  · intro key stored found
    obtain ⟨_, rfl⟩ | ⟨_, old⟩ := Registry.get_write_cases found
    · simp [unused]
    · exact Nat.lt_succ_of_lt (apart.fresh key stored old)
  · intro first second one two found found' same
    obtain ⟨rfl, rfl⟩ | ⟨_, old⟩ := Registry.get_write_cases found
    · obtain ⟨rfl, _⟩ | ⟨_, old'⟩ := Registry.get_write_cases found'
      · rfl
      · have earlier := apart.fresh second two old'
        simp only at same
        omega
    · obtain ⟨rfl, rfl⟩ | ⟨_, old'⟩ := Registry.get_write_cases found'
      · have earlier := apart.fresh first one old
        simp only at same
        omega
      · exact apart.distinct first second one two old old' same
  · intro key ing written
    obtain ⟨owner, present, shown⟩ := apart.owned key ing written
    have different : key ≠ exp.key := by
      rintro rfl
      cases free.symm.trans present
    exact ⟨owner, (Registry.get_write_ne _ different).trans present, shown⟩
  · intro key stored found valid
    obtain ⟨_, rfl⟩ | ⟨_, old⟩ := Registry.get_write_cases found
    · cases unreported.symm.trans valid
    · exact apart.reported key stored old valid

/-- The users create exports and write Ingresses of their own. -/
theorem apply {store next : ExportStore} {write : UserWrite} (apart : RoutersApart store)
    (within : write.Within (fun _ => False) fun _ => True)
    (applied : store.apply write = some next) : RoutersApart next := by
  have disturbed := Disturbed.of_apply within applied
  cases write with
  | createExport key annotations spec =>
      simp only [ExportStore.apply] at applied
      split at applied
      · cases applied
      · obtain made | ⟨free, made⟩ := store.exports.create_cases
          ⟨key.ns, key.name, store.nextUID, annotations, spec, []⟩
        · rw [made] at applied
          cases applied
        · rw [made] at applied
          cases applied
          exact apart.create free rfl rfl
  | changeSpec key spec => exact within.elim
  | writeService svc =>
      cases applied
      exact ⟨apart.fresh, apart.distinct, apart.owned, apart.apart, apart.reported⟩
  | deleteService key =>
      cases applied
      exact ⟨apart.fresh, apart.distinct, apart.owned, apart.apart, apart.reported⟩
  | writeIngress ing =>
      simp only [ExportStore.apply] at applied
      split at applied
      · cases applied
      · cases applied
        have same := disturbed.ingresses
        refine ⟨apart.fresh, apart.distinct, ?_, ?_, ?_⟩
        · intro key stored found
          exact apart.owned key stored ((same key).symm.trans found)
        · intro first second one two different found found'
          exact apart.apart first second one two different ((same first).symm.trans found)
            ((same second).symm.trans found')
        · intro key stored found valid
          rw [same key]
          exact apart.reported key stored found valid

/-- An update of an export keeps its rules; it may report the export once the Ingress exists. -/
theorem update {store : ExportStore} {key : NamespacedName} {version : Nat}
    {change : ServiceExport → ServiceExport} {updated : Versioned ServiceExport}
    {exports : Registry ServiceExport.key} (apart : RoutersApart store)
    (accepted : store.exports.Updated key version change updated exports)
    (keeps : ∀ current, store.exports.get key = some current →
      exportRules (change current.object) = exportRules current.object ∧
        (change current.object).uid = current.object.uid)
    (reports : updated.object.isValid = true →
      (store.ingresses.get (ingressKey key)).isSome = true) :
    RoutersApart { store with exports } := by
  obtain ⟨current, found, _, result⟩ := accepted.current
  obtain ⟨rules, uid⟩ := keeps current found
  rw [← result] at rules uid
  -- Every export has a counterpart with the same UID and the same rules.
  have before : ∀ other exp, exports.get other = some exp → ∃ old,
      store.exports.get other = some old ∧ exp.object.uid = old.object.uid ∧
        exportRules exp.object = exportRules old.object := by
    intro other exp stored
    obtain ⟨rfl, rfl⟩ | ⟨_, earlier⟩ := accepted.get_cases stored
    · exact ⟨current, found, uid, rules⟩
    · exact ⟨exp, earlier, rfl, rfl⟩
  refine ⟨?_, ?_, ?_, apart.apart, ?_⟩
  · intro other exp stored
    obtain ⟨old, present, same, _⟩ := before other exp stored
    rw [same]
    exact apart.fresh other old present
  · intro first second one two stored stored' same
    obtain ⟨old, present, uid, _⟩ := before first one stored
    obtain ⟨old', present', uid', _⟩ := before second two stored'
    exact apart.distinct first second old old' present present'
      (uid.symm.trans (same.trans uid'))
  · intro other ing written
    obtain ⟨exp, present, controlled, shown⟩ := apart.owned other ing written
    obtain ⟨rfl, later⟩ | ⟨_, later⟩ := accepted.get_of_get present
    · cases found.symm.trans present
      exact ⟨updated, later, by rw [uid]; exact controlled, by rw [rules]; exact shown⟩
    · exact ⟨exp, later, controlled, shown⟩
  · intro other exp stored valid
    obtain ⟨rfl, rfl⟩ | ⟨_, earlier⟩ := accepted.get_cases stored
    · exact reports valid
    · exact apart.reported other exp earlier valid

/-- A written Ingress has the rules of its export and shares no router path with the others. -/
theorem ingress {store : ExportStore} {exp : Versioned ServiceExport} {written : Versioned Ingress}
    {ingresses : Registry Ingress.key} (apart : RoutersApart store)
    (stored : store.exports.get exp.object.key = some exp)
    (found : ingresses.get (ingressKey exp.object.key) = some written)
    (others : ∀ other, other ≠ ingressKey exp.object.key →
      ingresses.get other = store.ingresses.get other)
    (controlled : written.object.controllerUID = some exp.object.uid)
    (rules : written.object.rules = exportRules exp.object)
    (separate : ∀ other ing, other ≠ exp.object.key →
      store.ingresses.get (ingressKey other) = some ing →
      Separate (ingressPaths exp.object) (pathsOf ing.object)) :
    RoutersApart { store with ingresses } := by
  have elsewhere : ∀ other, other ≠ exp.object.key →
      ingresses.get (ingressKey other) = store.ingresses.get (ingressKey other) :=
    fun other different => others _ fun equal => different (ingressKey_injective equal)
  have own := pathsOf_exportRules rules
  refine ⟨apart.fresh, apart.distinct, ?_, ?_, ?_⟩
  · intro other ing present
    by_cases same : other = exp.object.key
    · subst same
      cases found.symm.trans present
      exact ⟨exp, stored, controlled, rules⟩
    · exact apart.owned other ing ((elsewhere other same).symm.trans present)
  · intro first second one two different present present'
    by_cases same : first = exp.object.key
    · subst same
      cases found.symm.trans present
      rw [own]
      exact separate second two (Ne.symm different)
        ((elsewhere second (Ne.symm different)).symm.trans present')
    · have present := (elsewhere first same).symm.trans present
      by_cases same' : second = exp.object.key
      · subst same'
        cases found.symm.trans present'
        rw [own]
        exact (separate first one same present).symm
      · exact apart.apart first second one two different present
          ((elsewhere second same').symm.trans present')
  · intro other current present valid
    by_cases same : other = exp.object.key
    · rw [same, found]
      rfl
    · rw [elsewhere other same]
      exact apart.reported other current present valid

/-- An export that shares no router path with the Ingresses of other owners shares none with the
Ingress of any other export. -/
theorem separate {store : ExportStore} {exp : Versioned ServiceExport} (apart : RoutersApart store)
    (stored : store.exports.get exp.object.key = some exp)
    (separated : ∀ key ing, store.ingresses.get (ingressKey key) = some ing →
      isControlledBy ing.object exp.object = false →
      Separate (ingressPaths exp.object) (pathsOf ing.object))
    (other : NamespacedName) (ing : Versioned Ingress) (different : other ≠ exp.object.key)
    (found : store.ingresses.get (ingressKey other) = some ing) :
    Separate (ingressPaths exp.object) (pathsOf ing.object) := by
  obtain ⟨owner, present, controlled, _⟩ := apart.owned other ing found
  refine separated other ing found ?_
  have distinct : owner.object.uid ≠ exp.object.uid := fun same =>
    different (apart.distinct _ _ _ _ present stored same)
  simpa [isControlledBy, controlled] using distinct

end RoutersApart

/-- Two different valid exports have no rules that the router keeps under one path. -/
def SharesNoRouterPath (store : ExportStore) : Prop :=
  ∀ first second one two, first ≠ second → store.exports.get first = some one →
    store.exports.get second = some two → one.object.isValid = true → two.object.isValid = true →
    ∀ path ∈ ingressPaths one.object, ∀ other ∈ ingressPaths two.object,
    ∀ rule rule' svcPortName svcPortName' info info',
      newBaseIngressInfo rule path svcPortName = some info →
      newBaseIngressInfo rule' other svcPortName' = some info' → info.path ≠ info'.path

theorem RoutersApart.sharesNoRouterPath {store : ExportStore} (apart : RoutersApart store) :
    SharesNoRouterPath store := by
  intro first second one two different stored stored' valid valid' path listed other listed'
    rule rule' svcPortName svcPortName' info info' made made' same
  obtain ⟨ing, found⟩ := Option.isSome_iff_exists.mp (apart.reported first one stored valid)
  obtain ⟨ing', found'⟩ := Option.isSome_iff_exists.mp (apart.reported second two stored' valid')
  obtain ⟨owner, present, _, rules⟩ := apart.owned first ing found
  cases stored.symm.trans present
  obtain ⟨owner', present', _, rules'⟩ := apart.owned second ing' found'
  cases stored'.symm.trans present'
  have separate := apart.apart first second ing ing' different found found'
  rw [pathsOf_exportRules rules, pathsOf_exportRules rules'] at separate
  have routed := routerPath_of_info made
  refine separate path listed other listed' (by rw [routed]; rfl) ?_
  rw [routed, routerPath_of_info made', same]

/-- Every Ingress of another export writes a router path of this export as the export does. -/
def Comparable (store : ExportStore) (exp : ServiceExport) : Prop :=
  ∀ ing ∈ store.ingresses.list, isExportIngressName ing.object.name = true →
    isControlledBy ing.object exp = false → ∀ theirs ∈ pathsOf ing.object,
      ∀ ours ∈ ingressPaths exp, (routerPath ours).isSome → routerPath theirs = routerPath ours →
        theirs.path = ours.path ∧ theirs.pathType = ours.pathType

/-- The export that this call reads is comparable. -/
def ReadsComparable (store : ExportStore) : ExportCall → Prop
  | .getExport key => ∀ exp ∈ store.exports.get key, Comparable store exp.object
  | _ => True

instance (store : ExportStore) (exp : ServiceExport) : Decidable (Comparable store exp) :=
  inferInstanceAs (Decidable (∀ ing ∈ store.ingresses.list,
    isExportIngressName ing.object.name = true → isControlledBy ing.object exp = false →
      ∀ theirs ∈ pathsOf ing.object, ∀ ours ∈ ingressPaths exp, (routerPath ours).isSome →
        routerPath theirs = routerPath ours →
          theirs.path = ours.path ∧ theirs.pathType = ours.pathType))

instance (store : ExportStore) (call : ExportCall) : Decidable (ReadsComparable store call) :=
  match call with
  | .getExport key =>
      inferInstanceAs (Decidable (∀ exp ∈ store.exports.get key, Comparable store exp.object))
  | .getService _ | .listIngresses | .getIngress _ | .createIngress _ | .updateExport _
  | .updateIngress _ | .updateStatus _ => .isTrue trivial

/-- An export that is not comparable cannot be read. -/
def comparableReads (store : ExportStore) (call : ExportCall) (fault : Option String) :
    Option String :=
  if ReadsComparable store call then fault else some ""

/-- A run knows the export that it has read and how other exports write its router paths. -/
structure Comparing (req : NamespacedName) (exp : Versioned ServiceExport) (store : ExportStore) :
    Prop where
  named : exp.object.key = req
  reads : Reads (fun _ => False) exp store
  comparable : ∀ key ing, store.ingresses.get (ingressKey key) = some ing →
    isControlledBy ing.object exp.object = false → ∀ theirs ∈ pathsOf ing.object,
      ∀ ours ∈ ingressPaths exp.object, (routerPath ours).isSome →
        routerPath theirs = routerPath ours →
          theirs.path = ours.path ∧ theirs.pathType = ours.pathType

/-- After the scan it knows that no other Ingress has one of its router paths. -/
structure Placing (req : NamespacedName) (exp : Versioned ServiceExport) (store : ExportStore) :
    Prop where
  named : exp.object.key = req
  reads : Reads (fun _ => False) exp store
  separated : ∀ key ing, store.ingresses.get (ingressKey key) = some ing →
    isControlledBy ing.object exp.object = false →
    Separate (ingressPaths exp.object) (pathsOf ing.object)

section Reconcile
variable {req : NamespacedName} {exp : Versioned ServiceExport} {store before after : ExportStore}

theorem Comparing.stable (comparing : Comparing req exp before)
    (disturbed : Disturbed (fun _ => False) (fun _ => True) before after) :
    Comparing req exp after where
  named := comparing.named
  reads := comparing.reads.stable disturbed
  comparable := fun key ing found =>
    comparing.comparable key ing ((disturbed.ingresses key).symm.trans found)

theorem Placing.stable (placing : Placing req exp before)
    (disturbed : Disturbed (fun _ => False) (fun _ => True) before after) :
    Placing req exp after where
  named := placing.named
  reads := placing.reads.stable disturbed
  separated := fun key ing found =>
    placing.separated key ing ((disturbed.ingresses key).symm.trans found)

theorem Comparing.of_get (found : store.exports.get req = some exp)
    (comparable : Comparable store exp.object) : Comparing req exp store where
  named := store.exports.keyed req exp found
  reads := .of_get ((store.exports.keyed req exp found).symm ▸ found)
  comparable := by
    intro key ing stored
    refine comparable ing ((store.ingresses.mem_list ing).mpr ⟨_, stored⟩) ?_
    have named : ing.object.name = (ingressKey key).name :=
      congrArg NamespacedName.name (store.ingresses.keyed _ ing stored)
    rw [named]
    exact isExportIngressName_ingressKey key

/-- The scan compares texts, and a shared router path has one text. -/
theorem Comparing.place (comparing : Comparing req exp store)
    (unclaimed : Unclaimed exp.object store) : Placing req exp store where
  named := comparing.named
  reads := comparing.reads
  separated := by
    intro key ing found foreign ours listed theirs visited routed same
    obtain ⟨er, within, rfl⟩ := List.mem_map.mp listed
    obtain ⟨text, kind⟩ :=
      comparing.comparable key ing found foreign theirs visited _ listed routed same.symm
    obtain ⟨rule, member, present⟩ := List.mem_flatMap.mp visited
    cases http : rule.http with
    | none =>
        rw [http] at present
        cases present
    | some paths =>
        rw [http] at present
        have claimed := unclaimed er within _ ing found foreign rule member paths http theirs present
        simp [samePath, text, kind] at claimed

/-- No user changes a spec, so that the stored export is the one that was read. -/
theorem Reads.exact (reads : Reads (fun _ => False) exp store) :
    store.exports.get exp.object.key = some exp := by
  obtain ⟨_, stored, found, rfl | ⟨_, _, never, _⟩⟩ := reads
  · exact found
  · exact never.elim

/-- Every call of a run keeps the router paths apart. -/
def apartContract : Worker.Contract ExportStore ReconcileRequest Outcome where
  rely := Disturbed (fun _ => False) fun _ => True
  invariant := RoutersApart
  between := fun _ => True
  post := fun _ _ _ => True
  reflexive := .refl
  transitive := fun _ _ _ one two => one.trans (fun _ never => never.elim) two
  stable := fun _ _ _ _ => trivial
  ends := fun _ _ _ _ => trivial

/-- This part of a run fulfils the contract. -/
abbrev KeepsApart (program : Exporting Outcome) (store : ExportStore) : Prop :=
  program.Sound (ExportStore.serveWith comparableReads) apartContract.rely apartContract.guarantee
    (fun _ _ => True) store

/-- An export is reported as valid only when its Ingress exists. -/
theorem report_apart {status : ConditionStatus} {reason message : String} {result : Outcome}
    (reads : Reads (fun _ => False) exp store)
    (exists_ : status = .true → (store.ingresses.get (ingressKey exp.object.key)).isSome = true) :
    KeepsApart (report exp status reason message result) store := by
  refine report_sound (fun s => Reads (fun _ => False) exp s ∧
      (status = .true → (s.ingresses.get (ingressKey exp.object.key)).isSome = true))
    (fun _ held => held) ?_ (fun _ _ _ => trivial) ?_ ⟨reads, exists_⟩
  · rintro s s' ⟨reads, present⟩ disturbed
    refine ⟨reads.stable disturbed, fun valid => ?_⟩
    rw [disturbed.ingresses]
    exact present valid
  · rintro s updated exports ⟨reads, present⟩ accepted
    refine ⟨fun apart => apart.update accepted (fun _ _ => ⟨rfl, rfl⟩) ?_, trivial⟩
    intro valid
    rw [(reads.current accepted).2] at valid
    exact present (status_of_isValid valid)

/-- The recorded hash does not change the rules. -/
theorem Placing.record {hash : String} {updated : Versioned ServiceExport}
    {exports : Registry ServiceExport.key} (placing : Placing req exp store)
    (accepted : store.exports.Updated exp.object.key exp.version
      (fun stored => stored.replaceBy (exp.object.withExportHash hash)) updated exports) :
    Placing req updated { store with exports } := by
  have changed := (placing.reads.current accepted).2
  have named : updated.object.key = exp.object.key := by rw [changed]; rfl
  refine ⟨named.trans placing.named, .of_get (named ▸ accepted.stored), ?_⟩
  rw [changed]
  exact placing.separated

/-- An updated Ingress has the rules of the export. -/
theorem Placing.write {ing written : Versioned Ingress} {ingresses : Registry Ingress.key}
    (placing : Placing req exp store) (found : store.ingresses.get (ingressKey req) = some ing)
    (accepted : store.ingresses.Updated (updatedIngress exp.object ing.object).key ing.version
      (fun _ => updatedIngress exp.object ing.object) written ingresses) :
    apartContract.guarantee store { store with ingresses } ∧
      KeepsApart (successExport req exp) { store with ingresses } := by
  have named := store.ingresses.keyed _ ing found
  rw [show (updatedIngress exp.object ing.object).key = ingressKey exp.object.key from
    named.trans (by rw [placing.named])] at accepted
  have stored := placing.reads.exact
  obtain ⟨_, _, _, result⟩ := accepted.current
  refine ⟨fun apart => ?_, report_apart placing.reads fun _ => by rw [accepted.stored]; rfl⟩
  obtain ⟨owner, present, controlled, _⟩ := apart.owned req ing found
  rw [placing.named] at stored
  cases stored.symm.trans present
  refine apart.ingress placing.reads.exact accepted.stored accepted.others ?_ ?_
    (apart.separate placing.reads.exact placing.separated)
  · rw [result]
    exact controlled
  · rw [result]
    rfl

/-- A new Ingress has the rules of the export. -/
theorem Placing.create (placing : Placing req exp store) :
    let created := { store with
      ingresses := store.ingresses.write (setControllerReference exp.object (newIngress exp.object)) }
    apartContract.guarantee store created ∧ KeepsApart (successExport req exp) created := by
  have written : (store.ingresses.write _).get (ingressKey exp.object.key) = some
    ⟨setControllerReference exp.object (newIngress exp.object), _⟩ := store.ingresses.get_write rfl
  refine ⟨fun apart => ?_, ?_⟩
  · have stored := placing.reads.exact
    exact apart.ingress stored written (fun other different => Registry.get_write_ne _ different)
      rfl rfl (apart.separate stored placing.separated)
  · refine report_apart placing.reads fun _ => ?_
    rw [written]
    rfl

/-- The writes of a run keep the rules of the Ingresses apart. -/
theorem exportIngress_apart {settings : Settings} (start : Placing req exp store) :
    KeepsApart (exportIngress settings req exp) store := by
  refine exportIngress_sound (fun exp s => Placing req exp s)
    (fun exp ing s => Placing req exp s ∧ s.ingresses.get (ingressKey req) = some ing)
    (fun _ held => held) ?_ ?_ (fun _ _ _ _ => trivial) (fun _ _ _ _ _ _ _ => trivial) ?_ ?_ ?_ ?_
    ?_ ?_ start
  · intro exp s s' placing disturbed
    exact placing.stable disturbed
  · rintro exp ing s s' ⟨placing, found⟩ disturbed
    exact ⟨placing.stable disturbed, (disturbed.ingresses req).trans found⟩
  · intro s exp ing updated exports placing found _ accepted
    obtain ⟨stored, changed⟩ := placing.reads.current accepted
    refine ⟨fun apart => apart.update accepted ?_ ?_, placing.record accepted, found⟩
    · intro old present
      cases stored.symm.trans present
      exact ⟨rfl, rfl⟩
    · intro valid
      rw [changed] at valid
      exact apart.reported _ exp stored valid
  · intro s exp ing placing found _
    refine report_apart placing.reads fun _ => ?_
    rw [placing.named, found]
    rfl
  · rintro s exp ing written ingresses ⟨placing, found⟩ accepted
    exact placing.write found accepted
  · intro s s' disturbed
    exact disturbed.ingresses req
  · intro s exp placing
    exact placing.named
  · intro s exp placing _
    exact placing.create

/-- A whole run keeps the router paths apart when it reads comparable exports. -/
theorem reconcile_apart {settings : Settings} {range : RangeOrder Ingress} :
    KeepsApart (reconcile settings range req) store := by
  refine reconcile_sound (fun exp s => Comparing req exp s) (fun _ held => held) ?_
    (fun _ _ _ _ => trivial) ?_ ?_ (fun _ => True) (fun _ _ _ _ => trivial)
    (fun _ _ _ => trivial) (fun _ _ _ => trivial) ?_ trivial
  · intro exp s s' comparing disturbed
    exact comparing.stable disturbed
  · intro s exp message result comparing
    exact report_apart comparing.reads fun valid => by cases valid
  · intro s exp comparing unclaimed
    exact exportIngress_apart (comparing.place unclaimed)
  · intro s exp fault _ readable found
    refine .of_get found ?_
    by_cases comparable : ReadsComparable s (.getExport req)
    · exact comparable exp found
    · rw [comparableReads, if_neg comparable] at readable
      cases readable

end Reconcile

namespace ExportProcess

/-- No spec changes, and every run reads a comparable export. -/
def ReadsApart : ExportProcess → ExportStep → Prop :=
  Worker.Meets (fun _ write => write.Within (fun _ => False) fun _ => True) (fun _ _ => True)
    fun store call _ => ReadsComparable store call

instance (write : UserWrite) : Decidable (write.Within (fun _ => False) fun _ => True) :=
  match write with
  | .changeSpec _ _ => .isFalse fun never => never
  | .createExport _ _ _ | .writeService _ | .deleteService _ | .writeIngress _ => .isTrue trivial

instance (process : ExportProcess) (step : ExportStep) : Decidable (ReadsApart process step) :=
  inferInstanceAs (Decidable (Worker.Meets
    (fun _ write => write.Within (fun _ => False) fun _ => True) (fun _ _ => True)
    (fun store call _ => ReadsComparable store call) process step))

theorem routersApart_step {settings : Settings} {process next : ExportProcess} {step : ExportStep}
    (fulfilled : apartContract.Fulfils (ExportStore.serveWith comparableReads) process)
    (meets : ReadsApart process step) (stepped : (machine settings).step process step = some next) :
    apartContract.Fulfils (ExportStore.serveWith comparableReads) next := by
  refine Worker.Contract.Fulfils.step ?_ ?_ ?_ fulfilled meets stepped
  · intro store write next within applied
    exact ⟨.of_apply within applied, fun apart => apart.apply within applied⟩
  · intro store request _ _ _
    exact reconcile_apart
  · intro store call fault comparable
    rw [ExportStore.serveWith, comparableReads, if_pos comparable]

/-- If every run reads a comparable export, no two valid exports have rules with one router path. -/
theorem run_sharesNoRouterPath (settings : Settings) (steps : List ExportStep)
    (final : ExportProcess) (compared : (machine settings).Guarded ReadsApart initial steps)
    (reached : (machine settings).run initial steps = some final) :
    SharesNoRouterPath final.store := by
  have fulfilled := (machine settings).run_invariant
    (fun process step next fulfilled meets stepped => routersApart_step fulfilled meets stepped)
    (Worker.Contract.fulfils_idle RoutersApart.empty trivial) compared reached
  exact fulfilled.invariant.sharesNoRouterPath

/-- An export of this name with one prefix path, beside its service. -/
def exporting (name path : String) : List ExportStep :=
  [.client (.createExport ⟨"default", name⟩ none (exampleSpec path)),
    .client (.writeService (exampleService ⟨"default", name⟩))]

def requestOf (name : String) : ReconcileRequest := ⟨⟨"default", name⟩, .stored⟩

/-- Two exports are created and then reconciled one after the other. -/
def exportingTwo (path path' : String) : List ExportStep :=
  exporting "web" path ++ exporting "api" path' ++
    runRequest (requestOf "web") (List.replicate 6 none) ++
    runRequest (requestOf "api") (List.replicate 6 none)

/-- The paths `/a` and `/a/` have different texts, but the router keeps both under `/a/*`. -/
theorem run_shares_routerPath : ∃ final,
    (machine exampleSettings).run initial (exportingTwo "/a" "/a/") = some final ∧
    ¬ SharesNoRouterPath final.store := by
  refine ⟨_, rfl, ?_⟩
  intro apart
  exact apart ⟨"default", "web"⟩ ⟨"default", "api"⟩ _ _ (by decide) rfl rfl (by decide +kernel)
    (by decide +kernel) _ List.mem_cons_self _ List.mem_cons_self ⟨"", none⟩ ⟨"", none⟩
    ⟨⟨"default", "web"⟩, "", .tcp⟩ ⟨⟨"default", "api"⟩, "", .tcp⟩ _ _ rfl rfl (by decide +kernel)

/-- The exports of `/a` and of `/b` are both valid. -/
theorem run_sharesNoRouterPath_both : ∃ final one two,
    (machine exampleSettings).run initial (exportingTwo "/a" "/b") = some final ∧
    final.store.exports.get ⟨"default", "web"⟩ = some one ∧ one.object.isValid = true ∧
    final.store.exports.get ⟨"default", "api"⟩ = some two ∧ two.object.isValid = true ∧
    SharesNoRouterPath final.store := by
  refine ⟨_, _, _, rfl, rfl, by decide +kernel, rfl, by decide +kernel, ?_⟩
  exact run_sharesNoRouterPath exampleSettings (exportingTwo "/a" "/b") _ (by decide +kernel) rfl

end ExportProcess
end ErieCanal.Export
