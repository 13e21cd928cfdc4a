import ErieCanal.Construction.Export.Reconciler

namespace ErieCanal.Export
open Lib Lib.Program Kube CoreV1 NetworkingV1

theorem ingressKey_injective {first second : NamespacedName}
    (same : ingressKey first = ingressKey second) : first = second := by
  obtain ⟨ns, name⟩ := first
  obtain ⟨ns', name'⟩ := second
  simp only [ingressKey, NamespacedName.mk.injEq] at same
  have names := congrArg String.toList same.2
  rw [String.toList_append, String.toList_append, List.append_cancel_left_eq] at names
  rw [same.1, String.toList_injective names]

theorem isExportIngressName_ingressKey (key : NamespacedName) :
    isExportIngressName (ingressKey key).name = true := by
  simp [isExportIngressName, ingressKey, String.toList_append]

namespace ServiceExport

@[simp] theorem exportHash_withExportHash (exp : ServiceExport) (hash : String) :
    (exp.withExportHash hash).exportHash = hash := by
  simp [exportHash, withExportHash, annotationOf]

end ServiceExport

namespace ExportStore
variable (store : ExportStore) (fault : Option String)

/-- A create fails without effect, or it finds the name free. -/
theorem serve_createIngress (ing : Ingress) :
    (∃ error, store.serve (.createIngress ing) fault = (.error error, store)) ∨
      ∃ created, store.ingresses.get ing.key = none ∧
        store.serve (.createIngress ing) fault =
          (.ok created, { store with ingresses := store.ingresses.write ing }) := by
  cases fault with
  | some message => exact .inl ⟨_, rfl⟩
  | none =>
      obtain made | ⟨free, made⟩ := store.ingresses.create_cases ing
      · exact .inl ⟨.alreadyExists, by simp only [serve, made]; rfl⟩
      · exact .inr ⟨_, free, by simp only [serve, made]; rfl⟩

/-- An update of an export fails without effect, or it replaces all but the status. -/
theorem serve_updateExport (exp : Versioned ServiceExport) :
    (∃ error, store.serve (.updateExport exp) fault = (.error error, store)) ∨
      ∃ updated exports, store.serve (.updateExport exp) fault =
          (.ok updated, { store with exports }) ∧
        store.exports.Updated exp.object.key exp.version
          (fun stored => stored.replaceBy exp.object) updated exports := by
  cases fault with
  | some message => exact .inl ⟨_, rfl⟩
  | none =>
      obtain ⟨refusal, made⟩ | ⟨updated, exports, made, changed⟩ :=
        store.exports.update_cases exp.object.key exp.version
          (fun stored => stored.replaceBy exp.object) (fun _ _ => rfl)
      · exact .inl ⟨.ofRefusal refusal, by simp only [serve, updateExport, made]; rfl⟩
      · exact .inr ⟨updated, exports, by simp only [serve, updateExport, made]; rfl, changed⟩

/-- A status update fails without effect, or it replaces the conditions only. -/
theorem serve_updateStatus (exp : Versioned ServiceExport) :
    (∃ error, store.serve (.updateStatus exp) fault = (.error error, store)) ∨
      ∃ updated exports, store.serve (.updateStatus exp) fault =
          (.ok updated, { store with exports }) ∧
        store.exports.Updated exp.object.key exp.version
          (fun stored => stored.replaceStatusBy exp.object) updated exports := by
  cases fault with
  | some message => exact .inl ⟨_, rfl⟩
  | none =>
      obtain ⟨refusal, made⟩ | ⟨updated, exports, made, changed⟩ :=
        store.exports.update_cases exp.object.key exp.version
          (fun stored => stored.replaceStatusBy exp.object) (fun _ named => named)
      · exact .inl ⟨.ofRefusal refusal, by simp only [serve, updateStatus, made]; rfl⟩
      · exact .inr ⟨updated, exports, by simp only [serve, updateStatus, made]; rfl, changed⟩

/-- An update of an Ingress fails without effect, or it replaces the Ingress. -/
theorem serve_updateIngress (ing : Versioned Ingress) :
    (∃ error, store.serve (.updateIngress ing) fault = (.error error, store)) ∨
      ∃ updated ingresses, store.serve (.updateIngress ing) fault =
          (.ok updated, { store with ingresses }) ∧
        store.ingresses.Updated ing.object.key ing.version (fun _ => ing.object) updated
          ingresses := by
  cases fault with
  | some message => exact .inl ⟨_, rfl⟩
  | none =>
      obtain ⟨refusal, made⟩ | ⟨updated, ingresses, made, changed⟩ :=
        store.ingresses.update_cases ing.object.key ing.version (fun _ => ing.object)
          (fun _ _ => rfl)
      · exact .inl ⟨.ofRefusal refusal, by simp only [serve, updateIngress, made]; rfl⟩
      · exact .inr ⟨updated, ingresses, by simp only [serve, updateIngress, made]; rfl, changed⟩

/-- Without a fault an Ingress of the stored version is replaced. -/
theorem serve_updateIngress_stored {key : NamespacedName} {current : Versioned Ingress}
    {object : Ingress} (found : store.ingresses.get key = some current) (named : object.key = key) :
    ∃ updated ingresses, store.serve (.updateIngress { current with object }) none =
        (.ok updated, { store with ingresses }) ∧
      store.ingresses.Updated key current.version (fun _ => object) updated ingresses := by
  subst named
  obtain ⟨updated, after, made⟩ := Registry.update_isOk found fun _ => object
  obtain ⟨error, served⟩ | written := store.serve_updateIngress none { current with object }
  · simp only [serve, updateIngress, made] at served
    cases served
  · exact written

/-- The faults of the calls are adjusted to the conditions of a run. -/
def serveWith (adjust : ExportStore → ExportCall → Option String → Option String)
    (store : ExportStore) (call : ExportCall) (fault : Option String) :
    call.Answer × ExportStore :=
  store.serve call (adjust store call fault)

end ExportStore

/-- No Ingress of another owner has a path with the text and the type of a rule of the export. -/
def Unclaimed (exp : ServiceExport) (store : ExportStore) : Prop :=
  ∀ er ∈ exp.spec.rules, ∀ key ing, store.ingresses.get key = some ing →
    isControlledBy ing.object exp = false → ∀ rule ∈ ing.object.rules, ∀ paths,
      rule.http = some paths → ∀ path ∈ paths, samePath er path = false

/-- A scan without a result passed over every path. -/
theorem unclaimed_of_scan {exp : ServiceExport} {store : ExportStore} {range : RangeOrder Ingress}
    (scanned : conflictingPath exp
      (range.order 0 (store.ingresses.list.map Versioned.object)) = .ok none) :
    Unclaimed exp store := by
  intro er within key ing stored other rule listed paths present path visited
  have visits := (findSomeM_eq_none _ _).mp scanned er within
  have visits := (findSomeM_eq_none _ _).mp visits ing.object (by
    rw [RangeOrder.mem_order]
    exact List.mem_map_of_mem ((store.ingresses.mem_list ing).mpr ⟨key, stored⟩))
  rw [other] at visits
  have visits := (findSomeM_eq_none _ _).mp visits rule listed
  simp only [present, pure, Except.pure, Except.ok.injEq, Option.map_eq_none_iff,
    List.find?_eq_none] at visits
  simpa using visits path visited

namespace ServiceExportReconciler
section Rules
variable {adjust : ExportStore → ExportCall → Option String → Option String}
  {rely guarantee : ExportStore → ExportStore → Prop} {post : Outcome → ExportStore → Prop}

/-- Only the report of a success leaves a valid export. -/
theorem status_of_isValid {stored exp : ServiceExport} {status : ConditionStatus}
    {reason message : String}
    (valid : (stored.replaceStatusBy (withValid exp status reason message)).isValid = true) :
    status = .true := by
  have set : (stored.replaceStatusBy (withValid exp status reason message)).isValid =
      (status == .true) := Conditions.isStatusConditionTrue_set _ _
  rw [set] at valid
  exact beq_iff_eq.mp valid

/-- A report changes the conditions of the export that it read, or nothing. -/
theorem report_sound {exp : Versioned ServiceExport} {status : ConditionStatus}
    {reason message : String} {result : Outcome} (read : ExportStore → Prop)
    (stutter : ∀ s, guarantee s s) (stable : ∀ s s', read s → rely s s' → read s')
    (fails : ∀ s error, read s → post (.failed error) s)
    (reports : ∀ s updated exports, read s →
      s.exports.Updated exp.object.key exp.version
        (fun stored => stored.replaceStatusBy (withValid exp.object status reason message))
        updated exports →
      guarantee s { s with exports } ∧ post result { s with exports })
    {store : ExportStore} (start : read store) :
    Sound (ExportStore.serveWith adjust) rely guarantee post
      (report exp status reason message result) store := by
  intro current interfered fault
  have begun := stable _ _ start interfered
  rw [ExportStore.serveWith]
  obtain ⟨error, served⟩ | ⟨updated, exports, served, changed⟩ :=
    current.serve_updateStatus (adjust current _ fault)
      { exp with object := withValid exp.object status reason message }
  · rw [served]
    exact ⟨stutter current, fails _ _ begun⟩
  · rw [served]
    exact reports current updated exports begun changed

section Publishing
variable {settings : Settings} {req : NamespacedName}
  (read : Versioned ServiceExport → ExportStore → Prop)
  (announced : Versioned ServiceExport → Versioned Ingress → ExportStore → Prop)
  (stutter : ∀ s, guarantee s s)
  (read_stable : ∀ exp s s', read exp s → rely s s' → read exp s')
  (announced_stable : ∀ exp ing s s', announced exp ing s → rely s s' → announced exp ing s')
  (fails : ∀ s exp error, read exp s → post (.failed error) s)
  (unwritten : ∀ s exp ing fault error, announced exp ing s →
    s.serveWith adjust (.updateIngress { ing with object := updatedIngress exp.object ing.object })
      fault = (.error error, s) → post (.failed error) s)
  (records : ∀ s exp ing updated exports, read exp s →
    s.ingresses.get (ingressKey req) = some ing →
    exp.object.exportHash ≠ settings.simpleHash exp.object.spec →
    s.exports.Updated exp.object.key exp.version (fun stored => stored.replaceBy
      (exp.object.withExportHash (settings.simpleHash exp.object.spec))) updated exports →
    guarantee s { s with exports } ∧ announced updated ing { s with exports })
  (current : ∀ s exp ing, read exp s → s.ingresses.get (ingressKey req) = some ing →
    exp.object.exportHash = settings.simpleHash exp.object.spec →
    Sound (ExportStore.serveWith adjust) rely guarantee post (successExport req exp) s)
  (writes : ∀ s exp ing updated ingresses, announced exp ing s →
    s.ingresses.Updated (updatedIngress exp.object ing.object).key ing.version
      (fun _ => updatedIngress exp.object ing.object) updated ingresses →
    guarantee s { s with ingresses } ∧
      Sound (ExportStore.serveWith adjust) rely guarantee post (successExport req exp)
        { s with ingresses })

include stutter announced_stable unwritten writes in
theorem writeIngress_sound {exp : Versioned ServiceExport} {ing : Versioned Ingress}
    {store : ExportStore} (start : announced exp ing store) :
    Sound (ExportStore.serveWith adjust) rely guarantee post (writeIngress req exp ing) store := by
  intro now interfered fault
  have known := announced_stable exp ing _ _ start interfered
  obtain ⟨error, served⟩ | ⟨updated, ingresses, served, accepted⟩ := now.serve_updateIngress
    (adjust now _ fault) { ing with object := updatedIngress exp.object ing.object }
  · rw [ExportStore.serveWith, served]
    exact ⟨stutter now, unwritten _ exp ing _ error known served⟩
  · rw [ExportStore.serveWith, served]
    exact writes _ exp ing updated ingresses known accepted

variable (frame : ∀ s s', rely s s' →
  s'.ingresses.get (ingressKey req) = s.ingresses.get (ingressKey req))
include stutter read_stable announced_stable fails unwritten records current writes frame

/-- The hash is recorded before the Ingress is written, unless it is recorded already. -/
theorem updateIngress_sound {exp : Versioned ServiceExport} {ing : Versioned Ingress}
    {store : ExportStore} (start : read exp store)
    (found : store.ingresses.get (ingressKey req) = some ing) :
    Sound (ExportStore.serveWith adjust) rely guarantee post (updateIngress settings req exp ing)
      store := by
  by_cases recorded : exp.object.exportHash = settings.simpleHash exp.object.spec
  · simp only [updateIngress, recorded, ne_eq, not_true_eq_false, if_false]
    exact current store exp ing start found recorded
  simp only [updateIngress, recorded, ne_eq, not_false_eq_true, if_true]
  intro now interfered fault
  have known := read_stable exp _ _ start interfered
  have found := (frame _ _ interfered).trans found
  rw [ExportStore.serveWith]
  obtain ⟨error, served⟩ | ⟨updated, exports, served, accepted⟩ := now.serve_updateExport
    (adjust now _ fault)
    { exp with object := exp.object.withExportHash (settings.simpleHash exp.object.spec) }
  · rw [served]
    exact ⟨stutter now, fails _ exp error known⟩
  · rw [served]
    obtain ⟨made, next⟩ := records now exp ing updated exports known found recorded accepted
    exact ⟨made, writeIngress_sound announced stutter announced_stable unwritten writes next⟩

/-- The Ingress of an export is created or updated. -/
theorem exportIngress_sound (named : ∀ s exp, read exp s → exp.object.key = req)
    (creates : ∀ s exp, read exp s → s.ingresses.get (ingressKey req) = none →
      guarantee s { s with
        ingresses := s.ingresses.write (setControllerReference exp.object (newIngress exp.object)) } ∧
      Sound (ExportStore.serveWith adjust) rely guarantee post (successExport req exp) { s with
        ingresses := s.ingresses.write (setControllerReference exp.object (newIngress exp.object)) })
    {exp : Versioned ServiceExport} {store : ExportStore} (start : read exp store) :
    Sound (ExportStore.serveWith adjust) rely guarantee post (exportIngress settings req exp)
      store := by
  intro first interfered fault
  have known := read_stable exp _ _ start interfered
  rw [ExportStore.serveWith, named _ _ start]
  cases adjust first (.getIngress (ingressKey req)) fault with
  | some message => exact ⟨stutter first, fails _ exp _ known⟩
  | none =>
      simp only [ExportStore.serve]
      refine ⟨stutter first, ?_⟩
      cases found : first.ingresses.get (ingressKey req) with
      | some ing =>
          exact updateIngress_sound read announced stutter read_stable announced_stable fails
            unwritten records current writes frame known found
      | none =>
          intro second interfered fault
          have known := read_stable exp _ _ known interfered
          have free := (frame _ _ interfered).trans found
          rw [ExportStore.serveWith]
          obtain ⟨error, served⟩ | ⟨created, _, served⟩ := second.serve_createIngress
            (adjust second _ fault) (setControllerReference exp.object (newIngress exp.object))
          · rw [served]
            exact ⟨stutter second, fails _ exp error known⟩
          · rw [served]
            exact creates second exp known free

end Publishing

section Reading
variable {settings : Settings} {range : RangeOrder Ingress} {req : NamespacedName}
  (read : Versioned ServiceExport → ExportStore → Prop) (stutter : ∀ s, guarantee s s)
  (read_stable : ∀ exp s s', read exp s → rely s s' → read exp s')
  (panics : ∀ s exp message, read exp s → post (.panicked message) s)
  (refuses : ∀ s exp message result, read exp s →
    Sound (ExportStore.serveWith adjust) rely guarantee post
      (report exp .false "Failed" message result) s)
  (publishes : ∀ s exp, read exp s → Unclaimed exp.object s →
    Sound (ExportStore.serveWith adjust) rely guarantee post
      (exportIngress settings req exp) s)
include stutter read_stable panics refuses publishes

/-- An export is published when no path of its rules is taken. -/
theorem comparePaths_sound {exp : Versioned ServiceExport} {store : ExportStore}
    (start : read exp store) :
    Sound (ExportStore.serveWith adjust) rely guarantee post
      (comparePaths settings range req exp) store := by
  intro current interfered fault
  have known := read_stable exp _ _ start interfered
  rw [ExportStore.serveWith]
  cases adjust current .listIngresses fault with
  | some message => exact ⟨stutter current, refuses _ exp _ _ known⟩
  | none =>
      simp only [ExportStore.serve, done_bind]
      refine ⟨stutter current, ?_⟩
      cases scanned : conflictingPath exp.object
          (range.order 0 (current.ingresses.list.map Versioned.object)) with
      | error message => exact panics _ exp _ known
      | ok found =>
          cases found with
          | some hit => exact refuses _ exp _ _ known
          | none => exact publishes _ exp known (unclaimed_of_scan scanned)

/-- A run reads the export and its service before it writes anything. -/
theorem reconcile_sound (started : ExportStore → Prop)
    (started_stable : ∀ s s', started s → rely s s' → started s')
    (absent : ∀ s, started s → s.exports.get req = none → post .ok s)
    (unread : ∀ s error, started s → post (.failed error) s)
    (reads : ∀ s exp fault, started s → adjust s (.getExport req) fault = none →
      s.exports.get req = some exp → read exp s)
    {store : ExportStore} (start : started store) :
    Sound (ExportStore.serveWith adjust) rely guarantee post
      (reconcile settings range req) store := by
  intro first interfered fault
  have begun := started_stable _ _ start interfered
  rw [ExportStore.serveWith]
  cases adjusted : adjust first (.getExport req) fault with
  | some message => exact ⟨stutter first, unread _ _ begun⟩
  | none =>
      simp only [ExportStore.serve]
      refine ⟨stutter first, ?_⟩
      cases found : first.exports.get req with
      | none => exact absent _ begun found
      | some exp =>
          intro second interfered fault
          have known := read_stable exp _ _ (reads _ exp _ begun adjusted found) interfered
          rw [ExportStore.serveWith]
          cases adjust second (.getService req) fault with
          | some message => exact ⟨stutter second, refuses _ exp _ _ known⟩
          | none =>
              simp only [ExportStore.serve]
              refine ⟨stutter second, ?_⟩
              cases second.services.lookup req with
              | none => exact refuses _ exp _ _ known
              | some svc =>
                  simp only [ApiServer.present, done_bind]
                  split
                  · exact refuses _ exp _ _ known
                  · split
                    · exact refuses _ exp _ _ known
                    · exact comparePaths_sound read stutter read_stable panics refuses publishes
                        known

end Reading
end Rules
end ServiceExportReconciler
end ErieCanal.Export
