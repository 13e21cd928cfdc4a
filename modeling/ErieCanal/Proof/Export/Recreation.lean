import ErieCanal.Proof.Export.EffectiveExports
import ErieCanal.Proof.Export.Translation

namespace ErieCanal.Export
open Lib Lib.Program Kube CoreV1 NetworkingV1 IngressPipy ServiceExportReconciler

/-- A successful run leaves this Ingress: a new one, the patched old one, or the old one when the
export has recorded the hash of its spec already. -/
def nextIngress (settings : Settings) (exp : ServiceExport) : Option Ingress → Ingress
  | none => setControllerReference exp (newIngress exp)
  | some ing => if exp.exportHash ≠ settings.simpleHash exp.spec then updatedIngress exp ing else ing

/-- The Ingress of the request is this one. -/
def Shows (req : NamespacedName) (ing : Ingress) (store : ExportStore) : Prop :=
  (store.ingresses.get (ingressKey req)).map Versioned.object = some ing

/-- A run is successful when it ends well and leaves a valid export. -/
def Succeeded (req : NamespacedName) (outcome : Outcome) (store : ExportStore) : Prop :=
  outcome = .ok ∧ ∃ exp, store.exports.get req = some exp ∧ exp.object.isValid = true

section Execution
variable {settings : Settings} {req : NamespacedName} {ing : Ingress}

/-- A program shows the Ingress whenever it is successful. -/
def Settles (req : NamespacedName) (ing : Ingress) (program : Exporting Outcome)
    (store : ExportStore) : Prop :=
  Ensures (ExportStore.serveWith fun _ _ fault => fault)
    (fun outcome final => Succeeded req outcome final → Shows req ing final) program store

/-- Only the report of a success has to show the Ingress. -/
theorem report_settles {exp : Versioned ServiceExport} {status : ConditionStatus}
    {reason message : String} {result : Outcome} {store : ExportStore}
    (named : exp.object.key = req) (shown : status = .true → Shows req ing store) :
    Settles req ing (report exp status reason message result) store := by
  unfold Settles Ensures
  refine report_sound (fun s => status = .true → Shows req ing s) (fun _ => trivial) ?_ ?_ ?_ shown
  · rintro s _ held rfl
    exact held
  · rintro s error _ ⟨impossible, _⟩
    cases impossible
  · rintro s updated exports held accepted
    refine ⟨trivial, ?_⟩
    rintro ⟨_, stored, found, valid⟩
    rw [named] at accepted
    obtain ⟨current, _, _, changed⟩ := accepted.current
    cases accepted.stored.symm.trans found
    rw [changed] at valid
    exact held (status_of_isValid valid)

/-- A successful export leaves the next Ingress. -/
theorem exportIngress_settles {exp : Versioned ServiceExport} {store : ExportStore}
    (named : exp.object.key = req) :
    Settles req (nextIngress settings exp.object
      ((store.ingresses.get (ingressKey req)).map Versioned.object))
      (exportIngress settings req exp) store := by
  have failed (ing : Ingress) (error : ApiError) (s : ExportStore) :
      Succeeded req (.failed error) s → Shows req ing s := by
    rintro ⟨impossible, _⟩
    cases impossible
  unfold Settles Ensures
  refine exportIngress_sound (fun read s => read = exp ∧ s = store)
    (fun read ing s => read.object.key = req ∧ s.ingresses.get (ingressKey req) = some ing ∧
      updatedIngress read.object ing.object = nextIngress settings exp.object
        ((store.ingresses.get (ingressKey req)).map Versioned.object))
    (fun _ => trivial) ?_ ?_ (fun s _ error _ => failed _ error s)
    (fun s _ _ _ error _ _ => failed _ error s) ?_ ?_ ?_ ?_ ?_ ?_ ⟨rfl, rfl⟩
  · rintro _ s _ held rfl
    exact held
  · rintro _ _ s _ held rfl
    exact held
  · rintro s _ old updated exports ⟨rfl, rfl⟩ found outdated accepted
    obtain ⟨before, _, _, changed⟩ := accepted.current
    refine ⟨trivial, by rw [changed]; exact named, found, ?_⟩
    rw [found, Option.map_some, nextIngress, if_pos outdated, changed]
    rfl
  · rintro s _ old ⟨rfl, rfl⟩ found recorded
    refine report_settles named fun _ => ?_
    rw [Shows, found, Option.map_some, nextIngress, if_neg (not_not.mpr recorded)]
  · rintro s read old updated ingresses ⟨named, found, next⟩ accepted
    have key : (updatedIngress read.object old.object).key = ingressKey req :=
      s.ingresses.keyed _ old found
    obtain ⟨current, _, _, changed⟩ := accepted.current
    have stored : ingresses.get (ingressKey req) = some updated := key ▸ accepted.stored
    refine ⟨trivial, report_settles named fun _ => ?_⟩
    rw [Shows, stored, Option.map_some, changed, next]
  · rintro s _ rfl
    rfl
  · rintro s _ ⟨rfl, rfl⟩
    exact named
  · rintro s read ⟨rfl, rfl⟩ free
    have key : (setControllerReference read.object (newIngress read.object)).key =
        ingressKey req := by rw [← named]; rfl
    refine ⟨trivial, report_settles named fun _ => ?_⟩
    rw [Shows, Registry.get_write _ key, free]
    rfl

/-- A successful run leaves the next Ingress of the export that it has read. -/
theorem reconcile_settles {range : RangeOrder Ingress} {store : ExportStore}
    {exp : Versioned ServiceExport} (found : store.exports.get req = some exp) :
    Settles req (nextIngress settings exp.object
      ((store.ingresses.get (ingressKey req)).map Versioned.object))
      (reconcile settings range req) store := by
  have named := store.exports.keyed req exp found
  unfold Settles Ensures
  refine reconcile_sound (fun read s => read = exp ∧ s = store) (fun _ => trivial) ?_ ?_ ?_ ?_
    (fun s => s = store) ?_ ?_ ?_ ?_ rfl
  · rintro _ s _ held rfl
    exact held
  · rintro s _ message _ ⟨impossible, _⟩
    cases impossible
  · rintro s _ message result ⟨rfl, rfl⟩
    exact report_settles named fun impossible => by cases impossible
  · rintro s _ ⟨rfl, rfl⟩ _
    exact exportIngress_settles named
  · rintro s _ held rfl
    exact held
  · rintro s rfl absent
    cases absent.symm.trans found
  · rintro s error _ ⟨impossible, _⟩
    cases impossible
  · rintro s read _ rfl _ present
    cases found.symm.trans present
    exact ⟨rfl, rfl⟩

/-- The same, for an undisturbed execution. -/
theorem execute_shows {range : RangeOrder Ingress} {faults : Nat → Option String}
    {store final : ExportStore} {outcome : Outcome} {exp : Versioned ServiceExport}
    (found : store.exports.get req = some exp)
    (run : (reconcile settings range req).execute ExportStore.serve faults store = (outcome, final))
    (succeeded : Succeeded req outcome final) :
    Shows req (nextIngress settings exp.object
      ((store.ingresses.get (ingressKey req)).map Versioned.object)) final := by
  have served : ExportStore.serveWith (fun _ _ fault => fault) = ExportStore.serve := rfl
  have settled := Ensures.execute (@reconcile_settles settings req range store exp found) faults
  simp only [served, run] at settled
  exact settled succeeded

end Execution

/-- These annotations encode the settings of an export. -/
def exportAnnotations : List PipyIngressAnnotation :=
  [.rewriteFrom, .rewriteTo, .sessionSticky, .loadBalancer]

/-- Two Ingresses have the same rules and the same settings. -/
def SameExport (first second : Ingress) : Prop :=
  first.rules = second.rules ∧ ∀ name ∈ exportAnnotations,
    annotationOf first.annotations name.key = annotationOf second.annotations name.key

instance decidableSameExport (first second : Ingress) : Decidable (SameExport first second) :=
  inferInstanceAs (Decidable (_ ∧ _))

/-- Every setting that the first spec makes is made by the second one, too. -/
def DropsNothing (first second : ServiceExportSpec) : Prop :=
  ∀ name ∈ exportAnnotations, (first.encoded name).isSome → (second.encoded name).isSome

instance decidableDropsNothing (first second : ServiceExportSpec) :
    Decidable (DropsNothing first second) :=
  inferInstanceAs (Decidable (∀ name ∈ exportAnnotations, _))

/-- The two specs have the same rules and the same settings. -/
def SameSpec (first second : ServiceExportSpec) : Prop :=
  first.rules = second.rules ∧ ∀ name ∈ exportAnnotations, first.encoded name = second.encoded name

instance decidableSameSpec (first second : ServiceExportSpec) : Decidable (SameSpec first second) :=
  inferInstanceAs (Decidable (_ ∧ _))

section Recreation
variable {settings : Settings} {exp exp' : ServiceExport}

theorem annotationOf_newIngress (exp : ServiceExport) (name : PipyIngressAnnotation) :
    annotationOf (newIngress exp).annotations name.key = exp.spec.encoded name :=
  lookup_ingressAnnotations exp name

/-- A patched Ingress keeps the settings that the new spec does not make. -/
theorem annotationOf_updatedIngress (exp exp' : ServiceExport) (name : PipyIngressAnnotation) :
    annotationOf (updatedIngress exp' (newIngress exp)).annotations name.key =
      (exp'.spec.encoded name).or (exp.spec.encoded name) := by
  show (GoMap.merge (ingressAnnotations exp) (some (ingressAnnotations exp'))).lookup name.key = _
  rw [GoMap.lookup_merge, GoMap.find_some, lookup_ingressAnnotations, lookup_ingressAnnotations]

theorem exportRules_inj (named : exp.name = exp'.name) :
    exportRules exp = exportRules exp' ↔ exp.spec.rules = exp'.spec.rules := by
  constructor
  · intro same
    simp only [exportRules, ingressPaths, named, List.cons.injEq, IngressRule.mk.injEq,
      Option.some.injEq, and_true, true_and] at same
    refine List.map_injective_iff.mpr ?_ same
    rintro ⟨number, path, pathType⟩ ⟨number', path', pathType'⟩ equal
    simp only [HTTPIngressPath.mk.injEq, Option.some.injEq, IngressServiceBackend.mk.injEq,
      ServiceBackendPort.mk.injEq, true_and] at equal
    rw [equal.1, equal.2.1, equal.2.2]
  · intro same
    rw [exportRules, exportRules, ingressPaths, ingressPaths, same, named]

theorem sameExport_updated_iff (named : exp.name = exp'.name) :
    SameExport (nextIngress settings exp' (some (setControllerReference exp (newIngress exp))))
        (newIngress exp') ↔
      if exp'.exportHash = settings.simpleHash exp'.spec then SameSpec exp.spec exp'.spec
      else DropsNothing exp.spec exp'.spec := by
  by_cases recorded : exp'.exportHash = settings.simpleHash exp'.spec
  · simp only [nextIngress, recorded, ne_eq, not_true_eq_false, if_false, if_true]
    refine and_congr (exportRules_inj named) (forall₂_congr fun name _ => ?_)
    rw [annotationOf_newIngress]
    exact Eq.congr_left (annotationOf_newIngress exp name)
  · simp only [nextIngress, recorded, ne_eq, not_false_eq_true, if_true, if_false]
    have rules : (updatedIngress exp' (setControllerReference exp (newIngress exp))).rules =
        (newIngress exp').rules := rfl
    rw [SameExport, DropsNothing, and_iff_right rules]
    refine forall₂_congr fun name _ => ?_
    rw [annotationOf_newIngress]
    refine (Eq.congr_left (annotationOf_updatedIngress exp exp' name)).trans ?_
    cases exp'.spec.encoded name with
    | none => cases exp.spec.encoded name <;> simp
    | some value => simp

/-- After the Ingress has been created for one spec, a successful run for another spec leaves what
would be created for it, exactly when the second spec drops no setting of the first one. If the
export has recorded the hash of the second spec before, both have to be the same. -/
theorem recreates_iff {req : NamespacedName} {range range' : RangeOrder Ingress}
    {faults faults' : Nat → Option String} {store created changed final : ExportStore}
    {outcome outcome' : Outcome} {exp exp' : Versioned ServiceExport}
    (found : store.exports.get req = some exp)
    (free : store.ingresses.get (ingressKey req) = none)
    (creation : (reconcile settings range req).execute ExportStore.serve faults store =
      (outcome, created))
    (succeeded : Succeeded req outcome created)
    (kept : changed.ingresses.get (ingressKey req) = created.ingresses.get (ingressKey req))
    (found' : changed.exports.get req = some exp')
    (update : (reconcile settings range' req).execute ExportStore.serve faults' changed =
      (outcome', final))
    (succeeded' : Succeeded req outcome' final) :
    (∃ ing, final.ingresses.get (ingressKey req) = some ing ∧
        SameExport ing.object (newIngress exp'.object)) ↔
      if exp'.object.exportHash = settings.simpleHash exp'.object.spec then
        SameSpec exp.object.spec exp'.object.spec
      else DropsNothing exp.object.spec exp'.object.spec := by
  have first := execute_shows found creation succeeded
  rw [free, Option.map_none, nextIngress] at first
  have second := execute_shows found' update succeeded'
  rw [kept, show _ = some _ from first] at second
  have named : exp.object.name = exp'.object.name := by
    have key := (store.exports.keyed req exp found).trans (changed.exports.keyed req exp' found').symm
    exact congrArg NamespacedName.name key
  rw [← sameExport_updated_iff named]
  obtain ⟨ing, shown, same⟩ := Option.map_eq_some_iff.mp second
  constructor
  · rintro ⟨other, present, equal⟩
    cases shown.symm.trans present
    rwa [same] at equal
  · intro equal
    exact ⟨ing, shown, by rwa [same]⟩

end Recreation

namespace ExportProcess

/-- A spec with one path; the other settings are as given. -/
def settingSpec (rewrite : Option PathRewrite) (sticky : Bool) : ServiceExportSpec :=
  { exampleSpec "/a" with
    pathRewrite := rewrite, sessionSticky := sticky, loadBalancer := some .roundRobinLoadBalancer }

/-- A cluster with one export and its Service. -/
def exportedStore (spec : ServiceExportSpec) : ExportStore :=
  { ExportStore.empty with
    services := (∅ : GoMap NamespacedName Service).insert ⟨"default", "web"⟩
      (exampleService ⟨"default", "web"⟩)
    exports := Registry.empty.write ⟨"default", "web", 0, none, spec, []⟩
    nextUID := 1 }

/-- The export of the store has another spec. -/
def withSpec (store : ExportStore) (spec : ServiceExportSpec) : ExportStore :=
  { store with exports := store.exports.write ⟨"default", "web", 0, none, spec, []⟩ }

/-- An undisturbed run for the export. -/
def undisturbed (store : ExportStore) : Outcome × ExportStore :=
  (reconcile exampleSettings .stored exampleKey).execute ExportStore.serve (fun _ => none) store

/-- The Ingress is created without sticky sessions, then they are turned on. -/
def stickingStore : ExportStore :=
  withSpec (undisturbed (exportedStore (settingSpec none false))).2 (settingSpec none true)

/-- A spec that only adds a setting is taken over. -/
theorem recreates_iff_sticky : ∃ ing,
    (undisturbed stickingStore).2.ingresses.get (ingressKey exampleKey) = some ing ∧
    SameExport ing.object (newIngress ⟨"default", "web", 0, none, settingSpec none true, []⟩) :=
  (@recreates_iff exampleSettings exampleKey .stored .stored (fun _ => none) (fun _ => none)
    (exportedStore (settingSpec none false)) _ stickingStore _ _ _ _ _ rfl rfl rfl
    ⟨rfl, (undisturbed (exportedStore (settingSpec none false))).2.exports.get exampleKey |>.get rfl,
      rfl, rfl⟩ rfl rfl rfl
    ⟨rfl, (undisturbed stickingStore).2.exports.get exampleKey |>.get rfl, rfl, rfl⟩).mpr
    (by decide +kernel)

/-- An export with sticky sessions is published, then the user turns them off. -/
def unstickingRun : List ExportStep :=
  [.client (.createExport exampleKey none (settingSpec none true)),
    .client (.writeService (exampleService exampleKey))] ++
  runRequest exampleRequest [none, none, none, none, none, none] ++
  [.client (.changeSpec exampleKey (settingSpec none false))] ++
  runRequest exampleRequest [none, none, none, none, none, none, none]

/-- The sessions of the export stay sticky, though a new Ingress would not have the annotation. -/
theorem run_keeps_sticky : ∃ final exp ing,
    (machine exampleSettings).run initial unstickingRun = some final ∧
    final.completed = some (exampleRequest, .ok) ∧
    final.store.exports.get exampleKey = some exp ∧ exp.object.isValid = true ∧
    exp.object.spec = settingSpec none false ∧
    final.store.ingresses.get (ingressKey exampleKey) = some ing ∧
    annotationOf ing.object.annotations PipyIngressAnnotation.sessionSticky.key = some "true" ∧
    annotationOf (newIngress exp.object).annotations PipyIngressAnnotation.sessionSticky.key =
      none := by
  refine ⟨_, _, _, rfl, rfl, rfl, by decide +kernel, rfl, rfl, ?_, ?_⟩ <;> decide +kernel

end ExportProcess
end ErieCanal.Export
