import ErieCanal.Proof.Export.UserWrites

namespace ErieCanal.Export
open Lib Lib.Program Kube CoreV1 NetworkingV1 ServiceExportReconciler

/-- The export owns an Ingress with the rules of its spec. -/
def Published (exp : ServiceExport) (store : ExportStore) : Prop :=
  ∃ ing, store.ingresses.get (ingressKey exp.key) = some ing ∧
    ing.object.controllerUID = some exp.uid ∧ ing.object.rules = exportRules exp

/-- A recorded hash belongs to a spec whose rules the Ingress has. -/
def Recorded (settings : Settings) (known : ServiceExportSpec → Prop) (exp : ServiceExport)
    (store : ExportStore) : Prop :=
  exp.exportHash = "" ∨ ∃ spec ing, known spec ∧ exp.exportHash = settings.simpleHash spec ∧
    store.ingresses.get (ingressKey exp.key) = some ing ∧
    ing.object.rules = exportRules { exp with spec }

/-- Every export but the skipped ones records the hash of what its Ingress shows. -/
structure HashHonest (settings : Settings) (known : ServiceExportSpec → Prop)
    (skipped : NamespacedName → Prop) (store : ExportStore) : Prop where
  specs : ∀ key exp, store.exports.get key = some exp → known exp.object.spec
  owned : ∀ key ing, store.ingresses.get (ingressKey key) = some ing →
    ∃ exp, store.exports.get key = some exp ∧ ing.object.controllerUID = some exp.object.uid
  recorded : ∀ key exp, ¬ skipped key → store.exports.get key = some exp →
    Recorded settings known exp.object store

section Honesty
variable {settings : Settings} {known : ServiceExportSpec → Prop}
  {skipped : NamespacedName → Prop} {store before after : ExportStore} {key : NamespacedName}

theorem Published.stable {changed admitted : ServiceExportSpec → Prop} {exp : ServiceExport}
    (published : Published exp before)
    (disturbed : Disturbed changed admitted before after) : Published exp after := by
  obtain ⟨ing, found, owned, rules⟩ := published
  exact ⟨ing, (disturbed.ingresses _).trans found, owned, rules⟩

theorem HashHonest.empty : HashHonest settings known skipped .empty where
  specs := fun key exp found => by cases found
  owned := fun key ing found => by cases found
  recorded := fun key exp _ found => by cases found

theorem HashHonest.stable (honest : HashHonest settings known skipped before)
    (disturbed : Disturbed known known before after) :
    HashHonest settings known skipped after where
  specs := by
    intro key exp found
    obtain ⟨old, earlier, rfl | ⟨spec, allowed, revised⟩⟩ | ⟨allowed, _⟩ := disturbed.get_cases found
    · exact honest.specs key exp earlier
    · rw [revised]
      exact allowed
    · exact allowed
  owned := by
    intro key ing found
    obtain ⟨exp, stored, controlled⟩ := honest.owned key ing ((disturbed.ingresses key).symm.trans found)
    obtain ⟨later, present, rfl | ⟨spec, allowed, revised⟩⟩ := disturbed.kept key exp stored
    · exact ⟨later, present, controlled⟩
    · exact ⟨later, present, by rw [revised]; exact controlled⟩
  recorded := by
    intro key exp included found
    obtain ⟨old, earlier, revised⟩ | ⟨_, unhashed⟩ := disturbed.get_cases found
    · have held := honest.recorded key old included earlier
      simp only [Recorded, ← disturbed.ingresses] at held
      obtain rfl | ⟨spec, _, revised⟩ := revised
      · exact held
      · rw [revised]
        exact held
    · exact .inl unhashed

/-- An update that keeps what the Ingress depends on keeps the hashes honest. -/
theorem HashHonest.update {version : Nat}
    {change : ServiceExport → ServiceExport} {updated : Versioned ServiceExport}
    {exports : Registry ServiceExport.key} (honest : HashHonest settings known skipped store)
    (accepted : store.exports.Updated key version change updated exports)
    (keeps : ∀ current, store.exports.get key = some current →
      (change current.object).spec = current.object.spec ∧
        (change current.object).uid = current.object.uid)
    (recorded : ¬ skipped key → ∀ exp, Recorded settings known exp store →
      Recorded settings known (change exp) store) :
    HashHonest settings known skipped { store with exports } := by
  obtain ⟨current, found, _, result⟩ := accepted.current
  obtain ⟨spec, uid⟩ := keeps current found
  refine ⟨?_, ?_, ?_⟩
  · intro other exp stored
    obtain ⟨rfl, rfl⟩ | ⟨_, earlier⟩ := accepted.get_cases stored
    · rw [result, spec]
      exact honest.specs other current found
    · exact honest.specs other exp earlier
  · intro other ing stored
    obtain ⟨exp, present, controlled⟩ := honest.owned other ing stored
    obtain ⟨rfl, later⟩ | ⟨_, later⟩ := accepted.get_of_get present
    · cases found.symm.trans present
      exact ⟨updated, later, by rw [result, uid]; exact controlled⟩
    · exact ⟨exp, later, controlled⟩
  · intro other exp included stored
    obtain ⟨rfl, rfl⟩ | ⟨_, earlier⟩ := accepted.get_cases stored
    · rw [result]
      exact recorded included _ (honest.recorded other current included found)
    · exact honest.recorded other exp included earlier

/-- A written Ingress restores the honesty of its export. -/
theorem HashHonest.ingress {updated : Versioned Ingress} {ingresses : Registry Ingress.key}
    (honest : HashHonest settings known skipped store) (only : ∀ other, skipped other → other = key)
    (written : ingresses.get (ingressKey key) = some updated)
    (others : ∀ other, other ≠ ingressKey key → ingresses.get other = store.ingresses.get other)
    (controlled : ∃ exp, store.exports.get key = some exp ∧
      updated.object.controllerUID = some exp.object.uid)
    (recorded : ∀ exp, store.exports.get key = some exp →
      Recorded settings known exp.object { store with ingresses }) :
    HashHonest settings known (fun _ => False) { store with ingresses } := by
  refine ⟨honest.specs, ?_, ?_⟩
  · intro other ing found
    by_cases same : other = key
    · subst same
      cases written.symm.trans found
      exact controlled
    · have distinct := fun equal => same (ingressKey_injective equal)
      exact honest.owned other ing ((others _ distinct).symm.trans found)
  · intro other exp _ found
    by_cases same : other = key
    · exact recorded exp (same ▸ found)
    · have distinct := fun equal => same (ingressKey_injective equal)
      have held := honest.recorded other exp (fun skip => same (only other skip)) found
      have named := store.exports.keyed other exp found
      rw [Recorded, named] at held ⊢
      rw [others _ distinct]
      exact held

end Honesty

section Reconcile
variable {settings : Settings} {known : ServiceExportSpec → Prop} {req : NamespacedName}
  {exp : Versioned ServiceExport} {ing : Versioned Ingress} {store before after : ExportStore}

/-- A run that ends well has published the export, or it has not left it valid. -/
def Effective (settings : Settings) (known : ServiceExportSpec → Prop) (req : NamespacedName)
    (outcome : Outcome) (store : ExportStore) : Prop :=
  HashHonest settings known (fun _ => False) store ∧ (outcome = .ok →
    ∀ exp, store.exports.get req = some exp → exp.object.isValid = true →
      Published exp.object store)

/-- A run knows the export that it has read. -/
structure Reading (settings : Settings) (known : ServiceExportSpec → Prop) (req : NamespacedName)
    (exp : Versioned ServiceExport) (store : ExportStore) : Prop where
  honest : HashHonest settings known (fun _ => False) store
  named : exp.object.key = req
  reads : Reads known exp store
  spec : known exp.object.spec

theorem Reading.stable (reading : Reading settings known req exp before)
    (disturbed : Disturbed known known before after) :
    Reading settings known req exp after :=
  ⟨reading.honest.stable disturbed, reading.named, reading.reads.stable disturbed, reading.spec⟩

def updatesIngress : ExportCall → Bool
  | .updateIngress _ => true
  | _ => false

/-- No update of an Ingress is answered with a fault. -/
def reliableUpdates (_ : ExportStore) (call : ExportCall) (fault : Option String) : Option String :=
  if updatesIngress call then none else fault

/-- Every run keeps the hashes honest and ends effectively. -/
def effectiveContract (settings : Settings) (known : ServiceExportSpec → Prop) :
    Worker.Contract ExportStore ReconcileRequest Outcome where
  rely := Disturbed known known
  invariant := fun _ => True
  between := HashHonest settings known fun _ => False
  post := fun request => Effective settings known request.key
  reflexive := .refl
  transitive := fun _ _ _ one two => one.trans (fun _ allowed => allowed) two
  stable := fun _ _ honest disturbed => honest.stable disturbed
  ends := fun _ _ _ effective => effective.1

/-- This part of a run fulfils the contract. -/
abbrev Effects (settings : Settings) (known : ServiceExportSpec → Prop) (req : NamespacedName)
    (program : Exporting Outcome) (store : ExportStore) : Prop :=
  program.Sound (ExportStore.serveWith reliableUpdates) (effectiveContract settings known).rely
    (effectiveContract settings known).guarantee (Effective settings known req) store

theorem effective_of_not_ok {outcome : Outcome}
    (honest : HashHonest settings known (fun _ => False) store) (failed : outcome ≠ .ok) :
    Effective settings known req outcome store :=
  ⟨honest, fun ok => absurd ok failed⟩

/-- A report of a published export is effective, and so is every report of a failure. -/
theorem report_effects {status : ConditionStatus} {reason message : String} {result : Outcome}
    (start : Reading settings known req exp store)
    (published : status = .true → Published exp.object store) :
    Effects settings known req (report exp status reason message result) store := by
  refine report_sound (fun s => Reading settings known req exp s ∧
      (status = .true → Published exp.object s)) (fun _ held => held) ?_ ?_ ?_ ⟨start, published⟩
  · rintro s s' ⟨reading, published⟩ disturbed
    exact ⟨reading.stable disturbed, fun valid => (published valid).stable disturbed⟩
  · rintro s error ⟨reading, _⟩
    exact effective_of_not_ok reading.honest (by simp)
  · rintro s updated exports ⟨reading, published⟩ accepted
    refine ⟨fun held => held, reading.honest.update accepted (fun _ _ => ⟨rfl, rfl⟩)
      (fun _ _ held => held), ?_⟩
    intro _ stored found valid
    obtain ⟨_, changed⟩ := reading.reads.current accepted
    rw [reading.named] at accepted
    cases accepted.stored.symm.trans found
    rw [changed] at valid ⊢
    exact published (status_of_isValid valid)

/-- A created Ingress publishes the export that was read. -/
theorem Reading.create (reading : Reading settings known req exp store)
    (free : store.ingresses.get (ingressKey exp.object.key) = none) :
    let ing := setControllerReference exp.object (newIngress exp.object)
    let created := { store with ingresses := store.ingresses.write ing }
    Reading settings known req exp created ∧ Published exp.object created := by
  intro ing created
  have written : created.ingresses.get (ingressKey exp.object.key) = _ :=
    store.ingresses.get_write rfl
  obtain ⟨stored, found, revised⟩ := reading.reads.revised
  refine ⟨⟨?_, reading.named, reading.reads, reading.spec⟩, _, written, rfl, rfl⟩
  refine reading.honest.ingress (fun _ skip => skip.elim) written
    (fun other different => Registry.get_write_ne _ different)
    ⟨stored, found, by rw [revised]; rfl⟩ ?_
  -- Without an Ingress the export has recorded no hash yet.
  intro current present
  cases found.symm.trans present
  obtain unhashed | ⟨spec, old, _, _, present, _⟩ :=
    reading.honest.recorded _ stored (fun skip => skip) found
  · exact .inl unhashed
  · rw [store.exports.keyed _ stored found, free] at present
    cases present

/-- Known specs with one hash have the same rules. -/
def HashesTell (settings : Settings) (known : ServiceExportSpec → Prop) : Prop :=
  ∀ first second, known first → known second →
    settings.simpleHash first = settings.simpleHash second → first.rules = second.rules

/-- An export that has recorded the hash of its spec is published, unless hashes collide. -/
theorem Reading.published (reading : Reading settings known req exp store)
    (tell : HashesTell settings known)
    (current : exp.object.exportHash = settings.simpleHash exp.object.spec) :
    Published exp.object store := by
  obtain ⟨stored, found, revised⟩ := reading.reads.revised
  have hashed : stored.object.exportHash = settings.simpleHash exp.object.spec := by
    rw [revised]
    exact current
  obtain unhashed | ⟨spec, ing, allowed, recorded, present, rules⟩ :=
    reading.honest.recorded _ stored (fun skip => skip) found
  · exact absurd (hashed.symm.trans unhashed) (Strings.hex_ne_empty _)
  · have same := tell _ _ allowed reading.spec (recorded.symm.trans hashed)
    rw [store.exports.keyed _ stored found] at present
    obtain ⟨owner, kept, controlled⟩ := reading.honest.owned _ ing present
    cases found.symm.trans kept
    refine ⟨ing, present, ?_, ?_⟩
    · rw [controlled, revised]
    · rw [rules, revised]
      simp only [exportRules, ingressPaths, same]

/-- Between its two writes a run has recorded the hash of a spec that the Ingress does not show
yet. -/
structure Announced (settings : Settings) (known : ServiceExportSpec → Prop)
    (req : NamespacedName) (exp : Versioned ServiceExport) (ing : Versioned Ingress)
    (store : ExportStore) : Prop where
  honest : HashHonest settings known (fun key => key = req) store
  named : exp.object.key = req
  reads : Reads known exp store
  spec : known exp.object.spec
  hashed : exp.object.exportHash = settings.simpleHash exp.object.spec
  ingress : store.ingresses.get (ingressKey req) = some ing

theorem Announced.stable (announced : Announced settings known req exp ing before)
    (disturbed : Disturbed known known before after) :
    Announced settings known req exp ing after :=
  ⟨announced.honest.stable disturbed, announced.named, announced.reads.stable disturbed,
    announced.spec, announced.hashed, (disturbed.ingresses req).trans announced.ingress⟩

theorem Reading.announce {exp updated : Versioned ServiceExport}
    {exports : Registry ServiceExport.key} (reading : Reading settings known req exp store)
    (found : store.ingresses.get (ingressKey req) = some ing)
    (accepted : store.exports.Updated exp.object.key exp.version (fun stored => stored.replaceBy
      (exp.object.withExportHash (settings.simpleHash exp.object.spec))) updated exports) :
    Announced settings known req updated ing { store with exports } := by
  obtain ⟨current, changed⟩ := reading.reads.current accepted
  have named : updated.object.key = req := by
    rw [changed]
    exact reading.named
  have skips : HashHonest settings known (fun key => key = req) store :=
    ⟨reading.honest.specs, reading.honest.owned,
      fun key other _ => reading.honest.recorded key other fun skip => skip⟩
  have replaced : exports.get updated.object.key = some updated := by
    rw [named, ← reading.named]
    exact accepted.stored
  refine ⟨skips.update accepted ?_ ?_, named, .of_get replaced, ?_, ?_, found⟩
  · intro stored present
    cases current.symm.trans present
    exact ⟨rfl, rfl⟩
  · intro included
    exact absurd reading.named included
  · rw [changed]
    exact reading.spec
  · rw [changed]
    exact ServiceExport.exportHash_withExportHash _ _

/-- The second write makes the recorded hash honest. -/
theorem Announced.publish {ing updated : Versioned Ingress} {ingresses : Registry Ingress.key}
    (announced : Announced settings known req exp ing store)
    (accepted : store.ingresses.Updated (ingressKey req) ing.version
      (fun _ => updatedIngress exp.object ing.object) updated ingresses) :
    Reading settings known req exp { store with ingresses } ∧
      Published exp.object { store with ingresses } := by
  obtain ⟨stored, found, revised⟩ := announced.reads.revised
  rw [announced.named] at found
  obtain ⟨_, _, _, result⟩ := accepted.current
  obtain ⟨owner, kept, controlled⟩ := announced.honest.owned req ing announced.ingress
  cases found.symm.trans kept
  have controlled : updated.object.controllerUID = some exp.object.uid := by
    rw [result]
    exact controlled.trans (by rw [revised])
  have rules : updated.object.rules = exportRules exp.object := by rw [result]; rfl
  refine ⟨⟨?_, announced.named, announced.reads, announced.spec⟩, updated, ?_, controlled, rules⟩
  · refine announced.honest.ingress (fun _ skip => skip) accepted.stored accepted.others
      ⟨stored, found, by rw [controlled, revised]⟩ ?_
    intro current present
    cases found.symm.trans present
    refine .inr ⟨exp.object.spec, updated, announced.spec, ?_, ?_, ?_⟩
    · rw [revised]
      exact announced.hashed
    · rw [store.exports.keyed req stored found]
      exact accepted.stored
    · rw [rules, revised]
  · rw [announced.named]
    exact accepted.stored

/-- The hash and the rules of a published spec are written one after the other. -/
theorem exportIngress_effects (start : Reading settings known req exp store)
    (tell : HashesTell settings known) :
    Effects settings known req (exportIngress settings req exp) store := by
  refine exportIngress_sound (fun exp s => Reading settings known req exp s)
    (fun exp ing s => Announced settings known req exp ing s) (fun _ held => held) ?_ ?_ ?_ ?_ ?_ ?_
    ?_ ?_ ?_ ?_ start
  · intro exp s s' reading disturbed
    exact reading.stable disturbed
  · intro exp ing s s' announced disturbed
    exact announced.stable disturbed
  · intro s exp error reading
    exact effective_of_not_ok reading.honest (by simp)
  · -- The update is reliable, and the Ingress is the stored one.
    intro s exp ing fault error announced failed
    have named := s.ingresses.keyed _ ing announced.ingress
    obtain ⟨written, ingresses, served, _⟩ := s.serve_updateIngress_stored
      announced.ingress (show (updatedIngress exp.object ing.object).key = _ from named)
    rw [ExportStore.serveWith, show reliableUpdates s _ fault = none from rfl, served] at failed
    cases failed
  · intro s exp ing updated exports reading found _ accepted
    exact ⟨fun held => held, reading.announce found accepted⟩
  · intro s exp ing reading _ current
    exact report_effects reading fun _ => reading.published tell current
  · intro s exp ing updated ingresses announced accepted
    have named : (updatedIngress exp.object ing.object).key = ingressKey req :=
      s.ingresses.keyed _ ing announced.ingress
    rw [named] at accepted
    obtain ⟨reading, published⟩ := announced.publish accepted
    exact ⟨fun held => held, report_effects reading fun _ => published⟩
  · intro s s' disturbed
    exact disturbed.ingresses req
  · intro s exp reading
    exact reading.named
  · intro s exp reading free
    obtain ⟨reading, published⟩ := reading.create (reading.named ▸ free)
    exact ⟨fun held => held, report_effects reading fun _ => published⟩

/-- A whole run fulfils the contract when no two known specs collide. -/
theorem reconcile_effects {range : RangeOrder Ingress} (tell : HashesTell settings known)
    (start : HashHonest settings known (fun _ => False) store) :
    Effects settings known req (reconcile settings range req) store := by
  refine reconcile_sound (fun exp s => Reading settings known req exp s) (fun _ held => held)
    ?_ ?_ ?_ ?_ (fun s => HashHonest settings known (fun _ => False) s) ?_ ?_ ?_ ?_ start
  · intro exp s s' reading disturbed
    exact reading.stable disturbed
  · intro s exp message reading
    exact effective_of_not_ok reading.honest (by simp)
  · intro s exp message result reading
    exact report_effects reading fun valid => by cases valid
  · intro s exp reading _
    exact exportIngress_effects reading tell
  · intro s s' honest disturbed
    exact honest.stable disturbed
  · intro s honest absent
    refine ⟨honest, ?_⟩
    intro _ exp found
    cases absent.symm.trans found
  · intro s error honest
    exact effective_of_not_ok honest (by simp)
  · intro s exp _ honest _ found
    have named := s.exports.keyed req exp found
    exact ⟨honest, named, .of_get (named.symm ▸ found), honest.specs req exp found⟩

end Reconcile

/-- The spec that a step gives to an export. -/
def stepSpec : ExportStep → Option ServiceExportSpec
  | .client write => write.spec
  | _ => none

/-- No two specs of a run have one hash and different rules. -/
def CollisionFree (settings : Settings) (steps : List ExportStep) : Prop :=
  ∀ first ∈ steps.filterMap stepSpec, ∀ second ∈ steps.filterMap stepSpec,
    settings.simpleHash first = settings.simpleHash second → first.rules = second.rules

instance (settings : Settings) (steps : List ExportStep) :
    Decidable (CollisionFree settings steps) :=
  inferInstanceAs (Decidable (∀ first ∈ steps.filterMap stepSpec,
    ∀ second ∈ steps.filterMap stepSpec,
      settings.simpleHash first = settings.simpleHash second → first.rules = second.rules))

namespace ExportProcess

/-- The update of an Ingress is not answered with an error. -/
def UpdatesIngresses : ExportProcess → ExportStep → Prop :=
  Worker.Meets (fun _ _ => True) (fun _ _ => True)
    fun _ call fault => updatesIngress call = true → fault = none

instance (process : ExportProcess) (step : ExportStep) :
    Decidable (UpdatesIngresses process step) :=
  inferInstanceAs (Decidable (Worker.Meets (fun _ _ => True) (fun _ _ => True)
    (fun _ call fault => updatesIngress call = true → fault = none) process step))

/-- A reliable step with a known spec keeps the contract. -/
theorem fulfils_step {settings : Settings} {known : ServiceExportSpec → Prop}
    (tell : HashesTell settings known)
    {process next : ExportProcess} {step : ExportStep}
    (fulfilled : (effectiveContract settings known).Fulfils
      (ExportStore.serveWith reliableUpdates) process)
    (reliable : UpdatesIngresses process step) (spec : ∀ spec ∈ stepSpec step, known spec)
    (stepped : (machine settings).step process step = some next) :
    (effectiveContract settings known).Fulfils (ExportStore.serveWith reliableUpdates) next := by
  have meets : Worker.Meets (fun _ write => ∀ spec ∈ write.spec, known spec) (fun _ _ => True)
      (fun _ call fault => updatesIngress call = true → fault = none) process step := by
    cases step with
    | client write => exact spec
    | start request => trivial
    | advance fault => exact reliable
  refine Worker.Contract.Fulfils.step ?_ ?_ ?_ fulfilled meets stepped
  · intro store write next allowed applied
    refine ⟨.of_apply ?_ applied, fun held => held⟩
    cases write with
    | createExport key annotations spec => exact allowed spec rfl
    | changeSpec key spec => exact allowed spec rfl
    | _ => trivial
  · intro store request _ _ honest
    exact reconcile_effects tell honest
  · intro store call fault certain
    rw [ExportStore.serveWith, reliableUpdates]
    split
    · rename_i reliable
      rw [certain reliable]
    · rfl

/-- If no update of an Ingress fails, every run that reports an export as valid has published the
rules of its spec. -/
theorem run_effectiveExports (settings : Settings) (steps : List ExportStep)
    (final : ExportProcess) (collisionFree : CollisionFree settings steps)
    (reliable : (machine settings).Guarded UpdatesIngresses initial steps)
    (reached : (machine settings).run initial steps = some final) (request : ReconcileRequest)
    (completed : final.completed = some (request, .ok)) (exp : Versioned ServiceExport)
    (stored : final.store.exports.get request.key = some exp)
    (valid : exp.object.isValid = true) : Published exp.object final.store := by
  let known (spec : ServiceExportSpec) : Prop := spec ∈ steps.filterMap stepSpec
  have specs : (machine settings).Guarded (fun _ step => ∀ spec ∈ stepSpec step, known spec)
      initial steps := (machine settings).guarded_of_forall _ fun step within spec given =>
    List.mem_filterMap.mpr ⟨step, within, given⟩
  have start : (effectiveContract settings known).Fulfils
      (ExportStore.serveWith reliableUpdates) initial :=
    Worker.Contract.fulfils_idle trivial .empty
  have fulfilled := (machine settings).run_invariant
    (fun process step next fulfilled guard stepped =>
      fulfils_step (fun first second one two => collisionFree first one second two) fulfilled
        guard.1 guard.2 stepped) start (reliable.and specs) reached
  exact (fulfilled.completed request .ok completed).2 rfl exp stored valid

def exampleKey : NamespacedName := ⟨"default", "web"⟩

def exampleRequest : ReconcileRequest := ⟨exampleKey, .stored⟩

/-- An export is published, its spec changes, and the next two runs get these faults. -/
def changingRun (faults : List (Option String)) : List ExportStep :=
  [.client (.createExport exampleKey none (exampleSpec "/a")),
    .client (.writeService (exampleService exampleKey))] ++
  runRequest exampleRequest [none, none, none, none, none, none] ++
  [.client (.changeSpec exampleKey (exampleSpec "/bb"))] ++
  runRequest exampleRequest faults ++ runRequest exampleRequest [none, none, none, none, none]

/-- The update of the Ingress fails once after the hash has been written; the next run finds the
hash current and reports the export with its old rules as valid. -/
theorem run_reports_old_rules : ∃ final exp ing,
    CollisionFree exampleSettings (changingRun [none, none, none, none, none, some "timeout"]) ∧
    (machine exampleSettings).run initial
      (changingRun [none, none, none, none, none, some "timeout"]) = some final ∧
    final.completed = some (exampleRequest, .ok) ∧
    final.store.exports.get exampleKey = some exp ∧ exp.object.isValid = true ∧
    final.store.ingresses.get (ingressKey exampleKey) = some ing ∧
    ing.object.rules ≠ exportRules exp.object := by
  refine ⟨_, _, _, by decide +kernel, rfl, rfl, rfl, by decide +kernel, rfl, by decide +kernel⟩

/-- The status update of the second run fails; its retry reports the new rules. -/
theorem run_effectiveExports_retried : ∃ final exp,
    (machine exampleSettings).run initial
      (changingRun [none, none, none, none, none, none, some "timeout"]) = some final ∧
    final.completed = some (exampleRequest, .ok) ∧
    final.store.exports.get exampleKey = some exp ∧ exp.object.isValid = true ∧
    Published exp.object final.store := by
  refine ⟨_, _, rfl, rfl, rfl, by decide +kernel, ?_⟩
  exact run_effectiveExports exampleSettings
    (changingRun [none, none, none, none, none, none, some "timeout"]) _ (by decide +kernel)
    (by decide +kernel) rfl exampleRequest rfl _ rfl (by decide +kernel)

end ExportProcess
end ErieCanal.Export
