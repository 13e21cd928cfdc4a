import ErieCanal.Construction.NamespacedIngress
import ErieCanal.Proof.Config.Parts

namespace ErieCanal.Config
open Lib Lib.Program Repo

section Execution
variable {inherited : Option MainJson} {store : ConfigStore}

theorem owns_mainJson (basepath : String) : owns basepath (getPathOfMainJson basepath) = true := by
  have file : "/config/main.json" = "/" ++ "config/main.json" := by decide
  rw [owns, List.isPrefixOf_iff_prefix, getPathOfMainJson, file, ← String.append_assoc]
  exact ⟨"config/main.json".toList, (String.toList_append).symm⟩

/-- Without an error the new main.json is uploaded and committed. -/
theorem execute_updateMainJson {basepath : String} {newJson : MainJson} {next : ConfigStore}
    (updated : (updateMainJson basepath newJson).execute (ConfigStore.serveDerived inherited)
      (fun _ => .answered) store = (.ok (), next)) :
    next.repo.uploaded (getPathOfMainJson basepath) = some newJson ∧
      next.repo.committed (getPathOfMainJson basepath) = some newJson := by
  have stored := @updateMainJson_stored Fault .answered (ConfigStore.serveDerived inherited)
    (fun _ _ => rfl) store basepath newJson
  rw [updated] at stored
  have path := fullpath_config basepath newJson
  exact ⟨path ▸ stored.uploaded, path ▸ stored.committed rfl (path ▸ owns_mainJson basepath)⟩

end Execution

namespace Reconciliation
variable {ns : String} {store next : ConfigStore}

def mainJsonOf (ns : String) : String := getPathOfMainJson ("/local/nsig/" ++ ns)

/-- The namespace serves this main.json, uploaded and committed. -/
structure Publishes (ns : String) (store : ConfigStore) (json : MainJson) : Prop where
  uploaded : store.repo.uploaded (mainJsonOf ns) = some json
  committed : store.repo.committed (mainJsonOf ns) = some json

theorem updateConfig_eq (event : Reconciliation ns) :
    NamespacedIngressReconciler.updateConfig event.nsig event.mc =
      if event.sslPassthrough.enabled then
        updateSSLPassthrough ("/local/nsig/" ++ ns) event.sslPassthrough.enabled
          event.sslPassthrough.upstreamPort
      else issueCertForIngress ("/local/nsig/" ++ ns) event.mc := by
  rw [NamespacedIngressReconciler.updateConfig, if_pos (by simp [event.namespaced, nsig])]
  rfl

/-- Only the switch to passthrough writes the value; TLS offload keeps the one that is there. -/
theorem updateConfig_publishes {event : Reconciliation ns}
    (updated : (NamespacedIngressReconciler.updateConfig event.nsig event.mc).execute
      (ConfigStore.serveDerived event.inherited) (fun _ => .answered) store = (.ok (), next)) :
    ∃ json, Publishes ns next json ∧ json.sslPassthrough.enabled =
      (event.sslPassthrough.enabled ||
        (store.mainJson event.inherited (mainJsonOf ns)).sslPassthrough.enabled) := by
  rw [updateConfig_eq] at updated
  by_cases enabled : event.sslPassthrough.enabled = true
  · rw [if_pos enabled] at updated
    obtain ⟨uploaded, committed⟩ := execute_updateMainJson updated
    exact ⟨_, ⟨uploaded, committed⟩, by simp [enabled]⟩
  · rw [if_neg enabled] at updated
    obtain ⟨uploaded, committed⟩ := execute_updateMainJson updated
    exact ⟨_, ⟨uploaded, committed⟩, by simp [enabled]; rfl⟩

theorem step_publishes {event : Reconciliation ns}
    (stepped : (machine ns).step store event = some next) :
    ∃ json, Publishes ns next json ∧ json.sslPassthrough.enabled =
      (event.sslPassthrough.enabled ||
        (store.mainJson event.inherited (mainJsonOf ns)).sslPassthrough.enabled) := by
  have kept : ((NamespacedIngressReconciler.deriveCodebases event.nsig event.mc).execute
      (ConfigStore.serveDerived event.inherited) (fun _ => .answered) store).2.repo.uploaded =
        store.repo.uploaded := by
    have derived := congrArg Prod.snd (@execute_repo Fault .answered
      (ConfigStore.serveDerived event.inherited) _ (fun _ _ => rfl)
      (PipyRepoClient.DeriveCodebase (event.mc.namespacedIngressCodebasePath ns)
        event.mc.ingressCodebasePath) store)
    exact (congrArg RepoServer.uploaded derived).trans ((quiet_DeriveCodebase _ _).uploaded _)
  rw [machine] at stepped
  dsimp only at stepped
  rw [NamespacedIngressReconciler.reconcile,
    if_neg (by simp [event.enabled, event.namespaced]), bind_eq, execute_bind] at stepped
  generalize execute _ (NamespacedIngressReconciler.deriveCodebases event.nsig event.mc) _ _ =
    derived at kept stepped
  obtain ⟨error | result, middle⟩ := derived
  · cases stepped
  · have read : middle.mainJson event.inherited (mainJsonOf ns) =
        store.mainJson event.inherited (mainJsonOf ns) := by
      rw [ConfigStore.mainJson, kept, ← ConfigStore.mainJson]
    rw [← read]
    apply updateConfig_publishes
    generalize execute _ (NamespacedIngressReconciler.updateConfig event.nsig event.mc) _ _ =
      updated at stepped ⊢
    obtain ⟨error | result, last⟩ := updated
    · cases stepped
    · cases stepped
      rfl

/-- The value that the namespace serves when the first of these reconciliations starts. -/
def Serves (store : ConfigStore) (events : List (Reconciliation ns)) (value : Bool) : Prop :=
  ∀ event ∈ events.head?,
    (store.mainJson event.inherited (mainJsonOf ns)).sslPassthrough.enabled = value

/-- Main.json has the value of this spec, and main.js chooses the pipeline accordingly. -/
def Follows (event : Reconciliation ns) (store : ConfigStore) : Prop :=
  ∃ json, Publishes ns store json ∧
    json.sslPassthrough.enabled = event.sslPassthrough.enabled ∧
    json.tlsPipeline = if event.sslPassthrough.enabled then .passthrough else .inboundTLS

/-- After each reconciliation main.json follows its spec. -/
def FollowsEach (store : ConfigStore) (events : List (Reconciliation ns)) : Prop :=
  ∀ before event after, events = before ++ event :: after →
    ∃ next, (machine ns).run store (before ++ [event]) = some next ∧ event.Follows next

/-- Passthrough is never switched off. -/
def NeverOff (values : List Bool) : Prop :=
  values.IsChain fun old new => old = true → new = true

theorem Publishes.follows_iff {json : MainJson} {event : Reconciliation ns}
    (publishes : Publishes ns store json) :
    event.Follows store ↔ json.sslPassthrough.enabled = event.sslPassthrough.enabled := by
  constructor
  · rintro ⟨json', publishes', same, -⟩
    rw [← same, Option.some.inj (publishes.uploaded.symm.trans publishes'.uploaded)]
  · intro same
    exact ⟨json, publishes, same, by rw [MainJson.tlsPipeline, same]⟩

theorem followsEach_cons {event : Reconciliation ns} {rest : List (Reconciliation ns)}
    (stepped : (machine ns).step store event = some next) :
    FollowsEach store (event :: rest) ↔ event.Follows next ∧ FollowsEach next rest := by
  have shifted : ∀ events, (machine ns).run store (event :: events) = (machine ns).run next events := by
    intro events
    rw [Machine.run, stepped, Option.bind_some]
  constructor
  · intro each
    refine ⟨?_, fun before later after split => ?_⟩
    · obtain ⟨reached, ran, follows⟩ := each [] event rest rfl
      rw [List.nil_append, shifted, Machine.run_nil, Option.some.injEq] at ran
      exact ran ▸ follows
    · obtain ⟨reached, ran, follows⟩ := each (event :: before) later after
        (by rw [split, List.cons_append])
      rw [List.cons_append, shifted] at ran
      exact ⟨reached, ran, follows⟩
  · rintro ⟨first, each⟩ before later after split
    cases before with
    | nil =>
        rw [List.nil_append, List.cons.injEq] at split
        obtain ⟨rfl, rfl⟩ := split
        exact ⟨next, shifted [], first⟩
    | cons head before =>
        rw [List.cons_append, List.cons.injEq] at split
        obtain ⟨rfl, split⟩ := split
        rw [List.cons_append, shifted]
        exact each before later after split

/-- By induction on the run: each reconciliation leaves the disjunction of its own value and the
one before, which is its own value as long as passthrough is never switched off. -/
theorem followsEach_iff {events : List (Reconciliation ns)} {value : Bool} {final : ConfigStore}
    (serves : Serves store events value) (ran : (machine ns).run store events = some final) :
    FollowsEach store events ↔
      NeverOff (value :: events.map fun event => event.sslPassthrough.enabled) := by
  induction events generalizing store value with
  | nil =>
      refine iff_of_true (fun before event after split => ?_) (.singleton value)
      simp at split
  | cons event rest ih =>
      obtain ⟨next, stepped, continued⟩ := ((machine ns).run_cons_eq_some _ _ _ _).mp ran
      obtain ⟨json, publishes, written⟩ := step_publishes stepped
      have start : (store.mainJson event.inherited (mainJsonOf ns)).sslPassthrough.enabled = value :=
        serves event rfl
      have serves' : Serves next rest json.sslPassthrough.enabled := by
        intro later first
        rw [ConfigStore.mainJson, publishes.uploaded]
        rfl
      rw [followsEach_cons stepped, publishes.follows_iff, ih serves' continued, written, start,
        NeverOff, NeverOff, List.map_cons, List.isChain_cons_cons]
      cases event.sslPassthrough.enabled <;> cases value <;> simp

/-- This is the value when the first of these reconciliations starts. -/
def served (store : ConfigStore) : List (Reconciliation ns) → Bool
  | [] => false
  | event :: _ => (store.mainJson event.inherited (mainJsonOf ns)).sslPassthrough.enabled

/-- After each reconciliation main.json has the value of the spec if and only if passthrough is
never switched off, not even from the value that the namespace served at first. -/
theorem passthrough_follows_iff (ns : String) (store final : ConfigStore)
    (events : List (Reconciliation ns)) (ran : (machine ns).run store events = some final) :
    FollowsEach store events ↔
      NeverOff (served store events :: events.map fun event => event.sslPassthrough.enabled) := by
  apply followsEach_iff _ ran
  intro event first
  cases events with
  | nil => cases first
  | cons head rest =>
      cases first
      rfl

def exampleMeshConfig : MeshConfig where
  isManaged := false
  region := "default"
  zone := "default"
  group := "default"
  name := "local"
  uid := "uid"
  controlPlaneUID := ""
  ingress := { enabled := true, namespaced := true, tls := { enabled := true, listen := 8443 } }

def exampleSpec (passthrough : Bool) : Reconciliation "default" where
  mc := exampleMeshConfig
  enabled := rfl
  namespaced := rfl
  sslPassthrough := { enabled := passthrough, upstreamPort := 443 }
  inherited := none

/-- Every codebase exists, and no file has been uploaded. -/
def exampleRepo : ConfigStore where
  repo := { versions := fun _ => some 1, uploaded := fun _ => none, committed := fun _ => none }
  services := []
  certificates := fun _ => ⟨"crt", "key", "ca"⟩
  issued := 0

/-- Passthrough may be switched on. -/
theorem passthrough_switched_on :
    ∃ final, (machine "default").run exampleRepo [exampleSpec false, exampleSpec true] =
        some final ∧ FollowsEach exampleRepo [exampleSpec false, exampleSpec true] := by
  refine ⟨_, rfl, (passthrough_follows_iff "default" exampleRepo _ _ rfl).mpr ?_⟩
  have values : NeverOff [false, false, true] := by simp [NeverOff]
  exact values

/-- Once it is on, TLS offload does not switch it off. -/
theorem passthrough_stays_on :
    ∃ final json, (machine "default").run exampleRepo [exampleSpec true, exampleSpec false] =
        some final ∧ Publishes "default" final json ∧ json.sslPassthrough.enabled = true ∧
      json.tlsPipeline = .passthrough :=
  ⟨_, _, rfl, ⟨rfl, rfl⟩, rfl, rfl⟩

end Reconciliation
end ErieCanal.Config
