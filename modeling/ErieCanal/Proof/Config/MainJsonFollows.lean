import ErieCanal.Proof.Config.Parts

namespace ErieCanal.Config
open Lib Lib.Program Repo

namespace SequentialConfig
variable {update : ConfigUpdate} {store : ConfigStore} {json : MainJson}

/-- The calls of one update are answered as it says. -/
abbrev respond (update : ConfigUpdate) (store : ConfigStore) (call : ConfigCall) (_ : Unit) :
    call.Answer × ConfigStore :=
  store.serve call (faultOf update.faults call)

/-- The upload of main.json goes through and is followed by a commit. -/
theorem holds_updateMainJson (newJson : MainJson) :
    Holds ((updateMainJson defaultIngressBasePath newJson).execute (respond update) (fun _ => ())
      store).2 newJson := by
  have stored := @updateMainJson_stored Unit () (respond update) (fun _ _ => rfl) store
    defaultIngressBasePath newJson
  exact ⟨stored.codebase, fullpath_mainJson newJson ▸ stored.uploaded⟩

/-- The certificate that a rewrite of this part asks for is issued. -/
def Issues (update : ConfigUpdate) (part : Part) : Prop :=
  part = .tls → update.cfg.ingress.tls.enabled = true →
    update.faults (.issueCertificate "ingress-pipy") = .answered

instance (update : ConfigUpdate) (part : Part) : Decidable (Issues update part) :=
  inferInstanceAs (Decidable (_ → _ → _))

/-- A silent program leaves main.json as it is. -/
theorem holds_execute_silent {A : Type} {program : ConfigApi A} (silent : Silent program)
    (held : Holds store json) :
    Holds (program.execute (respond update) (fun _ => ()) store).2 json := by
  induction program generalizing store with
  | done value => exact held
  | call request next ih => exact ih _ (silent.2 _) (held.serve request silent.1 _)

/-- A rewrite brings the values of its part and keeps those of the other one. -/
theorem holds_rewrite {part : Part} (held : Holds store json) (issues : Issues update part) :
    ∃ newJson, Holds (runStep update store (.rewrite part)) newJson ∧
      newJson.value part = update.cfg.value part ∧
      ∀ other ≠ part, newJson.value other = json.value other := by
  have read : (store.repo.uploaded (getPathOfMainJson defaultIngressBasePath)).getD .empty = json := by
    rw [← mainJsonPath, held.file]
    rfl
  cases part with
  | http =>
      refine ⟨_, holds_updateMainJson _, rfl, ?_⟩
      intro other different
      cases other with
      | http => exact absurd rfl different
      | tls => rw [← read]; rfl
  | tls =>
      have kept (newJson : MainJson) (same : newJson.http = json.http) :
          ∀ other ≠ Part.tls, newJson.value other = json.value other := by
        intro other different
        cases other with
        | http => simp [MainJson.value, same]
        | tls => exact absurd rfl different
      by_cases enabled : update.cfg.ingress.tls.enabled = true
      · have issued : respond update store (.issueCertificate "ingress-pipy") () =
            (.ok (store.certificates store.issued), { store with issued := store.issued + 1 }) := by
          simp only [respond, faultOf, issues rfl enabled]
          rfl
        have after : Holds { store with issued := store.issued + 1 } json :=
          ⟨held.codebase, held.file⟩
        simp only [runStep, ListenerStep.program, if_pos enabled, issueCertForIngress, request,
          bind_eq, perform_bind, execute, issued]
        exact ⟨_, holds_updateMainJson _, rfl, kept _ (by rw [← read])⟩
      · simp only [runStep, ListenerStep.program, if_neg enabled]
        exact ⟨_, holds_updateMainJson _, rfl, kept _ (by rw [← read])⟩

/-- Without its certificate the tls section is not rewritten. -/
theorem holds_unissued {part : Part} (held : Holds store json) (unissued : ¬ Issues update part) :
    Holds (runStep update store (.rewrite part)) json := by
  simp only [Issues, not_forall] at unissued
  obtain ⟨rfl, enabled, refused⟩ := unissued
  have failed : ∃ error, respond update store (.issueCertificate "ingress-pipy") () =
      (.error error, store) := by
    simp only [respond, faultOf]
    cases fault : update.faults (.issueCertificate "ingress-pipy") with
    | answered => exact absurd fault refused
    | refused code => exact ⟨_, rfl⟩
    | unreachable => exact ⟨_, rfl⟩
    | answerLost => exact ⟨_, rfl⟩
  obtain ⟨error, failed⟩ := failed
  simp only [runStep, ListenerStep.program, if_pos enabled, issueCertForIngress, request,
    bind_eq, perform_bind, execute, failed]
  exact held

/-- The steps of an update rewrite the parts that they name. -/
theorem holds_steps (steps : List ListenerStep) (held : Holds store json) :
    ∃ newJson, Holds (steps.foldl (runStep update) store) newJson ∧
      ∀ part, newJson.value part =
        if .rewrite part ∈ steps ∧ Issues update part then update.cfg.value part
        else json.value part := by
  induction steps generalizing store json with
  | nil => exact ⟨json, held, fun part => by simp⟩
  | cons step rest ih =>
      have first : ∃ newJson, Holds (runStep update store step) newJson ∧
          ∀ part, newJson.value part =
            if step = .rewrite part ∧ Issues update part then update.cfg.value part
            else json.value part := by
        cases step with
        | serviceSpec => exact ⟨json, holds_execute_silent (silent_serviceSpec _) held, by simp⟩
        | rewrite part =>
            by_cases issues : Issues update part
            · obtain ⟨newJson, holds, rewritten, kept⟩ := holds_rewrite held issues
              refine ⟨newJson, holds, fun other => ?_⟩
              by_cases same : other = part
              · simp [same, issues, rewritten]
              · simp [kept other same, Ne.symm same]
            · refine ⟨json, holds_unissued held issues, fun other => ?_⟩
              rw [if_neg]
              rintro ⟨same, issued⟩
              cases same
              exact issues issued
      obtain ⟨middle, holds, values⟩ := first
      obtain ⟨newJson, final, later⟩ := ih holds
      refine ⟨newJson, final, fun part => ?_⟩
      rw [later, values]
      by_cases issues : Issues update part <;> by_cases named : .rewrite part ∈ rest <;>
        simp [issues, named, eq_comm]

/-- Main.json agrees with the config while ingress is enabled. -/
def Follows (state : SequentialConfig) : Prop :=
  state.current.ingress.enabled = true →
    ∃ json, state.store.repo.uploaded mainJsonPath = some json ∧ Agrees json state.current

/-- With ingress enabled, a part whose values are not those of the last config with ingress enabled
is changed by this very update, and its certificate is issued. -/
def Restores (served current : MeshConfig) (update : ConfigUpdate) (part : Part) : Prop :=
  served.value part = update.cfg.value part ∨
    current.value part ≠ update.cfg.value part ∧ Issues update part

/-- Every update with ingress enabled restores both parts; main.json was last served to `served`. -/
def Restored (served current : MeshConfig) : List ConfigUpdate → Prop
  | [] => True
  | update :: rest =>
      if update.cfg.ingress.enabled = true then
        (∀ part, Restores served current update part) ∧ Restored update.cfg update.cfg rest
      else Restored served update.cfg rest

instance (served current : MeshConfig) (update : ConfigUpdate) (part : Part) :
    Decidable (Restores served current update part) :=
  inferInstanceAs (Decidable (_ ∨ _ ∧ _))

instance decidableRestored : (served current : MeshConfig) → (updates : List ConfigUpdate) →
    Decidable (Restored served current updates)
  | _, _, [] => .isTrue trivial
  | served, current, update :: rest =>
      have _enabled := decidableRestored update.cfg update.cfg rest
      have _disabled := decidableRestored served update.cfg rest
      inferInstanceAs (Decidable (if update.cfg.ingress.enabled = true then
        (∀ part, Restores served current update part) ∧ Restored update.cfg update.cfg rest
      else Restored served update.cfg rest))

/-- Main.json has the values of the config that was served last, which is the current one while
ingress is enabled. -/
structure Published (served : MeshConfig) (state : SequentialConfig) : Prop where
  values : ∃ json, Holds state.store json ∧ ∀ part, json.value part = served.value part
  serving : state.current.ingress.enabled = true → served = state.current

section Runs
variable {validate : MeshConfig → Option String} {served current : MeshConfig}

/-- An admitted update rewrites the parts that it changes. -/
theorem step_admitted (held : Holds store json)
    (admitted : doValidation validate update.cfg = none) :
    ∃ next newJson, (machine validate).step ⟨store, current⟩ update = some ⟨next, update.cfg⟩ ∧
      Holds next newJson ∧ ∀ part, newJson.value part =
        if Changes part current update.cfg ∧ Issues update part then update.cfg.value part
        else json.value part := by
  obtain ⟨newJson, holds, values⟩ := holds_steps (onConfigUpdate current update.cfg) held
  simp only [rewrite_mem_onConfigUpdate] at values
  refine ⟨_, newJson, ?_, holds, values⟩
  simp only [machine, admitted]

/-- An update with ingress enabled brings main.json to its config exactly when it restores both
parts. -/
theorem agrees_iff_restores (enabled : update.cfg.ingress.enabled = true)
    (follows : ∀ part, json.value part = served.value part) {newJson : MainJson}
    (values : ∀ part, newJson.value part =
      if Changes part current update.cfg ∧ Issues update part then update.cfg.value part
      else json.value part) :
    Agrees newJson update.cfg ↔ ∀ part, Restores served current update part := by
  rw [agrees_iff]
  refine forall_congr' fun part => ?_
  rw [values, follows]
  by_cases changed : current.value part = update.cfg.value part <;>
    by_cases issued : Issues update part <;>
    simp [Restores, Changes, enabled, changed, issued]

theorem Published.follows (published : Published served ⟨store, current⟩) :
    Follows ⟨store, current⟩ := by
  obtain ⟨json, held, values⟩ := published.values
  intro enabled
  refine ⟨json, held.file, (agrees_iff _ _).mpr fun part => ?_⟩
  rw [values, published.serving enabled]

/-- What holds after every prefix of a run holds after every prefix of its rest. -/
theorem forall_prefix_cons {update : ConfigUpdate} {rest : List ConfigUpdate}
    {state next : SequentialConfig} (start : state.Follows)
    (stepped : (machine validate).step state update = some next) :
    (∀ taken final, taken <+: update :: rest →
      (machine validate).run state taken = some final → final.Follows) ↔
    ∀ taken final, taken <+: rest →
      (machine validate).run next taken = some final → final.Follows := by
  constructor
  · intro all taken final within reached
    refine all (update :: taken) final (List.prefix_cons_inj update |>.mpr within) ?_
    exact (Machine.run_cons_eq_some _ _ _ _ _).mpr ⟨next, stepped, reached⟩
  · intro all taken final within reached
    cases taken with
    | nil =>
        cases reached
        exact start
    | cons first taken =>
        obtain ⟨rfl, shorter⟩ := List.cons_prefix_cons.mp within
        obtain ⟨middle, again, continued⟩ := (Machine.run_cons_eq_some _ _ _ _ _).mp reached
        obtain rfl := Option.some.inj (stepped.symm.trans again)
        exact all taken final shorter continued

theorem follows_iff_restored {updates : List ConfigUpdate}
    (published : Published served ⟨store, current⟩)
    (admitted : ∀ update ∈ updates, doValidation validate update.cfg = none) :
    (∀ taken final, taken <+: updates →
      (machine validate).run ⟨store, current⟩ taken = some final → final.Follows) ↔
      Restored served current updates := by
  induction updates generalizing store served current with
  | nil =>
      refine iff_of_true ?_ trivial
      intro taken final within reached
      rw [List.prefix_nil.mp within] at reached
      cases reached
      exact published.follows
  | cons update rest ih =>
      rw [List.forall_mem_cons] at admitted
      obtain ⟨json, held, follows⟩ := published.values
      obtain ⟨next, newJson, stepped, holds, values⟩ :=
        step_admitted held admitted.1
      rw [forall_prefix_cons published.follows stepped, Restored]
      by_cases enabled : update.cfg.ingress.enabled = true
      · rw [if_pos enabled]
        have restores := agrees_iff_restores enabled follows values
        constructor
        · intro all
          obtain ⟨stored, file, agrees⟩ := all [] _ List.nil_prefix rfl enabled
          obtain rfl := Option.some.inj (holds.file.symm.trans file)
          refine ⟨restores.mp agrees, (ih ⟨⟨_, holds, ?_⟩, fun _ => rfl⟩ admitted.2).mp all⟩
          exact (agrees_iff _ _).mp agrees
        · rintro ⟨restored, later⟩
          refine (ih ⟨⟨_, holds, ?_⟩, fun _ => rfl⟩ admitted.2).mpr later
          exact (agrees_iff _ _).mp (restores.mpr restored)
      · rw [if_neg enabled]
        refine ih ⟨⟨_, holds, fun part => ?_⟩, fun impossible => absurd impossible enabled⟩ admitted.2
        rw [values, if_neg fun both => enabled both.1.1, follows]

end Runs

def answered (cfg : MeshConfig) : ConfigUpdate := ⟨cfg, fun _ => .answered⟩

/-- The port is changed while ingress is enabled, also when it was disabled before. -/
def changesWhileEnabled : List ConfigUpdate :=
  [answered (exampleMesh true 8001), answered (exampleMesh false 8001),
    answered (exampleMesh true 8002)]

/-- The port is changed while ingress is disabled; when it is enabled again nothing has changed. -/
def changedWhileDisabled : List ConfigUpdate :=
  [answered (exampleMesh false 8000), answered (exampleMesh false 8001),
    answered (exampleMesh true 8001)]

end SequentialConfig
end ErieCanal.Config
