import ErieCanal.Construction.Config.MainJson
import ErieCanal.Proof.Repo.Uploads

namespace ErieCanal.Config
open Lib Lib.Program Repo

/-- The values of one part of main.json that come from the config. -/
def MainJson.value (json : MainJson) : Part → Bool × Int × Bool
  | .http => (json.http.enabled, json.http.listen, false)
  | .tls => (json.tls.enabled, json.tls.listen, json.tls.mTLS)

def MeshConfig.value (cfg : MeshConfig) : Part → Bool × Int × Bool
  | .http => (cfg.ingress.http.enabled, cfg.ingress.http.listen, false)
  | .tls => (cfg.ingress.tls.enabled, cfg.ingress.tls.listen, cfg.ingress.tls.mTLS)

instance decidableForallPart {property : Part → Prop} [∀ part, Decidable (property part)] :
    Decidable (∀ part, property part) :=
  decidable_of_iff (property .http ∧ property .tls)
    ⟨fun both part => match part with
      | .http => both.1
      | .tls => both.2, fun all => ⟨all .http, all .tls⟩⟩

/-- The http section and the values of the tls section are those of the config. -/
structure Agrees (json : MainJson) (cfg : MeshConfig) : Prop where
  http : json.http = ⟨cfg.ingress.http.enabled, cfg.ingress.http.listen⟩
  enabled : json.tls.enabled = cfg.ingress.tls.enabled
  listen : json.tls.listen = cfg.ingress.tls.listen
  mTLS : json.tls.mTLS = cfg.ingress.tls.mTLS

theorem agrees_iff (json : MainJson) (cfg : MeshConfig) :
    Agrees json cfg ↔ ∀ part, json.value part = cfg.value part := by
  constructor
  · rintro ⟨http, enabled, listen, mTLS⟩ part
    cases part with
    | http => simp [MainJson.value, MeshConfig.value, http]
    | tls => simp [MainJson.value, MeshConfig.value, enabled, listen, mTLS]
  · intro same
    have http := same .http
    have tls := same .tls
    simp only [MainJson.value, MeshConfig.value, Prod.mk.injEq] at http tls
    obtain ⟨enabled, listen, -⟩ := http
    exact ⟨by rw [← enabled, ← listen], tls.1, tls.2.1, tls.2.2⟩

/-- An update with ingress enabled changes this part. -/
def Changes (part : Part) (oldCfg cfg : MeshConfig) : Prop :=
  cfg.ingress.enabled = true ∧ oldCfg.value part ≠ cfg.value part

instance (part : Part) (oldCfg cfg : MeshConfig) : Decidable (Changes part oldCfg cfg) :=
  inferInstanceAs (Decidable (_ ∧ _))

/-- The listener rewrites exactly the changed parts. -/
theorem rewrite_mem_onConfigUpdate (part : Part) (oldCfg cfg : MeshConfig) :
    .rewrite part ∈ onConfigUpdate oldCfg cfg ↔ Changes part oldCfg cfg := by
  have http : isHTTPConfigChanged oldCfg cfg = true ↔ Changes .http oldCfg cfg := by
    simp only [isHTTPConfigChanged, Changes, MeshConfig.value, Bool.and_eq_true, Bool.or_eq_true,
      bne_iff_ne, ne_eq, Prod.mk.injEq, and_true]
    tauto
  have tls : isTLSConfigChanged oldCfg cfg = true ↔ Changes .tls oldCfg cfg := by
    simp only [isTLSConfigChanged, Changes, MeshConfig.value, Bool.and_eq_true, Bool.or_eq_true,
      bne_iff_ne, ne_eq, Prod.mk.injEq]
    tauto
  cases part with
  | http =>
      rw [← http, onConfigUpdate]
      split <;> split <;> split <;> simp_all
  | tls =>
      rw [← tls, onConfigUpdate]
      split <;> split <;> split <;> simp_all

section Lifted
variable {Fault' : Type} {fault : Fault'}
  {serve : ConfigStore → (call : ConfigCall) → Fault' → call.Answer × ConfigStore}

/-- What the client does is done to the repo of the store, which answers every request. -/
theorem execute_repo {A : Type}
    (answers : ∀ store call, serve store (.repo call) fault =
      ((store.repo.apply call).1, { store with repo := (store.repo.apply call).2 }))
    (program : RepoApi MainJson A) (store : ConfigStore) :
    (((program.lift ConfigCall.repo fun _ reply => reply).execute serve (fun _ => fault) store).1,
        ((program.lift ConfigCall.repo fun _ reply => reply).execute serve (fun _ => fault)
          store).2.repo) =
      program.execute RepoServer.serve (fun _ => .answered) store.repo :=
  execute_lift _ (fun outer call => by rw [answers]; rfl) program store

theorem updateMainJson_stored
    (answers : ∀ store call, serve store (.repo call) fault =
      ((store.repo.apply call).1, { store with repo := (store.repo.apply call).2 }))
    (store : ConfigStore) (basepath : String) (newJson : MainJson) :
    Stored basepath ⟨"/config", "main.json", newJson⟩
      ((updateMainJson basepath newJson).execute serve (fun _ => fault) store).1
      ((updateMainJson basepath newJson).execute serve (fun _ => fault) store).2.repo := by
  have stored := batch_stored store.repo basepath ⟨"/config", "main.json", newJson⟩
  rw [← execute_repo answers] at stored
  exact stored

end Lifted

def mainJsonPath : String := getPathOfMainJson defaultIngressBasePath

theorem fullpath_config (basepath : String) (content : MainJson) :
    PipyRepoClient.fullpath basepath ⟨"/config", "main.json", content⟩ =
      getPathOfMainJson basepath := by
  have file : "/config" ++ "/" ++ "main.json" = "/config/main.json" := by decide
  rw [PipyRepoClient.fullpath, getPathOfMainJson, ← file, String.append_assoc, String.append_assoc,
    String.append_assoc]

@[simp] theorem fullpath_mainJson (content : MainJson) :
    PipyRepoClient.fullpath defaultIngressBasePath ⟨"/config", "main.json", content⟩ =
      mainJsonPath :=
  fullpath_config defaultIngressBasePath content

/-- The codebase of the ingress exists, and this is its main.json. -/
structure Holds (store : ConfigStore) (json : MainJson) : Prop where
  codebase : ∃ version, store.repo.versions defaultIngressBasePath = some version
  file : store.repo.uploaded mainJsonPath = some json

/-- Only this call changes the content of a file. -/
def ConfigCall.uploads : ConfigCall → Bool
  | .repo (.postFile _ _) => true
  | _ => false

/-- A call that uploads nothing keeps main.json. -/
theorem Holds.serve {store : ConfigStore} {json : MainJson} (held : Holds store json)
    (call : ConfigCall) (quiet : call.uploads = false) (fault : Fault) :
    Holds (store.serve call fault).2 json := by
  cases call with
  | repo call =>
      obtain ⟨version, found⟩ := held.codebase
      have later := versions_apply found call
      have silent : call.uploads = false := by
        cases call with
        | postFile path content => cases quiet
        | _ => rfl
      have file := uploaded_apply silent store.repo
      cases fault with
      | answered => exact ⟨later, by rw [← held.file, ← file]; rfl⟩
      | answerLost => exact ⟨later, by rw [← held.file, ← file]; rfl⟩
      | refused code => exact held
      | unreachable => exact held
  | issueCertificate cn => cases fault <;> exact ⟨held.codebase, held.file⟩
  | getFile path => cases fault <;> exact held
  | listServices => cases fault <;> exact held
  | updateService service => cases fault <;> exact ⟨held.codebase, held.file⟩

/-- A silent program uploads nothing, whatever it is answered. -/
def Silent {A : Type} : ConfigApi A → Prop
  | .done _ => True
  | .call request next => request.uploads = false ∧ ∀ answer, Silent (next answer)

theorem silent_updateServices (ports : List CoreV1.ServicePort) (services : List CoreV1.Service) :
    Silent (updateServices ports services) := by
  induction services with
  | nil => trivial
  | cons svc rest ih =>
      rw [updateServices]
      split
      · exact ⟨rfl, fun _ => ih⟩
      · exact ih

theorem silent_serviceSpec (cfg : MeshConfig) : Silent (ListenerStep.serviceSpec.program cfg) := by
  refine ⟨rfl, fun answer => ?_⟩
  cases answer with
  | error error => trivial
  | ok services => exact silent_updateServices _ services

/-- The ingress listens on this port; its tls section is disabled. -/
def exampleMesh (enabled : Bool) (listen : Int) : MeshConfig where
  isManaged := false
  region := "default"
  zone := "default"
  group := "default"
  name := "local"
  uid := "uid"
  controlPlaneUID := ""
  ingress := {
    enabled
    http := { enabled := true, bind := 80, listen, nodePort := 0 }
    tls := { enabled := false, bind := 443, listen := 8443, nodePort := 0, mTLS := false } }

def exampleJson (listen : Int) : MainJson :=
  ⟨⟨true, listen⟩, ⟨false, 8443, false, none⟩, ["plugins/router.js"], {}⟩

/-- The codebase of the ingress is at version 1. -/
def exampleStore : ConfigStore where
  repo := {
    versions := fun path => if path = defaultIngressBasePath then some 1 else none
    uploaded := fun path => if path = mainJsonPath then some (exampleJson 8000) else none
    committed := fun _ => none }
  services := []
  certificates := fun _ => ⟨"crt", "key", "ca"⟩
  issued := 0

theorem exampleStore_holds : Holds exampleStore (exampleJson 8000) :=
  ⟨⟨1, by simp [exampleStore]⟩, by simp [exampleStore]⟩

end ErieCanal.Config
