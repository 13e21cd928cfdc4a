import ErieCanal.Proof.Boot.Paths
import ErieCanal.Proof.Config.MainJsonFollows
import ErieCanal.Proof.Config.Passthrough
import ErieCanal.Proof.Repo.Retries

namespace ErieCanal.Boot
open Lib Lib.Program Repo Config PipyRepoClient

/-- At each moment every call has its own fault. -/
def respond (store : BootStore) (call : BootCall) (faults : BootCall → Fault) :
    call.Answer × BootStore :=
  store.serve call (faults call)

/-- No read of main.json is answered with an error status, whose body the client would take for the
content of the file. -/
def ReadsAnswered (faults : BootCall → Fault) : Prop :=
  ∀ path code, faults (.config (.getFile path)) ≠ .refused code

def respondRead (store : BootStore) (call : BootCall)
    (faults : {faults : BootCall → Fault // ReadsAnswered faults}) : call.Answer × BootStore :=
  respond store call faults.1

def mainJsonBatch (basepath : String) (json : MainJson) : Batch MainJson :=
  ⟨basepath, [⟨"/config", "main.json", json⟩]⟩

section Programs
variable {A : Type} {store : BootStore}

theorem ofRepo_ensures {post : A → RepoServer RepoFile → Prop} {program : RepoApi RepoFile A}
    (ensured : program.Ensures RepoServer.serve post store.repo) :
    (ofRepo program).Ensures respondRead (fun result final => post result final.repo) store :=
  Ensures.lift (fun _ request faults => ⟨faults.1 (.repo request), rfl⟩) ensured

/-- A success of the upload means that main.json is uploaded and committed. -/
theorem updateMainJson_ensures (basepath : String) (json : MainJson) :
    (ofConfig (updateMainJson basepath json)).Ensures respondRead (fun result final =>
      result = .ok () → final.repo.contents =
        store.repo.contents.storeAll RepoFile.mainJson [mainJsonBatch basepath json]) store := by
  rw [ofConfig, updateMainJson, lift_lift]
  have ensured := @batch_ensures MainJson RepoFile .mainJson [mainJsonBatch basepath json] store.repo
  refine Ensures.weaken (Ensures.lift ?_ ensured) fun result final ended => ended.2
  exact fun _ request faults => ⟨faults.1 (.config (.repo request)), rfl⟩

/-- One section of main.json is read, changed and written back. -/
def rewriteMainJson (basepath : String) (change : MainJson → MainJson) :
    ConfigApi (Except String Unit) := do
  match ← getMainJson basepath with
  | .error error => pure (.error error)
  | .ok json => updateMainJson basepath (change json)

theorem rewriteMainJson_ensures {basepath : String} {json : MainJson} (change : MainJson → MainJson)
    (held : store.repo.uploaded (getPathOfMainJson basepath) = some (.mainJson json)) :
    (ofConfig (rewriteMainJson basepath change)).Ensures respondRead (fun result final =>
      result = .ok () → final.repo.contents =
        store.repo.contents.storeAll RepoFile.mainJson [mainJsonBatch basepath (change json)])
      store := by
  rintro _ rfl ⟨faults, answered⟩
  refine ⟨trivial, ?_⟩
  simp only [respondRead, respond]
  cases met : faults (.config (.getFile (getPathOfMainJson basepath))) with
  | answered =>
      have read : store.serve (.config (.getFile (getPathOfMainJson basepath))) .answered =
          (.ok json, store) := by
        simp only [BootStore.serve, ConfigStore.serve, BootStore.view, held]
        rfl
      rw [read]
      exact updateMainJson_ensures basepath (change json)
  | refused code => exact absurd met (answered _ code)
  | unreachable => exact fun failed => by cases failed
  | answerLost => exact fun failed => by cases failed

/-- Waiting for the repo only reads from it. -/
theorem isRepoUp_ensures :
    isRepoUp.Ensures respondRead (fun _ final => final.repo = store.repo) store := by
  have read : (PipyRepoClient.get "/").Ensures RepoServer.serve (fun _ final => final = store.repo)
      store.repo := by
    rintro _ rfl fault
    refine ⟨trivial, ?_⟩
    rw [serve_getCodebase.1]
    cases (store.repo.serve (.getCodebase "/") fault).1 <;> rfl
  refine Ensures.bind ((ofRepo_ensures read).weaken fun result final same => ?_)
  cases result <;> exact same

theorem waitRepo_ensures (polls : Nat) :
    (waitRepo polls).Ensures respondRead (fun _ final => final.repo = store.repo) store := by
  induction polls generalizing store with
  | zero => rfl
  | succ polls ih =>
      refine Ensures.bind (isRepoUp_ensures.weaken fun up final same => ?_)
      cases up with
      | true => exact same
      | false =>
          rw [← same]
          exact ih

end Programs

/-- The scripts lie in their directories, and main.json is one of them. -/
structure LaidOut (scripts : Scripts) (shipped : MainJson) : Prop where
  ingress : ∀ file ∈ scripts.ingress, Below (scriptsRoot ++ "/ingress") file
  services : ∀ file ∈ scripts.services, Below (scriptsRoot ++ "/services") file
  ingressPaths : (scripts.ingress.map ScriptFile.path).Nodup
  servicesPaths : (scripts.services.map ScriptFile.path).Nodup
  mainJson : ⟨scriptsRoot ++ "/ingress/config/main.json", .mainJson shipped⟩ ∈ scripts.ingress

/-- The file is uploaded and committed with this content. -/
def Kept (contents : Contents RepoFile) (path : String) (content : RepoFile) : Prop :=
  contents.uploaded path = some content ∧ contents.committed path = some content

def ingressPath (file : ScriptFile) : String :=
  located "/base/ingress" (scriptsRoot ++ "/ingress") file

def servicesPath (file : ScriptFile) : String :=
  located "/base/services" (scriptsRoot ++ "/services") file

/-- The repo serves the scripts as they are shipped, with this main.json. -/
structure Serves (scripts : Scripts) (json : MainJson) (contents : Contents RepoFile) : Prop where
  ingress : ∀ file ∈ scripts.ingress, ingressPath file ≠ mainJsonPath →
    Kept contents (ingressPath file) file.content
  services : ∀ file ∈ scripts.services, Kept contents (servicesPath file) file.content
  mainJson : Kept contents mainJsonPath (.mainJson json)

section Contents
variable {scripts : Scripts} {shipped json : MainJson} {contents : Contents RepoFile}

theorem owns_located {repoPath scriptsDir : String} {file : ScriptFile}
    (below : Below scriptsDir file) : owns repoPath (located repoPath scriptsDir file) = true := by
  obtain ⟨rest, path⟩ := below
  rw [located, path, String.append_assoc, Strings.trimPrefix_append, owns, String.toList_append,
    String.toList_append, String.toList_append, List.isPrefixOf_iff_prefix]
  exact ⟨rest.toList, by simp⟩

theorem ingress_owns_services (file : ScriptFile) :
    owns "/base/ingress" (servicesPath file) = false := by
  rw [owns, servicesPath, located, String.toList_append, String.toList_append]
  rfl

/-- A rewrite of main.json keeps every other file. -/
theorem Serves.rewrite (laid : LaidOut scripts shipped) (serves : Serves scripts json contents)
    (newJson : MainJson) :
    Serves scripts newJson (contents.storeAll RepoFile.mainJson
      [mainJsonBatch defaultIngressBasePath newJson]) := by
  have uploaded : (contents.storeAll RepoFile.mainJson
      [mainJsonBatch defaultIngressBasePath newJson]).uploaded =
        Function.update contents.uploaded mainJsonPath (some (.mainJson newJson)) := by
    simp [Contents.storeAll, Contents.store, Contents.publish, Contents.upload, mainJsonBatch]
  have committed (file : String) : (contents.storeAll RepoFile.mainJson
      [mainJsonBatch defaultIngressBasePath newJson]).committed file =
        if owns "/base/ingress" file then
          Function.update contents.uploaded mainJsonPath (some (.mainJson newJson)) file
        else contents.committed file := by
    rw [← uploaded]
    rfl
  constructor
  · intro file member other
    have owned : owns "/base/ingress" (ingressPath file) = true :=
      owns_located (laid.ingress file member)
    rw [Kept, committed, uploaded, Function.update_of_ne other, if_pos owned]
    exact ⟨(serves.ingress file member other).1, (serves.ingress file member other).1⟩
  · intro file member
    have other : servicesPath file ≠ mainJsonPath := by
      intro same
      have owned := owns_mainJson defaultIngressBasePath
      rw [← mainJsonPath, ← same] at owned
      exact absurd owned (by rw [defaultIngressBasePath, ingress_owns_services]; decide)
    rw [Kept, committed, uploaded, Function.update_of_ne other, ingress_owns_services]
    exact serves.services file member
  · have owned : owns "/base/ingress" mainJsonPath = true := owns_mainJson defaultIngressBasePath
    rw [Kept, committed, uploaded, Function.update_self, if_pos owned]
    exact ⟨rfl, rfl⟩

theorem located_injective {repoPath scriptsDir : String} {file other : ScriptFile}
    (below : Below scriptsDir file) (below' : Below scriptsDir other)
    (same : located repoPath scriptsDir file = located repoPath scriptsDir other) :
    file.path = other.path := by
  obtain ⟨rest, path⟩ := below
  obtain ⟨rest', path'⟩ := below'
  rw [located, located, path, path', String.append_assoc, String.append_assoc,
    Strings.trimPrefix_append, Strings.trimPrefix_append, String.append_right_inj] at same
  rw [path, path', String.append_assoc, String.append_assoc, same]

section CreateBatch
variable {repoPath scriptsDir : String} {files : List ScriptFile}

theorem fullpaths_createBatch (below : ∀ file ∈ files, Below scriptsDir file) :
    (createBatch repoPath scriptsDir files).items.map (fullpath repoPath) =
      files.map (located repoPath scriptsDir) := by
  rw [createBatch, List.map_map]
  exact List.map_congr_left fun file member => fullpath_createBatch (below file member)

theorem nodup_createBatch (below : ∀ file ∈ files, Below scriptsDir file)
    (distinct : (files.map ScriptFile.path).Nodup) :
    ((createBatch repoPath scriptsDir files).items.map (fullpath repoPath)).Nodup := by
  rw [fullpaths_createBatch below]
  refine List.Nodup.map_on (fun file member other member' same => ?_) distinct.of_map
  exact List.inj_on_of_nodup_map distinct member member'
    (located_injective (below file member) (below other member') same)

theorem owns_createBatch (below : ∀ file ∈ files, Below scriptsDir file)
    {item : BatchItem RepoFile} (member : item ∈ (createBatch repoPath scriptsDir files).items) :
    owns repoPath (fullpath repoPath item) = true := by
  obtain ⟨file, listed, rfl⟩ := List.mem_map.mp member
  rw [fullpath_createBatch (below file listed)]
  exact owns_located (below file listed)

/-- The uploads of the batch leave every script at its place. -/
theorem uploaded_createBatch (below : ∀ file ∈ files, Below scriptsDir file)
    (distinct : (files.map ScriptFile.path).Nodup) {file : ScriptFile} (member : file ∈ files) :
    (contents.store id (createBatch repoPath scriptsDir files)).uploaded
      (located repoPath scriptsDir file) = some file.content := by
  have uploaded := @uploads_of_mem RepoFile RepoFile id contents repoPath _ _
    (nodup_createBatch below distinct) (List.mem_map_of_mem member)
  rw [fullpath_createBatch (below file member)] at uploaded
  exact uploaded

end CreateBatch

theorem ingressPath_mainJson (content : RepoFile) :
    ingressPath ⟨scriptsRoot ++ "/ingress/config/main.json", content⟩ = mainJsonPath := by
  have split : scriptsRoot ++ "/ingress/config/main.json" =
      scriptsRoot ++ "/ingress" ++ "/config/main.json" := by
    rw [String.append_assoc]
    rfl
  rw [ingressPath, located, split, Strings.trimPrefix_append]
  rfl

/-- After the upload of the scripts the repo serves them as they are shipped. -/
theorem LaidOut.serves (laid : LaidOut scripts shipped) :
    Serves scripts shipped
      (contents.storeAll id [ingressBatch scripts, servicesBatch scripts]) := by
  have placed : Placed [ingressBatch scripts, servicesBatch scripts] := by
    intro batch member item listed
    rcases List.mem_cons.mp member with rfl | last
    · exact owns_createBatch laid.ingress listed
    · rw [List.mem_singleton.mp last] at listed ⊢
      exact owns_createBatch laid.services listed
  have ingress : ∀ file ∈ scripts.ingress,
      Kept (contents.storeAll id [ingressBatch scripts, servicesBatch scripts])
        (ingressPath file) file.content := by
    intro file member
    have owned : Owned [ingressBatch scripts, servicesBatch scripts] (ingressPath file) :=
      ⟨_, List.mem_cons_self, owns_located (laid.ingress file member)⟩
    -- the services lie in another codebase
    have spared : ¬ Uploading [servicesBatch scripts] (ingressPath file) := by
      rintro ⟨batch, found, item, listed, same⟩
      rw [List.mem_singleton.mp found] at listed same
      obtain ⟨other, member', rfl⟩ := List.mem_map.mp listed
      have path : servicesPath other = ingressPath file :=
        (fullpath_createBatch (laid.services other member')).symm.trans same
      have outside := ingress_owns_services other
      rw [path] at outside
      exact absurd (owns_located (laid.ingress file member)) (by rw [← ingressPath, outside]; decide)
    have uploaded : (contents.storeAll id [ingressBatch scripts, servicesBatch scripts]).uploaded
        (ingressPath file) = some file.content :=
      (near_store.uploaded _ spared).trans
        (uploaded_createBatch laid.ingress laid.ingressPaths member)
    exact ⟨uploaded, (committed_storeAll placed owned).trans uploaded⟩
  refine ⟨fun file member _ => ingress file member, fun file member => ?_, ?_⟩
  · have owned : Owned [ingressBatch scripts, servicesBatch scripts] (servicesPath file) :=
      ⟨_, List.mem_cons_of_mem _ List.mem_cons_self, owns_located (laid.services file member)⟩
    have uploaded : (contents.storeAll id [ingressBatch scripts, servicesBatch scripts]).uploaded
        (servicesPath file) = some file.content :=
      uploaded_createBatch laid.services laid.servicesPaths member
    exact ⟨uploaded, (committed_storeAll placed owned).trans uploaded⟩
  · have kept := ingress _ laid.mainJson
    rwa [ingressPath_mainJson] at kept

end Contents

def HasCodebase (store : BootStore) : Prop :=
  ∃ version, store.repo.versions defaultIngressBasePath = some version

/-- No call takes the codebase away. -/
theorem HasCodebase.serve {store : BootStore} (known : HasCodebase store) (call : BootCall)
    (fault : Fault) : HasCodebase (store.serve call fault).2 := by
  obtain ⟨version, known⟩ := known
  cases call with
  | repo call => exact versions_serve known call
  | config call =>
      cases call with
      | repo call => exact versions_serve known (call.map .mainJson)
      | _ => exact ⟨version, known⟩

theorem certificates_serve (store : BootStore) (call : BootCall) (fault : Fault) :
    (store.serve call fault).2.certificates = store.certificates := by
  cases call with
  | repo call => rfl
  | config call =>
      cases call with
      | repo call => rfl
      | _ => cases fault <;> rfl

section Steps
variable {scripts : Scripts} {shipped json : MainJson} {mc : MeshConfig} {store : BootStore}

/-- The scripts are published, and the codebase of the ingress exists. -/
theorem initRepo_ensures (laid : LaidOut scripts shipped) (polls : Nat) :
    (initRepo polls scripts).Ensures respondRead (fun result final => result = .ok () →
      Serves scripts shipped final.repo.contents ∧ HasCodebase final) store := by
  refine Ensures.bind ((waitRepo_ensures polls).weaken fun up final same => ?_)
  cases up with
  | false => exact fun failed => by cases failed
  | true =>
      have sent := (@batch_ensures RepoFile RepoFile id
        [ingressBatch scripts, servicesBatch scripts] final.repo).and
        (batch_codebases [ingressBatch scripts, servicesBatch scripts] final.repo)
      rw [serveAs_id] at sent
      refine (ofRepo_ensures sent).weaken fun result ended stored succeeded => ?_
      rw [stored.1.2 succeeded]
      exact ⟨laid.serves, stored.2 succeeded _ List.mem_cons_self⟩

theorem setupHTTP_ensures (laid : LaidOut scripts shipped)
    (serves : Serves scripts json store.repo.contents) :
    (setupHTTP mc).Ensures respondRead (fun result final => result = .ok () →
      Serves scripts { json with http := ⟨mc.ingress.http.enabled, mc.ingress.http.listen⟩ }
        final.repo.contents) store := by
  have rewritten := @rewriteMainJson_ensures store defaultIngressBasePath json
    (fun json => { json with http := ⟨mc.ingress.http.enabled, mc.ingress.http.listen⟩ })
    serves.mainJson.1
  refine Ensures.weaken rewritten fun result final stored succeeded => ?_
  rw [stored succeeded]
  exact serves.rewrite laid _

/-- The tls section or the passthrough section, if the config has TLS enabled. -/
def withTLS (json : MainJson) (mc : MeshConfig) (cert : IssuedCertificate) : MainJson :=
  if mc.ingress.tls.enabled then
    if mc.ingress.tls.sslPassthrough.enabled then
      { json with sslPassthrough := mc.ingress.tls.sslPassthrough }
    else { json with
      tls := ⟨mc.ingress.tls.enabled, mc.ingress.tls.listen, mc.ingress.tls.mTLS, some cert⟩ }
  else json

theorem setupTLS_ensures (laid : LaidOut scripts shipped)
    (serves : Serves scripts json store.repo.contents) :
    (setupTLS mc).Ensures respondRead (fun result final => result = .ok () →
      ∃ serial, Serves scripts (withTLS json mc (store.certificates serial))
        final.repo.contents) store := by
  unfold setupTLS withTLS
  split
  next enabled =>
    split
    next passthrough =>
      have rewritten := @rewriteMainJson_ensures store defaultIngressBasePath json
        (fun json => { json with sslPassthrough :=
          ⟨mc.ingress.tls.sslPassthrough.enabled, mc.ingress.tls.sslPassthrough.upstreamPort⟩ })
        serves.mainJson.1
      refine Ensures.weaken rewritten fun result final stored succeeded => ⟨0, ?_⟩
      rw [stored succeeded]
      exact serves.rewrite laid _
    next =>
      rintro _ rfl ⟨faults, answered⟩
      refine ⟨trivial, ?_⟩
      simp only [respondRead, respond]
      cases faults (.config (.issueCertificate "ingress-pipy")) with
      | answered =>
          have rewritten := @rewriteMainJson_ensures { store with issued := store.issued + 1 }
            defaultIngressBasePath json
            (fun json => { json with tls := ⟨mc.ingress.tls.enabled, mc.ingress.tls.listen,
              mc.ingress.tls.mTLS, some (store.certificates store.issued)⟩ })
            serves.mainJson.1
          refine Ensures.weaken rewritten fun result final stored succeeded => ⟨store.issued, ?_⟩
          rw [stored succeeded]
          exact serves.rewrite laid _
      | refused code => exact fun failed => by cases failed
      | unreachable => exact fun failed => by cases failed
      | answerLost => exact fun failed => by cases failed
  next => exact fun _ => ⟨0, serves⟩

/-- The main.json that a start leaves behind. -/
def booted (shipped : MainJson) (mc : MeshConfig) (cert : IssuedCertificate) : MainJson :=
  withTLS { shipped with http := ⟨mc.ingress.http.enabled, mc.ingress.http.listen⟩ } mc cert

theorem boot_ensures (laid : LaidOut scripts shipped) (polls : Nat) :
    (boot polls scripts mc).Ensures respondRead (fun result final => result = .ok () →
      (∃ serial, Serves scripts (booted shipped mc (store.certificates serial))
        final.repo.contents) ∧ HasCodebase final) store := by
  have issued {A : Type} {program : BootApi A} {start : BootStore}
      (same : start.certificates = store.certificates) :
      program.Ensures respondRead (fun _ final => final.certificates = store.certificates) start :=
    Ensures.of_kept (fun state call fault same =>
      (certificates_serve state call (fault.1 call)).trans same) program same
  have exists' {A : Type} {program : BootApi A} {start : BootStore} (known : HasCodebase start) :
      program.Ensures respondRead (fun _ final => HasCodebase final) start :=
    Ensures.of_kept (fun _ call fault known => known.serve call (fault.1 call)) program known
  refine Ensures.bind (((initRepo_ensures laid polls).and (issued rfl)).weaken ?_)
  intro result final uploaded
  cases result with
  | error error => exact fun failed => by cases failed
  | ok done =>
      obtain ⟨serves, known⟩ := uploaded.1 rfl
      refine Ensures.bind ((((setupHTTP_ensures laid serves).and (issued uploaded.2)).and
        (exists' known)).weaken ?_)
      intro result later rewritten
      cases result with
      | error error => exact fun failed => by cases failed
      | ok done =>
          rw [← rewritten.1.2]
          refine ((setupTLS_ensures laid (rewritten.1.1 rfl)).and (exists' rewritten.2)).weaken ?_
          intro result last ended succeeded
          exact ⟨ended.1 succeeded, ended.2⟩

end Steps

/-- Whatever earlier starts have left in the repo and whatever requests fail, if only no read of
main.json is answered with an error status, a start that comes to its end has published every script
at its place, and the shipped main.json with the http section of the config and, if TLS is enabled,
either its passthrough section or its tls section with a certificate. -/
theorem boot_publishes {scripts : Scripts} {shipped : MainJson} (laid : LaidOut scripts shipped)
    (polls : Nat) (mc : MeshConfig) {faults : Nat → BootCall → Fault}
    (read : ∀ moment, ReadsAnswered (faults moment)) (start : BootStore)
    (succeeded : ((boot polls scripts mc).execute respond faults start).1 = .ok ()) :
    ∃ serial, Serves scripts (booted shipped mc (start.certificates serial))
      ((boot polls scripts mc).execute respond faults start).2.repo.contents :=
  ((boot_ensures laid polls).execute_allowed read succeeded).1

/-- The main.json in the chart of the repository. -/
def chartJson : MainJson where
  http := ⟨true, 8000⟩
  tls := ⟨false, 8443, false, none⟩
  plugins := ["plugins/reject-http.js", "plugins/router.js", "plugins/balancer.js",
    "plugins/default.js"]
  sslPassthrough := ⟨false, 443⟩

def exampleScripts : Scripts where
  ingress := [⟨"/repo/scripts/ingress/config/main.json", .mainJson chartJson⟩,
    ⟨"/repo/scripts/ingress/main.js", .text "pipy()"⟩]
  services := [⟨"/repo/scripts/services/main.js", .text "pipy()"⟩]

theorem exampleScripts_laidOut : LaidOut exampleScripts chartJson where
  ingress := by
    intro file member
    rcases List.mem_cons.mp member with rfl | last
    · exact ⟨"config/main.json", rfl⟩
    · rw [List.mem_singleton.mp last]
      exact ⟨"main.js", rfl⟩
  services := by
    intro file member
    rw [List.mem_singleton.mp member]
    exact ⟨"main.js", rfl⟩
  ingressPaths := by decide
  servicesPaths := by decide
  mainJson := List.mem_cons_self

def exampleTLS (passthrough : Bool) : MeshConfig :=
  { exampleMesh true 8001 with
    ingress := {
      enabled := true
      http := { enabled := true, bind := 80, listen := 8001 }
      tls := {
        enabled := true
        bind := 443
        listen := 8443
        sslPassthrough := ⟨passthrough, 443⟩ } } }

def freshStore : BootStore where
  repo := ⟨fun _ => none, fun _ => none, fun _ => none⟩
  services := []
  certificates := fun serial => ⟨"crt " ++ toString serial, "key", "ca"⟩
  issued := 0

/-- The repo is not up at the first poll. -/
def lateRepo (moment : Nat) (_ : BootCall) : Fault :=
  if moment = 0 then .unreachable else .answered

theorem readsAnswered_lateRepo (moment : Nat) : ReadsAnswered (lateRepo moment) := by
  intro path code
  rw [lateRepo]
  split <;> simp

theorem boot_publishes_example :
    ∃ serial, Serves exampleScripts
      (booted chartJson (exampleTLS false) (freshStore.certificates serial))
      ((boot 2 exampleScripts (exampleTLS false)).execute respond lateRepo
        freshStore).2.repo.contents :=
  boot_publishes exampleScripts_laidOut 2 (exampleTLS false) readsAnswered_lateRepo freshStore rfl

/-- The listeners of the proxy are those of the config. -/
structure Listens (json : MainJson) (mc : MeshConfig) : Prop where
  http : httpListener json = if mc.ingress.http.enabled then
    (if mc.ingress.http.listen ≠ 0 then mc.ingress.http.listen else 8000) else 0
  tls : tlsListener json = if mc.ingress.tls.enabled then
    (if mc.ingress.tls.listen ≠ 0 then mc.ingress.tls.listen else 8443) else 0
  pipeline : mc.ingress.tls.enabled = true → json.tlsPipeline =
    if mc.ingress.tls.sslPassthrough.enabled then .passthrough else .inboundTLS

theorem listens_booted_iff {shipped : MainJson} (closed : shipped.tls.enabled = false)
    (off : shipped.sslPassthrough.enabled = false) (mc : MeshConfig) (cert : IssuedCertificate) :
    Listens (booted shipped mc cert) mc ↔
      ¬ (mc.ingress.tls.enabled = true ∧ mc.ingress.tls.sslPassthrough.enabled = true) := by
  constructor
  · intro listens both
    have port := listens.tls
    by_cases zero : mc.ingress.tls.listen = 0
    · simp [booted, withTLS, both.1, both.2, tlsListener, closed, zero] at port
    · simp [booted, withTLS, both.1, both.2, tlsListener, closed, zero] at port
      exact zero port.symm
  · intro neither
    by_cases enabled : mc.ingress.tls.enabled = true
    · have passthrough : mc.ingress.tls.sslPassthrough.enabled = false := by
        simpa [enabled] using neither
      constructor <;> simp [booted, withTLS, enabled, passthrough, httpListener, tlsListener,
        MainJson.tlsPipeline, off]
    · constructor <;> simp [booted, withTLS, enabled, httpListener, tlsListener, closed]

/-- The shipped main.json opens no TLS listener and no passthrough. After a start whose reads of
main.json are answered, the proxy listens as the config says, unless the config asks for passthrough:
then it opens no TLS listener. -/
theorem boot_listens_iff {scripts : Scripts} {shipped : MainJson} (laid : LaidOut scripts shipped)
    (closed : shipped.tls.enabled = false) (off : shipped.sslPassthrough.enabled = false)
    (polls : Nat) (mc : MeshConfig) {faults : Nat → BootCall → Fault}
    (read : ∀ moment, ReadsAnswered (faults moment)) (start : BootStore)
    (succeeded : ((boot polls scripts mc).execute respond faults start).1 = .ok ()) :
    ∃ json, ((boot polls scripts mc).execute respond faults start).2.repo.committed mainJsonPath =
        some (.mainJson json) ∧
      (Listens json mc ↔
        ¬ (mc.ingress.tls.enabled = true ∧ mc.ingress.tls.sslPassthrough.enabled = true)) := by
  obtain ⟨⟨serial, serves⟩, -⟩ := (boot_ensures laid polls).execute_allowed read succeeded
  exact ⟨_, serves.mainJson.2, listens_booted_iff closed off mc _⟩

theorem boot_listens_iff_example :
    ∃ json, ((boot 2 exampleScripts (exampleTLS true)).execute respond lateRepo
        freshStore).2.repo.committed mainJsonPath = some (.mainJson json) ∧
      (Listens json (exampleTLS true) ↔ ¬ ((exampleTLS true).ingress.tls.enabled = true ∧
        (exampleTLS true).ingress.tls.sslPassthrough.enabled = true)) :=
  boot_listens_iff exampleScripts_laidOut rfl rfl 2 (exampleTLS true) readsAnswered_lateRepo
    freshStore rfl

/-- The tls section of the booted main.json is that of the config unless it was left as shipped. -/
theorem agrees_booted {shipped : MainJson} {mc : MeshConfig} (cert : IssuedCertificate)
    (settled : mc.ingress.tls.enabled = true ∧ mc.ingress.tls.sslPassthrough.enabled = false ∨
      shipped.value .tls = mc.value .tls) : Agrees (booted shipped mc cert) mc := by
  have http : (booted shipped mc cert).http =
      ⟨mc.ingress.http.enabled, mc.ingress.http.listen⟩ := by
    rw [booted, withTLS]
    split
    · split <;> rfl
    · rfl
  by_cases offload : mc.ingress.tls.enabled = true ∧ mc.ingress.tls.sslPassthrough.enabled = false
  · constructor <;> simp [booted, withTLS, offload.1, offload.2]
  · have same : (booted shipped mc cert).tls = shipped.tls := by
      rw [booted, withTLS]
      split
      next enabled =>
        rw [if_pos]
        simpa [enabled] using offload
      next => rfl
    have values := settled.resolve_left offload
    simp only [MainJson.value, MeshConfig.value, Prod.mk.injEq] at values
    exact ⟨http, by rw [same, values.1], by rw [same, values.2.1], by rw [same, values.2.2]⟩

end ErieCanal.Boot
