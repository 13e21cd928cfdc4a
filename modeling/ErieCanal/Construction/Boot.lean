import ErieCanal.Construction.Config.MainJson
import ErieCanal.Construction.Strings

namespace ErieCanal.Boot
open Lib Repo Config

/-- The scripts that are shipped are plain texts, except for main.json, which is decoded. -/
inductive RepoFile where
  | text (content : String)
  | mainJson (json : MainJson)
  deriving DecidableEq, Repr

structure ScriptFile where
  path : String
  content : RepoFile
  deriving DecidableEq, Repr

def scriptsRoot : String := "/repo/scripts"

/-- This is `filepath.Dir` of a clean path that is not at the root. -/
def dir (path : String) : String :=
  String.ofList ((path.toList.reverse.dropWhile (· ≠ '/')).drop 1).reverse

/-- This is `filepath.Base` of a clean path. -/
def base (path : String) : String :=
  String.ofList (path.toList.reverse.takeWhile (· ≠ '/')).reverse

/-- The files are those of the directory, in the order in which they are visited. -/
def createBatch (repoPath scriptsDir : String) (files : List ScriptFile) : Batch RepoFile where
  basepath := repoPath
  items := files.map fun file =>
    { path := Strings.trimPrefix (dir file.path) scriptsDir
      filename := base file.path
      content := file.content }

/-- The two directories below the root of the scripts. -/
structure Scripts where
  ingress : List ScriptFile
  services : List ScriptFile

def ingressBatch (scripts : Scripts) : Batch RepoFile :=
  createBatch "/base/ingress" (scriptsRoot ++ "/ingress") scripts.ingress

def servicesBatch (scripts : Scripts) : Batch RepoFile :=
  createBatch "/base/services" (scriptsRoot ++ "/services") scripts.services

/-- The manager talks to the repo itself, or through the functions of the config package. -/
inductive BootCall where
  | repo (call : RepoCall RepoFile)
  | config (call : ConfigCall)

@[reducible] def BootCall.Answer : BootCall → Type
  | .repo _ => Reply
  | .config call => call.Answer

abbrev BootApi := Program BootCall BootCall.Answer

/-- The store of the config package, with a repo that also holds the scripts. -/
structure BootStore where
  repo : RepoServer RepoFile
  services : List CoreV1.Service
  certificates : Nat → IssuedCertificate
  issued : Nat

namespace BootStore

def decode : RepoFile → Option MainJson
  | .mainJson json => some json
  | .text _ => none

/-- This is what the config package sees of the store. -/
def view (store : BootStore) : ConfigStore where
  repo := {
    versions := store.repo.versions
    uploaded := fun path => (store.repo.uploaded path).bind decode
    committed := fun path => (store.repo.committed path).bind decode }
  services := store.services
  certificates := store.certificates
  issued := store.issued

def serve (store : BootStore) (call : BootCall) (fault : Fault) : call.Answer × BootStore :=
  match call with
  | .repo call =>
      ((store.repo.serve call fault).1, { store with repo := (store.repo.serve call fault).2 })
  | .config (.repo call) =>
      ((store.repo.serveAs .mainJson call fault).1,
        { store with repo := (store.repo.serveAs .mainJson call fault).2 })
  | .config call =>
      let served := store.view.serve call fault
      (served.1, { store with
        services := served.2.services
        certificates := served.2.certificates
        issued := served.2.issued })

end BootStore

def ofRepo {A : Type} (program : RepoApi RepoFile A) : BootApi A :=
  program.lift BootCall.repo fun _ reply => reply

def ofConfig {A : Type} (program : ConfigApi A) : BootApi A :=
  program.lift BootCall.config fun _ answer => answer

def isRepoUp : BootApi Bool := do
  match ← ofRepo (PipyRepoClient.get "/") with
  | .error _ => pure false
  | .ok _ => pure true

/-- The repo is polled so many times before the manager gives up. -/
def waitRepo : Nat → BootApi Bool
  | 0 => pure false
  | polls + 1 => do
      if ← isRepoUp then pure true else waitRepo polls

/-- An error stands for the exit of the manager. -/
def initRepo (polls : Nat) (scripts : Scripts) : BootApi (Except String Unit) := do
  if ← waitRepo polls then
    ofRepo (PipyRepoClient.batch [ingressBatch scripts, servicesBatch scripts])
  else pure (.error "timed out waiting for the condition")

def setupHTTP (mc : MeshConfig) : BootApi (Except String Unit) :=
  ofConfig (updateIngressHTTPConfig defaultIngressBasePath mc)

def setupTLS (mc : MeshConfig) : BootApi (Except String Unit) :=
  if mc.ingress.tls.enabled then
    if mc.ingress.tls.sslPassthrough.enabled then
      ofConfig (updateSSLPassthrough defaultIngressBasePath mc.ingress.tls.sslPassthrough.enabled
        mc.ingress.tls.sslPassthrough.upstreamPort)
    else ofConfig (issueCertForIngress defaultIngressBasePath mc)
  else pure (.ok ())

/-- The part of `main` that prepares the repo. -/
def boot (polls : Nat) (scripts : Scripts) (mc : MeshConfig) : BootApi (Except String Unit) := do
  match ← initRepo polls scripts with
  | .error error => pure (.error error)
  | .ok _ =>
      match ← setupHTTP mc with
      | .error error => pure (.error error)
      | .ok _ => setupTLS mc

/-- The port on which main.js opens its TLS listener; it opens none on 0. -/
def tlsListener (json : MainJson) : Int :=
  if json.tls.enabled then (if json.tls.listen ≠ 0 then json.tls.listen else 8443) else 0

def httpListener (json : MainJson) : Int :=
  if json.http.enabled then (if json.http.listen ≠ 0 then json.http.listen else 8000) else 0

end ErieCanal.Boot
