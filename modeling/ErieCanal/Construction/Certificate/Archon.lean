import ErieCanal.Construction.Config
import ErieCanal.Construction.Networking
import ErieCanal.Lib.Machine
import ErieCanal.Lib.Pool

namespace ErieCanal.Archon
open Lib

structure Certificate where
  commonName : String
  serialNumber : String
  ca : String
  crtPEM : String
  keyPEM : String
  expiration : Nat
  deriving DecidableEq, Repr

/-- These fields of a parsed certificate are read. -/
structure X509Certificate where
  commonName : String
  serialNumber : String
  notAfter : Nat
  deriving DecidableEq, Repr

/-- The manager signs with its CA and remembers what it has issued. -/
structure ArchonManager where
  ca : Certificate
  certificates : GoMap String Certificate

namespace ArchonManager

def newManager (ca : Certificate) : ArchonManager := ⟨ca, ∅⟩

end ArchonManager

def rootCACertName : String := "ca.crt"

def rootCAPrivateKeyName : String := "ca.key"

inductive ApiError where
  | alreadyExists
  | notFound
  | other (message : String)
  deriving DecidableEq, Repr

namespace ApiError

def isAlreadyExists : ApiError → Bool
  | .alreadyExists => true
  | _ => false

def message (secretName : String) : ApiError → String
  | .alreadyExists => "secrets " ++ quoted secretName ++ " already exists"
  | .notFound => "secrets " ++ quoted secretName ++ " not found"
  | .other message => message

end ApiError

inductive SecretCall where
  | create (key : NamespacedName) (secret : CoreV1.Secret)
  | get (key : NamespacedName)

@[reducible] def SecretCall.Answer : SecretCall → Type
  | .create _ _ => Except ApiError Unit
  | .get _ => Except ApiError CoreV1.Secret

/-- The code of a manager that starts. -/
abbrev SecretApi := Program SecretCall SecretCall.Answer

def request (call : SecretCall) : SecretApi call.Answer := Program.perform call

abbrev Secrets := GoMap NamespacedName CoreV1.Secret

/-- A request is refused before it has an effect, or its answer is lost after it. -/
inductive ApiFault where
  | answered
  | refused (message : String)
  | answerLost (message : String)
  deriving DecidableEq, Repr

namespace Secrets

/-- A create is atomic: it stores the secret, or it finds another one. -/
def create (secrets : Secrets) (key : NamespacedName) (secret : CoreV1.Secret) :
    Except ApiError Unit × Secrets :=
  match secrets.lookup key with
  | some _ => (.error .alreadyExists, secrets)
  | none => (.ok (), secrets.insert key secret)

def get (secrets : Secrets) (key : NamespacedName) : Except ApiError CoreV1.Secret :=
  match secrets.lookup key with
  | some secret => .ok secret
  | none => .error .notFound

def serve (secrets : Secrets) (call : SecretCall) (fault : ApiFault) : call.Answer × Secrets :=
  match call, fault with
  | .create key secret, .answered => secrets.create key secret
  | .create _ _, .refused message => (.error (.other message), secrets)
  | .create key secret, .answerLost message =>
      (.error (.other message), (secrets.create key secret).2)
  | .get key, .answered => (secrets.get key, secrets)
  | .get _, .refused message => (.error (.other message), secrets)
  | .get _, .answerLost message => (.error (.other message), secrets)

end Secrets

/-- The parser of certificates is the standard library's. -/
structure Config where
  mc : Config.MeshConfig
  erieCanalNamespace : String
  convertPEMCertToX509 : String → Except String X509Certificate

namespace Config

def bundleSecret (cert : Certificate) : CoreV1.Secret :=
  ⟨((∅ : GoMap String String).insert rootCAPrivateKeyName cert.keyPEM).insert rootCACertName
    cert.crtPEM⟩

/-- The saved certificate is read back from the data of its secret. -/
def savedCertificate (config : Config) (secret : CoreV1.Secret) : Except String Certificate :=
  match secret.data.lookup rootCACertName with
  | none => .error "invalid secret data for cert"
  | some pemCACrt =>
      match secret.data.lookup rootCAPrivateKeyName with
      | none => .error "invalid secret data for cert"
      | some pemCAKey =>
          match config.convertPEMCertToX509 pemCACrt with
          | .error error => .error error
          | .ok x509Cert => .ok {
              commonName := x509Cert.commonName
              serialNumber := x509Cert.serialNumber
              ca := pemCACrt
              crtPEM := pemCACrt
              keyPEM := pemCAKey
              expiration := x509Cert.notAfter }

def getSavedCertificate (config : Config) (ns secretName : String) :
    SecretApi (Except String Certificate) := do
  match ← request (.get ⟨ns, secretName⟩) with
  | .error error => pure (.error ("CA bundle not found: " ++ error.message secretName))
  | .ok secret => pure (config.savedCertificate secret)

def getOrSaveCertificate (config : Config) (ns secretName : String) (cert : Certificate) :
    SecretApi (Except String Certificate) := do
  match ← request (.create ⟨ns, secretName⟩ (bundleSecret cert)) with
  | .ok _ => config.getSavedCertificate ns secretName
  | .error error =>
      if error.isAlreadyExists then config.getSavedCertificate ns secretName
      else pure (.error (error.message secretName))

/-- The generated root CA is the answer of `NewRootCA`, which makes random keys. -/
def getArchonCertificateManager (config : Config) (generated : Except String Certificate) :
    SecretApi (Except String ArchonManager) := do
  match generated with
  | .error error =>
      pure (.error ("failed to generate root CA, manager type = " ++
        quoted config.mc.certificate.manager ++ ", " ++ error))
  | .ok rootCert =>
      match ← config.getOrSaveCertificate (config.mc.getCaBundleNamespace config.erieCanalNamespace)
          config.mc.getCaBundleName rootCert with
      | .error error => pure (.error ("failed to get/create CA, " ++ error))
      | .ok rootCert => pure (.ok (ArchonManager.newManager rootCert))

def bundleKey (config : Config) : NamespacedName :=
  ⟨config.mc.getCaBundleNamespace config.erieCanalNamespace, config.mc.getCaBundleName⟩

end Config

/-- An instance is tagged with the root CA that it generated. -/
abbrev Instance :=
  Task (Except String Certificate) SecretCall SecretCall.Answer (Except String ArchonManager)

/-- Manager instances start against one API server; `created` lists the instances whose create
brought the CA bundle into being. -/
structure Startup where
  secrets : Secrets
  instances : List Instance
  created : List Nat

inductive StartupStep where
  | start (generated : Except String Certificate)
  | advance (index : Nat) (fault : ApiFault)
  | others (key : NamespacedName) (secret : Option CoreV1.Secret)

namespace Startup

def new (secrets : Secrets) : Startup := ⟨secrets, [], []⟩

def advance (config : Config) (startup : Startup) (index : Nat) (fault : ApiFault) :
    Option Startup :=
  match startup.instances[index]? with
  | some ⟨generated, .call call next⟩ =>
      let served := startup.secrets.serve call fault
      some {
        secrets := served.2
        instances := startup.instances.set index ⟨generated, next served.1⟩
        created :=
          if (startup.secrets.lookup config.bundleKey).isNone ∧
              (served.2.lookup config.bundleKey).isSome then startup.created ++ [index]
          else startup.created }
  | _ => none

/-- Others write and delete any secret but the CA bundle. -/
def machine (config : Config) : Machine Startup StartupStep where
  step startup
    | .start generated => some { startup with
        instances := startup.instances ++
          [⟨generated, config.getArchonCertificateManager generated⟩] }
    | .advance index fault => startup.advance config index fault
    | .others key secret =>
        if key = config.bundleKey then none
        else some { startup with secrets :=
          match secret with
          | some secret => startup.secrets.insert key secret
          | none => startup.secrets.erase key }

/-- The managers of the instances that have succeeded. -/
def succeeded (startup : Startup) : List ArchonManager :=
  startup.instances.filterMap fun inst =>
    match inst.rest with
    | .done (.ok manager) => some manager
    | _ => none

end Startup
end ErieCanal.Archon
