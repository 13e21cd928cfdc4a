import ErieCanal.Construction.Config
import ErieCanal.Construction.Repo.Client
import ErieCanal.Lib.Machine

namespace ErieCanal.Config
open Lib Repo

/-- The certificate manager issues a certificate with its key and the certificate of its CA. -/
structure IssuedCertificate where
  crtPEM : String
  keyPEM : String
  ca : String
  deriving DecidableEq, Repr

namespace MainJson

structure Http where
  enabled : Bool
  listen : Int
  deriving DecidableEq, Repr

structure Tls where
  enabled : Bool
  listen : Int
  mTLS : Bool
  certificate : Option IssuedCertificate
  deriving DecidableEq, Repr

end MainJson

/-- The ingress proxy starts from this file of its codebase; `plugins` are never rewritten. -/
structure MainJson where
  http : MainJson.Http
  tls : MainJson.Tls
  plugins : List String
  sslPassthrough : SSLPassthrough := {}
  deriving DecidableEq, Repr

/-- This is a document without any section. -/
def MainJson.empty : MainJson := ⟨⟨false, 0⟩, ⟨false, 0, false, none⟩, [], {}⟩

/-- The listener of the mesh config asks the certificate manager, the repo and the API server. -/
inductive ConfigCall where
  | issueCertificate (cn : String)
  | getFile (path : String)
  | repo (call : RepoCall MainJson)
  | listServices
  | updateService (service : CoreV1.Service)

@[reducible] def ConfigCall.Answer : ConfigCall → Type
  | .issueCertificate _ => Except String IssuedCertificate
  | .getFile _ => Except String MainJson
  | .repo _ => Reply
  | .listServices => Except String (List CoreV1.Service)
  | .updateService _ => Except String Unit

/-- The code of the listener. -/
abbrev ConfigApi := Program ConfigCall ConfigCall.Answer

/-- The issued certificates are arbitrary. -/
structure ConfigStore where
  repo : RepoServer MainJson
  services : List CoreV1.Service
  certificates : Nat → IssuedCertificate
  issued : Nat

namespace ConfigStore

/-- The repo returns the last uploaded file; the status of its answer is not looked at. -/
def serve (store : ConfigStore) (call : ConfigCall) (fault : Fault) : call.Answer × ConfigStore :=
  match call, fault with
  | .issueCertificate _, .answered =>
      (.ok (store.certificates store.issued), { store with issued := store.issued + 1 })
  | .issueCertificate _, _ => (.error "cannot issue a certificate", store)
  | .getFile path, .answered => (.ok ((store.repo.uploaded path).getD .empty), store)
  | .getFile _, .refused _ => (.ok .empty, store)
  | .getFile _, _ => (.error "timeout", store)
  | .repo call, fault =>
      ((store.repo.serve call fault).1, { store with repo := (store.repo.serve call fault).2 })
  | .listServices, .answered => (.ok store.services, store)
  | .listServices, _ => (.error "cannot list services", store)
  | .updateService service, .answered =>
      (.ok (), { store with services := store.services.map fun stored =>
        if stored.key = service.key then service else stored })
  | .updateService _, _ => (.error "cannot update service", store)

end ConfigStore

def defaultIngressBasePath : String := "/base/ingress"

def getPathOfMainJson (basepath : String) : String := basepath ++ "/config/main.json"

def request (call : ConfigCall) : ConfigApi call.Answer := Program.perform call

def getMainJson (basepath : String) : ConfigApi (Except String MainJson) :=
  request (.getFile (getPathOfMainJson basepath))

def updateMainJson (basepath : String) (newJson : MainJson) : ConfigApi (Except String Unit) :=
  (PipyRepoClient.batch [⟨basepath, [⟨"/config", "main.json", newJson⟩]⟩]).lift
    ConfigCall.repo fun _ reply => reply

def updateIngressHTTPConfig (basepath : String) (mc : MeshConfig) :
    ConfigApi (Except String Unit) := do
  match ← getMainJson basepath with
  | .error error => pure (.error error)
  | .ok json =>
      updateMainJson basepath { json with
        http := { enabled := mc.ingress.http.enabled, listen := mc.ingress.http.listen } }

def updateIngressTLSConfig (basepath : String) (mc : MeshConfig) :
    ConfigApi (Except String Unit) := do
  match ← getMainJson basepath with
  | .error error => pure (.error error)
  | .ok json =>
      updateMainJson basepath { json with
        tls.enabled := mc.ingress.tls.enabled
        tls.listen := mc.ingress.tls.listen
        tls.mTLS := mc.ingress.tls.mTLS }

def issueCertForIngress (basepath : String) (mc : MeshConfig) :
    ConfigApi (Except String Unit) := do
  match ← request (.issueCertificate "ingress-pipy") with
  | .error error => pure (.error error)
  | .ok cert =>
      match ← getMainJson basepath with
      | .error error => pure (.error error)
      | .ok json =>
          updateMainJson basepath { json with
            tls := {
              enabled := mc.ingress.tls.enabled
              listen := mc.ingress.tls.listen
              mTLS := mc.ingress.tls.mTLS
              certificate := some cert } }

def updateSSLPassthrough (basepath : String) (enabled : Bool) (upstreamPort : Int) :
    ConfigApi (Except String Unit) := do
  match ← getMainJson basepath with
  | .error error => pure (.error error)
  | .ok json => updateMainJson basepath { json with sslPassthrough := { enabled, upstreamPort } }

def isHTTPConfigChanged (oldCfg cfg : MeshConfig) : Bool :=
  cfg.ingress.enabled &&
    (oldCfg.ingress.http.enabled != cfg.ingress.http.enabled ||
      oldCfg.ingress.http.listen != cfg.ingress.http.listen)

def isTLSConfigChanged (oldCfg cfg : MeshConfig) : Bool :=
  cfg.ingress.enabled &&
    (oldCfg.ingress.tls.enabled != cfg.ingress.tls.enabled ||
      oldCfg.ingress.tls.listen != cfg.ingress.tls.listen ||
      oldCfg.ingress.tls.mTLS != cfg.ingress.tls.mTLS)

def shouldUpdateIngressControllerServiceSpec (oldCfg cfg : MeshConfig) : Bool :=
  cfg.ingress.enabled &&
    (oldCfg.ingress.tls.enabled != cfg.ingress.tls.enabled ||
      oldCfg.ingress.tls.listen != cfg.ingress.tls.listen ||
      oldCfg.ingress.tls.bind != cfg.ingress.tls.bind ||
      oldCfg.ingress.tls.nodePort != cfg.ingress.tls.nodePort ||
      oldCfg.ingress.http.enabled != cfg.ingress.http.enabled ||
      oldCfg.ingress.http.listen != cfg.ingress.http.listen ||
      oldCfg.ingress.http.nodePort != cfg.ingress.http.nodePort ||
      oldCfg.ingress.http.bind != cfg.ingress.http.bind)

/-- A port of the ingress service gets a node port only when one is set. -/
def ingressPort (name : String) (bind listen nodePort : Int) : CoreV1.ServicePort where
  name := name
  protocol := .tcp
  appProtocol := none
  port := bind
  targetPort := .int listen
  nodePort := if 0 < nodePort then nodePort else 0

def ingressPorts (cfg : MeshConfig) : List CoreV1.ServicePort :=
  let http := cfg.ingress.http
  let tls := cfg.ingress.tls
  (if http.enabled then [ingressPort "http" http.bind http.listen http.nodePort] else []) ++
    if tls.enabled then [ingressPort "https" tls.bind tls.listen tls.nodePort] else []

/-- The error of one service is logged, and the loop goes on with the next one. -/
def updateServices (ports : List CoreV1.ServicePort) :
    List CoreV1.Service → ConfigApi (Except String Unit)
  | [] => pure (.ok ())
  | svc :: rest =>
      if 0 < ports.length then do
        let _ ← request (.updateService { svc with ports })
        updateServices ports rest
      else updateServices ports rest

def updateIngressControllerSpec (cfg : MeshConfig) : ConfigApi (Except String Unit) := do
  match ← request .listServices with
  | .error error => pure (.error error)
  | .ok svcList => updateServices (ingressPorts cfg) svcList

/-- The listener rewrites these parts of main.json. -/
inductive Part where
  | http
  | tls
  deriving DecidableEq, Repr

/-- One update of the config makes the listener take these steps. -/
inductive ListenerStep where
  | rewrite (part : Part)
  | serviceSpec
  deriving DecidableEq, Repr

def ListenerStep.program (cfg : MeshConfig) : ListenerStep → ConfigApi (Except String Unit)
  | .rewrite .http => updateIngressHTTPConfig defaultIngressBasePath cfg
  | .rewrite .tls =>
      if cfg.ingress.tls.enabled then issueCertForIngress defaultIngressBasePath cfg
      else updateIngressTLSConfig defaultIngressBasePath cfg
  | .serviceSpec => updateIngressControllerSpec cfg

/-- The steps follow one after another, and the error of a step is only logged. -/
def onConfigUpdate (oldCfg cfg : MeshConfig) : List ListenerStep :=
  (if isHTTPConfigChanged oldCfg cfg then [.rewrite .http] else []) ++
    (if isTLSConfigChanged oldCfg cfg then [.rewrite .tls] else []) ++
    if shouldUpdateIngressControllerServiceSpec oldCfg cfg then [.serviceSpec] else []

/-- This goroutine works on the first of its steps and keeps the parts that it has uploaded. -/
structure Handler where
  oldCfg : MeshConfig
  cfg : MeshConfig
  steps : List ListenerStep
  rest : ConfigApi (Except String Unit)
  uploaded : List Part

namespace Handler

/-- The handler turns to these steps. -/
def load (handler : Handler) (steps : List ListenerStep) : Handler :=
  { handler with
    steps
    rest := match steps with
      | [] => .done (.ok ())
      | step :: _ => step.program handler.cfg }

def start (oldCfg cfg : MeshConfig) : Handler :=
  Handler.load ⟨oldCfg, cfg, [], .done (.ok ()), []⟩ (onConfigUpdate oldCfg cfg)

/-- A finished step is followed by the next one. -/
def resume (handler : Handler) : ConfigApi (Except String Unit) → Handler
  | .done _ => handler.load handler.steps.tail
  | .call request next => { handler with rest := .call request next }

/-- The upload of a step is noted with the part that the step rewrites. -/
def note (handler : Handler) : ConfigCall → Handler
  | .repo (.postFile _ _) => match handler.steps with
      | .rewrite part :: _ => { handler with uploaded := part :: handler.uploaded }
      | _ => handler
  | _ => handler

end Handler

/-- Every update starts a handler beside those of earlier updates; the other listener compares a
constant path and never acts. -/
structure ConfigProcess where
  store : ConfigStore
  current : MeshConfig
  handlers : List Handler

inductive ConfigEvent where
  | update (cfg : MeshConfig)
  | advance (index : Nat) (fault : Fault)

namespace ConfigProcess

def advance (process : ConfigProcess) (index : Nat) (fault : Fault) : Option ConfigProcess :=
  match process.handlers[index]? with
  | some handler => match handler.rest with
      | .call request next =>
          let served := process.store.serve request fault
          some { process with
            store := served.2
            handlers := process.handlers.set index
              ((handler.note request).resume (next served.1)) }
      | .done _ => none
  | none => none

def machine : Machine ConfigProcess ConfigEvent where
  step process
    | .update cfg => some { process with
        current := cfg
        handlers := process.handlers ++ [.start process.current cfg] }
    | .advance index fault => process.advance index fault

/-- Every handler has finished its last step. -/
def Finished (process : ConfigProcess) : Prop :=
  ∀ handler ∈ process.handlers, handler.steps = []

end ConfigProcess

/-- The webhook rejects a config that does not validate, and one whose ingress has no listener. -/
def doValidation (validate : MeshConfig → Option String) (cfg : MeshConfig) : Option String :=
  match validate cfg with
  | some error => some error
  | none =>
      if cfg.ingress.enabled && (!cfg.ingress.http.enabled && !cfg.ingress.tls.enabled) then
        some ("ingress.http.enabled and ingress.tls.enabled are both false, " ++
          "at least one should be enabled")
      else none

/-- The repo answers every request of an update; the other calls may fail. -/
structure ConfigUpdate where
  cfg : MeshConfig
  faults : ConfigCall → Fault

/-- One update is handled to its end before the next one. -/
structure SequentialConfig where
  store : ConfigStore
  current : MeshConfig

namespace SequentialConfig

def faultOf (faults : ConfigCall → Fault) : ConfigCall → Fault
  | .getFile _ => .answered
  | .repo _ => .answered
  | call => faults call

def runStep (update : ConfigUpdate) (store : ConfigStore) (step : ListenerStep) : ConfigStore :=
  ((step.program update.cfg).execute
    (fun store call (_ : Unit) => store.serve call (faultOf update.faults call)) (fun _ => ())
    store).2

def machine (validate : MeshConfig → Option String) :
    Machine SequentialConfig ConfigUpdate where
  step state update := match doValidation validate update.cfg with
    | some _ => none
    | none => some {
        store := (onConfigUpdate state.current update.cfg).foldl (runStep update) state.store
        current := update.cfg }

end SequentialConfig
end ErieCanal.Config
