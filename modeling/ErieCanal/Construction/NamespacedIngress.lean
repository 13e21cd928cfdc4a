import ErieCanal.Construction.Config.MainJson

namespace ErieCanal.Config
open Lib Repo

/-- The admission webhook has set the upstream port if it was missing. -/
structure NamespacedIngress where
  ns : String
  tlsEnabled : Bool
  sslPassthrough : SSLPassthrough
  deriving DecidableEq, Repr

namespace MeshConfig

def ingressCodebasePath (_ : MeshConfig) : String := "/local/ingress"

def namespacedIngressCodebasePath (_ : MeshConfig) (ns : String) : String := "/local/nsig/" ++ ns

end MeshConfig

namespace NamespacedIngressReconciler

def deriveCodebases (nsig : NamespacedIngress) (mc : MeshConfig) : ConfigApi (Except String Unit) :=
  (PipyRepoClient.DeriveCodebase (mc.namespacedIngressCodebasePath nsig.ns)
    mc.ingressCodebasePath).lift ConfigCall.repo fun _ reply => reply

def updateConfig (nsig : NamespacedIngress) (mc : MeshConfig) : ConfigApi (Except String Unit) :=
  if mc.ingress.namespaced && nsig.tlsEnabled then
    let basepath := mc.namespacedIngressCodebasePath nsig.ns
    if nsig.sslPassthrough.enabled then
      updateSSLPassthrough basepath nsig.sslPassthrough.enabled nsig.sslPassthrough.upstreamPort
    else issueCertForIngress basepath mc
  else pure (.ok ())

/-- The chart that is rendered at the end does not touch the repo. -/
def reconcile (mc : MeshConfig) (found : Option NamespacedIngress) :
    ConfigApi (Except String Unit) := do
  if !mc.ingress.enabled || !mc.ingress.namespaced then pure (.ok ())
  else
    match found with
    | none => pure (.ok ())
    | some nsig =>
        match ← deriveCodebases nsig mc with
        | .error error => pure (.error error)
        | .ok _ => updateConfig nsig mc

end NamespacedIngressReconciler

namespace ConfigStore

/-- A codebase without its own file serves the file of its base, if there is one. -/
def mainJson (store : ConfigStore) (inherited : Option MainJson) (path : String) : MainJson :=
  ((store.repo.uploaded path).or inherited).getD .empty

def serveDerived (inherited : Option MainJson) (store : ConfigStore) (call : ConfigCall)
    (fault : Fault) : call.Answer × ConfigStore :=
  match call, fault with
  | .getFile path, .answered => (.ok (store.mainJson inherited path), store)
  | call, fault => store.serve call fault

end ConfigStore

/-- The pipelines that main.js links to its TLS port. -/
inductive TLSPipeline where
  | passthrough
  | inboundTLS
  deriving DecidableEq, Repr

/-- This is the choice in main.js. -/
def MainJson.tlsPipeline (json : MainJson) : TLSPipeline :=
  if json.sslPassthrough.enabled = true then .passthrough else .inboundTLS

/-- One reconciliation of a NamespacedIngress with TLS while the mesh config has namespaced ingress
enabled. The bases of its codebase may have changed since the last one. -/
structure Reconciliation (ns : String) where
  mc : MeshConfig
  enabled : mc.ingress.enabled = true
  namespaced : mc.ingress.namespaced = true
  sslPassthrough : SSLPassthrough
  inherited : Option MainJson

namespace Reconciliation
variable {ns : String}

def nsig (event : Reconciliation ns) : NamespacedIngress :=
  { ns, tlsEnabled := true, sslPassthrough := event.sslPassthrough }

/-- The repo and the certificate manager answer every request; a run ends with the first error. -/
def machine (ns : String) : Machine ConfigStore (Reconciliation ns) where
  step store event :=
    match (NamespacedIngressReconciler.reconcile event.mc (some event.nsig)).execute
        (ConfigStore.serveDerived event.inherited) (fun _ => .answered) store with
    | (.ok _, next) => some next
    | (.error _, _) => none

end Reconciliation
end ErieCanal.Config
