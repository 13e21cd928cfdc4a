import ErieCanal.Construction.Cache.Ingress
import ErieCanal.Construction.Config
import ErieCanal.Construction.Export.Store
import ErieCanal.Lib.Worker

namespace ErieCanal.Export
open Lib Kube CoreV1 NetworkingV1 IngressPipy

def ingressAnnotations (exp : ServiceExport) : GoMap String String :=
  let annos : GoMap String String := match exp.spec.pathRewrite with
    | none => ∅
    | some rewrite =>
        if rewrite.rewriteFrom ≠ "" ∧ rewrite.rewriteTo ≠ "" then
          ((∅ : GoMap String String).insert PipyIngressAnnotation.rewriteFrom.key
            rewrite.rewriteFrom).insert PipyIngressAnnotation.rewriteTo.key rewrite.rewriteTo
        else ∅
  let annos := if exp.spec.sessionSticky then
      annos.insert PipyIngressAnnotation.sessionSticky.key "true"
    else annos
  match exp.spec.loadBalancer with
  | some balancer => annos.insert PipyIngressAnnotation.loadBalancer.key balancer.string
  | none => annos

def ingressPaths (exp : ServiceExport) : List HTTPIngressPath :=
  exp.spec.rules.map fun rule => {
    path := rule.path
    pathType := rule.pathType
    backend := some ⟨exp.name, ⟨"", rule.portNumber⟩⟩ }

/-- The Ingress of an export has one rule for all hosts. -/
def exportRules (exp : ServiceExport) : List IngressRule := [⟨"", some (ingressPaths exp)⟩]

def newIngress (exp : ServiceExport) : Ingress where
  ns := exp.ns
  name := "svcexp-ing-" ++ exp.name
  annotations := some (ingressAnnotations exp)
  ingressClassName := some ingressPipyClass
  tls := []
  rules := exportRules exp

/-- A new Ingress has no owner and lives beside the export, so that the reference is accepted. -/
def setControllerReference (exp : ServiceExport) (ing : Ingress) : Ingress :=
  { ing with controllerUID := some exp.uid }

def isControlledBy (ing : Ingress) (exp : ServiceExport) : Bool :=
  ing.controllerUID == some exp.uid

/-- The annotations of the export replace those of the Ingress under the same keys. -/
def updatedIngress (exp : ServiceExport) (ing : Ingress) : Ingress :=
  { ing with
    rules := exportRules exp
    annotations := match ing.annotations with
      | none => some (ingressAnnotations exp)
      | some annotations => some (GoMap.merge annotations (some (ingressAnnotations exp))) }

def samePath (rule : ServiceExportRule) (path : HTTPIngressPath) : Bool :=
  path.path == rule.path && path.pathType == rule.pathType

/-- The scan ends at the first path that a rule of the export repeats; a rule of an Ingress without
HTTP paths dereferences nil. -/
def conflictingPath (exp : ServiceExport) (ingList : List Ingress) :
    Except String (Option (HTTPIngressPath × Ingress)) :=
  exp.spec.rules.findSomeM? fun er => ingList.findSomeM? fun ing =>
    if isControlledBy ing exp then pure none
    else ing.rules.findSomeM? fun rule =>
      match rule.http with
      | none => .error "invalid memory address or nil pointer dereference"
      | some paths => pure ((paths.find? (samePath er)).map fun path => (path, ing))

inductive Outcome where
  | ok
  | failed (error : ApiError)
  | panicked (message : String)
  deriving DecidableEq, Repr

/-- The code of the reconciler. -/
abbrev Exporting := Program ExportCall ExportCall.Answer

namespace ServiceExportReconciler

/-- The reconciler depends on the hash of a spec. -/
structure Settings where
  hash : ServiceExportSpec → UInt64

def Settings.simpleHash (settings : Settings) (spec : ServiceExportSpec) : String :=
  Strings.hex (settings.hash spec)

def request (call : ExportCall) : Exporting call.Answer := Program.perform call

def withValid (exp : ServiceExport) (status : ConditionStatus) (reason message : String) :
    ServiceExport :=
  { exp with
    conditions := Conditions.setStatusCondition exp.conditions {
      type := SvcExp.serviceExportValid
      status := status
      reason := reason
      message := message } }

/-- Every report writes the condition and returns the error of the write before its own result. -/
def report (exp : Versioned ServiceExport) (status : ConditionStatus) (reason message : String)
    (result : Outcome) : Exporting Outcome := do
  match ← request (.updateStatus { exp with object := withValid exp.object status reason message }) with
  | .error error => pure (.failed error)
  | .ok _ => pure result

def nonexistService (req : NamespacedName) (exp : Versioned ServiceExport) : Exporting Outcome :=
  report exp .false "Failed" ("Service " ++ req.string ++ " not found") .ok

def failedGetService (req : NamespacedName) (exp : Versioned ServiceExport) (error : ApiError) :
    Exporting Outcome :=
  report exp .false "Failed" ("Get Service " ++ req.string ++ " error: " ++ error.message) .ok

def deletedService (req : NamespacedName) (exp : Versioned ServiceExport) : Exporting Outcome :=
  report exp .false "Failed" ("Service " ++ req.string ++ " is being deleted.") .ok

def unsupportedServiceType (req : NamespacedName) (exp : Versioned ServiceExport) :
    Exporting Outcome :=
  report exp .false "Failed" ("Type of Service " ++ req.string ++ " is " ++
    ServiceType.externalName.string ++ ", cannot be exported.") .ok

/-- The error of the list is returned, so that the request is tried again. -/
def failedListIngresses (exp : Versioned ServiceExport) (error : ApiError) : Exporting Outcome :=
  report exp .false "Failed" ("Get Ingress List error: " ++ error.message) (.failed error)

def pathConflicts (exp : Versioned ServiceExport) (path : HTTPIngressPath) (ing : Ingress) :
    Exporting Outcome :=
  report exp .false "Failed" ("The path " ++ quoted path.path ++ " has been defined in Ingress " ++
    ing.ns ++ "/" ++ ing.name) .ok

def successExport (req : NamespacedName) (exp : Versioned ServiceExport) : Exporting Outcome :=
  report exp .true "Success" ("Service " ++ req.string ++ " is exported successfully.") .ok

def writeIngress (req : NamespacedName) (exp : Versioned ServiceExport)
    (ing : Versioned Ingress) : Exporting Outcome := do
  match ← request (.updateIngress { ing with object := updatedIngress exp.object ing.object }) with
  | .error error => pure (.failed error)
  | .ok _ => successExport req exp

/-- The hash is written to the export before the Ingress is updated. -/
def updateIngress (settings : Settings) (req : NamespacedName) (exp : Versioned ServiceExport)
    (ing : Versioned Ingress) : Exporting Outcome := do
  let hash := settings.simpleHash exp.object.spec
  if exp.object.exportHash ≠ hash then
    match ← request (.updateExport { exp with object := exp.object.withExportHash hash }) with
    | .error error => pure (.failed error)
    | .ok exp => writeIngress req exp ing
  else successExport req exp

def exportIngress (settings : Settings) (req : NamespacedName) (exp : Versioned ServiceExport) :
    Exporting Outcome := do
  match ← request (.getIngress (ingressKey exp.object.key)) with
  | .error .notFound =>
      match ← request (.createIngress (setControllerReference exp.object (newIngress exp.object))) with
      | .error error => pure (.failed error)
      | .ok _ => successExport req exp
  | .error error => pure (.failed error)
  | .ok ing => updateIngress settings req exp ing

/-- The list of Ingresses comes in any order. -/
def comparePaths (settings : Settings) (range : RangeOrder Ingress) (req : NamespacedName)
    (exp : Versioned ServiceExport) : Exporting Outcome := do
  match ← request .listIngresses with
  | .error error => failedListIngresses exp error
  | .ok ingList =>
      match conflictingPath exp.object (range.order 0 (ingList.map Versioned.object)) with
      | .error message => pure (.panicked message)
      | .ok (some (path, ing)) => pathConflicts exp path ing
      | .ok none => exportIngress settings req exp

def reconcile (settings : Settings) (range : RangeOrder Ingress) (req : NamespacedName) :
    Exporting Outcome := do
  match ← request (.getExport req) with
  | .error .notFound => pure .ok
  | .error error => pure (.failed error)
  | .ok exp =>
      match ← request (.getService req) with
      | .error .notFound => nonexistService req exp
      | .error error => failedGetService req exp error
      | .ok svc =>
          if svc.deletionTimestamp.isSome then deletedService req exp
          else if svc.type = .externalName then unsupportedServiceType req exp
          else comparePaths settings range req exp

end ServiceExportReconciler

/-- A request names an export; the range is the order in which its run lists the Ingresses. -/
structure ReconcileRequest where
  key : NamespacedName
  range : RangeOrder Ingress

/-- One worker reconciles one request at a time, while the users write to the cluster. -/
abbrev ExportProcess := Worker ExportStore ReconcileRequest ExportCall ExportCall.Answer Outcome

abbrev ExportStep := WorkerStep UserWrite ReconcileRequest (Option String)

namespace ExportProcess

def initial : ExportProcess := Worker.idle .empty

def machine (settings : ServiceExportReconciler.Settings) : Machine ExportProcess ExportStep :=
  Worker.machine ExportStore.apply ExportStore.serve fun request =>
    ServiceExportReconciler.reconcile settings request.range request.key

/-- These steps run a request to its end. -/
def runRequest (request : ReconcileRequest) (faults : List (Option String)) : List ExportStep :=
  .start request :: faults.map .advance

/-- The hash of a spec is the length of its paths. -/
def exampleSettings : ServiceExportReconciler.Settings :=
  ⟨fun spec => .ofNat (spec.rules.foldl (fun total rule => total + rule.path.length) 0)⟩

def exampleSpec (path : String) : ServiceExportSpec :=
  ⟨none, false, none, [⟨80, path, .pathPrefix⟩], [], ""⟩

def exampleService (key : NamespacedName) : Service :=
  { ns := key.ns, name := key.name, type := .clusterIP, ports := [] }

end ExportProcess
end ErieCanal.Export
