import ErieCanal.Construction.Apis
import ErieCanal.Lib.Program
import ErieCanal.Lib.Registry

namespace ErieCanal.Kube
open Lib CoreV1 SvcExp SvcImp

/-- The code distinguishes these error reasons of the API server. -/
inductive ApiError where
  | alreadyExists
  | notFound
  | conflict
  | other (message : String)
  deriving DecidableEq, Repr

def ApiError.message : ApiError → String
  | .alreadyExists => "already exists"
  | .notFound => "not found"
  | .conflict => "the object has been modified"
  | .other message => message

def ApiError.ofRefusal : Refusal → ApiError
  | .taken => .alreadyExists
  | .missing => .notFound
  | .outdated => .conflict

/-- One cluster's API server holds the objects that the connectors read and write.
Each import is stored under its own key and is not newer than the store. -/
structure ApiServer where
  namespaces : String → Bool
  services : NamespacedName → Option Service
  serviceExports : NamespacedName → Option ServiceExport
  serviceImports : NamespacedName → Option ServiceImport
  revision : Nat
  keyed : ∀ key imp, serviceImports key = some imp → imp.key = key
  dated : ∀ key imp, serviceImports key = some imp → imp.resourceVersion ≤ revision

inductive ApiCall where
  | createNamespace (name : String)
  | createServiceImport (imp : ServiceImport)
  | getServiceImport (key : NamespacedName)
  | updateServiceImport (imp : ServiceImport)
  | deleteServiceImport (key : NamespacedName)
  | getService (key : NamespacedName)
  | getServiceExport (key : NamespacedName)
  | updateServiceExportStatus (svcExp : ServiceExport)

/-- These calls can change an import. -/
def ApiCall.writesImport : ApiCall → Bool
  | .createServiceImport _ | .updateServiceImport _ | .deleteServiceImport _ => true
  | _ => false

@[reducible] def ApiCall.Result : ApiCall → Type
  | .createNamespace _ => Unit
  | .createServiceImport _ => ServiceImport
  | .getServiceImport _ => ServiceImport
  | .updateServiceImport _ => ServiceImport
  | .deleteServiceImport _ => Unit
  | .getService _ => Service
  | .getServiceExport _ => ServiceExport
  | .updateServiceExportStatus _ => ServiceExport

namespace ApiServer

/-- A new server holds the default namespace only. -/
def empty : ApiServer where
  namespaces := fun name => name == "default"
  services := fun _ => none
  serviceExports := fun _ => none
  serviceImports := fun _ => none
  revision := 0
  keyed := fun _ _ found => nomatch found
  dated := fun _ _ found => nomatch found

def present {A : Type} : Option A → Except ApiError A
  | some object => .ok object
  | none => .error .notFound

/-- A write stores the import under a new revision. -/
def writeServiceImport (server : ApiServer) (imp : ServiceImport) : ApiServer :=
  { server with
    serviceImports := Function.update server.serviceImports imp.key
      (some { imp with resourceVersion := server.revision + 1 })
    revision := server.revision + 1
    keyed := by
      intro key stored found
      by_cases same : key = imp.key
      · subst same
        rw [Function.update_self, Option.some.injEq] at found
        subst found
        rfl
      · rw [Function.update_of_ne same] at found
        exact server.keyed key stored found
    dated := by
      intro key stored found
      by_cases same : key = imp.key
      · subst same
        rw [Function.update_self, Option.some.injEq] at found
        subst found
        exact Nat.le_refl _
      · rw [Function.update_of_ne same] at found
        exact Nat.le_succ_of_le (server.dated key stored found) }

/-- A removal also takes a new revision. -/
def removeServiceImport (server : ApiServer) (key : NamespacedName) : ApiServer :=
  { server with
    serviceImports := Function.update server.serviceImports key none
    revision := server.revision + 1
    keyed := by
      intro other stored found
      by_cases same : other = key
      · rw [same, Function.update_self] at found
        cases found
      · rw [Function.update_of_ne same] at found
        exact server.keyed other stored found
    dated := by
      intro other stored found
      by_cases same : other = key
      · rw [same, Function.update_self] at found
        cases found
      · rw [Function.update_of_ne same] at found
        exact Nat.le_succ_of_le (server.dated other stored found) }

def createServiceImport (server : ApiServer) (imp : ServiceImport) :
    Except ApiError ServiceImport × ApiServer :=
  if !server.namespaces imp.ns then (.error .notFound, server)
  else match server.serviceImports imp.key with
    | some _ => (.error .alreadyExists, server)
    | none =>
        (.ok { imp with resourceVersion := server.revision + 1 }, server.writeServiceImport imp)

/-- An update needs the stored resource version; an update without a change is not written. -/
def updateServiceImport (server : ApiServer) (imp : ServiceImport) :
    Except ApiError ServiceImport × ApiServer :=
  match server.serviceImports imp.key with
  | none => (.error .notFound, server)
  | some stored =>
      if imp.resourceVersion ≠ stored.resourceVersion then (.error .conflict, server)
      else if imp = stored then (.ok stored, server)
      else (.ok { imp with resourceVersion := server.revision + 1 }, server.writeServiceImport imp)

/-- A deletion removes the import at once, because no finalizer holds it. -/
def deleteServiceImport (server : ApiServer) (key : NamespacedName) :
    Except ApiError Unit × ApiServer :=
  match server.serviceImports key with
  | none => (.error .notFound, server)
  | some _ => (.ok (), server.removeServiceImport key)

def updateServiceExportStatus (server : ApiServer) (svcExp : ServiceExport) :
    Except ApiError ServiceExport × ApiServer :=
  match server.serviceExports svcExp.key with
  | none => (.error .notFound, server)
  | some stored =>
      if svcExp.resourceVersion ≠ stored.resourceVersion then (.error .conflict, server)
      else
        let updated := { stored with
          conditions := svcExp.conditions, resourceVersion := server.revision + 1 }
        (.ok updated, { server with
          serviceExports := Function.update server.serviceExports svcExp.key (some updated)
          revision := server.revision + 1
          dated := fun key imp found => Nat.le_succ_of_le (server.dated key imp found) })

def serve (server : ApiServer) : (call : ApiCall) → Except ApiError call.Result × ApiServer
  | .createNamespace name =>
      if server.namespaces name then (.error .alreadyExists, server)
      else (.ok (), { server with namespaces := Function.update server.namespaces name true })
  | .createServiceImport imp => server.createServiceImport imp
  | .getServiceImport key => (present (server.serviceImports key), server)
  | .updateServiceImport imp => server.updateServiceImport imp
  | .deleteServiceImport key => server.deleteServiceImport key
  | .getService key => (present (server.services key), server)
  | .getServiceExport key => (present (server.serviceExports key), server)
  | .updateServiceExportStatus svcExp => server.updateServiceExportStatus svcExp

end ApiServer

/-- The control plane talks to the API server of every cluster. -/
abbrev Fleet := String → ApiServer

structure Request where
  cluster : String
  call : ApiCall

@[reducible] def Request.Answer (request : Request) : Type :=
  Except ApiError request.call.Result

/-- A fault answers the call with some other error and leaves the server unchanged. -/
def Fleet.serve (fleet : Fleet) (request : Request) (fault : Option String) :
    request.Answer × Fleet :=
  match fault with
  | some message => (.error (.other message), fleet)
  | none =>
      let served := (fleet request.cluster).serve request.call
      (served.1, Function.update fleet request.cluster served.2)

/-- Code that talks to the API servers. -/
abbrev Api := Program Request Request.Answer

/-- This program asks one cluster's API server. -/
def ask (cluster : String) (call : ApiCall) : Api (Except ApiError call.Result) :=
  Program.perform (⟨cluster, call⟩ : Request)

abbrev Api.execute {A : Type} (program : Api A) (faults : Nat → Option String) (fleet : Fleet) :
    A × Fleet := Program.execute Fleet.serve program faults fleet

end ErieCanal.Kube
