import ErieCanal.Construction.Kube.ApiServer

namespace ErieCanal.Kube
open Lib SvcImp

namespace ApiServer

@[simp] theorem writeServiceImport_self (server : ApiServer) (imp : ServiceImport) :
    (server.writeServiceImport imp).serviceImports imp.key =
      some { imp with resourceVersion := server.revision + 1 } := Function.update_self ..

theorem writeServiceImport_other (server : ApiServer) (imp : ServiceImport) (key : NamespacedName)
    (different : key ≠ imp.key) :
    (server.writeServiceImport imp).serviceImports key = server.serviceImports key :=
  Function.update_of_ne different _ _

@[simp] theorem removeServiceImport_self (server : ApiServer) (key : NamespacedName) :
    (server.removeServiceImport key).serviceImports key = none := Function.update_self ..

theorem removeServiceImport_other (server : ApiServer) (key other : NamespacedName)
    (different : other ≠ key) :
    (server.removeServiceImport key).serviceImports other = server.serviceImports other :=
  Function.update_of_ne different _ _

end ApiServer

namespace Fleet

/-- What the change of one server keeps, it keeps of every server of the fleet. -/
theorem update_keeps {fleet : Fleet} {cluster : String} {server : ApiServer}
    (relation : ApiServer → ApiServer → Prop) (unchanged : ∀ server, relation server server)
    (changed : relation (fleet cluster) server) (other : String) :
    relation (fleet other) (Function.update fleet cluster server other) := by
  by_cases same : other = cluster
  · subst same
    rwa [Function.update_self]
  · rw [Function.update_of_ne same]
    exact unchanged _

variable (fleet : Fleet) (cluster : String) (fault : Option String)

/-- Every call but an import write keeps the imports and the services of every cluster. -/
theorem serve_keeps_imports (call : ApiCall) (quiet : call.writesImport = false) (other : String) :
    let final := (fleet.serve ⟨cluster, call⟩ fault).2
    (final other).serviceImports = (fleet other).serviceImports ∧
      (final other).services = (fleet other).services ∧
      (fleet other).revision ≤ (final other).revision := by
  cases fault with
  | some message => exact ⟨rfl, rfl, Nat.le_refl _⟩
  | none =>
      have kept : ((fleet cluster).serve call).2.serviceImports = (fleet cluster).serviceImports ∧
          ((fleet cluster).serve call).2.services = (fleet cluster).services ∧
          (fleet cluster).revision ≤ ((fleet cluster).serve call).2.revision := by
        cases call with
        | createNamespace name =>
            simp only [ApiServer.serve]
            split <;> exact ⟨rfl, rfl, Nat.le_refl _⟩
        | getServiceImport key => exact ⟨rfl, rfl, Nat.le_refl _⟩
        | getService key => exact ⟨rfl, rfl, Nat.le_refl _⟩
        | getServiceExport key => exact ⟨rfl, rfl, Nat.le_refl _⟩
        | updateServiceExportStatus svcExp =>
            simp only [ApiServer.serve, ApiServer.updateServiceExportStatus]
            split
            · exact ⟨rfl, rfl, Nat.le_refl _⟩
            · split
              · exact ⟨rfl, rfl, Nat.le_refl _⟩
              · exact ⟨rfl, rfl, Nat.le_succ _⟩
        | createServiceImport imp => cases quiet
        | updateServiceImport imp => cases quiet
        | deleteServiceImport key => cases quiet
      exact update_keeps (fun before after => after.serviceImports = before.serviceImports ∧
        after.services = before.services ∧ before.revision ≤ after.revision)
        (fun _ => ⟨rfl, rfl, Nat.le_refl _⟩) kept other

/-- A creation fails without effect or stores the import under a free key. -/
theorem serve_createServiceImport (imp : ServiceImport) :
    let served := fleet.serve ⟨cluster, .createServiceImport imp⟩ fault
    (∃ error, served = (.error error, fleet)) ∨
      (fleet cluster).serviceImports imp.key = none ∧
        served = (.ok { imp with resourceVersion := (fleet cluster).revision + 1 },
          Function.update fleet cluster ((fleet cluster).writeServiceImport imp)) := by
  cases fault with
  | some message => exact Or.inl ⟨_, rfl⟩
  | none =>
      simp only [serve, ApiServer.serve, ApiServer.createServiceImport]
      split
      · exact Or.inl ⟨_, by rw [Function.update_eq_self]⟩
      · split
        · exact Or.inl ⟨_, by rw [Function.update_eq_self]⟩
        · next free => exact Or.inr ⟨free, rfl⟩

/-- A read fails, misses or returns the stored import. -/
theorem serve_getServiceImport (key : NamespacedName) :
    let served := fleet.serve ⟨cluster, .getServiceImport key⟩ fault
    (∃ message, served = (.error (.other message), fleet)) ∨
      (fleet cluster).serviceImports key = none ∧ served = (.error .notFound, fleet) ∨
      ∃ imp, (fleet cluster).serviceImports key = some imp ∧ served = (.ok imp, fleet) := by
  cases fault with
  | some message => exact Or.inl ⟨message, rfl⟩
  | none =>
      right
      simp only [serve, ApiServer.serve, Function.update_eq_self]
      cases (fleet cluster).serviceImports key with
      | none => exact Or.inl ⟨rfl, rfl⟩
      | some imp => exact Or.inr ⟨imp, rfl, rfl⟩

/-- A read fails, misses or returns the stored service. -/
theorem serve_getService (key : NamespacedName) :
    let served := fleet.serve ⟨cluster, .getService key⟩ fault
    (∃ message, fault = some message ∧ served = (.error (.other message), fleet)) ∨
      (fleet cluster).services key = none ∧ served = (.error .notFound, fleet) ∨
      ∃ svc, (fleet cluster).services key = some svc ∧ served = (.ok svc, fleet) := by
  cases fault with
  | some message => exact Or.inl ⟨message, rfl, rfl⟩
  | none =>
      right
      simp only [serve, ApiServer.serve, Function.update_eq_self]
      cases (fleet cluster).services key with
      | none => exact Or.inl ⟨rfl, rfl⟩
      | some svc => exact Or.inr ⟨svc, rfl, rfl⟩

/-- An update fails without effect or replaces an import of the same resource version. -/
theorem serve_updateServiceImport (imp : ServiceImport) :
    let served := fleet.serve ⟨cluster, .updateServiceImport imp⟩ fault
    (∃ error, served = (.error error, fleet)) ∨
      ∃ stored, (fleet cluster).serviceImports imp.key = some stored ∧
        imp.resourceVersion = stored.resourceVersion ∧
        (imp = stored ∧ served = (.ok stored, fleet) ∨
          served = (.ok { imp with resourceVersion := (fleet cluster).revision + 1 },
            Function.update fleet cluster ((fleet cluster).writeServiceImport imp))) := by
  cases fault with
  | some message => exact Or.inl ⟨_, rfl⟩
  | none =>
      simp only [serve, ApiServer.serve, ApiServer.updateServiceImport]
      split
      · exact Or.inl ⟨_, by rw [Function.update_eq_self]⟩
      · next stored found =>
          split
          · exact Or.inl ⟨_, by rw [Function.update_eq_self]⟩
          · next current =>
              refine Or.inr ⟨stored, found, not_not.mp current, ?_⟩
              split
              · next unchanged => exact Or.inl ⟨unchanged, by rw [Function.update_eq_self]⟩
              · exact Or.inr rfl

/-- A deletion fails without effect or removes a stored import. -/
theorem serve_deleteServiceImport (key : NamespacedName) :
    let served := fleet.serve ⟨cluster, .deleteServiceImport key⟩ fault
    (∃ error, served = (.error error, fleet)) ∨
      (∃ stored, (fleet cluster).serviceImports key = some stored) ∧
        served = (.ok (),
          Function.update fleet cluster ((fleet cluster).removeServiceImport key)) := by
  cases fault with
  | some message => exact Or.inl ⟨_, rfl⟩
  | none =>
      simp only [serve, ApiServer.serve, ApiServer.deleteServiceImport]
      split
      · exact Or.inl ⟨_, by rw [Function.update_eq_self]⟩
      · next stored found => exact Or.inr ⟨⟨stored, found⟩, rfl⟩

end Fleet
end ErieCanal.Kube
