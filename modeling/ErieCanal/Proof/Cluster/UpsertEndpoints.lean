import ErieCanal.Construction.Cluster.RemoteConnector
import Mathlib.Data.List.Induction

namespace ErieCanal.Cluster
open Lib Kube Event SvcExp SvcImp

/-- The rules of one port number, in the order of the export. -/
def rulesOf (event : ServiceExportEvent) (port : Int) : List ServiceExportRule :=
  event.serviceExport.rules.filter fun r => r.portNumber = port

/-- The endpoints of one cluster on a port, in the order of the import. -/
def endpointsOf (p : ServicePort) (clusterKey : String) : List Endpoint :=
  p.endpoints.filter fun ep => ep.clusterKey = clusterKey

theorem rulesOf_eq_nil (event : ServiceExportEvent) (port : Int) :
    rulesOf event port = [] ↔ ∀ r ∈ event.serviceExport.rules, r.portNumber ≠ port := by
  simp [rulesOf]

theorem endpointsOf_getLast_mem {p : ServicePort} {clusterKey : String} {ep : Endpoint}
    (last : (endpointsOf p clusterKey).getLast? = some ep) :
    ep ∈ p.endpoints ∧ ep.clusterKey = clusterKey := by
  have member := List.mem_of_getLast? last
  simpa [endpointsOf] using member

@[simp] theorem ruleEndpoint_clusterKey (event : ServiceExportEvent) (r : ServiceExportRule) :
    (ruleEndpoint event r).clusterKey = event.clusterKey := rfl

/-- On a port without endpoints every matching rule adds one endpoint. -/
theorem upsertEndpoints_of_empty (event : ServiceExportEvent) (range : RangeOrder Endpoint)
    (idx : Nat) (p : ServicePort) (empty : p.endpoints = []) :
    upsertEndpoints event range idx p = (rulesOf event p.port).map (ruleEndpoint event) := by
  have loop (rules : List ServiceExportRule) (endpoints : List Endpoint) :
      rules.foldl (fun endpoints r =>
        if r.portNumber = p.port then endpoints ++ [ruleEndpoint event r] else endpoints) endpoints =
      endpoints ++ (rules.filter fun r => r.portNumber = p.port).map (ruleEndpoint event) := by
    induction rules generalizing endpoints with
    | nil => simp
    | cons r rest ih =>
        rw [List.foldl_cons, ih]
        by_cases same : r.portNumber = p.port <;> simp [same]
  rw [upsertEndpoints, if_pos (by simp [empty]), loop, List.nil_append, rulesOf]

/-- One matching rule copies the existing endpoints and then stores the exporter's own. -/
def copyAndInsert (event : ServiceExportEvent) (p : ServicePort) (epMap : GoMap String Endpoint)
    (r : ServiceExportRule) : GoMap String Endpoint :=
  (GoMap.insertAll Endpoint.clusterKey p.endpoints epMap).insert event.clusterKey
    (ruleEndpoint event r)

/-- The last rule decides the exporter's entry; the last endpoint decides every other entry. -/
theorem lookup_foldl_copyAndInsert (event : ServiceExportEvent) (p : ServicePort)
    (rules : List ServiceExportRule) (query : String) :
    (rules.foldl (copyAndInsert event p) ∅).lookup query =
      rules.getLast?.bind fun r =>
        if query = event.clusterKey then some (ruleEndpoint event r)
        else (endpointsOf p query).getLast? := by
  induction rules using List.reverseRecOn with
  | nil => simp
  | append_singleton rules r ih =>
      rw [List.foldl_append, List.foldl_cons, List.foldl_nil, List.getLast?_concat, Option.bind_some,
        copyAndInsert]
      by_cases own : query = event.clusterKey
      · rw [own, AList.lookup_insert, if_pos rfl]
      · rw [AList.lookup_insert_ne own, GoMap.lookup_insertAll, ih, if_neg own, endpointsOf]
        cases rules.getLast? with
        | none => simp
        | some other => rw [Option.bind_some, if_neg own, Option.or_self]

/-- On a port with endpoints the matching rules fill one map, and its values are listed. -/
theorem upsertEndpoints_of_filled (event : ServiceExportEvent) (range : RangeOrder Endpoint)
    (idx : Nat) (p : ServicePort) (filled : p.endpoints ≠ []) :
    upsertEndpoints event range idx p = range.order idx
      (GoMap.values ((rulesOf event p.port).foldl (copyAndInsert event p) ∅)) := by
  have loop (rules : List ServiceExportRule) (epMap : GoMap String Endpoint) :
      rules.foldl (fun epMap r =>
        if r.portNumber = p.port then copyAndInsert event p epMap r else epMap) epMap =
      (rules.filter fun r => r.portNumber = p.port).foldl (copyAndInsert event p) epMap := by
    induction rules generalizing epMap with
    | nil => rfl
    | cons r rest ih =>
        rw [List.foldl_cons, ih]
        by_cases same : r.portNumber = p.port <;> simp [same]
  rw [upsertEndpoints, if_neg (by simpa using filled), rulesOf, ← loop]
  rfl

/-- On a port with endpoints the result needs a matching rule; the last such rule gives the
exporter's endpoint, and every other cluster keeps the last of its endpoints. -/
theorem mem_upsertEndpoints (event : ServiceExportEvent) (range : RangeOrder Endpoint)
    (idx : Nat) (p : ServicePort) (filled : p.endpoints ≠ []) (ep : Endpoint) :
    ep ∈ upsertEndpoints event range idx p ↔
      ∃ r, (rulesOf event p.port).getLast? = some r ∧
        (ep = ruleEndpoint event r ∨
          ep.clusterKey ≠ event.clusterKey ∧ (endpointsOf p ep.clusterKey).getLast? = some ep) := by
  rw [upsertEndpoints_of_filled event range idx p filled, RangeOrder.mem_order, GoMap.mem_values]
  simp only [lookup_foldl_copyAndInsert, Option.bind_eq_some_iff]
  constructor
  · rintro ⟨query, r, last, found⟩
    refine ⟨r, last, ?_⟩
    by_cases own : query = event.clusterKey
    · rw [if_pos own, Option.some.injEq] at found
      exact Or.inl found.symm
    · rw [if_neg own] at found
      have same := (endpointsOf_getLast_mem found).2
      exact Or.inr ⟨same ▸ own, same ▸ found⟩
  · rintro ⟨r, last, rfl | ⟨other, kept⟩⟩
    · exact ⟨event.clusterKey, r, last, if_pos rfl⟩
    · exact ⟨ep.clusterKey, r, last, by rw [if_neg other, kept]⟩

end ErieCanal.Cluster
