import ErieCanal.Proof.Export.EffectiveExports

namespace ErieCanal.Export
open Lib Lib.Program Kube CoreV1 NetworkingV1 ServiceExportReconciler

/-- The scan visits these rules for every rule of the export. -/
def foreignRules (exp : ServiceExport) (ingList : List Ingress) : List (Ingress × IngressRule) :=
  (ingList.filter fun ing => !isControlledBy ing exp).flatMap fun ing =>
    ing.rules.map fun rule => (ing, rule)

def repeats (er : ServiceExportRule) (rule : IngressRule) : Bool :=
  (rule.http.getD []).any (samePath er)

/-- An HTTP path of an Ingress that the export does not control equals one of its rules. -/
def Conflicts (exp : ServiceExport) (ingList : List Ingress) : Prop :=
  ∃ er ∈ exp.spec.rules, ∃ ing ∈ ingList, isControlledBy ing exp = false ∧
    ∃ rule ∈ ing.rules, ∃ paths, rule.http = some paths ∧
      ∃ path ∈ paths, path.path = er.path ∧ path.pathType = er.pathType

/-- The scan for the first rule of the export reaches these rules before it finds a conflict. -/
def reachedRules (exp : ServiceExport) (ingList : List Ingress) : List (Ingress × IngressRule) :=
  match exp.spec.rules with
  | [] => []
  | er :: _ => (foreignRules exp ingList).takeWhile fun visited => !repeats er visited.2

/-- One visit of the scan. -/
def visitRule (er : ServiceExportRule) (visited : Ingress × IngressRule) :
    Except String (Option (HTTPIngressPath × Ingress)) :=
  match visited.2.http with
  | none => .error "invalid memory address or nil pointer dereference"
  | some paths => .ok ((paths.find? (samePath er)).map fun path => (path, visited.1))

section Scan
variable {exp : ServiceExport} {ingList : List Ingress} {er : ServiceExportRule}

theorem findSomeM_uncontrolled (er : ServiceExportRule) :
    (foreignRules exp ingList).findSomeM? (visitRule er) = ingList.findSomeM? fun ing =>
      if isControlledBy ing exp then pure none
      else ing.rules.findSomeM? fun rule => visitRule er (ing, rule) := by
  rw [foreignRules, findSomeM_flatMap]
  induction ingList with
  | nil => rfl
  | cons ing rest ih =>
      rw [findSomeM_cons]
      cases controlled : isControlledBy ing exp with
      | true =>
          rw [List.filter_cons_of_neg (by simp [controlled]), ih]
          rfl
      | false =>
          rw [List.filter_cons_of_pos (by simp [controlled]), findSomeM_cons, findSomeM_map, ih]
          rfl

/-- The four loops visit the foreign rules once for each rule of the export. -/
theorem conflictingPath_eq (exp : ServiceExport) (ingList : List Ingress) :
    conflictingPath exp ingList =
      exp.spec.rules.findSomeM? fun er => (foreignRules exp ingList).findSomeM? (visitRule er) := by
  unfold conflictingPath
  congr 1
  funext er
  rw [findSomeM_uncontrolled]
  rfl

theorem mem_foreignRules {visited : Ingress × IngressRule} :
    visited ∈ foreignRules exp ingList ↔
      visited.1 ∈ ingList ∧ isControlledBy visited.1 exp = false ∧ visited.2 ∈ visited.1.rules := by
  obtain ⟨ing, rule⟩ := visited
  simp only [foreignRules, List.mem_flatMap, List.mem_filter, List.mem_map, Prod.mk.injEq,
    Bool.not_eq_true']
  constructor
  · rintro ⟨_, ⟨listed, other⟩, _, within, rfl, rfl⟩
    exact ⟨listed, other, within⟩
  · rintro ⟨listed, other, within⟩
    exact ⟨ing, ⟨listed, other⟩, rule, within, rfl, rfl⟩

theorem repeats_iff {rule : IngressRule} :
    repeats er rule = true ↔ ∃ paths, rule.http = some paths ∧
      ∃ path ∈ paths, path.path = er.path ∧ path.pathType = er.pathType := by
  cases present : rule.http <;> simp [repeats, samePath, present]

theorem conflicts_iff :
    Conflicts exp ingList ↔ ∃ er ∈ exp.spec.rules, ∃ visited ∈ foreignRules exp ingList,
      repeats er visited.2 = true := by
  constructor
  · rintro ⟨er, exported, ing, listed, other, rule, within, conflict⟩
    exact ⟨er, exported, (ing, rule), mem_foreignRules.mpr ⟨listed, other, within⟩,
      repeats_iff.mpr conflict⟩
  · rintro ⟨er, exported, ⟨ing, rule⟩, visited, conflict⟩
    obtain ⟨listed, other, within⟩ := mem_foreignRules.mp visited
    exact ⟨er, exported, ing, listed, other, rule, within, repeats_iff.mp conflict⟩

/-- A visit finds nothing at a rule that has HTTP paths, none of which repeats the export. -/
theorem visitRule_eq_none {visited : Ingress × IngressRule} :
    visitRule er visited = .ok none ↔
      visited.2.http.isSome = true ∧ repeats er visited.2 = false := by
  cases present : visited.2.http <;> simp [visitRule, repeats, present]

theorem repeats_of_visitRule {visited : Ingress × IngressRule} {hit : HTTPIngressPath × Ingress}
    (found : visitRule er visited = .ok (some hit)) : repeats er visited.2 = true := by
  cases present : visited.2.http with
  | none => simp [visitRule, present] at found
  | some paths =>
      simp only [visitRule, present, Except.ok.injEq, Option.map_eq_some_iff] at found
      obtain ⟨path, first, _⟩ := found
      rw [repeats, present, Option.getD_some, List.any_eq_true]
      exact ⟨path, List.mem_of_find?_eq_some first, List.find?_some first⟩

/-- A scan that completes reports a conflict exactly when there is one. -/
theorem isSome_scan_iff {result : Option (HTTPIngressPath × Ingress)}
    (completed : conflictingPath exp ingList = .ok result) :
    result.isSome = true ↔ Conflicts exp ingList := by
  rw [conflictingPath_eq] at completed
  rw [conflicts_iff]
  cases result with
  | none =>
      refine iff_of_false (by simp) ?_
      rintro ⟨er, exported, visited, within, conflict⟩
      have passed := (findSomeM_eq_none _ _).mp completed er exported
      have silent := visitRule_eq_none.mp ((findSomeM_eq_none _ _).mp passed visited within)
      simp [conflict] at silent
  | some hit =>
      refine iff_of_true rfl ?_
      obtain ⟨er, exported, scanned⟩ := findSomeM_eq_some _ completed
      obtain ⟨visited, within, found⟩ := findSomeM_eq_some _ scanned
      exact ⟨er, exported, visited, within, repeats_of_visitRule found⟩

/-- The scan for one rule completes when it reaches no rule without HTTP paths. -/
theorem scan_isOk_iff (er : ServiceExportRule) (visits : List (Ingress × IngressRule)) :
    (∃ result, visits.findSomeM? (visitRule er) = .ok result) ↔
      ∀ visited ∈ visits.takeWhile fun visited => !repeats er visited.2,
        visited.2.http.isSome = true := by
  induction visits with
  | nil => simp [List.findSomeM?, pure, Except.pure]
  | cons visited rest ih =>
      rw [findSomeM_cons]
      cases present : visited.2.http with
      | none => simp [visitRule, repeats, present, Except.bind]
      | some paths =>
          cases conflict : repeats er visited.2 with
          | true =>
              have found : (paths.find? (samePath er)).isSome = true := by
                rw [List.find?_isSome]
                simpa [repeats, present] using conflict
              obtain ⟨path, first⟩ := Option.isSome_iff_exists.mp found
              simp [visitRule, present, first, Except.bind, conflict]
          | false =>
              have passed : visitRule er visited = .ok none :=
                visitRule_eq_none.mpr ⟨by rw [present]; rfl, conflict⟩
              rw [passed, List.takeWhile_cons_of_pos (by simp [conflict])]
              simpa [Except.bind, present] using ih

end Scan

/-- The scan completes and is exact, exactly when for the first rule of the export it finds a
conflict before the first foreign rule without HTTP paths, or there is no such rule. -/
theorem scan_exact_iff (exp : ServiceExport) (ingList : List Ingress) :
    (∃ result, conflictingPath exp ingList = .ok result ∧
        (result.isSome = true ↔ Conflicts exp ingList)) ↔
      ∀ visited ∈ reachedRules exp ingList, visited.2.http.isSome = true := by
  have exact_of_ok : (∃ result, conflictingPath exp ingList = .ok result ∧
      (result.isSome = true ↔ Conflicts exp ingList)) ↔
      ∃ result, conflictingPath exp ingList = .ok result :=
    exists_congr fun result => and_iff_left_of_imp isSome_scan_iff
  rw [exact_of_ok, conflictingPath_eq, reachedRules]
  cases exp.spec.rules with
  | nil => simp [List.findSomeM?, pure, Except.pure]
  | cons er rest =>
      rw [← scan_isOk_iff, findSomeM_cons]
      cases first : (foreignRules exp ingList).findSomeM? (visitRule er) with
      | error error => simp [Except.bind]
      | ok result =>
          refine iff_of_true ?_ ⟨result, rfl⟩
          cases result with
          | some hit => exact ⟨some hit, rfl⟩
          | none =>
              -- Every foreign rule has HTTP paths, so that the other scans complete as well.
              have silent := (findSomeM_eq_none _ _).mp first
              refine findSomeM_isOk _ fun later _ => (scan_isOk_iff later _).mpr ?_
              intro visited within
              have reached := (List.takeWhile_sublist _).subset within
              exact (visitRule_eq_none.mp (silent visited reached)).1

namespace ExportProcess

/-- A user may write an Ingress rule that has a host and no HTTP paths. -/
def hostOnlyIngress : Ingress where
  ns := "default"
  name := "fallback"
  annotations := none
  ingressClassName := none
  tls := []
  rules := [⟨"example.org", none⟩]

/-- The Ingress, an export and its Service are written, then the export is reconciled. -/
def hostOnlyRun : List ExportStep :=
  [.client (.writeIngress hostOnlyIngress),
    .client (.createExport exampleKey none (exampleSpec "/a")),
    .client (.writeService (exampleService exampleKey))] ++
  runRequest exampleRequest [none, none, none]

/-- The rule crashes the reconciliation of an export that has nothing to do with it. -/
theorem run_crashes : ∃ final, (machine exampleSettings).run initial hostOnlyRun = some final ∧
    final.completed = some (exampleRequest,
      .panicked "invalid memory address or nil pointer dereference") :=
  ⟨_, rfl, rfl⟩

end ExportProcess
end ErieCanal.Export
