import ErieCanal.Proof.Cluster.UpsertFrame
import Mathlib.Data.List.Perm.Basic

namespace ErieCanal.Cluster
open Lib Lib.Program Kube Event SvcExp SvcImp

/-- The port without the endpoints of one cluster. -/
def stripPort (clusterKey : String) (p : ServicePort) : ServicePort :=
  { p with endpoints := p.endpoints.filter fun ep => ep.clusterKey ≠ clusterKey }

/-- The ports that still have an endpoint after the cluster's own are gone, each once. -/
def survivors (clusterKey : String) (imp : ServiceImport) : List ServicePort :=
  (imp.ports.map (stripPort clusterKey)).filter fun p => p.endpoints ≠ []

theorem mem_survivors (clusterKey : String) (imp : ServiceImport) (q : ServicePort) :
    q ∈ survivors clusterKey imp ↔
      ∃ p ∈ imp.ports, stripPort clusterKey p = q ∧ ∃ ep ∈ p.endpoints, ep.clusterKey ≠ clusterKey := by
  simp only [survivors, List.mem_filter, List.mem_map, decide_eq_true_eq]
  constructor
  · rintro ⟨⟨p, member, rfl⟩, filled⟩
    refine ⟨p, member, rfl, ?_⟩
    obtain ⟨ep, kept⟩ := List.exists_mem_of_ne_nil _ filled
    obtain ⟨present, other⟩ := List.mem_filter.mp kept
    exact ⟨ep, present, by simpa using other⟩
  · rintro ⟨p, member, rfl, ep, present, other⟩
    refine ⟨⟨p, member, rfl⟩, List.ne_nil_of_mem (a := ep) ?_⟩
    exact List.mem_filter.mpr ⟨present, by simpa using other⟩

/-- The deletion walks over the rules and keeps the survivors of each rule's number. -/
theorem withdrawPorts_eq (event : ServiceExportEvent) (imp : ServiceImport) :
    withdrawPorts event imp = event.serviceExport.rules.flatMap fun r =>
      (survivors event.clusterKey imp).filter fun p => r.portNumber = p.port := by
  have inner (r : ServiceExportRule) (ports kept : List ServicePort) :
      ports.foldl (fun ports p =>
        if r.portNumber = p.port then
          let endpoints := p.endpoints.filter fun ep => ep.clusterKey ≠ event.clusterKey
          if 0 < endpoints.length then ports ++ [{ p with endpoints }] else ports
        else ports) kept =
      kept ++ ((ports.map (stripPort event.clusterKey)).filter fun p => p.endpoints ≠ []).filter
        fun p => r.portNumber = p.port := by
    induction ports generalizing kept with
    | nil => simp
    | cons p rest ih =>
        rw [List.foldl_cons, ih, List.map_cons]
        by_cases same : r.portNumber = p.port
        · by_cases filled : (stripPort event.clusterKey p).endpoints = []
          · have none :
                ¬ 0 < (p.endpoints.filter fun ep => ep.clusterKey ≠ event.clusterKey).length := by
              simpa [stripPort] using filled
            rw [if_pos same]
            simp only [none, if_false]
            rw [List.filter_cons_of_neg (by simpa using filled)]
          · have some : 0 < (p.endpoints.filter fun ep => ep.clusterKey ≠ event.clusterKey).length :=
              List.length_pos_iff.mpr filled
            rw [if_pos same]
            simp only [some, if_true]
            rw [List.filter_cons_of_pos (by simpa using filled),
              List.filter_cons_of_pos (by simpa [stripPort] using same), List.append_assoc]
            rfl
        · rw [if_neg same, List.filter_cons]
          split
          · rw [List.filter_cons_of_neg (by simpa [stripPort] using same)]
          · rfl
  have outer (rules : List ServiceExportRule) (kept : List ServicePort) :
      rules.foldl (fun ports r => imp.ports.foldl (fun ports p =>
        if r.portNumber = p.port then
          let endpoints := p.endpoints.filter fun ep => ep.clusterKey ≠ event.clusterKey
          if 0 < endpoints.length then ports ++ [{ p with endpoints }] else ports
        else ports) ports) kept =
      kept ++ rules.flatMap fun r =>
        (survivors event.clusterKey imp).filter fun p => r.portNumber = p.port := by
    induction rules generalizing kept with
    | nil => simp
    | cons r rest ih =>
        rw [List.foldl_cons, inner, ih, List.flatMap_cons, ← List.append_assoc, survivors]
  rw [withdrawPorts, outer, List.nil_append]

/-- Every survivor comes back once for each rule of its number. -/
theorem count_withdrawPorts (event : ServiceExportEvent) (imp : ServiceImport) (q : ServicePort) :
    (withdrawPorts event imp).count q =
      (rulesOf event q.port).length * (survivors event.clusterKey imp).count q := by
  rw [withdrawPorts_eq, rulesOf]
  induction event.serviceExport.rules with
  | nil => simp
  | cons r rest ih =>
      rw [List.flatMap_cons, List.count_append, ih]
      by_cases same : r.portNumber = q.port
      · rw [List.count_filter (by simpa using same), List.filter_cons_of_pos (by simpa using same),
          List.length_cons, Nat.add_mul, Nat.one_mul, Nat.add_comm]
      · rw [List.count_eq_zero.mpr, Nat.zero_add, List.filter_cons_of_neg (by simpa using same)]
        intro member
        exact same (by simpa using (List.mem_filter.mp member).2)

/-- The deletion keeps every survivor once exactly when one rule names each of them. -/
theorem withdrawPorts_perm_iff (event : ServiceExportEvent) (imp : ServiceImport) :
    (withdrawPorts event imp).Perm (survivors event.clusterKey imp) ↔
      ∀ q ∈ survivors event.clusterKey imp, (rulesOf event q.port).length = 1 := by
  rw [List.perm_iff_count]
  constructor
  · intro counts q member
    have once := counts q
    rw [count_withdrawPorts] at once
    exact Nat.eq_of_mul_eq_mul_right (List.count_pos_iff.mpr member) (once.trans (Nat.one_mul _).symm)
  · intro ruled q
    rw [count_withdrawPorts]
    by_cases member : q ∈ survivors event.clusterKey imp
    · rw [ruled q member, Nat.one_mul]
    · rw [List.count_eq_zero.mpr member, Nat.mul_zero]

/-- The ports that have an endpoint. -/
def filledPorts (imp : ServiceImport) : List ServicePort :=
  imp.ports.filter fun p => p.endpoints ≠ []

/-- A deleted export is withdrawn exactly when the import keeps each surviving port once and goes
away exactly when no endpoint of another cluster was left. -/
def WithdrawnExactly (clusterKey : String) (before : ServiceImport) (after : Option ServiceImport) :
    Prop :=
  (after = none ↔ ∀ p ∈ before.ports, ∀ ep ∈ p.endpoints, ep.clusterKey = clusterKey) ∧
    ∀ imp, after = some imp → (filledPorts imp).Perm (survivors clusterKey before)

/-- One rule names each port that holds an endpoint of another cluster; an import that is already
being deleted is left alone and must hold endpoints of other clusters only. -/
def WithdrawRuled (event : ServiceExportEvent) (imp : ServiceImport) : Prop :=
  (imp.deletionTimestamp = none → ∀ p ∈ imp.ports,
    (∃ ep ∈ p.endpoints, ep.clusterKey ≠ event.clusterKey) → (rulesOf event p.port).length = 1) ∧
  (imp.deletionTimestamp ≠ none →
    (∃ p ∈ imp.ports, ∃ ep ∈ p.endpoints, ep.clusterKey ≠ event.clusterKey) ∧
      ∀ p ∈ imp.ports, ∀ ep ∈ p.endpoints, ep.clusterKey ≠ event.clusterKey)

instance (event : ServiceExportEvent) (imp : ServiceImport) : Decidable (WithdrawRuled event imp) :=
  inferInstanceAs (Decidable ((_ → ∀ p ∈ imp.ports, _) ∧ (_ → (∃ p ∈ imp.ports, _) ∧ _)))

theorem survivors_eq_nil (clusterKey : String) (imp : ServiceImport) :
    survivors clusterKey imp = [] ↔
      ∀ p ∈ imp.ports, ∀ ep ∈ p.endpoints, ep.clusterKey = clusterKey := by
  rw [List.eq_nil_iff_forall_not_mem]
  constructor
  · intro none p member ep present
    by_contra other
    exact none _ ((mem_survivors clusterKey imp _).mpr ⟨p, member, rfl, ep, present, other⟩)
  · intro own q survived
    obtain ⟨p, member, -, ep, present, other⟩ := (mem_survivors clusterKey imp q).mp survived
    exact other (own p member ep present)

theorem survivors_ruled_iff (event : ServiceExportEvent) (imp : ServiceImport) :
    (∀ q ∈ survivors event.clusterKey imp, (rulesOf event q.port).length = 1) ↔
      ∀ p ∈ imp.ports, (∃ ep ∈ p.endpoints, ep.clusterKey ≠ event.clusterKey) →
        (rulesOf event p.port).length = 1 := by
  constructor
  · intro ruled p member filled
    exact ruled (stripPort event.clusterKey p)
      ((mem_survivors _ _ _).mpr ⟨p, member, rfl, filled⟩)
  · intro ruled q survived
    obtain ⟨p, member, rfl, filled⟩ := (mem_survivors _ _ _).mp survived
    exact ruled p member filled

/-- An untouched import keeps its survivors exactly when nothing was to be withdrawn. -/
theorem filledPorts_perm_survivors_iff (clusterKey : String) (imp : ServiceImport) :
    (filledPorts imp).Perm (survivors clusterKey imp) ↔
      ∀ p ∈ imp.ports, ∀ ep ∈ p.endpoints, ep.clusterKey ≠ clusterKey := by
  constructor
  · intro same p member ep present
    have filled : p ∈ filledPorts imp :=
      List.mem_filter.mpr ⟨member, by simpa using List.ne_nil_of_mem present⟩
    obtain ⟨q, -, rfl, -⟩ := (mem_survivors _ _ _).mp (same.mem_iff.mp filled)
    simpa using (List.mem_filter.mp present).2
  · intro clean
    have unchanged : imp.ports.map (stripPort clusterKey) = imp.ports := by
      refine (List.map_congr_left fun p member => ?_).trans (List.map_id _)
      rw [stripPort, List.filter_eq_self.mpr fun ep present => by simpa using clean p member ep present]
      rfl
    rw [survivors, unchanged, filledPorts]

theorem filled_of_mem_withdrawPorts {event : ServiceExportEvent} {imp : ServiceImport}
    {q : ServicePort} (kept : q ∈ withdrawPorts event imp) : q.endpoints ≠ [] := by
  rw [withdrawPorts_eq] at kept
  obtain ⟨r, -, named⟩ := List.mem_flatMap.mp kept
  simpa using (List.mem_filter.mp (List.mem_filter.mp named).1).2

/-- A successful deletion leaves the withdrawn ports, or no import when there are none. -/
theorem deleteServiceImport_ensures (c : RemoteConnector) (event : ServiceExportEvent)
    (foreign : event.clusterKey ≠ c.context.clusterKey) (fleet : Fleet) (imp : ServiceImport)
    (present : (fleet c.context.clusterKey).serviceImports event.serviceExport.key = some imp) :
    Ensures Fleet.serve (fun answer final => answer = .ok () →
        ((final c.context.clusterKey).serviceImports event.serviceExport.key).map
            ServiceImport.ports =
          if imp.deletionTimestamp ≠ none then some imp.ports
          else if withdrawPorts event imp = [] then none
          else some (withdrawPorts event imp))
      (c.deleteServiceImport event) fleet := by
  let before (state : Fleet) : Prop :=
    (state c.context.clusterKey).serviceImports event.serviceExport.key = some imp
  have keyed : imp.key = event.serviceExport.key := (fleet _).keyed _ _ present
  refine deleteServiceImport_sound c event before foreign ?_ ?_ ?_ ?_ ?_ ?_ ?_ fleet present
  · exact fun _ => trivial
  · exact fun error final absurd => nomatch absurd
  · rintro state _ start rfl
    exact start
  · intro state start absent
    exact nomatch start.symm.trans absent
  · intro state stored start found terminating _
    obtain rfl := Option.some.inj (start.symm.trans found)
    rw [found, if_pos terminating]
    rfl
  · rintro state stored start found live filled _ current rfl reread version
    obtain rfl := Option.some.inj (start.symm.trans found)
    rw [if_neg (not_not.mpr live), if_neg filled]
    refine ⟨fun unchanged _ => ?_, trivial, fun _ => ?_⟩
    · rw [keyed] at reread
      rw [reread, ← unchanged]
      rfl
    · rw [written, Function.update_self, ← keyed]
      exact congrArg (Option.map ServiceImport.ports) (ApiServer.writeServiceImport_self _ _)
  · rintro state stored start found live empty _ current rfl reread
    obtain rfl := Option.some.inj (start.symm.trans found)
    refine ⟨trivial, fun _ => ?_⟩
    rw [if_neg (not_not.mpr live), if_pos empty, removed, Function.update_self,
      ApiServer.removeServiceImport_self]
    rfl

/-- A withdrawal that leaves ports is exact when the survivors are ruled once. -/
theorem withdrawnExactly_of_live (event : ServiceExportEvent) (stored : ServiceImport)
    (after : Option ServiceImport)
    (result : after.map ServiceImport.ports =
      if withdrawPorts event stored = [] then none else some (withdrawPorts event stored)) :
    WithdrawnExactly event.clusterKey stored after ↔
      (withdrawPorts event stored).Perm (survivors event.clusterKey stored) := by
  rw [WithdrawnExactly, ← survivors_eq_nil]
  cases after with
  | none =>
      have empty : withdrawPorts event stored = [] := by
        by_contra filled
        rw [if_neg filled] at result
        cases result
      simp only [empty, true_iff, reduceCtorEq, false_implies, implies_true, and_true]
      exact List.nil_perm.symm
  | some imp =>
      have filled : withdrawPorts event stored ≠ [] := by
        intro empty
        rw [if_pos empty] at result
        cases result
      rw [if_neg filled, Option.map_some, Option.some.injEq] at result
      have same : filledPorts imp = withdrawPorts event stored := by
        rw [filledPorts, result]
        exact List.filter_eq_self.mpr fun q kept => by simpa using filled_of_mem_withdrawPorts kept
      simp only [reduceCtorEq, false_iff, Option.some.injEq, forall_eq', same]
      refine and_iff_right_of_imp fun kept empty => filled ?_
      exact (empty ▸ kept).eq_nil

/-- A successful deletion withdraws the exporter's endpoints exactly when one rule names each port
that another cluster still uses, or when the import is being deleted and has nothing to withdraw. -/
theorem deleteServiceImport_exact_iff (c : RemoteConnector) (event : ServiceExportEvent)
    (foreign : event.clusterKey ≠ c.context.clusterKey) (fleet : Fleet) (stored : ServiceImport)
    (present : (fleet c.context.clusterKey).serviceImports event.serviceExport.key = some stored)
    (faults : Nat → Option String)
    (succeeded : ((c.deleteServiceImport event).execute faults fleet).1 = .ok ()) :
    WithdrawnExactly event.clusterKey stored
        ((((c.deleteServiceImport event).execute faults fleet).2
          c.context.clusterKey).serviceImports event.serviceExport.key) ↔
      WithdrawRuled event stored := by
  have result := (deleteServiceImport_ensures c event foreign fleet stored present).execute faults
    succeeded
  by_cases live : stored.deletionTimestamp = none
  · rw [if_neg (not_not.mpr live)] at result
    rw [withdrawnExactly_of_live event stored _ result, withdrawPorts_perm_iff, survivors_ruled_iff,
      WithdrawRuled]
    simp [live]
  · rw [if_pos live] at result
    obtain ⟨after, found, ports⟩ := Option.map_eq_some_iff.mp result
    have same : filledPorts after = filledPorts stored := by rw [filledPorts, ports, filledPorts]
    rw [show (((c.deleteServiceImport event).execute faults fleet).2
      c.context.clusterKey).serviceImports event.serviceExport.key = some after from found]
    rw [WithdrawnExactly, WithdrawRuled]
    simp only [reduceCtorEq, false_iff, Option.some.injEq, forall_eq', same, live, false_implies,
      ne_eq, not_false_eq_true, true_implies, true_and, filledPorts_perm_survivors_iff]
    simp

/-- A rule for port 80 withdraws cluster `a` and keeps the port with cluster `b`'s endpoint. -/
theorem deleteServiceImport_keeps_ruled :
    WithdrawRuled (exampleEvent "a" [⟨80, "/a"⟩]) exampleImport ∧
      WithdrawnExactly (exampleEvent "a" []).clusterKey exampleImport
        (((((exampleConnector "c").deleteServiceImport (exampleEvent "a" [⟨80, "/a"⟩])).execute
          (fun _ => none) exampleFleet).2
            (exampleConnector "c").context.clusterKey).serviceImports ⟨"default", "web"⟩) :=
  ⟨by decide, (deleteServiceImport_exact_iff (exampleConnector "c")
    (exampleEvent "a" [⟨80, "/a"⟩]) (by decide) exampleFleet exampleImport (by rfl)
    (fun _ => none) (by rfl)).mpr (by decide)⟩

/-- A deleted export that names only port 8080 takes the whole import from cluster `b`. -/
theorem deleteServiceImport_drops_unruled :
    (exampleEvent "a" [⟨8080, "/a"⟩]).clusterKey ≠ (exampleConnector "c").context.clusterKey ∧
      (exampleFleet (exampleConnector "c").context.clusterKey).serviceImports
        (exampleEvent "a" [⟨8080, "/a"⟩]).serviceExport.key = some exampleImport ∧
      (((exampleConnector "c").deleteServiceImport (exampleEvent "a" [⟨8080, "/a"⟩])).execute
        (fun _ => none) exampleFleet).1 = .ok () ∧
      ¬ WithdrawnExactly (exampleEvent "a" []).clusterKey exampleImport
        (((((exampleConnector "c").deleteServiceImport (exampleEvent "a" [⟨8080, "/a"⟩])).execute
          (fun _ => none) exampleFleet).2
            (exampleConnector "c").context.clusterKey).serviceImports ⟨"default", "web"⟩) := by
  refine ⟨by decide, by rfl, by rfl, ?_⟩
  rintro ⟨deleted, -⟩
  have own := deleted.mp (by rfl)
  exact absurd own (by decide)

end ErieCanal.Cluster
