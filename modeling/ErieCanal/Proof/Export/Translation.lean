import ErieCanal.Proof.Export.RouterPaths

namespace ErieCanal.Export
open Lib Kube CoreV1 NetworkingV1 Cache Route IngressPipy

/-- A rewrite takes effect only with both of its parts. -/
def ServiceExportSpec.rewrite (spec : ServiceExportSpec) : Option PathRewrite :=
  spec.pathRewrite.filter fun rewrite => rewrite.rewriteFrom ≠ "" ∧ rewrite.rewriteTo ≠ ""

/-- The annotations that encode the settings of an export. -/
def ServiceExportSpec.encoded (spec : ServiceExportSpec) : PipyIngressAnnotation → Option String
  | .rewriteFrom => spec.rewrite.map PathRewrite.rewriteFrom
  | .rewriteTo => spec.rewrite.map PathRewrite.rewriteTo
  | .sessionSticky => if spec.sessionSticky then some "true" else none
  | .loadBalancer => spec.loadBalancer.map LoadBalancer.string
  | _ => none

section Annotations

theorem key_injective {first second : PipyIngressAnnotation} (same : first.key = second.key) :
    first = second := by
  cases first <;> cases second <;> first | rfl | exact absurd same (by decide)

/-- An inserted annotation is found under its own name, and every other one stays. -/
theorem lookup_insert_setting (annos : GoMap String String) (name query : PipyIngressAnnotation)
    (value : String) :
    (annos.insert name.key value).lookup query.key =
      if query = name then some value else annos.lookup query.key := by
  by_cases same : query = name
  · rw [if_pos same, same, AList.lookup_insert]
  · rw [if_neg same, AList.lookup_insert_ne fun equal => same (key_injective equal)]

/-- The annotations of the rewrite come first. -/
def rewriteAnnotations (spec : ServiceExportSpec) : GoMap String String :=
  match spec.rewrite with
  | none => ∅
  | some rewrite => ((∅ : GoMap String String).insert PipyIngressAnnotation.rewriteFrom.key
      rewrite.rewriteFrom).insert PipyIngressAnnotation.rewriteTo.key rewrite.rewriteTo

theorem lookup_rewriteAnnotations (spec : ServiceExportSpec) (query : PipyIngressAnnotation) :
    (rewriteAnnotations spec).lookup query.key =
      if query = .rewriteTo then spec.rewrite.map PathRewrite.rewriteTo
      else if query = .rewriteFrom then spec.rewrite.map PathRewrite.rewriteFrom
      else none := by
  unfold rewriteAnnotations
  cases spec.rewrite with
  | none => simp
  | some rewrite =>
      dsimp only
      rw [lookup_insert_setting, lookup_insert_setting, AList.lookup_empty]
      rfl

theorem ingressAnnotations_eq (exp : ServiceExport) :
    ingressAnnotations exp =
      let annos := if exp.spec.sessionSticky then
          (rewriteAnnotations exp.spec).insert PipyIngressAnnotation.sessionSticky.key "true"
        else rewriteAnnotations exp.spec
      match exp.spec.loadBalancer with
      | some balancer => annos.insert PipyIngressAnnotation.loadBalancer.key balancer.string
      | none => annos := by
  have rewrites : (match exp.spec.pathRewrite with
      | none => (∅ : GoMap String String)
      | some rewrite =>
          if rewrite.rewriteFrom ≠ "" ∧ rewrite.rewriteTo ≠ "" then
            ((∅ : GoMap String String).insert PipyIngressAnnotation.rewriteFrom.key
              rewrite.rewriteFrom).insert PipyIngressAnnotation.rewriteTo.key rewrite.rewriteTo
          else ∅) = rewriteAnnotations exp.spec := by
    rw [rewriteAnnotations, ServiceExportSpec.rewrite]
    cases exp.spec.pathRewrite with
    | none => rfl
    | some rewrite =>
        by_cases usable : rewrite.rewriteFrom ≠ "" ∧ rewrite.rewriteTo ≠ ""
        · rw [Option.filter_some_pos (by simpa using usable)]
          exact if_pos usable
        · rw [Option.filter_some_neg (by simpa using usable)]
          exact if_neg usable
  rw [← rewrites]
  rfl

/-- The annotations of the Ingress of an export are those that encode its settings. -/
theorem lookup_ingressAnnotations (exp : ServiceExport) (query : PipyIngressAnnotation) :
    (ingressAnnotations exp).lookup query.key = exp.spec.encoded query := by
  rw [ingressAnnotations_eq]
  have sticks : (if exp.spec.sessionSticky then
        (rewriteAnnotations exp.spec).insert PipyIngressAnnotation.sessionSticky.key "true"
      else rewriteAnnotations exp.spec).lookup query.key =
      if query = .loadBalancer then none else exp.spec.encoded query := by
    by_cases sticky : exp.spec.sessionSticky <;> cases query <;>
      simp [sticky, lookup_insert_setting, lookup_rewriteAnnotations, ServiceExportSpec.encoded]
  cases balancer : exp.spec.loadBalancer with
  | none =>
      dsimp only
      rw [sticks]
      split
      · next same => rw [same, ServiceExportSpec.encoded, balancer, Option.map_none]
      · rfl
  | some balancer' =>
      dsimp only
      rw [lookup_insert_setting, sticks]
      split
      · next same => rw [same, ServiceExportSpec.encoded, balancer, Option.map_some]
      · rfl

end Annotations
end ErieCanal.Export

namespace ErieCanal.Cache
open Lib CoreV1 NetworkingV1 Route

section Paths
variable (externals : Externals) (listers : Listers) (ing : Ingress) (rule : IngressRule)

/-- This is the route of one path, with its key. -/
def routeOf (path : HTTPIngressPath) : Option (RouteKey × BaseIngressInfo) := do
  let service ← path.backend
  let svcPortName ← servicePortName listers ing.ns service
  let info ← newBaseIngressInfo rule path svcPortName
  pure (⟨svcPortName, info.host, info.path⟩, enrichIngressInfo externals listers rule ing info)

theorem addPath_eq (map : IngressMap) (path : HTTPIngressPath) :
    addPath externals listers ing rule map path =
      match routeOf externals listers ing rule path with
      | none => map
      | some (key, info) => if (map.lookup key).isSome then map else map.insert key info := by
  unfold addPath routeOf
  cases path.backend with
  | none => rfl
  | some service =>
      cases named : servicePortName listers ing.ns service with
      | none => simp [named]
      | some svcPortName =>
          cases made : newBaseIngressInfo rule path svcPortName with
          | none => simp [named, made]
          | some info => simp [named, made]

variable {externals listers ing rule}

/-- A route of the map was there before or is the one of a path. -/
theorem foldl_addPath_source {paths : List HTTPIngressPath} {map : IngressMap} {key : RouteKey}
    {info : BaseIngressInfo}
    (found : (paths.foldl (addPath externals listers ing rule) map).lookup key = some info) :
    map.lookup key = some info ∨
      ∃ path ∈ paths, routeOf externals listers ing rule path = some (key, info) := by
  induction paths generalizing map with
  | nil => exact .inl found
  | cons path rest ih =>
      rcases ih found with before | ⟨later, member, routed⟩
      · rw [addPath_eq] at before
        split at before
        · exact .inl before
        · next added info' routed =>
            split at before
            · exact .inl before
            · by_cases same : key = added
              · subst same
                rw [AList.lookup_insert, Option.some.injEq] at before
                subst before
                exact .inr ⟨path, List.mem_cons_self, routed⟩
              · rw [AList.lookup_insert_ne same] at before
                exact .inl before
      · exact .inr ⟨later, List.mem_cons_of_mem _ member, routed⟩

theorem addPath_keeps {map : IngressMap} {key : RouteKey} (path : HTTPIngressPath)
    (there : (map.lookup key).isSome) :
    ((addPath externals listers ing rule map path).lookup key).isSome := by
  rw [addPath_eq]
  split
  · exact there
  · next added info routed =>
      split
      · exact there
      · by_cases same : key = added
        · rw [same, AList.lookup_insert]
          rfl
        · rwa [AList.lookup_insert_ne same]

/-- Every path that has a route has its key in the map. -/
theorem foldl_addPath_routed {paths : List HTTPIngressPath} {map : IngressMap} {key : RouteKey}
    (there : (map.lookup key).isSome ∨
      ∃ path ∈ paths, ∃ info, routeOf externals listers ing rule path = some (key, info)) :
    ((paths.foldl (addPath externals listers ing rule) map).lookup key).isSome := by
  induction paths generalizing map with
  | nil => simpa using there
  | cons path rest ih =>
      refine ih ?_
      rcases there with there | ⟨later, member, info, routed⟩
      · exact .inl (addPath_keeps path there)
      · rcases List.mem_cons.mp member with rfl | member
        · refine .inl ?_
          rw [addPath_eq, routed]
          dsimp only
          split
          · next taken => exact taken
          · rw [AList.lookup_insert]
            rfl
        · exact .inr ⟨later, member, info, routed⟩

end Paths
end ErieCanal.Cache

namespace ErieCanal.Export
open Lib Kube CoreV1 NetworkingV1 Cache Route IngressPipy

/-- This is the algorithm that a load balancer names. -/
def LoadBalancer.algorithm : LoadBalancer → AlgoBalancer
  | .roundRobinLoadBalancer => .roundRobin
  | .hashingLoadBalancer => .hashing
  | .leastWorkLoadBalancer => .leastWork

/-- A rule is routed when its port is one of the Service. -/
def ServiceExportRule.Routed (rule : ServiceExportRule) (svc : Service) : Prop :=
  ∃ port ∈ svc.ports, port.port = rule.portNumber

/-- The path of an Ingress that stands for a rule. -/
def ingressPath (exp : ServiceExport) (rule : ServiceExportRule) : HTTPIngressPath where
  path := rule.path
  pathType := rule.pathType
  backend := some ⟨exp.name, ⟨"", rule.portNumber⟩⟩

/-- A route sends the path of the rule, for all hosts, to the port of the rule. -/
structure Serves (exp : ServiceExport) (svc : Service) (rule : ServiceExportRule)
    (info : BaseIngressInfo) : Prop where
  host : info.host = ""
  path : routerPath (ingressPath exp rule) = some info.path
  backend : ∃ port ∈ svc.ports, port.port = rule.portNumber ∧
    info.backend = ⟨exp.key, port.name, .tcp⟩

/-- A route has the settings of the export. -/
structure HasSettings (spec : ServiceExportSpec) (info : BaseIngressInfo) : Prop where
  rewrite : info.rewrite = match spec.rewrite with
    | some rewrite => [rewrite.rewriteFrom, rewrite.rewriteTo]
    | none => []
  sessionSticky : info.sessionSticky = spec.sessionSticky
  lbType : info.lbType = spec.loadBalancer.map LoadBalancer.algorithm

/-- The routes are those of the routed rules, with the settings of the export. -/
structure Translates (exp : ServiceExport) (svc : Service) (map : IngressMap) : Prop where
  routed : ∀ rule ∈ exp.spec.rules, rule.Routed svc →
    ∃ info ∈ GoMap.values map, Serves exp svc rule info ∧ HasSettings exp.spec info
  others : ∀ info ∈ GoMap.values map, ∃ rule ∈ exp.spec.rules, rule.Routed svc ∧
    Serves exp svc rule info ∧ HasSettings exp.spec info

section Translation
variable (externals : Externals) (listers : Listers) {exp : ServiceExport} {svc : Service}

/-- This is the route of a rule, with its key. -/
def exportRoute (exp : ServiceExport) (rule : ServiceExportRule) :
    Option (RouteKey × BaseIngressInfo) :=
  routeOf externals listers (newIngress exp) ⟨"", some (ingressPaths exp)⟩ (ingressPath exp rule)

/-- The Ingress of an export translates path by path. -/
def exportMap (exp : ServiceExport) : IngressMap :=
  (exp.spec.rules.map (ingressPath exp)).foldl
    (addPath externals listers (newIngress exp) ⟨"", some (ingressPaths exp)⟩) ∅

theorem ingressToIngressMap_newIngress :
    ingressToIngressMap externals listers (some (newIngress exp)) =
      some (exportMap externals listers exp) := rfl

variable {externals listers} in
/-- Every stored route is the one of a rule. -/
theorem exportMap_source {key : RouteKey} {info : BaseIngressInfo}
    (stored : (exportMap externals listers exp).lookup key = some info) :
    ∃ rule ∈ exp.spec.rules, exportRoute externals listers exp rule = some (key, info) := by
  rcases foldl_addPath_source stored with impossible | ⟨path, member, routed⟩
  · rw [AList.lookup_empty] at impossible
    cases impossible
  · obtain ⟨rule, listed, rfl⟩ := List.mem_map.mp member
    exact ⟨rule, listed, routed⟩

variable {externals listers} in
/-- The key of every route is stored. -/
theorem exportMap_routed {rule : ServiceExportRule} (listed : rule ∈ exp.spec.rules)
    {key : RouteKey} {info : BaseIngressInfo}
    (routed : exportRoute externals listers exp rule = some (key, info)) :
    ((exportMap externals listers exp).lookup key).isSome :=
  foldl_addPath_routed (.inr ⟨_, List.mem_map_of_mem listed, info, routed⟩)

/-- The decoder reads back the rewrite and the stickiness; every balancer becomes round-robin. -/
theorem enrich_settings (rule : IngressRule) (info : BaseIngressInfo) (plain : info.rewrite = [])
    (balancer : exp.spec.loadBalancer.isSome) :
    let enriched := enrichIngressInfo externals listers rule (newIngress exp) info
    (enriched.host = info.host ∧ enriched.path = info.path ∧ enriched.backend = info.backend) ∧
      (enriched.rewrite = (match exp.spec.rewrite with
        | some rewrite => [rewrite.rewriteFrom, rewrite.rewriteTo]
        | none => []) ∧
      enriched.sessionSticky = exp.spec.sessionSticky) ∧ enriched.lbType = some .roundRobin := by
  have untouched : enrichTLS externals listers rule (newIngress exp) info = info := rfl
  have annotated : (newIngress exp).annotations = some (ingressAnnotations exp) := rfl
  simp only [enrichIngressInfo, untouched, annotated, lookup_ingressAnnotations,
    ServiceExportSpec.encoded]
  refine ⟨⟨trivial, trivial, trivial⟩, ⟨?_, ?_⟩, ?_⟩
  · cases usable : exp.spec.rewrite with
    | none => simpa using plain
    | some rewrite =>
        have both : rewrite.rewriteFrom ≠ "" ∧ rewrite.rewriteTo ≠ "" := by
          simpa using (Option.filter_eq_some_iff.mp usable).2
        simp [both]
  · cases exp.spec.sessionSticky <;> decide
  · obtain ⟨name, named⟩ := Option.isSome_iff_exists.mp balancer
    rw [named]
    cases name <;> decide

variable (found : findService listers exp.key = some svc)

include found

/-- The backend of a rule is the first port of the Service with its number. -/
theorem servicePortName_ingressPath (rule : ServiceExportRule) :
    servicePortName listers exp.ns ⟨exp.name, ⟨"", rule.portNumber⟩⟩ =
      if 0 < rule.portNumber then
        (svc.ports.find? fun port => port.port = rule.portNumber).map fun port =>
          ⟨exp.key, port.name, .tcp⟩
      else none := by
  have service : findService listers ⟨exp.ns, exp.name⟩ = some svc := found
  simp only [servicePortName, service, ne_eq, not_true_eq_false, if_false]
  rfl

/-- A routed rule has a route. -/
theorem exists_exportRoute {rule : ServiceExportRule}
    (positive : ∀ port ∈ svc.ports, 0 < port.port)
    (admitted : rule.pathType ≠ .implementationSpecific) (routed : rule.Routed svc) :
    ∃ key info, exportRoute externals listers exp rule = some (key, info) := by
  obtain ⟨port, listed, number⟩ := routed
  have some : (svc.ports.find? fun port => port.port = rule.portNumber).isSome := by
    rw [List.find?_isSome]
    exact ⟨port, listed, by simpa using number⟩
  obtain ⟨first, isFirst⟩ := Option.isSome_iff_exists.mp some
  have named : servicePortName listers (newIngress exp).ns ⟨exp.name, ⟨"", rule.portNumber⟩⟩ = _ :=
    servicePortName_ingressPath listers found rule
  rw [if_pos (number ▸ positive port listed), isFirst, Option.map_some] at named
  simp only [exportRoute, routeOf, ingressPath, Option.bind_eq_bind, Option.bind_some, named]
  cases kind : rule.pathType with
  | exact => exact ⟨_, _, rfl⟩
  | pathPrefix => exact ⟨_, _, rfl⟩
  | implementationSpecific => exact absurd kind admitted

/-- The key of a route serves its rule, and the route has the host, the path and the backend of the
key. It has the settings of the export but for the balancer. -/
theorem exportRoute_cases (balancer : exp.spec.loadBalancer.isSome) {rule : ServiceExportRule}
    {key : RouteKey} {info : BaseIngressInfo}
    (routed : exportRoute externals listers exp rule = some (key, info)) :
    (∀ stored : BaseIngressInfo, stored.host = key.host → stored.path = key.path →
      stored.backend = key.servicePortName → Serves exp svc rule stored) ∧
      (info.host = key.host ∧ info.path = key.path ∧ info.backend = key.servicePortName) ∧
      (info.rewrite = (match exp.spec.rewrite with
        | some rewrite => [rewrite.rewriteFrom, rewrite.rewriteTo]
        | none => []) ∧
      info.sessionSticky = exp.spec.sessionSticky) ∧ info.lbType = some .roundRobin := by
  simp only [exportRoute, routeOf, ingressPath, Option.bind_eq_bind, Option.bind_some,
    Option.bind_eq_some_iff, Option.pure_def, Option.some.injEq, Prod.mk.injEq] at routed
  obtain ⟨svcPortName, named, base, made, rfl, rfl⟩ := routed
  have named : servicePortName listers exp.ns ⟨exp.name, ⟨"", rule.portNumber⟩⟩ = some svcPortName :=
    named
  rw [servicePortName_ingressPath listers found rule] at named
  have path := routerPath_of_info made
  have plain : base.host = "" ∧ base.rewrite = [] ∧ base.backend = svcPortName := by
    unfold newBaseIngressInfo at made
    split at made <;> cases made <;> exact ⟨rfl, rfl, rfl⟩
  obtain ⟨fields, settings⟩ := enrich_settings externals listers
    ⟨"", some (ingressPaths exp)⟩ base plain.2.1 balancer
  refine ⟨?_, ⟨fields.1, fields.2.1, fields.2.2.trans plain.2.2⟩, settings⟩
  intro stored sameHost samePath sameBackend
  refine ⟨sameHost.trans plain.1, path.trans (congrArg some samePath.symm), ?_⟩
  split at named
  · obtain ⟨port, first, rfl⟩ := Option.map_eq_some_iff.mp named
    exact ⟨port, List.mem_of_find?_eq_some first, by simpa using List.find?_some first, sameBackend⟩
  · cases named

/-- Every route serves a routed rule and has the settings of the export but for the balancer. -/
theorem exportMap_serves (balancer : exp.spec.loadBalancer.isSome) {key : RouteKey}
    {info : BaseIngressInfo} (stored : (exportMap externals listers exp).lookup key = some info) :
    (info.host = key.host ∧ info.path = key.path ∧ info.backend = key.servicePortName) ∧
      info.lbType = some .roundRobin ∧ ∃ rule ∈ exp.spec.rules, rule.Routed svc ∧
        Serves exp svc rule info ∧ (exp.spec.loadBalancer = some .roundRobinLoadBalancer →
          HasSettings exp.spec info) := by
  obtain ⟨rule, listed, made⟩ := exportMap_source stored
  obtain ⟨serves, fields, ⟨rewrite, sticky⟩, lbType⟩ :=
    exportRoute_cases externals listers found balancer made
  have served := serves info fields.1 fields.2.1 fields.2.2
  obtain ⟨port, isPort, number, _⟩ := served.backend
  refine ⟨fields, lbType, rule, listed, ⟨port, isPort, number⟩, served, fun named => ?_⟩
  exact ⟨rewrite, sticky, by rw [lbType, named]; rfl⟩

/-- The Ingress of an export translates to the routes of its routed rules, with the settings of the
export, exactly when the export names the round-robin balancer or has no routed rule. -/
theorem translates_iff {balancer : LoadBalancer} (named : exp.spec.loadBalancer = some balancer)
    (admitted : ∀ rule ∈ exp.spec.rules, rule.pathType ≠ .implementationSpecific)
    (positive : ∀ port ∈ svc.ports, 0 < port.port) :
    (∃ map, ingressToIngressMap externals listers (some (newIngress exp)) = some map ∧
        Translates exp svc map) ↔
      balancer = .roundRobinLoadBalancer ∨ ∀ rule ∈ exp.spec.rules, ¬ rule.Routed svc := by
  have balanced : exp.spec.loadBalancer.isSome := by simp [named]
  rw [ingressToIngressMap_newIngress]
  constructor
  · rintro ⟨map, same, translates⟩
    cases same
    by_contra neither
    rw [not_or] at neither
    obtain ⟨other, routed⟩ := neither
    simp only [not_forall, not_not] at routed
    obtain ⟨rule, listed, routed⟩ := routed
    obtain ⟨info, member, _, settings⟩ := translates.routed rule listed routed
    obtain ⟨key, stored⟩ := (GoMap.mem_values _ info).mp member
    have roundRobin := (exportMap_serves externals listers found balanced stored).2.1
    rw [settings.lbType, named, Option.map_some, Option.some.injEq] at roundRobin
    cases balancer with
    | roundRobinLoadBalancer => exact other rfl
    | hashingLoadBalancer => cases roundRobin
    | leastWorkLoadBalancer => cases roundRobin
  · intro condition
    have settled {rule : ServiceExportRule} (listed : rule ∈ exp.spec.rules)
        (routed : rule.Routed svc) : exp.spec.loadBalancer = some .roundRobinLoadBalancer := by
      rw [named, condition.resolve_right fun none => none rule listed routed]
    refine ⟨_, rfl, ⟨fun rule listed routed => ?_, fun info member => ?_⟩⟩
    · obtain ⟨key, own, made⟩ :=
        exists_exportRoute externals listers found positive (admitted rule listed) routed
      obtain ⟨info, stored⟩ := Option.isSome_iff_exists.mp (exportMap_routed listed made)
      obtain ⟨⟨host, path, backend⟩, _, _, _, _, _, settings⟩ :=
        exportMap_serves externals listers found balanced stored
      exact ⟨info, (GoMap.mem_values _ info).mpr ⟨key, stored⟩,
        (exportRoute_cases externals listers found balanced made).1 info host path backend,
        settings (settled listed routed)⟩
    · obtain ⟨key, stored⟩ := (GoMap.mem_values _ info).mp member
      obtain ⟨_, _, rule, listed, routed, serves, settings⟩ :=
        exportMap_serves externals listers found balanced stored
      exact ⟨rule, listed, routed, serves, settings (settled listed routed)⟩

end Translation

/-- An export of one path with a rewrite. -/
def balancedExport (balancer : LoadBalancer) : ServiceExport where
  ns := "default"
  name := "web"
  uid := 1
  annotations := none
  spec := {
    pathRewrite := some ⟨"/web", "/"⟩
    sessionSticky := true
    loadBalancer := some balancer
    rules := [⟨80, "/web", .pathPrefix⟩]
    targetClusters := []
    serviceAccountName := "" }
  conditions := []

def webService : Service where
  ns := "default"
  name := "web"
  type := .clusterIP
  ports := [⟨"http", .tcp, none, 80, .int 8080, 0⟩]

/-- Every Service has the same port. -/
def webListers : Listers := { Listers.empty with services := fun _ => some webService }

theorem translates_iff_web :
    ∃ map, ingressToIngressMap exampleExternals webListers
        (some (newIngress (balancedExport .roundRobinLoadBalancer))) = some map ∧
      Translates (balancedExport .roundRobinLoadBalancer) webService map :=
  (@translates_iff exampleExternals webListers (balancedExport .roundRobinLoadBalancer) webService
    rfl .roundRobinLoadBalancer rfl (by decide) (by decide)).mpr (.inl rfl)

/-- The hashing balancer of an export becomes round-robin. -/
theorem hashing_becomes_roundRobin :
    ∃ map, ingressToIngressMap exampleExternals webListers
        (some (newIngress (balancedExport .hashingLoadBalancer))) = some map ∧
      (GoMap.values map).map BaseIngressInfo.lbType = [some .roundRobin] ∧
      ¬ Translates (balancedExport .hashingLoadBalancer) webService map := by
  refine ⟨_, rfl, by decide +kernel, fun translates => ?_⟩
  obtain ⟨info, member, _, settings⟩ := translates.routed ⟨80, "/web", .pathPrefix⟩
    (by decide) ⟨⟨"http", .tcp, none, 80, .int 8080, 0⟩, by decide, rfl⟩
  have balanced : info.lbType ∈ (GoMap.values _).map BaseIngressInfo.lbType :=
    List.mem_map_of_mem member
  have roundRobin : info.lbType ∈ [some AlgoBalancer.roundRobin] := balanced
  rw [settings.lbType] at roundRobin
  revert roundRobin
  decide

end ErieCanal.Export
