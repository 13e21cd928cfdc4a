import ErieCanal.Proof.Cache.IterationOrder

namespace ErieCanal.Cache
open Lib CoreV1 Route Repo

/-- A name without a colon and a port name are determined by their common text. -/
theorem append_fmtPortName_inj {name name' : List Char} {port port' : String}
    (plain : ':' ∉ name) (plain' : ':' ∉ name')
    (same : name ++ (fmtPortName port).toList = name' ++ (fmtPortName port').toList) :
    name = name' ∧ port = port' := by
  have text (port : String) : (fmtPortName port).toList =
      if port = "" then [] else ':' :: port.toList := by
    unfold fmtPortName
    split
    · rfl
    · rw [String.toList_append]
      rfl
  rw [text, text] at same
  by_cases unnamed : port = ""
  · by_cases unnamed' : port' = ""
    · exact ⟨by simpa [unnamed, unnamed'] using same, unnamed.trans unnamed'.symm⟩
    · rw [if_pos unnamed, if_neg unnamed', List.append_nil] at same
      exact absurd (by simp [same]) plain
  · by_cases unnamed' : port' = ""
    · rw [if_neg unnamed, if_pos unnamed', List.append_nil] at same
      exact absurd (by simp [← same]) plain'
    · rw [if_neg unnamed, if_neg unnamed'] at same
      obtain ⟨names, ports⟩ := Strings.append_separator_inj plain plain' same
      exact ⟨names, String.toList_inj.mp ports⟩

/-- The backend, the host and the path of the route are names that Kubernetes accepts. -/
structure ValidNames (route : BaseIngressInfo) : Prop where
  ns : '/' ∉ route.backend.namespacedName.ns.toList
  name : ':' ∉ route.backend.namespacedName.name.toList
  protocol : route.backend.protocol = .tcp
  host : '/' ∉ route.host.toList
  path : ∃ rest, route.path.toList = '/' :: rest

section ValidNames
variable {a b : BaseIngressInfo} (valid : ValidNames a) (valid' : ValidNames b)

include valid valid'

/-- The text of a valid backend determines it. -/
theorem ValidNames.backend_eq (same : a.backend.string = b.backend.string) :
    a.backend = b.backend := by
  have protocols := valid.protocol.trans valid'.protocol.symm
  have chars := congrArg String.toList same
  simp only [ServicePortName.string, String.toList_append, List.append_assoc] at chars
  obtain ⟨ns, rest⟩ := Strings.append_separator_inj valid.ns valid'.ns chars
  obtain ⟨name, port⟩ := append_fmtPortName_inj valid.name valid'.name rest
  rw [String.toList_inj] at ns name
  revert ns name port protocols
  generalize a.backend = first, b.backend = second
  obtain ⟨⟨ns, name⟩, port, protocol⟩ := first
  rintro rfl rfl rfl rfl
  rfl

/-- The text of a host and a path determines both. -/
theorem ValidNames.host_path_eq (same : a.host ++ a.path = b.host ++ b.path) :
    a.host = b.host ∧ a.path = b.path := by
  obtain ⟨rest, path⟩ := valid.path
  obtain ⟨rest', path'⟩ := valid'.path
  have chars := congrArg String.toList same
  rw [String.toList_append, String.toList_append, path, path'] at chars
  obtain ⟨host, rfl⟩ := Strings.append_separator_inj valid.host valid'.host chars
  exact ⟨String.toList_inj.mp host, String.toList_inj.mp (path.trans path'.symm)⟩

end ValidNames

/-- The parser gives back the address and the port from which a valid endpoint text is joined. -/
def SplitsJoined (externals : Externals) (valid : String → Int → Prop) : Prop :=
  ∀ ip port, valid ip port → externals.ipPart (externals.joinHostPort ip port) = ip ∧
    externals.portPart (externals.joinHostPort ip port) = some port

/-- Each endpoint text is joined from a valid address and port. -/
def Joined (externals : Externals) (valid : String → Int → Prop) (endpoints : List BaseEndpointInfo) :
    Prop :=
  ∀ ep ∈ endpoints, ∃ ip port, valid ip port ∧ ep.endpoint = externals.joinHostPort ip port

/-- A usable endpoint is recorded with this address and port. -/
def Records (externals : Externals) (valid : String → Int → Prop) (endpointsMap : EndpointsMap)
    (svcName : ServicePortName) (ip : String) (port : Int) : Prop :=
  ip ≠ "" ∧ valid ip port ∧ ∃ ep ∈ (endpointsMap.lookup svcName).getD [],
    ep.endpoint = externals.joinHostPort ip port

theorem mem_upstreamEndpoints (externals : Externals) (endpoints : List BaseEndpointInfo)
    (ip : String) (port : Int) :
    ⟨ip, port⟩ ∈ upstreamEndpoints externals endpoints ↔
      ∃ ep ∈ endpoints, ip ≠ "" ∧ externals.ipPart ep.endpoint = ip ∧
        externals.portPart ep.endpoint = some port := by
  rw [upstreamEndpoints, List.mem_filterMap]
  refine exists_congr fun ep => and_congr_right fun _ => ?_
  cases externals.portPart ep.endpoint with
  | none => simp
  | some found =>
      by_cases missing : externals.ipPart ep.endpoint = ""
      · simp only [missing, if_true]
        grind
      · simp only [missing, if_false, Option.some.injEq, UpstreamEndpoint.mk.injEq]
        grind

section Endpoints
variable {externals : Externals} {valid : String → Int → Prop}
  (splits : SplitsJoined externals valid) {endpointsMap : EndpointsMap}
  (joined : endpointsMap.All (Joined externals valid))

include splits joined

/-- The usable endpoints of a route are the pairs that are recorded for its backend. -/
theorem mem_usableEndpoints (route : BaseIngressInfo) (ip : String) (port : Int) :
    ⟨ip, port⟩ ∈ usableEndpoints externals endpointsMap route ↔
      Records externals valid endpointsMap route.backend ip port := by
  have texts : Joined externals valid ((endpointsMap.lookup route.backend).getD []) := by
    cases found : endpointsMap.lookup route.backend with
    | none => simp [Joined]
    | some endpoints => exact joined _ endpoints found
  rw [usableEndpoints, mem_upstreamEndpoints]
  constructor
  · rintro ⟨ep, recorded, filled, ipPart, portPart⟩
    obtain ⟨ip', port', accepted, text⟩ := texts ep recorded
    obtain ⟨ipPart', portPart'⟩ := splits ip' port' accepted
    rw [text, ipPart'] at ipPart
    rw [text, portPart'] at portPart
    cases ipPart
    cases portPart
    exact ⟨filled, accepted, ep, recorded, text⟩
  · rintro ⟨filled, accepted, ep, recorded, text⟩
    obtain ⟨ipPart, portPart⟩ := splits ip port accepted
    exact ⟨ep, recorded, filled, text ▸ ipPart, text ▸ portPart⟩

end Endpoints

namespace LocalCache

/-- Every router entry leads to a balancer entry with the usable endpoints of its backend, and every
route with a usable endpoint has a router entry. -/
theorem publishes_fits (externals : Externals) (hash64 : List IngressRouteSpec → UInt64)
    (cache : LocalCache) (range : RangeOrder BaseIngressInfo) (caRange : RangeOrder String)
    (valid : String → Int → Prop) (splits : SplitsJoined externals valid)
    (set : cache.ingressMap.All HasUpstream) (named : cache.ingressMap.All ValidNames)
    (joined : cache.endpointsMap.All (Joined externals valid)) :
    ∃ config, cache.Publishes externals hash64 range caRange config ∧
      (∀ key router, config.routes.lookup key = some router →
        ∃ route ∈ GoMap.values cache.ingressMap, router.service = route.backend.string ∧
          ∃ balancer, config.services.lookup router.service = some balancer ∧
            balancer.upstream.endpoints ≠ [] ∧
            ∀ ip port, ⟨ip, port⟩ ∈ balancer.upstream.endpoints ↔
              Records externals valid cache.endpointsMap route.backend ip port) ∧
      ∀ key route, cache.ingressMap.lookup key = some route →
        (∃ ip port, Records externals valid cache.endpointsMap route.backend ip port) →
        ∃ router, config.routes.lookup (route.host ++ route.path) = some router ∧
          ∃ other ∈ GoMap.values cache.ingressMap, other.host = route.host ∧
            other.path = route.path ∧ router.service = other.backend.string := by
  have valids (route : BaseIngressInfo) (member : route ∈ GoMap.values cache.ingressMap) :
      ValidNames route := by
    obtain ⟨key, found⟩ := (GoMap.mem_values _ _).mp member
    exact named key route found
  have source (r : IngressRouteSpec) (listed : r ∈ cache.usableRoutes externals range) :
      ∃ route ∈ GoMap.values cache.ingressMap,
        usableEndpoints externals cache.endpointsMap route ≠ [] ∧ ∃ upstream,
          r = routeSpecOf route upstream (usableEndpoints externals cache.endpointsMap route) := by
    obtain ⟨route, member, usable⟩ := (mem_usableRoutes externals range cache r).mp listed
    obtain ⟨filled, upstream, -, same⟩ := (usableRoute_eq_some_iff _ _ _ _).mp usable
    exact ⟨route, member, filled, upstream, same⟩
  refine ⟨_, (publishes_iff set range caRange _).mpr rfl, ?_, ?_⟩
  · intro key router found
    obtain ⟨r, listed, -, rfl⟩ := exists_of_lookup_routes found
    obtain ⟨s, listed', service, balancer⟩ := exists_lookup_services listed
    obtain ⟨route, member, -, upstream, rfl⟩ := source r listed
    obtain ⟨other, member', filled, upstream', rfl⟩ := source s listed'
    have backend := (valids other member').backend_eq (valids route member) service
    refine ⟨route, member, rfl, _, balancer, filled, fun ip port => ?_⟩
    rw [← backend]
    exact mem_usableEndpoints splits joined other ip port
  · rintro key route found ⟨ip, port, recorded⟩
    have member : route ∈ GoMap.values cache.ingressMap := (GoMap.mem_values _ _).mpr ⟨key, found⟩
    have usable : usableEndpoints externals cache.endpointsMap route ≠ [] :=
      List.ne_nil_of_mem ((mem_usableEndpoints splits joined route ip port).mpr recorded)
    obtain ⟨r, translated⟩ := exists_usableRoute set member usable
    have listed := (mem_usableRoutes externals range cache r).mpr ⟨route, member, translated⟩
    obtain ⟨s, listed', key, router⟩ := exists_lookup_routes listed
    obtain ⟨-, upstream, -, rfl⟩ := (usableRoute_eq_some_iff _ _ _ _).mp translated
    obtain ⟨other, member', -, upstream', rfl⟩ := source s listed'
    obtain ⟨host, path⟩ := (valids other member').host_path_eq (valids route member) key
    exact ⟨_, router, other, member', host, path, rfl⟩

/-- The endpoint texts of this parser are an IPv4 address and a port. -/
def ipv4Externals : Externals :=
  { exampleExternals with
    joinHostPort := fun ip port => ip ++ ":" ++ toString port
    ipPart := fun endpoint => String.ofList (endpoint.toList.takeWhile (· ≠ ':'))
    portPart := fun endpoint =>
      Strings.atoi (String.ofList ((endpoint.toList.dropWhile (· ≠ ':')).drop 1)) }

theorem publishes_fits_rivals :
    ∃ config, rivalCache.Publishes ipv4Externals (fun _ => 0) .stored .stored config ∧
      (∃ router, config.routes.lookup "example.com/*" = some router) ∧
      ∀ key router, config.routes.lookup key = some router →
        ∃ balancer, config.services.lookup router.service = some balancer ∧
          balancer.upstream.endpoints ≠ [] := by
  let valid (ip : String) (port : Int) : Prop := (ip = "10.0.0.1" ∨ ip = "10.0.0.2") ∧ port = 80
  have splits : SplitsJoined ipv4Externals valid := by
    rintro ip port ⟨rfl | rfl, rfl⟩ <;> decide +kernel
  have upstream (service : String) : HasUpstream (rivalRoute service) := rfl
  have set : rivalCache.ingressMap.All HasUpstream :=
    (GoMap.all_empty.insert _ (upstream "api")).insert _ (upstream "web")
  have named : rivalCache.ingressMap.All ValidNames :=
    (GoMap.all_empty.insert _ ⟨by decide, by decide, rfl, by decide, ['*'], by decide⟩).insert _
      ⟨by decide, by decide, rfl, by decide, ['*'], by decide⟩
  have joined : rivalCache.endpointsMap.All (Joined ipv4Externals valid) := by
    refine (GoMap.all_empty.insert _ fun ep member => ?_).insert _ fun ep member => ?_
    · obtain rfl := List.mem_singleton.mp member
      exact ⟨"10.0.0.1", 80, ⟨.inl rfl, rfl⟩, by decide +kernel⟩
    · obtain rfl := List.mem_singleton.mp member
      exact ⟨"10.0.0.2", 80, ⟨.inr rfl, rfl⟩, by decide +kernel⟩
  obtain ⟨config, published, entries, complete⟩ :=
    publishes_fits ipv4Externals (fun _ => 0) rivalCache .stored .stored valid splits set named joined
  refine ⟨config, published, ?_, fun key router found => ?_⟩
  · obtain ⟨router, found, -⟩ := complete ⟨rivalBackend "web", "example.com", "/*"⟩ _ rfl
      ⟨"10.0.0.2", 80, by decide, ⟨.inr rfl, rfl⟩, _, List.mem_singleton_self _, by decide +kernel⟩
    exact ⟨router, found⟩
  · obtain ⟨_, -, -, balancer, found', filled, -⟩ := entries key router found
    exact ⟨balancer, found', filled⟩

end LocalCache
end ErieCanal.Cache
