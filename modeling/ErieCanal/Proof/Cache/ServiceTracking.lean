import ErieCanal.Construction.Cache.Service

namespace ErieCanal.Cache
open Lib CoreV1

section ServiceMaps
variable (externals : Externals)

theorem allKeys_addServicePort (service : Service) (map : ServiceMap) (port : ServicePort)
    (all : map.AllKeys fun key => key.namespacedName = service.key) :
    (addServicePort externals service map port).AllKeys fun key =>
      key.namespacedName = service.key := by
  unfold addServicePort
  split
  · exact all
  · exact all.insert rfl _

/-- A Service contributes to its own ports only. -/
theorem serviceToServiceMap_owned (service : Service) (key : ServicePortName)
    (found : (GoMap.find (serviceToServiceMap externals (some service)) key).isSome) :
    key.namespacedName = service.key := by
  simp only [serviceToServiceMap] at found
  split at found
  · cases found
  · refine List.foldlRecOn (motive := fun map : ServiceMap =>
      map.AllKeys fun key => key.namespacedName = service.key) service.ports _
        GoMap.allKeys_empty ?_ key found
    intro map kept port _
    exact allKeys_addServicePort externals service map port kept

/-- A Service of a skipped type has no port that can be handled. -/
theorem serviceToServiceMap_skipped {service : Service} (skipped : shouldSkipService service = true)
    (key : ServicePortName) :
    GoMap.find (serviceToServiceMap externals (some service)) key = none := by
  have unhandled (port : ServicePort) : newBaseServiceInfo externals port service = none := by
    unfold shouldSkipService at skipped
    unfold newBaseServiceInfo
    split at skipped <;> simp_all
  have nothing (ports : List ServicePort) :
      ports.foldl (addServicePort externals service) ∅ = ∅ := by
    induction ports with
    | nil => rfl
    | cons port rest ih => rwa [List.foldl_cons, addServicePort, unhandled]
  simp only [serviceToServiceMap, nothing]
  split <;> rfl

end ServiceMaps

namespace ServiceFeed
variable (externals : Externals)

/-- The Services contribute their ports. -/
def ports (feed : ServiceFeed) : NamespacedName → ServicePortName → Option Unit :=
  contribution present (serviceToServiceMap externals) feed.delivered

/-- The service map follows the delivered Services. -/
structure UpToDate (feed : ServiceFeed) : Prop where
  keyed : Notice.Keyed Service.key feed.delivered
  follows : Follows ServicePortName.namespacedName present (feed.ports externals)
    feed.serviceChanges feed.serviceMap

theorem upToDate_new : UpToDate externals new where
  keyed := Notice.keyed_empty _
  follows := follows_empty (contribution_empty rfl)

/-- An event whose object has a skipped type replaces a Service without ports in the map. -/
def SkipsNothing (feed : ServiceFeed) : ServiceFeedEvent → Prop
  | .service notice =>
      let old := feed.delivered.lookup (notice.name Service.key)
      (∃ svc ∈ notice.current, shouldSkipService svc) →
        ((serviceToServiceMap externals old).getD ∅).keys = []
  | .apply _ => True

theorem find_eq_none_of_keys {map : Option ServiceMap} (empty : (map.getD ∅).keys = [])
    (key : ServicePortName) : GoMap.find map key = none := by
  rw [GoMap.find, AList.lookup_eq_none, AList.mem_keys, empty]
  exact List.not_mem_nil

/-- A skipped event finds no contribution and brings none. -/
theorem find_eq_of_skipped {feed : ServiceFeed} {notice : Notice NamespacedName Service}
    (guarded : SkipsNothing externals feed (.service notice)) {svc : Service}
    (event : notice.current.or (feed.delivered.lookup (notice.name Service.key)) = some svc)
    (skipped : shouldSkipService svc = true) (key : ServicePortName) :
    GoMap.find (serviceToServiceMap externals notice.current) key =
      GoMap.find (serviceToServiceMap externals
        (feed.delivered.lookup (notice.name Service.key))) key := by
  cases now : notice.current with
  | none =>
      rw [now, Option.none_or] at event
      rw [event, serviceToServiceMap_skipped externals skipped]
      rfl
  | some current =>
      rw [now] at event
      cases event
      rw [serviceToServiceMap_skipped externals skipped]
      exact (find_eq_none_of_keys (guarded ⟨svc, now, skipped⟩) key).symm

theorem UpToDate.onService {feed : ServiceFeed} (upToDate : UpToDate externals feed)
    (notice : Notice NamespacedName Service)
    (guarded : SkipsNothing externals feed (.service notice)) :
    UpToDate externals (feed.onService externals notice) := by
  refine ⟨upToDate.keyed.deliver _ notice, ?_⟩
  -- An event that is not recorded leaves the contributions as they are.
  have ignored
      (unchanged : ∀ key, GoMap.find (serviceToServiceMap externals notice.current) key =
        GoMap.find (serviceToServiceMap externals
          (feed.delivered.lookup (notice.name Service.key))) key) :
      (feed.onService externals notice).ports externals = feed.ports externals :=
    contribution_deliver_of_eq _ notice fun key => by rw [unchanged, contribution]
  cases event : notice.current.or (feed.delivered.lookup (notice.name Service.key)) with
  | none =>
      obtain ⟨gone, absent⟩ := Option.or_eq_none_iff.mp event
      rw [ignored fun key => by rw [gone, absent]]
      simp only [ServiceFeed.onService, ServiceChanges.track, event]
      exact upToDate.follows
  | some svc =>
      by_cases skipped : shouldSkipService svc = true
      · rw [ignored (find_eq_of_skipped externals guarded event skipped)]
        simp only [ServiceFeed.onService, ServiceChanges.track, event, if_pos skipped]
        exact upToDate.follows
      · have named := upToDate.keyed.name_of_event _ event
        simp only [ServiceFeed.onService, ServiceChanges.track, event, if_neg skipped, named]
        exact upToDate.follows.deliver _ notice rfl (serviceToServiceMap_owned externals)

theorem UpToDate.apply {feed : ServiceFeed} (upToDate : UpToDate externals feed)
    (range : RangeOrder (Change ServicePortName ServiceInfo)) :
    UpToDate externals (feed.apply range) :=
  ⟨upToDate.keyed, upToDate.follows.applied (Changes.applied_applyOverlay range 0 _ _)⟩

theorem UpToDate.step {feed next : ServiceFeed} {event : ServiceFeedEvent}
    (upToDate : UpToDate externals feed) (guarded : SkipsNothing externals feed event)
    (stepped : (machine externals).step feed event = some next) : UpToDate externals next := by
  cases event with
  | service notice =>
      cases stepped
      exact upToDate.onService externals notice guarded
  | apply range =>
      cases stepped
      exact upToDate.apply externals range

/-- The service map has the keys that the existing Services contribute. -/
def Exact (feed : ServiceFeed) : Prop :=
  ∀ key, (feed.serviceMap.lookup key).isSome ↔
    ∃ name service, feed.delivered.lookup name = some service ∧
      (GoMap.find (serviceToServiceMap externals (some service)) key).isSome

theorem UpToDate.exact {feed : ServiceFeed} (upToDate : UpToDate externals feed)
    (applied : feed.serviceChanges = ∅) : Exact externals feed := by
  intro key
  have tracks := upToDate.follows.tracks
  rw [applied] at tracks
  simpa only [map_present_eq_some] using tracks.objects rfl key ()

/-- In every run whose skipped events replace no contribution, a final apply leaves the service
map with the keys of the existing Services. -/
theorem run_exact {events : List ServiceFeedEvent}
    {range : RangeOrder (Change ServicePortName ServiceInfo)} {final : ServiceFeed}
    (guarded : (machine externals).Guarded (SkipsNothing externals) new events)
    (reached : (machine externals).run new events = some final) :
    Exact externals (final.apply range) := by
  have upToDate := (machine externals).run_invariant
    (fun _ _ _ => UpToDate.step externals) (upToDate_new externals) guarded reached
  exact (upToDate.apply externals range).exact externals rfl

/-- The service has one port and this type. -/
def exampleService (type : ServiceType) : Service where
  ns := "default"
  name := "web"
  type := type
  ports := [⟨"http", .tcp, none, 80, .int 8080, 0⟩]
  clusterIP := "10.0.0.1"

/-- The service is created, applied, and changed to another type. -/
def exampleRun (type : ServiceType) : List ServiceFeedEvent :=
  [.service (.stored (exampleService .clusterIP)), .apply .stored,
    .service (.stored (exampleService type))]

instance (feed : ServiceFeed) : ∀ event, Decidable (SkipsNothing externals feed event)
  | .service notice => inferInstanceAs (Decidable
      ((∃ svc ∈ notice.current, shouldSkipService svc) →
        ((serviceToServiceMap externals
          (feed.delivered.lookup (notice.name Service.key))).getD ∅).keys = []))
  | .apply _ => inferInstanceAs (Decidable True)

theorem run_exact_externalName :
    ∃ final, (machine exampleExternals).run new (exampleRun .externalName) = some final ∧
      Exact exampleExternals (final.apply .stored) :=
  ⟨_, rfl, @run_exact exampleExternals (exampleRun .externalName) .stored _
    (by decide +kernel) rfl⟩

/-- A change to the type NodePort leaves the port in the map. -/
theorem run_inexact :
    ∃ final, (machine exampleExternals).run new (exampleRun .nodePort) = some final ∧
      ¬ Exact exampleExternals (final.apply .stored) := by
  refine ⟨_, rfl, fun exact => ?_⟩
  obtain ⟨name, service, found, contributes⟩ :=
    (exact ⟨(exampleService .nodePort).key, "http", .tcp⟩).mp rfl
  have member : service ∈ [exampleService .nodePort] :=
    (GoMap.mem_values _ service).mpr ⟨name, found⟩
  rw [List.mem_singleton.mp member, serviceToServiceMap_skipped exampleExternals rfl] at contributes
  cases contributes

end ServiceFeed
end ErieCanal.Cache
