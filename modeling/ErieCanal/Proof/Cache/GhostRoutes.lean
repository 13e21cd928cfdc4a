import ErieCanal.Proof.Cache.IngressAccounting

namespace ErieCanal.Cache.LocalCache
open Lib CoreV1 NetworkingV1 IngressPipy

/-- Every route of the map is a route of an existing valid Ingress. -/
def NoGhosts (externals : Externals) (cache : LocalCache) : Prop :=
  ∀ key, (cache.ingressMap.lookup key).isSome →
    ∃ name ing, cache.listers.ingresses.lookup name = some ing ∧
      isValidPipyIngress cache.defaultIngressClass ing ∧
        (GoMap.find (ingressToIngressMap externals cache.listers (some ing)) key).isSome

variable {externals : Externals}

/-- The Secrets decide about certificates and not about route keys. -/
theorem keepsSeen_present (cache : LocalCache) (event : IngressFeedEvent) :
    KeepsSeen externals present cache event := by
  cases event with
  | secretStored key secret =>
      funext name query
      apply Option.ext
      intro seen
      simp only [feed, routes, contribution, validIngressMap, map_present_eq_some]
      refine Bool.eq_iff_iff.mp (ingressToIngressMap_keys ?_ _ query)
      intro service
      rfl
  | _ => trivial

theorem RoutesAccounted.noGhosts {cache : LocalCache}
    (known : RoutesAccounted externals present cache) (drained : cache.ingressChanges = ∅) :
    NoGhosts externals cache := by
  intro key held
  obtain ⟨info, found⟩ := Option.isSome_iff_exists.mp held
  have accounted := known.accounted
  rw [drained] at accounted
  obtain ⟨name, contributes⟩ := accounted.source found
  obtain ⟨ing, stored, valid, translated⟩ := validIngressMap_of_contributes contributes
  exact ⟨name, ing, stored, valid, (map_present_eq_some _ _).mp translated⟩

/-- In every run in which no step makes an existing valid Ingress invalid, an update of the map
leaves routes of existing valid Ingresses only. -/
theorem run_noGhosts (listers : Listers) {events : List IngressFeedEvent} {final : LocalCache}
    (guarded : (feedMachine externals).Guarded (StaysValid externals) (withListers listers) events)
    (reached : (feedMachine externals).run (withListers listers) events = some final)
    (order : SyncOrder) : NoGhosts externals (final.updateIngressMap order 0) := by
  have known : RoutesAccounted externals present final := Machine.run_invariant _
    (fun cache event next known stays stepped =>
      known.step stays (keepsSeen_present cache event) stepped)
    (routesAccounted_withListers externals present listers) guarded reached
  exact (known.updateIngressMap order 0).noGhosts rfl

instance (cache : LocalCache) (event : IngressFeedEvent) :
    Decidable (StaysValid externals cache event) :=
  decidable_of_iff (∀ name ∈ cache.listers.ingresses.keys,
      ∀ old ∈ cache.listers.ingresses.lookup name,
        ∀ new ∈ (cache.feed externals event).listers.ingresses.lookup name,
          isValidPipyIngress cache.defaultIngressClass old →
            isValidPipyIngress (cache.feed externals event).defaultIngressClass new)
    ⟨fun stays name old stored => stays name (AList.lookup_isSome.mp (Option.isSome_of_mem stored))
      old stored, fun stays name _ => stays name⟩

/-- The Ingress has one route and this class. -/
def classedIngress (className : String) : Ingress where
  ns := "default"
  name := "web"
  annotations := some ∅
  ingressClassName := some className
  tls := []
  rules := [⟨"example.com", some [⟨"/", .pathPrefix, some ⟨"web", ⟨"http", 0⟩⟩⟩]⟩]

/-- The Ingress is stored, applied and stored again with this class. -/
def classedRun (className : String) : List IngressFeedEvent :=
  [.ingress (.stored (classedIngress "pipy")), .updateIngressMap .stored,
    .ingress (.stored (classedIngress className))]

theorem run_noGhosts_pipy :
    ∃ final, (feedMachine exampleExternals).run (withListers .empty) (classedRun "pipy") =
        some final ∧ NoGhosts exampleExternals (final.updateIngressMap .stored 0) :=
  ⟨_, rfl, @run_noGhosts exampleExternals .empty (classedRun "pipy") _ (by decide +kernel) rfl
    .stored⟩

/-- An Ingress that moves to another class leaves its route behind. -/
theorem run_leaves_ghost :
    ∃ final, (feedMachine exampleExternals).run (withListers .empty) (classedRun "nginx") =
        some final ∧ ¬ NoGhosts exampleExternals (final.updateIngressMap .stored 0) := by
  refine ⟨_, rfl, fun noGhosts => ?_⟩
  obtain ⟨name, ing, stored, valid, _⟩ :=
    noGhosts ⟨⟨⟨"default", "web"⟩, "http", .tcp⟩, "example.com", "/*"⟩ rfl
  have member : ing ∈ [classedIngress "nginx"] := (GoMap.mem_values _ ing).mpr ⟨name, stored⟩
  rw [List.mem_singleton.mp member] at valid
  exact absurd valid (by decide)

end ErieCanal.Cache.LocalCache
