import ErieCanal.Proof.Cache.GhostRoutes

namespace ErieCanal.Cache
open Lib CoreV1 NetworkingV1 IngressPipy

theorem isValidPipyIngress_of_pipy {ing : Ingress} (pipy : ingressClass ing = ingressPipyClass)
    (defaultIngressClass : String) : isValidPipyIngress defaultIngressClass ing = true := by
  unfold isValidPipyIngress
  split
  · rfl
  · exact decide_eq_true pipy

/-- An event among Ingresses of this class is about a valid Ingress. -/
theorem isValidPipyIngress_of_event {delivered : GoMap NamespacedName Ingress}
    {notice : Notice NamespacedName Ingress} {ing : Ingress}
    (stored : ∀ name ing, delivered.lookup name = some ing → ingressClass ing = ingressPipyClass)
    (noticed : ∀ ing ∈ notice.current, ingressClass ing = ingressPipyClass)
    (event : notice.current.or (delivered.lookup (notice.name Ingress.key)) = some ing)
    (defaultIngressClass : String) : isValidPipyIngress defaultIngressClass ing = true := by
  refine isValidPipyIngress_of_pipy ?_ _
  cases now : notice.current with
  | none =>
      rw [now] at event
      exact stored _ ing event
  | some current =>
      rw [now] at event
      cases event
      exact noticed ing now

theorem pipy_deliver {delivered : GoMap NamespacedName Ingress}
    {notice : Notice NamespacedName Ingress}
    (stored : ∀ name ing, delivered.lookup name = some ing → ingressClass ing = ingressPipyClass)
    (noticed : ∀ ing ∈ notice.current, ingressClass ing = ingressPipyClass)
    (name : NamespacedName) (ing : Ingress)
    (found : (notice.deliver Ingress.key delivered).lookup name = some ing) :
    ingressClass ing = ingressPipyClass := by
  rw [Notice.lookup_deliver] at found
  split at found
  · exact noticed ing found
  · exact stored name ing found

namespace LocalCache
variable {externals : Externals}

/-- Every route key of an existing Ingress is a key of the map. -/
def NoneLost (externals : Externals) (cache : LocalCache) : Prop :=
  ∀ name ing key, cache.listers.ingresses.lookup name = some ing →
    (GoMap.find (ingressToIngressMap externals cache.listers (some ing)) key).isSome →
      (cache.ingressMap.lookup key).isSome

/-- All Ingresses have the class of this controller. -/
def AllPipy : IngressFeedEvent → Prop
  | .ingress notice => ∀ ing ∈ notice.current, ingressClass ing = ingressPipyClass
  | _ => True

/-- This is the version of the Ingress that the map holds. -/
def appliedVersion (externals : Externals) (cache : LocalCache) (name : NamespacedName) :
    IngressMap :=
  match cache.ingressChanges.lookup name with
  | some change => change.previous.getD ∅
  | none => (ingressToIngressMap externals cache.listers
      (cache.listers.ingresses.lookup name)).getD ∅

/-- A new version drops no applied route that another Ingress has, and it brings no route whose
removal from another Ingress is still pending. -/
def KeepsShared (externals : Externals) (cache : LocalCache) : IngressFeedEvent → Prop
  | .ingress notice =>
      let name := notice.name Ingress.key
      let new := ingressToIngressMap externals cache.listers notice.current
      (∀ key ∈ (cache.appliedVersion externals name).keys, GoMap.find new key = none →
        ∀ other ∈ GoMap.values cache.listers.ingresses, other.key ≠ name →
          GoMap.find (ingressToIngressMap externals cache.listers (some other)) key = none) ∧
      (∀ pending ∈ cache.ingressChanges.entries, pending.1 ≠ name →
        ∀ key ∈ (pending.2.previous.getD ∅).keys, GoMap.find pending.2.current key = none →
          GoMap.find new key = none)
  | _ => True

/-- The map holds the routes of all Ingresses, or a pending change brings them. -/
structure RoutesKept (externals : Externals) (cache : LocalCache) : Prop where
  keyed : Notice.Keyed Ingress.key cache.listers.ingresses
  pipy : ∀ name ing, cache.listers.ingresses.lookup name = some ing →
    ingressClass ing = ingressPipyClass
  kept : Kept present (cache.routes externals present) cache.ingressChanges cache.ingressMap

theorem routesKept_withListers (listers : Listers) :
    RoutesKept externals (withListers listers) where
  keyed := Notice.keyed_empty _
  pipy name ing stored := by cases stored
  kept := {
    brought := fun name change pending => by cases pending
    held := fun name key known => by cases known
    unshared := fun name change pending => by cases pending }

theorem RoutesKept.routes_eq {cache : LocalCache} (known : RoutesKept externals cache)
    (name : NamespacedName) (key : RouteKey) :
    cache.routes externals present name key =
      (GoMap.find (ingressToIngressMap externals cache.listers
        (cache.listers.ingresses.lookup name)) key).map present := by
  rw [routes, contribution, validIngressMap_of_valid]
  intro ing stored
  exact isValidPipyIngress_of_pipy (known.pipy name ing stored) _

/-- The recorded old version is the applied one. -/
theorem record_previous (cache : LocalCache) (name : NamespacedName)
    (current : Option IngressMap) :
    (cache.ingressChanges.record name (ingressToIngressMap externals cache.listers
      (cache.listers.ingresses.lookup name)) current).previous.getD ∅ =
        cache.appliedVersion externals name := by
  rw [Changes.record, appliedVersion]
  cases cache.ingressChanges.lookup name <;> rfl

theorem RoutesKept.onIngress {cache : LocalCache} (known : RoutesKept externals cache)
    {notice : Notice NamespacedName Ingress} (pipy : AllPipy (.ingress notice))
    (keeps : KeepsShared externals cache (.ingress notice)) :
    RoutesKept externals (cache.onIngress externals notice) := by
  refine ⟨known.keyed.deliver _ notice, pipy_deliver known.pipy pipy, ?_⟩
  have same (other : NamespacedName) (different : other ≠ notice.name Ingress.key) :
      (cache.onIngress externals notice).routes externals present other =
        cache.routes externals present other := contribution_deliver_ne _ notice different
  have after (key : RouteKey) :
      (cache.onIngress externals notice).routes externals present (notice.name Ingress.key) key =
        (GoMap.find (ingressToIngressMap externals cache.listers notice.current) key).map
          present := by
    refine (contribution_deliver _ notice key).trans ?_
    rw [validIngressMap_of_valid fun ing current => isValidPipyIngress_of_pipy (pipy ing current) _]
    rfl
  cases event : notice.current.or (cache.listers.ingresses.lookup (notice.name Ingress.key)) with
  | none =>
      obtain ⟨gone, absent⟩ := Option.or_eq_none_iff.mp event
      have unchanged : (cache.onIngress externals notice).routes externals present =
          cache.routes externals present := by
        funext other key
        by_cases this : other = notice.name Ingress.key
        · rw [this, after, known.routes_eq, gone, absent]
        · rw [same other this]
      rw [unchanged, onIngress_ignores fun ing found => by rw [event] at found; cases found]
      exact known.kept
  | some ing =>
      have valid := isValidPipyIngress_of_event known.pipy pipy event cache.defaultIngressClass
      rw [onIngress_records known.keyed event valid]
      refine known.kept.update same (fun key => (after key).symm) ?_ ?_ ?_
      · intro _ key old
        rwa [known.routes_eq, Option.isSome_map]
      · intro key old gone other different
        rw [after, Option.map_eq_none_iff] at gone
        rw [known.routes_eq, Option.map_eq_none_iff]
        cases stored : cache.listers.ingresses.lookup other with
        | none => rfl
        | some live =>
            refine keeps.1 key ?_ gone live ((GoMap.mem_values _ live).mpr ⟨other, stored⟩)
              ((known.keyed other live stored).trans_ne different)
            rwa [← record_previous, ← GoMap.isSome_find]
      · intro other change different pending key removes
        rw [after, Option.map_eq_none_iff]
        exact keeps.2 ⟨other, change⟩ (AList.mem_lookup_iff.mp pending) different key
          ((GoMap.isSome_find _ _).mp removes.1) removes.2

/-- A step that changes neither the Ingresses nor the map keeps the routes. -/
theorem RoutesKept.congr {cache next : LocalCache} (known : RoutesKept externals cache)
    (ingresses : next.listers.ingresses = cache.listers.ingresses)
    (changes : next.ingressChanges = cache.ingressChanges)
    (map : next.ingressMap = cache.ingressMap)
    (services : ∀ key, findService next.listers key = findService cache.listers key) :
    RoutesKept externals next := by
  refine ⟨ingresses ▸ known.keyed, ingresses ▸ known.pipy, ?_⟩
  have unchanged : next.routes externals present = cache.routes externals present := by
    funext name key
    rw [known.routes_eq, routes, contribution, ingresses, validIngressMap_of_valid fun ing stored =>
      isValidPipyIngress_of_pipy (known.pipy name ing stored) _]
    apply Option.ext
    intro seen
    simp only [map_present_eq_some, ingressToIngressMap_keys services]
  rw [unchanged, changes, map]
  exact known.kept

theorem RoutesKept.updateIngressMap {cache : LocalCache} (known : RoutesKept externals cache)
    (order : SyncOrder) (index : Nat) :
    RoutesKept externals (cache.updateIngressMap order index) :=
  ⟨known.keyed, known.pipy,
    known.kept.applied (Changes.applied_apply order.ingressChanges index _ _)⟩

theorem RoutesKept.classEvent {cache : LocalCache} (known : RoutesKept externals cache)
    {event : IngressFeedEvent} (isClass : IsClassEvent event) :
    RoutesKept externals (cache.feed externals event) := by
  rw [feed_of_isClassEvent cache isClass]
  exact known.congr rfl rfl rfl fun _ => rfl

/-- During a refresh no route is lost. -/
def RefreshKept (externals : Externals) (cache : LocalCache) (rest : List Ingress)
    (items : IngressChanges) : Prop :=
  Awaiting cache rest ∧ Kept present (cache.routes externals present) items cache.ingressMap

theorem RefreshKept.record {cache : LocalCache} (ing : Ingress) (rest : List Ingress)
    (items : IngressChanges) (valid : isValidPipyIngress cache.defaultIngressClass ing)
    (known : RefreshKept externals cache (ing :: rest) items) :
    RefreshKept externals cache rest
      (items.update ing.key none (ingressToIngressMap externals cache.listers (some ing))) :=
  ⟨known.1.tail, known.2.inject (routes_of_stored valid (known.1.stored ing List.mem_cons_self))⟩

theorem RoutesKept.refreshIngress {cache : LocalCache} (known : RoutesKept externals cache)
    (order : SyncOrder) : RoutesKept externals (cache.refreshIngress externals order) := by
  obtain ⟨items, refreshed, _, kept⟩ := refresh_induction RefreshKept.record
    (fun _ _ _ _ before => ⟨before.1.tail, before.2⟩)
    ⟨awaiting_listed known.keyed order.ingresses, known.kept⟩
  rw [LocalCache.refreshIngress, refreshed]
  exact ⟨known.keyed, known.pipy,
    kept.applied (Changes.applied_apply order.ingressChanges 1 _ _)⟩

theorem RoutesKept.step {cache next : LocalCache} {event : IngressFeedEvent}
    (known : RoutesKept externals cache) (pipy : AllPipy event)
    (keeps : KeepsShared externals cache event)
    (stepped : (feedMachine externals).step cache event = some next) :
    RoutesKept externals next := by
  cases stepped
  cases event with
  | ingress notice => exact known.onIngress pipy keeps
  | ingressClassAdd ingClass => exact known.classEvent trivial
  | ingressClassUpdate oldClass ingClass => exact known.classEvent trivial
  | ingressClassDelete ingClass => exact known.classEvent trivial
  | secretStored key secret => exact known.congr rfl rfl rfl fun _ => rfl
  | updateIngressMap order => exact known.updateIngressMap order 0
  | refreshIngress order => exact known.refreshIngress order

theorem RoutesKept.noneLost {cache : LocalCache} (known : RoutesKept externals cache)
    (drained : cache.ingressChanges = ∅) : NoneLost externals cache := by
  intro name ing key stored produced
  have held := known.kept.held name key
  rw [drained, Changes.known_empty, known.routes_eq, stored, Option.isSome_map] at held
  exact held produced

/-- In every run of Ingresses of this class in which no version drops a shared route, an update
of the map leaves it with all routes of the existing Ingresses. -/
theorem run_noneLost (listers : Listers) {events : List IngressFeedEvent} {final : LocalCache}
    (pipy : ∀ event ∈ events, AllPipy event)
    (guarded : (feedMachine externals).Guarded (KeepsShared externals) (withListers listers) events)
    (reached : (feedMachine externals).run (withListers listers) events = some final)
    (order : SyncOrder) : NoneLost externals (final.updateIngressMap order 0) := by
  have all := (feedMachine externals).guarded_of_forall (withListers listers) pipy
  have known : RoutesKept externals final := Machine.run_invariant _
    (fun cache event next known guarded stepped => known.step guarded.1 guarded.2 stepped)
    (routesKept_withListers listers) (all.and guarded) reached
  exact (known.updateIngressMap order 0).noneLost rfl

instance : ∀ event, Decidable (AllPipy event)
  | .ingress notice => inferInstanceAs (Decidable
      (∀ ing ∈ notice.current, ingressClass ing = ingressPipyClass))
  | .ingressClassAdd _ | .ingressClassUpdate _ _ | .ingressClassDelete _ | .secretStored _ _
  | .updateIngressMap _ | .refreshIngress _ => inferInstanceAs (Decidable True)

instance (cache : LocalCache) : ∀ event, Decidable (KeepsShared externals cache event)
  | .ingress _ => inferInstanceAs (Decidable (_ ∧ _))
  | .ingressClassAdd _ | .ingressClassUpdate _ _ | .ingressClassDelete _ | .secretStored _ _
  | .updateIngressMap _ | .refreshIngress _ => inferInstanceAs (Decidable True)

/-- The Ingresses of all names have the same route. -/
def sharingIngress (name : String) : Ingress := { classedIngress "pipy" with name }

/-- Two Ingresses with one route are applied. -/
def sharedRun : List IngressFeedEvent :=
  [.ingress (.stored (sharingIngress "a")), .ingress (.stored (sharingIngress "b")),
    .updateIngressMap .stored]

theorem run_noneLost_resync :
    ∃ final, (feedMachine exampleExternals).run (withListers .empty)
        (sharedRun ++ [.ingress (.stored (sharingIngress "b"))]) = some final ∧
      NoneLost exampleExternals (final.updateIngressMap .stored 0) :=
  ⟨_, rfl, @run_noneLost exampleExternals .empty
    (sharedRun ++ [.ingress (.stored (sharingIngress "b"))]) _ (by decide +kernel)
    (by decide +kernel) rfl .stored⟩

/-- The delete of one Ingress takes the route of the other one away. -/
theorem run_loses_shared :
    ∃ final, (feedMachine exampleExternals).run (withListers .empty)
        (sharedRun ++ [.ingress (.deleted ⟨"default", "b"⟩)]) = some final ∧
      ¬ NoneLost exampleExternals (final.updateIngressMap .stored 0) := by
  refine ⟨_, rfl, fun noneLost => ?_⟩
  have held := noneLost ⟨"default", "a"⟩ (sharingIngress "a")
    ⟨⟨⟨"default", "web"⟩, "http", .tcp⟩, "example.com", "/*"⟩ rfl rfl
  exact absurd held (by decide +kernel)

end LocalCache
end ErieCanal.Cache
