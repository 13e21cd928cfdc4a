import ErieCanal.Proof.Cache.GhostRoutes

namespace ErieCanal.Cache.LocalCache
open Lib CoreV1 NetworkingV1 IngressPipy

variable {externals : Externals}

/-- Some existing valid Ingress has this route key with the current Services. -/
def Computed (externals : Externals) (cache : LocalCache) (key : RouteKey) : Prop :=
  ∃ name ing, cache.listers.ingresses.lookup name = some ing ∧
    isValidPipyIngress cache.defaultIngressClass ing ∧
      (GoMap.find (ingressToIngressMap externals cache.listers (some ing)) key).isSome

/-- The keys of the map are the route keys of the existing valid Ingresses. -/
def Rebuilt (externals : Externals) (cache : LocalCache) : Prop :=
  ∀ key, (cache.ingressMap.lookup key).isSome ↔ cache.Computed externals key

/-- The pending changes of a refresh bring the routes of the Ingresses that it has handed on. -/
structure Refreshed (externals : Externals) (cache : LocalCache) (rest : List Ingress)
    (items : IngressChanges) : Prop where
  keyed : Notice.Keyed Ingress.key cache.listers.ingresses
  awaiting : Awaiting cache rest
  untouched : ∀ ing ∈ rest, items.lookup ing.key = none
  recorded : ∀ name change, items.lookup name = some change →
    ∃ ing, cache.listers.ingresses.lookup name = some ing ∧
      isValidPipyIngress cache.defaultIngressClass ing ∧
        change = ⟨none, ingressToIngressMap externals cache.listers (some ing)⟩
  handed : ∀ name ing, cache.listers.ingresses.lookup name = some ing →
    isValidPipyIngress cache.defaultIngressClass ing →
      ing ∈ rest ∨ ∃ change, items.lookup name = some change

theorem Refreshed.start {cache : LocalCache}
    (keyed : Notice.Keyed Ingress.key cache.listers.ingresses) (drained : cache.ingressChanges = ∅)
    (range : RangeOrder Ingress) :
    Refreshed externals cache (range.order 0 (GoMap.values cache.listers.ingresses))
      cache.ingressChanges where
  keyed := keyed
  awaiting := awaiting_listed keyed range
  untouched := fun ing _ => by rw [drained]; rfl
  recorded := fun name change pending => by rw [drained] at pending; cases pending
  handed := fun name ing stored _ =>
    Or.inl ((range.mem_order _ _ _).mpr ((GoMap.mem_values _ _).mpr ⟨name, stored⟩))

theorem Refreshed.record {cache : LocalCache} (ing : Ingress) (rest : List Ingress)
    (items : IngressChanges) (valid : isValidPipyIngress cache.defaultIngressClass ing)
    (known : Refreshed externals cache (ing :: rest) items) :
    Refreshed externals cache rest
      (items.update ing.key none (ingressToIngressMap externals cache.listers (some ing))) := by
  have stored := known.awaiting.stored ing List.mem_cons_self
  have fresh := known.untouched ing List.mem_cons_self
  have apart := (List.nodup_cons.mp known.awaiting.nodup).1
  have own : (items.update ing.key none
      (ingressToIngressMap externals cache.listers (some ing))).lookup ing.key =
        some ⟨none, ingressToIngressMap externals cache.listers (some ing)⟩ := by
    rw [Changes.lookup_update, Changes.record, fresh]
    rfl
  refine ⟨known.keyed, known.awaiting.tail, fun other member => ?_, fun name change pending => ?_,
    fun name other held correct => ?_⟩
  · have different : other.key ≠ ing.key :=
      fun same => apart (same ▸ List.mem_map_of_mem member)
    rw [Changes.lookup_update_ne _ different]
    exact known.untouched other (List.mem_cons_of_mem _ member)
  · by_cases same : name = ing.key
    · subst same
      rw [own, Option.some.injEq] at pending
      exact ⟨ing, stored, valid, pending.symm⟩
    · rw [Changes.lookup_update_ne _ same] at pending
      exact known.recorded name change pending
  · by_cases same : name = ing.key
    · subst same
      exact Or.inr ⟨_, own⟩
    · rw [Changes.lookup_update_ne _ same]
      refine (known.handed name other held correct).imp_left fun member => ?_
      rcases List.mem_cons.mp member with rfl | later
      · exact absurd (known.keyed name other held).symm same
      · exact later

theorem Refreshed.skip {cache : LocalCache} (ing : Ingress) (rest : List Ingress)
    (items : IngressChanges) (invalid : ¬ isValidPipyIngress cache.defaultIngressClass ing)
    (known : Refreshed externals cache (ing :: rest) items) :
    Refreshed externals cache rest items where
  keyed := known.keyed
  awaiting := known.awaiting.tail
  untouched := fun other member => known.untouched other (List.mem_cons_of_mem _ member)
  recorded := known.recorded
  handed := by
    intro name other stored valid
    refine (known.handed name other stored valid).imp_left fun member => ?_
    rcases List.mem_cons.mp member with rfl | later
    · exact absurd valid invalid
    · exact later

/-- A refresh with nothing pending adds the computed keys and removes none. -/
theorem refreshIngress_isSome {cache : LocalCache}
    (keyed : Notice.Keyed Ingress.key cache.listers.ingresses) (drained : cache.ingressChanges = ∅)
    (order : SyncOrder) (key : RouteKey) :
    ((cache.refreshIngress externals order).ingressMap.lookup key).isSome ↔
      (cache.ingressMap.lookup key).isSome ∨ cache.Computed externals key := by
  obtain ⟨items, refreshed, known⟩ := refresh_induction Refreshed.record Refreshed.skip
    (Refreshed.start keyed drained order.ingresses)
  have applied := Changes.applied_apply order.ingressChanges 1 items cache.ingressMap
  rw [LocalCache.refreshIngress, refreshed]
  constructor
  · intro held
    obtain ⟨info, found⟩ := Option.isSome_iff_exists.mp held
    rcases applied.source found with ⟨name, change, pending, brought⟩ | ⟨old, -⟩
    · obtain ⟨ing, stored, valid, rfl⟩ := known.recorded name change pending
      exact Or.inr ⟨name, ing, stored, valid, by rw [brought]; rfl⟩
    · exact Or.inl (by rw [old]; rfl)
  · intro there
    refine applied.isSome (fun name change pending removes => ?_) (there.imp_right ?_)
    · obtain ⟨ing, -, -, rfl⟩ := known.recorded name change pending
      exact absurd removes.1 (by simp)
    · rintro ⟨name, ing, stored, valid, translated⟩
      rcases known.handed name ing stored valid with member | ⟨change, pending⟩
      · cases member
      · obtain ⟨other, held, -, rfl⟩ := known.recorded name change pending
        obtain rfl := Option.some.inj (stored.symm.trans held)
        exact ⟨name, _, pending, translated⟩

section Run
variable {hash64 : List Route.IngressRouteSpec → UInt64}

/-- The informer stores an Ingress under its own name. -/
def StoredUnderKey : CacheEvent → Prop
  | .ingressStored key (some ing) => ing.key = key
  | _ => True

/-- Only the informer changes the stored Ingresses. -/
theorem handle_ingresses {cache next : LocalCache} {event : CacheEvent}
    (handled : cache.handle externals hash64 event = some next) :
    next.listers.ingresses = cache.listers.ingresses ∨
      ∃ key ingress, event = .ingressStored key ingress ∧
        next.listers.ingresses = (storeIngress key ingress cache.listers).ingresses := by
  cases event with
  | ingressStored key ingress =>
      cases handled
      exact Or.inr ⟨key, ingress, rfl, rfl⟩
  | ingressClassAdd ingClass =>
      cases handled
      left
      unfold updateDefaultIngressClass
      split <;> rfl
  | ingressClassUpdate oldClass ingClass =>
      left
      simp only [handle] at handled
      split at handled
      · cases handled
        rfl
      · cases handled
        unfold updateDefaultIngressClass
        split <;> rfl
  | ingressClassDelete ingClass =>
      cases handled
      left
      unfold updateDefaultIngressClass
      split <;> rfl
  | syncRoutes order servicesChanged =>
      left
      simp only [handle] at handled
      split at handled
      · cases handled
        cases servicesChanged <;> rfl
      · cases handled
  | refreshNext =>
      left
      simp only [handle] at handled
      split at handled
      · cases handled
        unfold LocalCache.refreshNext
        split <;> rfl
      · cases handled
  | refreshDone order =>
      left
      simp only [handle] at handled
      split at handled
      · cases handled
        rfl
      · cases handled
  | _ =>
      cases handled
      exact Or.inl rfl

theorem keyed_step (cache : LocalCache) (event : CacheEvent) (next : LocalCache)
    (keyed : Notice.Keyed Ingress.key cache.listers.ingresses) (own : StoredUnderKey event)
    (stepped : (machine externals hash64).step cache event = some next) :
    Notice.Keyed Ingress.key next.listers.ingresses := by
  simp only [machine] at stepped
  split at stepped
  · cases stepped
  · rcases handle_ingresses stepped with same | ⟨key, ingress, rfl, written⟩
    · rwa [same]
    · rw [written]
      cases ingress with
      | none => exact keyed.deliver _ (.deleted key)
      | some ing =>
          have same : ing.key = key := own
          subst same
          exact keyed.deliver _ (.stored ing)

theorem refreshNext_refreshing (ing : Ingress) (cache : LocalCache)
    (refreshing : Option (List Ingress)) :
    LocalCache.refreshNext externals ing { cache with refreshing } =
      { cache.refreshNext externals ing with refreshing } := by
  unfold LocalCache.refreshNext
  split <;> rfl

/-- The rounds of a refresh do not look at the Ingresses that it still holds. -/
theorem foldl_refreshNext_refreshing (listed : List Ingress) (cache : LocalCache)
    (refreshing : Option (List Ingress)) :
    listed.foldl (fun cache ing => cache.refreshNext externals ing) { cache with refreshing } =
      { listed.foldl (fun cache ing => cache.refreshNext externals ing) cache with refreshing } := by
  induction listed generalizing cache with
  | nil => rfl
  | cons ing rest ih => rw [List.foldl_cons, List.foldl_cons, refreshNext_refreshing, ih]

/-- The steps of an undisturbed refresh do what `refreshIngress` does. -/
theorem run_refreshing (order : SyncOrder) (listed : List Ingress) (cache : LocalCache)
    (running : cache.crashed = false) (begun : cache.refreshing = some listed) :
    (machine externals hash64).run cache
        (List.replicate listed.length .refreshNext ++ [.refreshDone order]) =
      some (finishSync externals hash64 order
        { (listed.foldl (fun cache ing => cache.refreshNext externals ing) cache).updateIngressMap
            order 1 with refreshing := none }) := by
  induction listed generalizing cache with
  | nil => simp [machine, Machine.run, handle, running, begun]
  | cons ing rest ih =>
      have stepped : (machine externals hash64).step cache .refreshNext =
          some { cache.refreshNext externals ing with refreshing := some rest } := by
        simp [machine, handle, running, begun]
      have unbroken : (cache.refreshNext externals ing).crashed = false := by
        unfold LocalCache.refreshNext
        split <;> exact running
      have continued := ih { cache.refreshNext externals ing with refreshing := some rest } unbroken
        rfl
      rw [foldl_refreshNext_refreshing] at continued
      rw [List.length_cons, List.replicate_succ, List.cons_append, Machine.run, stepped]
      exact continued

/-- An undisturbed refresh leaves exactly the keys of the existing valid Ingresses exactly when the
map has no other keys before it. -/
theorem run_rebuilt_iff (externals : Externals) (hash64 : List Route.IngressRouteSpec → UInt64)
    (events : List CacheEvent) (stored : ∀ event ∈ events, StoredUnderKey event)
    (cache : LocalCache)
    (reached : (machine externals hash64).run newLocalCache events = some cache)
    (running : cache.crashed = false) (drained : cache.ingressChanges = ∅) (order : SyncOrder)
    (listed : cache.refreshing =
      some (order.ingresses.order 0 (GoMap.values cache.listers.ingresses))) :
    ∃ final, (machine externals hash64).run cache
        (List.replicate (order.ingresses.order 0 (GoMap.values cache.listers.ingresses)).length
          .refreshNext ++ [.refreshDone order]) = some final ∧
      (Rebuilt externals final ↔ NoGhosts externals cache) := by
  have keyed : Notice.Keyed Ingress.key cache.listers.ingresses :=
    (machine externals hash64).run_invariant keyed_step (Notice.keyed_empty Ingress.key)
      ((machine externals hash64).guarded_of_forall newLocalCache stored) reached
  refine ⟨_, run_refreshing order _ cache running listed, ?_⟩
  -- The refresh leaves the stored objects and the default class as they are.
  have after (key : RouteKey) :=
    (@refreshIngress_isSome externals cache keyed drained order key)
  obtain ⟨items, kept, -⟩ := @refresh_induction externals cache (fun _ _ => True)
    (order.ingresses.order 0 (GoMap.values cache.listers.ingresses))
    (fun _ _ _ _ _ => trivial) (fun _ _ _ _ _ => trivial) trivial
  rw [LocalCache.refreshIngress, kept] at after
  rw [kept]
  constructor
  · intro rebuilt key held
    exact (rebuilt key).mp ((after key).mpr (Or.inl held))
  · intro noGhosts key
    refine (after key).trans ⟨fun there => ?_, Or.inr⟩
    exact there.elim (noGhosts key) id

end Run

/-- The Service has port 80 under this name. -/
def namedService (portName : String) : Service where
  ns := "default"
  name := "web"
  type := .clusterIP
  ports := [⟨portName, .tcp, none, 80, .int 80, 0⟩]

/-- The Ingress names its backend by the port number. -/
def numberedIngress : Ingress where
  ns := "default"
  name := "web"
  annotations := some ∅
  ingressClassName := some "pipy"
  tls := []
  rules := [⟨"example.com", some [⟨"/", .pathPrefix, some ⟨"web", ⟨"", 80⟩⟩⟩]⟩]

def namedKey (portName : String) : RouteKey :=
  ⟨⟨⟨"default", "web"⟩, portName, .tcp⟩, "example.com", "/*"⟩

/-- The Ingress is stored and the sync begins its refresh before the handler is called. -/
theorem run_rebuilt_first :
    ∃ cache final, (machine exampleExternals fun _ => 0).run newLocalCache
        [.serviceStored ⟨"default", "web"⟩ (some (namedService "http")),
          .ingressStored ⟨"default", "web"⟩ (some numberedIngress), .syncRoutes .stored true] =
        some cache ∧
      (machine exampleExternals fun _ => 0).run cache [.refreshNext, .refreshDone .stored] =
        some final ∧
      (final.ingressMap.lookup (namedKey "http")).isSome ∧ Rebuilt exampleExternals final := by
  have stored : ∀ event ∈ ([.serviceStored ⟨"default", "web"⟩ (some (namedService "http")),
      .ingressStored ⟨"default", "web"⟩ (some numberedIngress), .syncRoutes .stored true] :
        List CacheEvent), StoredUnderKey event := by
    simp [StoredUnderKey, numberedIngress, Ingress.key]
  obtain ⟨final, refreshed, rebuilt⟩ := run_rebuilt_iff exampleExternals (fun _ => 0)
    [.serviceStored ⟨"default", "web"⟩ (some (namedService "http")),
      .ingressStored ⟨"default", "web"⟩ (some numberedIngress), .syncRoutes .stored true]
    stored _ rfl rfl rfl .stored rfl
  cases refreshed
  refine ⟨_, _, rfl, rfl, by decide +kernel, rebuilt.mpr ?_⟩
  intro key held
  cases held

/-- The port is renamed after the route was computed, and the refresh keeps the old route. -/
theorem run_keeps_renamed :
    ∃ cache final, (machine exampleExternals fun _ => 0).run newLocalCache
        [.serviceStored ⟨"default", "web"⟩ (some (namedService "http")),
          .ingressStored ⟨"default", "web"⟩ (some numberedIngress),
          .ingressUpdate none (some numberedIngress), .syncRoutes .stored false,
          .serviceStored ⟨"default", "web"⟩ (some (namedService "web")),
          .syncRoutes .stored true] = some cache ∧
      cache.ingressChanges = ∅ ∧
      (machine exampleExternals fun _ => 0).run cache [.refreshNext, .refreshDone .stored] =
        some final ∧
      ¬ Rebuilt exampleExternals final := by
  refine ⟨_, _, rfl, rfl, rfl, fun rebuilt => ?_⟩
  obtain ⟨name, ing, stored, -, translated⟩ := (rebuilt (namedKey "http")).mp rfl
  have member : ing ∈ [numberedIngress] := (GoMap.mem_values _ ing).mpr ⟨name, stored⟩
  rw [List.mem_singleton.mp member] at translated
  exact absurd translated (by decide +kernel)

end ErieCanal.Cache.LocalCache
