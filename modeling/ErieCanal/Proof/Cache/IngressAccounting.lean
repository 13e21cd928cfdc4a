import ErieCanal.Construction.Cache.IngressFeed

namespace ErieCanal.Cache
open Lib CoreV1 NetworkingV1 IngressPipy

/-- The routes of an Ingress that has the class of this controller. -/
def validIngressMap (externals : Externals) (listers : Listers) (defaultIngressClass : String)
    (ing : Option Ingress) : Option IngressMap :=
  ingressToIngressMap externals listers (ing.filter (isValidPipyIngress defaultIngressClass))

/-- Two maps have the same keys. -/
def SameKeys (first second : IngressMap) : Prop :=
  ∀ key, (first.lookup key).isSome = (second.lookup key).isSome

theorem SameKeys.insert {first second : IngressMap} (same : SameKeys first second) (key : RouteKey)
    (one two : BaseIngressInfo) : SameKeys (first.insert key one) (second.insert key two) := by
  intro query
  by_cases this : query = key
  · subst this
    rw [AList.lookup_insert, AList.lookup_insert]
    rfl
  · rw [AList.lookup_insert_ne this, AList.lookup_insert_ne this, same]

section RouteKeys
variable {externals : Externals} {listers others : Listers}
  (services : ∀ key, findService listers key = findService others key)

include services in
theorem servicePortName_congr (ns : String) (service : IngressServiceBackend) :
    servicePortName listers ns service = servicePortName others ns service := by
  simp only [servicePortName, services]

include services in
theorem SameKeys.addPath {first second : IngressMap} (same : SameKeys first second) (ing : Ingress)
    (rule : IngressRule) (path : HTTPIngressPath) :
    SameKeys (addPath externals listers ing rule first path)
      (addPath externals others ing rule second path) := by
  unfold Cache.addPath
  split
  · exact same
  · rw [servicePortName_congr services]
    split
    · exact same
    · split
      · exact same
      · rename_i svcPortName _ _ info _
        by_cases taken : (first.lookup ⟨svcPortName, info.host, info.path⟩).isSome
        · rw [if_pos taken, if_pos ((same _).symm.trans taken)]
          exact same
        · rw [if_neg taken, if_neg fun held => taken ((same _).trans held)]
          exact same.insert _ _ _

include services in
/-- The route keys of an Ingress depend on the Services only. -/
theorem ingressToIngressMap_keys (ing : Option Ingress) (key : RouteKey) :
    (GoMap.find (ingressToIngressMap externals listers ing) key).isSome =
      (GoMap.find (ingressToIngressMap externals others ing) key).isSome := by
  cases ing with
  | none => rfl
  | some ing =>
      -- The two translations run the same loops, so their maps keep the same keys.
      have same : SameKeys (ing.rules.foldl (fun map rule =>
            (rule.http.getD []).foldl (addPath externals listers ing rule) map) ∅)
          (ing.rules.foldl (fun map rule =>
            (rule.http.getD []).foldl (addPath externals others ing rule) map) ∅) := by
        apply List.foldl_rel (fun _ => rfl)
        intro rule _ first second same
        apply List.foldl_rel same
        intro path _ first second same
        exact same.addPath services ing rule path
      exact same key

end RouteKeys

theorem track_of_valid (externals : Externals) (listers : Listers) (items : IngressChanges)
    {defaultIngressClass : String} {previous current : Option Ingress} {ing : Ingress}
    (event : current.or previous = some ing) (valid : isValidPipyIngress defaultIngressClass ing) :
    items.track externals listers defaultIngressClass previous current =
      items.update ing.key (ingressToIngressMap externals listers previous)
        (ingressToIngressMap externals listers current) := by
  simp only [IngressChanges.track, event, if_pos valid]

theorem track_of_invalid {externals : Externals} {listers : Listers} {defaultIngressClass : String}
    {items : IngressChanges} {previous current : Option Ingress}
    (ignored : ∀ ing, current.or previous = some ing →
      ¬ isValidPipyIngress defaultIngressClass ing) :
    items.track externals listers defaultIngressClass previous current = items := by
  unfold IngressChanges.track
  split
  · rfl
  · rename_i ing event
    rw [if_neg (ignored ing event)]

namespace LocalCache
variable {Seen : Type} (externals : Externals) (see : BaseIngressInfo → Seen)

/-- The valid Ingresses contribute their routes. -/
def routes (cache : LocalCache) : NamespacedName → RouteKey → Option Seen :=
  contribution see (validIngressMap externals cache.listers cache.defaultIngressClass)
    cache.listers.ingresses

/-- Every route of the map, and of the pending changes, stems from a valid Ingress. -/
structure RoutesAccounted (cache : LocalCache) : Prop where
  keyed : Notice.Keyed Ingress.key cache.listers.ingresses
  accounted : Accounted see (cache.routes externals see) cache.ingressChanges cache.ingressMap
    fun _ => False

theorem routesAccounted_withListers (listers : Listers) :
    RoutesAccounted externals see (withListers listers) where
  keyed := Notice.keyed_empty _
  accounted := accounted_empty

/-- No step makes an existing valid Ingress invalid. -/
def StaysValid (cache : LocalCache) (event : IngressFeedEvent) : Prop :=
  ∀ name, ∀ old ∈ cache.listers.ingresses.lookup name,
    ∀ new ∈ (cache.feed externals event).listers.ingresses.lookup name,
      isValidPipyIngress cache.defaultIngressClass old →
        isValidPipyIngress (cache.feed externals event).defaultIngressClass new

variable {externals see} {cache : LocalCache} {ing : Ingress}
  {notice : Notice NamespacedName Ingress} {event : IngressFeedEvent}

/-- The routes of a valid Ingress are its translation. -/
theorem validIngressMap_of_contributes {listers : Listers} {defaultIngressClass : String}
    {ing : Option Ingress} {key : RouteKey} {seen : Seen}
    (contributes : (GoMap.find (validIngressMap externals listers defaultIngressClass ing) key).map
      see = some seen) :
    ∃ live, ing = some live ∧ isValidPipyIngress defaultIngressClass live ∧
      (GoMap.find (ingressToIngressMap externals listers (some live)) key).map see = some seen := by
  unfold validIngressMap at contributes
  cases kept : ing.filter (isValidPipyIngress defaultIngressClass) with
  | none =>
      rw [kept] at contributes
      cases contributes
  | some live =>
      obtain ⟨found, valid⟩ := Option.filter_eq_some_iff.mp kept
      rw [kept] at contributes
      exact ⟨live, found, valid, contributes⟩

theorem validIngressMap_of_valid {listers : Listers} {defaultIngressClass : String}
    {ing : Option Ingress} (valid : ∀ live ∈ ing, isValidPipyIngress defaultIngressClass live) :
    validIngressMap externals listers defaultIngressClass ing =
      ingressToIngressMap externals listers ing := by
  cases ing with
  | none => rfl
  | some live => simp [validIngressMap, Option.filter, valid live rfl]

/-- The tracker records an event about a valid Ingress. -/
theorem onIngress_records (keyed : Notice.Keyed Ingress.key cache.listers.ingresses)
    (event : notice.current.or (cache.listers.ingresses.lookup (notice.name Ingress.key)) =
      some ing)
    (valid : isValidPipyIngress cache.defaultIngressClass ing) :
    (cache.onIngress externals notice).ingressChanges =
      cache.ingressChanges.update (notice.name Ingress.key)
        (ingressToIngressMap externals cache.listers
          (cache.listers.ingresses.lookup (notice.name Ingress.key)))
        (ingressToIngressMap externals cache.listers notice.current) := by
  have recorded := track_of_valid externals cache.listers cache.ingressChanges event valid
  rw [keyed.name_of_event _ event] at recorded
  exact recorded

/-- The tracker ignores every other event. -/
theorem onIngress_ignores (ignored : ∀ ing,
      notice.current.or (cache.listers.ingresses.lookup (notice.name Ingress.key)) = some ing →
        ¬ isValidPipyIngress cache.defaultIngressClass ing) :
    (cache.onIngress externals notice).ingressChanges = cache.ingressChanges :=
  track_of_invalid ignored

theorem RoutesAccounted.onIngress (known : RoutesAccounted externals see cache)
    (stays : StaysValid externals cache (.ingress notice)) :
    RoutesAccounted externals see (cache.onIngress externals notice) := by
  refine ⟨known.keyed.deliver _ notice, ?_⟩
  have same (other : NamespacedName) (different : other ≠ notice.name Ingress.key) :
      (cache.onIngress externals notice).routes externals see other =
        cache.routes externals see other := contribution_deliver_ne _ notice different
  have after (key : RouteKey) :
      (cache.onIngress externals notice).routes externals see (notice.name Ingress.key) key =
        (GoMap.find (validIngressMap externals cache.listers cache.defaultIngressClass
          notice.current) key).map see := contribution_deliver _ notice key
  by_cases processed : ∃ ing,
      notice.current.or (cache.listers.ingresses.lookup (notice.name Ingress.key)) = some ing ∧
        isValidPipyIngress cache.defaultIngressClass ing
  · obtain ⟨ing, event, valid⟩ := processed
    rw [onIngress_records known.keyed event valid]
    refine known.accounted.update same (fun key => ?_) (fun _ => id) ?_ (fun never => never.elim)
    · rw [after, validIngressMap_of_valid]
      intro live current
      rw [Option.mem_def.mp current] at event
      cases event
      exact valid
    · intro _ key value _ contributes
      obtain ⟨live, stored, _, translated⟩ := validIngressMap_of_contributes contributes
      rw [stored]
      exact .inl translated
  · -- The tracker ignores the event, and the Ingress contributed nothing before it.
    rw [onIngress_ignores fun ing event valid => processed ⟨ing, event, valid⟩]
    refine known.accounted.grow fun name key seen contributes => ?_
    by_cases this : name = notice.name Ingress.key
    · subst this
      obtain ⟨old, stored, valid, _⟩ := validIngressMap_of_contributes contributes
      cases now : notice.current with
      | none => exact absurd ⟨old, by rw [now, stored]; rfl, valid⟩ processed
      | some new =>
          refine absurd ⟨new, by rw [now]; rfl, ?_⟩ processed
          refine stays _ old stored new ?_ valid
          rw [Option.mem_def, ← now]
          exact (Notice.lookup_deliver _ notice _ _).trans (if_pos rfl)
    · rwa [same name this]

/-- A step that touches neither the Ingresses nor the map keeps the routes accounted, as long as
no Ingress contributes less. -/
theorem RoutesAccounted.grow {cache next : LocalCache} (known : RoutesAccounted externals see cache)
    (ingresses : next.listers.ingresses = cache.listers.ingresses)
    (changes : next.ingressChanges = cache.ingressChanges)
    (map : next.ingressMap = cache.ingressMap)
    (more : ∀ name key seen, cache.routes externals see name key = some seen →
      next.routes externals see name key = some seen) :
    RoutesAccounted externals see next := by
  refine ⟨ingresses ▸ known.keyed, ?_⟩
  rw [changes, map]
  exact known.accounted.grow more

/-- A default class that keeps the valid Ingresses valid only adds routes. -/
theorem RoutesAccounted.setDefault (known : RoutesAccounted externals see cache)
    {className : String}
    (stays : ∀ name, ∀ ing ∈ cache.listers.ingresses.lookup name,
      isValidPipyIngress cache.defaultIngressClass ing → isValidPipyIngress className ing) :
    RoutesAccounted externals see { cache with defaultIngressClass := className } := by
  refine known.grow rfl rfl rfl fun name key seen contributes => ?_
  obtain ⟨live, stored, valid, translated⟩ := validIngressMap_of_contributes contributes
  rw [routes, contribution, stored, validIngressMap_of_valid]
  · exact translated
  · intro ing member
    cases member
    exact stays name live stored valid

/-- These events are about IngressClasses. -/
def IsClassEvent : IngressFeedEvent → Prop
  | .ingressClassAdd _ | .ingressClassUpdate _ _ | .ingressClassDelete _ => True
  | _ => False

/-- An IngressClass event changes at most the default class. -/
theorem feed_of_isClassEvent (cache : LocalCache) (isClass : IsClassEvent event) :
    cache.feed externals event =
      { cache with defaultIngressClass := (cache.feed externals event).defaultIngressClass } := by
  have updated (ingClass : IngressClass) (className : String) :
      cache.updateDefaultIngressClass ingClass className = { cache with
        defaultIngressClass :=
          (cache.updateDefaultIngressClass ingClass className).defaultIngressClass } := by
    unfold updateDefaultIngressClass
    split <;> rfl
  cases event with
  | ingressClassAdd ingClass => exact updated ingClass _
  | ingressClassUpdate oldClass ingClass =>
      simp only [feed]
      split
      · rfl
      · exact updated ingClass _
  | ingressClassDelete ingClass => exact updated ingClass _
  | _ => cases isClass

theorem RoutesAccounted.classEvent (known : RoutesAccounted externals see cache)
    (isClass : IsClassEvent event) (stays : StaysValid externals cache event) :
    RoutesAccounted externals see (cache.feed externals event) := by
  rw [feed_of_isClassEvent cache isClass]
  refine known.setDefault fun name ing stored valid => stays name ing stored ing ?_ valid
  rw [feed_of_isClassEvent cache isClass]
  exact stored

theorem RoutesAccounted.updateIngressMap (known : RoutesAccounted externals see cache)
    (order : SyncOrder) (index : Nat) :
    RoutesAccounted externals see (cache.updateIngressMap order index) :=
  ⟨known.keyed,
    known.accounted.applied (Changes.applied_apply order.ingressChanges index _ _) _⟩

/-- The refresh records a valid Ingress without its old version. -/
theorem refreshNext_of_valid (valid : isValidPipyIngress cache.defaultIngressClass ing) :
    cache.refreshNext externals ing = { cache with
      ingressChanges := cache.ingressChanges.update ing.key none
        (ingressToIngressMap externals cache.listers (some ing)) } := by
  simp only [refreshNext, onIngressUpdate, IngressChanges.track, Option.some_or, if_pos valid]
  rfl

/-- A refresh records the valid ones of the listed Ingresses one after another. -/
theorem refresh_induction {motive : List Ingress → IngressChanges → Prop} {listed : List Ingress}
    (records : ∀ ing rest items, isValidPipyIngress cache.defaultIngressClass ing →
      motive (ing :: rest) items → motive rest (items.update ing.key none
        (ingressToIngressMap externals cache.listers (some ing))))
    (skips : ∀ ing rest items, ¬ isValidPipyIngress cache.defaultIngressClass ing →
      motive (ing :: rest) items → motive rest items)
    (start : motive listed cache.ingressChanges) :
    ∃ items, listed.foldl (fun cache ing => cache.refreshNext externals ing) cache =
      { cache with ingressChanges := items } ∧ motive [] items := by
  induction listed generalizing cache with
  | nil => exact ⟨cache.ingressChanges, rfl, start⟩
  | cons ing rest ih =>
      rw [List.foldl_cons]
      by_cases valid : isValidPipyIngress cache.defaultIngressClass ing
      · rw [refreshNext_of_valid valid]
        exact ih records skips (records ing rest _ valid start)
      · rw [refreshNext, if_neg valid]
        exact ih records skips (skips ing rest _ valid start)

/-- A stored valid Ingress contributes its translation. -/
theorem routes_of_stored (valid : isValidPipyIngress cache.defaultIngressClass ing)
    (stored : cache.listers.ingresses.lookup ing.key = some ing) (key : RouteKey) :
    (GoMap.find (ingressToIngressMap externals cache.listers (some ing)) key).map see =
      cache.routes externals see ing.key key := by
  rw [routes, contribution, stored, validIngressMap_of_valid]
  intro live member
  cases member
  exact valid

/-- The Ingresses that a refresh still has to hand on are stored under different names. -/
structure Awaiting (cache : LocalCache) (rest : List Ingress) : Prop where
  stored : ∀ ing ∈ rest, cache.listers.ingresses.lookup ing.key = some ing
  nodup : (rest.map Ingress.key).Nodup

theorem Awaiting.tail {rest : List Ingress}
    (awaiting : Awaiting cache (ing :: rest)) : Awaiting cache rest where
  stored other member := awaiting.stored other (List.mem_cons_of_mem _ member)
  nodup := (List.nodup_cons.mp awaiting.nodup).2

theorem awaiting_listed (keyed : Notice.Keyed Ingress.key cache.listers.ingresses)
    (range : RangeOrder Ingress) :
    Awaiting cache (range.order 0 (GoMap.values cache.listers.ingresses)) := by
  have listed := range.perm 0 (GoMap.values cache.listers.ingresses)
  exact ⟨fun ing member => keyed.lookup_of_mem _ (listed.mem_iff.mp member),
    (listed.map Ingress.key).nodup_iff.mpr keyed.nodup⟩

/-- During a refresh the changes of the handed on Ingresses do not know the map, but they overwrite
their routes; each name is handed on once. -/
def RefreshAccounted (externals : Externals) (see : BaseIngressInfo → Seen) (cache : LocalCache)
    (rest : List Ingress) (items : IngressChanges) : Prop :=
  Awaiting cache rest ∧ ∃ loose,
    Accounted see (cache.routes externals see) items cache.ingressMap loose ∧
      ∀ ing ∈ rest, ¬ loose ing.key

theorem RefreshAccounted.record (ing : Ingress) (rest : List Ingress)
    (items : IngressChanges) (valid : isValidPipyIngress cache.defaultIngressClass ing)
    (known : RefreshAccounted externals see cache (ing :: rest) items) :
    RefreshAccounted externals see cache rest
      (items.update ing.key none (ingressToIngressMap externals cache.listers (some ing))) := by
  obtain ⟨awaiting, loose, accounted, fresh⟩ := known
  have stored := awaiting.stored ing List.mem_cons_self
  have unseen := fresh ing List.mem_cons_self
  refine ⟨awaiting.tail, fun name => loose name ∨ name = ing.key,
    accounted.update (fun _ _ => rfl) (routes_of_stored valid stored) (fun _ => .inl)
      (fun _ key value _ contributes => .inr ⟨.inr rfl, contributes⟩)
      (fun isLoose => absurd isLoose unseen), ?_⟩
  rintro other member (isLoose | same)
  · exact fresh other (List.mem_cons_of_mem _ member) isLoose
  · exact (List.nodup_cons.mp awaiting.nodup).1 (same ▸ List.mem_map_of_mem member)

theorem RefreshAccounted.skip (ing : Ingress) (rest : List Ingress)
    (items : IngressChanges) (_ : ¬ isValidPipyIngress cache.defaultIngressClass ing)
    (known : RefreshAccounted externals see cache (ing :: rest) items) :
    RefreshAccounted externals see cache rest items := by
  obtain ⟨awaiting, loose, accounted, fresh⟩ := known
  exact ⟨awaiting.tail, loose, accounted,
    fun other member => fresh other (List.mem_cons_of_mem _ member)⟩

theorem RoutesAccounted.refreshIngress (known : RoutesAccounted externals see cache)
    (order : SyncOrder) :
    RoutesAccounted externals see (cache.refreshIngress externals order) := by
  obtain ⟨items, refreshed, _, loose, accounted, _⟩ := refresh_induction
    RefreshAccounted.record RefreshAccounted.skip
    ⟨awaiting_listed known.keyed order.ingresses, _, known.accounted, fun _ _ => id⟩
  rw [LocalCache.refreshIngress, refreshed]
  exact ⟨known.keyed, accounted.applied (Changes.applied_apply order.ingressChanges 1 _ _) _⟩

/-- A Secret that changes leaves what is seen of the routes as it is. -/
def KeepsSeen (externals : Externals) (see : BaseIngressInfo → Seen) (cache : LocalCache) :
    IngressFeedEvent → Prop
  | .secretStored key secret =>
      (cache.feed externals (.secretStored key secret)).routes externals see =
        cache.routes externals see
  | _ => True

theorem RoutesAccounted.step {cache next : LocalCache}
    (known : RoutesAccounted externals see cache) (stays : StaysValid externals cache event)
    (keeps : KeepsSeen externals see cache event)
    (stepped : (feedMachine externals).step cache event = some next) :
    RoutesAccounted externals see next := by
  cases stepped
  cases event with
  | ingress notice => exact known.onIngress stays
  | ingressClassAdd ingClass => exact known.classEvent trivial stays
  | ingressClassUpdate oldClass ingClass => exact known.classEvent trivial stays
  | ingressClassDelete ingClass => exact known.classEvent trivial stays
  | secretStored key secret =>
      exact known.grow rfl rfl rfl fun name key seen contributes => by rwa [keeps]
  | updateIngressMap order => exact known.updateIngressMap order 0
  | refreshIngress order => exact known.refreshIngress order

end LocalCache
end ErieCanal.Cache
