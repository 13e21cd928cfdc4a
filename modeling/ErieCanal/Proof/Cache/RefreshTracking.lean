import ErieCanal.Proof.Cache.SharedRoutes

namespace ErieCanal.Cache
open Lib CoreV1 NetworkingV1 IngressPipy

/-- These are the route keys of an Ingress. -/
def routeKeys (externals : Externals) (listers : Listers) (ing : Option Ingress) : List RouteKey :=
  ((ingressToIngressMap externals listers ing).getD ∅).keys

namespace RefreshFeed
variable {externals : Externals}

/-- The ingress map has the route keys of the existing Ingresses. -/
def Exact (externals : Externals) (cache : LocalCache) : Prop :=
  ∀ key, (cache.ingressMap.lookup key).isSome ↔
    ∃ name ing, cache.listers.ingresses.lookup name = some ing ∧
      (GoMap.find (ingressToIngressMap externals cache.listers (some ing)) key).isSome

/-- All Ingresses have the class of this controller, and no two of them share a route key. -/
def Unshared (externals : Externals) (feed : RefreshFeed) : RefreshFeedEvent → Prop
  | .deliver => ∀ notice ∈ feed.queue.head?,
      (∀ ing ∈ notice.current, ingressClass ing = ingressPipyClass) ∧
        ∀ key ∈ routeKeys externals feed.cache.listers notice.current,
          ∀ other ∈ GoMap.values feed.delivered, other.key ≠ notice.name Ingress.key →
            key ∉ routeKeys externals feed.cache.listers (some other)
  | _ => True

/-- Two versions of an Ingress have the same route keys. -/
def SameRoutes (externals : Externals) (listers : Listers) (first second : Option Ingress) : Prop :=
  (∀ key ∈ routeKeys externals listers first, key ∈ routeKeys externals listers second) ∧
    ∀ key ∈ routeKeys externals listers second, key ∈ routeKeys externals listers first

/-- A refresh lists delivered route keys only, and no event changes the route keys of an Ingress
that it has listed; no event brings a key whose removal from another Ingress is pending. -/
def Undisturbed (externals : Externals) (feed : RefreshFeed) : RefreshFeedEvent → Prop
  | .deliver => ∀ notice ∈ feed.queue.head?,
      (∀ ing ∈ feed.listed, ing.key = notice.name Ingress.key →
        SameRoutes externals feed.cache.listers notice.current (feed.delivered.lookup ing.key)) ∧
      ∀ pending ∈ feed.cache.ingressChanges.entries, pending.1 ≠ notice.name Ingress.key →
        ∀ key ∈ routeKeys externals feed.cache.listers notice.current,
          key ∉ (pending.2.previous.getD ∅).keys
  | .listIngresses _ => ∀ ing ∈ GoMap.values feed.cache.listers.ingresses,
      SameRoutes externals feed.cache.listers (some ing) (feed.delivered.lookup ing.key)
  | _ => True

/-- The delivered Ingresses contribute their route keys. -/
def routes (externals : Externals) (feed : RefreshFeed) :
    NamespacedName → RouteKey → Option Unit :=
  contribution present (ingressToIngressMap externals feed.cache.listers) feed.delivered

theorem SameRoutes.map_present {listers : Listers} {first second : Option Ingress}
    (same : SameRoutes externals listers first second) (key : RouteKey) :
    (GoMap.find (ingressToIngressMap externals listers first) key).map present =
      (GoMap.find (ingressToIngressMap externals listers second) key).map present := by
  apply Option.ext
  intro seen
  simp only [map_present_eq_some, GoMap.isSome_find]
  exact ⟨same.1 key, same.2 key⟩

/-- The listed Ingresses are loose: their changes may not know what the map holds. -/
structure Tracked (externals : Externals) (feed : RefreshFeed) : Prop where
  keyed : Notice.Keyed Ingress.key feed.delivered
  pipy : ∀ name ing, feed.delivered.lookup name = some ing → ingressClass ing = ingressPipyClass
  ahead : feed.cache.listers.ingresses =
    feed.queue.foldl (fun delivered notice => notice.deliver Ingress.key delivered) feed.delivered
  idle : feed.cache.refreshing = none → feed.listed = []
  within : ∀ rest, feed.cache.refreshing = some rest → ∀ ing ∈ rest, ing ∈ feed.listed
  fresh : ∀ ing ∈ feed.listed,
    SameRoutes externals feed.cache.listers (some ing) (feed.delivered.lookup ing.key)
  tracks : Tracks present (feed.routes externals) feed.cache.ingressChanges feed.cache.ingressMap
    fun name => ∃ ing ∈ feed.listed, ing.key = name

theorem tracked_new (listers : Listers) : Tracked externals (new listers) where
  keyed := Notice.keyed_empty _
  pipy name ing found := by cases found
  ahead := rfl
  idle _ := rfl
  within rest refreshing := by cases refreshing
  fresh ing member := by cases member
  tracks := tracks_empty (contribution_empty rfl)

theorem SameRoutes.symm {listers : Listers} {first second : Option Ingress}
    (same : SameRoutes externals listers first second) :
    SameRoutes externals listers second first := ⟨same.2, same.1⟩

theorem SameRoutes.trans {listers : Listers} {first second third : Option Ingress}
    (one : SameRoutes externals listers first second)
    (two : SameRoutes externals listers second third) :
    SameRoutes externals listers first third :=
  ⟨fun key member => two.1 key (one.1 key member), fun key member => one.2 key (two.2 key member)⟩

/-- No other Ingress claims a route key that the event of the queue brings. -/
theorem Tracked.unclaimed {feed : RefreshFeed} (tracked : Tracked externals feed)
    {notice : Notice NamespacedName Ingress} (head : notice ∈ feed.queue.head?)
    (unshared : Unshared externals feed .deliver)
    (undisturbed : Undisturbed externals feed .deliver) {key : RouteKey}
    (live : key ∈ routeKeys externals feed.cache.listers notice.current) {other : NamespacedName}
    (different : other ≠ notice.name Ingress.key) :
    ¬ Claims present (feed.routes externals) feed.cache.ingressChanges other key := by
  have alone (contributes : (feed.routes externals other key).isSome) : False := by
    rw [routes, contribution, Option.isSome_map] at contributes
    cases found : feed.delivered.lookup other with
    | none =>
        rw [found] at contributes
        cases contributes
    | some ing =>
        rw [found] at contributes
        exact (unshared notice head).2 key live ing ((GoMap.mem_values _ ing).mpr ⟨other, found⟩)
          ((tracked.keyed other ing found).trans_ne different)
          ((GoMap.isSome_find _ _).mp contributes)
  intro claims
  rcases claims with known | contributes
  · cases pending : feed.cache.ingressChanges.lookup other with
    | none => exact alone (by rwa [Changes.known, pending] at known)
    | some change =>
        rw [Changes.known, pending, Option.isSome_map, GoMap.isSome_find] at known
        exact (undisturbed notice head).2 ⟨other, change⟩ (AList.mem_lookup_iff.mp pending)
          different key live known
  · exact alone contributes

/-- The event of the queue moves the contribution of its Ingress. -/
theorem Tracked.tracks_deliver {feed : RefreshFeed} (tracked : Tracked externals feed)
    {notice : Notice NamespacedName Ingress} (head : notice ∈ feed.queue.head?)
    (unshared : Unshared externals feed .deliver)
    (undisturbed : Undisturbed externals feed .deliver) :
    Tracks present ((feed.onIngress externals notice).routes externals)
      (feed.onIngress externals notice).cache.ingressChanges feed.cache.ingressMap
      fun name => ∃ ing ∈ feed.listed, ing.key = name := by
  have pipy := (unshared notice head).1
  have listed := (undisturbed notice head).1
  have after (key : RouteKey) :
      (feed.onIngress externals notice).routes externals (notice.name Ingress.key) key =
        (GoMap.find (ingressToIngressMap externals feed.cache.listers notice.current) key).map
          present := contribution_deliver _ notice key
  cases event : notice.current.or (feed.delivered.lookup (notice.name Ingress.key)) with
  | none =>
      obtain ⟨gone, absent⟩ := Option.or_eq_none_iff.mp event
      have unchanged : (feed.onIngress externals notice).routes externals =
          feed.routes externals :=
        contribution_deliver_of_eq _ notice fun key => by rw [gone, contribution, absent]
      have ignored : (feed.onIngress externals notice).cache.ingressChanges =
          feed.cache.ingressChanges :=
        track_of_invalid fun ing found => by rw [event] at found; cases found
      rw [unchanged, ignored]
      exact tracked.tracks
  | some ing =>
      have valid := isValidPipyIngress_of_event tracked.pipy pipy event
        feed.cache.defaultIngressClass
      have recorded := track_of_valid externals feed.cache.listers feed.cache.ingressChanges
        event valid
      rw [tracked.keyed.name_of_event _ event] at recorded
      rw [show (feed.onIngress externals notice).cache.ingressChanges = _ from recorded]
      refine tracked.tracks.update (fun other => contribution_deliver_ne _ notice)
        (fun key => (after key).symm) (fun _ => .inl fun _ => rfl) ?_ ?_
      · rintro ⟨ing, member, named⟩ key value _ live
        have same := listed ing member named
        rw [named] at same
        rw [after, same.map_present, map_present_eq_some, ← Option.isSome_map]
        exact live
      · intro key live other different
        rw [after, Option.isSome_map, GoMap.isSome_find] at live
        exact tracked.unclaimed head unshared undisturbed live different

theorem Tracked.deliver {feed : RefreshFeed} (tracked : Tracked externals feed)
    {notice : Notice NamespacedName Ingress} {rest : List (Notice NamespacedName Ingress)}
    (queue : feed.queue = notice :: rest) (unshared : Unshared externals feed .deliver)
    (undisturbed : Undisturbed externals feed .deliver) :
    Tracked externals { feed.onIngress externals notice with queue := rest } where
  keyed := tracked.keyed.deliver _ notice
  pipy := pipy_deliver tracked.pipy (unshared notice (by rw [queue]; rfl)).1
  ahead := by
    have ahead := tracked.ahead
    rw [queue] at ahead
    exact ahead
  idle := tracked.idle
  within := tracked.within
  fresh ing member := by
    have before := tracked.fresh ing member
    have listed := (undisturbed notice (by rw [queue]; rfl)).1 ing member
    show SameRoutes externals feed.cache.listers (some ing)
      ((notice.deliver Ingress.key feed.delivered).lookup ing.key)
    rw [Notice.lookup_deliver]
    split
    · rename_i named
      exact before.trans (listed named).symm
    · exact before
  tracks := tracked.tracks_deliver (by rw [queue]; rfl) unshared undisturbed

/-- A refresh step brings the contribution of a listed Ingress again. -/
theorem Tracked.refreshNext {feed : RefreshFeed} (tracked : Tracked externals feed) {ing : Ingress}
    {rest : List Ingress} (refreshing : feed.cache.refreshing = some (ing :: rest)) :
    Tracked externals { feed with
      cache := { feed.cache.refreshNext externals ing with refreshing := some rest } } := by
  have member := tracked.within _ refreshing ing List.mem_cons_self
  have later (other : Ingress) (inside : other ∈ rest) : other ∈ feed.listed :=
    tracked.within _ refreshing other (List.mem_cons_of_mem _ inside)
  by_cases valid : isValidPipyIngress feed.cache.defaultIngressClass ing
  · rw [LocalCache.refreshNext_of_valid valid]
    refine ⟨tracked.keyed, tracked.pipy, tracked.ahead, (fun never => by cases never),
      (fun listed same => by cases same; exact later), tracked.fresh, ?_⟩
    refine tracked.tracks.update (fun _ _ => rfl)
      (fun key => (tracked.fresh ing member).map_present key)
      (fun _ => .inr ⟨⟨ing, member, rfl⟩, rfl, fun _ => rfl⟩) ?_ ?_
    · intro _ key value _ live
      obtain ⟨seen, contributes⟩ := Option.isSome_iff_exists.mp live
      exact contributes
    · intro key live other different claims
      exact different (tracked.tracks.disjoint other ing.key key claims (.inr live))
  · rw [LocalCache.refreshNext, if_neg valid]
    exact ⟨tracked.keyed, tracked.pipy, tracked.ahead, (fun never => by cases never),
      (fun listed same => by cases same; exact later), tracked.fresh, tracked.tracks⟩

theorem Tracked.step {feed next : RefreshFeed} {event : RefreshFeedEvent}
    (tracked : Tracked externals feed) (unshared : Unshared externals feed event)
    (undisturbed : Undisturbed externals feed event)
    (stepped : (machine externals).step feed event = some next) : Tracked externals next := by
  cases event with
  | stored notice =>
      cases stepped
      refine { tracked with ahead := ?_ }
      rw [tracked.ahead, List.foldl_append]
      rfl
  | deliver =>
      simp only [machine] at stepped
      split at stepped
      · rename_i notice rest queue
        cases stepped
        exact tracked.deliver queue unshared undisturbed
      · cases stepped
  | updateIngressMap order =>
      simp only [machine] at stepped
      split at stepped
      · cases stepped
        exact { tracked with
          tracks := tracked.tracks.applied
            (Changes.applied_apply order.ingressChanges 0 _ _) _ }
      · cases stepped
  | listIngresses order =>
      simp only [machine] at stepped
      split at stepped
      · rename_i ready
        cases stepped
        refine ⟨tracked.keyed, tracked.pipy, tracked.ahead, (fun never => by cases never),
          (fun rest same ing member => by cases same; exact member),
          (fun ing member => undisturbed ing ((order.ingresses.mem_order _ _ _).mp member)),
          tracked.tracks.widen ?_⟩
        rintro name ⟨ing, member, _⟩
        rw [tracked.idle ready] at member
        cases member
      · cases stepped
  | refreshNext =>
      simp only [machine] at stepped
      split at stepped
      · rename_i ing rest refreshing
        cases stepped
        exact tracked.refreshNext refreshing
      · cases stepped
  | refreshDone order =>
      simp only [machine] at stepped
      split at stepped
      · cases stepped
        exact ⟨tracked.keyed, tracked.pipy, tracked.ahead, fun _ => rfl,
          (fun rest refreshing => by cases refreshing), (fun ing member => by cases member),
          tracked.tracks.applied (Changes.applied_apply order.ingressChanges 1 _ _) _⟩
      · cases stepped

/-- These steps update the ingress map. -/
def Updates : RefreshFeedEvent → Prop
  | .updateIngressMap _ | .refreshDone _ => True
  | _ => False

theorem drained_of_updates {feed next : RefreshFeed} {event : RefreshFeedEvent}
    (updates : Updates event) (stepped : (machine externals).step feed event = some next) :
    next.cache.ingressChanges = ∅ := by
  cases event <;> cases updates <;> simp only [machine] at stepped <;> split at stepped <;>
    cases stepped <;> rfl

theorem Tracked.exact {feed : RefreshFeed} (tracked : Tracked externals feed)
    (delivered : feed.queue = []) (drained : feed.cache.ingressChanges = ∅) :
    Exact externals feed.cache := by
  intro key
  have tracks := tracked.tracks
  have ahead := tracked.ahead
  rw [drained] at tracks
  rw [delivered, List.foldl_nil] at ahead
  rw [ahead]
  simpa only [map_present_eq_some] using tracks.objects rfl key ()

/-- In every run in which no refresh meets a changed route key, once all events are delivered an
update of the map leaves it with the route keys of the existing Ingresses. -/
theorem run_refreshed_exact (listers : Listers) {events : List RefreshFeedEvent}
    {last : RefreshFeedEvent} {final : RefreshFeed}
    (unshared : (machine externals).Guarded (Unshared externals) (new listers) (events ++ [last]))
    (undisturbed : (machine externals).Guarded (Undisturbed externals) (new listers)
      (events ++ [last]))
    (reached : (machine externals).run (new listers) (events ++ [last]) = some final)
    (updates : Updates last) (delivered : final.queue = []) : Exact externals final.cache := by
  have tracked : Tracked externals final := Machine.run_invariant _
    (fun feed event next tracked guarded stepped => tracked.step guarded.1 guarded.2 stepped)
    (tracked_new listers) (unshared.and undisturbed) reached
  obtain ⟨middle, _, continued⟩ := ((machine externals).run_append_eq_some _ _ _ _).mp reached
  obtain ⟨next, stepped, finished⟩ := ((machine externals).run_cons_eq_some _ _ _ _).mp continued
  cases finished
  exact tracked.exact delivered (drained_of_updates updates stepped)

instance (feed : RefreshFeed) : ∀ event, Decidable (Unshared externals feed event)
  | .deliver => inferInstanceAs (Decidable (∀ notice ∈ feed.queue.head?, _ ∧ _))
  | .stored _ | .updateIngressMap _ | .listIngresses _ | .refreshNext | .refreshDone _ =>
      inferInstanceAs (Decidable True)

instance (listers : Listers) (first second : Option Ingress) :
    Decidable (SameRoutes externals listers first second) :=
  inferInstanceAs (Decidable (_ ∧ _))

instance (feed : RefreshFeed) : ∀ event, Decidable (Undisturbed externals feed event)
  | .deliver => inferInstanceAs (Decidable (∀ notice ∈ feed.queue.head?, _ ∧ _))
  | .listIngresses _ => inferInstanceAs (Decidable
      (∀ ing ∈ GoMap.values feed.cache.listers.ingresses, SameRoutes externals feed.cache.listers
        (some ing) (feed.delivered.lookup ing.key)))
  | .stored _ | .updateIngressMap _ | .refreshNext | .refreshDone _ =>
      inferInstanceAs (Decidable True)

/-- An event is delivered after the refresh has handed on its Ingress. -/
def refreshRun (notice : Notice NamespacedName Ingress) : List RefreshFeedEvent :=
  [.stored (.stored (LocalCache.classedIngress "pipy")), .deliver, .updateIngressMap .stored,
    .listIngresses .stored, .refreshNext, .stored notice, .deliver, .refreshDone .stored]

theorem run_refreshed_exact_resync :
    ∃ final, (machine exampleExternals).run (new .empty)
        (refreshRun (.stored (LocalCache.classedIngress "pipy")) ++
          [.updateIngressMap .stored]) = some final ∧
      Exact exampleExternals final.cache :=
  ⟨_, rfl, @run_refreshed_exact exampleExternals .empty
    (refreshRun (.stored (LocalCache.classedIngress "pipy"))) (.updateIngressMap .stored) _
    (by decide +kernel) (by decide +kernel) rfl trivial rfl⟩

/-- The delete that is delivered during the refresh is lost. -/
theorem run_refresh_loses_delete :
    ∃ final, (machine exampleExternals).run (new .empty)
        (refreshRun (.deleted ⟨"default", "web"⟩) ++ [.updateIngressMap .stored]) = some final ∧
      (machine exampleExternals).Guarded (Unshared exampleExternals) (new .empty)
        (refreshRun (.deleted ⟨"default", "web"⟩) ++ [.updateIngressMap .stored]) ∧
      final.queue = [] ∧ ¬ Exact exampleExternals final.cache := by
  refine ⟨_, rfl, by decide +kernel, rfl, fun exact => ?_⟩
  obtain ⟨name, ing, stored, _⟩ :=
    (exact ⟨⟨⟨"default", "web"⟩, "http", .tcp⟩, "example.com", "/*"⟩).mp rfl
  have member : ing ∈ ([] : List Ingress) := (GoMap.mem_values _ ing).mpr ⟨name, stored⟩
  cases member

end RefreshFeed
end ErieCanal.Cache
