import ErieCanal.Construction.Cache.IngressFeed

namespace ErieCanal.Cache
open Lib NetworkingV1 IngressPipy

/-- The class carries the annotation of a default class. -/
def IsDefault (ingClass : IngressClass) : Prop :=
  annotationOf ingClass.annotations ingressClassAnnotationKey = some "true"

instance (ingClass : IngressClass) : Decidable (IsDefault ingClass) :=
  inferInstanceAs (Decidable (_ = some "true"))

theorem LocalCache.updateDefaultIngressClass_default (ingClass : IngressClass)
    (className : String) (cache : LocalCache) :
    (cache.updateDefaultIngressClass ingClass className).defaultIngressClass =
      if IsDefault ingClass then className else cache.defaultIngressClass := by
  simp only [LocalCache.updateDefaultIngressClass, IsDefault]
  split <;> simp [*]

namespace ClassFeed
variable {externals : Externals} {feed next final : ClassFeed}

/-- The cache names a default class if there is one, and none otherwise. -/
structure DefaultTracked (feed : ClassFeed) : Prop where
  named : (∃ ingClass ∈ GoMap.values feed.classes, IsDefault ingClass) →
    ∃ ingClass ∈ GoMap.values feed.classes, IsDefault ingClass ∧
      feed.cache.defaultIngressClass = ingClass.name
  cleared : (¬ ∃ ingClass ∈ GoMap.values feed.classes, IsDefault ingClass) →
    feed.cache.defaultIngressClass = noDefaultIngressClass

/-- The class that the cache names stays a default class, and no default class is deleted while
there is another one. -/
def KeepsDefault (feed : ClassFeed) : Notice String IngressClass → Prop
  | .stored ingClass => ∀ oldClass ∈ feed.classes.lookup ingClass.name, IsDefault oldClass →
      ¬ IsDefault ingClass → feed.cache.defaultIngressClass ≠ ingClass.name
  | .deleted name => ∀ oldClass ∈ feed.classes.lookup name, IsDefault oldClass →
      ∀ ingClass ∈ GoMap.values feed.classes, IsDefault ingClass → ingClass.name = name

instance (feed : ClassFeed) : (notice : Notice String IngressClass) →
    Decidable (feed.KeepsDefault notice)
  | .stored _ => inferInstanceAs (Decidable (∀ oldClass ∈ feed.classes.lookup _, _ → _ → _))
  | .deleted _ => inferInstanceAs (Decidable (∀ oldClass ∈ feed.classes.lookup _, _ → _))

/-- A default class that is stored takes the name over; one that is deleted clears it. -/
theorem step_eq_some {notice : Notice String IngressClass}
    (stepped : (machine externals).step feed notice = some next) :
    next.classes = notice.deliver IngressClass.name feed.classes ∧
      ∃ changed, notice.current.or (feed.classes.lookup (notice.name IngressClass.name)) =
        some changed ∧
      next.cache.defaultIngressClass = if IsDefault changed then
        (notice.current.map IngressClass.name).getD noDefaultIngressClass
      else feed.cache.defaultIngressClass := by
  simp only [machine, Option.map_eq_some_iff] at stepped
  obtain ⟨event, handled, rfl⟩ := stepped
  refine ⟨rfl, ?_⟩
  rw [ClassFeed.event] at handled
  split at handled
  · next ingClass absent current =>
      cases handled
      rw [current]
      exact ⟨ingClass, rfl, LocalCache.updateDefaultIngressClass_default _ _ _⟩
  · next oldClass ingClass found current =>
      split at handled
      · cases handled
      · next changed =>
          cases handled
          rw [current, LocalCache.feed, if_neg changed]
          exact ⟨ingClass, rfl, LocalCache.updateDefaultIngressClass_default _ _ _⟩
  · next oldClass found current =>
      cases handled
      rw [current, found]
      exact ⟨oldClass, rfl, LocalCache.updateDefaultIngressClass_default _ _ _⟩
  · cases handled

/-- The classes are stored under their names, and the default one is tracked. -/
structure Tracked (feed : ClassFeed) : Prop extends DefaultTracked feed where
  keyed : Notice.Keyed IngressClass.name feed.classes

/-- A change of a class that is not the tracked default leaves the tracked one in place. -/
theorem Tracked.of_unchanged {notice : Notice String IngressClass} (known : feed.Tracked)
    (classes : next.classes = notice.deliver IngressClass.name feed.classes)
    (same : next.cache.defaultIngressClass = feed.cache.defaultIngressClass)
    (plain : ∀ ingClass, notice.current = some ingClass → ¬ IsDefault ingClass)
    (other : ∀ ingClass ∈ GoMap.values feed.classes, IsDefault ingClass →
      feed.cache.defaultIngressClass = ingClass.name →
        ingClass.name ≠ notice.name IngressClass.name) : next.Tracked := by
  have stays (ingClass : IngressClass) (member : ingClass ∈ GoMap.values next.classes)
      (isDefault : IsDefault ingClass) : ingClass ∈ GoMap.values feed.classes := by
    rw [classes, known.keyed.mem_values_deliver] at member
    rcases member with current | ⟨stored, -⟩
    · exact absurd isDefault (plain ingClass current)
    · exact stored
  have kept : (∃ ingClass ∈ GoMap.values feed.classes, IsDefault ingClass) →
      ∃ ingClass ∈ GoMap.values next.classes, IsDefault ingClass ∧
        next.cache.defaultIngressClass = ingClass.name := by
    intro some
    obtain ⟨ingClass, stored, isDefault, named⟩ := known.named some
    refine ⟨ingClass, ?_, isDefault, same.trans named⟩
    rw [classes, known.keyed.mem_values_deliver]
    exact Or.inr ⟨stored, other ingClass stored isDefault named⟩
  refine ⟨⟨?_, ?_⟩, classes ▸ known.keyed.deliver _ notice⟩
  · rintro ⟨ingClass, member, isDefault⟩
    exact kept ⟨ingClass, stays ingClass member isDefault, isDefault⟩
  · intro nobody
    rw [same]
    apply known.cleared
    intro some
    obtain ⟨ingClass, member, isDefault, -⟩ := kept some
    exact nobody ⟨ingClass, member, isDefault⟩

theorem Tracked.step {notice : Notice String IngressClass} (known : feed.Tracked)
    (keeps : feed.KeepsDefault notice)
    (stepped : (machine externals).step feed notice = some next) : next.Tracked := by
  obtain ⟨classes, changed, object, default⟩ := step_eq_some stepped
  have keyed : Notice.Keyed IngressClass.name next.classes :=
    classes ▸ known.keyed.deliver _ notice
  cases notice with
  | stored ingClass =>
      obtain rfl : changed = ingClass := (Option.some.inj object).symm
      have present : changed ∈ GoMap.values next.classes := by
        rw [classes, known.keyed.mem_values_deliver]
        exact Or.inl rfl
      split at default
      · next isDefault =>
          exact ⟨⟨fun _ => ⟨changed, present, isDefault, default⟩,
            fun nobody => absurd ⟨changed, present, isDefault⟩ nobody⟩, keyed⟩
      · next plain =>
          refine known.of_unchanged classes default ?_ ?_
          · rintro _ ⟨⟩
            exact plain
          · intro tracked stored isDefault named same
            have found := known.keyed.lookup_of_mem _ stored
            rw [same] at found
            exact keeps tracked found isDefault plain (named.trans same)
  | deleted name =>
      have found : feed.classes.lookup name = some changed := object
      split at default
      · next isDefault =>
          refine ⟨⟨?_, fun _ => default⟩, keyed⟩
          rintro ⟨ingClass, member, another⟩
          rw [classes, known.keyed.mem_values_deliver] at member
          obtain current | ⟨stored, other⟩ := member
          · cases current
          · exact absurd (keeps changed found isDefault ingClass stored another) other
      · next plain =>
          refine known.of_unchanged classes default (fun ingClass current => nomatch current) ?_
          intro tracked stored isDefault named same
          have again := known.keyed.lookup_of_mem _ stored
          rw [same] at again
          obtain rfl := Option.some.inj (again.symm.trans found)
          exact plain isDefault

/-- The cache tracks the default class, if the class that it names stays a default class and no
default class is deleted while there is another one. -/
theorem run_defaultTracked (externals : Externals) (listers : Listers)
    {notices : List (Notice String IngressClass)}
    (keeps : (machine externals).Guarded KeepsDefault (new listers) notices)
    (reached : (machine externals).run (new listers) notices = some final) :
    final.DefaultTracked := by
  have start : (new listers).Tracked := by
    refine ⟨⟨?_, fun _ => rfl⟩, Notice.keyed_empty _⟩
    rintro ⟨ingClass, member, -⟩
    cases member
  have tracked : final.Tracked :=
    (machine externals).run_invariant (fun _ _ _ known guard => known.step guard) start keeps reached
  exact tracked.toDefaultTracked

/-- A class with this value of the annotation. -/
def exampleClass (name : String) (resourceVersion : Nat) (isDefault : String) : IngressClass :=
  ⟨name, resourceVersion,
    some ((∅ : GoMap String String).insert ingressClassAnnotationKey isDefault)⟩

/-- A second default class takes over before the first one stops being a default class. -/
def handover : List (Notice String IngressClass) :=
  [.stored (exampleClass "a" 1 "true"), .stored (exampleClass "b" 1 "true"),
    .stored (exampleClass "a" 2 "false"), .deleted "a"]

theorem defaultTracked_handover : ∃ final,
    (machine exampleExternals).run (new .empty) handover = some final ∧ final.DefaultTracked :=
  ⟨_, rfl, @run_defaultTracked _ exampleExternals .empty handover (by decide +kernel) rfl⟩

/-- A class that stops being a default class stays the default of the cache. -/
theorem default_kept_after_update : ∃ final,
    (machine exampleExternals).run (new .empty)
        [.stored (exampleClass "a" 1 "true"), .stored (exampleClass "a" 2 "false")] = some final ∧
      ¬ final.DefaultTracked := by
  refine ⟨_, rfl, fun tracked => ?_⟩
  have cleared := tracked.cleared (by decide +kernel)
  exact absurd cleared (by decide +kernel)

end ClassFeed
end ErieCanal.Cache
