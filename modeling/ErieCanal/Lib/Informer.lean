import ErieCanal.Lib.Tracking

namespace ErieCanal.Lib

/-- An informer tells that an object was added or updated, or that it is gone. -/
inductive Notice (Name Object : Type) where
  | stored (object : Object)
  | deleted (name : Name)

namespace Notice
variable {Name Object : Type} (key : Object → Name)

/-- This is the name of the object that the notice is about. -/
def name : Notice Name Object → Name
  | stored object => key object
  | deleted name => name

/-- This is the new version of the object. -/
def current : Notice Name Object → Option Object
  | stored object => some object
  | deleted _ => none

variable [DecidableEq Name]

/-- The last delivered versions are the old versions of later notices. -/
def deliver (notice : Notice Name Object) (delivered : GoMap Name Object) : GoMap Name Object :=
  match notice with
  | stored object => delivered.insert (key object) object
  | deleted name => delivered.erase name

theorem lookup_deliver (notice : Notice Name Object) (delivered : GoMap Name Object)
    (name : Name) :
    (notice.deliver key delivered).lookup name =
      if name = notice.name key then notice.current else delivered.lookup name := by
  cases notice with
  | stored object =>
      by_cases same : name = key object
      · subst same
        simp [deliver, Notice.name, current]
      · simp [deliver, Notice.name, same, AList.lookup_insert_ne]
  | deleted gone =>
      by_cases same : name = gone
      · subst same
        simp [deliver, Notice.name, current]
      · simp [deliver, Notice.name, same, AList.lookup_erase_ne]

/-- After these notices an object is what the last notice about it has brought. -/
def live (notices : List (Notice Name Object)) (name : Name) : Option Object :=
  (notices.reverse.find? fun notice => notice.name key = name).bind current

theorem live_append (notices : List (Notice Name Object)) (notice : Notice Name Object)
    (name : Name) : live key (notices ++ [notice]) name =
      if name = notice.name key then notice.current else live key notices name := by
  rw [live, List.reverse_append, List.reverse_singleton, List.singleton_append, List.find?_cons]
  by_cases same : name = notice.name key
  · simp [same]
  · simp [same, Ne.symm same, live]

/-- Every object is stored under its own name. -/
def Keyed (delivered : GoMap Name Object) : Prop :=
  ∀ name object, delivered.lookup name = some object → key object = name

theorem keyed_empty : Keyed key (∅ : GoMap Name Object) := by
  intro name object found
  cases found

theorem Keyed.deliver {delivered : GoMap Name Object} (keyed : Keyed key delivered)
    (notice : Notice Name Object) : Keyed key (notice.deliver key delivered) := by
  intro name object found
  rw [lookup_deliver] at found
  split at found
  · rename_i same
    cases notice with
    | stored stored =>
        cases found
        exact same.symm
    | deleted gone => cases found
  · exact keyed name object found

/-- The object of an event, new or old, has the name of the event. -/
theorem Keyed.name_of_event {delivered : GoMap Name Object} (keyed : Keyed key delivered)
    {notice : Notice Name Object} {object : Object}
    (event : notice.current.or (delivered.lookup (notice.name key)) = some object) :
    key object = notice.name key := by
  cases notice with
  | stored stored =>
      cases event
      rfl
  | deleted gone => exact keyed gone object event

/-- The stored objects have different names. -/
theorem Keyed.nodup {delivered : GoMap Name Object} (keyed : Keyed key delivered) :
    ((GoMap.values delivered).map key).Nodup := by
  have names : (GoMap.values delivered).map key = delivered.keys := by
    rw [GoMap.values, List.map_map, AList.keys, List.keys]
    refine List.map_congr_left fun entry member => ?_
    exact keyed entry.1 entry.2 (AList.mem_lookup_iff.mpr member)
  rw [names]
  exact delivered.nodupKeys

theorem Keyed.lookup_of_mem {delivered : GoMap Name Object} (keyed : Keyed key delivered)
    {object : Object} (member : object ∈ GoMap.values delivered) :
    delivered.lookup (key object) = some object := by
  obtain ⟨name, found⟩ := (GoMap.mem_values delivered object).mp member
  rwa [keyed name object found]

/-- A notice replaces the object of its name and keeps all others. -/
theorem Keyed.mem_values_deliver {delivered : GoMap Name Object} (keyed : Keyed key delivered)
    (notice : Notice Name Object) (object : Object) :
    object ∈ GoMap.values (notice.deliver key delivered) ↔
      notice.current = some object ∨
        object ∈ GoMap.values delivered ∧ key object ≠ notice.name key := by
  constructor
  · intro member
    have found := (keyed.deliver key notice).lookup_of_mem key member
    rw [lookup_deliver] at found
    split at found
    · exact Or.inl found
    · next other => exact Or.inr ⟨(GoMap.mem_values _ _).mpr ⟨_, found⟩, other⟩
  · rintro (current | ⟨member, other⟩)
    · refine (GoMap.mem_values _ _).mpr ⟨notice.name key, ?_⟩
      rw [lookup_deliver, if_pos rfl, current]
    · refine (GoMap.mem_values _ _).mpr ⟨key object, ?_⟩
      rw [lookup_deliver, if_neg other, keyed.lookup_of_mem key member]

end Notice

section Contribution
variable {Name Object Key Value Seen : Type} [DecidableEq Name] [DecidableEq Key]

/-- An object contributes the entries of its translation. -/
def contribution (see : Value → Seen) (translate : Option Object → Option (GoMap Key Value))
    (delivered : GoMap Name Object) (name : Name) (key : Key) : Option Seen :=
  (GoMap.find (translate (delivered.lookup name)) key).map see

variable {see : Value → Seen} {translate : Option Object → Option (GoMap Key Value)}
  {delivered : GoMap Name Object} (key : Object → Name) (notice : Notice Name Object)

theorem contribution_deliver_ne {other : Name} (different : other ≠ notice.name key) :
    contribution see translate (notice.deliver key delivered) other =
      contribution see translate delivered other := by
  funext query
  rw [contribution, Notice.lookup_deliver, if_neg different, contribution]

theorem contribution_deliver (query : Key) :
    contribution see translate (notice.deliver key delivered) (notice.name key) query =
      (GoMap.find (translate notice.current) query).map see := by
  rw [contribution, Notice.lookup_deliver, if_pos rfl]

/-- A notice that brings the old contribution again changes nothing. -/
theorem contribution_deliver_of_eq
    (unchanged : ∀ query, (GoMap.find (translate notice.current) query).map see =
      contribution see translate delivered (notice.name key) query) :
    contribution see translate (notice.deliver key delivered) =
      contribution see translate delivered := by
  funext other query
  by_cases this : other = notice.name key
  · subst this
    rw [contribution_deliver, unchanged]
  · rw [contribution_deliver_ne key notice this]

theorem contribution_empty (absent : translate none = none) (name : Name) (query : Key) :
    contribution see translate (∅ : GoMap Name Object) name query = none := by
  rw [contribution, AList.lookup_empty, absent, GoMap.find_none, Option.map_none]

/-- A map whose keys tell their object follows every notice. -/
theorem Follows.deliver [DecidableEq Value] {owner : Key → Name} {items : Changes Name Key Value}
    {map : GoMap Key Value}
    (follows : Follows owner see (contribution see translate delivered) items map)
    (absent : translate none = none)
    (owned : ∀ object query, (GoMap.find (translate (some object)) query).isSome →
      owner query = key object) :
    Follows owner see (contribution see translate (notice.deliver key delivered))
      (items.update (notice.name key) (translate (delivered.lookup (notice.name key)))
        (translate notice.current)) map := by
  refine follows.update (fun other => contribution_deliver_ne key notice) (fun _ => rfl)
    (fun query => (contribution_deliver key notice query).symm) ?_
  intro query live
  rw [contribution_deliver, Option.isSome_map] at live
  cases notice with
  | stored object => exact owned object query live
  | deleted name =>
      rw [Notice.current, absent] at live
      cases live

/-- A tracker that records every event about an object keeps its map following. -/
theorem Follows.track [DecidableEq Value] {owner : Key → Name}
    {items recorded : Changes Name Key Value} {map : GoMap Key Value}
    (follows : Follows owner see (contribution see translate delivered) items map)
    (keyed : Notice.Keyed key delivered) (absent : translate none = none)
    (owned : ∀ object query, (GoMap.find (translate (some object)) query).isSome →
      owner query = key object)
    (ignores : notice.current.or (delivered.lookup (notice.name key)) = none → recorded = items)
    (records : ∀ object,
      notice.current.or (delivered.lookup (notice.name key)) = some object →
        recorded = items.update (key object) (translate (delivered.lookup (notice.name key)))
          (translate notice.current)) :
    Follows owner see (contribution see translate (notice.deliver key delivered)) recorded map := by
  cases event : notice.current.or (delivered.lookup (notice.name key)) with
  | none =>
      obtain ⟨gone, missing⟩ := Option.or_eq_none_iff.mp event
      rw [ignores event, contribution_deliver_of_eq key notice fun query => by
        rw [gone, contribution, missing]]
      exact follows
  | some object =>
      rw [records object event, keyed.name_of_event key event]
      exact follows.deliver key notice absent owned

/-- With no change pending the map is the union of the translations. -/
theorem Tracks.objects {map : GoMap Key Value} {loose : Name → Prop}
    (tracks : Tracks see (contribution see translate delivered) (∅ : Changes Name Key Value) map
      loose)
    (absent : translate none = none) (query : Key) (seen : Seen) :
    (map.lookup query).map see = some seen ↔
      ∃ name object, delivered.lookup name = some object ∧
        (GoMap.find (translate (some object)) query).map see = some seen := by
  rw [tracks.content]
  constructor
  · rintro ⟨name, contributed⟩
    rw [contribution] at contributed
    cases found : delivered.lookup name with
    | none =>
        rw [found, absent] at contributed
        cases contributed
    | some object =>
        rw [found] at contributed
        exact ⟨name, object, found, contributed⟩
  · rintro ⟨name, object, found, translated⟩
    exact ⟨name, by rw [contribution, found, translated]⟩

end Contribution

section Versions
variable {Name Object Key Value : Type} [DecidableEq Name] [DecidableEq Key]

/-- A map knows one version of an object: the old version of a pending change, and the delivered
version when no change is pending. -/
def version (translate : Option Object → Option (GoMap Key Value)) (delivered : GoMap Name Object)
    (items : Changes Name Key Value) (name : Name) : Option (GoMap Key Value) :=
  match items.lookup name with
  | none => translate (delivered.lookup name)
  | some change => change.previous

/-- The delivered versions and the versions that the map knows have the property. -/
structure Versions (property : Option (GoMap Key Value) → Prop)
    (translate : Option Object → Option (GoMap Key Value)) (delivered : GoMap Name Object)
    (items : Changes Name Key Value) : Prop where
  latest : ∀ name, property (translate (delivered.lookup name))
  known : ∀ name, property (version translate delivered items name)

variable {property : Option (GoMap Key Value) → Prop}
  {translate : Option Object → Option (GoMap Key Value)} {delivered : GoMap Name Object}
  {items : Changes Name Key Value}

omit [DecidableEq Key] in
theorem versions_empty (absent : property (translate none)) :
    Versions property translate (∅ : GoMap Name Object) ∅ := by
  constructor <;> intro name
  · rwa [AList.lookup_empty]
  · rwa [version, AList.lookup_empty, AList.lookup_empty]

omit [DecidableEq Key] in
/-- After an apply the map knows the delivered versions. -/
theorem Versions.applied (versions : Versions property translate delivered items) :
    Versions property translate delivered ∅ where
  latest := versions.latest
  known name := by
    rw [version, AList.lookup_empty]
    exact versions.latest name

variable [DecidableEq Value] (key : Object → Name) {notice : Notice Name Object}

/-- A recorded notice leaves the known version as it is, or brings the new one. -/
theorem Versions.track {recorded : Changes Name Key Value}
    (versions : Versions property translate delivered items) (keyed : Notice.Keyed key delivered)
    (brought : property (translate notice.current))
    (ignores : notice.current.or (delivered.lookup (notice.name key)) = none → recorded = items)
    (records : ∀ object,
      notice.current.or (delivered.lookup (notice.name key)) = some object →
        recorded = items.update (key object) (translate (delivered.lookup (notice.name key)))
          (translate notice.current)) :
    Versions property translate (notice.deliver key delivered) recorded := by
  have fresh (name : Name) : property (translate ((notice.deliver key delivered).lookup name)) := by
    rw [Notice.lookup_deliver]
    split
    · exact brought
    · exact versions.latest name
  refine ⟨fresh, fun name => ?_⟩
  unfold version
  cases pending : recorded.lookup name with
  | none => exact fresh name
  | some change =>
      have before := versions.known name
      unfold version at before
      cases event : notice.current.or (delivered.lookup (notice.name key)) with
      | none =>
          rw [ignores event] at pending
          rwa [pending] at before
      | some object =>
          rw [records object event, keyed.name_of_event key event] at pending
          by_cases this : name = notice.name key
          · subst this
            rw [Changes.eq_record_of_update pending, Changes.record]
            cases old : items.lookup (notice.name key) with
            | none => rwa [old] at before
            | some earlier => rwa [old] at before
          · rw [Changes.lookup_update_ne items this] at pending
            rwa [pending] at before

omit [DecidableEq Value] in
/-- All entries of a name come from the one version of it that the map knows. -/
theorem Follows.find_version {owner : Key → Name} {map : GoMap Key Value}
    (follows : Follows owner id (contribution id translate delivered) items map) {query : Key}
    {value : Value} (found : map.lookup query = some value) :
    GoMap.find (version translate delivered items (owner query)) query = some value := by
  obtain ⟨name, known | ⟨never, _⟩⟩ := follows.tracks.accounted.stored query value found
  · rw [follows.owned name query (.inl (by simp [known]))]
    unfold Changes.known at known
    unfold version
    cases pending : items.lookup name with
    | none => simpa [pending, contribution] using known
    | some change => simpa [pending] using known
  · exact never.elim

end Versions

/-- Only the presence of a key is seen. -/
def present {Value : Type} : Value → Unit := fun _ => ()

@[simp] theorem map_present_eq_some {Value : Type} (value : Option Value) (seen : Unit) :
    value.map present = some seen ↔ value.isSome := by
  cases value <;> simp [present]

end ErieCanal.Lib
