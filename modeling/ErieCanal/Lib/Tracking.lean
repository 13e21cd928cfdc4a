import ErieCanal.Lib.ChangeTracker

namespace ErieCanal.Lib

/-!
A tracker collects changes of named objects, and a map takes them over in batches.
A view says what each object contributes now. The map has followed the objects when it holds
the contributions of the view and nothing else.
-/

variable {Name Key Value Seen : Type} [DecidableEq Name] [DecidableEq Key]

namespace Changes

/-- This is what the map is known to hold for an object: the old version of a pending change,
and the contribution itself when no change is pending. -/
def known (see : Value → Seen) (view : Name → Key → Option Seen) (items : Changes Name Key Value)
    (name : Name) (key : Key) : Option Seen :=
  match items.lookup name with
  | none => view name key
  | some change => (GoMap.find change.previous key).map see

variable {see : Value → Seen} {view next : Name → Key → Option Seen}
  {items : Changes Name Key Value} {name : Name} {key : Key}
  {previous current : Option (GoMap Key Value)}

@[simp] theorem known_empty : known see view (∅ : Changes Name Key Value) name key = view name key := by
  rw [known, AList.lookup_empty]

theorem eq_record_of_update [DecidableEq Value] {change : Change Key Value}
    (pending : (items.update name previous current).lookup name = some change) :
    change = items.record name previous current := by
  rw [lookup_update] at pending
  split at pending
  · cases pending
  · exact (Option.some.inj pending).symm

theorem current_of_update [DecidableEq Value] {change : Change Key Value}
    (pending : (items.update name previous current).lookup name = some change) :
    change.current = current := by
  rw [eq_record_of_update pending, record_current]

theorem known_update_ne [DecidableEq Value] {other : Name} (different : other ≠ name)
    (same : next other = view other) :
    (items.update name previous current).known see next other key =
      items.known see view other key := by
  rw [known, known, lookup_update_ne items different, same]

variable [DecidableEq Value] (moved : (GoMap.find current key).map see = next name key)

include moved in
/-- After an update the map is known to hold the recorded old version. A change back to the old
version is dropped, and then the contribution itself is that version. -/
theorem known_update : (items.update name previous current).known see next name key =
    (GoMap.find (items.record name previous current).previous key).map see := by
  rw [known, lookup_update]
  by_cases equal : GoMap.deepEqual (items.record name previous current).previous current
  · rw [if_pos equal, GoMap.find_eq_of_deepEqual equal key, moved]
  · rw [if_neg equal]

include moved in
/-- An update forgets nothing that the map is known to hold. -/
theorem known_update_of_known {seen : Seen}
    (covers : items.lookup name = none → view name key = some seen →
      (GoMap.find previous key).map see = some seen)
    (held : items.known see view name key = some seen) :
    (items.update name previous current).known see next name key = some seen := by
  rw [known_update moved]
  unfold record
  unfold known at held
  cases pending : items.lookup name with
  | none =>
      rw [pending] at held
      exact covers pending held
  | some change =>
      rw [pending] at held
      exact held

include moved in
/-- An update claims nothing new about the map. -/
theorem known_of_known_update
    (covered : items.lookup name = none → (GoMap.find previous key).isSome →
      (view name key).isSome)
    (held : ((items.update name previous current).known see next name key).isSome) :
    (items.known see view name key).isSome := by
  rw [known_update moved, Option.isSome_map] at held
  unfold record at held
  unfold known
  cases pending : items.lookup name with
  | none =>
      rw [pending] at held
      exact covered pending held
  | some change =>
      rw [pending] at held
      simpa using held

end Changes

open Changes

section Invariants
variable (see : Value → Seen) (view : Name → Key → Option Seen) (items : Changes Name Key Value)
  (map : GoMap Key Value)

/-- Every entry of the map stems from an object. The change of a loose name may not know that
its object is in the map already, as long as it overwrites the entry. -/
structure Accounted (loose : Name → Prop) : Prop where
  sound : ∀ name change, items.lookup name = some change → ∀ key value,
    GoMap.find change.current key = some value → view name key = some (see value)
  stored : ∀ key value, map.lookup key = some value → ∃ name,
    items.known see view name key = some (see value) ∨
      loose name ∧ ∃ change, items.lookup name = some change ∧
        (GoMap.find change.current key).isSome

/-- No contribution is missing, and no pending change removes one. -/
structure Kept : Prop where
  brought : ∀ name change, items.lookup name = some change → ∀ key,
    (GoMap.find change.current key).isSome = (view name key).isSome
  held : ∀ name key, (items.known see view name key).isSome → (map.lookup key).isSome
  unshared : ∀ name change, items.lookup name = some change → ∀ key, change.Removes key →
    ∀ other, view other key = none

/-- An object claims what it contributes and what the map is known to hold for it. -/
def Claims (name : Name) (key : Key) : Prop :=
  (items.known see view name key).isSome ∨ (view name key).isSome

/-- The map follows the objects, and no two of them claim one key. -/
structure Tracks (loose : Name → Prop) : Prop where
  accounted : Accounted see view items map loose
  kept : Kept see view items map
  disjoint : ∀ first second key, Claims see view items first key →
    Claims see view items second key → first = second

end Invariants

variable {see : Value → Seen} {view next : Name → Key → Option Seen}
  {items : Changes Name Key Value} {map outcome : GoMap Key Value} {loose : Name → Prop}

theorem accounted_empty : Accounted see view (∅ : Changes Name Key Value) ∅ loose where
  sound := by simp
  stored := by simp

theorem Accounted.apply (accounted : Accounted see view items map loose)
    (applied : items.Applied map outcome) {key : Key} {value : Value}
    (found : outcome.lookup key = some value) : ∃ name, view name key = some (see value) := by
  rcases applied.source found with ⟨name, change, pending, brought⟩ | ⟨kept, silent⟩
  · exact ⟨name, accounted.sound name change pending key value brought⟩
  · obtain ⟨name, known | ⟨_, change, pending, brought⟩⟩ := accounted.stored key value kept
    · unfold Changes.known at known
      cases pending : items.lookup name with
      | none =>
          simp only [pending] at known
          exact ⟨name, known⟩
      | some change =>
          simp only [pending] at known
          have old := Option.isSome_of_mem known
          rw [Option.isSome_map] at old
          exact absurd (.inl old) (silent name change pending)
    · exact absurd (.inr brought) (silent name change pending)

theorem Kept.apply (kept : Kept see view items map) (applied : items.Applied map outcome)
    {name : Name} {key : Key} (live : (view name key).isSome) : (outcome.lookup key).isSome := by
  refine applied.isSome (fun other change pending removes => ?_) ?_
  · rw [kept.unshared other change pending key removes name] at live
    cases live
  · cases pending : items.lookup name with
    | none => exact .inl (kept.held name key (by rwa [known, pending]))
    | some change =>
        exact .inr ⟨name, change, pending, (kept.brought name change pending key).trans live⟩

theorem Accounted.applied (accounted : Accounted see view items map loose)
    (applied : items.Applied map outcome) (later : Name → Prop) :
    Accounted see view (∅ : Changes Name Key Value) outcome later where
  sound := by simp
  stored key value found := by
    obtain ⟨name, live⟩ := accounted.apply applied found
    exact ⟨name, .inl (by rwa [known_empty])⟩

theorem Kept.applied (kept : Kept see view items map) (applied : items.Applied map outcome) :
    Kept see view (∅ : Changes Name Key Value) outcome where
  brought := by simp
  held name key live := kept.apply applied (by rwa [known_empty] at live)
  unshared := by simp

theorem Accounted.widen {later : Name → Prop} (accounted : Accounted see view items map loose)
    (wider : ∀ other, loose other → later other) : Accounted see view items map later where
  sound := accounted.sound
  stored key value found := by
    obtain ⟨name, reason⟩ := accounted.stored key value found
    exact ⟨name, reason.imp_right (And.imp_left (wider name))⟩

/-- Objects may contribute more without an event. -/
theorem Accounted.grow (accounted : Accounted see view items map loose)
    (more : ∀ name key seen, view name key = some seen → next name key = some seen) :
    Accounted see next items map loose where
  sound name change pending key value brought :=
    more name key _ (accounted.sound name change pending key value brought)
  stored key value found := by
    obtain ⟨name, known | loosely⟩ := accounted.stored key value found
    · refine ⟨name, .inl ?_⟩
      unfold Changes.known at known ⊢
      cases pending : items.lookup name with
      | none =>
          rw [pending] at known
          exact more name key _ known
      | some change => rwa [pending] at known
    · exact ⟨name, .inr loosely⟩

section Update
variable [DecidableEq Value] {name : Name} {previous current : Option (GoMap Key Value)}
  (same : ∀ other, other ≠ name → next other = view other)
  (moved : ∀ key, (GoMap.find current key).map see = next name key)

include same moved in
theorem Accounted.update {later : Name → Prop} (accounted : Accounted see view items map loose)
    (wider : ∀ other, loose other → later other)
    (covers : items.lookup name = none → ∀ key value, map.lookup key = some value →
      view name key = some (see value) → (GoMap.find previous key).map see = some (see value) ∨
        later name ∧ next name key = some (see value))
    (kept : loose name → ∀ key value, map.lookup key = some value → (view name key).isSome →
      next name key = some (see value)) :
    Accounted see next (items.update name previous current) map later where
  sound other change pending key value brought := by
    by_cases this : other = name
    · subst this
      rw [current_of_update pending] at brought
      rw [← moved, brought, Option.map_some]
    · rw [lookup_update_ne items this] at pending
      rw [same other this]
      exact accounted.sound other change pending key value brought
  stored key value found := by
    obtain ⟨other, reason⟩ := accounted.stored key value found
    refine ⟨other, ?_⟩
    by_cases this : other = name
    · subst this
      -- The entry is overwritten by the change, or the change is gone and the map is right.
      have overwritten (isLoose : later other) (live : next other key = some (see value)) :
          (items.update other previous current).known see next other key = some (see value) ∨
            later other ∧ ∃ change,
              (items.update other previous current).lookup other = some change ∧
                (GoMap.find change.current key).isSome := by
        cases after : (items.update other previous current).lookup other with
        | none => exact .inl (by rw [Changes.known, after, live])
        | some change =>
            refine .inr ⟨isLoose, change, rfl, ?_⟩
            have brings := congrArg Option.isSome ((moved key).trans live)
            rwa [Option.isSome_map, ← current_of_update after] at brings
      rcases reason with known | ⟨isLoose, change, pending, brought⟩
      · cases pending : items.lookup other with
        | none =>
            have live : view other key = some (see value) := by rwa [Changes.known, pending] at known
            rcases covers pending key value found live with old | ⟨isLoose, live⟩
            · exact .inl (known_update_of_known (moved key) (fun _ _ => old) known)
            · exact overwritten isLoose live
        | some change =>
            refine .inl (known_update_of_known (moved key) (fun idle => ?_) known)
            rw [pending] at idle
            cases idle
      · obtain ⟨old, brings⟩ := Option.isSome_iff_exists.mp brought
        have live := accounted.sound other change pending key old brings
        exact overwritten (wider other isLoose) (kept isLoose key value found (by simp [live]))
    · rw [known_update_ne this (same other this), lookup_update_ne items this]
      exact reason.imp_right (And.imp_left (wider other))

include same moved in
theorem Kept.update (kept : Kept see view items map)
    (covered : items.lookup name = none → ∀ key, (GoMap.find previous key).isSome →
      (view name key).isSome)
    (removed : ∀ key, (GoMap.find (items.record name previous current).previous key).isSome →
      next name key = none → ∀ other, other ≠ name → view other key = none)
    (fresh : ∀ other change, other ≠ name → items.lookup other = some change → ∀ key,
      change.Removes key → next name key = none) :
    Kept see next (items.update name previous current) map where
  brought other change pending key := by
    by_cases this : other = name
    · subst this
      rw [current_of_update pending, ← moved, Option.isSome_map]
    · rw [lookup_update_ne items this] at pending
      rw [same other this]
      exact kept.brought other change pending key
  held other key known := by
    by_cases this : other = name
    · subst this
      exact kept.held other key
        (known_of_known_update (moved key) (fun idle => covered idle key) known)
    · rw [known_update_ne this (same other this)] at known
      exact kept.held other key known
  unshared other change pending key removes query := by
    by_cases this : other = name
    · subst this
      rw [eq_record_of_update pending, Change.Removes, record_current] at removes
      have gone : next other key = none := by rw [← moved, removes.2, Option.map_none]
      by_cases asked : query = other
      · rwa [asked]
      · rw [same query asked]
        exact removed key removes.1 gone query asked
    · rw [lookup_update_ne items this] at pending
      by_cases asked : query = name
      · subst asked
        exact fresh other change this pending key removes
      · rw [same query asked]
        exact kept.unshared other change pending key removes query

end Update

/-- A change that is recorded without an old version removes nothing. -/
theorem Kept.inject [DecidableEq Value] {name : Name} {current : Option (GoMap Key Value)}
    (kept : Kept see view items map)
    (moved : ∀ key, (GoMap.find current key).map see = view name key) :
    Kept see view (items.update name none current) map := by
  refine kept.update (fun _ _ => rfl) moved (fun _ _ old => by cases old) ?_ ?_
  · intro key old gone other _
    rw [record] at old
    cases pending : items.lookup name with
    | none =>
        rw [pending] at old
        cases old
    | some change =>
        rw [pending] at old
        refine kept.unshared name change pending key ⟨old, ?_⟩ other
        have brought := kept.brought name change pending key
        rwa [gone, Option.isSome_none, Option.isSome_eq_false_iff, Option.isNone_iff_eq_none]
          at brought
  · intro other change _ pending key removes
    exact kept.unshared other change pending key removes name

theorem tracks_empty (idle : ∀ name key, view name key = none) :
    Tracks see view (∅ : Changes Name Key Value) ∅ loose where
  accounted := accounted_empty
  kept := {
    brought := by simp
    held := by simp [idle]
    unshared := by simp }
  disjoint := by simp [Claims, idle]

theorem Tracks.applied (tracks : Tracks see view items map loose)
    (applied : items.Applied map outcome) (later : Name → Prop) :
    Tracks see view (∅ : Changes Name Key Value) outcome later where
  accounted := tracks.accounted.applied applied later
  kept := tracks.kept.applied applied
  disjoint first second key one two := by
    simp only [Claims, known_empty, or_self] at one two
    exact tracks.disjoint first second key (.inr one) (.inr two)

theorem Tracks.widen {later : Name → Prop} (tracks : Tracks see view items map loose)
    (wider : ∀ other, loose other → later other) : Tracks see view items map later :=
  { tracks with accounted := tracks.accounted.widen wider }

/-- With no change pending every entry of the map is a contribution. -/
theorem Accounted.source (accounted : Accounted see view (∅ : Changes Name Key Value) map loose)
    {key : Key} {value : Value} (found : map.lookup key = some value) :
    ∃ name, view name key = some (see value) := by
  obtain ⟨name, known | ⟨_, change, pending, _⟩⟩ := accounted.stored key value found
  · exact ⟨name, by rwa [known_empty] at known⟩
  · cases pending

/-- With no change pending the map is the union of the contributions. -/
theorem Tracks.content (tracks : Tracks see view (∅ : Changes Name Key Value) map loose)
    (key : Key) (seen : Seen) :
    (map.lookup key).map see = some seen ↔ ∃ name, view name key = some seen := by
  constructor
  · intro held
    obtain ⟨value, found, rfl⟩ := Option.map_eq_some_iff.mp held
    exact tracks.accounted.source found
  · rintro ⟨name, live⟩
    have claimed : (view name key).isSome := by simp [live]
    obtain ⟨value, found⟩ := Option.isSome_iff_exists.mp
      (tracks.kept.held name key (by rwa [known_empty]))
    obtain ⟨other, contributed⟩ := tracks.accounted.source found
    have same := tracks.disjoint other name key (.inr (by simp [contributed])) (.inr claimed)
    rw [found, Option.map_some, ← contributed, same, live]

section Events
variable [DecidableEq Value] {name : Name} {previous current : Option (GoMap Key Value)}
  (same : ∀ other, other ≠ name → next other = view other)
  (moved : ∀ key, (GoMap.find current key).map see = next name key)

include same moved in
/-- After an event an object claims what it claimed before and what it contributes now. -/
theorem claims_update
    (covered : items.lookup name = none → ∀ key, (GoMap.find previous key).isSome →
      (view name key).isSome)
    {other : Name} {key : Key}
    (claims : Claims see next (items.update name previous current) other key) :
    Claims see view items other key ∨ other = name ∧ (next name key).isSome := by
  by_cases this : other = name
  · subst this
    rcases claims with known | live
    · exact .inl (.inl (known_of_known_update (moved key) (fun idle => covered idle key) known))
    · exact .inr ⟨rfl, live⟩
  · rw [Claims, known_update_ne this (same other this), same other this] at claims
    exact .inl claims

include same moved in
/-- The map has followed an event when it knew the old version. A name whose changes do not know
the old version may only keep its keys. -/
theorem Tracks.update (tracks : Tracks see view items map loose)
    (covers : items.lookup name = none →
      (∀ key, (GoMap.find previous key).map see = view name key) ∨
        loose name ∧ previous = none ∧ ∀ key, view name key = next name key)
    (kept : loose name → ∀ key value, map.lookup key = some value → (view name key).isSome →
      next name key = some (see value))
    (free : ∀ key, (next name key).isSome → ∀ other, other ≠ name →
      ¬ Claims see view items other key) :
    Tracks see next (items.update name previous current) map loose := by
  have covered : items.lookup name = none → ∀ key, (GoMap.find previous key).isSome →
      (view name key).isSome := by
    intro idle key old
    rcases covers idle with exact | ⟨_, rfl, _⟩
    · rwa [← exact, Option.isSome_map]
    · cases old
  refine ⟨tracks.accounted.update same moved (fun _ => id) ?_ kept,
    tracks.kept.update same moved covered ?_ ?_, ?_⟩
  · intro idle key value _ live
    rcases covers idle with exact | ⟨isLoose, _, unchanged⟩
    · exact .inl ((exact key).trans live)
    · exact .inr ⟨isLoose, (unchanged key).symm.trans live⟩
  · -- The old version was claimed by this name, so it is not the contribution of another.
    intro key old gone other different
    by_contra shared
    have known : (items.known see view name key).isSome := by
      refine known_of_known_update (moved key) (fun idle => covered idle key) ?_
      rwa [known_update (moved key), Option.isSome_map]
    exact different (tracks.disjoint other name key
      (.inr (Option.isSome_iff_ne_none.mpr shared)) (.inl known))
  · intro other change different pending key removes
    by_contra live
    refine free key (Option.isSome_iff_ne_none.mpr live) other different (.inl ?_)
    rw [Changes.known, pending]
    simpa using removes.1
  · intro first second key one two
    rcases claims_update same moved covered one with before | ⟨rfl, live⟩
    · rcases claims_update same moved covered two with also | ⟨rfl, live⟩
      · exact tracks.disjoint first second key before also
      · by_contra different
        exact free key live first different before
    · rcases claims_update same moved covered two with before | ⟨rfl, _⟩
      · by_contra different
        exact free key live second (Ne.symm different) before
      · rfl

end Events

/-- The keys tell their object, so no two objects can claim one key. -/
structure Follows (owner : Key → Name) (see : Value → Seen) (view : Name → Key → Option Seen)
    (items : Changes Name Key Value) (map : GoMap Key Value) : Prop where
  tracks : Tracks see view items map fun _ => False
  owned : ∀ name key, Claims see view items name key → owner key = name

variable {owner : Key → Name}

theorem follows_empty (idle : ∀ name key, view name key = none) :
    Follows owner see view (∅ : Changes Name Key Value) ∅ where
  tracks := tracks_empty idle
  owned := by simp [Claims, idle]

theorem Follows.applied (follows : Follows owner see view items map)
    (applied : items.Applied map outcome) :
    Follows owner see view (∅ : Changes Name Key Value) outcome where
  tracks := follows.tracks.applied applied _
  owned name key claims := by
    rw [Claims, known_empty, or_self] at claims
    exact follows.owned name key (.inr claims)

theorem Follows.update [DecidableEq Value] {name : Name} {previous current : Option (GoMap Key Value)}
    (follows : Follows owner see view items map)
    (same : ∀ other, other ≠ name → next other = view other)
    (old : ∀ key, (GoMap.find previous key).map see = view name key)
    (moved : ∀ key, (GoMap.find current key).map see = next name key)
    (owned : ∀ key, (next name key).isSome → owner key = name) :
    Follows owner see next (items.update name previous current) map where
  tracks := by
    refine follows.tracks.update same moved (fun _ => .inl old) (fun never => never.elim) ?_
    intro key live other different claims
    exact different ((follows.owned other key claims).symm.trans (owned key live))
  owned other key claims := by
    have covered : items.lookup name = none → ∀ key, (GoMap.find previous key).isSome →
        (view name key).isSome := fun _ key held => by rwa [← old, Option.isSome_map]
    rcases claims_update same moved covered claims with before | ⟨rfl, live⟩
    · exact follows.owned other key before
    · exact owned key live

end ErieCanal.Lib
