import ErieCanal.Lib.Range

namespace ErieCanal.Lib

/-- A stored object carries the revision of its last write. -/
structure Versioned (Object : Type) where
  object : Object
  version : Nat
  deriving DecidableEq, Repr

/-- A registry refuses a write for one of these reasons. -/
inductive Refusal where
  | taken | missing | outdated
  deriving DecidableEq, Repr

/-- A registry keeps each object under its own name, and no object is newer than the registry. -/
structure Registry {Key Object : Type} [DecidableEq Key] (name : Object → Key) where
  entries : GoMap Key (Versioned Object)
  revision : Nat
  keyed : ∀ key entry, entries.lookup key = some entry → name entry.object = key
  dated : ∀ key entry, entries.lookup key = some entry → entry.version ≤ revision

namespace Registry
variable {Key Object : Type} [DecidableEq Key] {name : Object → Key}

def empty : Registry name where
  entries := ∅
  revision := 0
  keyed := fun key entry found => by simp at found
  dated := fun key entry found => by simp at found

def get (registry : Registry name) (key : Key) : Option (Versioned Object) :=
  registry.entries.lookup key

def list (registry : Registry name) : List (Versioned Object) := GoMap.values registry.entries

/-- A write stores the object under a new revision. -/
def write (registry : Registry name) (object : Object) : Registry name where
  entries := registry.entries.insert (name object) ⟨object, registry.revision + 1⟩
  revision := registry.revision + 1
  keyed := by
    intro key entry found
    by_cases same : key = name object
    · subst same
      rw [AList.lookup_insert, Option.some.injEq] at found
      exact found ▸ rfl
    · rw [AList.lookup_insert_ne same] at found
      exact registry.keyed key entry found
  dated := by
    intro key entry found
    by_cases same : key = name object
    · subst same
      rw [AList.lookup_insert, Option.some.injEq] at found
      exact found ▸ Nat.le_refl _
    · rw [AList.lookup_insert_ne same] at found
      exact Nat.le_succ_of_le (registry.dated key entry found)

def create (registry : Registry name) (object : Object) :
    Except Refusal (Versioned Object) × Registry name :=
  match registry.get (name object) with
  | some _ => (.error .taken, registry)
  | none => (.ok ⟨object, registry.revision + 1⟩, registry.write object)

/-- An update needs the stored version; an update without a change is not written. -/
def update [DecidableEq Object] (registry : Registry name) (key : Key) (version : Nat)
    (change : Object → Object) : Except Refusal (Versioned Object) × Registry name :=
  match registry.get key with
  | none => (.error .missing, registry)
  | some current =>
      if version ≠ current.version then (.error .outdated, registry)
      else if change current.object = current.object then (.ok current, registry)
      else (.ok ⟨change current.object, registry.revision + 1⟩,
        registry.write (change current.object))

theorem mem_list (registry : Registry name) (entry : Versioned Object) :
    entry ∈ registry.list ↔ ∃ key, registry.get key = some entry :=
  GoMap.mem_values registry.entries entry

theorem get_write (registry : Registry name) {object : Object} {key : Key}
    (named : name object = key) :
    (registry.write object).get key = some ⟨object, registry.revision + 1⟩ := by
  subst named
  exact AList.lookup_insert _

theorem get_write_ne (registry : Registry name) {object : Object} {key : Key}
    (different : key ≠ name object) : (registry.write object).get key = registry.get key :=
  AList.lookup_insert_ne different

/-- After a write an entry is the written one or an older one. -/
theorem get_write_cases {registry : Registry name} {object : Object} {key : Key}
    {entry : Versioned Object} (found : (registry.write object).get key = some entry) :
    (key = name object ∧ entry = ⟨object, registry.revision + 1⟩) ∨
      (key ≠ name object ∧ registry.get key = some entry) := by
  by_cases same : key = name object
  · rw [get_write registry same.symm, Option.some.injEq] at found
    exact .inl ⟨same, found.symm⟩
  · rw [get_write_ne registry same] at found
    exact .inr ⟨same, found⟩

/-- Later writes take later revisions. -/
structure Advances (before after : Registry name) : Prop where
  revision : before.revision ≤ after.revision
  fresh : ∀ key entry, after.get key = some entry →
    before.get key = some entry ∨ before.revision < entry.version

theorem Advances.refl (registry : Registry name) : registry.Advances registry :=
  ⟨Nat.le_refl _, fun _ _ found => .inl found⟩

theorem Advances.trans {first second third : Registry name} (one : first.Advances second)
    (two : second.Advances third) : first.Advances third where
  revision := Nat.le_trans one.revision two.revision
  fresh := by
    intro key entry found
    obtain earlier | later := two.fresh key entry found
    · exact one.fresh key entry earlier
    · exact .inr (Nat.lt_of_le_of_lt one.revision later)

theorem advances_write (registry : Registry name) (object : Object) :
    registry.Advances (registry.write object) where
  revision := Nat.le_succ _
  fresh := by
    intro key entry found
    obtain ⟨_, rfl⟩ | ⟨_, earlier⟩ := get_write_cases found
    · exact .inr (Nat.lt_succ_self _)
    · exact .inl earlier

/-- A create finds its name taken, or it writes the object. -/
theorem create_cases (registry : Registry name) (object : Object) :
    registry.create object = (.error .taken, registry) ∨
      registry.get (name object) = none ∧ registry.create object =
        (.ok ⟨object, registry.revision + 1⟩, registry.write object) := by
  simp only [create]
  cases registry.get (name object) with
  | some stored => exact .inl rfl
  | none => exact .inr ⟨rfl, rfl⟩

/-- A registry after a successful update: the object of the expected version is changed, and
nothing else. -/
structure Updated (before : Registry name) (key : Key) (version : Nat) (change : Object → Object)
    (updated : Versioned Object) (after : Registry name) : Prop where
  current : ∃ current, before.get key = some current ∧ current.version = version ∧
    updated.object = change current.object
  stored : after.get key = some updated
  others : ∀ other, other ≠ key → after.get other = before.get other
  advances : before.Advances after

/-- After an update an entry is the updated one or an older one. -/
theorem Updated.get_cases {before after : Registry name} {key other : Key} {version : Nat}
    {change : Object → Object} {updated entry : Versioned Object}
    (accepted : before.Updated key version change updated after)
    (found : after.get other = some entry) :
    (other = key ∧ entry = updated) ∨ (other ≠ key ∧ before.get other = some entry) := by
  by_cases same : other = key
  · rw [same, accepted.stored, Option.some.injEq] at found
    exact .inl ⟨same, found.symm⟩
  · rw [accepted.others other same] at found
    exact .inr ⟨same, found⟩

/-- An older entry is still there unless it was the updated one. -/
theorem Updated.get_of_get {before after : Registry name} {key other : Key} {version : Nat}
    {change : Object → Object} {updated entry : Versioned Object}
    (accepted : before.Updated key version change updated after)
    (found : before.get other = some entry) :
    (other = key ∧ after.get other = some updated) ∨
      (other ≠ key ∧ after.get other = some entry) := by
  by_cases same : other = key
  · exact .inl ⟨same, same ▸ accepted.stored⟩
  · exact .inr ⟨same, (accepted.others other same).trans found⟩

variable [DecidableEq Object]

/-- An update is refused without effect, or it changes the object of the expected version. -/
theorem update_cases (registry : Registry name) (key : Key) (version : Nat)
    (change : Object → Object)
    (renames : ∀ object, name object = key → name (change object) = key) :
    (∃ refusal, registry.update key version change = (.error refusal, registry)) ∨
      ∃ updated after, registry.update key version change = (.ok updated, after) ∧
        registry.Updated key version change updated after := by
  simp only [update]
  cases found : registry.get key with
  | none => exact .inl ⟨_, rfl⟩
  | some current =>
      have named := renames _ (registry.keyed key current found)
      by_cases expected : version = current.version
      · by_cases unchanged : change current.object = current.object
        · refine .inr ⟨current, registry, by simp [expected, unchanged], ?_⟩
          exact ⟨⟨current, found, expected.symm, unchanged.symm⟩, found, fun _ _ => rfl,
            .refl registry⟩
        · refine .inr ⟨_, _, by simp [expected, unchanged]; exact ⟨rfl, rfl⟩, ?_⟩
          refine ⟨⟨current, found, expected.symm, rfl⟩, ?_, ?_, advances_write _ _⟩
          · exact get_write registry named
          · intro other different
            exact get_write_ne registry (named ▸ different)
      · exact .inl ⟨.outdated, by simp [expected]⟩

/-- An update with the stored version succeeds. -/
theorem update_isOk {registry : Registry name} {key : Key} {current : Versioned Object}
    (found : registry.get key = some current) (change : Object → Object) :
    ∃ updated after, registry.update key current.version change = (.ok updated, after) := by
  simp only [update, found, ne_eq, not_true_eq_false, if_false]
  split
  · exact ⟨_, _, rfl⟩
  · exact ⟨_, _, rfl⟩

end Registry
end ErieCanal.Lib
