import ErieCanal.Lib.Range

namespace ErieCanal.Lib

/-- A change holds the maps of the old and of the new version of one object.
A missing version has a nil map. -/
structure Change (Key Value : Type) where
  previous : Option (GoMap Key Value)
  current : Option (GoMap Key Value)

/-- A tracker holds at most one pending change for each object name. -/
abbrev Changes (Name Key Value : Type) := GoMap Name (Change Key Value)

namespace GoMap
variable {Key Value : Type} [DecidableEq Key]

/-- This is `reflect.DeepEqual`; a nil map differs from an empty one. -/
def deepEqual [DecidableEq Value] : Option (GoMap Key Value) → Option (GoMap Key Value) → Bool
  | none, none => true
  | some first, some second => decide (first.entries.Perm second.entries)
  | _, _ => false

/-- A merge takes over every entry of the other map; a nil map has none. -/
def merge (map : GoMap Key Value) (other : Option (GoMap Key Value)) : GoMap Key Value :=
  (other.getD ∅).entries.foldl (fun map entry => map.insert entry.1 entry.2) map

/-- An unmerge removes every key of the other map. -/
def unmerge (map : GoMap Key Value) (other : Option (GoMap Key Value)) : GoMap Key Value :=
  (other.getD ∅).keys.foldl (fun map key => map.erase key) map

/-- A filter removes from the first map every key of the other map. -/
def filter (map other : Option (GoMap Key Value)) : Option (GoMap Key Value) :=
  map.map fun map =>
    map.keys.foldl (fun kept key => if key ∈ other.getD ∅ then kept.erase key else kept) map

/-- An index into a nil map finds nothing. -/
def find (map : Option (GoMap Key Value)) (key : Key) : Option Value := (map.getD ∅).lookup key

@[simp] theorem find_none (key : Key) : find (none : Option (GoMap Key Value)) key = none :=
  AList.lookup_empty key

@[simp] theorem find_some (map : GoMap Key Value) (key : Key) :
    find (some map) key = map.lookup key := rfl

theorem isSome_find (map : Option (GoMap Key Value)) (key : Key) :
    (find map key).isSome ↔ key ∈ (map.getD ∅).keys := by
  rw [find, AList.lookup_isSome, AList.mem_keys]

theorem find_eq_of_deepEqual [DecidableEq Value] {first second : Option (GoMap Key Value)}
    (equal : deepEqual first second = true) (key : Key) : find first key = find second key := by
  match first, second with
  | none, none => rfl
  | some first, some second => exact AList.perm_lookup (of_decide_eq_true equal)
  | none, some _ => cases equal
  | some _, none => cases equal

/-- A loop that inserts entries with different keys lets them stand before the others. -/
theorem lookup_insertEntries (entries : List (Sigma fun _ : Key => Value)) (map : GoMap Key Value)
    (nodup : entries.NodupKeys) (key : Key) :
    (entries.foldl (fun map entry => map.insert entry.1 entry.2) map).lookup key =
      (entries.dlookup key).or (map.lookup key) := by
  induction entries generalizing map with
  | nil => rfl
  | cons entry rest ih =>
      obtain ⟨absent, nodup⟩ := List.nodupKeys_cons.mp nodup
      rw [List.foldl_cons, ih _ nodup]
      by_cases same : key = entry.1
      · subst same
        rw [List.dlookup_eq_none.mpr absent, AList.lookup_insert, List.dlookup_cons_eq]
        rfl
      · rw [AList.lookup_insert_ne same, List.dlookup_cons_ne _ _ same]

theorem lookup_merge (map : GoMap Key Value) (other : Option (GoMap Key Value)) (key : Key) :
    (map.merge other).lookup key = (find other key).or (map.lookup key) :=
  lookup_insertEntries _ map (other.getD ∅).nodupKeys key

/-- A loop that erases some keys leaves the other entries as they are. -/
theorem lookup_eraseAll (erased : Key → Bool) (keys : List Key) (map : GoMap Key Value)
    (key : Key) :
    (keys.foldl (fun map key => if erased key then map.erase key else map) map).lookup key =
      if key ∈ keys ∧ erased key then none else map.lookup key := by
  induction keys generalizing map with
  | nil => simp
  | cons first rest ih =>
      rw [List.foldl_cons, ih]
      by_cases same : key = first
      · subst same
        by_cases gone : erased key <;> simp [gone]
      · by_cases gone : erased first <;> simp [gone, same, AList.lookup_erase_ne]

theorem lookup_unmerge (map : GoMap Key Value) (other : Option (GoMap Key Value)) (key : Key) :
    (map.unmerge other).lookup key =
      if (find other key).isSome then none else map.lookup key := by
  have erased := lookup_eraseAll (fun _ => true) (other.getD ∅).keys map key
  simp only [if_true, and_true] at erased
  rw [unmerge, erased]
  simp only [find, AList.lookup_isSome, AList.mem_keys]

theorem find_filter (map other : Option (GoMap Key Value)) (key : Key) :
    find (filter map other) key = if (find other key).isSome then none else find map key := by
  cases map with
  | none => simp [filter]
  | some map =>
      have erased := lookup_eraseAll (fun key => decide (key ∈ other.getD ∅)) map.keys map key
      simp only [decide_eq_true_eq] at erased
      rw [filter, Option.map_some, find_some, find_some, erased]
      simp only [find, AList.lookup_isSome]
      by_cases stored : key ∈ map
      · simp only [AList.mem_keys.mp stored, true_and]
      · rw [AList.lookup_eq_none.mpr stored, ite_self, ite_self]

/-- Every stored entry has the property. -/
def AllEntries (property : Key → Value → Prop) (map : GoMap Key Value) : Prop :=
  ∀ key value, map.lookup key = some value → property key value

section Entries
variable {property : Key → Value → Prop}

@[simp] theorem allEntries_empty : AllEntries property (∅ : GoMap Key Value) := by
  intro key value found
  rw [AList.lookup_empty] at found
  cases found

theorem AllEntries.insert {map : GoMap Key Value} (all : AllEntries property map) {key : Key}
    {value : Value} (holds : property key value) : AllEntries property (map.insert key value) := by
  intro query stored found
  by_cases same : query = key
  · subst same
    rw [AList.lookup_insert, Option.some.injEq] at found
    exact found ▸ holds
  · rw [AList.lookup_insert_ne same] at found
    exact all query stored found

theorem AllEntries.erase {map : GoMap Key Value} (all : AllEntries property map) (key : Key) :
    AllEntries property (map.erase key) := by
  intro query stored found
  by_cases same : query = key
  · subst same
    rw [AList.lookup_erase] at found
    cases found
  · rw [AList.lookup_erase_ne same] at found
    exact all query stored found

end Entries

/-- Every stored value has the property. -/
def All (property : Value → Prop) (map : GoMap Key Value) : Prop :=
  ∀ key value, map.lookup key = some value → property value

variable {property : Value → Prop}

@[simp] theorem all_empty : All property (∅ : GoMap Key Value) := allEntries_empty

theorem All.insert {map : GoMap Key Value} (all : All property map) (key : Key) {value : Value}
    (holds : property value) : All property (map.insert key value) :=
  @AllEntries.insert _ _ _ (fun _ => property) map all key value holds

theorem All.erase {map : GoMap Key Value} (all : All property map) (key : Key) :
    All property (map.erase key) :=
  @AllEntries.erase _ _ _ (fun _ => property) map all key

/-- Every stored key has the property. -/
def AllKeys (property : Key → Prop) (map : GoMap Key Value) : Prop :=
  ∀ key, (map.lookup key).isSome → property key

variable {keyed : Key → Prop}

theorem allKeys_empty : AllKeys keyed (∅ : GoMap Key Value) := by
  intro key found
  cases found

theorem AllKeys.insert {map : GoMap Key Value} (all : AllKeys keyed map) {key : Key}
    (holds : keyed key) (value : Value) : AllKeys keyed (map.insert key value) := by
  intro query found
  by_cases same : query = key
  · rwa [same]
  · rw [AList.lookup_insert_ne same] at found
    exact all query found

end GoMap

namespace Change
variable {Key Value : Type} [DecidableEq Key]

/-- An applied change removes the old version and then takes over the new one. -/
def replace (change : Change Key Value) (map : GoMap Key Value) : GoMap Key Value :=
  (map.unmerge change.previous).merge change.current

/-- This way of applying takes over the new version first, and then removes what only the old
version has. -/
def overlay (change : Change Key Value) (map : GoMap Key Value) : GoMap Key Value :=
  (map.merge change.current).unmerge (GoMap.filter change.previous change.current)

/-- This is what an applied change makes of the value under one key. -/
def settle (change : Change Key Value) (key : Key) (value : Option Value) : Option Value :=
  (GoMap.find change.current key).or
    (if (GoMap.find change.previous key).isSome then none else value)

theorem lookup_replace (change : Change Key Value) (map : GoMap Key Value) (key : Key) :
    (change.replace map).lookup key = change.settle key (map.lookup key) := by
  rw [replace, GoMap.lookup_merge, GoMap.lookup_unmerge, settle]

theorem lookup_overlay (change : Change Key Value) (map : GoMap Key Value) (key : Key) :
    (change.overlay map).lookup key = change.settle key (map.lookup key) := by
  rw [overlay, GoMap.lookup_unmerge, GoMap.lookup_merge, GoMap.find_filter, settle]
  cases GoMap.find change.current key <;> simp

/-- A change mentions the keys of its two versions. -/
def Mentions (change : Change Key Value) (key : Key) : Prop :=
  (GoMap.find change.previous key).isSome ∨ (GoMap.find change.current key).isSome

/-- A change removes the keys that only its old version has. -/
def Removes (change : Change Key Value) (key : Key) : Prop :=
  (GoMap.find change.previous key).isSome ∧ GoMap.find change.current key = none

variable {change : Change Key Value} {key : Key}

/-- A value that is there after some changes comes from one of them, or it was there before and
no change mentions its key. -/
theorem foldl_settle_source {changes : List (Change Key Value)} {value : Option Value}
    {found : Value}
    (reached : changes.foldl (fun value change => change.settle key value) value = some found) :
    (∃ change ∈ changes, GoMap.find change.current key = some found) ∨
      value = some found ∧ ∀ change ∈ changes, ¬ change.Mentions key := by
  induction changes generalizing value with
  | nil => exact .inr ⟨reached, by simp⟩
  | cons change rest ih =>
      rcases ih reached with ⟨source, within, brought⟩ | ⟨kept, silent⟩
      · exact .inl ⟨source, List.mem_cons_of_mem _ within, brought⟩
      · simp only [settle] at kept
        cases brought : GoMap.find change.current key with
        | some current =>
            rw [brought, Option.some_or] at kept
            exact .inl ⟨change, List.mem_cons_self, brought.trans kept⟩
        | none =>
            rw [brought, Option.none_or] at kept
            split at kept
            · cases kept
            · rename_i old
              refine .inr ⟨kept, fun later within => ?_⟩
              rcases List.mem_cons.mp within with rfl | within
              · simpa [Mentions, brought] using old
              · exact silent later within

/-- A change decides about the keys that it mentions. -/
theorem settle_of_mentions (mentions : change.Mentions key) (value : Option Value) :
    change.settle key value = GoMap.find change.current key := by
  rw [settle]
  cases brought : GoMap.find change.current key with
  | some current => rfl
  | none =>
      have old : (GoMap.find change.previous key).isSome := by
        simpa [Mentions, brought] using mentions
      rw [if_pos old, Option.none_or]

theorem settle_of_not_mentions (silent : ¬ change.Mentions key) (value : Option Value) :
    change.settle key value = value := by
  simp only [Mentions, not_or, Option.not_isSome_iff_eq_none] at silent
  simp [settle, silent.1, silent.2]

/-- Changes that agree on a key leave what they agree on. -/
theorem foldl_settle_agreed {changes : List (Change Key Value)} {agreed : Option Value}
    (agree : ∀ change ∈ changes, change.Mentions key → GoMap.find change.current key = agreed)
    {value : Option Value} (there : value = agreed ∨ ∃ change ∈ changes, change.Mentions key) :
    changes.foldl (fun value change => change.settle key value) value = agreed := by
  induction changes generalizing value with
  | nil => simpa using there
  | cons change rest ih =>
      refine ih (fun later within => agree later (List.mem_cons_of_mem _ within)) ?_
      show change.settle key value = agreed ∨ _
      by_cases mentions : change.Mentions key
      · rw [settle_of_mentions mentions]
        exact .inl (agree change List.mem_cons_self mentions)
      · rw [settle_of_not_mentions mentions]
        refine there.imp_right ?_
        rintro ⟨source, within, mentioned⟩
        rcases List.mem_cons.mp within with rfl | within
        · exact absurd mentioned mentions
        · exact ⟨source, within, mentioned⟩

/-- A key that no change removes stays, and a key that a change brings is there at the end. -/
theorem foldl_settle_isSome {changes : List (Change Key Value)}
    (kept : ∀ change ∈ changes, ¬ change.Removes key) {value : Option Value}
    (there : value.isSome ∨ ∃ change ∈ changes, (GoMap.find change.current key).isSome) :
    (changes.foldl (fun value change => change.settle key value) value).isSome := by
  induction changes generalizing value with
  | nil => simpa using there
  | cons change rest ih =>
      refine ih (fun later within => kept later (List.mem_cons_of_mem _ within)) ?_
      have stays := kept change List.mem_cons_self
      cases brought : GoMap.find change.current key with
      | some current => exact .inl (by simp [settle, brought])
      | none =>
          have old : GoMap.find change.previous key = none := by
            simpa [Removes, brought] using stays
          rcases there with held | ⟨source, within, brings⟩
          · exact .inl (by simpa [settle, brought, old] using held)
          · rcases List.mem_cons.mp within with rfl | within
            · simp [brought] at brings
            · exact .inr ⟨source, within, brings⟩

end Change

namespace Changes
variable {Name Key Value : Type} [DecidableEq Name]

/-- The first event of an object fixes the old version, and every event replaces the new one. -/
def record (items : Changes Name Key Value) (name : Name)
    (previous current : Option (GoMap Key Value)) : Change Key Value :=
  match items.lookup name with
  | some pending => { pending with current }
  | none => { previous, current }

theorem record_current (items : Changes Name Key Value) (name : Name)
    (previous current : Option (GoMap Key Value)) :
    (items.record name previous current).current = current := by
  rw [record]
  split <;> rfl

variable [DecidableEq Key]

/-- A change back to the old version is dropped. -/
def update [DecidableEq Value] (items : Changes Name Key Value) (name : Name)
    (previous current : Option (GoMap Key Value)) : Changes Name Key Value :=
  let change := items.record name previous current
  if GoMap.deepEqual change.previous change.current then items.erase name
  else items.insert name change

theorem lookup_update [DecidableEq Value] (items : Changes Name Key Value) (name : Name)
    (previous current : Option (GoMap Key Value)) :
    (items.update name previous current).lookup name =
      if GoMap.deepEqual (items.record name previous current).previous current then none
      else some (items.record name previous current) := by
  simp only [update, record_current]
  split
  · rw [AList.lookup_erase]
  · rw [AList.lookup_insert]

theorem lookup_update_ne [DecidableEq Value] (items : Changes Name Key Value) {name other : Name}
    (different : other ≠ name) (previous current : Option (GoMap Key Value)) :
    (items.update name previous current).lookup other = items.lookup other := by
  simp only [update]
  split
  · rw [AList.lookup_erase_ne different]
  · rw [AList.lookup_insert_ne different]

/-- The pending changes are applied in any order, each as an unmerge and a merge. -/
def apply (range : RangeOrder (Change Key Value)) (index : Nat) (items : Changes Name Key Value)
    (map : GoMap Key Value) : GoMap Key Value :=
  (range.order index (GoMap.values items)).foldl
    (fun map change => (map.unmerge change.previous).merge change.current) map

/-- The pending changes are applied in any order, each as an overlay. -/
def applyOverlay (range : RangeOrder (Change Key Value)) (index : Nat)
    (items : Changes Name Key Value) (map : GoMap Key Value) : GoMap Key Value :=
  (range.order index (GoMap.values items)).foldl (fun map change => change.overlay map) map

/-- A map is the outcome of the pending changes in some order. -/
def Applied (items : Changes Name Key Value) (map outcome : GoMap Key Value) : Prop :=
  ∃ changes : List (Change Key Value),
    (∀ change, change ∈ changes ↔ ∃ name, items.lookup name = some change) ∧
      ∀ key, outcome.lookup key =
        changes.foldl (fun value change => change.settle key value) (map.lookup key)

/-- A loop whose body settles every key settles each key on its own. -/
theorem lookup_foldl (changes : List (Change Key Value)) (map : GoMap Key Value)
    {body : GoMap Key Value → Change Key Value → GoMap Key Value}
    (settles : ∀ map change key,
      (body map change).lookup key = change.settle key (map.lookup key)) (key : Key) :
    (changes.foldl body map).lookup key =
      changes.foldl (fun value change => change.settle key value) (map.lookup key) := by
  induction changes generalizing map with
  | nil => rfl
  | cons change rest ih => rw [List.foldl_cons, List.foldl_cons, ih, settles]

/-- A loop whose body settles every key has the outcome of its changes. -/
theorem applied_foldl (range : RangeOrder (Change Key Value)) (index : Nat)
    (items : Changes Name Key Value) (map : GoMap Key Value)
    (body : GoMap Key Value → Change Key Value → GoMap Key Value)
    (settles : ∀ map change key,
      (body map change).lookup key = change.settle key (map.lookup key)) :
    items.Applied map ((range.order index (GoMap.values items)).foldl body map) := by
  refine ⟨range.order index (GoMap.values items), fun change => ?_, lookup_foldl _ map settles⟩
  rw [range.mem_order, GoMap.mem_values]

theorem applied_apply (range : RangeOrder (Change Key Value)) (index : Nat)
    (items : Changes Name Key Value) (map : GoMap Key Value) :
    items.Applied map (items.apply range index map) :=
  applied_foldl range index items map _ fun map change => change.lookup_replace map

theorem applied_applyOverlay (range : RangeOrder (Change Key Value)) (index : Nat)
    (items : Changes Name Key Value) (map : GoMap Key Value) :
    items.Applied map (items.applyOverlay range index map) :=
  applied_foldl range index items map _ fun map change => change.lookup_overlay map

omit [DecidableEq Name] in
theorem lookup_apply (range : RangeOrder (Change Key Value)) (index : Nat)
    (items : Changes Name Key Value) (map : GoMap Key Value) (key : Key) :
    (items.apply range index map).lookup key =
      (range.order index (GoMap.values items)).foldl (fun value change => change.settle key value)
        (map.lookup key) :=
  lookup_foldl _ map (fun map change => change.lookup_replace map) key

/-- The pending changes that mention a key agree on its new value. -/
def Agreeing (items : Changes Name Key Value) : Prop :=
  ∀ first ∈ GoMap.values items, ∀ second ∈ GoMap.values items, ∀ key, first.Mentions key →
    second.Mentions key → GoMap.find first.current key = GoMap.find second.current key

omit [DecidableEq Name] in
/-- The outcome does not depend on the order exactly when the changes agree. -/
theorem apply_orders_iff (items : Changes Name Key Value) (map : GoMap Key Value) (index : Nat) :
    (∀ (range range' : RangeOrder (Change Key Value)) (key : Key),
      (items.apply range index map).lookup key = (items.apply range' index map).lookup key) ↔
      items.Agreeing := by
  constructor
  · intro same first one second two key mentions mentions'
    obtain ⟨range, earlier, last⟩ := RangeOrder.exists_last one
    obtain ⟨range', earlier', last'⟩ := RangeOrder.exists_last two
    have outcome := same range range' key
    rwa [lookup_apply, lookup_apply, last, last', List.foldl_append, List.foldl_append,
      List.foldl_cons, List.foldl_cons, List.foldl_nil, List.foldl_nil,
      Change.settle_of_mentions mentions, Change.settle_of_mentions mentions'] at outcome
  · intro agreeing
    have outcome (key : Key) : ∃ agreed, ∀ range : RangeOrder (Change Key Value),
        (items.apply range index map).lookup key = agreed := by
      by_cases mentioned : ∃ change ∈ GoMap.values items, change.Mentions key
      · obtain ⟨change, within, mentions⟩ := mentioned
        refine ⟨GoMap.find change.current key, fun range => ?_⟩
        rw [lookup_apply]
        refine Change.foldl_settle_agreed (fun other member mentions' => ?_)
          (.inr ⟨change, (range.mem_order index _ _).mpr within, mentions⟩)
        exact agreeing other ((range.mem_order index _ _).mp member) change within key mentions'
          mentions
      · refine ⟨map.lookup key, fun range => ?_⟩
        rw [lookup_apply]
        refine Change.foldl_settle_agreed (fun other member mentions => ?_) (.inl rfl)
        exact absurd ⟨other, (range.mem_order index _ _).mp member, mentions⟩ mentioned
    intro range range' key
    obtain ⟨agreed, same⟩ := outcome key
    rw [same range, same range']

section Applied
variable {items : Changes Name Key Value} {map outcome : GoMap Key Value} {key : Key}

theorem Applied.source (applied : items.Applied map outcome) {value : Value}
    (reached : outcome.lookup key = some value) :
    (∃ name change, items.lookup name = some change ∧
        GoMap.find change.current key = some value) ∨
      map.lookup key = some value ∧
        ∀ name change, items.lookup name = some change → ¬ change.Mentions key := by
  obtain ⟨changes, members, settled⟩ := applied
  rw [settled] at reached
  rcases Change.foldl_settle_source reached with ⟨change, within, brought⟩ | ⟨kept, silent⟩
  · obtain ⟨name, found⟩ := (members change).mp within
    exact .inl ⟨name, change, found, brought⟩
  · exact .inr ⟨kept, fun name change found =>
      silent change ((members change).mpr ⟨name, found⟩)⟩

theorem Applied.isSome (applied : items.Applied map outcome)
    (kept : ∀ name change, items.lookup name = some change → ¬ change.Removes key)
    (there : (map.lookup key).isSome ∨ ∃ name change, items.lookup name = some change ∧
      (GoMap.find change.current key).isSome) :
    (outcome.lookup key).isSome := by
  obtain ⟨changes, members, settled⟩ := applied
  rw [settled]
  refine Change.foldl_settle_isSome (fun change within => ?_) ?_
  · obtain ⟨name, found⟩ := (members change).mp within
    exact kept name change found
  · refine there.imp_right ?_
    rintro ⟨name, change, found, brings⟩
    exact ⟨change, (members change).mpr ⟨name, found⟩, brings⟩

end Applied

section Current
variable {property : Key → Value → Prop} {items : Changes Name Key Value}

/-- Every pending new version holds entries with the property only. -/
def CurrentEntries (property : Key → Value → Prop) (items : Changes Name Key Value) : Prop :=
  GoMap.All (fun change => ∀ current, change.current = some current →
    current.AllEntries property) items

theorem CurrentEntries.update [DecidableEq Value] (all : CurrentEntries property items) (name : Name)
    (previous : Option (GoMap Key Value)) {current : Option (GoMap Key Value)}
    (holds : ∀ taken, current = some taken → taken.AllEntries property) :
    CurrentEntries property (items.update name previous current) := by
  rw [Changes.update]
  split
  · exact GoMap.All.erase all name
  · exact GoMap.All.insert all name (by rwa [record_current])

/-- Whatever the changes leave in the map was there before or is brought by one of them. -/
theorem CurrentEntries.applied (all : CurrentEntries property items) {map outcome : GoMap Key Value}
    (stored : map.AllEntries property) (applied : items.Applied map outcome) :
    outcome.AllEntries property := by
  intro key value found
  rcases applied.source found with ⟨name, change, pending, brought⟩ | ⟨kept, -⟩
  · cases current : change.current with
    | none =>
        rw [current, GoMap.find_none] at brought
        cases brought
    | some taken =>
        rw [current, GoMap.find_some] at brought
        exact all name change pending taken current key value brought
  · exact stored key value kept

end Current

/-- Every pending new version holds values with the property only. -/
def CurrentAll (property : Value → Prop) (items : Changes Name Key Value) : Prop :=
  GoMap.All (fun change => ∀ current, change.current = some current → current.All property) items

variable {property : Value → Prop}

theorem CurrentAll.update [DecidableEq Value] {items : Changes Name Key Value}
    (all : CurrentAll property items) (name : Name) (previous : Option (GoMap Key Value))
    {current : Option (GoMap Key Value)}
    (holds : ∀ taken, current = some taken → taken.All property) :
    CurrentAll property (items.update name previous current) :=
  @CurrentEntries.update _ _ _ _ _ (fun _ => property) items _ all name previous current holds

theorem CurrentAll.apply {items : Changes Name Key Value} (all : CurrentAll property items)
    {map : GoMap Key Value} (stored : map.All property) (range : RangeOrder (Change Key Value))
    (index : Nat) : (items.apply range index map).All property :=
  @CurrentEntries.applied _ _ _ _ _ (fun _ => property) items all map _ stored
    (applied_apply range index items map)

end Changes
end ErieCanal.Lib
