import Mathlib.Data.List.AList
import Mathlib.Data.List.Perm.Basic

namespace ErieCanal.Lib

/-- A Go map keeps one value for each key. -/
abbrev GoMap (Key Value : Type) := AList (fun _ : Key => Value)

/-- A range loop may visit the entries of a map in any order, and in another order each time. -/
structure RangeOrder (A : Type) where
  order : Nat → List A → List A
  perm : ∀ index entries, (order index entries).Perm entries

namespace RangeOrder
variable {A : Type}

/-- This order visits the entries as they are stored. -/
def stored : RangeOrder A := ⟨fun _ entries => entries, fun _ _ => .refl _⟩

def reversed : RangeOrder A := ⟨fun _ entries => entries.reverse, fun _ => List.reverse_perm⟩

@[simp] theorem mem_order (range : RangeOrder A) (index : Nat) (entries : List A) (a : A) :
    a ∈ range.order index entries ↔ a ∈ entries := (range.perm index entries).mem_iff

/-- Every permutation of the entries is the order of some range loop. -/
theorem exists_order {entries visited : List A} (perm : visited.Perm entries) :
    ∃ range : RangeOrder A, ∀ index, range.order index entries = visited := by
  classical
  refine ⟨⟨fun _ others => if others = entries then visited else others, fun _ others => ?_⟩,
    fun _ => if_pos rfl⟩
  split
  · next same => rwa [same]
  · exact .refl _

/-- Any entry may be visited last. -/
theorem exists_last {entries : List A} {a : A} (member : a ∈ entries) :
    ∃ range : RangeOrder A, ∃ earlier, ∀ index, range.order index entries = earlier ++ [a] := by
  obtain ⟨before, after, rfl⟩ := List.append_of_mem member
  have perm : (before ++ after ++ [a]).Perm (before ++ a :: after) :=
    (List.perm_append_singleton a _).trans List.perm_middle.symm
  obtain ⟨range, visits⟩ := exists_order perm
  exact ⟨range, before ++ after, visits⟩

/-- Any entry may be visited first. -/
theorem exists_first {entries : List A} {a : A} (member : a ∈ entries) :
    ∃ range : RangeOrder A, ∃ later, ∀ index, range.order index entries = a :: later := by
  obtain ⟨before, after, rfl⟩ := List.append_of_mem member
  have perm : (a :: (before ++ after)).Perm (before ++ a :: after) := List.perm_middle.symm
  obtain ⟨range, visits⟩ := exists_order perm
  exact ⟨range, before ++ after, visits⟩

end RangeOrder

section EarlyReturn
variable {Error A B C : Type} (visit : A → Except Error (Option B))

/-- A scan goes on while the visits find nothing. -/
theorem findSomeM_cons (item : A) (rest : List A) :
    (item :: rest).findSomeM? visit = (visit item).bind fun found =>
      match found with
      | none => rest.findSomeM? visit
      | some hit => .ok (some hit) := by
  rw [List.findSomeM?]
  cases visit item with
  | error error => rfl
  | ok found => cases found <;> rfl

theorem findSomeM_eq_none (items : List A) :
    items.findSomeM? visit = .ok none ↔ ∀ item ∈ items, visit item = .ok none := by
  induction items with
  | nil => simp [List.findSomeM?, pure, Except.pure]
  | cons item rest ih =>
      rw [findSomeM_cons]
      cases visited : visit item with
      | error error => simp [Except.bind, visited]
      | ok found =>
          cases found with
          | none => simpa [Except.bind, visited] using ih
          | some hit => simp [Except.bind, visited]

/-- What a scan finds is found by one of its visits. -/
theorem findSomeM_eq_some {items : List A} {hit : B}
    (scanned : items.findSomeM? visit = .ok (some hit)) :
    ∃ item ∈ items, visit item = .ok (some hit) := by
  induction items with
  | nil => cases scanned
  | cons item rest ih =>
      rw [findSomeM_cons] at scanned
      cases visited : visit item with
      | error error => simp [Except.bind, visited] at scanned
      | ok found =>
          cases found with
          | none =>
              rw [visited] at scanned
              obtain ⟨later, within, hit⟩ := ih scanned
              exact ⟨later, List.mem_cons_of_mem _ within, hit⟩
          | some first =>
              rw [visited] at scanned
              exact ⟨item, List.mem_cons_self, visited.trans scanned⟩

/-- A scan completes if all its visits do. -/
theorem findSomeM_isOk {items : List A}
    (complete : ∀ item ∈ items, ∃ found, visit item = .ok found) :
    ∃ result, items.findSomeM? visit = .ok result := by
  induction items with
  | nil => exact ⟨none, rfl⟩
  | cons item rest ih =>
      obtain ⟨found, visited⟩ := complete item List.mem_cons_self
      rw [findSomeM_cons, visited]
      cases found with
      | none => exact ih fun later within => complete later (List.mem_cons_of_mem _ within)
      | some hit => exact ⟨some hit, rfl⟩

theorem findSomeM_append (first second : List A) :
    (first ++ second).findSomeM? visit = (first.findSomeM? visit).bind fun found =>
      match found with
      | none => second.findSomeM? visit
      | some hit => .ok (some hit) := by
  induction first with
  | nil => rfl
  | cons item rest ih =>
      rw [List.cons_append, findSomeM_cons, findSomeM_cons]
      cases visit item with
      | error error => rfl
      | ok found =>
          cases found with
          | none => exact ih
          | some hit => rfl

/-- Two nested loops scan one list. -/
theorem findSomeM_flatMap (expand : C → List A) (items : List C) :
    (items.flatMap expand).findSomeM? visit =
      items.findSomeM? fun item => (expand item).findSomeM? visit := by
  induction items with
  | nil => rfl
  | cons item rest ih => rw [List.flatMap_cons, findSomeM_append, findSomeM_cons, ih]

theorem findSomeM_map (change : C → A) (items : List C) :
    (items.map change).findSomeM? visit = items.findSomeM? fun item => visit (change item) := by
  induction items with
  | nil => rfl
  | cons item rest ih => rw [List.map_cons, findSomeM_cons, findSomeM_cons, ih]

end EarlyReturn

section Picks
variable {A B : Type}

/-- The pick is a chosen item, and there is one if any item is chosen. -/
structure Picks (chosen : A → Prop) (items : List A) (pick : Option A) : Prop where
  member : ∀ a ∈ pick, a ∈ items ∧ chosen a
  isSome : ∀ a ∈ items, chosen a → pick.isSome

theorem picks_getLast (chosen : A → Prop) [DecidablePred chosen] (items : List A) :
    Picks chosen items (items.filter fun a => chosen a).getLast? where
  member a last := by simpa using List.mem_filter.mp (List.mem_of_getLast? last)
  isSome a member holds := by
    rw [List.getLast?_isSome]
    exact List.ne_nil_of_mem (List.mem_filter.mpr ⟨member, by simpa using holds⟩)

theorem picks_find (chosen : A → Prop) [DecidablePred chosen] (items : List A) :
    Picks chosen items (items.find? fun a => chosen a) where
  member a found := ⟨List.mem_of_find?_eq_some found, by simpa using List.find?_some found⟩
  isSome a member holds := List.find?_isSome.mpr ⟨a, member, by simpa using holds⟩

/-- A chosen item makes the pick give the value of some chosen item. -/
theorem Picks.exists_some {chosen : A → Prop} {items : List A} {pick : Option A}
    (picked : Picks chosen items pick) {a : A} (member : a ∈ items) (holds : chosen a)
    (value : A → B) : ∃ b ∈ items, chosen b ∧ pick.map value = some (value b) := by
  obtain ⟨b, found⟩ := Option.isSome_iff_exists.mp (picked.isSome a member holds)
  obtain ⟨member', holds'⟩ := picked.member b found
  exact ⟨b, member', holds', by rw [found, Option.map_some]⟩

/-- Two picks from the same items give related values, if all chosen items do. -/
theorem Picks.rel {chosen : A → Prop} {items others : List A} {first second : Option A}
    (picked : Picks chosen items first) (picked' : Picks chosen others second)
    (perm : items.Perm others) (value : A → B) (same : B → B → Prop)
    (agree : ∀ a ∈ items, ∀ b ∈ items, chosen a → chosen b → same (value a) (value b)) :
    Option.Rel same (first.map value) (second.map value) := by
  cases first with
  | none =>
      cases second with
      | none => exact .none
      | some b =>
          obtain ⟨member, holds⟩ := picked'.member b rfl
          cases picked.isSome b (perm.mem_iff.mpr member) holds
  | some a =>
      obtain ⟨member, holds⟩ := picked.member a rfl
      cases second with
      | none => cases picked'.isSome a (perm.mem_iff.mp member) holds
      | some b =>
          obtain ⟨member', holds'⟩ := picked'.member b rfl
          exact .some (agree a member b (perm.mem_iff.mpr member') holds holds')

theorem Picks.eq {chosen : A → Prop} {items others : List A} {first second : Option A}
    (picked : Picks chosen items first) (picked' : Picks chosen others second)
    (perm : items.Perm others) (value : A → B)
    (agree : ∀ a ∈ items, ∀ b ∈ items, chosen a → chosen b → value a = value b) :
    first.map value = second.map value := by
  generalize first.map value = x, second.map value = y, picked.rel picked' perm value Eq agree = same
  cases same with
  | none => rfl
  | some same => rw [same]

end Picks

/-- Lists with permuted images have permuted contents, if equal images have permuted contents. -/
theorem perm_flatMap_of_map {A Image Content : Type} {image : A → Image}
    {content : A → List Content} {first second : List A}
    (images : (first.map image).Perm (second.map image))
    (contents : ∀ one ∈ first, ∀ two ∈ second, image one = image two →
      (content one).Perm (content two)) :
    (first.flatMap content).Perm (second.flatMap content) := by
  have paired {items visited : List A}
      (pairs : List.Forall₂ (fun one two => image one = image two) items visited)
      (agree : ∀ one ∈ items, ∀ two ∈ visited, image one = image two →
        (content one).Perm (content two)) :
      (items.flatMap content).Perm (visited.flatMap content) := by
    induction pairs with
    | nil => exact .nil
    | cons same _ ih =>
        rw [List.flatMap_cons, List.flatMap_cons]
        refine (agree _ List.mem_cons_self _ List.mem_cons_self same).append (ih ?_)
        intro one member two member'
        exact agree one (List.mem_cons_of_mem _ member) two (List.mem_cons_of_mem _ member')
  have aligned : List.Forall₂ (fun value item => value = image item) (second.map image) second :=
    List.forall₂_map_left_iff.mpr (List.forall₂_same.mpr fun _ _ => rfl)
  obtain ⟨visited, pairs, perm⟩ := List.perm_comp_forall₂ images aligned
  refine List.Perm.trans (paired (List.forall₂_map_left_iff.mp pairs) ?_) (perm.flatMap_right _)
  intro one member two member'
  exact contents one member two (perm.mem_iff.mp member')

namespace GoMap
variable {Key Value : Type} [DecidableEq Key]

/-- The comparison of maps evaluates, unlike the one of the library. -/
instance [DecidableEq Value] : DecidableEq (GoMap Key Value) := fun first second =>
  decidable_of_iff (first.entries = second.entries) AList.ext_iff.symm

def values (map : GoMap Key Value) : List Value := map.entries.map Sigma.snd

theorem mem_values (map : GoMap Key Value) (value : Value) :
    value ∈ values map ↔ ∃ key, map.lookup key = some value := by
  simp only [values, List.mem_map]
  constructor
  · rintro ⟨⟨key, stored⟩, member, rfl⟩
    exact ⟨key, AList.mem_lookup_iff.mpr member⟩
  · rintro ⟨key, present⟩
    exact ⟨⟨key, value⟩, AList.mem_lookup_iff.mp present, rfl⟩

/-- This map has the images of the values under the same keys. -/
def mapValues {Image : Type} (image : Value → Image) (map : GoMap Key Value) : GoMap Key Image where
  entries := map.entries.map fun entry => ⟨entry.1, image entry.2⟩
  nodupKeys := List.NodupKeys.map₂ (fun _ => image) map.entries map.nodupKeys

theorem lookup_mapValues {Image : Type} (image : Value → Image) (map : GoMap Key Value)
    (query : Key) : (mapValues image map).lookup query = (map.lookup query).map image :=
  @List.dlookup_map₂ _ _ _ _ map.entries (fun _ => image) query

/-- The last item of a key wins over the earlier ones and over the map. -/
theorem lookup_foldl_insert {Item : Type} (name : Item → Key) (value : Item → Value)
    (items : List Item) (map : GoMap Key Value) (query : Key) :
    (items.foldl (fun map item => map.insert (name item) (value item)) map).lookup query =
      ((items.filter fun item => name item = query).getLast?.map value).or (map.lookup query) := by
  induction items generalizing map with
  | nil => simp
  | cons item rest ih =>
      rw [List.foldl_cons, ih]
      by_cases same : name item = query
      · subst same
        simp only [AList.lookup_insert, decide_true, List.filter_cons_of_pos, List.getLast?_cons]
        cases (rest.filter fun other => name other = name item).getLast? <;> rfl
      · rw [AList.lookup_insert_ne (Ne.symm same), List.filter_cons_of_neg (by simpa using same)]

/-- A loop of inserts adds the keys of its items. -/
theorem isSome_lookup_foldl_insert {Item : Type} (name : Item → Key) (value : Item → Value)
    (items : List Item) (map : GoMap Key Value) (query : Key) :
    ((items.foldl (fun map item => map.insert (name item) (value item)) map).lookup query).isSome ↔
      (∃ item ∈ items, name item = query) ∨ (map.lookup query).isSome := by
  rw [lookup_foldl_insert, Option.isSome_or, Bool.or_eq_true, Option.isSome_map, List.getLast?_isSome]
  simp

/-- A loop of appends collects the values of each key. -/
theorem lookup_foldl_append {Item : Type} (name : Item → Key) (value : Item → Value)
    (items : List Item) (map : GoMap Key (List Value)) (query : Key) :
    ((items.foldl (fun map item => map.insert (name item)
        ((map.lookup (name item)).getD [] ++ [value item])) map).lookup query).getD [] =
      (map.lookup query).getD [] ++ (items.filter fun item => name item = query).map value := by
  induction items generalizing map with
  | nil => simp
  | cons item rest ih =>
      rw [List.foldl_cons, ih]
      by_cases same : name item = query
      · subst same
        simp
      · rw [AList.lookup_insert_ne (Ne.symm same), List.filter_cons_of_neg (by simpa using same)]

/-- This loop stores every item under its key. -/
def insertAll (key : Value → Key) (items : List Value) (map : GoMap Key Value) : GoMap Key Value :=
  items.foldl (fun map item => map.insert (key item) item) map

theorem lookup_insertAll (key : Value → Key) (items : List Value) (map : GoMap Key Value)
    (query : Key) :
    (insertAll key items map).lookup query =
      ((items.filter fun item => key item = query).getLast?).or (map.lookup query) := by
  rw [insertAll, lookup_foldl_insert, Option.map_id']

end GoMap
end ErieCanal.Lib
