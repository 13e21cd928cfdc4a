import ErieCanal.Construction.Cache.MapApply
import Mathlib.Data.Option.Basic

namespace ErieCanal.Cache
open Lib

namespace MapVar
variable {Key Value : Type} [DecidableEq Key]

/-- Two variables hold the same map if both or none are nil and every key has the same value. -/
structure SameMap (first second : MapVar Key Value) : Prop where
  nil : first = none ↔ second = none
  values : ∀ key, GoMap.find first key = GoMap.find second key

theorem SameMap.refl (map : MapVar Key Value) : SameMap map map := ⟨Iff.rfl, fun _ => rfl⟩

/-- A nil map that is written to panics. Otherwise the map has these values afterwards. -/
structure Becomes (map : MapVar Key Value) (written : Prop) (values : Key → Option Value)
    (outcome : Option (MapVar Key Value)) : Prop where
  panics : outcome = none ↔ map = none ∧ written
  nil : ∀ result, outcome = some result → (result = none ↔ map = none)
  values : ∀ result, outcome = some result → ∀ key, GoMap.find result key = values key

section Loops
variable (orders : LoopOrders Key Value) (map other : MapVar Key Value)

theorem foldlM_assign (entries : List (Sigma fun _ : Key => Value)) (map : GoMap Key Value) :
    entries.foldlM assign (some map) =
      some (some (entries.foldl (fun map entry => map.insert entry.1 entry.2) map)) := by
  induction entries generalizing map with
  | nil => rfl
  | cons entry rest ih => exact ih (map.insert entry.1 entry.2)

theorem merge_becomes :
    Becomes map ((other.getD ∅).entries ≠ [])
      (fun key => (GoMap.find other key).or (GoMap.find map key)) (merge orders map other) := by
  have perm := orders.merged.perm 0 (other.getD ∅).entries
  rw [merge]
  cases map with
  | none =>
      cases visited : orders.merged.order 0 (other.getD ∅).entries with
      | nil =>
          rw [visited] at perm
          have empty : (other.getD ∅).entries = [] := perm.symm.eq_nil
          have missing : ∀ key, GoMap.find other key = none := by
            intro key
            rw [GoMap.find, AList.lookup, empty, List.dlookup_nil]
          refine ⟨by simp [empty], fun result same => ?_, fun result same key => ?_⟩
          · cases same
            simp
          · cases same
            simp [missing]
      | cons entry rest =>
          have filled : (other.getD ∅).entries ≠ [] := by
            intro empty
            rw [visited, empty] at perm
            simpa using perm.eq_nil
          exact ⟨iff_of_true rfl ⟨rfl, filled⟩, fun result same => (by cases same),
            fun result same => (by cases same)⟩
  | some map =>
      have nodup := (List.perm_nodupKeys perm).mpr (other.getD ∅).nodupKeys
      rw [foldlM_assign]
      refine ⟨by simp, fun result same => ?_, fun result same key => ?_⟩
      · cases same
        simp
      · cases same
        rw [GoMap.find_some, GoMap.lookup_insertEntries _ _ nodup, List.perm_dlookup key nodup perm]
        rfl

theorem foldl_delete (erased : Key → Bool) (keys : List Key) :
    keys.foldl (fun kept key => if erased key then kept.delete key else kept) map =
      map.map fun map =>
        keys.foldl (fun kept key => if erased key then kept.erase key else kept) map := by
  induction keys generalizing map with
  | nil => cases map <;> rfl
  | cons key rest ih =>
      rw [List.foldl_cons, ih]
      cases map with
      | none => by_cases gone : erased key <;> simp [gone, delete]
      | some map => by_cases gone : erased key <;> simp [gone, delete]

theorem find_foldl_delete (erased : Key → Bool) (keys : List Key) (key : Key) :
    GoMap.find (keys.foldl (fun kept key => if erased key then delete kept key else kept) map) key =
      if key ∈ keys ∧ erased key then none else GoMap.find map key := by
  rw [foldl_delete]
  cases map with
  | none => simp
  | some map => exact GoMap.lookup_eraseAll erased keys map key

theorem find_unmerge (key : Key) :
    GoMap.find (unmerge orders map other) key =
      if (GoMap.find other key).isSome then none else GoMap.find map key := by
  have erased := find_foldl_delete map (fun _ => true)
    (orders.unmerged.order 0 (other.getD ∅).keys) key
  simp only [if_true, and_true, RangeOrder.mem_order] at erased
  rw [unmerge, erased]
  simp only [GoMap.isSome_find]

theorem find_filter (key : Key) :
    GoMap.find (filter orders map other) key =
      if (GoMap.find other key).isSome then none else GoMap.find map key := by
  have erased := find_foldl_delete map (fun key => decide (key ∈ other.getD ∅))
    (orders.filtered.order 0 (map.getD ∅).keys) key
  simp only [decide_eq_true_eq, RangeOrder.mem_order] at erased
  rw [filter, erased]
  simp only [GoMap.isSome_find, AList.mem_keys]
  by_cases stored : key ∈ (map.getD ∅).keys
  · simp only [stored, true_and]
  · have missing : GoMap.find map key = none := AList.lookup_eq_none.mpr stored
    rw [missing, ite_self, ite_self]

theorem unmerge_eq_none : unmerge orders map other = none ↔ map = none := by
  have deleted := foldl_delete map (fun _ => true) (orders.unmerged.order 0 (other.getD ∅).keys)
  simp only [if_true] at deleted
  rw [unmerge, deleted, Option.map_eq_none_iff]

/-- A key that is not there need not be deleted. -/
theorem unmergeExisting_eq : unmergeExisting orders map other = unmerge orders map other := by
  have body : ∀ (kept : MapVar Key Value) (key : Key),
      (if key ∈ kept.getD ∅ then kept.delete key else kept) = kept.delete key := by
    intro kept key
    split
    · rfl
    · next absent =>
        cases kept with
        | none => rfl
        | some kept =>
            have same : kept.erase key = kept := by
              ext1
              exact List.kerase_of_notMem_keys absent
            simp [delete, same]
  simp only [unmergeExisting, body]
  rfl

end Loops

section Disciplines
variable (orders : LoopOrders Key Value) (map : MapVar Key Value) (change : Change Key Value)

/-- The service maps keep what both versions have, since the filter has taken it from the old
version before its keys are deleted. -/
theorem overlay_becomes :
    Becomes map ((change.current.getD ∅).entries ≠ [])
      (fun key => change.settle key (GoMap.find map key)) (overlay orders map change) := by
  have merged := merge_becomes orders map change.current
  have steps : overlay orders map change = (merge orders map change.current).map fun merged =>
      unmerge orders merged (filter orders change.previous change.current) := by
    simp only [overlay, unmergeExisting_eq]
    cases merge orders map change.current <;> rfl
  rw [steps]
  refine ⟨by rw [Option.map_eq_none_iff, merged.panics], fun result same => ?_,
    fun result same key => ?_⟩
  · obtain ⟨middle, reached, rfl⟩ := Option.map_eq_some_iff.mp same
    rw [unmerge_eq_none, merged.nil middle reached]
  · obtain ⟨middle, reached, rfl⟩ := Option.map_eq_some_iff.mp same
    rw [find_unmerge, find_filter, merged.values middle reached, Change.settle]
    cases GoMap.find change.current key <;> simp

theorem replace_becomes :
    Becomes map ((change.current.getD ∅).entries ≠ [])
      (fun key => change.settle key (GoMap.find map key)) (replace orders map change) := by
  have merged := merge_becomes orders (unmerge orders map change.previous) change.current
  refine ⟨by rw [replace, merged.panics, unmerge_eq_none], fun result same => ?_,
    fun result same key => ?_⟩
  · rw [merged.nil result same, unmerge_eq_none]
  · rw [merged.values result same, find_unmerge, Change.settle]

end Disciplines

theorem Becomes.rel {first second : MapVar Key Value} (same : SameMap first second) {written : Prop}
    {settle : Key → Option Value → Option Value} {one two : Option (MapVar Key Value)}
    (becomes : Becomes first written (fun key => settle key (GoMap.find first key)) one)
    (becomes' : Becomes second written (fun key => settle key (GoMap.find second key)) two) :
    Option.Rel SameMap one two := by
  have panics : one = none ↔ two = none := by rw [becomes.panics, becomes'.panics, same.nil]
  cases one with
  | none =>
      rw [panics.mp rfl]
      exact .none
  | some result =>
      cases two with
      | none => cases panics.mpr rfl
      | some result' =>
          refine .some ⟨?_, fun key => ?_⟩
          · rw [becomes.nil _ rfl, becomes'.nil _ rfl, same.nil]
          · rw [becomes.values _ rfl, becomes'.values _ rfl, same.values]

/-- By induction on the changes the maps stay the same, whatever the orders of the loops are. -/
theorem applyAll_rel (orders orders' : Nat → LoopOrders Key Value) {first second : MapVar Key Value}
    (same : SameMap first second) (changes : List (Change Key Value)) :
    Option.Rel SameMap (applyAll overlay orders first changes)
      (applyAll replace orders' second changes) := by
  induction changes generalizing orders orders' first second with
  | nil => exact .some same
  | cons change rest ih =>
      have step := (overlay_becomes (orders 0) first change).rel same
        (replace_becomes (orders' 0) second change)
      rw [applyAll, applyAll]
      generalize overlay (orders 0) first change = one at step ⊢
      generalize replace (orders' 0) second change = two at step ⊢
      cases step with
      | none => exact .none
      | some same => exact ih _ _ same

/-- A map that is not nil takes all the changes, as a loop does that settles every key. -/
theorem applyAll_some {body : LoopOrders Key Value → MapVar Key Value → Change Key Value →
      Option (MapVar Key Value)} {settling : GoMap Key Value → Change Key Value → GoMap Key Value}
    (becomes : ∀ orders map change, Becomes map ((change.current.getD ∅).entries ≠ [])
      (fun key => change.settle key (GoMap.find map key)) (body orders map change))
    (settles : ∀ map change key,
      (settling map change).lookup key = change.settle key (map.lookup key))
    (orders : Nat → LoopOrders Key Value) (map : GoMap Key Value) (changes : List (Change Key Value)) :
    ∃ outcome, applyAll body orders (some map) changes = some (some outcome) ∧
      ∀ key, outcome.lookup key = (changes.foldl settling map).lookup key := by
  simp only [Changes.lookup_foldl changes map settles]
  induction changes generalizing orders map with
  | nil => exact ⟨map, rfl, fun key => rfl⟩
  | cons change rest ih =>
      have step := becomes (orders 0) (some map) change
      rcases reached : body (orders 0) (some map) change with _ | _ | next
      · simpa using step.panics.mp reached
      · simpa using step.nil none reached
      · obtain ⟨outcome, applied, values⟩ := ih (fun index => orders (index + 1)) next
        refine ⟨outcome, ?_, fun key => ?_⟩
        · rw [applyAll, reached]
          exact applied
        · have first : next.lookup key = change.settle key (map.lookup key) :=
            step.values _ reached key
          rw [values, List.foldl_cons, first]

end MapVar

/-- The loops of `ServiceMap.apply` leave the map that the feed holds after an apply. -/
theorem serviceMap_apply (range : RangeOrder (Change ServicePortName ServiceInfo))
    (orders : Nat → LoopOrders ServicePortName ServiceInfo) (feed : ServiceFeed) :
    ∃ outcome, ServiceMap.apply range orders (some feed.serviceMap) feed.serviceChanges =
        some (some outcome) ∧
      ∀ key, outcome.lookup key = (feed.apply range).serviceMap.lookup key :=
  MapVar.applyAll_some MapVar.overlay_becomes (fun map change => change.lookup_overlay map) orders _ _

theorem serviceImportMap_apply (range : RangeOrder (Change ServicePortName ServiceImportInfo))
    (orders : Nat → LoopOrders ServicePortName ServiceImportInfo) (map : ServiceImportMap)
    (changes : ServiceImportChanges) :
    ∃ outcome, ServiceImportMap.apply range orders (some map) changes = some (some outcome) ∧
      ∀ key, outcome.lookup key = (changes.items.applyOverlay range 0 map).lookup key :=
  MapVar.applyAll_some MapVar.overlay_becomes (fun map change => change.lookup_overlay map) orders _ _

theorem endpointsMap_apply (range : RangeOrder (Change ServicePortName (List BaseEndpointInfo)))
    (orders : Nat → LoopOrders ServicePortName (List BaseEndpointInfo)) (map : EndpointsMap)
    (ect : EndpointChanges) :
    ∃ outcome, EndpointsMap.apply range orders (some map) (some ect) = some (some outcome) ∧
      ∀ key, outcome.lookup key = (ect.apply range 0 map).lookup key :=
  MapVar.applyAll_some MapVar.replace_becomes (fun map change => change.lookup_replace map) orders _ _

/-- The sequence of the service maps and that of the endpoint maps give the same map for any
sequence of changes, or both panic. -/
theorem apply_disciplines_agree :
    (∀ orders orders' (sm : Option ServiceMap) changes, Option.Rel MapVar.SameMap
      (MapVar.applyAll MapVar.overlay orders sm changes)
      (MapVar.applyAll MapVar.replace orders' sm changes)) ∧
    (∀ orders orders' (sm : Option ServiceImportMap) changes, Option.Rel MapVar.SameMap
      (MapVar.applyAll MapVar.overlay orders sm changes)
      (MapVar.applyAll MapVar.replace orders' sm changes)) ∧
    (∀ range orders orders' sm changes, Option.Rel MapVar.SameMap
      (ServiceMap.apply range orders sm changes)
      (MapVar.applyAll MapVar.replace orders' sm (range.order 0 (GoMap.values changes)))) ∧
    ∀ range orders orders' sm changes, Option.Rel MapVar.SameMap
      (ServiceImportMap.apply range orders sm changes)
      (MapVar.applyAll MapVar.replace orders' sm (range.order 0 (GoMap.values changes.items))) := by
  refine ⟨?_, ?_, ?_, ?_⟩
  · exact fun orders orders' sm => MapVar.applyAll_rel orders orders' (.refl sm)
  · exact fun orders orders' sm => MapVar.applyAll_rel orders orders' (.refl sm)
  · exact fun range orders orders' sm changes => MapVar.applyAll_rel orders orders' (.refl sm) _
  · exact fun range orders orders' sm changes => MapVar.applyAll_rel orders orders' (.refl sm) _

end ErieCanal.Cache
