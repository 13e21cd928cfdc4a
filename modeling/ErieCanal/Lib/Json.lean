import Mathlib.Data.List.Nodup
import Mathlib.Data.List.Lookmap

namespace ErieCanal.Lib

/-- The fields of an object are in the order in which they were written. -/
inductive Json where
  | null
  | bool (value : Bool)
  | num (value : Int)
  | str (value : String)
  | arr (items : List Json)
  | obj (fields : List (String × Json))

namespace Json

mutual

def beq : Json → Json → Bool
  | .null, .null => true
  | .bool left, .bool right => left == right
  | .num left, .num right => left == right
  | .str left, .str right => left == right
  | .arr left, .arr right => beqItems left right
  | .obj left, .obj right => beqFields left right
  | _, _ => false

def beqItems : List Json → List Json → Bool
  | [], [] => true
  | left :: lefts, right :: rights => beq left right && beqItems lefts rights
  | _, _ => false

def beqFields : List (String × Json) → List (String × Json) → Bool
  | [], [] => true
  | (key, left) :: lefts, (key', right) :: rights =>
      key == key' && beq left right && beqFields lefts rights
  | _, _ => false

end

mutual

theorem beq_iff (left right : Json) : beq left right = true ↔ left = right := by
  cases left <;> cases right <;> simp [beq]
  next lefts rights => exact beqItems_iff lefts rights
  next lefts rights => exact beqFields_iff lefts rights

theorem beqItems_iff (lefts rights : List Json) :
    beqItems lefts rights = true ↔ lefts = rights := by
  cases lefts with
  | nil => cases rights <;> simp [beqItems]
  | cons left lefts =>
      cases rights with
      | nil => simp [beqItems]
      | cons right rights => simp [beqItems, beq_iff left right, beqItems_iff lefts rights]

theorem beqFields_iff (lefts rights : List (String × Json)) :
    beqFields lefts rights = true ↔ lefts = rights := by
  cases lefts with
  | nil => cases rights <;> simp [beqFields]
  | cons left lefts =>
      obtain ⟨key, left⟩ := left
      cases rights with
      | nil => simp [beqFields]
      | cons right rights =>
          simp [beqFields, beq_iff left right.2, beqFields_iff lefts rights, Prod.ext_iff]

end

instance : DecidableEq Json := fun left right => decidable_of_iff _ (beq_iff left right)

/-- A value takes the place of the one that the key had, or comes last. -/
def put (key : String) (value : Json) : List (String × Json) → List (String × Json)
  | [] => [(key, value)]
  | field :: fields =>
      if key = field.1 then (key, value) :: fields else field :: put key value fields

/-- The key gets the value, or loses the one it had. -/
def assign (key : String) (value : Option Json) (fields : List (String × Json)) :
    List (String × Json) :=
  match value with
  | none => fields.filter fun field => field.1 ≠ key
  | some value => put key value fields

/-- The fields of an object; any other value has none. -/
def fieldsOf : Option Json → List (String × Json)
  | some (.obj fields) => fields
  | _ => []

mutual

/-- This is a JSON merge patch: it goes down where both sides are objects, a null takes a field
away, and everything else is replaced. -/
def merge : Json → Option Json → Option Json
  | .null, _ => none
  | .obj patch, target => some (.obj (mergeFields patch (fieldsOf target)))
  | value, _ => some value

def mergeFields : List (String × Json) → List (String × Json) → List (String × Json)
  | [], fields => fields
  | (key, patch) :: rest, fields =>
      mergeFields rest (assign key (merge patch (fields.lookup key)) fields)

end

mutual

/-- No object of the value has two fields of one name, and a null only where it may have one.
Arrays are not looked into, since a merge replaces them as they are. -/
def Proper (nulls : Bool) : Json → Prop
  | .null => nulls = true
  | .obj fields => (fields.map Prod.fst).Nodup ∧ ProperFields nulls fields
  | _ => True

def ProperFields (nulls : Bool) : List (String × Json) → Prop
  | [] => True
  | (_, value) :: rest => Proper nulls value ∧ ProperFields nulls rest

end

/-- This is what a patch looks like. -/
abbrev Distinct : Json → Prop := Proper true

/-- This is what a value looks like once it is stored. -/
abbrev Whole : Json → Prop := Proper false

mutual

/-- The value says about every field of the patch what the patch says about it. -/
def Satisfies : Json → Option Json → Prop
  | .null, found => found = none
  | .obj patch, found => ∃ fields, found = some (.obj fields) ∧ SatisfiesFields patch fields
  | value, found => found = some value

def SatisfiesFields : List (String × Json) → List (String × Json) → Prop
  | [], _ => True
  | (key, patch) :: rest, fields =>
      Satisfies patch (fields.lookup key) ∧ SatisfiesFields rest fields

end

/-- The value at the end of a path of field names. -/
def get : List String → Option Json → Option Json
  | [], found => found
  | key :: path, found => get path ((fieldsOf found).lookup key)

/-- Arrays and plain values are told by a patch as they are. -/
def Plain : Json → Bool
  | .null | .obj _ => false
  | _ => true

/-- The path leaves the patch at a field that the patch does not have. -/
def Apart : Json → List String → Prop
  | .obj patch, key :: path =>
      match patch.lookup key with
      | none => True
      | some inner => Apart inner path
  | _, _ => False

mutual

/-- Values other than objects have no parts that a merge looks into. -/
@[elab_as_elim]
theorem fieldInduction {motive : Json → Prop} (null : motive .null)
    (bool : ∀ value, motive (.bool value)) (num : ∀ value, motive (.num value))
    (str : ∀ value, motive (.str value)) (arr : ∀ items, motive (.arr items))
    (obj : ∀ fields, (∀ field ∈ fields, motive field.2) → motive (.obj fields)) (json : Json) :
    motive json := by
  cases json with
  | obj fields => exact obj fields (fieldsInduction null bool num str arr obj fields)
  | null => exact null
  | bool value => exact bool value
  | num value => exact num value
  | str value => exact str value
  | arr items => exact arr items

theorem fieldsInduction {motive : Json → Prop} (null : motive .null)
    (bool : ∀ value, motive (.bool value)) (num : ∀ value, motive (.num value))
    (str : ∀ value, motive (.str value)) (arr : ∀ items, motive (.arr items))
    (obj : ∀ fields, (∀ field ∈ fields, motive field.2) → motive (.obj fields))
    (fields : List (String × Json)) : ∀ field ∈ fields, motive field.2 := by
  cases fields with
  | nil => intro field member; cases member
  | cons head tail =>
      intro field member
      rcases List.mem_cons.mp member with here | later
      · obtain ⟨key, value⟩ := head
        rw [here]
        exact fieldInduction null bool num str arr obj value
      · exact fieldsInduction null bool num str arr obj tail field later

end

section Fields
variable {key other : String} {value : Json} {fields : List (String × Json)}

theorem lookup_field (field : String × Json) :
    (field :: fields).lookup other =
      if other = field.1 then some field.2 else fields.lookup other := by
  rw [List.lookup_cons]
  by_cases same : other = field.1
  · simp [same]
  · rw [beq_false_of_ne same, if_neg same]

theorem lookup_cons_other {field : String × Json} (different : other ≠ field.1) :
    (field :: fields).lookup other = fields.lookup other := by
  rw [lookup_field, if_neg different]

@[simp] theorem lookup_put_self : (put key value fields).lookup key = some value := by
  induction fields with
  | nil => simp [put]
  | cons field fields ih =>
      rw [put]
      split
      next => simp
      next different => rw [lookup_cons_other different, ih]

theorem lookup_put_other (different : other ≠ key) :
    (put key value fields).lookup other = fields.lookup other := by
  induction fields with
  | nil => exact lookup_cons_other different
  | cons field fields ih =>
      rw [put]
      split
      next same =>
        rw [lookup_cons_other different, lookup_cons_other (same ▸ different)]
      next => simp only [lookup_field, ih]

theorem lookup_erase_self :
    (fields.filter fun field => field.1 ≠ key).lookup key = none := by
  rw [List.lookup_eq_none_iff]
  intro field member
  have kept : field.1 ≠ key := by simpa using (List.mem_filter.mp member).2
  exact bne_iff_ne.mpr kept.symm

theorem lookup_erase_other (different : other ≠ key) :
    (fields.filter fun field => field.1 ≠ key).lookup other = fields.lookup other := by
  induction fields with
  | nil => rfl
  | cons field fields ih =>
      by_cases same : field.1 = key
      · rw [List.filter_cons_of_neg (by simpa using same), ih,
          lookup_cons_other (same ▸ different)]
      · rw [List.filter_cons_of_pos (by simpa using same)]
        simp only [lookup_field, ih]

@[simp] theorem lookup_assign_self {value : Option Json} :
    (assign key value fields).lookup key = value := by
  cases value with
  | none => exact lookup_erase_self
  | some value => exact lookup_put_self

theorem lookup_assign_other {value : Option Json} (different : other ≠ key) :
    (assign key value fields).lookup other = fields.lookup other := by
  cases value with
  | none => exact lookup_erase_other different
  | some value => exact lookup_put_other different

theorem assign_cons_other {value : Option Json} {field : String × Json}
    (different : key ≠ field.1) :
    assign key value (field :: fields) = field :: assign key value fields := by
  cases value with
  | none =>
      rw [assign, List.filter_cons_of_pos (by simpa using different.symm), assign]
  | some value => rw [assign, put, if_neg different, assign]

/-- An assignment of the value that is there changes nothing. -/
theorem assign_lookup : assign key (fields.lookup key) fields = fields := by
  induction fields with
  | nil => rfl
  | cons field fields ih =>
      by_cases same : key = field.1
      · subst same
        simp [lookup_field, assign, put]
      · rw [lookup_cons_other same, assign_cons_other same, ih]

theorem keys_put_subset : (put key value fields).map Prod.fst ⊆ key :: fields.map Prod.fst := by
  induction fields with
  | nil => simp [put]
  | cons field fields ih =>
      rw [put]
      split
      next => simp
      next =>
        intro name member
        rcases List.mem_cons.mp member with here | later
        · simp [here]
        · have := ih later
          simp at this ⊢
          tauto

theorem nodup_put (nodup : (fields.map Prod.fst).Nodup) :
    ((put key value fields).map Prod.fst).Nodup := by
  induction fields with
  | nil => simp [put]
  | cons field fields ih =>
      obtain ⟨absent, rest⟩ := List.nodup_cons.mp nodup
      rw [put]
      split
      next same => simpa [same] using nodup
      next different =>
        refine List.nodup_cons.mpr ⟨fun member => ?_, ih rest⟩
        rcases List.mem_cons.mp (keys_put_subset member) with here | later
        · exact different here.symm
        · exact absent later

theorem nodup_assign {value : Option Json} (nodup : (fields.map Prod.fst).Nodup) :
    ((assign key value fields).map Prod.fst).Nodup := by
  cases value with
  | none => exact nodup.sublist (List.filter_sublist.map Prod.fst)
  | some value => exact nodup_put nodup

end Fields

theorem properFields_iff {nulls : Bool} {fields : List (String × Json)} :
    ProperFields nulls fields ↔ ∀ field ∈ fields, Proper nulls field.2 := by
  induction fields with
  | nil => simp [ProperFields]
  | cons field fields ih => simp [ProperFields, ih]

theorem satisfiesFields_iff {patch fields : List (String × Json)} :
    SatisfiesFields patch fields ↔
      ∀ field ∈ patch, Satisfies field.2 (fields.lookup field.1) := by
  induction patch with
  | nil => simp [SatisfiesFields]
  | cons field patch ih => simp [SatisfiesFields, ih]

theorem mem_of_lookup {key : String} {value : Json} {fields : List (String × Json)}
    (found : fields.lookup key = some value) : (key, value) ∈ fields := by
  induction fields with
  | nil => cases found
  | cons field fields ih =>
      by_cases same : key = field.1
      · subst same
        rw [lookup_field, if_pos rfl] at found
        cases found
        exact List.mem_cons_self
      · rw [lookup_cons_other same] at found
        exact List.mem_cons_of_mem _ (ih found)

theorem lookup_of_mem {key : String} {value : Json} {fields : List (String × Json)}
    (nodup : (fields.map Prod.fst).Nodup) (member : (key, value) ∈ fields) :
    fields.lookup key = some value := by
  induction fields with
  | nil => cases member
  | cons field fields ih =>
      obtain ⟨absent, rest⟩ := List.nodup_cons.mp nodup
      rcases List.mem_cons.mp member with here | later
      · subst here
        exact List.lookup_cons_self
      · have different : key ≠ field.1 := by
          intro same
          exact absent (same ▸ List.mem_map_of_mem (f := Prod.fst) later)
        rw [lookup_cons_other different, ih rest later]

section MergeFields
variable {key : String} {patch fields : List (String × Json)}

/-- A merge keeps the fields that its patch does not have. -/
theorem lookup_mergeFields_other (absent : key ∉ patch.map Prod.fst) :
    (mergeFields patch fields).lookup key = fields.lookup key := by
  induction patch generalizing fields with
  | nil => rw [mergeFields]
  | cons field patch ih =>
      rw [List.map_cons, List.mem_cons, not_or] at absent
      rw [mergeFields, ih absent.2, lookup_assign_other absent.1]

/-- A merge treats the fields of its patch one by one. -/
theorem lookup_mergeFields_of_mem {inner : Json} (nodup : (patch.map Prod.fst).Nodup)
    (member : (key, inner) ∈ patch) :
    (mergeFields patch fields).lookup key = merge inner (fields.lookup key) := by
  induction patch generalizing fields with
  | nil => cases member
  | cons field patch ih =>
      obtain ⟨absent, rest⟩ := List.nodup_cons.mp nodup
      rw [mergeFields]
      rcases List.mem_cons.mp member with here | later
      · subst here
        rw [lookup_mergeFields_other absent, lookup_assign_self]
      · have different : key ≠ field.1 := by
          intro same
          exact absent (same ▸ List.mem_map_of_mem (f := Prod.fst) later)
        rw [ih rest later, lookup_assign_other different]

end MergeFields

/-- After a merge the value says what the patch says. -/
theorem satisfies_merge {nulls : Bool} {patch : Json} (proper : patch.Proper nulls)
    (target : Option Json) : patch.Satisfies (patch.merge target) := by
  induction patch using fieldInduction generalizing target with
  | obj patch ih =>
      obtain ⟨nodup, inner⟩ := proper
      refine ⟨_, by rw [merge], satisfiesFields_iff.mpr fun field member => ?_⟩
      rw [lookup_mergeFields_of_mem nodup member]
      exact ih field member (properFields_iff.mp inner field member) _
  | _ => rfl

/-- A patch that is satisfied changes nothing, not even the order of the fields. -/
theorem merge_of_satisfies {patch : Json} {found : Option Json} (satisfied : patch.Satisfies found) :
    patch.merge found = found := by
  induction patch using fieldInduction generalizing found with
  | obj patch ih =>
      obtain ⟨fields, rfl, inner⟩ := satisfied
      rw [merge, fieldsOf]
      congr 2
      induction patch with
      | nil => rw [mergeFields]
      | cons field patch next =>
          have head := ih field List.mem_cons_self inner.1
          rw [mergeFields, head, assign_lookup]
          exact next (fun later member => ih later (List.mem_cons_of_mem _ member)) inner.2
  | _ => exact satisfied.symm

/-- A stored value, taken as a patch, says what it is. -/
theorem Whole.satisfies {value : Json} (whole : value.Whole) : value.Satisfies (some value) := by
  induction value using fieldInduction with
  | null => cases whole
  | obj fields ih =>
      obtain ⟨nodup, inner⟩ := whole
      refine ⟨fields, rfl, satisfiesFields_iff.mpr fun field member => ?_⟩
      rw [lookup_of_mem nodup member]
      exact ih field member (properFields_iff.mp inner field member)
  | _ => rfl

theorem proper_put {nulls : Bool} {key : String} {value : Json} {fields : List (String × Json)}
    (proper : value.Proper nulls) (kept : ProperFields nulls fields) :
    ProperFields nulls (put key value fields) := by
  induction fields with
  | nil => exact ⟨proper, trivial⟩
  | cons field fields ih =>
      rw [put]
      split
      next => exact ⟨proper, kept.2⟩
      next => exact ⟨kept.1, ih kept.2⟩

theorem proper_assign {nulls : Bool} {key : String} {value : Option Json}
    {fields : List (String × Json)}
    (proper : ∀ stored ∈ value, stored.Proper nulls) (kept : ProperFields nulls fields) :
    ProperFields nulls (assign key value fields) := by
  cases value with
  | none =>
      rw [properFields_iff] at kept ⊢
      intro field member
      exact kept field (List.mem_filter.mp member).1
  | some value => exact proper_put (proper value rfl) kept

theorem proper_fieldsOf {nulls : Bool} {target : Option Json}
    (proper : ∀ stored ∈ target, stored.Proper nulls) :
    ((fieldsOf target).map Prod.fst).Nodup ∧ ProperFields nulls (fieldsOf target) := by
  rw [fieldsOf.eq_def]
  split
  next fields => exact proper _ rfl
  next => exact ⟨List.nodup_nil, trivial⟩

/-- A merge adds no null to the value. -/
theorem proper_merge {nulls : Bool} {patch : Json} {target : Option Json}
    (proper : ∀ stored ∈ target, stored.Proper nulls) :
    ∀ stored ∈ patch.merge target, stored.Proper nulls := by
  induction patch using fieldInduction generalizing target with
  | null => intro stored merged; cases merged
  | obj patch ih =>
      intro stored merged
      rw [merge, Option.mem_some_iff] at merged
      subst merged
      have fine := proper_fieldsOf proper
      generalize fieldsOf target = fields at fine
      show ((mergeFields patch fields).map Prod.fst).Nodup ∧
        ProperFields nulls (mergeFields patch fields)
      induction patch generalizing fields with
      | nil => rwa [mergeFields]
      | cons field patch next =>
          rw [mergeFields]
          apply next (fun later member => ih later (List.mem_cons_of_mem _ member))
          refine ⟨nodup_assign fine.1, proper_assign (ih field List.mem_cons_self ?_) fine.2⟩
          intro inner found
          exact properFields_iff.mp fine.2 _ (mem_of_lookup found)
  | _ => intro stored merged; cases merged; trivial

@[simp] theorem get_none (path : List String) : get path none = none := by
  induction path with
  | nil => rfl
  | cons key path ih => exact ih

/-- Where a patch has a plain value, a value that satisfies it has the same one. -/
theorem Satisfies.get_eq {patch value : Json} {found : Option Json} {path : List String}
    (satisfied : patch.Satisfies found) (told : get path (some patch) = some value)
    (plain : value.Plain = true) : get path found = some value := by
  induction path generalizing patch found with
  | nil =>
      obtain rfl : patch = value := Option.some.inj told
      cases patch with
      | null => cases plain
      | obj fields => cases plain
      | _ => exact satisfied
  | cons key path ih =>
      cases patch with
      | obj patch =>
          obtain ⟨fields, rfl, inner⟩ := satisfied
          rw [get, fieldsOf] at told ⊢
          cases entry : patch.lookup key with
          | none =>
              rw [entry, get_none] at told
              cases told
          | some next =>
              rw [entry] at told
              exact ih (satisfiesFields_iff.mp inner _ (mem_of_lookup entry)) told
      | _ =>
          have absent : get path none = some value := told
          rw [get_none] at absent
          cases absent

/-- A merge leaves alone what lies on a path apart from its patch. -/
theorem get_merge_of_apart {nulls : Bool} {patch : Json} {path : List String}
    (proper : patch.Proper nulls) (apart : patch.Apart path) (target : Option Json) :
    get path (patch.merge target) = get path target := by
  induction path generalizing patch target with
  | nil => cases patch <;> exact apart.elim
  | cons key path ih =>
      cases patch with
      | obj patch =>
          obtain ⟨nodup, inner⟩ := proper
          rw [merge, get, get, fieldsOf]
          rw [Apart] at apart
          split at apart
          next absent =>
            rw [lookup_mergeFields_other]
            intro member
            obtain ⟨field, found, rfl⟩ := List.mem_map.mp member
            rw [lookup_of_mem nodup found] at absent
            cases absent
          next value found =>
            have member := mem_of_lookup found
            rw [lookup_mergeFields_of_mem nodup member]
            exact ih (properFields_iff.mp inner _ member) apart _
      | _ => exact apart.elim

end Json
end ErieCanal.Lib
