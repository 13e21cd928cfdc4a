import ErieCanal.Construction.Kube.Objects

namespace ErieCanal.Kube
open Lib

namespace Objects
variable {objects : Objects} {object other : Unstructured} {fault : CallFault}

@[simp] theorem apply_self :
    (objects.apply object).stored object.key =
      object.content.merge (objects.stored object.key) :=
  Function.update_self ..

theorem apply_of_ne {key : ObjectKey} (different : key ≠ object.key) :
    (objects.apply object).stored key = objects.stored key :=
  Function.update_of_ne different ..

/-- An object that is satisfied can be applied again without a change. -/
theorem apply_of_satisfies (satisfied : object.content.Satisfies (objects.stored object.key)) :
    objects.apply object = objects := by
  ext key : 2
  by_cases same : key = object.key
  · rw [same, apply_self, Json.merge_of_satisfies satisfied]
  · rw [apply_of_ne same]

theorem satisfies_apply :
    object.content.Satisfies ((objects.apply object).stored object.key) := by
  rw [apply_self]
  exact Json.satisfies_merge object.distinct _

theorem apply_apply : (objects.apply object).apply object = objects.apply object :=
  apply_of_satisfies satisfies_apply

theorem apply_comm (different : object.key ≠ other.key) :
    (objects.apply object).apply other = (objects.apply other).apply object := by
  ext key : 2
  by_cases first : key = object.key
  · subst first
    rw [apply_of_ne different, apply_self, apply_self, apply_of_ne different]
  · by_cases second : key = other.key
    · subst second
      rw [apply_self, apply_of_ne first, apply_of_ne first, apply_self]
    · rw [apply_of_ne second, apply_of_ne first, apply_of_ne first, apply_of_ne second]

/-- A call writes nothing, or it applies its object. -/
def Wrote (object : Unstructured) (before after : Objects) : Prop :=
  after = before ∨ after = before.apply object

theorem serve_get (key : ObjectKey) : (objects.serve (.get key) fault).2 = objects := by
  have read : (objects.handle (.get key)).2 = objects := by
    rw [handle]
    split <;> rfl
  cases fault with
  | answered => exact read
  | refused message => rfl
  | answerLost message => exact read

theorem serve_create : Wrote object objects (objects.serve (.create object) fault).2 := by
  have written : Wrote object objects (objects.handle (.create object)).2 := by
    rw [handle]
    split
    next => exact .inr rfl
    next => exact .inl rfl
  cases fault with
  | answered => exact written
  | refused message => exact .inl rfl
  | answerLost message => exact written

theorem serve_patch : Wrote object objects (objects.serve (.patch object) fault).2 := by
  have written : Wrote object objects (objects.handle (.patch object)).2 := by
    rw [handle]
    split
    next => exact .inl rfl
    next => exact .inr rfl
  cases fault with
  | answered => exact written
  | refused message => exact .inl rfl
  | answerLost message => exact written

theorem stored_of_get {key : ObjectKey} {value : Json}
    (answer : (objects.serve (.get key) fault).1 = .ok value) : objects.stored key = some value := by
  cases fault with
  | answered =>
      rw [serve, handle] at answer
      split at answer
      next => cases answer
      next found =>
        cases answer
        exact found
  | refused message => cases answer
  | answerLost message => cases answer

theorem applied_of_create {reply : Unit}
    (answer : (objects.serve (.create object) fault).1 = .ok reply) :
    (objects.serve (.create object) fault).2 = objects.apply object := by
  cases fault with
  | answered =>
      rw [serve, handle] at answer ⊢
      split at answer
      next => rfl
      next => cases answer
  | refused message => cases answer
  | answerLost message => cases answer

theorem applied_of_patch {reply : Unit}
    (answer : (objects.serve (.patch object) fault).1 = .ok reply) :
    (objects.serve (.patch object) fault).2 = objects.apply object := by
  cases fault with
  | answered =>
      rw [serve, handle] at answer ⊢
      split at answer
      next => cases answer
      next => rfl
  | refused message => cases answer
  | answerLost message => cases answer

end Objects

section Sound
variable {rely : Objects → Objects → Prop} {kept : Objects → Prop} {object : Unstructured}
  {objects : Objects}

/-- Whatever happens between its calls, `CreateOrUpdate` only ever applies its object, and it has
been applied when it succeeds. What the others and this application keep is kept. -/
theorem createOrUpdate_sound (stable : ∀ before after, rely before after → kept before → kept after)
    (applied : ∀ before, kept before → kept (before.apply object)) (held : kept objects) :
    (createOrUpdate object).Sound Objects.serve rely (Objects.Wrote object)
      (fun result final => kept final ∧ ∀ outcome, result = .ok outcome →
        object.content.Satisfies (final.stored object.key)) objects := by
  have wrote : ∀ before after, Objects.Wrote object before after → kept before → kept after := by
    intro before after written held
    rcases written with rfl | rfl
    · exact held
    · exact applied before held
  intro read interfered fault
  have atRead := stable _ _ interfered held
  rw [Objects.serve_get]
  refine ⟨.inl rfl, ?_⟩
  generalize answer : (read.serve (.get object.key) fault).1 = found
  cases found with
  | ok found =>
      simp only [Program.done_bind]
      split
      next same =>
        refine ⟨atRead, fun outcome _ => ?_⟩
        have stored := Objects.stored_of_get answer
        rw [same] at stored
        rw [stored]
        exact (read.whole object.key _ stored).satisfies
      next =>
        intro current between fault
        have atPatch := stable _ _ between atRead
        refine ⟨Objects.serve_patch, ?_⟩
        generalize answer : (current.serve (.patch object) fault).1 = reply
        cases reply with
        | error error =>
            exact ⟨wrote _ _ Objects.serve_patch atPatch, fun outcome failed => by cases failed⟩
        | ok accepted =>
            refine ⟨wrote _ _ Objects.serve_patch atPatch, fun outcome _ => ?_⟩
            rw [Objects.applied_of_patch answer]
            exact Objects.satisfies_apply
  | error error =>
      cases error with
      | notFound =>
          intro current between fault
          have atCreate := stable _ _ between atRead
          refine ⟨Objects.serve_create, ?_⟩
          generalize answer : (current.serve (.create object) fault).1 = reply
          cases reply with
          | error error =>
              exact ⟨wrote _ _ Objects.serve_create atCreate, fun outcome failed => by cases failed⟩
          | ok accepted =>
              refine ⟨wrote _ _ Objects.serve_create atCreate, fun outcome _ => ?_⟩
              rw [Objects.applied_of_create answer]
              exact Objects.satisfies_apply
      | _ => exact ⟨atRead, fun outcome failed => by cases failed⟩

end Sound

/-- Without interference the object is applied or nothing is written, and a success means that it
is applied. -/
theorem createOrUpdate_ensures (object : Unstructured) (start : Objects) :
    (createOrUpdate object).Ensures Objects.serve
      (fun result final => Objects.Wrote object start final ∧
        ∀ outcome, result = .ok outcome → final = start.apply object) start := by
  refine Program.Sound.weaken (fun _ _ _ => trivial) ?_
    (@createOrUpdate_sound Eq (Objects.Wrote object start) object start ?_ ?_ (.inl rfl))
  · intro result final ended
    refine ⟨ended.1, fun outcome succeeded => ?_⟩
    rcases ended.1 with rfl | written
    · exact (Objects.apply_of_satisfies (ended.2 outcome succeeded)).symm
    · exact written
  · intro before after same wrote
    exact same ▸ wrote
  · intro before wrote
    rcases wrote with rfl | rfl
    · exact .inr rfl
    · exact .inr Objects.apply_apply

/-- With every call answered the object is applied. -/
theorem createOrUpdate_answered (object : Unstructured) (start : Objects) :
    ∃ outcome, (createOrUpdate object).execute Objects.serve (fun _ => .answered) start =
      (.ok outcome, start.apply object) := by
  cases found : start.stored object.key with
  | none =>
      refine ⟨.created, ?_⟩
      simp [createOrUpdate, ObjectCall.send, Program.execute, Objects.serve, Objects.handle, found]
  | some value =>
      by_cases same : value = object.content
      · refine ⟨.none, ?_⟩
        subst same
        have satisfied : object.content.Satisfies (start.stored object.key) := by
          rw [found]
          exact (start.whole object.key _ found).satisfies
        rw [Objects.apply_of_satisfies satisfied]
        simp [createOrUpdate, ObjectCall.send, Program.execute, Objects.serve, Objects.handle,
          found]
      · refine ⟨.updated, ?_⟩
        simp [createOrUpdate, ObjectCall.send, Program.execute, Objects.serve, Objects.handle,
          found, same]

end ErieCanal.Kube
