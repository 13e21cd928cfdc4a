import ErieCanal.Lib.Program

namespace ErieCanal.Lib

/-- A task is the rest of a program that runs beside other tasks. -/
structure Task (Tag Call : Type) (Answer : Call → Type) (A : Type) where
  tag : Tag
  rest : Program Call Answer A

namespace Task
variable {Tag Call State Fault A : Type} {Answer : Call → Type}

/-- Every task of the pool is sound for the relations and the postcondition of its tag. -/
def AllSound (serve : State → (request : Call) → Fault → Answer request × State)
    (rely guarantee : Tag → State → State → Prop) (post : Tag → A → State → Prop)
    (tasks : List (Task Tag Call Answer A)) (state : State) : Prop :=
  ∀ task ∈ tasks, task.rest.Sound serve (rely task.tag) (guarantee task.tag) (post task.tag) state

variable {serve : State → (request : Call) → Fault → Answer request × State}
  {rely guarantee : Tag → State → State → Prop} {post : Tag → A → State → Prop}
  {tasks : List (Task Tag Call Answer A)} {state later : State}

/-- A change that every task relies on keeps the pool sound. -/
theorem AllSound.stable
    (transitive : ∀ tag first second third, rely tag first second → rely tag second third →
      rely tag first third)
    (posts : ∀ task ∈ tasks, ∀ value, task.rest = .done value → post task.tag value state →
      post task.tag value later)
    (sound : AllSound serve rely guarantee post tasks state)
    (disturbed : ∀ task ∈ tasks, rely task.tag state later) :
    AllSound serve rely guarantee post tasks later := fun task member =>
  (sound task member).stable (transitive task.tag) (posts task member) (disturbed task member)

/-- One call of a sound task keeps its guarantee and leaves the task sound. -/
theorem AllSound.call {tag : Tag} {request : Call} {next : Answer request → Program Call Answer A}
    (reflexive : ∀ tag state, rely tag state state)
    (sound : AllSound serve rely guarantee post tasks state)
    (member : (⟨tag, .call request next⟩ : Task Tag Call Answer A) ∈ tasks) (fault : Fault) :
    guarantee tag state (serve state request fault).2 ∧
      (next (serve state request fault).1).Sound serve (rely tag) (guarantee tag) (post tag)
        (serve state request fault).2 :=
  sound _ member state (reflexive tag state) fault

/-- One call of one task keeps the pool sound when the other tasks rely on its guarantee. -/
theorem AllSound.advance {index : Nat} {tag : Tag} {request : Call}
    {next : Answer request → Program Call Answer A}
    (reflexive : ∀ tag state, rely tag state state)
    (transitive : ∀ tag first second third, rely tag first second → rely tag second third →
      rely tag first third)
    (posts : ∀ tag value first second, post tag value first → rely tag first second →
      post tag value second)
    (sound : AllSound serve rely guarantee post tasks state)
    (found : tasks[index]? = some ⟨tag, .call request next⟩)
    (compatible : ∀ position other, position ≠ index → tasks[position]? = some other →
      ∀ before after, guarantee tag before after → rely other.tag before after)
    (fault : Fault) :
    AllSound serve rely guarantee post
      (tasks.set index ⟨tag, next (serve state request fault).1⟩)
      (serve state request fault).2 := by
  obtain ⟨kept, continued⟩ := sound.call reflexive (List.mem_of_getElem? found) fault
  intro task member
  obtain ⟨position, placed⟩ := List.mem_iff_getElem?.mp member
  by_cases same : index = position
  · subst same
    rw [List.getElem?_set_self (List.getElem?_eq_some_iff.mp found).1, Option.some.injEq] at placed
    exact placed ▸ continued
  · rw [List.getElem?_set_ne same] at placed
    have disturbed := compatible position task (Ne.symm same) placed _ _ kept
    exact (sound task (List.mem_of_getElem? placed)).stable (transitive task.tag)
      (fun value _ held => posts task.tag value _ _ held disturbed) disturbed

/-- The rest of a task changes, but its tag does not. -/
theorem map_set_rest {B : Type} (f : Tag → B) {index : Nat} {task : Task Tag Call Answer A}
    (found : tasks[index]? = some task) (rest : Program Call Answer A) :
    (tasks.set index ⟨task.tag, rest⟩).map (fun task => f task.tag) =
      tasks.map fun task => f task.tag := by
  apply List.ext_getElem?
  intro position
  by_cases same : index = position
  · subst same
    rw [List.getElem?_map, List.getElem?_set_self (List.getElem?_eq_some_iff.mp found).1,
      List.getElem?_map, found]
    rfl
  · rw [List.getElem?_map, List.getElem?_set_ne same, List.getElem?_map]

/-- Tasks at different positions of a pool without duplicates differ. -/
theorem ne_of_nodup {B : Type} {f : Tag → B} {index position : Nat}
    {task other : Task Tag Call Answer A} (nodup : (tasks.map fun task => f task.tag).Nodup)
    (found : tasks[index]? = some task) (placed : tasks[position]? = some other)
    (different : position ≠ index) : f other.tag ≠ f task.tag := by
  intro same
  refine different ((List.getElem?_inj ?_ nodup).mp ?_)
  · rw [List.length_map]
    exact (List.getElem?_eq_some_iff.mp placed).1
  · rw [List.getElem?_map, List.getElem?_map, found, placed]
    exact congrArg some same

end Task
end ErieCanal.Lib
