import ErieCanal.Lib.Program

namespace ErieCanal.Lib.Program
variable {Call : Type} {Answer : Call → Type} {A State Fault View : Type}
  {serve : State → (request : Call) → Fault → Answer request × State}

/-- The state after some attempts at a program, each with its own faults. -/
def attempted (serve : State → (request : Call) → Fault → Answer request × State)
    (program : Program Call Answer A) (attempts : List (Nat → Fault)) (start : State) : State :=
  attempts.foldl (fun state faults => (program.execute serve faults state).2) start

/-- Every end of the program has the same goal as its start, and a success reaches the goal. -/
def Approaches (serve : State → (request : Call) → Fault → Answer request × State)
    (view : State → View) (goal : View → View) (success : A → Prop)
    (program : Program Call Answer A) : Prop :=
  ∀ start, Ensures serve (fun value final => goal (view final) = goal (view start) ∧
    (success value → view final = goal (view start))) program start

variable {view : State → View} {goal : View → View} {success : A → Prop}
  {program : Program Call Answer A}

theorem Approaches.attempted (approaches : Approaches serve view goal success program)
    (attempts : List (Nat → Fault)) (start : State) :
    goal (view (program.attempted serve attempts start)) = goal (view start) := by
  induction attempts generalizing start with
  | nil => rfl
  | cons faults attempts ih =>
      exact (ih _).trans ((approaches start).execute faults).1

/-- However many attempts failed before, an attempt that succeeds reaches the goal of the start. -/
theorem Approaches.retried (approaches : Approaches serve view goal success program)
    (attempts : List (Nat → Fault)) (faults : Nat → Fault) (start : State)
    (succeeded : success (program.execute serve faults
      (program.attempted serve attempts start)).1) :
    view (program.execute serve faults (program.attempted serve attempts start)).2 =
      goal (view start) := by
  rw [((approaches _).execute faults).2 succeeded, approaches.attempted]

/-- A program that ensures its postcondition under the allowed faults reaches it when it meets no
other ones. -/
theorem Ensures.execute_allowed {allowed : Fault → Prop} {post : A → State → Prop} {start : State}
    (ensured : Ensures (fun state request (fault : {fault // allowed fault}) =>
      serve state request fault.1) post program start)
    {faults : Nat → Fault} (met : ∀ index, allowed (faults index)) :
    post (program.execute serve faults start).1 (program.execute serve faults start).2 := by
  induction program generalizing start faults with
  | done value => exact ensured
  | call request next ih =>
      exact ih _ (ensured start rfl ⟨faults 0, met 0⟩).2 fun index => met (index + 1)

/-- A property that every call keeps is kept by every program. -/
theorem Ensures.of_kept {kept : State → Prop}
    (calls : ∀ state request fault, kept state → kept (serve state request fault).2)
    (program : Program Call Answer A) {start : State} (held : kept start) :
    Ensures serve (fun _ final => kept final) program start := by
  induction program generalizing start with
  | done value => exact held
  | call request next ih =>
      rintro _ rfl fault
      exact ⟨trivial, ih _ (calls start request fault held)⟩

theorem Ensures.and {post post' : A → State → Prop} {start : State}
    (first : Ensures serve post program start) (second : Ensures serve post' program start) :
    Ensures serve (fun value final => post value final ∧ post' value final) program start := by
  induction program generalizing start with
  | done value => exact ⟨first, second⟩
  | call request next ih =>
      rintro _ rfl fault
      exact ⟨trivial, ih _ (first start rfl fault).2 (second start rfl fault).2⟩

/-- An interface is lifted into a larger one in two steps or in one. -/
theorem lift_lift {Call₁ Call₂ : Type} {Answer₁ : Call₁ → Type} {Answer₂ : Call₂ → Type}
    (into₁ : Call → Call₁) (back₁ : (request : Call) → Answer₁ (into₁ request) → Answer request)
    (into₂ : Call₁ → Call₂)
    (back₂ : (request : Call₁) → Answer₂ (into₂ request) → Answer₁ request)
    (program : Program Call Answer A) :
    (program.lift into₁ back₁).lift into₂ back₂ =
      program.lift (fun request => into₂ (into₁ request))
        (fun request answer => back₁ request (back₂ (into₁ request) answer)) := by
  induction program with
  | done value => rfl
  | call request next ih =>
      simp only [lift, ih]

section Lift
variable {Call' : Type} {Answer' : Call' → Type} {State' Fault' : Type} {into : Call → Call'}
  {back : (request : Call) → Answer' (into request) → Answer request}
  {serve' : State' → (request : Call') → Fault' → Answer' request × State'}
  {part : State' → State}

/-- A lifted program ensures on a part of the state what the program ensures, if the larger
interface serves every call there, whatever its fault is. -/
theorem Ensures.lift {post : A → State → Prop}
    (serves : ∀ outer request fault', ∃ fault,
      (back request (serve' outer (into request) fault').1,
        part (serve' outer (into request) fault').2) = serve (part outer) request fault)
    {outer : State'} (ensured : Ensures serve post program (part outer)) :
    Ensures serve' (fun value final => post value (part final)) (program.lift into back) outer := by
  induction program generalizing outer with
  | done value => exact ensured
  | call request next ih =>
      intro current same fault'
      subst same
      obtain ⟨fault, served⟩ := serves outer request fault'
      have answered : back request (serve' outer (into request) fault').1 =
          (serve (part outer) request fault).1 := congrArg Prod.fst served
      have reached : part (serve' outer (into request) fault').2 =
          (serve (part outer) request fault).2 := congrArg Prod.snd served
      refine ⟨trivial, ih _ ?_⟩
      rw [answered, reached]
      exact (ensured _ rfl fault).2

end Lift
end ErieCanal.Lib.Program
