import Mathlib.Logic.Basic

namespace ErieCanal.Lib

/-- A program makes one atomic call at a time and continues on its answer. -/
inductive Program (Call : Type) (Answer : Call → Type) (A : Type) where
  | done (value : A)
  | call (request : Call) (next : Answer request → Program Call Answer A)

namespace Program
variable {Call : Type} {Answer : Call → Type} {A B : Type}

def bind : Program Call Answer A → (A → Program Call Answer B) → Program Call Answer B
  | .done value, next => next value
  | .call request rest, next => .call request fun answer => (rest answer).bind next

instance : Monad (Program Call Answer) where
  pure := .done
  bind := bind

/-- This program makes one call and returns its answer. -/
def perform (request : Call) : Program Call Answer (Answer request) :=
  .call request .done

@[simp] theorem bind_eq (program : Program Call Answer A) (next : A → Program Call Answer B) :
    program >>= next = program.bind next := rfl

@[simp] theorem pure_eq (value : A) : (pure value : Program Call Answer A) = .done value := rfl

@[simp] theorem done_bind (value : A) (next : A → Program Call Answer B) :
    (.done value : Program Call Answer A).bind next = next value := rfl

@[simp] theorem call_bind (request : Call) (rest : Answer request → Program Call Answer A)
    (next : A → Program Call Answer B) :
    (.call request rest : Program Call Answer A).bind next =
      .call request fun answer => (rest answer).bind next := rfl

@[simp] theorem perform_bind (request : Call) (next : Answer request → Program Call Answer B) :
    (perform request).bind next = .call request next := rfl

/-- The calls of a program are calls of a larger interface. -/
def lift {Call' : Type} {Answer' : Call' → Type} (into : Call → Call')
    (back : (request : Call) → Answer' (into request) → Answer request) :
    Program Call Answer A → Program Call' Answer' A
  | .done value => .done value
  | .call request next =>
      .call (into request) fun answer => (next (back request answer)).lift into back

theorem lift_bind {Call' : Type} {Answer' : Call' → Type} {into : Call → Call'}
    {back : (request : Call) → Answer' (into request) → Answer request}
    (program : Program Call Answer A) (next : A → Program Call Answer B) :
    (program.bind next).lift into back =
      (program.lift into back).bind fun value => (next value).lift into back := by
  induction program with
  | done value => rfl
  | call request rest ih => exact congrArg (Program.call (into request)) (funext fun _ => ih _)

section Execution
variable {State Fault : Type}
  (serve : State → (request : Call) → Fault → Answer request × State)

/-- An undisturbed execution makes every call in turn; the fault stream decides which calls fail. -/
def execute : Program Call Answer A → (Nat → Fault) → State → A × State
  | .done value, _, state => (value, state)
  | .call request next, faults, state =>
      execute (next (serve state request (faults 0)).1) (fun index => faults (index + 1))
        (serve state request (faults 0)).2

/-- Under the same fault at every call an execution goes through its head and then its tail. -/
theorem execute_bind (program : Program Call Answer A) (next : A → Program Call Answer B)
    (fault : Fault) (state : State) :
    (program.bind next).execute serve (fun _ => fault) state =
      (next (program.execute serve (fun _ => fault) state).1).execute serve (fun _ => fault)
        (program.execute serve (fun _ => fault) state).2 := by
  induction program generalizing state with
  | done value => rfl
  | call request rest ih => exact ih _ _

/-- If the larger interface serves the calls on a part of its state, a lifted program does there
what the program does. -/
theorem execute_lift {Call' : Type} {Answer' : Call' → Type} {State' Fault' : Type}
    {into : Call → Call'} {back : (request : Call) → Answer' (into request) → Answer request}
    {serve' : State' → (request : Call') → Fault' → Answer' request × State'}
    {part : State' → State} {fault : Fault} {fault' : Fault'}
    (serves : ∀ outer request, (back request (serve' outer (into request) fault').1,
      part (serve' outer (into request) fault').2) = serve (part outer) request fault)
    (program : Program Call Answer A) (outer : State') :
    (((program.lift into back).execute serve' (fun _ => fault') outer).1,
        part ((program.lift into back).execute serve' (fun _ => fault') outer).2) =
      program.execute serve (fun _ => fault) (part outer) := by
  induction program generalizing outer with
  | done value => rfl
  | call request next ih =>
      rw [execute, ← serves outer request]
      exact ih _ _

/-- A sound program keeps its guarantee at every call, whatever the rely relation does between
two calls, and ends in its postcondition. -/
def Sound (rely guarantee : State → State → Prop) (post : A → State → Prop) :
    Program Call Answer A → State → Prop
  | .done value, state => post value state
  | .call request next, state =>
      ∀ current, rely state current → ∀ fault,
        guarantee current (serve current request fault).2 ∧
          Sound rely guarantee post (next (serve current request fault).1)
            (serve current request fault).2

variable {serve} {rely guarantee : State → State → Prop}

/-- Interference before the next call keeps a program sound. -/
theorem Sound.stable {post : A → State → Prop} {program : Program Call Answer A}
    {state later : State}
    (transitive : ∀ first second third, rely first second → rely second third → rely first third)
    (posts : ∀ value, program = .done value → post value state → post value later)
    (sound : Sound serve rely guarantee post program state) (disturbed : rely state later) :
    Sound serve rely guarantee post program later := by
  cases program with
  | done value => exact posts value rfl sound
  | call request next =>
      intro current interfered fault
      exact sound current (transitive _ _ _ disturbed interfered) fault

/-- Sequential composition is sound when its tail is sound wherever its head ends. -/
theorem Sound.bind {post : B → State → Prop} {next : A → Program Call Answer B}
    {program : Program Call Answer A} {state : State}
    (sound : Sound serve rely guarantee
      (fun value final => Sound serve rely guarantee post (next value) final) program state) :
    Sound serve rely guarantee post (program.bind next) state := by
  induction program generalizing state with
  | done value => exact sound
  | call request rest ih =>
      intro current interfered fault
      obtain ⟨kept, continued⟩ := sound current interfered fault
      exact ⟨kept, ih _ continued⟩

/-- A weaker guarantee and a weaker postcondition keep a program sound. -/
theorem Sound.weaken {weaker : State → State → Prop} {post post' : A → State → Prop}
    {program : Program Call Answer A} {state : State}
    (guarantees : ∀ before after, guarantee before after → weaker before after)
    (posts : ∀ value final, post value final → post' value final)
    (sound : Sound serve rely guarantee post program state) :
    Sound serve rely weaker post' program state := by
  induction program generalizing state with
  | done value => exact posts value state sound
  | call request rest ih =>
      intro current interfered fault
      obtain ⟨kept, continued⟩ := sound current interfered fault
      exact ⟨guarantees _ _ kept, ih _ continued⟩

/-- An undisturbed execution of a sound program ends in its postcondition. -/
theorem Sound.execute {post : A → State → Prop} {program : Program Call Answer A} {state : State}
    (reflexive : ∀ state, rely state state)
    (sound : Sound serve rely guarantee post program state) (faults : Nat → Fault) :
    post (program.execute serve faults state).1 (program.execute serve faults state).2 := by
  induction program generalizing state faults with
  | done value => exact sound
  | call request rest ih => exact ih _ (sound state (reflexive state) (faults 0)).2 _

/-- A program ensures its postcondition when no other program interferes. -/
def Ensures (serve : State → (request : Call) → Fault → Answer request × State)
    (post : A → State → Prop) (program : Program Call Answer A) (state : State) : Prop :=
  Sound serve Eq (fun _ _ => True) post program state

theorem Ensures.bind {post : B → State → Prop} {next : A → Program Call Answer B}
    {program : Program Call Answer A} {state : State}
    (ensured : Ensures serve (fun value final => Ensures serve post (next value) final)
      program state) : Ensures serve post (program.bind next) state :=
  Sound.bind ensured

theorem Ensures.weaken {post post' : A → State → Prop} {program : Program Call Answer A}
    {state : State} (ensured : Ensures serve post program state)
    (posts : ∀ value final, post value final → post' value final) :
    Ensures serve post' program state :=
  Sound.weaken (fun _ _ kept => kept) posts ensured

theorem Ensures.execute {post : A → State → Prop} {program : Program Call Answer A} {state : State}
    (ensured : Ensures serve post program state) (faults : Nat → Fault) :
    post (program.execute serve faults state).1 (program.execute serve faults state).2 :=
  Sound.execute (fun _ => rfl) ensured faults

/-- In states that meet the condition the program makes at most so many calls, and then returns a
value of the postcondition. -/
def Returns (serve : State → (request : Call) → Fault → Answer request × State) (fault : Fault)
    (condition : State → Prop) (post : A → Prop) : Program Call Answer A → Nat → Prop
  | .done value, _ => post value
  | .call _ _, 0 => False
  | .call request next, calls + 1 => ∀ state, condition state →
      Returns serve fault condition post (next (serve state request fault).1) calls

/-- A weaker postcondition and a larger bound keep what a program returns. -/
theorem Returns.weaken {fault : Fault} {condition : State → Prop} {post post' : A → Prop}
    {fewer more : Nat} {program : Program Call Answer A}
    (returns : Returns serve fault condition post program fewer) (bound : fewer ≤ more)
    (posts : ∀ value, post value → post' value) :
    Returns serve fault condition post' program more := by
  induction program generalizing fewer more with
  | done value => exact posts value returns
  | call request next ih =>
      cases fewer with
      | zero => exact returns.elim
      | succ fewer =>
          obtain ⟨more, rfl⟩ : ∃ rest, more = rest + 1 := ⟨more - 1, by omega⟩
          intro state met
          exact ih _ (returns state met) (by omega)

/-- A composed program makes the calls of its head and then those of its tail. -/
theorem Returns.bind {fault : Fault} {condition : State → Prop} {post : B → Prop}
    {head tail : Nat} {next : A → Program Call Answer B} {program : Program Call Answer A}
    (returns : Returns serve fault condition
      (fun value => Returns serve fault condition post (next value) tail) program head) :
    Returns serve fault condition post (program.bind next) (head + tail) := by
  induction program generalizing head with
  | done value =>
      have begun : Returns serve fault condition post (next value) tail := returns
      exact begun.weaken (by omega) fun _ held => held
  | call request rest ih =>
      cases head with
      | zero => exact returns.elim
      | succ head =>
          rw [Nat.add_right_comm]
          exact fun state met => ih _ (returns state met)

end Execution
end Program
end ErieCanal.Lib
