import ErieCanal.Lib.Program

namespace ErieCanal.Lib

section Entries
variable {E : Type}

/-- Every entry of the list stands in this relation to the entries before it and after it; the
list itself comes after the past. -/
def AtEach (relation : List E → E → List E → Prop) (past entries : List E) : Prop :=
  ∀ before entry after, entries = before ++ entry :: after → relation (past ++ before) entry after

variable {relation : List E → E → List E → Prop} {past : List E}

@[simp] theorem atEach_nil : AtEach relation past [] := by
  intro before entry after split
  simp at split

@[simp] theorem atEach_cons (entry : E) (rest : List E) :
    AtEach relation past (entry :: rest) ↔
      relation past entry rest ∧ AtEach relation (past ++ [entry]) rest := by
  constructor
  · intro each
    refine ⟨?_, fun before later after split => ?_⟩
    · simpa using each [] entry rest rfl
    · simpa using each (entry :: before) later after (by rw [split, List.cons_append])
  · rintro ⟨first, each⟩ before later after split
    cases before with
    | nil =>
        rw [List.nil_append, List.cons.injEq] at split
        obtain ⟨rfl, rfl⟩ := split
        rwa [List.append_nil]
    | cons head before =>
        rw [List.cons_append, List.cons.injEq] at split
        obtain ⟨rfl, split⟩ := split
        simpa using each before later after split

theorem AtEach.append {first second : List E}
    (one : AtEach (fun before entry after => relation before entry (after ++ second)) past first)
    (two : AtEach relation (past ++ first) second) : AtEach relation past (first ++ second) := by
  induction first generalizing past with
  | nil => simpa using two
  | cons entry rest ih =>
      rw [atEach_cons] at one
      rw [List.cons_append, atEach_cons]
      exact ⟨one.1, ih one.2 (by simpa using two)⟩

theorem AtEach.weaken {weaker : List E → E → List E → Prop} {entries : List E}
    (each : AtEach relation past entries)
    (implies : ∀ before entry after, relation before entry after → weaker before entry after) :
    AtEach weaker past entries :=
  fun before entry after split => implies _ _ _ (each before entry after split)

end Entries

namespace Program
variable {Call : Type} {Answer : Call → Type} {A B : Type}

section Transcripts
variable {State Fault : Type}
  (serve : State → (request : Call) → Fault → Answer request × State)

/-- The transcript of an undisturbed execution lists its calls with their answers. -/
def transcript : Program Call Answer A → (Nat → Fault) → State → List (Sigma Answer)
  | .done _, _, _ => []
  | .call request next, faults, state =>
      ⟨request, (serve state request (faults 0)).1⟩ ::
        transcript (next (serve state request (faults 0)).1) (fun index => faults (index + 1))
          (serve state request (faults 0)).2

/-- Whatever faults an undisturbed execution meets, its transcript, its value and its final state
are in this relation. -/
def Tells (post : List (Sigma Answer) → A → State → Prop) : Program Call Answer A → State → Prop
  | .done value, state => post [] value state
  | .call request next, state => ∀ fault,
      Tells (fun rest => post (⟨request, (serve state request fault).1⟩ :: rest))
        (next (serve state request fault).1) (serve state request fault).2

variable {serve} {post : List (Sigma Answer) → A → State → Prop} {program : Program Call Answer A}
  {state : State}

theorem Tells.transcript (told : Tells serve post program state) (faults : Nat → Fault) :
    post (program.transcript serve faults state) (program.execute serve faults state).1
      (program.execute serve faults state).2 := by
  induction program generalizing post state faults with
  | done value => exact told
  | call request next ih => exact ih _ (told (faults 0)) _

theorem Tells.weaken {post' : List (Sigma Answer) → A → State → Prop}
    (told : Tells serve post program state)
    (posts : ∀ entries value final, post entries value final → post' entries value final) :
    Tells serve post' program state := by
  induction program generalizing post post' state with
  | done value => exact posts _ _ _ told
  | call request next ih =>
      intro fault
      exact ih _ (told fault) fun entries value final => posts _ value final

/-- The transcript of a composed program is that of its head and then that of its tail. -/
theorem Tells.bind {post : List (Sigma Answer) → B → State → Prop}
    {next : A → Program Call Answer B}
    (told : Tells serve (fun entries value final => Tells serve
      (fun rest => post (entries ++ rest)) (next value) final) program state) :
    Tells serve post (program.bind next) state := by
  induction program generalizing post state with
  | done value => exact told
  | call request rest ih =>
      intro fault
      exact ih _ (told fault)

/-- Under the same fault at every call the transcript of a composed program goes through its head
and then its tail. -/
theorem transcript_bind (program : Program Call Answer A) (next : A → Program Call Answer B)
    (fault : Fault) (state : State) :
    (program.bind next).transcript serve (fun _ => fault) state =
      program.transcript serve (fun _ => fault) state ++
        (next (program.execute serve (fun _ => fault) state).1).transcript serve (fun _ => fault)
          (program.execute serve (fun _ => fault) state).2 := by
  induction program generalizing state with
  | done value => rfl
  | call request rest ih => exact congrArg _ (ih _ _)

end Transcripts
end Program
end ErieCanal.Lib
