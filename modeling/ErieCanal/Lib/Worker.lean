import ErieCanal.Lib.Machine
import ErieCanal.Lib.Program

namespace ErieCanal.Lib

/-- A suspended job knows its next call and how it goes on with the answer. -/
structure Suspended (Call : Type) (Answer : Call → Type) (Outcome : Type) where
  request : Call
  next : Answer request → Program Call Answer Outcome

def Suspended.program {Call : Type} {Answer : Call → Type} {Outcome : Type}
    (suspended : Suspended Call Answer Outcome) : Program Call Answer Outcome :=
  .call suspended.request suspended.next

/-- A worker has one job at a time, while clients write to the same store; it remembers the job
that its last step completed. -/
structure Worker (Store Job Call : Type) (Answer : Call → Type) (Outcome : Type) where
  store : Store
  working : Option (Job × Suspended Call Answer Outcome)
  completed : Option (Job × Outcome)

inductive WorkerStep (Write Job Fault : Type) where
  | client (write : Write)
  | start (job : Job)
  | advance (fault : Fault)

namespace Worker
variable {Store Write Job Fault Call Outcome : Type} {Answer : Call → Type}

def idle (store : Store) : Worker Store Job Call Answer Outcome := ⟨store, none, none⟩

/-- A job that needs no further call is over. -/
def resume (store : Store) (job : Job) :
    Program Call Answer Outcome → Worker Store Job Call Answer Outcome
  | .call request next => ⟨store, some (job, ⟨request, next⟩), none⟩
  | .done outcome => ⟨store, none, some (job, outcome)⟩

section Machine
variable (apply : Store → Write → Option Store)
  (serve : Store → (request : Call) → Fault → Answer request × Store)
  (program : Job → Program Call Answer Outcome)

def machine : Machine (Worker Store Job Call Answer Outcome) (WorkerStep Write Job Fault) where
  step worker
    | .client write => (apply worker.store write).map fun store =>
        { worker with store, completed := none }
    | .start job =>
        match worker.working with
        | some _ => none
        | none => some (resume worker.store job (program job))
    | .advance fault =>
        match worker.working with
        | none => none
        | some (job, suspended) =>
            let served := serve worker.store suspended.request fault
            some (resume served.2 job (suspended.next served.1))

/-- The conditions on a step concern the write, the job or the call that it takes up. -/
def Meets (writes : Store → Write → Prop) (jobs : Store → Job → Prop)
    (calls : Store → Call → Fault → Prop) (worker : Worker Store Job Call Answer Outcome) :
    WorkerStep Write Job Fault → Prop
  | .client write => writes worker.store write
  | .start job => jobs worker.store job
  | .advance fault => ∀ pending ∈ worker.working, calls worker.store pending.2.request fault

instance {writes : Store → Write → Prop} {jobs : Store → Job → Prop}
    {calls : Store → Call → Fault → Prop} [∀ store write, Decidable (writes store write)]
    [∀ store job, Decidable (jobs store job)] [∀ store call fault, Decidable (calls store call fault)]
    (worker : Worker Store Job Call Answer Outcome) (step : WorkerStep Write Job Fault) :
    Decidable (Meets writes jobs calls worker step) :=
  match step with
  | .client write => inferInstanceAs (Decidable (writes worker.store write))
  | .start job => inferInstanceAs (Decidable (jobs worker.store job))
  | .advance fault => inferInstanceAs
      (Decidable (∀ pending ∈ worker.working, calls worker.store pending.2.request fault))

/-- What a worker relies on and what it ensures: an invariant of every state, the state between
two jobs and the postcondition of each job. -/
structure Contract (Store Job Outcome : Type) where
  rely : Store → Store → Prop
  invariant : Store → Prop
  between : Store → Prop
  post : Job → Outcome → Store → Prop
  reflexive : ∀ store, rely store store
  transitive : ∀ first second third, rely first second → rely second third → rely first third
  stable : ∀ before after, between before → rely before after → between after
  ends : ∀ job outcome store, post job outcome store → between store

namespace Contract
variable (contract : Contract Store Job Outcome)

/-- Every call of a job keeps the invariant. -/
def guarantee (before after : Store) : Prop := contract.invariant before → contract.invariant after

/-- A worker fulfils its contract in this state. -/
structure Fulfils (worker : Worker Store Job Call Answer Outcome) : Prop where
  invariant : contract.invariant worker.store
  between : worker.working = none → contract.between worker.store
  completed : ∀ job outcome, worker.completed = some (job, outcome) →
    contract.post job outcome worker.store
  sound : ∀ job suspended, worker.working = some (job, suspended) →
    suspended.program.Sound serve contract.rely contract.guarantee (contract.post job) worker.store

variable {contract} {apply serve program}

theorem fulfils_idle {store : Store} (holds : contract.invariant store)
    (between : contract.between store) :
    contract.Fulfils serve (idle store : Worker Store Job Call Answer Outcome) := by
  refine ⟨holds, fun _ => between, ?_, ?_⟩
  · intro job outcome finished
    cases finished
  · intro job suspended busy
    cases busy

theorem fulfils_resume {store : Store} {job : Job} {rest : Program Call Answer Outcome}
    (holds : contract.invariant store)
    (sound : rest.Sound serve contract.rely contract.guarantee (contract.post job) store) :
    contract.Fulfils serve (resume store job rest) := by
  cases rest with
  | done outcome =>
      refine ⟨holds, fun _ => contract.ends job outcome store sound, ?_, ?_⟩
      · intro other result same
        cases same
        exact sound
      · intro other suspended busy
        cases busy
  | call request next =>
      refine ⟨holds, ?_, ?_, ?_⟩
      · intro free
        cases free
      · intro other result finished
        cases finished
      · intro other suspended busy
        cases busy
        exact sound

/-- The expected answers are the ones that calls within their conditions get. -/
theorem Fulfils.step {expected : Store → (request : Call) → Fault → Answer request × Store}
    {writes : Store → Write → Prop} {jobs : Store → Job → Prop}
    {calls : Store → Call → Fault → Prop}
    (disturbs : ∀ store write next, writes store write → apply store write = some next →
      contract.rely store next ∧ (contract.invariant store → contract.invariant next))
    (begins : ∀ store job, jobs store job → contract.invariant store → contract.between store →
      (program job).Sound expected contract.rely contract.guarantee (contract.post job) store)
    (answers : ∀ store request fault, calls store request fault →
      serve store request fault = expected store request fault)
    {worker next : Worker Store Job Call Answer Outcome} {step : WorkerStep Write Job Fault}
    (fulfilled : contract.Fulfils expected worker) (meets : Meets writes jobs calls worker step)
    (stepped : (machine apply serve program).step worker step = some next) :
    contract.Fulfils expected next := by
  cases step with
  | client write =>
      obtain ⟨store, applied, rfl⟩ := Option.map_eq_some_iff.mp stepped
      obtain ⟨disturbed, kept⟩ := disturbs _ _ _ meets applied
      refine ⟨kept fulfilled.invariant, ?_, ?_, ?_⟩
      · intro free
        exact contract.stable _ _ (fulfilled.between free) disturbed
      · intro job outcome finished
        cases finished
      · intro job suspended busy
        refine (fulfilled.sound job suspended busy).stable contract.transitive ?_ disturbed
        intro outcome finished
        cases finished
  | start job =>
      simp only [machine] at stepped
      split at stepped
      · cases stepped
      · rename_i free
        cases stepped
        exact fulfils_resume fulfilled.invariant
          (begins _ job meets fulfilled.invariant (fulfilled.between free))
  | advance fault =>
      simp only [machine] at stepped
      split at stepped
      · cases stepped
      · rename_i job suspended busy
        cases stepped
        rw [answers _ _ _ (meets _ busy)]
        obtain ⟨kept, continued⟩ :=
          fulfilled.sound job suspended busy _ (contract.reflexive worker.store) fault
        exact fulfils_resume (kept fulfilled.invariant) continued

end Contract
end Machine
end Worker
end ErieCanal.Lib
