import Mathlib.Data.Option.Basic

namespace ErieCanal.Lib

/-- A machine takes one labelled step at a time and refuses a disabled label. -/
structure Machine (State Label : Type) where
  step : State → Label → Option State

namespace Machine
variable {State Label : Type} (machine : Machine State Label)

/-- A run takes its labels from left to right. -/
def run : State → List Label → Option State
  | state, [] => some state
  | state, label :: rest => (machine.step state label).bind fun next => run next rest

/-- Every label of the run meets the guard in the state before its step. -/
def Guarded (guard : State → Label → Prop) : State → List Label → Prop
  | _, [] => True
  | state, label :: rest =>
      guard state label ∧ ∀ next, machine.step state label = some next → Guarded guard next rest

instance decidableGuarded (guard : State → Label → Prop)
    [∀ state label, Decidable (guard state label)] :
    ∀ state labels, Decidable (machine.Guarded guard state labels)
  | _, [] => .isTrue trivial
  | state, label :: rest =>
      have (next : State) : Decidable (machine.Guarded guard next rest) :=
        decidableGuarded guard next rest
      inferInstanceAs (Decidable (guard state label ∧
        ∀ next ∈ machine.step state label, machine.Guarded guard next rest))

@[simp] theorem run_nil (state : State) : machine.run state [] = some state := rfl

theorem run_cons_eq_some (state final : State) (label : Label) (rest : List Label) :
    machine.run state (label :: rest) = some final ↔
      ∃ next, machine.step state label = some next ∧ machine.run next rest = some final := by
  simp only [run, Option.bind_eq_some_iff]

/-- A guarded step that keeps the invariant keeps it along every guarded run. -/
theorem run_invariant {guard : State → Label → Prop} {invariant : State → Prop}
    (preserved : ∀ state label next, invariant state → guard state label →
      machine.step state label = some next → invariant next)
    {state final : State} {labels : List Label} (start : invariant state)
    (guarded : machine.Guarded guard state labels)
    (reached : machine.run state labels = some final) : invariant final := by
  induction labels generalizing state with
  | nil =>
      rw [run_nil, Option.some.injEq] at reached
      exact reached ▸ start
  | cons label rest ih =>
      obtain ⟨next, stepped, continued⟩ := (machine.run_cons_eq_some _ _ _ _).mp reached
      exact ih (preserved state label next start guarded.1 stepped)
        (guarded.2 next stepped) continued

/-- A step that keeps an invariant of the past keeps it along every run. -/
theorem run_history {invariant : List Label → State → Prop}
    (preserved : ∀ past state label next, invariant past state →
      machine.step state label = some next → invariant (past ++ [label]) next)
    {past : List Label} {state final : State} {labels : List Label} (start : invariant past state)
    (reached : machine.run state labels = some final) : invariant (past ++ labels) final := by
  induction labels generalizing past state with
  | nil =>
      rw [run_nil, Option.some.injEq] at reached
      rw [List.append_nil]
      exact reached ▸ start
  | cons label rest ih =>
      obtain ⟨next, stepped, continued⟩ := (machine.run_cons_eq_some _ _ _ _).mp reached
      have later := ih (preserved past state label next start stepped) continued
      rwa [List.append_assoc] at later

theorem run_append_eq_some (state final : State) (first second : List Label) :
    machine.run state (first ++ second) = some final ↔
      ∃ middle, machine.run state first = some middle ∧ machine.run middle second = some final := by
  induction first generalizing state with
  | nil => simp
  | cons label rest ih =>
      simp only [List.cons_append, run_cons_eq_some, ih]
      constructor
      · rintro ⟨next, stepped, middle, continued, finished⟩
        exact ⟨middle, ⟨next, stepped, continued⟩, finished⟩
      · rintro ⟨middle, ⟨next, stepped, continued⟩, finished⟩
        exact ⟨next, stepped, middle, continued, finished⟩

theorem guarded_append {guard : State → Label → Prop} {state : State} {first second : List Label}
    (guarded : machine.Guarded guard state (first ++ second)) :
    machine.Guarded guard state first ∧
      ∀ middle, machine.run state first = some middle → machine.Guarded guard middle second := by
  induction first generalizing state with
  | nil =>
      refine ⟨trivial, fun middle reached => ?_⟩
      rw [run_nil, Option.some.injEq] at reached
      exact reached ▸ guarded
  | cons label rest ih =>
      refine ⟨⟨guarded.1, fun next stepped => (ih (guarded.2 next stepped)).1⟩, ?_⟩
      intro middle reached
      obtain ⟨next, stepped, continued⟩ := (machine.run_cons_eq_some _ _ _ _).mp reached
      exact (ih (guarded.2 next stepped)).2 middle continued

theorem guarded_of_forall {allowed : Label → Prop} (state : State) {labels : List Label}
    (all : ∀ label ∈ labels, allowed label) :
    machine.Guarded (fun _ label => allowed label) state labels := by
  induction labels generalizing state with
  | nil => trivial
  | cons label rest ih =>
      exact ⟨all label List.mem_cons_self, fun next _ =>
        ih next fun later member => all later (List.mem_cons_of_mem _ member)⟩

theorem Guarded.and {machine : Machine State Label} {first second : State → Label → Prop}
    {state : State} {labels : List Label} (one : machine.Guarded first state labels)
    (two : machine.Guarded second state labels) :
    machine.Guarded (fun state label => first state label ∧ second state label) state labels := by
  induction labels generalizing state with
  | nil => trivial
  | cons label rest ih =>
      exact ⟨⟨one.1, two.1⟩, fun next stepped => ih (one.2 next stepped) (two.2 next stepped)⟩

/-- What every step keeps holds along every run. -/
theorem run_preserves {invariant : State → Prop}
    (preserved : ∀ state label next, invariant state → machine.step state label = some next →
      invariant next)
    {state final : State} {labels : List Label} (start : invariant state)
    (reached : machine.run state labels = some final) : invariant final :=
  machine.run_invariant (fun state label next known _ => preserved state label next known) start
    (machine.guarded_of_forall state fun _ _ => trivial) reached

/-- A run that takes an establishing step, and otherwise steps that keep what it establishes, ends
with it. -/
theorem run_establishes {allowed : Label → Prop} {established : State → Prop} {label : Label}
    {labels : List Label} (all : ∀ label ∈ labels, allowed label) (within : label ∈ labels)
    (establishes : ∀ state next, machine.step state label = some next → established next)
    (stable : ∀ state step next, established state → allowed step →
      machine.step state step = some next → established next)
    {state final : State} (reached : machine.run state labels = some final) :
    established final := by
  obtain ⟨before, after, rfl⟩ := List.append_of_mem within
  obtain ⟨middle, _, continued⟩ := (machine.run_append_eq_some _ _ _ _).mp reached
  obtain ⟨next, stepped, finished⟩ := (machine.run_cons_eq_some _ _ _ _).mp continued
  exact machine.run_invariant stable (establishes middle next stepped)
    (machine.guarded_of_forall next fun step member => all step (by simp [member])) finished

end Machine
end ErieCanal.Lib
