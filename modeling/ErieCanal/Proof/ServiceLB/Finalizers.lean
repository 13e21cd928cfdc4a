import ErieCanal.Construction.ServiceLB.Status
import ErieCanal.Lib.Transcript
import Mathlib.Data.List.Induction

namespace ErieCanal.ServiceLB
open Lib Lib.Program

namespace ServiceReconciler

/-- The loop keeps the finalizer that follows a deleted one without looking at it, and panics on a
finalizer in what the deletions leave behind the slice. -/
def sweep : List String → List String → Option (List String)
  | [], stale => if finalizerName ∈ stale then none else some []
  | [v], stale =>
      if finalizerName ∈ stale then none
      else if v = finalizerName then some [] else some [v]
  | v :: next :: rest, stale =>
      if v = finalizerName then
        (sweep rest ((v :: next :: rest).drop (next :: rest).length ++ stale)).map (next :: ·)
      else (sweep (next :: rest) stale).map (v :: ·)

section Loop
variable {ranged : Slice} {kept room : List String} {k : Nat} {v : String}

/-- The loop reads the elements where they stand at the time. -/
theorem dropFinalizer_new (first : ranged.array = 0 ∧ ranged.offset = 0) (bound : k < ranged.len)
    (read : (kept ++ room)[k]? = some v) :
    dropFinalizer ranged (Slice.new kept room) k =
      if v ≠ finalizerName then some (Slice.new kept room)
      else (Slice.new kept room).2.deleteAt (Slice.new kept room).1 k := by
  have value : (ranged.contents (Slice.new kept room).1)[k]? = some v := by
    simp only [Slice.contents, Slice.new, first.1, first.2, List.getD_cons_zero, List.drop_zero]
    rw [List.getElem?_take_of_lt bound, read]
  rw [dropFinalizer, value]

/-- Behind the slice the loop panics on the first finalizer that it meets. -/
theorem foldlM_stale (first : ranged.array = 0 ∧ ranged.offset = 0) {seen left : List String}
    (total : ranged.len = kept.length + seen.length + left.length) :
    (List.range' (kept.length + seen.length) left.length).foldlM (dropFinalizer ranged)
        (Slice.new kept (seen ++ (left ++ room))) =
      if finalizerName ∈ left then none else some (Slice.new kept (seen ++ (left ++ room))) := by
  induction left generalizing seen with
  | nil => rfl
  | cons v left ih =>
      have bound : kept.length + seen.length < ranged.len := by
        rw [total, List.length_cons]
        omega
      have read : (kept ++ (seen ++ (v :: left ++ room)))[kept.length + seen.length]? = some v := by
        simp
      rw [List.length_cons, List.range'_succ, List.foldlM_cons, dropFinalizer_new first bound read]
      by_cases same : v = finalizerName
      · have panics : (Slice.new kept (seen ++ (v :: left ++ room))).2.deleteAt
            (Slice.new kept (seen ++ (v :: left ++ room))).1 (kept.length + seen.length) = none :=
          Slice.deleteAt_eq_none (Nat.le_add_right _ _)
        rw [if_neg (by simpa using same), panics, if_pos (same ▸ List.mem_cons_self)]
        rfl
      · have later := @ih (seen ++ [v]) (by rw [total]; simp; omega)
        rw [if_pos same]
        simp only [List.mem_cons, Ne.symm same, false_or, Option.bind_eq_bind, Option.bind_some]
        simpa [Nat.add_assoc] using later

/-- The loop passes over another finalizer. A deletion shifts the rest, so that the loop goes on
behind the element that takes the place of the deleted one. -/
theorem foldlM_step (first : ranged.array = 0 ∧ ranged.offset = 0) {done todo stale : List String}
    (total : ranged.len = done.length + ((v :: todo).length + stale.length)) :
    (List.range' done.length ((v :: todo).length + stale.length)).foldlM (dropFinalizer ranged)
        (Slice.new (done ++ v :: todo) (stale ++ room)) =
      (List.range' (done.length + 1) (todo.length + stale.length)).foldlM (dropFinalizer ranged)
        (if v = finalizerName then
          Slice.new (done ++ todo) ((v :: todo).drop todo.length ++ (stale ++ room))
        else Slice.new (done ++ v :: todo) (stale ++ room)) := by
  have bound : done.length < ranged.len := by
    rw [total, List.length_cons]
    omega
  have read : (done ++ v :: todo ++ (stale ++ room))[done.length]? = some v := by simp
  rw [List.length_cons, Nat.add_right_comm, List.range'_succ, List.foldlM_cons,
    dropFinalizer_new first bound read, Slice.deleteAt_new, ite_not]
  split <;> rfl

theorem contents_stale (first : ranged.array = 0 ∧ ranged.offset = 0) (kept seen : List String)
    {stale : List String} (total : ranged.len = kept.length + seen.length + stale.length) :
    ((List.range' (kept.length + seen.length) stale.length).foldlM (dropFinalizer ranged)
        (Slice.new kept (seen ++ (stale ++ room)))).map (fun final => final.2.contents final.1) =
      if finalizerName ∈ stale then none else some kept := by
  rw [foldlM_stale first total]
  split
  · rfl
  · simp

/-- From the first finalizer on that the loop has not looked at, it does what the sweep does. -/
theorem contents_sweep (first : ranged.array = 0 ∧ ranged.offset = 0) (todo : List String)
    {done stale : List String} (total : ranged.len = done.length + (todo.length + stale.length)) :
    ((List.range' done.length (todo.length + stale.length)).foldlM (dropFinalizer ranged)
        (Slice.new (done ++ todo) (stale ++ room))).map (fun final => final.2.contents final.1) =
      (sweep todo stale).map (done ++ ·) := by
  induction todo using List.twoStepInduction generalizing done stale with
  | nil =>
      have loop := @contents_stale ranged room first done [] stale (by simpa using total)
      simpa [sweep, apply_ite] using loop
  | singleton v =>
      rw [foldlM_step first total]
      by_cases same : v = finalizerName
      · have loop := @contents_stale ranged room first done [v] stale
          (by simpa [Nat.add_assoc] using total)
        simpa [sweep, same, apply_ite] using loop
      · have loop := @contents_stale ranged room first (done ++ [v]) [] stale
          (by simpa [Nat.add_assoc] using total)
        simpa [sweep, same, apply_ite] using loop
  | cons_cons v next rest ih ih' =>
      rw [foldlM_step first total]
      by_cases same : v = finalizerName
      · -- The element that takes the place of the deleted one is not looked at.
        have loop := @ih (done ++ [next]) ((v :: next :: rest).drop (next :: rest).length ++ stale)
          (by rw [total]; simp; omega)
        have size : rest.length + ((v :: next :: rest).drop (next :: rest).length ++ stale).length =
            (next :: rest).length + stale.length := by
          simp
          omega
        rw [if_pos same, sweep, if_pos same, ← size, Option.map_map]
        simpa only [List.append_assoc, List.singleton_append, List.length_append,
          List.length_singleton, Function.comp_def] using loop
      · have loop := @ih' next (done ++ [v]) stale (by rw [total]; simp; omega)
        rw [if_neg same, sweep, if_neg same, Option.map_map]
        simpa only [List.append_assoc, List.singleton_append, List.length_append,
          List.length_singleton, Function.comp_def] using loop

end Loop

theorem dropFinalizers_eq_sweep (finalizers room : List String) :
    dropFinalizers finalizers room = sweep finalizers [] := by
  have loop := @contents_sweep (Slice.new finalizers room).2 room ⟨rfl, rfl⟩ finalizers [] []
    (by simp [Slice.new])
  simpa [dropFinalizers, List.range_eq_range'] using loop

/-- These are the finalizers of the others, in their order. -/
def others (finalizers : List String) : List String :=
  finalizers.filter fun finalizer => finalizer ≠ finalizerName

/-- No finalizer of this controller stands right behind another one. -/
def Apart (finalizers : List String) : Prop :=
  finalizers.IsChain fun left right => ¬(left = finalizerName ∧ right = finalizerName)

theorem apart_cons_cons {v next : String} {rest : List String} :
    Apart (v :: next :: rest) ↔ ¬(v = finalizerName ∧ next = finalizerName) ∧ Apart (next :: rest) :=
  List.isChain_cons_cons

theorem apart_cons {v : String} (other : v ≠ finalizerName) (rest : List String) :
    Apart (v :: rest) ↔ Apart rest := by
  cases rest with
  | nil => exact iff_of_true (.singleton v) .nil
  | cons next rest => simp [apart_cons_cons, other]

section Sweep
variable {todo stale : List String}

theorem sweep_eq_none (left : finalizerName ∈ stale) : sweep todo stale = none := by
  induction todo using List.twoStepInduction generalizing stale with
  | nil => rw [sweep, if_pos left]
  | singleton v => rw [sweep, if_pos left]
  | cons_cons v next rest ih ih' =>
      rw [sweep]
      split
      · rw [ih (List.mem_append_right _ left), Option.map_none]
      · rw [ih' next left, Option.map_none]

/-- A deletion leaves a copy of the last finalizer behind the slice. -/
theorem mem_copy_iff (v next : String) (rest : List String) :
    finalizerName ∈ (v :: next :: rest).drop (next :: rest).length ↔
      (v :: next :: rest).getLast? = some finalizerName := by
  rw [List.drop_length_cons (List.cons_ne_nil next rest), List.getLast?_cons_cons,
    List.getLast?_eq_some_getLast (List.cons_ne_nil next rest), List.mem_singleton, Option.some.injEq,
    eq_comm]

theorem others_cons_self (rest : List String) : others (finalizerName :: rest) = others rest := by
  simp [others]

theorem others_cons {v : String} (other : v ≠ finalizerName) (rest : List String) :
    others (v :: rest) = v :: others rest := by
  simp [others, other]

theorem map_cons_eq_some_iff {v : String} {swept : Option (List String)} {rest : List String} :
    swept.map (v :: ·) = some (v :: rest) ↔ swept = some rest := by
  cases swept <;> simp

theorem not_mem_others (finalizers : List String) : finalizerName ∉ others finalizers := by
  simp [others]

/-- Where the finalizer of another controller comes last, the loop never panics. It keeps each
finalizer of this controller that stands right behind a deleted one. -/
theorem sweep_eq_others_iff (clean : finalizerName ∉ stale)
    (last : todo.getLast? ≠ some finalizerName) :
    sweep todo stale = some (others todo) ↔ Apart todo := by
  induction todo using List.twoStepInduction generalizing stale with
  | nil => exact iff_of_true (by simp [sweep, others, clean]) .nil
  | singleton v =>
      have other : v ≠ finalizerName := by simpa using last
      exact iff_of_true (by simp [sweep, others, clean, other]) (.singleton v)
  | cons_cons v next rest ih ih' =>
      have last' : (next :: rest).getLast? ≠ some finalizerName := by
        rwa [List.getLast?_cons_cons] at last
      rw [sweep]
      by_cases same : v = finalizerName
      · have clean' : finalizerName ∉ (v :: next :: rest).drop (next :: rest).length ++ stale := by
          rw [List.mem_append, mem_copy_iff]
          exact fun found => found.elim last clean
        rw [if_pos same]
        subst same
        rw [others_cons_self]
        by_cases again : next = finalizerName
        · -- The second of two adjacent ones is kept.
          have kept : (sweep rest ((finalizerName :: next :: rest).drop (next :: rest).length ++
              stale)).map (next :: ·) ≠ some (others (next :: rest)) := by
            intro swept
            obtain ⟨final, -, equal⟩ := Option.map_eq_some_iff.mp swept
            exact not_mem_others (next :: rest) (equal ▸ again ▸ List.mem_cons_self)
          exact iff_of_false kept fun apart => (apart_cons_cons.mp apart).1 ⟨rfl, again⟩
        · have last'' : rest.getLast? ≠ some finalizerName := by
            cases rest with
            | nil => simp
            | cons head tail => rwa [List.getLast?_cons_cons] at last'
          rw [others_cons again, map_cons_eq_some_iff, ih clean' last'', apart_cons_cons,
            apart_cons again]
          simp [again]
      · rw [if_neg same, others_cons same, map_cons_eq_some_iff, ih' next clean last',
          apart_cons same]

/-- Where the finalizer of this controller comes last, any earlier one makes the loop panic. -/
theorem sweep_eq_others_iff_count (last : todo.getLast? = some finalizerName) :
    sweep todo [] = some (others todo) ↔ todo.count finalizerName ≤ 1 := by
  induction todo using List.twoStepInduction with
  | nil => simp at last
  | singleton v =>
      have same : v = finalizerName := by simpa using last
      simp [sweep, others, same]
  | cons_cons v next rest ih ih' =>
      have last' : (next :: rest).getLast? = some finalizerName := by
        rwa [List.getLast?_cons_cons] at last
      rw [sweep]
      by_cases same : v = finalizerName
      · have copied := List.mem_append_left [] ((mem_copy_iff v next rest).mpr last)
        have more : 0 < (next :: rest).count finalizerName :=
          List.count_pos_iff.mpr (List.mem_of_getLast? last')
        rw [if_pos same, sweep_eq_none copied, Option.map_none, same, List.count_cons_self]
        exact iff_of_false (by simp) (by omega)
      · rw [if_neg same, others_cons same, map_cons_eq_some_iff, ih' next last',
          List.count_cons_of_ne same]

theorem apart_of_count_le (once : todo.count finalizerName ≤ 1) : Apart todo := by
  induction todo using List.twoStepInduction with
  | nil => exact .nil
  | singleton v => exact .singleton v
  | cons_cons v next rest ih ih' =>
      refine apart_cons_cons.mpr ⟨?_, ih' next ?_⟩
      · rintro ⟨rfl, rfl⟩
        simp at once
      · exact (List.count_le_count_cons).trans once

end Sweep

/-- The loop is a filter if there is only one finalizer of this controller, or if none comes last
and no two are adjacent. -/
theorem dropFinalizers_eq_others_iff (finalizers room : List String) :
    dropFinalizers finalizers room = some (others finalizers) ↔
      finalizers.count finalizerName ≤ 1 ∨
        finalizers.getLast? ≠ some finalizerName ∧ Apart finalizers := by
  rw [dropFinalizers_eq_sweep]
  by_cases last : finalizers.getLast? = some finalizerName
  · simp [sweep_eq_others_iff_count last, last]
  · rw [sweep_eq_others_iff (by simp) last]
    exact ⟨fun apart => .inr ⟨last, apart⟩, fun either => either.elim apart_of_count_le And.right⟩

theorem hasFinalizer_eq_decide (svc : Service) :
    hasFinalizer svc = decide (finalizerName ∈ svc.finalizers) := by
  simp [hasFinalizer, List.any_eq]

/-- The code finishes without a panic, and its only call sends the finalizers of the others. -/
structure Filters (room : List String) (svc : Service) (faults : Nat → StatusFault)
    (store : StatusStore) : Prop where
  finishes : ∀ message, ((removeFinalizer room svc).execute StatusStore.serve faults store).1 ≠
    .error (.panic message)
  sends : ((removeFinalizer room svc).transcript StatusStore.serve faults store).map Sigma.fst =
    if finalizerName ∈ svc.finalizers then [.update { svc with finalizers := others svc.finalizers }]
    else []

section Removal
variable {room : List String} {svc : Service} {faults : Nat → StatusFault} {store : StatusStore}

theorem filters_of_not_mem (absent : finalizerName ∉ svc.finalizers) :
    Filters room svc faults store := by
  have without : removeFinalizer room svc = .done (.ok ()) := by
    rw [removeFinalizer, if_pos (by simp [hasFinalizer_eq_decide, absent])]
    rfl
  constructor
  · simp [without, execute]
  · simp [without, transcript, absent]

theorem filters_iff_of_mem (present : finalizerName ∈ svc.finalizers) :
    Filters room svc faults store ↔
      dropFinalizers svc.finalizers room = some (others svc.finalizers) := by
  have has : ¬(!hasFinalizer svc) = true := by simp [hasFinalizer_eq_decide, present]
  cases dropped : dropFinalizers svc.finalizers room with
  | none =>
      have panics : removeFinalizer room svc =
          .done (.error (.panic "slice bounds out of range")) := by
        rw [removeFinalizer, if_neg has, dropped]
        rfl
      refine iff_of_false (fun filters => ?_) (by simp)
      exact filters.finishes "slice bounds out of range" (by rw [panics, execute])
  | some finalizers =>
      constructor
      · intro filters
        have sent := filters.sends
        rw [removeFinalizer, if_neg has, dropped, if_pos present] at sent
        have first : some (StatusCall.update { svc with finalizers }) =
            some (.update { svc with finalizers := others svc.finalizers }) :=
          congrArg List.head? sent
        exact congrArg some
          (congrArg Service.finalizers (StatusCall.update.inj (Option.some.inj first)))
      · intro same
        rw [Option.some.injEq] at same
        subst same
        rcases answered : store.serve (.update { svc with finalizers := others svc.finalizers })
          (faults 0) with ⟨answer | answer, final⟩
        all_goals
          constructor
          · intro message
            rw [removeFinalizer, if_neg has, dropped]
            simp [request, perform, execute, answered]
          · rw [removeFinalizer, if_neg has, dropped, if_pos present]
            simp [request, perform, transcript, answered]

end Removal

/-- `removeFinalizer` is a filter if there is only one finalizer of this controller, or if none
comes last and no two are adjacent. -/
theorem removeFinalizer_filters_iff (room : List String) (svc : Service)
    (faults : Nat → StatusFault) (store : StatusStore) :
    Filters room svc faults store ↔ svc.finalizers.count finalizerName ≤ 1 ∨
      svc.finalizers.getLast? ≠ some finalizerName ∧ Apart svc.finalizers := by
  by_cases present : finalizerName ∈ svc.finalizers
  · rw [filters_iff_of_mem present, dropFinalizers_eq_others_iff]
  · refine iff_of_true (filters_of_not_mem present) (.inl ?_)
    rw [List.count_eq_zero_of_not_mem present]
    exact Nat.zero_le 1

def exampleRepeated (finalizers : List String) : Service where
  ns := "default"
  name := "web"
  type := .clusterIP
  ports := []
  clusterIP := "10.96.0.1"
  clusterIPs := ["10.96.0.1"]
  labels := Labels.of []
  uid := "6b1d20e4-7c35-4b1a-8e02-d4f7a1c35b90"
  assigned := by decide
  finalizers := finalizers

/-- With two finalizers of this controller the loop slices beyond the shortened list; with another
one behind them it sends one of the two again. -/
theorem removeFinalizer_repeated :
    removeFinalizer [] (exampleRepeated [finalizerName, finalizerName]) =
        .done (.error (.panic "slice bounds out of range")) ∧
      dropFinalizers [finalizerName, finalizerName, "example.com/hold"] [] =
        some [finalizerName, "example.com/hold"] := by
  constructor
  · rfl
  · decide

end ServiceReconciler
end ErieCanal.ServiceLB
