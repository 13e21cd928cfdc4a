import Mathlib.Data.List.Perm.Subperm

namespace ErieCanal.Lib

/-- The hash of an unordered collection combines the hashes of its elements by XOR and finishes
the result. -/
structure SetHash (A : Type) where
  element : A → UInt64
  finish : UInt64 → UInt64

namespace SetHash
variable {A : Type} (hasher : SetHash A)

def combine (items : List A) : UInt64 :=
  items.foldl (fun hash item => hash ^^^ hasher.element item) 0

def hash (items : List A) : UInt64 := hasher.finish (hasher.combine items)

theorem combine_cons (item : A) (items : List A) :
    hasher.combine (item :: items) = hasher.element item ^^^ hasher.combine items := by
  have start (items : List A) (value : UInt64) :
      items.foldl (fun hash item => hash ^^^ hasher.element item) value =
        value ^^^ hasher.combine items := by
    induction items generalizing value with
    | nil => simp [combine]
    | cons item rest ih =>
        rw [combine, List.foldl_cons, List.foldl_cons, ih, ih, UInt64.zero_xor, UInt64.xor_assoc]
  rw [combine, List.foldl_cons, start, UInt64.zero_xor]

/-- The order of the elements does not matter. -/
theorem combine_perm {first second : List A} (perm : first.Perm second) :
    hasher.combine first = hasher.combine second := by
  induction perm with
  | nil => rfl
  | cons item _ ih => rw [combine_cons, combine_cons, ih]
  | swap item other items =>
      rw [combine_cons, combine_cons, combine_cons, combine_cons, ← UInt64.xor_assoc,
        ← UInt64.xor_assoc, UInt64.xor_comm (hasher.element other)]
  | trans _ _ first second => rw [first, second]

/-- An element that comes twice leaves no trace. -/
theorem combine_cons_cons (item : A) (items : List A) :
    hasher.combine (item :: item :: items) = hasher.combine items := by
  rw [combine_cons, combine_cons, ← UInt64.xor_assoc, UInt64.xor_self, UInt64.zero_xor]

section Parity
variable [DecidableEq A]

/-- These are the elements that come an odd number of times. -/
def odd : List A → List A
  | [] => []
  | item :: items => if item ∈ odd items then (odd items).erase item else item :: odd items

theorem nodup_odd (items : List A) : (odd items).Nodup := by
  induction items with
  | nil => exact List.nodup_nil
  | cons item items ih =>
      rw [odd]
      split
      · exact ih.erase item
      · next fresh => exact List.nodup_cons.mpr ⟨fresh, ih⟩

theorem mem_odd (items : List A) (query : A) : query ∈ odd items ↔ items.count query % 2 = 1 := by
  induction items with
  | nil => simp [odd]
  | cons item items ih =>
      rw [odd, List.count_cons]
      by_cases same : item = query
      · subst same
        split
        · next counted =>
            rw [(nodup_odd items).mem_erase_iff]
            have before := ih.mp counted
            simp only [ne_eq, not_true_eq_false, false_and, beq_self_eq_true, if_true, false_iff]
            omega
        · next fresh =>
            rw [ih] at fresh
            simp only [List.mem_cons_self, beq_self_eq_true, if_true, true_iff]
            omega
      · have other : query ≠ item := Ne.symm same
        split
        · simp [(nodup_odd items).mem_erase_iff, other, same, ih]
        · simp [other, same, ih]

/-- The combination keeps the elements that come an odd number of times, and no others. -/
theorem combine_odd (items : List A) : hasher.combine (odd items) = hasher.combine items := by
  induction items with
  | nil => rfl
  | cons item items ih =>
      rw [odd, combine_cons, ← ih]
      split
      · next counted =>
          rw [hasher.combine_perm (List.perm_cons_erase counted), combine_cons, ← UInt64.xor_assoc,
            UInt64.xor_self, UInt64.zero_xor]
      · rw [combine_cons]

/-- Different sets of known elements have different hashes. -/
def CollisionFree (known : List A) : Prop :=
  ∀ first second : List A, first.Nodup → second.Nodup → first ⊆ known → second ⊆ known →
    hasher.hash first = hasher.hash second → first.Perm second

variable {hasher} {known : List A}

theorem odd_subset {items : List A} (within : items ⊆ known) : odd items ⊆ known := by
  intro item counted
  refine within (List.count_pos_iff.mp ?_)
  have parity := (mem_odd items item).mp counted
  omega

/-- Collections of one hash have the same elements an odd number of times. -/
theorem CollisionFree.count_odd_iff (free : hasher.CollisionFree known) {first second : List A}
    (one : first ⊆ known) (two : second ⊆ known) (same : hasher.hash first = hasher.hash second)
    (query : A) : first.count query % 2 = 1 ↔ second.count query % 2 = 1 := by
  have sets : (odd first).Perm (odd second) := by
    refine free _ _ (nodup_odd first) (nodup_odd second) (odd_subset one) (odd_subset two) ?_
    rwa [hash, hash, combine_odd, combine_odd]
  rw [← mem_odd, ← mem_odd, sets.mem_iff]

omit [DecidableEq A] in
theorem collisionFree_singleton {item : A} (differ : hasher.hash [] ≠ hasher.hash [item]) :
    hasher.CollisionFree [item] := by
  have sets {items : List A} (nodup : items.Nodup) (within : items ⊆ [item]) :
      items = [] ∨ items = [item] := by
    have bound : items.length ≤ 1 := (List.subperm_of_subset nodup within).length_le
    match items with
    | [] => exact .inl rfl
    | [one] => exact .inr (congrArg (· :: []) (List.mem_singleton.mp (within List.mem_cons_self)))
    | _ :: _ :: _ => simp at bound
  intro first second nodup nodup' within within' same
  rcases sets nodup within with rfl | rfl <;> rcases sets nodup' within' with rfl | rfl
  · exact .refl _
  · exact absurd same differ
  · exact absurd same.symm differ
  · exact .refl _

end Parity
end SetHash
end ErieCanal.Lib
