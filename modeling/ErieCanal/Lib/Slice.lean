import Mathlib.Data.List.Basic

namespace ErieCanal.Lib

/-- These are the arrays that slices look into. -/
abbrev Heap (A : Type) := List (List A)

/-- A Go slice is a window into an array that can grow up to its capacity. -/
structure Slice where
  array : Nat
  offset : Nat
  len : Nat
  cap : Nat
  within : len ≤ cap

namespace Slice
variable {A : Type}

def contents (heap : Heap A) (slice : Slice) : List A :=
  ((heap.getD slice.array []).drop slice.offset).take slice.len

/-- A new array holds the values and some room behind them. -/
def new (values room : List A) : Heap A × Slice :=
  ([values ++ room], ⟨0, 0, values.length, values.length + room.length, by omega⟩)

/-- `slice[:high]` may reach into the capacity. -/
def upTo (slice : Slice) (high : Nat) : Option Slice :=
  if within : high ≤ slice.cap then some { slice with len := high, within } else none

/-- `slice[low:]` must stay within the length. -/
def startingAt (slice : Slice) (low : Nat) : Option Slice :=
  if low ≤ slice.len then
    some ⟨slice.array, slice.offset + low, slice.len - low, slice.cap - low,
      Nat.sub_le_sub_right slice.within low⟩
  else none

def overwrite (array : List A) (index : Nat) (values : List A) : List A :=
  array.take index ++ (values ++ array.drop (index + values.length))

/-- `append(first, second...)` overwrites the array of the first slice as long as its capacity
lasts, and takes a new array otherwise. -/
def append (heap : Heap A) (first second : Slice) : Heap A × Slice :=
  let values := second.contents heap
  if fits : first.len + second.len ≤ first.cap then
    (heap.set first.array
        (overwrite (heap.getD first.array []) (first.offset + first.len) values),
      { first with len := first.len + second.len, within := fits })
  else
    (heap ++ [first.contents heap ++ values],
      ⟨heap.length, 0, first.len + second.len, first.len + second.len, Nat.le_refl _⟩)

/-- This is `append(slice[:index], slice[index+1:]...)`; nothing stands for a panic. -/
def deleteAt (heap : Heap A) (slice : Slice) (index : Nat) : Option (Heap A × Slice) :=
  (slice.upTo index).bind fun front =>
    (slice.startingAt (index + 1)).map fun back => append heap front back

theorem deleteAt_eq_none {heap : Heap A} {slice : Slice} {index : Nat}
    (beyond : slice.len ≤ index) : slice.deleteAt heap index = none := by
  have outside : slice.startingAt (index + 1) = none := by
    rw [startingAt, if_neg (by omega)]
  simp only [deleteAt, outside, Option.map_none, Option.bind_fun_none]

@[simp] theorem contents_new (values room : List A) :
    (new values room).2.contents (new values room).1 = values := by
  simp [new, contents]

/-- A deletion shifts the elements behind the deleted one, and leaves a copy of the last element
behind the slice. -/
theorem deleteAt_new (before after room : List A) (removed : A) :
    (new (before ++ removed :: after) room).2.deleteAt (new (before ++ removed :: after) room).1
        before.length =
      some (new (before ++ after) ((removed :: after).drop after.length ++ room)) := by
  have length : (before ++ removed :: after).length = before.length + (after.length + 1) := by simp
  have copy : ((removed :: after).drop after.length).length = 1 := by simp
  have front : (new (before ++ removed :: after) room).2.upTo before.length =
      some ⟨0, 0, before.length, (before ++ removed :: after).length + room.length, by omega⟩ := by
    rw [upTo, dif_pos]
    rfl
  have back : (new (before ++ removed :: after) room).2.startingAt (before.length + 1) =
      some ⟨0, before.length + 1, after.length, after.length + room.length, by omega⟩ := by
    rw [startingAt, if_pos]
    · simp only [new, length, Option.some.injEq, Slice.mk.injEq, true_and]
      omega
    · show before.length + 1 ≤ (before ++ removed :: after).length
      omega
  have values : contents (new (before ++ removed :: after) room).1
      ⟨0, before.length + 1, after.length, after.length + room.length, by omega⟩ = after := by
    have array : before ++ removed :: after ++ room = (before ++ [removed]) ++ (after ++ room) := by
      simp
    have skipped : (before ++ [removed]).length = before.length + 1 := by simp
    simp only [contents, new, List.getD_cons_zero]
    rw [array, ← skipped, List.drop_left, List.take_left]
  have copied : (removed :: (after ++ room)).drop after.length =
      (removed :: after).drop after.length ++ room := by
    rw [← List.cons_append, List.drop_append_of_le_length (by simp)]
  simp only [deleteAt, front, back, Option.bind_some, Option.map_some, append, values]
  rw [dif_pos (by omega)]
  simp only [new, overwrite, Option.some.injEq, Prod.mk.injEq, Slice.mk.injEq, true_and]
  refine ⟨by simp [copied], by simp, ?_⟩
  rw [length, List.length_append, List.length_append, copy]
  omega

end Slice
end ErieCanal.Lib
