import Mathlib.Data.List.Nodup
import Mathlib.Data.List.Perm.Basic

namespace ErieCanal.Lib

/-- The entries of an `algo.Cache`, in the order in which they were made. -/
abbrev AlgoCache (Key Value : Type) := List (Key × Value)

namespace AlgoCache
variable {Key Value : Type} [DecidableEq Key] {key : Key} {cache : AlgoCache Key Value}

def get (cache : AlgoCache Key Value) (key : Key) : Option Value :=
  (cache.find? fun entry => entry.1 = key).map Prod.snd

theorem mem_of_get {value : Value} (found : cache.get key = some value) : (key, value) ∈ cache := by
  obtain ⟨entry, listed, rfl⟩ := Option.map_eq_some_iff.mp found
  have same : entry.1 = key := by simpa using List.find?_some listed
  exact same ▸ List.mem_of_find?_eq_some listed

theorem not_mem_of_get (missed : cache.get key = none) : key ∉ cache.map Prod.fst := by
  intro listed
  obtain ⟨entry, member, same⟩ := List.mem_map.mp listed
  have absent := List.find?_eq_none.mp (Option.map_eq_none_iff.mp missed) entry member
  exact absent (by simpa using same)

end AlgoCache

section Holdings
variable {Party Item : Type} {hold : Party → List Item} {parties : List Party} {index : Nat}
  {before after : Party}

/-- Only the party that changes trades what it holds. -/
theorem flatMap_set_perm (found : parties[index]? = some before) :
    ((parties.set index after).flatMap hold ++ hold before).Perm
      (parties.flatMap hold ++ hold after) := by
  induction parties generalizing index with
  | nil => cases found
  | cons party rest ih =>
      cases index with
      | zero =>
          cases found
          simp only [List.set_cons_zero, List.flatMap_cons, List.append_assoc]
          -- The two ends change places around the holdings of the others.
          have turned : ((rest.flatMap hold ++ hold before) ++ hold after).Perm
              (hold before ++ (rest.flatMap hold ++ hold after)) := by
            rw [← List.append_assoc (hold before)]
            exact List.perm_append_comm.append_right _
          exact List.perm_append_comm.trans turned
      | succ index =>
          simp only [List.set_cons_succ, List.flatMap_cons, List.append_assoc]
          exact (ih found).append_left (hold party)

theorem flatMap_set_append {extra : List Item} (found : parties[index]? = some before)
    (more : hold after = hold before ++ extra) :
    ((parties.set index after).flatMap hold).Perm (parties.flatMap hold ++ extra) := by
  refine (List.perm_append_right_iff (hold before)).mp ((flatMap_set_perm found).trans ?_)
  rw [more, List.append_assoc]
  exact List.perm_append_comm.append_left _

theorem flatMap_set_nil (found : parties[index]? = some before) (nothing : hold after = []) :
    (hold before ++ (parties.set index after).flatMap hold).Perm (parties.flatMap hold) := by
  refine List.perm_append_comm.trans ((flatMap_set_perm found).trans ?_)
  rw [nothing, List.append_nil]

/-- Parties at different places hold different items, if no item is held twice. -/
theorem index_eq_of_nodup {position : Nat} {item : Item} (nodup : (parties.flatMap hold).Nodup)
    (first : parties[index]? = some before) (second : parties[position]? = some after)
    (held : item ∈ hold before) (held' : item ∈ hold after) : index = position := by
  by_contra different
  have apart := List.pairwise_iff_getElem.mp (List.nodup_flatMap.mp nodup).2
  obtain ⟨bound, rfl⟩ := List.getElem?_eq_some_iff.mp first
  obtain ⟨bound', rfl⟩ := List.getElem?_eq_some_iff.mp second
  rcases Nat.lt_or_gt_of_ne different with less | greater
  · exact apart index position bound bound' less held held'
  · exact apart position index bound' bound greater held' held

end Holdings

/-- An `algo.ResourcePool` hands out numbered resources; each of them is made for one tag. -/
structure ResourcePool (Tag : Type) where
  idle : List (Tag × Nat)
  busy : List (Tag × Nat)
  made : Nat

namespace ResourcePool
variable {Tag : Type} [DecidableEq Tag]

def new : ResourcePool Tag := ⟨[], [], 0⟩

/-- All resources that the pool has made. -/
def all (pool : ResourcePool Tag) : List (Tag × Nat) := pool.idle ++ pool.busy

/-- An idle resource of the tag is handed out again. -/
def allocate (tag : Tag) (pool : ResourcePool Tag) : Nat × ResourcePool Tag :=
  match pool.idle.find? fun entry => entry.1 = tag with
  | some entry =>
      (entry.2, { pool with
        idle := pool.idle.erase entry
        busy := entry :: pool.busy })
  | none =>
      (pool.made + 1, { pool with
        busy := (tag, pool.made + 1) :: pool.busy
        made := pool.made + 1 })

def free (pool : ResourcePool Tag) (number : Nat) : ResourcePool Tag :=
  match pool.busy.find? fun entry => entry.2 = number with
  | some entry => { pool with
      idle := entry :: pool.idle
      busy := pool.busy.erase entry }
  | none => pool

/-- No number is given twice. -/
structure Sound (pool : ResourcePool Tag) : Prop where
  distinct : (pool.all.map Prod.snd).Nodup
  bounded : ∀ entry ∈ pool.all, entry.2 ≤ pool.made

omit [DecidableEq Tag] in
theorem sound_new : (new : ResourcePool Tag).Sound := by
  refine ⟨List.nodup_nil, ?_⟩
  intro entry member
  cases member

variable {pool : ResourcePool Tag} {tag : Tag} {number : Nat}

theorem busy_allocate (tag : Tag) (pool : ResourcePool Tag) :
    (pool.allocate tag).2.busy = (tag, (pool.allocate tag).1) :: pool.busy := by
  rw [allocate]
  split
  next entry found =>
    have same : entry.1 = tag := by simpa using List.find?_some found
    rw [← same]
  next => rfl

/-- Handing out a resource makes at most one new one, with the next number. -/
theorem all_allocate (tag : Tag) (pool : ResourcePool Tag) :
    (pool.allocate tag).2.all.Perm pool.all ∧ (pool.allocate tag).2.made = pool.made ∨
      (pool.allocate tag).2.all.Perm ((tag, pool.made + 1) :: pool.all) ∧
        (pool.allocate tag).2.made = pool.made + 1 := by
  rw [allocate]
  split
  next entry found =>
    refine .inl ⟨?_, rfl⟩
    have member := List.mem_of_find?_eq_some found
    exact List.perm_middle.trans ((List.perm_cons_erase member).symm.append_right pool.busy)
  next => exact .inr ⟨List.perm_middle, rfl⟩

theorem all_free (number : Nat) (pool : ResourcePool Tag) :
    (pool.free number).all.Perm pool.all ∧ (pool.free number).made = pool.made := by
  rw [free]
  split
  next entry found =>
    refine ⟨?_, rfl⟩
    have member := List.mem_of_find?_eq_some found
    exact List.perm_middle.symm.trans ((List.perm_cons_erase member).symm.append_left pool.idle)
  next => exact ⟨.refl _, rfl⟩

theorem Sound.allocate (sound : pool.Sound) : (pool.allocate tag).2.Sound := by
  rcases all_allocate tag pool with ⟨same, made⟩ | ⟨more, made⟩
  · refine ⟨(same.map _).nodup_iff.mpr sound.distinct, ?_⟩
    intro entry member
    rw [made]
    exact sound.bounded entry (same.mem_iff.mp member)
  · constructor
    · refine (more.map _).nodup_iff.mpr (List.nodup_cons.mpr ⟨?_, sound.distinct⟩)
      intro used
      obtain ⟨entry, member, same⟩ := List.mem_map.mp used
      have := sound.bounded entry member
      omega
    · intro entry member
      rw [made]
      rcases List.mem_cons.mp (more.mem_iff.mp member) with rfl | old
      · exact Nat.le_refl _
      · exact Nat.le_succ_of_le (sound.bounded entry old)

theorem Sound.free (sound : pool.Sound) : (pool.free number).Sound := by
  obtain ⟨same, made⟩ := all_free number pool
  refine ⟨(same.map _).nodup_iff.mpr sound.distinct, ?_⟩
  intro entry member
  rw [made]
  exact sound.bounded entry (same.mem_iff.mp member)

/-- A busy resource becomes idle, and no other one does. -/
theorem Sound.busy_free (sound : pool.Sound) (member : (tag, number) ∈ pool.busy) :
    pool.busy.Perm ((tag, number) :: (pool.free number).busy) := by
  cases found : pool.busy.find? fun entry => entry.2 = number with
  | none =>
      have absent := List.find?_eq_none.mp found _ member
      exact absurd (decide_eq_true rfl) absent
  | some entry =>
      have listed := List.mem_of_find?_eq_some found
      have same : entry.2 = number := by simpa using List.find?_some found
      have distinct := (List.nodup_append.mp (List.map_append ▸ sound.distinct)).2.1
      have equal : entry = (tag, number) :=
        List.inj_on_of_nodup_map distinct listed member same
      have freed : (pool.free number).busy = pool.busy.erase entry := by
        rw [ResourcePool.free, found]
      rw [freed, equal]
      exact List.perm_cons_erase member

/-- The resources that are given back were busy. -/
theorem Sound.busy_foldl_free (sound : pool.Sound) {given rest : List (Tag × Nat)}
    (held : pool.busy.Perm (given ++ rest)) :
    (given.foldl (fun pool entry => pool.free entry.2) pool).Sound ∧
      (given.foldl (fun pool entry => pool.free entry.2) pool).busy.Perm rest := by
  induction given generalizing pool with
  | nil => exact ⟨sound, held⟩
  | cons entry given ih =>
      have member : (entry.1, entry.2) ∈ pool.busy := held.mem_iff.mpr List.mem_cons_self
      refine ih sound.free ?_
      exact List.Perm.cons_inv ((sound.busy_free member).symm.trans held)

/-- A resource stays with the tag that it was made for. -/
theorem mem_all_allocate {entry : Tag × Nat} (member : entry ∈ pool.all) :
    entry ∈ (pool.allocate tag).2.all := by
  rcases all_allocate tag pool with ⟨same, -⟩ | ⟨more, -⟩
  · exact same.mem_iff.mpr member
  · exact more.mem_iff.mpr (List.mem_cons_of_mem _ member)

theorem mem_all_foldl_free {entry : Tag × Nat} (given : List (Tag × Nat))
    (member : entry ∈ pool.all) :
    entry ∈ (given.foldl (fun pool entry => pool.free entry.2) pool).all := by
  induction given generalizing pool with
  | nil => exact member
  | cons other given ih => exact ih ((all_free other.2 pool).1.mem_iff.mpr member)

omit [DecidableEq Tag] in
theorem Sound.tag_eq (sound : pool.Sound) {other : Tag} (first : (tag, number) ∈ pool.all)
    (second : (other, number) ∈ pool.all) : tag = other :=
  congrArg Prod.fst (List.inj_on_of_nodup_map sound.distinct first second rfl)

end ResourcePool
end ErieCanal.Lib
