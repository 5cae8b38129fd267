import Mathlib.Data.Nat.ModEq

/-! # Ring buffers

A fixed number of slots used in a circle: `count` entries from slot `head` on. -/

structure RingBuffer (α : Type*) (n : Nat) where
  slots : Vector α n
  head : Nat
  count : Nat
  head_lt : head < n
  count_le : count ≤ n

namespace RingBuffer

variable {α : Type*} {n : Nat} (r : RingBuffer α n)

/-- The slot `i` places after the head. -/
def slot (i : Nat) : Fin n :=
  ⟨(r.head + i) % n, Nat.mod_lt _ (Nat.zero_lt_of_lt r.head_lt)⟩

/-- The entries, oldest first. -/
def toList : List α := (List.range r.count).map fun i => r.slots.get (r.slot i)

def full : Bool := r.count = n

/-- Adds an entry after the newest; a full ring is left as it is. -/
def push (a : α) : RingBuffer α n :=
  if h : r.count = n then r
  else
    { r with
      slots := r.slots.set (r.slot r.count) a (r.slot r.count).isLt
      count := r.count + 1
      count_le := Nat.lt_of_le_of_ne r.count_le h }

def pop : Option (α × RingBuffer α n) :=
  if r.count = 0 then none
  else some (r.slots.get ⟨r.head, r.head_lt⟩,
    { r with
      head := (r.head + 1) % n
      count := r.count - 1
      head_lt := Nat.mod_lt _ (Nat.zero_lt_of_lt r.head_lt)
      count_le := (Nat.sub_le _ _).trans r.count_le })

def clear : RingBuffer α n := { r with count := 0, count_le := Nat.zero_le n }

/-- Also starts from the first slot again. -/
def reset : RingBuffer α n := { r.clear with head := 0, head_lt := Nat.zero_lt_of_lt r.head_lt }

/-! ## The ring as a queue -/

@[simp] theorem length_toList : r.toList.length = r.count := by simp [toList]

@[simp] theorem toList_clear : r.clear.toList = [] := rfl

@[simp] theorem toList_reset : r.reset.toList = [] := rfl

theorem full_iff : r.full = true ↔ r.toList.length = n := by simp [full]

/-- The occupied slots and the next one are different. -/
theorem slot_ne {i : Nat} (hi : i < r.count) (room : r.count < n) : r.slot i ≠ r.slot r.count := by
  intro h
  have same : r.head + i ≡ r.head + r.count [MOD n] := congrArg Fin.val h
  have index : i % n = r.count % n := Nat.ModEq.add_left_cancel' r.head same
  rw [Nat.mod_eq_of_lt (hi.trans room), Nat.mod_eq_of_lt room] at index
  omega

theorem toList_push (room : r.full = false) (a : α) : (r.push a).toList = r.toList ++ [a] := by
  have unfull : r.count ≠ n := by simpa [full] using room
  have lt : r.count < n := Nat.lt_of_le_of_ne r.count_le unfull
  rw [push, dif_neg unfull]
  simp only [toList, List.range_succ, List.map_append, List.map_cons, List.map_nil]
  congr 1
  · refine List.map_congr_left ?_
    intro i hi
    have other := r.slot_ne (List.mem_range.mp hi) lt
    have index : (r.slot r.count).val ≠ (r.slot i).val := fun h => other (Fin.ext h.symm)
    exact Vector.getElem_set_ne _ _ index
  · exact congrArg (· :: []) (Vector.getElem_set_self _)

/-- The slots after the first are those of the ring without it. -/
theorem slot_succ (i : Nat) : (r.head + (i + 1)) % n = ((r.head + 1) % n + i) % n := by
  rw [Nat.mod_add_mod, Nat.add_assoc, Nat.add_comm 1 i]

theorem pop_nil (h : r.toList = []) : r.pop = none := by
  have empty : r.count = 0 := by rw [← length_toList, h]; rfl
  rw [pop, if_pos empty]

theorem pop_cons {a : α} {l : List α} (h : r.toList = a :: l) :
    ∃ s, r.pop = some (a, s) ∧ s.toList = l := by
  have size : r.count = l.length + 1 := by rw [← length_toList, h]; rfl
  have rest : r.count - 1 = l.length := by omega
  have used : r.count ≠ 0 := by omega
  rw [toList, size, List.range_succ_eq_map, List.map_cons, List.map_map] at h
  obtain ⟨rfl, tail⟩ := List.cons.inj h
  have oldest : (⟨r.head, r.head_lt⟩ : Fin n) = r.slot 0 :=
    Fin.ext (Nat.mod_eq_of_lt r.head_lt).symm
  rw [pop, if_neg used]
  refine ⟨_, congrArg some (Prod.ext (congrArg r.slots.get oldest) rfl), ?_⟩
  refine (congrArg (fun k => (List.range k).map _) rest).trans (Eq.trans ?_ tail)
  refine List.map_congr_left ?_
  intro i _
  exact congrArg r.slots.get (Fin.ext (r.slot_succ i).symm)

end RingBuffer
