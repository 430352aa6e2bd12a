set_option autoImplicit false

namespace GoSlice

-- A slice header over the backing array it points into. Elements of the array
-- outside the window are kept: an in-place write may still reach them.
structure Slice (α : Type) where
  backing : List α
  offset : Nat
  length : Nat
  within : offset + length ≤ backing.length

section

variable {α : Type}

def empty : Slice α := ⟨[], 0, 0, Nat.le_refl 0⟩

def Slice.toList (slice : Slice α) : List α := (slice.backing.drop slice.offset).take slice.length

def Slice.tail (slice : Slice α) : Slice α :=
  if nonempty : 0 < slice.length then
    ⟨slice.backing, slice.offset + 1, slice.length - 1, by have bound := slice.within; omega⟩
  else slice

-- Spare capacity is written in place; without it the elements move to a new
-- array. How much the new array over-allocates is not observable.
def Slice.append (slice : Slice α) (value : α) : Slice α :=
  if room : slice.offset + slice.length < slice.backing.length then
    ⟨slice.backing.set (slice.offset + slice.length) value, slice.offset, slice.length + 1,
      by rw [List.length_set]; exact room⟩
  else ⟨slice.toList ++ [value], 0, (slice.toList ++ [value]).length, by omega⟩

-- The loop that appends to slice[:0] while it ranges over slice. The header of
-- the range is fixed, its elements are read when their turn comes, and every
-- write lands at or before the position being read.
def compactLoop (keep : α → Bool) (offset : Nat) : Nat → Nat → Nat → List α → List α × Nat
  | 0, _, write, backing => (backing, write)
  | remaining + 1, read, write, backing =>
      match backing[offset + read]? with
      | none => (backing, write)
      | some value =>
          if keep value then compactLoop keep offset remaining (read + 1) (write + 1) (backing.set (offset + write) value)
          else compactLoop keep offset remaining (read + 1) write backing

theorem take_set_next (backing : List α) (offset write : Nat) (value : α) (room : offset + write < backing.length) :
    ((backing.set (offset + write) value).drop offset).take (write + 1) =
      (backing.drop offset).take write ++ [value] := by
  have inside : write < (backing.drop offset).length := by simp only [List.length_drop]; omega
  rw [List.drop_set, if_neg (by omega), Nat.add_sub_cancel_left, List.take_add_one, List.take_set_of_le (Nat.le_refl write),
    List.getElem?_set_self inside]
  rfl

theorem drop_set_behind (backing : List α) (position start : Nat) (value : α) (behind : position < start) :
    (backing.set position value).drop start = backing.drop start := by
  rw [List.drop_set, if_pos behind]

theorem compact_loop_spec (keep : α → Bool) (offset remaining read write : Nat) (backing : List α)
    (order : write ≤ read) (bound : offset + read + remaining ≤ backing.length) :
    (compactLoop keep offset remaining read write backing).1.length = backing.length ∧
      (compactLoop keep offset remaining read write backing).2 ≤ read + remaining ∧
      ((compactLoop keep offset remaining read write backing).1.drop offset).take
          (compactLoop keep offset remaining read write backing).2 =
        (backing.drop offset).take write ++ ((backing.drop (offset + read)).take remaining).filter keep := by
  induction remaining generalizing read write backing with
  | zero => simpa [compactLoop] using order
  | succ remaining ih =>
      have inside : offset + read < backing.length := by omega
      have current : backing[offset + read]? = some backing[offset + read] := List.getElem?_eq_getElem inside
      have ahead : (backing.drop (offset + read)).take (remaining + 1) =
          backing[offset + read] :: (backing.drop (offset + (read + 1))).take remaining := by
        rw [List.drop_eq_getElem_cons inside, List.take_succ_cons, Nat.add_assoc]
      rw [compactLoop, current, ahead]
      by_cases kept : keep backing[offset + read]
      · -- The kept element is copied down, behind the reading position.
        have moved := ih (read + 1) (write + 1) (backing.set (offset + write) backing[offset + read])
          (by omega) (by rw [List.length_set]; omega)
        rw [List.length_set, take_set_next backing offset write _ (by omega),
          drop_set_behind backing (offset + write) (offset + (read + 1)) _ (by omega)] at moved
        simp only [if_pos kept, List.filter_cons_of_pos kept]
        refine ⟨moved.1, by omega, ?_⟩
        simpa [List.append_assoc] using moved.2.2
      · have skipped := ih (read + 1) write backing (by omega) (by omega)
        simp only [if_neg kept, List.filter_cons_of_neg kept]
        exact ⟨skipped.1, by omega, skipped.2.2⟩

def Slice.compact (slice : Slice α) (keep : α → Bool) : Slice α :=
  ⟨(compactLoop keep slice.offset slice.length 0 0 slice.backing).1, slice.offset,
    (compactLoop keep slice.offset slice.length 0 0 slice.backing).2, by
      have bound := slice.within
      have spec := compact_loop_spec keep slice.offset slice.length 0 0 slice.backing (Nat.le_refl 0) (by omega)
      omega⟩

@[simp] theorem empty_to_list : (empty : Slice α).toList = [] := rfl

@[simp] theorem length_to_list (slice : Slice α) : slice.toList.length = slice.length := by
  have bound := slice.within
  simp only [Slice.toList, List.length_take, List.length_drop]
  omega

@[simp] theorem compact_to_list (slice : Slice α) (keep : α → Bool) :
    (slice.compact keep).toList = slice.toList.filter keep := by
  have bound := slice.within
  have spec := compact_loop_spec keep slice.offset slice.length 0 0 slice.backing (Nat.le_refl 0) (by omega)
  simpa [Slice.compact, Slice.toList] using spec.2.2

@[simp] theorem tail_to_list (slice : Slice α) : slice.tail.toList = slice.toList.tail := by
  unfold Slice.tail
  split
  · rename_i nonempty
    obtain ⟨shorter, exact⟩ : ∃ shorter, slice.length = shorter + 1 := ⟨slice.length - 1, by omega⟩
    have inside : slice.offset < slice.backing.length := by have bound := slice.within; omega
    simp only [Slice.toList, exact, Nat.add_sub_cancel, List.drop_eq_getElem_cons inside, List.take_succ_cons, List.tail_cons]
  · rename_i full
    have none : slice.toList = [] := List.eq_nil_of_length_eq_zero (by rw [length_to_list]; omega)
    rw [none]
    rfl

@[simp] theorem append_to_list (slice : Slice α) (value : α) : (slice.append value).toList = slice.toList ++ [value] := by
  unfold Slice.append
  split
  · rename_i room
    exact take_set_next slice.backing slice.offset slice.length value room
  · simp only [Slice.toList, List.drop_zero, List.take_length]

theorem to_list_nil_iff (slice : Slice α) : slice.toList = [] ↔ slice.length = 0 := by
  rw [← length_to_list, List.length_eq_zero_iff]

theorem reset_to_list (slice : Slice α) : (if slice.length = 0 then empty else slice).toList = slice.toList := by
  split
  · rename_i none
    rw [(to_list_nil_iff slice).mpr none, empty_to_list]
  · rfl

end

end GoSlice
