set_option autoImplicit false

namespace ByteBuffer

def splice (buffer : List UInt8) (offset : Nat) (data : List UInt8) : List UInt8 :=
  buffer.take offset ++ data ++ buffer.drop (offset + data.length)

-- copy(buffer[low:high], data): what does not fit in the window is left out.
def copy (buffer : List UInt8) (low high : Nat) (data : List UInt8) : List UInt8 :=
  splice buffer low (data.take (high - low))

theorem splice_length (buffer data : List UInt8) (offset : Nat) (fits : offset + data.length ≤ buffer.length) :
    (splice buffer offset data).length = buffer.length := by
  simp only [splice, List.length_append, List.length_take, List.length_drop]
  omega

theorem splice_front (buffer data : List UInt8) : (splice buffer 0 data).take data.length = data := by
  simp [splice]

theorem splice_front_get (buffer data : List UInt8) (index : Nat) (inside : index < data.length) :
    (splice buffer 0 data).getD index 0 = data.getD index 0 := by
  rw [splice, List.take_zero, List.nil_append, List.getD_eq_getElem?_getD, List.getD_eq_getElem?_getD,
    List.getElem?_append_left inside]

-- A buffer written from left to right: what is done, and zeros behind it.
theorem copy_next (done data : List UInt8) (low high free : Nat) (start : done.length = low)
    (fits : low + data.length = high) :
    copy (done ++ List.replicate free 0) low high data = done ++ data ++ List.replicate (free - data.length) 0 := by
  have whole : data.take (high - low) = data := List.take_of_length_le (by omega)
  have behind : (done ++ List.replicate free 0).drop (low + data.length) = List.replicate (free - data.length) 0 := by
    rw [← start, List.drop_append, List.drop_replicate]
    simp
  rw [copy, splice, whole, behind, ← start, List.take_left]

theorem set_next (done : List UInt8) (byte : UInt8) (index free : Nat) (start : done.length = index) (room : 0 < free) :
    (done ++ List.replicate free 0).set index byte = done ++ [byte] ++ List.replicate (free - 1) 0 := by
  obtain ⟨rest, rfl⟩ := Nat.exists_eq_add_of_lt room
  subst start
  rw [List.set_append_right _ _ (Nat.le_refl _)]
  simp [List.replicate_succ]

theorem window (before field after : List UInt8) (low width : Nat) (start : before.length = low) (size : field.length = width) :
    ((before ++ (field ++ after)).drop low).take width = field := by
  subst start size
  rw [List.drop_left, List.take_left]

-- bytes[low:high], with none for the run-time error.
def slice (bytes : List UInt8) (low high : Nat) : Option (List UInt8) :=
  if low ≤ high ∧ high ≤ bytes.length then some ((bytes.take high).drop low) else none

theorem slice_inside (bytes : List UInt8) (low high : Nat) (order : low ≤ high) (bound : high ≤ bytes.length) :
    slice bytes low high = some ((bytes.take high).drop low) := if_pos ⟨order, bound⟩

theorem slice_window (before field after : List UInt8) (low high : Nat) (start : before.length = low)
    (stop : low + field.length = high) : slice (before ++ (field ++ after)) low high = some field := by
  subst start stop
  rw [slice_inside _ _ _ (Nat.le_add_right _ _) (by simp only [List.length_append]; omega), List.drop_take, List.drop_left,
    Nat.add_sub_cancel_left, List.take_left]

end ByteBuffer
