import Mathlib.Algebra.Group.Nat.Defs

set_option autoImplicit false

namespace BigEndian

def encode : Nat → Nat → List UInt8
  | 0, _ => []
  | width + 1, value => UInt8.ofNat (value / 256 ^ width) :: encode width value

def decode (bytes : List UInt8) : Nat := bytes.foldl (fun value byte => value * 256 + byte.toNat) 0

@[simp] theorem encode_length (width value : Nat) : (encode width value).length = width := by
  induction width with
  | zero => rfl
  | succ width ih => simp only [encode, List.length_cons, ih]

theorem decode_from (start : Nat) (bytes : List UInt8) :
    bytes.foldl (fun value byte => value * 256 + byte.toNat) start = start * 256 ^ bytes.length + decode bytes := by
  induction bytes generalizing start with
  | nil => simp [decode]
  | cons byte rest ih =>
      have first := ih (0 * 256 + byte.toNat)
      simp only [decode, List.foldl_cons, List.length_cons] at first ⊢
      rw [ih (start * 256 + byte.toNat), first]
      simp only [Nat.zero_mul, Nat.zero_add, Nat.pow_succ, Nat.add_mul, decode]
      rw [Nat.mul_assoc, Nat.mul_comm 256, Nat.add_assoc]

theorem decode_cons (byte : UInt8) (rest : List UInt8) :
    decode (byte :: rest) = byte.toNat * 256 ^ rest.length + decode rest := by
  have first := decode_from byte.toNat rest
  simpa only [decode, List.foldl_cons, Nat.zero_mul, Nat.zero_add] using first

theorem decode_encode_mod (width value : Nat) : decode (encode width value) = value % 256 ^ width := by
  induction width with
  | zero => simp [encode, decode, Nat.mod_one]
  | succ width ih =>
      have high : (UInt8.ofNat (value / 256 ^ width)).toNat = value / 256 ^ width % 256 := by simp
      rw [encode, decode_cons, encode_length, ih, high, Nat.pow_succ, Nat.mod_mul, Nat.add_comm, Nat.mul_comm]

theorem decode_encode (width value : Nat) (fits : value < 256 ^ width) : decode (encode width value) = value := by
  rw [decode_encode_mod, Nat.mod_eq_of_lt fits]

theorem decode_lt (bytes : List UInt8) : decode bytes < 256 ^ bytes.length := by
  induction bytes with
  | nil => simp [decode]
  | cons byte rest ih =>
      have top : byte.toNat < 256 := byte.toNat_lt
      rw [decode_cons, List.length_cons, Nat.pow_succ]
      calc byte.toNat * 256 ^ rest.length + decode rest
          < (byte.toNat + 1) * 256 ^ rest.length := by rw [Nat.succ_mul]; omega
        _ ≤ 256 ^ rest.length * 256 := by rw [Nat.mul_comm]; exact Nat.mul_le_mul_left _ top

theorem digit_of_sum (width high value : Nat) : (high * 256 ^ width + value) / 256 ^ width = high + value / 256 ^ width := by
  rw [Nat.mul_comm, Nat.mul_add_div (Nat.pow_pos (by decide))]

theorem encode_add_multiple (width high value : Nat) : encode width (high * 256 ^ width + value) = encode width value := by
  induction width generalizing high with
  | zero => rfl
  | succ width ih =>
      have shifted : high * 256 ^ (width + 1) = high * 256 * 256 ^ width := by rw [Nat.pow_succ, Nat.mul_assoc, Nat.mul_comm 256]
      rw [encode, encode, shifted, ih, digit_of_sum]
      congr 1
      apply UInt8.toNat_inj.mp
      simp

theorem encode_decode (bytes : List UInt8) : encode bytes.length (decode bytes) = bytes := by
  induction bytes with
  | nil => rfl
  | cons byte rest ih =>
      rw [List.length_cons, encode, decode_cons, encode_add_multiple, ih, digit_of_sum, Nat.div_eq_of_lt (decode_lt rest)]
      simp

theorem decode_width (width : Nat) (bytes : List UInt8) (length : bytes.length = width) :
    decode bytes < 256 ^ width ∧ encode width (decode bytes) = bytes := by
  rw [← length]
  exact ⟨decode_lt bytes, encode_decode bytes⟩

end BigEndian

namespace LittleEndian

def encode (width value : Nat) : List UInt8 := (BigEndian.encode width value).reverse

def decode (bytes : List UInt8) : Nat := BigEndian.decode bytes.reverse

@[simp] theorem encode_length (width value : Nat) : (encode width value).length = width := by
  rw [encode, List.length_reverse, BigEndian.encode_length]

theorem decode_encode (width value : Nat) (fits : value < 256 ^ width) : decode (encode width value) = value := by
  rw [decode, encode, List.reverse_reverse, BigEndian.decode_encode width value fits]

end LittleEndian
