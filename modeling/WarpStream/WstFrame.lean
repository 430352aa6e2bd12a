import WarpStream.BigEndian
import WarpStream.BufWriter
import WarpStream.ByteReader

set_option autoImplicit false

namespace WarpStream

open BufWriter ByteReader

def closeMessage : Nat := 8
def pingMessage : Nat := 9
def pongMessage : Nat := 10

def maxPayload : Nat := 1024 * 1024 * 10

def maskBit (masking : Bool) : UInt8 := if masking then 0x80 else 0

def maskKey : List UInt8 := [0, 0, 0, 0]

def writeLength (masking : Bool) (length : Nat) : Op :=
  if length ≤ 125 then writeByte (maskBit masking ||| UInt8.ofNat length)
  else if length ≤ 65535 then andThen (writeByte (maskBit masking ||| 126)) (write (BigEndian.encode 2 length))
  else andThen (writeByte (maskBit masking ||| 127)) (write (BigEndian.encode 8 length))

-- The key is zero, so the payload is written as it is.
def writePayload (masking : Bool) (data : List UInt8) : Op :=
  if masking then andThen (write maskKey) (write data) else write data

def writeMessage (masking : Bool) (messageType : Nat) (data : List UInt8) : Op :=
  andThen
    (andThen (writeByte (0x80 ||| UInt8.ofNat messageType))
      (andThen (writeLength masking data.length) (writePayload masking data)))
    flush

-- The length is checked behind the first byte, which stays in the buffer.
def writeControl (masking : Bool) (messageType : Nat) (data : List UInt8) : Op :=
  andThen (writeByte (0x80 ||| UInt8.ofNat messageType))
    (if 125 < data.length then fun writer => (writer, false)
      else
        andThen (andThen (writeByte (maskBit masking ||| UInt8.ofNat data.length)) (writePayload masking data)) flush)

inductive ReadError where
  | outOfBounds (length : Int)
  | handler (text : String)
deriving DecidableEq, Repr

-- A length of eight bytes is read into an int64.
def readLength (second : UInt8) : Reader ReadError Int :=
  if (second &&& 0x7F).toNat = 126 then do
    let bytes ← readFull 2
    return (BigEndian.decode bytes : Int)
  else if (second &&& 0x7F).toNat = 127 then do
    let bytes ← readFull 8
    return (BitVec.ofNat 64 (BigEndian.decode bytes)).toInt
  else return ((second &&& 0x7F).toNat : Int)

def readMaskKey (second : UInt8) : Reader ReadError (Option (List UInt8)) :=
  if second &&& 0x80 ≠ 0 then do
    let key ← readFull 4
    return some key
  else return none

def unmask (key : Option (List UInt8)) (payload : List UInt8) : List UInt8 :=
  match key with
  | some key => payload.mapIdx fun index byte => byte ^^^ key.getD (index % 4) 0
  | none => payload

structure Frame where
  opcode : Nat
  payload : List UInt8
deriving DecidableEq, Repr

def readPayload (length : Int) : Reader ReadError (List UInt8) :=
  if length < 0 ∨ (maxPayload : Int) < length then fail (.outOfBounds length) else readFull length.toNat

def readFrame : Reader ReadError Frame := do
  let first ← readByte
  let second ← readByte
  let length ← readLength second
  let key ← readMaskKey second
  let payload ← readPayload length
  return ⟨(first &&& 0x0F).toNat, unmask key payload⟩

def lengthBytes (masking : Bool) (length : Nat) : List UInt8 :=
  if length ≤ 125 then [maskBit masking ||| UInt8.ofNat length]
  else if length ≤ 65535 then (maskBit masking ||| 126) :: BigEndian.encode 2 length
  else (maskBit masking ||| 127) :: BigEndian.encode 8 length

def payloadBytes (masking : Bool) (data : List UInt8) : List UInt8 := if masking then maskKey ++ data else data

def encodeFrame (masking : Bool) (messageType : Nat) (data : List UInt8) : List UInt8 :=
  (0x80 ||| UInt8.ofNat messageType) :: (lengthBytes masking data.length ++ payloadBytes masking data)

theorem write_length_emits (masking : Bool) (length : Nat) : Emits (writeLength masking length) (lengthBytes masking length) := by
  unfold writeLength lengthBytes
  split
  · exact write_byte_emits _
  · split
    · exact and_then_emits _ _ _ _ (write_byte_emits _) (write_emits _)
    · exact and_then_emits _ _ _ _ (write_byte_emits _) (write_emits _)

theorem write_payload_emits (masking : Bool) (data : List UInt8) :
    Emits (writePayload masking data) (payloadBytes masking data) := by
  unfold writePayload payloadBytes
  split
  · exact and_then_emits _ _ _ _ (write_emits _) (write_emits _)
  · exact write_emits _

theorem write_length_sticky (masking : Bool) (length : Nat) : Sticky (writeLength masking length) (lengthBytes masking length) := by
  unfold writeLength lengthBytes
  split
  · exact write_byte_sticky _
  · split
    · exact and_then_sticky _ _ _ _ (write_byte_emits _) (write_byte_sticky _) (write_sticky _)
    · exact and_then_sticky _ _ _ _ (write_byte_emits _) (write_byte_sticky _) (write_sticky _)

theorem write_payload_sticky (masking : Bool) (data : List UInt8) :
    Sticky (writePayload masking data) (payloadBytes masking data) := by
  unfold writePayload payloadBytes
  split
  · exact and_then_sticky _ _ _ _ (write_emits _) (write_sticky _) (write_sticky _)
  · exact write_sticky _

theorem write_message_sticky (masking : Bool) (messageType : Nat) (data : List UInt8) :
    Sticky (writeMessage masking messageType data) (encodeFrame masking messageType data) := by
  have emits := and_then_emits _ _ _ _ (write_byte_emits (0x80 ||| UInt8.ofNat messageType))
    (and_then_emits _ _ _ _ (write_length_emits masking data.length) (write_payload_emits masking data))
  have body := and_then_sticky _ _ _ _ (write_byte_emits (0x80 ||| UInt8.ofNat messageType)) (write_byte_sticky _)
    (and_then_sticky _ _ _ _ (write_length_emits masking data.length) (write_length_sticky masking data.length)
      (write_payload_sticky masking data))
  have whole := and_then_sticky _ _ _ _ emits body flush_sticky
  rwa [List.append_nil] at whole

theorem write_message_flushes (masking : Bool) (messageType : Nat) (data : List UInt8) (writer : Writer)
    (done : (writeMessage masking messageType data writer).2 = true) :
    (writeMessage masking messageType data writer).1.buffered = [] ∧
      (writeMessage masking messageType data writer).1.socket.sent = pending writer ++ encodeFrame masking messageType data := by
  have body := and_then_emits _ _ _ _ (write_byte_emits (0x80 ||| UInt8.ofNat messageType))
    (and_then_emits _ _ _ _ (write_length_emits masking data.length) (write_payload_emits masking data))
  exact and_then_flush _ _ body writer done

theorem write_message_sends (masking : Bool) (messageType : Nat) (data : List UInt8) (writer : Writer)
    (drained : writer.buffered = []) (done : (writeMessage masking messageType data writer).2 = true) :
    (writeMessage masking messageType data writer).1.buffered = [] ∧
      (writeMessage masking messageType data writer).1.socket.sent =
        writer.socket.sent ++ encodeFrame masking messageType data := by
  have flushed := write_message_flushes masking messageType data writer done
  rwa [pending, drained, List.append_nil] at flushed

theorem write_control_short (masking : Bool) (messageType : Nat) (data : List UInt8) (short : data.length ≤ 125) :
    writeControl masking messageType data = writeMessage masking messageType data := by
  simp only [writeControl, writeMessage, writeLength, if_neg (Nat.not_lt.mpr short), if_pos short, and_then_assoc]

theorem write_control_ok (masking : Bool) (messageType : Nat) (data : List UInt8) (writer : Writer)
    (done : (writeControl masking messageType data writer).2 = true) :
    data.length ≤ 125 ∧ writeControl masking messageType data writer = writeMessage masking messageType data writer := by
  by_cases long : 125 < data.length
  · unfold writeControl andThen at done
    simp only [long, if_true] at done
    split at done
    · cases done
    · exact absurd done ‹_›
  · have short := Nat.le_of_not_lt long
    exact ⟨short, by rw [write_control_short masking messageType data short]⟩

theorem write_message_completes (masking : Bool) (messageType : Nat) (data : List UInt8) :
    Completes (writeMessage masking messageType data) := by
  have length : Completes (writeLength masking data.length) := by
    unfold writeLength
    split
    · exact write_byte_completes _
    · split
      · exact and_then_completes _ _ (write_byte_completes _) (write_completes _)
      · exact and_then_completes _ _ (write_byte_completes _) (write_completes _)
  have payload : Completes (writePayload masking data) := by
    unfold writePayload
    split
    · exact and_then_completes _ _ (write_completes _) (write_completes _)
    · exact write_completes _
  have body := and_then_completes _ _ (write_byte_completes (0x80 ||| UInt8.ofNat messageType))
    (and_then_completes _ _ length payload)
  exact and_then_completes _ _ body flush_completes

theorem second_byte (masking : Bool) (length : Nat) (short : length < 128) :
    ((maskBit masking ||| UInt8.ofNat length) &&& 0x7F).toNat = length ∧
      ((maskBit masking ||| UInt8.ofNat length) &&& 0x80 ≠ 0 ↔ masking = true) := by
  have all : ∀ masking : Bool, ∀ length < 128,
      ((maskBit masking ||| UInt8.ofNat length) &&& 0x7F).toNat = length ∧
        ((maskBit masking ||| UInt8.ofNat length) &&& 0x80 ≠ 0 ↔ masking = true) := by decide
  exact all masking length short

theorem first_byte (messageType : Nat) (nibble : messageType < 16) :
    ((0x80 ||| UInt8.ofNat messageType) &&& 0x0F).toNat = messageType := by
  have all : ∀ messageType < 16, ((0x80 ||| UInt8.ofNat messageType) &&& 0x0F).toNat = messageType := by decide
  exact all messageType nibble

-- The three ways a length is written; the longer ones may hold any smaller length.
inductive LengthForm where
  | short
  | medium
  | long
deriving DecidableEq, Repr

def LengthForm.limit : LengthForm → Nat
  | .short => 125
  | .medium => 65535
  | .long => 2 ^ 63 - 1

def LengthForm.bytes (masking : Bool) (length : Nat) : LengthForm → List UInt8
  | .short => [maskBit masking ||| UInt8.ofNat length]
  | .medium => (maskBit masking ||| 126) :: BigEndian.encode 2 length
  | .long => (maskBit masking ||| 127) :: BigEndian.encode 8 length

theorem reads_length_form (form : LengthForm) (masking : Bool) (length : Nat) (fits : length ≤ form.limit) :
    ∃ second tail, form.bytes masking length = second :: tail ∧ (second &&& 0x80 ≠ 0 ↔ masking = true) ∧
      Reads (readLength second) tail (length : Int) := by
  cases form with
  | short =>
      have small : length ≤ 125 := fits
      obtain ⟨low, high⟩ := second_byte masking length (by omega)
      refine ⟨_, _, rfl, high, ?_⟩
      rw [readLength, low, if_neg (by omega), if_neg (by omega)]
      exact reads_pure _
  | medium =>
      have small : length ≤ 65535 := fits
      obtain ⟨low, high⟩ : ((maskBit masking ||| 126) &&& 0x7F).toNat = 126 ∧ _ := second_byte masking 126 (by decide)
      refine ⟨_, _, rfl, high, ?_⟩
      rw [readLength, if_pos low]
      have value : (BigEndian.decode (BigEndian.encode 2 length) : Int) = length := by
        rw [BigEndian.decode_encode 2 length (by omega)]
      rw [← value]
      exact reads_full_then _ 2 (BigEndian.encode_length 2 length) (fun bytes => (BigEndian.decode bytes : Int))
  | long =>
      have small : length ≤ 2 ^ 63 - 1 := fits
      obtain ⟨low, high⟩ : ((maskBit masking ||| 127) &&& 0x7F).toNat = 127 ∧ _ := second_byte masking 127 (by decide)
      refine ⟨_, _, rfl, high, ?_⟩
      rw [readLength, low, if_neg (by decide), if_pos rfl]
      have value : (BitVec.ofNat 64 (BigEndian.decode (BigEndian.encode 8 length))).toInt = (length : Int) := by
        rw [BigEndian.decode_encode 8 length (by omega), BitVec.toInt_eq_toNat_of_lt] <;> simp <;> omega
      rw [← value]
      exact reads_full_then _ 8 (BigEndian.encode_length 8 length) (fun bytes => (BitVec.ofNat 64 (BigEndian.decode bytes)).toInt)

theorem length_bytes_form (masking : Bool) (length : Nat) (bounded : length < 2 ^ 63) :
    ∃ form : LengthForm, lengthBytes masking length = form.bytes masking length ∧ length ≤ form.limit := by
  unfold lengthBytes
  by_cases short : length ≤ 125
  · exact ⟨.short, if_pos short, short⟩
  · rw [if_neg short]
    by_cases medium : length ≤ 65535
    · exact ⟨.medium, if_pos medium, medium⟩
    · exact ⟨.long, if_neg medium, Nat.le_sub_one_of_lt bounded⟩

theorem unmask_zero (payload : List UInt8) : unmask (some maskKey) payload = payload := by
  have zero : ∀ index : Nat, maskKey.getD (index % 4) 0 = 0 := by
    intro index
    have bound : index % 4 < 4 := Nat.mod_lt index (by decide)
    have all : ∀ place < 4, maskKey.getD place 0 = 0 := by decide
    exact all (index % 4) bound
  apply List.ext_getElem
  · simp [unmask]
  · intro index _ _
    simp only [unmask, List.getElem_mapIdx, zero, UInt8.xor_zero]

theorem unmask_length (key : Option (List UInt8)) (payload : List UInt8) : (unmask key payload).length = payload.length := by
  cases key <;> simp [unmask]

theorem unmask_twice (key : Option (List UInt8)) (payload : List UInt8) : unmask key (unmask key payload) = payload := by
  cases key with
  | none => rfl
  | some bytes =>
      apply List.ext_getElem
      · simp [unmask]
      · intro index _ _
        simp only [unmask, List.getElem_mapIdx, UInt8.xor_assoc, UInt8.xor_self, UInt8.xor_zero]

theorem reads_mask_key (key : Option (List UInt8)) (second : UInt8) (keyed : ∀ bytes ∈ key, bytes.length = 4)
    (masked : second &&& 0x80 ≠ 0 ↔ key.isSome = true) : Reads (readMaskKey second) (key.getD []) key := by
  unfold readMaskKey
  cases key with
  | some bytes =>
      rw [if_pos (masked.mpr rfl)]
      exact reads_full_then bytes 4 (keyed bytes rfl) some
  | none =>
      rw [if_neg (fun set => Bool.false_ne_true (masked.mp set))]
      exact reads_pure none

theorem reads_payload (data : List UInt8) (bounded : data.length ≤ maxPayload) : Reads (readPayload data.length) data data := by
  have within : ¬ ((data.length : Int) < 0 ∨ (maxPayload : Int) < data.length) := by omega
  rw [readPayload, if_neg within]
  exact reads_full data

-- A frame of the wire with any first byte and any masking key.
def frameBytes (first : UInt8) (key : Option (List UInt8)) (data : List UInt8) : List UInt8 :=
  first :: (lengthBytes key.isSome data.length ++ (key.getD [] ++ unmask key data))

theorem reads_frame_form (first : UInt8) (form : LengthForm) (key : Option (List UInt8)) (wire : List UInt8)
    (keyed : ∀ bytes ∈ key, bytes.length = 4) (fits : wire.length ≤ form.limit) (bounded : wire.length ≤ maxPayload) :
    Reads readFrame (first :: (form.bytes key.isSome wire.length ++ (key.getD [] ++ wire)))
      ⟨(first &&& 0x0F).toNat, unmask key wire⟩ := by
  obtain ⟨second, tail, bytes, masked, length⟩ := reads_length_form form key.isSome wire.length fits
  have split : first :: (form.bytes key.isSome wire.length ++ (key.getD [] ++ wire)) =
      [first] ++ ([second] ++ (tail ++ (key.getD [] ++ (wire ++ [])))) := by
    simp [bytes]
  rw [split]
  refine reads_bind _ _ _ _ _ _ (reads_byte _) ?_
  refine reads_bind _ _ _ _ _ _ (reads_byte _) ?_
  refine reads_bind _ _ _ _ _ _ length ?_
  refine reads_bind _ _ _ _ _ _ (reads_mask_key key second keyed masked) ?_
  refine reads_bind _ _ _ _ _ _ (reads_payload wire bounded) ?_
  exact reads_pure _

theorem reads_frame_bytes (first : UInt8) (key : Option (List UInt8)) (data : List UInt8)
    (keyed : ∀ bytes ∈ key, bytes.length = 4) (bounded : data.length ≤ maxPayload) :
    Reads readFrame (frameBytes first key data) ⟨(first &&& 0x0F).toNat, data⟩ := by
  obtain ⟨form, bytes, fits⟩ := length_bytes_form key.isSome data.length (Nat.lt_of_le_of_lt bounded (by decide))
  have reads := reads_frame_form first form key (unmask key data) keyed (by rwa [unmask_length]) (by rwa [unmask_length])
  rwa [unmask_length, unmask_twice, ← bytes] at reads

theorem frame_too_long (first : UInt8) (key : Option (List UInt8)) (data rest : List UInt8)
    (keyed : ∀ bytes ∈ key, bytes.length = 4) (bounded : data.length < 2 ^ 63) (long : maxPayload < data.length) :
    readFrame (frameBytes first key data ++ rest) =
      .error (.other (.outOfBounds data.length), unmask key data ++ rest) := by
  obtain ⟨form, bytes, fits⟩ := length_bytes_form key.isSome data.length bounded
  obtain ⟨second, tail, field, masked, length⟩ := reads_length_form form key.isSome data.length fits
  have split : frameBytes first key data ++ rest =
      [first] ++ ([second] ++ (tail ++ (key.getD [] ++ (unmask key data ++ rest)))) := by
    simp [frameBytes, bytes, field]
  have refused : readPayload data.length = fail (.outOfBounds data.length) := if_pos (.inr (by omega))
  rw [split, readFrame, bind_reads _ _ _ _ _ (reads_byte first), bind_reads _ _ _ _ _ (reads_byte second),
    bind_reads _ _ _ _ _ length, bind_reads _ _ _ _ _ (reads_mask_key key second keyed masked), refused]
  rfl

theorem reads_frame (masking : Bool) (messageType : Nat) (data : List UInt8) (nibble : messageType < 16)
    (bounded : data.length ≤ maxPayload) : Reads readFrame (encodeFrame masking messageType data) ⟨messageType, data⟩ := by
  have same : encodeFrame masking messageType data =
      frameBytes (0x80 ||| UInt8.ofNat messageType) (if masking then some maskKey else none) data := by
    cases masking with
    | true => simp [encodeFrame, frameBytes, payloadBytes, unmask_zero]
    | false => simp [encodeFrame, frameBytes, payloadBytes, unmask]
  have keyed : ∀ bytes ∈ (if masking then some maskKey else none), bytes.length = 4 := by
    cases masking <;> simp [maskKey]
  have reads := reads_frame_bytes (0x80 ||| UInt8.ofNat messageType) _ data keyed bounded
  rwa [first_byte messageType nibble, ← same] at reads

theorem progress_frame : Progress readFrame 2 := by
  have length : ∀ second, Progress (readLength second) 0 := by
    intro second
    unfold readLength
    split
    · exact progress_weaken _ _ _ (progress_bind _ _ 2 0 (progress_full 2) (fun _ => progress_pure _)) (by omega)
    · split
      · exact progress_weaken _ _ _ (progress_bind _ _ 8 0 (progress_full 8) (fun _ => progress_pure _)) (by omega)
      · exact progress_pure _
  have key : ∀ second, Progress (readMaskKey second) 0 := by
    intro second
    unfold readMaskKey
    split
    · exact progress_weaken _ _ _ (progress_bind _ _ 4 0 (progress_full 4) (fun _ => progress_pure _)) (by omega)
    · exact progress_pure _
  have payload : ∀ length, Progress (readPayload length) 0 := by
    intro length
    unfold readPayload
    split
    · exact progress_fail _ 0
    · exact progress_weaken _ _ _ (progress_full _) (Nat.zero_le _)
  refine progress_bind _ _ 1 1 progress_byte fun _ => progress_bind _ _ 1 0 progress_byte fun second => ?_
  refine progress_bind _ _ 0 0 (length second) fun _ => progress_bind _ _ 0 0 (key second) fun _ => ?_
  exact progress_bind _ _ 0 0 (payload _) fun _ => progress_pure _

theorem stable_frame : Stable readFrame := by
  have length : ∀ second, Stable (readLength second) := by
    intro second
    unfold readLength
    split
    · exact stable_bind _ _ (stable_full 2) fun _ => stable_pure _
    · split
      · exact stable_bind _ _ (stable_full 8) fun _ => stable_pure _
      · exact stable_pure _
  have key : ∀ second, Stable (readMaskKey second) := by
    intro second
    unfold readMaskKey
    split
    · exact stable_bind _ _ (stable_full 4) fun _ => stable_pure _
    · exact stable_pure _
  have payload : ∀ length, Stable (readPayload length) := by
    intro length
    unfold readPayload
    split
    · exact stable_fail _
    · exact stable_full _
  refine stable_bind _ _ stable_byte fun _ => stable_bind _ _ stable_byte fun second => ?_
  refine stable_bind _ _ (length second) fun _ => stable_bind _ _ (key second) fun _ => ?_
  exact stable_bind _ _ (payload _) fun _ => stable_pure _

end WarpStream
