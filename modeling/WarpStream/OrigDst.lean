import WarpStream.ByteBuffer
import WarpStream.BigEndian
import WarpStream.GoAddr

set_option autoImplicit false

namespace WarpStream

open ByteBuffer GoAddr

def cmsgIpOrigDstAddr : Int32 := 20
def cmsgIpv6OrigDstAddr : Int32 := 80
def protoIP : Int32 := 0
def protoIPv6 : Int32 := 41

-- The length of a slice is an int.
structure GoBytes where
  bytes : List UInt8
  fits : bytes.length < 2 ^ 63

inductive OrigDstError where
  | notFound
  | outOfRange
deriving DecidableEq, Repr

def OrigDstError.text : OrigDstError → String
  | .notFound => "original destination address control message not found"
  | .outOfRange => "runtime error: slice bounds out of range"

inductive CmsgTurn where
  | stop
  | found (ip : String) (port : UInt16)
  | next (oob : List UInt8)
deriving DecidableEq, Repr

def cmsgInt32 (bytes : List UInt8) : Int32 := (UInt32.ofNat (LittleEndian.decode bytes)).toInt32

def cmsgPort (bytes : List UInt8) : UInt16 := UInt16.ofNat (BigEndian.decode bytes)

def cmsgNext (cmsgLen : UInt64) : UInt64 := (cmsgLen + 7) &&& ~~~7

def advance (oob : List UInt8) (cmsgLen : UInt64) : Option CmsgTurn :=
  if UInt64.ofNat oob.length < cmsgNext cmsgLen then some .stop
  else (slice oob (cmsgNext cmsgLen).toNat oob.length).map .next

-- net.IPv4 keeps its four bytes behind the prefix of a mapped address. A match
-- whose data is too short falls through to the next message.
def readCmsg (oob : List UInt8) (cmsgLen : UInt64) : Option CmsgTurn := do
  let level := cmsgInt32 (← slice oob 8 12)
  let typ := cmsgInt32 (← slice oob 12 16)
  let data ← slice oob 16 cmsgLen.toNat
  if level = protoIP ∧ typ = cmsgIpOrigDstAddr ∧ 8 ≤ data.length then
    let port := cmsgPort (← slice data 2 4)
    let ip ← slice data 4 8
    return .found (ipString (mappedPrefix ++ ip)) port
  else if level = protoIPv6 ∧ typ = cmsgIpv6OrigDstAddr ∧ 24 ≤ data.length then
    let port := cmsgPort (← slice data 2 4)
    let ip ← slice data 8 24
    return .found (ipString ip) port
  else advance oob cmsgLen

def cmsgTurn (oob : List UInt8) : Option CmsgTurn :=
  if 16 ≤ oob.length then do
    let cmsgLen := UInt64.ofNat (LittleEndian.decode (← slice oob 0 8))
    if cmsgLen < 16 ∨ UInt64.ofNat oob.length < cmsgLen then return .stop
    else readCmsg oob cmsgLen
  else some .stop

-- The mask clears the low three bits, and a length the buffer can hold is far
-- from the end of the word, so the addition before it does not wrap.
theorem clear_low_bits (word : UInt64) : (word &&& ~~~7).toNat = word.toNat / 8 * 8 := by
  have mask : (~~~7 : UInt64).toNat = (2 ^ 61 - 1) <<< 3 := by decide
  have shifted : word.toNat / 8 * 8 = (word.toNat >>> 3) <<< 3 := by
    rw [Nat.shiftRight_eq_div_pow, Nat.shiftLeft_eq]
  rw [UInt64.toNat_and, mask, shifted]
  apply Nat.eq_of_testBit_eq
  intro index
  rw [Nat.testBit_and, Nat.testBit_shiftLeft, Nat.testBit_shiftLeft, Nat.testBit_shiftRight, Nat.testBit_two_pow_sub_one]
  by_cases low : 3 ≤ index
  · have back : 3 + (index - 3) = index := by omega
    by_cases high : index < 64
    · have inside : index - 3 < 61 := by omega
      simp [low, inside, back]
    · have beyond := Nat.lt_of_lt_of_le word.toNat_lt (Nat.pow_le_pow_right (by decide : 0 < 2) (Nat.le_of_not_lt high))
      simp [Nat.testBit_lt_two_pow beyond, back]
  · simp [low]

theorem cmsg_next_exact (cmsgLen : UInt64) (small : cmsgLen.toNat < 2 ^ 63) :
    (cmsgNext cmsgLen).toNat = (cmsgLen.toNat + 7) / 8 * 8 := by
  have sum : (cmsgLen + 7).toNat = cmsgLen.toNat + 7 := by
    rw [UInt64.toNat_add]
    exact Nat.mod_eq_of_lt (by simp; omega)
  rw [cmsgNext, clear_low_bits, sum]

theorem length_word (oob : List UInt8) (fits : oob.length < 2 ^ 63) : (UInt64.ofNat oob.length).toNat = oob.length :=
  UInt64.toNat_ofNat_of_lt' (Nat.lt_trans fits (by decide))

-- A turn never slices out of range, and one that goes on drops a message.
def TurnSafe (oob : List UInt8) (turn : Option CmsgTurn) : Prop :=
  ∃ result, turn = some result ∧ ∀ rest, result = .next rest → rest.length < oob.length

theorem advance_safe (oob : List UInt8) (cmsgLen : UInt64) (fits : oob.length < 2 ^ 63) (low : 16 ≤ cmsgLen.toNat)
    (bound : cmsgLen.toNat ≤ oob.length) : TurnSafe oob (advance oob cmsgLen) := by
  have exactly := cmsg_next_exact cmsgLen (by omega)
  rw [advance]
  by_cases past : UInt64.ofNat oob.length < cmsgNext cmsgLen
  · rw [if_pos past]
    exact ⟨.stop, rfl, by simp⟩
  · have inside : (cmsgNext cmsgLen).toNat ≤ oob.length := by
      rw [UInt64.lt_iff_toNat_lt, length_word oob fits] at past
      exact Nat.le_of_not_lt past
    rw [if_neg past, slice_inside oob _ _ inside (Nat.le_refl _)]
    refine ⟨_, rfl, ?_⟩
    rintro rest ⟨⟩
    simp only [List.length_drop, List.length_take]
    omega

theorem read_cmsg_safe (oob : List UInt8) (cmsgLen : UInt64) (fits : oob.length < 2 ^ 63) (low : 16 ≤ cmsgLen.toNat)
    (bound : cmsgLen.toNat ≤ oob.length) : TurnSafe oob (readCmsg oob cmsgLen) := by
  have later := advance_safe oob cmsgLen fits low bound
  have ended : ∀ ip port, TurnSafe oob (some (.found ip port)) := fun ip port => ⟨.found ip port, rfl, by simp⟩
  simp only [readCmsg, slice_inside oob 8 12 (by decide) (by omega), slice_inside oob 12 16 (by decide) (by omega),
    slice_inside oob 16 cmsgLen.toNat low bound, Option.bind_eq_bind, Option.bind_some]
  split
  · rename_i four
    simp only [slice_inside _ 2 4 (by decide) (Nat.le_trans (by decide) four.2.2), slice_inside _ 4 8 (by decide) four.2.2]
    exact ended _ _
  · split
    · rename_i six
      simp only [slice_inside _ 2 4 (by decide) (Nat.le_trans (by decide) six.2.2), slice_inside _ 8 24 (by decide) six.2.2]
      exact ended _ _
    · exact later

theorem cmsg_turn_safe (oob : List UInt8) (fits : oob.length < 2 ^ 63) : TurnSafe oob (cmsgTurn oob) := by
  have stopped : TurnSafe oob (some .stop) := ⟨.stop, rfl, by simp⟩
  rw [cmsgTurn]
  by_cases enough : 16 ≤ oob.length
  · simp only [if_pos enough, slice_inside oob 0 8 (by decide) (by omega), Option.bind_eq_bind, Option.bind_some]
    split
    · exact stopped
    · rename_i proper
      rw [not_or, UInt64.lt_iff_toNat_lt, UInt64.lt_iff_toNat_lt, length_word oob fits] at proper
      exact read_cmsg_safe oob _ fits (Nat.le_of_not_lt proper.1) (Nat.le_of_not_lt proper.2)
  · rw [if_neg enough]
    exact stopped

theorem cmsg_turn_shorter (oob rest : List UInt8) (fits : oob.length < 2 ^ 63) (turn : cmsgTurn oob = some (.next rest)) :
    rest.length < oob.length := by
  obtain ⟨result, moved, shorter⟩ := cmsg_turn_safe oob fits
  cases turn.symm.trans moved
  exact shorter rest rfl

def parseOrigDstAddr (oob : GoBytes) : Except OrigDstError (String × UInt16) :=
  match turn : cmsgTurn oob.bytes with
  | none => .error .outOfRange
  | some .stop => .error .notFound
  | some (.found ip port) => .ok (ip, port)
  | some (.next rest) => parseOrigDstAddr ⟨rest, Nat.lt_trans (cmsg_turn_shorter oob.bytes rest oob.fits turn) oob.fits⟩
termination_by oob.bytes.length
decreasing_by exact cmsg_turn_shorter oob.bytes rest oob.fits turn

theorem parse_in_range (oob : GoBytes) : parseOrigDstAddr oob ≠ .error .outOfRange := by
  fun_induction parseOrigDstAddr oob with
  | case1 oob turn =>
      obtain ⟨result, moved, _⟩ := cmsg_turn_safe oob.bytes oob.fits
      cases turn.symm.trans moved
  | case2 oob turn => simp
  | case3 oob ip port turn => simp
  | case4 oob rest turn ih => exact ih

structure Cmsg where
  level : Int32
  typ : Int32
  data : List UInt8
deriving DecidableEq, Repr

def Cmsg.bytes (message : Cmsg) : List UInt8 :=
  LittleEndian.encode 8 (16 + message.data.length) ++ (LittleEndian.encode 4 message.level.toUInt32.toNat ++
    (LittleEndian.encode 4 message.typ.toUInt32.toNat ++ message.data))

def Cmsg.padding (message : Cmsg) : Nat := (8 - (16 + message.data.length) % 8) % 8

-- Messages one behind the other. The last may lack some of its padding, and the
-- value of padding bytes is free.
inductive Encoded : List Cmsg → List UInt8 → Prop where
  | none : Encoded [] []
  | last (message : Cmsg) (padding : List UInt8) (short : padding.length ≤ message.padding) :
      Encoded [message] (message.bytes ++ padding)
  | padded (message : Cmsg) (padding rest : List UInt8) (messages : List Cmsg) (aligned : padding.length = message.padding)
      (behind : Encoded messages rest) : Encoded (message :: messages) (message.bytes ++ (padding ++ rest))

def Cmsg.origDst (message : Cmsg) : Option (String × UInt16) :=
  let port := UInt16.ofNat (BigEndian.decode ((message.data.take 4).drop 2))
  if message.level = 0 ∧ message.typ = 20 ∧ 8 ≤ message.data.length then
    some (ipString ((message.data.take 8).drop 4), port)
  else if message.level = 41 ∧ message.typ = 80 ∧ 24 ≤ message.data.length then
    some (ipString ((message.data.take 24).drop 8), port)
  else none

theorem mapped_text (ip : IP) (four : ip.length = 4) : ipString (mappedPrefix ++ ip) = ipString ip := by
  have mapped : to4 (mappedPrefix ++ ip) = some ip := by
    have width : (mappedPrefix ++ ip).length = 16 := by rw [List.length_append, four]; rfl
    have front : (mappedPrefix ++ ip).take 12 = mappedPrefix := List.take_left' rfl
    have back : (mappedPrefix ++ ip).drop 12 = ip := List.drop_left' rfl
    rw [to4, if_neg (by omega), if_pos ⟨width, front⟩, back]
  have short : to4 ip = some ip := if_pos four
  rw [ipString, ipString, mapped, short]

theorem cmsg_int32_encoded (value : Int32) : cmsgInt32 (LittleEndian.encode 4 value.toUInt32.toNat) = value := by
  rw [cmsgInt32, LittleEndian.decode_encode 4 _ value.toUInt32.toNat_lt]
  simp

theorem cmsg_bytes_length (message : Cmsg) : message.bytes.length = 16 + message.data.length := by
  simp only [Cmsg.bytes, List.length_append, LittleEndian.encode_length]
  omega

theorem advance_encoded (message : Cmsg) (behind : List UInt8) (fits : (message.bytes ++ behind).length < 2 ^ 63)
    (cmsgLen : UInt64) (size : cmsgLen.toNat = message.bytes.length) :
    advance (message.bytes ++ behind) cmsgLen =
      some (if behind.length < message.padding then .stop else .next (behind.drop message.padding)) := by
  have whole : (message.bytes ++ behind).length = message.bytes.length + behind.length := List.length_append
  have next : (cmsgNext cmsgLen).toNat = message.bytes.length + message.padding := by
    rw [cmsg_next_exact cmsgLen (by omega), size, cmsg_bytes_length, Cmsg.padding]
    omega
  have past : UInt64.ofNat (message.bytes ++ behind).length < cmsgNext cmsgLen ↔ behind.length < message.padding := by
    rw [UInt64.lt_iff_toNat_lt, length_word _ fits, next]
    omega
  rw [advance]
  by_cases short : behind.length < message.padding
  · rw [if_pos short, if_pos (past.mpr short)]
  · rw [if_neg short, if_neg (fun beyond => short (past.mp beyond)), slice_inside _ _ _ (by omega) (Nat.le_refl _),
      List.take_length, next, List.drop_append, Nat.add_sub_cancel_left, List.drop_of_length_le (by omega), List.nil_append]
    rfl

theorem message_slices (message : Cmsg) (behind : List UInt8) :
    slice (message.bytes ++ behind) 0 8 = some (LittleEndian.encode 8 (16 + message.data.length)) ∧
      slice (message.bytes ++ behind) 8 12 = some (LittleEndian.encode 4 message.level.toUInt32.toNat) ∧
      slice (message.bytes ++ behind) 12 16 = some (LittleEndian.encode 4 message.typ.toUInt32.toNat) ∧
      slice (message.bytes ++ behind) 16 (16 + message.data.length) = some message.data := by
  have first := slice_window [] (LittleEndian.encode 8 (16 + message.data.length)) (LittleEndian.encode 4 message.level.toUInt32.toNat ++
    LittleEndian.encode 4 message.typ.toUInt32.toNat ++ message.data ++ behind) 0 8 rfl rfl
  have second := slice_window (LittleEndian.encode 8 (16 + message.data.length)) (LittleEndian.encode 4 message.level.toUInt32.toNat)
    (LittleEndian.encode 4 message.typ.toUInt32.toNat ++ message.data ++ behind) 8 12 rfl rfl
  have third := slice_window (LittleEndian.encode 8 (16 + message.data.length) ++ LittleEndian.encode 4 message.level.toUInt32.toNat)
    (LittleEndian.encode 4 message.typ.toUInt32.toNat) (message.data ++ behind) 12 16 rfl rfl
  have last := slice_window (LittleEndian.encode 8 (16 + message.data.length) ++ LittleEndian.encode 4 message.level.toUInt32.toNat ++
    LittleEndian.encode 4 message.typ.toUInt32.toNat) message.data behind 16 _ rfl rfl
  simp only [List.append_assoc, List.nil_append] at first second third last
  simp only [Cmsg.bytes, List.append_assoc]
  exact ⟨first, second, third, last⟩

def turnOf (message : Cmsg) (behind : List UInt8) : CmsgTurn :=
  match message.origDst with
  | some (ip, port) => .found ip port
  | none => if behind.length < message.padding then .stop else .next (behind.drop message.padding)

theorem read_cmsg_encoded (message : Cmsg) (behind : List UInt8) (fits : (message.bytes ++ behind).length < 2 ^ 63)
    (cmsgLen : UInt64) (size : cmsgLen.toNat = 16 + message.data.length) :
    readCmsg (message.bytes ++ behind) cmsgLen = some (turnOf message behind) := by
  obtain ⟨_, level, typ, data⟩ := message_slices message behind
  have later := advance_encoded message behind fits cmsgLen (size.trans (cmsg_bytes_length message).symm)
  simp only [readCmsg, size, level, typ, data, cmsg_int32_encoded, Option.bind_eq_bind, Option.bind_some, turnOf, Cmsg.origDst,
    protoIP, protoIPv6, cmsgIpOrigDstAddr, cmsgIpv6OrigDstAddr]
  by_cases four : message.level = 0 ∧ message.typ = 20 ∧ 8 ≤ message.data.length
  · have width : ((message.data.take 8).drop 4).length = 4 := by
      rw [List.length_drop, List.length_take, Nat.min_eq_left four.2.2]
    rw [if_pos four, if_pos four, slice_inside _ 2 4 (by decide) (Nat.le_trans (by decide) four.2.2),
      slice_inside _ 4 8 (by decide) four.2.2, ← mapped_text _ width]
    rfl
  · rw [if_neg four, if_neg four]
    by_cases six : message.level = 41 ∧ message.typ = 80 ∧ 24 ≤ message.data.length
    · rw [if_pos six, if_pos six, slice_inside _ 2 4 (by decide) (Nat.le_trans (by decide) six.2.2),
        slice_inside _ 8 24 (by decide) six.2.2]
      rfl
    · rw [if_neg six, if_neg six]
      exact later

theorem turn_encoded (message : Cmsg) (behind : List UInt8) (fits : (message.bytes ++ behind).length < 2 ^ 63) :
    cmsgTurn (message.bytes ++ behind) = some (turnOf message behind) := by
  have length : (message.bytes ++ behind).length = 16 + message.data.length + behind.length := by
    rw [List.length_append, cmsg_bytes_length]
  have size : (UInt64.ofNat (16 + message.data.length)).toNat = 16 + message.data.length :=
    UInt64.toNat_ofNat_of_lt' (Nat.lt_trans (by omega : _ < 2 ^ 63) (by decide))
  have proper : ¬ (UInt64.ofNat (16 + message.data.length) < 16 ∨
      UInt64.ofNat (message.bytes ++ behind).length < UInt64.ofNat (16 + message.data.length)) := by
    rw [not_or, UInt64.lt_iff_toNat_lt, UInt64.lt_iff_toNat_lt, length_word _ fits, size]
    refine ⟨Nat.not_lt.mpr (Nat.le_add_right 16 _), ?_⟩
    omega
  simp only [cmsgTurn, if_pos (by omega : 16 ≤ (message.bytes ++ behind).length), (message_slices message behind).1,
    LittleEndian.decode_encode 8 (16 + message.data.length) (by omega), Option.bind_eq_bind, Option.bind_some, if_neg proper]
  exact read_cmsg_encoded message behind fits _ size

def firstOrigDst (messages : List Cmsg) : Except OrigDstError (String × UInt16) :=
  match messages.findSome? Cmsg.origDst with
  | some found => .ok found
  | none => .error .notFound

theorem parse_found (oob : GoBytes) (ip : String) (port : UInt16) (turn : cmsgTurn oob.bytes = some (.found ip port)) :
    parseOrigDstAddr oob = .ok (ip, port) := by
  rw [parseOrigDstAddr]
  split <;> rename_i other <;> cases other.symm.trans turn
  rfl

theorem parse_stop (oob : GoBytes) (turn : cmsgTurn oob.bytes = some .stop) : parseOrigDstAddr oob = .error .notFound := by
  rw [parseOrigDstAddr]
  split <;> rename_i other <;> cases other.symm.trans turn
  rfl

theorem parse_next (oob : GoBytes) (rest : List UInt8) (fits : rest.length < 2 ^ 63)
    (turn : cmsgTurn oob.bytes = some (.next rest)) : parseOrigDstAddr oob = parseOrigDstAddr ⟨rest, fits⟩ := by
  rw [parseOrigDstAddr]
  split <;> rename_i other <;> cases other.symm.trans turn
  rfl

theorem parse_empty (fits : ([] : List UInt8).length < 2 ^ 63) : parseOrigDstAddr ⟨[], fits⟩ = .error .notFound :=
  parse_stop ⟨[], fits⟩ rfl

-- The induction is on the encoding: a message that matches ends the loop, and
-- any other leaves the encoding of the messages behind it.
theorem parse_encoded (messages : List Cmsg) (bytes : List UInt8) (encoded : Encoded messages bytes)
    (fits : bytes.length < 2 ^ 63) : parseOrigDstAddr ⟨bytes, fits⟩ = firstOrigDst messages := by
  induction encoded with
  | none => exact parse_empty fits
  | last message padding short =>
      have turn := turn_encoded message padding fits
      rw [firstOrigDst, List.findSome?_singleton]
      cases found : message.origDst with
      | some address =>
          rw [turnOf, found] at turn
          exact parse_found ⟨_, fits⟩ address.1 address.2 turn
      | none =>
          rw [turnOf, found] at turn
          by_cases missing : padding.length < message.padding
          · simp only [if_pos missing] at turn
            exact parse_stop ⟨_, fits⟩ turn
          · simp only [if_neg missing, List.drop_of_length_le short] at turn
            rw [parse_next ⟨_, fits⟩ [] (by decide) turn]
            exact parse_empty (by decide)
  | padded message padding rest messages aligned behind ih =>
      have turn := turn_encoded message (padding ++ rest) fits
      rw [firstOrigDst, List.findSome?_cons]
      cases found : message.origDst with
      | some address =>
          rw [turnOf, found] at turn
          exact parse_found ⟨_, fits⟩ address.1 address.2 turn
      | none =>
          have enough : ¬ (padding ++ rest).length < padding.length := by
            rw [List.length_append]
            omega
          have shorter : rest.length < 2 ^ 63 := by
            simp only [List.length_append] at fits
            omega
          rw [turnOf, found] at turn
          simp only [← aligned, if_neg enough, List.drop_left] at turn
          rw [parse_next ⟨_, fits⟩ rest shorter turn]
          exact ih shorter

theorem orig_dst_of_first_message (oob : GoBytes) :
    parseOrigDstAddr oob ≠ .error .outOfRange ∧
      ∀ messages, Encoded messages oob.bytes → parseOrigDstAddr oob = firstOrigDst messages := by
  refine ⟨parse_in_range oob, ?_⟩
  intro messages encoded
  exact parse_encoded messages oob.bytes encoded oob.fits

-- The first message is of the right kind but too short, and is passed.
theorem short_message_skipped :
    let short : Cmsg := ⟨0, 20, [2, 0, 0, 53]⟩
    let full : Cmsg := ⟨0, 20, [2, 0, 0, 53, 10, 0, 0, 1]⟩
    ∃ fits, parseOrigDstAddr ⟨short.bytes ++ ([0, 0, 0, 0] ++ (full.bytes ++ [])), fits⟩ = .ok ("10.0.0.1", 53) :=
  ⟨by decide, (orig_dst_of_first_message ⟨_, by decide⟩).2 _
    (.padded ⟨0, 20, [2, 0, 0, 53]⟩ [0, 0, 0, 0] _ _ (by decide) (.last ⟨0, 20, [2, 0, 0, 53, 10, 0, 0, 1]⟩ [] (by decide)))⟩

end WarpStream
