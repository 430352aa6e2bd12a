import WarpStream.HttpProxy

set_option autoImplicit false

namespace WarpStream

open GoText

theorem length_word_equal (left right : Nat) : BitVec.ofNat 32 (left ^^^ right) = 0 ↔ left % 2 ^ 32 = right % 2 ^ 32 := by
  rw [BitVec.ofNat_xor]
  refine BitVec.xor_eq_zero_iff.trans ?_
  rw [← BitVec.toNat_inj, BitVec.toNat_ofNat, BitVec.toNat_ofNat]

theorem byte_word_equal (left right : UInt8) : BitVec.ofNat 32 (left ^^^ right).toNat = 0 ↔ left = right := by
  have small : (left ^^^ right).toNat < 2 ^ 32 := Nat.lt_trans (left ^^^ right).toNat_lt (by decide)
  rw [← UInt8.xor_eq_zero_iff, ← BitVec.toNat_inj, BitVec.toNat_ofNat, Nat.mod_eq_of_lt small, ← UInt8.toNat_inj]
  rfl

theorem or_fold_zero (indices : List Nat) (word : Nat → BitVec 32) (start : BitVec 32) :
    indices.foldl (fun diff index => diff ||| word index) start = 0 ↔ start = 0 ∧ ∀ index ∈ indices, word index = 0 := by
  induction indices generalizing start with
  | nil => simp
  | cons index rest ih =>
      rw [List.foldl_cons, ih, List.forall_mem_cons, ← and_assoc]
      exact and_congr_left' BitVec.or_eq_zero_iff

theorem constant_time_iff (actual expected : List UInt8) : constantTimeEqualBytes actual expected = true ↔
    actual.length % 2 ^ 32 = expected.length % 2 ^ 32 ∧
      ∀ index < max actual.length expected.length, actual.getD index 0 = expected.getD index 0 := by
  simp only [constantTimeEqualBytes, decide_eq_true_eq, or_fold_zero, length_word_equal, byte_word_equal, List.mem_range]

theorem padded_get (bytes : List UInt8) (count index : Nat) :
    (bytes ++ List.replicate count 0).getD index 0 = bytes.getD index 0 := by
  simp only [List.getD_eq_getElem?_getD, List.getElem?_append, List.getElem?_replicate]
  by_cases inside : index < bytes.length
  · rw [if_pos inside]
  · rw [if_neg inside, List.getElem?_eq_none (Nat.le_of_not_lt inside)]
    split <;> rfl

theorem equal_by_get (left right : List UInt8) (length : left.length = right.length)
    (same : ∀ index < left.length, left.getD index 0 = right.getD index 0) : left = right := by
  refine List.ext_getElem length ?_
  intro index inLeft inRight
  have equal := same index inLeft
  rwa [List.getD_eq_getElem?_getD, List.getD_eq_getElem?_getD, List.getElem?_eq_getElem inLeft,
    List.getElem?_eq_getElem inRight] at equal

theorem padding_none (text : List UInt8) (blocks : Nat) : text = text ++ List.replicate (2 ^ 32 * blocks) 0 ↔ blocks = 0 := by
  rw [List.self_eq_append_right, List.replicate_eq_nil_iff]
  omega

theorem longer_padded (shorter longer : List UInt8) (order : shorter.length ≤ longer.length)
    (lengths : shorter.length % 2 ^ 32 = longer.length % 2 ^ 32)
    (bytes : ∀ index < longer.length, shorter.getD index 0 = longer.getD index 0) :
    ∃ blocks, longer = shorter ++ List.replicate (2 ^ 32 * blocks) 0 := by
  refine ⟨(longer.length - shorter.length) / 2 ^ 32, equal_by_get _ _ ?_ ?_⟩
  · rw [List.length_append, List.length_replicate]
    omega
  · intro index inside
    rw [padded_get]
    exact (bytes index inside).symm

-- The difference of the lengths is cut to 32 bits, and bytes that are missing
-- compare as zero: a text also matches itself with a multiple of 4 GiB of zero
-- bytes behind it.
theorem constant_time_padded (actual expected : List UInt8) : constantTimeEqualBytes actual expected = true ↔
    ∃ blocks, expected = actual ++ List.replicate (2 ^ 32 * blocks) 0 ∨ actual = expected ++ List.replicate (2 ^ 32 * blocks) 0 := by
  rw [constant_time_iff]
  constructor
  · rintro ⟨lengths, bytes⟩
    by_cases order : actual.length ≤ expected.length
    · obtain ⟨blocks, padded⟩ := longer_padded actual expected order lengths fun index inside => bytes index (by omega)
      exact ⟨blocks, .inl padded⟩
    · obtain ⟨blocks, padded⟩ := longer_padded expected actual (by omega) lengths.symm
        fun index inside => (bytes index (by omega)).symm
      exact ⟨blocks, .inr padded⟩
  · rintro ⟨blocks, rfl | rfl⟩
    · rw [List.length_append, List.length_replicate, Nat.add_mul_mod_self_left]
      exact ⟨rfl, fun index _ => (padded_get actual _ index).symm⟩
    · rw [List.length_append, List.length_replicate, Nat.add_mul_mod_self_left]
      exact ⟨rfl, fun index _ => padded_get expected _ index⟩

-- The longer text has at least 4 GiB when it is not the shorter one itself.
theorem constant_time_below (actual expected : List UInt8) (actualShort : actual.length < 2 ^ 32)
    (expectedShort : expected.length < 2 ^ 32) : constantTimeEqualBytes actual expected = true ↔ actual = expected := by
  rw [constant_time_padded]
  constructor
  · rintro ⟨blocks, rfl | rfl⟩
    · rw [List.length_append, List.length_replicate] at expectedShort
      exact (padding_none actual blocks).mpr (by omega)
    · rw [List.length_append, List.length_replicate] at actualShort
      exact ((padding_none expected blocks).mpr (by omega)).symm
  · rintro rfl
    exact ⟨0, .inl ((padding_none actual 0).mpr rfl)⟩

theorem constant_time_short (actual expected : List UInt8) (short : actual.length < 256) :
    constantTimeEqualBytes actual expected = true ↔
      ∃ blocks, expected = actual ++ List.replicate (2 ^ 32 * blocks) 0 := by
  rw [constant_time_padded]
  constructor
  · rintro ⟨blocks, padded | rfl⟩
    · exact ⟨blocks, padded⟩
    · rw [List.length_append, List.length_replicate] at short
      obtain rfl : blocks = 0 := by omega
      exact ⟨0, by simp only [Nat.mul_zero, List.replicate_zero, List.append_nil]⟩
  · rintro ⟨blocks, padded⟩
    exact ⟨blocks, .inl padded⟩

-- The bytes that a header of the Basic scheme carries.
def BasicPayload (header : String) (bytes : List UInt8) : Prop :=
  ∃ scheme payload, trimSpace header.toList = scheme ++ ' ' :: payload ∧ equalFold (String.ofList scheme) "Basic" = true ∧
    decodeBase64 (trimSpace payload) = some bytes

def expectedPayload (credentials : Credentials) : List UInt8 := bytesOf (credentials.username ++ ":" ++ credentials.password)

theorem basic_header_iff (credentials : Credentials) (header : String) :
    BasicHeader credentials header ↔ BasicPayload header (expectedPayload credentials) := Iff.rfl

theorem basic_scheme_plain (scheme : List Char) (basic : equalFold (String.ofList scheme) "Basic" = true) : ' ' ∉ scheme := by
  intro member
  have folded : scheme.map foldRune = "basic".toList := by
    rw [equalFold, decide_eq_true_eq, String.toList_ofList] at basic
    exact basic
  have space : foldRune ' ' ∈ scheme.map foldRune := List.mem_map_of_mem member
  rw [folded] at space
  exact absurd space (by decide)

theorem basic_cut (scheme payload text : List Char) (basic : equalFold (String.ofList scheme) "Basic" = true) :
    cut [' '] text = some (scheme, payload) ↔ text = scheme ++ ' ' :: payload := by
  constructor
  · exact cut_parts ' ' [] text scheme payload
  · rintro rfl
    exact cut_found ' ' [] scheme payload (basic_scheme_plain scheme basic)

theorem basic_payload_unique (header : String) (left right : List UInt8) (first : BasicPayload header left)
    (second : BasicPayload header right) : left = right := by
  obtain ⟨scheme, payload, whole, basic, decoded⟩ := first
  obtain ⟨otherScheme, otherPayload, other, otherBasic, otherDecoded⟩ := second
  have same := (basic_cut scheme payload _ basic).mpr whole
  rw [(basic_cut otherScheme otherPayload _ otherBasic).mpr other] at same
  cases same
  exact Option.some.inj (decoded.symm.trans otherDecoded)

theorem authenticate_iff (header : String) (credentials : Credentials) :
    authenticateHTTPProxy header (some credentials) = true ↔
      ∃ bytes, BasicPayload header bytes ∧ constantTimeEqualBytes bytes (expectedPayload credentials) = true := by
  constructor
  · intro accepted
    rw [authenticateHTTPProxy] at accepted
    by_cases empty : trimSpace header.toList = []
    · simp [empty] at accepted
    · simp only [if_neg empty] at accepted
      cases parts : cut [' '] (trimSpace header.toList) with
      | none => simp [parts] at accepted
      | some found =>
          obtain ⟨scheme, payload⟩ := found
          simp only [parts] at accepted
          cases basic : equalFold (String.ofList scheme) "Basic" with
          | false => simp [basic] at accepted
          | true =>
              simp only [basic, Bool.true_eq_false, if_false] at accepted
              cases decoded : decodeBase64 (trimSpace payload) with
              | none => simp [decoded] at accepted
              | some bytes =>
                  simp only [decoded] at accepted
                  exact ⟨bytes, ⟨scheme, payload, (basic_cut scheme payload _ basic).mp parts, basic, decoded⟩, accepted⟩
  · rintro ⟨bytes, ⟨scheme, payload, whole, basic, decoded⟩, equal⟩
    have parts := (basic_cut scheme payload _ basic).mpr whole
    have some : trimSpace header.toList ≠ [] := by
      rw [whole]
      simp
    simp only [authenticateHTTPProxy, if_neg some, parts, basic, Bool.true_eq_false, if_false, decoded]
    exact equal

-- One of the two texts is the other with 4 GiB of zero bytes, or a multiple of
-- that, behind it.
def ZeroPadded (left right : List UInt8) : Prop :=
  ∃ blocks, blocks ≠ 0 ∧ (right = left ++ List.replicate (2 ^ 32 * blocks) 0 ∨ left = right ++ List.replicate (2 ^ 32 * blocks) 0)

theorem zero_padded_differ (left right : List UInt8) (padded : ZeroPadded left right) : left ≠ right := by
  obtain ⟨blocks, some, rfl | rfl⟩ := padded
  · intro same
    exact some ((padding_none left blocks).mp same)
  · intro same
    exact some ((padding_none right blocks).mp same.symm)

theorem constant_time_cases (actual expected : List UInt8) :
    constantTimeEqualBytes actual expected = true ↔ actual = expected ∨ ZeroPadded actual expected := by
  rw [constant_time_padded]
  constructor
  · rintro ⟨blocks, padded⟩
    by_cases none : blocks = 0
    · rw [none, Nat.mul_zero, List.replicate_zero, List.append_nil, List.append_nil] at padded
      exact .inl (padded.elim Eq.symm id)
    · exact .inr ⟨blocks, none, padded⟩
  · rintro (rfl | ⟨blocks, _, padded⟩)
    · exact ⟨0, .inl ((padding_none actual 0).mpr rfl)⟩
    · exact ⟨blocks, padded⟩

theorem credential_comparison_exact_iff (header : String) (credentials : Credentials) :
    (∀ actual expected : List UInt8, actual.length < 2 ^ 31 → expected.length < 2 ^ 31 →
      (constantTimeEqualBytes actual expected = true ↔ actual = expected)) ∧
    ((authenticateHTTPProxy header (some credentials) = true ↔ BasicHeader credentials header) ↔
      ∀ bytes, BasicPayload header bytes → ¬ ZeroPadded bytes (expectedPayload credentials)) := by
  constructor
  · intro actual expected actualShort expectedShort
    exact constant_time_below actual expected (by omega) (by omega)
  · rw [authenticate_iff, basic_header_iff]
    constructor
    · intro exactly bytes carried padded
      have equal := (constant_time_cases bytes (expectedPayload credentials)).mpr (.inr padded)
      have own := exactly.mp ⟨bytes, carried, equal⟩
      exact zero_padded_differ _ _ padded (basic_payload_unique header _ _ carried own)
    · intro unpadded
      constructor
      · rintro ⟨bytes, carried, equal⟩
        rcases (constant_time_cases bytes (expectedPayload credentials)).mp equal with rfl | padded
        · exact carried
        · exact absurd padded (unpadded bytes carried)
      · intro carried
        exact ⟨_, carried, (constant_time_cases _ _).mpr (.inl rfl)⟩

theorem padded_text_bytes (text : List Char) (count : Nat) :
    bytesOf (String.ofList (text ++ List.replicate count '\x00')) = bytesOf (String.ofList text) ++ List.replicate count 0 := by
  have zero : String.utf8EncodeChar '\x00' = [0] := by decide
  rw [bytes_of_list, bytes_of_list, List.flatMap_append, List.flatMap_replicate, zero, List.flatten_replicate_singleton]

def zeroPassword : Credentials := ⟨"a", String.ofList ([] ++ List.replicate (2 ^ 32 * 1) '\x00')⟩

-- The header carries a colon behind the name and no password at all.
theorem zero_password_not_needed :
    authenticateHTTPProxy "Basic YTo=" (some zeroPassword) = true ∧ ¬ BasicHeader zeroPassword "Basic YTo=" := by
  have name : bytesOf ("a" ++ ":") = [97, 58] := by decide
  have nothing : bytesOf (String.ofList []) = [] := by decide
  have expected : expectedPayload zeroPassword = [97, 58] ++ List.replicate (2 ^ 32 * 1) 0 := by
    rw [expectedPayload, zeroPassword, bytes_append, padded_text_bytes, name, nothing, List.nil_append]
  have carried : BasicPayload "Basic YTo=" [97, 58] := ⟨"Basic".toList, "YTo=".toList, by decide, by decide, by decide⟩
  have padded : ZeroPadded [97, 58] (expectedPayload zeroPassword) := ⟨1, by decide, .inl expected⟩
  refine ⟨?_, ?_⟩
  · exact (authenticate_iff _ _).mpr ⟨[97, 58], carried, (constant_time_cases _ _).mpr (.inr padded)⟩
  · intro basic
    exact zero_padded_differ _ _ padded (basic_payload_unique _ _ _ carried basic)

end WarpStream
