import WarpStream.GoText

set_option autoImplicit false

namespace TextBytes

open GoText

def leadingRune (bytes : List UInt8) : Option Char := bytes.toByteArray.utf8DecodeChar? 0

def replacementRune : Char := Char.ofNat 0xFFFD

-- A byte that begins no rune is read as the replacement rune, one for each such byte.
def decodeRunes : Nat → List UInt8 → List Char
  | 0, _ => []
  | _ + 1, [] => []
  | fuel + 1, byte :: rest =>
      match leadingRune (byte :: rest) with
      | some rune => rune :: decodeRunes fuel ((byte :: rest).drop rune.utf8Size)
      | none => replacementRune :: decodeRunes fuel rest

def textOf (bytes : List UInt8) : String := String.ofList (decodeRunes bytes.length bytes)

theorem leading_rune_encoded (rune : Char) (rest : List UInt8) :
    leadingRune (String.utf8EncodeChar rune ++ rest) = some rune := by
  rw [leadingRune, List.toByteArray_append, ← List.utf8Encode_singleton]
  exact List.utf8DecodeChar?_utf8Encode_singleton_append

theorem decode_runes_encoded (text : List Char) (fuel : Nat) (enough : text.length ≤ fuel) :
    decodeRunes fuel (text.flatMap String.utf8EncodeChar) = text := by
  induction text generalizing fuel with
  | nil => cases fuel <;> rfl
  | cons rune rest ih =>
      obtain ⟨less, rfl⟩ : ∃ less, fuel = less + 1 := ⟨fuel - 1, by simp at enough; omega⟩
      rw [List.flatMap_cons]
      have positive : 0 < (String.utf8EncodeChar rune).length := by
        rw [String.length_utf8EncodeChar]
        exact rune.utf8Size_pos
      obtain ⟨byte, behind, parts⟩ := List.exists_cons_of_ne_nil (List.ne_nil_of_length_pos positive)
      have leads := leading_rune_encoded rune (rest.flatMap String.utf8EncodeChar)
      have skips : (String.utf8EncodeChar rune ++ rest.flatMap String.utf8EncodeChar).drop rune.utf8Size =
          rest.flatMap String.utf8EncodeChar := by
        rw [← String.length_utf8EncodeChar rune, List.drop_left]
      rw [parts, List.cons_append] at leads skips ⊢
      simp only [decodeRunes, leads, skips]
      rw [ih less (Nat.le_of_succ_le_succ enough)]

theorem text_of_bytes (text : String) : textOf (bytesOf text) = text := by
  have bytes := bytes_of_list text.toList
  rw [String.ofList_toList] at bytes
  have longer : ∀ runes : List Char, runes.length ≤ (runes.flatMap String.utf8EncodeChar).length := by
    intro runes
    induction runes with
    | nil => exact Nat.le_refl 0
    | cons rune rest ih =>
        rw [List.flatMap_cons, List.length_append, String.length_utf8EncodeChar, List.length_cons]
        have positive := rune.utf8Size_pos
        omega
  rw [textOf, bytes, decode_runes_encoded text.toList _ (longer text.toList), String.ofList_toList]

theorem split_part_plain {α : Type} [BEq α] [LawfulBEq α] (separator : α) (text part : List α)
    (member : part ∈ text.splitOn separator) : separator ∉ part := by
  induction text generalizing part with
  | nil =>
      rw [List.splitOn_nil, List.mem_singleton] at member
      rw [member]
      exact List.not_mem_nil
  | cons rune rest ih =>
      rw [List.splitOn, List.splitOnP_cons_eq_if_modifyHead] at member
      split at member
      · rcases List.mem_cons.mp member with rfl | later
        · exact List.not_mem_nil
        · exact ih part later
      · rename_i different
        cases parts : rest.splitOn separator with
        | nil => exact absurd parts (List.splitOnP_ne_nil _ _)
        | cons first others =>
            rw [show rest.splitOnP (fun x => x == separator) = first :: others from parts, List.modifyHead_cons] at member
            rcases List.mem_cons.mp member with rfl | later
            · rintro (_ | ⟨_, inside⟩)
              · exact different (beq_self_eq_true _)
              · exact ih first (by rw [parts]; exact .head _) inside
            · exact ih part (by rw [parts]; exact .tail _ later)

theorem split_parts_iff {α : Type} [BEq α] [LawfulBEq α] (separator : α) (text : List α) (parts : List (List α)) (some : parts ≠ []) :
    text.splitOn separator = parts ↔ text = [separator].intercalate parts ∧ ∀ part ∈ parts, separator ∉ part := by
  constructor
  · rintro rfl
    exact ⟨(List.intercalate_splitOn separator).symm, split_part_plain separator text⟩
  · rintro ⟨rfl, plain⟩
    exact List.splitOn_intercalate separator plain some

theorem base64_rune_mem (sextet : Nat) : base64Rune sextet ∈ '=' :: base64Alphabet := by
  rw [base64Rune, List.getD_eq_getElem?_getD]
  cases found : base64Alphabet[sextet % 64]? with
  | none => exact .head _
  | some rune => exact .tail _ (List.mem_of_getElem? found)

theorem base64_runes (bytes : List UInt8) (rune : Char) (member : rune ∈ encodeBase64 bytes) : rune ∈ '=' :: base64Alphabet := by
  have alphabet := base64_rune_mem
  induction bytes using encodeBase64.induct with
  | case1 => cases member
  | case2 first =>
      simp only [encodeBase64, List.mem_cons, List.not_mem_nil, or_false] at member
      rcases member with rfl | rfl | rfl | rfl
      · exact alphabet _
      · exact alphabet _
      · exact .head _
      · exact .head _
  | case3 first second =>
      simp only [encodeBase64, List.mem_cons, List.not_mem_nil, or_false] at member
      rcases member with rfl | rfl | rfl | rfl
      · exact alphabet _
      · exact alphabet _
      · exact alphabet _
      · exact .head _
  | case4 first second third rest ih =>
      simp only [encodeBase64, List.mem_cons] at member
      rcases member with rfl | rfl | rfl | rfl | later
      · exact alphabet _
      · exact alphabet _
      · exact alphabet _
      · exact alphabet _
      · exact ih later

end TextBytes
