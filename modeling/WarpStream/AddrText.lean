import Mathlib.Data.List.Basic
import Mathlib.Data.Nat.Digits.Defs
import WarpStream.GoAddr
import WarpStream.GoText

set_option autoImplicit false

namespace GoAddr

theorem digit_char (digit : Nat) (small : digit < 10) :
    digit.digitChar.isDigit = true ∧ digit.digitChar.toNat - '0'.toNat = digit := by
  have checked : ∀ digit < 10, digit.digitChar.isDigit = true ∧ digit.digitChar.toNat - '0'.toNat = digit := by decide
  exact checked digit small

section

variable (octets : List UInt8) (rest : List Char)

theorem parse_first_digit (digit : Nat) (small : digit < 10) :
    parseOctets octets none (digit.digitChar :: rest) = parseOctets octets (some digit) rest := by
  obtain ⟨numeral, value⟩ := digit_char digit small
  simp only [parseOctets, numeral, if_true, value]

theorem parse_next_digit (before digit : Nat) (small : digit < 10) (leads : before ≠ 0) (fits : before * 10 + digit < 256) :
    parseOctets octets (some before) (digit.digitChar :: rest) = parseOctets octets (some (before * 10 + digit)) rest := by
  obtain ⟨numeral, value⟩ := digit_char digit small
  have within : ¬ (before = 0 ∨ 255 < before * 10 + digit) := by omega
  simp only [parseOctets, numeral, if_true, value, if_neg within]

theorem parse_octet (byte : UInt8) :
    parseOctets octets none (Nat.toDigits 10 byte.toNat ++ rest) = parseOctets octets (some byte.toNat) rest := by
  have bound := byte.toNat_lt
  by_cases one : byte.toNat < 10
  · rw [Nat.toDigits_of_lt_base one]
    exact parse_first_digit octets rest _ one
  · rw [Nat.toDigits_of_base_le (by decide) (by omega)]
    have last : byte.toNat / 10 * 10 + byte.toNat % 10 = byte.toNat := by omega
    by_cases two : byte.toNat / 10 < 10
    · rw [Nat.toDigits_of_lt_base two, List.append_assoc, List.singleton_append, List.singleton_append,
        parse_first_digit octets _ _ two, parse_next_digit octets rest _ _ (by omega) (by omega) (by omega), last]
    · have tens : byte.toNat / 10 / 10 * 10 + byte.toNat / 10 % 10 = byte.toNat / 10 := by omega
      rw [Nat.toDigits_of_base_le (by decide) (by omega), Nat.toDigits_of_lt_base (by omega), List.append_assoc, List.append_assoc,
        List.singleton_append, List.singleton_append, List.singleton_append, parse_first_digit octets _ _ (by omega),
        parse_next_digit octets _ _ _ (by omega) (by omega) (by omega), tens,
        parse_next_digit octets rest _ _ (by omega) (by omega) (by omega), last]

theorem parse_dot (value : Nat) (few : octets.length ≠ 3) :
    parseOctets octets (some value) ('.' :: rest) = parseOctets (octets ++ [UInt8.ofNat value]) none rest := by
  have mark : Char.isDigit '.' = false := by decide
  simp only [parseOctets, mark, Bool.false_eq_true, if_false, if_true, if_neg few]

end

theorem parse_ipv4_text (ip : IP) (four : ip.length = 4) : parseIPv4 (ipv4Text ip) = some ip := by
  match ip, four with
  | [a, b, c, d], _ =>
      have text : ipv4Text [a, b, c, d] = Nat.toDigits 10 a.toNat ++ '.' :: (Nat.toDigits 10 b.toNat ++ '.' ::
          (Nat.toDigits 10 c.toNat ++ '.' :: (Nat.toDigits 10 d.toNat ++ []))) := by
        simp [ipv4Text, List.intercalate]
      rw [parseIPv4, text, parse_octet, parse_dot _ _ _ (by decide), parse_octet, parse_dot _ _ _ (by simp), parse_octet,
        parse_dot _ _ _ (by simp), parse_octet]
      simp [parseOctets]

theorem hex_value_char (digit : Nat) (small : digit < 16) : hexValue digit.digitChar = some digit := by
  have checked : ∀ digit < 16, hexValue digit.digitChar = some digit := by decide
  exact checked digit small

theorem hex_digits_cons (digit : Nat) (small : digit < 16) (rest : List Char) :
    hexDigits (digit.digitChar :: rest) = digit :: hexDigits rest := by
  rw [hexDigits, hex_value_char digit small]

theorem hex_digits_text (value : Nat) : ∀ rest, ∃ digits, hexDigits (hexText value ++ rest) = digits ++ hexDigits rest ∧
    digits.length = (hexText value).length ∧ digits.foldl (fun acc digit => acc * 16 + digit) 0 = value := by
  induction value using Nat.strongRecOn with
  | ind value ih =>
      intro rest
      by_cases small : value < 16
      · refine ⟨[value], ?_, ?_, by simp⟩
        · rw [hexText, Nat.toDigits_of_lt_base small, List.singleton_append, hex_digits_cons value small, List.singleton_append]
        · rw [hexText, Nat.toDigits_of_lt_base small]
          rfl
      · have last : value % 16 < 16 := Nat.mod_lt _ (by decide)
        obtain ⟨digits, read, length, sum⟩ := ih (value / 16) (by omega) ((value % 16).digitChar :: rest)
        have text : hexText value = hexText (value / 16) ++ [(value % 16).digitChar] := Nat.toDigits_of_base_le (by decide) (by omega)
        refine ⟨digits ++ [value % 16], ?_, ?_, ?_⟩
        · rw [text, List.append_assoc, List.singleton_append, read, hex_digits_cons _ last, List.append_assoc, List.singleton_append]
        · rw [text, List.length_append, List.length_append, length]
          rfl
        · rw [List.foldl_append, sum]
          simp only [List.foldl_cons, List.foldl_nil]
          omega

-- What comes behind a group: the end, or a colon.
def Stops (rest : List Char) : Prop := rest = [] ∨ rest.head? = some ':'

theorem stops_digits (rest : List Char) (stops : Stops rest) : hexDigits rest = [] ∧ rest.head? ≠ some '.' := by
  rcases stops with rfl | colon
  · exact ⟨rfl, by simp⟩
  · obtain ⟨tail, rfl⟩ := List.head?_eq_some_iff.mp colon
    refine ⟨?_, by simp⟩
    rw [hexDigits, (by decide : hexValue ':' = none)]

theorem hex_text_head (value : Nat) : ∃ first rest, hexText value = first :: rest ∧ first ≠ ':' := by
  have digits : ∀ digit < 16, digit.digitChar ≠ ':' := by decide
  induction value using Nat.strongRecOn with
  | ind value ih =>
      by_cases small : value < 16
      · exact ⟨_, _, Nat.toDigits_of_lt_base small, digits value small⟩
      · obtain ⟨first, rest, text, other⟩ := ih (value / 16) (by omega)
        have whole : hexText value = hexText (value / 16) ++ [(value % 16).digitChar] := Nat.toDigits_of_base_le (by decide) (by omega)
        exact ⟨first, _, by rw [whole, text, List.cons_append], other⟩

-- How parseGroups goes on behind a group.
def afterGroup (groups : Nat) (bytes : List UInt8) (ellipsis : Option Nat) (rest : List Char) : Option (List UInt8 × Option Nat) :=
  match rest with
  | [] => some (bytes, ellipsis)
  | [_] => none
  | first :: second :: tail =>
      if first ≠ ':' then none
      else if second = ':' then
        if ellipsis.isSome then none
        else if tail = [] then some (bytes, some bytes.length)
        else parseGroups groups bytes (some bytes.length) tail
      else parseGroups groups bytes ellipsis (second :: tail)

def encodeGroup (value : Nat) : List UInt8 := [UInt8.ofNat (value / 256), UInt8.ofNat value]

theorem parse_group (groups : Nat) (bytes : List UInt8) (ellipsis : Option Nat) (value : Nat) (rest : List Char)
    (small : value < 65536) (stops : Stops rest) :
    parseGroups (groups + 1) bytes ellipsis (hexText value ++ rest) = afterGroup groups (bytes ++ encodeGroup value) ellipsis rest := by
  obtain ⟨ends, undotted⟩ := stops_digits rest stops
  obtain ⟨digits, read, length, sum⟩ := hex_digits_text value rest
  rw [ends, List.append_nil] at read
  have short : (hexText value).length ≤ 4 := (Nat.length_toDigits_le_iff (by decide) (by decide)).mpr small
  have counted : ¬ (digits = [] ∨ 4 < digits.length) := by
    rintro (none | long)
    · rw [none] at length
      exact absurd length.symm (Nat.ne_of_gt Nat.length_toDigits_pos)
    · omega
  have remaining : (hexText value ++ rest).drop digits.length = rest := List.drop_left' length.symm
  simp only [parseGroups, read, remaining, if_neg counted, if_neg undotted, sum]
  rfl

theorem colon_join_cons (first second : List Char) (others : List (List Char)) :
    colonJoin (first :: second :: others) = first ++ ':' :: colonJoin (second :: others) := by
  simp [colonJoin, List.intercalate]

theorem joined_head (values : List Nat) (some : values ≠ []) (rest : List Char) :
    ∃ first behind, colonJoin (values.map hexText) ++ rest = first :: behind ∧ first ≠ ':' := by
  cases values with
  | nil => exact absurd rfl some
  | cons value others =>
      obtain ⟨first, tail, text, other⟩ := hex_text_head value
      cases others with
      | nil => exact ⟨first, tail ++ rest, by simp [colonJoin, List.intercalate, text], other⟩
      | cons next others =>
          refine ⟨first, tail ++ ':' :: colonJoin ((next :: others).map hexText) ++ rest, ?_, other⟩
          rw [List.map_cons, List.map_cons, colon_join_cons, text, List.cons_append, List.cons_append, ← List.map_cons]

theorem parse_groups_text (front : List Nat) (some : front ≠ []) (bounded : ∀ value ∈ front, value < 65536) (rest : List Char)
    (stops : Stops rest) : ∀ groups bytes ellipsis, front.length ≤ groups →
    parseGroups groups bytes ellipsis (colonJoin (front.map hexText) ++ rest) =
      afterGroup (groups - front.length) (bytes ++ front.flatMap encodeGroup) ellipsis rest := by
  induction front with
  | nil => exact absurd rfl some
  | cons value others ih =>
      intro groups bytes ellipsis room
      obtain ⟨groups, rfl⟩ := Nat.exists_eq_add_of_lt (Nat.lt_of_lt_of_le (Nat.succ_pos _) room)
      obtain ⟨small, bounds⟩ := List.forall_mem_cons.mp bounded
      rw [Nat.zero_add] at room ⊢
      cases others with
      | nil =>
          have text : colonJoin ([value].map hexText) = hexText value := by simp [colonJoin, List.intercalate]
          rw [text, parse_group groups bytes ellipsis value rest small stops, List.flatMap_singleton]
          rfl
      | cons next others =>
          have room : (next :: others).length ≤ groups := Nat.le_of_succ_le_succ room
          obtain ⟨first, behind, joined, other⟩ := joined_head (next :: others) (by simp) rest
          have step := ih (by simp) bounds groups (bytes ++ encodeGroup value) ellipsis room
          rw [List.map_cons, List.map_cons, colon_join_cons, List.append_assoc, List.cons_append, ← List.map_cons, joined,
            parse_group groups bytes ellipsis value _ small (.inr rfl)]
          have continues : afterGroup groups (bytes ++ encodeGroup value) ellipsis (':' :: first :: behind) =
              parseGroups groups (bytes ++ encodeGroup value) ellipsis (first :: behind) := by
            simp only [afterGroup, ne_eq, not_true_eq_false, if_false, if_neg other]
          have count : groups + 1 - (value :: next :: others).length = groups - (next :: others).length :=
            Nat.add_sub_add_right groups 1 _
          have encoded : (value :: next :: others).flatMap encodeGroup = encodeGroup value ++ (next :: others).flatMap encodeGroup :=
            List.flatMap_cons
          rw [continues, ← joined, step, count, encoded, List.append_assoc]

theorem joined_present (values : List Nat) (some : values ≠ []) : colonJoin (values.map hexText) ≠ [] := by
  obtain ⟨first, behind, joined, _⟩ := joined_head values some []
  rw [List.append_nil] at joined
  simp [joined]

theorem parse_joined (values : List Nat) (present : values ≠ []) (bounded : ∀ value ∈ values, value < 65536) (groups : Nat)
    (bytes : List UInt8) (ellipsis : Option Nat) (room : values.length ≤ groups) :
    parseGroups groups bytes ellipsis (colonJoin (values.map hexText)) = some (bytes ++ values.flatMap encodeGroup, ellipsis) := by
  have parsed := parse_groups_text values present bounded [] (.inl rfl) groups bytes ellipsis room
  rwa [List.append_nil] at parsed

theorem after_ellipsis (groups : Nat) (bytes : List UInt8) (back : List Nat) (bounded : ∀ value ∈ back, value < 65536)
    (room : back.length ≤ groups) : afterGroup groups bytes none (':' :: ':' :: colonJoin (back.map hexText)) =
      some (bytes ++ back.flatMap encodeGroup, some bytes.length) := by
  by_cases none : back = []
  · subst none
    simp [afterGroup, colonJoin, List.intercalate]
  · simp only [afterGroup, ne_eq, not_true_eq_false, if_false, if_true, Option.isSome_none, Bool.false_eq_true,
      if_neg (joined_present back none), parse_joined back none bounded groups bytes (some bytes.length) room]

theorem encode_group (high low : UInt8) : encodeGroup (high.toNat * 256 + low.toNat) = [high, low] := by
  have bound := low.toNat_lt
  have quotient : (high.toNat * 256 + low.toNat) / 256 = high.toNat := by omega
  have remainder : UInt8.ofNat (high.toNat * 256 + low.toNat) = low := by
    apply UInt8.toNat.inj
    rw [UInt8.toNat_ofNat']
    omega
  rw [encodeGroup, quotient, remainder, UInt8.ofNat_toNat]

def groupsOf (ip : IP) : List Nat := (List.range 8).map (group ip)

theorem encode_groups (ip : IP) (sixteen : ip.length = 16) : (groupsOf ip).flatMap encodeGroup = ip := by
  match ip, sixteen with
  | [a, b, c, d, e, f, g, h, i, j, k, l, m, n, o, p], _ =>
      have groups : groupsOf [a, b, c, d, e, f, g, h, i, j, k, l, m, n, o, p] = [a.toNat * 256 + b.toNat, c.toNat * 256 + d.toNat,
          e.toNat * 256 + f.toNat, g.toNat * 256 + h.toNat, i.toNat * 256 + j.toNat, k.toNat * 256 + l.toNat,
          m.toNat * 256 + n.toNat, o.toNat * 256 + p.toNat] := rfl
      simp only [groups, List.flatMap_cons, List.flatMap_nil, encode_group, List.cons_append, List.nil_append]

theorem groups_bounded (ip : IP) : ∀ value ∈ groupsOf ip, value < 65536 := by
  intro value member
  obtain ⟨index, _, rfl⟩ := List.mem_map.mp member
  have high := (ip.getD (2 * index) 0).toNat_lt
  have low := (ip.getD (2 * index + 1) 0).toNat_lt
  rw [group]
  omega

theorem zero_run_zero (ip : IP) (left index : Nat) :
    zeroRun ip left index ≤ left ∧ ∀ offset, offset < zeroRun ip left index → group ip (index + offset) = 0 := by
  induction left generalizing index with
  | zero => exact ⟨Nat.le_refl _, fun _ less => absurd less (Nat.not_lt_zero _)⟩
  | succ left ih =>
      rw [zeroRun]
      by_cases zero : group ip index = 0
      · obtain ⟨short, zeros⟩ := ih (index + 1)
        rw [if_pos zero]
        refine ⟨Nat.succ_le_succ short, fun offset less => ?_⟩
        cases offset with
        | zero => exact zero
        | succ offset =>
            have later := zeros offset (Nat.lt_of_succ_lt_succ less)
            rwa [Nat.add_right_comm] at later
      · rw [if_neg zero]
        exact ⟨Nat.zero_le _, fun _ less => absurd less (Nat.not_lt_zero _)⟩

-- A run of zero groups inside the address.
structure ZeroRun (ip : IP) (start length : Nat) : Prop where
  positive : 0 < length
  within : start + length ≤ 8
  zeros : ∀ offset, offset < length → group ip (start + offset) = 0

theorem longest_zero_run (ip : IP) (start length : Nat) (found : longestZeroRun ip = some (start, length)) :
    ZeroRun ip start length := by
  have folded : ∀ indices : List Nat, (∀ index ∈ indices, index < 8) → ∀ best : Option (Nat × Nat),
      (∀ start length, best = some (start, length) → ZeroRun ip start length) →
      ∀ start length, indices.foldl (fun best index =>
        if 2 ≤ zeroRun ip (8 - index) index ∧ (best.map (·.2)).getD 0 < zeroRun ip (8 - index) index then
          some (index, zeroRun ip (8 - index) index) else best) best = some (start, length) → ZeroRun ip start length := by
    intro indices
    induction indices with
    | nil => exact fun _ _ holds => holds
    | cons index others ih =>
        intro below best holds
        obtain ⟨first, rest⟩ := List.forall_mem_cons.mp below
        refine ih rest _ fun start length chosen => ?_
        dsimp only at chosen
        split at chosen
        · rename_i longer
          obtain ⟨rfl, rfl⟩ := Prod.mk.inj (Option.some.inj chosen)
          obtain ⟨short, zeros⟩ := zero_run_zero ip (8 - index) index
          exact ⟨by omega, by omega, zeros⟩
        · exact holds start length chosen
  exact folded (List.range 8) (fun index member => List.mem_range.mp member) none (by rintro _ _ ⟨⟩) start length found

theorem groups_length (ip : IP) : (groupsOf ip).length = 8 := by
  rw [groupsOf, List.length_map, List.length_range]

theorem run_groups (ip : IP) (start length : Nat) (run : ZeroRun ip start length) :
    groupsOf ip = (groupsOf ip).take start ++ (List.replicate length 0 ++ (groupsOf ip).drop (start + length)) := by
  have middle : ((groupsOf ip).drop start).take length = List.replicate length 0 := by
    apply List.ext_getElem?
    intro offset
    have within := run.within
    rw [List.getElem?_take, List.getElem?_drop, List.getElem?_replicate]
    split
    · rename_i less
      rw [groupsOf, List.getElem?_map, List.getElem?_range (by omega), Option.map_some, run.zeros offset less]
    · rfl
  rw [← middle, ← List.drop_drop, List.take_append_drop, List.take_append_drop]

theorem encode_zeros (length : Nat) : (List.replicate length 0).flatMap encodeGroup = List.replicate (2 * length) 0 := by
  induction length with
  | zero => rfl
  | succ length ih =>
      rw [List.replicate_succ, List.flatMap_cons, ih, Nat.mul_succ, Nat.add_comm, List.replicate_add]
      rfl

theorem encode_length (values : List Nat) : (values.flatMap encodeGroup).length = 2 * values.length := by
  induction values with
  | nil => rfl
  | cons value others ih =>
      rw [List.flatMap_cons, List.length_append, ih, List.length_cons, Nat.mul_succ, Nat.add_comm]
      rfl

theorem expand_run (ip : IP) (sixteen : ip.length = 16) (start length : Nat) (run : ZeroRun ip start length) :
    expandEllipsis (((groupsOf ip).take start).flatMap encodeGroup ++ ((groupsOf ip).drop (start + length)).flatMap encodeGroup,
      some (2 * start)) = some ip := by
  have positive := run.positive
  have within := run.within
  have front : (((groupsOf ip).take start).flatMap encodeGroup).length = 2 * start := by
    rw [encode_length, List.length_take, groups_length]
    omega
  have count : (((groupsOf ip).take start).flatMap encodeGroup ++
      ((groupsOf ip).drop (start + length)).flatMap encodeGroup).length = 16 - 2 * length := by
    rw [List.length_append, front, encode_length, List.length_drop, groups_length]
    omega
  have less : 16 - 2 * length < 16 := by omega
  have missing : 16 - (16 - 2 * length) = 2 * length := by omega
  have whole := encode_groups ip sixteen
  rw [run_groups ip start length run, List.flatMap_append, List.flatMap_append, encode_zeros] at whole
  rw [expandEllipsis, count, if_pos less, missing, List.take_left' front, List.drop_left' front, List.append_assoc, whole]

theorem hex_texts (ip : IP) : (List.range 8).map (fun index => hexText (group ip index)) = (groupsOf ip).map hexText := by
  rw [groupsOf, List.map_map]
  rfl

theorem parse_ipv6_plain (first : Char) (rest : List Char) (other : first ≠ ':') :
    parseIPv6 (first :: rest) = (parseGroups 8 [] none (first :: rest)).bind expandEllipsis := by
  unfold parseIPv6
  split
  · rename_i same
    exact absurd (List.cons.inj same).1 other
  · rename_i same
    exact absurd (List.cons.inj same).1 other
  · rfl

theorem parse_ipv6_leading (rest : List Char) (present : rest ≠ []) :
    parseIPv6 (':' :: ':' :: rest) = (parseGroups 8 [] (some 0) rest).bind expandEllipsis := by
  cases rest with
  | nil => exact absurd rfl present
  | cons => rfl

theorem parse_ipv6_text (ip : IP) (sixteen : ip.length = 16) : parseIPv6 (ipv6Text ip) = some ip := by
  have bounded := groups_bounded ip
  have length := groups_length ip
  rw [ipv6Text]
  cases found : longestZeroRun ip with
  | none =>
      dsimp only
      have present : groupsOf ip ≠ [] := List.ne_nil_of_length_pos (by omega)
      obtain ⟨first, behind, joined, other⟩ := joined_head (groupsOf ip) present []
      rw [List.append_nil] at joined
      rw [hex_texts, joined, parse_ipv6_plain first behind other, ← joined, parse_joined _ present bounded 8 [] none (Nat.le_of_eq length),
        List.nil_append, encode_groups ip sixteen]
      simp only [Option.bind_some, expandEllipsis, sixteen, if_true]
  | some run =>
      obtain ⟨start, count⟩ := run
      have run := longest_zero_run ip start count found
      have within := run.within
      have positive := run.positive
      dsimp only
      rw [hex_texts, ← List.map_take, ← List.map_drop, List.append_assoc]
      have expanded := expand_run ip sixteen start count run
      have frontBounded : ∀ value ∈ (groupsOf ip).take start, value < 65536 := fun value member => bounded value (List.mem_of_mem_take member)
      have backBounded : ∀ value ∈ (groupsOf ip).drop (start + count), value < 65536 :=
        fun value member => bounded value (List.mem_of_mem_drop member)
      have backShort : ((groupsOf ip).drop (start + count)).length ≤ 8 - start := by
        rw [List.length_drop, length]
        omega
      generalize (groupsOf ip).drop (start + count) = back at expanded backBounded backShort ⊢
      cases start with
      | zero =>
          rw [List.take_zero, List.flatMap_nil, List.nil_append] at expanded
          rw [List.take_zero]
          cases back with
          | nil => exact expanded
          | cons value others =>
              change parseIPv6 (':' :: ':' :: colonJoin ((value :: others).map hexText)) = some ip
              rw [parse_ipv6_leading _ (joined_present _ (by simp)), parse_joined _ (by simp) backBounded 8 [] (some 0) backShort]
              exact expanded
      | succ start =>
          have front : ((groupsOf ip).take (start + 1)).length = start + 1 := by
            rw [List.length_take, length]
            omega
          generalize (groupsOf ip).take (start + 1) = ahead at expanded frontBounded front ⊢
          have present : ahead ≠ [] := List.ne_nil_of_length_pos (by omega)
          obtain ⟨first, behind, joined, other⟩ := joined_head ahead present (':' :: ':' :: colonJoin (back.map hexText))
          have parsed := parse_groups_text ahead present frontBounded (':' :: ':' :: colonJoin (back.map hexText)) (.inr rfl) 8 [] none
            (by omega)
          have position : (ahead.flatMap encodeGroup).length = 2 * (start + 1) := by rw [encode_length, front]
          change parseIPv6 (colonJoin (ahead.map hexText) ++ ':' :: ':' :: colonJoin (back.map hexText)) = some ip
          rw [joined, parse_ipv6_plain first behind other, ← joined, parsed, front, List.nil_append,
            after_ellipsis _ _ back backBounded backShort, position]
          exact expanded

theorem find_mark (text : List Char) (mark : Char) (marks : mark = '.' ∨ mark = ':' ∨ mark = '%') (present : mark ∈ text)
    (single : ∀ char ∈ text, char = '.' ∨ char = ':' ∨ char = '%' → char = mark) :
    text.find? (fun char => char = '.' ∨ char = ':' ∨ char = '%') = some mark := by
  cases found : text.find? fun char => char = '.' ∨ char = ':' ∨ char = '%' with
  | none => exact absurd (decide_eq_true marks) (List.find?_eq_none.mp found mark present)
  | some char =>
      have test := List.find?_some found
      simp only [decide_eq_true_eq] at test
      rw [single char (List.mem_of_find?_eq_some found) test]

theorem mem_joined (mark : List Char) (texts : List (List Char)) (char : Char) (member : char ∈ mark.intercalate texts) :
    char ∈ mark ∨ ∃ text ∈ texts, char ∈ text := by
  induction texts with
  | nil => simp [List.intercalate] at member
  | cons text others ih =>
      cases others with
      | nil => exact .inr ⟨text, .head _, by simpa [List.intercalate] using member⟩
      | cons next others =>
          have joined : mark.intercalate (text :: next :: others) = text ++ (mark ++ mark.intercalate (next :: others)) := by
            simp [List.intercalate]
          rw [joined] at member
          rcases List.mem_append.mp member with here | later
          · exact .inr ⟨text, .head _, here⟩
          · rcases List.mem_append.mp later with between | behind
            · exact .inl between
            · exact (ih behind).imp_right fun ⟨found, present, inside⟩ => ⟨found, .tail _ present, inside⟩

theorem hex_text_runes (value : Nat) : ∀ char ∈ hexText value, ∃ digit < 16, char = digit.digitChar := by
  induction value using Nat.strongRecOn with
  | ind value ih =>
      intro char member
      by_cases small : value < 16
      · rw [hexText, Nat.toDigits_of_lt_base small, List.mem_singleton] at member
        exact ⟨value, small, member⟩
      · rw [hexText, Nat.toDigits_of_base_le (by decide) (by omega)] at member
        rcases List.mem_append.mp member with before | last
        · exact ih (value / 16) (by omega) char before
        · exact ⟨value % 16, Nat.mod_lt _ (by decide), List.mem_singleton.mp last⟩

theorem ipv6_text_runes (ip : IP) :
    ':' ∈ ipv6Text ip ∧ ∀ char ∈ ipv6Text ip, char = ':' ∨ ∃ digit < 16, char = digit.digitChar := by
  have joined : ∀ values : List Nat, ∀ char ∈ colonJoin (values.map hexText), char = ':' ∨ ∃ digit < 16, char = digit.digitChar := by
    intro values char member
    rcases mem_joined _ _ char member with colon | ⟨text, present, inside⟩
    · exact .inl (List.mem_singleton.mp colon)
    · obtain ⟨value, _, rfl⟩ := List.mem_map.mp present
      exact .inr (hex_text_runes value char inside)
  rw [ipv6Text]
  cases found : longestZeroRun ip with
  | none =>
      dsimp only
      rw [hex_texts]
      refine ⟨?_, joined (groupsOf ip)⟩
      have two : groupsOf ip = group ip 0 :: group ip 1 :: [2, 3, 4, 5, 6, 7].map (group ip) := rfl
      rw [two, List.map_cons, List.map_cons, colon_join_cons]
      exact List.mem_append_right _ (.head _)
  | some run =>
      dsimp only
      rw [hex_texts, ← List.map_take, ← List.map_drop]
      refine ⟨by simp, fun char member => ?_⟩
      rcases List.mem_append.mp member with front | back
      · rcases List.mem_append.mp front with ahead | colons
        · exact joined _ char ahead
        · exact .inl (by simpa using colons)
      · exact joined _ char back

theorem ipv4_text_runes (ip : IP) (four : ip.length = 4) :
    '.' ∈ ipv4Text ip ∧ ∀ char ∈ ipv4Text ip, char = '.' ∨ char.isDigit = true := by
  constructor
  · match ip, four with
    | [a, b, c, d], _ => simp [ipv4Text, List.intercalate]
  · intro char member
    rcases mem_joined _ _ char member with dot | ⟨text, present, inside⟩
    · exact .inl (List.mem_singleton.mp dot)
    · obtain ⟨byte, _, rfl⟩ := List.mem_map.mp present
      exact .inr (Nat.isDigit_of_mem_toDigits (by decide) (by decide) inside)

theorem to4_some (ip four : IP) (short : to4 ip = some four) : four.length = 4 ∧ to16 ip = some (mappedPrefix ++ four) := by
  rw [to4] at short
  split at short
  · rename_i length
    cases short
    exact ⟨length, if_pos length⟩
  · rename_i other
    obtain ⟨⟨sixteen, mapped⟩, rest⟩ := Option.ite_none_right_eq_some.mp short
    cases rest
    refine ⟨by rw [List.length_drop, sixteen], ?_⟩
    rw [to16, if_neg other, if_pos sixteen, ← mapped, List.take_append_drop]

theorem ip_string_bare (ip : IP) : '[' ∉ (ipString ip).toList ∧ ']' ∉ (ipString ip).toList := by
  have digits : ∀ digit < 16, digit.digitChar ≠ '[' ∧ digit.digitChar ≠ ']' := by decide
  rw [ipString]
  cases short : to4 ip with
  | some four =>
      have runes := (ipv4_text_runes four (to4_some ip four short).1).2
      simp only [String.toList_ofList]
      refine ⟨fun member => ?_, fun member => ?_⟩
      · exact absurd (runes _ member) (by decide)
      · exact absurd (runes _ member) (by decide)
  | none =>
      have runes := (ipv6_text_runes ip).2
      simp only [String.toList_ofList]
      refine ⟨fun member => ?_, fun member => ?_⟩
      · rcases runes _ member with colon | ⟨digit, small, same⟩
        · exact absurd colon (by decide)
        · exact (digits digit small).1 same.symm
      · rcases runes _ member with colon | ⟨digit, small, same⟩
        · exact absurd colon (by decide)
        · exact (digits digit small).2 same.symm

theorem parse_ip_string (ip : IP) (sized : ip.length = 4 ∨ ip.length = 16) : parseIP (ipString ip) = to16 ip := by
  rw [ipString]
  cases short : to4 ip with
  | some four =>
      obtain ⟨length, long⟩ := to4_some ip four short
      obtain ⟨present, runes⟩ := ipv4_text_runes four length
      have mark := find_mark (ipv4Text four) '.' (.inl rfl) present fun char member marks => by
        rcases runes char member with dot | digit
        · exact dot
        · rcases marks with rfl | rfl | rfl <;> revert digit <;> decide
      simp only [parseIP, String.toList_ofList, mark, parse_ipv4_text four length, Option.map_some, long]
  | none =>
      have other : ip.length ≠ 4 := by
        intro four
        rw [to4, if_pos four] at short
        cases short
      have sixteen : ip.length = 16 := sized.resolve_left other
      obtain ⟨present, runes⟩ := ipv6_text_runes ip
      have mark := find_mark (ipv6Text ip) ':' (.inr (.inl rfl)) present fun char member marks => by
        rcases runes char member with colon | ⟨digit, small, rfl⟩
        · exact colon
        · have digits : ∀ digit < 16, ¬ (digit.digitChar = '.' ∨ digit.digitChar = ':' ∨ digit.digitChar = '%') := by decide
          exact absurd marks (digits digit small)
      simp only [parseIP, String.toList_ofList, mark, parse_ipv6_text ip sixteen, to16, if_neg other, if_pos sixteen]

end GoAddr

namespace GoText

theorem index_of_first (target : Char) (left right : List Char) (absent : target ∉ left) :
    (left ++ target :: right).idxOf? target = some left.length := by
  induction left with
  | nil => simp [List.idxOf?_cons]
  | cons head left ih =>
      have different : head ≠ target := fun same => absent (same ▸ .head _)
      rw [List.cons_append, List.idxOf?_cons, ih fun member => absent (.tail _ member)]
      simp [different]

theorem last_index_of (target : Char) (left right : List Char) (absent : target ∉ right) :
    lastIndex target (left ++ target :: right) = some left.length := by
  have mirrored : (left ++ target :: right).reverse = right.reverse ++ target :: left.reverse := by simp
  rw [lastIndex, mirrored, index_of_first target _ _ (by simpa using absent), Option.map_some]
  simp only [List.length_append, List.length_cons, List.length_reverse, Option.some.injEq]
  omega

theorem split_finish_plain (text host port : List Char) (afterOpen afterClose colon : Nat) (opens : '[' ∉ text.drop afterOpen)
    (closes : ']' ∉ text.drop afterClose) (behind : text.drop (colon + 1) = port) :
    splitFinish text host afterOpen afterClose colon = .ok (String.ofList host, String.ofList port) := by
  rw [splitFinish, if_neg (by simpa using opens), if_neg (by simpa using closes), behind]

-- The host and the port that JoinHostPort put together come apart again, brackets
-- or not.
theorem split_join_host_port (host port : String) (bare : '[' ∉ host.toList ∧ ']' ∉ host.toList)
    (digits : ':' ∉ port.toList ∧ '[' ∉ port.toList ∧ ']' ∉ port.toList) :
    splitHostPort (joinHostPort host port) = .ok (host, port) := by
  obtain ⟨unopened, unclosed⟩ := bare
  obtain ⟨colonless, portOpen, portClose⟩ := digits
  have result : (.ok (host, port) : Except AddrError (String × String)) =
      .ok (String.ofList host.toList, String.ofList port.toList) := by
    rw [String.ofList_toList, String.ofList_toList]
  rw [splitHostPort, join_host_port_to_list, result]
  generalize host.toList = host at unopened unclosed
  generalize port.toList = port at colonless portOpen portClose
  by_cases colon : ':' ∈ host
  · rw [if_pos colon]
    have shape : '[' :: (host ++ ']' :: ':' :: port) = ('[' :: (host ++ [']'])) ++ ':' :: port := by simp
    have last : lastIndex ':' ('[' :: (host ++ ']' :: ':' :: port)) = some (host.length + 2) := by
      rw [shape, last_index_of ':' _ _ colonless]
      simp
    have close : ('[' :: (host ++ ']' :: ':' :: port)).idxOf? ']' = some (host.length + 1) := by
      have found := index_of_first ']' ('[' :: host) (':' :: port) (by simp [unclosed])
      simpa using found
    have short : host.length + 1 + 1 ≠ ('[' :: (host ++ ']' :: ':' :: port)).length := by
      simp only [List.length_cons, List.length_append]
      omega
    simp only [last, List.head?_cons, if_true, close, if_neg short]
    have inner : (('[' :: (host ++ ']' :: ':' :: port)).take (host.length + 1)).drop 1 = host := by simp
    rw [inner]
    refine split_finish_plain _ host port _ _ _ ?_ ?_ ?_
    · simp [unopened, portOpen]
    · have tail : ('[' :: (host ++ ']' :: ':' :: port)).drop (host.length + 1 + 1) = ':' :: port := by
        rw [shape]
        exact List.drop_left' (by simp)
      rw [tail]
      simp [portClose]
    · have tail : ('[' :: (host ++ ']' :: ':' :: port)) = ('[' :: (host ++ [']', ':'])) ++ port := by simp
      rw [tail]
      exact List.drop_left' (by simp)
  · rw [if_neg colon]
    have last : lastIndex ':' (host ++ ':' :: port) = some host.length := last_index_of ':' _ _ colonless
    have head : (host ++ ':' :: port).head? ≠ some '[' := by
      cases host with
      | nil => simp
      | cons rune rest =>
          intro same
          exact unopened (Option.some.inj same ▸ .head _)
    have front : (host ++ ':' :: port).take host.length = host := List.take_left
    have single : host.contains ':' = false := by simpa using colon
    simp only [last, if_neg head, front, single, Bool.false_eq_true, if_false]
    refine split_finish_plain _ host port _ _ _ (by simp [unopened, portOpen]) (by simp [unclosed, portClose]) ?_
    have tail : host ++ ':' :: port = (host ++ [':']) ++ port := by simp
    rw [tail]
    exact List.drop_left' (by simp)

theorem absent_before (target : Char) (text : List Char) (index : Nat) (found : text.idxOf? target = some index) :
    target ∉ text.take index := by
  induction text generalizing index with
  | nil => simp at found
  | cons head rest ih =>
      rw [List.idxOf?_cons] at found
      split at found
      · cases found
        simp
      · rename_i different
        obtain ⟨before, later, rfl⟩ := Option.map_eq_some_iff.mp found
        rw [List.take_succ_cons, List.mem_cons, not_or]
        exact ⟨fun same => different (by simp [same]), ih before later⟩

-- A host that SplitHostPort has found is bare, whichever way it was written.
theorem split_host_bare (addr host port : String) (split : splitHostPort addr = .ok (host, port)) :
    '[' ∉ host.toList ∧ ']' ∉ host.toList := by
  have finish : ∀ (text inner : List Char) (afterOpen afterClose colon : Nat),
      splitFinish text inner afterOpen afterClose colon = .ok (host, port) →
      host.toList = inner ∧ '[' ∉ text.drop afterOpen ∧ ']' ∉ text.drop afterClose := by
    intro text inner afterOpen afterClose colon finished
    rw [splitFinish] at finished
    split at finished
    · cases finished
    · rename_i opens
      split at finished
      · cases finished
      · rename_i closes
        cases finished
        exact ⟨String.toList_ofList, by simpa using opens, by simpa using closes⟩
  rw [splitHostPort] at split
  split at split
  · cases split
  · split at split
    · split at split
      · cases split
      · rename_i close found
        split at split
        · cases split
        · split at split
          · obtain ⟨inner, opens, _⟩ := finish _ _ _ _ _ split
            rw [inner]
            refine ⟨fun member => opens ?_, fun member => absent_before ']' _ close found (List.mem_of_mem_drop member)⟩
            rw [List.drop_take] at member
            exact List.mem_of_mem_take member
          · split at split <;> cases split
    · split at split
      · cases split
      · obtain ⟨inner, opens, closes⟩ := finish _ _ _ _ _ split
        rw [inner]
        exact ⟨fun member => opens (List.mem_of_mem_take member), fun member => closes (List.mem_of_mem_take member)⟩

end GoText
