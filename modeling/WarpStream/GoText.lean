import Mathlib.Algebra.Group.Nat.Defs

set_option autoImplicit false

namespace GoText

-- Text is a sequence of code points: the strings below come from decoded JSON,
-- YAML and flags. Every separator searched for is ASCII, so a position in the
-- code points and a byte offset of the library select the same substrings.

def hasChar (target : Char) (text : String) : Bool := text.toList.contains target

def joinHostPort (host port : String) : String :=
  if hasChar ':' host then "[" ++ host ++ "]:" ++ port else host ++ ":" ++ port

inductive AddrError where
  | missingPort
  | tooManyColons
  | missingBracket
  | unexpectedOpen
  | unexpectedClose
deriving DecidableEq, Repr

def AddrError.text : AddrError → String
  | .missingPort => "missing port in address"
  | .tooManyColons => "too many colons in address"
  | .missingBracket => "missing ']' in address"
  | .unexpectedOpen => "unexpected '[' in address"
  | .unexpectedClose => "unexpected ']' in address"

def AddrError.message (addr : String) (error : AddrError) : String :=
  if addr = "" then error.text else "address " ++ addr ++ ": " ++ error.text

def lastIndex (target : Char) (text : List Char) : Option Nat :=
  (text.reverse.idxOf? target).map fun fromEnd => text.length - 1 - fromEnd

def splitFinish (text : List Char) (host : List Char) (afterOpen afterClose colon : Nat) :
    Except AddrError (String × String) :=
  if (text.drop afterOpen).contains '[' then .error .unexpectedOpen
  else if (text.drop afterClose).contains ']' then .error .unexpectedClose
  else .ok (String.ofList host, String.ofList (text.drop (colon + 1)))

def splitHostPort (hostport : String) : Except AddrError (String × String) :=
  let text := hostport.toList
  match lastIndex ':' text with
  | none => .error .missingPort
  | some colon =>
      if text.head? = some '[' then
        match text.idxOf? ']' with
        | none => .error .missingBracket
        | some close =>
            if close + 1 = text.length then .error .missingPort
            else if close + 1 = colon then splitFinish text ((text.take close).drop 1) 1 (close + 1) colon
            else if text[close + 1]? = some ':' then .error .tooManyColons
            else .error .missingPort
      else if (text.take colon).contains ':' then .error .tooManyColons
      else splitFinish text (text.take colon) 0 0 colon

inductive NumError where
  | invalid
  | outOfRange
deriving DecidableEq, Repr

-- ParseUint reports a range error at the first digit that passes the maximum,
-- before it looks at the characters behind, and returns the maximum with it.
def parseDigits (maximum : Nat) : Nat → List Char → Nat × Option NumError
  | value, [] => (value, none)
  | value, digit :: rest =>
      if digit.isDigit then
        let next := value * 10 + (digit.toNat - '0'.toNat)
        if maximum < next then (maximum, some .outOfRange) else parseDigits maximum next rest
      else (0, some .invalid)

def parseUint (text : String) (bits : Nat) : Nat × Option NumError :=
  if text.toList = [] then (0, some .invalid) else parseDigits (2 ^ bits - 1) 0 text.toList

theorem parse_digits_bound (maximum value : Nat) (text : List Char) (within : value ≤ maximum) :
    (parseDigits maximum value text).1 ≤ maximum := by
  induction text generalizing value with
  | nil => exact within
  | cons digit rest ih =>
      simp only [parseDigits]
      by_cases decimal : digit.isDigit
      · rw [if_pos decimal]
        by_cases past : maximum < value * 10 + (digit.toNat - '0'.toNat)
        · simp only [past, if_true, Nat.le_refl]
        · rw [if_neg past]
          exact ih _ (Nat.le_of_not_lt past)
      · rw [if_neg decimal]
        exact Nat.zero_le maximum

theorem parse_uint_bound (text : String) (bits : Nat) : (parseUint text bits).1 ≤ 2 ^ bits - 1 := by
  unfold parseUint
  split
  · exact Nat.zero_le _
  · exact parse_digits_bound _ _ _ (Nat.zero_le _)

def decimal (text : List Char) : Nat := text.foldl (fun value digit => value * 10 + (digit.toNat - '0'.toNat)) 0

theorem parse_digits_ok (maximum value number : Nat) (text : List Char)
    (parsed : parseDigits maximum value text = (number, none)) :
    (∀ digit ∈ text, digit.isDigit = true) ∧
      number = text.foldl (fun value digit => value * 10 + (digit.toNat - '0'.toNat)) value := by
  induction text generalizing value with
  | nil =>
      cases parsed
      exact ⟨by simp, rfl⟩
  | cons digit rest ih =>
      simp only [parseDigits] at parsed
      by_cases decimal : digit.isDigit = true
      · rw [if_pos decimal] at parsed
        split at parsed
        · cases parsed
        · obtain ⟨digits, same⟩ := ih _ parsed
          exact ⟨List.forall_mem_cons.mpr ⟨decimal, digits⟩, same⟩
      · rw [if_neg decimal] at parsed
        cases parsed

theorem parse_uint_ok (text : String) (bits number : Nat) (parsed : parseUint text bits = (number, none)) :
    text ≠ "" ∧ (∀ digit ∈ text.toList, digit.isDigit = true) ∧ number = decimal text.toList ∧ number ≤ 2 ^ bits - 1 := by
  have bound := parse_uint_bound text bits
  rw [parsed] at bound
  unfold parseUint at parsed
  split at parsed
  · cases parsed
  · rename_i some
    obtain ⟨digits, same⟩ := parse_digits_ok _ _ _ _ parsed
    refine ⟨?_, digits, same, bound⟩
    intro empty
    rw [empty] at some
    exact some rfl

theorem digits_grow (value : Nat) (text : List Char) :
    value ≤ text.foldl (fun value digit => value * 10 + (digit.toNat - '0'.toNat)) value := by
  induction text generalizing value with
  | nil => exact Nat.le_refl value
  | cons digit rest ih =>
      have grown := ih (value * 10 + (digit.toNat - '0'.toNat))
      rw [List.foldl_cons]
      omega

theorem parse_digits_decimal (maximum value : Nat) (text : List Char) (digits : ∀ digit ∈ text, digit.isDigit = true)
    (within : text.foldl (fun value digit => value * 10 + (digit.toNat - '0'.toNat)) value ≤ maximum) :
    parseDigits maximum value text =
      (text.foldl (fun value digit => value * 10 + (digit.toNat - '0'.toNat)) value, none) := by
  induction text generalizing value with
  | nil => rfl
  | cons digit rest ih =>
      obtain ⟨decimal, others⟩ := List.forall_mem_cons.mp digits
      rw [List.foldl_cons] at within ⊢
      have small := Nat.le_trans (digits_grow _ rest) within
      rw [parseDigits, if_pos decimal, if_neg (Nat.not_lt.mpr small)]
      exact ih _ others within

-- Decided rune by rune: Char is a finite type, and the instance for those would
-- try all of its values.
theorem all_runes (text : List Char) (property : Char → Prop) [DecidablePred property]
    (each : text.all (fun rune => decide (property rune)) = true) : ∀ rune ∈ text, property rune := by
  intro rune member
  exact of_decide_eq_true (List.all_eq_true.mp each rune member)

-- A decimal number of any length, leading zeros included.
def IsDecimal (text : List Char) (number : Nat) : Prop :=
  text ≠ [] ∧ (∀ digit ∈ text, digit.isDigit = true) ∧ decimal text = number

theorem parse_uint_iff (text : List Char) (bits number : Nat) :
    parseUint (String.ofList text) bits = (number, none) ↔ IsDecimal text number ∧ number ≤ 2 ^ bits - 1 := by
  constructor
  · intro parsed
    obtain ⟨some, digits, value, bound⟩ := parse_uint_ok _ bits number parsed
    rw [String.toList_ofList] at digits value
    refine ⟨⟨?_, digits, value.symm⟩, bound⟩
    intro empty
    rw [empty] at some
    exact some rfl
  · intro written
    obtain ⟨⟨some, digits, value⟩, bound⟩ := written
    rw [← value] at bound
    rw [parseUint, String.toList_ofList, if_neg some, parse_digits_decimal _ 0 text digits bound]
    exact congrArg (·, none) value

def IsPort (text : List Char) (port : Nat) : Prop := IsDecimal text port ∧ port ≤ 65535

theorem parse_port_iff (text : List Char) (port : Nat) :
    parseUint (String.ofList text) 16 = (port, none) ↔ IsPort text port := parse_uint_iff text 16 port

theorem port_number (text : List Char) (port : Nat) (written : IsPort text port) :
    (UInt16.ofNat (parseUint (String.ofList text) 16).1).toNat = port := by
  rw [(parse_port_iff text port).mpr written]
  exact UInt16.toNat_ofNat_of_lt' (Nat.lt_succ_of_le written.2)

theorem decimal_plain (text : List Char) (number : Nat) (written : IsDecimal text number) (rune : Char)
    (other : rune.isDigit = false) : rune ∉ text := by
  intro member
  cases (written.2.1 rune member).symm.trans other

-- Simple case folding, exact whenever one of the texts is ASCII, as it is at
-- every call: beside the two cases of a letter, only the long s and the Kelvin
-- sign fold to an ASCII letter.
def foldRune (rune : Char) : Char :=
  if rune = Char.ofNat 0x17F then 's'
  else if rune = Char.ofNat 0x212A then 'k'
  else rune.toLower

def equalFold (left right : String) : Bool :=
  decide (left.toList.map foldRune = right.toList.map foldRune)

def trim (text : String) (cutset : List Char) : String :=
  String.ofList (((text.toList.dropWhile cutset.contains).reverse.dropWhile cutset.contains).reverse)

def hasPrefix (text pfx : String) : Bool := pfx.toList.isPrefixOf text.toList

def trimPrefix (text pfx : String) : String :=
  if hasPrefix text pfx then String.ofList (text.toList.drop pfx.toList.length) else text

def isSpace (rune : Char) : Bool :=
  let code := rune.toNat
  decide (9 ≤ code ∧ code ≤ 13 ∨ code = 32 ∨ code = 0x85 ∨ code = 0xA0 ∨ code = 0x1680 ∨ 0x2000 ≤ code ∧ code ≤ 0x200A ∨
    code = 0x2028 ∨ code = 0x2029 ∨ code = 0x202F ∨ code = 0x205F ∨ code = 0x3000)

def trimSpace (text : List Char) : List Char :=
  ((text.dropWhile isSpace).reverse.dropWhile isSpace).reverse

-- Exact on the runes whose lower case is ASCII, which is all a comparison with
-- an ASCII text can see: beside the letters, the dotted I and the Kelvin sign.
def toLowerRune (rune : Char) : Char :=
  if rune = Char.ofNat 0x130 then 'i'
  else if rune = Char.ofNat 0x212A then 'k'
  else rune.toLower

def cut (separator : List Char) : List Char → Option (List Char × List Char)
  | [] => if separator = [] then some ([], []) else none
  | char :: rest =>
      if separator.isPrefixOf (char :: rest) then some ([], (char :: rest).drop separator.length)
      else (cut separator rest).map fun (before, after) => (char :: before, after)

theorem cut_absent (first : Char) (separator text : List Char) (absent : first ∉ text) : cut (first :: separator) text = none := by
  induction text with
  | nil => rfl
  | cons rune rest ih =>
      obtain ⟨different, missing⟩ := not_or.mp (fun member => absent (List.mem_cons.mpr member))
      have passes : (first :: separator).isPrefixOf (rune :: rest) = false := by
        simp [List.isPrefixOf_cons_cons, different]
      rw [cut, if_neg (by rw [passes]; decide), ih missing]
      rfl

theorem cut_found (first : Char) (separator before after : List Char) (absent : first ∉ before) :
    cut (first :: separator) (before ++ (first :: separator ++ after)) = some (before, after) := by
  induction before with
  | nil =>
      rw [List.nil_append, List.cons_append, cut, if_pos (by simp)]
      simp
  | cons rune rest ih =>
      obtain ⟨different, missing⟩ := not_or.mp (fun member => absent (List.mem_cons.mpr member))
      have passes : (first :: separator).isPrefixOf (rune :: (rest ++ (first :: separator ++ after))) = false := by
        simp [List.isPrefixOf_cons_cons, different]
      rw [List.cons_append, cut, if_neg (by rw [passes]; decide), ih missing]
      rfl

theorem cut_parts (first : Char) (separator text before after : List Char)
    (found : cut (first :: separator) text = some (before, after)) : text = before ++ (first :: separator ++ after) := by
  induction text generalizing before with
  | nil => cases found
  | cons rune rest ih =>
      rw [cut] at found
      by_cases here : (first :: separator).isPrefixOf (rune :: rest) = true
      · rw [if_pos here] at found
        cases found
        obtain ⟨behind, whole⟩ := List.isPrefixOf_iff_prefix.mp here
        rw [← whole, List.drop_left]
        rfl
      · rw [if_neg here] at found
        obtain ⟨⟨middle, last⟩, later, same⟩ := Option.map_eq_some_iff.mp found
        cases same
        rw [ih middle later]
        rfl

def specialRunes : List Char := ['\\', '.', '+', '*', '?', '(', ')', '|', '[', ']', '\x7b', '\x7d', '^', '$']

def quoteRune (rune : Char) : List Char := if specialRunes.contains rune then ['\\', rune] else [rune]

def quoteMeta (text : String) : String := String.ofList (text.toList.flatMap quoteRune)

theorem quote_rune_injective (left right : Char) (leftRest rightRest : List Char)
    (same : quoteRune left ++ leftRest = quoteRune right ++ rightRest) : left = right ∧ leftRest = rightRest := by
  unfold quoteRune at same
  by_cases quoted : specialRunes.contains left <;> by_cases other : specialRunes.contains right
  · simpa only [if_pos quoted, if_pos other, List.cons_append, List.nil_append, List.cons.injEq, true_and] using same
  · simp only [if_pos quoted, if_neg other, List.cons_append, List.nil_append, List.cons.injEq] at same
    rw [← same.1] at other
    exact absurd (by decide) other
  · simp only [if_neg quoted, if_pos other, List.cons_append, List.nil_append, List.cons.injEq] at same
    rw [same.1] at quoted
    exact absurd (by decide) quoted
  · simpa only [if_neg quoted, if_neg other, List.cons_append, List.nil_append, List.cons.injEq] using same

theorem quote_runes_injective (left right : List Char) (same : left.flatMap quoteRune = right.flatMap quoteRune) :
    left = right := by
  have never : ∀ (rune : Char) (rest : List Char), quoteRune rune ++ rest ≠ [] := by
    intro rune rest
    unfold quoteRune
    split <;> simp
  induction left generalizing right with
  | nil =>
      cases right with
      | nil => rfl
      | cons rune rest => exact absurd same.symm (never rune _)
  | cons rune rest ih =>
      cases right with
      | nil => exact absurd same (never rune _)
      | cons other tail =>
          obtain ⟨first, behind⟩ := quote_rune_injective rune other _ _ same
          rw [first, ih tail behind]

theorem quote_meta_injective (left right : String) (same : quoteMeta left = quoteMeta right) : left = right := by
  have runes := quote_runes_injective left.toList right.toList (String.ofList_injective same)
  exact String.toList_inj.mp runes

def unhex (byte : UInt8) : Option UInt8 :=
  if 48 ≤ byte ∧ byte ≤ 57 then some (byte - 48)
  else if 97 ≤ byte ∧ byte ≤ 102 then some (byte - 97 + 10)
  else if 65 ≤ byte ∧ byte ≤ 70 then some (byte - 65 + 10)
  else none

def unescapeBytes : List UInt8 → Option (List UInt8)
  | [] => some []
  | byte :: rest =>
      if byte = 37 then
        match rest with
        | high :: low :: tail =>
            match unhex high, unhex low with
            | some upper, some lower => (unescapeBytes tail).map ((upper * 16 + lower) :: ·)
            | _, _ => none
        | _ => none
      else (unescapeBytes rest).map ((if byte = 43 then 32 else byte) :: ·)

def bytesOf (text : String) : List UInt8 := text.toUTF8.data.toList

-- What the escapes stand for need not be UTF-8.
def queryUnescape (text : List Char) : Option (List UInt8) := unescapeBytes (bytesOf (String.ofList text))

theorem bytes_of_list (text : List Char) : bytesOf (String.ofList text) = text.flatMap String.utf8EncodeChar := by
  simp [bytesOf, String.toUTF8, String.ofList, List.utf8Encode]

theorem bytes_append (left right : String) : bytesOf (left ++ right) = bytesOf left ++ bytesOf right := by
  have whole := bytes_of_list (left.toList ++ right.toList)
  rw [String.ofList_append, List.flatMap_append, ← bytes_of_list, ← bytes_of_list] at whole
  simpa only [String.ofList_toList] using whole

theorem unescape_plain (bytes : List UInt8) (plain : ∀ byte ∈ bytes, byte ≠ 37 ∧ byte ≠ 43) :
    unescapeBytes bytes = some bytes := by
  induction bytes with
  | nil => rfl
  | cons byte rest ih =>
      obtain ⟨⟨percent, plus⟩, others⟩ := List.forall_mem_cons.mp plain
      rw [unescapeBytes.eq_def]
      simp only [if_neg percent, if_neg plus, ih others, Option.map_some]

theorem query_unescape_plain (text : List Char) (plain : ∀ byte ∈ bytesOf (String.ofList text), byte ≠ 37 ∧ byte ≠ 43) :
    queryUnescape text = some (bytesOf (String.ofList text)) := unescape_plain _ plain

theorem ascii_plain (text : List Char) (ascii : ∀ rune ∈ text, 44 ≤ rune.toNat ∧ rune.toNat < 128) :
    ∀ byte ∈ bytesOf (String.ofList text), byte ≠ 37 ∧ byte ≠ 43 := by
  intro byte member
  rw [bytes_of_list] at member
  obtain ⟨rune, inText, encoded⟩ := List.mem_flatMap.mp member
  obtain ⟨low, high⟩ := ascii rune inText
  have small : rune.val.toNat ≤ 127 := Nat.le_of_lt_succ high
  simp only [String.utf8EncodeChar, if_pos small, List.mem_singleton] at encoded
  have value : byte.toNat = rune.toNat := by
    rw [encoded]
    exact UInt8.toNat_ofNat_of_lt' (Nat.lt_trans high (by decide))
  constructor
  · rintro rfl
    exact absurd value (by simp; omega)
  · rintro rfl
    exact absurd value (by simp; omega)

def parseQuery (query : List Char) : List (List UInt8 × List UInt8) :=
  (query.splitOn '&').filterMap fun pair =>
    if pair = [] ∨ ';' ∈ pair then none
    else
      let (key, value) := (cut ['='] pair).getD (pair, [])
      match queryUnescape key, queryUnescape value with
      | some key, some value => some (key, value)
      | _, _ => none

def sextet (rune : Char) : Option Nat :=
  if 'A' ≤ rune ∧ rune ≤ 'Z' then some (rune.toNat - 65)
  else if 'a' ≤ rune ∧ rune ≤ 'z' then some (rune.toNat - 71)
  else if '0' ≤ rune ∧ rune ≤ '9' then some (rune.toNat + 4)
  else if rune = '+' then some 62
  else if rune = '/' then some 63
  else none

-- The bits behind the last whole byte of a padded quantum are dropped unseen.
def decodeQuanta : List Char → Option (List UInt8)
  | [] => some []
  | [first, second, '=', '='] => do
      let high ← sextet first
      let low ← sextet second
      some [UInt8.ofNat (high * 4 + low / 16)]
  | [first, second, third, '='] => do
      let high ← sextet first
      let middle ← sextet second
      let low ← sextet third
      some [UInt8.ofNat (high * 4 + middle / 16), UInt8.ofNat (middle * 16 + low / 4)]
  | first :: second :: third :: fourth :: rest => do
      let value := (← sextet first) * 262144 + (← sextet second) * 4096 + (← sextet third) * 64 + (← sextet fourth)
      let behind ← decodeQuanta rest
      some (UInt8.ofNat (value / 65536) :: UInt8.ofNat (value / 256) :: UInt8.ofNat value :: behind)
  | _ => none

-- StdEncoding.DecodeString skips line ends wherever they stand.
def decodeBase64 (text : List Char) : Option (List UInt8) := decodeQuanta (text.filter fun rune => rune ≠ '\r' ∧ rune ≠ '\n')

def base64Alphabet : List Char := "ABCDEFGHIJKLMNOPQRSTUVWXYZabcdefghijklmnopqrstuvwxyz0123456789+/".toList

def base64Rune (sextet : Nat) : Char := base64Alphabet.getD (sextet % 64) '='

def encodeBase64 : List UInt8 → List Char
  | [] => []
  | [first] => [base64Rune (first.toNat / 4), base64Rune (first.toNat * 16), '=', '=']
  | [first, second] =>
      let value := first.toNat * 256 + second.toNat
      [base64Rune (value / 1024), base64Rune (value / 16), base64Rune (value * 4), '=']
  | first :: second :: third :: rest =>
      let value := first.toNat * 65536 + second.toNat * 256 + third.toNat
      base64Rune (value / 262144) :: base64Rune (value / 4096) :: base64Rune (value / 64) :: base64Rune value ::
        encodeBase64 rest

def formatPort (port : UInt16) : String := toString port.toNat

theorem format_port_digits (port : UInt16) (rune : Char) (member : rune ∈ (formatPort port).toList) : rune.isDigit = true := by
  unfold formatPort at member
  rw [Nat.toString_eq_repr, Nat.repr, String.toList_ofList] at member
  exact Nat.isDigit_of_mem_toDigits (by decide) (by decide) member

theorem trim_head (text : String) (cutset : List Char) (rune : Char) (inSet : cutset.contains rune = true) :
    (trim text cutset).toList.head? ≠ some rune := by
  intro head
  rw [trim, String.toList_ofList] at head
  have initial : ((text.toList.dropWhile cutset.contains).reverse.dropWhile cutset.contains).reverse <+:
      text.toList.dropWhile cutset.contains := by
    have suffix := List.dropWhile_suffix cutset.contains (l := (text.toList.dropWhile cutset.contains).reverse)
    simpa only [List.reverse_reverse] using List.reverse_prefix.mpr suffix
  obtain ⟨rest, whole⟩ := initial
  have first : (text.toList.dropWhile cutset.contains).head? = some rune := by
    rw [← whole, List.head?_append, head]
    rfl
  have outside := List.head?_dropWhile_not cutset.contains text.toList
  rw [first] at outside
  exact Bool.false_ne_true (outside.symm.trans inSet)

theorem trim_last (text : String) (cutset : List Char) (rune : Char) (inSet : cutset.contains rune = true) :
    (trim text cutset).toList.getLast? ≠ some rune := by
  intro last
  rw [trim, String.toList_ofList, List.getLast?_reverse] at last
  have outside := List.head?_dropWhile_not cutset.contains (text.toList.dropWhile cutset.contains).reverse
  rw [last] at outside
  exact Bool.false_ne_true (outside.symm.trans inSet)

theorem trim_parts (text : String) (cutset : List Char) : ∃ before after,
    text.toList = before ++ ((trim text cutset).toList ++ after) ∧ (∀ rune ∈ before, cutset.contains rune = true) ∧
      ∀ rune ∈ after, cutset.contains rune = true := by
  have front := List.takeWhile_append_dropWhile (p := cutset.contains) (l := text.toList)
  have back := congrArg List.reverse
    (List.takeWhile_append_dropWhile (p := cutset.contains) (l := (text.toList.dropWhile cutset.contains).reverse))
  rw [List.reverse_append, List.reverse_reverse] at back
  refine ⟨text.toList.takeWhile cutset.contains,
    ((text.toList.dropWhile cutset.contains).reverse.takeWhile cutset.contains).reverse, ?_, ?_, ?_⟩
  · rw [trim, String.toList_ofList, back, front]
  · intro rune member
    exact List.all_eq_true.mp List.all_takeWhile rune member
  · intro rune member
    exact List.all_eq_true.mp List.all_takeWhile rune (List.mem_reverse.mp member)

theorem drop_while_stays (keep : Char → Bool) (text : List Char) (outside : ∀ rune, text.head? = some rune → keep rune = false) :
    text.dropWhile keep = text := by
  cases text with
  | nil => rfl
  | cons rune rest => exact List.dropWhile_cons_of_neg (by simp [outside rune rfl])

theorem trim_padded (cutset before core after : List Char) (front : ∀ rune ∈ before, cutset.contains rune = true)
    (back : ∀ rune ∈ after, cutset.contains rune = true)
    (first : ∀ rune, core.head? = some rune → cutset.contains rune = false)
    (last : ∀ rune, core.getLast? = some rune → cutset.contains rune = false) :
    trim (String.ofList (before ++ (core ++ after))) cutset = String.ofList core := by
  rw [trim, String.toList_ofList, List.dropWhile_append_of_pos front]
  cases core with
  | nil =>
      rw [List.nil_append, ← List.append_nil after, List.dropWhile_append_of_pos back]
      rfl
  | cons rune rest =>
      rw [drop_while_stays cutset.contains (rune :: rest ++ after) first, List.reverse_append,
        List.dropWhile_append_of_pos (fun rune member => back rune (List.mem_reverse.mp member)),
        drop_while_stays, List.reverse_reverse]
      intro rune head
      rw [List.head?_reverse] at head
      exact last rune head

theorem split_at_first (left right leftRest rightRest : List Char) (separator : Char) (absent : separator ∉ left)
    (missing : separator ∉ right) (same : left ++ separator :: leftRest = right ++ separator :: rightRest) :
    left = right ∧ leftRest = rightRest := by
  induction left generalizing right with
  | nil =>
      cases right with
      | nil => exact ⟨rfl, (List.cons.inj same).2⟩
      | cons rune rest => exact absurd (by simp [(List.cons.inj same).1]) missing
  | cons rune rest ih =>
      cases right with
      | nil => exact absurd (by simp [(List.cons.inj same).1]) absent
      | cons other tail =>
          obtain ⟨first, behind⟩ := List.cons.inj same
          obtain ⟨before, after⟩ := ih tail (fun here => absent (.tail rune here)) (fun here => missing (.tail other here)) behind
          exact ⟨by rw [first, before], after⟩

theorem split_at_last (left right leftRest rightRest : List Char) (separator : Char) (absent : separator ∉ leftRest)
    (missing : separator ∉ rightRest) (same : left ++ separator :: leftRest = right ++ separator :: rightRest) :
    left = right ∧ leftRest = rightRest := by
  have mirrored := congrArg List.reverse same
  simp only [List.reverse_append, List.reverse_cons, List.append_assoc, List.singleton_append] at mirrored
  obtain ⟨before, after⟩ := split_at_first _ _ _ _ separator (by simpa using absent) (by simpa using missing) mirrored
  exact ⟨List.reverse_inj.mp after, List.reverse_inj.mp before⟩

def closesHost (text : List Char) : Prop := [']', ':'] <:+: text

theorem last_occurrence (rune : Char) (text : List Char) (member : rune ∈ text) :
    ∃ before after, text = before ++ rune :: after ∧ rune ∉ after := by
  obtain ⟨after, before, mirrored, absent⟩ := List.eq_append_cons_of_mem (List.mem_reverse.mpr member)
  refine ⟨before.reverse, after.reverse, ?_, by simpa using absent⟩
  have whole := congrArg List.reverse mirrored
  simpa using whole

theorem last_close (host other port digits : List Char) (unclosed : ¬ closesHost port) (plain : ':' ∉ digits)
    (same : host ++ ']' :: ':' :: port = other ++ ']' :: ':' :: digits) : host = other ∧ port = digits := by
  by_cases colon : ':' ∈ port
  · -- The last colon of the left side is inside the port, and no bracket stands before it.
    exfalso
    obtain ⟨before, after, split, absent⟩ := last_occurrence ':' port colon
    have shifted : (host ++ ']' :: ':' :: before) ++ ':' :: after = (other ++ [']']) ++ ':' :: digits := by
      simpa [split] using same
    obtain ⟨ends, _⟩ := split_at_last _ _ _ _ ':' absent plain shifted
    have final := congrArg List.getLast? ends
    rw [List.getLast?_concat] at final
    rcases List.eq_nil_or_concat before with empty | ⟨start, last, ending⟩
    · rw [empty, List.append_cons, List.getLast?_concat] at final
      cases final
    · rw [List.concat_eq_append] at ending
      rw [ending, ← List.cons_append, ← List.cons_append, ← List.append_assoc, List.getLast?_concat] at final
      cases final
      exact unclosed ⟨start, after, by simp [split, ending]⟩
  · have shifted : (host ++ [']']) ++ ':' :: port = (other ++ [']']) ++ ':' :: digits := by simpa using same
    obtain ⟨before, after⟩ := split_at_last _ _ _ _ ':' colon plain shifted
    exact ⟨List.append_cancel_right before, after⟩

theorem join_host_port_to_list (host port : String) :
    (joinHostPort host port).toList =
      if ':' ∈ host.toList then '[' :: (host.toList ++ ']' :: ':' :: port.toList) else host.toList ++ ':' :: port.toList := by
  unfold joinHostPort hasChar
  simp only [List.contains_iff_mem]
  split <;> simp [String.toList_append]

theorem join_host_port_injective (host port other digits : String) (bare : host.toList.head? ≠ some '[')
    (otherBare : other.toList.head? ≠ some '[') (unclosed : ¬ closesHost port.toList) (plain : ':' ∉ digits.toList)
    (same : joinHostPort host port = joinHostPort other digits) : host = other ∧ port = digits := by
  have runes := congrArg String.toList same
  rw [join_host_port_to_list, join_host_port_to_list] at runes
  by_cases colon : ':' ∈ host.toList <;> by_cases second : ':' ∈ other.toList
  · rw [if_pos colon, if_pos second] at runes
    obtain ⟨hosts, ports⟩ := last_close _ _ _ _ unclosed plain (List.cons.inj runes).2
    exact ⟨String.toList_inj.mp hosts, String.toList_inj.mp ports⟩
  · rw [if_pos colon, if_neg second] at runes
    cases text : other.toList with
    | nil => simp [text] at runes
    | cons rune rest => simp [text, ← (List.cons.inj (text ▸ runes)).1] at otherBare
  · rw [if_neg colon, if_pos second] at runes
    cases text : host.toList with
    | nil => simp [text] at runes
    | cons rune rest => simp [text, (List.cons.inj (text ▸ runes)).1] at bare
  · rw [if_neg colon, if_neg second] at runes
    obtain ⟨hosts, ports⟩ := split_at_first _ _ _ _ ':' colon second runes
    exact ⟨String.toList_inj.mp hosts, String.toList_inj.mp ports⟩

end GoText
