set_option autoImplicit false

namespace JsonText

-- A number keeps its literal, as a decoder that does not know the type to read
-- it as has to.
inductive Value where
  | null
  | bool (value : Bool)
  | number (literal : List Char)
  | string (text : String)
  | array (elements : List Value)
  | object (members : List (String × Value))

def hexDigit (digit : Nat) : Char := Char.ofNat (if digit < 10 then 48 + digit else 87 + digit)

def hexValue (rune : Char) : Option Nat :=
  if '0' ≤ rune ∧ rune ≤ '9' then some (rune.toNat - 48)
  else if 'a' ≤ rune ∧ rune ≤ 'f' then some (rune.toNat - 87)
  else if 'A' ≤ rune ∧ rune ≤ 'F' then some (rune.toNat - 55)
  else none

def hexEscape (code : Nat) : List Char :=
  ['\\', 'u', hexDigit (code / 4096), hexDigit (code / 256 % 16), hexDigit (code / 16 % 16), hexDigit (code % 16)]

-- The runes that an encoder for use inside HTML writes as escapes beside those
-- that must be.
def escapesHex (rune : Char) : Bool :=
  rune.toNat < 32 || rune = '<' || rune = '>' || rune = '&' || rune.toNat = 0x2028 || rune.toNat = 0x2029

def escapeRune (rune : Char) : List Char :=
  if rune = '"' then ['\\', '"']
  else if rune = '\\' then ['\\', '\\']
  else if rune.toNat = 8 then ['\\', 'b']
  else if rune.toNat = 12 then ['\\', 'f']
  else if rune = '\n' then ['\\', 'n']
  else if rune = '\r' then ['\\', 'r']
  else if rune = '\t' then ['\\', 't']
  else if escapesHex rune then hexEscape rune.toNat
  else [rune]

def quote (text : String) : List Char := '"' :: text.toList.flatMap escapeRune ++ ['"']

mutual
def print : Value → List Char
  | .null => ['n', 'u', 'l', 'l']
  | .bool true => ['t', 'r', 'u', 'e']
  | .bool false => ['f', 'a', 'l', 's', 'e']
  | .number literal => literal
  | .string text => quote text
  | .array [] => ['[', ']']
  | .array (first :: rest) => '[' :: (print first ++ printElements rest)
  | .object [] => ['\x7b', '\x7d']
  | .object ((name, first) :: rest) => '\x7b' :: (quote name ++ ':' :: (print first ++ printMembers rest))
def printElements : List Value → List Char
  | [] => [']']
  | value :: rest => ',' :: (print value ++ printElements rest)
def printMembers : List (String × Value) → List Char
  | [] => ['\x7d']
  | (name, value) :: rest => ',' :: (quote name ++ ':' :: (print value ++ printMembers rest))
end

def skipSpace (text : List Char) : List Char :=
  text.dropWhile fun rune => rune = ' ' || rune = '\t' || rune = '\r' || rune = '\n'

def readHex : List Char → Option (Nat × List Char)
  | a :: b :: c :: d :: rest => do
      let high ← hexValue a
      let upper ← hexValue b
      let lower ← hexValue c
      let low ← hexValue d
      some (high * 4096 + upper * 256 + lower * 16 + low, rest)
  | _ => none

def replacementRune : Char := Char.ofNat 0xFFFD

-- A surrogate counts only together with its other half, which is then an escape
-- too; alone it reads as the replacement character.
def joinSurrogate (code : Nat) (rest : List Char) : Char × List Char :=
  if 0xD800 ≤ code ∧ code < 0xE000 then
    match rest with
    | '\\' :: 'u' :: behind =>
        match readHex behind with
        | some (low, after) =>
            if code < 0xDC00 ∧ 0xDC00 ≤ low ∧ low < 0xE000 then
              (Char.ofNat (0x10000 + (code - 0xD800) * 0x400 + (low - 0xDC00)), after)
            else (replacementRune, rest)
        | none => (replacementRune, rest)
    | _ => (replacementRune, rest)
  else (Char.ofNat code, rest)

def readEscape : List Char → Option (Char × List Char)
  | '"' :: rest => some ('"', rest)
  | '\\' :: rest => some ('\\', rest)
  | '/' :: rest => some ('/', rest)
  | 'b' :: rest => some (Char.ofNat 8, rest)
  | 'f' :: rest => some (Char.ofNat 12, rest)
  | 'n' :: rest => some ('\n', rest)
  | 'r' :: rest => some ('\r', rest)
  | 't' :: rest => some ('\t', rest)
  | 'u' :: rest => (readHex rest).map fun (code, rest) => joinSurrogate code rest
  | _ => none

def readRune : List Char → Option (Char × List Char)
  | [] => none
  | rune :: rest =>
      if rune = '\\' then readEscape rest
      else if rune.toNat < 32 then none
      else some (rune, rest)

-- The text behind an opening quote, up to the closing one.
def readString : Nat → List Char → Option (List Char × List Char)
  | 0, _ => none
  | fuel + 1, text =>
      if text.head? = some '"' then some ([], text.tail)
      else do
        let (rune, rest) ← readRune text
        let (runes, rest) ← readString fuel rest
        some (rune :: runes, rest)

def readDigits (text : List Char) : Option (List Char × List Char) :=
  match text.takeWhile Char.isDigit with
  | [] => none
  | digits => some (digits, text.dropWhile Char.isDigit)

def readInteger : List Char → Option (List Char × List Char)
  | '0' :: rest => some (['0'], rest)
  | text => readDigits text

def readFraction : List Char → Option (List Char × List Char)
  | '.' :: rest => (readDigits rest).map fun (digits, rest) => ('.' :: digits, rest)
  | text => some ([], text)

def readExponent (text : List Char) : Option (List Char × List Char) :=
  match text with
  | mark :: rest =>
      if mark = 'e' ∨ mark = 'E' then
        match rest with
        | sign :: digits =>
            if sign = '+' ∨ sign = '-' then (readDigits digits).map fun (digits, rest) => (mark :: sign :: digits, rest)
            else (readDigits rest).map fun (digits, rest) => (mark :: digits, rest)
        | [] => none
      else some ([], text)
  | [] => some ([], [])

def readUnsigned (text : List Char) : Option (List Char × List Char) := do
  let (integer, rest) ← readInteger text
  let (fraction, rest) ← readFraction rest
  let (exponent, rest) ← readExponent rest
  some (integer ++ fraction ++ exponent, rest)

def readNumber : List Char → Option (List Char × List Char)
  | '-' :: rest => (readUnsigned rest).map fun (literal, rest) => ('-' :: literal, rest)
  | text => readUnsigned text

def readName (text : List Char) : Option (String × List Char) :=
  match skipSpace text with
  | '"' :: rest => do
      let (name, rest) ← readString rest.length rest
      match skipSpace rest with
      | ':' :: rest => some (String.ofList name, rest)
      | _ => none
  | _ => none

mutual
def readValue : Nat → List Char → Option (Value × List Char)
  | 0, _ => none
  | fuel + 1, text =>
      match skipSpace text with
      | '"' :: rest => (readString rest.length rest).map fun (text, rest) => (.string (String.ofList text), rest)
      | '[' :: rest =>
          if (skipSpace rest).head? = some ']' then some (.array [], (skipSpace rest).tail)
          else do
            let (first, rest) ← readValue fuel rest
            let (others, rest) ← readElements fuel rest
            some (.array (first :: others), rest)
      | '\x7b' :: rest =>
          if (skipSpace rest).head? = some '\x7d' then some (.object [], (skipSpace rest).tail)
          else do
            let (name, rest) ← readName rest
            let (first, rest) ← readValue fuel rest
            let (others, rest) ← readMembers fuel rest
            some (.object ((name, first) :: others), rest)
      | 'n' :: 'u' :: 'l' :: 'l' :: rest => some (.null, rest)
      | 't' :: 'r' :: 'u' :: 'e' :: rest => some (.bool true, rest)
      | 'f' :: 'a' :: 'l' :: 's' :: 'e' :: rest => some (.bool false, rest)
      | text => (readNumber text).map fun (literal, rest) => (.number literal, rest)
def readElements : Nat → List Char → Option (List Value × List Char)
  | 0, _ => none
  | fuel + 1, text =>
      match skipSpace text with
      | ']' :: rest => some ([], rest)
      | ',' :: rest => do
          let (value, rest) ← readValue fuel rest
          let (others, rest) ← readElements fuel rest
          some (value :: others, rest)
      | _ => none
def readMembers : Nat → List Char → Option (List (String × Value) × List Char)
  | 0, _ => none
  | fuel + 1, text =>
      match skipSpace text with
      | '\x7d' :: rest => some ([], rest)
      | ',' :: rest => do
          let (name, rest) ← readName rest
          let (value, rest) ← readValue fuel rest
          let (others, rest) ← readMembers fuel rest
          some ((name, value) :: others, rest)
      | _ => none
end

-- Each step down takes a rune first, so the text ends before the fuel does.
def parse (text : List Char) : Option Value :=
  match readValue (text.length + 1) text with
  | some (value, rest) => if skipSpace rest = [] then some value else none
  | none => none

section Strings

theorem hex_value_digit : ∀ digit, digit < 16 → hexValue (hexDigit digit) = some digit := by decide

theorem read_hex_escape (code : Nat) (rest : List Char) (small : code < 65536) :
    readHex ((hexEscape code).drop 2 ++ rest) = some (code, rest) := by
  have high := hex_value_digit (code / 4096) (by omega)
  have upper := hex_value_digit (code / 256 % 16) (by omega)
  have lower := hex_value_digit (code / 16 % 16) (by omega)
  have low := hex_value_digit (code % 16) (by omega)
  have whole : code / 4096 * 4096 + code / 256 % 16 * 256 + code / 16 % 16 * 16 + code % 16 = code := by omega
  simp only [hexEscape, List.drop_succ_cons, List.drop_zero, List.cons_append, List.nil_append, readHex, high, upper, lower, low,
    Option.bind_eq_bind, Option.bind_some, whole]

theorem join_plain (code : Nat) (rest : List Char) (below : code < 0xD800) : joinSurrogate code rest = (Char.ofNat code, rest) := by
  unfold joinSurrogate
  rw [if_neg (by omega)]

theorem escapes_hex_below (rune : Char) (escapes : escapesHex rune = true) : rune.toNat < 0xD800 := by
  simp only [escapesHex, Bool.or_eq_true, decide_eq_true_eq] at escapes
  rcases escapes with ((((control | rfl) | rfl) | rfl) | line) | paragraph
  · omega
  · decide
  · decide
  · decide
  · omega
  · omega

theorem read_hex_rune (rune : Char) (rest : List Char) (below : rune.toNat < 0xD800) :
    readRune (hexEscape rune.toNat ++ rest) = some (rune, rest) := by
  have escaped := read_hex_escape rune.toNat rest (by omega)
  have shape : hexEscape rune.toNat ++ rest = '\\' :: 'u' :: ((hexEscape rune.toNat).drop 2 ++ rest) := rfl
  rw [shape, readRune, if_pos rfl, readEscape, escaped]
  simp only [Option.map_some, join_plain rune.toNat rest below, Char.ofNat_toNat]

theorem read_escaped (rune : Char) (rest : List Char) : readRune (escapeRune rune ++ rest) = some (rune, rest) := by
  have named : ∀ code, rune.toNat = code → Char.ofNat code = rune := by
    intro code same
    rw [← same, Char.ofNat_toNat]
  rw [escapeRune]
  by_cases mark : rune = '"'
  · rw [if_pos mark, mark]
    rfl
  rw [if_neg mark]
  by_cases slash : rune = '\\'
  · rw [if_pos slash, slash]
    rfl
  rw [if_neg slash]
  by_cases backspace : rune.toNat = 8
  · rw [if_pos backspace, ← named 8 backspace]
    rfl
  rw [if_neg backspace]
  by_cases formFeed : rune.toNat = 12
  · rw [if_pos formFeed, ← named 12 formFeed]
    rfl
  rw [if_neg formFeed]
  by_cases newline : rune = '\n'
  · rw [if_pos newline, newline]
    rfl
  rw [if_neg newline]
  by_cases carriage : rune = '\r'
  · rw [if_pos carriage, carriage]
    rfl
  rw [if_neg carriage]
  by_cases tab : rune = '\t'
  · rw [if_pos tab, tab]
    rfl
  rw [if_neg tab]
  by_cases escapes : escapesHex rune = true
  · rw [if_pos escapes]
    exact read_hex_rune rune rest (escapes_hex_below rune escapes)
  · have printable : ¬ rune.toNat < 32 := by
      intro control
      simp [escapesHex, control] at escapes
    rw [if_neg escapes, List.singleton_append, readRune, if_neg slash, if_neg printable]

theorem escape_head (rune : Char) (rest : List Char) : (escapeRune rune ++ rest).head? ≠ some '"' := by
  rw [escapeRune]
  by_cases mark : rune = '"'
  · rw [if_pos mark]
    simp
  rw [if_neg mark]
  repeat' split
  all_goals simp [hexEscape, mark]

theorem read_quoted (fuel : Nat) (runes rest : List Char) (enough : runes.length < fuel) :
    readString fuel (runes.flatMap escapeRune ++ '"' :: rest) = some (runes, rest) := by
  induction runes generalizing fuel with
  | nil =>
      obtain ⟨fuel, rfl⟩ := Nat.exists_eq_add_of_lt enough
      rfl
  | cons rune runes ih =>
      cases fuel with
      | zero => cases enough
      | succ fuel =>
          have tail := ih fuel (Nat.lt_of_succ_lt_succ enough)
          rw [List.flatMap_cons, List.append_assoc, readString, if_neg (escape_head rune _), read_escaped]
          simp only [Option.bind_eq_bind, Option.bind_some, tail]

theorem escaped_length (runes : List Char) : runes.length ≤ (runes.flatMap escapeRune).length := by
  induction runes with
  | nil => exact Nat.le_refl 0
  | cons rune runes ih =>
      have some : 0 < (escapeRune rune).length := by
        apply List.length_pos_iff.mpr
        intro empty
        have read := read_escaped rune []
        rw [empty] at read
        cases read
      rw [List.flatMap_cons, List.length_append, List.length_cons]
      omega

theorem read_text (text : String) (rest : List Char) :
    readString (text.toList.flatMap escapeRune ++ '"' :: rest).length (text.toList.flatMap escapeRune ++ '"' :: rest) =
      some (text.toList, rest) := by
  apply read_quoted
  have grown := escaped_length text.toList
  rw [List.length_append, List.length_cons]
  omega

end Strings

section Numbers

-- The literal of a natural number: digits, and no zero before another one.
structure Natural (literal : List Char) : Prop where
  some : literal ≠ []
  digits : ∀ rune ∈ literal, rune.isDigit = true
  leading : literal.head? = Option.some '0' → literal = ['0']

def Delimits (rest : List Char) : Prop := ∀ rune, rest.head? = some rune → rune = ',' ∨ rune = ']' ∨ rune = '\x7d'

theorem delimits_digit (rest : List Char) (delimits : Delimits rest) (rune : Char) (front : rest.head? = some rune) :
    rune.isDigit = false ∧ rune ≠ '.' ∧ rune ≠ 'e' ∧ rune ≠ 'E' := by
  rcases delimits rune front with rfl | rfl | rfl <;> decide

theorem digits_span (literal rest : List Char) (digits : ∀ rune ∈ literal, rune.isDigit = true) (delimits : Delimits rest) :
    (literal ++ rest).takeWhile Char.isDigit = literal ∧ (literal ++ rest).dropWhile Char.isDigit = rest := by
  induction literal with
  | nil =>
      cases rest with
      | nil => exact ⟨rfl, rfl⟩
      | cons rune rest =>
          have other := (delimits_digit _ delimits rune rfl).1
          simp [other]
  | cons rune literal ih =>
      obtain ⟨digit, others⟩ := List.forall_mem_cons.mp digits
      obtain ⟨taken, dropped⟩ := ih others
      simp [digit, taken, dropped]

theorem read_natural_integer (literal rest : List Char) (natural : Natural literal) (delimits : Delimits rest) :
    readInteger (literal ++ rest) = some (literal, rest) := by
  obtain ⟨some, digits, leading⟩ := natural
  cases literal with
  | nil => exact absurd rfl some
  | cons first others =>
      by_cases zero : first = '0'
      · have single := leading (by rw [zero]; rfl)
        rw [single]
        rfl
      · obtain ⟨taken, dropped⟩ := digits_span (first :: others) rest digits delimits
        have general : readInteger (first :: others ++ rest) = readDigits (first :: others ++ rest) := by
          rw [List.cons_append, readInteger]
          intro tail same
          exact zero (List.cons.inj same).1
        rw [general, readDigits, taken, dropped]

theorem read_no_fraction (rest : List Char) (delimits : Delimits rest) : readFraction rest = some ([], rest) := by
  cases rest with
  | nil => rfl
  | cons rune rest =>
      rw [readFraction]
      intro tail same
      exact (delimits_digit _ delimits rune rfl).2.1 (List.cons.inj same).1

theorem read_no_exponent (rest : List Char) (delimits : Delimits rest) : readExponent rest = some ([], rest) := by
  cases rest with
  | nil => rfl
  | cons rune rest =>
      obtain ⟨_, _, lower, upper⟩ := delimits_digit _ delimits rune rfl
      simp only [readExponent, lower, upper, or_self, if_false]

theorem read_natural (literal rest : List Char) (natural : Natural literal) (delimits : Delimits rest) :
    readNumber (literal ++ rest) = some (literal, rest) := by
  have unsigned : readUnsigned (literal ++ rest) = some (literal, rest) := by
    simp only [readUnsigned, read_natural_integer literal rest natural delimits, read_no_fraction rest delimits,
      read_no_exponent rest delimits, Option.bind_eq_bind, Option.bind_some, List.append_nil]
  obtain ⟨some, digits, _⟩ := natural
  cases literal with
  | nil => exact absurd rfl some
  | cons first others =>
      have plain : first ≠ '-' := by
        rintro rfl
        cases digits '-' List.mem_cons_self
      rw [List.cons_append, readNumber]
      · exact unsigned
      · intro tail same
        exact plain (List.cons.inj same).1

end Numbers

section Trees

mutual
def AllNatural : Value → Prop
  | .number literal => Natural literal
  | .array elements => ElementsNatural elements
  | .object members => MembersNatural members
  | _ => True
def ElementsNatural : List Value → Prop
  | [] => True
  | value :: rest => AllNatural value ∧ ElementsNatural rest
def MembersNatural : List (String × Value) → Prop
  | [] => True
  | (_, value) :: rest => AllNatural value ∧ MembersNatural rest
end

-- How deep the reader goes for a tree that is printed.
mutual
def cost : Value → Nat
  | .array (first :: rest) => cost first + costElements rest + 1
  | .object ((_, first) :: rest) => cost first + costMembers rest + 1
  | _ => 1
def costElements : List Value → Nat
  | [] => 1
  | value :: rest => cost value + costElements rest + 1
def costMembers : List (String × Value) → Nat
  | [] => 1
  | (_, value) :: rest => cost value + costMembers rest + 1
end

def IsSpace (rune : Char) : Prop := rune = ' ' ∨ rune = '\t' ∨ rune = '\r' ∨ rune = '\n'

theorem skip_nothing (rune : Char) (rest : List Char) (solid : ¬ IsSpace rune) : skipSpace (rune :: rest) = rune :: rest := by
  rw [skipSpace, List.dropWhile_cons, if_neg]
  simpa [IsSpace, or_assoc] using solid

theorem digit_front (rune : Char) (digit : rune.isDigit = true) :
    ¬ IsSpace rune ∧ rune ≠ ']' ∧ rune ≠ '"' ∧ rune ≠ '[' ∧ rune ≠ '\x7b' ∧ rune ≠ 'n' ∧ rune ≠ 't' ∧ rune ≠ 'f' := by
  refine ⟨?_, ?_, ?_, ?_, ?_, ?_, ?_, ?_⟩
  · rintro (rfl | rfl | rfl | rfl) <;> cases digit
  all_goals
    rintro rfl
    cases digit

theorem print_front (value : Value) (natural : AllNatural value) :
    ∃ rune rest, print value = rune :: rest ∧ ¬ IsSpace rune ∧ rune ≠ ']' := by
  match value with
  | .null => exact ⟨_, _, rfl, by rw [IsSpace]; decide, by decide⟩
  | .bool true => exact ⟨_, _, rfl, by rw [IsSpace]; decide, by decide⟩
  | .bool false => exact ⟨_, _, rfl, by rw [IsSpace]; decide, by decide⟩
  | .string text => exact ⟨_, _, rfl, by rw [IsSpace]; decide, by decide⟩
  | .array [] => exact ⟨_, _, rfl, by rw [IsSpace]; decide, by decide⟩
  | .array (_ :: _) => exact ⟨_, _, rfl, by rw [IsSpace]; decide, by decide⟩
  | .object [] => exact ⟨_, _, rfl, by rw [IsSpace]; decide, by decide⟩
  | .object (_ :: _) => exact ⟨_, _, rfl, by rw [IsSpace]; decide, by decide⟩
  | .number [] => exact absurd rfl natural.some
  | .number (first :: others) =>
      have front := digit_front first (natural.digits first List.mem_cons_self)
      exact ⟨first, others, rfl, front.1, front.2.1⟩

theorem read_name_quote (name : String) (rest : List Char) : readName (quote name ++ ':' :: rest) = some (name, rest) := by
  have shape : quote name ++ ':' :: rest = '"' :: (name.toList.flatMap escapeRune ++ '"' :: ':' :: rest) := by
    simp [quote]
  rw [shape, readName, skip_nothing _ _ (by rw [IsSpace]; decide)]
  simp only [read_text, Option.bind_eq_bind, Option.bind_some, skip_nothing ':' rest (by rw [IsSpace]; decide), String.ofList_toList]

theorem read_value_number (fuel : Nat) (literal rest : List Char) (natural : Natural literal) (delimits : Delimits rest) :
    readValue (fuel + 1) (literal ++ rest) = some (.number literal, rest) := by
  have number := read_natural literal rest natural delimits
  obtain ⟨some, digits, _⟩ := natural
  cases literal with
  | nil => exact absurd rfl some
  | cons first others =>
      obtain ⟨solid, _, mark, bracket, brace, n, t, f⟩ := digit_front first (digits first List.mem_cons_self)
      rw [List.cons_append] at number ⊢
      rw [readValue, skip_nothing _ _ solid]
      split
      case h_1 same => exact absurd (List.cons.inj same).1 mark
      case h_2 same => exact absurd (List.cons.inj same).1 bracket
      case h_3 same => exact absurd (List.cons.inj same).1 brace
      case h_4 same => exact absurd (List.cons.inj same).1 n
      case h_5 same => exact absurd (List.cons.inj same).1 t
      case h_6 same => exact absurd (List.cons.inj same).1 f
      case h_7 => rw [number, Option.map_some]

theorem elements_delimit (elements : List Value) (rest : List Char) : Delimits (printElements elements ++ rest) := by
  cases elements with
  | nil =>
      rintro _ ⟨⟩
      exact .inr (.inl rfl)
  | cons value others =>
      rintro _ ⟨⟩
      exact .inl rfl

theorem members_delimit (members : List (String × Value)) (rest : List Char) : Delimits (printMembers members ++ rest) := by
  cases members with
  | nil =>
      rintro _ ⟨⟩
      exact .inr (.inr rfl)
  | cons member others =>
      rintro _ ⟨⟩
      exact .inl rfl

-- Along the printer: each reader is given what the printer wrote and leaves what
-- stands behind it.
mutual
theorem read_print (value : Value) (fuel : Nat) (rest : List Char) (natural : AllNatural value) (delimits : Delimits rest)
    (enough : cost value ≤ fuel) : readValue fuel (print value ++ rest) = some (value, rest) := by
  cases fuel with
  | zero =>
      exfalso
      revert enough
      cases value with
      | array elements => cases elements <;> simp [cost]
      | object members => cases members <;> simp [cost]
      | null | bool | number | string => simp [cost]
  | succ fuel =>
      match value with
      | .null => rfl
      | .bool true => rfl
      | .bool false => rfl
      | .number literal => exact read_value_number fuel literal rest natural delimits
      | .string text =>
          have shape : print (.string text) ++ rest = '"' :: (text.toList.flatMap escapeRune ++ '"' :: rest) := by
            simp [print, quote]
          rw [shape, readValue, skip_nothing _ _ (by rw [IsSpace]; decide)]
          simp only [read_text, Option.map_some, String.ofList_toList]
      | .array [] => rfl
      | .object [] => rfl
      | .array (first :: others) =>
          obtain ⟨firstNatural, othersNatural⟩ := natural
          simp only [cost] at enough
          have head := read_print first fuel (printElements others ++ rest) firstNatural (elements_delimit others rest) (by omega)
          have tail := read_print_elements others fuel rest othersNatural (by omega)
          obtain ⟨rune, behind, front, solid, open_⟩ := print_front first firstNatural
          have some : ¬ (skipSpace (print first ++ (printElements others ++ rest))).head? = some ']' := by
            rw [front, List.cons_append, skip_nothing _ _ solid]
            simpa using open_
          rw [print, List.cons_append, List.append_assoc, readValue, skip_nothing _ _ (by rw [IsSpace]; decide)]
          simp only [if_neg some, head, tail, Option.bind_eq_bind, Option.bind_some]
      | .object ((name, first) :: others) =>
          obtain ⟨firstNatural, othersNatural⟩ := natural
          simp only [cost] at enough
          have head := read_print first fuel (printMembers others ++ rest) firstNatural (members_delimit others rest) (by omega)
          have tail := read_print_members others fuel rest othersNatural (by omega)
          have key := read_name_quote name (print first ++ (printMembers others ++ rest))
          have shape : print (.object ((name, first) :: others)) ++ rest =
              '\x7b' :: (quote name ++ ':' :: (print first ++ (printMembers others ++ rest))) := by
            simp [print]
          have some : ¬ (skipSpace (quote name ++ ':' :: (print first ++ (printMembers others ++ rest)))).head? = some '\x7d' := by
            rw [quote, List.cons_append, List.cons_append, skip_nothing _ _ (by rw [IsSpace]; decide)]
            simp
          rw [shape, readValue, skip_nothing _ _ (by rw [IsSpace]; decide)]
          simp only [if_neg some, key, head, tail, Option.bind_eq_bind, Option.bind_some]
theorem read_print_elements (elements : List Value) (fuel : Nat) (rest : List Char) (natural : ElementsNatural elements)
    (enough : costElements elements ≤ fuel) : readElements fuel (printElements elements ++ rest) = some (elements, rest) := by
  cases fuel with
  | zero => cases elements <;> simp [costElements] at enough
  | succ fuel =>
      match elements with
      | [] => rfl
      | value :: others =>
          obtain ⟨valueNatural, othersNatural⟩ := natural
          simp only [costElements] at enough
          have head := read_print value fuel (printElements others ++ rest) valueNatural (elements_delimit others rest) (by omega)
          have tail := read_print_elements others fuel rest othersNatural (by omega)
          rw [printElements, List.cons_append, List.append_assoc, readElements, skip_nothing _ _ (by rw [IsSpace]; decide)]
          simp only [head, tail, Option.bind_eq_bind, Option.bind_some]
theorem read_print_members (members : List (String × Value)) (fuel : Nat) (rest : List Char) (natural : MembersNatural members)
    (enough : costMembers members ≤ fuel) : readMembers fuel (printMembers members ++ rest) = some (members, rest) := by
  cases fuel with
  | zero => cases members <;> simp [costMembers] at enough
  | succ fuel =>
      match members with
      | [] => rfl
      | (name, value) :: others =>
          obtain ⟨valueNatural, othersNatural⟩ := natural
          simp only [costMembers] at enough
          have head := read_print value fuel (printMembers others ++ rest) valueNatural (members_delimit others rest) (by omega)
          have tail := read_print_members others fuel rest othersNatural (by omega)
          have key := read_name_quote name (print value ++ (printMembers others ++ rest))
          have shape : printMembers ((name, value) :: others) ++ rest =
              ',' :: (quote name ++ ':' :: (print value ++ (printMembers others ++ rest))) := by
            simp [printMembers]
          rw [shape, readMembers, skip_nothing _ _ (by rw [IsSpace]; decide)]
          simp only [key, head, tail, Option.bind_eq_bind, Option.bind_some]
end

mutual
theorem cost_print (value : Value) (natural : AllNatural value) : cost value ≤ (print value).length := by
  match value with
  | .null | .bool true | .bool false | .array [] | .object [] => simp [cost, print]
  | .string text => simp [cost, print, quote]
  | .number literal => exact List.length_pos_iff.mpr natural.some
  | .array (first :: others) =>
      have head := cost_print first natural.1
      have tail := cost_print_elements others natural.2
      simp only [cost, print, List.length_cons, List.length_append]
      omega
  | .object ((name, first) :: others) =>
      have head := cost_print first natural.1
      have tail := cost_print_members others natural.2
      simp only [cost, print, List.length_cons, List.length_append]
      omega
theorem cost_print_elements (elements : List Value) (natural : ElementsNatural elements) :
    costElements elements ≤ (printElements elements).length := by
  match elements with
  | [] => simp [costElements, printElements]
  | value :: others =>
      have head := cost_print value natural.1
      have tail := cost_print_elements others natural.2
      simp only [costElements, printElements, List.length_cons, List.length_append]
      omega
theorem cost_print_members (members : List (String × Value)) (natural : MembersNatural members) :
    costMembers members ≤ (printMembers members).length := by
  match members with
  | [] => simp [costMembers, printMembers]
  | (name, value) :: others =>
      have head := cost_print value natural.1
      have tail := cost_print_members others natural.2
      simp only [costMembers, printMembers, List.length_cons, List.length_append]
      omega
end

theorem parse_print (value : Value) (natural : AllNatural value) : parse (print value) = some value := by
  have read := read_print value ((print value).length + 1) [] natural (by rintro _ ⟨⟩)
    (Nat.le_succ_of_le (cost_print value natural))
  rw [List.append_nil] at read
  rw [parse, read]
  rfl

end Trees

end JsonText
