import WarpStream.ByteReader
import WarpStream.TextBytes

set_option autoImplicit false

namespace HttpHead

open ByteReader GoText TextBytes

def dropReturn (line : List UInt8) : List UInt8 := if line.getLast? = some 13 then line.dropLast else line

def takeLines (current : List UInt8) : List UInt8 → Option (List (List UInt8) × List UInt8)
  | [] => none
  | byte :: rest =>
      if byte = 10 then
        if dropReturn current = [] then some ([], rest)
        else (takeLines [] rest).map fun (lines, behind) => (dropReturn current :: lines, behind)
      else takeLines (current ++ [byte]) rest

-- The lines of a head, up to the first blank one.
def readLines {ε : Type} : Reader ε (List (List Char)) := fun input =>
  match takeLines [] input with
  | some (lines, rest) => .ok (lines.map fun line => (textOf line).toList, rest)
  | none => .error (if input = [] then .eof else .unexpectedEof, [])

def headText (lines : List (List Char)) : List Char := lines.flatMap (· ++ ['\r', '\n']) ++ ['\r', '\n']

def isBlank (rune : Char) : Bool := rune = ' ' || rune = '\t'

def trimBlank (text : List Char) : List Char := ((text.dropWhile isBlank).reverse.dropWhile isBlank).reverse

-- A line that begins with a blank continues the one before. The first of them
-- has the colon.
def foldLine (line : List Char) (later : Option (List Char × List (List Char))) : Option (List Char × List (List Char)) :=
  later.bind fun (continuation, fields) =>
    if line.head?.any isBlank then some (' ' :: (trimBlank line ++ continuation), fields)
    else if ':' ∈ line then some ([], (trimBlank line ++ continuation) :: fields)
    else none

def unfoldLines (lines : List (List Char)) : Option (List (List Char)) :=
  match lines.foldr foldLine (some ([], [])) with
  | some ([], fields) => some fields
  | _ => none

def tokenMarks : List Char := "!#$%&'*+-.^_`|~".toList

def isTokenRune (rune : Char) : Bool := rune.isAlphanum || tokenMarks.contains rune

def isFieldRune (rune : Char) : Bool := rune = '\t' || (32 ≤ rune.toNat && rune.toNat ≠ 127)

def canonicalRunes : Bool → List Char → List Char
  | _, [] => []
  | upper, rune :: rest => (if upper then rune.toUpper else rune.toLower) :: canonicalRunes (rune = '-') rest

def canonicalName (name : String) : String :=
  if name.toList.all isTokenRune then String.ofList (canonicalRunes true name.toList) else name

abbrev Fields := List (String × String)

def parseField (line : List Char) : Option (String × String) :=
  match cut [':'] line with
  | none => none
  | some (name, value) =>
      if name ≠ [] ∧ name.all isTokenRune = true ∧ value.all isFieldRune = true then
        some (canonicalName (String.ofList name), String.ofList (value.dropWhile isBlank))
      else none

def parseFields (lines : List (List Char)) : Option Fields := (unfoldLines lines).bind (·.mapM parseField)

def Fields.values (fields : Fields) (name : String) : List String := (fields.filter fun field => field.1 = name).map (·.2)

def Fields.get (fields : Fields) (name : String) : String := ((fields.values name).head?).getD ""

-- The version that ParseHTTPVersion reads.
def parseVersion : List Char → Option (Nat × Nat)
  | ['H', 'T', 'T', 'P', '/', major, '.', minor] =>
      if major.isDigit ∧ minor.isDigit then some (major.toNat - 48, minor.toNat - 48) else none
  | _ => none

def unescapePath : List UInt8 → Option (List UInt8)
  | [] => some []
  | byte :: rest =>
      if byte = 37 then
        match rest with
        | high :: low :: tail =>
            match unhex high, unhex low with
            | some upper, some lower => (unescapePath tail).map ((upper * 16 + lower) :: ·)
            | _, _ => none
        | _ => none
      else (unescapePath rest).map (byte :: ·)

def isPathByte (byte : UInt8) : Bool :=
  (48 ≤ byte && byte ≤ 57) || (65 ≤ byte && byte ≤ 90) || (97 ≤ byte && byte ≤ 122) || (bytesOf "-_.~$&+,/:;=@").contains byte

def upperHex (digit : UInt8) : UInt8 := if digit < 10 then 48 + digit else 55 + digit

def escapeByte (byte : UInt8) : List UInt8 := if isPathByte byte then [byte] else [37, upperHex (byte / 16), upperHex (byte % 16)]

def asciiText (bytes : List UInt8) : String := String.ofList (bytes.map fun byte => Char.ofNat byte.toNat)

def escapePath (path : String) : String := asciiText ((bytesOf path).flatMap escapeByte)

def requestUri (path rawQuery : String) : String := escapePath path ++ (if rawQuery = "" then "" else "?" ++ rawQuery)

structure RequestHead where
  method : String
  path : String
  rawQuery : String
  protoMajor : Nat
  fields : Fields
deriving DecidableEq, Repr

def isControl (rune : Char) : Bool := rune.toNat < 32 || rune.toNat = 127

-- A target in origin form: a path and a query.
def parseTarget (target : List Char) : Option (String × String) :=
  if target.head? ≠ some '/' ∨ target.any isControl = true then none
  else
    let (path, query) := (cut ['?'] target).getD (target, [])
    (unescapePath (bytesOf (String.ofList path))).map fun bytes => (textOf bytes, String.ofList query)

def hostMarks : List Char := "!$%&'()*+,-.:;=[]_~".toList

def validHost (host : String) : Bool := host.toList.all fun rune => rune.isAlphanum || hostMarks.contains rune

def parseRequestLine (line : List Char) : Option (List Char × List Char × List Char) :=
  (cut [' '] line).bind fun (method, rest) => (cut [' '] rest).map fun (target, proto) => (method, target, proto)

def hostAccepted (version : Nat × Nat) (method : String) (hosts : List String) : Bool :=
  match hosts with
  | [] => decide (version.1 < 1 ∨ version = (1, 0) ∨ method = "CONNECT")
  | [host] => validHost host
  | _ => false

def parseRequest (lines : List (List Char)) : Option RequestHead :=
  match lines with
  | [] => none
  | first :: others => do
      let (method, target, proto) ← parseRequestLine first
      let version ← parseVersion proto
      let (path, query) ← parseTarget target
      let fields ← parseFields others
      let method := String.ofList method
      if method ≠ "" ∧ method.toList.all isTokenRune = true ∧ hostAccepted version method (fields.values "Host") = true then
        some ⟨method, path, query, version.1, fields⟩
      else none

structure ResponseHead where
  statusCode : Nat
  status : String
  fields : Fields
deriving DecidableEq, Repr

def parseStatus (status : List Char) : Option Nat :=
  let code := ((cut [' '] status).getD (status, [])).1
  if code.length = 3 ∧ code.all Char.isDigit = true then some (decimal code) else none

def parseResponse (lines : List (List Char)) : Option ResponseHead :=
  match lines with
  | [] => none
  | first :: others => do
      let (proto, status) ← cut [' '] first
      let status := status.dropWhile (· = ' ')
      let code ← parseStatus status
      let _ ← parseVersion proto
      let fields ← parseFields others
      some ⟨code, String.ofList status, fields⟩

def readHead {α : Type} (malformed : String) (parse : List (List Char) → Option α) : Reader String α := do
  let lines ← readLines
  match parse lines with
  | some head => pure head
  | none => fail malformed

def readRequest : Reader String RequestHead := readHead "malformed HTTP request" parseRequest

def readResponse : Reader String ResponseHead := readHead "malformed HTTP response" parseResponse

theorem take_lines_stable (current input more : List UInt8) (lines : List (List UInt8)) (rest : List UInt8)
    (taken : takeLines current input = some (lines, rest)) : takeLines current (input ++ more) = some (lines, rest ++ more) := by
  induction input generalizing current lines with
  | nil => cases taken
  | cons byte behind ih =>
      simp only [takeLines, List.cons_append] at taken ⊢
      split at taken
      · rename_i ends
        rw [if_pos ends]
        split at taken
        · rename_i blank
          cases taken
          rw [if_pos blank]
        · rename_i filled
          obtain ⟨⟨later, left⟩, found, same⟩ := Option.map_eq_some_iff.mp taken
          cases same
          rw [if_neg filled, ih [] later found]
          rfl
      · rename_i inside
        rw [if_neg inside]
        exact ih _ _ taken

theorem read_lines_stable {ε : Type} : Stable (readLines : Reader ε (List (List Char))) := by
  intro input lines rest more read
  simp only [readLines] at read ⊢
  split at read
  · rename_i taken left found
    cases read
    rw [take_lines_stable [] input more taken rest found]
  · cases read

theorem read_head_stable {α : Type} (malformed : String) (parse : List (List Char) → Option α) :
    Stable (readHead malformed parse) := by
  refine stable_bind _ _ read_lines_stable fun lines => ?_
  split
  · exact stable_pure _
  · exact stable_fail _

theorem take_line (current line rest : List UInt8) (inside : 10 ∉ line) :
    takeLines current (line ++ 10 :: rest) =
      if dropReturn (current ++ line) = [] then some ([], rest)
      else (takeLines [] rest).map fun (lines, behind) => (dropReturn (current ++ line) :: lines, behind) := by
  induction line generalizing current with
  | nil => simp [takeLines]
  | cons byte others ih =>
      obtain ⟨different, absent⟩ := not_or.mp (fun member => inside (List.mem_cons.mpr member))
      rw [List.cons_append, takeLines, if_neg (fun same => different same.symm), ih _ absent, List.append_assoc]
      rfl

theorem ascii_byte_rune (rune : Char) (byte : UInt8) (member : byte ∈ String.utf8EncodeChar rune) (small : byte.toNat < 128) :
    rune.toNat = byte.toNat := by
  have value : rune.val.toNat = rune.toNat := rfl
  unfold String.utf8EncodeChar at member
  simp only at member
  split at member
  · rw [List.mem_singleton.mp member, UInt8.toNat_ofNat']
    omega
  · exfalso
    split at member
    · simp only [List.mem_cons, List.not_mem_nil, or_false] at member
      rcases member with rfl | rfl <;> simp only [UInt8.toNat_ofNat'] at small <;> omega
    · split at member
      · simp only [List.mem_cons, List.not_mem_nil, or_false] at member
        rcases member with rfl | rfl | rfl <;> simp only [UInt8.toNat_ofNat'] at small <;> omega
      · simp only [List.mem_cons, List.not_mem_nil, or_false] at member
        rcases member with rfl | rfl | rfl | rfl <;> simp only [UInt8.toNat_ofNat'] at small <;> omega

theorem bytes_without (text : List Char) (rune : Char) (byte : UInt8) (code : rune.toNat = byte.toNat) (small : byte.toNat < 128)
    (absent : rune ∉ text) : byte ∉ bytesOf (String.ofList text) := by
  intro member
  rw [bytes_of_list] at member
  obtain ⟨found, inText, encoded⟩ := List.mem_flatMap.mp member
  have same : found = rune := Char.toNat_inj.mp ((ascii_byte_rune found byte encoded small).trans code.symm)
  exact absent (same ▸ inText)

theorem drop_return_line (line : List UInt8) : dropReturn (line ++ [13]) = line := by
  rw [dropReturn, if_pos List.getLast?_concat, List.dropLast_concat]

theorem head_text_bytes (lines : List (List Char)) :
    bytesOf (String.ofList (headText lines)) = lines.flatMap (fun line => bytesOf (String.ofList line) ++ [13, 10]) ++ [13, 10] := by
  have ending : ['\r', '\n'].flatMap String.utf8EncodeChar = [13, 10] := by decide
  rw [bytes_of_list, headText, List.flatMap_append, List.flatMap_assoc, ending]
  simp only [List.flatMap_append, ending, bytes_of_list]

structure PlainLine (line : List Char) : Prop where
  some : line ≠ []
  newline : '\n' ∉ line

theorem take_plain_lines (lines : List (List Char)) (plain : ∀ line ∈ lines, PlainLine line) (rest : List UInt8) :
    takeLines [] (lines.flatMap (fun line => bytesOf (String.ofList line) ++ [13, 10]) ++ [13, 10] ++ rest) =
      some (lines.map fun line => bytesOf (String.ofList line), rest) := by
  induction lines with
  | nil => rfl
  | cons line others ih =>
      obtain ⟨first, later⟩ := List.forall_mem_cons.mp plain
      have absent : 10 ∉ bytesOf (String.ofList line) ++ [13] := by
        rw [List.mem_append, not_or]
        exact ⟨bytes_without line '\n' 10 rfl (by decide) first.newline, by decide⟩
      have filled : bytesOf (String.ofList line) ≠ [] := by
        intro empty
        have whole := text_of_bytes (String.ofList line)
        rw [empty] at whole
        exact first.some (String.ofList_injective whole).symm
      have split : (line :: others).flatMap (fun line => bytesOf (String.ofList line) ++ [13, 10]) ++ [13, 10] ++ rest =
          (bytesOf (String.ofList line) ++ [13]) ++
            10 :: (others.flatMap (fun line => bytesOf (String.ofList line) ++ [13, 10]) ++ [13, 10] ++ rest) := by
        simp
      rw [split, take_line [] _ _ absent, List.nil_append, drop_return_line, if_neg filled, ih later]
      rfl

theorem reads_lines {ε : Type} (lines : List (List Char)) (plain : ∀ line ∈ lines, PlainLine line) :
    Reads (readLines : Reader ε (List (List Char))) (bytesOf (String.ofList (headText lines))) lines := by
  intro rest
  rw [readLines, head_text_bytes, take_plain_lines lines plain rest]
  dsimp only
  rw [List.map_map]
  have back : (lines.map ((fun line => (textOf line).toList) ∘ fun line => bytesOf (String.ofList line))) = lines := by
    refine (List.map_congr_left fun line _ => ?_).trans (List.map_id lines)
    rw [Function.comp_apply, text_of_bytes, String.toList_ofList]
    rfl
  rw [back]

theorem reads_head {α : Type} (malformed : String) (parse : List (List Char) → Option α) (lines : List (List Char)) (head : α)
    (plain : ∀ line ∈ lines, PlainLine line) (parsed : parse lines = some head) :
    Reads (readHead malformed parse) (bytesOf (String.ofList (headText lines))) head := by
  intro rest
  rw [readHead, bind_reads _ _ _ rest lines (reads_lines lines plain), parsed]
  rfl

def fieldLine (field : String × String) : List Char := field.1.toList ++ ':' :: ' ' :: field.2.toList

def canonicalField (field : String × String) : String × String := (canonicalName field.1, field.2)

-- What a field must be for its line to be read back.
structure Sendable (field : String × String) : Prop where
  named : field.1 ≠ ""
  token : field.1.toList.all isTokenRune = true
  clean : field.2.toList.all isFieldRune = true
  front : ∀ rune, field.2.toList.head? = some rune → isBlank rune = false
  back : ∀ rune, field.2.toList.getLast? = some rune → isBlank rune = false

def sendable (field : String × String) : Bool :=
  field.1 ≠ "" && field.1.toList.all isTokenRune && field.2.toList.all isFieldRune && field.2.toList.head?.all (!isBlank ·) &&
    field.2.toList.getLast?.all (!isBlank ·)

theorem sendable_iff (field : String × String) : sendable field = true ↔ Sendable field := by
  have ends : ∀ rune : Option Char, rune.all (!isBlank ·) = true ↔ ∀ found, rune = some found → isBlank found = false := by
    intro rune
    cases rune <;> simp
  rw [sendable, Bool.and_eq_true, Bool.and_eq_true, Bool.and_eq_true, Bool.and_eq_true, decide_eq_true_eq, ends, ends]
  constructor
  · rintro ⟨⟨⟨⟨named, token⟩, clean⟩, front⟩, back⟩
    exact ⟨named, token, clean, front, back⟩
  · intro holds
    exact ⟨⟨⟨⟨holds.named, holds.token⟩, holds.clean⟩, holds.front⟩, holds.back⟩

instance (field : String × String) : Decidable (Sendable field) := decidable_of_iff _ (sendable_iff field)

theorem alphanum_small (rune : Char) (alphanum : rune.isAlphanum = true) : rune.toNat < 128 := by
  have below : ∀ high : UInt32, rune.val ≤ high → high.toNat < 128 → rune.toNat < 128 := fun high within =>
    Nat.lt_of_le_of_lt (UInt32.le_iff_toNat_le.mp within)
  rcases Bool.or_eq_true_iff.mp alphanum with letter | digit
  · rcases Bool.or_eq_true_iff.mp letter with upper | lower
    · exact below 90 (of_decide_eq_true upper).2 (by decide)
    · exact below 122 (of_decide_eq_true (Bool.and_eq_true_iff.mp lower).2) (by decide)
  · exact below 57 (of_decide_eq_true (Bool.and_eq_true_iff.mp digit).2) (by decide)

theorem token_rune_small (rune : Char) (token : isTokenRune rune = true) : rune.toNat < 128 := by
  rcases Bool.or_eq_true_iff.mp token with alphanum | mark
  · exact alphanum_small rune alphanum
  · exact all_runes tokenMarks (fun rune => rune.toNat < 128) (by decide) rune (List.contains_iff_mem.mp mark)

theorem token_rune_cases (property : Char → Prop)
    (checked : ∀ code, code < 128 → isTokenRune (Char.ofNat code) = true → property (Char.ofNat code))
    (rune : Char) (token : isTokenRune rune = true) : property rune := by
  have held := checked rune.toNat (token_rune_small rune token)
  rw [Char.ofNat_toNat] at held
  exact held token

theorem token_rune_other (rune : Char) (token : isTokenRune rune = true) :
    isBlank rune = false ∧ rune ≠ ':' ∧ rune ≠ '\n' := by
  revert rune
  exact token_rune_cases _ (by decide +kernel)

-- Upper and lower case keep what canonicalRunes looks at.
theorem token_rune_case (rune : Char) (token : isTokenRune rune = true) :
    (isTokenRune rune.toUpper = true ∧ rune.toUpper.toUpper = rune.toUpper ∧ (rune.toUpper = '-' ↔ rune = '-')) ∧
      isTokenRune rune.toLower = true ∧ rune.toLower.toLower = rune.toLower ∧ (rune.toLower = '-' ↔ rune = '-') := by
  revert rune
  exact token_rune_cases _ (by decide +kernel)

theorem canonical_runes_again (upper : Bool) (name : List Char) (token : ∀ rune ∈ name, isTokenRune rune = true) :
    (∀ rune ∈ canonicalRunes upper name, isTokenRune rune = true) ∧
      canonicalRunes upper (canonicalRunes upper name) = canonicalRunes upper name := by
  induction name generalizing upper with
  | nil => exact ⟨fun _ member => absurd member List.not_mem_nil, rfl⟩
  | cons rune rest ih =>
      obtain ⟨here, later⟩ := List.forall_mem_cons.mp token
      obtain ⟨⟨upperToken, upperAgain, upperDash⟩, lowerToken, lowerAgain, lowerDash⟩ := token_rune_case rune here
      obtain ⟨restToken, restAgain⟩ := ih (rune = '-') later
      simp only [canonicalRunes]
      cases upper with
      | true =>
          simp only [if_true, upperAgain, upperDash, restAgain, and_true]
          exact List.forall_mem_cons.mpr ⟨upperToken, restToken⟩
      | false =>
          simp only [Bool.false_eq_true, if_false, lowerAgain, lowerDash, restAgain, and_true]
          exact List.forall_mem_cons.mpr ⟨lowerToken, restToken⟩

theorem canonical_name_again (name : String) : canonicalName (canonicalName name) = canonicalName name := by
  by_cases token : name.toList.all isTokenRune = true
  · have each : ∀ rune ∈ name.toList, isTokenRune rune = true := List.all_eq_true.mp token
    obtain ⟨again, same⟩ := canonical_runes_again true name.toList each
    have canonical : canonicalName name = String.ofList (canonicalRunes true name.toList) := if_pos token
    rw [canonical, canonicalName, String.toList_ofList, if_pos (List.all_eq_true.mpr again), same]
  · have canonical : canonicalName name = name := if_neg token
    rw [canonical, canonical]

theorem field_rune_newline (rune : Char) (clean : isFieldRune rune = true) : rune ≠ '\n' := by
  rintro rfl
  cases clean

section

variable (field : String × String) (sendable : Sendable field)

include sendable

theorem name_front : ∃ rune rest, field.1.toList = rune :: rest ∧ isTokenRune rune = true := by
  cases runes : field.1.toList with
  | nil => exact absurd (String.toList_eq_nil_iff.mp runes) sendable.named
  | cons rune rest => exact ⟨rune, rest, rfl, List.all_eq_true.mp sendable.token rune (by rw [runes]; exact .head _)⟩

theorem field_line_plain : PlainLine (fieldLine field) where
  some := by simp [fieldLine]
  newline := by
    intro member
    rcases List.mem_append.mp member with name | behind
    · exact (token_rune_other '\n' (List.all_eq_true.mp sendable.token _ name)).2.2 rfl
    · simp only [List.mem_cons, Char.reduceEq, false_or] at behind
      exact field_rune_newline '\n' (List.all_eq_true.mp sendable.clean _ behind) rfl

theorem field_line_head : (fieldLine field).head?.any isBlank = false := by
  obtain ⟨rune, rest, runes, token⟩ := name_front field sendable
  rw [fieldLine, runes]
  exact (token_rune_other rune token).1

theorem field_line_trimmed : ∃ blanks, trimBlank (fieldLine field) = field.1.toList ++ ':' :: (blanks ++ field.2.toList) ∧
    ∀ rune ∈ blanks, isBlank rune = true ∧ isFieldRune rune = true := by
  obtain ⟨first, rest, runes, token⟩ := name_front field sendable
  have kept : (fieldLine field).dropWhile isBlank = fieldLine field := by
    refine drop_while_stays isBlank _ ?_
    intro rune head
    have front := field_line_head field sendable
    rw [head] at front
    exact front
  rw [trimBlank, kept]
  by_cases empty : field.2.toList = []
  · refine ⟨[], ?_, by simp⟩
    rw [fieldLine, empty]
    have mirrored : (field.1.toList ++ [':', ' ']).reverse = ' ' :: ':' :: field.1.toList.reverse := by simp
    rw [mirrored, List.dropWhile_cons_of_pos (by decide), List.dropWhile_cons_of_neg (by decide)]
    simp
  · refine ⟨[' '], ?_, all_runes _ _ (by decide)⟩
    have stays : (fieldLine field).reverse.dropWhile isBlank = (fieldLine field).reverse := by
      refine drop_while_stays isBlank _ ?_
      intro rune head
      have parts : fieldLine field = (field.1.toList ++ [':', ' ']) ++ field.2.toList := by simp [fieldLine]
      have ending := List.getLast?_eq_some_getLast empty
      rw [List.head?_reverse, parts, List.getLast?_append, ending] at head
      cases head
      exact sendable.back _ ending
    rw [stays, List.reverse_reverse]
    rfl

theorem parse_field_line : parseField (trimBlank (fieldLine field)) = some (canonicalField field) := by
  obtain ⟨blanks, trimmed, blank⟩ := field_line_trimmed field sendable
  have absent : ':' ∉ field.1.toList := by
    intro member
    exact (token_rune_other ':' (List.all_eq_true.mp sendable.token _ member)).2.1 rfl
  have found : cut [':'] (trimBlank (fieldLine field)) = some (field.1.toList, blanks ++ field.2.toList) := by
    rw [trimmed]
    exact cut_found ':' [] _ _ absent
  have clean : (blanks ++ field.2.toList).all isFieldRune = true := by
    rw [List.all_append, sendable.clean, Bool.and_true]
    exact List.all_eq_true.mpr fun rune member => (blank rune member).2
  have named : field.1.toList ≠ [] := fun empty => sendable.named (String.toList_eq_nil_iff.mp empty)
  have value : (blanks ++ field.2.toList).dropWhile isBlank = field.2.toList := by
    rw [List.dropWhile_append_of_pos fun rune member => (blank rune member).1]
    exact drop_while_stays isBlank _ sendable.front
  rw [parseField, found]
  simp only
  rw [if_pos ⟨named, sendable.token, clean⟩, value, String.ofList_toList, String.ofList_toList]
  rfl

end

theorem fold_plain_lines (lines : List (List Char)) (front : ∀ line ∈ lines, line.head?.any isBlank = false)
    (colon : ∀ line ∈ lines, ':' ∈ line) : lines.foldr foldLine (some ([], [])) = some ([], lines.map trimBlank) := by
  induction lines with
  | nil => rfl
  | cons line others ih =>
      obtain ⟨first, frontLater⟩ := List.forall_mem_cons.mp front
      obtain ⟨here, colonLater⟩ := List.forall_mem_cons.mp colon
      rw [List.foldr_cons, ih frontLater colonLater, foldLine, Option.bind_some]
      simp only
      rw [first, if_neg Bool.false_ne_true, if_pos here, List.append_nil]
      rfl

theorem map_m_reads {α β γ : Type} (write : α → β) (read : β → Option γ) (result : α → γ) (values : List α)
    (reads : ∀ value ∈ values, read (write value) = some (result value)) : (values.map write).mapM read = some (values.map result) := by
  induction values with
  | nil => rfl
  | cons value others ih =>
      obtain ⟨first, later⟩ := List.forall_mem_cons.mp reads
      rw [List.map_cons, List.mapM_cons, first, ih later]
      rfl

theorem parse_field_lines (fields : Fields) (sendable : ∀ field ∈ fields, Sendable field) :
    parseFields (fields.map fieldLine) = some (fields.map canonicalField) := by
  have folded : (fields.map fieldLine).foldr foldLine (some ([], [])) = some ([], (fields.map fieldLine).map trimBlank) := by
    refine fold_plain_lines _ ?_ ?_
    · intro line member
      obtain ⟨field, inside, rfl⟩ := List.mem_map.mp member
      exact field_line_head field (sendable field inside)
    · intro line member
      obtain ⟨field, inside, rfl⟩ := List.mem_map.mp member
      simp [fieldLine]
  rw [parseFields, unfoldLines, folded]
  simp only [Option.bind_some, List.map_map]
  exact map_m_reads _ parseField canonicalField fields fun field member => parse_field_line field (sendable field member)

theorem ascii_text_bytes (bytes : List UInt8) (ascii : ∀ byte ∈ bytes, byte.toNat < 128) : bytesOf (asciiText bytes) = bytes := by
  rw [asciiText, bytes_of_list]
  induction bytes with
  | nil => rfl
  | cons byte others ih =>
      obtain ⟨small, later⟩ := List.forall_mem_cons.mp ascii
      have code : (Char.ofNat byte.toNat).val.toNat = byte.toNat := by
        have valid : byte.toNat.isValidChar := Or.inl (Nat.lt_trans small (by decide))
        rw [Char.ofNat, dif_pos valid]
        rfl
      have single : String.utf8EncodeChar (Char.ofNat byte.toNat) = [byte] := by
        unfold String.utf8EncodeChar
        simp only [code, if_pos (Nat.le_of_lt_succ small)]
        rw [UInt8.ofNat_toNat]
      rw [List.map_cons, List.flatMap_cons, single, ih later]
      rfl

theorem byte_cases (property : UInt8 → Bool) (checked : (List.range 256).all (fun code => property (UInt8.ofNat code)) = true)
    (byte : UInt8) : property byte = true := by
  have held := List.all_eq_true.mp checked byte.toNat (List.mem_range.mpr byte.toNat_lt)
  rwa [UInt8.ofNat_toNat] at held

theorem escaped_bytes (property : UInt8 → Bool)
    (checked : (List.range 256).all (fun code => (escapeByte (UInt8.ofNat code)).all property) = true) (byte written : UInt8)
    (escaped : written ∈ escapeByte byte) : property written = true :=
  List.all_eq_true.mp (byte_cases (fun byte => (escapeByte byte).all property) checked byte) written escaped

theorem hex_digits (byte : UInt8) : unhex (upperHex (byte / 16)) = some (byte / 16) ∧
    unhex (upperHex (byte % 16)) = some (byte % 16) ∧ byte / 16 * 16 + byte % 16 = byte := by
  have checked := byte_cases (fun byte => unhex (upperHex (byte / 16)) == some (byte / 16) &&
    (unhex (upperHex (byte % 16)) == some (byte % 16) && byte / 16 * 16 + byte % 16 == byte)) (by decide +kernel) byte
  simpa only [Bool.and_eq_true, beq_iff_eq] using checked

theorem unescape_escaped (byte : UInt8) (rest : List UInt8) :
    unescapePath (escapeByte byte ++ rest) = (unescapePath rest).map (byte :: ·) := by
  unfold escapeByte
  split
  · rename_i plain
    have ordinary : byte ≠ 37 := by
      rintro rfl
      cases plain
    rw [List.singleton_append, unescapePath.eq_def]
    simp only [if_neg ordinary]
  · obtain ⟨high, low, whole⟩ := hex_digits byte
    rw [List.cons_append, unescapePath.eq_def]
    simp only [if_pos, List.cons_append, List.nil_append, high, low, whole]

theorem unescape_escape_path (bytes : List UInt8) : unescapePath (bytes.flatMap escapeByte) = some bytes := by
  induction bytes with
  | nil => rfl
  | cons byte others ih =>
      rw [List.flatMap_cons, unescape_escaped, ih]
      rfl

theorem escaped_path_runes (path : String) (rune : Char) (member : rune ∈ (escapePath path).toList) :
    isControl rune = false ∧ rune ≠ ' ' ∧ rune ≠ '?' := by
  rw [escapePath, asciiText, String.toList_ofList] at member
  obtain ⟨written, inside, rfl⟩ := List.mem_map.mp member
  obtain ⟨byte, _, escaped⟩ := List.mem_flatMap.mp inside
  have checked := escaped_bytes (fun written => !isControl (Char.ofNat written.toNat) && (Char.ofNat written.toNat != ' ' &&
    Char.ofNat written.toNat != '?')) (by decide +kernel) byte written escaped
  simpa only [Bool.and_eq_true, Bool.not_eq_true', bne_iff_ne] using checked

theorem unescape_escape (path : String) :
    (unescapePath (bytesOf (escapePath path))).map textOf = some path := by
  have ascii : ∀ written ∈ (bytesOf path).flatMap escapeByte, written.toNat < 128 := by
    intro written member
    obtain ⟨byte, _, escaped⟩ := List.mem_flatMap.mp member
    exact of_decide_eq_true (escaped_bytes (fun written => decide (written.toNat < 128)) (by decide +kernel) byte written escaped)
  rw [escapePath, ascii_text_bytes _ ascii, unescape_escape_path, Option.map_some, text_of_bytes]

theorem escape_path_injective (left right : String) (same : escapePath left = escapePath right) : left = right := by
  have back := unescape_escape left
  rw [same, unescape_escape right] at back
  exact (Option.some.inj back).symm

def escapeRunes (text : List Char) : List Char := (escapePath (String.ofList text)).toList

theorem escape_runes_append (left right : List Char) : escapeRunes (left ++ right) = escapeRunes left ++ escapeRunes right := by
  simp only [escapeRunes, escapePath, asciiText, String.toList_ofList, bytes_of_list, List.flatMap_append, List.map_append]

theorem escape_path_rooted (path : String) (rest : List Char) (rooted : path.toList = '/' :: rest) :
    (escapePath path).toList = '/' :: escapeRunes rest := by
  have slash : escapeRunes ['/'] = ['/'] := by decide
  have whole := escape_runes_append ['/'] rest
  rw [List.singleton_append, ← rooted, escapeRunes, String.ofList_toList, slash] at whole
  exact whole

theorem escape_runes_injective (left right : List Char) (same : escapeRunes left = escapeRunes right) : left = right :=
  String.ofList_injective (escape_path_injective _ _ (String.toList_inj.mp same))

theorem escape_runes_plain (text : List Char) (absent : '/' ∉ text) : '/' ∉ escapeRunes text := by
  intro member
  rw [escapeRunes, escapePath, asciiText, String.toList_ofList] at member
  obtain ⟨written, inside, slash⟩ := List.mem_map.mp member
  obtain ⟨byte, found, escaped⟩ := List.mem_flatMap.mp inside
  have other : byte ≠ 47 := by
    rintro rfl
    exact bytes_without text '/' 47 (by decide) (by decide) absent found
  have checked := byte_cases (fun byte => byte == 47 || (escapeByte byte).all fun written => Char.ofNat written.toNat != '/')
    (by decide +kernel) byte
  rw [beq_false_of_ne other, Bool.false_or, List.all_eq_true] at checked
  exact absurd slash (bne_iff_ne.mp (checked written escaped))

-- The slashes of an escaped path are those of the path.
theorem escape_runes_intercalate (parts : List (List Char)) :
    escapeRunes (['/'].intercalate parts) = ['/'].intercalate (parts.map escapeRunes) := by
  induction parts with
  | nil => decide
  | cons first rest ih =>
      cases rest with
      | nil => simp
      | cons second rest =>
          have slash : escapeRunes ['/'] = ['/'] := by decide
          rw [List.intercalate_cons_cons, List.map_cons, List.map_cons, List.intercalate_cons_cons, escape_runes_append,
            escape_runes_append, ih, slash, List.map_cons]

-- A query that stands in a request line.
def QueryRunes (rawQuery : String) : Prop := ∀ rune ∈ rawQuery.toList, isControl rune = false ∧ rune ≠ ' '

section

variable (path rawQuery : String) (rooted : path.toList.head? = some '/') (query : QueryRunes rawQuery)

theorem request_uri_runes : (requestUri path rawQuery).toList =
    (escapePath path).toList ++ if rawQuery = "" then [] else '?' :: rawQuery.toList := by
  rw [requestUri, String.toList_append]
  split
  · rfl
  · rw [String.toList_append]
    rfl

include rooted in
theorem escape_path_head : (escapePath path).toList.head? = some '/' := by
  obtain ⟨rest, runes⟩ : ∃ rest, path.toList = '/' :: rest := by
    cases runes : path.toList with
    | nil => simp [runes] at rooted
    | cons first rest =>
        simp only [runes, List.head?_cons, Option.some.injEq] at rooted
        exact ⟨rest, by rw [rooted]⟩
  rw [escape_path_rooted path rest runes]
  rfl

include query in
theorem request_uri_plain (rune : Char) (member : rune ∈ (requestUri path rawQuery).toList) : isControl rune = false ∧ rune ≠ ' ' := by
  rw [request_uri_runes] at member
  rcases List.mem_append.mp member with front | behind
  · obtain ⟨control, blank, _⟩ := escaped_path_runes path rune front
    exact ⟨control, blank⟩
  · split at behind
    · cases behind
    · rcases List.mem_cons.mp behind with rfl | inside
      · decide
      · exact query rune inside

include rooted query in
theorem parse_target_uri : parseTarget (requestUri path rawQuery).toList = some (path, rawQuery) := by
  have front : (requestUri path rawQuery).toList.head? = some '/' := by
    rw [request_uri_runes, List.head?_append, escape_path_head path rooted]
    rfl
  have plain : (requestUri path rawQuery).toList.any isControl = false := by
    rw [List.any_eq_false]
    intro rune member
    rw [(request_uri_plain path rawQuery query rune member).1]
    exact Bool.false_ne_true
  have absent : '?' ∉ (escapePath path).toList := fun member => (escaped_path_runes path '?' member).2.2 rfl
  have parts : (cut ['?'] (requestUri path rawQuery).toList).getD ((requestUri path rawQuery).toList, []) =
      ((escapePath path).toList, rawQuery.toList) := by
    rw [request_uri_runes]
    by_cases empty : rawQuery = ""
    · rw [if_pos empty, List.append_nil, cut_absent '?' [] _ absent, empty]
      rfl
    · have found : cut ['?'] ((escapePath path).toList ++ '?' :: rawQuery.toList) =
          some ((escapePath path).toList, rawQuery.toList) := cut_found '?' [] _ _ absent
      rw [if_neg empty, found]
      rfl
  obtain ⟨bytes, unescaped, whole⟩ := Option.map_eq_some_iff.mp (unescape_escape path)
  rw [parseTarget, if_neg (by rw [front, plain]; simp), parts]
  simp only [String.ofList_toList, unescaped, Option.map_some, whole]

end

def http11 : List Char := ['H', 'T', 'T', 'P', '/', '1', '.', '1']

def requestLine (method uri : String) : List Char := method.toList ++ ' ' :: (uri.toList ++ ' ' :: http11)

structure SendableRequest (method path rawQuery : String) (sent : Fields) : Prop where
  named : method ≠ ""
  token : method.toList.all isTokenRune = true
  rooted : path.toList.head? = some '/'
  query : QueryRunes rawQuery
  fields : ∀ field ∈ sent, Sendable field
  host : hostAccepted (1, 1) method (Fields.values (sent.map canonicalField) "Host") = true

theorem parse_request_line (method uri : String) (token : method.toList.all isTokenRune = true) (plain : ' ' ∉ uri.toList) :
    parseRequestLine (requestLine method uri) = some (method.toList, uri.toList, http11) := by
  have absent : ' ' ∉ method.toList := by
    intro member
    cases (token_rune_other ' ' (List.all_eq_true.mp token _ member)).1
  have first : cut [' '] (requestLine method uri) = some (method.toList, uri.toList ++ ' ' :: http11) :=
    cut_found ' ' [] _ _ absent
  have second : cut [' '] (uri.toList ++ ' ' :: http11) = some (uri.toList, http11) :=
    cut_found ' ' [] _ _ plain
  rw [parseRequestLine, first, Option.bind_some]
  dsimp only
  rw [second]
  rfl

theorem reads_request (method path rawQuery : String) (fields : Fields) (sendable : SendableRequest method path rawQuery fields) :
    Reads readRequest
      (bytesOf (String.ofList (headText (requestLine method (requestUri path rawQuery) :: fields.map fieldLine))))
      ⟨method, path, rawQuery, 1, fields.map canonicalField⟩ := by
  have uri := request_uri_plain path rawQuery sendable.query
  refine reads_head _ _ _ _ ?_ ?_
  · intro line member
    rcases List.mem_cons.mp member with rfl | inside
    · refine ⟨List.append_ne_nil_of_right_ne_nil _ (List.cons_ne_nil _ _), ?_⟩
      intro newline
      simp only [requestLine, List.mem_append, List.mem_cons] at newline
      rcases newline with name | blank | target | blank | proto
      · exact (token_rune_other '\n' (List.all_eq_true.mp sendable.token _ name)).2.2 rfl
      · cases blank
      · cases (uri '\n' target).1
      · cases blank
      · revert proto
        decide
    · obtain ⟨field, found, rfl⟩ := List.mem_map.mp inside
      exact field_line_plain field (sendable.fields field found)
  · have line := parse_request_line method (requestUri path rawQuery) sendable.token fun blank => (uri ' ' blank).2 rfl
    have version : parseVersion http11 = some (1, 1) := by decide
    simp only [parseRequest, line, version, parse_target_uri path rawQuery sendable.rooted sendable.query,
      parse_field_lines fields sendable.fields, Option.bind_eq_bind, Option.bind_some, String.ofList_toList]
    rw [if_pos ⟨sendable.named, sendable.token, sendable.host⟩]

def statusLine (code : List Char) (reason : String) : List Char := http11 ++ ' ' :: (code ++ ' ' :: reason.toList)

theorem status_line_plain (code : List Char) (reason : String) (digits : ∀ rune ∈ code, rune.isDigit = true)
    (clean : '\n' ∉ reason.toList) : PlainLine (statusLine code reason) where
  some := List.append_ne_nil_of_right_ne_nil _ (List.cons_ne_nil _ _)
  newline := by
    intro newline
    simp only [statusLine, List.mem_append, List.mem_cons, Char.reduceEq, false_or] at newline
    rcases newline with proto | number | behind
    · revert proto
      decide
    · exact absurd (digits '\n' number) (by decide)
    · exact clean behind

theorem reads_response (code : List Char) (reason : String) (fields : Fields) (three : code.length = 3)
    (digits : code.all Char.isDigit = true) (clean : '\n' ∉ reason.toList) (sendable : ∀ field ∈ fields, Sendable field) :
    Reads readResponse (bytesOf (String.ofList (headText (statusLine code reason :: fields.map fieldLine))))
      ⟨decimal code, String.ofList (code ++ ' ' :: reason.toList), fields.map canonicalField⟩ := by
  have digit : ∀ rune ∈ code, rune.isDigit = true := List.all_eq_true.mp digits
  refine reads_head _ _ _ _ ?_ ?_
  · intro line member
    rcases List.mem_cons.mp member with rfl | inside
    · exact status_line_plain code reason digit clean
    · obtain ⟨field, found, rfl⟩ := List.mem_map.mp inside
      exact field_line_plain field (sendable field found)
  · have first : cut [' '] (statusLine code reason) = some (http11, code ++ ' ' :: reason.toList) :=
      cut_found ' ' [] http11 _ (by decide)
    have absent : ' ' ∉ code := by
      intro blank
      exact absurd (digit ' ' blank) (by decide)
    have kept : (code ++ ' ' :: reason.toList).dropWhile (· = ' ') = code ++ ' ' :: reason.toList := by
      refine drop_while_stays _ _ ?_
      intro rune head
      cases code with
      | nil => cases three
      | cons front others =>
          cases head
          refine decide_eq_false ?_
          rintro rfl
          exact absent (.head _)
    have status : parseStatus (code ++ ' ' :: reason.toList) = some (decimal code) := by
      have number : cut [' '] (code ++ ' ' :: reason.toList) = some (code, reason.toList) := cut_found ' ' [] _ _ absent
      rw [parseStatus, number]
      exact if_pos ⟨three, digits⟩
    have version : parseVersion http11 = some (1, 1) := by decide
    simp only [parseResponse, first, kept, status, version, parse_field_lines fields sendable, Option.bind_eq_bind,
      Option.bind_some]

end HttpHead
