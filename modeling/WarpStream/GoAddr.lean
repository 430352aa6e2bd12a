set_option autoImplicit false

namespace GoAddr

abbrev IP := List UInt8

def parseOctets : List UInt8 → Option Nat → List Char → Option (List UInt8)
  | octets, some value, [] => if octets.length = 3 then some (octets ++ [UInt8.ofNat value]) else none
  | _, none, [] => none
  | octets, current, char :: rest =>
      if char.isDigit then
        match current with
        | none => parseOctets octets (some (char.toNat - '0'.toNat)) rest
        | some value =>
            let next := value * 10 + (char.toNat - '0'.toNat)
            if value = 0 ∨ 255 < next then none else parseOctets octets (some next) rest
      else if char = '.' then
        match current with
        | none => none
        | some value => if octets.length = 3 then none else parseOctets (octets ++ [UInt8.ofNat value]) none rest
      else none

def parseIPv4 (text : List Char) : Option IP := parseOctets [] none text

def hexValue (char : Char) : Option Nat :=
  if char.isDigit then some (char.toNat - '0'.toNat)
  else if 'a' ≤ char ∧ char ≤ 'f' then some (char.toNat - 'a'.toNat + 10)
  else if 'A' ≤ char ∧ char ≤ 'F' then some (char.toNat - 'A'.toNat + 10)
  else none

def hexDigits : List Char → List Nat
  | [] => []
  | char :: rest =>
      match hexValue char with
      | none => []
      | some value => value :: hexDigits rest

-- One pass of the loop over 16-bit groups; the first argument counts the
-- groups that still fit. The position of the ellipsis is counted in bytes.
def parseGroups : Nat → List UInt8 → Option Nat → List Char → Option (List UInt8 × Option Nat)
  | 0, bytes, ellipsis, text => if text = [] then some (bytes, ellipsis) else none
  | groups + 1, bytes, ellipsis, text =>
      let digits := hexDigits text
      let rest := text.drop digits.length
      if digits = [] ∨ 4 < digits.length then none
      else if rest.head? = some '.' then
        if (ellipsis = none ∧ bytes.length ≠ 12) ∨ 16 < bytes.length + 4 then none
        else (parseIPv4 text).map fun tail => (bytes ++ tail, ellipsis)
      else
        let value := digits.foldl (fun acc digit => acc * 16 + digit) 0
        let bytes := bytes ++ [UInt8.ofNat (value / 256), UInt8.ofNat value]
        match rest with
        | [] => some (bytes, ellipsis)
        | [_] => none
        | first :: second :: tail =>
            if first ≠ ':' then none
            else if second = ':' then
              if ellipsis.isSome then none
              else if tail = [] then some (bytes, some bytes.length)
              else parseGroups groups bytes (some bytes.length) tail
            else parseGroups groups bytes ellipsis (second :: tail)

def expandEllipsis : List UInt8 × Option Nat → Option IP
  | (bytes, none) => if bytes.length = 16 then some bytes else none
  | (bytes, some position) =>
      if bytes.length < 16 then
        some (bytes.take position ++ List.replicate (16 - bytes.length) 0 ++ bytes.drop position)
      else none

-- An address with a zone is refused by ParseIP, so no zone is split off.
def parseIPv6 (text : List Char) : Option IP :=
  match text with
  | ':' :: ':' :: [] => some (List.replicate 16 0)
  | ':' :: ':' :: rest => (parseGroups 8 [] (some 0) rest).bind expandEllipsis
  | _ => (parseGroups 8 [] none text).bind expandEllipsis

def mappedPrefix : List UInt8 := List.replicate 10 0 ++ [255, 255]

def parseIP (text : String) : Option IP :=
  match text.toList.find? fun char => char = '.' ∨ char = ':' ∨ char = '%' with
  | some '.' => (parseIPv4 text.toList).map (mappedPrefix ++ ·)
  | some ':' => parseIPv6 text.toList
  | _ => none

theorem parse_octets_length (octets found : List UInt8) (current : Option Nat) (text : List Char)
    (parsed : parseOctets octets current text = some found) : found.length = 4 := by
  induction text generalizing octets current with
  | nil =>
      cases current with
      | none => simp [parseOctets] at parsed
      | some value =>
          simp only [parseOctets] at parsed
          split at parsed
          · rename_i three
            cases parsed
            simp [three]
          · cases parsed
  | cons char rest ih =>
      cases current with
      | none =>
          simp only [parseOctets] at parsed
          split at parsed
          · exact ih _ _ parsed
          · split at parsed <;> cases parsed
      | some value =>
          simp only [parseOctets] at parsed
          split at parsed
          · split at parsed
            · cases parsed
            · exact ih _ _ parsed
          · split at parsed
            · split at parsed
              · cases parsed
              · exact ih _ _ parsed
            · cases parsed

theorem expand_ellipsis_length (groups : List UInt8 × Option Nat) (ip : IP) (expanded : expandEllipsis groups = some ip) :
    ip.length = 16 := by
  obtain ⟨bytes, ellipsis⟩ := groups
  cases ellipsis with
  | none =>
      simp only [expandEllipsis] at expanded
      split at expanded
      · rename_i whole
        cases expanded
        exact whole
      · cases expanded
  | some position =>
      simp only [expandEllipsis] at expanded
      split at expanded
      · cases expanded
        simp only [List.length_append, List.length_take, List.length_replicate, List.length_drop]
        omega
      · cases expanded

theorem parse_ip_length (text : String) (ip : IP) (parsed : parseIP text = some ip) : ip.length = 16 := by
  unfold parseIP at parsed
  split at parsed
  · obtain ⟨short, four, same⟩ := Option.map_eq_some_iff.mp parsed
    rw [← same, List.length_append, parse_octets_length [] short none text.toList four]
    rfl
  · unfold parseIPv6 at parsed
    split at parsed
    · cases parsed
      rfl
    · obtain ⟨groups, _, expanded⟩ := Option.bind_eq_some_iff.mp parsed
      exact expand_ellipsis_length groups ip expanded
    · obtain ⟨groups, _, expanded⟩ := Option.bind_eq_some_iff.mp parsed
      exact expand_ellipsis_length groups ip expanded
  · cases parsed

def to4 (ip : IP) : Option IP :=
  if ip.length = 4 then some ip
  else if ip.length = 16 ∧ ip.take 12 = mappedPrefix then some (ip.drop 12)
  else none

def to16 (ip : IP) : Option IP :=
  if ip.length = 4 then some (mappedPrefix ++ ip)
  else if ip.length = 16 then some ip
  else none

structure IPNet where
  ip : IP
  mask : List UInt8
deriving DecidableEq, Repr

def networkNumberAndMask (net : IPNet) : Option (IP × List UInt8) :=
  let number := (to4 net.ip).getD net.ip
  if number.length ≠ 4 ∧ number.length ≠ 16 then none
  else if net.mask.length = 4 then if number.length = 4 then some (number, net.mask) else none
  else if net.mask.length = 16 then some (number, if number.length = 4 then net.mask.drop 12 else net.mask)
  else none

def contains (net : IPNet) (ip : IP) : Bool :=
  match networkNumberAndMask net with
  | none => false
  | some (number, mask) =>
      let ip := (to4 ip).getD ip
      ip.length == number.length &&
        (ip.zip (number.zip mask)).all fun (byte, network, bits) => network &&& bits == byte &&& bits

def hexText (value : Nat) : List Char := Nat.toDigits 16 value

def group (ip : IP) (index : Nat) : Nat := (ip.getD (2 * index) 0).toNat * 256 + (ip.getD (2 * index + 1) 0).toNat

def zeroRun (ip : IP) : Nat → Nat → Nat
  | 0, _ => 0
  | left + 1, index => if group ip index = 0 then zeroRun ip left (index + 1) + 1 else 0

def longestZeroRun (ip : IP) : Option (Nat × Nat) :=
  (List.range 8).foldl
    (fun best index =>
      let length := zeroRun ip (8 - index) index
      if 2 ≤ length ∧ (best.map (·.2)).getD 0 < length then some (index, length) else best)
    none

def colonJoin (groups : List (List Char)) : List Char := [':'].intercalate groups

def ipv6Text (ip : IP) : List Char :=
  let groups := (List.range 8).map fun index => hexText (group ip index)
  match longestZeroRun ip with
  | some (start, length) => colonJoin (groups.take start) ++ [':', ':'] ++ colonJoin (groups.drop (start + length))
  | none => colonJoin groups

def ipv4Text (ip : IP) : List Char := ['.'].intercalate (ip.map fun byte => Nat.toDigits 10 byte.toNat)

def ipString (ip : IP) : String :=
  match to4 ip with
  | some short => String.ofList (ipv4Text short)
  | none => String.ofList (ipv6Text ip)

end GoAddr
