import Mathlib.Data.List.Basic
import WarpStream.BigEndian
import WarpStream.Dialogue
import WarpStream.GoAddr
import WarpStream.GoText

set_option autoImplicit false

namespace WarpStream

open ByteReader Dialogue GoText

inductive Socks5Error where
  | invalidVersion (version : UInt8)
  | unsupportedCommand (command : UInt8)
  | unsupportedAddressType (kind : UInt8)
  | writeFailed
deriving DecidableEq, Repr

-- A failed Write is returned as it is, without a text of its own.
def Socks5Error.message : Socks5Error → Option String
  | .invalidVersion version => some ("invalid socks version: " ++ toString version.toNat)
  | .unsupportedCommand command => some ("unsupported socks command: " ++ toString command.toNat)
  | .unsupportedAddressType kind => some ("unsupported address type: " ++ toString kind.toNat)
  | .writeFailed => none

abbrev Socks5Talk := Talk Socks5Error

def readSocks5Address (kind : UInt8) : Socks5Talk (List UInt8) :=
  if kind = 0x01 then do
    let ip ← hear (readFull 4)
    pure (bytesOf (GoAddr.ipString ip))
  else if kind = 0x03 then do
    let size ← hear (readFull 1)
    hear (readFull (size.getD 0 0).toNat)
  else if kind = 0x04 then do
    let ip ← hear (readFull 16)
    pure (bytesOf (GoAddr.ipString ip))
  else refuse (.unsupportedAddressType kind)

def socks5Success : List UInt8 := [0x05, 0x00, 0x00, 0x01, 0, 0, 0, 0, 0, 0]

def handleSocks5Request : Socks5Talk (List UInt8 × UInt16) := do
  let head ← hear (readFull 4)
  require (head.getD 0 0 = 0x05 ∧ head.getD 1 0 = 0x01) (.unsupportedCommand (head.getD 1 0))
  let host ← readSocks5Address (head.getD 3 0)
  let port ← hear (readFull 2)
  say socks5Success .writeFailed
  pure (host, UInt16.ofNat (BigEndian.decode port))

-- The methods that the peer offers are read and not looked at.
def handleSocks5Handshake : Socks5Talk (List UInt8 × UInt16) := do
  let head ← hear (readFull 2)
  require (head.getD 0 0 = 0x05) (.invalidVersion (head.getD 0 0))
  let _ ← hear (readFull (head.getD 1 0).toNat)
  say [0x05, 0x00] .writeFailed
  handleSocks5Request

inductive Socks5Address where
  | ipv4 (ip : List UInt8) (four : ip.length = 4)
  | domain (name : List UInt8) (short : name.length < 256)
  | ipv6 (ip : List UInt8) (sixteen : ip.length = 16)

def Socks5Address.kind : Socks5Address → UInt8
  | .ipv4 _ _ => 0x01
  | .domain _ _ => 0x03
  | .ipv6 _ _ => 0x04

def Socks5Address.bytes : Socks5Address → List UInt8
  | .ipv4 ip _ => ip
  | .domain name _ => UInt8.ofNat name.length :: name
  | .ipv6 ip _ => ip

def Socks5Address.host : Socks5Address → List UInt8
  | .ipv4 ip _ => bytesOf (GoAddr.ipString ip)
  | .domain name _ => name
  | .ipv6 ip _ => bytesOf (GoAddr.ipString ip)

structure Socks5Request where
  reserved : UInt8
  address : Socks5Address
  port : UInt16

def Socks5Request.bytes (request : Socks5Request) : List UInt8 :=
  [0x05, 0x01, request.reserved, request.address.kind] ++ (request.address.bytes ++ BigEndian.encode 2 request.port.toNat)

structure Socks5Greeting where
  methods : List UInt8
  few : methods.length < 256

def Socks5Greeting.bytes (greeting : Socks5Greeting) : List UInt8 :=
  [0x05, UInt8.ofNat greeting.methods.length] ++ greeting.methods

def Socks5Request.target (request : Socks5Request) : List UInt8 × UInt16 := (request.address.host, request.port)

theorem greeting_unique (left right : Socks5Greeting) (leftRest rightRest : List UInt8)
    (same : left.bytes ++ leftRest = right.bytes ++ rightRest) : left.methods = right.methods ∧ leftRest = rightRest := by
  simp only [Socks5Greeting.bytes, List.cons_append, List.nil_append, List.cons.injEq, true_and] at same
  have counts := congrArg UInt8.toNat same.1
  rw [UInt8.toNat_ofNat_of_lt' left.few, UInt8.toNat_ofNat_of_lt' right.few] at counts
  exact List.append_inj same.2 counts

theorem recognises_counted :
    Recognises (do let size ← hear (readFull 1); hear (readFull (size.getD 0 0).toNat) : Socks5Talk (List UInt8))
      fun heard replies name => name.length < 256 ∧ heard = UInt8.ofNat name.length :: name ∧ replies = [] := by
  refine recognises_of_iff _ _ _
    (recognises_full_bind 1 _ _ fun size => recognises_full (size.getD 0 0).toNat) fun heard replies name => ?_
  constructor
  · intro composed
    obtain ⟨size, _, one, rfl, length, rfl, rfl⟩ := composed
    obtain ⟨byte, rfl⟩ := List.length_eq_one_iff.mp one
    have counted : name.length = byte.toNat := length
    exact ⟨by rw [counted]; exact byte.toNat_lt, by rw [counted, UInt8.ofNat_toNat]; rfl, rfl⟩
  · intro plain
    obtain ⟨short, rfl, rfl⟩ := plain
    have counted : (UInt8.ofNat name.length).toNat = name.length := UInt8.toNat_ofNat_of_lt' short
    exact ⟨[UInt8.ofNat name.length], name, rfl, rfl, counted.symm, rfl, rfl⟩

theorem ipv4_addresses (heard host : List UInt8) (replies : List (List UInt8)) :
    (heard.length = 4 ∧ host = bytesOf (GoAddr.ipString heard) ∧ replies = []) ↔
      ∃ address : Socks5Address, address.kind = 0x01 ∧ heard = address.bytes ∧ host = address.host ∧ replies = [] := by
  constructor
  · intro branch
    obtain ⟨four, rfl, rfl⟩ := branch
    exact ⟨.ipv4 heard four, rfl, rfl, rfl, rfl⟩
  · intro addressed
    obtain ⟨address, same, rfl, rfl, rfl⟩ := addressed
    cases address with
    | ipv4 ip four => exact ⟨four, rfl, rfl⟩
    | domain name short => cases same
    | ipv6 ip sixteen => cases same

theorem domain_addresses (heard host : List UInt8) (replies : List (List UInt8)) :
    (host.length < 256 ∧ heard = UInt8.ofNat host.length :: host ∧ replies = []) ↔
      ∃ address : Socks5Address, address.kind = 0x03 ∧ heard = address.bytes ∧ host = address.host ∧ replies = [] := by
  constructor
  · intro branch
    obtain ⟨short, rfl, rfl⟩ := branch
    exact ⟨.domain host short, rfl, rfl, rfl, rfl⟩
  · intro addressed
    obtain ⟨address, same, rfl, rfl, rfl⟩ := addressed
    cases address with
    | ipv4 ip four => cases same
    | domain name short => exact ⟨short, rfl, rfl⟩
    | ipv6 ip sixteen => cases same

theorem ipv6_addresses (heard host : List UInt8) (replies : List (List UInt8)) :
    (heard.length = 16 ∧ host = bytesOf (GoAddr.ipString heard) ∧ replies = []) ↔
      ∃ address : Socks5Address, address.kind = 0x04 ∧ heard = address.bytes ∧ host = address.host ∧ replies = [] := by
  constructor
  · intro branch
    obtain ⟨sixteen, rfl, rfl⟩ := branch
    exact ⟨.ipv6 heard sixteen, rfl, rfl, rfl, rfl⟩
  · intro addressed
    obtain ⟨address, same, rfl, rfl, rfl⟩ := addressed
    cases address with
    | ipv4 ip four => cases same
    | domain name short => cases same
    | ipv6 ip sixteen => exact ⟨sixteen, rfl, rfl⟩

theorem recognises_address (kind : UInt8) :
    Recognises (readSocks5Address kind) fun heard replies host =>
      ∃ address : Socks5Address, address.kind = kind ∧ heard = address.bytes ∧ host = address.host ∧ replies = [] := by
  unfold readSocks5Address
  split
  · rename_i ipv4
    rw [ipv4]
    exact recognises_of_iff _ _ _ (recognises_full_then 4 _) fun heard replies host => ipv4_addresses heard host replies
  · split
    · rename_i domain
      rw [domain]
      exact recognises_of_iff _ _ _ recognises_counted fun heard replies host => domain_addresses heard host replies
    · split
      · rename_i ipv6
        rw [ipv6]
        exact recognises_of_iff _ _ _ (recognises_full_then 16 _) fun heard replies host => ipv6_addresses heard host replies
      · rename_i ipv4 domain ipv6
        refine recognises_of_iff _ _ _ (recognises_refuse _) fun heard replies host => ⟨False.elim, ?_⟩
        intro addressed
        obtain ⟨address, same, _⟩ := addressed
        cases address with
        | ipv4 ip four => exact ipv4 same.symm
        | domain name short => exact domain same.symm
        | ipv6 ip sixteen => exact ipv6 same.symm

theorem port_bytes (port : UInt16) : UInt16.ofNat (BigEndian.decode (BigEndian.encode 2 port.toNat)) = port := by
  rw [BigEndian.decode_encode 2 port.toNat port.toNat_lt, UInt16.ofNat_toNat]

theorem bytes_port (bytes : List UInt8) (two : bytes.length = 2) :
    BigEndian.encode 2 (UInt16.ofNat (BigEndian.decode bytes)).toNat = bytes := by
  obtain ⟨fits, same⟩ := BigEndian.decode_width 2 bytes two
  rw [UInt16.toNat_ofNat_of_lt' fits, same]

theorem recognises_request :
    Recognises handleSocks5Request fun heard replies target =>
      ∃ request : Socks5Request, heard = request.bytes ∧ target = request.target ∧ replies = [socks5Success] := by
  unfold handleSocks5Request
  refine recognises_of_iff _ _ _
    (recognises_full_bind 4 _ _ fun head => recognises_require_bind _ _ _ _
      (recognises_bind _ _ _ _ (recognises_address _) fun host => recognises_full_bind 2 _ _ fun port =>
        recognises_say_bind _ _ _ _ (recognises_pure _))) fun heard replies target => ?_
  constructor
  · intro composed
    obtain ⟨head, _, four, rfl, command, host, _, _, _, _, rfl, rfl, ⟨address, kind, rfl, rfl, rfl⟩, port, _, two, rfl,
      _, rfl, rfl, rfl, rfl⟩ := composed
    obtain ⟨version, connect, reserved, type, rfl⟩ := List.length_eq_four.mp four
    obtain ⟨rfl, rfl⟩ : version = 0x05 ∧ connect = 0x01 := by simpa using command
    refine ⟨⟨reserved, address, UInt16.ofNat (BigEndian.decode port)⟩, ?_, rfl, rfl⟩
    simp only [Socks5Request.bytes, bytes_port port two, kind, List.append_nil]
    rfl
  · intro plain
    obtain ⟨request, rfl, rfl, rfl⟩ := plain
    refine ⟨[0x05, 0x01, request.reserved, request.address.kind], _, rfl, rfl, by simp, request.address.host,
      request.address.bytes, BigEndian.encode 2 request.port.toNat, [], [socks5Success], rfl, rfl,
      ⟨request.address, rfl, rfl, rfl, rfl⟩, _, [], BigEndian.encode_length 2 _, (List.append_nil _).symm, [], rfl, rfl, rfl, ?_⟩
    rw [port_bytes]
    rfl

theorem greeting_parts (head methods : List UInt8) (two : head.length = 2) (version : decide (head.getD 0 0 = 0x05) = true)
    (length : methods.length = (head.getD 1 0).toNat) :
    ∃ greeting : Socks5Greeting, greeting.methods = methods ∧ greeting.bytes = head ++ methods := by
  obtain ⟨first, count, rfl⟩ := List.length_eq_two.mp two
  obtain rfl : first = 0x05 := by simpa using version
  have counted : methods.length = count.toNat := length
  refine ⟨⟨methods, by rw [counted]; exact count.toNat_lt⟩, rfl, ?_⟩
  simp only [Socks5Greeting.bytes, counted, UInt8.ofNat_toNat]

theorem greeting_counted (greeting : Socks5Greeting) : greeting.methods.length = (UInt8.ofNat greeting.methods.length).toNat :=
  (UInt8.toNat_ofNat_of_lt' greeting.few).symm

theorem recognises_handshake :
    Recognises handleSocks5Handshake fun heard replies target =>
      ∃ (greeting : Socks5Greeting) (request : Socks5Request), heard = greeting.bytes ++ request.bytes ∧
        target = request.target ∧ replies = [[0x05, 0x00], socks5Success] := by
  unfold handleSocks5Handshake
  refine recognises_of_iff _ _ _
    (recognises_full_bind 2 _ _ fun head => recognises_require_bind _ _ _ _
      (recognises_full_bind _ _ _ fun _ => recognises_say_bind _ _ _ _ recognises_request)) fun heard replies target => ?_
  constructor
  · intro composed
    obtain ⟨head, _, two, rfl, version, methods, _, length, rfl, _, rfl, request, rfl, rfl, rfl⟩ := composed
    obtain ⟨greeting, _, bytes⟩ := greeting_parts head methods two version length
    exact ⟨greeting, request, by rw [bytes, List.append_assoc], rfl, rfl⟩
  · intro plain
    obtain ⟨greeting, request, rfl, rfl, rfl⟩ := plain
    exact ⟨[0x05, UInt8.ofNat greeting.methods.length], _, rfl, List.append_assoc _ _ _, by simp, greeting.methods, request.bytes,
      greeting_counted greeting, rfl, _, rfl, request, rfl, rfl, rfl⟩

end WarpStream
