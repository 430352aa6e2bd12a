import WarpStream.ByteBuffer
import WarpStream.ByteReader
import WarpStream.BufWriter
import WarpStream.BigEndian
import WarpStream.GoText
import WarpStream.GoAddr

set_option autoImplicit false

namespace WarpStream

open ByteBuffer ByteReader BufWriter GoText GoAddr

structure InetAddr where
  ip : Option IP
  port : Int
deriving DecidableEq, Repr

-- A net.Addr: the nil interface, a TCP or UDP address behind a pointer that may
-- be nil, or any other type, of which only the text is used.
inductive NetAddr where
  | absent
  | tcp (addr : Option InetAddr)
  | udp (addr : Option InetAddr)
  | other (text : String)
deriving DecidableEq, Repr

def inetEndpoint (addr : Option InetAddr) : Option (IP × UInt16) :=
  addr.bind fun addr => addr.ip.map fun ip => (ip, UInt16.ofInt addr.port)

def parseIPPort : NetAddr → Option (IP × UInt16)
  | .absent => none
  | .tcp addr => inetEndpoint addr
  | .udp addr => inetEndpoint addr
  | .other text =>
      match splitHostPort text with
      | .error _ => none
      | .ok (host, port) =>
          match parseIP host with
          | none => none
          | some ip =>
              match parseUint port 16 with
              | (_, some _) => none
              | (number, none) => some (ip, UInt16.ofNat number)

def v2Signature : List UInt8 := [0x0D, 0x0A, 0x0D, 0x0A, 0x00, 0x0D, 0x0A, 0x51, 0x55, 0x49, 0x54, 0x0A]

def v2Header (command family : UInt8) (length : Nat) : List UInt8 :=
  let buf := List.replicate (16 + length) 0
  let buf := copy buf 0 12 v2Signature
  let buf := buf.set 12 command
  let buf := buf.set 13 family
  copy buf 14 16 (BigEndian.encode 2 length)

def v2Local : List UInt8 := v2Header 0x20 0x00 0

-- The two address blocks differ in the family byte and in the width of an
-- address: 4 bytes give the offsets 16, 20, 24, 26 and 16 bytes 16, 32, 48, 50.
def v2Addressed (family : UInt8) (width : Nat) (src dst : IP) (srcPort dstPort : UInt16) : List UInt8 :=
  let buf := v2Header 0x21 family (2 * width + 4)
  let buf := copy buf 16 (16 + width) src
  let buf := copy buf (16 + width) (16 + 2 * width) dst
  let buf := copy buf (16 + 2 * width) (18 + 2 * width) (BigEndian.encode 2 srcPort.toNat)
  copy buf (18 + 2 * width) (20 + 2 * width) (BigEndian.encode 2 dstPort.toNat)

def proxyHeaderV2 (src dst : NetAddr) : List UInt8 :=
  match parseIPPort src, parseIPPort dst with
  | some (srcIP, srcPort), some (dstIP, dstPort) =>
      match to4 srcIP, to4 dstIP with
      | some src4, some dst4 => v2Addressed 0x11 4 src4 dst4 srcPort dstPort
      | _, _ =>
          match to16 srcIP, to16 dstIP with
          | some src6, some dst6 => v2Addressed 0x21 16 src6 dst6 srcPort dstPort
          | _, _ => v2Local
  | _, _ => v2Local

def writeProxyHeaderV2 (socket : Socket) (src dst : NetAddr) : Written := socket.write (proxyHeaderV2 src dst)

-- The layout of the protocol, read back: signature, version and command, family
-- and transport, the length of what follows, the address block. Bytes behind
-- the addresses but inside the length are extensions, and skipped.
structure ProxyAddresses where
  src : IP
  srcPort : Nat
  dst : IP
  dstPort : Nat
deriving DecidableEq, Repr

inductive ProxyHeader where
  | unspecified
  | inet (addresses : ProxyAddresses)
  | inet6 (addresses : ProxyAddresses)
deriving DecidableEq, Repr

inductive ProxyFault where
  | signature
  | version
  | addressBlock
deriving DecidableEq, Repr

def addressBlock (width : Nat) (body : List UInt8) : ProxyAddresses :=
  { src := body.take width
    dst := (body.drop width).take width
    srcPort := BigEndian.decode ((body.drop (2 * width)).take 2)
    dstPort := BigEndian.decode ((body.drop (2 * width + 2)).take 2) }

def proxyBody (command family : UInt8) (body : List UInt8) : Except ProxyFault ProxyHeader :=
  if command = 0x20 then .ok .unspecified
  else if command = 0x21 then
    if family / 16 = 1 ∧ 12 ≤ body.length then .ok (.inet (addressBlock 4 body))
    else if family / 16 = 2 ∧ 36 ≤ body.length then .ok (.inet6 (addressBlock 16 body))
    else if family / 16 = 0 then .ok .unspecified
    else .error .addressBlock
  else .error .version

def interpretProxy (command family : UInt8) (body : List UInt8) : Reader ProxyFault ProxyHeader :=
  match proxyBody command family body with
  | .ok header => pure header
  | .error fault => fail fault

def readProxyHeaderV2 : Reader ProxyFault ProxyHeader := do
  let signature ← readFull 12
  if signature = v2Signature then
    let command ← readByte
    let family ← readByte
    let size ← readFull 2
    let body ← readFull (BigEndian.decode size)
    interpretProxy command family body
  else fail .signature

theorem v2_header_bytes (command family : UInt8) (length : Nat) : v2Header command family length =
    v2Signature ++ [command] ++ [family] ++ BigEndian.encode 2 length ++ List.replicate length 0 := by
  have start := copy_next [] v2Signature 0 12 (16 + length) rfl rfl
  rw [List.nil_append, List.nil_append] at start
  rw [v2Header]
  simp only [start]
  rw [set_next v2Signature command 12 _ rfl (by simp [v2Signature]; omega), set_next _ family 13 _ rfl (by simp [v2Signature]; omega),
    copy_next _ _ 14 16 _ rfl rfl]
  have free : 16 + length - 12 - 1 - 1 - 2 = length := by omega
  simp [v2Signature, free]

theorem v2_addressed_bytes (family : UInt8) (width : Nat) (src dst : IP) (srcPort dstPort : UInt16)
    (srcWidth : src.length = width) (dstWidth : dst.length = width) :
    v2Addressed family width src dst srcPort dstPort =
      v2Signature ++ [0x21] ++ [family] ++ BigEndian.encode 2 (2 * width + 4) ++
        (src ++ dst ++ BigEndian.encode 2 srcPort.toNat ++ BigEndian.encode 2 dstPort.toNat) := by
  have sixteen : (v2Signature ++ [0x21] ++ [family] ++ BigEndian.encode 2 (2 * width + 4)).length = 16 := rfl
  rw [v2Addressed]
  simp only [v2_header_bytes]
  generalize v2Signature ++ [0x21] ++ [family] ++ BigEndian.encode 2 (2 * width + 4) = done at sixteen ⊢
  rw [copy_next done src 16 _ _ sixteen (by omega), copy_next _ dst _ _ _ (by simp [*]) (by omega),
    copy_next _ _ _ _ _ (by simp [*]; omega) (by simp; omega), copy_next _ _ _ _ _ (by simp [*]; omega) (by simp; omega)]
  have free : 2 * width + 4 - src.length - dst.length - 2 - 2 = 0 := by omega
  simp [free]

theorem reads_proxy_header (command family : UInt8) (body : List UInt8) (header : ProxyHeader) (fits : body.length < 65536)
    (meaning : proxyBody command family body = .ok header) :
    Reads readProxyHeaderV2
      (v2Signature ++ [command] ++ [family] ++ BigEndian.encode 2 body.length ++ body) header := by
  have size : BigEndian.decode (BigEndian.encode 2 body.length) = body.length := BigEndian.decode_encode 2 _ fits
  intro rest
  simp only [List.append_assoc]
  rw [readProxyHeaderV2, bind_reads (readFull 12) _ v2Signature _ v2Signature (reads_full v2Signature), if_pos rfl,
    bind_reads readByte _ [command] _ command (reads_byte command), bind_reads readByte _ [family] _ family (reads_byte family),
    bind_reads (readFull 2) _ _ _ _ (reads_full (BigEndian.encode 2 body.length)), size,
    bind_reads (readFull body.length) _ body rest body (reads_full body), interpretProxy, meaning]
  rfl

theorem address_block_fields (src dst : IP) (srcPort dstPort : UInt16) (width : Nat) (srcWidth : src.length = width)
    (dstWidth : dst.length = width) :
    addressBlock width (src ++ dst ++ BigEndian.encode 2 srcPort.toNat ++ BigEndian.encode 2 dstPort.toNat) =
      ⟨src, srcPort.toNat, dst, dstPort.toNat⟩ := by
  have source : BigEndian.decode (BigEndian.encode 2 srcPort.toNat) = srcPort.toNat :=
    BigEndian.decode_encode 2 _ srcPort.toNat_lt
  have destination : BigEndian.decode (BigEndian.encode 2 dstPort.toNat) = dstPort.toNat :=
    BigEndian.decode_encode 2 _ dstPort.toNat_lt
  have both : (src ++ dst).length = 2 * width := by
    rw [List.length_append]
    omega
  have third : (src ++ dst ++ BigEndian.encode 2 srcPort.toNat).length = 2 * width + 2 := by
    rw [List.length_append, both, BigEndian.encode_length]
  have first := window [] src (dst ++ BigEndian.encode 2 srcPort.toNat ++ BigEndian.encode 2 dstPort.toNat) 0 width rfl srcWidth
  have second := window src dst (BigEndian.encode 2 srcPort.toNat ++ BigEndian.encode 2 dstPort.toNat) width width srcWidth dstWidth
  have sourcePort := window (src ++ dst) (BigEndian.encode 2 srcPort.toNat) (BigEndian.encode 2 dstPort.toNat) _ 2 both rfl
  have targetPort := window _ (BigEndian.encode 2 dstPort.toNat) [] _ 2 third rfl
  simp only [List.append_assoc, List.nil_append, List.append_nil, List.drop_zero] at first second sourcePort targetPort
  simp only [addressBlock, List.append_assoc, first, second, sourcePort, targetPort, source, destination]

inductive Yields : NetAddr → IP → Nat → Prop where
  | tcp (ip : IP) (port : Nat) : Yields (.tcp (some ⟨some ip, port⟩)) ip port
  | udp (ip : IP) (port : Nat) : Yields (.udp (some ⟨some ip, port⟩)) ip port
  | text (text host : String) (portText : List Char) (ip : IP) (port : Nat)
      (split : splitHostPort text = .ok (host, String.ofList portText)) (address : parseIP host = some ip)
      (number : IsPort portText port) : Yields (.other text) ip port

structure InetAddr.Proper (addr : InetAddr) : Prop where
  width : ∀ ip, addr.ip = some ip → ip.length = 4 ∨ ip.length = 16
  range : 0 ≤ addr.port ∧ addr.port ≤ 65535

def NetAddr.Proper : NetAddr → Prop
  | .tcp (some addr) => addr.Proper
  | .udp (some addr) => addr.Proper
  | _ => True

theorem port_truncation (port : Int) (range : 0 ≤ port ∧ port ≤ 65535) (number : UInt16) :
    UInt16.ofInt port = number ↔ port = number.toNat := by
  obtain ⟨low, high⟩ := range
  obtain ⟨value, rfl⟩ := Int.eq_ofNat_of_zero_le low
  have small : value < 65536 := by omega
  have same : (UInt16.ofInt value).toNat = value := by
    simp [UInt16.ofInt]
    omega
  rw [← UInt16.toNat_inj, same]
  omega

theorem inet_endpoint_iff (addr : Option InetAddr) (proper : ∀ inner, addr = some inner → inner.Proper) (ip : IP)
    (port : UInt16) : inetEndpoint addr = some (ip, port) ↔ addr = some ⟨some ip, port.toNat⟩ := by
  cases addr with
  | none => simp [inetEndpoint]
  | some inner =>
      have truncated := port_truncation inner.port (proper inner rfl).range port
      obtain ⟨bytes, number⟩ := inner
      cases bytes with
      | none => simp [inetEndpoint]
      | some bytes => simp [inetEndpoint, truncated]

theorem parse_ip_port_iff (addr : NetAddr) (proper : addr.Proper) (ip : IP) (port : UInt16) :
    parseIPPort addr = some (ip, port) ↔ Yields addr ip port.toNat := by
  cases addr with
  | absent =>
      refine iff_of_false (by simp [parseIPPort]) ?_
      rintro ⟨⟩
  | tcp addr =>
      rw [parseIPPort, inet_endpoint_iff addr (by rintro inner rfl; exact proper) ip port]
      constructor
      · rintro rfl
        exact .tcp ip port.toNat
      · rintro ⟨⟩
        rfl
  | udp addr =>
      rw [parseIPPort, inet_endpoint_iff addr (by rintro inner rfl; exact proper) ip port]
      constructor
      · rintro rfl
        exact .udp ip port.toNat
      · rintro ⟨⟩
        rfl
  | other text =>
      constructor
      · intro parsed
        simp only [parseIPPort] at parsed
        split at parsed
        · cases parsed
        · rename_i host portText split
          split at parsed
          · cases parsed
          · rename_i found address
            split at parsed
            · cases parsed
            · rename_i number read
              cases parsed
              rw [← String.ofList_toList (s := portText)] at split read
              have written := (parse_port_iff portText.toList number).mp read
              rw [UInt16.toNat_ofNat_of_lt' (Nat.lt_succ_of_le written.2)]
              exact .text text host portText.toList ip number split address written
      · intro yields
        cases yields with
        | text _ host portText _ _ split address number =>
            have read := (parse_port_iff portText port.toNat).mpr number
            simp only [parseIPPort, split, address, read, UInt16.ofNat_toNat]

theorem yields_width (addr : NetAddr) (proper : addr.Proper) (ip : IP) (port : Nat) (yields : Yields addr ip port) :
    ip.length = 4 ∨ ip.length = 16 := by
  cases yields with
  | tcp => exact proper.width ip rfl
  | udp => exact proper.width ip rfl
  | text _ host _ _ _ _ address _ => exact .inr (parse_ip_length host ip address)

-- The 16-byte form of an address, an IPv4 one mapped.
def sixteenBytes (ip : IP) : IP := if ip.length = 4 then mappedPrefix ++ ip else ip

def proxied (srcIP : IP) (srcPort : Nat) (dstIP : IP) (dstPort : Nat) : ProxyHeader :=
  match to4 srcIP, to4 dstIP with
  | some src4, some dst4 => .inet ⟨src4, srcPort, dst4, dstPort⟩
  | _, _ => .inet6 ⟨sixteenBytes srcIP, srcPort, sixteenBytes dstIP, dstPort⟩

theorem to4_length (ip short : IP) (found : to4 ip = some short) : short.length = 4 := by
  rw [to4] at found
  split at found
  · cases found
    assumption
  · split at found
    · rename_i mapped
      cases found
      rw [List.length_drop, mapped.1]
    · cases found

theorem to16_width (ip : IP) (width : ip.length = 4 ∨ ip.length = 16) :
    to16 ip = some (sixteenBytes ip) ∧ (sixteenBytes ip).length = 16 := by
  rcases width with four | sixteen
  · simp [to16, sixteenBytes, four, mappedPrefix]
  · simp [to16, sixteenBytes, sixteen]

-- What a decoder makes of a header, and that it stops where the header ends.
structure DecodesTo (bytes : List UInt8) (header : ProxyHeader) : Prop where
  decoded : Reads readProxyHeaderV2 bytes header
  size : bytes.length = 16 + BigEndian.decode ((bytes.drop 14).take 2)

theorem header_decodes (command family : UInt8) (body : List UInt8) (header : ProxyHeader) (fits : body.length < 65536)
    (meaning : proxyBody command family body = .ok header) :
    DecodesTo (v2Signature ++ [command] ++ [family] ++ BigEndian.encode 2 body.length ++ body) header := by
  refine ⟨reads_proxy_header command family body header fits meaning, ?_⟩
  have field := window (v2Signature ++ [command] ++ [family]) (BigEndian.encode 2 body.length) body 14 2 rfl rfl
  rw [← List.append_assoc] at field
  rw [field, BigEndian.decode_encode 2 _ fits]
  simp [v2Signature]
  omega

theorem local_decodes : DecodesTo v2Local .unspecified := by
  have carried := header_decodes 0x20 0x00 [] .unspecified (by decide) rfl
  rwa [List.append_nil] at carried

theorem addressed_decodes (family : UInt8) (width : Nat) (src dst : IP) (srcPort dstPort : UInt16) (header : ProxyHeader)
    (small : width ≤ 16) (srcWidth : src.length = width) (dstWidth : dst.length = width)
    (meaning : ∀ body, body.length = 2 * width + 4 → addressBlock width body = ⟨src, srcPort.toNat, dst, dstPort.toNat⟩ →
      proxyBody 0x21 family body = .ok header) : DecodesTo (v2Addressed family width src dst srcPort dstPort) header := by
  have block := address_block_fields src dst srcPort dstPort width srcWidth dstWidth
  have bytes := v2_addressed_bytes family width src dst srcPort dstPort srcWidth dstWidth
  have size : (src ++ dst ++ BigEndian.encode 2 srcPort.toNat ++ BigEndian.encode 2 dstPort.toNat).length = 2 * width + 4 := by
    simp only [List.length_append, BigEndian.encode_length]
    omega
  have carried := header_decodes 0x21 family _ header (by omega) (meaning _ size block)
  rwa [size, ← bytes] at carried

theorem proxied_decodes (src dst : NetAddr) (srcIP dstIP : IP) (srcPort dstPort : UInt16)
    (source : parseIPPort src = some (srcIP, srcPort)) (destination : parseIPPort dst = some (dstIP, dstPort))
    (srcWidth : srcIP.length = 4 ∨ srcIP.length = 16) (dstWidth : dstIP.length = 4 ∨ dstIP.length = 16) :
    DecodesTo (proxyHeaderV2 src dst) (proxied srcIP srcPort.toNat dstIP dstPort.toNat) := by
  have wide : DecodesTo (v2Addressed 0x21 16 (sixteenBytes srcIP) (sixteenBytes dstIP) srcPort dstPort)
      (.inet6 ⟨sixteenBytes srcIP, srcPort.toNat, sixteenBytes dstIP, dstPort.toNat⟩) := by
    refine addressed_decodes 0x21 16 _ _ srcPort dstPort _ (by decide) (to16_width srcIP srcWidth).2 (to16_width dstIP dstWidth).2 ?_
    intro body size block
    simp [proxyBody, size, block]
  simp only [proxyHeaderV2, proxied, source, destination, (to16_width srcIP srcWidth).1, (to16_width dstIP dstWidth).1]
  cases first : to4 srcIP with
  | none => exact wide
  | some src4 =>
      cases second : to4 dstIP with
      | none => exact wide
      | some dst4 =>
          refine addressed_decodes 0x11 4 src4 dst4 srcPort dstPort _ (by decide) (to4_length srcIP src4 first)
            (to4_length dstIP dst4 second) ?_
          intro body size block
          simp [proxyBody, size, block]

theorem yields_parsed (addr : NetAddr) (proper : addr.Proper) (ip : IP) (port : Nat) (yields : Yields addr ip port) :
    ∃ number : UInt16, parseIPPort addr = some (ip, number) ∧ number.toNat = port := by
  have small : port < 65536 := by
    cases yields with
    | tcp => exact Nat.lt_succ_of_le (Int.ofNat_le.mp proper.range.2)
    | udp => exact Nat.lt_succ_of_le (Int.ofNat_le.mp proper.range.2)
    | text _ _ _ _ _ _ _ number => exact Nat.lt_succ_of_le number.2
  have same : (UInt16.ofNat port).toNat = port := UInt16.toNat_ofNat_of_lt' small
  exact ⟨UInt16.ofNat port, (parse_ip_port_iff addr proper ip _).mpr (same.symm ▸ yields), same⟩

theorem no_endpoint (addr : NetAddr) (proper : addr.Proper) :
    parseIPPort addr = none ↔ ∀ ip port, ¬ Yields addr ip port := by
  constructor
  · intro absent ip port yields
    obtain ⟨number, parsed, _⟩ := yields_parsed addr proper ip port yields
    cases absent.symm.trans parsed
  · intro silent
    cases parsed : parseIPPort addr with
    | none => rfl
    | some endpoint => exact absurd ((parse_ip_port_iff addr proper endpoint.1 endpoint.2).mp parsed) (silent _ _)

theorem unspecified_without_endpoint (src dst : NetAddr) (missing : parseIPPort src = none ∨ parseIPPort dst = none) :
    proxyHeaderV2 src dst = v2Local := by
  rcases missing with none | none
  · simp only [proxyHeaderV2, none]
  · cases source : parseIPPort src <;> simp only [proxyHeaderV2, none, source]

theorem proxied_specified (srcIP dstIP : IP) (srcPort dstPort : Nat) : proxied srcIP srcPort dstIP dstPort ≠ .unspecified := by
  rw [proxied]
  split <;> simp

theorem proxy_header_decodes (socket : Socket) (src dst : NetAddr) (srcProper : src.Proper) (dstProper : dst.Proper)
    (written : (writeProxyHeaderV2 socket src dst).done = true) :
    ∃ bytes header, (writeProxyHeaderV2 socket src dst).socket.sent = socket.sent ++ bytes ∧ DecodesTo bytes header ∧
      (header = .unspecified ↔ (∀ ip port, ¬ Yields src ip port) ∨ ∀ ip port, ¬ Yields dst ip port) ∧
      ∀ srcIP srcPort dstIP dstPort, Yields src srcIP srcPort → Yields dst dstIP dstPort →
        header = proxied srcIP srcPort dstIP dstPort := by
  obtain ⟨sent, _⟩ := socket_write_ok socket (proxyHeaderV2 src dst) written
  rw [← no_endpoint src srcProper, ← no_endpoint dst dstProper]
  by_cases missing : parseIPPort src = none ∨ parseIPPort dst = none
  · refine ⟨v2Local, .unspecified, ?_, local_decodes, iff_of_true rfl missing, ?_⟩
    · rw [← unspecified_without_endpoint src dst missing]
      exact sent
    · intro srcIP srcPort dstIP dstPort source destination
      obtain ⟨_, srcFound, _⟩ := yields_parsed src srcProper srcIP srcPort source
      obtain ⟨_, dstFound, _⟩ := yields_parsed dst dstProper dstIP dstPort destination
      rcases missing with none | none
      · cases none.symm.trans srcFound
      · cases none.symm.trans dstFound
  · obtain ⟨srcSome, dstSome⟩ := not_or.mp missing
    obtain ⟨⟨srcIP, srcPort⟩, source⟩ := Option.ne_none_iff_exists'.mp srcSome
    obtain ⟨⟨dstIP, dstPort⟩, destination⟩ := Option.ne_none_iff_exists'.mp dstSome
    have srcWidth := yields_width src srcProper srcIP _ ((parse_ip_port_iff src srcProper srcIP srcPort).mp source)
    have dstWidth := yields_width dst dstProper dstIP _ ((parse_ip_port_iff dst dstProper dstIP dstPort).mp destination)
    refine ⟨proxyHeaderV2 src dst, proxied srcIP srcPort.toNat dstIP dstPort.toNat, sent,
      proxied_decodes src dst srcIP dstIP srcPort dstPort source destination srcWidth dstWidth,
      iff_of_false (proxied_specified srcIP dstIP _ _) missing, ?_⟩
    intro otherSrc otherSrcPort otherDst otherDstPort srcYields dstYields
    obtain ⟨_, srcFound, rfl⟩ := yields_parsed src srcProper otherSrc otherSrcPort srcYields
    obtain ⟨_, dstFound, rfl⟩ := yields_parsed dst dstProper otherDst otherDstPort dstYields
    cases source.symm.trans srcFound
    cases destination.symm.trans dstFound
    rfl

-- An IPv4 source and an IPv6 destination: the source goes out mapped.
theorem mixed_families_decode :
    let src := NetAddr.tcp (some ⟨some [10, 0, 0, 1], 4000⟩)
    let dst := NetAddr.other "[2001:db8::1]:443"
    ∃ bytes header, (writeProxyHeaderV2 ⟨[], []⟩ src dst).socket.sent = [] ++ bytes ∧ DecodesTo bytes header ∧
      (header = .unspecified ↔ (∀ ip port, ¬ Yields src ip port) ∨ ∀ ip port, ¬ Yields dst ip port) ∧
      ∀ srcIP srcPort dstIP dstPort, Yields src srcIP srcPort → Yields dst dstIP dstPort →
        header = proxied srcIP srcPort dstIP dstPort :=
  proxy_header_decodes ⟨[], []⟩ (.tcp (some ⟨some [10, 0, 0, 1], 4000⟩)) (.other "[2001:db8::1]:443")
    ⟨by rintro ip ⟨⟩; exact .inl rfl, by decide⟩ trivial rfl

example : proxyHeaderV2 (.tcp (some ⟨some [10, 0, 0, 1], 4000⟩)) (.udp (some ⟨some [192, 168, 1, 2], 53⟩)) =
    v2Signature ++ [0x21, 0x11, 0, 12, 10, 0, 0, 1, 192, 168, 1, 2, 15, 160, 0, 53] := by decide +kernel

end WarpStream
