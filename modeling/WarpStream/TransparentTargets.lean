import Mathlib.Data.List.TakeWhile
import WarpStream.ForwardArg
import WarpStream.JsonCodec
import WarpStream.OrigDst
import WarpStream.ProxyTargets
import WarpStream.UdpDestinations

set_option autoImplicit false

namespace WarpStream

open GoAddr GoText

-- A TCPAddr or UDPAddr of a socket.
structure SocketAddr where
  ip : IP
  zone : String
  port : UInt16
  sized : ip.length = 4 ∨ ip.length = 16
  bare : Bare zone

def SocketAddr.host (addr : SocketAddr) : String :=
  if addr.zone = "" then ipString addr.ip else ipString addr.ip ++ "%" ++ addr.zone

def SocketAddr.text (addr : SocketAddr) : String := joinHostPort addr.host (formatPort addr.port)

-- Sscanf with %d leaves the port at zero if the digits do not fit.
def sscanfPort (text : String) : UInt16 :=
  match parseUint (String.ofList (text.toList.takeWhile Char.isDigit)) 16 with
  | (number, none) => UInt16.ofNat number
  | (_, some _) => 0

def addrToHostPort (addr : Option String) : Except String OrigDst :=
  match addr with
  | none => .error "nil address"
  | some text =>
      match splitHostPort text with
      | .error fault => .error fault.text
      | .ok (host, port) => .ok ⟨host, sscanfPort port⟩

def addrToHostPortParsed (addr : Option String) : Except String OrigDst :=
  match addr with
  | none => .ok ⟨"", 0⟩
  | some text => addrToHostPort (some text)

-- The buffer of a getsockopt without error, and the length it reports.
structure SockOpt (size : Nat) where
  buffer : List UInt8
  addrLen : UInt32
  full : buffer.length = size

-- The descriptor is missing if the connection is not TCP or does not give it away; an
-- answer is missing if getsockopt fails.
structure AcceptedConn where
  localAddr : Option String
  descriptor : Option (Option (SockOpt 16) × Option (SockOpt 28))

def soOriginalDst : Option (SockOpt 16) → Option (SockOpt 28) → Option (IP × UInt16)
  | answer, answer6 =>
      match answer.filter (8 ≤ ·.addrLen) with
      | some found => some (mappedPrefix ++ (found.buffer.take 8).drop 4, cmsgPort ((found.buffer.take 4).drop 2))
      | none =>
          (answer6.filter (24 ≤ ·.addrLen)).map fun found =>
            ((found.buffer.take 24).drop 8, cmsgPort ((found.buffer.take 4).drop 2))

def getOriginalDst (conn : AcceptedConn) : Except String OrigDst :=
  match conn.descriptor.bind fun (answer, answer6) => soOriginalDst answer answer6 with
  | some (ip, port) => if port ≠ 0 then .ok ⟨ipString ip, port⟩ else addrToHostPort conn.localAddr
  | none => addrToHostPort conn.localAddr

-- Where runTProxyTcpTunnel sends a connection.
def tproxyTcpTarget (conn : AcceptedConn) : Except String OrigDst :=
  match addrToHostPortParsed conn.localAddr with
  | .ok target => if target.host = "" ∨ target.port = 0 then getOriginalDst conn else .ok target
  | .error _ => getOriginalDst conn

-- Where runTProxyUdpTunnel sends the datagrams of a source that it does not know yet.
-- Its socket is no TCP connection.
def tproxyUdpTarget (ltr : LocalToRemote) (localAddr : Option String) (oob : GoBytes) : OrigDst :=
  let parsed := match parseOrigDstAddr oob with
    | .ok (host, port) => some ⟨host, port⟩
    | .error _ => none
  let original := match getOriginalDst ⟨localAddr, none⟩ with
    | .ok target => target
    | .error _ => ⟨"", 0⟩
  originalTarget ltr parsed original

theorem sscanf_format_port (port : UInt16) : sscanfPort (formatPort port) = port := by
  have written : (formatPort port).toList = Nat.toDigits 10 port.toNat := by
    rw [formatPort, Nat.toString_eq_repr, Nat.repr, String.toList_ofList]
  have whole : (formatPort port).toList.takeWhile Char.isDigit = (formatPort port).toList :=
    List.takeWhile_eq_self_iff.mpr (format_port_digits port)
  have bound : port.toNat ≤ 65535 := Nat.le_of_lt_succ port.toNat_lt
  rw [sscanfPort, whole, written, (parse_port_iff _ port.toNat).mpr ⟨JsonCodec.digits_decimal _, bound⟩]
  exact UInt16.ofNat_toNat

theorem ip_string_some (ip : IP) (sized : ip.length = 4 ∨ ip.length = 16) : ipString ip ≠ "" := by
  intro empty
  have parsed := parse_ip_string ip sized
  rw [empty, (by decide : parseIP "" = none), to16] at parsed
  rcases sized with four | sixteen
  · rw [if_pos four] at parsed
    cases parsed
  · rw [if_neg (by omega), if_pos sixteen] at parsed
    cases parsed

namespace SocketAddr

variable (addr : SocketAddr)

theorem host_some : addr.host ≠ "" := by
  rw [host]
  split
  · exact ip_string_some addr.ip addr.sized
  · simp

theorem host_bare : Bare addr.host := by
  rw [host]
  split
  · exact ip_string_bare addr.ip
  · have plain := ip_string_bare addr.ip
    simp only [Bare, String.toList_append, List.mem_append, not_or]
    exact ⟨⟨⟨plain.1, by decide⟩, addr.bare.1⟩, ⟨plain.2, by decide⟩, addr.bare.2⟩

theorem read_back : addrToHostPort (some addr.text) = .ok ⟨addr.host, addr.port⟩ := by
  simp only [addrToHostPort, text, split_dialled addr.host addr.port addr.host_bare, sscanf_format_port]

end SocketAddr

-- An address with a port is taken, so that SO_ORIGINAL_DST is not asked.
theorem local_address_taken (conn : AcceptedConn) (addr : SocketAddr) (bound : addr.port ≠ 0)
    (known : conn.localAddr = some addr.text) : tproxyTcpTarget conn = .ok ⟨addr.host, addr.port⟩ := by
  have usable : ¬ (addr.host = "" ∨ addr.port = 0) := not_or.mpr ⟨addr.host_some, bound⟩
  simp only [tproxyTcpTarget, known, addrToHostPortParsed, addr.read_back, if_neg usable]

def ipRecvOrigDstAddr : Int32 := 20
def ipv6RecvOrigDstAddr : Int32 := 74

inductive Intercepted where
  | ipv4 (ip : IP) (four : ip.length = 4) (port : UInt16)
  | ipv6 (ip : IP) (sixteen : ip.length = 16) (port : UInt16) (scope : UInt32)

def Intercepted.port : Intercepted → UInt16
  | .ipv4 _ _ port | .ipv6 _ _ port _ => port

-- Linux reports the destination of a datagram as a sockaddr, under the number of the
-- option with which SetIpRecvOrigDstAddr asks for it.
def Intercepted.message : Intercepted → Cmsg
  | .ipv4 ip _ port =>
      ⟨protoIP, ipRecvOrigDstAddr,
        LittleEndian.encode 2 2 ++ (BigEndian.encode 2 port.toNat ++ (ip ++ List.replicate 8 0))⟩
  | .ipv6 ip _ port scope =>
      ⟨protoIPv6, ipv6RecvOrigDstAddr,
        LittleEndian.encode 2 10 ++ (BigEndian.encode 2 port.toNat ++
          (List.replicate 4 0 ++ (ip ++ LittleEndian.encode 4 scope.toNat)))⟩

theorem sockaddr_port (family behind : List UInt8) (two : family.length = 2) (port : UInt16) :
    UInt16.ofNat (BigEndian.decode (((family ++ (BigEndian.encode 2 port.toNat ++ behind)).take 4).drop 2)) = port := by
  have window : ((family ++ (BigEndian.encode 2 port.toNat ++ behind)).take 4).drop 2 = BigEndian.encode 2 port.toNat := by
    rw [← List.append_assoc, List.take_left' (by simp [two]), List.drop_left' two]
  rw [window, BigEndian.decode_encode 2 _ port.toNat_lt]
  exact UInt16.ofNat_toNat

theorem ipv4_message_read (ip : IP) (four : ip.length = 4) (port : UInt16) :
    (Intercepted.ipv4 ip four port).message.origDst = some (ipString ip, port) := by
  have host : ((LittleEndian.encode 2 2 ++ (BigEndian.encode 2 port.toNat ++ (ip ++ List.replicate 8 0))).take 8).drop 4 = ip := by
    rw [← List.append_assoc, ← List.append_assoc, List.take_left' (by simp [four]), List.drop_left' (by simp)]
  have long : 8 ≤ (LittleEndian.encode 2 2 ++ (BigEndian.encode 2 port.toNat ++ (ip ++ List.replicate 8 0))).length := by
    simp only [List.length_append, LittleEndian.encode_length, BigEndian.encode_length, List.length_replicate]
    omega
  rw [Cmsg.origDst, Intercepted.message]
  simp only [sockaddr_port _ _ (LittleEndian.encode_length 2 2), host]
  exact if_pos ⟨rfl, rfl, long⟩

-- ParseOrigDstAddr expects the number of the TCP option SO_ORIGINAL_DST of IPv6 here.
theorem ipv6_message_missed (ip : IP) (sixteen : ip.length = 16) (port : UInt16) (scope : UInt32) :
    (Intercepted.ipv6 ip sixteen port scope).message.origDst = none := by
  rw [Cmsg.origDst, Intercepted.message]
  exact (if_neg fun four => absurd four.1 (by decide : protoIPv6 ≠ 0)).trans
    (if_neg fun six => absurd six.2.1 (by decide : ipv6RecvOrigDstAddr ≠ 80))

-- The target if no control message gives one.
def ownTarget (ltr : LocalToRemote) (localAddr : Option String) : OrigDst := tproxyUdpTarget ltr localAddr ⟨[], by decide⟩

section

variable (ltr : LocalToRemote) (localAddr : Option String) (oob : GoBytes)

theorem told_target (messages : List Cmsg) (told : Encoded messages oob.bytes) (host : String) (port : UInt16)
    (found : messages.findSome? Cmsg.origDst = some (host, port)) (named : host ≠ "") (bound : port ≠ 0) :
    tproxyUdpTarget ltr localAddr oob = ⟨host, port⟩ := by
  have parsed : parseOrigDstAddr oob = .ok (host, port) := by
    rw [parse_encoded messages oob.bytes told oob.fits, firstOrigDst, found]
  simp only [tproxyUdpTarget, parsed, originalTarget, if_neg (not_or.mpr ⟨named, bound⟩)]

theorem untold_target (messages : List Cmsg) (told : Encoded messages oob.bytes) (missed : messages.findSome? Cmsg.origDst = none) :
    tproxyUdpTarget ltr localAddr oob = ownTarget ltr localAddr := by
  have parsed : parseOrigDstAddr oob = .error .notFound := by
    rw [parse_encoded messages oob.bytes told oob.fits, firstOrigDst, missed]
  simp only [tproxyUdpTarget, ownTarget, parsed, parse_empty]

end

section

variable {Regexp : Type} (engine : RegexpEngine Regexp) (library : JwtLibrary) (signedBy : String → String → Prop)
  (verifying : library.Verifying signedBy) (signedString : String → JwtTunnelConfig → String) (server : Server Regexp)
  (request : Request) (upgrades : Bool) (secret requestID : String) (transport : Transport) (found : JwtTunnelConfig)
  (manager : Manager) (listens : Bool) (now : Nat) (ltr : LocalToRemote)
  (served : serveHTTP engine library server request upgrades = .tunnel transport found)

include verifying served

-- A connection taken over by TPROXY is dialled at the address it was made to, which is its
-- own local address; what SO_ORIGINAL_DST has to tell plays no part.
theorem tproxy_tcp_target_dialled (runs : startTunnel ltr = .tproxyTcp) (conn : AcceptedConn) (addr : SocketAddr)
    (bound : addr.port ≠ 0) (known : conn.localAddr = some addr.text)
    (carries : library.Carries (signClaims signedString secret (tunnelClaims requestID ltr (addr.host, addr.port)))
      (jwtPayload (tunnelClaims requestID ltr (addr.host, addr.port))))
    (sent : (tproxyTcpTarget conn).map (fun target => signClaims signedString secret
      (tunnelClaims requestID ltr (target.host, target.port))) = .ok (requestToken request)) :
    ∃ dialled, opens manager transport found listens now = some (.dialled .tcp dialled) ∧
      splitHostPort dialled = .ok (addr.host, formatPort addr.port) ∧ (addr.zone = "" → parseIP addr.host = to16 addr.ip) := by
  rw [local_address_taken conn addr bound known] at sent
  have claimed : tunnelClaims requestID ltr (addr.host, addr.port) = proxiedClaims requestID addr.host addr.port := by
    rw [tunnelClaims, runs]
    rfl
  rw [claimed] at carries
  have token : requestToken request = signClaims signedString secret (proxiedClaims requestID addr.host addr.port) := by
    rw [← claimed]
    exact (Except.ok.inj sent).symm
  refine ⟨_, proxied_dial engine library signedBy verifying signedString server request upgrades secret requestID transport found manager
    listens now served _ _ carries token, split_dialled addr.host addr.port addr.host_bare, fun unzoned => ?_⟩
  rw [SocketAddr.host, if_pos unzoned]
  exact parse_ip_string addr.ip addr.sized

-- The first datagram of a source opens a stream to its destination if that is an IPv4 address.
-- A destination in IPv6 goes unnoticed.
theorem tproxy_udp_target_dialled (runs : startTunnel ltr = .tproxyUdp) (localAddr : Option String) (dest : Intercepted)
    (bound : dest.port ≠ 0) (oob : GoBytes) (told : Encoded [dest.message] oob.bytes)
    (claims : JwtTunnelConfig) (claimed : claims = tunnelClaims requestID ltr
      ((tproxyUdpTarget ltr localAddr oob).host, (tproxyUdpTarget ltr localAddr oob).port))
    (carries : library.Carries (signClaims signedString secret claims) (jwtPayload claims))
    (sent : requestToken request = signClaims signedString secret claims) :
    ∃ dialled, opens manager transport found listens now = some (.dialled .udp dialled) ∧
      match dest with
      | .ipv4 ip _ port => ∃ host, splitHostPort dialled = .ok (host, formatPort port) ∧ parseIP host = some (mappedPrefix ++ ip)
      | .ipv6 _ _ _ _ =>
          dialled = joinHostPort (ownTarget ltr localAddr).host (formatPort (ownTarget ltr localAddr).port) := by
  obtain ⟨rfl, _⟩ := (signed_request_admitted_iff engine library signedBy verifying server _ _ carries found request upgrades transport
    sent).mp served
  have opened : ∀ target : String × UInt16, opens manager transport (tunnelClaims requestID ltr target) listens now =
      some (.dialled .udp (joinHostPort target.1 (formatPort target.2))) := by
    intro target
    rw [tunnelClaims, runs, opens_forward manager transport _ listens now rfl]
    rfl
  rw [claimed, opened]
  refine ⟨_, rfl, ?_⟩
  cases dest with
  | ipv4 ip four port =>
      have target := told_target ltr localAddr oob _ told (ipString ip) port
        (by rw [List.findSome?_singleton, ipv4_message_read]) (ip_string_some ip (.inl four)) bound
      refine ⟨ipString ip, ?_, ?_⟩
      · rw [target]
        exact split_dialled (ipString ip) port (ip_string_bare ip)
      · rw [parse_ip_string ip (.inl four), to16, if_pos four]
  | ipv6 ip sixteen port scope =>
      have missed : [(Intercepted.ipv6 ip sixteen port scope).message].findSome? Cmsg.origDst = none := by
        rw [List.findSome?_singleton, ipv6_message_missed]
      rw [untold_target ltr localAddr oob _ told missed]

end

def transparent (protocol : LocalProtocol) : LocalToRemote := ⟨protocol, "127.0.0.1:80", "0.0.0.0", 0⟩

-- SO_ORIGINAL_DST knows 10.0.0.1:53 here, as it does behind a REDIRECT rule.
def redirectedConn : AcceptedConn :=
  ⟨some "127.0.0.1:80", some (some ⟨[2, 0, 0, 53, 10, 0, 0, 1, 0, 0, 0, 0, 0, 0, 0, 0], 16, rfl⟩, none)⟩

def listenerAddr : SocketAddr := ⟨[127, 0, 0, 1], "", 80, .inl rfl, (by decide : '[' ∉ "".toList ∧ ']' ∉ "".toList)⟩

theorem redirected_local : redirectedConn.localAddr = some listenerAddr.text := by decide

-- The listener is dialled in place of the destination.
theorem tproxy_tcp_target_dialled_redirected :
    (∃ dialled, opens (newManager 0) .http2 (tunnelClaims "id" (transparent { tproxyTcp := some () }) (listenerAddr.host, 80)) false 0 =
        some (.dialled .tcp dialled) ∧ splitHostPort dialled = .ok (listenerAddr.host, "80")) ∧
      getOriginalDst redirectedConn = .ok ⟨"10.0.0.1", 53⟩ := by
  refine ⟨?_, by decide⟩
  obtain ⟨dialled, opened, split, _⟩ := tproxy_tcp_target_dialled literalEngine _ _ (keyed_library_verifying _)
    (fun _ _ => "h.c.s") plainServer _ false "key" "id" .http2 _ (newManager 0) false 0 (transparent { tproxyTcp := some () })
    (cookie_request_served _) rfl redirectedConn listenerAddr (by decide) redirected_local (keyed_library_carries _) (by
      rw [local_address_taken redirectedConn listenerAddr (by decide) redirected_local, cookie_request_token]
      rfl)
  exact ⟨dialled, opened, split⟩

def interceptedV6 : Intercepted := .ipv6 [0, 0, 0, 0, 0, 0, 0, 0, 0, 0, 0, 0, 0, 0, 0, 1] rfl 53 0

-- The listener again, which stands in for ::1.
theorem tproxy_udp_target_dialled_ipv6 :
    ∃ dialled, opens (newManager 0) .http2 (tunnelClaims "id" (transparent { tproxyUdp := some ⟨none⟩ }) ("127.0.0.1", 80)) false 0 =
      some (.dialled .udp dialled) ∧ dialled = "127.0.0.1:80" := by
  have told : Encoded [interceptedV6.message] (interceptedV6.message.bytes ++ []) := .last _ [] (Nat.zero_le _)
  have missed : [interceptedV6.message].findSome? Cmsg.origDst = none := by decide
  have own : ownTarget (transparent { tproxyUdp := some ⟨none⟩ }) (some "127.0.0.1:80") = ⟨"127.0.0.1", 80⟩ := by
    rw [ownTarget, tproxyUdpTarget, parse_empty]
    decide
  obtain ⟨dialled, opened, same⟩ := tproxy_udp_target_dialled literalEngine _ _ (keyed_library_verifying _)
    (fun _ _ => "h.c.s") plainServer _ false "key" "id" .http2 _ (newManager 0) false 0 (transparent { tproxyUdp := some ⟨none⟩ })
    (cookie_request_served _) rfl (some "127.0.0.1:80") interceptedV6 (by decide) ⟨_, by decide⟩ told _ (by
      rw [untold_target _ _ ⟨interceptedV6.message.bytes ++ [], by decide⟩ _ told missed, own])
    (keyed_library_carries _) cookie_request_token
  exact ⟨dialled, opened, same.trans (by rw [own]; decide)⟩

end WarpStream
