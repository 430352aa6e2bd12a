import WarpStream.AddrText
import WarpStream.BadPorts
import WarpStream.Socks5Acceptance
import WarpStream.TunnelRequest

set_option autoImplicit false

namespace WarpStream

open BufReader BufWriter ByteReader Dialogue GoAddr GoText TextBytes

-- A host that stands in an address without being taken for brackets.
def Bare (host : String) : Prop := '[' ∉ host.toList ∧ ']' ∉ host.toList

theorem split_dialled (host : String) (port : UInt16) (bare : Bare host) :
    splitHostPort (joinHostPort host (formatPort port)) = .ok (host, formatPort port) := by
  have digits : ∀ mark : Char, mark.isDigit = false → mark ∉ (formatPort port).toList := by
    intro mark other member
    rw [format_port_digits port mark member] at other
    cases other
  exact split_join_host_port host (formatPort port) bare ⟨digits ':' (by decide), digits '[' (by decide), digits ']' (by decide)⟩

-- The address says where the request wants to go. A name that is no UTF-8, or has a
-- bracket in it, is left open.
def Reaches (addr : String) (target : Socks5Request) : Prop :=
  match target.address with
  | .ipv4 ip _ => ∃ host, splitHostPort addr = .ok (host, formatPort target.port) ∧ parseIP host = some (mappedPrefix ++ ip)
  | .domain bytes _ => ∀ host, bytesOf host = bytes → Bare host → splitHostPort addr = .ok (host, formatPort target.port)
  | .ipv6 ip _ => ∃ host, splitHostPort addr = .ok (host, formatPort target.port) ∧ parseIP host = some ip

theorem request_reached (target : Socks5Request) :
    Reaches (joinHostPort (textOf target.address.host) (formatPort target.port)) target := by
  obtain ⟨reserved, address, port⟩ := target
  cases address with
  | ipv4 ip four =>
      refine ⟨ipString ip, ?_, ?_⟩
      · rw [Socks5Address.host, text_of_bytes]
        exact split_dialled _ port (ip_string_bare ip)
      · rw [parse_ip_string ip (.inl four), to16, if_pos four]
  | domain bytes short =>
      rintro host rfl bare
      rw [Socks5Address.host, text_of_bytes]
      exact split_dialled host port bare
  | ipv6 ip sixteen =>
      refine ⟨ipString ip, ?_, ?_⟩
      · rw [Socks5Address.host, text_of_bytes]
        exact split_dialled _ port (ip_string_bare ip)
      · rw [parse_ip_string ip (.inr sixteen), to16, if_neg (by omega), if_pos sixteen]

-- What a SOCKS5 peer says before its request.
inductive Introduction : Option Credentials → List UInt8 → Prop
  | plain (greeting : Socks5Greeting) : Introduction none greeting.bytes
  | login (expected : Credentials) (greeting : Socks5Greeting) (login : LoginText) :
      Introduction (some expected) (greeting.bytes ++ login.bytes)

theorem session_introduced (admits : Credentials → LoginText → Prop) (credentials : Option Credentials) (heard : List UInt8)
    (result : List UInt8 × UInt16) (session : Socks5Session admits credentials heard result) :
    ∃ before, ∃ target : Socks5Request, Introduction credentials before ∧ heard = before ++ target.bytes ∧ target.target = result := by
  cases session with
  | plain greeting target _ => exact ⟨_, target, .plain greeting, rfl, rfl⟩
  | login expected greeting login target _ _ =>
      exact ⟨_, target, .login expected greeting login, (List.append_assoc _ _ _).symm, rfl⟩

-- The claims with which the proxies of the client ask for a target.
def proxiedClaims (requestID host : String) (port : UInt16) : JwtTunnelConfig := generateJWT requestID { tcp := some ⟨false⟩ } host port

section

variable {Regexp : Type} (engine : RegexpEngine Regexp) (library : JwtLibrary) (signedBy : String → String → Prop)
  (verifying : library.Verifying signedBy) (signedString : String → JwtTunnelConfig → String) (server : Server Regexp)
  (request : Request) (upgrades : Bool) (secret requestID : String) (transport : Transport) (found : JwtTunnelConfig)
  (manager : Manager) (listens : Bool) (now : Nat)
  (served : serveHTTP engine library server request upgrades = .tunnel transport found)

include verifying served

theorem proxied_dial (host : String) (port : UInt16)
    (carries : library.Carries (signClaims signedString secret (proxiedClaims requestID host port))
      (jwtPayload (proxiedClaims requestID host port)))
    (sent : requestToken request = signClaims signedString secret (proxiedClaims requestID host port)) :
    opens manager transport found listens now = some (.dialled .tcp (joinHostPort host (formatPort port))) := by
  obtain ⟨rfl, _⟩ := (signed_request_admitted_iff engine library signedBy verifying server _ _ carries found request upgrades transport
    sent).mp served
  rw [opens_forward manager transport _ listens now rfl]
  rfl

-- The same for an authority of a CONNECT request, whose port is a number.
theorem connect_target_dialled (readRequest : Reader String ConnectRequest) (protocol : LocalProtocol)
    (connectToTransport : LocalProtocol → String → UInt16 → Option Transport) (conn piped : NetConn) (host : String) (port : UInt16)
    (chosen : Transport) (handled : handleHttpProxy readRequest protocol connectToTransport conn = .piped host port piped chosen)
    (carries : library.Carries (signClaims signedString secret (proxiedClaims requestID host port))
      (jwtPayload (proxiedClaims requestID host port)))
    (sent : requestToken request = signClaims signedString secret (proxiedClaims requestID host port)) :
    ∃ asked reader text addr, parse readRequest [] conn.segments = .ok (asked, reader) ∧
      splitHostPort asked.host = .ok (host, text) ∧ opens manager transport found listens now = some (.dialled .tcp addr) ∧
      splitHostPort addr = .ok (host, formatPort port) ∧ ∀ number, IsPort text.toList number → port.toNat = number := by
  have established : (handleHttpProxy readRequest protocol connectToTransport conn).established = true := by
    rw [handled]
    rfl
  obtain ⟨asked, name, text, admitted⟩ := established_admitted readRequest protocol connectToTransport conn established
  obtain ⟨same, value⟩ := (admitted_end readRequest protocol connectToTransport conn asked name text admitted).2 _ _ _ _ handled
  subst same
  obtain ⟨reader, read⟩ := admitted.read
  refine ⟨asked, reader, text, joinHostPort host (formatPort port), read, admitted.authority, ?_, ?_, fun number decimal => ?_⟩
  · exact proxied_dial engine library signedBy verifying signedString server request upgrades secret requestID transport found manager
      listens now served _ _ carries sent
  · exact split_dialled host port (split_host_bare asked.host host text admitted.authority)
  · rw [value]
    exact port_value_number text number decimal

end

-- A request over HTTP/2 with the token in its cookie.
def cookieRequest : Request := { path := eventsPath "v1", cookie := "h.c.s", protoMajor := 2 }

theorem cookie_request_token : requestToken cookieRequest = "h.c.s" := cookie_token cookieRequest rfl

theorem cookie_request_served (claims : JwtTunnelConfig) :
    serveHTTP literalEngine (keyedLibrary claims) plainServer cookieRequest false = .tunnel .http2 claims := by
  refine (signed_request_admitted_iff literalEngine _ _ (keyed_library_verifying claims) plainServer _ _ (keyed_library_carries claims)
    claims _ false .http2 cookie_request_token).mpr ⟨rfl, ?_, .inl rfl, ?_, fun _ => rfl, rfl⟩
  · exact (if_pos ⟨Nat.le_refl 2, (by decide : "".toList.map toLowerRune ≠ "websocket".toList)⟩).symm
  · exact (Bool.or_eq_true_iff).mpr (.inr (by decide : hasPrefix (eventsPath "v1") ("/" ++ "v1") = true))

def askedByLogin : Socks5Request := ⟨0x00, .ipv4 [127, 0, 0, 1] rfl, 80⟩

theorem connect_target_dialled_name : ∃ addr, opens (newManager 0) .http2 (proxiedClaims "id" "a" 80) false 0 = some (.dialled .tcp addr) ∧
    splitHostPort addr = .ok ("a", "80") := by
  obtain ⟨_, _, _, addr, _, _, dialled, split, _⟩ := connect_target_dialled literalEngine _ _ (keyed_library_verifying _)
    (fun _ _ => "h.c.s") plainServer _ false "key" "id" .http2 _ (newManager 0) false 0 (cookie_request_served _) _ _ _ _ _ "a" 80 _
    (piped_to_a [] []) (keyed_library_carries _) cookie_request_token
  exact ⟨addr, dialled, split⟩

end WarpStream
