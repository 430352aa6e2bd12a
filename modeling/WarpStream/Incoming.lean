import WarpStream.Manager
import WarpStream.Socks5

set_option autoImplicit false

namespace WarpStream

open BufWriter ByteReader Dialogue GoText

structure ProxyRequest where
  method : String
  hostname : List UInt8
  port : String
  proxyAuthorization : String
deriving DecidableEq, Repr

-- http.ReadRequest. What it leaves is the data behind the request, both what the
-- bufio.Reader holds of it and what is still on the connection.
structure HttpLibrary where
  readRequest : Reader String ProxyRequest

inductive HttpProxyError where
  | readFailed (fault : Fault String)
  | unsupportedMethod (method : String)
  | invalidPort (text : String)
  | writeFailed
deriving DecidableEq, Repr

def faultText : Fault String → String
  | .eof => "EOF"
  | .unexpectedEof => "unexpected EOF"
  | .other text => text

def HttpProxyError.message : HttpProxyError → Option String
  | .readFailed fault => some ("failed to read HTTP proxy request: " ++ faultText fault)
  | .unsupportedMethod method => some ("unsupported HTTP proxy method: " ++ method)
  | .invalidPort text => some ("invalid port in CONNECT request: " ++ text)
  | .writeFailed => none

def HttpLibrary.proxyRequest (http : HttpLibrary) : Reader HttpProxyError ProxyRequest := fun input =>
  match http.readRequest input with
  | .ok outcome => .ok outcome
  | .error (fault, rest) => .error (.other (.readFailed fault), rest)

def methodNotAllowed : List UInt8 := bytesOf "HTTP/1.1 405 Method Not Allowed\r\n\r\n"

def connectionEstablished : List UInt8 := bytesOf "HTTP/1.1 200 Connection Established\r\n\r\n"

def ProxyRequest.portText (request : ProxyRequest) : String := if request.port = "" then "80" else request.port

def answerRequest (request : ProxyRequest) : Talk HttpProxyError (List UInt8 × UInt16) :=
  if request.method ≠ "CONNECT" then do
    mention methodNotAllowed
    refuse (.unsupportedMethod request.method)
  else
    match parseUint request.portText 16 with
    | (_, some _) => refuse (.invalidPort request.portText)
    | (port, none) => do
        say connectionEstablished .writeFailed
        pure (request.hostname, UInt16.ofNat port)

-- The returned connection gives the leftover of the bufio.Reader first, so it
-- reads what ReadRequest has left.
def handleHttpProxyHandshake (http : HttpLibrary) : Talk HttpProxyError (List UInt8 × UInt16) := do
  let request ← hear http.proxyRequest
  answerRequest request

def targetFrame (host : List UInt8) (port : UInt16) : List UInt8 :=
  [0x01, UInt8.ofNat host.length] ++ host ++ BigEndian.encode 2 port.toNat

def encodeTargetFrame (host : List UInt8) (port : UInt16) : Except String (List UInt8) :=
  if 255 < host.length then .error "host length exceeds 255 bytes" else .ok (targetFrame host port)

inductive HandshakeError where
  | socks5 (fault : Fault Socks5Error)
  | http (fault : Fault HttpProxyError)
deriving DecidableEq, Repr

def handshake (http : HttpLibrary) (protocol : LocalProtocol) (conn : Wire) :
    Except HandshakeError ((List UInt8 × UInt16) × Wire) :=
  if protocol.reverseSocks5.isSome then (handleSocks5Handshake conn).mapError fun failure => .socks5 failure.1
  else if protocol.reverseHttpProxy.isSome then
    (handleHttpProxyHandshake http conn).mapError fun failure => .http failure.1
  else .ok (([], 0), conn)

structure Waiting where
  transport : Transport
  accepts : List UInt8 → Bool

inductive Incoming where
  | handshakeFailed (error : HandshakeError)
  | noClient
  | frameNotEncoded (text : String)
  | frameNotSent
  | forwarded (transport : Transport) (frame : Option (List UInt8)) (peer : Wire)

def Incoming.isForwarded : Incoming → Bool
  | .forwarded _ _ _ => true
  | _ => false

-- acquired is the outcome of acquireWaitingConn, which is called only behind a
-- handshake that succeeds. The listener's credentials are not read.
def handleIncoming (http : HttpLibrary) (protocol : LocalProtocol) (acquired : Option Waiting) (conn : Wire) : Incoming :=
  match handshake http protocol conn with
  | .error error => .handshakeFailed error
  | .ok ((host, port), peer) =>
      match acquired with
      | none => .noClient
      | some wait =>
          if protocol.reverseSocks5.isSome ∨ protocol.reverseHttpProxy.isSome then
            match encodeTargetFrame host port with
            | .error text => .frameNotEncoded text
            | .ok frame => if wait.accepts frame then .forwarded wait.transport (some frame) peer else .frameNotSent
          else .forwarded wait.transport none peer

def listenerCredentials (protocol : LocalProtocol) : Option Credentials :=
  match protocol.reverseSocks5 with
  | some socks5 => socks5.credentials
  | none => protocol.reverseHttpProxy.bind (·.credentials)

def Socks5Presented (credentials : Credentials) (input : List UInt8) : Prop :=
  ∃ (greeting : Socks5Greeting) (rest : List UInt8), 0x02 ∈ greeting.methods ∧
    (bytesOf credentials.username).length < 256 ∧ (bytesOf credentials.password).length < 256 ∧
    input = greeting.bytes ++
      ([0x01, UInt8.ofNat (bytesOf credentials.username).length] ++ bytesOf credentials.username ++
        UInt8.ofNat (bytesOf credentials.password).length :: bytesOf credentials.password ++ rest)

def BasicHeader (credentials : Credentials) (header : String) : Prop :=
  ∃ scheme payload, trimSpace header.toList = scheme ++ ' ' :: payload ∧ equalFold (String.ofList scheme) "Basic" = true ∧
    decodeBase64 (trimSpace payload) = some (bytesOf (credentials.username ++ ":" ++ credentials.password))

def HttpPresented (http : HttpLibrary) (credentials : Credentials) (input : List UInt8) : Prop :=
  ∃ request rest, http.readRequest input = .ok (request, rest) ∧ BasicHeader credentials request.proxyAuthorization

def Presented (http : HttpLibrary) (protocol : LocalProtocol) (credentials : Credentials) (input : List UInt8) : Prop :=
  if protocol.reverseSocks5.isSome then Socks5Presented credentials input else HttpPresented http credentials input

def Names (http : HttpLibrary) (protocol : LocalProtocol) (input : List UInt8) (target : List UInt8 × UInt16) : Prop :=
  if protocol.reverseSocks5.isSome then
    ∃ (greeting : Socks5Greeting) (request : Socks5Request) (rest : List UInt8),
      input = greeting.bytes ++ request.bytes ++ rest ∧ target = request.target
  else
    ∃ request rest port, http.readRequest input = .ok (request, rest) ∧ request.method = "CONNECT" ∧
      parseUint request.portText 16 = (port, none) ∧ target = (request.hostname, UInt16.ofNat port)

def handshakeReplies (protocol : LocalProtocol) : List (List UInt8) :=
  if protocol.reverseSocks5.isSome then [[0x05, 0x00], socks5Success] else [connectionEstablished]

theorem recognises_answer (request : ProxyRequest) :
    Recognises (answerRequest request) fun heard replies target =>
      request.method = "CONNECT" ∧ (∃ port, parseUint request.portText 16 = (port, none) ∧
        target = (request.hostname, UInt16.ofNat port)) ∧ heard = [] ∧ replies = [connectionEstablished] := by
  unfold answerRequest
  split
  · rename_i other
    intro conn target after
    constructor
    · intro answered
      obtain ⟨_, _, _, refused⟩ := (bind_iff _ _ _ _ _).mp answered
      cases refused
    · intro spoken
      obtain ⟨_, _, ⟨connect, _⟩, _⟩ := spoken
      exact absurd connect other
  · rename_i connect
    split
    · rename_i value fault parsed
      refine recognises_of_iff _ _ _ (recognises_refuse _) fun heard replies target => ⟨False.elim, ?_⟩
      intro spoken
      obtain ⟨_, ⟨port, numeric, _⟩, _⟩ := spoken
      rw [parsed] at numeric
      cases numeric
    · rename_i value parsed
      refine recognises_of_iff _ _ _ (recognises_say_bind _ _ _ _ (recognises_pure _)) fun heard replies target => ?_
      constructor
      · intro composed
        obtain ⟨_, rfl, rfl, rfl, rfl⟩ := composed
        exact ⟨Decidable.not_not.mp connect, ⟨value, parsed, rfl⟩, rfl, rfl⟩
      · intro plain
        obtain ⟨_, ⟨port, numeric, rfl⟩, rfl, rfl⟩ := plain
        rw [parsed] at numeric
        cases numeric
        exact ⟨[], rfl, rfl, rfl, rfl⟩

theorem proxy_request_iff (http : HttpLibrary) (input rest : List UInt8) (request : ProxyRequest) :
    http.proxyRequest input = .ok (request, rest) ↔ http.readRequest input = .ok (request, rest) := by
  unfold HttpLibrary.proxyRequest
  cases http.readRequest input with
  | error failure => simp
  | ok outcome => simp

theorem http_handshake_iff (http : HttpLibrary) (conn after : Wire) (target : List UInt8 × UInt16) :
    handleHttpProxyHandshake http conn = .ok (target, after) ↔
      ∃ request port, http.readRequest conn.input = .ok (request, after.input) ∧ request.method = "CONNECT" ∧
        parseUint request.portText 16 = (port, none) ∧ target = (request.hostname, UInt16.ofNat port) ∧
        Sends conn.socket [connectionEstablished] after.socket := by
  unfold handleHttpProxyHandshake
  rw [bind_iff]
  constructor
  · intro talked
    obtain ⟨request, middle, heard, answered⟩ := talked
    obtain ⟨read, same⟩ := (hear_iff _ _ _ _).mp heard
    obtain ⟨_, _, ⟨connect, ⟨port, numeric, named⟩, rfl, rfl⟩, input, sends⟩ := (recognises_answer request _ _ _).mp answered
    rw [proxy_request_iff, input] at read
    rw [same] at sends
    exact ⟨request, port, read, connect, numeric, named, sends⟩
  · intro accepted
    obtain ⟨request, port, read, connect, numeric, named, sends⟩ := accepted
    exact ⟨request, ⟨after.input, conn.socket⟩, (hear_iff _ _ _ _).mpr ⟨(proxy_request_iff _ _ _ _).mpr read, rfl⟩,
      (recognises_answer request _ _ _).mpr ⟨[], _, ⟨connect, ⟨port, numeric, named⟩, rfl, rfl⟩, rfl, sends⟩⟩

def IsProxy (protocol : LocalProtocol) : Prop := protocol.reverseSocks5.isSome = true ∨ protocol.reverseHttpProxy.isSome = true

def Served (http : HttpLibrary) (protocol : LocalProtocol) (acquired : Option Waiting) (conn : Wire) : Prop :=
  ∃ wait target socket, acquired = some wait ∧ Names http protocol conn.input target ∧
    Sends conn.socket (handshakeReplies protocol) socket ∧ target.1.length ≤ 255 ∧
    wait.accepts (targetFrame target.1 target.2) = true

theorem map_error_ok {ε δ α : Type} (outcome : Except ε α) (convert : ε → δ) (value : α) :
    outcome.mapError convert = .ok value ↔ outcome = .ok value := by
  cases outcome <;> simp [Except.mapError]

theorem handshake_iff (http : HttpLibrary) (protocol : LocalProtocol) (proxy : IsProxy protocol) (conn : Wire)
    (target : List UInt8 × UInt16) :
    (∃ peer, handshake http protocol conn = .ok (target, peer)) ↔
      Names http protocol conn.input target ∧ ∃ socket, Sends conn.socket (handshakeReplies protocol) socket := by
  unfold handshake Names handshakeReplies
  by_cases socks5 : protocol.reverseSocks5.isSome = true
  · simp only [if_pos socks5, map_error_ok, recognises_handshake conn target _]
    constructor
    · intro spoken
      obtain ⟨peer, _, _, ⟨greeting, request, rfl, named, rfl⟩, input, sends⟩ := spoken
      exact ⟨⟨greeting, request, peer.input, input, named⟩, peer.socket, sends⟩
    · intro accepted
      obtain ⟨⟨greeting, request, rest, input, named⟩, socket, sends⟩ := accepted
      exact ⟨⟨rest, socket⟩, _, _, ⟨greeting, request, rfl, named, rfl⟩, input, sends⟩
  · have http_proxy := proxy.resolve_left socks5
    simp only [if_neg socks5, if_pos http_proxy, map_error_ok, http_handshake_iff]
    constructor
    · intro passed
      obtain ⟨peer, request, port, read, connect, numeric, named, sends⟩ := passed
      exact ⟨⟨request, peer.input, port, read, connect, numeric, named⟩, peer.socket, sends⟩
    · intro accepted
      obtain ⟨⟨request, rest, port, read, connect, numeric, named⟩, socket, sends⟩ := accepted
      exact ⟨⟨rest, socket⟩, request, port, read, connect, numeric, named, sends⟩

theorem forwarded_behind_handshake (http : HttpLibrary) (protocol : LocalProtocol) (proxy : IsProxy protocol)
    (acquired : Option Waiting) (conn : Wire) :
    (handleIncoming http protocol acquired conn).isForwarded = true ↔
      ∃ wait target peer, acquired = some wait ∧ handshake http protocol conn = .ok (target, peer) ∧
        target.1.length ≤ 255 ∧ wait.accepts (targetFrame target.1 target.2) = true := by
  unfold handleIncoming
  cases passed : handshake http protocol conn with
  | error error => simp [Incoming.isForwarded]
  | ok outcome =>
      obtain ⟨⟨host, port⟩, peer⟩ := outcome
      cases acquired with
      | none => simp [Incoming.isForwarded]
      | some wait =>
          have frames : protocol.reverseSocks5.isSome = true ∨ protocol.reverseHttpProxy.isSome = true := proxy
          by_cases long : 255 < host.length
          · simp [frames, encodeTargetFrame, long, Incoming.isForwarded, Nat.not_le.mpr long]
          · by_cases accepts : wait.accepts (targetFrame host port) = true
            · simp [frames, encodeTargetFrame, long, accepts, Incoming.isForwarded, Nat.not_lt.mp long]
            · simp [frames, encodeTargetFrame, long, accepts, Incoming.isForwarded]

theorem forwarded_iff (http : HttpLibrary) (protocol : LocalProtocol) (proxy : IsProxy protocol) (acquired : Option Waiting)
    (conn : Wire) : (handleIncoming http protocol acquired conn).isForwarded = true ↔ Served http protocol acquired conn := by
  rw [forwarded_behind_handshake http protocol proxy]
  constructor
  · intro forwarded
    obtain ⟨wait, target, peer, available, passed, short, accepts⟩ := forwarded
    obtain ⟨named, socket, sends⟩ := (handshake_iff http protocol proxy conn target).mp ⟨peer, passed⟩
    exact ⟨wait, target, socket, available, named, sends, short, accepts⟩
  · intro served
    obtain ⟨wait, target, socket, available, named, sends, short, accepts⟩ := served
    obtain ⟨peer, passed⟩ := (handshake_iff http protocol proxy conn target).mpr ⟨named, socket, sends⟩
    exact ⟨wait, target, peer, available, passed, short, accepts⟩

theorem named_not_presented (credentials : Credentials) (greeting : Socks5Greeting) (request : Socks5Request)
    (rest : List UInt8) : ¬ Socks5Presented credentials (greeting.bytes ++ request.bytes ++ rest) := by
  intro presented
  obtain ⟨other, behind, _, _, _, same⟩ := presented
  -- Behind the greeting stands a request, whose first byte does not start a
  -- sub-negotiation.
  rw [List.append_assoc] at same
  have behindGreeting := (greeting_unique greeting other _ _ same).2
  simp only [Socks5Request.bytes, List.cons_append, List.cons.injEq] at behindGreeting
  exact absurd behindGreeting.1 (by decide)

theorem credentials_carried (protocol : LocalProtocol) (credentials : Credentials)
    (carried : listenerCredentials protocol = some credentials) : IsProxy protocol := by
  unfold listenerCredentials at carried
  cases socks5 : protocol.reverseSocks5 with
  | some settings => exact Or.inl (by rw [socks5]; rfl)
  | none =>
      simp only [socks5] at carried
      obtain ⟨settings, present, _⟩ := Option.bind_eq_some_iff.mp carried
      exact Or.inr (by rw [present]; rfl)

theorem incoming_credentials_enforced_iff (http : HttpLibrary) (protocol : LocalProtocol) (credentials : Credentials)
    (carried : listenerCredentials protocol = some credentials) (acquired : Option Waiting) (conn : Wire) :
    ((handleIncoming http protocol acquired conn).isForwarded = true → Presented http protocol credentials conn.input) ↔
      (¬ Served http protocol acquired conn ∨
        protocol.reverseSocks5 = none ∧ HttpPresented http credentials conn.input) := by
  rw [forwarded_iff http protocol (credentials_carried protocol credentials carried)]
  unfold Presented
  cases socks5 : protocol.reverseSocks5 with
  | none =>
      simp only [Option.isSome_none, Bool.false_eq_true, if_false, true_and]
      exact imp_iff_not_or
  | some settings =>
      simp only [Option.isSome_some, if_true, reduceCtorEq, false_and, or_false]
      refine ⟨fun enforced served => ?_, fun unserved served => absurd served unserved⟩
      have ⟨_, _, _, _, named, _⟩ := served
      rw [Names, if_pos (by rw [socks5]; rfl)] at named
      obtain ⟨greeting, request, rest, input, _⟩ := named
      exact named_not_presented credentials greeting request rest (input ▸ enforced served)

def guardedSocks5 : LocalProtocol := { reverseSocks5 := some ⟨none, some ⟨"U", "P"⟩⟩ }

def bareConnect : Wire := ⟨[0x05, 0x01, 0x00, 0x05, 0x01, 0x00, 0x01, 127, 0, 0, 1, 0, 80], ⟨[], []⟩⟩

def silentLibrary : HttpLibrary := ⟨fun input => .error (.eof, input)⟩

def readyClient : Waiting := ⟨.wst, fun _ => true⟩

theorem incoming_credentials_ignored :
    listenerCredentials guardedSocks5 = some ⟨"U", "P"⟩ ∧
      ¬ ((handleIncoming silentLibrary guardedSocks5 (some readyClient) bareConnect).isForwarded = true →
        Presented silentLibrary guardedSocks5 ⟨"U", "P"⟩ bareConnect.input) := by
  refine ⟨rfl, fun enforced => ?_⟩
  have presented := enforced (by decide)
  exact named_not_presented ⟨"U", "P"⟩ ⟨[0x00], by decide⟩ ⟨0x00, .ipv4 [127, 0, 0, 1] rfl, 80⟩ [] presented

def guardedHttp : LocalProtocol := { reverseHttpProxy := some ⟨none, some ⟨"U", "P"⟩⟩ }

def authorizedHead : String := "CONNECT example.com:443 HTTP/1.1\r\nProxy-Authorization: Basic VTpQ\r\n\r\n"

def authorizedRequest : ProxyRequest := ⟨"CONNECT", bytesOf "example.com", "443", "Basic VTpQ"⟩

def authorizedLibrary : HttpLibrary := ⟨fun input =>
  if (bytesOf authorizedHead).isPrefixOf input then
    .ok (authorizedRequest, input.drop (bytesOf authorizedHead).length)
  else .error (.other "malformed HTTP request", [])⟩

theorem incoming_credentials_enforced_authorized :
    (handleIncoming authorizedLibrary guardedHttp (some readyClient) ⟨bytesOf authorizedHead ++ [42], ⟨[], []⟩⟩).isForwarded = true ∧
      Presented authorizedLibrary guardedHttp ⟨"U", "P"⟩ (bytesOf authorizedHead ++ [42]) := by
  have forwarded : (handleIncoming authorizedLibrary guardedHttp (some readyClient)
      ⟨bytesOf authorizedHead ++ [42], ⟨[], []⟩⟩).isForwarded = true := by decide
  exact ⟨forwarded, (incoming_credentials_enforced_iff authorizedLibrary guardedHttp ⟨"U", "P"⟩ rfl (some readyClient) _).mpr
    (Or.inr ⟨rfl, authorizedRequest, [42], by decide, "Basic".toList, "VTpQ".toList, by decide, by decide, by decide⟩) forwarded⟩

end WarpStream
