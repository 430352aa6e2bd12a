import WarpStream.BufReader
import WarpStream.Incoming

set_option autoImplicit false

namespace WarpStream

open BufReader BufWriter ByteReader GoText

def constantTimeEqualBytes (actual expected : List UInt8) : Bool :=
  let lengths := BitVec.ofNat 32 (actual.length ^^^ expected.length)
  let diff := (List.range (max actual.length expected.length)).foldl
    (fun diff index => diff ||| BitVec.ofNat 32 (actual.getD index 0 ^^^ expected.getD index 0).toNat) lengths
  decide (diff = 0)

def authenticateHTTPProxy (header : String) (credentials : Option Credentials) : Bool :=
  match credentials with
  | none => true
  | some expected =>
      let trimmed := trimSpace header.toList
      if trimmed = [] then false
      else
        match cut [' '] trimmed with
        | none => false
        | some (scheme, payload) =>
            if equalFold (String.ofList scheme) "Basic" = false then false
            else
              match decodeBase64 (trimSpace payload) with
              | none => false
              | some bytes => constantTimeEqualBytes bytes (bytesOf (expected.username ++ ":" ++ expected.password))

def proxyAuthenticationRequired : List UInt8 :=
  bytesOf "HTTP/1.1 407 Proxy Authentication Required\r\nProxy-Authenticate: Basic realm=\"warpstream\"\r\n\r\n"

structure ConnectRequest where
  method : String
  host : String
  proxyAuthorization : String
deriving DecidableEq, Repr

inductive HttpProxyEnd where
  | requestNotRead (fault : Fault String)
  | methodRefused (socket : Socket)
  | unauthenticated (socket : Socket)
  | invalidTarget (error : AddrError)
  | notAnswered (socket : Socket)
  | transportFailed (socket : Socket)
  | piped (host : String) (port : UInt16) (conn : NetConn) (transport : Transport)

-- startPipe gets the connection itself: what the reader holds behind the request stays in the reader.
def handleHttpProxy (readRequest : Reader String ConnectRequest) (protocol : LocalProtocol)
    (connectToTransport : LocalProtocol → String → UInt16 → Option Transport) (conn : NetConn) : HttpProxyEnd :=
  match parse readRequest [] conn.segments with
  | .error fault => .requestNotRead fault
  | .ok (request, reader) =>
      if request.method ≠ "CONNECT" then .methodRefused (conn.socket.write methodNotAllowed).socket
      else if authenticateHTTPProxy request.proxyAuthorization (protocol.httpProxy.bind (·.credentials)) = false then
        .unauthenticated (conn.socket.write proxyAuthenticationRequired).socket
      else
        match splitHostPort request.host with
        | .error error => .invalidTarget error
        | .ok (targetHost, targetPort) =>
            let port := UInt16.ofNat (parseUint targetPort 16).1
            let answered := conn.socket.write connectionEstablished
            if answered.done = false then .notAnswered answered.socket
            else
              match connectToTransport { tcp := some ⟨false⟩ } targetHost port with
              | none => .transportFailed answered.socket
              | some transport => .piped targetHost port ⟨reader.conn, answered.socket⟩ transport

theorem piped_behind_request (readRequest : Reader String ConnectRequest) (protocol : LocalProtocol)
    (connectToTransport : LocalProtocol → String → UInt16 → Option Transport) (conn piped : NetConn) (host : String)
    (port : UInt16) (transport : Transport)
    (handled : handleHttpProxy readRequest protocol connectToTransport conn = .piped host port piped transport) :
    ∃ request reader, parse readRequest [] conn.segments = .ok (request, reader) ∧ request.method = "CONNECT" ∧
      authenticateHTTPProxy request.proxyAuthorization (protocol.httpProxy.bind (·.credentials)) = true ∧
      piped.segments = reader.conn := by
  unfold handleHttpProxy at handled
  cases read : parse readRequest [] conn.segments with
  | error fault => simp [read] at handled
  | ok result =>
      obtain ⟨request, reader⟩ := result
      simp only [read] at handled
      split at handled
      · cases handled
      · rename_i connect
        split at handled
        · cases handled
        · rename_i authenticated
          refine ⟨request, reader, rfl, Decidable.not_not.mp connect, eq_true_of_ne_false authenticated, ?_⟩
          cases target : splitHostPort request.host with
          | error error => simp [target] at handled
          | ok parts =>
              simp only [target] at handled
              split at handled
              · cases handled
              · split at handled
                · cases handled
                · cases handled
                  rfl

theorem http_proxy_early_data_iff (readRequest : Reader String ConnectRequest) (stable : Stable readRequest)
    (protocol : LocalProtocol) (connectToTransport : LocalProtocol → String → UInt16 → Option Transport)
    (head data : List UInt8) (request : ConnectRequest) (reads : Reads readRequest head request)
    (segments : List (List UInt8)) (whole : segments.flatten = head ++ data) (socket : Socket) (piped : NetConn) (host : String)
    (port : UInt16) (transport : Transport)
    (handled : handleHttpProxy readRequest protocol connectToTransport ⟨segments, socket⟩ = .piped host port piped transport) :
    piped.segments.flatten = data ↔ EndsAtRead head segments := by
  obtain ⟨found, reader, parsed, _, _, handed⟩ := piped_behind_request readRequest protocol connectToTransport _ piped host port
    transport handled
  obtain ⟨other, again, unread, held⟩ := parse_behind_head readRequest stable head data request reads segments whole
  have same := (Prod.mk.inj (Except.ok.inj (parsed.symm.trans again))).2
  subst same
  rw [handed, ← held, ← unread]
  exact new_reader_unread_iff reader

def connectHead : List UInt8 := bytesOf "CONNECT a:80 HTTP/1.1\r\n\r\n"

theorem connect_head_some : connectHead ≠ [] := by decide

def connectToA : ConnectRequest := ⟨"CONNECT", "a:80", ""⟩

def overWst : LocalProtocol → String → UInt16 → Option Transport := fun _ _ _ => some .wst

theorem piped_to_a (data : List UInt8) (later : List (List UInt8)) :
    handleHttpProxy (expect connectHead connectToA) {} overWst ⟨(connectHead ++ data) :: later, ⟨[], []⟩⟩ =
      .piped "a" 80 ⟨later, ⟨connectionEstablished, []⟩⟩ .wst := by
  have parsed : parse (expect connectHead connectToA : Reader String ConnectRequest) [] ((connectHead ++ data) :: later) = _ :=
    expect_parse connectHead data connectToA later connect_head_some
  have target : splitHostPort connectToA.host = .ok ("a", "80") := by decide
  rw [handleHttpProxy, parsed]
  simp only [target]
  rfl

-- The first byte of a TLS hello in a Read of its own is handed over.
theorem hello_behind_request_piped :
    ∃ piped, handleHttpProxy (expect connectHead connectToA) {} overWst ⟨[connectHead ++ [], [22]], ⟨[], []⟩⟩ =
      .piped "a" 80 piped .wst ∧ piped.segments.flatten = [22] := by
  refine ⟨_, piped_to_a [] [[22]], ?_⟩
  refine (http_proxy_early_data_iff _ (expect_stable _ _) {} overWst connectHead [22] connectToA (expect_reads _ _)
    [connectHead ++ [], [22]] ?_ ⟨[], []⟩ _ _ _ _ (piped_to_a [] [[22]])).mpr ⟨[connectHead ++ []], [[22]], rfl, ?_⟩
  · simp
  · simp

-- In one Read with the request it stays in the reader.
theorem hello_with_request_lost :
    ∃ piped, handleHttpProxy (expect connectHead connectToA) {} overWst ⟨[connectHead ++ [22]], ⟨[], []⟩⟩ =
      .piped "a" 80 piped .wst ∧ piped.segments.flatten = [] :=
  ⟨_, piped_to_a [22] [], rfl⟩

end WarpStream
