import WarpStream.BufReader
import WarpStream.Incoming

set_option autoImplicit false

namespace WarpStream

open BufReader BufWriter ByteReader Dialogue GoText

-- The connection that goes on, in a prefixConn where the reader holds data.
inductive ProxyConn where
  | plain (conn : NetConn)
  | prefixed (leftover : List UInt8) (conn : NetConn)

def ProxyConn.reader : ProxyConn → Buffered
  | .plain conn => newReader conn.segments
  | .prefixed leftover conn => ⟨leftover, conn.segments⟩

def ProxyConn.socket : ProxyConn → Socket
  | .plain conn => conn.socket
  | .prefixed _ conn => conn.socket

-- The handshake on a connection read in segments. The answer needs no more input.
def handleHttpProxyHandshakeConn (http : HttpLibrary) (conn : NetConn) :
    Except (Fault HttpProxyError) ((List UInt8 × UInt16) × ProxyConn) :=
  match parse http.proxyRequest [] conn.segments with
  | .error fault => .error fault
  | .ok (request, reader) =>
      match answerRequest request ⟨[], conn.socket⟩ with
      | .error (fault, _) => .error fault
      | .ok (target, answered) =>
          let rest : NetConn := ⟨reader.conn, answered.socket⟩
          .ok (target, if reader.held = [] then .plain rest else .prefixed reader.held rest)

theorem proxy_request_stable (http : HttpLibrary) (stable : Stable http.readRequest) : Stable http.proxyRequest := by
  intro input request rest more read
  have found := (proxy_request_iff http input rest request).mp read
  exact (proxy_request_iff http _ _ request).mpr (stable input request rest more found)

theorem proxy_request_reads (http : HttpLibrary) (head : List UInt8) (request : ProxyRequest)
    (reads : Reads http.readRequest head request) : Reads http.proxyRequest head request :=
  fun rest => (proxy_request_iff http _ _ request).mpr (reads rest)

theorem handshake_conn_ok (http : HttpLibrary) (conn : NetConn) (target : List UInt8 × UInt16) (proxied : ProxyConn) :
    handleHttpProxyHandshakeConn http conn = .ok (target, proxied) ↔
      ∃ request reader port, parse http.proxyRequest [] conn.segments = .ok (request, reader) ∧ request.method = "CONNECT" ∧
        parseUint request.portText 16 = (port, none) ∧ target = (request.hostname, UInt16.ofNat port) ∧
        ∃ socket, Sends conn.socket [connectionEstablished] socket ∧
          proxied = if reader.held = [] then .plain ⟨reader.conn, socket⟩ else .prefixed reader.held ⟨reader.conn, socket⟩ := by
  unfold handleHttpProxyHandshakeConn
  cases parsed : parse http.proxyRequest [] conn.segments with
  | error fault => simp
  | ok result =>
      obtain ⟨request, reader⟩ := result
      have answers := recognises_answer request ⟨[], conn.socket⟩
      constructor
      · intro passed
        cases answer : answerRequest request ⟨[], conn.socket⟩ with
        | error failure => simp [answer] at passed
        | ok outcome =>
            obtain ⟨found, answered⟩ := outcome
            simp only [answer] at passed
            cases passed
            obtain ⟨_, _, ⟨connect, ⟨port, numeric, named⟩, rfl, rfl⟩, _, sends⟩ := (answers target answered).mp answer
            exact ⟨request, reader, port, rfl, connect, numeric, named, answered.socket, sends, rfl⟩
      · intro accepted
        obtain ⟨found, other, port, same, connect, numeric, named, socket, sends, whole⟩ := accepted
        cases same
        have answer := (answers target ⟨[], socket⟩).mpr ⟨[], _, ⟨connect, ⟨port, numeric, named⟩, rfl, rfl⟩, rfl, sends⟩
        simp only [answer, whole]

theorem joined_unread (reader : Buffered) (socket : Socket) :
    (if reader.held = [] then ProxyConn.plain ⟨reader.conn, socket⟩
      else .prefixed reader.held ⟨reader.conn, socket⟩).reader.unread = reader.unread := by
  split
  · rename_i none
    exact (new_reader_unread_iff reader).mpr none
  · rfl

-- Read in segments, the handshake does what it does on the bytes as a whole: the
-- connection it returns has exactly what the request leaves.
theorem handshake_conn_refines (http : HttpLibrary) (stable : Stable http.readRequest) (conn : NetConn)
    (target : List UInt8 × UInt16) (proxied : ProxyConn)
    (passed : handleHttpProxyHandshakeConn http conn = .ok (target, proxied)) :
    handleHttpProxyHandshake http ⟨conn.segments.flatten, conn.socket⟩ =
      .ok (target, ⟨proxied.reader.unread, proxied.socket⟩) := by
  obtain ⟨request, reader, port, parsed, connect, numeric, named, socket, sends, whole⟩ :=
    (handshake_conn_ok http conn target proxied).mp passed
  have read := parse_ok http.proxyRequest (proxy_request_stable http stable) [] conn.segments request reader parsed
  have unread := joined_unread reader socket
  have same : proxied.socket = socket := by
    rw [whole]
    split <;> rfl
  rw [← whole] at unread
  rw [List.nil_append] at read
  refine (http_handshake_iff http _ _ target).mpr ⟨request, port, ?_, connect, numeric, named, ?_⟩
  · rw [unread]
    exact (proxy_request_iff http _ _ request).mp read
  · rw [same]
    exact sends

theorem connect_handshake_keeps_early_data (http : HttpLibrary) (stable : Stable http.readRequest) (head data : List UInt8)
    (request : ProxyRequest) (reads : Reads http.readRequest head request) (segments : List (List UInt8))
    (whole : segments.flatten = head ++ data) (socket : Socket) (target : List UInt8 × UInt16) (proxied : ProxyConn)
    (passed : handleHttpProxyHandshakeConn http ⟨segments, socket⟩ = .ok (target, proxied)) :
    (∀ sizes, (readThrough sizes proxied.reader).bytes <+: data ∧
      ((readThrough sizes proxied.reader).ended = true → (readThrough sizes proxied.reader).bytes = data)) ∧
    (∀ sizes : List Nat, (∀ size ∈ sizes, 0 < size) → proxied.reader.work < sizes.length →
      (readThrough sizes proxied.reader).ended = true) ∧
    (request.port = "" → target.2 = 80) ∧
    (request.port ≠ "" → (∀ digit ∈ request.port.toList, digit.isDigit = true) ∧
      target.2.toNat = decimal request.port.toList) := by
  obtain ⟨found, reader, port, parsed, _, numeric, named, after, _, joined⟩ := (handshake_conn_ok http _ target proxied).mp passed
  obtain ⟨other, again, unread, _⟩ := parse_behind_head http.proxyRequest (proxy_request_stable http stable) head data request
    (proxy_request_reads http head request reads) segments whole
  obtain ⟨same, readers⟩ := Prod.mk.inj (Except.ok.inj (parsed.symm.trans again))
  subst same readers
  have stream : proxied.reader.unread = data := by rw [joined, joined_unread, unread]
  have text := parse_uint_ok found.portText 16 port numeric
  have number : target.2.toNat = port := by
    rw [named]
    exact UInt16.toNat_ofNat_of_lt' (Nat.lt_of_le_of_lt text.2.2.2 (by decide))
  refine ⟨?_, ?_, ?_, ?_⟩
  · intro sizes
    obtain ⟨split, finished⟩ := read_through_bytes sizes proxied.reader
    rw [stream] at split
    refine ⟨⟨_, split.symm⟩, fun ended => ?_⟩
    rw [split, finished ended, List.append_nil]
  · intro sizes positive enough
    exact read_through_ends sizes proxied.reader positive enough
  · intro none
    rw [ProxyRequest.portText, if_pos none] at text
    apply UInt16.toNat_inj.mp
    rw [number, text.2.2.1]
    decide
  · intro some
    rw [ProxyRequest.portText, if_neg some] at text
    exact ⟨text.2.1, number.trans text.2.2.1⟩

def proxyHead : List UInt8 := bytesOf "CONNECT a:8443 HTTP/1.1\r\n\r\n"

def oneRequest : HttpLibrary := ⟨expect proxyHead ⟨"CONNECT", [97], "8443", ""⟩⟩

-- Two bytes of a TLS hello, one in the Read of the request and one behind it, read one at a time.
theorem hello_reaches_target :
    ∃ proxied, handleHttpProxyHandshakeConn oneRequest ⟨[proxyHead ++ [22], [3]], ⟨[], []⟩⟩ = .ok (([97], 8443), proxied) ∧
      (readThrough [1, 1, 1, 1, 1] proxied.reader).bytes = [22, 3] := by
  refine ⟨.prefixed [22] ⟨[[3]], ⟨connectionEstablished, []⟩⟩, rfl, ?_⟩
  obtain ⟨bytes, ends, _⟩ := connect_handshake_keeps_early_data oneRequest (expect_stable _ _) proxyHead [22, 3] _ (expect_reads _ _)
    [proxyHead ++ [22], [3]] (by simp) ⟨[], []⟩ ([97], 8443) (.prefixed [22] ⟨[[3]], ⟨connectionEstablished, []⟩⟩) rfl
  exact (bytes [1, 1, 1, 1, 1]).2 (ends [1, 1, 1, 1, 1] (by decide) (by decide))

end WarpStream
