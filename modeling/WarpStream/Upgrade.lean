import WarpStream.BufReader
import WarpStream.GoText
import WarpStream.WstConn

set_option autoImplicit false

namespace WarpStream

open BufReader BufWriter ByteReader GoText

def websocketGUID : String := "258EAFA5-E914-47DA-95CA-C5AB0DC85B11"

def generateAcceptKey (sha1 : List UInt8 → List UInt8) (clientKey : String) : String :=
  String.ofList (encodeBase64 (sha1 (bytesOf clientKey ++ bytesOf websocketGUID)))

def tokenContains (header token : String) : Bool :=
  (header.toList.splitOn ',').any fun part => equalFold (String.ofList (trimSpace part)) token

-- Both halves of a wst.Conn on one connection.
structure WstEnd where
  masking : Bool
  bufr : Buffered
  bufw : Writer

def WstEnd.newConnWithReader (conn : NetConn) (masking : Bool) (reader : Buffered) : WstEnd :=
  ⟨masking, reader, newWriter conn.socket⟩

def WstEnd.newConn (conn : NetConn) (masking : Bool) : WstEnd :=
  WstEnd.newConnWithReader conn masking (newReader conn.segments)

structure UpgradeRequest where
  method : String
  connection : String
  upgrade : String
  version : String
  key : String
deriving DecidableEq, Repr

inductive UpgradeError where
  | notGet
  | notUpgrade
  | notWebsocket
  | version
  | noKey
  | noHijacker
  | hijack (text : String)
  | notSent
deriving DecidableEq, Repr

def UpgradeError.message : UpgradeError → Option String
  | .notGet => some "websocket: method is not GET"
  | .notUpgrade => some "websocket: connection header is not 'upgrade'"
  | .notWebsocket => some "websocket: upgrade header is not 'websocket'"
  | .version => some "websocket: unsupported websocket version"
  | .noKey => some "websocket: client key header is missing or empty"
  | .noHijacker => some "response writer does not support hijacking"
  | .hijack text => some text
  | .notSent => none

-- Hijack hands out the connection and the bufio.ReadWriter that net/http has on it.
inductive Hijacker where
  | unsupported
  | failing (text : String)
  | ready (reader : Buffered) (writer : Writer)

def switchingProtocols (acceptKey : String) (subprotocols : List String) : String :=
  "HTTP/1.1 101 Switching Protocols\r\n" ++ "Upgrade: websocket\r\n" ++ "Connection: Upgrade\r\n" ++
    ("Sec-WebSocket-Accept: " ++ acceptKey ++ "\r\n") ++
    (match subprotocols with
    | [] => ""
    | first :: _ => "Sec-WebSocket-Protocol: " ++ first ++ "\r\n") ++ "\r\n"

-- The reader is dropped: NewConn makes one of its own on the connection.
def upgrade (sha1 : List UInt8 → List UInt8) (subprotocols : List String) (request : UpgradeRequest) (hijacker : Hijacker) :
    Except UpgradeError WstEnd :=
  if request.method ≠ "GET" then .error .notGet
  else if tokenContains request.connection "upgrade" = false then .error .notUpgrade
  else if equalFold request.upgrade "websocket" = false then .error .notWebsocket
  else if request.version ≠ "13" then .error .version
  else if request.key = "" then .error .noKey
  else
    match hijacker with
    | .unsupported => .error .noHijacker
    | .failing text => .error (.hijack text)
    | .ready reader writer =>
        let answer := bytesOf (switchingProtocols (generateAcceptKey sha1 request.key) subprotocols)
        let sent := andThen (write answer) flush writer
        if sent.2 then .ok (WstEnd.newConn ⟨reader.conn, sent.1.socket⟩ false) else .error .notSent

-- What the code asks of a url.URL before it connects or listens.
structure ParsedUrl where
  scheme : String
  hostname : String
  port : String
deriving DecidableEq, Repr

def ParsedUrl.secure (url : ParsedUrl) : Bool := decide (url.scheme = "wss" ∨ url.scheme = "https")

def ParsedUrl.dialPort (url : ParsedUrl) : String := if url.port = "" then (if url.secure then "443" else "80") else url.port

structure DialUrl extends ParsedUrl where
  requestUri : String
deriving DecidableEq, Repr

structure Dialer where
  netDialContext : String → Except String NetConn
  tlsHandshake : String → NetConn → Except String NetConn

structure UpgradeResponse where
  statusCode : Nat
  status : String
  accept : String
deriving DecidableEq, Repr

inductive DialError where
  | connect (text : String)
  | tls (text : String)
  | notSent
  | response (fault : Fault String)
  | badStatus (status : String)
  | invalidAccept
deriving DecidableEq, Repr

def DialError.message : DialError → Option String
  | .connect text => some text
  | .tls text => some text
  | .notSent => none
  | .response _ => none
  | .badStatus status => some ("bad status: " ++ status)
  | .invalidAccept => some "invalid Sec-WebSocket-Accept"

def upgradeText (url : DialUrl) (nonce : String) (header : List (String × List String)) : String :=
  "GET " ++ url.requestUri ++ " HTTP/1.1\r\nHost: " ++ url.hostname ++
    "\r\nUpgrade: websocket\r\nConnection: Upgrade\r\nSec-WebSocket-Key: " ++ nonce ++ "\r\nSec-WebSocket-Version: 13\r\n" ++
    String.join (header.flatMap fun (name, values) => values.map fun value => name ++ ": " ++ value ++ "\r\n") ++ "\r\n"

def established (dialer : Dialer) (url : DialUrl) : Except DialError NetConn :=
  match dialer.netDialContext (joinHostPort url.hostname url.dialPort) with
  | .error text => .error (.connect text)
  | .ok conn => if url.secure then (dialer.tlsHandshake url.hostname conn).mapError .tls else .ok conn

def dial (sha1 : List UInt8 → List UInt8) (readResponse : Reader String UpgradeResponse) (dialer : Dialer) (url : DialUrl)
    (nonce : String) (header : List (String × List String)) : Except DialError WstEnd :=
  match established dialer url with
  | .error error => .error error
  | .ok conn =>
      let written := conn.socket.write (bytesOf (upgradeText url nonce header))
      if written.done = false then .error .notSent
      else
        match parse readResponse [] conn.segments with
        | .error fault => .error (.response fault)
        | .ok (response, reader) =>
            if response.statusCode ≠ 101 then .error (.badStatus response.status)
            else if response.accept ≠ generateAcceptKey sha1 nonce then .error .invalidAccept
            else .ok (WstEnd.newConnWithReader ⟨reader.conn, written.socket⟩ true reader)

theorem upgrade_ok (sha1 : List UInt8 → List UInt8) (subprotocols : List String) (request : UpgradeRequest) (reader : Buffered)
    (writer : Writer) (ends : WstEnd) (upgraded : upgrade sha1 subprotocols request (.ready reader writer) = .ok ends) :
    ends.masking = false ∧ ends.bufr = newReader reader.conn := by
  unfold upgrade at upgraded
  split at upgraded
  · cases upgraded
  · split at upgraded
    · cases upgraded
    · split at upgraded
      · cases upgraded
      · split at upgraded
        · cases upgraded
        · split at upgraded
          · cases upgraded
          · simp only at upgraded
            split at upgraded
            · cases upgraded
              exact ⟨rfl, rfl⟩
            · cases upgraded

structure UpgradeRequest.valid (request : UpgradeRequest) : Prop where
  get : request.method = "GET"
  connection : tokenContains request.connection "upgrade" = true
  websocket : equalFold request.upgrade "websocket" = true
  version : request.version = "13"
  key : request.key ≠ ""

theorem upgrade_accepts (sha1 : List UInt8 → List UInt8) (subprotocols : List String) (request : UpgradeRequest)
    (reader : Buffered) (writer : Writer) (valid : request.valid) (steady : Steady writer) :
    ∃ ends, upgrade sha1 subprotocols request (.ready reader writer) = .ok ends := by
  obtain ⟨sent, _⟩ := and_then_completes _ _
    (write_completes (bytesOf (switchingProtocols (generateAcceptKey sha1 request.key) subprotocols))) flush_completes writer steady
  exact ⟨_, by simp [upgrade, valid.get, valid.connection, valid.websocket, valid.version, valid.key, sent]; rfl⟩

theorem dial_ok (sha1 : List UInt8 → List UInt8) (readResponse : Reader String UpgradeResponse) (dialer : Dialer) (url : DialUrl)
    (nonce : String) (header : List (String × List String)) (conn : NetConn) (ends : WstEnd)
    (connected : established dialer url = .ok conn) (dialed : dial sha1 readResponse dialer url nonce header = .ok ends) :
    ∃ response, parse readResponse [] conn.segments = .ok (response, ends.bufr) ∧ response.statusCode = 101 ∧
      response.accept = generateAcceptKey sha1 nonce ∧ ends.masking = true := by
  simp only [dial, connected] at dialed
  split at dialed
  · cases dialed
  · cases read : parse readResponse [] conn.segments with
    | error fault => simp [read] at dialed
    | ok result =>
        obtain ⟨response, reader⟩ := result
        simp only [read] at dialed
        split at dialed
        · cases dialed
        · rename_i status
          split at dialed
          · cases dialed
          · rename_i accept
            cases dialed
            exact ⟨response, rfl, Decidable.not_not.mp status, Decidable.not_not.mp accept, rfl⟩

-- The frames read through the bufio.Reader are those of its unread bytes.
theorem read_frame_buffered (reader : Buffered) :
    (∀ frame next, parse readFrame reader.held reader.conn = .ok (frame, next) →
      readFrame reader.unread = .ok (frame, next.unread)) ∧
    (∀ fault, parse readFrame reader.held reader.conn = .error fault → ∃ rest, readFrame reader.unread = .error (fault, rest)) :=
  ⟨fun frame next parsed => parse_ok readFrame stable_frame reader.held reader.conn frame next parsed,
    fun fault failed => parse_error readFrame reader.held reader.conn fault failed⟩

-- The bytes behind the head are what Hijack's reader has still to give: those that it holds
-- already are lost, whether they came with the head or were read behind it.
theorem conn_decodes_from_first_byte_iff (sha1 : List UInt8 → List UInt8) (readResponse : Reader String UpgradeResponse)
    (responseStable : Stable readResponse) (data : List UInt8) :
    (∀ head segments dialer url nonce header socket response ends, segments.flatten = head ++ data →
      Reads readResponse head response → established dialer url = .ok ⟨segments, socket⟩ →
        dial sha1 readResponse dialer url nonce header = .ok ends → ends.bufr.unread = data) ∧
    (∀ subprotocols request reader writer ends, reader.unread = data →
      upgrade sha1 subprotocols request (.ready reader writer) = .ok ends →
        (ends.bufr.unread = data ↔ reader.held = [])) := by
  constructor
  · intro head segments dialer url nonce header socket response ends whole reads connected dialed
    obtain ⟨found, parsed, _⟩ := dial_ok sha1 readResponse dialer url nonce header _ ends connected dialed
    obtain ⟨reader, again, unread, _⟩ := parse_behind_head readResponse responseStable head data response reads segments whole
    have same := (Prod.mk.inj (Except.ok.inj (parsed.symm.trans again))).2
    rw [same, unread]
  · intro subprotocols request reader writer ends unread upgraded
    rw [(upgrade_ok sha1 subprotocols request reader writer ends upgraded).2, ← unread]
    exact new_reader_unread_iff reader

def upgradeHead : List UInt8 := bytesOf "GET /v1/events HTTP/1.1\r\n\r\n"

theorem upgrade_head_some : upgradeHead ≠ [] := by decide

def responseHead : List UInt8 := bytesOf "HTTP/1.1 101 Switching Protocols\r\n\r\n"

def plainUpgrade : UpgradeRequest := ⟨"GET", "keep-alive, Upgrade", "websocket", "13", "a"⟩

theorem plain_upgrade_valid : plainUpgrade.valid := ⟨rfl, by decide, by decide, rfl, by decide⟩

def plainUrl : DialUrl := ⟨⟨"ws", "h", ""⟩, "/v1/events"⟩

def answeringDialer : Dialer := ⟨fun _ => .ok ⟨[responseHead ++ [0x82, 0]], ⟨[], []⟩⟩, fun _ conn => .ok conn⟩

-- A message that comes with the response on one end and behind the request on the other.
theorem upgraded_ends_decode :
    (∃ ends, dial (fun _ => []) (expect responseHead ⟨101, "101", ""⟩) answeringDialer plainUrl "n" [] = .ok ends ∧
      ends.bufr.unread = [0x82, 0]) ∧
    (∃ ends, upgrade (fun _ => []) ["v1"] plainUpgrade (.ready ⟨[], [[0x82, 0]]⟩ (newWriter ⟨[], []⟩)) = .ok ends ∧
      ends.bufr.unread = [0x82, 0]) := by
  obtain ⟨dialed, upgraded⟩ := conn_decodes_from_first_byte_iff (fun _ => []) (expect responseHead ⟨101, "101", ""⟩)
    (expect_stable _ _) [0x82, 0]
  obtain ⟨ends, accepted⟩ := upgrade_accepts (fun _ => []) ["v1"] plainUpgrade ⟨[], [[0x82, 0]]⟩ (newWriter ⟨[], []⟩)
    plain_upgrade_valid (new_writer_steady _ rfl)
  constructor
  · exact ⟨_, rfl, dialed responseHead [responseHead ++ [0x82, 0]] answeringDialer plainUrl "n" [] ⟨[], []⟩ _ _ (List.append_nil _)
      (expect_reads _ _) rfl rfl⟩
  · exact ⟨ends, accepted, (upgraded ["v1"] plainUpgrade ⟨[], [[0x82, 0]]⟩ _ ends rfl accepted).mpr rfl⟩

-- The same bytes in one Read with the request are gone.
theorem upgrade_drops_what_was_read :
    parse (expect upgradeHead plainUpgrade : Reader String UpgradeRequest) [] [upgradeHead ++ [0x82, 0]] =
        .ok (plainUpgrade, ⟨[0x82, 0], []⟩) ∧
      ∃ ends, upgrade (fun _ => []) ["v1"] plainUpgrade (.ready ⟨[0x82, 0], []⟩ (newWriter ⟨[], []⟩)) = .ok ends ∧
        ends.bufr.unread = [] := by
  obtain ⟨ends, accepted⟩ := upgrade_accepts (fun _ => []) ["v1"] plainUpgrade ⟨[0x82, 0], []⟩ (newWriter ⟨[], []⟩)
    plain_upgrade_valid (new_writer_steady _ rfl)
  refine ⟨expect_parse upgradeHead [0x82, 0] plainUpgrade [] upgrade_head_some, ends, accepted, ?_⟩
  rw [(upgrade_ok _ _ _ _ _ ends accepted).2]
  rfl

end WarpStream
