import WarpStream.AddrText
import WarpStream.ConfigFile
import WarpStream.GoUrl
import WarpStream.Manager
import WarpStream.Upgrade

set_option autoImplicit false

namespace WarpStream

open GoText GoUrl

inductive ClientCertificate (Pair : Type) where
  | none
  | reloaded
  | loaded (pair : Pair)
deriving DecidableEq

structure TlsConfig (Pair : Type) where
  insecureSkipVerify : Bool
  serverName : String
  certificate : ClientCertificate Pair
  nextProtos : List String := []
deriving DecidableEq

-- What a connection to the server is made of.
inductive Layers (Pair : Type) where
  | raw (network addr : String)
  | tls (config : TlsConfig Pair) (inner : Layers Pair)
deriving DecidableEq

-- The network below: whether a connection comes about and a handshake on it succeeds.
structure Outside (Pair : Type) where
  dial : String → String → Except String Unit
  handshake : TlsConfig Pair → Layers Pair → Except String Unit

-- Config.ServerURL as url.Parse leaves it, as far as connections depend on it.
structure TargetUrl where
  scheme : String
  host : String
deriving DecidableEq

def TargetUrl.parsed (url : TargetUrl) : ParsedUrl := ⟨url.scheme, (splitHost url.host).1, (splitHost url.host).2⟩

abbrev DialContext (Pair : Type) := String → String → Except String (Layers Pair)

-- What a pool has when it is asked.
inductive PoolFinds (Pair : Type) where
  | closed
  | empty
  | ready (conn : Layers Pair)

-- The libraries that dial for the client: gorilla's Dialer.Dial with its TLSClientConfig and
-- NetDialContext, and the client of an http2.Transport with its DialTLSContext, which takes a
-- host through idna.ToASCII. Both give the connection over which they send their request.
structure Dialers (Pair : Type) where
  gorilla : TargetUrl → Option (TlsConfig Pair) → DialContext Pair → Except String (Layers Pair)
  http2 : TargetUrl → DialContext Pair → Except String (Layers Pair)
  toASCII : String → String

def wrapError {α : Type} (what : String) (result : Except String α) : Except String α := result.mapError (what ++ ·)

section

variable {Pair : Type} (outside : Outside Pair) (loadX509KeyPair : String → String → Except String Pair) (config : ClientConfig)
  (reloader : Bool)

def tlsClientConfig (serverName : String) : Except String (TlsConfig Pair) :=
  let serverName := if config.tlsSniOverride ≠ "" then config.tlsSniOverride else serverName
  if config.tlsClientCert ≠ "" ∧ config.tlsClientKey ≠ "" then
    if reloader then .ok ⟨!config.tlsVerifyCert, serverName, .reloaded, []⟩
    else
      (wrapError "failed to load client cert: " (loadX509KeyPair config.tlsClientCert config.tlsClientKey)).map fun pair =>
        ⟨!config.tlsVerifyCert, serverName, .loaded pair, []⟩
  else .ok ⟨!config.tlsVerifyCert, serverName, .none, []⟩

def dialRawTransport (url : TargetUrl) (network addr : String) : Except String (Layers Pair) :=
  let addr := if addr = "" then joinHostPort url.parsed.hostname url.parsed.dialPort else addr
  let network := if network = "" then "tcp" else network
  (outside.dial network addr).map fun _ => .raw network addr

def dialTransport (url : TargetUrl) (network addr : String) : Except String (Layers Pair) :=
  (dialRawTransport outside url network addr).bind fun conn =>
    if url.parsed.secure then
      (tlsClientConfig loadX509KeyPair config reloader url.parsed.hostname).bind fun tls =>
        (wrapError "tls handshake failed: " (outside.handshake tls conn)).map fun _ => .tls tls conn
    else .ok conn

def poolGet (finds : PoolFinds Pair) (url : TargetUrl) : Except String (Layers Pair) :=
  match finds with
  | .closed => .error "use of closed network connection"
  | .empty => dialTransport outside loadX509KeyPair config reloader url "" ""
  | .ready conn => .ok conn

-- The URL with the port written out, as connectToWarpStream and connectToHttp2 do it first.
def TargetUrl.withPort (url : TargetUrl) : TargetUrl :=
  if url.parsed.port = "" then { url with host := joinHostPort url.parsed.hostname url.parsed.dialPort } else url

-- Dial of pkg/wst up to its request, which brings TLS of its own for a secure scheme.
def wstDial (url : TargetUrl) (netDialContext : DialContext Pair) : Except String (Layers Pair) :=
  (netDialContext "tcp" (joinHostPort url.parsed.hostname url.parsed.dialPort)).bind fun conn =>
    if url.parsed.secure then
      let tls := ⟨false, url.parsed.hostname, .none, []⟩
      (outside.handshake tls conn).map fun _ => .tls tls conn
    else .ok conn

variable (dialers : Dialers Pair) (pool : Option (PoolFinds Pair))

-- The connects up to their requests, each with what it sends its request over.
def connectToWarpStream (url : TargetUrl) : Except String (Layers Pair) :=
  let dialled := url.withPort
  let dialled := if dialled.parsed.secure then { dialled with scheme := "ws" } else dialled
  wrapError "failed to dial: " (wstDial outside dialled fun network addr =>
    match pool with
    | some finds => poolGet outside loadX509KeyPair config reloader finds url
    | none => dialTransport outside loadX509KeyPair config reloader url network addr)

def connectToHttp2 (url : TargetUrl) : Except String (Layers Pair) :=
  let sent := url.withPort
  let sent := if sent.scheme = "ws" then { sent with scheme := "http" } else if sent.scheme = "wss" then { sent with scheme := "https" } else sent
  wrapError "failed to send request: " (dialers.http2 sent (dialTransport outside loadX509KeyPair config reloader url))

def TargetUrl.websocket (url : TargetUrl) : TargetUrl :=
  if url.scheme = "ws" ∨ url.scheme = "http" then { url with scheme := "ws" }
  else if url.parsed.secure then { url with scheme := "wss" } else url

def connectToGorilla (url : TargetUrl) : Except String (Layers Pair) :=
  let dialled := url.websocket
  if dialled.scheme = "wss" then
    (tlsClientConfig loadX509KeyPair config reloader dialled.parsed.hostname).bind fun tls =>
      dialers.gorilla dialled (some tls) (dialRawTransport outside url)
  else
    dialers.gorilla dialled none fun network addr =>
      match pool with
      | some finds => poolGet outside loadX509KeyPair config reloader finds url
      | none => dialRawTransport outside url network addr

def connectToTransport (url : TargetUrl) : Transport × Except String (Layers Pair) :=
  if url.scheme = "http" ∨ url.scheme = "https" then (.http2, connectToHttp2 outside loadX509KeyPair config reloader dialers url)
  else if config.websocketProtocol = "ws" then (.gorilla, connectToGorilla outside loadX509KeyPair config reloader dialers pool url)
  else (.wst, connectToWarpStream outside loadX509KeyPair config reloader pool url)

end

section

variable {Fault α β : Type} (first : Except Fault α) (result : β)

theorem except_bind_ok (next : α → Except Fault β) (done : first.bind next = .ok result) :
    ∃ value, first = .ok value ∧ next value = .ok result := by
  cases first with
  | error fault => cases done
  | ok value => exact ⟨value, rfl, done⟩

theorem except_map_ok (next : α → β) (done : first.map next = .ok result) : ∃ value, first = .ok value ∧ next value = result := by
  cases first with
  | error fault => cases done
  | ok value => exact ⟨value, rfl, Except.ok.inj done⟩

end

theorem wrapped_ok {α : Type} (what : String) (result : Except String α) (value : α) (done : wrapError what result = .ok value) :
    result = .ok value := by
  cases result with
  | error fault => cases done
  | ok found => exact done

def secureScheme (scheme : String) : Bool := decide (scheme = "wss" ∨ scheme = "https")

def defaultPort (secure : Bool) : String := if secure then "443" else "80"

theorem default_port_digits (secure : Bool) : defaultPort secure ≠ "" ∧ ∀ rune ∈ (defaultPort secure).toList, rune.isDigit = true := by
  cases secure
  · exact ⟨by decide, all_runes _ _ (by decide)⟩
  · exact ⟨by decide, all_runes _ _ (by decide)⟩

-- The authority with its port written out.
def fullAuthority (authority : Authority) (secure : Bool) : Authority :=
  { authority with
    port := some (authority.port.getD (defaultPort secure))
    digits := by
      intro text found
      cases found
      cases port : authority.port with
      | none => exact default_port_digits secure
      | some written => exact authority.digits written port }

-- The place that an authority names.
def dialAddr (authority : Authority) (secure : Bool) : String := joinHostPort authority.host (authority.port.getD (defaultPort secure))

-- What the client relies on. gorilla asks NetDialContext for the host of the URL and its port
-- or the scheme's, and puts TLS with the configuration on what it gets for wss alone; it may
-- offer protocols, but not h2. The http2.Transport takes what DialTLSContext gives.
structure Dialers.Direct {Pair : Type} (dialers : Dialers Pair) : Prop where
  plain : ∀ authority dial layers, dialers.gorilla ⟨"ws", authority.text⟩ none dial = .ok layers →
    dial "tcp" (dialAddr authority false) = .ok layers
  tls : ∀ authority tls dial layers, tls.serverName ≠ "" → dialers.gorilla ⟨"wss", authority.text⟩ (some tls) dial = .ok layers →
    ∃ conn protos, "h2" ∉ protos ∧ dial "tcp" (dialAddr authority true) = .ok conn ∧ layers = .tls { tls with nextProtos := protos } conn
  http2 : ∀ scheme authority secure dial layers, dialers.http2 ⟨scheme, (fullAuthority authority secure).text⟩ dial = .ok layers →
    dial "tcp" (joinHostPort (dialers.toASCII authority.host) (authority.port.getD (defaultPort secure))) = .ok layers

section

variable (authority : Authority) (scheme : String) (secure : Bool)

theorem full_text : (fullAuthority authority secure).text = dialAddr authority secure := (join_bracketed authority _).symm

theorem target_secure (host : String) : (TargetUrl.mk scheme host).parsed.secure = secureScheme scheme := rfl

theorem target_hostname : (TargetUrl.mk scheme authority.text).parsed.hostname = authority.host := by
  rw [TargetUrl.parsed, split_authority]

theorem target_port : (TargetUrl.mk scheme authority.text).parsed.dialPort =
    authority.port.getD (defaultPort (secureScheme scheme)) := by
  rw [ParsedUrl.dialPort, TargetUrl.parsed, split_authority]
  cases port : authority.port with
  | none => rfl
  | some text => exact if_neg (authority.digits text port).1

theorem target_addr : joinHostPort (TargetUrl.mk scheme authority.text).parsed.hostname (TargetUrl.mk scheme authority.text).parsed.dialPort =
    dialAddr authority (secureScheme scheme) := by
  rw [target_hostname, target_port, dialAddr]

theorem target_with_port : (TargetUrl.mk scheme authority.text).withPort =
    ⟨scheme, (fullAuthority authority (secureScheme scheme)).text⟩ := by
  rw [TargetUrl.withPort, target_addr, full_text]
  by_cases bare : (TargetUrl.mk scheme authority.text).parsed.port = ""
  · exact if_pos bare
  · rw [if_neg bare]
    rw [TargetUrl.parsed, split_authority] at bare
    cases port : authority.port with
    | none =>
        rw [port] at bare
        exact absurd rfl bare
    | some text =>
        rw [dialAddr, join_bracketed, Authority.text, port]
        rfl

end

def Layers.offered {Pair : Type} : Layers Pair → List String
  | .raw _ _ => []
  | .tls config _ => config.nextProtos

section

variable {Pair : Type} (outside : Outside Pair) (loadX509KeyPair : String → String → Except String Pair) (config : ClientConfig)
  (reloader : Bool)

-- One connection to the server, in TLS with the client's own configuration if asked for.
def RunsOver (authority : Authority) (secure : Bool) (layers : Layers Pair) : Prop :=
  if secure then
    ∃ tls protos, "h2" ∉ protos ∧ tlsClientConfig loadX509KeyPair config reloader authority.host = .ok tls ∧
      layers = .tls { tls with nextProtos := protos } (.raw "tcp" (dialAddr authority true))
  else layers = .raw "tcp" (dialAddr authority false)

theorem tls_config_made (host : String) (named : host ≠ "") (tls : TlsConfig Pair)
    (made : tlsClientConfig loadX509KeyPair config reloader host = .ok tls) : tls.serverName ≠ "" ∧ tls.nextProtos = [] := by
  have chosen : (if config.tlsSniOverride ≠ "" then config.tlsSniOverride else host) ≠ "" := by
    split
    · assumption
    · exact named
  simp only [tlsClientConfig] at made
  generalize (if config.tlsSniOverride ≠ "" then config.tlsSniOverride else host) = name at made chosen
  split at made
  · split at made
    · cases made
      exact ⟨chosen, rfl⟩
    · obtain ⟨pair, _, rfl⟩ := except_map_ok _ _ _ made
      exact ⟨chosen, rfl⟩
  · cases made
    exact ⟨chosen, rfl⟩

variable (authority : Authority) (scheme : String)

theorem dial_raw_layers (network addr : String) (tcp : network = "" ∨ network = "tcp")
    (given : addr = "" ∨ addr = dialAddr authority (secureScheme scheme)) (layers : Layers Pair)
    (dialled : dialRawTransport outside ⟨scheme, authority.text⟩ network addr = .ok layers) :
    layers = .raw "tcp" (dialAddr authority (secureScheme scheme)) := by
  have net : (if network = "" then "tcp" else network) = "tcp" := by
    rcases tcp with rfl | rfl
    · exact if_pos rfl
    · exact if_neg (by decide)
  have place : (if addr = "" then dialAddr authority (secureScheme scheme) else addr) =
      dialAddr authority (secureScheme scheme) := by
    rcases given with rfl | rfl
    · exact if_pos rfl
    · exact ite_self _
  simp only [dialRawTransport, target_addr, net, place] at dialled
  obtain ⟨_, _, rfl⟩ := except_map_ok _ _ _ dialled
  rfl

theorem dial_layers (network addr : String) (tcp : network = "" ∨ network = "tcp")
    (given : addr = "" ∨ addr = dialAddr authority (secureScheme scheme)) (layers : Layers Pair)
    (dialled : dialTransport outside loadX509KeyPair config reloader ⟨scheme, authority.text⟩ network addr = .ok layers) :
    RunsOver loadX509KeyPair config reloader authority (secureScheme scheme) layers ∧ layers.offered = [] := by
  obtain ⟨conn, raw, rest⟩ := except_bind_ok _ _ _ dialled
  have below := dial_raw_layers outside authority scheme network addr tcp given conn raw
  rw [target_hostname, target_secure] at rest
  cases secure : secureScheme scheme with
  | true =>
      rw [secure] at below rest
      obtain ⟨tls, made, shaken⟩ := except_bind_ok _ _ _ rest
      obtain ⟨_, _, rfl⟩ := except_map_ok _ _ _ shaken
      have unoffered := (tls_config_made loadX509KeyPair config reloader _ authority.named tls made).2
      exact ⟨⟨tls, tls.nextProtos, by rw [unoffered]; exact List.not_mem_nil, made, by rw [below]⟩, unoffered⟩
  | false =>
      rw [secure] at below rest
      cases rest
      exact ⟨below, by rw [below]; rfl⟩

-- The pool has what its own goroutine dialled, whenever that was.
def Filled (pool : Option (PoolFinds Pair)) (url : TargetUrl) : Prop :=
  ∀ conn, pool = some (.ready conn) → ∃ before, dialTransport before loadX509KeyPair config reloader url "" "" = .ok conn

theorem pool_layers (finds : PoolFinds Pair) (filled : Filled loadX509KeyPair config reloader (some finds) ⟨scheme, authority.text⟩)
    (layers : Layers Pair) (got : poolGet outside loadX509KeyPair config reloader finds ⟨scheme, authority.text⟩ = .ok layers) :
    RunsOver loadX509KeyPair config reloader authority (secureScheme scheme) layers ∧ layers.offered = [] := by
  cases finds with
  | closed => cases got
  | empty => exact dial_layers outside loadX509KeyPair config reloader authority scheme "" "" (.inl rfl) (.inl rfl) layers got
  | ready conn =>
      cases got
      obtain ⟨before, dialled⟩ := filled _ rfl
      exact dial_layers before loadX509KeyPair config reloader authority scheme "" "" (.inl rfl) (.inl rfl) _ dialled

variable (dialers : Dialers Pair) (direct : dialers.Direct) (pool : Option (PoolFinds Pair))
  (filled : Filled loadX509KeyPair config reloader pool ⟨scheme, authority.text⟩) (layers : Layers Pair)

theorem wst_dial_plain (plain : secureScheme scheme = false) (netDialContext : DialContext Pair)
    (dialled : wstDial outside ⟨scheme, authority.text⟩ netDialContext = .ok layers) :
    netDialContext "tcp" (dialAddr authority false) = .ok layers := by
  obtain ⟨conn, got, rest⟩ := except_bind_ok _ _ _ dialled
  rw [target_addr, plain] at got
  rw [target_secure, plain] at rest
  cases rest
  exact got

include filled in
-- The scheme is no longer a secure one when wst.Dial sees it, so that TLS is not put on twice.
theorem wst_layers
    (connected : connectToWarpStream outside loadX509KeyPair config reloader pool ⟨scheme, authority.text⟩ = .ok layers) :
    RunsOver loadX509KeyPair config reloader authority (secureScheme scheme) layers := by
  have plain : ∀ full, ∃ given, (if (TargetUrl.mk scheme full).parsed.secure = true then TargetUrl.mk "ws" full
      else ⟨scheme, full⟩) = ⟨given, full⟩ ∧ secureScheme given = false := by
    intro full
    by_cases secure : secureScheme scheme = true
    · exact ⟨"ws", if_pos secure, rfl⟩
    · exact ⟨scheme, if_neg secure, Bool.not_eq_true _ ▸ secure⟩
  obtain ⟨given, same, insecure⟩ := plain (fullAuthority authority (secureScheme scheme)).text
  simp only [connectToWarpStream, target_with_port, same] at connected
  have got := wst_dial_plain outside _ given layers insecure _ (wrapped_ok _ _ _ connected)
  cases pool with
  | some finds => exact (pool_layers outside loadX509KeyPair config reloader authority scheme finds filled layers got).1
  | none => exact (dial_layers outside loadX509KeyPair config reloader authority scheme "tcp" _ (.inr rfl) (.inr rfl) layers got).1

include direct in
theorem http2_layers (ascii : dialers.toASCII authority.host = authority.host)
    (connected : connectToHttp2 outside loadX509KeyPair config reloader dialers ⟨scheme, authority.text⟩ = .ok layers) :
    RunsOver loadX509KeyPair config reloader authority (secureScheme scheme) layers ∧ layers.offered = [] := by
  have asked : ∀ given, dialers.http2 ⟨given, (fullAuthority authority (secureScheme scheme)).text⟩
      (dialTransport outside loadX509KeyPair config reloader ⟨scheme, authority.text⟩) = .ok layers →
      RunsOver loadX509KeyPair config reloader authority (secureScheme scheme) layers ∧ layers.offered = [] := by
    intro given answered
    have got := direct.http2 given authority _ _ layers answered
    rw [ascii] at got
    exact dial_layers outside loadX509KeyPair config reloader authority scheme "tcp" _ (.inr rfl) (.inr rfl) layers got
  rw [connectToHttp2, target_with_port] at connected
  replace connected := wrapped_ok _ _ _ connected
  split at connected
  · exact asked "http" connected
  · split at connected
    · exact asked "https" connected
    · exact asked scheme connected

omit scheme filled in
include direct in
theorem gorilla_plain_layers (filled : Filled loadX509KeyPair config reloader pool ⟨"ws", authority.text⟩)
    (connected : connectToGorilla outside loadX509KeyPair config reloader dialers pool ⟨"ws", authority.text⟩ = .ok layers) :
    RunsOver loadX509KeyPair config reloader authority false layers := by
  have kept : (TargetUrl.mk "ws" authority.text).websocket = ⟨"ws", authority.text⟩ := if_pos (.inl rfl)
  have plain : ¬ "ws" = "wss" := by decide
  simp only [connectToGorilla, kept, if_neg plain] at connected
  have got := direct.plain authority _ layers connected
  cases pool with
  | some finds => exact (pool_layers outside loadX509KeyPair config reloader authority "ws" finds filled layers got).1
  | none => exact dial_raw_layers outside authority "ws" "tcp" _ (.inr rfl) (.inr rfl) layers got

omit scheme filled in
include direct in
-- gorilla's Dialer puts on the TLS; the pool, whose connections have theirs already, is left aside.
theorem gorilla_tls_layers
    (connected : connectToGorilla outside loadX509KeyPair config reloader dialers pool ⟨"wss", authority.text⟩ = .ok layers) :
    RunsOver loadX509KeyPair config reloader authority true layers := by
  have kept : (TargetUrl.mk "wss" authority.text).websocket = ⟨"wss", authority.text⟩ :=
    (if_neg (by decide : ¬ ("wss" = "ws" ∨ "wss" = "http"))).trans (ite_self _)
  simp only [connectToGorilla, kept, if_true, target_hostname] at connected
  obtain ⟨tls, made, dialled⟩ := except_bind_ok _ _ _ connected
  have named := (tls_config_made loadX509KeyPair config reloader authority.host authority.named tls made).1
  obtain ⟨conn, protos, other, raw, rfl⟩ := direct.tls authority tls _ layers named dialled
  rw [dial_raw_layers outside authority "wss" "tcp" _ (.inr rfl) (.inr rfl) conn raw]
  exact ⟨tls, protos, other, made, rfl⟩

include direct filled in
theorem connected_layers (known : scheme ∈ ["ws", "wss", "http", "https"]) (ascii : dialers.toASCII authority.host = authority.host)
    (connected : (connectToTransport outside loadX509KeyPair config reloader dialers pool ⟨scheme, authority.text⟩).2 = .ok layers) :
    RunsOver loadX509KeyPair config reloader authority (secureScheme scheme) layers := by
  rw [connectToTransport] at connected
  by_cases http : scheme = "http" ∨ scheme = "https"
  · rw [if_pos http] at connected
    exact (http2_layers outside loadX509KeyPair config reloader authority scheme dialers direct layers ascii connected).1
  · rw [if_neg http] at connected
    by_cases mode : config.websocketProtocol = "ws"
    · rw [if_pos mode] at connected
      have websocket : scheme = "ws" ∨ scheme = "wss" := by
        simp only [List.mem_cons, List.not_mem_nil, or_false] at known
        tauto
      rcases websocket with rfl | rfl
      · exact gorilla_plain_layers outside loadX509KeyPair config reloader authority dialers direct pool layers filled connected
      · exact gorilla_tls_layers outside loadX509KeyPair config reloader authority dialers direct pool layers connected
    · rw [if_neg mode] at connected
      exact wst_layers outside loadX509KeyPair config reloader authority scheme pool filled layers connected

end

def loopbackAuthority : Authority where
  host := "::1"
  port := none
  named := by decide
  bare := by decide
  digits _ found := by cases found

def openNetwork : Outside Unit := ⟨fun _ _ => .ok (), fun _ _ => .ok ()⟩

-- Dialers that do what is relied on and no more.
def plainDialers : Dialers Unit where
  gorilla := fun url tls dial => (dial "tcp" (joinHostPort url.parsed.hostname url.parsed.dialPort)).map fun conn =>
    match tls with
    | none => conn
    | some tls => .tls { tls with nextProtos := [] } conn
  http2 := fun url dial => dial "tcp" url.host
  toASCII := fun host => host

theorem plain_dialers_direct : plainDialers.Direct where
  plain := by
    intro authority dial layers dialled
    obtain ⟨conn, got, rfl⟩ := except_map_ok _ _ _ dialled
    rw [target_addr] at got
    exact got
  tls := by
    intro authority tls dial layers _ dialled
    obtain ⟨conn, got, rfl⟩ := except_map_ok _ _ _ dialled
    rw [target_addr] at got
    exact ⟨conn, [], List.not_mem_nil, got, rfl⟩
  http2 := by
    intro scheme authority secure dial layers answered
    change dial "tcp" (dialAddr authority secure) = .ok layers
    rw [← full_text]
    exact answered

end WarpStream
