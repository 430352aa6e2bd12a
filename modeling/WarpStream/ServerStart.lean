import WarpStream.TransportLayers

set_option autoImplicit false

namespace WarpStream

open GoText GoUrl

inductive ServerCertificate (Cert : Type) where
  | reloaded
  | ephemeral (cert : Cert)
deriving DecidableEq

-- A pool of authorities comes with RequireAndVerifyClientCert.
structure ServerTls (Pool Cert : Type) where
  clientCAs : Option Pool
  certificate : ServerCertificate Cert
deriving DecidableEq

structure ServerSocket (Pool Cert : Type) where
  addr : String
  tls : Option (ServerTls Pool Cert)
deriving DecidableEq

-- What Start needs of the system, each with the text of its error.
structure ServerHost (Pool Cert : Type) where
  parseURL : String → Option TargetUrl
  listen : String → Except String Unit
  configureHttp2 : Except String Unit
  readCertPool : String → Except String Pool
  newCertReloader : String → String → Except String Unit
  generateSelfSignedCert : Except String Cert

section

variable {Pool Cert : Type} (host : ServerHost Pool Cert) (config : ServerConfig)

def bindAddr : String :=
  if (cut "://".toList config.listenAddr.toList).isSome then
    match host.parseURL config.listenAddr with
    | some url => joinHostPort url.parsed.hostname url.parsed.dialPort
    | none => config.listenAddr
  else config.listenAddr

def hasCertificate : Bool := decide (config.tlsCertificate ≠ "" ∧ config.tlsPrivateKey ≠ "")

def servesTls : Bool := hasCertificate config || config.tls || decide (config.tlsClientCaCerts ≠ "")

def clientCAs : Except String (Option Pool) :=
  if config.tlsClientCaCerts ≠ "" then
    (wrapError "failed to read client CA certs: " (host.readCertPool config.tlsClientCaCerts)).map some
  else .ok none

def serverCertificate : Except String (ServerCertificate Cert) :=
  if hasCertificate config then
    (wrapError "failed to load TLS certificates: " (host.newCertReloader config.tlsCertificate config.tlsPrivateKey)).map fun _ => .reloaded
  else (wrapError "failed to generate ephemeral self-signed certificate: " host.generateSelfSignedCert).map .ephemeral

def serverTlsConfig : Except String (ServerTls Pool Cert) :=
  (clientCAs host config).bind fun pool => (serverCertificate host config).map fun certificate => ⟨pool, certificate⟩

-- Start up to the point where it serves.
def start : Except String (ServerSocket Pool Cert) :=
  (host.listen (bindAddr host config)).bind fun _ =>
    (wrapError "failed to configure HTTP/2: " host.configureHttp2).bind fun _ =>
      if servesTls config then (serverTlsConfig host config).map fun tls => ⟨bindAddr host config, some tls⟩
      else .ok ⟨bindAddr host config, none⟩

end

section

variable {Pool Cert : Type} (host : ServerHost Pool Cert) (config : ServerConfig)

theorem client_cas_some (pool : Option Pool) (read : clientCAs host config = .ok pool) :
    pool.isSome = decide (config.tlsClientCaCerts ≠ "") := by
  rw [clientCAs] at read
  by_cases named : config.tlsClientCaCerts ≠ ""
  · rw [if_pos named] at read
    obtain ⟨found, _, rfl⟩ := except_map_ok _ _ _ read
    exact (decide_eq_true named).symm
  · rw [if_neg named] at read
    cases read
    exact (decide_eq_false named).symm

def ServerSocket.requiresCertificate (socket : ServerSocket Pool Cert) : Bool := socket.tls.any (·.clientCAs.isSome)

theorem started (socket : ServerSocket Pool Cert) (running : start host config = .ok socket) :
    socket.addr = bindAddr host config ∧ socket.tls.isSome = servesTls config ∧
      socket.requiresCertificate = decide (config.tlsClientCaCerts ≠ "") := by
  obtain ⟨_, _, running⟩ := except_bind_ok _ _ _ running
  obtain ⟨_, _, running⟩ := except_bind_ok _ _ _ running
  by_cases serves : servesTls config = true
  · rw [if_pos serves] at running
    obtain ⟨tls, made, rfl⟩ := except_map_ok _ _ _ running
    obtain ⟨pool, read, made⟩ := except_bind_ok _ _ _ made
    obtain ⟨certificate, _, rfl⟩ := except_map_ok _ _ _ made
    exact ⟨rfl, serves.symm, client_cas_some host config pool read⟩
  · rw [if_neg serves] at running
    cases running
    refine ⟨rfl, (Bool.not_eq_true _ ▸ serves).symm, ?_⟩
    rw [servesTls, Bool.or_eq_true, not_or] at serves
    exact (Bool.not_eq_true _ ▸ serves.2).symm

end

def Layers.addr {Pair : Type} : Layers Pair → String
  | .raw _ addr => addr
  | .tls _ inner => inner.addr

def Layers.secured {Pair : Type} : Layers Pair → Bool
  | .raw _ _ => false
  | .tls _ _ => true

def Layers.showsCertificate {Pair : Type} : Layers Pair → Bool
  | .raw _ _ => false
  | .tls config _ => match config.certificate with
      | .none => false
      | .reloaded | .loaded _ => true

-- The client comes to where the server listens, both or none of them speak TLS, they speak one
-- version of HTTP, and a server that insists on a certificate is shown one. Start serves HTTP/2
-- to a client whose TLS offers h2, and to no other.
structure Meets {Pair Pool Cert : Type} (transport : Transport) (layers : Layers Pair) (socket : ServerSocket Pool Cert) : Prop where
  addr : layers.addr = socket.addr
  tls : layers.secured = socket.tls.isSome
  http2 : transport = .http2 ↔ "h2" ∈ layers.offered
  certificate : socket.requiresCertificate = true → layers.showsCertificate = true

section

variable {Pair : Type} (loadX509KeyPair : String → String → Except String Pair) (config : ClientConfig) (reloader : Bool)

def showsCertificate : Bool := decide (config.tlsClientCert ≠ "" ∧ config.tlsClientKey ≠ "")

theorem tls_shows_certificate (serverName : String) (tls : TlsConfig Pair)
    (made : tlsClientConfig loadX509KeyPair config reloader serverName = .ok tls) (protos : List String) (inner : Layers Pair) :
    (Layers.tls { tls with nextProtos := protos } inner).showsCertificate = showsCertificate config := by
  simp only [tlsClientConfig] at made
  by_cases both : config.tlsClientCert ≠ "" ∧ config.tlsClientKey ≠ ""
  · rw [showsCertificate, decide_eq_true both]
    rw [if_pos both] at made
    split at made
    · cases made
      rfl
    · obtain ⟨pair, _, rfl⟩ := except_map_ok _ _ _ made
      rfl
  · rw [showsCertificate, decide_eq_false both]
    rw [if_neg both] at made
    cases made
    rfl

theorem layers_parts (authority : Authority) (secure : Bool) (layers : Layers Pair)
    (runs : RunsOver loadX509KeyPair config reloader authority secure layers) :
    layers.addr = dialAddr authority secure ∧ layers.secured = secure ∧ layers.showsCertificate = (secure && showsCertificate config) ∧
      "h2" ∉ layers.offered := by
  cases secure with
  | true =>
      obtain ⟨tls, protos, other, made, rfl⟩ := runs
      exact ⟨rfl, rfl, tls_shows_certificate loadX509KeyPair config reloader _ tls made protos _, other⟩
  | false =>
      obtain rfl : layers = .raw "tcp" (dialAddr authority false) := runs
      exact ⟨rfl, rfl, rfl, List.not_mem_nil⟩

variable (outside : Outside Pair) (dialers : Dialers Pair) (pool : Option (PoolFinds Pair))

theorem transport_http2 (url : TargetUrl) :
    (connectToTransport outside loadX509KeyPair config reloader dialers pool url).1 = .http2 ↔ url.scheme = "http" ∨ url.scheme = "https" := by
  rw [connectToTransport]
  by_cases http : url.scheme = "http" ∨ url.scheme = "https"
  · rw [if_pos http]
    exact ⟨fun _ => http, fun _ => rfl⟩
  · rw [if_neg http]
    refine ⟨fun same => ?_, fun other => absurd other http⟩
    split at same
    · cases same
    · cases same

end

def loopbackHost (scheme : String) : ServerHost Unit Unit where
  parseURL _ := some ⟨scheme, loopbackAuthority.text⟩
  listen _ := .ok ()
  configureHttp2 := .ok ()
  readCertPool _ := .ok ()
  newCertReloader _ _ := .ok ()
  generateSelfSignedCert := .ok ()

end WarpStream
