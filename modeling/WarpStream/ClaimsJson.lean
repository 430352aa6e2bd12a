import WarpStream.JsonCodec
import WarpStream.Protocol

set_option autoImplicit false

namespace WarpStream

open JsonCodec JsonText

def durationCodec : Codec Duration := structCodec ⟨0, 0⟩
  [plainField "secs" uint64Codec (·.secs) fun duration secs => { duration with secs := secs },
    plainField "nanos" uint32Codec (·.nanos) fun duration nanos => { duration with nanos := nanos }]

theorem duration_lossless : Lossless durationCodec :=
  two_fields_lossless _ _ _ (plain_law _ _ _ _ uint64_lossless fun _ => rfl) (plain_law _ _ _ _ uint32_lossless fun _ => rfl)
    (by decide) (fun _ _ => rfl) rfl rfl fun _ => rfl

theorem duration_present (duration : Duration) : durationCodec.encode duration ≠ .null := struct_present _ _ duration

def Credentials.marshalJSON (credentials : Credentials) : Value := .array [.string credentials.username, .string credentials.password]

-- json.Unmarshal into a nil slice of strings.
def unmarshalStrings : Value → Option (List String)
  | .array elements => elements.mapM (stringCodec.decode "")
  | .null => some []
  | _ => none

-- An array of another length is no error and leaves the credentials as they are.
def Credentials.unmarshalJSON (credentials : Credentials) (data : Value) : Option Credentials :=
  (unmarshalStrings data).map fun arr =>
    match arr with
    | [username, password] => ⟨username, password⟩
    | _ => credentials

def credentialsCodec : Codec Credentials := ⟨⟨"", ""⟩, Credentials.marshalJSON, Credentials.unmarshalJSON⟩

theorem credentials_lossless : Lossless credentialsCodec := ⟨fun _ => rfl, fun _ => ⟨trivial, trivial, trivial⟩⟩

theorem credentials_present (credentials : Credentials) : credentialsCodec.encode credentials ≠ .null := by
  rintro ⟨⟩

section

variable {σ : Type}

def timeoutField (get : σ → Option Duration) (set : σ → Option Duration → σ) : StructField σ :=
  optionalField "timeout" durationCodec get set

def credentialsField (get : σ → Option Credentials) (set : σ → Option Credentials → σ) : StructField σ :=
  optionalField "credentials" credentialsCodec get set

def proxyProtocolField (get : σ → Bool) (set : σ → Bool → σ) : StructField σ := plainField "proxy_protocol" boolCodec get set

def pathField (get : σ → String) (set : σ → String → σ) : StructField σ := plainField "path" stringCodec get set

theorem timeout_law (get : σ → Option Duration) (set : σ → Option Duration → σ)
    (restores : ∀ record, set record (get record) = record) : FieldLaw (timeoutField get set) :=
  optional_law _ _ get set duration_lossless duration_present restores

theorem credentials_law (get : σ → Option Credentials) (set : σ → Option Credentials → σ)
    (restores : ∀ record, set record (get record) = record) : FieldLaw (credentialsField get set) :=
  optional_law _ _ get set credentials_lossless credentials_present restores

theorem proxy_protocol_law (get : σ → Bool) (set : σ → Bool → σ) (restores : ∀ record, set record (get record) = record) :
    FieldLaw (proxyProtocolField get set) :=
  plain_law _ _ get set bool_lossless restores

theorem path_law (get : σ → String) (set : σ → String → σ) (restores : ∀ record, set record (get record) = record) :
    FieldLaw (pathField get set) :=
  plain_law _ _ get set string_lossless restores

-- The structs of several variants have the same fields under the same tags.
def timeoutCodec (make : Option Duration → σ) (get : σ → Option Duration) : Codec σ :=
  structCodec (make none) [timeoutField get fun _ timeout => make timeout]

def loginCodec (make : Option Duration → Option Credentials → σ) (timeout : σ → Option Duration)
    (credentials : σ → Option Credentials) : Codec σ :=
  structCodec (make none none)
    [timeoutField timeout fun protocol value => make value (credentials protocol),
      credentialsField credentials fun protocol value => make (timeout protocol) value]

def proxyProtocolCodec (make : Bool → σ) (get : σ → Bool) : Codec σ :=
  structCodec (make false) [proxyProtocolField get fun _ flag => make flag]

theorem timeout_lossless (make : Option Duration → σ) (get : σ → Option Duration) (back : ∀ timeout, get (make timeout) = timeout)
    (whole : ∀ record, make (get record) = record) : Lossless (timeoutCodec make get) :=
  one_field_lossless _ _ (timeout_law _ _ whole) (back none) whole

theorem login_lossless (make : Option Duration → Option Credentials → σ) (timeout : σ → Option Duration)
    (credentials : σ → Option Credentials) (timeoutBack : ∀ first second, timeout (make first second) = first)
    (credentialsBack : ∀ first second, credentials (make first second) = second)
    (whole : ∀ record, make (timeout record) (credentials record) = record) : Lossless (loginCodec make timeout credentials) := by
  apply two_fields_lossless
  case firstLaw => exact timeout_law _ _ whole
  case secondLaw => exact credentials_law _ _ whole
  case names => simp [timeoutField, credentialsField, optionalField]
  case independent => exact fun _ _ => credentialsBack _ _
  case firstFresh => exact timeoutBack none none
  case secondFresh => exact credentialsBack none none
  case complete =>
    intro record
    have kept : timeout (make (timeout record) (credentials (make none none))) = timeout record := timeoutBack _ _
    exact (congrArg (make · (credentials record)) kept).trans (whole record)

theorem proxy_protocol_lossless (make : Bool → σ) (get : σ → Bool) (back : ∀ flag, get (make flag) = flag)
    (whole : ∀ record, make (get record) = record) : Lossless (proxyProtocolCodec make get) :=
  one_field_lossless _ _ (proxy_protocol_law _ _ whole) (back false) whole

end

def tcpCodec : Codec TcpProtocol := proxyProtocolCodec .mk (·.proxyProtocol)

def udpCodec : Codec UdpProtocol := timeoutCodec .mk (·.timeout)

def stdioCodec : Codec StdioProtocol := proxyProtocolCodec .mk (·.proxyProtocol)

def socks5Codec : Codec Socks5Protocol := loginCodec .mk (·.timeout) (·.credentials)

def tproxyUdpCodec : Codec TProxyUdpProtocol := timeoutCodec .mk (·.timeout)

def httpProxyCodec : Codec HttpProxyProtocol := structCodec ⟨none, none, false⟩
  [timeoutField (·.timeout) fun protocol timeout => { protocol with timeout := timeout },
    credentialsField (·.credentials) fun protocol credentials => { protocol with credentials := credentials },
    proxyProtocolField (·.proxyProtocol) fun protocol flag => { protocol with proxyProtocol := flag }]

def reverseUdpCodec : Codec ReverseUdpProtocol := timeoutCodec .mk (·.timeout)

def reverseSocks5Codec : Codec ReverseSocks5Protocol := loginCodec .mk (·.timeout) (·.credentials)

def reverseHttpProxyCodec : Codec ReverseHttpProxyProtocol := loginCodec .mk (·.timeout) (·.credentials)

def reverseUnixCodec : Codec ReverseUnixProtocol := structCodec ⟨""⟩
  [pathField (·.path) fun protocol path => { protocol with path := path }]

def unixCodec : Codec UnixProtocol := structCodec ⟨"", false⟩
  [pathField (·.path) fun protocol path => { protocol with path := path },
    proxyProtocolField (·.proxyProtocol) fun protocol flag => { protocol with proxyProtocol := flag }]

def emptyCodec : Codec Unit := structCodec () []

theorem tcp_lossless : Lossless tcpCodec := proxy_protocol_lossless _ _ (fun _ => rfl) fun _ => rfl

theorem udp_lossless : Lossless udpCodec := timeout_lossless _ _ (fun _ => rfl) fun _ => rfl

theorem stdio_lossless : Lossless stdioCodec := proxy_protocol_lossless _ _ (fun _ => rfl) fun _ => rfl

theorem socks5_lossless : Lossless socks5Codec := login_lossless _ _ _ (fun _ _ => rfl) (fun _ _ => rfl) fun _ => rfl

theorem tproxy_udp_lossless : Lossless tproxyUdpCodec := timeout_lossless _ _ (fun _ => rfl) fun _ => rfl

theorem http_proxy_lossless : Lossless httpProxyCodec := by
  apply struct_lossless
  constructor
  case laws =>
    simp only [List.forall_mem_cons, List.not_mem_nil, false_imp_iff, implies_true, and_true]
    exact ⟨timeout_law _ _ fun _ => rfl, credentials_law _ _ fun _ => rfl, proxy_protocol_law _ _ fun _ => rfl⟩
  case names => simp [timeoutField, credentialsField, proxyProtocolField, optionalField, plainField]
  case independent => simp [timeoutField, credentialsField, proxyProtocolField, optionalField, plainField]
  case fresh => simp [timeoutField, credentialsField, proxyProtocolField, optionalField, plainField, pointerCodec, boolCodec]
  case complete => exact fun _ => rfl

theorem reverse_udp_lossless : Lossless reverseUdpCodec := timeout_lossless _ _ (fun _ => rfl) fun _ => rfl

theorem reverse_socks5_lossless : Lossless reverseSocks5Codec :=
  login_lossless _ _ _ (fun _ _ => rfl) (fun _ _ => rfl) fun _ => rfl

theorem reverse_http_proxy_lossless : Lossless reverseHttpProxyCodec :=
  login_lossless _ _ _ (fun _ _ => rfl) (fun _ _ => rfl) fun _ => rfl

theorem reverse_unix_lossless : Lossless reverseUnixCodec := one_field_lossless _ _ (path_law _ _ fun _ => rfl) rfl fun _ => rfl

theorem unix_lossless : Lossless unixCodec :=
  two_fields_lossless _ _ _ (path_law _ _ fun _ => rfl) (proxy_protocol_law _ _ fun _ => rfl) (by decide) (fun _ _ => rfl) rfl rfl
    fun _ => rfl

theorem empty_lossless : Lossless emptyCodec := ⟨fun _ => rfl, fun _ => trivial⟩

def localProtocolFields : List (StructField LocalProtocol) :=
  [optionalField "Tcp" tcpCodec (·.tcp) fun protocol variant => { protocol with tcp := variant },
    optionalField "Udp" udpCodec (·.udp) fun protocol variant => { protocol with udp := variant },
    optionalField "Stdio" stdioCodec (·.stdio) fun protocol variant => { protocol with stdio := variant },
    optionalField "Socks5" socks5Codec (·.socks5) fun protocol variant => { protocol with socks5 := variant },
    optionalField "TProxyTcp" emptyCodec (·.tproxyTcp) fun protocol variant => { protocol with tproxyTcp := variant },
    optionalField "TProxyUdp" tproxyUdpCodec (·.tproxyUdp) fun protocol variant => { protocol with tproxyUdp := variant },
    optionalField "HttpProxy" httpProxyCodec (·.httpProxy) fun protocol variant => { protocol with httpProxy := variant },
    optionalField "ReverseTcp" emptyCodec (·.reverseTcp) fun protocol variant => { protocol with reverseTcp := variant },
    optionalField "ReverseUdp" reverseUdpCodec (·.reverseUdp) fun protocol variant => { protocol with reverseUdp := variant },
    optionalField "ReverseSocks5" reverseSocks5Codec (·.reverseSocks5)
      fun protocol variant => { protocol with reverseSocks5 := variant },
    optionalField "ReverseHttpProxy" reverseHttpProxyCodec (·.reverseHttpProxy)
      fun protocol variant => { protocol with reverseHttpProxy := variant },
    optionalField "ReverseUnix" reverseUnixCodec (·.reverseUnix) fun protocol variant => { protocol with reverseUnix := variant },
    optionalField "Unix" unixCodec (·.unix) fun protocol variant => { protocol with unix := variant }]

def localProtocolCodec : Codec LocalProtocol := structCodec {} localProtocolFields

theorem local_protocol_lossless : Lossless localProtocolCodec := by
  apply struct_lossless
  constructor
  case laws =>
    simp only [localProtocolFields, List.forall_mem_cons, List.not_mem_nil, false_imp_iff, implies_true, and_true]
    refine ⟨?_, ?_, ?_, ?_, ?_, ?_, ?_, ?_, ?_, ?_, ?_, ?_, ?_⟩
    · exact optional_law _ _ _ _ tcp_lossless (struct_present _ _) fun _ => rfl
    · exact optional_law _ _ _ _ udp_lossless (struct_present _ _) fun _ => rfl
    · exact optional_law _ _ _ _ stdio_lossless (struct_present _ _) fun _ => rfl
    · exact optional_law _ _ _ _ socks5_lossless (struct_present _ _) fun _ => rfl
    · exact optional_law _ _ _ _ empty_lossless (struct_present _ _) fun _ => rfl
    · exact optional_law _ _ _ _ tproxy_udp_lossless (struct_present _ _) fun _ => rfl
    · exact optional_law _ _ _ _ http_proxy_lossless (struct_present _ _) fun _ => rfl
    · exact optional_law _ _ _ _ empty_lossless (struct_present _ _) fun _ => rfl
    · exact optional_law _ _ _ _ reverse_udp_lossless (struct_present _ _) fun _ => rfl
    · exact optional_law _ _ _ _ reverse_socks5_lossless (struct_present _ _) fun _ => rfl
    · exact optional_law _ _ _ _ reverse_http_proxy_lossless (struct_present _ _) fun _ => rfl
    · exact optional_law _ _ _ _ reverse_unix_lossless (struct_present _ _) fun _ => rfl
    · exact optional_law _ _ _ _ unix_lossless (struct_present _ _) fun _ => rfl
  case names => simp [localProtocolFields, optionalField]
  case independent => simp [localProtocolFields, optionalField]
  case fresh => simp [localProtocolFields, optionalField, pointerCodec]
  case complete =>
    intro protocol
    simp only [copyFields, localProtocolFields, optionalField, List.foldl_cons, List.foldl_nil]

-- The embedded MapClaims has the tag that leaves it out.
def jwtTunnelConfigCodec : Codec JwtTunnelConfig := structCodec ⟨"", {}, "", 0⟩
  [{ name := "id", codec := stringCodec, get := (·.id), set := fun claims id => { claims with id := id }, omits := fun id => id = "" },
    plainField "p" localProtocolCodec (·.protocol) fun claims protocol => { claims with protocol := protocol },
    plainField "r" stringCodec (·.remote) fun claims remote => { claims with remote := remote },
    plainField "rp" uint16Codec (·.port) fun claims port => { claims with port := port }]

theorem jwt_tunnel_config_lossless : Lossless jwtTunnelConfigCodec := by
  apply struct_lossless
  constructor
  case laws =>
    simp only [List.forall_mem_cons, List.not_mem_nil, false_imp_iff, implies_true, and_true]
    refine ⟨⟨string_lossless, fun _ => rfl, ?_⟩, ?_, ?_, ?_⟩
    · intro id empty
      exact of_decide_eq_true empty
    · exact plain_law _ _ _ _ local_protocol_lossless fun _ => rfl
    · exact plain_law _ _ _ _ string_lossless fun _ => rfl
    · exact plain_law _ _ _ _ uint16_lossless fun _ => rfl
  case names => simp [plainField]
  case independent => simp [plainField]
  case fresh => simp [plainField, stringCodec, localProtocolCodec, structCodec, uint16Codec, uintCodec]
  case complete => exact fun _ => rfl

theorem claims_survive_wire (claims : JwtTunnelConfig) :
    unmarshal jwtTunnelConfigCodec (marshal jwtTunnelConfigCodec claims) = some claims :=
  unmarshal_marshal jwtTunnelConfigCodec jwt_tunnel_config_lossless claims

example : marshal jwtTunnelConfigCodec ⟨"", { reverseTcp := some () }, "<h>", 22⟩ =
    "\x7b\"p\":\x7b\"ReverseTcp\":\x7b\x7d\x7d,\"r\":\"\\u003ch\\u003e\",\"rp\":22\x7d" := by
  decide

end WarpStream
