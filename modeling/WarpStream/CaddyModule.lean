import WarpStream.TunnelRequest

set_option autoImplicit false

namespace WarpStream

open GoText HttpHead

-- The module before Provision: its configuration and the restrictions written beside it.
structure CaddyModule (Regexp : Type) where
  config : Config
  restrictions : List (RestrictionConfig Regexp)

structure CaddyRequest extends Request where
  method : String
  contentType : String

inductive CaddyEnd where
  | next
  | served (response : Response)
deriving DecidableEq

section

variable {Regexp : Type} (engine : RegexpEngine Regexp) (source : RulesSource Regexp)

def defaultMode (config : Config) : Config :=
  if config.websocketProtocol = "" then { config with websocketProtocol := "rust" } else config

def provision (caddy : CaddyModule Regexp) : Server Regexp :=
  let server := newServer engine source (defaultMode caddy.config)
  if caddy.restrictions ≠ [] then
    { server with rules := some ⟨(server.rules.map (·.restrictions)).getD [] ++ caddy.restrictions⟩ }
  else server

def CaddyRequest.isWebsocket (request : CaddyRequest) : Bool :=
  decide (request.upgrade.toList.map toLowerRune = "websocket".toList)

def CaddyRequest.isH2Tunnel (request : CaddyRequest) : Bool :=
  decide (2 ≤ request.protoMajor ∧ request.method = "POST" ∧ request.contentType = "application/json")

def caddyServeHTTP (library : JwtLibrary) (server : Server Regexp) (request : CaddyRequest) (upgrades : Bool) : CaddyEnd :=
  if (!request.isWebsocket && !request.isH2Tunnel) = true then .next
  else if server.config.pathPrefix ≠ "" ∧ hasPrefix request.path ("/" ++ server.config.pathPrefix) = false then .next
  else .served (serveHTTP engine library server request.toRequest upgrades)

-- What the configuration restricts by itself; a file that cannot be loaded counts for nothing.
def configured (config : Config) : List (RestrictionConfig Regexp) := ((newRules engine source config).map (·.restrictions)).getD []

def Permitted (caddy : CaddyModule Regexp) (claims : JwtTunnelConfig) (request : Request) : Prop :=
  let all := configured engine source caddy.config ++ caddy.restrictions
  all = [] ∨ ∃ restriction ∈ all,
    restriction.matches engine request.path request.authorization (commonName request) = true ∧ restriction.allows engine claims = true

theorem validate_listed (rules : List (RestrictionConfig Regexp)) (claims : JwtTunnelConfig) (path auth name : String) :
    validate engine (some ⟨rules⟩) claims path auth name = true ↔
      rules = [] ∨ ∃ restriction ∈ rules, restriction.matches engine path auth name = true ∧ restriction.allows engine claims = true := by
  simp [validate]

theorem default_mode_rules (config : Config) : newRules engine source (defaultMode config) = newRules engine source config := by
  unfold defaultMode
  split <;> rfl

theorem provision_rules (caddy : CaddyModule Regexp) (claims : JwtTunnelConfig) (request : Request) :
    validate engine (provision engine source caddy).rules claims request.path request.authorization (commonName request) = true ↔
      Permitted engine source caddy claims request := by
  have rules : (newServer engine source (defaultMode caddy.config)).rules = newRules engine source caddy.config :=
    default_mode_rules engine source caddy.config
  unfold provision Permitted configured
  by_cases bare : caddy.restrictions = []
  · simp only [bare, ne_eq, not_true, if_false, List.append_nil, rules]
    cases newRules engine source caddy.config with
    | none => simp [validate]
    | some found => exact validate_listed engine found.restrictions claims _ _ _
  · simp only [bare, ne_eq, not_false_eq_true, if_true, rules]
    exact validate_listed engine _ claims _ _ _

theorem provision_config (caddy : CaddyModule Regexp) : (provision engine source caddy).config = defaultMode caddy.config := by
  unfold provision
  dsimp only
  split <;> rfl

-- The default mode is the one that an empty name means anyway.
theorem default_mode_prefix (config : Config) : (defaultMode config).pathPrefix = config.pathPrefix := by
  unfold defaultMode
  split <;> rfl

theorem default_mode_ws (config : Config) : (defaultMode config).websocketProtocol = "ws" ↔ config.websocketProtocol = "ws" := by
  unfold defaultMode
  split
  · rename_i bare
    simp [bare]
  · rfl

theorem default_mode_secrets (config : Config) :
    (defaultMode config).jwtSecret = config.jwtSecret ∧ (defaultMode config).insecureNoJWTValidation = config.insecureNoJWTValidation := by
  unfold defaultMode
  split <;> exact ⟨rfl, rfl⟩

theorem default_mode_parses (library : JwtLibrary) (config : Config) (token : String) :
    parseJWTClaims library (defaultMode config) token = parseJWTClaims library config token := by
  obtain ⟨secret, insecure⟩ := default_mode_secrets config
  simp only [parseJWTClaims, ne_eq, default_mode_ws, secret, insecure]

theorem default_mode_transport (config : Config) (request : Request) :
    requestTransport (defaultMode config) request = requestTransport config request := by
  simp only [requestTransport, default_mode_ws]

theorem default_mode_under (config : Config) (request : Request) :
    underPathPrefix (defaultMode config) request = underPathPrefix config request := by
  rw [underPathPrefix, underPathPrefix, default_mode_prefix]

theorem caddy_served_iff (library : JwtLibrary) (server : Server Regexp) (request : CaddyRequest) (upgrades : Bool) (response : Response) :
    caddyServeHTTP engine library server request upgrades = .served response ↔
      (request.isWebsocket = true ∨ request.isH2Tunnel = true) ∧ underPathPrefix server.config request.toRequest = true ∧
        serveHTTP engine library server request.toRequest upgrades = response := by
  have foreign : (!request.isWebsocket && !request.isH2Tunnel) = true ↔ ¬ (request.isWebsocket = true ∨ request.isH2Tunnel = true) := by
    simp
  have outside : (server.config.pathPrefix ≠ "" ∧ hasPrefix request.path ("/" ++ server.config.pathPrefix) = false) ↔
      ¬ underPathPrefix server.config request.toRequest = true := by
    rw [Bool.not_eq_true, underPathPrefix, Bool.or_eq_false_iff, decide_eq_false_iff_not]
  simp only [caddyServeHTTP, foreign, outside]
  by_cases looks : request.isWebsocket = true ∨ request.isH2Tunnel = true
  · by_cases under : underPathPrefix server.config request.toRequest = true
    · simp [looks, under]
    · simp [looks, under]
  · simp [looks]

-- The module opens the tunnels that a server without any restrictions would open for the
-- same request, if the request looks like one for a tunnel and some restriction permits it.
theorem caddy_tunnel_iff (library : JwtLibrary) (caddy : CaddyModule Regexp) (request : CaddyRequest) (upgrades : Bool)
    (transport : Transport) (found : JwtTunnelConfig) :
    caddyServeHTTP engine library (provision engine source caddy) request upgrades = .served (.tunnel transport found) ↔
      (request.isWebsocket = true ∨ request.isH2Tunnel = true) ∧ Permitted engine source caddy found request.toRequest ∧
        serveHTTP engine library ⟨caddy.config, newManager 0, none⟩ request.toRequest upgrades = .tunnel transport found := by
  rw [caddy_served_iff, serve_tunnel_iff, serve_tunnel_iff, provision_rules, provision_config, default_mode_under,
    default_mode_parses, default_mode_transport]
  have unrestricted : validate engine none found request.path request.authorization (commonName request.toRequest) = true := rfl
  constructor
  · rintro ⟨looks, _, under, token, parsed, permitted, chosen⟩
    exact ⟨looks, permitted, under, token, parsed, unrestricted, chosen⟩
  · rintro ⟨looks, permitted, under, token, parsed, _, chosen⟩
    exact ⟨looks, under, under, token, parsed, permitted, chosen⟩

end

-- What connectToHttp2 sends, as the module sees it.
def caddyHttp2Request (path : String) (header : HttpHeader) (tls : Option (List String)) : CaddyRequest :=
  { http2Request path header tls with method := "POST", contentType := header.fields.get (canonicalName "Content-Type") }

section

variable (signedString : String → JwtTunnelConfig → String) (config : ClientConfig) (claims : JwtTunnelConfig)
  (customs file : List (String × String)) (tls : Option (List String)) (lines : Option (List String))
  (ranged : Ranged config lines customs file)
  (free : ∀ field ∈ config.headers ++ loadHttpHeaders lines, canonicalName field.1 ∉ reservedHttp2Names) (header : HttpHeader)
  (order : header.Perm
    (http2Header (signClaims signedString config.jwtSecret claims) config.httpUpgradeCredentials customs file))

include order in
theorem http2_content_type : header.fields.get (canonicalName "Content-Type") =
    (addedField "Content-Type" config.httpUpgradeCredentials customs file).getD "application/json" := by
  simp only [canonical_names]
  rw [Fields.get, perm_values _ header _ _ order (http2_header_values _ _ customs file _), Option.head?_toList, if_pos rfl]
  cases addedField "Content-Type" config.httpUpgradeCredentials customs file <;> rfl

end

def plainCaddy : CaddyModule String :=
  ⟨{ pathPrefix := "v1", jwtSecret := "key", websocketProtocol := "ws" },
    [⟨"tcp", [{ any := true }], [{ reverseTunnel := some { protocol := ["ReverseTcp"] } }]⟩]⟩

def noRules : RulesSource String := ⟨fun _ => none, fun _ => none⟩

end WarpStream
