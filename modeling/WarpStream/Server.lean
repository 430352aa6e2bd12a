import WarpStream.Dispatch

set_option autoImplicit false

namespace WarpStream

open GoText

structure Config where
  pathPrefix : String := ""
  jwtSecret : String := ""
  insecureNoJWTValidation : Bool := false
  restrictTo : List String := []
  restrictHttpUpgradePathPrefix : List String := []
  restrictConfig : String := ""
  remoteToLocalServerIdleTimeout : Int := 0
  websocketProtocol : String := ""
deriving DecidableEq, Repr

inductive LoadError where
  | unreadable
  | malformed
deriving DecidableEq, Repr

structure RulesSource (Regexp : Type) where
  readFile : String → Option (List UInt8)
  unmarshal : List UInt8 → Option (RestrictionsRules Regexp)

def loadRestrictions {Regexp : Type} (source : RulesSource Regexp) (path : String) :
    Except LoadError (RestrictionsRules Regexp) :=
  match source.readFile path with
  | none => .error .unreadable
  | some data =>
      match source.unmarshal data with
      | none => .error .malformed
      | some rules => .ok rules

structure Server (Regexp : Type) where
  config : Config
  rvMgr : Manager
  rules : Option (RestrictionsRules Regexp)

section

variable {Regexp : Type} (engine : RegexpEngine Regexp) (source : RulesSource Regexp)

def prefixMatchers (prefixes : List String) : List (MatchConfig Regexp) :=
  prefixes.filterMap fun pfx =>
    (engine.compile ("^/" ++ trimPrefix pfx "/")).map fun regexp => { pathPrefix := some regexp }

-- The error of ParseUint is dropped, its value is kept: 0 for text that is no
-- number, 65535 for a number out of range.
def restrictToEntry (entry : String) : Option (AllowConfig Regexp) :=
  match splitHostPort entry with
  | .error _ => none
  | .ok (host, portStr) =>
      let port := UInt16.ofNat (parseUint portStr 16).1
      some { tunnel := some { host := some (anchoredLiteral engine host), port := [⟨port, port⟩] } }

def defaultRestrictions (config : Config) : RestrictionConfig Regexp where
  name := "Default Restrictions"
  matchers :=
    if config.restrictHttpUpgradePathPrefix ≠ [] then prefixMatchers engine config.restrictHttpUpgradePathPrefix
    else [{ any := true }]
  allow :=
    if config.restrictTo ≠ [] then config.restrictTo.filterMap (restrictToEntry engine)
    else [{ tunnel := some {}, reverseTunnel := some {} }]

def loadedRules (config : Config) : Option (RestrictionsRules Regexp) :=
  if config.restrictConfig ≠ "" then (loadRestrictions source config.restrictConfig).toOption else none

def newRules (config : Config) : Option (RestrictionsRules Regexp) :=
  match loadedRules source config with
  | some rules => some rules
  | none =>
      if config.restrictTo ≠ [] ∨ config.restrictHttpUpgradePathPrefix ≠ [] then some ⟨[defaultRestrictions engine config]⟩
      else none

def newServer (config : Config) : Server Regexp where
  config := config
  rvMgr := newManager config.remoteToLocalServerIdleTimeout
  rules := newRules engine source config

end

structure JwtLibrary where
  parseUnverified : String → Except String (Option String × JwtTunnelConfig)
  parseWithClaims : (Option String → Except String String) → String → Except String (Bool × JwtTunnelConfig)

def jwtSigningMethodName (method : Option String) : String := method.getD "<nil>"

def unexpectedMethod (method : Option String) : String := "unexpected signing method: " ++ jwtSigningMethodName method

def parseUnverified (library : JwtLibrary) (token : String) : Except String JwtTunnelConfig :=
  match library.parseUnverified token with
  | .error err => .error err
  | .ok (method, claims) => if method = some "HS256" then .ok claims else .error (unexpectedMethod method)

def parseJWTClaims (library : JwtLibrary) (config : Config) (token : String) : Except String JwtTunnelConfig :=
  if config.websocketProtocol ≠ "ws" then parseUnverified library token
  else if config.jwtSecret ≠ "" then
    let secret := fun method => if method = some "HS256" then .ok config.jwtSecret else .error (unexpectedMethod method)
    match library.parseWithClaims secret token with
    | .ok (true, claims) => .ok claims
    | .ok (false, _) =>
        if config.insecureNoJWTValidation then parseUnverified library token else .error "invalid JWT token"
    | .error err => if config.insecureNoJWTValidation then parseUnverified library token else .error err
  else parseUnverified library token

-- Header values are those that Get returns, empty when absent; tls holds the
-- common names of the peer certificates of a TLS connection.
structure Request where
  path : String
  secWebSocketProtocol : String := ""
  cookie : String := ""
  authorization : String := ""
  upgrade : String := ""
  protoMajor : Nat := 1
  tls : Option (List String) := none
deriving DecidableEq, Repr

inductive Response where
  | failed (status : Nat) (message : String)
  | upgradeFailed
  | tunnel (transport : Transport) (claims : JwtTunnelConfig)
deriving DecidableEq, Repr

def jwtHeaderPrefix : String := "authorization.bearer."

def underPathPrefix (config : Config) (request : Request) : Bool :=
  decide (config.pathPrefix = "") || hasPrefix request.path ("/" ++ config.pathPrefix)

def requestToken (request : Request) : String :=
  let parts := (request.secWebSocketProtocol.toList.splitOn ',').map fun part => String.ofList (trimSpace part)
  let token := match parts.find? (hasPrefix · jwtHeaderPrefix) with
    | some part => trimPrefix part jwtHeaderPrefix
    | none => ""
  if token = "" then request.cookie else token

def commonName (request : Request) : String := (request.tls.getD []).head?.getD ""

def requestTransport (config : Config) (request : Request) : Transport :=
  if 2 ≤ request.protoMajor ∧ request.upgrade.toList.map toLowerRune ≠ "websocket".toList then .http2
  else if config.websocketProtocol = "ws" then .gorilla
  else .wst

-- upgrades is the outcome of the WebSocket upgrade, which HTTP/2 does not make.
def serveHTTP {Regexp : Type} (engine : RegexpEngine Regexp) (library : JwtLibrary) (server : Server Regexp)
    (request : Request) (upgrades : Bool) : Response :=
  if underPathPrefix server.config request = false then .failed 404 "Not found"
  else if requestToken request = "" then .failed 401 "Missing authorization token"
  else
    match parseJWTClaims library server.config (requestToken request) with
    | .error _ => .failed 401 "Invalid token"
    | .ok claims =>
        if server.rules.isSome && !validate engine server.rules claims request.path request.authorization (commonName request)
        then .failed 403 "Forbidden by restrictions"
        else
          match requestTransport server.config request with
          | .http2 => .tunnel .http2 claims
          | transport => if upgrades then .tunnel transport claims else .upgradeFailed

end WarpStream
