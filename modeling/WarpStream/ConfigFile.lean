import WarpStream.Server

set_option autoImplicit false

namespace WarpStream

open GoText

-- The flags of the client and the server command that the overrides read, with
-- the type of their value. Durations are in nanoseconds.
inductive Flag : Type → Type where
  | mode : Flag String
  | jwtSecret : Flag String
  | httpUpgradePathPrefix : Flag String
  | httpUpgradeCredentials : Flag String
  | httpHeadersFile : Flag String
  | httpProxy : Flag String
  | httpProxyLogin : Flag String
  | httpProxyPassword : Flag String
  | tlsCertificate : Flag String
  | tlsPrivateKey : Flag String
  | tlsSniOverride : Flag String
  | tlsClientCaCerts : Flag String
  | restrictConfig : Flag String
  | websocketMaskFrame : Flag Bool
  | tlsVerifyCertificate : Flag Bool
  | tlsSniDisable : Flag Bool
  | tlsEchEnable : Flag Bool
  | tls : Flag Bool
  | dnsResolverPreferIpv4 : Flag Bool
  | insecureNoJwtValidation : Flag Bool
  | socketSoMark : Flag UInt64
  | connectionMinIdle : Flag UInt64
  | websocketPingFrequency : Flag Int
  | connectionRetryMaxBackoff : Flag Int
  | reverseTunnelConnectionRetryMaxBackoff : Flag Int
  | remoteToLocalServerIdleTimeout : Flag Int
  | header : Flag (List String)
  | dnsResolver : Flag (List String)
  | localToRemote : Flag (List String)
  | remoteToLocal : Flag (List String)
  | restrictTo : Flag (List String)
  | restrictHttpUpgradePathPrefix : Flag (List String)

def Flag.default : {α : Type} → Flag α → α
  | _, .mode => "rust"
  | _, .httpUpgradePathPrefix => "v1"
  | _, .jwtSecret | _, .httpUpgradeCredentials | _, .httpHeadersFile | _, .httpProxy | _, .httpProxyLogin | _, .httpProxyPassword
  | _, .tlsCertificate | _, .tlsPrivateKey | _, .tlsSniOverride | _, .tlsClientCaCerts | _, .restrictConfig => ""
  | _, .websocketMaskFrame | _, .tlsVerifyCertificate | _, .tlsSniDisable | _, .tlsEchEnable | _, .tls
  | _, .dnsResolverPreferIpv4 | _, .insecureNoJwtValidation => false
  | _, .socketSoMark | _, .connectionMinIdle => 0
  | _, .websocketPingFrequency => 30 * 1000000000
  | _, .connectionRetryMaxBackoff => 5 * 60 * 1000000000
  | _, .reverseTunnelConnectionRetryMaxBackoff => 1000000000
  | _, .remoteToLocalServerIdleTimeout => 3 * 60 * 1000000000
  | _, .header | _, .dnsResolver | _, .localToRemote | _, .remoteToLocal | _, .restrictTo
  | _, .restrictHttpUpgradePathPrefix => []

def Flag.envVar : {α : Type} → Flag α → Option String
  | _, .mode => some "WARPSTREAM_MODE"
  | _, .httpUpgradePathPrefix => some "WARPSTREAM_HTTP_UPGRADE_PATH_PREFIX"
  | _, .httpProxy => some "HTTP_PROXY"
  | _, .httpProxyLogin => some "WARPSTREAM_HTTP_PROXY_LOGIN"
  | _, .httpProxyPassword => some "WARPSTREAM_HTTP_PROXY_PASSWORD"
  | _, .dnsResolverPreferIpv4 => some "WARPSTREAM_DNS_PREFER_IPV4"
  | _, .restrictHttpUpgradePathPrefix => some "WARPSTREAM_RESTRICT_HTTP_UPGRADE_PATH_PREFIX"
  | _, _ => none

structure FlagValues where
  get : {α : Type} → Flag α → Option α

def noFlags : FlagValues := ⟨fun _ => none⟩

-- What cli.Context has read: the arguments, the flags given on the command line
-- and the values of the environment variables that are set.
structure CliContext where
  args : List String
  commandLine : FlagValues
  environment : FlagValues

section

variable {α : Type} (c : CliContext) (flag : Flag α)

def CliContext.given : Option α := (c.commandLine.get flag).or (if flag.envVar.isSome then c.environment.get flag else none)

-- A flag that its environment variable sets counts as set.
def flagExplicitlySet : Bool := (c.given flag).isSome

def CliContext.value : α := (c.given flag).getD flag.default

-- The two rules of the overrides: a field whose zero value stands for an absent
-- one, and a field that has no such value.
def fillFlag [DecidableEq α] (zero current : α) : α :=
  if flagExplicitlySet c flag = true ∨ current = zero then c.value flag else current

def setFlag (current : α) : α := if flagExplicitlySet c flag = true then c.value flag else current

end

def setUintFlag (c : CliContext) (flag : Flag UInt64) (current : UInt32) : UInt32 :=
  if flagExplicitlySet c flag = true then (c.value flag).toUInt32 else current

-- A nil and an empty map, or slice, are one value here: the code asks for their
-- length and ranges over them.
@[ext] structure ClientConfig where
  serverURL : String := ""
  pathPrefix : String := ""
  jwtSecret : String := ""
  headers : List (String × String) := []
  maskFrame : Bool := false
  pingFrequency : Int := 0
  tlsVerifyCert : Bool := false
  tlsClientCert : String := ""
  tlsClientKey : String := ""
  tlsSniOverride : String := ""
  tlsSniDisable : Bool := false
  tlsEchEnable : Bool := false
  socketSoMark : UInt32 := 0
  connectionMinIdle : UInt32 := 0
  connectionRetryMaxBackoff : Int := 0
  reverseTunnelConnectionRetryMaxBackoff : Int := 0
  httpProxy : String := ""
  httpProxyLogin : String := ""
  httpProxyPassword : String := ""
  httpUpgradeCredentials : String := ""
  httpHeadersFile : String := ""
  dnsResolver : List String := []
  dnsResolverPreferIpv4 : Bool := false
  localToRemote : List String := []
  remoteToLocal : List String := []
  websocketProtocol : String := ""
deriving DecidableEq, Repr

@[ext] structure ServerConfig extends Config where
  listenAddr : String := ""
  socketSoMark : UInt32 := 0
  websocketPingFrequency : Int := 0
  websocketMaskFrame : Bool := false
  dnsResolver : List String := []
  dnsResolverPreferIpv4 : Bool := false
  tls : Bool := false
  tlsCertificate : String := ""
  tlsPrivateKey : String := ""
  tlsClientCaCerts : String := ""
  httpProxy : String := ""
  httpProxyLogin : String := ""
  httpProxyPassword : String := ""
deriving DecidableEq, Repr

def applyClientFlagOverrides (c : CliContext) (config : ClientConfig) (serverURL : String) (headers : List (String × String)) :
    ClientConfig where
  serverURL := if serverURL ≠ "" then serverURL else config.serverURL
  pathPrefix := fillFlag c .httpUpgradePathPrefix "" config.pathPrefix
  jwtSecret := fillFlag c .jwtSecret "" config.jwtSecret
  headers := if flagExplicitlySet c .header = true ∨ config.headers = [] then headers else config.headers
  maskFrame := setFlag c .websocketMaskFrame config.maskFrame
  pingFrequency := fillFlag c .websocketPingFrequency 0 config.pingFrequency
  tlsVerifyCert := setFlag c .tlsVerifyCertificate config.tlsVerifyCert
  tlsClientCert := fillFlag c .tlsCertificate "" config.tlsClientCert
  tlsClientKey := fillFlag c .tlsPrivateKey "" config.tlsClientKey
  tlsSniOverride := fillFlag c .tlsSniOverride "" config.tlsSniOverride
  tlsSniDisable := setFlag c .tlsSniDisable config.tlsSniDisable
  tlsEchEnable := setFlag c .tlsEchEnable config.tlsEchEnable
  socketSoMark := setUintFlag c .socketSoMark config.socketSoMark
  connectionMinIdle := setUintFlag c .connectionMinIdle config.connectionMinIdle
  connectionRetryMaxBackoff := fillFlag c .connectionRetryMaxBackoff 0 config.connectionRetryMaxBackoff
  reverseTunnelConnectionRetryMaxBackoff :=
    fillFlag c .reverseTunnelConnectionRetryMaxBackoff 0 config.reverseTunnelConnectionRetryMaxBackoff
  httpProxy := fillFlag c .httpProxy "" config.httpProxy
  httpProxyLogin := fillFlag c .httpProxyLogin "" config.httpProxyLogin
  httpProxyPassword := fillFlag c .httpProxyPassword "" config.httpProxyPassword
  httpUpgradeCredentials := fillFlag c .httpUpgradeCredentials "" config.httpUpgradeCredentials
  httpHeadersFile := fillFlag c .httpHeadersFile "" config.httpHeadersFile
  dnsResolver := fillFlag c .dnsResolver [] config.dnsResolver
  dnsResolverPreferIpv4 := setFlag c .dnsResolverPreferIpv4 config.dnsResolverPreferIpv4
  localToRemote := fillFlag c .localToRemote [] config.localToRemote
  remoteToLocal := fillFlag c .remoteToLocal [] config.remoteToLocal
  websocketProtocol := fillFlag c .mode "" config.websocketProtocol

def applyServerFlagOverrides (c : CliContext) (config : ServerConfig) (listenAddr : String) : ServerConfig where
  listenAddr := if listenAddr ≠ "" then listenAddr else config.listenAddr
  pathPrefix := fillFlag c .httpUpgradePathPrefix "" config.pathPrefix
  jwtSecret := fillFlag c .jwtSecret "" config.jwtSecret
  insecureNoJWTValidation := setFlag c .insecureNoJwtValidation config.insecureNoJWTValidation
  socketSoMark := setUintFlag c .socketSoMark config.socketSoMark
  websocketPingFrequency := fillFlag c .websocketPingFrequency 0 config.websocketPingFrequency
  websocketMaskFrame := setFlag c .websocketMaskFrame config.websocketMaskFrame
  dnsResolver := fillFlag c .dnsResolver [] config.dnsResolver
  dnsResolverPreferIpv4 := setFlag c .dnsResolverPreferIpv4 config.dnsResolverPreferIpv4
  restrictTo := fillFlag c .restrictTo [] config.restrictTo
  restrictHttpUpgradePathPrefix := fillFlag c .restrictHttpUpgradePathPrefix [] config.restrictHttpUpgradePathPrefix
  restrictConfig := fillFlag c .restrictConfig "" config.restrictConfig
  tls := setFlag c .tls config.tls
  tlsCertificate := fillFlag c .tlsCertificate "" config.tlsCertificate
  tlsPrivateKey := fillFlag c .tlsPrivateKey "" config.tlsPrivateKey
  tlsClientCaCerts := fillFlag c .tlsClientCaCerts "" config.tlsClientCaCerts
  httpProxy := fillFlag c .httpProxy "" config.httpProxy
  httpProxyLogin := fillFlag c .httpProxyLogin "" config.httpProxyLogin
  httpProxyPassword := fillFlag c .httpProxyPassword "" config.httpProxyPassword
  remoteToLocalServerIdleTimeout := fillFlag c .remoteToLocalServerIdleTimeout 0 config.remoteToLocalServerIdleTimeout
  websocketProtocol := fillFlag c .mode "" config.websocketProtocol

structure FullConfig where
  mode : String := ""
  client : Option ClientConfig := none
  server : Option ServerConfig := none
deriving DecidableEq, Repr

-- The configuration that is handed to NewClient or NewServer.
inductive Started where
  | client (config : ClientConfig)
  | server (config : ServerConfig)
deriving DecidableEq, Repr

def rootAction (cfg : FullConfig) : Except String Started :=
  match cfg.mode, cfg.client, cfg.server with
  | "client", some config, _ => .ok (.client config)
  | "server", _, some config => .ok (.server config)
  | _, _, _ => .error "invalid config file: mode and section mismatch"

def lastArg (c : CliContext) : String := c.args.getLast?.getD ""

def addHeader (headers : List (String × String)) (header : String) : List (String × String) :=
  match cut [':'] header.toList with
  | some (name, value) =>
      let key := String.ofList (trimSpace name)
      headers.filter (·.1 ≠ key) ++ [(key, String.ofList (trimSpace value))]
  | none => headers

-- loaded is what the file of --config has; without one, or where it cannot be
-- read, the overrides start from the zero configuration.
def clientConfig (c : CliContext) (loaded : Option FullConfig) : ClientConfig :=
  let config := (loaded.bind (·.client)).getD {}
  applyClientFlagOverrides c config (lastArg c) ((c.value .header).foldl addHeader [])

def runClient (c : CliContext) (loaded : Option FullConfig) : Except String Started :=
  let config := clientConfig c loaded
  if config.serverURL = "" then .error "server URL is required" else .ok (.client config)

def serverConfig (c : CliContext) (loaded : Option FullConfig) : ServerConfig :=
  let config := applyServerFlagOverrides c ((loaded.bind (·.server)).getD {}) (lastArg c)
  if config.listenAddr = "" then { config with listenAddr := "ws://0.0.0.0:8080" } else config

def runServer (c : CliContext) (loaded : Option FullConfig) : Except String Started := .ok (.server (serverConfig c loaded))

section

variable {α : Type} (c : CliContext) (flag : Flag α)

theorem set_flag_iff (current : α) : setFlag c flag current = current ↔ ∀ value, c.given flag = some value → value = current := by
  cases given : c.given flag with
  | none => simp [setFlag, flagExplicitlySet, given]
  | some value => simp [setFlag, flagExplicitlySet, CliContext.value, given]

theorem fill_flag_iff [DecidableEq α] (zero current : α) :
    fillFlag c flag zero current = current ↔
      (∀ value, c.given flag = some value → value = current) ∧ (c.given flag = none → current = zero → flag.default = zero) := by
  cases given : c.given flag with
  | none =>
      by_cases absent : current = zero
      · simp [fillFlag, flagExplicitlySet, CliContext.value, given, absent]
      · simp [fillFlag, flagExplicitlySet, given, absent]
  | some value => simp [fillFlag, flagExplicitlySet, CliContext.value, given]

end

def fileContext (args : List String) (environment : FlagValues) : CliContext := ⟨args, noFlags, environment⟩

-- A value from the environment, where there is one, is the one of the file.
def Confirms {α : Type} (environment : FlagValues) (flag : Flag α) (current : α) : Prop :=
  ∀ value, environment.get flag = some value → value = current

def Supplied {α : Type} (environment : FlagValues) (flag : Flag α) (zero current : α) : Prop :=
  Confirms environment flag current ∧ (environment.get flag = none → current ≠ zero)

section

variable {α : Type} (args : List String) (environment : FlagValues) (flag : Flag α)

theorem given_variable (named : flag.envVar.isSome = true) : (fileContext args environment).given flag = environment.get flag := by
  simp only [CliContext.given, fileContext, noFlags, Option.none_or, if_pos named]

theorem given_nothing (unnamed : flag.envVar = none) : (fileContext args environment).given flag = none := by
  simp only [CliContext.given, fileContext, noFlags, Option.none_or, unnamed, Option.isSome_none, Bool.false_eq_true, if_false]

theorem set_variable_iff (named : flag.envVar.isSome = true) (current : α) :
    setFlag (fileContext args environment) flag current = current ↔ Confirms environment flag current := by
  rw [set_flag_iff, given_variable args environment flag named, Confirms]

theorem set_nothing (unnamed : flag.envVar = none) (current : α) :
    setFlag (fileContext args environment) flag current = current := by
  rw [set_flag_iff, given_nothing args environment flag unnamed]
  rintro value ⟨⟩

theorem fill_variable_iff [DecidableEq α] (named : flag.envVar.isSome = true) (zero current : α) (default : flag.default ≠ zero) :
    fillFlag (fileContext args environment) flag zero current = current ↔ Supplied environment flag zero current := by
  rw [fill_flag_iff, given_variable args environment flag named, Supplied, Confirms]
  simp only [default, imp_false, ne_eq]

theorem fill_variable_zero_iff [DecidableEq α] (named : flag.envVar.isSome = true) (zero current : α) (default : flag.default = zero) :
    fillFlag (fileContext args environment) flag zero current = current ↔ Confirms environment flag current := by
  rw [fill_flag_iff, given_variable args environment flag named, Confirms]
  simp only [default, implies_true, and_true]

theorem fill_nothing_iff [DecidableEq α] (unnamed : flag.envVar = none) (zero current : α) (default : flag.default ≠ zero) :
    fillFlag (fileContext args environment) flag zero current = current ↔ current ≠ zero := by
  rw [fill_flag_iff, given_nothing args environment flag unnamed]
  simp [default]

theorem fill_nothing_zero [DecidableEq α] (unnamed : flag.envVar = none) (zero current : α) (default : flag.default = zero) :
    fillFlag (fileContext args environment) flag zero current = current := by
  rw [fill_flag_iff, given_nothing args environment flag unnamed]
  simp [default]

end

theorem set_uint_nothing (args : List String) (environment : FlagValues) (flag : Flag UInt64) (unnamed : flag.envVar = none)
    (current : UInt32) : setUintFlag (fileContext args environment) flag current = current := by
  simp [setUintFlag, flagExplicitlySet, given_nothing args environment flag unnamed]

theorem address_iff (given current : String) : (if given ≠ "" then given else current) = current ↔ given = "" ∨ given = current := by
  by_cases absent : given = ""
  · simp [absent]
  · simp [absent]

structure ClientFilled (args : List String) (environment : FlagValues) (config : ClientConfig) : Prop where
  serverURL : args.getLast?.getD "" = "" ∨ args.getLast?.getD "" = config.serverURL
  pathPrefix : Supplied environment .httpUpgradePathPrefix "" config.pathPrefix
  websocketProtocol : Supplied environment .mode "" config.websocketProtocol
  pingFrequency : config.pingFrequency ≠ 0
  connectionRetryMaxBackoff : config.connectionRetryMaxBackoff ≠ 0
  reverseTunnelConnectionRetryMaxBackoff : config.reverseTunnelConnectionRetryMaxBackoff ≠ 0
  httpProxy : Confirms environment .httpProxy config.httpProxy
  httpProxyLogin : Confirms environment .httpProxyLogin config.httpProxyLogin
  httpProxyPassword : Confirms environment .httpProxyPassword config.httpProxyPassword
  dnsResolverPreferIpv4 : Confirms environment .dnsResolverPreferIpv4 config.dnsResolverPreferIpv4

structure ServerFilled (args : List String) (environment : FlagValues) (config : ServerConfig) : Prop where
  listenAddr : config.listenAddr ≠ "" ∧ (args.getLast?.getD "" = "" ∨ args.getLast?.getD "" = config.listenAddr)
  pathPrefix : Supplied environment .httpUpgradePathPrefix "" config.pathPrefix
  websocketProtocol : Supplied environment .mode "" config.websocketProtocol
  websocketPingFrequency : config.websocketPingFrequency ≠ 0
  remoteToLocalServerIdleTimeout : config.remoteToLocalServerIdleTimeout ≠ 0
  httpProxy : Confirms environment .httpProxy config.httpProxy
  httpProxyLogin : Confirms environment .httpProxyLogin config.httpProxyLogin
  httpProxyPassword : Confirms environment .httpProxyPassword config.httpProxyPassword
  dnsResolverPreferIpv4 : Confirms environment .dnsResolverPreferIpv4 config.dnsResolverPreferIpv4
  restrictHttpUpgradePathPrefix : Confirms environment .restrictHttpUpgradePathPrefix config.restrictHttpUpgradePathPrefix

theorem headers_kept (args : List String) (environment : FlagValues) (current : List (String × String)) :
    (if flagExplicitlySet (fileContext args environment) .header = true ∨ current = [] then
      ((fileContext args environment).value .header).foldl addHeader [] else current) = current := by
  have nothing := given_nothing args environment .header rfl
  by_cases absent : current = []
  · rw [if_pos (.inr absent), CliContext.value, nothing, absent]
    rfl
  · rw [if_neg]
    rintro (set | empty)
    · rw [flagExplicitlySet, nothing] at set
      cases set
    · exact absent empty

theorem client_config_iff (args : List String) (environment : FlagValues) (file : FullConfig) (config : ClientConfig)
    (found : file.client = some config) :
    clientConfig (fileContext args environment) (some file) = config ↔ ClientFilled args environment config := by
  have start : clientConfig (fileContext args environment) (some file) =
      applyClientFlagOverrides (fileContext args environment) config (args.getLast?.getD "")
        (((fileContext args environment).value .header).foldl addHeader []) := by
    simp only [clientConfig, Option.bind_some, found, Option.getD_some, lastArg, fileContext]
  have url := address_iff (args.getLast?.getD "") config.serverURL
  have pathPrefix := fill_variable_iff args environment .httpUpgradePathPrefix rfl "" config.pathPrefix (by decide)
  have mode := fill_variable_iff args environment .mode rfl "" config.websocketProtocol (by decide)
  have ping := fill_nothing_iff args environment .websocketPingFrequency rfl 0 config.pingFrequency (by decide)
  have backoff := fill_nothing_iff args environment .connectionRetryMaxBackoff rfl 0 config.connectionRetryMaxBackoff (by decide)
  have reverseBackoff := fill_nothing_iff args environment .reverseTunnelConnectionRetryMaxBackoff rfl 0
    config.reverseTunnelConnectionRetryMaxBackoff (by decide)
  have proxy := fill_variable_zero_iff args environment .httpProxy rfl "" config.httpProxy rfl
  have login := fill_variable_zero_iff args environment .httpProxyLogin rfl "" config.httpProxyLogin rfl
  have password := fill_variable_zero_iff args environment .httpProxyPassword rfl "" config.httpProxyPassword rfl
  have prefer := set_variable_iff args environment .dnsResolverPreferIpv4 rfl config.dnsResolverPreferIpv4
  rw [start]
  constructor
  · intro same
    constructor
    case serverURL => exact url.mp (congrArg ClientConfig.serverURL same)
    case pathPrefix => exact pathPrefix.mp (congrArg ClientConfig.pathPrefix same)
    case websocketProtocol => exact mode.mp (congrArg ClientConfig.websocketProtocol same)
    case pingFrequency => exact ping.mp (congrArg ClientConfig.pingFrequency same)
    case connectionRetryMaxBackoff => exact backoff.mp (congrArg ClientConfig.connectionRetryMaxBackoff same)
    case reverseTunnelConnectionRetryMaxBackoff =>
      exact reverseBackoff.mp (congrArg ClientConfig.reverseTunnelConnectionRetryMaxBackoff same)
    case httpProxy => exact proxy.mp (congrArg ClientConfig.httpProxy same)
    case httpProxyLogin => exact login.mp (congrArg ClientConfig.httpProxyLogin same)
    case httpProxyPassword => exact password.mp (congrArg ClientConfig.httpProxyPassword same)
    case dnsResolverPreferIpv4 => exact prefer.mp (congrArg ClientConfig.dnsResolverPreferIpv4 same)
  · intro filled
    apply ClientConfig.ext
    case serverURL => exact url.mpr filled.serverURL
    case pathPrefix => exact pathPrefix.mpr filled.pathPrefix
    case websocketProtocol => exact mode.mpr filled.websocketProtocol
    case pingFrequency => exact ping.mpr filled.pingFrequency
    case connectionRetryMaxBackoff => exact backoff.mpr filled.connectionRetryMaxBackoff
    case reverseTunnelConnectionRetryMaxBackoff => exact reverseBackoff.mpr filled.reverseTunnelConnectionRetryMaxBackoff
    case httpProxy => exact proxy.mpr filled.httpProxy
    case httpProxyLogin => exact login.mpr filled.httpProxyLogin
    case httpProxyPassword => exact password.mpr filled.httpProxyPassword
    case dnsResolverPreferIpv4 => exact prefer.mpr filled.dnsResolverPreferIpv4
    case headers => exact headers_kept args environment config.headers
    case socketSoMark => exact set_uint_nothing args environment .socketSoMark rfl _
    case connectionMinIdle => exact set_uint_nothing args environment .connectionMinIdle rfl _
    case maskFrame => exact set_nothing args environment .websocketMaskFrame rfl _
    case tlsVerifyCert => exact set_nothing args environment .tlsVerifyCertificate rfl _
    case tlsSniDisable => exact set_nothing args environment .tlsSniDisable rfl _
    case tlsEchEnable => exact set_nothing args environment .tlsEchEnable rfl _
    case jwtSecret | tlsClientCert | tlsClientKey | tlsSniOverride | httpUpgradeCredentials | httpHeadersFile | dnsResolver |
        localToRemote | remoteToLocal =>
      exact fill_nothing_zero args environment _ rfl _ _ rfl

theorem listen_iff (given current : String) :
    (let addr := if given ≠ "" then given else current; if addr = "" then "ws://0.0.0.0:8080" else addr) = current ↔
      current ≠ "" ∧ (given = "" ∨ given = current) := by
  by_cases absent : given = ""
  · by_cases empty : current = ""
    · simp [absent, empty]
    · simp [absent, empty]
  · by_cases same : given = current
    · simp [absent, ← same]
    · simp [absent, same]

theorem listen_default (config : ServerConfig) :
    (if config.listenAddr = "" then { config with listenAddr := "ws://0.0.0.0:8080" } else config) =
      { config with listenAddr := if config.listenAddr = "" then "ws://0.0.0.0:8080" else config.listenAddr } := by
  by_cases absent : config.listenAddr = ""
  · rw [if_pos absent, if_pos absent]
  · rw [if_neg absent, if_neg absent]

theorem server_config_iff (args : List String) (environment : FlagValues) (file : FullConfig) (config : ServerConfig)
    (found : file.server = some config) :
    serverConfig (fileContext args environment) (some file) = config ↔ ServerFilled args environment config := by
  have listen := listen_iff (args.getLast?.getD "") config.listenAddr
  have pathPrefix := fill_variable_iff args environment .httpUpgradePathPrefix rfl "" config.pathPrefix (by decide)
  have mode := fill_variable_iff args environment .mode rfl "" config.websocketProtocol (by decide)
  have ping := fill_nothing_iff args environment .websocketPingFrequency rfl 0 config.websocketPingFrequency (by decide)
  have idle := fill_nothing_iff args environment .remoteToLocalServerIdleTimeout rfl 0 config.remoteToLocalServerIdleTimeout
    (by decide)
  have proxy := fill_variable_zero_iff args environment .httpProxy rfl "" config.httpProxy rfl
  have login := fill_variable_zero_iff args environment .httpProxyLogin rfl "" config.httpProxyLogin rfl
  have password := fill_variable_zero_iff args environment .httpProxyPassword rfl "" config.httpProxyPassword rfl
  have prefer := set_variable_iff args environment .dnsResolverPreferIpv4 rfl config.dnsResolverPreferIpv4
  have prefixes := fill_variable_zero_iff args environment .restrictHttpUpgradePathPrefix rfl []
    config.restrictHttpUpgradePathPrefix rfl
  rw [serverConfig, listen_default, Option.bind_some, found, Option.getD_some]
  constructor
  · intro same
    constructor
    case listenAddr => exact listen.mp (congrArg ServerConfig.listenAddr same)
    case pathPrefix => exact pathPrefix.mp (congrArg (·.pathPrefix) same)
    case websocketProtocol => exact mode.mp (congrArg (·.websocketProtocol) same)
    case websocketPingFrequency => exact ping.mp (congrArg ServerConfig.websocketPingFrequency same)
    case remoteToLocalServerIdleTimeout => exact idle.mp (congrArg (·.remoteToLocalServerIdleTimeout) same)
    case httpProxy => exact proxy.mp (congrArg ServerConfig.httpProxy same)
    case httpProxyLogin => exact login.mp (congrArg ServerConfig.httpProxyLogin same)
    case httpProxyPassword => exact password.mp (congrArg ServerConfig.httpProxyPassword same)
    case dnsResolverPreferIpv4 => exact prefer.mp (congrArg ServerConfig.dnsResolverPreferIpv4 same)
    case restrictHttpUpgradePathPrefix => exact prefixes.mp (congrArg (·.restrictHttpUpgradePathPrefix) same)
  · intro filled
    apply ServerConfig.ext
    case listenAddr => exact listen.mpr filled.listenAddr
    case pathPrefix => exact pathPrefix.mpr filled.pathPrefix
    case websocketProtocol => exact mode.mpr filled.websocketProtocol
    case websocketPingFrequency => exact ping.mpr filled.websocketPingFrequency
    case remoteToLocalServerIdleTimeout => exact idle.mpr filled.remoteToLocalServerIdleTimeout
    case httpProxy => exact proxy.mpr filled.httpProxy
    case httpProxyLogin => exact login.mpr filled.httpProxyLogin
    case httpProxyPassword => exact password.mpr filled.httpProxyPassword
    case dnsResolverPreferIpv4 => exact prefer.mpr filled.dnsResolverPreferIpv4
    case restrictHttpUpgradePathPrefix => exact prefixes.mpr filled.restrictHttpUpgradePathPrefix
    case socketSoMark => exact set_uint_nothing args environment .socketSoMark rfl _
    case websocketMaskFrame => exact set_nothing args environment .websocketMaskFrame rfl _
    case insecureNoJWTValidation => exact set_nothing args environment .insecureNoJwtValidation rfl _
    case tls => exact set_nothing args environment .tls rfl _
    case jwtSecret | dnsResolver | restrictTo | restrictConfig | tlsCertificate | tlsPrivateKey | tlsClientCaCerts =>
      exact fill_nothing_zero args environment _ rfl _ _ rfl

-- Without a server URL runClient starts nothing, while the root action hands the
-- empty one on.
theorem config_file_starts_same_iff (args : List String) (environment : FlagValues) (client : ClientConfig) (server : ServerConfig)
    (unusedClient : Option ClientConfig) (unusedServer : Option ServerConfig) :
    let c := fileContext args environment
    let clientFile : FullConfig := ⟨"client", some client, unusedServer⟩
    let serverFile : FullConfig := ⟨"server", unusedClient, some server⟩
    (rootAction clientFile = .ok (.client (clientConfig c (some clientFile))) ↔ ClientFilled args environment client) ∧
    (rootAction clientFile = runClient c (some clientFile) ↔ ClientFilled args environment client ∧ client.serverURL ≠ "") ∧
    (rootAction serverFile = runServer c (some serverFile) ↔ ServerFilled args environment server) := by
  intro c clientFile serverFile
  have clientStarts : rootAction clientFile = .ok (.client client) := rfl
  have serverStarts : rootAction serverFile = .ok (.server server) := rfl
  have filled := client_config_iff args environment clientFile client rfl
  refine ⟨?_, ?_, ?_⟩
  · rw [clientStarts, ← filled, Except.ok.injEq, Started.client.injEq, eq_comm]
  · rw [clientStarts, ← filled, runClient]
    by_cases missing : (clientConfig c (some clientFile)).serverURL = ""
    · rw [if_pos missing]
      constructor
      · rintro ⟨⟩
      · rintro ⟨same, url⟩
        exact absurd (same ▸ missing) url
    · rw [if_neg missing, Except.ok.injEq, Started.client.injEq, eq_comm]
      constructor
      · intro same
        exact ⟨same, same ▸ missing⟩
      · exact And.left
  · rw [serverStarts, runServer, Except.ok.injEq, Started.server.injEq, eq_comm]
    exact server_config_iff args environment serverFile server rfl

-- The client section of the README's example.
def exampleClient : ClientConfig where
  serverURL := "wss://gateway.example.com"
  localToRemote := ["tcp://8080:example.com:443", "socks5://127.0.0.1:1080"]

theorem example_file_starts_differ :
    let file : FullConfig := ⟨"client", some exampleClient, none⟩
    let config := clientConfig (fileContext [] noFlags) (some file)
    rootAction file ≠ .ok (.client config) ∧ exampleClient.pathPrefix = "" ∧ config.pathPrefix = "v1" := by
  decide

end WarpStream
