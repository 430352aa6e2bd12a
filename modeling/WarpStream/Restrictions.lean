import WarpStream.Protocol
import WarpStream.GoAddr

set_option autoImplicit false

namespace WarpStream

open GoText GoAddr

-- Compiling and matching are parameters. The law is the documented one of
-- QuoteMeta: the quoted text is a regular expression, so the error that
-- NewServer drops behind the anchored pattern never occurs.
structure RegexpEngine (Regexp : Type) where
  compile : String → Option Regexp
  matchString : Regexp → String → Bool
  quotedCompiles : ∀ text, (compile ("^" ++ quoteMeta text ++ "$")).isSome

def anchoredLiteral {Regexp : Type} (engine : RegexpEngine Regexp) (text : String) : Regexp :=
  (engine.compile ("^" ++ quoteMeta text ++ "$")).get (engine.quotedCompiles text)

def ExactLiterals {Regexp : Type} (engine : RegexpEngine Regexp) : Prop :=
  ∀ text input, engine.matchString (anchoredLiteral engine text) input = true ↔ input = text

def literalEngine : RegexpEngine String where
  compile := some
  matchString pattern input := pattern == "^" ++ quoteMeta input ++ "$"
  quotedCompiles _ := rfl

theorem literal_engine_exact : ExactLiterals literalEngine := by
  intro text input
  constructor
  · intro matched
    have same : "^" ++ quoteMeta text ++ "$" = "^" ++ quoteMeta input ++ "$" := eq_of_beq matched
    rw [String.append_assoc, String.append_assoc] at same
    have quoted := (String.append_right_inj _).mp same
    exact (quote_meta_injective text input ((String.append_left_inj _).mp quoted)).symm
  · intro same
    subst same
    exact beq_self_eq_true ("^" ++ quoteMeta input ++ "$")

structure MatchConfig (Regexp : Type) where
  any : Bool := false
  pathPrefix : Option Regexp := none
  authorization : Option Regexp := none
  clientCommonName : Option Regexp := none

structure PortRange where
  min : UInt16
  max : UInt16
deriving DecidableEq, Repr

structure AllowTunnelConfig (Regexp : Type) where
  protocol : List String := []
  port : List PortRange := []
  host : Option Regexp := none
  cidr : List IPNet := []

structure AllowReverseTunnelConfig (Regexp : Type) where
  protocol : List String := []
  port : List PortRange := []
  cidr : List IPNet := []
  unixPath : Option Regexp := none

structure AllowConfig (Regexp : Type) where
  tunnel : Option (AllowTunnelConfig Regexp) := none
  reverseTunnel : Option (AllowReverseTunnelConfig Regexp) := none

structure RestrictionConfig (Regexp : Type) where
  name : String
  matchers : List (MatchConfig Regexp)
  allow : List (AllowConfig Regexp)

structure RestrictionsRules (Regexp : Type) where
  restrictions : List (RestrictionConfig Regexp)

def getProtoName (protocol : LocalProtocol) : String :=
  if protocol.tcp.isSome then "Tcp"
  else if protocol.udp.isSome then "Udp"
  else if protocol.socks5.isSome then "Socks5"
  else if protocol.httpProxy.isSome then "Http"
  else if protocol.unix.isSome then "Unix"
  else if protocol.reverseTcp.isSome then "ReverseTcp"
  else if protocol.reverseUdp.isSome then "ReverseUdp"
  else if protocol.reverseSocks5.isSome then "ReverseSocks5"
  else if protocol.reverseHttpProxy.isSome then "ReverseHttp"
  else if protocol.reverseUnix.isSome then "ReverseUnix"
  else "Unknown"

def protocolAllowed (listed : List String) (protocol : LocalProtocol) : Bool :=
  listed.isEmpty || listed.any fun name => equalFold name (getProtoName protocol)

def portAllowed (listed : List PortRange) (port : UInt16) : Bool :=
  listed.isEmpty || listed.any fun range => decide (range.min ≤ port ∧ port ≤ range.max)

section

variable {Regexp : Type} (engine : RegexpEngine Regexp)

def optionMatches (pattern : Option Regexp) (text : String) : Bool :=
  pattern.any fun regexp => engine.matchString regexp text

def MatchConfig.holds (config : MatchConfig Regexp) (path auth commonName : String) : Bool :=
  config.any || optionMatches engine config.pathPrefix path || optionMatches engine config.authorization auth ||
    optionMatches engine config.clientCommonName commonName

def RestrictionConfig.matches (config : RestrictionConfig Regexp) (path auth commonName : String) : Bool :=
  config.matchers.any fun matcher => matcher.holds engine path auth commonName

-- A host that is no address passes the CIDR list when a host pattern is set.
def AllowTunnelConfig.allows (config : AllowTunnelConfig Regexp) (claims : JwtTunnelConfig) : Bool :=
  protocolAllowed config.protocol claims.protocol && portAllowed config.port claims.port &&
    (config.host.isNone || optionMatches engine config.host claims.remote) &&
    (config.cidr.isEmpty ||
      match parseIP claims.remote with
      | some ip => config.cidr.any fun net => contains net ip
      | none => config.host.isSome)

-- A reverse unix claim returns before the port and the CIDR list are read.
def AllowReverseTunnelConfig.allows (config : AllowReverseTunnelConfig Regexp) (claims : JwtTunnelConfig) : Bool :=
  protocolAllowed config.protocol claims.protocol &&
    match claims.protocol.reverseUnix with
    | some unix => config.unixPath.isNone || optionMatches engine config.unixPath unix.path
    | none =>
        portAllowed config.port claims.port &&
          (config.cidr.isEmpty ||
            match parseIP claims.remote with
            | some ip => config.cidr.any fun net => contains net ip
            | none => true)

def AllowConfig.authorises (entry : AllowConfig Regexp) (claims : JwtTunnelConfig) : Bool :=
  if isReverse claims.protocol then entry.reverseTunnel.any fun config => config.allows engine claims
  else entry.tunnel.any fun config => config.allows engine claims

def RestrictionConfig.allows (config : RestrictionConfig Regexp) (claims : JwtTunnelConfig) : Bool :=
  config.allow.any fun entry => entry.authorises engine claims

-- The argument is the pointer: a nil receiver admits, and so does an empty list.
def validate (rules : Option (RestrictionsRules Regexp)) (claims : JwtTunnelConfig)
    (path auth commonName : String) : Bool :=
  match rules with
  | none => true
  | some rules =>
      rules.restrictions.isEmpty ||
        rules.restrictions.any fun config => config.matches engine path auth commonName && config.allows engine claims

end

end WarpStream
