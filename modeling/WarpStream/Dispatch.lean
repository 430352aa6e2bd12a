import WarpStream.Manager
import WarpStream.Restrictions

set_option autoImplicit false

namespace WarpStream

open GoText

def shouldWriteProxyHeader (claims : JwtTunnelConfig) : Bool :=
  claims.protocol.tcp.any (·.proxyProtocol) || claims.protocol.httpProxy.any (·.proxyProtocol) ||
    claims.protocol.stdio.any (·.proxyProtocol) || claims.protocol.unix.any (·.proxyProtocol)

def second : Int64 := 1000000000

-- Both the conversion of Secs and the product wrap at 64 bits.
def udpTimeoutDuration (claims : JwtTunnelConfig) : Int64 :=
  match claims.protocol.udp.bind (·.timeout) with
  | some timeout => if 0 < timeout.secs then timeout.secs.toInt64 * second else 30 * second
  | none => 30 * second

structure Dial where
  network : Network
  addr : String
  idleTimeout : Option Int64
  proxyHeader : Bool
deriving DecidableEq, Repr

def dialTargetAndMaybeProxyHeader (claims : JwtTunnelConfig) (network : Network) (addr : String) : Dial where
  network := network
  addr := addr
  idleTimeout := if network = .udp then some (udpTimeoutDuration claims) else none
  proxyHeader := decide (network = .tcp) && shouldWriteProxyHeader claims

inductive TunnelAction where
  | pipe (transport : Transport) (dial : Dial)
  | reverse (transport : Transport)
  | unsupported
deriving DecidableEq, Repr

-- The body that the three handlers share; they differ in the pipe that joins
-- the two connections and in the client handler of the manager.
def handleTunnel (transport : Transport) (claims : JwtTunnelConfig) : TunnelAction :=
  if isForward claims.protocol then
    match claims.protocol.unix with
    | some unix => .pipe transport (dialTargetAndMaybeProxyHeader claims .unix unix.path)
    | none =>
        let network := if claims.protocol.udp.isSome then .udp else .tcp
        .pipe transport (dialTargetAndMaybeProxyHeader claims network (joinHostPort claims.remote (formatPort claims.port)))
  else if isReverse claims.protocol then .reverse transport
  else .unsupported

def handleConnection (claims : JwtTunnelConfig) : TunnelAction := handleTunnel .wst claims
def handleGorillaConnection (claims : JwtTunnelConfig) : TunnelAction := handleTunnel .gorilla claims
def handleHttp2Connection (claims : JwtTunnelConfig) : TunnelAction := handleTunnel .http2 claims

def dispatch (claims : JwtTunnelConfig) : Transport → TunnelAction
  | .wst => handleConnection claims
  | .gorilla => handleGorillaConnection claims
  | .http2 => handleHttp2Connection claims

inductive Endpoint where
  | dialled (network : Network) (addr : String)
  | listening (network : Network) (addr : String)
deriving DecidableEq, Repr

def opens (manager : Manager) (transport : Transport) (claims : JwtTunnelConfig) (listens : Bool) (now : Nat) :
    Option Endpoint :=
  match dispatch claims transport with
  | .pipe _ dial => some (.dialled dial.network dial.addr)
  | .reverse _ =>
      let found := getOrCreateListener manager claims listens now
      found.2.map fun listener => .listening (found.1.store listener).network (found.1.store listener).addr
  | .unsupported => none

theorem dispatch_shared (claims : JwtTunnelConfig) (transport : Transport) :
    dispatch claims transport = handleTunnel transport claims := by
  cases transport <;> rfl

-- The network the dispatchers pick when several fields are set, and the one of
-- the field that getProtoName meets first.
def preferredNetwork (udp unix : Bool) : Network := if unix then .unix else if udp then .udp else .tcp

def namedNetwork (tcp udp proxy : Bool) : Network := if tcp then .tcp else if udp then .udp else if proxy then .tcp else .unix

theorem opens_forward (manager : Manager) (transport : Transport) (claims : JwtTunnelConfig) (listens : Bool) (now : Nat)
    (forward : isForward claims.protocol = true) :
    opens manager transport claims listens now =
      some (.dialled (preferredNetwork claims.protocol.udp.isSome claims.protocol.unix.isSome)
        (match claims.protocol.unix with
          | some unix => unix.path
          | none => joinHostPort claims.remote (formatPort claims.port))) := by
  simp only [opens, dispatch_shared, handleTunnel, if_pos forward]
  cases claims.protocol.unix with
  | some unix => rfl
  | none => rfl

theorem opens_reverse (manager : Manager) (transport : Transport) (claims : JwtTunnelConfig) (listens : Bool) (now : Nat)
    (forward : isForward claims.protocol = false) (reverse : isReverse claims.protocol = true) :
    opens manager transport claims listens now =
      match manager.listeners (bindTarget claims).addr with
      | some listener => some (.listening (manager.store listener).network (manager.store listener).addr)
      | none =>
          if listens then
            some (.listening (preferredNetwork claims.protocol.reverseUdp.isSome claims.protocol.reverseUnix.isSome)
              (bindTarget claims).addr)
          else none := by
  have action : dispatch claims transport = .reverse transport := by
    simp only [dispatch_shared, handleTunnel, forward, reverse, Bool.false_eq_true, if_false, if_true]
  simp only [opens, action, getOrCreateListener]
  cases manager.listeners (bindTarget claims).addr with
  | some listener => simp [Manager.setListener]
  | none =>
      cases listens with
      | false => rfl
      | true =>
          have network : (bindTarget claims).network =
              preferredNetwork claims.protocol.reverseUdp.isSome claims.protocol.reverseUnix.isSome := by
            unfold bindTarget preferredNetwork
            cases claims.protocol.reverseUnix <;> rfl
          simp [Manager.setListener, newListener, network]

theorem opens_unsupported (manager : Manager) (transport : Transport) (claims : JwtTunnelConfig) (listens : Bool) (now : Nat)
    (forward : isForward claims.protocol = false) (reverse : isReverse claims.protocol = false) :
    opens manager transport claims listens now = none := by
  simp [opens, dispatch_shared, handleTunnel, forward, reverse]

end WarpStream
