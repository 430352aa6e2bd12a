import WarpStream.Protocol
import WarpStream.QueueOrder

set_option autoImplicit false

namespace WarpStream

open GoText Transition

abbrev ListenerId := Nat

inductive Transport where
  | wst
  | gorilla
  | http2
deriving DecidableEq, Repr

-- The socket behind a listener is named by its network: ln for tcp and unix,
-- udpConn for udp.
structure TunnelListener where
  addr : String
  isUnix : Bool
  protocol : LocalProtocol
  network : Network
  lastUsed : Nat
  active : Int
  queue : WaitQueue

structure BindTarget where
  addr : String
  isUnix : Bool
  network : Network
deriving DecidableEq, Repr

def bindTarget (claims : JwtTunnelConfig) : BindTarget :=
  match claims.protocol.reverseUnix with
  | some unix => ⟨if claims.remote = "" then unix.path else claims.remote, true, .unix⟩
  | none =>
      ⟨joinHostPort claims.remote (formatPort claims.port), false, if claims.protocol.reverseUdp.isSome then .udp else .tcp⟩

-- The connection a waitingConn wraps, with the claims it was opened for. The
-- source does not keep the claims; they are recorded here to speak about them.
structure Client where
  transport : Transport
  claims : JwtTunnelConfig

inductive ClientCall where
  | idle
  | joining (listener : ListenerId) (client : Client)
  | joined (listener : ListenerId)
  | refused

structure Manager where
  listeners : String → Option ListenerId
  store : ListenerId → TunnelListener
  nextListener : Nat
  idleTimeout : Int
  calls : GoroutineId → ClientCall
  clients : ListenerId → WaiterId → Option Client

def newListener (target : BindTarget) (protocol : LocalProtocol) (idleTimeout : Int) (now : Nat) : TunnelListener :=
  ⟨target.addr, target.isUnix, protocol, target.network, now, 0, newWaitQueue idleTimeout⟩

def newManager (idleTimeout : Int) : Manager where
  listeners := fun _ => none
  store := fun _ => newListener ⟨"", false, .tcp⟩ {} idleTimeout 0
  nextListener := 0
  idleTimeout := idleTimeout
  calls := fun _ => .idle
  clients := fun _ _ => none

def Manager.setListener (manager : Manager) (listener : ListenerId) (value : TunnelListener) : Manager :=
  { manager with store := Function.update manager.store listener value }

def Manager.current (manager : Manager) (listener : ListenerId) : Bool :=
  decide (manager.listeners (manager.store listener).addr = some listener)

-- A registered listener is returned whatever its protocol is. listens is the
-- outcome of Listen or ListenPacket, which are called only without one.
def getOrCreateListener (manager : Manager) (claims : JwtTunnelConfig) (listens : Bool) (now : Nat) :
    Manager × Option ListenerId :=
  let target := bindTarget claims
  match manager.listeners target.addr with
  | some listener => (manager.setListener listener { manager.store listener with lastUsed := now }, some listener)
  | none =>
      if listens then
        let created := manager.setListener manager.nextListener (newListener target claims.protocol manager.idleTimeout now)
        ({ created with
            listeners := Function.update manager.listeners target.addr (some manager.nextListener)
            nextListener := manager.nextListener + 1 },
          some manager.nextListener)
      else (manager, none)

def touchListener (manager : Manager) (listener : ListenerId) (now : Nat) : Manager :=
  if manager.current listener then manager.setListener listener { manager.store listener with lastUsed := now } else manager

def updateActivePipes (manager : Manager) (listener : ListenerId) (delta : Int) (now : Nat) : Manager :=
  if manager.current listener then
    manager.setListener listener
      { manager.store listener with active := (manager.store listener).active + delta, lastUsed := now }
  else manager

def beginIncoming (manager : Manager) (listener : ListenerId) (now : Nat) : Manager :=
  updateActivePipes manager listener 1 now

-- The section of reapIdleListenersOnce under mu; the listeners it removes are
-- closed afterwards, one closeListener of their queue at a time.
def reapIdleListenersOnce (manager : Manager) (now : Nat) : Manager :=
  { manager with
    listeners := fun addr =>
      (manager.listeners addr).filter fun listener =>
        decide (0 < (manager.store listener).active ∨ (now : Int) - (manager.store listener).lastUsed < manager.idleTimeout) }

def unregister (manager : Manager) (listener : ListenerId) : Manager :=
  if manager.current listener then
    { manager with listeners := Function.update manager.listeners (manager.store listener).addr none }
  else manager

def closeManager (manager : Manager) : Manager := { manager with listeners := fun _ => none }

def Manager.stepQueue (manager : Manager) (listener : ListenerId) (event : QueueEvent) : Option Manager :=
  (queueStep (manager.store listener).queue event).map fun queue =>
    manager.setListener listener { manager.store listener with queue := queue }

-- HandleClient, HandleGorillaClient and HandleClientH2 are one call with the
-- transport as parameter: join looks the listener up, enqueue makes the
-- waitingConn and enters enqueueWaitingConn, and the events of the queue follow.
inductive ManagerEvent where
  | join (goroutine : GoroutineId) (client : Client) (listens : Bool) (now : Nat)
  | enqueue (goroutine : GoroutineId)
  | queue (listener : ListenerId) (event : QueueEvent)
  | touch (listener : ListenerId) (now : Nat)
  | beginIncoming (listener : ListenerId) (now : Nat)
  | endIncoming (listener : ListenerId) (now : Nat)
  | reap (now : Nat)
  | unregister (listener : ListenerId)
  | close

def QueueEvent.isHandleClient : QueueEvent → Bool
  | .handleClient _ => true
  | _ => false

def managerStep (manager : Manager) : ManagerEvent → Option Manager
  | .join g client listens now =>
      match manager.calls g with
      | .idle =>
          let found := getOrCreateListener manager client.claims listens now
          let call := match found.2 with
            | some listener => .joining listener client
            | none => .refused
          some { found.1 with calls := Function.update found.1.calls g call }
      | _ => none
  | .enqueue g =>
      match manager.calls g with
      | .joining listener client =>
          let wait := (manager.store listener).queue.nextWaiter
          (manager.stepQueue listener (.handleClient g)).map fun next =>
            { next with
              calls := Function.update next.calls g (.joined listener)
              clients := Function.update next.clients listener (Function.update (next.clients listener) wait (some client)) }
      | _ => none
  | .queue listener event => if event.isHandleClient then none else manager.stepQueue listener event
  | .touch listener now => some (touchListener manager listener now)
  | .beginIncoming listener now => some (beginIncoming manager listener now)
  | .endIncoming listener now => some (updateActivePipes manager listener (-1) now)
  | .reap now => some (reapIdleListenersOnce manager now)
  | .unregister listener => some (unregister manager listener)
  | .close => some (closeManager manager)

end WarpStream
