import WarpStream.GoText

set_option autoImplicit false

namespace WarpStream

structure Duration where
  secs : UInt64
  nanos : UInt32
deriving DecidableEq, Repr

structure Credentials where
  username : String
  password : String
deriving DecidableEq, Repr

structure TcpProtocol where
  proxyProtocol : Bool
deriving DecidableEq, Repr

structure UdpProtocol where
  timeout : Option Duration
deriving DecidableEq, Repr

structure StdioProtocol where
  proxyProtocol : Bool
deriving DecidableEq, Repr

structure Socks5Protocol where
  timeout : Option Duration
  credentials : Option Credentials
deriving DecidableEq, Repr

structure TProxyUdpProtocol where
  timeout : Option Duration
deriving DecidableEq, Repr

structure HttpProxyProtocol where
  timeout : Option Duration
  credentials : Option Credentials
  proxyProtocol : Bool
deriving DecidableEq, Repr

structure ReverseUdpProtocol where
  timeout : Option Duration
deriving DecidableEq, Repr

structure ReverseSocks5Protocol where
  timeout : Option Duration
  credentials : Option Credentials
deriving DecidableEq, Repr

structure ReverseHttpProxyProtocol where
  timeout : Option Duration
  credentials : Option Credentials
deriving DecidableEq, Repr

structure ReverseUnixProtocol where
  path : String
deriving DecidableEq, Repr

structure UnixProtocol where
  path : String
  proxyProtocol : Bool
deriving DecidableEq, Repr

-- Thirteen independent pointers, not a sum: a client may set any subset.
structure LocalProtocol where
  tcp : Option TcpProtocol := none
  udp : Option UdpProtocol := none
  stdio : Option StdioProtocol := none
  socks5 : Option Socks5Protocol := none
  tproxyTcp : Option Unit := none
  tproxyUdp : Option TProxyUdpProtocol := none
  httpProxy : Option HttpProxyProtocol := none
  reverseTcp : Option Unit := none
  reverseUdp : Option ReverseUdpProtocol := none
  reverseSocks5 : Option ReverseSocks5Protocol := none
  reverseHttpProxy : Option ReverseHttpProxyProtocol := none
  reverseUnix : Option ReverseUnixProtocol := none
  unix : Option UnixProtocol := none
deriving DecidableEq, Repr

structure JwtTunnelConfig where
  id : String
  protocol : LocalProtocol
  remote : String
  port : UInt16
deriving DecidableEq, Repr

structure LocalToRemote where
  protocol : LocalProtocol
  localAddr : String
  remote : String
  port : UInt16
deriving DecidableEq, Repr

inductive Network where
  | tcp
  | udp
  | unix
deriving DecidableEq, Repr

def isForward (protocol : LocalProtocol) : Bool :=
  protocol.tcp.isSome || protocol.udp.isSome || protocol.socks5.isSome || protocol.httpProxy.isSome ||
    protocol.unix.isSome

def isReverse (protocol : LocalProtocol) : Bool :=
  protocol.reverseTcp.isSome || protocol.reverseUdp.isSome || protocol.reverseSocks5.isSome ||
    protocol.reverseHttpProxy.isSome || protocol.reverseUnix.isSome

end WarpStream
