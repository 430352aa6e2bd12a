import WarpStream.IdleTimeout
import WarpStream.Homogeneous
import WarpStream.KindAgreement
import WarpStream.FailClosed
import WarpStream.ReverseArg
import WarpStream.WstRoundTrip
import WarpStream.UdpConsistency
import WarpStream.Incoming
import WarpStream.NoLostWakeup
import WarpStream.AcquireDeadline
import WarpStream.Accounting
import WarpStream.PoolConservation
import WarpStream.UdpDestinations
import WarpStream.ForwardArg
import WarpStream.PipeFidelity
import WarpStream.Fragments
import WarpStream.TargetDelivery
import WarpStream.HalfClose
import WarpStream.ControlWrites
import WarpStream.FrameGrammar
import WarpStream.Upgrade
import WarpStream.HttpProxy
import WarpStream.ProxyHandshake
import WarpStream.ListenConfinement
import WarpStream.GorillaWriters
import WarpStream.DatagramStream
import WarpStream.PortRules
import WarpStream.PathPrefix
import WarpStream.ProxyHeader
import WarpStream.OrigDst
import WarpStream.BadPorts
import WarpStream.IdlePeriods
import WarpStream.CertReload
import WarpStream.Socks5Acceptance
import WarpStream.Socks5Agreement
import WarpStream.CredentialComparison
import WarpStream.IdleConn
import WarpStream.SessionConn
import WarpStream.ReverseUdp
import WarpStream.ConfigFile
import WarpStream.ClaimsJson
import WarpStream.TunnelRequest
import WarpStream.ListenerLife
import WarpStream.UdpRelay
import WarpStream.ProxyTargets
import WarpStream.Teardown
import WarpStream.Backoff
import WarpStream.ServerSessions
import WarpStream.CaddyModule
import WarpStream.TransparentTargets
import WarpStream.ServerStart
