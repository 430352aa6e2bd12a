import WarpStream.Dispatch
import WarpStream.ReverseArg

set_option autoImplicit false

namespace WarpStream

open GoText

inductive Runner where
  | stdio
  | udp
  | socks5
  | httpProxy
  | unix
  | tproxyTcp
  | tproxyUdp
  | tcp
deriving DecidableEq, Repr

def startTunnel (ltr : LocalToRemote) : Runner :=
  if ltr.protocol.stdio.isSome then .stdio
  else if ltr.protocol.udp.isSome then .udp
  else if ltr.protocol.socks5.isSome then .socks5
  else if ltr.protocol.httpProxy.isSome then .httpProxy
  else if ltr.protocol.unix.isSome then .unix
  else if ltr.protocol.tproxyTcp.isSome then .tproxyTcp
  else if ltr.protocol.tproxyUdp.isSome then .tproxyUdp
  else .tcp

-- What the function that runs asks connectToTransport for. dynamic is the target
-- that the proxies and the transparent listeners learn per connection.
def tunnelClaims (requestID : String) (ltr : LocalToRemote) (dynamic : String × UInt16) : JwtTunnelConfig :=
  match startTunnel ltr with
  | .stdio | .udp | .unix | .tcp => generateJWT requestID ltr.protocol ltr.remote ltr.port
  | .socks5 | .httpProxy | .tproxyTcp => generateJWT requestID { tcp := some ⟨false⟩ } dynamic.1 dynamic.2
  | .tproxyUdp =>
      generateJWT requestID { udp := some ⟨ltr.protocol.tproxyUdp.bind (·.timeout)⟩ } dynamic.1 dynamic.2

def forwardSchemes : List String := ["tcp", "udp", "unix", "stdio"]

def decimalTarget (network : Network) (host port : String) : Option (Network × String) :=
  match parseUint port 16 with
  | (number, none) => some (network, joinHostPort host (toString number))
  | (_, some _) => none

-- The endpoint that the text of the argument names.
def namedTarget (arg : TunnelArg) : Option (Network × String) :=
  if arg.proto = "unix" then (cut [':'] arg.info).map fun (_, remotePath) => (.unix, String.ofList remotePath)
  else if arg.proto = "stdio" then
    match splitHostPort (String.ofList arg.info) with
    | .ok (host, port) => decimalTarget .tcp host port
    | .error _ => none
  else
    (writtenTarget (splitFields arg.info)).bind fun (host, port) =>
      decimalTarget (schemeNetwork arg.proto) (trim host brackets) port

def ReachesTarget (transport : Transport) (arg : TunnelArg) (claims : JwtTunnelConfig) : Prop :=
  ∃ dial, dispatch claims transport = .pipe transport dial ∧ namedTarget arg = some (dial.network, dial.addr)

structure WritesTarget (arg : TunnelArg) : Prop where
  served : arg.proto ≠ "stdio"
  path : arg.proto = "unix" → ':' ∈ arg.info
  hostPort : arg.proto = "tcp" ∨ arg.proto = "udp" →
    ∃ host port, writtenTarget (splitFields arg.info) = some (host, port) ∧ (parseUint port 16).2 = none

theorem cut_colon (text : List Char) : (cut [':'] text).isSome = true ↔ ':' ∈ text := by
  induction text with
  | nil => simp [cut]
  | cons char rest ih =>
      by_cases colon : char = ':'
      · simp [cut, colon]
      · simp only [cut, List.isPrefixOf_cons_cons, List.isPrefixOf_nil_left, Bool.and_true, beq_iff_eq, Ne.symm colon, if_false,
          Option.isSome_map, ih, List.mem_cons, false_or]

theorem decimal_target_some (network : Network) (host port : String) :
    (∃ target, decimalTarget network host port = some target) ↔ (parseUint port 16).2 = none := by
  unfold decimalTarget
  split
  · rename_i number parsed
    simp [parsed]
  · rename_i number error parsed
    simp [parsed]

theorem stdio_unsupported (time : TimeLibrary) (arg : String) (written : TunnelArg) (ltr : LocalToRemote) (requestID : String)
    (dynamic : String × UInt16) (transport : Transport) (split : splitArg arg = some written) (stdio : written.proto = "stdio")
    (accepted : parseTunnelArg time arg false = .ok ltr) :
    dispatch (tunnelClaims requestID ltr dynamic) transport = .unsupported := by
  simp only [parseTunnelArg, split, if_pos stdio, parseStdio] at accepted
  split at accepted
  · cases accepted
  · cases accepted
    rw [dispatch_shared]
    rfl

theorem unix_dispatched (time : TimeLibrary) (arg : String) (written : TunnelArg) (ltr : LocalToRemote) (requestID : String)
    (dynamic : String × UInt16) (transport : Transport) (split : splitArg arg = some written) (unix : written.proto = "unix")
    (accepted : parseTunnelArg time arg false = .ok ltr) :
    ∃ dial, dispatch (tunnelClaims requestID ltr dynamic) transport = .pipe transport dial ∧ dial.network = .unix ∧
      dial.addr = String.ofList ((cut [':'] written.info).getD (written.info, [])).2 := by
  have stdio : written.proto ≠ "stdio" := by simp [unix]
  simp only [parseTunnelArg, split, if_neg stdio, if_pos unix] at accepted
  cases accepted
  rw [dispatch_shared]
  exact ⟨_, rfl, rfl, rfl⟩

theorem host_port_dispatched (time : TimeLibrary) (query : Option (List Char)) (proto : String) (ltr : LocalToRemote)
    (requestID : String) (dynamic : String × UInt16) (transport : Transport) (scheme : proto = "tcp" ∨ proto = "udp")
    (made : schemeProtocol time query false proto = some ltr.protocol) :
    ∃ dial, dispatch (tunnelClaims requestID ltr dynamic) transport = .pipe transport dial ∧
      dial.network = schemeNetwork proto ∧ dial.addr = joinHostPort ltr.remote (formatPort ltr.port) := by
  obtain ⟨protocol, localAddr, remote, port⟩ := ltr
  rw [dispatch_shared]
  rcases scheme with tcp | udp
  · subst tcp
    cases made
    exact ⟨_, rfl, rfl, rfl⟩
  · subst udp
    cases made
    exact ⟨_, rfl, rfl, rfl⟩

theorem unix_reaches (time : TimeLibrary) (arg : String) (written : TunnelArg) (ltr : LocalToRemote) (requestID : String)
    (dynamic : String × UInt16) (transport : Transport) (split : splitArg arg = some written) (unix : written.proto = "unix")
    (accepted : parseTunnelArg time arg false = .ok ltr) :
    ReachesTarget transport written (tunnelClaims requestID ltr dynamic) ↔ ':' ∈ written.info := by
  obtain ⟨dial, action, network, addr⟩ :=
    unix_dispatched time arg written ltr requestID dynamic transport split unix accepted
  simp only [ReachesTarget, action, TunnelAction.pipe.injEq, true_and, exists_eq_left', namedTarget, if_pos unix, network, addr]
  rw [← cut_colon]
  cases cut [':'] written.info with
  | none => simp
  | some parts => simp

theorem host_port_reaches (time : TimeLibrary) (arg : String) (written : TunnelArg) (ltr : LocalToRemote) (requestID : String)
    (dynamic : String × UInt16) (transport : Transport) (split : splitArg arg = some written)
    (scheme : written.proto = "tcp" ∨ written.proto = "udp") (accepted : parseTunnelArg time arg false = .ok ltr) :
    ReachesTarget transport written (tunnelClaims requestID ltr dynamic) ↔
      ∃ host port, writtenTarget (splitFields written.info) = some (host, port) ∧ (parseUint port 16).2 = none := by
  have stdio : written.proto ≠ "stdio" := by rcases scheme with tcp | udp <;> simp [*]
  have unix : written.proto ≠ "unix" := by rcases scheme with tcp | udp <;> simp [*]
  obtain ⟨fields, found, _, host, port, made⟩ := fields_accepted time arg written ltr false split stdio unix accepted
  obtain ⟨dial, action, network, addr⟩ :=
    host_port_dispatched time written.query written.proto ltr requestID dynamic transport scheme made
  simp only [ReachesTarget, action, TunnelAction.pipe.injEq, true_and, exists_eq_left', namedTarget, if_neg unix, if_neg stdio,
    network, addr]
  cases shown : writtenTarget (splitFields written.info) with
  | none => simp
  | some target =>
      obtain ⟨targetHost, text⟩ := target
      obtain ⟨sameHost, samePort⟩ := arg_target _ fields targetHost text found shown
      simp only [Option.bind_some, Option.some.injEq, Prod.mk.injEq]
      constructor
      · intro named
        exact ⟨targetHost, text, ⟨rfl, rfl⟩, (decimal_target_some _ _ _).mp ⟨_, named⟩⟩
      · intro written
        obtain ⟨otherHost, otherText, same, decimal⟩ := written
        rw [← same.2] at decimal
        have parsed : parseUint text 16 = ((parseUint text 16).1, none) := Prod.ext rfl decimal
        rw [host, port, sameHost, samePort, port_value_decimal text _ parsed]
        unfold decimalTarget
        rw [parsed]

theorem forward_argument_reaches_target (time : TimeLibrary) (arg : String) (written : TunnelArg) (ltr : LocalToRemote)
    (requestID : String) (dynamic : String × UInt16) (transport : Transport) (split : splitArg arg = some written)
    (scheme : written.proto ∈ forwardSchemes) (accepted : parseTunnelArg time arg false = .ok ltr) :
    ReachesTarget transport written (tunnelClaims requestID ltr dynamic) ↔ WritesTarget written := by
  simp only [forwardSchemes, List.mem_cons, List.not_mem_nil, or_false, ← or_assoc] at scheme
  rcases scheme with (hostPort | unix) | stdio
  · rw [host_port_reaches time arg written ltr requestID dynamic transport split hostPort accepted]
    refine ⟨fun shown => ⟨?_, ?_, fun _ => shown⟩, fun writes => writes.hostPort hostPort⟩
    · rcases hostPort with tcp | udp <;> simp [*]
    · rcases hostPort with tcp | udp <;> simp [*]
  · rw [unix_reaches time arg written ltr requestID dynamic transport split unix accepted]
    exact ⟨fun colon => ⟨by simp [unix], fun _ => colon, by simp [unix]⟩, fun writes => writes.path unix⟩
  · have refused := stdio_unsupported time arg written ltr requestID dynamic transport split stdio accepted
    refine ⟨?_, fun writes => absurd stdio writes.served⟩
    intro reaches
    obtain ⟨dial, action, _⟩ := reaches
    cases refused.symm.trans action

def proxyCommand : String := "stdio://remote-host:22"

def proxyCommandTunnel : LocalToRemote := ⟨{ stdio := some ⟨false⟩ }, "", "remote-host", 22⟩

-- The ProxyCommand of the manual: accepted here, refused by the server.
theorem forward_stdio_unsupported :
    parseTunnelArg noTime proxyCommand false = .ok proxyCommandTunnel ∧
      startTunnel proxyCommandTunnel = .stdio ∧ handleConnection (tunnelClaims "" proxyCommandTunnel ("", 0)) = .unsupported ∧
      ¬ ReachesTarget .wst ⟨"stdio", "remote-host:22".toList, none⟩ (tunnelClaims "" proxyCommandTunnel ("", 0)) := by
  refine ⟨by decide, by decide, by decide, ?_⟩
  intro reaches
  obtain ⟨dial, action, _⟩ := reaches
  cases action

theorem forward_argument_reaches_target_web :
    ReachesTarget .wst ⟨"tcp", "8080:10.0.0.5:80".toList, none⟩
      (tunnelClaims "" ⟨{ tcp := some ⟨false⟩ }, "127.0.0.1:8080", "10.0.0.5", 80⟩ ("", 0)) := by
  refine (forward_argument_reaches_target noTime "tcp://8080:10.0.0.5:80" _ _ "" ("", 0) .wst (by decide) (by decide)
    (by decide)).mpr ⟨by decide, by decide, fun _ => ⟨"10.0.0.5", "80", by decide, by decide⟩⟩

end WarpStream
