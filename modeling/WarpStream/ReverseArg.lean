import WarpStream.Manager
import WarpStream.TunnelArg

set_option autoImplicit false

namespace WarpStream

open GoText

def generateJWT (requestID : String) (protocol : LocalProtocol) (remote : String) (port : UInt16) : JwtTunnelConfig :=
  ⟨requestID, protocol, remote, port⟩

structure LocalDial where
  network : Network
  addr : String
deriving DecidableEq, Repr

-- One turn of StartReverseTunnel. frame is the target of readTargetFrame, and
-- cookie the claims in a Set-Cookie header of the response, if it has one.
def startReverseTunnel (ltr : LocalToRemote) (frame : Option (String × UInt16)) (cookie : Option JwtTunnelConfig) :
    Option LocalDial :=
  let target : Option (LocalProtocol × String × UInt16) :=
    if ltr.protocol.reverseSocks5.isSome ∨ ltr.protocol.reverseHttpProxy.isSome then
      frame.map fun (host, port) => (ltr.protocol, host, port)
    else
      match cookie with
      | some claims =>
          if claims.remote ≠ "" then some (claims.protocol, claims.remote, claims.port)
          else some (ltr.protocol, ltr.remote, ltr.port)
      | none => some (ltr.protocol, ltr.remote, ltr.port)
  target.map fun (protocol, host, port) =>
    match protocol.unix, protocol.reverseUnix with
    | some unix, _ => ⟨.unix, unix.path⟩
    | none, some unix => ⟨.unix, unix.path⟩
    | none, none => ⟨.tcp, joinHostPort host (formatPort port)⟩

-- The server answers no tunnel request with a Set-Cookie header.
def serverCookie : Option JwtTunnelConfig := none

def writtenTarget (fields : List (List Char)) : Option (String × String) :=
  match fields.map String.ofList with
  | [_, host, port] => some (host, port)
  | [_, _, host, port] => some (host, port)
  | _ => none

def schemeNetwork (proto : String) : Network := if proto = "udp" then .udp else .tcp

def reverseSchemes : List String := ["tcp", "udp", "socks5", "http"]
def staticSchemes : List String := ["tcp", "udp"]

def SameAtBothEnds (requestID : String) (frame : Option (String × UInt16)) (arg : TunnelArg) (ltr : LocalToRemote) : Prop :=
  (bindTarget (generateJWT requestID ltr.protocol ltr.remote ltr.port)).addr = ltr.localAddr ∧
    (arg.proto ∈ staticSchemes →
      ∃ dial, startReverseTunnel ltr frame serverCookie = some dial ∧ dial.network = schemeNetwork arg.proto ∧
        ∀ host port, writtenTarget (splitFields arg.info) = some (host, port) →
          ∃ number, parseUint port 16 = (number, none) ∧ dial.addr = joinHostPort (trim host brackets) (toString number))

def PartsCoincide (arg : TunnelArg) : Prop :=
  ∃ fields, argFields (splitFields arg.info) = some fields ∧
    trim fields.localBind brackets = trim fields.remoteHost brackets ∧ fields.localPort = formatPort fields.remotePort

def DialsOwnNetwork (arg : TunnelArg) : Prop :=
  arg.proto ≠ "udp" ∧
    (arg.proto = "tcp" → ∀ host port, writtenTarget (splitFields arg.info) = some (host, port) → (parseUint port 16).2 = none)

-- No field holds a bracket closed before a colon: the closing bracket ends the
-- brackets, and the colon behind it then ends the field.
structure ScanOpen (scan : FieldScan) : Prop where
  fields : ∀ field ∈ scan.fields, ¬ closesHost field
  current : ¬ closesHost scan.current
  outside : scan.current.getLast? = some ']' → scan.inBrackets = false

theorem scan_rune_open (scan : FieldScan) (rune : Char) (opened : ScanOpen scan) : ScanOpen (scanRune scan rune) := by
  unfold scanRune
  by_cases ends : rune = ':' ∧ scanBrackets scan.inBrackets rune = false
  · rw [if_pos ends]
    refine ⟨?_, by simp [closesHost], by simp⟩
    intro field member
    rcases List.mem_append.mp member with earlier | last
    · exact opened.fields field earlier
    · rw [List.mem_singleton.mp last]
      exact opened.current
  · rw [if_neg ends]
    refine ⟨opened.fields, ?_, ?_⟩
    · intro closes
      rcases List.infix_concat_iff.mp closes with final | inside
      · obtain ⟨start, whole⟩ := final
        have pair : (start ++ [']']) ++ [':'] = scan.current ++ [rune] := by simpa using whole
        obtain ⟨before, colon⟩ := List.append_inj' pair rfl
        have last : scan.current.getLast? = some ']' := by rw [← before, List.getLast?_concat]
        cases colon
        exact ends ⟨rfl, opened.outside last⟩
      · exact opened.current inside
    · intro last
      rw [List.getLast?_concat] at last
      cases last
      rfl

theorem scan_open (info : List Char) (scan : FieldScan) (opened : ScanOpen scan) : ScanOpen (info.foldl scanRune scan) := by
  induction info generalizing scan with
  | nil => exact opened
  | cons rune rest ih => exact ih (scanRune scan rune) (scan_rune_open scan rune opened)

theorem split_fields_open (info field : List Char) (member : field ∈ splitFields info) : ¬ closesHost field := by
  have opened := scan_open info ⟨[], [], false⟩ ⟨by simp, by simp [closesHost], by simp⟩
  rcases List.mem_append.mp member with earlier | last
  · exact opened.fields field earlier
  · rw [List.mem_singleton.mp last]
    exact opened.current

theorem arg_port_field (fields : List (List Char)) (parsed : ArgFields) (found : argFields fields = some parsed) :
    parsed.localPort.toList ∈ fields := by
  have back : ∀ text : String, text ∈ fields.map String.ofList → text.toList ∈ fields := by
    intro text member
    obtain ⟨field, inFields, same⟩ := List.mem_map.mp member
    rwa [← same, String.toList_ofList]
  unfold argFields at found
  split at found <;> cases found
  all_goals
    rename_i shape
    exact back _ (by simp [shape])

theorem arg_target (fields : List (List Char)) (parsed : ArgFields) (host port : String)
    (found : argFields fields = some parsed) (written : writtenTarget fields = some (host, port)) :
    parsed.remoteHost = host ∧ parsed.remotePort = portValue port := by
  unfold argFields at found
  unfold writtenTarget at written
  split at found <;> cases found
  all_goals
    rename_i shape
    rw [shape] at written
    cases written
  · exact ⟨rfl, rfl⟩
  · exact ⟨rfl, rfl⟩

theorem port_value_decimal (text : String) (number : Nat) (parsed : parseUint text 16 = (number, none)) :
    formatPort (portValue text) = toString number := by
  have bound := parse_uint_bound text 16
  rw [parsed] at bound
  have value : (portValue text).toNat = number := by
    rw [portValue, parsed, UInt16.toNat_ofNat']
    exact Nat.mod_eq_of_lt (by omega)
  rw [formatPort, value]

theorem reverse_protocol (time : TimeLibrary) (query : Option (List Char)) (proto : String) (protocol : LocalProtocol)
    (reverse : proto ∈ reverseSchemes) (made : schemeProtocol time query true proto = some protocol) :
    protocol.unix = none ∧ protocol.reverseUnix = none ∧
      (proto ∈ staticSchemes → protocol.reverseSocks5 = none ∧ protocol.reverseHttpProxy = none) := by
  simp only [reverseSchemes, List.mem_cons, List.not_mem_nil, or_false] at reverse
  rcases reverse with rfl | rfl | rfl | rfl
  all_goals
    cases made
    exact ⟨rfl, rfl, by simp [staticSchemes]⟩

theorem fields_accepted (time : TimeLibrary) (arg : String) (written : TunnelArg) (ltr : LocalToRemote) (isReverse : Bool)
    (split : splitArg arg = some written) (stdio : written.proto ≠ "stdio") (unix : written.proto ≠ "unix")
    (accepted : parseTunnelArg time arg isReverse = .ok ltr) :
    ∃ fields, argFields (splitFields written.info) = some fields ∧
      ltr.localAddr = joinHostPort (trim fields.localBind brackets) fields.localPort ∧
      ltr.remote = trim fields.remoteHost brackets ∧ ltr.port = fields.remotePort ∧
      schemeProtocol time written.query isReverse written.proto = some ltr.protocol := by
  simp only [parseTunnelArg, split, if_neg stdio, if_neg unix] at accepted
  split at accepted
  · cases accepted
  · rename_i fields found
    split at accepted
    · cases accepted
    · rename_i protocol made
      have same := Except.ok.inj accepted
      subst same
      exact ⟨fields, found, by dsimp only, by dsimp only, by dsimp only, made⟩

theorem reverse_accepted (time : TimeLibrary) (arg : String) (written : TunnelArg) (ltr : LocalToRemote)
    (split : splitArg arg = some written) (reverse : written.proto ∈ reverseSchemes)
    (accepted : parseTunnelArg time arg true = .ok ltr) :
    ∃ fields, argFields (splitFields written.info) = some fields ∧
      ltr.localAddr = joinHostPort (trim fields.localBind brackets) fields.localPort ∧
      ltr.remote = trim fields.remoteHost brackets ∧ ltr.port = fields.remotePort ∧
      schemeProtocol time written.query true written.proto = some ltr.protocol := by
  apply fields_accepted time arg written ltr true split _ _ accepted
  · intro same
    simp [same, reverseSchemes] at reverse
  · intro same
    simp [same, reverseSchemes] at reverse

theorem bind_coincides (info : List Char) (fields : ArgFields) (found : argFields (splitFields info) = some fields) :
    joinHostPort (trim fields.remoteHost brackets) (formatPort fields.remotePort) =
        joinHostPort (trim fields.localBind brackets) fields.localPort ↔
      trim fields.localBind brackets = trim fields.remoteHost brackets ∧ fields.localPort = formatPort fields.remotePort := by
  constructor
  · intro same
    refine join_host_port_injective _ _ _ _ (trim_head _ _ '[' (by decide)) (trim_head _ _ '[' (by decide)) ?_ ?_ same.symm
    · exact split_fields_open info _ (arg_port_field _ fields found)
    · intro colon
      exact absurd (format_port_digits fields.remotePort ':' colon) (by decide)
  · intro parts
    obtain ⟨hosts, ports⟩ := parts
    rw [hosts, ports]

theorem static_dial (time : TimeLibrary) (written : TunnelArg) (ltr : LocalToRemote) (frame : Option (String × UInt16))
    (reverse : written.proto ∈ reverseSchemes) (static : written.proto ∈ staticSchemes)
    (made : schemeProtocol time written.query true written.proto = some ltr.protocol) :
    startReverseTunnel ltr frame serverCookie = some ⟨.tcp, joinHostPort ltr.remote (formatPort ltr.port)⟩ := by
  obtain ⟨unix, reverseUnix, proxies⟩ := reverse_protocol time written.query written.proto ltr.protocol reverse made
  obtain ⟨socks5, http⟩ := proxies static
  simp [startReverseTunnel, serverCookie, socks5, http, unix, reverseUnix]

theorem reverse_argument_same (time : TimeLibrary) (arg : String) (written : TunnelArg) (ltr : LocalToRemote)
    (requestID : String) (frame : Option (String × UInt16)) (split : splitArg arg = some written)
    (reverse : written.proto ∈ reverseSchemes) (accepted : parseTunnelArg time arg true = .ok ltr) :
    SameAtBothEnds requestID frame written ltr ↔ PartsCoincide written ∧ DialsOwnNetwork written := by
  obtain ⟨fields, found, bound, host, port, made⟩ := reverse_accepted time arg written ltr split reverse accepted
  have binds : (bindTarget (generateJWT requestID ltr.protocol ltr.remote ltr.port)).addr = ltr.localAddr ↔
      PartsCoincide written := by
    have plain := (reverse_protocol time written.query written.proto ltr.protocol reverse made).2.1
    simp only [bindTarget, generateJWT, plain, bound, host, port, bind_coincides written.info fields found, PartsCoincide,
      found, Option.some.injEq, exists_eq_left']
  unfold SameAtBothEnds
  rw [binds]
  apply and_congr_right
  intro _
  by_cases static : written.proto ∈ staticSchemes
  · rw [static_dial time written ltr frame reverse static made]
    simp only [static, forall_const, Option.some.injEq, exists_eq_left']
    by_cases udp : written.proto = "udp"
    · simp [schemeNetwork, DialsOwnNetwork, udp]
    · have tcp : written.proto = "tcp" := by simpa [staticSchemes, udp] using static
      simp only [schemeNetwork, DialsOwnNetwork, ne_eq, udp, if_false, not_false_eq_true, true_and]
      simp only [tcp, forall_const]
      refine forall₃_congr fun target text shown => ?_
      obtain ⟨sameHost, samePort⟩ := arg_target _ fields target text found shown
      constructor
      · intro dials
        obtain ⟨number, parsed, _⟩ := dials
        rw [parsed]
      · intro decimal
        have parsed : parseUint text 16 = ((parseUint text 16).1, none) := Prod.ext rfl decimal
        refine ⟨_, parsed, ?_⟩
        rw [host, port, sameHost, samePort, port_value_decimal text _ parsed]
  · have other : written.proto ≠ "udp" ∧ written.proto ≠ "tcp" := by
      constructor <;> intro same <;> simp [staticSchemes, same] at static
    simp [static, DialsOwnNetwork, other]

def noTime : TimeLibrary := ⟨fun _ => none, fun _ => 0⟩

def exposeWeb : String := "tcp://8080:127.0.0.1:80"

def exposeWebArg : TunnelArg := ⟨"tcp", "8080:127.0.0.1:80".toList, none⟩

def exposeWebTunnel : LocalToRemote := ⟨{ reverseTcp := some () }, "127.0.0.1:8080", "127.0.0.1", 80⟩

theorem reverse_argument_binds_target :
    splitArg exposeWeb = some exposeWebArg ∧ parseTunnelArg noTime exposeWeb true = .ok exposeWebTunnel ∧
      (bindTarget (generateJWT "" exposeWebTunnel.protocol exposeWebTunnel.remote exposeWebTunnel.port)).addr =
        "127.0.0.1:80" ∧
      ¬ SameAtBothEnds "" none exposeWebArg exposeWebTunnel := by
  refine ⟨by decide, by decide, by decide, ?_⟩
  intro same
  exact absurd same.1 (by decide)

theorem reverse_argument_same_ports :
    SameAtBothEnds "" none ⟨"tcp", "9000:127.0.0.1:9000".toList, none⟩
      ⟨{ reverseTcp := some () }, "127.0.0.1:9000", "127.0.0.1", 9000⟩ := by
  refine (reverse_argument_same noTime "tcp://9000:127.0.0.1:9000" _ _ "" none (by decide) (by decide) (by decide)).mpr ?_
  refine ⟨⟨⟨"127.0.0.1", "9000", "127.0.0.1", 9000⟩, by decide, by decide, by decide⟩, by decide, ?_⟩
  intro _ host port written
  have parts : (host, port) = ("127.0.0.1", "9000") := Option.some.inj (written.symm.trans (by decide))
  cases parts
  decide

end WarpStream
