import WarpStream.Dispatch

set_option autoImplicit false

namespace WarpStream

open GoText

def protocolNetworks : List (String × Network) :=
  [("Tcp", .tcp), ("Udp", .udp), ("Socks5", .tcp), ("Http", .tcp), ("Unix", .unix), ("ReverseTcp", .tcp),
    ("ReverseUdp", .udp), ("ReverseSocks5", .tcp), ("ReverseHttp", .tcp), ("ReverseUnix", .unix)]

def protocolNetwork (name : String) : Option Network :=
  (protocolNetworks.find? fun known => equalFold name known.1).map (·.2)

def ListedNetwork (listed : List String) (network : Network) : Prop :=
  listed = [] ∨ ∃ name ∈ listed, protocolNetwork name = some network

inductive AllowSide where
  | tunnel
  | reverseTunnel
deriving DecidableEq, Repr

def allowSide (claims : JwtTunnelConfig) : AllowSide := if isReverse claims.protocol then .reverseTunnel else .tunnel

section

variable {Regexp : Type} (engine : RegexpEngine Regexp)

def AllowConfig.protocols (entry : AllowConfig Regexp) : AllowSide → List String
  | .tunnel => (entry.tunnel.map (·.protocol)).getD []
  | .reverseTunnel => (entry.reverseTunnel.map (·.protocol)).getD []

def OfKind (entry : AllowConfig Regexp) (claims : JwtTunnelConfig) : Option Endpoint → Prop
  | none => True
  | some (.dialled network _) => allowSide claims = .tunnel ∧ ListedNetwork (entry.protocols .tunnel) network
  | some (.listening network _) =>
      allowSide claims = .reverseTunnel ∧ ListedNetwork (entry.protocols .reverseTunnel) network

-- A unix field beside others, and a udp field beside a tcp one, win in the
-- dispatch but not in getProtoName; their network must then be listed as well.
def PreferredListed (listed : List String) (tcp udp proxy unix : Bool) : Prop :=
  (unix = true → (tcp || udp || proxy) = true → ListedNetwork listed .unix) ∧
    (unix = false → tcp = true → udp = true → ListedNetwork listed .udp)

def forwardListed (listed : List String) (protocol : LocalProtocol) : Prop :=
  PreferredListed listed protocol.tcp.isSome protocol.udp.isSome (protocol.socks5.isSome || protocol.httpProxy.isSome)
    protocol.unix.isSome

def reverseListed (listed : List String) (protocol : LocalProtocol) : Prop :=
  PreferredListed listed protocol.reverseTcp.isSome protocol.reverseUdp.isSome
    (protocol.reverseSocks5.isSome || protocol.reverseHttpProxy.isSome) protocol.reverseUnix.isSome

def Unambiguous (manager : Manager) (entry : AllowConfig Regexp) (claims : JwtTunnelConfig) (listens : Bool) : Prop :=
  match allowSide claims with
  | .tunnel => forwardListed (entry.protocols .tunnel) claims.protocol
  | .reverseTunnel =>
      isForward claims.protocol = false ∧
        match manager.listeners (bindTarget claims).addr with
        | some listener => ListedNetwork (entry.protocols .reverseTunnel) (manager.store listener).network
        | none => listens = true → reverseListed (entry.protocols .reverseTunnel) claims.protocol

theorem equal_fold_network (name known : String) (same : equalFold name known = true) :
    protocolNetwork name = protocolNetwork known := by
  have folded : name.toList.map foldRune = known.toList.map foldRune := of_decide_eq_true same
  simp only [protocolNetwork, equalFold, folded]

theorem allowed_listed (listed : List String) (protocol : LocalProtocol) (network : Network)
    (allowed : protocolAllowed listed protocol = true) (named : protocolNetwork (getProtoName protocol) = some network) :
    ListedNetwork listed network := by
  rcases Bool.or_eq_true .. ▸ allowed with empty | listing
  · exact .inl (List.isEmpty_iff.mp empty)
  · obtain ⟨name, member, same⟩ := List.any_eq_true.mp listing
    exact .inr ⟨name, member, (equal_fold_network name (getProtoName protocol) same).trans named⟩

theorem forward_named (protocol : LocalProtocol) (forward : isForward protocol = true) :
    protocolNetwork (getProtoName protocol) =
      some (namedNetwork protocol.tcp.isSome protocol.udp.isSome (protocol.socks5.isSome || protocol.httpProxy.isSome)) := by
  revert forward
  unfold isForward getProtoName namedNetwork
  cases protocol.tcp.isSome <;> cases protocol.udp.isSome <;> cases protocol.socks5.isSome <;>
    cases protocol.httpProxy.isSome <;> cases protocol.unix.isSome <;>
    simp only [Bool.or_false, Bool.or_true, Bool.false_eq_true, if_false, if_true, IsEmpty.forall_iff, forall_const] <;> decide

theorem reverse_named (protocol : LocalProtocol) (forward : isForward protocol = false) (reverse : isReverse protocol = true) :
    protocolNetwork (getProtoName protocol) =
      some (namedNetwork protocol.reverseTcp.isSome protocol.reverseUdp.isSome
        (protocol.reverseSocks5.isSome || protocol.reverseHttpProxy.isSome)) := by
  simp only [isForward, Bool.or_eq_false_iff] at forward
  obtain ⟨⟨⟨⟨tcp, udp⟩, socks5⟩, http⟩, unix⟩ := forward
  revert reverse
  simp only [isReverse, getProtoName, namedNetwork, tcp, udp, socks5, http, unix]
  cases protocol.reverseTcp.isSome <;> cases protocol.reverseUdp.isSome <;> cases protocol.reverseSocks5.isSome <;>
    cases protocol.reverseHttpProxy.isSome <;> cases protocol.reverseUnix.isSome <;>
    simp only [Bool.or_false, Bool.or_true, Bool.false_eq_true, if_false, if_true, IsEmpty.forall_iff, forall_const] <;> decide

theorem preferred_listed_iff (listed : List String) (tcp udp proxy unix : Bool)
    (some : (tcp || udp || proxy || unix) = true) (named : ListedNetwork listed (namedNetwork tcp udp proxy)) :
    ListedNetwork listed (preferredNetwork udp unix) ↔ PreferredListed listed tcp udp proxy unix := by
  cases tcp <;> cases udp <;> cases proxy <;> cases unix <;>
    simp_all [PreferredListed, preferredNetwork, namedNetwork]

def AuthorisesThrough (rules : RestrictionsRules Regexp) (config : RestrictionConfig Regexp) (entry : AllowConfig Regexp)
    (claims : JwtTunnelConfig) : Prop :=
  config ∈ rules.restrictions ∧ entry ∈ config.allow ∧ entry.authorises engine claims = true

theorem authorised_protocol (entry : AllowConfig Regexp) (claims : JwtTunnelConfig)
    (authorised : entry.authorises engine claims = true) :
    protocolAllowed (entry.protocols (allowSide claims)) claims.protocol = true := by
  unfold AllowConfig.authorises at authorised
  unfold allowSide
  by_cases reverse : isReverse claims.protocol
  · rw [if_pos reverse] at authorised ⊢
    cases present : entry.reverseTunnel with
    | none => simp [present] at authorised
    | some config =>
        simp only [present, Option.any_some, AllowReverseTunnelConfig.allows, Bool.and_eq_true] at authorised
        simpa only [AllowConfig.protocols, present, Option.map_some, Option.getD_some] using authorised.1
  · rw [if_neg reverse] at authorised ⊢
    cases present : entry.tunnel with
    | none => simp [present] at authorised
    | some config =>
        simp only [present, Option.any_some, AllowTunnelConfig.allows, Bool.and_eq_true] at authorised
        simpa only [AllowConfig.protocols, present, Option.map_some, Option.getD_some] using authorised.1.1.1

theorem forward_kind_agrees (manager : Manager) (transport : Transport) (entry : AllowConfig Regexp) (claims : JwtTunnelConfig)
    (listens : Bool) (now : Nat) (side : allowSide claims = .tunnel)
    (allowed : protocolAllowed (entry.protocols .tunnel) claims.protocol = true) :
    OfKind entry claims (opens manager transport claims listens now) ↔
      forwardListed (entry.protocols .tunnel) claims.protocol := by
  by_cases forward : isForward claims.protocol = true
  · have named := allowed_listed _ _ _ allowed (forward_named claims.protocol forward)
    rw [opens_forward manager transport claims listens now forward]
    simp only [OfKind, side, true_and]
    apply preferred_listed_iff _ _ _ _ _ _ named
    simpa only [isForward, Bool.or_assoc] using forward
  · -- Without a forward field no endpoint is opened and no field is preferred.
    have reverse : isReverse claims.protocol = false := by simpa [allowSide] using side
    have none := Bool.eq_false_iff.mpr forward
    rw [opens_unsupported manager transport claims listens now none reverse]
    simp only [isForward, Bool.or_eq_false_iff] at none
    simp [OfKind, forwardListed, PreferredListed, none]

theorem reverse_kind_agrees (manager : Manager) (transport : Transport) (entry : AllowConfig Regexp) (claims : JwtTunnelConfig)
    (listens : Bool) (now : Nat) (side : allowSide claims = .reverseTunnel) (forward : isForward claims.protocol = false)
    (allowed : protocolAllowed (entry.protocols .reverseTunnel) claims.protocol = true) :
    OfKind entry claims (opens manager transport claims listens now) ↔
      match manager.listeners (bindTarget claims).addr with
      | some listener => ListedNetwork (entry.protocols .reverseTunnel) (manager.store listener).network
      | none => listens = true → reverseListed (entry.protocols .reverseTunnel) claims.protocol := by
  have reverse : isReverse claims.protocol = true := by simpa [allowSide] using side
  rw [opens_reverse manager transport claims listens now forward reverse]
  cases manager.listeners (bindTarget claims).addr with
  | some listener => simp only [OfKind, side, true_and]
  | none =>
      cases listens with
      | false => simp [OfKind]
      | true =>
          have named := allowed_listed _ _ _ allowed (reverse_named claims.protocol forward reverse)
          simp only [OfKind, side, true_and, if_true, forall_const]
          apply preferred_listed_iff _ _ _ _ _ _ named
          simpa only [isReverse, Bool.or_assoc] using reverse

theorem tunnel_kind_agrees (rules : RestrictionsRules Regexp) (config : RestrictionConfig Regexp) (entry : AllowConfig Regexp)
    (manager : Manager) (transport : Transport) (claims : JwtTunnelConfig) (listens : Bool) (now : Nat)
    (authorised : AuthorisesThrough engine rules config entry claims) :
    OfKind entry claims (opens manager transport claims listens now) ↔ Unambiguous manager entry claims listens := by
  have allowed := authorised_protocol engine entry claims authorised.2.2
  unfold Unambiguous
  cases side : allowSide claims with
  | tunnel =>
      rw [side] at allowed
      exact forward_kind_agrees manager transport entry claims listens now side allowed
  | reverseTunnel =>
      rw [side] at allowed
      by_cases forward : isForward claims.protocol = false
      · simp only [forward, true_and]
        exact reverse_kind_agrees manager transport entry claims listens now side forward allowed
      · -- The forward test comes first in the handlers: a dial under a reverse entry.
        rw [opens_forward manager transport claims listens now (Bool.of_not_eq_false forward)]
        simp [OfKind, side, forward]

end

def reverseOnly : AllowConfig String := { reverseTunnel := some {} }

def reverseOnlyRules : RestrictionsRules String := ⟨[⟨"reverse only", [{ any := true }], [reverseOnly]⟩]⟩

def dialUnderReverse : JwtTunnelConfig :=
  ⟨"mixed", { tcp := some ⟨false⟩, reverseTcp := some () }, "10.0.0.5", 22⟩

theorem reverse_entry_dials :
    AuthorisesThrough literalEngine reverseOnlyRules ⟨"reverse only", [{ any := true }], [reverseOnly]⟩ reverseOnly
        dialUnderReverse ∧
      opens (newManager 0) .wst dialUnderReverse true 0 = some (.dialled .tcp "10.0.0.5:22") ∧
      ¬ OfKind reverseOnly dialUnderReverse (opens (newManager 0) .wst dialUnderReverse true 0) := by
  refine ⟨⟨List.mem_singleton.mpr rfl, List.mem_singleton.mpr rfl, by decide⟩, by decide, ?_⟩
  intro kind
  cases kind.1

def reverseClaims : JwtTunnelConfig := ⟨"reverse", { reverseTcp := some () }, "0.0.0.0", 8080⟩

theorem tunnel_kind_agrees_reverse :
    OfKind reverseOnly reverseClaims (opens (newManager 0) .http2 reverseClaims true 0) := by
  refine (tunnel_kind_agrees literalEngine reverseOnlyRules ⟨"reverse only", [{ any := true }], [reverseOnly]⟩ reverseOnly
    (newManager 0) .http2 reverseClaims true 0
    ⟨List.mem_singleton.mpr rfl, List.mem_singleton.mpr rfl, by decide⟩).mpr ?_
  exact ⟨by decide, fun _ => ⟨fun none => (by cases none), fun _ _ none => (by cases none)⟩⟩

end WarpStream
