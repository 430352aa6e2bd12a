import WarpStream.Restrictions

set_option autoImplicit false

namespace WarpStream

open GoText

def portBound (text : List Char) : UInt16 := UInt16.ofNat (parseUint (String.ofList text) 16).1

-- The argument is what decoding the node into a string gave. Only the first two
-- parts of the split are read, and the errors of the number parser are dropped.
def PortRange.unmarshalYAML (decoded : Except String String) : Except String PortRange :=
  match decoded with
  | .error error => .error error
  | .ok text =>
      match cut ['.', '.'] text.toList with
      | some (first, rest) => .ok ⟨portBound first, portBound (((cut ['.', '.'] rest).map Prod.fst).getD rest)⟩
      | none => .ok ⟨portBound text.toList, portBound text.toList⟩

inductive PortRule : List Char → Nat → Nat → Prop where
  | single (text : List Char) (port : Nat) (written : IsPort text port) : PortRule text port port
  | range (first second : List Char) (low high : Nat) (lower : IsPort first low) (upper : IsPort second high) :
      PortRule (first ++ ['.', '.'] ++ second) low high

theorem port_plain (text : List Char) (port : Nat) (written : IsPort text port) : '.' ∉ text :=
  decimal_plain text port written.1 '.' (by decide)

theorem rule_cut (text : List Char) (low high : Nat) (rule : PortRule text low high) :
    (cut ['.', '.'] text = none ∧ IsPort text low ∧ low = high) ∨
      ∃ first second, cut ['.', '.'] text = some (first, second) ∧ cut ['.', '.'] second = none ∧
        IsPort first low ∧ IsPort second high := by
  cases rule with
  | single _ _ written =>
      exact .inl ⟨cut_absent '.' ['.'] text (port_plain text low written), written, rfl⟩
  | range first second _ _ lower upper =>
      have separated := cut_found '.' ['.'] first second (port_plain first low lower)
      have last := cut_absent '.' ['.'] second (port_plain second high upper)
      rw [← List.append_assoc] at separated
      exact .inr ⟨first, second, separated, last, lower, upper⟩

theorem rule_decoded (text : String) (low high : Nat) (rule : PortRule text.toList low high) :
    ∃ range, PortRange.unmarshalYAML (.ok text) = .ok range ∧ range.min.toNat = low ∧ range.max.toNat = high := by
  rcases rule_cut text.toList low high rule with ⟨whole, written, same⟩ | ⟨first, second, separated, last, lower, upper⟩
  · have value := port_number text.toList low written
    refine ⟨⟨portBound text.toList, portBound text.toList⟩, ?_, value, same ▸ value⟩
    simp only [PortRange.unmarshalYAML, whole]
  · refine ⟨⟨portBound first, portBound second⟩, ?_, port_number first low lower, port_number second high upper⟩
    simp only [PortRange.unmarshalYAML, separated, last, Option.map_none, Option.getD_none]

theorem port_allowed_single (range : PortRange) (port : UInt16) :
    portAllowed [range] port = true ↔ range.min.toNat ≤ port.toNat ∧ port.toNat ≤ range.max.toNat := by
  simp [portAllowed, UInt16.le_iff_toNat_le]

section

variable {Regexp : Type} (engine : RegexpEngine Regexp)

theorem tunnel_port_rule (range : PortRange) (claims : JwtTunnelConfig) :
    AllowTunnelConfig.allows engine { port := [range] } claims = portAllowed [range] claims.port := by
  simp [AllowTunnelConfig.allows, protocolAllowed]

theorem reverse_port_rule (range : PortRange) (claims : JwtTunnelConfig) (network : claims.protocol.reverseUnix = none) :
    AllowReverseTunnelConfig.allows engine { port := [range] } claims = portAllowed [range] claims.port := by
  simp [AllowReverseTunnelConfig.allows, protocolAllowed, network]

theorem port_rule_means_itself (text : String) :
    (∀ range, PortRange.unmarshalYAML (.ok text) = .ok range →
      ∃ low high, PortRule text.toList low high ∧ ∀ claims : JwtTunnelConfig,
        (AllowTunnelConfig.allows engine { port := [range] } claims = true ↔
          low ≤ claims.port.toNat ∧ claims.port.toNat ≤ high) ∧
        (claims.protocol.reverseUnix = none →
          (AllowReverseTunnelConfig.allows engine { port := [range] } claims = true ↔
            low ≤ claims.port.toNat ∧ claims.port.toNat ≤ high))) ↔
      ∃ low high, PortRule text.toList low high := by
  constructor
  · intro exact
    have accepted : ∃ range, PortRange.unmarshalYAML (.ok text) = .ok range := by
      simp only [PortRange.unmarshalYAML]
      split <;> exact ⟨_, rfl⟩
    obtain ⟨range, decoded⟩ := accepted
    obtain ⟨low, high, rule, _⟩ := exact range decoded
    exact ⟨low, high, rule⟩
  · intro written range decoded
    obtain ⟨low, high, rule⟩ := written
    obtain ⟨found, read, lower, upper⟩ := rule_decoded text low high rule
    cases read.symm.trans decoded
    refine ⟨low, high, rule, ?_⟩
    intro claims
    rw [tunnel_port_rule, port_allowed_single, lower, upper]
    refine ⟨Iff.rfl, ?_⟩
    intro network
    rw [reverse_port_rule engine range claims network, port_allowed_single, lower, upper]

end

-- One digit too many in the upper bound opens every port above the lower one.
theorem overlong_bound_widens :
    PortRange.unmarshalYAML (.ok "8000..80800") = .ok ⟨8000, 65535⟩ ∧
      PortRange.unmarshalYAML (.ok "https") = .ok ⟨0, 0⟩ ∧
      portAllowed [⟨8000, 65535⟩] 22000 = true ∧
      ¬ ∃ low high, PortRule "8000..80800".toList low high := by
  refine ⟨rfl, rfl, by decide, ?_⟩
  rintro ⟨low, high, rule⟩
  rcases rule_cut _ low high rule with ⟨whole, _⟩ | ⟨first, second, separated, _, _, upper⟩
  · exact absurd whole (by decide)
  · cases separated
    exact absurd (upper.1.2.2 ▸ upper.2) (by decide)

end WarpStream
