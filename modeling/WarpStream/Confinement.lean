import WarpStream.Server

set_option autoImplicit false

namespace WarpStream

open GoText

def RestrictToTarget (entry host : String) (port : Nat) : Prop :=
  ∃ portStr, splitHostPort entry = .ok (host, portStr) ∧ parseUint portStr 16 = (port, none)

def Confined (restrictTo : List String) : Option Endpoint → Prop
  | none => True
  | some (.listening _ _) => False
  | some (.dialled network addr) =>
      network ≠ .unix ∧
        ∃ entry ∈ restrictTo, ∃ host port, RestrictToTarget entry host port ∧ addr = joinHostPort host (toString port)

section

variable {Regexp : Type} (engine : RegexpEngine Regexp) (source : RulesSource Regexp)

theorem validate_admits (rules : RestrictionsRules Regexp) (claims : JwtTunnelConfig) (path auth commonName : String)
    (present : rules.restrictions ≠ []) (admitted : validate engine (some rules) claims path auth commonName = true) :
    ∃ config ∈ rules.restrictions,
      config.matches engine path auth commonName = true ∧ config.allows engine claims = true := by
  simp only [validate, Bool.or_eq_true, List.isEmpty_iff, List.any_eq_true, Bool.and_eq_true] at admitted
  rcases admitted with empty | found
  · exact absurd empty present
  · exact found

theorem new_rules_from_lists (config : Config) (noFile : config.restrictConfig = "")
    (listed : config.restrictTo ≠ [] ∨ config.restrictHttpUpgradePathPrefix ≠ []) :
    newRules engine source config = some ⟨[defaultRestrictions engine config]⟩ := by
  have loaded : loadedRules source config = none := if_neg (not_not.mpr noFile)
  simp only [newRules, loaded]
  exact if_pos listed

-- The entries built from RestrictTo have a Tunnel half only, so reverse claims
-- are refused, and its host and port are those of the list entry.
theorem restrict_to_authorises (config : Config) (listed : config.restrictTo ≠ []) (claims : JwtTunnelConfig)
    (allowed : (defaultRestrictions engine config).allows engine claims = true) :
    isReverse claims.protocol = false ∧
      ∃ entry ∈ config.restrictTo, ∃ host portStr, splitHostPort entry = .ok (host, portStr) ∧
        engine.matchString (anchoredLiteral engine host) claims.remote = true ∧
        claims.port = UInt16.ofNat (parseUint portStr 16).1 := by
  simp only [RestrictionConfig.allows, defaultRestrictions, if_pos listed, List.any_eq_true, List.mem_filterMap] at allowed
  obtain ⟨allow, ⟨entry, member, built⟩, authorised⟩ := allowed
  unfold restrictToEntry at built
  split at built
  · cases built
  · rename_i host portStr parsed
    cases built
    unfold AllowConfig.authorises at authorised
    by_cases reverse : isReverse claims.protocol
    · rw [if_pos reverse] at authorised
      cases authorised
    · rw [if_neg reverse] at authorised
      simp only [Option.any_some, AllowTunnelConfig.allows, Bool.and_eq_true] at authorised
      obtain ⟨⟨⟨_, port⟩, host⟩, _⟩ := authorised
      refine ⟨Bool.eq_false_iff.mpr reverse, entry, member, _, portStr, parsed, ?_, ?_⟩
      · simpa [optionMatches] using host
      · simp only [portAllowed, List.isEmpty_cons, Bool.false_or, List.any_cons, List.any_nil, Bool.or_false,
          decide_eq_true_eq] at port
        exact UInt16.le_antisymm port.2 port.1

theorem restrict_to_confines (config : Config) (manager : Manager) (transport : Transport) (claims : JwtTunnelConfig)
    (listens : Bool) (now : Nat) (path auth commonName : String) (exact : ExactLiterals engine)
    (noFile : config.restrictConfig = "") (listed : config.restrictTo ≠ [])
    (wellFormed : ∀ entry ∈ config.restrictTo, ∃ host port, RestrictToTarget entry host port)
    (admitted : validate engine (newServer engine source config).rules claims path auth commonName = true) :
    Confined config.restrictTo (opens manager transport claims listens now) ↔ claims.protocol.unix = none := by
  rw [show (newServer engine source config).rules = _ from new_rules_from_lists engine source config noFile (.inl listed)]
    at admitted
  obtain ⟨rule, member, _, allowed⟩ := validate_admits engine _ claims path auth commonName (by simp) admitted
  rw [List.mem_singleton.mp member] at allowed
  obtain ⟨reverse, entry, inList, host, portStr, parsed, matched, samePort⟩ :=
    restrict_to_authorises engine config listed claims allowed
  have sameHost := (exact host claims.remote).mp matched
  by_cases forward : isForward claims.protocol = true
  · rw [opens_forward manager transport claims listens now forward]
    cases claims.protocol.unix with
    | some unix => simp [Confined, preferredNetwork]
    | none =>
        refine iff_of_true ⟨?_, entry, inList, host, (parseUint portStr 16).1, ?_, ?_⟩ rfl
        · simp only [preferredNetwork, Option.isSome_none, Bool.false_eq_true, if_false]
          split <;> decide
        · obtain ⟨other, port, text, split, number⟩ := wellFormed entry inList
          rw [parsed] at split
          cases split
          exact ⟨portStr, parsed, by rw [number]⟩
        · have bound := parse_uint_bound portStr 16
          have value : claims.port.toNat = (parseUint portStr 16).1 := by
            rw [samePort, UInt16.toNat_ofNat']
            omega
          simp only [sameHost, formatPort, value]
  · have none := Bool.eq_false_iff.mpr forward
    rw [opens_unsupported manager transport claims listens now none reverse]
    simp only [isForward, Bool.or_eq_false_iff, Option.isSome_eq_false_iff, Option.isNone_iff_eq_none] at none
    simp [Confined, none]

end

def noFiles : RulesSource String := ⟨fun _ => none, fun _ => none⟩

def webOnly : Config := { restrictTo := ["10.0.0.5:80"] }

def socketClaims : JwtTunnelConfig := ⟨"socket", { unix := some ⟨"/run/docker.sock", false⟩ }, "10.0.0.5", 80⟩

theorem restrict_to_dials_socket :
    validate literalEngine (newServer literalEngine noFiles webOnly).rules socketClaims "/" "" "" = true ∧
      opens (newManager 0) .wst socketClaims true 0 = some (.dialled .unix "/run/docker.sock") ∧
      ¬ Confined webOnly.restrictTo (opens (newManager 0) .wst socketClaims true 0) := by
  refine ⟨by decide, by decide, ?_⟩
  intro confined
  exact confined.1 rfl

def webClaims : JwtTunnelConfig := ⟨"web", { tcp := some ⟨false⟩ }, "10.0.0.5", 80⟩

theorem restrict_to_confines_web : Confined webOnly.restrictTo (opens (newManager 0) .gorilla webClaims true 0) := by
  refine (restrict_to_confines literalEngine noFiles webOnly (newManager 0) .gorilla webClaims true 0 "/" "" ""
    literal_engine_exact rfl (by decide) ?_ (by decide)).mpr rfl
  intro entry member
  rw [List.mem_singleton.mp member]
  exact ⟨"10.0.0.5", 80, "80", by decide, by decide⟩

end WarpStream
