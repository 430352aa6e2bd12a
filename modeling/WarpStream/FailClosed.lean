import WarpStream.Confinement

set_option autoImplicit false

namespace WarpStream

open GoText

def HasLists (config : Config) : Prop := config.restrictTo ≠ [] ∨ config.restrictHttpUpgradePathPrefix ≠ []

section

variable {Regexp : Type} (engine : RegexpEngine Regexp) (library : JwtLibrary) (source : RulesSource Regexp)

inductive ActualRule (config : Config) : RestrictionConfig Regexp → Prop where
  | loaded (rules : RestrictionsRules Regexp) (rule : RestrictionConfig Regexp) (file : config.restrictConfig ≠ "")
      (read : loadRestrictions source config.restrictConfig = .ok rules) (member : rule ∈ rules.restrictions) :
      ActualRule config rule
  | built (lists : HasLists config) (absent : loadedRules source config = none) :
      ActualRule config (defaultRestrictions engine config)

def RuleAdmits (config : Config) (request : Request) (claims : JwtTunnelConfig) : Prop :=
  ∃ rule, ActualRule engine source config rule ∧
    rule.matches engine request.path request.authorization (commonName request) = true ∧ rule.allows engine claims = true

def EmptyPolicy (config : Config) : Prop :=
  config.restrictConfig ≠ "" ∧ loadRestrictions source config.restrictConfig = .ok ⟨[]⟩

-- NewServer keeps the sources that were set: after a load error the lists stand
-- in, and no list is passed over for a file without rules.
def SourceKept (config : Config) : Prop :=
  config.restrictConfig ≠ "" →
    match loadRestrictions source config.restrictConfig with
    | .error _ => HasLists config
    | .ok rules => rules.restrictions = [] → ¬ HasLists config

theorem loaded_rules_iff (config : Config) (rules : RestrictionsRules Regexp) :
    loadedRules source config = some rules ↔
      config.restrictConfig ≠ "" ∧ loadRestrictions source config.restrictConfig = .ok rules := by
  unfold loadedRules
  by_cases file : config.restrictConfig ≠ ""
  · rw [if_pos file]
    cases loadRestrictions source config.restrictConfig <;> simp [file, Except.toOption]
  · simp [file]

theorem new_rules_actual (config : Config) (rules : RestrictionsRules Regexp) (rule : RestrictionConfig Regexp)
    (made : newRules engine source config = some rules) (member : rule ∈ rules.restrictions) :
    ActualRule engine source config rule := by
  unfold newRules at made
  cases outcome : loadedRules source config with
  | some loaded =>
      simp only [outcome, Option.some.injEq] at made
      obtain ⟨file, read⟩ := (loaded_rules_iff source config loaded).mp outcome
      exact .loaded rules rule file (made ▸ read) member
  | none =>
      simp only [outcome] at made
      split at made
      · rename_i lists
        cases made
        rw [List.mem_singleton.mp member]
        exact .built lists outcome
      · cases made

theorem new_rules_nil (config : Config) (unset : newRules engine source config = none) :
    loadedRules source config = none ∧ ¬ HasLists config := by
  unfold newRules at unset
  cases outcome : loadedRules source config with
  | some loaded => simp [outcome] at unset
  | none =>
      simp only [outcome, ite_eq_right_iff, reduceCtorEq, imp_false] at unset
      exact ⟨rfl, unset⟩

theorem new_rules_empty (config : Config) (rules : RestrictionsRules Regexp)
    (made : newRules engine source config = some rules) (empty : rules.restrictions = []) : EmptyPolicy source config := by
  unfold newRules at made
  cases outcome : loadedRules source config with
  | some loaded =>
      simp only [outcome, Option.some.injEq] at made
      obtain ⟨file, read⟩ := (loaded_rules_iff source config loaded).mp outcome
      have bare : loaded = ⟨[]⟩ := by
        cases rules
        cases empty
        exact made
      exact ⟨file, bare ▸ read⟩
  | none =>
      simp only [outcome] at made
      split at made
      · cases made
        cases empty
      · cases made

theorem served_validated (server : Server Regexp) (request : Request) (upgrades : Bool) (transport : Transport)
    (claims : JwtTunnelConfig) (served : serveHTTP engine library server request upgrades = .tunnel transport claims) :
    validate engine server.rules claims request.path request.authorization (commonName request) = true := by
  unfold serveHTTP at served
  split at served
  · cases served
  · split at served
    · cases served
    · split at served
      · cases served
      · rename_i decoded _
        split at served
        · cases served
        · rename_i passed
          have same : decoded = claims := by
            split at served
            · cases served
              rfl
            · split at served <;> cases served
              rfl
          rw [same] at passed
          cases present : server.rules with
          | none => rfl
          | some rules => simpa [present] using passed

theorem restrictions_fail_closed (config : Config) (request : Request) (upgrades : Bool) (transport : Transport)
    (claims : JwtTunnelConfig) (sourced : config.restrictConfig ≠ "" ∨ HasLists config) (kept : SourceKept source config)
    (served : serveHTTP engine library (newServer engine source config) request upgrades = .tunnel transport claims) :
    RuleAdmits engine source config request claims ∨ (EmptyPolicy source config ∧ ¬ HasLists config) := by
  have admitted := served_validated engine library _ request upgrades transport claims served
  cases made : newRules engine source config with
  | none =>
      obtain ⟨unloaded, lists⟩ := new_rules_nil engine source config made
      have file := sourced.resolve_right lists
      have present := kept file
      split at present
      · exact absurd present lists
      · rename_i rules read
        rw [(loaded_rules_iff source config rules).mpr ⟨file, read⟩] at unloaded
        cases unloaded
  | some rules =>
      rw [show (newServer engine source config).rules = some rules from made] at admitted
      by_cases empty : rules.restrictions = []
      · obtain ⟨file, read⟩ := new_rules_empty engine source config rules made empty
        have present := kept file
        rw [read] at present
        exact .inr ⟨⟨file, read⟩, present rfl⟩
      · obtain ⟨rule, member, matched, allowed⟩ :=
          validate_admits engine rules claims request.path request.authorization (commonName request) empty admitted
        exact .inl ⟨rule, new_rules_actual engine source config rules rule made member, matched, allowed⟩

end

def trustingLibrary (claims : JwtTunnelConfig) : JwtLibrary where
  parseUnverified _ := .ok (some "HS256", claims)
  parseWithClaims _ _ := .ok (true, claims)

def anyClaims : JwtTunnelConfig := ⟨"any", { reverseTcp := some () }, "0.0.0.0", 22⟩

def emptyFile : RulesSource String := ⟨fun _ => some [], fun _ => some ⟨[]⟩⟩

def withFile : Config := { restrictConfig := "/etc/warpstream/rules.yaml" }

def streamRequest : Request := { path := "/v1/events", cookie := "token", protoMajor := 2 }

theorem empty_file_admits :
    serveHTTP literalEngine (trustingLibrary anyClaims) (newServer literalEngine emptyFile withFile) streamRequest true =
        .tunnel .http2 anyClaims ∧
      ¬ RuleAdmits literalEngine emptyFile withFile streamRequest anyClaims := by
  refine ⟨by decide, ?_⟩
  intro admits
  obtain ⟨rule, actual, _, _⟩ := admits
  cases actual with
  | loaded rules rule file read member =>
      cases read
      cases member
  | built lists _ => exact lists.elim (fun set => set rfl) (fun set => set rfl)

theorem restrictions_fail_closed_built :
    RuleAdmits literalEngine noFiles { webOnly with restrictConfig := "missing.yaml" } streamRequest webClaims ∨
      (EmptyPolicy noFiles { webOnly with restrictConfig := "missing.yaml" } ∧
        ¬ HasLists { webOnly with restrictConfig := "missing.yaml" }) := by
  apply restrictions_fail_closed literalEngine (trustingLibrary webClaims) noFiles _ streamRequest true .http2 webClaims
  · exact .inl (by decide)
  · exact fun _ => .inl (by decide)
  · decide

end WarpStream
