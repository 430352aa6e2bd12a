import WarpStream.Manager
import WarpStream.Restrictions

set_option autoImplicit false

namespace WarpStream

open GoText GoAddr

-- The address of the listener that getOrCreateListener returns.
def listensAt (manager : Manager) (claims : JwtTunnelConfig) (now : Nat) : Option String :=
  let found := getOrCreateListener manager claims true now
  found.2.map fun listener => (found.1.store listener).addr

theorem listens_at_target (manager : Manager) (claims : JwtTunnelConfig) (now : Nat)
    (free : manager.listeners (bindTarget claims).addr = none) : listensAt manager claims now = some (bindTarget claims).addr := by
  simp [listensAt, getOrCreateListener, free, newListener, Manager.setListener]

def IsAddress (ip : IP) : Prop := ip.length = 4 ∨ ip.length = 16

-- What Listen makes of a host beside the address literals: the addresses of the
-- interfaces and those a name resolves to.
structure NetEnv where
  interfaces : List IP
  lookup : String → List IP
  interfacesValid : ∀ ip ∈ interfaces, IsAddress ip
  lookupValid : ∀ name, ∀ ip ∈ lookup name, IsAddress ip

def unspecified (ip : IP) : Bool := ip.all (· == 0) || to4 ip == some [0, 0, 0, 0]

-- The empty host and the unspecified addresses stand for every interface.
def hostAddresses (env : NetEnv) (host : String) : List IP :=
  if host = "" then env.interfaces
  else
    match parseIP host with
    | some ip => if unspecified ip then env.interfaces else [ip]
    | none => env.lookup host

-- Listen takes the host from the joined address again.
def listenHost (claims : JwtTunnelConfig) : Option String :=
  match splitHostPort (bindTarget claims).addr with
  | .ok (host, _) => some host
  | .error _ => none

def listenAddresses (env : NetEnv) (claims : JwtTunnelConfig) : List IP :=
  match listenHost claims with
  | some host => hostAddresses env host
  | none => []

def InNetworks (cidr : List IPNet) (ip : IP) : Prop := ∃ net ∈ cidr, contains net ip = true

section

variable {Regexp : Type} (engine : RegexpEngine Regexp)

theorem reverse_allows_unix (config : AllowReverseTunnelConfig Regexp) (claims : JwtTunnelConfig) (pattern : Regexp)
    (unix : ReverseUnixProtocol) (patterned : config.unixPath = some pattern)
    (only : claims.protocol = { reverseUnix := some unix }) :
    config.allows engine claims = true ↔
      (config.protocol = [] ∨ ∃ name ∈ config.protocol, equalFold name "ReverseUnix" = true) ∧
        engine.matchString pattern unix.path = true := by
  have name : getProtoName claims.protocol = "ReverseUnix" := by
    rw [only]
    rfl
  have field : claims.protocol.reverseUnix = some unix := by rw [only]
  simp [AllowReverseTunnelConfig.allows, protocolAllowed, name, field, patterned, optionMatches]

theorem reverse_allows_address (config : AllowReverseTunnelConfig Regexp) (claims : JwtTunnelConfig) (listed : config.cidr ≠ [])
    (notUnix : claims.protocol.reverseUnix = none) :
    config.allows engine claims = true ↔
      protocolAllowed config.protocol claims.protocol = true ∧ portAllowed config.port claims.port = true ∧
        ∀ ip ∈ parseIP claims.remote, InNetworks config.cidr ip := by
  have some : config.cidr.isEmpty = false := by simpa using listed
  simp only [AllowReverseTunnelConfig.allows, notUnix, some, Bool.false_or, Bool.and_eq_true]
  cases literal : parseIP claims.remote with
  | none => simp
  | some ip => simp [InNetworks]

theorem new_listeners_match (claims : JwtTunnelConfig) (pattern : Regexp) :
    (∀ manager now, manager.listeners (bindTarget claims).addr = none →
        ∀ path ∈ listensAt manager claims now, engine.matchString pattern path = true) ↔
      engine.matchString pattern (bindTarget claims).addr = true := by
  constructor
  · intro confined
    exact confined (newManager 0) 0 rfl _ (listens_at_target (newManager 0) claims 0 rfl)
  · intro matched manager now free path bound
    rw [listens_at_target manager claims now free] at bound
    rwa [← Option.some.inj bound]

theorem reverse_unix_path_confined_iff (config : AllowReverseTunnelConfig Regexp) (claims : JwtTunnelConfig) (pattern : Regexp)
    (unix : ReverseUnixProtocol) (patterned : config.unixPath = some pattern)
    (only : claims.protocol = { reverseUnix := some unix }) :
    (config.allows engine claims = true →
      ∀ manager now, manager.listeners (bindTarget claims).addr = none →
        ∀ path ∈ listensAt manager claims now, engine.matchString pattern path = true) ↔
      claims.remote = "" ∨ engine.matchString pattern claims.remote = true ∨ engine.matchString pattern unix.path = false ∨
        (config.protocol ≠ [] ∧ ∀ name ∈ config.protocol, equalFold name "ReverseUnix" = false) := by
  have target : (bindTarget claims).addr = if claims.remote = "" then unix.path else claims.remote := by
    simp [bindTarget, only]
  rw [new_listeners_match engine claims pattern, reverse_allows_unix engine config claims pattern unix patterned only, target]
  by_cases empty : claims.remote = ""
  · simp only [empty, if_true, true_or, iff_true]
    exact fun allowed => allowed.2
  · simp only [empty, if_false, false_or]
    constructor
    · intro confined
      by_cases own : engine.matchString pattern claims.remote = true
      · exact .inl own
      · by_cases path : engine.matchString pattern unix.path = true
        · refine .inr (.inr ?_)
          have refused : ¬ (config.protocol = [] ∨ ∃ name ∈ config.protocol, equalFold name "ReverseUnix" = true) :=
            fun listed => own (confined ⟨listed, path⟩)
          simpa using refused
        · exact .inr (.inl (Bool.eq_false_iff.mpr path))
    · intro reasons allowed
      obtain ⟨listed, path⟩ := allowed
      rcases reasons with own | other | ⟨some, none⟩
      · exact own
      · exact absurd path (by rw [other]; decide)
      · rcases listed with empty | ⟨name, member, same⟩
        · exact absurd empty some
        · exact absurd same (by rw [none name member]; decide)

-- A host that is no specified literal may stand for any address.
theorem open_host_anywhere (host : String) (ip : IP) (valid : IsAddress ip)
    (loose : host = "" ∨ ∀ literal ∈ parseIP host, unspecified literal = true) : ∃ env, ip ∈ hostAddresses env host := by
  have alone : ∀ other ∈ [ip], IsAddress other := fun other member => List.mem_singleton.mp member ▸ valid
  refine ⟨⟨[ip], fun _ => [ip], alone, fun _ => alone⟩, ?_⟩
  unfold hostAddresses
  split
  · exact .head []
  · rename_i named
    have unspecific := loose.resolve_left named
    cases literal : parseIP host with
    | none => exact .head []
    | some found =>
        simp only [unspecific found literal, if_true]
        exact .head []

theorem host_addresses_valid (env : NetEnv) (host : String) (ip : IP) (member : ip ∈ hostAddresses env host) : IsAddress ip := by
  unfold hostAddresses at member
  split at member
  · exact env.interfacesValid ip member
  · split at member
    · rename_i literal parsed
      split at member
      · exact env.interfacesValid ip member
      · rw [List.mem_singleton.mp member]
        exact .inr (parse_ip_length host literal parsed)
    · exact env.lookupValid host ip member

theorem host_confined_iff (cidr : List IPNet) (host : String) :
    (∀ env, ∀ ip ∈ hostAddresses env host, InNetworks cidr ip) ↔
      (∀ ip, IsAddress ip → InNetworks cidr ip) ∨
        (host ≠ "" ∧ ∃ ip ∈ parseIP host, unspecified ip = false ∧ InNetworks cidr ip) := by
  constructor
  · intro confined
    by_cases loose : host = "" ∨ ∀ literal ∈ parseIP host, unspecified literal = true
    · refine .inl fun ip valid => ?_
      obtain ⟨env, reached⟩ := open_host_anywhere host ip valid loose
      exact confined env ip reached
    · obtain ⟨named, specific⟩ := not_or.mp loose
      obtain ⟨ip, literal, zero⟩ : ∃ ip, ip ∈ parseIP host ∧ ¬ unspecified ip = true := by simpa using specific
      have plain := Bool.eq_false_iff.mpr zero
      refine .inr ⟨named, ip, literal, plain, confined ⟨[], fun _ => [], by simp, by simp⟩ ip ?_⟩
      rw [hostAddresses, if_neg named, show parseIP host = some ip from literal]
      simp [plain]
  · intro covered env ip member
    rcases covered with all | ⟨named, literal, parsed, plain, inside⟩
    · exact all ip (host_addresses_valid env host ip member)
    · rw [hostAddresses, if_neg named, show parseIP host = some literal from parsed] at member
      simp only [plain, Bool.false_eq_true, if_false, List.mem_singleton] at member
      rwa [member]

theorem reverse_bind_confined_iff (config : AllowReverseTunnelConfig Regexp) (claims : JwtTunnelConfig) (listed : config.cidr ≠ [])
    (notUnix : claims.protocol.reverseUnix = none) :
    (config.allows engine claims = true → ∀ env, ∀ ip ∈ listenAddresses env claims, InNetworks config.cidr ip) ↔
      (protocolAllowed config.protocol claims.protocol = false ∨ portAllowed config.port claims.port = false ∨
        ∃ ip ∈ parseIP claims.remote, ¬ InNetworks config.cidr ip) ∨
      (∀ ip, IsAddress ip → InNetworks config.cidr ip) ∨
      (∀ host ∈ listenHost claims, host ≠ "" ∧ ∃ ip ∈ parseIP host, unspecified ip = false ∧ InNetworks config.cidr ip) := by
  have refused : config.allows engine claims ≠ true ↔
      (protocolAllowed config.protocol claims.protocol = false ∨ portAllowed config.port claims.port = false ∨
        ∃ ip ∈ parseIP claims.remote, ¬ InNetworks config.cidr ip) := by
    rw [Ne, reverse_allows_address engine config claims listed notUnix, not_and_or, not_and_or, Bool.not_eq_true, Bool.not_eq_true]
    simp only [not_forall, exists_prop]
  rw [← refused, imp_iff_not_or]
  refine or_congr Iff.rfl ?_
  unfold listenAddresses
  cases bound : listenHost claims with
  | none => simp
  | some host =>
      simpa using host_confined_iff config.cidr host

end

def tmpOnly : AllowReverseTunnelConfig String := { unixPath := some "^/tmp/a$" }

def elsewhere : JwtTunnelConfig := ⟨"unix", { reverseUnix := some ⟨"/tmp/a"⟩ }, "/run/b", 0⟩

-- The path that is checked matches, the one that is bound does not.
theorem reverse_unix_path_escapes :
    tmpOnly.allows literalEngine elsewhere = true ∧ listensAt (newManager 0) elsewhere 0 = some "/run/b" ∧
      literalEngine.matchString "^/tmp/a$" "/run/b" = false := by
  refine ⟨by decide, ?_, by decide⟩
  rw [listens_at_target (newManager 0) elsewhere 0 rfl]
  decide

theorem reverse_unix_path_confined_default :
    literalEngine.matchString "^/tmp/a$" "/tmp/a" = true ∧
      ∀ path ∈ listensAt (newManager 0) { elsewhere with remote := "" } 0, literalEngine.matchString "^/tmp/a$" path = true :=
  ⟨by decide, (reverse_unix_path_confined_iff literalEngine tmpOnly { elsewhere with remote := "" } "^/tmp/a$" ⟨"/tmp/a"⟩ rfl
    rfl).mpr (.inl rfl) (by decide) (newManager 0) 0 rfl⟩

def tenOnly : AllowReverseTunnelConfig String := { cidr := [⟨[10, 0, 0, 0], [255, 0, 0, 0]⟩] }

def oneInterface : NetEnv := ⟨[[192, 168, 0, 1]], fun _ => [], by simp [IsAddress], by simp⟩

def everywhere : JwtTunnelConfig := ⟨"tcp", { reverseTcp := some () }, "", 22⟩

theorem reverse_bind_escapes :
    tenOnly.allows literalEngine everywhere = true ∧ [192, 168, 0, 1] ∈ listenAddresses oneInterface everywhere ∧
      ¬ InNetworks tenOnly.cidr [192, 168, 0, 1] := by
  refine ⟨by decide, by decide, ?_⟩
  simp only [InNetworks, tenOnly, List.mem_singleton, exists_eq_left]
  decide

theorem reverse_bind_literal_confined :
    listenAddresses oneInterface { everywhere with remote := "10.1.2.3" } = [mappedPrefix ++ [10, 1, 2, 3]] ∧
      ∀ ip ∈ listenAddresses oneInterface { everywhere with remote := "10.1.2.3" }, InNetworks tenOnly.cidr ip := by
  refine ⟨by decide, (reverse_bind_confined_iff literalEngine tenOnly { everywhere with remote := "10.1.2.3" } (by decide)
    rfl).mpr (.inr (.inr ?_)) (by decide) oneInterface⟩
  intro host bound
  have named : host = "10.1.2.3" := by
    have found : listenHost { everywhere with remote := "10.1.2.3" } = some "10.1.2.3" := by decide
    exact (Option.some.inj (found.symm.trans bound)).symm
  subst named
  refine ⟨by decide, mappedPrefix ++ [10, 1, 2, 3], by decide, by decide, ?_⟩
  simp only [InNetworks, tenOnly, List.mem_singleton, exists_eq_left]
  decide

end WarpStream
