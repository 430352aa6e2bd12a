import WarpStream.ClaimsJson
import WarpStream.HttpHead
import WarpStream.Server

set_option autoImplicit false

namespace WarpStream

open GoText HttpHead JsonCodec

-- What ParseWithClaims and ParseUnverified say of each other, for claims that set no times:
-- a token is valid if it parses, the key function finds a key for its method and the
-- signature verifies under that key. signedBy stands for the last.
structure JwtLibrary.Verifying (library : JwtLibrary) (signedBy : String → String → Prop) : Prop where
  accepts : ∀ keyFunc token claims, library.parseWithClaims keyFunc token = .ok (true, claims) ↔
    ∃ method key, library.parseUnverified token = .ok (method, claims) ∧ keyFunc method = .ok key ∧ signedBy key token
  decides : ∀ keyFunc token claims, library.parseWithClaims keyFunc token ≠ .ok (false, claims)

structure PlainToken (token : String) : Prop where
  some : token ≠ ""
  runes : ∀ rune ∈ token.toList, isFieldRune rune = true ∧ isSpace rune = false ∧ isBlank rune = false ∧ rune ≠ ','

-- A token that SignedString makes with HS256 of claims with this JSON: ParseUnverified
-- unmarshals what the token carries, which is of runes that a header field can have.
structure JwtLibrary.Carries (library : JwtLibrary) (token payload : String) : Prop where
  parsed : ∀ claims, library.parseUnverified token = .ok (some "HS256", claims) ↔ unmarshal jwtTunnelConfigCodec payload = some claims
  plain : PlainToken token

def jwtPayload (claims : JwtTunnelConfig) : String := marshal jwtTunnelConfigCodec claims

theorem payload_unmarshalled (claims : JwtTunnelConfig) : unmarshal jwtTunnelConfigCodec (jwtPayload claims) = some claims :=
  unmarshal_marshal jwtTunnelConfigCodec jwt_tunnel_config_lossless claims

def legacyJWTSecret : String := "champignonfrais"

def clientSecret (jwtSecret : String) : String := if jwtSecret = "" then legacyJWTSecret else jwtSecret

-- generateJWT behind the claims it makes; signedString is the library's.
def signClaims (signedString : String → JwtTunnelConfig → String) (jwtSecret : String) (claims : JwtTunnelConfig) : String :=
  signedString (clientSecret jwtSecret) claims

-- The server looks at the signature of a token, and only at one.
def Config.verifies (config : Config) : Prop :=
  config.websocketProtocol = "ws" ∧ config.jwtSecret ≠ "" ∧ config.insecureNoJWTValidation = false

section

variable (library : JwtLibrary) (signedBy : String → String → Prop) (text : String) (claims : JwtTunnelConfig)

theorem parse_unverified_claims_iff :
    parseUnverified library text = .ok claims ↔ library.parseUnverified text = .ok (some "HS256", claims) := by
  rw [parseUnverified]
  cases library.parseUnverified text with
  | error error => simp
  | ok parsed =>
      obtain ⟨method, found⟩ := parsed
      by_cases named : method = some "HS256"
      · simp [named]
      · simp [named]

theorem parse_verified_claims_iff (verifying : library.Verifying signedBy) (secret : String) :
    library.parseWithClaims
        (fun method => if method = some "HS256" then .ok secret else .error (unexpectedMethod method)) text = .ok (true, claims) ↔
      library.parseUnverified text = .ok (some "HS256", claims) ∧ signedBy secret text := by
  rw [verifying.accepts]
  constructor
  · rintro ⟨method, key, parsed, chosen, signed⟩
    by_cases named : method = some "HS256"
    · rw [if_pos named] at chosen
      cases chosen
      exact ⟨named ▸ parsed, signed⟩
    · rw [if_neg named] at chosen
      cases chosen
  · rintro ⟨parsed, signed⟩
    exact ⟨_, secret, parsed, if_pos rfl, signed⟩

theorem accepted_token_iff (verifying : library.Verifying signedBy) (config : Config) :
    parseJWTClaims library config text = .ok claims ↔
      library.parseUnverified text = .ok (some "HS256", claims) ∧ (config.verifies → signedBy config.jwtSecret text) := by
  have verified := fun found => parse_verified_claims_iff library signedBy text found verifying config.jwtSecret
  have relaxed : ¬ config.verifies → (parseUnverified library text = .ok claims ↔
      library.parseUnverified text = .ok (some "HS256", claims) ∧ (config.verifies → signedBy config.jwtSecret text)) := by
    intro lax
    rw [parse_unverified_claims_iff]
    simp only [lax, false_implies, and_true]
  rw [parseJWTClaims]
  by_cases plain : config.websocketProtocol ≠ "ws"
  · rw [if_pos plain]
    exact relaxed fun verifies => plain verifies.1
  · rw [if_neg plain]
    by_cases keyed : config.jwtSecret ≠ ""
    · rw [if_pos keyed]
      dsimp only
      cases outcome : library.parseWithClaims
          (fun method => if method = some "HS256" then .ok config.jwtSecret else .error (unexpectedMethod method)) text with
      | ok result =>
          obtain ⟨valid, found⟩ := result
          cases valid with
          | false => exact absurd outcome (verifying.decides _ text found)
          | true =>
              obtain ⟨parsed, signed⟩ := (verified found).mp outcome
              dsimp only
              rw [parsed]
              simp [signed]
      | error error =>
          dsimp only
          by_cases lax : config.insecureNoJWTValidation = true
          · rw [if_pos lax]
            exact relaxed fun verifies => by rw [verifies.2.2] at lax; cases lax
          · rw [if_neg lax]
            have strict : config.verifies := ⟨Decidable.not_not.mp plain, keyed, Bool.eq_false_iff.mpr lax⟩
            constructor
            · intro failed
              cases failed
            · rintro ⟨parsed, signed⟩
              cases outcome.symm.trans ((verified claims).mpr ⟨parsed, signed strict⟩)
    · rw [if_neg keyed]
      exact relaxed fun verifies => keyed verifies.2.1

end

theorem carried_claims (library : JwtLibrary) (token : String) (claims : JwtTunnelConfig)
    (carries : library.Carries token (jwtPayload claims)) : library.parseUnverified token = .ok (some "HS256", claims) :=
  (carries.parsed claims).mpr (payload_unmarshalled claims)

section

variable {Regexp : Type} (engine : RegexpEngine Regexp) (server : Server Regexp) (request : Request) (upgrades : Bool)

theorem rules_refuse_iff (claims : JwtTunnelConfig) :
    (server.rules.isSome && !validate engine server.rules claims request.path request.authorization (commonName request)) = true ↔
      ¬ validate engine server.rules claims request.path request.authorization (commonName request) = true := by
  cases server.rules with
  | none => simp [validate]
  | some rules => simp

theorem serve_tunnel_iff (library : JwtLibrary) (transport : Transport) (found : JwtTunnelConfig) :
    serveHTTP engine library server request upgrades = .tunnel transport found ↔
      underPathPrefix server.config request = true ∧ requestToken request ≠ "" ∧
        parseJWTClaims library server.config (requestToken request) = .ok found ∧
        validate engine server.rules found request.path request.authorization (commonName request) = true ∧
        transport = requestTransport server.config request ∧ (transport = .http2 ∨ upgrades = true) := by
  rw [serveHTTP]
  by_cases under : underPathPrefix server.config request = true
  · rw [if_neg (by rw [under]; decide)]
    by_cases missing : requestToken request = ""
    · simp [missing]
    · rw [if_neg missing]
      cases parseJWTClaims library server.config (requestToken request) with
      | error error => simp
      | ok claims =>
          dsimp only
          by_cases allowed : validate engine server.rules claims request.path request.authorization (commonName request) = true
          · rw [if_neg (fun refused => (rules_refuse_iff engine server request claims).mp refused allowed)]
            have opened : ∀ chosen, Response.tunnel chosen claims = .tunnel transport found ↔ claims = found ∧ transport = chosen := by
              intro chosen
              rw [Response.tunnel.injEq, eq_comm (a := chosen), and_comm]
            have kept : claims = found → validate engine server.rules found request.path request.authorization (commonName request) = true := by
              rintro rfl
              exact allowed
            simp only [under, missing, ne_eq, not_false_eq_true, true_and, Except.ok.injEq]
            cases requestTransport server.config request with
            | http2 =>
                rw [opened]
                constructor
                · rintro ⟨rfl, rfl⟩
                  exact ⟨rfl, allowed, rfl, .inl rfl⟩
                · rintro ⟨same, _, chosen, _⟩
                  exact ⟨same, chosen⟩
            | wst =>
                cases upgrades <;> simp +contextual [opened, kept]
            | gorilla =>
                cases upgrades <;> simp +contextual [opened, kept]
          · rw [if_pos ((rules_refuse_iff engine server request claims).mpr allowed)]
            constructor
            · intro refused
              cases refused
            · rintro ⟨_, _, same, admitted, _⟩
              cases same
              exact absurd admitted allowed
  · simp [under]

theorem tunnel_opened_iff (library : JwtLibrary) (signedBy : String → String → Prop) (verifying : library.Verifying signedBy)
    (transport : Transport) (claims : JwtTunnelConfig) :
    serveHTTP engine library server request upgrades = .tunnel transport claims ↔
      underPathPrefix server.config request = true ∧ requestToken request ≠ "" ∧
        library.parseUnverified (requestToken request) = .ok (some "HS256", claims) ∧
        (server.config.verifies → signedBy server.config.jwtSecret (requestToken request)) ∧
        validate engine server.rules claims request.path request.authorization (commonName request) = true ∧
        transport = requestTransport server.config request ∧ (transport = .http2 ∨ upgrades = true) := by
  rw [serve_tunnel_iff, accepted_token_iff library signedBy _ claims verifying, and_assoc]

end

-- A library that knows one token, of the one key.
def keyedLibrary (claims : JwtTunnelConfig) : JwtLibrary where
  parseUnverified := fun token => if token = "h.c.s" then .ok (some "HS256", claims) else .error "token is malformed"
  parseWithClaims := fun keyFunc token =>
    if token = "h.c.s" then
      match keyFunc (some "HS256") with
      | .error err => .error err
      | .ok key => if key = "key" then .ok (true, claims) else .error "signature is invalid"
    else .error "token is malformed"

theorem keyed_library_outcome (claims found : JwtTunnelConfig) (keyFunc : Option String → Except String String) (token : String)
    (valid : Bool) : (keyedLibrary claims).parseWithClaims keyFunc token = .ok (valid, found) ↔
      valid = true ∧ token = "h.c.s" ∧ found = claims ∧ keyFunc (some "HS256") = .ok "key" := by
  by_cases known : token = "h.c.s"
  · cases chosen : keyFunc (some "HS256") with
    | error err => simp [keyedLibrary, known, chosen]
    | ok key =>
        by_cases right : key = "key"
        · simp [keyedLibrary, known, chosen, right, eq_comm]
        · simp [keyedLibrary, known, chosen, right]
  · simp [keyedLibrary, known]

theorem keyed_library_verifying (claims : JwtTunnelConfig) : (keyedLibrary claims).Verifying fun key _ => key = "key" where
  accepts := by
    intro keyFunc token found
    rw [keyed_library_outcome]
    constructor
    · rintro ⟨_, rfl, rfl, chosen⟩
      exact ⟨some "HS256", "key", rfl, chosen, rfl⟩
    · rintro ⟨method, key, parsed, chosen, rfl⟩
      dsimp only [keyedLibrary] at parsed
      split at parsed
      · rename_i known
        cases parsed
        exact ⟨rfl, known, rfl, chosen⟩
      · cases parsed
  decides := by
    intro keyFunc token found outcome
    cases ((keyed_library_outcome claims found keyFunc token false).mp outcome).1

theorem keyed_library_carries (claims : JwtTunnelConfig) : (keyedLibrary claims).Carries "h.c.s" (jwtPayload claims) where
  parsed := by
    intro found
    rw [payload_unmarshalled, Option.some.injEq]
    constructor
    · rintro ⟨⟩
      rfl
    · rintro rfl
      rfl
  plain := ⟨by decide, all_runes _ _ (by decide)⟩

def plainClaims : JwtTunnelConfig := ⟨"id", { reverseTcp := some () }, "10.0.0.1", 22⟩

-- A server that looks at signatures.
def plainServer : Server String := ⟨{ pathPrefix := "v1", jwtSecret := "key", websocketProtocol := "ws" }, newManager 0, none⟩

theorem tunnel_opened_verified : serveHTTP literalEngine (keyedLibrary plainClaims) plainServer
    { path := "/v1/events", cookie := "h.c.s" } true = .tunnel .gorilla plainClaims :=
  (tunnel_opened_iff literalEngine plainServer { path := "/v1/events", cookie := "h.c.s" } true _ _ (keyed_library_verifying plainClaims)
    .gorilla plainClaims).mpr ⟨by decide, by decide, rfl, fun _ => rfl, rfl, by decide, .inr rfl⟩

end WarpStream
