import WarpStream.ClientSocks5
import WarpStream.CredentialComparison

set_option autoImplicit false

namespace WarpStream

open ByteReader Dialogue GoText

structure LoginText where
  user : List UInt8
  pass : List UInt8
  userShort : user.length < 256
  passShort : pass.length < 256

def LoginText.bytes (login : LoginText) : List UInt8 :=
  [0x01, UInt8.ofNat login.user.length] ++ (login.user ++ (UInt8.ofNat login.pass.length :: login.pass))

def LoginText.Matches (expected : Credentials) (login : LoginText) : Prop :=
  login.user = bytesOf expected.username ∧ login.pass = bytesOf expected.password

def LoginText.passes (expected : Credentials) (login : LoginText) : Bool :=
  constantTimeEqualBytes login.user (bytesOf expected.username) && constantTimeEqualBytes login.pass (bytesOf expected.password)

-- The grammar of a whole handshake, for a given comparison of logins.
inductive Socks5Session (admits : Credentials → LoginText → Prop) :
    Option Credentials → List UInt8 → List UInt8 × UInt16 → Prop
  | plain (greeting : Socks5Greeting) (request : Socks5Request) (offered : 0x00 ∈ greeting.methods) :
      Socks5Session admits none (greeting.bytes ++ request.bytes) request.target
  | login (expected : Credentials) (greeting : Socks5Greeting) (login : LoginText) (request : Socks5Request)
      (offered : 0x02 ∈ greeting.methods) (admitted : admits expected login) :
      Socks5Session admits (some expected) (greeting.bytes ++ (login.bytes ++ request.bytes)) request.target

def socks5Replies : Option Credentials → List (List UInt8)
  | none => [[0x05, 0x00], socks5Success]
  | some _ => [[0x05, 0x02], [0x01, 0x00], socks5Success]

def AcceptsExactly (credentials : Option Credentials) : Prop :=
  ∀ wire : Wire, wire.socket.faults = [] →
    (∀ target after, handleSocks5 credentials wire = .ok (target, after) ↔
      ∃ heard, Socks5Session LoginText.Matches credentials heard target ∧ wire.input = heard ++ after.input ∧
        after.socket = ⟨wire.socket.sent ++ (socks5Replies credentials).flatten, []⟩) ∧
    ∀ fault after, handleSocks5 credentials wire = .error (fault, after) →
      fault ≠ .other .indexOutOfRange ∧
        ∃ said, after.socket = ⟨wire.socket.sent ++ said, []⟩ ∧ ¬ socks5Success <:+: said

-- Neither text is a login of the protocol with a multiple of 4 GiB of zero bytes
-- behind it.
def Unpadded (expected : Credentials) : Prop :=
  ∀ (login : LoginText) (userBlocks passBlocks : Nat),
    bytesOf expected.username = login.user ++ List.replicate (2 ^ 32 * userBlocks) 0 →
    bytesOf expected.password = login.pass ++ List.replicate (2 ^ 32 * passBlocks) 0 → userBlocks = 0 ∧ passBlocks = 0

theorem login_passes_iff (expected : Credentials) (login : LoginText) : login.passes expected = true ↔
    ∃ userBlocks passBlocks, bytesOf expected.username = login.user ++ List.replicate (2 ^ 32 * userBlocks) 0 ∧
      bytesOf expected.password = login.pass ++ List.replicate (2 ^ 32 * passBlocks) 0 := by
  rw [LoginText.passes, Bool.and_eq_true, constant_time_short _ _ login.userShort, constant_time_short _ _ login.passShort]
  constructor
  · rintro ⟨⟨userBlocks, user⟩, passBlocks, pass⟩
    exact ⟨userBlocks, passBlocks, user, pass⟩
  · rintro ⟨userBlocks, passBlocks, user, pass⟩
    exact ⟨⟨userBlocks, user⟩, passBlocks, pass⟩

theorem login_passes_exactly (expected : Credentials) (unpadded : Unpadded expected) (login : LoginText) :
    login.passes expected = true ↔ login.Matches expected := by
  rw [login_passes_iff]
  constructor
  · rintro ⟨userBlocks, passBlocks, user, pass⟩
    obtain ⟨rfl, rfl⟩ := unpadded login userBlocks passBlocks user pass
    rw [Nat.mul_zero, List.replicate_zero, List.append_nil] at user pass
    exact ⟨user.symm, pass.symm⟩
  · rintro ⟨user, pass⟩
    refine ⟨0, 0, ?_, ?_⟩
    · rw [← user]
      exact (padding_none _ 0).mpr rfl
    · rw [← pass]
      exact (padding_none _ 0).mpr rfl

theorem session_congr (admits other : Credentials → LoginText → Prop) (credentials : Option Credentials)
    (same : ∀ expected, credentials = some expected → ∀ login, admits expected login ↔ other expected login)
    (heard : List UInt8) (target : List UInt8 × UInt16) :
    Socks5Session admits credentials heard target ↔ Socks5Session other credentials heard target := by
  constructor
  · intro session
    cases session with
    | plain greeting request offered => exact .plain greeting request offered
    | login expected greeting login request offered admitted =>
        exact .login expected greeting login request offered ((same expected rfl login).mp admitted)
  · intro session
    cases session with
    | plain greeting request offered => exact .plain greeting request offered
    | login expected greeting login request offered admitted =>
        exact .login expected greeting login request offered ((same expected rfl login).mpr admitted)

theorem login_unique (left right : LoginText) (leftRest rightRest : List UInt8)
    (same : left.bytes ++ leftRest = right.bytes ++ rightRest) : left.user = right.user ∧ left.pass = right.pass := by
  simp only [LoginText.bytes, List.cons_append, List.nil_append, List.append_assoc, List.cons.injEq, true_and] at same
  have users := congrArg UInt8.toNat same.1
  rw [UInt8.toNat_ofNat_of_lt' left.userShort, UInt8.toNat_ofNat_of_lt' right.userShort] at users
  obtain ⟨user, behind⟩ := List.append_inj same.2 users
  obtain ⟨size, rest⟩ := List.cons.inj behind
  have passes := congrArg UInt8.toNat size
  rw [UInt8.toNat_ofNat_of_lt' left.passShort, UInt8.toNat_ofNat_of_lt' right.passShort] at passes
  exact ⟨user, (List.append_inj rest passes).1⟩

theorem recognises_methods :
    Recognises offeredMethods fun heard replies methods =>
      ∃ greeting : Socks5Greeting, heard = greeting.bytes ∧ methods = greeting.methods ∧ replies = [] := by
  unfold offeredMethods
  refine recognises_of_iff _ _ _
    (recognises_full_bind 2 _ _ fun head => recognises_require_bind _ _ _ _ (recognises_full _)) fun heard replies methods => ?_
  constructor
  · rintro ⟨head, _, two, rfl, version, length, rfl, rfl⟩
    obtain ⟨greeting, same, bytes⟩ := greeting_parts head methods two version length
    exact ⟨greeting, bytes.symm, same.symm, rfl⟩
  · rintro ⟨greeting, rfl, rfl, rfl⟩
    exact ⟨[0x05, UInt8.ofNat greeting.methods.length], greeting.methods, rfl, rfl, by simp, greeting_counted greeting, rfl, rfl⟩

def loginPhase : Option Credentials → Dialogue.Language Unit
  | none => fun heard replies _ => heard = [] ∧ replies = []
  | some expected => fun heard replies _ =>
      ∃ login : LoginText, LoginText.passes expected login = true ∧ heard = login.bytes ∧ replies = [[0x01, 0x00]]

theorem recognises_login (expected : Credentials) : Recognises (checkedLogin expected) (loginPhase (some expected)) := by
  unfold checkedLogin
  refine recognises_of_iff _ _ _
    (recognises_full_bind 2 _ _ fun head => recognises_require_bind _ _ _ _
      (recognises_full_bind _ _ _ fun username => recognises_full_bind 1 _ _ fun size => recognises_full_bind _ _ _ fun password =>
        recognises_say_bind _ _ _ _ (recognises_require _ _))) fun heard replies _ => ?_
  constructor
  · rintro ⟨head, _, two, rfl, version, user, _, userLength, rfl, size, _, one, rfl, pass, _, passLength, rfl, _, rfl, valid, rfl, rfl⟩
    obtain ⟨first, count, rfl⟩ := List.length_eq_two.mp two
    obtain ⟨byte, rfl⟩ := List.length_eq_one_iff.mp one
    obtain rfl : first = 0x01 := by simpa using version
    have users : user.length = count.toNat := userLength
    have passes : pass.length = byte.toNat := passLength
    refine ⟨⟨user, pass, by rw [users]; exact count.toNat_lt, by rw [passes]; exact byte.toNat_lt⟩, valid, ?_, by rw [valid]; rfl⟩
    simp only [LoginText.bytes, users, passes, UInt8.ofNat_toNat, List.append_nil]
    rfl
  · rintro ⟨login, valid, rfl, rfl⟩
    have users : (UInt8.ofNat login.user.length).toNat = login.user.length := UInt8.toNat_ofNat_of_lt' login.userShort
    have passes : (UInt8.ofNat login.pass.length).toNat = login.pass.length := UInt8.toNat_ofNat_of_lt' login.passShort
    refine ⟨[0x01, UInt8.ofNat login.user.length], _, rfl, rfl, by simp, login.user, _, users.symm, rfl,
      [UInt8.ofNat login.pass.length], login.pass, rfl, rfl, login.pass, [], passes.symm, (List.append_nil _).symm, [], ?_,
      valid, rfl, rfl⟩
    change _ = [[0x01, if LoginText.passes expected login then 0x00 else 0x01]]
    rw [valid]
    rfl

theorem contains_method_iff (methods : List UInt8) (want : UInt8) : containsSocks5Method methods want = true ↔ want ∈ methods := by
  simp [containsSocks5Method]

theorem recognises_authenticated (credentials : Option Credentials) :
    Recognises (authenticated credentials) (loginPhase credentials) := by
  cases credentials with
  | none =>
      refine recognises_of_iff _ _ _ (recognises_pure ()) fun heard replies value => ?_
      exact ⟨fun found => ⟨found.1, found.2.1⟩, fun found => ⟨found.1, found.2, rfl⟩⟩
  | some expected => exact recognises_login expected

theorem answered_offered (credentials : Option Credentials) (methods : List UInt8) (offered : selectedMethod credentials ∈ methods) :
    answeredMethods credentials methods = (do
      say [0x05, selectedMethod credentials] (.shared .writeFailed)
      authenticated credentials
      adapt .shared handleSocks5Request) := by
  rw [answeredMethods, if_neg]
  rw [(contains_method_iff methods _).mpr offered]
  decide

theorem answered_refused (credentials : Option Credentials) (methods : List UInt8) (missing : selectedMethod credentials ∉ methods) :
    answeredMethods credentials methods = (do
      say [0x05, 0xFF] (.shared .writeFailed)
      refuse .noAcceptableMethod) := by
  rw [answeredMethods, if_pos (Bool.eq_false_iff.mpr (mt (contains_method_iff methods _).mp missing))]

theorem recognises_answered (credentials : Option Credentials) (methods : List UInt8) :
    Recognises (answeredMethods credentials methods) fun heard replies target =>
      selectedMethod credentials ∈ methods ∧ ∃ (login : List UInt8) (answers : List (List UInt8)) (request : Socks5Request),
        loginPhase credentials login answers () ∧ heard = login ++ request.bytes ∧ target = request.target ∧
          replies = [0x05, selectedMethod credentials] :: (answers ++ [socks5Success]) := by
  by_cases offered : selectedMethod credentials ∈ methods
  · rw [answered_offered credentials methods offered]
    refine recognises_of_iff _ _ _ (recognises_say_bind _ _ _ _ (recognises_bind _ _ _ _ (recognises_authenticated credentials)
      fun _ => recognises_adapt _ _ _ recognises_request)) fun heard replies target => ?_
    constructor
    · rintro ⟨_, rfl, _, login, _, answers, _, rfl, rfl, member, request, rfl, rfl, rfl⟩
      exact ⟨offered, login, answers, request, member, rfl, rfl, rfl⟩
    · rintro ⟨_, login, answers, request, member, rfl, rfl, rfl⟩
      exact ⟨_, rfl, (), login, request.bytes, answers, [socks5Success], rfl, rfl, member, request, rfl, rfl, rfl⟩
  · rw [answered_refused credentials methods offered]
    refine recognises_of_iff _ _ _ (recognises_say_bind _ _ _ _ (recognises_refuse _)) fun heard replies target => ?_
    constructor
    · rintro ⟨_, _, refused⟩
      exact refused.elim
    · rintro ⟨member, _⟩
      exact absurd member offered

theorem recognises_socks5 (credentials : Option Credentials) :
    Recognises (handleSocks5 credentials) fun heard replies target =>
      Socks5Session (fun expected login => login.passes expected = true) credentials heard target ∧
        replies = socks5Replies credentials := by
  rw [handle_socks5_unbuffered]
  refine recognises_of_iff _ _ _ (recognises_bind _ _ _ _ recognises_methods fun methods => recognises_answered credentials methods)
    fun heard replies target => ?_
  constructor
  · rintro ⟨methods, _, _, _, _, rfl, rfl, ⟨greeting, rfl, rfl, rfl⟩, offered, login, answers, request, member, rfl, rfl, rfl⟩
    cases credentials with
    | none =>
        obtain ⟨rfl, rfl⟩ := member
        exact ⟨.plain greeting request offered, rfl⟩
    | some expected =>
        obtain ⟨text, passes, rfl, rfl⟩ := member
        exact ⟨.login expected greeting text request offered passes, rfl⟩
  · rintro ⟨session, rfl⟩
    cases session with
    | plain greeting request offered =>
        exact ⟨greeting.methods, greeting.bytes, request.bytes, [], _, rfl, rfl, ⟨greeting, rfl, rfl, rfl⟩, offered,
          [], [], request, ⟨rfl, rfl⟩, rfl, rfl, rfl⟩
    | login expected greeting login request offered passes =>
        exact ⟨greeting.methods, greeting.bytes, login.bytes ++ request.bytes, [], _, rfl, rfl, ⟨greeting, rfl, rfl, rfl⟩, offered,
          login.bytes, [[0x01, 0x00]], request, ⟨login, passes, rfl, rfl⟩, rfl, rfl, rfl⟩

section

variable (refusal : Fault Socks5Error → Prop) (any : ∀ fault, refusal fault)

include any

theorem address_fails (kind : UInt8) : FailsWithin (readSocks5Address kind) 0 refusal := by
  unfold readSocks5Address
  split
  · exact fails_bind_pure refusal _ _ 0 (fails_full refusal 4 0 ⟨any _, any _⟩)
  · split
    · exact fails_full_bind refusal 1 0 _ ⟨any _, any _⟩ fun size => fails_full refusal _ 0 ⟨any _, any _⟩
    · split
      · exact fails_bind_pure refusal _ _ 0 (fails_full refusal 16 0 ⟨any _, any _⟩)
      · exact fails_refuse refusal _ 0 (any _)

theorem request_fails : FailsWithin handleSocks5Request 0 refusal := by
  unfold handleSocks5Request
  refine fails_full_bind refusal 4 0 _ ⟨any _, any _⟩ fun head => ?_
  refine fails_require_bind refusal _ _ 0 _ (any _) fun _ => ?_
  refine fails_bind refusal _ _ _ 0 0 (recognises_address _) ?_ (address_fails refusal any _) fun host => ?_
  · rintro _ _ _ ⟨_, _, _, _, rfl⟩
    exact Nat.le_refl 0
  · refine fails_full_bind refusal 2 0 _ ⟨any _, any _⟩ fun port => ?_
    exact fails_bind_pure refusal _ _ 0 (fails_say refusal _ _ 0)

end

def inRange (fault : Fault ClientSocks5Error) : Prop := fault ≠ .other .indexOutOfRange

theorem cut_in_range : inRange .eof ∧ inRange .unexpectedEof := by
  constructor <;> rintro ⟨⟩

theorem shared_in_range (fault : Fault Socks5Error) : inRange (fault.map .shared) := by
  cases fault <;> rintro ⟨⟩

theorem methods_fail (limit : Nat) : FailsWithin offeredMethods limit inRange := by
  unfold offeredMethods
  refine fails_full_bind inRange 2 limit _ cut_in_range fun head => ?_
  refine fails_require_bind inRange _ _ limit _ (by rintro ⟨⟩) fun _ => ?_
  exact fails_full inRange _ limit cut_in_range

theorem authenticated_fails (credentials : Option Credentials) : FailsWithin (authenticated credentials) 2 inRange := by
  cases credentials with
  | none =>
      intro wire fault after _ failed
      cases failed
  | some expected =>
      simp only [authenticated, checkedLogin]
      refine fails_full_bind inRange 2 2 _ cut_in_range fun head => ?_
      refine fails_require_bind inRange _ _ 2 _ (by rintro ⟨⟩) fun _ => ?_
      refine fails_full_bind inRange _ 2 _ cut_in_range fun username => ?_
      refine fails_full_bind inRange 1 2 _ cut_in_range fun size => ?_
      refine fails_full_bind inRange _ 2 _ cut_in_range fun password => ?_
      exact fails_say_bind inRange _ _ 0 _ fun _ => fails_require inRange _ _ 0 (by rintro ⟨⟩)

theorem login_phase_short (credentials : Option Credentials) (heard : List UInt8) (replies : List (List UInt8)) (value : Unit)
    (member : loginPhase credentials heard replies value) : replies.flatten.length ≤ 2 := by
  cases credentials with
  | none =>
      obtain ⟨_, rfl⟩ := member
      decide
  | some expected =>
      obtain ⟨_, _, _, rfl⟩ := member
      decide

theorem socks5_fails (credentials : Option Credentials) : FailsWithin (handleSocks5 credentials) 4 inRange := by
  rw [handle_socks5_unbuffered]
  refine fails_bind inRange _ _ _ 0 4 recognises_methods ?_ (methods_fail _) fun methods => ?_
  · rintro _ _ _ ⟨_, _, _, rfl⟩
    exact Nat.le_refl 0
  · by_cases offered : selectedMethod credentials ∈ methods
    · rw [answered_offered credentials methods offered]
      refine fails_say_bind inRange [0x05, selectedMethod credentials] _ 2 _ fun _ => ?_
      refine fails_bind inRange _ _ _ 2 0 (recognises_authenticated credentials) (login_phase_short credentials)
        (authenticated_fails credentials) fun _ => ?_
      exact fails_adapt .shared inRange _ 0 (request_fails _ shared_in_range)
    · rw [answered_refused credentials methods offered]
      exact fails_say_bind inRange [0x05, 0xFF] _ 2 _ fun _ => fails_refuse inRange _ 2 (by rintro ⟨⟩)

theorem session_login (admits : Credentials → LoginText → Prop) (expected : Credentials) (heard : List UInt8)
    (target : List UInt8 × UInt16) (session : Socks5Session admits (some expected) heard target) :
    ∃ (greeting : Socks5Greeting) (login : LoginText) (request : Socks5Request),
      admits expected login ∧ heard = greeting.bytes ++ (login.bytes ++ request.bytes) := by
  cases session with
  | login _ greeting login request _ admitted => exact ⟨greeting, login, request, admitted, rfl⟩

theorem passing_login_accepted (expected : Credentials) (login : LoginText) (passes : login.passes expected = true)
    (greeting : Socks5Greeting) (offered : 0x02 ∈ greeting.methods) (request : Socks5Request) :
    handleSocks5 (some expected) ⟨greeting.bytes ++ (login.bytes ++ request.bytes), ⟨[], []⟩⟩ =
      .ok (request.target, ⟨[], ⟨(socks5Replies (some expected)).flatten, []⟩⟩) := by
  refine (recognises_socks5 (some expected) _ _ _).mpr ⟨_, _, ⟨.login expected greeting login request offered passes, rfl⟩, ?_, ?_⟩
  · exact (List.append_nil _).symm
  · exact (sends_faultless _ _ _ rfl).mpr rfl

theorem exact_login_only (expected : Credentials) (accepts : AcceptsExactly (some expected)) (login : LoginText)
    (passes : login.passes expected = true) : login.Matches expected := by
  let greeting : Socks5Greeting := ⟨[0x02], by decide⟩
  let request : Socks5Request := ⟨0x00, .ipv4 [0, 0, 0, 0] rfl, 0⟩
  have accepted := passing_login_accepted expected login passes greeting (List.mem_singleton.mpr rfl) request
  obtain ⟨heard, session, input, _⟩ := ((accepts _ rfl).1 _ _).mp accepted
  obtain ⟨otherGreeting, other, otherRequest, admitted, rfl⟩ := session_login _ _ _ _ session
  rw [List.append_nil] at input
  obtain ⟨user, pass⟩ := login_unique login other _ _ (greeting_unique greeting otherGreeting _ _ input).2
  exact ⟨user.trans admitted.1, pass.trans admitted.2⟩

theorem said_success (said : List UInt8) (few : said.length ≤ 4) : ¬ socks5Success <:+: said := by
  intro found
  have long : 10 ≤ said.length := found.length_le
  omega

theorem socks5_accepts_exactly_iff (credentials : Option Credentials) :
    AcceptsExactly credentials ↔ ∀ expected, credentials = some expected → Unpadded expected := by
  constructor
  · rintro accepts expected rfl login userBlocks passBlocks user pass
    have passes := (login_passes_iff expected login).mpr ⟨userBlocks, passBlocks, user, pass⟩
    obtain ⟨sameUser, samePass⟩ := exact_login_only expected accepts login passes
    rw [← sameUser, padding_none] at user
    rw [← samePass, padding_none] at pass
    exact ⟨user, pass⟩
  · intro unpadded wire faultless
    refine ⟨fun target after => ?_, fun fault after failed => ?_⟩
    · have same := session_congr (fun expected login => login.passes expected = true) LoginText.Matches credentials
        fun expected found => login_passes_exactly expected (unpadded expected found)
      rw [recognises_socks5 credentials wire target after]
      constructor
      · rintro ⟨heard, _, ⟨session, rfl⟩, input, sends⟩
        exact ⟨heard, (same heard target).mp session, input, (sends_faultless _ _ _ faultless).mp sends⟩
      · rintro ⟨heard, session, input, socket⟩
        exact ⟨heard, _, ⟨(same heard target).mpr session, rfl⟩, input, (sends_faultless _ _ _ faultless).mpr socket⟩
    · obtain ⟨inside, said, few, socket⟩ := socks5_fails credentials wire fault after faultless failed
      exact ⟨inside, said, socket, said_success said few⟩

def paddedCredentials : Credentials := ⟨String.ofList ('a' :: List.replicate (2 ^ 32) '\x00'), "b"⟩

theorem padded_username_accepted : bytesOf paddedCredentials.username ≠ bytesOf "a" ∧
    handleSocks5 (some paddedCredentials)
        ⟨[0x05, 1, 0x02, 0x01, 1, 97, 1, 98, 0x05, 0x01, 0x00, 0x01, 127, 0, 0, 1, 0, 80], ⟨[], []⟩⟩ =
      .ok ((bytesOf "127.0.0.1", 80), ⟨[], ⟨[0x05, 0x02, 0x01, 0x00] ++ socks5Success, []⟩⟩) := by
  have name : bytesOf (String.ofList ['a']) = [97] := by decide
  have username : bytesOf paddedCredentials.username = [97] ++ List.replicate (2 ^ 32 * 1) 0 := by
    rw [← name, Nat.mul_one]
    exact padded_text_bytes ['a'] (2 ^ 32)
  have password : bytesOf paddedCredentials.password = [98] ++ List.replicate (2 ^ 32 * 0) 0 := by decide
  have letter : bytesOf "a" = [97] := by decide
  have host : bytesOf "127.0.0.1" = bytesOf (GoAddr.ipString [127, 0, 0, 1]) := by decide
  refine ⟨?_, ?_⟩
  · rw [letter, username]
    intro same
    exact absurd ((padding_none [97] 1).mp same.symm) (by decide)
  · rw [host]
    exact passing_login_accepted paddedCredentials ⟨[97], [98], by decide, by decide⟩
      ((login_passes_iff _ _).mpr ⟨1, 0, username, password⟩) ⟨[0x02], by decide⟩ (List.mem_singleton.mpr rfl)
      ⟨0x00, .ipv4 [127, 0, 0, 1] rfl, 80⟩

end WarpStream
