import WarpStream.ForwardArg

set_option autoImplicit false

namespace WarpStream

open GoText

def timeoutOf (timeout : Option Duration) : Int64 :=
  match timeout with
  | some timeout => if 0 < timeout.secs then timeout.secs.toInt64 * second else 30 * second
  | none => 30 * second

-- The period of the session timers in runUdpTunnel.
def sessionTimeout (ltr : LocalToRemote) : Int64 := timeoutOf (ltr.protocol.udp.bind (·.timeout))

def newIdleTimeoutConn (timeout : Int64) : Int64 := if timeout ≤ 0 then 30 * second else timeout

-- How long a session may be idle; none is a session that never expires. Both
-- ends always arm a timer.
def clientIdle (ltr : LocalToRemote) : Option Int64 := some (sessionTimeout ltr)

def serverIdle (claims : JwtTunnelConfig) : Option Int64 :=
  (dialTargetAndMaybeProxyHeader claims .udp (joinHostPort claims.remote (formatPort claims.port))).idleTimeout.map newIdleTimeoutConn

theorem server_idle (requestID : String) (ltr : LocalToRemote) :
    serverIdle (generateJWT requestID ltr.protocol ltr.remote ltr.port) = some (newIdleTimeoutConn (sessionTimeout ltr)) := rfl

-- The seconds that fit into the nanoseconds of a Duration.
def maxSeconds : Nat := 9223372036

-- What the documentation of package time says about whole seconds. The
-- conversion of a negative number of seconds to uint64 is left open, as it is by
-- the language.
structure TimeLibrary.Documented (time : TimeLibrary) : Prop where
  seconds : ∀ digits number, IsDecimal digits number →
    time.parseDuration (String.ofList (digits ++ ['s'])) =
      if number ≤ maxSeconds then some (Int64.ofNat (number * 1000000000)) else none
  negative : ∀ digits number, IsDecimal digits number →
    time.parseDuration (String.ofList ('-' :: digits ++ ['s'])) =
      if number ≤ maxSeconds then some (Int64.ofInt (-(number * 1000000000))) else none
  whole : ∀ number, number ≤ maxSeconds → time.wholeSeconds (Int64.ofNat (number * 1000000000)) = UInt64.ofNat number

-- A library of that kind for whole seconds only, whose conversion wraps.
def parseWholeSeconds (text : String) : Option Int64 :=
  let signed := text.toList.dropLast
  let digits := if signed.head? = some '-' then signed.tail else signed
  if text.toList.getLast? = some 's' ∧ digits ≠ [] ∧ digits.all Char.isDigit ∧ decimal digits ≤ maxSeconds then
    some (if signed.head? = some '-' then Int64.ofInt (-(decimal digits * 1000000000)) else Int64.ofNat (decimal digits * 1000000000))
  else none

def wrappingTime : TimeLibrary where
  parseDuration := parseWholeSeconds
  wholeSeconds duration := (Int64.ofInt (duration.toInt.tdiv 1000000000)).toUInt64

theorem parse_whole_seconds (signed digits : List Char) (number : Nat) (decimal : IsDecimal digits number)
    (unsigned : (if signed.head? = some '-' then signed.tail else signed) = digits) :
    parseWholeSeconds (String.ofList (signed ++ ['s'])) = if number ≤ maxSeconds then
      some (if signed.head? = some '-' then Int64.ofInt (-(number * 1000000000)) else Int64.ofNat (number * 1000000000)) else none := by
  obtain ⟨some, all, value⟩ := decimal
  have digit : digits.all Char.isDigit = true := List.all_eq_true.mpr all
  simp only [parseWholeSeconds, String.toList_ofList, List.dropLast_concat, List.getLast?_concat, unsigned, value, digit, ne_eq, some,
    not_false_eq_true, true_and]

theorem duration_value (number : Nat) (small : number ≤ maxSeconds) :
    (Int64.ofNat (number * 1000000000)).toInt = number * 1000000000 := by
  unfold maxSeconds at small
  rw [Int64.toInt_ofNat_of_lt (by omega)]
  exact Int.natCast_mul number 1000000000

theorem wrapping_time_documented : wrappingTime.Documented := by
  have first : ∀ digits number, IsDecimal digits number → digits.head? ≠ some '-' := by
    intro digits number decimal head
    exact decimal_plain digits number decimal '-' (by decide) (List.mem_of_mem_head? head)
  refine ⟨?_, ?_, ?_⟩
  · intro digits number decimal
    have bare := first digits number decimal
    have parsed := parse_whole_seconds digits digits number decimal (if_neg bare)
    rwa [if_neg bare] at parsed
  · intro digits number decimal
    exact parse_whole_seconds ('-' :: digits) digits number decimal rfl
  · intro number small
    have value := duration_value number small
    change (Int64.ofInt ((Int64.ofNat (number * 1000000000)).toInt.tdiv 1000000000)).toUInt64 = UInt64.ofNat number
    rw [value, Int.mul_tdiv_cancel _ (by decide), Int64.ofInt_eq_ofNat, Int64.toUInt64_ofNat']

def integerText (negative : Bool) (digits : List Char) : List Char := if negative then '-' :: digits else digits

def integerValue (negative : Bool) (magnitude : Nat) : Int := if negative then -magnitude else magnitude

structure IdleAsRequested (seconds : Int) (client server : Option Int64) : Prop where
  agree : client = server
  exactly : 0 < seconds → client.map Int64.toInt = some (seconds * 1000000000)
  disabled : seconds = 0 → client = none

theorem requested_timeout (time : TimeLibrary) (arg text : String) (written : TunnelArg) (ltr : LocalToRemote)
    (split : splitArg arg = some written) (udp : written.proto = "udp")
    (option : options written.query "timeout_sec" = some text) (accepted : parseTunnelArg time arg false = .ok ltr) :
    sessionTimeout ltr = timeoutOf (parseDurationSec time text) := by
  obtain ⟨_, _, _, _, _, made⟩ := fields_accepted time arg written ltr false split (by rw [udp]; decide) (by rw [udp]; decide) accepted
  rw [udp] at made
  have protocol : ltr.protocol = { udp := some ⟨getTimeout time written.query⟩ } := (Option.some.inj made).symm
  rw [sessionTimeout, protocol, Option.bind_some, getTimeout, option]

theorem duration_text (text : List Char) : String.ofList text ++ "s" = String.ofList (text ++ ['s']) := by
  rw [String.ofList_append]

theorem text_some (digits : List Char) (number : Nat) (decimal : IsDecimal digits number) : String.ofList digits ≠ "" := by
  intro empty
  exact decimal.1 (String.ofList_injective empty)

theorem positive_timeout (time : TimeLibrary) (documented : time.Documented) (digits : List Char) (number : Nat)
    (decimal : IsDecimal digits number) (positive : 0 < number) (small : number ≤ maxSeconds) :
    (timeoutOf (parseDurationSec time (String.ofList digits))).toInt = number * 1000000000 := by
  have parsed := documented.seconds digits number decimal
  rw [if_pos small] at parsed
  have secs : 0 < UInt64.ofNat number := by
    unfold maxSeconds at small
    rw [UInt64.lt_iff_toNat_lt, UInt64.toNat_ofNat_of_lt' (Nat.lt_of_le_of_lt small (by decide))]
    exact positive
  rw [parseDurationSec, if_neg (text_some digits number decimal), duration_text, parsed]
  simp only [timeoutOf, documented.whole number small, if_pos secs, UInt64.toInt64_ofNat']
  rw [← duration_value number small, Int64.ofNat_mul]
  rfl

theorem negative_timeout (digits : List Char) (number : Nat) (decimal : IsDecimal digits number) (positive : 0 < number)
    (small : number ≤ maxSeconds) :
    (timeoutOf (parseDurationSec wrappingTime (String.ofList ('-' :: digits)))).toInt < 0 := by
  have range : number ≤ 9223372036 := small
  have parsed := wrapping_time_documented.negative digits number decimal
  rw [if_pos small] at parsed
  have seconds : wrappingTime.wholeSeconds (Int64.ofInt (-(number * 1000000000))) = (Int64.ofInt (-number)).toUInt64 := by
    change (Int64.ofInt ((Int64.ofInt (-(number * 1000000000))).toInt.tdiv 1000000000)).toUInt64 = _
    rw [Int64.toInt_ofInt_of_le (by omega) (by omega), Int.neg_tdiv, Int.mul_tdiv_cancel _ (by decide)]
  have kept : 0 < (Int64.ofInt (-number)).toUInt64 := by
    rw [UInt64.pos_iff_ne_zero]
    intro zero
    have back := congrArg (fun secs => secs.toInt64.toInt) zero
    simp only [Int64.toInt64_toUInt64, Int64.toInt_ofInt_of_le (by omega : -2 ^ 63 ≤ -(number : Int)) (by omega)] at back
    exact absurd back (by simp; omega)
  have product : (Int64.ofInt (-number) * second).toInt = -(number * 1000000000) := by
    have whole : Int64.ofInt (-number) * second = Int64.ofInt (-number * 1000000000) := by
      rw [Int64.ofInt_mul]
      rfl
    rw [whole, Int64.toInt_ofInt_of_le (by omega) (by omega)]
    omega
  rw [parseDurationSec, if_neg (by intro empty; cases String.ofList_injective empty), duration_text, parsed]
  simp only [timeoutOf, seconds, if_pos kept, Int64.toInt64_toUInt64, product]
  omega

theorem beyond_negative (time : TimeLibrary) (documented : time.Documented) (digits : List Char) (number : Nat)
    (decimal : IsDecimal digits number) (large : maxSeconds < number) :
    parseDurationSec time (String.ofList ('-' :: digits)) = none := by
  have parsed := documented.negative digits number decimal
  rw [if_neg (Nat.not_le.mpr large)] at parsed
  have invalid : parseUint (String.ofList ('-' :: digits)) 64 = (0, some .invalid) := by
    rw [parseUint, String.toList_ofList]
    rfl
  rw [parseDurationSec, if_neg (by intro empty; cases String.ofList_injective empty), duration_text, parsed, invalid]

theorem thirty_seconds (timeout : Int64) (negative : timeout.toInt < 0) : timeout ≠ newIdleTimeoutConn timeout := by
  have low : timeout ≤ 0 := Int64.le_iff_toInt_le.mpr (Int.le_of_lt negative)
  rw [newIdleTimeoutConn, if_pos low]
  rintro rfl
  exact absurd negative (by decide)

theorem positive_kept (timeout : Int64) (positive : 0 < timeout.toInt) : newIdleTimeoutConn timeout = timeout := by
  refine if_neg ?_
  intro low
  exact absurd (Int64.le_iff_toInt_le.mp low) (by simpa using positive)

theorem udp_accepted (time : TimeLibrary) (arg : String) (written : TunnelArg) (fields : ArgFields) (split : splitArg arg = some written)
    (udp : written.proto = "udp") (formed : argFields (splitFields written.info) = some fields) :
    ∃ ltr, parseTunnelArg time arg false = .ok ltr := by
  obtain ⟨proto, info, query⟩ := written
  cases udp
  simp only at formed
  have made : schemeProtocol time query false "udp" = some { udp := some ⟨getTimeout time query⟩ } := rfl
  simp only [parseTunnelArg, split, if_neg (by decide : "udp" ≠ "stdio"), if_neg (by decide : "udp" ≠ "unix"), formed, made]
  exact ⟨_, rfl⟩

-- The client's timers and the server's connection are given the same period.
def BothIdle (seconds : Int) (timeout : Int64) : Prop := IdleAsRequested seconds (some timeout) (some (newIdleTimeoutConn timeout))

theorem both_idle_iff (requestID : String) (ltr : LocalToRemote) (seconds : Int) :
    IdleAsRequested seconds (clientIdle ltr) (serverIdle (generateJWT requestID ltr.protocol ltr.remote ltr.port)) ↔
      BothIdle seconds (sessionTimeout ltr) := by
  rw [server_idle, clientIdle, BothIdle]

theorem zero_not_idle (timeout : Int64) : ¬ BothIdle 0 timeout := by
  intro requested
  exact Option.some_ne_none timeout (requested.disabled rfl)

theorem large_not_idle (seconds : Int) (timeout : Int64) (large : 9223372036 < seconds) : ¬ BothIdle seconds timeout := by
  intro requested
  have value : timeout.toInt = seconds * 1000000000 := Option.some.inj (requested.exactly (by omega))
  have bound := timeout.toInt_lt
  omega

theorem negative_not_idle (digits : List Char) (number : Nat) (decimal : IsDecimal digits number) (positive : 0 < number)
    (small : number ≤ maxSeconds) : ¬ BothIdle (-number) (timeoutOf (parseDurationSec wrappingTime (String.ofList ('-' :: digits)))) := by
  intro requested
  exact thirty_seconds _ (negative_timeout digits number decimal positive small) (Option.some.inj requested.agree)

theorem positive_both_idle (time : TimeLibrary) (documented : time.Documented) (digits : List Char) (number : Nat)
    (decimal : IsDecimal digits number) (positive : 0 < number) (small : number ≤ maxSeconds) :
    BothIdle number (timeoutOf (parseDurationSec time (String.ofList digits))) := by
  have value := positive_timeout time documented digits number decimal positive small
  refine ⟨?_, ?_, ?_⟩
  · rw [positive_kept _ (by omega)]
  · intro _
    exact congrArg some value
  · intro zero
    omega

theorem dropped_both_idle (time : TimeLibrary) (documented : time.Documented) (digits : List Char) (number : Nat)
    (decimal : IsDecimal digits number) (large : maxSeconds < number) :
    BothIdle (-number) (timeoutOf (parseDurationSec time (String.ofList ('-' :: digits)))) := by
  have range : 9223372036 < number := large
  rw [beyond_negative time documented digits number decimal large]
  refine ⟨congrArg some (positive_kept (timeoutOf none) (by decide)).symm, ?_, ?_⟩
  · intro positive
    omega
  · intro zero
    omega

theorem written_idle_iff (negative : Bool) (digits : List Char) (magnitude : Nat) (decimal : IsDecimal digits magnitude) :
    (∀ time : TimeLibrary, time.Documented →
      BothIdle (integerValue negative magnitude) (timeoutOf (parseDurationSec time (String.ofList (integerText negative digits))))) ↔
      (0 < integerValue negative magnitude ∧ integerValue negative magnitude ≤ 9223372036) ∨
        integerValue negative magnitude < -9223372036 := by
  cases negative with
  | false =>
      simp only [integerValue, integerText, Bool.false_eq_true, if_false]
      constructor
      · intro requested
        have both := requested wrappingTime wrapping_time_documented
        have some : (magnitude : Int) ≠ 0 := fun zero => zero_not_idle _ (zero ▸ both)
        have small : ¬ 9223372036 < (magnitude : Int) := fun large => large_not_idle _ _ large both
        omega
      · intro fits time documented
        exact positive_both_idle time documented digits magnitude decimal (by omega) (show magnitude ≤ 9223372036 by omega)
  | true =>
      simp only [integerValue, integerText, if_true]
      constructor
      · intro requested
        have both := requested wrappingTime wrapping_time_documented
        have some : -(magnitude : Int) ≠ 0 := fun zero => zero_not_idle _ (zero ▸ both)
        have large : ¬ magnitude ≤ 9223372036 := fun small => negative_not_idle digits magnitude decimal (by omega) small both
        omega
      · intro fits time documented
        exact dropped_both_idle time documented digits magnitude decimal (show 9223372036 < magnitude by omega)

theorem idle_timeout_requested_iff (arg requestID : String) (written : TunnelArg) (fields : ArgFields) (negative : Bool)
    (digits : List Char) (magnitude : Nat) (split : splitArg arg = some written) (udp : written.proto = "udp")
    (formed : argFields (splitFields written.info) = some fields) (decimal : IsDecimal digits magnitude)
    (option : options written.query "timeout_sec" = some (String.ofList (integerText negative digits))) :
    (∀ time : TimeLibrary, time.Documented → ∀ ltr, parseTunnelArg time arg false = .ok ltr →
      IdleAsRequested (integerValue negative magnitude) (clientIdle ltr)
        (serverIdle (generateJWT requestID ltr.protocol ltr.remote ltr.port))) ↔
      (0 < integerValue negative magnitude ∧ integerValue negative magnitude ≤ 9223372036) ∨
        integerValue negative magnitude < -9223372036 := by
  rw [← written_idle_iff negative digits magnitude decimal]
  constructor
  · intro requested time documented
    obtain ⟨ltr, accepted⟩ := udp_accepted time arg written fields split udp formed
    have both := requested time documented ltr accepted
    rwa [both_idle_iff, requested_timeout time arg _ written ltr split udp option accepted] at both
  · intro requested time documented ltr accepted
    rw [both_idle_iff, requested_timeout time arg _ written ltr split udp option accepted]
    exact requested time documented

theorem timeout_option (text : List Char) (plain : ∀ rune ∈ text, rune.isDigit = true ∨ rune = '-') :
    options (some ("timeout_sec=".toList ++ text)) "timeout_sec" = some (String.ofList text) := by
  have ascii : ∀ rune ∈ text, 44 ≤ rune.toNat ∧ rune.toNat < 128 := by
    intro rune member
    rcases plain rune member with digit | rfl
    · simp only [Char.isDigit, Bool.and_eq_true, decide_eq_true_eq, ge_iff_le, UInt32.le_iff_toNat_le] at digit
      exact ⟨Nat.le_trans (by decide) digit.1, Nat.lt_of_le_of_lt digit.2 (by decide)⟩
    · decide
  have named : ∀ rune ∈ "timeout_sec=".toList, rune ≠ '&' ∧ rune ≠ ';' := all_runes _ _ (by decide)
  have others : ∀ rune ∈ "timeout_sec=".toList ++ text, rune ≠ '&' ∧ rune ≠ ';' := by
    intro rune member
    rcases List.mem_append.mp member with key | value
    · exact named rune key
    · rcases plain rune value with digit | rfl
      · constructor <;> rintro rfl <;> exact absurd digit (by decide)
      · decide
  have single : ("timeout_sec=".toList ++ text).splitOn '&' = ["timeout_sec=".toList ++ text] :=
    List.splitOnP_eq_singleton fun rune member => beq_false_of_ne (others rune member).1
  have literal : "timeout_sec=".toList = "timeout_sec".toList ++ ['='] := by decide
  have separated : cut ['='] ("timeout_sec=".toList ++ text) = some ("timeout_sec".toList, text) := by
    rw [literal, List.append_assoc]
    exact cut_found '=' [] "timeout_sec".toList text (by decide)
  have key := query_unescape_plain "timeout_sec".toList (ascii_plain _ (all_runes _ _ (by decide)))
  have value := query_unescape_plain text (ascii_plain text ascii)
  have kept : ¬ ("timeout_sec=".toList ++ text = [] ∨ ';' ∈ "timeout_sec=".toList ++ text) := by
    rintro (empty | semicolon)
    · cases empty
    · exact (others ';' semicolon).2 rfl
  simp only [options, Option.map_some, Option.bind_some, parseQuery, single, List.filterMap_cons, List.filterMap_nil, if_neg kept,
    separated, Option.getD_some, key, value, String.ofList_toList, List.lookup_cons_self, Option.map_some, TextBytes.text_of_bytes]

def quickDns : String := "udp://5353:1.1.1.1:53?timeout_sec=15"

def quickDnsArg : TunnelArg := ⟨"udp", "5353:1.1.1.1:53".toList, some ("timeout_sec=".toList ++ "15".toList)⟩

theorem quick_dns_requested :
    splitArg quickDns = some quickDnsArg ∧
      ((∀ time : TimeLibrary, time.Documented → ∀ ltr, parseTunnelArg time quickDns false = .ok ltr →
        IdleAsRequested 15 (clientIdle ltr) (serverIdle (generateJWT "" ltr.protocol ltr.remote ltr.port))) ↔
        (0 < (15 : Int) ∧ (15 : Int) ≤ 9223372036) ∨ (15 : Int) < -9223372036) :=
  ⟨by decide, idle_timeout_requested_iff quickDns "" quickDnsArg ⟨"127.0.0.1", "5353", "1.1.1.1", 53⟩ false "15".toList 15 (by decide) rfl
    (by decide) ⟨by decide, all_runes _ _ (by decide), by decide⟩ (timeout_option "15".toList (all_runes _ _ (by decide)))⟩

def unlimitedDns : String := "udp://5353:1.1.1.1:53?timeout_sec=0"

def longDns : String := "udp://5353:1.1.1.1:53?timeout_sec=9223372037"

def dnsTunnel (secs : UInt64) : LocalToRemote := ⟨{ udp := some ⟨some ⟨secs, 0⟩⟩ }, "127.0.0.1:5353", "1.1.1.1", 53⟩

-- Zero does not disable the timer, and one second too many makes the client's
-- period negative while the server falls back to its default.
theorem idle_timeout_misread :
    (∃ ltr, parseTunnelArg wrappingTime unlimitedDns false = .ok ltr ∧ clientIdle ltr = some (30 * second) ∧
      serverIdle (generateJWT "" ltr.protocol ltr.remote ltr.port) = some (30 * second)) ∧
    ∃ ltr, parseTunnelArg wrappingTime longDns false = .ok ltr ∧ clientIdle ltr = some (-9223372036709551616) ∧
      serverIdle (generateJWT "" ltr.protocol ltr.remote ltr.port) = some (30 * second) := by
  refine ⟨⟨dnsTunnel 0, ?_, ?_⟩, dnsTunnel 9223372037, ?_, ?_⟩
  · decide +kernel
  · rw [server_idle]
    exact ⟨rfl, rfl⟩
  · decide +kernel
  · rw [server_idle]
    exact ⟨rfl, rfl⟩

end WarpStream
