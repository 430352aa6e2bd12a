import WarpStream.Socks5
import WarpStream.HttpProxy

set_option autoImplicit false

namespace WarpStream

open ByteBuffer ByteReader Dialogue GoText

-- shared are the errors that the server's handshake has too.
inductive ClientSocks5Error where
  | shared (error : Socks5Error)
  | noAcceptableMethod
  | unsupportedAuthVersion (version : UInt8)
  | invalidCredentials
  | indexOutOfRange
deriving DecidableEq, Repr

def ClientSocks5Error.message : ClientSocks5Error → Option String
  | .shared error => error.message
  | .noAcceptableMethod => some "no acceptable authentication method"
  | .unsupportedAuthVersion version => some ("unsupported socks auth version: " ++ toString version.toNat)
  | .invalidCredentials => some "invalid socks5 credentials"
  | .indexOutOfRange => some "runtime error: slice bounds out of range"

abbrev ClientTalk := Talk ClientSocks5Error

def fillBuf (count : Nat) (buf : List UInt8) : ClientTalk (List UInt8) := fill .indexOutOfRange count buf

def containsSocks5Method (methods : List UInt8) (want : UInt8) : Bool := methods.any (· == want)

-- Every phase works on the one buffer and hands it on.
def socks5Methods (buf : List UInt8) : ClientTalk (List UInt8 × List UInt8) := do
  let buf ← fillBuf 2 buf
  require (buf.getD 0 0 = 0x05) (.shared (.invalidVersion (buf.getD 0 0)))
  let nmethods := (buf.getD 1 0).toNat
  let buf ← fillBuf nmethods buf
  pure (buf.take nmethods, buf)

def socks5Login (expected : Credentials) (buf : List UInt8) : ClientTalk (List UInt8) := do
  let buf ← fillBuf 2 buf
  require (buf.getD 0 0 = 0x01) (.unsupportedAuthVersion (buf.getD 0 0))
  let ulen := (buf.getD 1 0).toNat
  let buf ← fillBuf ulen buf
  let username := buf.take ulen
  let buf ← fillBuf 1 buf
  let plen := (buf.getD 0 0).toNat
  let buf ← fillBuf plen buf
  let status : UInt8 :=
    if constantTimeEqualBytes username (bytesOf expected.username) = false ∨
        constantTimeEqualBytes (buf.take plen) (bytesOf expected.password) = false then 0x01
    else 0x00
  say [0x01, status] (.shared .writeFailed)
  require (status = 0x00) .invalidCredentials
  pure buf

def socks5Address (kind : UInt8) (buf : List UInt8) : ClientTalk (List UInt8 × List UInt8) :=
  if kind = 0x01 then do
    let buf ← fillBuf 4 buf
    pure (bytesOf (GoAddr.ipString (buf.take 4)), buf)
  else if kind = 0x03 then do
    let buf ← fillBuf 1 buf
    let size := (buf.getD 0 0).toNat
    let buf ← fillBuf size buf
    pure (buf.take size, buf)
  else if kind = 0x04 then do
    let buf ← fillBuf 16 buf
    pure (bytesOf (GoAddr.ipString (buf.take 16)), buf)
  else refuse (.shared (.unsupportedAddressType kind))

def socks5Request (buf : List UInt8) : ClientTalk (List UInt8 × UInt16) := do
  let buf ← fillBuf 4 buf
  require (buf.getD 0 0 = 0x05 ∧ buf.getD 1 0 = 0x01) (.shared (.unsupportedCommand (buf.getD 1 0)))
  let (host, buf) ← socks5Address (buf.getD 3 0) buf
  let buf ← fillBuf 2 buf
  let port := UInt16.ofNat (BigEndian.decode (buf.take 2))
  say socks5Success (.shared .writeFailed)
  pure (host, port)

def selectedMethod (credentials : Option Credentials) : UInt8 := if credentials.isSome then 0x02 else 0x00

def handleSocks5 (credentials : Option Credentials) : ClientTalk (List UInt8 × UInt16) := do
  let (methods, buf) ← socks5Methods (List.replicate 256 0)
  if containsSocks5Method methods (selectedMethod credentials) = false then do
    say [0x05, 0xFF] (.shared .writeFailed)
    refuse .noAcceptableMethod
  else do
    say [0x05, selectedMethod credentials] (.shared .writeFailed)
    let buf ← match credentials with
      | some expected => socks5Login expected buf
      | none => pure buf
    socks5Request buf

-- The same conversation without the buffer.
def offeredMethods : ClientTalk (List UInt8) := do
  let head ← hear (readFull 2)
  require (head.getD 0 0 = 0x05) (.shared (.invalidVersion (head.getD 0 0)))
  hear (readFull (head.getD 1 0).toNat)

def checkedLogin (expected : Credentials) : ClientTalk Unit := do
  let head ← hear (readFull 2)
  require (head.getD 0 0 = 0x01) (.unsupportedAuthVersion (head.getD 0 0))
  let username ← hear (readFull (head.getD 1 0).toNat)
  let size ← hear (readFull 1)
  let password ← hear (readFull (size.getD 0 0).toNat)
  let valid := constantTimeEqualBytes username (bytesOf expected.username) &&
    constantTimeEqualBytes password (bytesOf expected.password)
  say [0x01, if valid then 0x00 else 0x01] (.shared .writeFailed)
  require valid .invalidCredentials

def authenticated : Option Credentials → ClientTalk Unit
  | some expected => checkedLogin expected
  | none => pure ()

def answeredMethods (credentials : Option Credentials) (methods : List UInt8) : ClientTalk (List UInt8 × UInt16) :=
  if containsSocks5Method methods (selectedMethod credentials) = false then do
    say [0x05, 0xFF] (.shared .writeFailed)
    refuse .noAcceptableMethod
  else do
    say [0x05, selectedMethod credentials] (.shared .writeFailed)
    authenticated credentials
    adapt .shared handleSocks5Request

def unbufferedSocks5 (credentials : Option Credentials) : ClientTalk (List UInt8 × UInt16) :=
  offeredMethods >>= answeredMethods credentials

-- A length byte never asks for more than the buffer holds.
theorem fill_buf_then {β : Type} (count : Nat) (buf : List UInt8) (sized : buf.length = 256) (small : count < 256)
    (next plain : List UInt8 → ClientTalk β)
    (same : ∀ filled bytes, filled.length = 256 → bytes.length = count → filled.take count = bytes →
      (∀ index < count, filled.getD index 0 = bytes.getD index 0) → next filled = plain bytes) :
    fillBuf count buf >>= next = hear (readFull count) >>= plain := by
  refine fill_then .indexOutOfRange count buf next plain (by omega) ?_
  intro bytes length
  refine same (splice buf 0 bytes) bytes ?_ length ?_ ?_
  · rw [splice_length buf bytes 0 (by omega), sized]
  · rw [← length]
    exact splice_front buf bytes
  · intro index inside
    exact splice_front_get buf bytes index (by omega)

theorem methods_unbuffered {β : Type} (buf : List UInt8) (sized : buf.length = 256) (next : List UInt8 × List UInt8 → ClientTalk β)
    (plain : List UInt8 → ClientTalk β)
    (same : ∀ methods filled, filled.length = 256 → next (methods, filled) = plain methods) :
    socks5Methods buf >>= next = offeredMethods >>= plain := by
  simp only [socks5Methods, offeredMethods, talk_bind_assoc, talk_pure_bind]
  refine fill_buf_then 2 buf sized (by decide) _ _ ?_
  intro filled head sized _ _ reads
  rw [reads 0 (by decide), reads 1 (by decide)]
  refine talk_bind_congr _ _ _ fun _ => ?_
  refine fill_buf_then _ filled sized (head.getD 1 0).toNat_lt _ _ ?_
  intro again methods sized _ taken _
  rw [taken]
  exact same methods again sized

theorem login_unbuffered {β : Type} (expected : Credentials) (buf : List UInt8) (sized : buf.length = 256)
    (next : List UInt8 → ClientTalk β) (plain : ClientTalk β) (same : ∀ filled, filled.length = 256 → next filled = plain) :
    socks5Login expected buf >>= next = checkedLogin expected >>= fun _ => plain := by
  simp only [socks5Login, checkedLogin, talk_bind_assoc, talk_pure_bind]
  refine fill_buf_then 2 buf sized (by decide) _ _ ?_
  intro first head sized _ _ reads
  rw [reads 0 (by decide), reads 1 (by decide)]
  refine talk_bind_congr _ _ _ fun _ => ?_
  refine fill_buf_then _ first sized (head.getD 1 0).toNat_lt _ _ ?_
  intro second username sized _ name _
  rw [name]
  refine fill_buf_then 1 second sized (by decide) _ _ ?_
  intro third size sized _ _ counted
  rw [counted 0 (by decide)]
  refine fill_buf_then _ third sized (size.getD 0 0).toNat_lt _ _ ?_
  intro fourth password sized _ secret _
  rw [secret, same fourth sized]
  cases constantTimeEqualBytes username (bytesOf expected.username) <;>
    cases constantTimeEqualBytes password (bytesOf expected.password) <;> rfl

theorem address_unbuffered {β : Type} (kind : UInt8) (buf : List UInt8) (sized : buf.length = 256)
    (next : List UInt8 × List UInt8 → ClientTalk β) (plain : List UInt8 → ClientTalk β)
    (same : ∀ host filled, filled.length = 256 → next (host, filled) = plain host) :
    socks5Address kind buf >>= next = adapt .shared (readSocks5Address kind) >>= plain := by
  rw [socks5Address, readSocks5Address]
  split
  · simp only [adapt_bind, adapt_full, adapt_pure, talk_bind_assoc, talk_pure_bind]
    refine fill_buf_then 4 buf sized (by decide) _ _ ?_
    intro filled ip sized _ taken _
    rw [taken]
    exact same _ filled sized
  · split
    · simp only [adapt_bind, adapt_full, talk_bind_assoc, talk_pure_bind]
      refine fill_buf_then 1 buf sized (by decide) _ _ ?_
      intro filled size sized _ _ reads
      rw [reads 0 (by decide)]
      refine fill_buf_then _ filled sized (size.getD 0 0).toNat_lt _ _ ?_
      intro again name sized _ taken _
      rw [taken]
      exact same name again sized
    · split
      · simp only [adapt_bind, adapt_full, adapt_pure, talk_bind_assoc, talk_pure_bind]
        refine fill_buf_then 16 buf sized (by decide) _ _ ?_
        intro filled ip sized _ taken _
        rw [taken]
        exact same _ filled sized
      · rfl

theorem request_unbuffered (buf : List UInt8) (sized : buf.length = 256) :
    socks5Request buf = adapt .shared handleSocks5Request := by
  simp only [socks5Request, handleSocks5Request, adapt_bind, adapt_full, adapt_require, adapt_say, adapt_pure]
  refine fill_buf_then 4 buf sized (by decide) _ _ ?_
  intro filled head sized _ _ reads
  rw [reads 0 (by decide), reads 1 (by decide), reads 3 (by decide)]
  refine talk_bind_congr _ _ _ fun _ => ?_
  refine address_unbuffered _ filled sized _ _ ?_
  intro host again sized
  refine fill_buf_then 2 again sized (by decide) _ _ ?_
  intro last port _ _ taken _
  rw [taken]

theorem handle_socks5_unbuffered (credentials : Option Credentials) : handleSocks5 credentials = unbufferedSocks5 credentials := by
  rw [handleSocks5, unbufferedSocks5]
  refine methods_unbuffered _ List.length_replicate _ _ ?_
  intro methods filled sized
  simp only [answeredMethods]
  split
  · rfl
  · refine talk_bind_congr _ _ _ fun _ => ?_
    cases credentials with
    | none => exact request_unbuffered filled sized
    | some expected => exact login_unbuffered expected filled sized _ _ request_unbuffered

end WarpStream
