import WarpStream.Socks5Acceptance

set_option autoImplicit false

namespace WarpStream

open ByteReader Dialogue GoText

-- The answer to the greeting is 05 and a method; FF accepts none.
def SelectsOffered (wire after : Wire) : Prop :=
  ∀ method tail, after.socket.sent = wire.socket.sent ++ ([0x05, method] ++ tail) → method ≠ 0xFF →
    ∃ (greeting : Socks5Greeting) (rest : List UInt8), wire.input = greeting.bytes ++ rest ∧ method ∈ greeting.methods

def accepted : ClientTalk (List UInt8 × UInt16) :=
  say [0x05, 0x00] (.shared .writeFailed) >>= fun _ => adapt .shared handleSocks5Request

theorem handshake_offered : adapt .shared handleSocks5Handshake = offeredMethods >>= fun _ => accepted := by
  simp only [handleSocks5Handshake, offeredMethods, accepted, adapt_bind, adapt_full, adapt_require, adapt_say, talk_bind_assoc]

theorem answered_accepted (methods : List UInt8) (offered : 0x00 ∈ methods) : answeredMethods none methods = accepted :=
  answered_offered none methods offered

theorem methods_heard (wire middle : Wire) (methods : List UInt8) (heard : offeredMethods wire = .ok (methods, middle)) :
    ∃ greeting : Socks5Greeting, wire.input = greeting.bytes ++ middle.input ∧ methods = greeting.methods ∧
      middle.socket = wire.socket := by
  obtain ⟨_, _, ⟨greeting, rfl, same, rfl⟩, input, sends⟩ := (recognises_methods wire methods middle).mp heard
  exact ⟨greeting, input, same, sends⟩

theorem greeting_heard (wire : Wire) (greeting : Socks5Greeting) (rest : List UInt8) (input : wire.input = greeting.bytes ++ rest) :
    offeredMethods wire = .ok (greeting.methods, ⟨rest, wire.socket⟩) :=
  (recognises_methods wire _ _).mpr ⟨_, [], ⟨greeting, rfl, rfl, rfl⟩, input, rfl⟩

theorem accepted_says (wire : Wire) (faultless : wire.socket.faults = []) :
    ∃ tail, (leftover (accepted wire)).socket.sent = wire.socket.sent ++ ([0x05, 0x00] ++ tail) := by
  rw [accepted, say_then _ _ _ wire faultless]
  obtain ⟨said, socket⟩ := leftover_appends _ _ 0 inRange (recognises_adapt .shared _ _ recognises_request)
    (fails_adapt .shared inRange _ 0 (request_fails _ shared_in_range)) ⟨wire.input, ⟨wire.socket.sent ++ [0x05, 0x00], []⟩⟩ rfl
  refine ⟨said, ?_⟩
  rw [socket, List.append_assoc]

theorem same_method (sent tail other : List UInt8) (method chosen : UInt8)
    (same : sent ++ ([0x05, chosen] ++ other) = sent ++ ([0x05, method] ++ tail)) : method = chosen := by
  simp only [List.append_cancel_left_eq, List.cons_append, List.cons.injEq, true_and] at same
  exact same.1.symm

-- Whatever the peer sends, the client selects no method that is not among the
-- ones it has heard.
theorem client_selects_offered (wire : Wire) (faultless : wire.socket.faults = []) :
    SelectsOffered wire (leftover (handleSocks5 none wire)) := by
  intro method tail sent chosen
  rw [handle_socks5_unbuffered, unbufferedSocks5] at sent
  cases heard : offeredMethods wire with
  | error failure =>
      obtain ⟨fault, after⟩ := failure
      obtain ⟨_, said, few, socket⟩ := methods_fail 0 wire fault after faultless heard
      rw [bind_of_error _ _ wire _ heard] at sent
      change after.socket.sent = _ at sent
      rw [socket, List.append_cancel_left_eq] at sent
      rw [sent] at few
      exact absurd few (Nat.not_succ_le_zero _)
  | ok outcome =>
      obtain ⟨methods, middle⟩ := outcome
      obtain ⟨greeting, input, rfl, socket⟩ := methods_heard wire middle methods heard
      rw [bind_of_ok _ _ wire middle _ heard] at sent
      by_cases offered : 0x00 ∈ greeting.methods
      · rw [answered_accepted _ offered] at sent
        obtain ⟨said, spoken⟩ := accepted_says middle (by rw [socket, faultless])
        rw [spoken, socket] at sent
        rw [same_method _ _ _ _ _ sent]
        exact ⟨greeting, middle.input, input, offered⟩
      · rw [answered_refused none _ offered, say_then _ _ _ middle (by rw [socket, faultless]), socket] at sent
        exact absurd (same_method _ tail [] method 0xFF sent) chosen

theorem server_selects (wire : Wire) (faultless : wire.socket.faults = []) (greeting : Socks5Greeting) (rest : List UInt8)
    (input : wire.input = greeting.bytes ++ rest) :
    ∃ tail, (leftover (handleSocks5Handshake wire)).socket.sent = wire.socket.sent ++ ([0x05, 0x00] ++ tail) := by
  rw [← (adapt_agrees ClientSocks5Error.shared handleSocks5Handshake wire).2, handshake_offered,
    bind_of_ok _ _ wire _ _ (greeting_heard wire greeting rest input)]
  exact accepted_says ⟨rest, wire.socket⟩ faultless

theorem client_as_server (wire : Wire)
    (offers : ∀ (greeting : Socks5Greeting) rest, wire.input = greeting.bytes ++ rest → 0x00 ∈ greeting.methods) :
    handleSocks5 none wire = adapt .shared handleSocks5Handshake wire := by
  rw [handle_socks5_unbuffered, unbufferedSocks5, handshake_offered]
  cases heard : offeredMethods wire with
  | error failure => rw [bind_of_error _ _ wire _ heard, bind_of_error _ _ wire _ heard]
  | ok outcome =>
      obtain ⟨methods, middle⟩ := outcome
      obtain ⟨greeting, input, rfl, _⟩ := methods_heard wire middle methods heard
      rw [bind_of_ok _ _ wire middle _ heard, bind_of_ok _ _ wire middle _ heard,
        answered_accepted _ (offers greeting middle.input input)]

theorem socks5_sides_agree_iff (wire : Wire) (faultless : wire.socket.faults = []) :
    (Agree (handleSocks5Handshake wire) (handleSocks5 none wire) ∧
      SelectsOffered wire (leftover (handleSocks5Handshake wire)) ∧ SelectsOffered wire (leftover (handleSocks5 none wire))) ↔
    ∀ (greeting : Socks5Greeting) rest, wire.input = greeting.bytes ++ rest → 0x00 ∈ greeting.methods := by
  constructor
  · rintro ⟨_, selects, _⟩ greeting rest input
    obtain ⟨tail, sent⟩ := server_selects wire faultless greeting rest input
    obtain ⟨other, behind, same, offered⟩ := selects 0x00 tail sent (by decide)
    rw [(greeting_unique greeting other rest behind (input.symm.trans same)).1]
    exact offered
  · intro offers
    obtain ⟨agrees, left⟩ := adapt_agrees ClientSocks5Error.shared handleSocks5Handshake wire
    have client := client_selects_offered wire faultless
    have same := client_as_server wire offers
    refine ⟨?_, ?_, client⟩
    · rw [same]
      exact agrees
    · rw [same, left] at client
      exact client

theorem both_methods_agree :
    let wire : Wire := ⟨[0x05, 2, 0x02, 0x00, 0x05, 0x01, 0x00, 0x03, 1, 97, 0, 80], ⟨[], []⟩⟩
    Agree (handleSocks5Handshake wire) (handleSocks5 none wire) ∧
      SelectsOffered wire (leftover (handleSocks5Handshake wire)) ∧ SelectsOffered wire (leftover (handleSocks5 none wire)) := by
  refine (socks5_sides_agree_iff _ rfl).mpr ?_
  intro greeting rest input
  rw [← (greeting_unique ⟨[0x02, 0x00], by decide⟩ greeting [0x05, 0x01, 0x00, 0x03, 1, 97, 0, 80] rest input).1]
  decide

theorem server_selects_unoffered :
    let wire : Wire := ⟨[0x05, 1, 0x02, 0x05, 0x01, 0x00, 0x03, 1, 97, 0, 80], ⟨[], []⟩⟩
    handleSocks5Handshake wire = .ok (([97], 80), ⟨[], ⟨[0x05, 0x00] ++ socks5Success, []⟩⟩) ∧
      handleSocks5 none wire =
        .error (.other .noAcceptableMethod, ⟨[0x05, 0x01, 0x00, 0x03, 1, 97, 0, 80], ⟨[0x05, 0xFF], []⟩⟩) := by
  refine ⟨rfl, ?_⟩
  rw [handle_socks5_unbuffered]
  rfl

end WarpStream
