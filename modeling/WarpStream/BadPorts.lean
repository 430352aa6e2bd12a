import WarpStream.ReverseArg
import WarpStream.ArgRoundTrip
import WarpStream.HttpProxy

set_option autoImplicit false

namespace WarpStream

open BufReader BufWriter ByteReader GoText

-- The text of the remote port in an argument that has one.
def remotePortText (arg : String) : Option String :=
  (splitArg arg).bind fun written =>
    if written.proto = "stdio" then
      match splitHostPort (String.ofList written.info) with
      | .ok (_, port) => some port
      | .error _ => none
    else if written.proto ∈ argSchemes then (writtenTarget (splitFields written.info)).map Prod.snd
    else none

theorem port_value_number (text : String) (port : Nat) (written : IsPort text.toList port) : (portValue text).toNat = port := by
  have value := port_number text.toList port written
  rwa [String.ofList_toList] at value

theorem written_target_accepted (fields : List (List Char)) (host port : String) (written : writtenTarget fields = some (host, port)) :
    ∃ parsed, argFields fields = some parsed ∧ parsed.remotePort = portValue port := by
  rw [writtenTarget] at written
  split at written <;> cases written
  all_goals
    rename_i shape
    rw [argFields, shape]
    exact ⟨_, rfl, rfl⟩

-- An argument with a port text is accepted, whatever the text, and the port is
-- what the number parser returned beside its error.
theorem port_text_accepted (time : TimeLibrary) (arg text : String) (isReverse : Bool) (written : remotePortText arg = some text) :
    ∃ ltr, parseTunnelArg time arg isReverse = .ok ltr ∧ ltr.port = portValue text := by
  obtain ⟨⟨proto, info, query⟩, split, found⟩ := Option.bind_eq_some_iff.mp written
  simp only at found
  by_cases stdio : proto = "stdio"
  · rw [if_pos stdio] at found
    cases target : splitHostPort (String.ofList info) with
    | error error => simp [target] at found
    | ok parts =>
        obtain ⟨host, port⟩ := parts
        simp only [target, Option.some.injEq] at found
        simp only [parseTunnelArg, split, if_pos stdio, parseStdio, target, found]
        exact ⟨_, rfl, rfl⟩
  · rw [if_neg stdio] at found
    obtain ⟨known, mapped⟩ := Option.ite_none_right_eq_some.mp found
    obtain ⟨⟨host, port⟩, target, same⟩ := Option.map_eq_some_iff.mp mapped
    obtain ⟨parsed, fields, value⟩ := written_target_accepted _ host port target
    obtain ⟨protocol, made⟩ := scheme_known time query isReverse proto known
    have unix : proto ≠ "unix" := by
      rintro rfl
      exact absurd known (by decide)
    simp only [parseTunnelArg, split, if_neg stdio, if_neg unix, fields, made]
    exact ⟨_, rfl, same ▸ value⟩

def PortKept (arg : String) (ltr : LocalToRemote) : Prop :=
  ∀ text, remotePortText arg = some text → IsPort text.toList ltr.port.toNat

theorem port_kept_iff (time : TimeLibrary) (arg : String) (isReverse : Bool) :
    (∀ ltr, parseTunnelArg time arg isReverse = .ok ltr → PortKept arg ltr) ↔
      ∀ text, remotePortText arg = some text → ∃ port, IsPort text.toList port := by
  constructor
  · intro kept text written
    obtain ⟨ltr, accepted, _⟩ := port_text_accepted time arg text isReverse written
    exact ⟨_, kept ltr accepted text written⟩
  · intro decimal ltr accepted text written
    obtain ⟨port, number⟩ := decimal text written
    obtain ⟨found, again, value⟩ := port_text_accepted time arg text isReverse written
    cases accepted.symm.trans again
    rw [value, port_value_number text port number]
    exact number

-- The 200 has been written.
def HttpProxyEnd.established : HttpProxyEnd → Bool
  | .transportFailed _ => true
  | .piped _ _ _ _ => true
  | _ => false

section

variable (readRequest : Reader String ConnectRequest) (protocol : LocalProtocol)
  (connectToTransport : LocalProtocol → String → UInt16 → Option Transport) (conn : NetConn)

-- A CONNECT request that passes the checks before the answer, with the parts
-- of its authority.
structure Admitted (request : ConnectRequest) (host text : String) : Prop where
  read : ∃ reader, parse readRequest [] conn.segments = .ok (request, reader)
  connect : request.method = "CONNECT"
  authenticated : authenticateHTTPProxy request.proxyAuthorization (protocol.httpProxy.bind (·.credentials)) = true
  authority : splitHostPort request.host = .ok (host, text)
  answered : (conn.socket.write connectionEstablished).done = true

theorem established_admitted (established : (handleHttpProxy readRequest protocol connectToTransport conn).established = true) :
    ∃ request host text, Admitted readRequest protocol conn request host text := by
  rw [handleHttpProxy] at established
  cases read : parse readRequest [] conn.segments with
  | error fault => simp [read, HttpProxyEnd.established] at established
  | ok result =>
      obtain ⟨request, reader⟩ := result
      simp only [read] at established
      by_cases connect : request.method = "CONNECT"
      · rw [if_neg (not_not.mpr connect)] at established
        cases authenticated : authenticateHTTPProxy request.proxyAuthorization (protocol.httpProxy.bind (·.credentials)) with
        | false => simp [authenticated, HttpProxyEnd.established] at established
        | true =>
            cases authority : splitHostPort request.host with
            | error error => simp [authenticated, authority, HttpProxyEnd.established] at established
            | ok parts =>
                cases answered : (conn.socket.write connectionEstablished).done with
                | false => simp [authenticated, authority, answered, HttpProxyEnd.established] at established
                | true => exact ⟨request, parts.1, parts.2, ⟨reader, read⟩, connect, authenticated, authority, answered⟩
      · simp [connect, HttpProxyEnd.established] at established

theorem admitted_end (request : ConnectRequest) (host text : String) (admitted : Admitted readRequest protocol conn request host text) :
    (handleHttpProxy readRequest protocol connectToTransport conn).established = true ∧
      ∀ target port piped transport, handleHttpProxy readRequest protocol connectToTransport conn = .piped target port piped transport →
        target = host ∧ port = portValue text := by
  obtain ⟨⟨reader, read⟩, connect, authenticated, authority, answered⟩ := admitted
  simp only [handleHttpProxy, read, connect, ne_eq, not_true_eq_false, if_false, authenticated, Bool.true_eq_false, authority, answered]
  cases connectToTransport { tcp := some ⟨false⟩ } host (UInt16.ofNat (parseUint text 16).1) with
  | none => exact ⟨rfl, by simp⟩
  | some transport =>
      refine ⟨rfl, ?_⟩
      rintro target port piped transport ⟨⟩
      exact ⟨rfl, rfl⟩

def HttpPortKept : Prop :=
  (handleHttpProxy readRequest protocol connectToTransport conn).established = true →
    ∃ request reader host text port, parse readRequest [] conn.segments = .ok (request, reader) ∧
      splitHostPort request.host = .ok (host, text) ∧ IsPort text.toList port ∧
      ∀ target number piped transport,
        handleHttpProxy readRequest protocol connectToTransport conn = .piped target number piped transport →
          target = host ∧ number.toNat = port

theorem http_port_kept_iff : HttpPortKept readRequest protocol connectToTransport conn ↔
    ∀ request host text, Admitted readRequest protocol conn request host text → ∃ port, IsPort text.toList port := by
  constructor
  · intro kept request host text admitted
    obtain ⟨found, reader, name, written, port, read, authority, decimal, _⟩ :=
      kept (admitted_end readRequest protocol connectToTransport conn request host text admitted).1
    obtain ⟨_, same⟩ := admitted.read
    cases same.symm.trans read
    cases admitted.authority.symm.trans authority
    exact ⟨port, decimal⟩
  · intro decimal established
    obtain ⟨request, host, text, admitted⟩ := established_admitted readRequest protocol connectToTransport conn established
    obtain ⟨port, number⟩ := decimal request host text admitted
    obtain ⟨reader, read⟩ := admitted.read
    refine ⟨request, reader, host, text, port, read, admitted.authority, number, ?_⟩
    intro target chosen piped transport handled
    obtain ⟨name, value⟩ := (admitted_end readRequest protocol connectToTransport conn request host text admitted).2 _ _ _ _ handled
    exact ⟨name, by rw [value, port_value_number text port number]⟩

theorem bad_ports_refused_iff (time : TimeLibrary) (arg : String) (isReverse : Bool) :
    ((∀ ltr, parseTunnelArg time arg isReverse = .ok ltr → PortKept arg ltr) ↔
        ∀ text, remotePortText arg = some text → ∃ port, IsPort text.toList port) ∧
      (HttpPortKept readRequest protocol connectToTransport conn ↔
        ∀ request host text, Admitted readRequest protocol conn request host text → ∃ port, IsPort text.toList port) :=
  ⟨port_kept_iff time arg isReverse, http_port_kept_iff readRequest protocol connectToTransport conn⟩

end

def connectTooHigh : List UInt8 := bytesOf "CONNECT a:80443 HTTP/1.1\r\n\r\n"

def connectToTooHigh : ConnectRequest := ⟨"CONNECT", "a:80443", ""⟩

theorem connect_too_high_some : connectTooHigh ≠ [] := by decide

theorem too_high_piped :
    handleHttpProxy (expect connectTooHigh connectToTooHigh) {} overWst ⟨[connectTooHigh ++ []], ⟨[], []⟩⟩ =
      .piped "a" 65535 ⟨[], ⟨connectionEstablished, []⟩⟩ .wst := by
  have parsed : parse (expect connectTooHigh connectToTooHigh : Reader String ConnectRequest) []
      [connectTooHigh ++ []] = _ := expect_parse connectTooHigh [] connectToTooHigh [] connect_too_high_some
  have target : splitHostPort connectToTooHigh.host = .ok ("a", "80443") := by decide
  rw [handleHttpProxy, parsed]
  simp only [target]
  rfl

-- A port out of range becomes the last port, and one that is no number port 0.
theorem bad_ports_replaced :
    parseTunnelArg noTime "tcp://80:a:80443" false = .ok ⟨{ tcp := some ⟨false⟩ }, "127.0.0.1:80", "a", 65535⟩ ∧
      ¬ PortKept "tcp://80:a:80443" ⟨{ tcp := some ⟨false⟩ }, "127.0.0.1:80", "a", 65535⟩ ∧
      parseTunnelArg noTime "stdio://a:https" false = .ok ⟨{ stdio := some ⟨false⟩ }, "", "a", 0⟩ ∧
      handleHttpProxy (expect connectTooHigh connectToTooHigh) {} overWst ⟨[connectTooHigh ++ []], ⟨[], []⟩⟩ =
        .piped "a" 65535 ⟨[], ⟨connectionEstablished, []⟩⟩ .wst := by
  refine ⟨by decide, ?_, by decide, too_high_piped⟩
  intro kept
  exact absurd (kept "80443" (by decide)).1.2.2 (by decide)

end WarpStream
