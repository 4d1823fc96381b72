import HttpNetworkRelay.Asyncio.Simulation
import HttpNetworkRelay.BinaryFrames
import HttpNetworkRelay.Agent.EdgeAgent
import HttpNetworkRelay.Relay.Tasks

/-!
# The hot path

A piece of data for a connection reaches the relay as a binary frame, which `_msg_loop` takes on its
hot path, or as the text of an `EtRTCPDataMessage`, which goes through the parser and the `except`
clause around `handle_edge_agent_message`. Towards the agent there are the same two framings.
`framings_agree` shows that the framing makes no difference to what either program does, piece by
piece, in every state of its dictionaries.
-/

namespace HttpNetworkRelay

open Asyncio Python

/-- The two ways in which a piece of data is sent. -/
inductive Framing
  | binary
  | json
  deriving DecidableEq, Repr

namespace Framing

variable (framing : Framing) (connection_id : ConnectionId) (payload : Bytes)

/-- A piece of data as the relay receives it. -/
def toRelay : Except Exc AgentFrame :=
  match framing with
  | .binary => (encode_tcp_binary_frame connection_id payload).map .bytes
  | .json => .ok (.text { known := some (.tcpData connection_id (b64encode payload)) })

/-- A piece of data as the agent receives it. -/
def toAgent : Except Exc RelayFrame :=
  match framing with
  | .binary => (encode_tcp_binary_frame connection_id payload).map .bytes
  | .json => .ok (.text (some (.tcpData connection_id (b64encode payload))) false)

end Framing

/-- The framing is the one by which the agent sends a chunk, as the relay asks for it. -/
theorem chunkFrame_framing (request : OpenRequest) (payload : Bytes) :
    AgentState.chunkFrame request payload =
      (if request.supports_binary then Framing.binary else .json).toRelay request.connection_id
        payload := by
  unfold AgentState.chunkFrame
  split_ifs <;> rfl

/-- The framing is the one by which the relay sends what a connection is given, as its agent
announced it. -/
theorem dataMessage_framing (connection : TcpConnection) (c : ConnectionId) (payload : Bytes) :
    (connection.dataMessage c payload).map ToAgent.received =
      (if connection.agent_supports_binary then Framing.binary else .json).toAgent c payload := by
  unfold TcpConnection.dataMessage
  split_ifs
  · cases h : encode_tcp_binary_frame c payload <;>
      simp [Framing.toAgent, h, Except.map, ToAgent.received]
  · rfl

/-! ## The relay -/

variable {cfg : RelayConfig} {s : RelayState} {W : AgentSocket} {n : AgentId}

/-- A piece of data, whatever its framing, for the relay. -/
def NetworkRelay.takes (r : NetworkRelay) (piece : ConnectionId × Bytes) : NetworkRelay :=
  RelayState.handle_tcp_binary_data r piece.1 piece.2

/-- The message loop does with a frame what it does with the piece of data in it. -/
theorem frameReceived_framed {framing : Framing} {c : ConnectionId} {payload : Bytes}
    {frame : AgentFrame} (hc : canonical c = true)
    (hframe : framing.toRelay c payload = .ok frame) :
    s.frameReceived cfg W n frame =
      (s.withRelay (s.relay.takes (c, payload))).setMsgLoop W ⟨n, .receiving⟩ := by
  cases framing with
  | binary =>
    obtain ⟨data, hdata⟩ := encode_tcp_binary_frame_ok hc payload
    have hbytes : AgentFrame.bytes data = frame := by
      simpa [Framing.toRelay, hdata, Except.map] using hframe
    subst hbytes
    simp only [RelayState.frameReceived, decode_of_encode hc hdata]
    rfl
  | json =>
    obtain rfl := Except.ok.inj hframe
    show (s.withRelay (RelayState.handle_tcp_data_message s.relay c (b64encode payload))).setMsgLoop
      W
      ⟨n, .receiving⟩ = _
    unfold RelayState.handle_tcp_data_message
    rw [b64decode_b64encode]
    rfl

/-- Pieces of data and the frames in which they are sent. -/
def FramedAs (pieces : List (Framing × ConnectionId × Bytes)) (frames : List AgentFrame) : Prop :=
  List.Forall₂ (fun piece frame => piece.1.toRelay piece.2.1 piece.2.2 = .ok frame) pieces frames

/-- Data that is taken leaves the inbox as it is. -/
theorem takes_inbox (r : NetworkRelay) (piece : ConnectionId × Bytes) :
    (r.takes piece).inbox = r.inbox := by
  unfold NetworkRelay.takes RelayState.handle_tcp_binary_data
  split_ifs <;> rfl

/-- Data may be taken before or after the inbox is set. -/
theorem takes_setInbox (r : NetworkRelay) (piece : ConnectionId × Bytes)
    (frames : List AgentFrame) :
    (r.takes piece).setInbox W frames = (r.setInbox W frames).takes piece := by
  unfold NetworkRelay.takes RelayState.handle_tcp_binary_data
  split_ifs <;> first | rfl | contradiction

/-- The loop is fed framed pieces of data. -/
theorem run_framedAs {pieces : List (Framing × ConnectionId × Bytes)} {frames : List AgentFrame}
    (hc : ∀ piece ∈ pieces, canonical piece.2.1 = true)
    (hframes : FramedAs pieces frames) (hpc : s.msgLoop W = some ⟨n, .receiving⟩)
    (rest : List AgentFrame)
    (hin : s.relay.inbox W = frames ++ rest) :
    run (step cfg) s (pieces.map fun _ => .run (.msgLoop W) .next) =
      some (s.withRelay ((pieces.map Prod.snd).foldl NetworkRelay.takes
        (s.relay.setInbox W rest))) := by
  induction hframes generalizing s with
  | nil =>
    have hinbox : Function.update s.relay.inbox W rest = s.relay.inbox :=
      Function.update_eq_self_iff.mpr hin.symm
    simp [run, hinbox]
  | @cons piece frame pieces frames hframe _ ih =>
    simp only [List.forall_mem_cons] at hc
    set s₁ := s.withRelay ((s.relay.setInbox W (frames ++ rest)).takes piece.2) with hs₁
    have hstep : step cfg s (.run (.msgLoop W) .next) = some s₁ := by
      have hreceived : (s.withRelay (s.relay.setInbox W (frames ++ rest))).frameReceived cfg W n
          frame = s₁.setMsgLoop W ⟨n, .receiving⟩ := frameReceived_framed hc.1 hframe
      have hstay : s₁.setMsgLoop W ⟨n, .receiving⟩ = s₁ := by
        have hloop : Function.update s.msgLoop W (some ⟨n, .receiving⟩) = s.msgLoop :=
          Function.update_eq_self_iff.mpr hpc.symm
        simp only [hs₁, RelayState.setMsgLoop, RelayState.withRelay, hloop]
      calc step cfg s (.run (.msgLoop W) .next)
        _ = some
            ((s.withRelay (s.relay.setInbox W (frames ++ rest))).frameReceived cfg W n frame) := by
          simp [step, RelayState.resumeMsgLoop, hpc, hin]
        _ = some (s₁.setMsgLoop W ⟨n, .receiving⟩) := congrArg some hreceived
        _ = some s₁ := congrArg some hstay
    have hin₁ : s₁.relay.inbox W = frames ++ rest := by
      rw [hs₁]
      show ((s.relay.setInbox W (frames ++ rest)).takes piece.2).inbox W = _
      rw [takes_inbox]
      exact Function.update_self ..
    have hrest := ih (s := s₁) hc.2 hpc hin₁
    rw [List.map_cons, run, hstep, Option.bind_some, hrest]
    have hlast : s₁.relay.setInbox W rest = (s.relay.setInbox W rest).takes piece.2 := by
      calc ((s.relay.setInbox W (frames ++ rest)).takes piece.2).setInbox W rest
        _ = ((s.relay.setInbox W (frames ++ rest)).setInbox W rest).takes piece.2 :=
          takes_setInbox _ _ _
        _ = (s.relay.setInbox W rest).takes piece.2 := by
          simp only [NetworkRelay.setInbox, Function.update_idem]
    rw [hlast]
    rfl

/-! ## The agent -/

/-- Frames with the same piece of data. -/
inductive SamePiece : RelayFrame → RelayFrame → Prop
  | refl (frame) : SamePiece frame frame
  | framed {framing framing' : Framing} {c payload frame frame'} (hc : canonical c = true)
      (h : framing.toAgent c payload = .ok frame) (h' : framing'.toAgent c payload = .ok frame') :
      SamePiece frame frame'

/-- Events of the agent that differ at most in the framing of what is received. -/
inductive Reframed : AgentEvent → AgentEvent → Prop
  | refl (e) : Reframed e e
  | receives {frame frame'} (h : SamePiece frame frame') :
      Reframed (.main (.frame frame)) (.main (.frame frame'))

variable {acfg : AgentConfig} {a : AgentState}

/-- The receive loop of the agent does with a frame what it does with the piece of data in it. -/
theorem agent_frameReceived_framed {framing : Framing} {c : ConnectionId} {payload : Bytes}
    {frame : RelayFrame} (hc : canonical c = true)
    (hframe : framing.toAgent c payload = .ok frame) :
    a.frameReceived acfg frame = a.write_to_connection c payload := by
  cases framing with
  | binary =>
    obtain ⟨data, hdata⟩ := encode_tcp_binary_frame_ok hc payload
    have hbytes : RelayFrame.bytes data = frame := by
      simpa [Framing.toAgent, hdata, Except.map] using hframe
    subst hbytes
    simp only [AgentState.frameReceived, decode_of_encode hc hdata]
  | json =>
    obtain rfl := Except.ok.inj hframe
    simp only [AgentState.frameReceived, AgentState.messageReceived, b64decode_b64encode]

/-- Two frames of the same data lead the agent to the same state. -/
theorem agentStep_reframed {e e' : AgentEvent} (h : Reframed e e') :
    agentStep acfg a e = agentStep acfg a e' := by
  cases h with
  | refl => rfl
  | @receives frame frame' h =>
    cases h with
    | refl => rfl
    | framed hc h h' =>
      have hsame : a.frameReceived acfg frame = a.frameReceived acfg frame' :=
        (agent_frameReceived_framed hc h).trans (agent_frameReceived_framed hc h').symm
      simp only [agentStep, AgentState.resumeMain]
      cases a.main <;> simp [hsame]

/-- Runs of the agent that differ in framings only lead to the same state. -/
theorem run_reframed {es es' : List AgentEvent} (h : List.Forall₂ Reframed es es') :
    run (agentStep acfg) a es = run (agentStep acfg) a es' := by
  induction h generalizing a with
  | nil => rfl
  | cons he _ ih =>
    rw [run, run, agentStep_reframed he]
    exact congrArg (Option.bind _) (funext fun a => ih)

/-! ## Both -/

/-- Pieces of data for canonical ids can be framed in any way. -/
theorem framed_exists (pieces : List (Framing × ConnectionId × Bytes))
    (hc : ∀ piece ∈ pieces, canonical piece.2.1 = true) : ∃ frames, FramedAs pieces frames := by
  induction pieces with
  | nil => exact ⟨[], .nil⟩
  | cons piece pieces ih =>
    obtain ⟨framing, c, payload⟩ := piece
    simp only [List.forall_mem_cons] at hc
    obtain ⟨frames, hframes⟩ := ih hc.2
    have hframe : ∃ frame, framing.toRelay c payload = .ok frame := by
      cases framing with
      | binary =>
        obtain ⟨data, hdata⟩ := encode_tcp_binary_frame_ok hc.1 payload
        exact ⟨.bytes data, by simp [Framing.toRelay, hdata, Except.map]⟩
      | json => exact ⟨_, rfl⟩
    obtain ⟨frame, hframe⟩ := hframe
    exact ⟨frame :: frames, .cons hframe hframes⟩

/-- Pieces of data that the message loop is fed, each framed in one way or the other, leave the
relay in the state that the unframed pieces make, with the loop receiving; and runs of the agent
that differ only in how pieces of data are framed go through the same states. -/
theorem framings_agree :
    (∀ (cfg : RelayConfig) (s : RelayState) (W : AgentSocket) (n : AgentId)
      (pieces : List (Framing × ConnectionId × Bytes)) (rest : List AgentFrame),
      (∀ piece ∈ pieces, canonical piece.2.1 = true) → s.msgLoop W = some ⟨n, .receiving⟩ →
        (∃ frames, FramedAs pieces frames) ∧
          ∀ frames, FramedAs pieces frames →
            run (step cfg) (s.withRelay (s.relay.setInbox W (frames ++ rest)))
                (pieces.map fun _ => .run (.msgLoop W) .next) =
              some (s.withRelay ((pieces.map Prod.snd).foldl NetworkRelay.takes
                (s.relay.setInbox W rest)))) ∧
    ∀ (acfg : AgentConfig) (a : AgentState) (es es' : List AgentEvent),
      List.Forall₂ Reframed es es' → run (agentStep acfg) a es = run (agentStep acfg) a es' := by
  refine ⟨fun cfg s W n pieces rest hc hpc => ?_, fun acfg a es es' h => run_reframed h⟩
  refine ⟨framed_exists pieces hc, fun frames hframes => ?_⟩
  have hin : (s.relay.setInbox W (frames ++ rest)).inbox W = frames ++ rest :=
    Function.update_self ..
  rw [run_framedAs (s := s.withRelay (s.relay.setInbox W (frames ++ rest))) hc hframes hpc rest hin]
  simp only [RelayState.withRelay, NetworkRelay.setInbox, Function.update_idem]

/-- Three pieces of data for the open session, the second of which is framed as text. -/
def mixedPieces : List (Framing × ConnectionId × Bytes) :=
  [(.binary, someConnection, [1, 2]), (.json, someConnection, [3]), (.binary, someConnection, [4])]

/-- The agent with an open socket, and a piece of data for it. -/
def openAgentEvents (frame : RelayFrame) : List AgentEvent :=
  startAgent ++ openSocket (someTarget someConnection) ++ [.main (.frame frame)]

/-- The piece in a binary frame. -/
def somePiece : RelayFrame :=
  .bytes [0, 0, 0, 0, 0, 0, 64, 0, 128, 0, 0, 0, 0, 0, 0, 0, 1, 2]

/-- The events differ in the framing of the piece only. -/
theorem openAgentEvents_reframed : List.Forall₂ Reframed (openAgentEvents somePiece)
    (openAgentEvents (.text (some (.tcpData someConnection "AQI=")) false)) := by
  refine List.rel_append (List.forall₂_same.mpr fun e _ => .refl e) (.cons (.receives ?_) .nil)
  have hbinary : Framing.binary.toAgent someConnection [1, 2] = .ok somePiece := by decide +kernel
  have hjson : Framing.json.toAgent someConnection [1, 2] =
      .ok (.text (some (.tcpData someConnection "AQI=")) false) := by decide +kernel
  exact .framed (by decide +kernel) hbinary hjson

/-- The buffer is filled with the pieces in their order, and the agent writes its piece. -/
theorem mixedPieces_agree :
    ((((mixedPieces.map Prod.snd).foldl NetworkRelay.takes
        (liveSession.relay.setInbox ⟨0⟩ [])).connection someConnection).map (·.recv_buffer) =
          some [1, 2, 3, 4]) ∧
      (∃ frames, FramedAs mixedPieces frames ∧
        run (step plainConfig)
            (liveSession.withRelay (liveSession.relay.setInbox ⟨0⟩ (frames ++ [])))
            (mixedPieces.map fun _ => .run (.msgLoop ⟨0⟩) .next) =
          some (liveSession.withRelay ((mixedPieces.map Prod.snd).foldl NetworkRelay.takes
            (liveSession.relay.setInbox ⟨0⟩ [])))) ∧
      (run (agentStep plainAgent) {} (openAgentEvents somePiece)).isSome = true ∧
      run (agentStep plainAgent) {} (openAgentEvents somePiece) =
        run (agentStep plainAgent) {}
          (openAgentEvents (.text (some (.tcpData someConnection "AQI=")) false)) := by
  obtain ⟨⟨frames, hframes⟩, hall⟩ := framings_agree.1 plainConfig liveSession ⟨0⟩ "agent"
    mixedPieces [] (by decide +kernel) rfl
  exact ⟨by decide +kernel, ⟨frames, hframes, hall frames hframes⟩, by decide +kernel,
    framings_agree.2 plainAgent {} _ _ openAgentEvents_reframed⟩

end HttpNetworkRelay
