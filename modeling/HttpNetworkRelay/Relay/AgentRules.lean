import HttpNetworkRelay.Relay.Specs
import HttpNetworkRelay.Relay.Tasks

/-!
# What the tasks of an agent's websocket can do

One relation for each task that serves an agent's websocket: `HandshakeRule`, `KeepAliveRule` and
`MsgLoopRule`, with `FrameRule` for the frame that `_msg_loop` handles. A rule gives the program
point, the outcome that resumes the task, the guards and the state afterwards; the resume functions
are shown to follow the rules.
-/

namespace HttpNetworkRelay

open Asyncio Python RelayState NetworkRelay

/-! ## ws_for_edge_agents and keep_alive -/

/-- The rules of `ws_for_edge_agents`. -/
inductive HandshakeRule (cfg : RelayConfig) (s : RelayState) (ws : AgentSocket) :
    Handshake → Outcome → RelayState → Prop
  | accepts :
      HandshakeRule cfg s ws .accepting .ok
        ((s.withRelay (s.relay.appendAgent ws)).setHandshake ws .receivingStart)
  | receives {frame rest} (hin : s.relay.inbox ws = frame :: rest) :
      HandshakeRule cfg s ws .receivingStart .next
        ((s.withRelay (s.relay.setInbox ws rest)).setHandshake ws (startReceived cfg frame))
  | refuses {m o} (ho : o = .permit none ∨ o = .permit (some "")) :
      HandshakeRule cfg s ws (.checking m) o
        ((s.withRelay (s.relay.closeAgent ws)).setHandshake ws .refusing)
  | opens {m n} (hn : n ≠ "") (hfree : s.relay.registered_agent_connections n = none) :
      HandshakeRule cfg s ws (.checking m) (.permit (some n))
        ((s.withRelay (s.relay.setSupportsBinary n m.supports_binary)).openAgent ws m n)
  | duplicate {m n other} (hn : n ≠ "")
      (hreg : s.relay.registered_agent_connections n = some other)
      (hattr : cfg.closed_attribute = true) (halive : s.relay.agent_dead other = false) :
      HandshakeRule cfg s ws (.checking m) (.permit (some n))
        ((s.withRelay ((s.relay.setSupportsBinary n m.supports_binary).closeAgent ws)).setHandshake
          ws .refusing)
  | noAttribute {m n other} (hn : n ≠ "")
      (hreg : s.relay.registered_agent_connections n = some other)
      (hattr : cfg.closed_attribute = false) :
      HandshakeRule cfg s ws (.checking m) (.permit (some n))
        ((s.withRelay (s.relay.setSupportsBinary n m.supports_binary)).setHandshake ws
          (.finished (.error .attributeError)))
  | evicts {m n other r' res} (hn : n ≠ "")
      (hreg : s.relay.registered_agent_connections n = some other)
      (hattr : cfg.closed_attribute = true) (hdead : s.relay.agent_dead other = true)
      (h : TeardownStart (s.relay.setSupportsBinary n m.supports_binary) n r' res) :
      HandshakeRule cfg s ws (.checking m) (.permit (some n)) (s.evicted ws m n (r', res))
  | evicting {m n pc o r' res} (h : TeardownStep s.relay pc o r' res) :
      HandshakeRule cfg s ws (.evicting m n pc) o (s.evicted ws m n (r', res))
  | ends {pc o result} (hpc : ∀ m n t, pc ≠ .evicting m n t)
      (hpc' : ∀ result, pc ≠ .finished result)
      (hres : ∀ n, result ≠ .ok (some n)) :
      HandshakeRule cfg s ws pc o (s.setHandshake ws (.finished result))

/-- The stretch of a handshake from the permission on is one of the rules. -/
theorem RelayState.permitted_rule {cfg : RelayConfig} {s : RelayState} {ws : AgentSocket}
    {m : EtRStartMessage} {n : AgentId} (hn : n ≠ "") :
    HandshakeRule cfg s ws (.checking m) (.permit (some n)) (s.permitted cfg ws m n) := by
  unfold permitted
  dsimp only
  split
  · exact .opens hn ‹_›
  · rename_i other hreg
    split
    · -- In this configuration Starlette's websocket has the attribute `closed`.
      rename_i hattr
      split
      · rename_i hdead
        exact .evicts hn hreg hattr hdead (edge_agent_connection_close_start _ _ _)
      · rename_i halive
        exact .duplicate hn hreg hattr (by simpa using halive)
    · rename_i hattr
      exact .noAttribute hn hreg (by simpa using hattr)

/-- What a resumption of a handshake does. -/
theorem RelayState.resumeHandshake_rule {cfg : RelayConfig} {s s' : RelayState} {ws : AgentSocket}
    {pc : Handshake} {o : Outcome} (h : s.resumeHandshake cfg ws pc o = some s') :
    HandshakeRule cfg s ws pc o s' := by
  cases pc with
  | accepting =>
    simp only [resumeHandshake] at h
    split at h <;> cases h
    · exact .accepts
    · exact .ends (by simp) (by simp) (by simp)
  | receivingStart =>
    simp only [resumeHandshake] at h
    split at h <;> cases h
    · exact .receives ‹_›
    · exact .ends (by simp) (by simp) (by simp)
  | checking m =>
    simp only [resumeHandshake] at h
    split at h
    · split at h <;> cases h
      · subst_vars
        exact .refuses (.inr rfl)
      · exact permitted_rule ‹_›
    · cases h
      exact .refuses (.inl rfl)
    · cases h
      exact .ends (by simp) (by simp) (by simp)
    · cases h
  | refusing =>
    simp only [resumeHandshake] at h
    split at h <;> cases h
    · exact .ends (by simp) (by simp) (by simp)
    · exact .ends (by simp) (by simp) (by simp)
  | evicting m n pc =>
    obtain ⟨⟨r', res⟩, hres, rfl⟩ := Option.map_eq_some_iff.mp h
    exact .evicting (EdgeAgentConnectionClose.resume_step hres)
  | finished result => cases h

/-- The rules of `keep_alive`. -/
inductive KeepAliveRule (s : RelayState) (ws : AgentSocket) :
    KeepAlive → Outcome → RelayState → Prop
  | sends {r' res} (h : SendStep s.relay ws (.ok (.text .keepAlive)) none .ok r' res) :
      KeepAliveRule s ws .sleeping .ok (s.keepAliveSent ws (r', res))
  | sending {send o r' res}
      (h : SendStep s.relay ws (.ok (.text .keepAlive)) (some send) o r' res) :
      KeepAliveRule s ws (.sending send) o (s.keepAliveSent ws (r', res))
  | stops : KeepAliveRule s ws .sleeping .notConnected (s.setKeepAlive ws (.finished (.ok ())))

/-- What a resumption of a keep-alive task does. -/
theorem RelayState.resumeKeepAlive_rule {s s' : RelayState} {ws : AgentSocket} {pc : KeepAlive}
    {o : Outcome} (h : s.resumeKeepAlive ws pc o = some s') : KeepAliveRule s ws pc o s' := by
  cases pc with
  | sleeping =>
    simp only [resumeKeepAlive] at h
    split at h <;> cases h
    · exact .sends (locked_send_step _ _ _ _ _)
    · exact .stops
  | sending send =>
    obtain ⟨⟨r', res⟩, hres, rfl⟩ := Option.map_eq_some_iff.mp h
    exact .sending (LockedSend.resume_step hres)
  | finished result => cases h

/-! ## _msg_loop -/

/-- The bytes that a frame carries for a connection, where it carries any. -/
def AgentFrame.data? : AgentFrame → Option (ConnectionId × Bytes)
  | .bytes binary => (decode_tcp_binary_frame binary).toOption
  | .text ⟨some (.tcpData c data_base64), _⟩ => ((b64decode data_base64).toOption).map (c, ·)
  | .text _ => none

/-- The connection that a frame resets, where it is a reset. -/
def AgentFrame.reset? : AgentFrame → Option ConnectionId
  | .text ⟨some (.connectionReset _ c), _⟩ => some c
  | _ => none

/-- The answer that a frame carries, with the connection id that it is for. -/
def AgentFrame.answer? : AgentFrame → Option (ConnectionId × EdgeAgentToRelayMessage)
  | .text ⟨some (.start m), _⟩ => (EdgeAgentToRelayMessage.start m).connection_id?.map (·, .start m)
  | .text ⟨some (.initiateConnectionError e c), _⟩ => some (c, .initiateConnectionError e c)
  | .text ⟨some (.initiateConnectionOK c), _⟩ => some (c, .initiateConnectionOK c)
  | _ => none

/-- A frame that `_msg_loop` does not survive: too short to hold an id, or a text that neither
`EdgeAgentToRelayMessage` nor the relay's custom class accepts. -/
def AgentFrame.malformed (cfg : RelayConfig) : AgentFrame → Bool
  | .bytes binary => binary.length < 16
  | .text content => content.known.isNone && !(cfg.CustomAgentToRelayMessage && content.custom)

/-- The rules of the body of `_msg_loop` for a frame that has been taken from the websocket. -/
inductive FrameRule (cfg : RelayConfig) (s : RelayState) (ws : AgentSocket) (n : AgentId) :
    AgentFrame → RelayState → Prop
  | stops {frame e} (hbad : frame.malformed cfg = true) :
      FrameRule cfg s ws n frame (s.setMsgLoop ws ⟨n, .finished (.error e)⟩)
  | ignores {frame} (hgood : frame.malformed cfg = false)
      (hdata : ∀ c data, frame.data? = some (c, data) → c ∉ s.relay.active_relayed_connections)
      (hreset : ∀ c, frame.reset? = some c → c ∈ s.relay.active_relayed_connections →
        s.relay.connection c = none)
      (hans : ∀ c m, frame.answer? = some (c, m) →
        c ∉ s.relay.initiate_connection_answer_queues) :
      FrameRule cfg s ws n frame (s.setMsgLoop ws ⟨n, .receiving⟩)
  | fills {frame c data} (hdata : frame.data? = some (c, data))
      (hact : c ∈ s.relay.active_relayed_connections) :
      FrameRule cfg s ws n frame
        ((s.withRelay (s.relay.modifyConnection c (·.fill_recv data))).setMsgLoop ws
          ⟨n, .receiving⟩)
  | schedules {frame c connection} (hreset : frame.reset? = some c)
      (hact : c ∈ s.relay.active_relayed_connections)
      (hc : s.relay.connection c = some connection) (hcls : connection.cls = .tcpConnection) :
      FrameRule cfg s ws n frame
        ((s.scheduleClose c connection.agent_connection).setMsgLoop ws ⟨n, .receiving⟩)
  | resets {frame c connection r' send} (hreset : frame.reset? = some c)
      (hact : c ∈ s.relay.active_relayed_connections)
      (hc : s.relay.connection c = some connection) (hcls : connection.cls = .tcpConnectionAsync)
      (same : s.relay.SameButSends r')
      (hsend : Sending s.relay connection.agent_connection (closeMessage c) r' send) :
      FrameRule cfg s ws n frame
        ((s.withRelay r').setMsgLoop ws ⟨n, .resetting c (.informing send)⟩)
  | answers {frame c m} (hans : frame.answer? = some (c, m))
      (hq : c ∈ s.relay.initiate_connection_answer_queues) (hempty : s.relay.answers c = []) :
      FrameRule cfg s ws n frame
        ((s.withRelay (s.relay.setAnswers c [m])).setMsgLoop ws ⟨n, .receiving⟩)
  | blocks {frame c m} (hans : frame.answer? = some (c, m))
      (hq : c ∈ s.relay.initiate_connection_answer_queues) (hfull : s.relay.answers c ≠ []) :
      FrameRule cfg s ws n frame (s.setMsgLoop ws ⟨n, .putting c m⟩)
  | custom {frame} (hgood : frame.malformed cfg = false) (hdata : frame.data? = none)
      (hreset : frame.reset? = none) (hans : frame.answer? = none) :
      FrameRule cfg s ws n frame (s.setMsgLoop ws ⟨n, .handlingCustom⟩)

/-- What a message loop does with a message that is neither data nor a reset. -/
theorem RelayState.handle_answer_rule {cfg : RelayConfig} {s : RelayState} {ws : AgentSocket}
    {n : AgentId} {frame : AgentFrame} (m : EdgeAgentToRelayMessage)
    (hgood : frame.malformed cfg = false) (hdata : frame.data? = none)
    (hreset : frame.reset? = none) (hans : frame.answer? = m.connection_id?.map (·, m)) :
    FrameRule cfg s ws n frame (s.handle_answer ws n m) := by
  -- An answer for which nobody has a queue is ignored.
  have ignores : (∀ c, m.connection_id? = some c →
      c ∉ s.relay.initiate_connection_answer_queues) →
      FrameRule cfg s ws n frame (s.setMsgLoop ws ⟨n, .receiving⟩) := by
    refine fun hq => .ignores hgood (by simp [hdata]) (by simp [hreset]) fun c m' h => ?_
    rw [hans] at h
    obtain ⟨c', hc', hpair⟩ := Option.map_eq_some_iff.mp h
    obtain ⟨rfl, -⟩ := Prod.mk.inj hpair
    exact hq _ hc'
  unfold handle_answer
  split
  · rename_i c hc
    have hans' : frame.answer? = some (c, m) := by rw [hans, hc]; rfl
    split
    · split
      · exact .answers hans' ‹_› ‹_›
      · exact .blocks hans' ‹_› ‹_›
    · rename_i hq
      refine ignores fun c' hc' => ?_
      obtain rfl : c = c' := Option.some.inj (hc.symm.trans hc')
      exact hq
  · rename_i hnone
    exact ignores (by simp [hnone])

/-- What a message loop does with a frame. -/
theorem RelayState.frameReceived_rule (cfg : RelayConfig) (s : RelayState) (ws : AgentSocket)
    (n : AgentId) (frame : AgentFrame) :
    FrameRule cfg s ws n frame (s.frameReceived cfg ws n frame) := by
  cases frame with
  -- A binary frame is data, or shorter than its header.
  | bytes binary =>
    simp only [frameReceived]
    split
    · rename_i e hdec
      refine .stops ?_
      have hnot := (decode_tcp_binary_frame_isOk binary).not.mp (by simp [hdec])
      simpa [AgentFrame.malformed] using hnot
    · rename_i c payload hdec
      have hlen := (decode_tcp_binary_frame_isOk binary).mp ⟨_, hdec⟩
      have hgood : (AgentFrame.bytes binary).malformed cfg = false := by
        simpa [AgentFrame.malformed] using hlen
      have hdata : (AgentFrame.bytes binary).data? = some (c, payload) := by
        simp [AgentFrame.data?, hdec, Except.toOption]
      unfold handle_tcp_binary_data
      split
      · exact .fills hdata ‹_›
      · refine .ignores hgood ?_ (by simp [AgentFrame.reset?]) (by simp [AgentFrame.answer?])
        rintro c' data h
        rw [hdata] at h
        obtain ⟨rfl, -⟩ := Prod.mk.inj (Option.some.inj h)
        assumption
  | text content =>
    obtain ⟨known, custom⟩ := content
    cases known with
    | none =>
      simp only [frameReceived]
      split
      · rename_i hcustom
        exact .custom (by simp only [AgentFrame.malformed, hcustom]; rfl) rfl rfl rfl
      · rename_i hcustom
        rw [Bool.not_eq_true] at hcustom
        exact .stops (by simp only [AgentFrame.malformed, hcustom]; rfl)
    | some message =>
      have hgood : (AgentFrame.text ⟨some message, custom⟩).malformed cfg = false := rfl
      simp only [frameReceived]
      cases message with
      | start m => exact handle_answer_rule (.start m) hgood rfl rfl rfl
      | initiateConnectionError e c =>
        exact handle_answer_rule (.initiateConnectionError e c) hgood rfl rfl rfl
      | initiateConnectionOK c =>
        exact handle_answer_rule (.initiateConnectionOK c) hgood rfl rfl rfl
      | tcpData c data_base64 =>
        simp only [handle_edge_agent_message]
        -- The data is ignored if the connection is not active or the base64 is not valid.
        have hignore : (c ∈ s.relay.active_relayed_connections →
            ∃ e, b64decode data_base64 = .error e) →
            FrameRule cfg s ws n (.text ⟨some (.tcpData c data_base64), custom⟩)
              (s.setMsgLoop ws ⟨n, .receiving⟩) := by
          refine fun hbad => .ignores hgood ?_ (by simp [AgentFrame.reset?])
            (by simp [AgentFrame.answer?])
          rintro c' data h hact
          simp only [AgentFrame.data?, Option.map_eq_some_iff, Prod.mk.injEq] at h
          obtain ⟨data', hdec, rfl, -⟩ := h
          obtain ⟨e, he⟩ := hbad hact
          rw [he] at hdec
          cases hdec
        unfold handle_tcp_data_message
        split
        · split
          · rename_i data hdec
            exact .fills (by simp [AgentFrame.data?, hdec, Except.toOption]) ‹_›
          · rename_i e hdec
            exact hignore fun _ => ⟨e, hdec⟩
        · exact hignore fun h => absurd h ‹_›
      | connectionReset msg c =>
        simp only [handle_edge_agent_message]
        -- A reset needs the list and the table to know the connection.
        have hignore : (c ∈ s.relay.active_relayed_connections → s.relay.connection c = none) →
            FrameRule cfg s ws n (.text ⟨some (.connectionReset msg c), custom⟩)
              (s.setMsgLoop ws ⟨n, .receiving⟩) := by
          refine fun hnone => .ignores hgood (by simp [AgentFrame.data?]) ?_
            (by simp [AgentFrame.answer?])
          rintro c' h
          obtain rfl : c = c' := by simpa [AgentFrame.reset?] using h
          exact hnone
        unfold handle_connection_reset_message
        split
        · split
          · rename_i connection hc
            split
            · exact .schedules rfl ‹_› hc ‹_›
            · obtain ⟨r', send, heq, same, hsend⟩ := close_relayed_connection_ok s.relay
                (.msgLoop ws) c connection.agent_connection
              rw [heq]
              exact .resets rfl ‹_› hc ‹_› same hsend
          · exact hignore fun _ => ‹_›
        · exact hignore fun h => absurd h ‹_›
      | keepAlive =>
        exact .ignores hgood (by simp [AgentFrame.data?]) (by simp [AgentFrame.reset?])
          (by simp [AgentFrame.answer?])

/-- The rules of `_msg_loop`. -/
inductive MsgLoopRule (cfg : RelayConfig) (s : RelayState) (ws : AgentSocket) (n : AgentId) :
    MsgLoop → Outcome → RelayState → Prop
  | disconnects {o r' res} (ho : o = .disconnect ∨ o = .raised .webSocketDisconnect)
      (h : TeardownStart s.relay n r' res) :
      MsgLoopRule cfg s ws n .receiving o (s.tornDown ws n (r', res))
  | receiveFails {e} (he : e ≠ .webSocketDisconnect) :
      MsgLoopRule cfg s ws n .receiving (.raised e)
        (s.setMsgLoop ws ⟨n, .finished (.error (.ws e))⟩)
  | receives {frame rest s'} (hin : s.relay.inbox ws = frame :: rest)
      (h : FrameRule cfg (s.withRelay (s.relay.setInbox ws rest)) ws n frame s') :
      MsgLoopRule cfg s ws n .receiving .next s'
  | resetting {c pc connection o r' res} (hc : s.relay.connection c = some connection)
      (h : CloseStep s.relay c connection.agent_connection pc o r' res) :
      MsgLoopRule cfg s ws n (.resetting c pc) o (s.resetHandled ws n c (r', res))
  | puts {c m} (hempty : s.relay.answers c = []) :
      MsgLoopRule cfg s ws n (.putting c m) .ok
        ((s.withRelay (s.relay.setAnswers c [m])).setMsgLoop ws ⟨n, .receiving⟩)
  | customHandled {o} :
      MsgLoopRule cfg s ws n .handlingCustom o (s.setMsgLoop ws ⟨n, .receiving⟩)
  | tearingDown {pc o r' res} (h : TeardownStep s.relay pc o r' res) :
      MsgLoopRule cfg s ws n (.tearingDown pc) o (s.tornDown ws n (r', res))

/-- What a resumption of a message loop does. -/
theorem RelayState.resumeMsgLoop_rule {cfg : RelayConfig} {s s' : RelayState} {ws : AgentSocket}
    {task : MsgLoopTask} {o : Outcome} (h : s.resumeMsgLoop cfg ws task o = some s') :
    MsgLoopRule cfg s ws task.connection_id task.pc o s' := by
  obtain ⟨n, pc⟩ := task
  cases pc with
  | receiving =>
    simp only [resumeMsgLoop] at h
    split at h <;> cases h
    · exact .disconnects (.inl rfl) (edge_agent_connection_close_start _ _ _)
    · exact .disconnects (.inr rfl) (edge_agent_connection_close_start _ _ _)
    · exact .receiveFails (by simpa using ‹_›)
    · exact .receives ‹_› (frameReceived_rule _ _ _ _ _)
  | resetting c pc =>
    simp only [resumeMsgLoop] at h
    split at h
    · obtain ⟨⟨r', res⟩, hres, rfl⟩ := Option.map_eq_some_iff.mp h
      exact .resetting ‹_› (CloseRelayedConnection.resume_step hres)
    · cases h
  | putting c m =>
    simp only [resumeMsgLoop] at h
    split at h
    · rename_i hcond
      obtain ⟨rfl, hempty⟩ := hcond
      cases h
      exact .puts hempty
    · cases h
  | handlingCustom =>
    simp only [resumeMsgLoop] at h
    split at h <;> cases h
    · exact .customHandled
    · exact .customHandled
  | tearingDown pc =>
    obtain ⟨⟨r', res⟩, hres, rfl⟩ := Option.map_eq_some_iff.mp h
    exact .tearingDown (EdgeAgentConnectionClose.resume_step hres)
  | finished result => cases h

end HttpNetworkRelay
