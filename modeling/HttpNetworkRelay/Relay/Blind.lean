import HttpNetworkRelay.Asyncio.Simulation
import HttpNetworkRelay.Relay.AccessClients

/-!
# What a wrong secret can do

The sessions of access clients are the only tasks that look at a start message, and a session whose
secret is wrong is turned away whatever else its start message asks for. So two runs that differ in
such messages only go through states that are alike, and an agent cannot tell them apart.
-/

namespace HttpNetworkRelay

open Asyncio Python RelayState NetworkRelay

/-! ## Other tasks do not look at sessions -/

/-- The sessions are replaced. -/
abbrev RelayState.withClients (s : RelayState) (client : ClientSocket → Option Client) :
    RelayState :=
  { s with client }

section

variable {cfg : RelayConfig} {s : RelayState} {client : ClientSocket → Option Client}

/-- Other sessions leave the relay's tables as they are. -/
theorem withClients_relay : (s.withClients client).relay = s.relay := rfl

/-- Where a result does not depend on the sessions, an optional one does not either. -/
theorem map_withClients {α : Type} {x : Option α} {f g : α → RelayState}
    (h : ∀ a, f a = (g a).withClients client) : x.map f = (x.map g).map (·.withClients client) := by
  cases x with
  | none => rfl
  | some a => exact congrArg some (h a)

/-- The end of an eviction ignores the sessions. -/
theorem evicted_withClients (ws : AgentSocket) (m : EtRStartMessage) (n : AgentId)
    (x : NetworkRelay × Res EdgeAgentConnectionClose Unit Exc) :
    (s.withClients client).evicted ws m n x = (s.evicted ws m n x).withClients client := by
  obtain ⟨r, res⟩ := x
  cases res <;> rfl

/-- The registration of an agent ignores the sessions. -/
theorem permitted_withClients (ws : AgentSocket) (m : EtRStartMessage) (n : AgentId) :
    (s.withClients client).permitted cfg ws m n = (s.permitted cfg ws m n).withClients client := by
  unfold permitted
  dsimp only [withClients]
  split
  · rfl
  · split
    · split
      · exact evicted_withClients ws m n _
      · rfl
    · rfl

/-- A handshake ignores the sessions. -/
theorem resumeHandshake_withClients (ws : AgentSocket) (pc : Handshake) (o : Outcome) :
    (s.withClients client).resumeHandshake cfg ws pc o =
      (s.resumeHandshake cfg ws pc o).map (·.withClients client) := by
  cases pc with
  | accepting | refusing => cases o <;> rfl
  | receivingStart =>
    simp only [resumeHandshake]
    rw [withClients_relay]
    split <;> rfl
  -- The registration looks at the tables of the agents only.
  | checking m =>
    simp only [resumeHandshake]
    split
    · split
      · rfl
      · exact congrArg some (permitted_withClients ws m _)
    all_goals rfl
  | evicting m n pc => exact map_withClients (evicted_withClients ws m n)
  | finished result => rfl

/-- The end of a keep-alive send ignores the sessions. -/
theorem keepAliveSent_withClients (ws : AgentSocket) (x : NetworkRelay × Res LockedSend Unit Exc) :
    (s.withClients client).keepAliveSent ws x = (s.keepAliveSent ws x).withClients client := by
  obtain ⟨r, res⟩ := x
  cases res <;> rfl

/-- A keep-alive task ignores the sessions. -/
theorem resumeKeepAlive_withClients (ws : AgentSocket) (pc : KeepAlive) (o : Outcome) :
    (s.withClients client).resumeKeepAlive ws pc o =
      (s.resumeKeepAlive ws pc o).map (·.withClients client) := by
  cases pc with
  | sleeping =>
    cases o with
    | ok => exact congrArg some (keepAliveSent_withClients ws _)
    | _ => rfl
  | sending send => exact map_withClients (keepAliveSent_withClients ws)
  | finished result => rfl

/-- A message of an agent is handled without regard to the sessions. -/
theorem handle_edge_agent_message_withClients (ws : AgentSocket) (n : AgentId)
    (m : EdgeAgentToRelayMessage) :
    (s.withClients client).handle_edge_agent_message ws n m =
      (s.handle_edge_agent_message ws n m).withClients client := by
  -- Every other message is put into the queue of the connection that it answers.
  have hanswer : (s.withClients client).handle_answer ws n m =
      (s.handle_answer ws n m).withClients client := by
    simp only [handle_answer]
    split
    · split_ifs <;> rfl
    · rfl
  cases m with
  | tcpData | keepAlive => rfl
  -- The close is scheduled or left alone as the tables of connections say.
  | connectionReset message c =>
    simp only [handle_edge_agent_message, handle_connection_reset_message]
    split_ifs
    · split
      · split <;> rfl
      · rfl
    · rfl
  | start | initiateConnectionError | initiateConnectionOK => exact hanswer

/-- A frame of an agent is handled without regard to the sessions. -/
theorem frameReceived_withClients (ws : AgentSocket) (n : AgentId) (frame : AgentFrame) :
    (s.withClients client).frameReceived cfg ws n frame =
      (s.frameReceived cfg ws n frame).withClients client := by
  cases frame with
  | bytes binary =>
    simp only [frameReceived]
    split <;> rfl
  | text content =>
    simp only [frameReceived]
    split
    · exact handle_edge_agent_message_withClients ws n _
    · split <;> rfl

/-- A message loop ignores the sessions. -/
theorem resumeMsgLoop_withClients (ws : AgentSocket) (task : MsgLoopTask) (o : Outcome) :
    (s.withClients client).resumeMsgLoop cfg ws task o =
      (s.resumeMsgLoop cfg ws task o).map (·.withClients client) := by
  obtain ⟨n, pc⟩ := task
  cases pc with
  | receiving =>
    simp only [resumeMsgLoop]
    split
    · rfl
    · rfl
    · rfl
    · exact congrArg some (frameReceived_withClients (s := s.withRelay _) ws n _)
    · rfl
  | resetting c pc =>
    simp only [resumeMsgLoop]
    split
    · exact map_withClients fun _ => rfl
    · rfl
  | putting c m =>
    simp only [resumeMsgLoop]
    split_ifs <;> rfl
  | handlingCustom => cases o <;> rfl
  | tearingDown pc => exact map_withClients fun _ => rfl
  | finished result => rfl

/-- The stretch of a reader from its read on ignores the sessions. -/
theorem read_withClients (c : ConnectionId) (connection : TcpConnection) (reader : Reader) :
    (s.withClients client).read c connection reader =
      (s.read c connection reader).withClients client := by
  simp only [RelayState.read]
  split_ifs <;> rfl

/-- A reader ignores the sessions. -/
theorem resumeReader_withClients (c : ConnectionId) (reader : Reader) (o : Outcome) :
    (s.withClients client).resumeReader c reader o =
      (s.resumeReader c reader o).map (·.withClients client) := by
  unfold resumeReader
  rw [withClients_relay]
  cases s.relay.connection c with
  | none => rfl
  | some connection =>
    have hloop : (s.withClients client).readerLoop c connection reader =
        (s.readerLoop c connection reader).withClients client := by
      simp only [readerLoop]
      split_ifs
      · exact read_withClients c connection reader
      · rfl
    dsimp only [Option.bind_some]
    split
    · split <;> rfl
    · split
      · exact congrArg some hloop
      · split
        · exact congrArg some (read_withClients (s := s.withRelay _) c connection reader)
        · rfl
      · exact congrArg some hloop
      · rfl
      · rfl

/-- A task of the user that creates a connection ignores the sessions. -/
theorem resumeCall_withClients (k : ℕ) (pc : Call) (o : Outcome) :
    (s.withClients client).resumeCall cfg k pc o =
      (s.resumeCall cfg k pc o).map (·.withClients client) := by
  cases pc with
  | creating pc => exact map_withClients fun _ => rfl
  | finished i result => rfl

/-- A task of the user that closes a connection ignores the sessions. -/
theorem resumeCloser_withClients (k : ℕ) (closer : Closer) (o : Outcome) :
    (s.withClients client).resumeCloser k closer o =
      (s.resumeCloser k closer o).map (·.withClients client) := by
  obtain ⟨c, ws, point⟩ := closer
  cases point with
  | scheduled =>
    simp only [resumeCloser]
    split <;> rfl
  | closing pc => exact map_withClients fun _ => rfl
  | finished result => rfl

/-- A task of the user that sends ignores the sessions. -/
theorem resumeSender_withClients (k : ℕ) (sender : Sender) (o : Outcome) :
    (s.withClients client).resumeSender k sender o =
      (s.resumeSender k sender o).map (·.withClients client) := by
  obtain ⟨c, point⟩ := sender
  unfold resumeSender
  rw [withClients_relay]
  cases s.relay.connection c with
  | none => rfl
  | some connection =>
    cases point with
    | scheduled content =>
      dsimp only [Option.bind_some]
      split <;> rfl
    | sending message send => exact map_withClients fun _ => rfl
    | finished result => rfl

/-- An event that is not about sessions happens whatever they are. -/
theorem step_withClients {e : RelayEvent} (hrun : ∀ A o, e ≠ .run (.client A) o)
    (hconn : ∀ A, e ≠ .clientConnects A) :
    step cfg (s.withClients client) e = (step cfg s e).map (·.withClients client) := by
  cases e with
  | agentConnects ws =>
    simp only [step]
    split <;> rfl
  | agentSends | agentDies => rfl
  | clientConnects A => exact absurd rfl (hconn A)
  | create k request c =>
    -- The ids in use are those of the relay's table, which is left as it is.
    have hfresh : (s.withClients client).freshId c = s.freshId c := rfl
    simp only [step, startCall, hfresh]
    split <;> rfl
  | close call =>
    -- What the user holds was returned by calls that are no sessions.
    have hcall : (s.withClients client).returnedBy call = s.returnedBy call := rfl
    simp only [step, hcall]
    cases s.returnedBy call with
    | none => rfl
    | some c => exact map_withClients fun _ => rfl
  | send k call content =>
    have hcall : (s.withClients client).returnedBy call = s.returnedBy call := rfl
    simp only [step, hcall]
    cases s.returnedBy call with
    | none => rfl
    | some c =>
      simp only [Option.bind_some, startSend]
      split
      · refine map_withClients fun connection => ?_
        cases connection.cls <;> rfl
      · rfl
  | run t o =>
    -- A task of another kind looks itself up in the table of its kind, which is the same.
    have hbind : ∀ {α : Type} {x : Option α} {f g : α → Option RelayState},
        (∀ a, f a = (g a).map (·.withClients client)) →
        x.bind f = (x.bind g).map (·.withClients client) := by
      intro α x f g h
      cases x with
      | none => rfl
      | some a => exact h a
    cases t with
    | client A => exact absurd rfl (hrun A o)
    | handshake ws => exact hbind fun pc => resumeHandshake_withClients ws pc o
    | keepAlive ws => exact hbind fun pc => resumeKeepAlive_withClients ws pc o
    | msgLoop ws => exact hbind fun task => resumeMsgLoop_withClients ws task o
    | reader c => exact hbind fun reader => resumeReader_withClients c reader o
    | call k => exact hbind fun pc => resumeCall_withClients k pc o
    | closer k => exact hbind fun closer => resumeCloser_withClients k closer o
    | sender k => exact hbind fun sender => resumeSender_withClients k sender o

/-! ## A session looks at itself only -/

/-- The other sessions are replaced. -/
abbrev RelayState.withOthers (s : RelayState) (A : ClientSocket)
    (client : ClientSocket → Option Client) : RelayState :=
  s.withClients (Function.update client A (s.client A))

/-- A session that moves on leaves the others to themselves. -/
theorem setClient_withClients (A : ClientSocket) (pc : Client) :
    (s.withClients client).setClient A pc = (s.setClient A pc).withOthers A client := by
  simp

/-- The end of a creation by a session ignores the other sessions. -/
theorem created_withClients (A : ClientSocket) (binary : Bool)
    (x : NetworkRelay × Res CreateConnection ConnectionId Exc) :
    (s.withClients client).created A binary x = (s.created A binary x).withOthers A client := by
  obtain ⟨r, res⟩ := x
  cases res with
  | parked _ | returned _ => simp [created]
  -- A `ValueError` is told to the access client of this session, others leave its handler.
  | raised e => cases e <;> simp [created]

/-- The start of a session ignores the other sessions. -/
theorem startSession_withClients (A : ClientSocket) (m : AtRStartMessage) (c : ConnectionId) :
    (s.withClients client).startSession cfg A m c =
      (s.startSession cfg A m c).map (·.withOthers A client) := by
  have hfresh : (s.withClients client).freshId c = s.freshId c := rfl
  simp only [startSession, hfresh]
  split
  · simp
  · split
    · exact congrArg some (created_withClients A _ _)
    · rfl

/-- The end of a session's close ignores the other sessions. -/
theorem connectionClosed_withClients (A : ClientSocket) (c : ConnectionId)
    (x : NetworkRelay × Res CloseRelayedConnection Unit Exc) :
    (s.withClients client).connectionClosed A c x =
      (s.connectionClosed A c x).withOthers A client := by
  obtain ⟨r, res⟩ := x
  cases res <;> simp [connectionClosed]

/-- The next turn of a session's loop ignores the other sessions. -/
theorem continueLoop_withClients (A : ClientSocket) (c : ConnectionId) (agent : AgentSocket) :
    (s.withClients client).continueLoop A c agent =
      (s.continueLoop A c agent).withOthers A client := by
  simp only [continueLoop]
  split
  · exact setClient_withClients A _
  · exact connectionClosed_withClients A c _

/-- The forwarding by a session ignores the other sessions. -/
theorem forwarded_withClients (A : ClientSocket) (c : ConnectionId) (agent : AgentSocket)
    (message : Except Exc ToAgent) (x : NetworkRelay × Res LockedSend Unit Exc) :
    (s.withClients client).forwarded A c agent message x =
      (s.forwarded A c agent message x).withOthers A client := by
  obtain ⟨r, res⟩ := x
  cases res with
  | parked _ | raised _ => simp [forwarded]
  | returned a => exact continueLoop_withClients (s := s.withRelay r) A c agent

/-- A frame of an access client is handled without regard to the other sessions. -/
theorem clientFrameReceived_withClients (A : ClientSocket) (c : ConnectionId)
    (connection : TcpConnection) (content : ClientFrame) :
    (s.withClients client).clientFrameReceived A c connection content =
      (s.clientFrameReceived A c connection content).withOthers A client := by
  unfold clientFrameReceived
  split
  · exact forwarded_withClients A c _ _ _
  · exact setClient_withClients A _
  · split
    · exact forwarded_withClients A c _ _ _
    · exact setClient_withClients A _
  · exact continueLoop_withClients A c _

/-- Where a result does not depend on the other sessions, an optional one does not either. -/
theorem map_withOthers {α : Type} {x : Option α} {f g : α → RelayState} {A : ClientSocket}
    (h : ∀ a, f a = (g a).withOthers A client) :
    x.map f = (x.map g).map (·.withOthers A client) := by
  cases x with
  | none => rfl
  | some a => exact congrArg some (h a)

/-- A session in its loop ignores the other sessions. -/
theorem resumeSession_withClients (A : ClientSocket) (c : ConnectionId)
    (connection : TcpConnection) (pc : Client) (o : Outcome) :
    (s.withClients client).resumeSession A c connection pc o =
      (s.resumeSession A c connection pc o).map (·.withOthers A client) := by
  have hset : ∀ pc', some ((s.withClients client).setClient A pc') =
      (some (s.setClient A pc')).map (·.withOthers A client) :=
    fun pc' => congrArg some (setClient_withClients A pc')
  -- Both ways out of the loop drop the connection and then close the access client's websocket.
  have hleave : ∀ agent, some (((s.withClients client).withRelay
      (s.relay._drop_relayed_connection c)).leaveLoop A c agent) =
      (some ((s.withRelay (s.relay._drop_relayed_connection c)).leaveLoop A c agent)).map
        (·.withOthers A client) :=
    fun agent => congrArg some (connectionClosed_withClients (s := s.withRelay _) A c _)
  cases pc with
  | receiving c =>
    simp only [resumeSession]
    split
    · exact hleave _
    · exact hleave _
    · exact hset _
    · exact congrArg some (clientFrameReceived_withClients A _ connection _)
    · rfl
  | forwarding c message send => exact map_withOthers (forwarded_withClients A _ _ message)
  | closing c pc => exact map_withOthers (connectionClosed_withClients A _)
  | closingClient c =>
    simp only [resumeSession]
    split
    · exact hset _
    · split
      · exact hset _
      · exact hset _
    · rfl
  | joining c =>
    -- A session awaits the reader that it has started, and no other session.
    have hfinished : ∀ c, (s.withClients client).readerFinished c = s.readerFinished c :=
      fun _ => rfl
    simp only [resumeSession, hfinished]
    split
    · split
      · exact hset _
      · rfl
    · split
      · split
        · rfl
        · exact congrArg some (setClient_withClients (s := s.setReader _ _) A _)
      · rfl
    · rfl
  | cancelling c =>
    have hfinished : ∀ c, (s.withClients client).readerFinished c = s.readerFinished c :=
      fun _ => rfl
    simp only [resumeSession, hfinished]
    split
    · exact hset _
    · rfl
  | _ => rfl

/-- A session ignores the other sessions. -/
theorem resumeClient_withClients (A : ClientSocket) (pc : Client) (o : Outcome) :
    (s.withClients client).resumeClient cfg A pc o =
      (s.resumeClient cfg A pc o).map (·.withOthers A client) := by
  have hset : ∀ s₁ pc', some ((withClients s₁ client).setClient A pc') =
      (some (s₁.setClient A pc')).map (·.withOthers A client) :=
    fun s₁ pc' => congrArg some (setClient_withClients (s := s₁) A pc')
  -- A session that has its connection finds it in the relay's table.
  have hsession : ∀ c, ((s.withClients client).relay.connection c).bind (fun connection =>
      (s.withClients client).resumeSession A c connection pc o) =
      ((s.relay.connection c).bind fun connection =>
        s.resumeSession A c connection pc o).map (·.withOthers A client) := by
    intro c
    rw [withClients_relay]
    cases s.relay.connection c with
    | none => rfl
    | some connection => exact resumeSession_withClients A c connection pc o
  cases pc with
  | accepting | receivingStart | refusing | reportingError =>
    simp only [resumeClient]
    split <;> first | exact hset s _ | rfl
  | checking m =>
    simp only [resumeClient]
    split
    · exact startSession_withClients A m _
    · exact hset (s.withRelay _) _
    · exact hset s _
    · rfl
  | reportingUnregistered =>
    simp only [resumeClient]
    split
    · exact hset (s.withRelay _) _
    · exact hset s _
    · rfl
  | creating binary pc => exact map_withOthers (created_withClients A binary)
  | sendingStartOK binary c =>
    simp only [resumeClient]
    split
    · refine map_withOthers fun connection => ?_
      exact continueLoop_withClients (s := s.startReader A binary c) A c connection.agent_connection
    · exact hset s _
    · rfl
  | receiving c | forwarding c _ _ | closing c _ | closingClient c | joining c | cancelling c =>
    exact hsession c
  | finished i result => rfl

end

/-! ## Start messages with a wrong secret -/

namespace NetworkRelayForAccessClients

variable {cfg : RelayConfig} {credentials : Credentials}

/-- Two events that are the same, or the same access client's start message with different contents
and a wrong secret in both. -/
def SameButRejected (credentials : Credentials) (e₁ e₂ : RelayEvent) : Prop :=
  e₁ = e₂ ∨ ∃ A m₁ m₂, e₁ = .run (.client A) (.frame (.text (some (.start m₁)))) ∧
    e₂ = .run (.client A) (.frame (.text (some (.start m₂)))) ∧
    get_access_client_permission credentials m₁ = false ∧
    get_access_client_permission credentials m₂ = false

/-- Two states that are the same but for start messages with a wrong secret, which are being
denied. -/
def Alike (credentials : Credentials) (s₁ s₂ : RelayState) : Prop :=
  ∃ client, s₂ = s₁.withClients client ∧ ∀ A, client A = s₁.client A ∨ ∃ m₁ m₂,
    s₁.client A = some (.checking m₁) ∧ client A = some (.checking m₂) ∧
    get_access_client_permission credentials m₁ = false ∧
    get_access_client_permission credentials m₂ = false

/-- A state is like itself. -/
theorem Alike.refl (s : RelayState) : Alike credentials s s :=
  ⟨s.client, rfl, fun _ => .inl rfl⟩

/-- Only a receive comes back with a frame. -/
theorem send_frame (r : NetworkRelay) (t : Task) (ws : AgentSocket) (message : Except Exc ToAgent)
    (send : LockedSend) (content : ClientFrame) :
    send.resume r t ws message (.frame content) = none := by
  cases send <;> rfl

/-- A creation does not resume with a frame. -/
theorem create_frame (r : NetworkRelay) (t : Task) (pc : CreateConnection)
    (content : ClientFrame) : pc.resume cfg r t (.frame content) = none := by
  unfold CreateConnection.resume
  split
  · rw [send_frame]
    rfl
  · rfl

/-- A close does not resume with a frame. -/
theorem close_frame (r : NetworkRelay) (t : Task) (c : ConnectionId) (ws : AgentSocket)
    (pc : CloseRelayedConnection) (content : ClientFrame) :
    pc.resume r t c ws (.frame content) = none := by
  unfold CloseRelayedConnection.resume
  split
  · rw [send_frame]
    rfl
  · rfl

/-- A session that is not in its first `receive` ignores the contents of a start message. -/
theorem start_ignored {s : RelayState} {A : ClientSocket} (hpc : s.client A ≠ some .receivingStart)
    (m₁ m₂ : AtRStartMessage) :
    step cfg credentials s (.run (.client A) (.frame (.text (some (.start m₁))))) =
      step cfg credentials s (.run (.client A) (.frame (.text (some (.start m₂))))) := by
  have hbase : HttpNetworkRelay.step (relayConfig cfg) s
      (.run (.client A) (.frame (.text (some (.start m₁))))) =
      HttpNetworkRelay.step (relayConfig cfg) s
        (.run (.client A) (.frame (.text (some (.start m₂))))) := by
    simp only [HttpNetworkRelay.step]
    cases hA : s.client A with
    | none => rfl
    | some pc =>
      -- No other stage awaits a frame from this client and looks at a start message in it.
      cases pc with
      | receivingStart => exact absurd hA hpc
      | creating => simp [resumeClient, create_frame]
      | forwarding => simp [resumeClient, resumeSession, send_frame]
      | closing => simp [resumeClient, resumeSession, close_frame]
      | _ => rfl
  -- The hook looks at the start message that has been received before, not at the one that arrives.
  have hans : hookAnswers credentials s (.run (.client A) (.frame (.text (some (.start m₁))))) =
      hookAnswers credentials s (.run (.client A) (.frame (.text (some (.start m₂))))) := by
    simp only [hookAnswers]
    cases hA : s.client A with
    | none => rfl
    | some pc => cases pc <;> rfl
  unfold step
  rw [hbase, hans]
  rfl

/-- A denial looks at its own session. -/
theorem deny_withClients {s : RelayState} {client : ClientSocket → Option Client} {e : RelayEvent}
    (h : ∀ A o, e = .run (.client A) o → client A = s.client A) :
    deny credentials (s.withClients client) e = (deny credentials s e).withClients client := by
  unfold deny
  split
  · rename_i A o
    have hA : (s.withClients client).client A = s.client A := h A o rfl
    rw [hA]
    split
    · split <;> rfl
    · rfl
  · rfl

/-- The denial of a start message moves no session. -/
theorem deny_client (s : RelayState) (e : RelayEvent) :
    (deny credentials s e).client = s.client := by
  unfold deny
  split
  · split
    · split <;> rfl
    · rfl
  · rfl

/-- The other sessions are alike after a step of one session. -/
theorem alike_of_session {s s' : RelayState} {client : ClientSocket → Option Client}
    {A : ClientSocket} {o : Outcome} {pc : Client}
    (hclient : ∀ B, client B = s.client B ∨ ∃ m₁ m₂, s.client B = some (.checking m₁) ∧
      client B = some (.checking m₂) ∧ get_access_client_permission credentials m₁ = false ∧
      get_access_client_permission credentials m₂ = false)
    (hothers : ∀ B, B ≠ A → s'.client B = s.client B) (hpc : client A = some pc)
    (hans : hookAnswers credentials (s.withClients client) (.run (.client A) o) = true)
    (hresume : (s.withClients client).resumeClient (relayConfig cfg) A pc o =
      some (s'.withOthers A client)) :
    ∃ s₂', step cfg credentials (s.withClients client) (.run (.client A) o) = some s₂' ∧
      Alike credentials (deny credentials s' (.run (.client A) o)) s₂' := by
  have hbase : HttpNetworkRelay.step (relayConfig cfg) (s.withClients client)
      (.run (.client A) o) = some (s'.withOthers A client) := by
    rw [← hresume]
    simp only [HttpNetworkRelay.step]
    rw [hpc]
    rfl
  refine ⟨deny credentials (s'.withOthers A client) (.run (.client A) o), ?_, ?_⟩
  · rw [step, if_pos hans, hbase]
    rfl
  · refine ⟨Function.update client A (s'.client A), deny_withClients ?_, fun B => ?_⟩
    · -- The denial looks at the session of `A`, which is the same in both states.
      intro B o' he
      obtain rfl := Task.client.inj (RelayEvent.run.inj he).1
      simp
    · rw [deny_client]
      by_cases hB : B = A
      · subst hB
        exact .inl (by simp)
      · rw [Function.update_of_ne hB, hothers B hB]
        exact hclient B

/-- States that are alike take the same step to states that are alike. -/
theorem alike_step {s₁ s₂ s₁' : RelayState} {e : RelayEvent} (hs : Alike credentials s₁ s₂)
    (hstep : step cfg credentials s₁ e = some s₁') :
    ∃ s₂', step cfg credentials s₂ e = some s₂' ∧ Alike credentials s₁' s₂' := by
  obtain ⟨client, rfl, hclient⟩ := hs
  unfold step at hstep
  split at hstep
  case isFalse => cases hstep
  case isTrue hans =>
  obtain ⟨s', hs', rfl⟩ := Option.map_eq_some_iff.mp hstep
  have h := step_rule hs'
  by_cases hrun : ∃ A o, e = .run (.client A) o
  · obtain ⟨A, o, rfl⟩ := hrun
    obtain ⟨pc, hpc, hresume⟩ := Option.bind_eq_some_iff.mp hs'
    have hothers : ∀ B, B ≠ A → s'.client B = s₁.client B := by
      intro B hB
      refine client_frame h (fun o' he => hB ?_) (by simp)
      exact (Task.client.inj (RelayEvent.run.inj he).1).symm
    -- The session is at the same stage in both states, or about to be turned away in both.
    rcases hclient A with hA | ⟨m₁, m₂, hm₁, hm₂, hwrong₁, hwrong₂⟩
    · refine alike_of_session hclient hothers (hA.trans hpc) ?_ ?_
      · simpa only [hookAnswers, hA] using hans
      · rw [resumeClient_withClients, hresume]
        rfl
    · -- Both are denied, and what they asked for is not looked at.
      obtain rfl := Option.some.inj (hm₁.symm.trans hpc)
      have hsame : hookAnswers credentials (s₁.withClients client) (.run (.client A) o) = true ∧
          s₁.resumeClient (relayConfig cfg) A (.checking m₂) o = some s' := by
        cases o with
        | allow permission c =>
          obtain rfl : permission = false := by simpa [hookAnswers, hm₁, hwrong₁] using hans
          exact ⟨by simp [hookAnswers, hm₂, hwrong₂], hresume⟩
        | hookRaised => exact ⟨by simp [hookAnswers, hm₂, hwrong₂], hresume⟩
        | _ => simp [hookAnswers, hm₁] at hans
      refine alike_of_session hclient hothers hm₂ hsame.1 ?_
      rw [resumeClient_withClients, hsame.2]
      rfl
  · have hrun : ∀ A o, e ≠ .run (.client A) o := fun A o he => hrun ⟨A, o, he⟩
    have hans' : hookAnswers credentials (s₁.withClients client) e = true := by
      rw [← hans]
      cases e with
      | run t o =>
        cases t with
        | client A => exact absurd rfl (hrun A o)
        | _ => rfl
      | _ => rfl
    -- No other event is the hook's answer to a session.
    have hdeny : ∀ s, deny credentials s e = s := by
      intro s
      unfold deny
      split
      · exact absurd rfl (hrun _ _)
      · rfl
    rw [hdeny]
    -- A connect is possible in both states or in none, as both have the same sessions.
    by_cases hconn : ∃ A, e = .clientConnects A
    · obtain ⟨A, rfl⟩ := hconn
      cases h with
      | clientConnects hnew =>
        have hA : client A = none := by
          rcases hclient A with hA | ⟨m₁, m₂, hm₁, -⟩
          · exact hA.trans hnew
          · rw [hnew] at hm₁
            cases hm₁
        refine ⟨(s₁.withClients client).setClient A .accepting, ?_,
          Function.update client A (some .accepting), rfl, fun B => ?_⟩
        · rw [step, if_pos hans']
          simp only [HttpNetworkRelay.step, hA]
          exact congrArg some (hdeny _)
        · by_cases hB : B = A
          · subst hB
            exact .inl (by simp)
          · simpa [hB] using hclient B
    · have hconn : ∀ A, e ≠ .clientConnects A := fun A he => hconn ⟨A, he⟩
      refine ⟨s'.withClients client, ?_, client, rfl, fun B => ?_⟩
      · rw [step, if_pos hans', step_withClients hrun hconn, hs']
        exact congrArg some (hdeny _)
      · rw [client_frame h (hrun B) (hconn B)]
        exact hclient B

/-- A start message with a wrong secret is answered with an error. -/
theorem step_start {s : RelayState} {A : ClientSocket} {m : AtRStartMessage}
    (hpc : s.client A = some .receivingStart)
    (hwrong : get_access_client_permission credentials m = false) :
    step cfg credentials s (.run (.client A) (.frame (.text (some (.start m))))) =
      some ((s.withRelay (s.relay.sendToClient A invalidSecret)).setClient A (.checking m)) := by
  have hans : hookAnswers credentials s (.run (.client A) (.frame (.text (some (.start m))))) =
      true := by
    simp [hookAnswers, hpc]
  have hbase : HttpNetworkRelay.step (relayConfig cfg) s
      (.run (.client A) (.frame (.text (some (.start m))))) =
      some (s.setClient A (.checking m)) := by
    simp [HttpNetworkRelay.step, hpc, resumeClient]
  rw [step, if_pos hans, hbase]
  simp [deny, hwrong]

/-- They do so with another rejected start message too. -/
theorem rejected_step {s₁ s₂ s₁' : RelayState} {e₁ e₂ : RelayEvent}
    (hs : Alike credentials s₁ s₂) (he : SameButRejected credentials e₁ e₂)
    (hstep : step cfg credentials s₁ e₁ = some s₁') :
    ∃ s₂', step cfg credentials s₂ e₂ = some s₂' ∧ Alike credentials s₁' s₂' := by
  rcases he with rfl | ⟨A, m₁, m₂, rfl, rfl, hwrong₁, hwrong₂⟩
  · exact alike_step hs hstep
  · -- The messages differ: they matter only where the session awaits its start message.
    by_cases hpc : s₂.client A = some .receivingStart
    · obtain ⟨client, rfl, hclient⟩ := hs
      have hpc₁ : s₁.client A = some .receivingStart := by
        rcases hclient A with hA | ⟨_, _, -, hm, -⟩
        · exact hA.symm.trans hpc
        · cases hm.symm.trans hpc
      rw [step_start hpc₁ hwrong₁] at hstep
      cases hstep
      refine ⟨_, step_start hpc hwrong₂, Function.update client A (some (.checking m₂)), rfl,
        fun B => ?_⟩
      by_cases hB : B = A
      · subst hB
        exact .inr ⟨m₁, m₂, by simp, by simp, hwrong₁, hwrong₂⟩
      · simpa [hB] using hclient B
    · rw [← start_ignored hpc m₁ m₂]
      exact alike_step hs hstep

/-- The gate: what is let through has its credentials behind it, and a run that differs in start
messages with a wrong secret is a run that sends the same to every agent. -/
theorem access_gate (cfg : RelayConfig) (credentials : Credentials) :
    (∀ s started, Traced (step cfg credentials) (fun _ _ => True) startSeen {} s started →
      Gated credentials s started) ∧
    ∀ es₁ es₂ s₁, List.Forall₂ (SameButRejected credentials) es₁ es₂ →
      run (step cfg credentials) {} es₁ = some s₁ →
      ∃ s₂, run (step cfg credentials) {} es₂ = some s₂ ∧
        s₂.relay.to_agent = s₁.relay.to_agent := by
  refine ⟨fun s started h => gated h, fun es₁ es₂ s₁ hes hrun => ?_⟩
  -- The likeness is a simulation, and alike states have sent the same to the agents.
  have hstep : ∀ s₁ s₂ e₁ e₂ s₁', Alike credentials s₁ s₂ → SameButRejected credentials e₁ e₂ →
      step cfg credentials s₁ e₁ = some s₁' →
      ∃ s₂', step cfg credentials s₂ e₂ = some s₂' ∧ Alike credentials s₁' s₂' :=
    fun _ _ _ _ _ hs he h => rejected_step hs he h
  obtain ⟨s₂, hrun₂, client, rfl, -⟩ := run_simulates hstep (.refl {}) hes hrun
  exact ⟨_, hrun₂, rfl⟩

/-- One agent and one good secret. -/
def someCredentials : Credentials where
  edge_agents name := if name = "agent" then some "agent-secret" else none
  access_client_secrets := ["client-secret"]

/-- The start message of an access client with the given secret. -/
def someStart (secret target_ip : String) : AtRStartMessage where
  connection_target := "agent"
  target_ip := target_ip
  target_port := 22
  protocol := "tcp"
  secret := secret

/-- An access client with a wrong secret is turned away. -/
def turnedAway (target_ip : String) : List RelayEvent :=
  [.clientConnects ⟨1⟩, .run (.client ⟨1⟩) .ok,
    .run (.client ⟨1⟩) (.frame (.text (some (.start (someStart "guess" target_ip)))))]

/-- The agent is registered, and another access client gets a connection. -/
def letIn : List RelayEvent :=
  [.run (.client ⟨1⟩) (.allow false ""), .agentConnects ⟨0⟩, .run (.handshake ⟨0⟩) .ok,
    .agentSends ⟨0⟩ (.text { known := some (.start {
      extra := [("name", .str "agent"), ("secret", .str "agent-secret")] }) }),
    .run (.handshake ⟨0⟩) .next, .run (.handshake ⟨0⟩) (.permit (some "agent")),
    .clientConnects ⟨0⟩, .run (.client ⟨0⟩) .ok,
    .run (.client ⟨0⟩) (.frame (.text (some (.start (someStart "client-secret" "127.0.0.1"))))),
    .run (.client ⟨0⟩) (.allow true someConnection)]

/-- The relay after both. -/
def gatedRelay : RelayState :=
  (run (step plainConfig someCredentials) {} (turnedAway "10.0.0.1" ++ letIn)).get
    (by decide +kernel)

/-- The rejected start message has left no trace in what the second client gets. -/
theorem gatedRelay_gated :
    gatedRelay.relay.to_agent ⟨0⟩ =
      [.text (.initiateConnection "127.0.0.1" 22 "tcp" someConnection true)] ∧
    Gated someCredentials gatedRelay
      (observe (step plainConfig someCredentials) startSeen {} (turnedAway "10.0.0.1" ++ letIn)) ∧
    ∃ s₂, run (step plainConfig someCredentials) {} (turnedAway "10.9.9.9" ++ letIn) = some s₂ ∧
      s₂.relay.to_agent = gatedRelay.relay.to_agent := by
  have hrun : run (step plainConfig someCredentials) {} (turnedAway "10.0.0.1" ++ letIn) =
      some gatedRelay := (Option.some_get _).symm
  have hes : List.Forall₂ (SameButRejected someCredentials) (turnedAway "10.0.0.1" ++ letIn)
      (turnedAway "10.9.9.9" ++ letIn) := by
    refine .cons (.inl rfl) (.cons (.inl rfl) (.cons ?_ ?_))
    · exact .inr ⟨⟨1⟩, _, _, rfl, rfl, by decide, by decide⟩
    · exact List.forall₂_same.mpr fun e _ => .inl rfl
  have ht : Traced (step plainConfig someCredentials) (fun _ _ => True) startSeen {} gatedRelay
      ([] ++ observe (step plainConfig someCredentials) startSeen {}
        (turnedAway "10.0.0.1" ++ letIn)) :=
    Traced.init.of_run (fun _ _ _ => trivial) hrun
  exact ⟨rfl, (access_gate plainConfig someCredentials).1 _ _ ht,
    (access_gate plainConfig someCredentials).2 _ _ _ hes hrun⟩

end NetworkRelayForAccessClients

end HttpNetworkRelay
