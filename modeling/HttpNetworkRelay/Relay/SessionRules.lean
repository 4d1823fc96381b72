import HttpNetworkRelay.Relay.AgentRules

/-!
# What the tasks of a session can do

`ClientRule` for `ws_for_access_clients` and `ReaderRule` for `access_client_receive_thread`, and
that their resume functions follow these rules.
-/

namespace HttpNetworkRelay

open Asyncio Python RelayState NetworkRelay

/-! ## ws_for_access_clients -/

/-- The suspension points at which a session has not been given a connection, apart from the create
call itself. -/
def Client.unconnected : Client → Bool
  | .accepting | .receivingStart | .checking _ | .refusing | .reportingUnregistered
  | .reportingError => true
  | .finished none _ => true
  | _ => false

/-- The suspension points before anything is sent to the access client. -/
def Client.silent : Client → Bool
  | .accepting | .receivingStart | .checking _ | .creating _ _ => true
  | _ => false

/-- The content that a frame of the loop gives to `connection.send`. -/
def ClientFrame.content? : ClientFrame → Option Bytes
  | .bytes binary => some binary
  | .text (some (.tcpData data_base64)) => (b64decode data_base64).toOption
  | .text _ => none

/-- A frame that the loop of `ws_for_access_clients` does not survive: a text that is no
`AccessClientToRelayMessage`, or data that is no base64. -/
def ClientFrame.malformed : ClientFrame → Bool
  | .text none => true
  | .text (some (.tcpData data_base64)) => (b64decode data_base64).toOption.isNone
  | _ => false

/-- The rules of `ws_for_access_clients`. -/
inductive ClientRule (cfg : RelayConfig) (s : RelayState) (ws : ClientSocket) :
    Client → Outcome → RelayState → Prop
  /-- A step in which nothing is shared, before there is a connection or after the open failed. -/
  | advances {pc o pc'} (hpc : pc.unconnected = true) (hpc' : pc'.unconnected = true)
      (hdone : ∀ i result, pc ≠ .finished i result)
      (hnew : pc' ≠ .reportingError ∧ pc' ≠ .reportingUnregistered ∧ pc' ≠ .accepting)
      (hres : ∀ i result, pc' = .finished i result → pc = .reportingError → result ≠ .ok ())
      (hlast : pc = .reportingError → ∃ result, pc' = .finished none result)
      (hsilent : pc'.silent = true → pc.silent = true) :
      ClientRule cfg s ws pc o (s.setClient ws pc')
  /-- The websocket is closed before there is a connection. -/
  | refuses {pc o} (hpc : (∃ m, pc = .checking m) ∨ pc = .reportingUnregistered) :
      ClientRule cfg s ws pc o ((s.withRelay (s.relay.closeClient ws)).setClient ws .refusing)
  | unregistered {m c}
      (hreg : s.relay.registered_agent_connections m.connection_target = none) :
      ClientRule cfg s ws (.checking m) (.allow true c)
        ((s.withRelay (s.relay.sendToClient ws (.text (.error "Agent not registered")))).setClient
          ws .reportingUnregistered)
  | opens {m c r' send request agent_connection} (hfresh : s.freshId c = true)
      (hreg : s.relay.registered_agent_connections request.agent_connection_id =
        some agent_connection)
      (hcls : request.connection_class = .tcpConnectionAsync)
      (same : (s.relay.publish c (newConnection s.relay (.client ws) request
        agent_connection)).SameButSends r')
      (hsend : Sending (s.relay.publish c (newConnection s.relay (.client ws) request
        agent_connection)) agent_connection (request.message c) r' send) :
      ClientRule cfg s ws (.checking m) (.allow true c)
        ((s.withRelay r').setClient ws (.creating (m.supports_binary = some true)
          ⟨request, c, agent_connection, .sending send⟩))
  | creating {binary pc o r' res} (h : CreateStep cfg s.relay pc o r' res) :
      ClientRule cfg s ws (.creating binary pc) o (s.created ws binary (r', res))
  | starts {binary c connection} (hc : s.relay.connection c = some connection) :
      ClientRule cfg s ws (.sendingStartOK binary c) .ok
        ((s.startReader ws binary c).setClient ws (.receiving c))
  | startFails {binary c e} :
      ClientRule cfg s ws (.sendingStartOK binary c) (.raised e)
        (s.setClient ws (.finished (some c) (.error (.ws e))))
  | disconnects {c o connection r' send} (ho : o = .disconnect ∨ o = .raised .webSocketDisconnect)
      (hc : s.relay.connection c = some connection)
      (same :
        ((s.relay._drop_relayed_connection c).access_client_connection_close c).SameButSends r')
      (hsend : Sending ((s.relay._drop_relayed_connection c).access_client_connection_close c)
        connection.agent_connection (closeMessage c) r' send) :
      ClientRule cfg s ws (.receiving c) o
        ((s.withRelay r').setClient ws (.closing c (.informing send)))
  | receiveFails {c e} (he : e ≠ .webSocketDisconnect) :
      ClientRule cfg s ws (.receiving c) (.raised e)
        (s.setClient ws (.finished (some c) (.error (.ws e))))
  | malformed {c content e} (hbad : content.malformed = true) :
      ClientRule cfg s ws (.receiving c) (.frame content)
        (s.setClient ws (.finished (some c) (.error e)))
  | ignores {c content connection} (hc : s.relay.connection c = some connection)
      (hnone : content.content? = none) (hgood : content.malformed = false) :
      ClientRule cfg s ws (.receiving c) (.frame content)
        (s.continueLoop ws c connection.agent_connection)
  | forwards {c content data connection r' res} (hc : s.relay.connection c = some connection)
      (hdata : content.content? = some data)
      (h : SendStep s.relay connection.agent_connection (connection.dataMessage c data) none .ok
        r' res) :
      ClientRule cfg s ws (.receiving c) (.frame content)
        (s.forwarded ws c connection.agent_connection (connection.dataMessage c data) (r', res))
  | forwarding {c message send o connection r' res} (hc : s.relay.connection c = some connection)
      (h : SendStep s.relay connection.agent_connection message (some send) o r' res) :
      ClientRule cfg s ws (.forwarding c message send) o
        (s.forwarded ws c connection.agent_connection message (r', res))
  | closing {c pc o connection r' res} (hc : s.relay.connection c = some connection)
      (h : CloseStep s.relay c connection.agent_connection pc o r' res) :
      ClientRule cfg s ws (.closing c pc) o (s.connectionClosed ws c (r', res))
  | clientClosed {c o} (ho : o = .ok ∨ ∃ e, o = .raised e ∧ e.isClosed = true) :
      ClientRule cfg s ws (.closingClient c) o (s.setClient ws (.joining c))
  | closeFails {c e} (he : e.isClosed = false) :
      ClientRule cfg s ws (.closingClient c) (.raised e)
        (s.setClient ws (.finished (some c) (.error (.ws e))))
  | joined {c pc} (hpc : pc = .joining c ∨ pc = .cancelling c)
      (hreader : s.readerFinished c = true) :
      ClientRule cfg s ws pc .ok (s.setClient ws (.finished (some c) (.ok ())))
  | cancels {c reader} (hr : s.reader c = some reader) (hpoint : reader.point ≠ .finished) :
      ClientRule cfg s ws (.joining c) .timeout
        ((s.setReader c { reader with cancelled := true }).setClient ws (.cancelling c))

namespace RelayState

variable {cfg : RelayConfig} {s s' : RelayState} {ws : ClientSocket}

/-- The close after the loop, from the call on. -/
theorem leaveLoop_ok (s : RelayState) (ws : ClientSocket) (c : ConnectionId) (agent : AgentSocket) :
    ∃ r' send, s.leaveLoop ws c agent =
        (s.withRelay r').setClient ws (.closing c (.informing send)) ∧
      (s.relay.access_client_connection_close c).SameButSends r' ∧
      Sending (s.relay.access_client_connection_close c) agent (closeMessage c) r' send := by
  obtain ⟨r', send, heq, same, hsend⟩ :=
    close_relayed_connection_ok (s.relay.access_client_connection_close c) (.client ws) c agent
  refine ⟨r', send, ?_, same, hsend⟩
  rw [leaveLoop, heq]
  rfl

/-- The condition of the loop, evaluated: back to `receive`, or on to the close. -/
theorem continueLoop_cases (s : RelayState) (ws : ClientSocket) (c : ConnectionId)
    (agent : AgentSocket) :
    (∃ A, s.relay.active_access_client_connections c = some A ∧
      s.continueLoop ws c agent = s.setClient ws (.receiving c)) ∨
    s.relay.active_access_client_connections c = none ∧
      ∃ r' send, s.continueLoop ws c agent =
          (s.withRelay r').setClient ws (.closing c (.informing send)) ∧
        (s.relay.access_client_connection_close c).SameButSends r' ∧
        Sending (s.relay.access_client_connection_close c) agent (closeMessage c) r' send := by
  unfold continueLoop
  cases hA : s.relay.active_access_client_connections c with
  | some A => exact .inl ⟨A, rfl, rfl⟩
  | none => exact .inr ⟨rfl, leaveLoop_ok s ws c agent⟩

/-- Back at the condition of its loop, a session at most forgets its access client and sends. -/
theorem continueLoop_same (s : RelayState) (ws : ClientSocket) (c : ConnectionId)
    (agent : AgentSocket) : SameButAccess c s.relay (s.continueLoop ws c agent).relay := by
  rcases continueLoop_cases s ws c agent with ⟨A, -, heq⟩ | ⟨-, r', send, heq, same, -⟩
  · rw [heq]
    exact .of_sameButSends c (.refl _)
  · rw [heq]
    exact (SameButAccess.access_close c s.relay).trans (.of_sameButSends c same)

/-- So does one that has forwarded its data. -/
theorem forwarded_same {r' : NetworkRelay} (same : s.relay.SameButSends r') (ws : ClientSocket)
    (c : ConnectionId) (agent : AgentSocket) (message : Except Exc ToAgent)
    (res : Res LockedSend Unit Exc) :
    SameButAccess c s.relay (s.forwarded ws c agent message (r', res)).relay := by
  have hsent : SameButAccess c s.relay r' := .of_sameButSends c same
  cases res with
  | parked send => exact hsent
  | returned a => exact hsent.trans (continueLoop_same (s.withRelay r') ws c agent)
  | raised e => exact hsent

/-- What the start of a session does. -/
theorem startSession_rule {m : AtRStartMessage} {c : ConnectionId}
    (h : s.startSession cfg ws m c = some s') :
    ClientRule cfg s ws (.checking m) (.allow true c) s' := by
  unfold startSession at h
  dsimp only at h
  split at h
  · cases h
    exact .unregistered ‹_›
  · rename_i agent_connection hreg
    split at h
    · rename_i hfresh
      cases h
      -- The create call runs to its first await, at the lock or in the send of the request.
      obtain ⟨r', send, heq, same, hsend⟩ := _create_connection_ok cfg (.client ws)
        { agent_connection_id := get_agent_connection_id_for_access_client m.connection_target
          target_ip := m.target_ip
          target_port := m.target_port
          protocol := m.protocol
          connection_class := .tcpConnectionAsync } c hreg
      rw [heq]
      exact .opens hfresh hreg rfl same hsend
    · cases h

/-- What a step of a session in its loop, or after it, does. -/
theorem resumeSession_rule {c : ConnectionId} {connection : TcpConnection} {pc : Client}
    {o : Outcome} (hc : s.relay.connection c = some connection)
    (hpc : pc = .receiving c ∨ (∃ message send, pc = .forwarding c message send) ∨
      (∃ close, pc = .closing c close) ∨ pc = .closingClient c ∨ pc = .joining c ∨
      pc = .cancelling c)
    (h : s.resumeSession ws c connection pc o = some s') : ClientRule cfg s ws pc o s' := by
  rcases hpc with rfl | ⟨message, send, rfl⟩ | ⟨close, rfl⟩ | rfl | rfl | rfl
  · simp only [resumeSession] at h
    -- A disconnect is returned or raised by the receive, and both leave the loop after a drop.
    have disconnects : ∀ o, o = .disconnect ∨ o = .raised .webSocketDisconnect →
        ClientRule cfg s ws (.receiving c) o
          ((s.withRelay (s.relay._drop_relayed_connection c)).leaveLoop ws c
            connection.agent_connection) := by
      intro o ho
      obtain ⟨r', send, heq, same, hsend⟩ := leaveLoop_ok
        (s.withRelay (s.relay._drop_relayed_connection c)) ws c connection.agent_connection
      rw [heq]
      exact .disconnects ho hc same hsend
    split at h <;> cases h
    · exact disconnects _ (.inl rfl)
    · exact disconnects _ (.inr rfl)
    · exact .receiveFails (by simpa using ‹_›)
    · rename_i content
      -- What the frame is decides between forwarding, the end by an exception, and nothing.
      unfold clientFrameReceived
      split
      · exact .forwards hc rfl (locked_send_step _ _ _ _ _)
      · exact .malformed rfl
      · split
        · rename_i data hdec
          exact .forwards hc (by simp [ClientFrame.content?, hdec, Except.toOption])
            (locked_send_step _ _ _ _ _)
        · rename_i e hdec
          exact .malformed (by simp [ClientFrame.malformed, hdec, Except.toOption])
      · exact .ignores hc rfl rfl
  · obtain ⟨⟨r', res⟩, hres, rfl⟩ := Option.map_eq_some_iff.mp h
    exact .forwarding hc (LockedSend.resume_step hres)
  · obtain ⟨⟨r', res⟩, hres, rfl⟩ := Option.map_eq_some_iff.mp h
    exact .closing hc (CloseRelayedConnection.resume_step hres)
  · simp only [resumeSession] at h
    split at h
    · cases h
      exact .clientClosed (.inl rfl)
    · rename_i e
      split at h <;> cases h
      · exact .clientClosed (.inr ⟨e, rfl, ‹_›⟩)
      · rename_i he
        exact .closeFails (by simpa using he)
    · cases h
  · simp only [resumeSession] at h
    split at h
    · split at h <;> cases h
      exact .joined (.inl rfl) ‹_›
    · split at h
      · split at h <;> cases h
        exact .cancels ‹_› ‹_›
      · cases h
    · cases h
  · simp only [resumeSession] at h
    split at h
    · rename_i hcond
      obtain ⟨rfl, hreader⟩ := hcond
      cases h
      exact .joined (.inr rfl) hreader
    · cases h

/-- What a step of a session does. -/
theorem resumeClient_rule {pc : Client} {o : Outcome} (h : s.resumeClient cfg ws pc o = some s') :
    ClientRule cfg s ws pc o s' := by
  -- From the loop on, the session has its connection.
  have session : ∀ c, (pc = .receiving c ∨ (∃ message send, pc = .forwarding c message send) ∨
      (∃ close, pc = .closing c close) ∨ pc = .closingClient c ∨ pc = .joining c ∨
      pc = .cancelling c) →
      ((s.relay.connection c).bind fun connection => s.resumeSession ws c connection pc o) =
        some s' → ClientRule cfg s ws pc o s' := by
    intro c hpc h
    obtain ⟨connection, hc, h⟩ := Option.bind_eq_some_iff.mp h
    exact resumeSession_rule hc hpc h
  cases pc with
  -- Whether the accept succeeds or raises, nothing has been sent or opened.
  | accepting =>
    simp only [resumeClient] at h
    split at h <;> cases h
    · exact .advances rfl rfl (by simp) (by simp) (by simp) (by simp) (by simp [Client.silent])
    · exact .advances rfl rfl (by simp) (by simp) (by simp) (by simp) (by simp [Client.silent])
  | receivingStart =>
    simp only [resumeClient] at h
    split at h <;> cases h
    all_goals
      exact .advances rfl rfl (by simp) (by simp) (by simp) (by simp) (by simp [Client.silent])
  | checking m =>
    simp only [resumeClient] at h
    split at h
    · exact startSession_rule h
    · cases h
      exact .refuses (.inl ⟨m, rfl⟩)
    · cases h
      exact .advances rfl rfl (by simp) (by simp) (by simp) (by simp) (by simp [Client.silent])
    · cases h
  | refusing =>
    simp only [resumeClient] at h
    split at h <;> cases h
    all_goals
      exact .advances rfl rfl (by simp) (by simp) (by simp) (by simp) (by simp [Client.silent])
  | reportingUnregistered =>
    simp only [resumeClient] at h
    split at h <;> cases h
    · exact .refuses (.inr rfl)
    · exact .advances rfl rfl (by simp) (by simp) (by simp) (by simp) (by simp [Client.silent])
  | creating binary pc =>
    obtain ⟨⟨r', res⟩, hres, rfl⟩ := Option.map_eq_some_iff.mp h
    exact .creating (CreateConnection.resume_step hres)
  | sendingStartOK binary c =>
    simp only [resumeClient] at h
    split at h
    · obtain ⟨connection, hc, rfl⟩ := Option.map_eq_some_iff.mp h
      have hstart : (s.startReader ws binary c).continueLoop ws c connection.agent_connection =
          (s.startReader ws binary c).setClient ws (.receiving c) := by
        simp [continueLoop, startReader]
      rw [hstart]
      exact .starts hc
    · cases h
      exact .startFails
    · cases h
  | reportingError =>
    simp only [resumeClient] at h
    split at h <;> cases h
    all_goals
      refine .advances rfl rfl (by simp) (by simp) ?_ (fun _ => ⟨_, rfl⟩) (by simp [Client.silent])
      rintro i result ⟨⟩
      simp
  | receiving c => exact session c (by simp) h
  | forwarding c message send => exact session c (by simp) h
  | closing c pc => exact session c (by simp) h
  | closingClient c => exact session c (by simp) h
  | joining c => exact session c (by simp) h
  | cancelling c => exact session c (by simp) h
  | finished i result => cases h

end RelayState

/-! ## access_client_receive_thread -/

/-- The rules of `access_client_receive_thread`, for the connection object `connection`. What a rule
does to the object's event is left open. -/
inductive ReaderRule (s : RelayState) (c : ConnectionId) (connection : TcpConnection)
    (reader : Reader) : Outcome → RelayState → Prop
  /-- A chunk of the buffer is taken and sent. -/
  | sends {event o} (hpoint : reader.point ≠ .finished) (hlive : reader.cancelled = false)
      (ho : o = .ok) (hbuf : connection.recv_buffer ≠ [])
      (hevent : event.waiters ⊆ connection.event.waiters) :
      ReaderRule s c connection reader o
        ((s.withRelay ((s.relay.modifyConnection c fun _ => { connection with
            recv_buffer := connection.recv_buffer.drop READ_CHUNK_SIZE, event }).sendToClient
          reader.access_client_connection
          (chunkMessage reader.binary (connection.recv_buffer.take READ_CHUNK_SIZE)))).setReader c
            { reader with point := .sending })
  /-- The buffer is empty and the connection active: the reader waits for data. -/
  | parks {event o} (hpoint : reader.point ≠ .finished) (hlive : reader.cancelled = false)
      (hbuf : connection.recv_buffer = []) (hact : c ∈ s.relay.active_relayed_connections) :
      ReaderRule s c connection reader o
        ((s.withRelay (s.relay.modifyConnection c fun _ => { connection with event })).setReader c
          { reader with point := .parked })
  /-- The reader leaves its loop and drops the connection: because it is dropped already, because
  it was cancelled, or because the send of a chunk raised. -/
  | ends {event o} (hpoint : reader.point ≠ .finished)
      (why : c ∉ s.relay.active_relayed_connections ∨ reader.cancelled = true ∨
        ∃ e, o = .raised e)
      (hevent : event.waiters ⊆ connection.event.waiters) :
      ReaderRule s c connection reader o
        ((s.withRelay (s.relay.modifyConnection c fun _ => { connection with event })).readerEnds c
          reader)
  /-- The reader is cancelled before it has run. -/
  | dies {o} (hpoint : reader.point = .ready) (hcancelled : reader.cancelled = true) :
      ReaderRule s c connection reader o (s.setReader c { reader with point := .finished })

/-- Replacing the object that is there by itself changes nothing. -/
theorem NetworkRelay.modifyConnection_self {r : NetworkRelay} {c : ConnectionId}
    {connection : TcpConnection} (hc : r.connection c = some connection) :
    r.modifyConnection c (fun _ => connection) = r := by
  have hupdate : Function.update r.connection c (some connection) = r.connection := by
    rw [← hc, Function.update_eq_self]
  rw [modifyConnection, hc, Option.map_some, hupdate]

/-- Two modifications of an object in a row, the second one of a known result. -/
theorem NetworkRelay.modifyConnection_modifyConnection {r : NetworkRelay} {c : ConnectionId}
    {connection : TcpConnection} (hc : r.connection c = some connection)
    (f g : TcpConnection → TcpConnection) :
    (r.modifyConnection c f).modifyConnection c g =
      r.modifyConnection c fun _ => g (f connection) := by
  simp [hc]

namespace RelayState

variable {s s' : RelayState} {c : ConnectionId} {connection : TcpConnection} {reader : Reader}

/-- A stretch of `read`, entered with the object's event already changed. -/
theorem read_rule {event : Event Task} {o : Outcome} (ho : o = .ok)
    (hc : s.relay.connection c = some connection)
    (hpoint : reader.point ≠ .finished) (hlive : reader.cancelled = false)
    (hevent : event.waiters ⊆ connection.event.waiters) :
    ReaderRule s c connection reader o
      ((s.withRelay (s.relay.modifyConnection c fun _ => { connection with event })).read c
        connection reader) := by
  unfold read
  split
  · rename_i hbuf
    split
    · rename_i hact
      have hact' : c ∈ s.relay.active_relayed_connections := hact
      -- Nothing is buffered and the connection is active: the read waits for the event.
      have hpark := @ReaderRule.parks s c connection reader
        ((event.clear).park (.reader c)) o hpoint hlive hbuf hact'
      simpa only [withRelay, modifyConnection_modifyConnection hc] using hpark
    · rename_i hact
      -- It is not active any more, and the read reports the end of the stream.
      have hends := @ReaderRule.ends s c connection reader event o hpoint (.inl hact) hevent
      exact hends
  · rename_i hbuf
    -- A chunk is taken and sent in the framing of the session.
    have hsend := @ReaderRule.sends s c connection reader event o hpoint hlive ho hbuf hevent
    simpa only [withRelay, modifyConnection_modifyConnection hc] using hsend

/-- What the loop of a reader does. -/
theorem readerLoop_rule {o : Outcome} (ho : o = .ok)
    (hc : s.relay.connection c = some connection)
    (hpoint : reader.point ≠ .finished) (hlive : reader.cancelled = false) :
    ReaderRule s c connection reader o (s.readerLoop c connection reader) := by
  -- The loop's condition only reads the list: the object is replaced by itself.
  have hself := modifyConnection_self hc
  unfold readerLoop
  split
  · have hread := @read_rule s c connection reader connection.event o ho hc hpoint hlive
      (List.Subset.refl _)
    rw [hself] at hread
    exact hread
  · rename_i hact
    have hends := @ReaderRule.ends s c connection reader connection.event o hpoint (.inl hact)
      (List.Subset.refl _)
    rw [hself] at hends
    exact hends

/-- What a step of a reader does. -/
theorem resumeReader_rule {o : Outcome} (h : s.resumeReader c reader o = some s') :
    ∃ connection, s.relay.connection c = some connection ∧
      ReaderRule s c connection reader o s' := by
  obtain ⟨connection, hc, hres⟩ := Option.bind_eq_some_iff.mp h
  refine ⟨connection, hc, ?_⟩
  have hself := modifyConnection_self hc
  -- A reader that was waiting leaves the event's waiters before anything else.
  have hleave : (s.relay.modifyConnection c fun connection =>
      { connection with event := connection.event.leave (.reader c) }) =
      s.relay.modifyConnection c fun _ =>
        { connection with event := connection.event.leave (.reader c) } := by
    simp [hc]
  dsimp only at hres
  split at hres
  · -- Cancelled, it ends at its next resumption.
    rename_i hcancelled
    split at hres <;> cases hres
    · rename_i hpoint
      exact .dies hpoint hcancelled
    · rename_i hpoint
      rw [hleave]
      exact .ends (by simp [hpoint]) (.inr (.inl hcancelled)) List.erase_subset
    · rename_i hpoint
      have hends := @ReaderRule.ends s c connection reader connection.event .ok (by simp [hpoint])
        (.inr (.inl hcancelled)) (List.Subset.refl _)
      rw [hself] at hends
      exact hends
  · rename_i hlive
    have hlive : reader.cancelled = false := by simpa using hlive
    split at hres
    · rename_i hpoint
      cases hres
      exact readerLoop_rule rfl hc (by simp [hpoint]) hlive
    · rename_i hpoint
      split at hres <;> cases hres
      have hread := @read_rule s c connection reader (connection.event.leave (.reader c)).clear
        .ok rfl hc (by simp [hpoint]) hlive List.erase_subset
      simpa only [withRelay, modifyConnection_modifyConnection hc] using hread
    · rename_i hpoint
      cases hres
      exact readerLoop_rule rfl hc (by simp [hpoint]) hlive
    · rename_i e hpoint
      cases hres
      have hends := @ReaderRule.ends s c connection reader connection.event (.raised e)
        (by simp [hpoint]) (.inr (.inr ⟨e, rfl⟩)) (List.Subset.refl _)
      rw [hself] at hends
      exact hends
    · cases hres

end RelayState

end HttpNetworkRelay
