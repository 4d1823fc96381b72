import HttpNetworkRelay.Relay.Rules

/-!
# What no step undoes

`Evolves r r'` collects what holds of any two relays of which the second is reached from the first:
connection objects stay, as do their agent, their framing and their creator; an id that is not
active becomes active only as that of a new object; messages that were sent stay sent, and a closed
websocket stays closed. `step_evolves` shows it of every step.
-/

namespace HttpNetworkRelay

open Asyncio Python RelayState NetworkRelay

/-- What is fixed when a connection object is created. -/
def TcpConnection.identity (connection : TcpConnection) :
    ConnectionClass × AgentSocket × Bool × Task :=
  (connection.cls, connection.agent_connection, connection.agent_supports_binary,
    connection.creator)

/-- `r'` is a later state of `r`. -/
structure Evolves (r r' : NetworkRelay) : Prop where
  connection : ∀ c connection, r.connection c = some connection →
    ∃ connection', r'.connection c = some connection' ∧ connection'.identity = connection.identity
  fresh : ∀ c, r.connection c = none → (r'.connection c).isSome = true → canonical c = true
  active : ∀ c ∈ r'.active_relayed_connections, c ∈ r.active_relayed_connections ∨
    r.connection c = none ∧ (r'.connection c).isSome = true
  queues : ∀ c ∈ r'.initiate_connection_answer_queues, c ∈ r.initiate_connection_answer_queues ∨
    r.connection c = none ∧ (r'.connection c).isSome = true
  client_closed : ∀ A, r.client_closed A = true → r'.client_closed A = true
  to_agent : ∀ W, r.to_agent W <+: r'.to_agent W
  to_client : ∀ A, r.to_client A <+: r'.to_client A
  agent_sent : ∀ W, r.agent_sent W <+: r'.agent_sent W

namespace Evolves

variable {r r' r'' : NetworkRelay}

/-- A relay that stays as it is evolves. -/
theorem refl (r : NetworkRelay) : Evolves r r where
  connection _ connection hc := ⟨connection, hc, rfl⟩
  fresh c hnone hsome := by rw [hnone] at hsome; cases hsome
  active _ h := .inl h
  queues _ h := .inl h
  client_closed _ h := h
  to_agent _ := List.prefix_rfl
  to_client _ := List.prefix_rfl
  agent_sent _ := List.prefix_rfl

/-- A connection that is not known after a step was not known before. -/
theorem connection_none (h : Evolves r r') {c : ConnectionId} (hc : r'.connection c = none) :
    r.connection c = none := by
  cases hr : r.connection c with
  | none => rfl
  | some connection =>
    obtain ⟨connection', hc', -⟩ := h.connection c connection hr
    rw [hc] at hc'
    cases hc'

/-- A connection that is known stays known. -/
theorem connection_isSome (h : Evolves r r') {c : ConnectionId}
    (hc : (r.connection c).isSome = true) : (r'.connection c).isSome = true := by
  obtain ⟨connection, hr⟩ := Option.isSome_iff_exists.mp hc
  obtain ⟨connection', hr', -⟩ := h.connection c connection hr
  rw [hr']
  rfl

/-- Two evolutions make one. -/
theorem trans (h : Evolves r r') (h' : Evolves r' r'') : Evolves r r'' where
  connection c connection hc := by
    obtain ⟨connection', hc', hid⟩ := h.connection c connection hc
    obtain ⟨connection'', hc'', hid'⟩ := h'.connection c connection' hc'
    exact ⟨connection'', hc'', hid'.trans hid⟩
  fresh c hnone hsome := by
    -- The connection is new in the first of the two, or in the second.
    cases hr' : r'.connection c with
    | none => exact h'.fresh c hr' hsome
    | some connection => exact h.fresh c hnone (by rw [hr']; rfl)
  active c hc := by
    rcases h'.active c hc with hc' | ⟨hnone, hsome⟩
    · exact (h.active c hc').imp_right fun ⟨hnone, hsome⟩ => ⟨hnone, h'.connection_isSome hsome⟩
    · exact .inr ⟨h.connection_none hnone, hsome⟩
  queues c hc := by
    rcases h'.queues c hc with hc' | ⟨hnone, hsome⟩
    · exact (h.queues c hc').imp_right fun ⟨hnone, hsome⟩ => ⟨hnone, h'.connection_isSome hsome⟩
    · exact .inr ⟨h.connection_none hnone, hsome⟩
  client_closed A hA := h'.client_closed A (h.client_closed A hA)
  to_agent W := (h.to_agent W).trans (h'.to_agent W)
  to_client A := (h.to_client A).trans (h'.to_client A)
  agent_sent W := (h.agent_sent W).trans (h'.agent_sent W)

/-- A change outside the tables, the sends and the websockets' states. -/
theorem of_eq (htables : r'.toConnectionTables = r.toConnectionTables)
    (hsent : r'.agent_sent = r.agent_sent) (hout : r'.to_agent = r.to_agent)
    (hclients : r'.toClientOutput = r.toClientOutput) : Evolves r r' where
  connection c connection hc := ⟨connection, by rw [htables]; exact hc, rfl⟩
  fresh c hnone hsome := by rw [htables, hnone] at hsome; cases hsome
  active c hc := by rw [htables] at hc; exact .inl hc
  queues c hc := by rw [htables] at hc; exact .inl hc
  client_closed A hA := by rw [hclients]; exact hA
  to_agent W := by rw [hout]
  to_client A := by rw [hclients]
  agent_sent W := by rw [hsent]

/-- A change of one connection object that keeps its identity. -/
theorem modifyConnection (r : NetworkRelay) (c : ConnectionId) {f : TcpConnection → TcpConnection}
    (hf : ∀ connection, r.connection c = some connection →
      (f connection).identity = connection.identity) : Evolves r (r.modifyConnection c f) where
  __ := Evolves.refl r
  connection c' connection hc' := by
    by_cases h : c' = c
    · subst h
      exact ⟨f connection, by simp [hc'], hf connection hc'⟩
    · exact ⟨connection, by simp [h, hc'], rfl⟩
  fresh c' hnone hsome := by
    by_cases h : c' = c
    · subst h
      simp [hnone] at hsome
    · simp [h, hnone] at hsome
  active _ hc := .inl hc
  queues _ hc := .inl hc

/-- A new connection object. -/
theorem publish (r : NetworkRelay) {c : ConnectionId} (hc : r.connection c = none)
    (hcanonical : canonical c = true) (connection : TcpConnection) :
    Evolves r (r.publish c connection) where
  __ := Evolves.refl r
  connection c' connection' hc' := by
    -- The id is free, so no object is replaced.
    have hne : c' ≠ c := by rintro rfl; rw [hc] at hc'; cases hc'
    exact ⟨connection', by simp [hne, hc'], rfl⟩
  fresh c' hnone hsome := by
    by_cases h : c' = c
    · rw [h]
      exact hcanonical
    · simp [h, hnone] at hsome
  active c' h := by
    rcases List.mem_append.mp h with h | h
    · exact .inl h
    · rw [List.mem_singleton.mp h]
      exact .inr ⟨hc, by simp⟩
  queues c' h := by
    rcases List.mem_append.mp h with h | h
    · exact .inl h
    · rw [List.mem_singleton.mp h]
      exact .inr ⟨hc, by simp⟩

/-- A drop is an evolution. -/
theorem drop (r : NetworkRelay) (c : ConnectionId) : Evolves r (r._drop_relayed_connection c) where
  __ := Evolves.refl r
  connection c' connection hc' := by
    -- A drop of a connection that is not active is nothing.
    by_cases h : c ∈ r.active_relayed_connections
    · by_cases hcc : c' = c
      · subst hcc
        exact ⟨connection.wake_readers, by simp [h, hc'], rfl⟩
      · exact ⟨connection, by simp [h, hcc, hc'], rfl⟩
    · exact ⟨connection, by simp [h, hc'], rfl⟩
  fresh c' hnone hsome := by
    by_cases h : c ∈ r.active_relayed_connections
    · by_cases hcc : c' = c
      · subst hcc
        simp [h, hnone] at hsome
      · simp [h, hcc, hnone] at hsome
    · simp [h, hnone] at hsome
  active _ h := .inl (List.mem_filter.mp h).1
  queues _ hc := .inl hc

/-- Putting answers into a queue is an evolution. -/
theorem setAnswers (r : NetworkRelay) (c : ConnectionId) (messages : List EdgeAgentToRelayMessage) :
    Evolves r (r.setAnswers c messages) where
  __ := Evolves.refl r

/-- Removing a queue is an evolution. -/
theorem removeAnswerQueue (r : NetworkRelay) (c : ConnectionId) :
    Evolves r (r.removeAnswerQueue c) where
  __ := Evolves.refl r
  queues _ hc := .inl (List.mem_filter.mp hc).1

/-- A list that grows at the end, for one key of a function. -/
theorem prefix_update {α β : Type*} [DecidableEq α] (f : α → List β) (a : α) (l : List β) (b : α) :
    f b <+: Function.update f a (f a ++ l) b := by
  by_cases h : b = a
  · subst h
    simp
  · simp [h]

/-- A message to an agent is an evolution. -/
theorem sendToAgent (r : NetworkRelay) (W : AgentSocket) (m : ToAgent) :
    Evolves r (r.sendToAgent W m) where
  __ := Evolves.refl r
  to_agent := prefix_update _ _ _

/-- A message to an access client is an evolution. -/
theorem sendToClient (r : NetworkRelay) (A : ClientSocket) (m : ToClient) :
    Evolves r (r.sendToClient A m) where
  __ := Evolves.refl r
  to_client := prefix_update _ _ _

/-- Closing an access client's websocket is an evolution. -/
theorem closeClient (r : NetworkRelay) (A : ClientSocket) : Evolves r (r.closeClient A) where
  __ := Evolves.refl r
  client_closed A' hA := by
    by_cases h : A' = A
    · subst h
      simp
    · simp [h, hA]

/-- A step that only locks and sends has sent what `r₁` has. -/
theorem of_sameButSends {r₁ : NetworkRelay} (same : r.SameButSends r')
    (out : r'.toAgentOutput = r₁.toAgentOutput) (h : ∀ W, r.to_agent W <+: r₁.to_agent W) :
    Evolves r r' where
  connection c connection hc := ⟨connection, by rw [same.tables]; exact hc, rfl⟩
  fresh c hnone hsome := by rw [same.connection, hnone] at hsome; cases hsome
  active c hc := by rw [same.tables] at hc; exact .inl hc
  queues c hc := by rw [same.tables] at hc; exact .inl hc
  client_closed A hA := by rw [same.clients]; exact hA
  to_agent W := by rw [out]; exact h W
  to_client A := by rw [same.clients]
  agent_sent W := by rw [same.agents]

end Evolves

/-! ## The coroutines -/

section

variable {r r' : NetworkRelay} {c : ConnectionId} {ws : AgentSocket} {o : Outcome}

/-- A step of a locked send is an evolution. -/
theorem SendStep.evolves {message : Except Exc ToAgent} {pc : Option LockedSend}
    {res : Res LockedSend Unit Exc} (h : SendStep r ws message pc o r' res) : Evolves r r' := by
  cases h with
  | sends _ _ same out => exact .of_sameButSends same out (Evolves.sendToAgent r ws _).to_agent
  | queues same out | unencodable _ same out | completes same out | fails same out =>
    exact .of_sameButSends same out fun _ => List.prefix_rfl

/-- The beginning of a locked send is an evolution. -/
theorem Sending.evolves {m : ToAgent} {send : LockedSend} (same : r.SameButSends r')
    (h : Sending r ws m r' send) : Evolves r r' := by
  cases send with
  | acquiring l => exact .of_sameButSends same h fun _ => List.prefix_rfl
  | sending l => exact .of_sameButSends same h (Evolves.sendToAgent r ws _).to_agent

/-- A step of a close is an evolution. -/
theorem CloseStep.evolves {pc : CloseRelayedConnection} {res : Res CloseRelayedConnection Unit Exc}
    (h : CloseStep r c ws pc o r' res) : Evolves r r' := by
  cases h with
  | informs same out => exact .of_sameButSends same out (Evolves.sendToAgent r ws _).to_agent
  | closesClient _ same out _ =>
    exact (Evolves.of_sameButSends same out fun _ => List.prefix_rfl).trans (.closeClient _ _)
  | dropsUnattached _ same out _ =>
    exact (Evolves.of_sameButSends same out fun _ => List.prefix_rfl).trans (.drop _ _)
  | informingFails _ same out => exact .of_sameButSends same out fun _ => List.prefix_rfl
  | drops _ => exact .drop _ _
  | closingFails _ => exact .refl _

/-- A step of a teardown is an evolution. -/
theorem TeardownStep.evolves {pc : EdgeAgentConnectionClose}
    {res : Res EdgeAgentConnectionClose Unit Exc} (h : TeardownStep r pc o r' res) :
    Evolves r r' := by
  cases h with
  | inside h => exact h.evolves
  | next h _ same hsend => exact h.evolves.trans (hsend.evolves same)
  | done h _ => exact h.evolves.trans (.of_eq rfl rfl rfl rfl)
  | fails h => exact h.evolves

/-- The start of a teardown is an evolution. -/
theorem TeardownStart.evolves {n : AgentId} {res : Res EdgeAgentConnectionClose Unit Exc}
    (h : TeardownStart r n r' res) : Evolves r r' := by
  cases h with
  | unregistered _ => exact .of_eq rfl rfl rfl rfl
  | idle _ _ => exact .of_eq rfl rfl rfl rfl
  | @starts ws _ _ _ _ _ _ same hsend =>
    have hderegister : Evolves r ((r.deregister n).removeAgent ws) := .of_eq rfl rfl rfl rfl
    exact hderegister.trans (hsend.evolves same)

/-- A step of a create call is an evolution. -/
theorem CreateStep.evolves {cfg : RelayConfig} {pc : CreateConnection}
    {res : Res CreateConnection ConnectionId Exc} (h : CreateStep cfg r pc o r' res) :
    Evolves r r' := by
  cases h with
  | requests _ same out => exact .of_sameButSends same out (Evolves.sendToAgent r _ _).to_agent
  | waits _ same out _ => exact .of_sameButSends same out fun _ => List.prefix_rfl
  | @answers r₁ _ rest _ same out _ =>
    have hsame : Evolves r r₁ := .of_sameButSends same out fun _ => List.prefix_rfl
    exact hsame.trans ((Evolves.setAnswers r₁ _ rest).trans (.removeAnswerQueue _ _))
  | requestFails _ same out => exact .of_sameButSends same out fun _ => List.prefix_rfl

end

/-! ## The tasks -/

namespace RelayState

variable {cfg : RelayConfig} {s s' : RelayState}

/-- The end of an eviction is an evolution. -/
theorem evicted_evolves {r r' : NetworkRelay} (h : Evolves r r') (s : RelayState) (ws : AgentSocket)
    (m : EtRStartMessage) (n : AgentId) (res : Res EdgeAgentConnectionClose Unit Exc) :
    Evolves r (s.evicted ws m n (r', res)).relay := by
  cases res with
  | parked pc => exact h
  | returned a => exact h.trans (.of_eq rfl rfl rfl rfl)
  | raised e => exact h

/-- A step of a handshake is an evolution. -/
theorem handshake_evolves {ws : AgentSocket} {pc : Handshake} {o : Outcome}
    (h : HandshakeRule cfg s ws pc o s') : Evolves s.relay s'.relay := by
  cases h with
  | @evicts m n _ _ _ _ _ _ _ h =>
    have hset : Evolves s.relay (s.relay.setSupportsBinary n m.supports_binary) :=
      .of_eq rfl rfl rfl rfl
    exact evicted_evolves (hset.trans h.evolves) s ws m n _
  | evicting h => exact evicted_evolves h.evolves s ws _ _ _
  | accepts | receives | refuses | opens | duplicate | noAttribute | ends =>
    exact .of_eq rfl rfl rfl rfl

/-- A step of a keep-alive task is an evolution. -/
theorem keepAlive_evolves {ws : AgentSocket} {pc : KeepAlive} {o : Outcome}
    (h : KeepAliveRule s ws pc o s') : Evolves s.relay s'.relay := by
  have hsent : ∀ r' res, (s.keepAliveSent ws (r', res)).relay = r' := by
    intro r' res
    cases res <;> rfl
  cases h with
  | sends h | sending h =>
    rw [hsent]
    exact h.evolves
  | stops => exact .refl _

/-- The handling of a frame of an agent is an evolution. -/
theorem frame_evolves {ws : AgentSocket} {n : AgentId} {frame : AgentFrame}
    (h : FrameRule cfg s ws n frame s') : Evolves s.relay s'.relay := by
  cases h with
  | fills => exact .modifyConnection _ _ fun _ _ => rfl
  | resets _ _ _ _ same hsend => exact hsend.evolves same
  | answers => exact .setAnswers _ _ _
  | stops | ignores | schedules | blocks | custom => exact .refl _

/-- A step of a message loop is an evolution. -/
theorem msgLoop_evolves {ws : AgentSocket} {n : AgentId} {pc : MsgLoop} {o : Outcome}
    (h : MsgLoopRule cfg s ws n pc o s') : Evolves s.relay s'.relay := by
  cases h with
  | disconnects _ h => exact h.evolves
  | @receives _ rest _ _ h =>
    have hinbox : Evolves s.relay (s.relay.setInbox ws rest) := .of_eq rfl rfl rfl rfl
    exact hinbox.trans (frame_evolves h)
  | resetting _ h => exact h.evolves
  | puts => exact .setAnswers _ _ _
  | tearingDown h => exact h.evolves
  | receiveFails | customHandled => exact .refl _

/-- Forgetting the access client of a connection, and the sends after it. -/
theorem access_close_evolves {r r' : NetworkRelay} {c : ConnectionId} {agent : AgentSocket}
    {send : LockedSend} (same : (r.access_client_connection_close c).SameButSends r')
    (hsend : Sending (r.access_client_connection_close c) agent (closeMessage c) r' send) :
    Evolves r r' := by
  have hclose : Evolves r (r.access_client_connection_close c) := { __ := Evolves.refl r }
  exact hclose.trans (hsend.evolves same)

/-- The next turn of a session's loop is an evolution. -/
theorem continueLoop_evolves (s : RelayState) (ws : ClientSocket) (c : ConnectionId)
    (agent : AgentSocket) : Evolves s.relay (s.continueLoop ws c agent).relay := by
  rcases continueLoop_cases s ws c agent with ⟨A, -, heq⟩ | ⟨-, r', send, heq, same, hsend⟩
  · rw [heq]
    exact .refl _
  · rw [heq]
    exact access_close_evolves same hsend

/-- The forwarding by a session is an evolution. -/
theorem forwarded_evolves {r' : NetworkRelay} (h : Evolves s.relay r') (ws : ClientSocket)
    (c : ConnectionId) (agent : AgentSocket) (message : Except Exc ToAgent)
    (res : Res LockedSend Unit Exc) :
    Evolves s.relay (s.forwarded ws c agent message (r', res)).relay := by
  cases res with
  | parked send => exact h
  | returned a => exact h.trans (continueLoop_evolves (s.withRelay r') ws c agent)
  | raised e => exact h

/-- A step of a session is an evolution. -/
theorem client_evolves {ws : ClientSocket} {pc : Client} {o : Outcome}
    (h : ClientRule cfg s ws pc o s') : Evolves s.relay s'.relay := by
  cases h with
  | refuses => exact .closeClient _ _
  | unregistered => exact .sendToClient _ _ _
  | opens hfresh _ _ same hsend =>
    obtain ⟨hnone, hcanonical⟩ := Bool.and_eq_true_iff.mp hfresh
    exact (Evolves.publish s.relay (Option.isNone_iff_eq_none.mp hnone) hcanonical _).trans
      (hsend.evolves same)
  | @creating binary pc _ r' res h =>
    -- The call evolves the relay, and what the access client is told comes after it.
    have hcreate : Evolves s.relay r' := h.evolves
    cases res with
    | parked pc => exact hcreate
    | returned c => exact hcreate.trans (.sendToClient _ _ _)
    | raised e =>
      cases e with
      | valueError text => exact hcreate.trans (.sendToClient _ _ _)
      | _ => exact hcreate
  | starts => exact { __ := Evolves.refl s.relay }
  | @disconnects c _ _ _ _ _ _ same hsend =>
    exact (Evolves.drop s.relay c).trans (access_close_evolves same hsend)
  | ignores => exact continueLoop_evolves s _ _ _
  | forwards _ _ h => exact forwarded_evolves h.evolves _ _ _ _ _
  | forwarding _ h => exact forwarded_evolves h.evolves _ _ _ _ _
  | @closing _ _ _ _ r' res _ h =>
    -- The close of the session's own websocket comes after that of its connection.
    have hclose : Evolves s.relay r' := h.evolves
    cases res with
    | returned a => exact hclose.trans (.closeClient _ _)
    | parked pc => exact hclose
    | raised e => exact hclose
  | advances | startFails | receiveFails | malformed | clientClosed | closeFails | joined
  | cancels => exact .refl _

/-- A step of a reader is an evolution. -/
theorem reader_evolves {c : ConnectionId} {connection : TcpConnection} {reader : Reader}
    {o : Outcome} (hc : s.relay.connection c = some connection)
    (h : ReaderRule s c connection reader o s') : Evolves s.relay s'.relay := by
  -- A reader replaces the object by one of the same class, websockets and owner.
  have hidentity : ∀ connection', connection'.identity = connection.identity →
      Evolves s.relay (s.relay.modifyConnection c fun _ => connection') := by
    intro connection' hid
    refine .modifyConnection _ _ fun connection'' hc'' => ?_
    rw [hid, Option.some.inj (hc.symm.trans hc'')]
  cases h with
  | @sends event =>
    exact (hidentity { connection with
      recv_buffer := connection.recv_buffer.drop READ_CHUNK_SIZE, event } rfl).trans
        (.sendToClient _ _ _)
  | parks => exact hidentity _ rfl
  | @ends event => exact (hidentity { connection with event } rfl).trans (.drop _ _)
  | dies => exact .refl _

end RelayState

/-- Every step is an evolution. -/
theorem RelayRule.evolves {cfg : RelayConfig} {s s' : RelayState} {e : RelayEvent}
    (h : RelayRule cfg s e s') : Evolves s.relay s'.relay := by
  -- And so do the sends of the user.
  have hidentity : ∀ {c connection} (send_buffer : Bytes),
      s.relay.connection c = some connection → Evolves s.relay
        (s.relay.modifyConnection c fun _ => { connection with send_buffer }) := by
    intro c connection send_buffer hc
    refine .modifyConnection _ _ fun connection' hc' => ?_
    rw [← Option.some.inj (hc.symm.trans hc')]
    rfl
  cases h with
  | agentSends => exact { __ := Evolves.refl s.relay, agent_sent := Evolves.prefix_update _ _ _ }
  | create _ hfresh _ same hsend =>
    obtain ⟨hnone, hcanonical⟩ := Bool.and_eq_true_iff.mp hfresh
    exact (Evolves.publish s.relay (Option.isNone_iff_eq_none.mp hnone) hcanonical _).trans
      (hsend.evolves same)
  | send _ _ hc => exact hidentity _ hc
  | handshake _ h => exact handshake_evolves h
  | keepAlive _ h => exact keepAlive_evolves h
  | msgLoop _ h => exact msgLoop_evolves h
  | client _ h => exact client_evolves h
  | reader _ hc h => exact reader_evolves hc h
  | call _ h => exact h.evolves
  | closes _ same hsend => exact hsend.evolves same
  | closing _ h => exact h.evolves
  | sends _ hc h => exact (hidentity _ hc).trans h.evolves
  | sending _ _ h => exact h.evolves
  | agentConnects | agentDies | clientConnects | createFails | close => exact .of_eq rfl rfl rfl rfl

/-- Every step leads to a later state. -/
theorem step_evolves {cfg : RelayConfig} {s s' : RelayState} {e : RelayEvent}
    (h : step cfg s e = some s') : Evolves s.relay s'.relay :=
  (step_rule h).evolves

end HttpNetworkRelay
