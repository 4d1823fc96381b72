import HttpNetworkRelay.Relay.Evolution

/-!
# Which tasks a step moves

A step moves the task that it resumes, and few others: the handshake creates the tasks of its
websocket, the session its reader, and a reset or a user a `close`. One frame lemma for each kind of
task says that its slot is otherwise unchanged.
-/

namespace HttpNetworkRelay

open Asyncio Python RelayState NetworkRelay

/-- The connection that a session has been given, or is creating. -/
def Client.connection_id? : Client → Option ConnectionId
  | .creating _ pc => some pc.connection_id
  | .sendingStartOK _ c | .receiving c | .forwarding c _ _ | .closing c _ | .closingClient c
  | .joining c | .cancelling c => some c
  | .finished i _ => i
  | _ => none

/-- The connection of a session that is being opened. -/
def Client.opening? : Client → Option ConnectionId
  | .creating _ pc => some pc.connection_id
  | .sendingStartOK _ c => some c
  | _ => none

/-- The connection of a session that is in its loop. -/
def Client.connected? : Client → Option ConnectionId
  | .receiving c | .forwarding c _ _ => some c
  | _ => none

/-- The connection of a session that has left its loop. -/
def Client.leaving? : Client → Option ConnectionId
  | .closing c _ | .closingClient c | .joining c | .cancelling c => some c
  | _ => none

/-- The slots that the tasks of an agent's websocket leave alone. -/
structure SameSessions (s s' : RelayState) : Prop where
  client : s'.client = s.client
  reader : s'.reader = s.reader
  call : s'.call = s.call
  sender : s'.sender = s.sender

/-- The slots that sessions, readers and the library's users leave alone. -/
structure SameAgentTasks (s s' : RelayState) : Prop where
  handshake : s'.handshake = s.handshake
  keepAlive : s'.keepAlive = s.keepAlive
  msgLoop : s'.msgLoop = s.msgLoop

/-- The slots that hold the `close` tasks. -/
structure SameClosers (s s' : RelayState) : Prop where
  closer : s'.closer = s.closer
  closers_created : s'.closers_created = s.closers_created

variable {cfg : RelayConfig} {s s' : RelayState}

/-- A handshake moves no task of a session, no close by a user, and no task of another websocket. -/
theorem HandshakeRule.frame {ws : AgentSocket} {pc : Handshake} {o : Outcome}
    (h : HandshakeRule cfg s ws pc o s') :
    SameSessions s s' ∧ SameClosers s s' ∧ (∀ W, W ≠ ws → s'.handshake W = s.handshake W ∧
      s'.keepAlive W = s.keepAlive W ∧ s'.msgLoop W = s.msgLoop W) := by
  -- Opening the agent creates two tasks, both of its own websocket.
  have hopen : ∀ s₁ : RelayState, SameSessions s s₁ ∧ SameClosers s s₁ ∧ SameAgentTasks s s₁ →
      ∀ m n, SameSessions s (s₁.openAgent ws m n) ∧ SameClosers s (s₁.openAgent ws m n) ∧
        (∀ W, W ≠ ws → (s₁.openAgent ws m n).handshake W = s.handshake W ∧
          (s₁.openAgent ws m n).keepAlive W = s.keepAlive W ∧
          (s₁.openAgent ws m n).msgLoop W = s.msgLoop W) := by
    intro s₁ ⟨⟨hclient, hreader, hcall, hsender⟩, ⟨hcloser, hcreated⟩, hshake, halive, hloop⟩ m n
    refine ⟨⟨hclient, hreader, hcall, hsender⟩, ⟨hcloser, hcreated⟩, fun W hW => ?_⟩
    refine ⟨?_, ?_, ?_⟩
    · simp [openAgent, hW, hshake]
    · simp only [openAgent]
      split <;> simp [hW, halive]
    · simp [openAgent, hW, hloop]
  -- All other steps move the handshake itself.
  have hset : ∀ r pc', SameSessions s ((s.withRelay r).setHandshake ws pc') ∧
      SameClosers s ((s.withRelay r).setHandshake ws pc') ∧
      (∀ W, W ≠ ws → ((s.withRelay r).setHandshake ws pc').handshake W = s.handshake W ∧
        ((s.withRelay r).setHandshake ws pc').keepAlive W = s.keepAlive W ∧
        ((s.withRelay r).setHandshake ws pc').msgLoop W = s.msgLoop W) :=
    fun r pc' => ⟨⟨rfl, rfl, rfl, rfl⟩, ⟨rfl, rfl⟩, fun W hW => ⟨by simp [hW], rfl, rfl⟩⟩
  have hsame : ∀ r, SameSessions s (s.withRelay r) ∧ SameClosers s (s.withRelay r) ∧
      SameAgentTasks s (s.withRelay r) :=
    fun r => ⟨⟨rfl, rfl, rfl, rfl⟩, ⟨rfl, rfl⟩, ⟨rfl, rfl, rfl⟩⟩
  cases h with
  | opens => exact hopen _ (hsame _) _ _
  | @evicts _ _ _ r' res =>
    cases res with
    | returned a => exact hopen _ (hsame _) _ _
    | parked pc' => exact hset _ _
    | raised e => exact hset _ _
  | @evicting _ _ _ _ r' res =>
    cases res with
    | returned a => exact hopen _ (hsame _) _ _
    | parked pc' => exact hset _ _
    | raised e => exact hset _ _
  | accepts | receives | refuses | duplicate | noAttribute => exact hset _ _
  | ends => exact hset s.relay _

/-- A keep-alive task moves no other task. -/
theorem KeepAliveRule.frame {ws : AgentSocket} {pc : KeepAlive} {o : Outcome}
    (h : KeepAliveRule s ws pc o s') :
    SameSessions s s' ∧ SameClosers s s' ∧ s'.handshake = s.handshake ∧ s'.msgLoop = s.msgLoop ∧
      (∀ W, W ≠ ws → s'.keepAlive W = s.keepAlive W) := by
  have hset : ∀ r pc', SameSessions s ((s.withRelay r).setKeepAlive ws pc') ∧
      SameClosers s ((s.withRelay r).setKeepAlive ws pc') ∧
      ((s.withRelay r).setKeepAlive ws pc').handshake = s.handshake ∧
      ((s.withRelay r).setKeepAlive ws pc').msgLoop = s.msgLoop ∧
      (∀ W, W ≠ ws → ((s.withRelay r).setKeepAlive ws pc').keepAlive W = s.keepAlive W) :=
    fun r pc' => ⟨⟨rfl, rfl, rfl, rfl⟩, ⟨rfl, rfl⟩, rfl, rfl, fun W hW => by simp [hW]⟩
  cases h with
  | @sends r' res => cases res <;> exact hset _ _
  | @sending _ _ r' res => cases res <;> exact hset _ _
  | stops => exact hset s.relay _

/-- A frame of an agent moves its message loop, and adds closes. -/
theorem FrameRule.frame {ws : AgentSocket} {n : AgentId} {frame : AgentFrame}
    (h : FrameRule cfg s ws n frame s') :
    SameSessions s s' ∧ s'.handshake = s.handshake ∧ s'.keepAlive = s.keepAlive ∧
      (∀ W, W ≠ ws → s'.msgLoop W = s.msgLoop W) ∧
      (∀ k closer, s.closer k = some closer → k < s.closers_created →
        s'.closer k = some closer) := by
  cases h with
  | schedules =>
    refine ⟨⟨rfl, rfl, rfl, rfl⟩, rfl, rfl, fun W hW => by simp [hW], fun k closer hk hlt => ?_⟩
    have hne : k ≠ s.closers_created := by omega
    simp [hne, hk]
  | stops | ignores | fills | resets | answers | blocks | custom =>
    exact ⟨⟨rfl, rfl, rfl, rfl⟩, rfl, rfl, fun W hW => by simp [hW], fun k closer hk _ => hk⟩

/-- A message loop moves no other task, and adds closes. -/
theorem MsgLoopRule.frame {ws : AgentSocket} {n : AgentId} {pc : MsgLoop} {o : Outcome}
    (h : MsgLoopRule cfg s ws n pc o s') :
    SameSessions s s' ∧ s'.handshake = s.handshake ∧ s'.keepAlive = s.keepAlive ∧
      (∀ W, W ≠ ws → s'.msgLoop W = s.msgLoop W) ∧
      (∀ k closer, s.closer k = some closer → k < s.closers_created →
        s'.closer k = some closer) := by
  cases h with
  | receives hin h =>
    obtain ⟨⟨hclient, hreader, hcall, hsender⟩, hshake, halive, hloop, hcloser⟩ := h.frame
    exact ⟨⟨hclient, hreader, hcall, hsender⟩, hshake, halive, hloop, hcloser⟩
  | disconnects | receiveFails | resetting | puts | customHandled | tearingDown =>
    exact ⟨⟨rfl, rfl, rfl, rfl⟩, rfl, rfl,
      fun W hW => by simp [tornDown, resetHandled, hW], fun k closer hk _ => hk⟩

/-- A session moves no task of an agent or of a user, no other session, and no other reader. -/
theorem ClientRule.frame {ws : ClientSocket} {pc : Client} {o : Outcome}
    (h : ClientRule cfg s ws pc o s') :
    SameAgentTasks s s' ∧ SameClosers s s' ∧ s'.call = s.call ∧ s'.sender = s.sender ∧
      (∀ A, A ≠ ws → s'.client A = s.client A) ∧
      (∀ c, pc.connection_id? ≠ some c → s'.reader c = s.reader c) := by
  have hset : ∀ r pc', SameAgentTasks s ((s.withRelay r).setClient ws pc') ∧
      SameClosers s ((s.withRelay r).setClient ws pc') ∧
      ((s.withRelay r).setClient ws pc').call = s.call ∧
      ((s.withRelay r).setClient ws pc').sender = s.sender ∧
      (∀ A, A ≠ ws → ((s.withRelay r).setClient ws pc').client A = s.client A) ∧
      (∀ c, pc.connection_id? ≠ some c → ((s.withRelay r).setClient ws pc').reader c =
        s.reader c) :=
    fun r pc' =>
      ⟨⟨rfl, rfl, rfl⟩, ⟨rfl, rfl⟩, rfl, rfl, fun A hA => by simp [hA], fun _ _ => rfl⟩
  -- Wherever the loop leads, the session itself is what moves.
  have hloop : ∀ r c agent, ∃ r' pc', (s.withRelay r).continueLoop ws c agent =
      (s.withRelay r').setClient ws pc' := by
    intro r c agent
    rcases continueLoop_cases (s.withRelay r) ws c agent with ⟨A, -, heq⟩ | ⟨-, r', send, heq, -⟩
    · exact ⟨r, _, heq⟩
    · exact ⟨r', _, heq⟩
  have hforwarded : ∀ r c agent message res, ∃ r' pc',
      s.forwarded ws c agent message (r, res) = (s.withRelay r').setClient ws pc' := by
    intro r c agent message res
    cases res with
    | parked send => exact ⟨r, _, rfl⟩
    | returned a => exact hloop r c agent
    | raised e => exact ⟨r, _, rfl⟩
  cases h with
  | @creating _ _ _ r' res =>
    cases res with
    | parked pc' => exact hset _ _
    | returned c => exact hset _ _
    | raised e => cases e <;> exact hset _ _
  -- The reader that is created is that of the session's connection.
  | @starts binary c =>
    refine ⟨⟨rfl, rfl, rfl⟩, ⟨rfl, rfl⟩, rfl, rfl, fun A hA => by simp [startReader, hA], ?_⟩
    intro c' hc'
    have hne : c' ≠ c := by
      rintro rfl
      exact hc' rfl
    simp [startReader, hne]
  | @ignores c _ connection =>
    obtain ⟨r', pc', heq⟩ := hloop s.relay c connection.agent_connection
    have heq' : s.continueLoop ws c connection.agent_connection =
        (s.withRelay r').setClient ws pc' := heq
    rw [heq']
    exact hset _ _
  | @forwards c _ data connection r' res =>
    obtain ⟨r', pc', heq⟩ := hforwarded r' c connection.agent_connection
      (connection.dataMessage c data) res
    rw [heq]
    exact hset _ _
  | @forwarding c message _ _ connection r' res =>
    obtain ⟨r', pc', heq⟩ := hforwarded r' c connection.agent_connection message res
    rw [heq]
    exact hset _ _
  | @closing _ _ _ _ r' res => cases res <;> exact hset _ _
  -- And so is the one that is cancelled.
  | @cancels c =>
    refine ⟨⟨rfl, rfl, rfl⟩, ⟨rfl, rfl⟩, rfl, rfl, fun A hA => by simp [hA], ?_⟩
    intro c' hc'
    have hne : c' ≠ c := by
      rintro rfl
      exact hc' rfl
    simp [hne]
  | refuses | unregistered | opens | disconnects => exact hset _ _
  | advances | startFails | receiveFails | malformed | clientClosed | closeFails | joined =>
    exact hset s.relay _

/-- A reader moves no other task. -/
theorem ReaderRule.frame {c : ConnectionId} {connection : TcpConnection} {reader : Reader}
    {o : Outcome} (h : ReaderRule s c connection reader o s') :
    SameAgentTasks s s' ∧ SameClosers s s' ∧ s'.call = s.call ∧ s'.sender = s.sender ∧
      s'.client = s.client ∧ (∀ c', c' ≠ c → s'.reader c' = s.reader c') := by
  cases h with
  | sends | parks | ends | dies =>
    exact ⟨⟨rfl, rfl, rfl⟩, ⟨rfl, rfl⟩, rfl, rfl, rfl, fun c' hc' => by simp [readerEnds, hc']⟩

/-! ## Frame lemmas -/

section

variable {e : RelayEvent}

/-- A handshake is moved by its own steps only. -/
theorem handshake_frame (h : RelayRule cfg s e s') {W : AgentSocket}
    (hrun : ∀ o, e ≠ .run (.handshake W) o) (hconn : e ≠ .agentConnects W) :
    s'.handshake W = s.handshake W := by
  cases h with
  | @agentConnects ws =>
    have hne : W ≠ ws := by rintro rfl; exact hconn rfl
    simp [hne]
  | @handshake ws _ o _ _ h =>
    have hne : W ≠ ws := by rintro rfl; exact hrun o rfl
    exact (h.frame.2.2 W hne).1
  | keepAlive _ h => rw [h.frame.2.2.1]
  | msgLoop _ h => rw [h.frame.2.1]
  | client _ h => rw [h.frame.1.handshake]
  | reader _ _ h => rw [h.frame.1.handshake]
  | _ => rfl

/-- A message loop is moved by its own steps, and made by its handshake. -/
theorem msgLoop_frame (h : RelayRule cfg s e s') {W : AgentSocket}
    (hrun : ∀ o, e ≠ .run (.handshake W) o) (hloop : ∀ o, e ≠ .run (.msgLoop W) o) :
    s'.msgLoop W = s.msgLoop W := by
  cases h with
  | @handshake ws _ o _ _ h =>
    have hne : W ≠ ws := by rintro rfl; exact hrun o rfl
    exact (h.frame.2.2 W hne).2.2
  | keepAlive _ h => rw [h.frame.2.2.2.1]
  | @msgLoop ws _ _ o _ _ h =>
    have hne : W ≠ ws := by rintro rfl; exact hloop o rfl
    exact h.frame.2.2.2.1 W hne
  | client _ h => rw [h.frame.1.msgLoop]
  | reader _ _ h => rw [h.frame.1.msgLoop]
  | _ => rfl

/-- A keep-alive task is moved by its own steps, and made by its handshake. -/
theorem keepAlive_frame (h : RelayRule cfg s e s') {W : AgentSocket}
    (hrun : ∀ o, e ≠ .run (.handshake W) o) (halive : ∀ o, e ≠ .run (.keepAlive W) o) :
    s'.keepAlive W = s.keepAlive W := by
  cases h with
  | @handshake ws _ o _ _ h =>
    have hne : W ≠ ws := by rintro rfl; exact hrun o rfl
    exact (h.frame.2.2 W hne).2.1
  | @keepAlive ws _ o _ _ h =>
    have hne : W ≠ ws := by rintro rfl; exact halive o rfl
    exact h.frame.2.2.2.2 W hne
  | msgLoop _ h => rw [h.frame.2.2.1]
  | client _ h => rw [h.frame.1.keepAlive]
  | reader _ _ h => rw [h.frame.1.keepAlive]
  | _ => rfl

/-- A session is moved by its own steps only. -/
theorem client_frame (h : RelayRule cfg s e s') {A : ClientSocket}
    (hrun : ∀ o, e ≠ .run (.client A) o) (hconn : e ≠ .clientConnects A) :
    s'.client A = s.client A := by
  cases h with
  | @clientConnects ws =>
    have hne : A ≠ ws := by rintro rfl; exact hconn rfl
    simp [hne]
  | handshake _ h => rw [h.frame.1.client]
  | keepAlive _ h => rw [h.frame.1.client]
  | msgLoop _ h => rw [h.frame.1.client]
  | @client ws _ o _ _ h =>
    have hne : A ≠ ws := by rintro rfl; exact hrun o rfl
    exact h.frame.2.2.2.2.1 A hne
  | reader _ _ h => rw [h.frame.2.2.2.2.1]
  | _ => rfl

/-- A reader is moved by its own steps and by those of its session. -/
theorem reader_frame (h : RelayRule cfg s e s') {c : ConnectionId}
    (hrun : ∀ o, e ≠ .run (.reader c) o)
    (hclient : ∀ A o pc, e = .run (.client A) o → s.client A = some pc →
      pc.connection_id? ≠ some c) :
    s'.reader c = s.reader c := by
  cases h with
  | handshake _ h => rw [h.frame.1.reader]
  | keepAlive _ h => rw [h.frame.1.reader]
  | msgLoop _ h => rw [h.frame.1.reader]
  | client hpc h => exact h.frame.2.2.2.2.2 c (hclient _ _ _ rfl hpc)
  | @reader c' _ _ o _ _ _ h =>
    have hne : c ≠ c' := by rintro rfl; exact hrun o rfl
    exact h.frame.2.2.2.2.2 c hne
  | _ => rfl

/-- A create call of a user is moved by its own steps only. -/
theorem call_frame (h : RelayRule cfg s e s') {k : ℕ} (hrun : ∀ o, e ≠ .run (.call k) o)
    (hnew : ∀ request c, e ≠ .create k request c) : s'.call k = s.call k := by
  cases h with
  | @createFails k' request c =>
    have hne : k ≠ k' := by rintro rfl; exact hnew request c rfl
    simp [hne]
  | @create k' request c =>
    have hne : k ≠ k' := by rintro rfl; exact hnew request c rfl
    simp [hne]
  | handshake _ h => rw [h.frame.1.call]
  | keepAlive _ h => rw [h.frame.1.call]
  | msgLoop _ h => rw [h.frame.1.call]
  | client _ h => rw [h.frame.2.2.1]
  | reader _ _ h => rw [h.frame.2.2.1]
  | @call k' _ o =>
    have hne : k ≠ k' := by rintro rfl; exact hrun o rfl
    simp [callReturned, hne]
  | _ => rfl

/-- A send of a user is moved by its own steps only. -/
theorem sender_frame (h : RelayRule cfg s e s') {k : ℕ} (hrun : ∀ o, e ≠ .run (.sender k) o)
    (hnew : ∀ call content, e ≠ .send k call content) : s'.sender k = s.sender k := by
  cases h with
  | @send k' call content =>
    have hne : k ≠ k' := by rintro rfl; exact hnew call content rfl
    simp [hne]
  | handshake _ h => rw [h.frame.1.sender]
  | keepAlive _ h => rw [h.frame.1.sender]
  | msgLoop _ h => rw [h.frame.1.sender]
  | client _ h => rw [h.frame.2.2.2.1]
  | reader _ _ h => rw [h.frame.2.2.2.1]
  | @sends k' =>
    have hne : k ≠ k' := by rintro rfl; exact hrun _ rfl
    simp [senderReturned, hne]
  | @sending k' _ _ _ _ o =>
    have hne : k ≠ k' := by rintro rfl; exact hrun o rfl
    simp [senderReturned, hne]
  | _ => rfl

end

end HttpNetworkRelay
