import HttpNetworkRelay.Relay.Frames

/-!
# What the relay's dictionaries can lose, and by whom

`Untouched r r'` collects what closes, teardowns and locked sends leave alone. Over it stand the
frame lemmas for the dictionaries of sessions, and for each way in which a session can be ended from
outside the lemma that names its cause: an id leaves `active_relayed_connections`, or an access
client's websocket is closed, only by a task that is at the matching point of
`close_relayed_connection`, by the session itself, or by its reader.
-/

namespace HttpNetworkRelay

open Asyncio Python RelayState NetworkRelay

/-- All of a connection object but its event. -/
def TcpConnection.content (connection : TcpConnection) :
    (ConnectionClass × AgentSocket × Bool × Task) × Bytes × Bytes :=
  (connection.identity, connection.recv_buffer, connection.send_buffer)

/-- What closes, teardowns and locked sends leave alone of the dictionaries of sessions. -/
structure Untouched (r r' : NetworkRelay) : Prop where
  access : r'.active_access_client_connections = r.active_access_client_connections
  queues : r'.initiate_connection_answer_queues = r.initiate_connection_answer_queues
  answers : r'.answers = r.answers
  to_client : r'.to_client = r.to_client
  content : ∀ c, (r'.connection c).map TcpConnection.content =
    (r.connection c).map TcpConnection.content

namespace Untouched

variable {r r' r'' : NetworkRelay}

/-- A step that does nothing touches nothing. -/
theorem refl (r : NetworkRelay) : Untouched r r := ⟨rfl, rfl, rfl, rfl, fun _ => rfl⟩

/-- Two steps that touch nothing touch nothing together. -/
theorem trans (h : Untouched r r') (h' : Untouched r' r'') : Untouched r r'' where
  access := h'.access.trans h.access
  queues := h'.queues.trans h.queues
  answers := h'.answers.trans h.answers
  to_client := h'.to_client.trans h.to_client
  content c := (h'.content c).trans (h.content c)

/-- A send that is begun touches nothing. -/
theorem of_sameButSends (same : r.SameButSends r') : Untouched r r' where
  access := same.access
  queues := same.queues
  answers := same.answers
  to_client := by rw [same.clients]
  content c := by rw [same.connection]

/-- A drop touches nothing of the sessions. -/
theorem drop (r : NetworkRelay) (c : ConnectionId) :
    Untouched r (r._drop_relayed_connection c) where
  __ := Untouched.refl r
  content c' := by
    by_cases h : c ∈ r.active_relayed_connections
    · by_cases hcc : c' = c
      · subst hcc
        cases hc : r.connection c' with
        | none => simp [h, hc]
        | some connection => simp [h, hc, TcpConnection.content, TcpConnection.identity]
      · simp [h, hcc]
    · simp [h]

/-- The content of a connection object that a step leaves alone. -/
theorem connection (h : Untouched r r') {c : ConnectionId} {connection : TcpConnection}
    (hc : r.connection c = some connection) :
    ∃ connection', r'.connection c = some connection' ∧
      connection'.content = connection.content := by
  have hcontent := h.content c
  rw [hc] at hcontent
  obtain ⟨connection', hc', heq⟩ := Option.map_eq_some_iff.mp hcontent
  exact ⟨connection', hc', heq⟩

end Untouched

section

variable {r r' : NetworkRelay} {c : ConnectionId} {ws : AgentSocket} {o : Outcome}

/-- A locked send changes the locks and what is sent only. -/
theorem SendStep.same {message : Except Exc ToAgent} {pc : Option LockedSend}
    {res : Res LockedSend Unit Exc} (h : SendStep r ws message pc o r' res) :
    r.SameButSends r' := by
  cases h with
  | queues same | sends _ _ same | unencodable _ same | completes same | fails same => exact same

/-- A step of a close touches nothing. -/
theorem CloseStep.untouched {pc : CloseRelayedConnection}
    {res : Res CloseRelayedConnection Unit Exc} (h : CloseStep r c ws pc o r' res) :
    Untouched r r' := by
  cases h with
  | informs same | informingFails _ same => exact .of_sameButSends same
  | closesClient _ same =>
    exact (Untouched.of_sameButSends same).trans { __ := Untouched.refl _ }
  | dropsUnattached _ same => exact (Untouched.of_sameButSends same).trans (.drop _ _)
  | drops => exact .drop _ _
  | closingFails => exact .refl _

/-- A step of a teardown touches nothing. -/
theorem TeardownStep.untouched {pc : EdgeAgentConnectionClose}
    {res : Res EdgeAgentConnectionClose Unit Exc} (h : TeardownStep r pc o r' res) :
    Untouched r r' := by
  cases h with
  | inside h | fails h => exact h.untouched
  | next h _ same => exact h.untouched.trans (.of_sameButSends same)
  | done h => exact h.untouched.trans { __ := Untouched.refl _ }

/-- The start of a teardown touches nothing. -/
theorem TeardownStart.untouched {n : AgentId} {res : Res EdgeAgentConnectionClose Unit Exc}
    (h : TeardownStart r n r' res) : Untouched r r' := by
  cases h with
  | unregistered | idle => exact { __ := Untouched.refl r }
  | @starts ws _ _ _ _ _ _ same =>
    have hderegister : Untouched r ((r.deregister n).removeAgent ws) := { __ := Untouched.refl r }
    exact hderegister.trans (.of_sameButSends same)

end

/-- What a create call leaves alone. -/
structure OnlyAnswers (c : ConnectionId) (r r' : NetworkRelay) : Prop where
  registry : r'.toAgentRegistry = r.toAgentRegistry
  active : r'.active_relayed_connections = r.active_relayed_connections
  access : r'.active_access_client_connections = r.active_access_client_connections
  connection : r'.connection = r.connection
  queues : ∀ c', c' ≠ c → (c' ∈ r'.initiate_connection_answer_queues ↔
    c' ∈ r.initiate_connection_answer_queues)
  answers : ∀ c', c' ≠ c → r'.answers c' = r.answers c'
  agents : r'.toAgentSide = r.toAgentSide
  clients : r'.toClientOutput = r.toClientOutput

/-- A send that is begun leaves alone what a create call does. -/
theorem OnlyAnswers.of_sameButSends {c : ConnectionId} {r r' : NetworkRelay}
    (same : r.SameButSends r') : OnlyAnswers c r r' where
  registry := same.registry
  active := same.active
  access := same.access
  connection := same.connection
  queues _ _ := by rw [same.queues]
  answers _ _ := by rw [same.answers]
  agents := same.agents
  clients := same.clients

/-- A create call changes the answer queue of its own id only. -/
theorem CreateStep.frame {cfg : RelayConfig} {r r' : NetworkRelay} {pc : CreateConnection}
    {o : Outcome}
    {res : Res CreateConnection ConnectionId Exc} (h : CreateStep cfg r pc o r' res) :
    OnlyAnswers pc.connection_id r r' := by
  cases h with
  | requests _ same | waits _ same | requestFails _ same => exact .of_sameButSends same
  -- The answer is taken from the queue of the id, and all else in this step is about the lock.
  | @answers r₁ m rest _ same =>
    have hsame : OnlyAnswers pc.connection_id r r₁ := .of_sameButSends same
    exact {
      registry := hsame.registry
      active := hsame.active
      access := hsame.access
      connection := hsame.connection
      queues := fun c' hc' => by
        rw [← hsame.queues c' hc']
        simp [CreateConnection.answered, hc']
      answers := fun c' hc' => by
        rw [← hsame.answers c' hc']
        simp [CreateConnection.answered, hc']
      agents := hsame.agents
      clients := hsame.clients }

/-- The keep-alive task of a websocket only sends. -/
theorem KeepAliveRule.same {s s' : RelayState} {ws : AgentSocket} {pc : KeepAlive} {o : Outcome}
    (h : KeepAliveRule s ws pc o s') : s.relay.SameButSends s'.relay := by
  have hsent : ∀ r' res, (s.keepAliveSent ws (r', res)).relay = r' := by
    intro r' res
    cases res <;> rfl
  cases h with
  | sends h | sending h =>
    rw [hsent]
    exact h.same
  | stops => exact .refl _

/-! ## The closes in progress -/

/-- The `close_relayed_connection` that a task is in. -/
def RelayState.closing? (s : RelayState) : Task → Option (ConnectionId × CloseRelayedConnection)
  | .handshake ws =>
    match s.handshake ws with
    | some (.evicting _ _ pc) => some (pc.current, pc.pc)
    | _ => none
  | .msgLoop ws =>
    match s.msgLoop ws with
    | some ⟨_, .resetting c pc⟩ => some (c, pc)
    | some ⟨_, .tearingDown pc⟩ => some (pc.current, pc.pc)
    | _ => none
  | .client ws =>
    match s.client ws with
    | some (.closing c pc) => some (c, pc)
    | _ => none
  | .closer k =>
    match s.closer k with
    | some ⟨c, _, .closing pc⟩ => some (c, pc)
    | _ => none
  | _ => none

/-- The create call that a task is in. -/
def RelayState.pending? (s : RelayState) : Task → Option CreateConnection
  | .client A =>
    match s.client A with
    | some (.creating _ pc) => some pc
    | _ => none
  | .call k =>
    match s.call k with
    | some (.creating pc) => some pc
    | _ => none
  | _ => none

/-- The session of `A` in a state that it is set to. -/
theorem pending_setClient (s : RelayState) (A : ClientSocket) (pc : Client) :
    (s.setClient A pc).pending? (.client A) =
      match pc with
      | .creating _ pc => some pc
      | _ => none := by
  cases pc <;> simp [pending?]

/-- How a step can take an id out of `active_relayed_connections`. -/
inductive Lost (s : RelayState) (c : ConnectionId) : RelayEvent → Prop
  /-- A close that finds no access client. -/
  | unattached {t o l} (hpc : s.closing? t = some (c, .informing (.sending l)))
      (ho : o = .ok ∨ ∃ e, o = .raised e ∧ e.isGone = true)
      (hA : s.relay.active_access_client_connections c = none) : Lost s c (.run t o)
  /-- A close that has closed the access client's websocket. -/
  | closed {t o} (hpc : s.closing? t = some (c, .closingClient))
      (ho : o = .ok ∨ ∃ e, o = .raised e ∧ e.isClosed = true) : Lost s c (.run t o)
  /-- The access client disconnects. -/
  | disconnected {A o} (hpc : s.client A = some (.receiving c))
      (ho : o = .disconnect ∨ o = .raised .webSocketDisconnect) : Lost s c (.run (.client A) o)
  /-- The reader is cancelled, or cannot send to the access client. -/
  | reader {reader o} (hpc : s.reader c = some reader)
      (why : reader.cancelled = true ∨ ∃ e, o = .raised e) : Lost s c (.run (.reader c) o)

/-- How a step can close an access client's websocket. -/
inductive Shut (s : RelayState) (A : ClientSocket) : RelayEvent → Prop
  /-- A close of the connection that the websocket is attached to. -/
  | attached {t o c l} (hpc : s.closing? t = some (c, .informing (.sending l)))
      (ho : o = .ok ∨ ∃ e, o = .raised e ∧ e.isGone = true)
      (hA : s.relay.active_access_client_connections c = some A) : Shut s A (.run t o)
  /-- The session, before there is a connection. -/
  | refused {o pc} (hpc : s.client A = some pc) (hun : pc.unconnected = true) :
      Shut s A (.run (.client A) o)
  /-- The session, after its connection has been closed. -/
  | closed {o c pc} (hpc : s.client A = some (.closing c pc)) : Shut s A (.run (.client A) o)

section

variable {r r' : NetworkRelay} {c c' : ConnectionId} {ws : AgentSocket} {o : Outcome}

/-- A drop removes its own connection from the active ones. -/
theorem mem_drop {r : NetworkRelay} :
    c' ∈ (r._drop_relayed_connection c).active_relayed_connections ↔
      c' ∈ r.active_relayed_connections ∧ c' ≠ c := by
  simp

/-- A close loses its own connection only, and only where the access client's websocket is known to
be closed or there is none. -/
theorem CloseStep.lost {pc : CloseRelayedConnection} {res : Res CloseRelayedConnection Unit Exc}
    (h : CloseStep r c ws pc o r' res) (hc : c' ∈ r.active_relayed_connections)
    (hc' : c' ∉ r'.active_relayed_connections) :
    c' = c ∧ ((∃ l, pc = .informing (.sending l) ∧
        (o = .ok ∨ ∃ e, o = .raised e ∧ e.isGone = true) ∧
        r.active_access_client_connections c = none) ∨
      pc = .closingClient ∧ (o = .ok ∨ ∃ e, o = .raised e ∧ e.isClosed = true)) := by
  -- `_drop_relayed_connection` takes one id off the list.
  have hdrop : ∀ r₁ : NetworkRelay, c' ∈ r₁.active_relayed_connections →
      c' ∉ (r₁._drop_relayed_connection c).active_relayed_connections → c' = c := by
    intro r₁ hin hnot
    rw [mem_drop] at hnot
    by_contra hne
    exact hnot ⟨hin, hne⟩
  cases h with
  | informs same | informingFails _ same | closesClient _ same =>
    have hact := same.active
    rw [← hact] at hc
    exact absurd hc hc'
  -- Nobody is attached, so there is no websocket to close before the drop.
  | dropsUnattached ho same _ hA =>
    have hact := same.active
    rw [← hact] at hc
    exact ⟨hdrop _ hc hc', .inl ⟨_, rfl, ho, hA⟩⟩
  | drops ho => exact ⟨hdrop _ hc hc', .inr ⟨rfl, ho⟩⟩
  | closingFails => exact absurd hc hc'

/-- A close shuts the websocket of an access client once its message has been sent. -/
theorem CloseStep.shut {pc : CloseRelayedConnection} {res : Res CloseRelayedConnection Unit Exc}
    {A : ClientSocket} (h : CloseStep r c ws pc o r' res) (hA : r.client_closed A ≠ true)
    (hA' : r'.client_closed A = true) :
    ∃ l, pc = .informing (.sending l) ∧ (o = .ok ∨ ∃ e, o = .raised e ∧ e.isGone = true) ∧
      r.active_access_client_connections c = some A := by
  cases h with
  | informs same | informingFails _ same =>
    rw [same.clients] at hA'
    exact absurd hA' hA
  | @closesClient _ _ l B ho same _ hB =>
    have hclients := same.clients
    -- The websocket that is closed is that of the access client attached to the connection.
    by_cases hAB : A = B
    · subst hAB
      exact ⟨l, rfl, ho, hB⟩
    · simp only [closeClient, Function.update_of_ne hAB, hclients] at hA'
      exact absurd hA' hA
  | dropsUnattached _ same =>
    have hclients := same.clients
    simp only [_drop_relayed_connection, hclients] at hA'
    exact absurd hA' hA
  | drops | closingFails => exact absurd hA' hA

/-- A close that has parked in the close of the access client's websocket has closed it. -/
theorem CloseStep.closingClient {pc : CloseRelayedConnection}
    (h : CloseStep r c ws pc o r' (.parked .closingClient)) :
    ∃ l A, pc = .informing (.sending l) ∧ r.active_access_client_connections c = some A ∧
      r'.client_closed A = true := by
  cases h with
  | closesClient _ _ _ hA => exact ⟨_, _, rfl, hA, by simp⟩

/-- A step of a teardown is one of the close it is in. -/
theorem TeardownStep.close {pc : EdgeAgentConnectionClose}
    {res : Res EdgeAgentConnectionClose Unit Exc} (h : TeardownStep r pc o r' res) :
    ∃ r₁ res₁, CloseStep r pc.current pc.agent_connection pc.pc o r₁ res₁ ∧
      r'.active_relayed_connections = r₁.active_relayed_connections ∧
      r'.client_closed = r₁.client_closed := by
  cases h with
  | inside h | fails h => exact ⟨_, _, h, rfl, rfl⟩
  | next h _ same => exact ⟨_, _, h, same.active, by rw [same.clients]⟩
  | done h => exact ⟨_, _, h, rfl, rfl⟩

/-- The start of a teardown drops no connection. -/
theorem TeardownStart.active {n : AgentId} {res : Res EdgeAgentConnectionClose Unit Exc}
    (h : TeardownStart r n r' res) :
    r'.active_relayed_connections = r.active_relayed_connections := by
  cases h with
  | unregistered | idle => rfl
  | starts _ _ same => exact same.active

/-- The start of a teardown sends nothing to the access clients. -/
theorem TeardownStart.clients {n : AgentId} {res : Res EdgeAgentConnectionClose Unit Exc}
    (h : TeardownStart r n r' res) : r'.toClientOutput = r.toClientOutput := by
  cases h with
  | unregistered | idle => rfl
  | starts _ _ same => exact same.clients

end

section

variable {cfg : RelayConfig} {s s' : RelayState} {e : RelayEvent} {c : ConnectionId}

/-- The end of an eviction changes the registry only. -/
theorem evicted_active (s : RelayState) (ws : AgentSocket) (m : EtRStartMessage) (n : AgentId)
    (x : NetworkRelay × Res EdgeAgentConnectionClose Unit Exc) :
    (s.evicted ws m n x).relay.active_relayed_connections = x.1.active_relayed_connections ∧
      (s.evicted ws m n x).relay.toClientOutput = x.1.toClientOutput ∧
      (s.evicted ws m n x).relay.active_access_client_connections =
        x.1.active_access_client_connections := by
  obtain ⟨r, res⟩ := x
  cases res <;> exact ⟨rfl, rfl, rfl⟩

/-- A create call that has run on leaves the list of active connections as its own step does. -/
theorem created_active (s : RelayState) (A : ClientSocket) (binary : Bool) (r' : NetworkRelay)
    (res : Res CreateConnection ConnectionId Exc) :
    (s.created A binary (r', res)).relay.active_relayed_connections =
      r'.active_relayed_connections := by
  cases res with
  | parked pc | returned c => rfl
  | raised e => cases e <;> rfl

/-- What it sends to its access client closes no websocket. -/
theorem created_client_closed (s : RelayState) (A : ClientSocket) (binary : Bool)
    (r' : NetworkRelay) (res : Res CreateConnection ConnectionId Exc) :
    (s.created A binary (r', res)).relay.client_closed = r'.client_closed := by
  cases res with
  | parked pc | returned c => rfl
  | raised e => cases e <;> rfl

/-- The close of a session leaves the list of active connections as the step of the close does. -/
theorem connectionClosed_active (s : RelayState) (A : ClientSocket) (c : ConnectionId)
    (r' : NetworkRelay) (res : Res CloseRelayedConnection Unit Exc) :
    (s.connectionClosed A c (r', res)).relay.active_relayed_connections =
      r'.active_relayed_connections := by
  cases res <;> rfl

/-! ### Losses -/

section

variable (hc : c ∈ s.relay.active_relayed_connections)
include hc

/-- The cause of a loss in a close. -/
theorem lost_of_close {t : Task} {o : Outcome} {c₁ : ConnectionId} {ws : AgentSocket}
    {pc : CloseRelayedConnection} {r' : NetworkRelay} {res : Res CloseRelayedConnection Unit Exc}
    (hpc : s.closing? t = some (c₁, pc)) (h : CloseStep s.relay c₁ ws pc o r' res)
    (hc' : c ∉ r'.active_relayed_connections) : Lost s c (.run t o) := by
  obtain ⟨rfl, ⟨l, rfl, ho, hA⟩ | ⟨rfl, ho⟩⟩ := h.lost hc hc'
  · exact .unattached hpc ho hA
  · exact .closed hpc ho

/-- The cause of a loss in a teardown, which goes through the closes of its connections. -/
theorem lost_of_teardown {t : Task} {o : Outcome} {pc : EdgeAgentConnectionClose}
    {r' : NetworkRelay} {res : Res EdgeAgentConnectionClose Unit Exc}
    (hpc : s.closing? t = some (pc.current, pc.pc)) (h : TeardownStep s.relay pc o r' res)
    (hc' : c ∉ r'.active_relayed_connections) : Lost s c (.run t o) := by
  obtain ⟨r₁, res₁, hclose, hact, -⟩ := h.close
  rw [hact] at hc'
  exact lost_of_close hc hpc hclose hc'

/-- A handshake loses connections in the teardown of the agent that it replaces. -/
theorem HandshakeRule.lost {ws : AgentSocket} {pc : Handshake} {o : Outcome}
    (hpc : s.handshake ws = some pc) (h : HandshakeRule cfg s ws pc o s')
    (hc' : c ∉ s'.relay.active_relayed_connections) : Lost s c (.run (.handshake ws) o) := by
  cases h with
  | evicts _ _ _ _ h =>
    rw [(evicted_active _ _ _ _ _).1, h.active] at hc'
    exact absurd hc hc'
  | evicting h =>
    rw [(evicted_active _ _ _ _ _).1] at hc'
    exact lost_of_teardown hc (by simp [closing?, hpc]) h hc'
  | accepts | receives | refuses | opens | duplicate | noAttribute | ends => exact absurd hc hc'

/-- A message loop loses connections in the close for a reset and in its teardown. -/
theorem MsgLoopRule.lost {ws : AgentSocket} {n : AgentId} {pc : MsgLoop} {o : Outcome}
    (hpc : s.msgLoop ws = some ⟨n, pc⟩) (h : MsgLoopRule cfg s ws n pc o s')
    (hc' : c ∉ s'.relay.active_relayed_connections) : Lost s c (.run (.msgLoop ws) o) := by
  cases h with
  | disconnects _ h =>
    have hact := h.active
    simp only [tornDown, setMsgLoop, withRelay, hact] at hc'
    exact absurd hc hc'
  | receives _ h =>
    cases h with
    -- The reset is read, and its close begins with an await: nothing is lost yet.
    | resets _ _ _ _ same =>
      have hact := same.active
      simp only [setMsgLoop, withRelay, hact] at hc'
      exact absurd hc hc'
    | _ => exact absurd hc hc'
  | resetting _ h => exact lost_of_close hc (by simp [closing?, hpc]) h hc'
  | tearingDown h => exact lost_of_teardown hc (by simp [closing?, hpc]) h hc'
  | receiveFails | puts | customHandled => exact absurd hc hc'

/-- A session loses its own connection, at the disconnect of its access client or in the close
after its loop. -/
theorem ClientRule.lost {A : ClientSocket} {pc : Client} {o : Outcome}
    (hpc : s.client A = some pc) (h : ClientRule cfg s A pc o s')
    (hc' : c ∉ s'.relay.active_relayed_connections) : Lost s c (.run (.client A) o) := by
  cases h with
  -- The creation only adds to the list.
  | opens _ _ _ same =>
    have hact := same.active
    simp only [setClient, withRelay, hact, publish] at hc'
    exact absurd (List.mem_append_left _ hc) hc'
  | creating h =>
    rw [created_active, h.frame.active] at hc'
    exact absurd hc hc'
  -- The drop before the close takes the connection of this session off the list.
  | @disconnects c₁ _ _ _ _ ho _ same =>
    have hact := same.active
    simp only [setClient, withRelay, hact, access_client_connection_close] at hc'
    rw [mem_drop] at hc'
    obtain rfl : c = c₁ := by
      by_contra hne
      exact hc' ⟨hc, hne⟩
    exact .disconnected hpc ho
  | ignores =>
    rw [(continueLoop_same s _ _ _).active] at hc'
    exact absurd hc hc'
  -- The loop may go on or leave after a message, and neither touches the list.
  | forwards _ _ h | forwarding _ h =>
    rw [(forwarded_same h.same _ _ _ _ _).active] at hc'
    exact absurd hc hc'
  | closing _ h =>
    rw [connectionClosed_active] at hc'
    exact lost_of_close hc (by simp [closing?, hpc]) h hc'
  | advances | refuses | unregistered | starts | startFails | receiveFails | malformed
  | clientClosed | closeFails | joined | cancels => exact absurd hc hc'

/-- A reader loses its own connection. -/
theorem ReaderRule.lost {c₁ : ConnectionId} {connection : TcpConnection} {reader : Reader}
    {o : Outcome} (hpc : s.reader c₁ = some reader) (h : ReaderRule s c₁ connection reader o s')
    (hc' : c ∉ s'.relay.active_relayed_connections) : Lost s c (.run (.reader c₁) o) := by
  cases h with
  | @ends event _ _ why =>
    simp only [readerEnds, setReader, withRelay, mem_drop] at hc'
    obtain rfl : c = c₁ := by
      by_contra hne
      exact hc' ⟨hc, hne⟩
    rcases why with hnot | hwhy | hwhy
    · exact absurd hc hnot
    · exact .reader hpc (.inl hwhy)
    · exact .reader hpc (.inr hwhy)
  | sends | parks | dies => exact absurd hc hc'

/-- The cause of a loss. Most rules leave the list alone or extend it. -/
theorem lost_of_rule (h : RelayRule cfg s e s') (hc' : c ∉ s'.relay.active_relayed_connections) :
    Lost s c e := by
  cases h with
  -- The call of the user only adds to the list.
  | create _ _ _ same =>
    have hact := same.active
    simp only [setCall, withRelay, hact, publish] at hc'
    exact absurd (List.mem_append_left _ hc) hc'
  | handshake hpc h => exact h.lost hc hpc hc'
  | keepAlive _ h =>
    rw [h.same.active] at hc'
    exact absurd hc hc'
  | msgLoop hpc h => exact h.lost hc hpc hc'
  | client hpc h => exact h.lost hc hpc hc'
  | reader hpc _ h => exact h.lost hc hpc hc'
  | call _ h =>
    have hact := h.frame.active
    simp only [callReturned, setCall, withRelay, hact] at hc'
    exact absurd hc hc'
  | closes _ same =>
    have hact := same.active
    simp only [setCloser, withRelay, hact] at hc'
    exact absurd hc hc'
  | closing hpc h => exact lost_of_close hc (by simp [closing?, hpc]) h hc'
  | sends _ _ h | sending _ _ h =>
    have hact := h.same.active
    simp only [senderReturned, setSender, withRelay, hact] at hc'
    exact absurd hc hc'
  | agentConnects | agentSends | agentDies | clientConnects | createFails | close | send =>
    exact absurd hc hc'

end

/-! ### Closed websockets -/

section

variable {A : ClientSocket} (hA : s.relay.client_closed A ≠ true)
include hA

/-- A relay with the same output to access clients has not closed the websocket either. -/
theorem open_of_clients {r' : NetworkRelay}
    (hclients : r'.toClientOutput = s.relay.toClientOutput) : r'.client_closed A ≠ true := by
  rwa [hclients]

/-- The cause of a close of an access client's websocket in a close of its connection. -/
theorem shut_of_close {t : Task} {o : Outcome} {c₁ : ConnectionId} {ws : AgentSocket}
    {pc : CloseRelayedConnection} {r' : NetworkRelay} {res : Res CloseRelayedConnection Unit Exc}
    (hpc : s.closing? t = some (c₁, pc)) (h : CloseStep s.relay c₁ ws pc o r' res)
    (hA' : r'.client_closed A = true) : Shut s A (.run t o) := by
  obtain ⟨l, rfl, ho, haccess⟩ := h.shut hA hA'
  exact .attached hpc ho haccess

/-- The same in a teardown. -/
theorem shut_of_teardown {t : Task} {o : Outcome} {pc : EdgeAgentConnectionClose}
    {r' : NetworkRelay} {res : Res EdgeAgentConnectionClose Unit Exc}
    (hpc : s.closing? t = some (pc.current, pc.pc)) (h : TeardownStep s.relay pc o r' res)
    (hA' : r'.client_closed A = true) : Shut s A (.run t o) := by
  obtain ⟨r₁, res₁, hclose, -, hclients⟩ := h.close
  rw [hclients] at hA'
  exact shut_of_close hA hpc hclose hA'

/-- A handshake closes access clients in the teardown of the agent that it replaces. -/
theorem HandshakeRule.shut {ws : AgentSocket} {pc : Handshake} {o : Outcome}
    (hpc : s.handshake ws = some pc) (h : HandshakeRule cfg s ws pc o s')
    (hA' : s'.relay.client_closed A = true) : Shut s A (.run (.handshake ws) o) := by
  cases h with
  | evicts _ _ _ _ h =>
    exact absurd hA' (open_of_clients hA ((evicted_active _ _ _ _ _).2.1.trans h.clients))
  | evicting h =>
    rw [(evicted_active _ _ _ _ _).2.1] at hA'
    exact shut_of_teardown hA (by simp [closing?, hpc]) h hA'
  | accepts | receives | refuses | opens | duplicate | noAttribute | ends => exact absurd hA' hA

/-- A message loop closes access clients in the close for a reset and in its teardown. -/
theorem MsgLoopRule.shut {ws : AgentSocket} {n : AgentId} {pc : MsgLoop} {o : Outcome}
    (hpc : s.msgLoop ws = some ⟨n, pc⟩) (h : MsgLoopRule cfg s ws n pc o s')
    (hA' : s'.relay.client_closed A = true) : Shut s A (.run (.msgLoop ws) o) := by
  cases h with
  | disconnects _ h => exact absurd hA' (open_of_clients hA h.clients)
  | receives _ h =>
    cases h with
    | resets _ _ _ _ same => exact absurd hA' (open_of_clients hA same.clients)
    | _ => exact absurd hA' hA
  | resetting _ h => exact shut_of_close hA (by simp [closing?, hpc]) h hA'
  | tearingDown h => exact shut_of_teardown hA (by simp [closing?, hpc]) h hA'
  | receiveFails | puts | customHandled => exact absurd hA' hA

/-- A session closes its own access client where it refuses it and after the close of its
connection; that close itself closes the one that is attached. -/
theorem ClientRule.shut {B : ClientSocket} {pc : Client} {o : Outcome}
    (hpc : s.client B = some pc) (h : ClientRule cfg s B pc o s')
    (hA' : s'.relay.client_closed A = true) : Shut s A (.run (.client B) o) := by
  cases h with
  | refuses hrefuse =>
    -- The session refuses its own access client.
    obtain rfl : A = B := by
      by_contra hne
      simp only [setClient, withRelay, closeClient, Function.update_of_ne hne] at hA'
      exact hA hA'
    refine .refused hpc ?_
    rcases hrefuse with ⟨m, rfl⟩ | rfl <;> rfl
  | opens _ _ _ same => exact absurd hA' (open_of_clients hA same.clients)
  | creating h =>
    rw [created_client_closed] at hA'
    exact absurd hA' (open_of_clients hA h.frame.clients)
  | disconnects _ _ same => exact absurd hA' (open_of_clients hA same.clients)
  | ignores => exact absurd hA' (open_of_clients hA (continueLoop_same s _ _ _).clients)
  | forwards _ _ h | forwarding _ h =>
    exact absurd hA' (open_of_clients hA (forwarded_same h.same _ _ _ _ _).clients)
  | @closing c pc _ _ r' res _ h =>
    cases res with
    -- The close of the connection has returned, and the session closes its own websocket.
    | returned a =>
      by_cases hAB : A = B
      · subst hAB
        exact .closed hpc
      · simp only [connectionClosed, setClient, withRelay, closeClient,
          Function.update_of_ne hAB] at hA'
        exact shut_of_close hA (by simp [closing?, hpc]) h hA'
    | parked _ | raised _ => exact shut_of_close hA (by simp [closing?, hpc]) h hA'
  | advances | unregistered | starts | startFails | receiveFails | malformed | clientClosed
  | closeFails | joined | cancels => exact absurd hA' hA

/-- The cause of a close of an access client's websocket. -/
theorem shut_of_rule (h : RelayRule cfg s e s') (hA' : s'.relay.client_closed A = true) :
    Shut s A e := by
  cases h with
  | create _ _ _ same => exact absurd hA' (open_of_clients hA same.clients)
  | handshake hpc h => exact h.shut hA hpc hA'
  | keepAlive _ h => exact absurd hA' (open_of_clients hA h.same.clients)
  | msgLoop hpc h => exact h.shut hA hpc hA'
  | client hpc h => exact h.shut hA hpc hA'
  -- A reader sends on the websocket but does not close it.
  | reader _ _ h =>
    cases h with
    | sends | parks | ends | dies => exact absurd hA' hA
  | call _ h => exact absurd hA' (open_of_clients hA h.frame.clients)
  | closes _ same => exact absurd hA' (open_of_clients hA same.clients)
  | closing hpc h => exact shut_of_close hA (by simp [closing?, hpc]) h hA'
  | sends _ _ h | sending _ _ h => exact absurd hA' (open_of_clients hA h.same.clients)
  | agentConnects | agentSends | agentDies | clientConnects | createFails | close | send =>
    exact absurd hA' hA

end

end

end HttpNetworkRelay
