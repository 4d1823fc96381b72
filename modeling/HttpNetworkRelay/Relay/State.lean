import Mathlib.Logic.Function.Basic
import HttpNetworkRelay.Asyncio.Sync
import HttpNetworkRelay.Messages

/-!
# The state of a NetworkRelay

The dictionaries of `NetworkRelay.__init__`, the objects they refer to, and the websockets.

A dictionary whose items are iterated is the list of its keys in insertion order; the others are
functions to `Option`. The `TcpConnection` created for an id and its answer queue are kept under the
id even after the dictionaries have forgotten them, as the tasks that hold a reference keep them
alive in the program. Lock objects are numbered in the order of their creation.

The websockets appear as what has passed over them: the frames an agent has sent and the relay has
not yet received, and the messages the relay has handed to `send_text` and `send_bytes`, each
recorded when the call is made, whether or not it completes.
-/

namespace HttpNetworkRelay

open Asyncio Python

/-- The names of the event loop's tasks. -/
inductive Task
  /-- `ws_for_edge_agents`, for an agent's websocket. -/
  | handshake (edge_agent_connection : AgentSocket)
  /-- The `keep_alive` task of an agent's websocket. -/
  | keepAlive (edge_agent_connection : AgentSocket)
  /-- `_msg_loop`, for an agent's websocket. -/
  | msgLoop (edge_agent_connection : AgentSocket)
  /-- `ws_for_access_clients`, for an access client's websocket. -/
  | client (access_client_connection : ClientSocket)
  /-- `access_client_receive_thread`, for a relayed connection. -/
  | reader (connection_id : ConnectionId)
  /-- The `k`-th call of `create_connection` or `create_connection_async` by a user of the
  library. -/
  | call (k : ℕ)
  /-- The `k`-th scheduled or awaited `close` of a connection. -/
  | closer (k : ℕ)
  /-- The `k`-th `send` of a user of the library on a connection that it created. -/
  | sender (k : ℕ)
  deriving DecidableEq, Repr

/-- The class of a connection object: `TcpConnection` or `TcpConnectionAsync`. -/
inductive ConnectionClass
  | tcpConnection
  | tcpConnectionAsync
  deriving DecidableEq, Repr

/-- A `TcpConnection` or `TcpConnectionAsync`. `event` is `recv_event` or `event`. `creator`, which
the source does not store, is the task whose create call made the object. -/
structure TcpConnection where
  cls : ConnectionClass
  agent_connection : AgentSocket
  agent_supports_binary : Bool
  creator : Task
  recv_buffer : Bytes := []
  send_buffer : Bytes := []
  event : Event Task := {}
  deriving DecidableEq, Repr

/-- `fill_recv`. -/
@[simp] def TcpConnection.fill_recv (connection : TcpConnection) (data : Bytes) : TcpConnection :=
  { connection with
    recv_buffer := connection.recv_buffer ++ data
    event := connection.event.set }

/-- `wake_readers`. -/
@[simp] def TcpConnection.wake_readers (connection : TcpConnection) : TcpConnection :=
  { connection with event := connection.event.set }

/-! ## The record -/

/-- The dictionaries about agents. -/
structure AgentRegistry where
  agent_connections : List AgentSocket := []
  registered_agent_connections : AgentId → Option AgentSocket := fun _ => none
  agent_connection_id_to_supports_binary : AgentId → Option Bool := fun _ => none

/-- The dictionaries about relayed connections, the connection objects, and the contents of the
answer queues. -/
structure ConnectionTables where
  active_relayed_connections : List ConnectionId := []
  initiate_connection_answer_queues : List ConnectionId := []
  active_access_client_connections : ConnectionId → Option ClientSocket := fun _ => none
  connection : ConnectionId → Option TcpConnection := fun _ => none
  answers : ConnectionId → List EdgeAgentToRelayMessage := fun _ => []

/-- `agent_connection_locks` and the lock objects. -/
structure SendLocks where
  agent_connection_locks : AgentSocket → Option ℕ := fun _ => none
  lock : ℕ → Lock Task := fun _ => {}
  locks_created : ℕ := 0

/-- The agents' side of their websockets: the frames in flight to the relay, all frames sent so
far, and whether the socket is dead, which is what its `.closed` reports. -/
structure AgentSide where
  inbox : AgentSocket → List AgentFrame := fun _ => []
  agent_sent : AgentSocket → List AgentFrame := fun _ => []
  agent_dead : AgentSocket → Bool := fun _ => false

/-- What the relay has sent on the agents' websockets, and whether it has closed them. -/
structure AgentOutput where
  to_agent : AgentSocket → List ToAgent := fun _ => []
  agent_closed : AgentSocket → Bool := fun _ => false

/-- What the relay has sent on the access clients' websockets, and whether it has closed them. -/
structure ClientOutput where
  to_client : ClientSocket → List ToClient := fun _ => []
  client_closed : ClientSocket → Bool := fun _ => false

/-- A `NetworkRelay` with the objects and websockets that it refers to. -/
structure NetworkRelay extends
  AgentRegistry, ConnectionTables, SendLocks, AgentSide, AgentOutput, ClientOutput

namespace NetworkRelay

variable (r : NetworkRelay)

/-! ## Websockets -/

/-- `send_text` or `send_bytes` is called on an agent's websocket. -/
@[simp] def sendToAgent (edge_agent_connection : AgentSocket) (message : ToAgent) :
    NetworkRelay :=
  { r with
    to_agent := Function.update r.to_agent edge_agent_connection
      (r.to_agent edge_agent_connection ++ [message]) }

/-- `close` is called on an agent's websocket. -/
@[simp] def closeAgent (edge_agent_connection : AgentSocket) : NetworkRelay :=
  { r with agent_closed := Function.update r.agent_closed edge_agent_connection true }

/-- `send_text` or `send_bytes` is called on an access client's websocket. -/
@[simp] def sendToClient (access_client_connection : ClientSocket) (message : ToClient) :
    NetworkRelay :=
  { r with
    to_client := Function.update r.to_client access_client_connection
      (r.to_client access_client_connection ++ [message]) }

/-- `close` is called on an access client's websocket. -/
@[simp] def closeClient (access_client_connection : ClientSocket) : NetworkRelay :=
  { r with client_closed := Function.update r.client_closed access_client_connection true }

/-- `receive` on an agent's websocket takes the next frame, leaving `rest` in flight. -/
@[simp] def setInbox (edge_agent_connection : AgentSocket) (rest : List AgentFrame) :
    NetworkRelay :=
  { r with inbox := Function.update r.inbox edge_agent_connection rest }

/-! ## Agents -/

/-- `self.agent_connections.append(...)`. -/
@[simp] def appendAgent (edge_agent_connection : AgentSocket) : NetworkRelay :=
  { r with agent_connections := r.agent_connections ++ [edge_agent_connection] }

/-- `self.agent_connection_id_to_supports_binary[connection_id] = ...`. -/
@[simp] def setSupportsBinary (connection_id : AgentId) (agent_supports_binary : Bool) :
    NetworkRelay :=
  { r with
    agent_connection_id_to_supports_binary :=
      Function.update r.agent_connection_id_to_supports_binary connection_id
        (some agent_supports_binary) }

/-- `edge_agent_connection_open`. -/
@[simp] def edge_agent_connection_open (connection_id : AgentId)
    (edge_agent_connection : AgentSocket) : NetworkRelay :=
  { r with
    registered_agent_connections :=
      Function.update r.registered_agent_connections connection_id (some edge_agent_connection) }

/-- The two removals at the head of `edge_agent_connection_close`. -/
@[simp] def deregister (edge_agent_connection_id : AgentId) : NetworkRelay :=
  { r with
    registered_agent_connections :=
      Function.update r.registered_agent_connections edge_agent_connection_id none
    agent_connection_id_to_supports_binary :=
      Function.update r.agent_connection_id_to_supports_binary edge_agent_connection_id none }

/-- `self.agent_connections.remove(agent_connection)`, where a missing one is ignored. -/
@[simp] def removeAgent (agent_connection : AgentSocket) : NetworkRelay :=
  { r with agent_connections := r.agent_connections.erase agent_connection }

/-! ## Relayed connections -/

/-- The connection object created for an id is replaced by `f` of it. -/
@[simp] def modifyConnection (connection_id : ConnectionId) (f : TcpConnection → TcpConnection) :
    NetworkRelay :=
  { r with
    connection := Function.update r.connection connection_id ((r.connection connection_id).map f) }

/-- A new connection object enters `active_relayed_connections`, and its id gets an empty answer
queue. -/
@[simp] def publish (connection_id : ConnectionId) (connection : TcpConnection) : NetworkRelay :=
  { r with
    active_relayed_connections := r.active_relayed_connections ++ [connection_id]
    connection := Function.update r.connection connection_id (some connection)
    initiate_connection_answer_queues := r.initiate_connection_answer_queues ++ [connection_id]
    answers := Function.update r.answers connection_id [] }

/-- The queue of an id gets the contents `messages`. -/
@[simp] def setAnswers (connection_id : ConnectionId) (messages : List EdgeAgentToRelayMessage) :
    NetworkRelay :=
  { r with answers := Function.update r.answers connection_id messages }

/-- `del self.initiate_connection_answer_queues[message.connection_id]`. -/
@[simp] def removeAnswerQueue (connection_id : ConnectionId) : NetworkRelay :=
  { r with
    initiate_connection_answer_queues :=
      r.initiate_connection_answer_queues.filter (· ≠ connection_id) }

/-- `_drop_relayed_connection`: an id that is active is removed and its readers are woken. -/
@[simp] def _drop_relayed_connection (connection_id : ConnectionId) : NetworkRelay :=
  { r with
    active_relayed_connections := r.active_relayed_connections.filter (· ≠ connection_id)
    connection :=
      -- `pop` gives `None` for an id that is not active, whose readers are not woken.
      if connection_id ∈ r.active_relayed_connections then
        Function.update r.connection connection_id
          ((r.connection connection_id).map TcpConnection.wake_readers)
      else r.connection }

/-- `self.active_access_client_connections[connection.id] = access_client_connection`. -/
@[simp] def setAccessClient (connection_id : ConnectionId)
    (access_client_connection : ClientSocket) : NetworkRelay :=
  { r with
    active_access_client_connections :=
      Function.update r.active_access_client_connections connection_id
        (some access_client_connection) }

/-- `access_client_connection_close`. -/
@[simp] def access_client_connection_close (connection_id : ConnectionId) : NetworkRelay :=
  { r with
    active_access_client_connections :=
      Function.update r.active_access_client_connections connection_id none }

/-! ## Send locks -/

/-- `_agent_send_lock`: the lock of a websocket, created and stored if there is none. -/
def _agent_send_lock (agent_connection : AgentSocket) : ℕ × NetworkRelay :=
  match r.agent_connection_locks agent_connection with
  | some l => (l, r)
  | none =>
    (r.locks_created,
      { r with
        agent_connection_locks :=
          Function.update r.agent_connection_locks agent_connection (some r.locks_created)
        -- The lock object is new, so nobody holds it.
        lock := Function.update r.lock r.locks_created {}
        locks_created := r.locks_created + 1 })

/-- `acquire` is called on a lock object. -/
@[simp] def acquireLock (l : ℕ) (t : Task) : NetworkRelay :=
  { r with lock := Function.update r.lock l ((r.lock l).acquire t) }

/-- `release` is called on a lock object. -/
@[simp] def releaseLock (l : ℕ) : NetworkRelay :=
  { r with lock := Function.update r.lock l (r.lock l).release }

/-- `self.agent_connection_locks.pop(agent_connection, None)`. -/
@[simp] def popLock (agent_connection : AgentSocket) : NetworkRelay :=
  { r with
    agent_connection_locks := Function.update r.agent_connection_locks agent_connection none }

/-- Everything but the locks and what has been sent to agents is the same. -/
structure SameButSends (r r' : NetworkRelay) : Prop where
  registry : r'.toAgentRegistry = r.toAgentRegistry
  tables : r'.toConnectionTables = r.toConnectionTables
  agents : r'.toAgentSide = r.toAgentSide
  clients : r'.toClientOutput = r.toClientOutput

/-- Nothing has changed. -/
theorem SameButSends.refl (r : NetworkRelay) : SameButSends r r := ⟨rfl, rfl, rfl, rfl⟩

/-- Two changes of the locks and of what is sent are one. -/
theorem SameButSends.trans {r r' r'' : NetworkRelay} (h : SameButSends r r')
    (h' : SameButSends r' r'') : SameButSends r r'' :=
  ⟨h'.registry.trans h.registry, h'.tables.trans h.tables, h'.agents.trans h.agents,
    h'.clients.trans h.clients⟩

namespace SameButSends

variable {r r' : NetworkRelay} (same : r.SameButSends r')
include same

/-- The active connections are the same. -/
theorem active : r'.active_relayed_connections = r.active_relayed_connections := by
  rw [same.tables]

/-- The answer queues are the same. -/
theorem queues :
    r'.initiate_connection_answer_queues = r.initiate_connection_answer_queues := by
  rw [same.tables]

/-- The registered access clients are the same. -/
theorem access :
    r'.active_access_client_connections = r.active_access_client_connections := by
  rw [same.tables]

/-- The connections are the same. -/
theorem connection : r'.connection = r.connection := by
  rw [same.tables]

/-- The contents of the answer queues are the same. -/
theorem answers : r'.answers = r.answers := by
  rw [same.tables]

end SameButSends

/-- Everything but the locks, what has been sent to agents and the access client of `c` is the
same. -/
structure SameButAccess (c : ConnectionId) (r r' : NetworkRelay) : Prop where
  registry : r'.toAgentRegistry = r.toAgentRegistry
  agents : r'.toAgentSide = r.toAgentSide
  clients : r'.toClientOutput = r.toClientOutput
  active : r'.active_relayed_connections = r.active_relayed_connections
  queues : r'.initiate_connection_answer_queues = r.initiate_connection_answer_queues
  connection : r'.connection = r.connection
  answers : r'.answers = r.answers
  access : ∀ c₁ ≠ c,
    r'.active_access_client_connections c₁ = r.active_access_client_connections c₁

namespace SameButAccess

variable {r r' r'' : NetworkRelay} {c : ConnectionId}

/-- The locks and what is sent have changed only. -/
theorem of_sameButSends (c : ConnectionId) (same : r.SameButSends r') : SameButAccess c r r' where
  registry := same.registry
  agents := same.agents
  clients := same.clients
  active := same.active
  queues := same.queues
  connection := same.connection
  answers := same.answers
  access c₁ _ := congrFun same.access c₁

/-- The access client of `c` is forgotten. -/
theorem access_close (c : ConnectionId) (r : NetworkRelay) :
    SameButAccess c r (r.access_client_connection_close c) where
  registry := rfl
  agents := rfl
  clients := rfl
  active := rfl
  queues := rfl
  connection := rfl
  answers := rfl
  access c₁ hne := by simp [access_client_connection_close, hne]

/-- Two such changes are one. -/
theorem trans (h : SameButAccess c r r') (h' : SameButAccess c r' r'') : SameButAccess c r r'' where
  registry := h'.registry.trans h.registry
  agents := h'.agents.trans h.agents
  clients := h'.clients.trans h.clients
  active := h'.active.trans h.active
  queues := h'.queues.trans h.queues
  connection := h'.connection.trans h.connection
  answers := h'.answers.trans h.answers
  access c₁ hne := (h'.access c₁ hne).trans (h.access c₁ hne)

end SameButAccess

end NetworkRelay

end HttpNetworkRelay
