import HttpNetworkRelay.Asyncio.Coroutine
import HttpNetworkRelay.Relay.State

/-!
# The coroutines that the relay's tasks share

`_create_connection`, `close_relayed_connection`, `edge_agent_connection_close`, and the sends under
an agent's send lock, each as a resumable state machine: a type of suspension points, the stretch
from the call to the first suspension, and `resume`, the stretch from one suspension to the next. A
websocket operation always suspends, and `Outcome` is what the awaited operation came back with. An
`await` that Python completes without suspending (a free lock, a queue with room) does not suspend
here either.
-/

namespace HttpNetworkRelay

open Asyncio Python

/-- What a subclass of `NetworkRelay` and the libraries below it supply. -/
structure RelayConfig where
  /-- Whether `CustomAgentToRelayMessage` is set. -/
  CustomAgentToRelayMessage : Bool
  /-- Whether `CustomAgentToRelayStartMessage.model_validate` accepts a start message; constantly
  true where no such class is set. -/
  start_message_valid : EtRStartMessage → Bool
  /-- `str` of a message, which one error text contains. -/
  str : EdgeAgentToRelayMessage → String
  /-- Whether the websocket objects have an attribute `closed`. -/
  closed_attribute : Bool

/-- What the operation that a task awaits came back with. -/
inductive Outcome
  /-- It completed. -/
  | ok
  /-- The websocket operation raised. -/
  | raised (error : WsError)
  /-- A receive on an agent's websocket returned the next frame in flight. -/
  | next
  /-- A receive on an access client's websocket returned a frame. -/
  | frame (content : ClientFrame)
  /-- A receive returned a `websocket.disconnect` message. -/
  | disconnect
  /-- The subclass's check of an agent's start message returned an id, or a false value. -/
  | permit (connection_id : Option AgentId)
  /-- The subclass's check of an access client's start message returned; if the handler goes on to
  create a connection, `uuid4()` gives `connection_id`. -/
  | allow (permission : Bool) (connection_id : ConnectionId)
  /-- A method supplied by the subclass raised. -/
  | hookRaised
  /-- The websocket is no longer connected. -/
  | notConnected
  /-- The grace period ran out. -/
  | timeout
  deriving DecidableEq, Repr

/-! ## Sends under the send lock -/

/-- The suspension points of `async with self._agent_send_lock(ws): await ws.send_...(message)`. -/
inductive LockedSend
  /-- Queued for the lock object `l`. -/
  | acquiring (l : ℕ)
  /-- In the send, holding the lock object `l`. -/
  | sending (l : ℕ)
  deriving DecidableEq, Repr

/-- The body of the `async with`: the message is encoded and its send is called. -/
def LockedSend.body (r : NetworkRelay) (ws : AgentSocket) (message : Except Exc ToAgent) (l : ℕ) :
    NetworkRelay × Res LockedSend Unit Exc :=
  match message with
  | .ok m => (r.sendToAgent ws m, .parked (.sending l))
  -- The encoder raises inside of the `async with`, which releases the lock.
  | .error e => (r.releaseLock l, .raised e)

/-- A send on an agent's websocket under its lock, from the call on. -/
def locked_send (r : NetworkRelay) (t : Task) (ws : AgentSocket) (message : Except Exc ToAgent) :
    NetworkRelay × Res LockedSend Unit Exc :=
  let (l, r) := r._agent_send_lock ws
  -- An `acquire` of a free lock returns at once; `asyncio` makes a new task wait behind the others.
  if (r.lock l).free then LockedSend.body (r.acquireLock l t) ws message l
  else (r.acquireLock l t, .parked (.acquiring l))

/-- A send on an agent's websocket under its lock, resumed. -/
def LockedSend.resume (r : NetworkRelay) (t : Task) (ws : AgentSocket)
    (message : Except Exc ToAgent) (pc : LockedSend) (o : Outcome) :
    Option (NetworkRelay × Res LockedSend Unit Exc) :=
  match pc, o with
  | .acquiring l, .ok =>
    -- `release` has handed the lock to the first in the line.
    if (r.lock l).holder = some t then some (LockedSend.body r ws message l) else none
  | .sending l, .ok => some (r.releaseLock l, .returned ())
  | .sending l, .raised e => some (r.releaseLock l, .raised (.ws e))
  | _, _ => none

/-- What `send_connection_message` and `send_connection_binary` send for a piece of a connection's
byte stream, by the framing that its agent negotiated. -/
def TcpConnection.dataMessage (connection : TcpConnection) (connection_id : ConnectionId)
    (content : Bytes) : Except Exc ToAgent :=
  if connection.agent_supports_binary then
    (encode_tcp_binary_frame connection_id content).map .bytes
  else .ok (.text (.tcpData connection_id (b64encode content)))

/-! ## close_relayed_connection -/

/-- The suspension points of `close_relayed_connection`. -/
inductive CloseRelayedConnection
  /-- Sending the close message to the agent. -/
  | informing (send : LockedSend)
  /-- In the close of the access client's websocket. -/
  | closingClient
  deriving DecidableEq, Repr

/-- The message that `close_relayed_connection` sends to the agent. -/
def closeMessage (connection_id : ConnectionId) : ToAgent :=
  .text (.connectionClose "Connection closed by relay" connection_id)

namespace CloseRelayedConnection

/-- From the second `try` of `close_relayed_connection` on. -/
def closeClient (r : NetworkRelay) (connection_id : ConnectionId) :
    NetworkRelay × Res CloseRelayedConnection Unit Exc :=
  match r.active_access_client_connections connection_id with
  | some access_client_connection =>
    (r.closeClient access_client_connection, .parked .closingClient)
  -- `if access_client_connection` fails, and nothing is awaited.
  | none => (r._drop_relayed_connection connection_id, .returned ())

/-- The send to the agent has parked, returned or raised: the rest of the first `try`. -/
def informed (connection_id : ConnectionId) (x : NetworkRelay × Res LockedSend Unit Exc) :
    NetworkRelay × Res CloseRelayedConnection Unit Exc :=
  await x .informing (fun r _ => closeClient r connection_id) fun r e =>
    match e with
    -- `is_closed_error` and `WebSocketDisconnect` are passed.
    | .ws error => if error.isGone then closeClient r connection_id else (r, .raised e)
    | _ => (r, .raised e)

/-- `close_relayed_connection`, resumed. -/
def resume (r : NetworkRelay) (t : Task) (connection_id : ConnectionId)
    (agent_connection : AgentSocket) (pc : CloseRelayedConnection) (o : Outcome) :
    Option (NetworkRelay × Res CloseRelayedConnection Unit Exc) :=
  match pc with
  | .informing send =>
    (send.resume r t agent_connection (.ok (closeMessage connection_id)) o).map
      (informed connection_id)
  | .closingClient =>
    match o with
    | .ok => some (r._drop_relayed_connection connection_id, .returned ())
    | .raised error =>
      -- `WebSocketDisconnect` is not caught here, and leaves before the drop.
      if error.isClosed then some (r._drop_relayed_connection connection_id, .returned ())
      else some (r, .raised (.ws error))
    | _ => none

end CloseRelayedConnection

/-- `close_relayed_connection`, from the call on. -/
def close_relayed_connection (r : NetworkRelay) (t : Task) (connection_id : ConnectionId)
    (agent_connection : AgentSocket) : NetworkRelay × Res CloseRelayedConnection Unit Exc :=
  CloseRelayedConnection.informed connection_id
    (locked_send r t agent_connection (.ok (closeMessage connection_id)))

/-! ## edge_agent_connection_close -/

/-- `edge_agent_connection_close` suspended in its loop: `current` is the connection being closed,
and `rest` are those of the snapshot that come after it. -/
structure EdgeAgentConnectionClose where
  agent_connection : AgentSocket
  current : ConnectionId
  pc : CloseRelayedConnection
  rest : List ConnectionId
  deriving DecidableEq, Repr

namespace EdgeAgentConnectionClose

/-- The loop over the connections of the snapshot that are still to be closed. -/
def loop (r : NetworkRelay) (t : Task) (agent_connection : AgentSocket) :
    List ConnectionId → NetworkRelay × Res EdgeAgentConnectionClose Unit Exc
  -- `agent_connection_locks.pop` comes after all closes.
  | [] => (r.popLock agent_connection, .returned ())
  | connection_id :: rest =>
    await (close_relayed_connection r t connection_id agent_connection)
      (fun pc => ⟨agent_connection, connection_id, pc, rest⟩)
      (fun r _ => loop r t agent_connection rest) (fun r e => (r, .raised e))

/-- `edge_agent_connection_close`, resumed. -/
def resume (r : NetworkRelay) (t : Task) (pc : EdgeAgentConnectionClose) (o : Outcome) :
    Option (NetworkRelay × Res EdgeAgentConnectionClose Unit Exc) :=
  (pc.pc.resume r t pc.current pc.agent_connection o).map fun x =>
    -- A close that raises leaves the loop, and the entry stays.
    await x (fun pc' => { pc with pc := pc' }) (fun r _ => loop r t pc.agent_connection pc.rest)
      (fun r e => (r, .raised e))

end EdgeAgentConnectionClose

/-- Whether the connection object of an active id has the given `agent_connection`. -/
def NetworkRelay.belongsTo (r : NetworkRelay) (agent_connection : AgentSocket)
    (connection_id : ConnectionId) : Bool :=
  (r.connection connection_id).any (·.agent_connection = agent_connection)

/-- `edge_agent_connection_close`, from the call on. -/
def edge_agent_connection_close (r : NetworkRelay) (t : Task) (edge_agent_connection_id : AgentId) :
    NetworkRelay × Res EdgeAgentConnectionClose Unit Exc :=
  match r.registered_agent_connections edge_agent_connection_id with
  -- The id and its flag are removed all the same.
  | none => (r.deregister edge_agent_connection_id, .returned ())
  | some agent_connection =>
    EdgeAgentConnectionClose.loop
      ((r.deregister edge_agent_connection_id).removeAgent agent_connection) t agent_connection
      -- The snapshot of the table is taken here.
      (r.active_relayed_connections.filter (r.belongsTo agent_connection))

/-! ## _create_connection -/

/-- The arguments of `_create_connection`. -/
structure ConnectionRequest where
  agent_connection_id : AgentId
  target_ip : String
  target_port : ℤ
  protocol : String
  connection_class : ConnectionClass
  deriving DecidableEq, Repr

/-- The suspension points of `_create_connection`. -/
inductive CreatePoint
  /-- Sending the request to the agent. -/
  | sending (send : LockedSend)
  /-- In `response_queue.get()`. -/
  | waiting
  deriving DecidableEq, Repr

/-- `_create_connection`, suspended. -/
structure CreateConnection where
  request : ConnectionRequest
  connection_id : ConnectionId
  agent_connection : AgentSocket
  point : CreatePoint
  deriving DecidableEq, Repr

/-- The message with which `_create_connection` asks the agent for a connection. -/
def ConnectionRequest.message (request : ConnectionRequest) (connection_id : ConnectionId) :
    ToAgent :=
  .text (.initiateConnection request.target_ip request.target_port request.protocol connection_id
    true)

namespace CreateConnection

/-- From the answer on: the queue is removed, and the answer decides the outcome. -/
def answered (cfg : RelayConfig) (r : NetworkRelay) (connection_id : ConnectionId)
    (response : EdgeAgentToRelayMessage) (rest : List EdgeAgentToRelayMessage) :
    NetworkRelay × Res CreateConnection ConnectionId Exc :=
  ((r.setAnswers connection_id rest).removeAnswerQueue connection_id,
    match response with
    | .initiateConnectionError message _ =>
      .raised (.valueError ("Error initiating connection: " ++ message))
    -- The id of the answer is not compared.
    | .initiateConnectionOK _ => .returned connection_id
    | _ => .raised (.valueError ("Unknown response: " ++ cfg.str response ++
        " to initiate connection message for connection_id: " ++ connection_id)))

/-- The send of the request has parked, returned or raised. -/
def requested (cfg : RelayConfig) (pc : CreateConnection)
    (x : NetworkRelay × Res LockedSend Unit Exc) :
    NetworkRelay × Res CreateConnection ConnectionId Exc :=
  await x (fun send => { pc with point := .sending send })
    (fun r _ =>
      match r.answers pc.connection_id with
      | [] => (r, .parked { pc with point := .waiting })
      | response :: rest => answered cfg r pc.connection_id response rest)
    -- The answer queue stays in its table.
    (fun r e => (r, .raised e))

/-- `_create_connection`, resumed. -/
def resume (cfg : RelayConfig) (r : NetworkRelay) (t : Task) (pc : CreateConnection) (o : Outcome) :
    Option (NetworkRelay × Res CreateConnection ConnectionId Exc) :=
  match pc.point with
  | .sending send =>
    (send.resume r t pc.agent_connection (.ok (pc.request.message pc.connection_id)) o).map
      (requested cfg pc)
  | .waiting =>
    match o, r.answers pc.connection_id with
    | .ok, response :: rest => some (answered cfg r pc.connection_id response rest)
    | _, _ => none

end CreateConnection

/-- The connection object that `_create_connection` makes, called by the task `t`. -/
def newConnection (r : NetworkRelay) (t : Task) (request : ConnectionRequest)
    (agent_connection : AgentSocket) : TcpConnection :=
  { cls := request.connection_class
    agent_connection
    agent_supports_binary :=
      (r.agent_connection_id_to_supports_binary request.agent_connection_id).getD false
    creator := t }

/-- `_create_connection`, from the call on, where `uuid4()` gives `connection_id`. The task `t`
makes the call. -/
def _create_connection (cfg : RelayConfig) (r : NetworkRelay) (t : Task)
    (request : ConnectionRequest) (connection_id : ConnectionId) :
    NetworkRelay × Res CreateConnection ConnectionId Exc :=
  match r.registered_agent_connections request.agent_connection_id with
  | none => (r, .raised (.valueError ("Unknown agent: " ++ request.agent_connection_id)))
  | some agent_connection =>
    -- The object is in the table before the agent is asked.
    CreateConnection.requested cfg ⟨request, connection_id, agent_connection, .waiting⟩
      (locked_send (r.publish connection_id (newConnection r t request agent_connection)) t
        agent_connection (.ok (request.message connection_id)))

end HttpNetworkRelay
