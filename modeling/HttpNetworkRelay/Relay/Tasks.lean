import HttpNetworkRelay.Asyncio.Machine
import HttpNetworkRelay.Relay.Coroutines

/-!
# The relay's tasks and its step function

Each task of the event loop is a resumable state machine over the shared `NetworkRelay`:
`ws_for_edge_agents` with its handshake, `keep_alive`, `_msg_loop`, `ws_for_access_clients`,
`access_client_receive_thread`, and what users of the library start (`create_connection`,
`create_connection_async`, `close`, `send`). `RelayState` holds one slot for each possible task, and
`step` lets the environment act or resumes one task with the outcome of what it awaits. The tasks
switch only at their suspension points, and in any order.
-/

namespace HttpNetworkRelay

open Asyncio Python

/-! ## Program points -/

/-- The suspension points of `accept_ws_and_start_msg_loop_for_edge_agents`. -/
inductive Handshake
  | accepting
  /-- In `receive_text`, for the start message. -/
  | receivingStart
  /-- In `get_agent_msg_loop_permission_and_create_connection_id`. -/
  | checking (start_message : EtRStartMessage)
  /-- In the close of a refused websocket. -/
  | refusing
  /-- Closing the dead websocket that is registered under the id. -/
  | evicting (start_message : EtRStartMessage) (connection_id : AgentId)
      (pc : EdgeAgentConnectionClose)
  /-- Returned the id under which the websocket was registered, or nothing, or raised. -/
  | finished (result : Except Exc (Option AgentId))

/-- The suspension points of `keep_alive`. -/
inductive KeepAlive
  | sleeping
  | sending (send : LockedSend)
  | finished (result : Except Exc Unit)

/-- The suspension points of `_msg_loop`. -/
inductive MsgLoop
  | receiving
  /-- Handling a reset of a `TcpConnectionAsync`. -/
  | resetting (connection_id : ConnectionId) (pc : CloseRelayedConnection)
  /-- In `response_queue.put(message)`, the queue being full. -/
  | putting (connection_id : ConnectionId) (message : EdgeAgentToRelayMessage)
  /-- In `handle_custom_agent_message`. -/
  | handlingCustom
  /-- In `edge_agent_connection_close`, after the disconnect. -/
  | tearingDown (pc : EdgeAgentConnectionClose)
  | finished (result : Except Exc Unit)

/-- A `_msg_loop` task with its argument `connection_id`. -/
structure MsgLoopTask where
  connection_id : AgentId
  pc : MsgLoop

/-- The suspension points of `ws_for_access_clients`. `access_client_supports_binary` is written
`binary`. -/
inductive Client
  | accepting
  /-- In `receive_text`, for the start message. -/
  | receivingStart
  /-- In `get_access_client_permission`. -/
  | checking (start_message : AtRStartMessage)
  /-- In the close of a websocket that was refused or whose agent is not registered. -/
  | refusing
  /-- Sending "Agent not registered". -/
  | reportingUnregistered
  | creating (binary : Bool) (pc : CreateConnection)
  | sendingStartOK (binary : Bool) (connection_id : ConnectionId)
  /-- Sending the error of a failed create call, `connection` being unbound. -/
  | reportingError
  | receiving (connection_id : ConnectionId)
  /-- In `connection.send`. -/
  | forwarding (connection_id : ConnectionId) (message : Except Exc ToAgent) (send : LockedSend)
  /-- In `connection.close()`, after the loop. -/
  | closing (connection_id : ConnectionId) (pc : CloseRelayedConnection)
  /-- In `access_client_connection.close()`, after the loop. -/
  | closingClient (connection_id : ConnectionId)
  /-- Waiting for the reader within the grace period. -/
  | joining (connection_id : ConnectionId)
  /-- Waiting for the cancelled reader. -/
  | cancelling (connection_id : ConnectionId)
  /-- Ended; `connection_id` is that of the connection that the create call returned. -/
  | finished (connection_id : Option ConnectionId) (result : Except Exc Unit)

/-- The suspension points of `access_client_receive_thread`. -/
inductive ReaderPoint
  /-- Created, not yet run. -/
  | ready
  /-- In `self.event.wait()` of `TcpConnectionAsync.read`. -/
  | parked
  /-- In the send of a chunk to the access client. -/
  | sending
  | finished
  deriving DecidableEq, Repr

/-- An `access_client_receive_thread` task with its arguments, and whether `cancel` has been
called on it. -/
structure Reader where
  access_client_connection : ClientSocket
  binary : Bool
  point : ReaderPoint := .ready
  cancelled : Bool := false
  deriving DecidableEq, Repr

/-- A call of `create_connection` or `create_connection_async` by a user of the library; a finished
one keeps the id that it drew from `uuid4`, if it got that far. -/
inductive Call
  | creating (pc : CreateConnection)
  | finished (connection_id : Option ConnectionId) (result : Except Exc ConnectionId)

/-- The suspension points of a scheduled or awaited `close`. -/
inductive CloserPoint
  | scheduled
  | closing (pc : CloseRelayedConnection)
  | finished (result : Except Exc Unit)

/-- A `close` of a connection object. -/
structure Closer where
  connection_id : ConnectionId
  agent_connection : AgentSocket
  point : CloserPoint := .scheduled

/-- The suspension points of a user's `send`. -/
inductive SenderPoint
  /-- Not yet run: `TcpConnectionAsync.send` with its content, or `TcpConnection.send_async`, which
  takes the send buffer when it runs. -/
  | scheduled (content : Option Bytes)
  | sending (message : Except Exc ToAgent) (send : LockedSend)
  | finished (result : Except Exc Unit)

/-- A `send` on a connection object. -/
structure Sender where
  connection_id : ConnectionId
  point : SenderPoint

/-- The relay with all of its tasks. -/
structure RelayState where
  relay : NetworkRelay := {}
  handshake : AgentSocket → Option Handshake := fun _ => none
  keepAlive : AgentSocket → Option KeepAlive := fun _ => none
  msgLoop : AgentSocket → Option MsgLoopTask := fun _ => none
  client : ClientSocket → Option Client := fun _ => none
  reader : ConnectionId → Option Reader := fun _ => none
  call : ℕ → Option Call := fun _ => none
  closer : ℕ → Option Closer := fun _ => none
  sender : ℕ → Option Sender := fun _ => none
  closers_created : ℕ := 0

namespace RelayState

variable (cfg : RelayConfig) (s : RelayState)

/-- A handshake comes to a point. -/
@[simp] def setHandshake (ws : AgentSocket) (pc : Handshake) : RelayState :=
  { s with handshake := Function.update s.handshake ws (some pc) }

/-- A keep-alive task comes to a point. -/
@[simp] def setKeepAlive (ws : AgentSocket) (pc : KeepAlive) : RelayState :=
  { s with keepAlive := Function.update s.keepAlive ws (some pc) }

/-- A message loop comes to a point. -/
@[simp] def setMsgLoop (ws : AgentSocket) (task : MsgLoopTask) : RelayState :=
  { s with msgLoop := Function.update s.msgLoop ws (some task) }

/-- A session comes to a point. -/
@[simp] def setClient (ws : ClientSocket) (pc : Client) : RelayState :=
  { s with client := Function.update s.client ws (some pc) }

/-- A reader comes to a point. -/
@[simp] def setReader (connection_id : ConnectionId) (task : Reader) : RelayState :=
  { s with reader := Function.update s.reader connection_id (some task) }

/-- A create call of a user comes to a point. -/
@[simp] def setCall (k : ℕ) (pc : Call) : RelayState :=
  { s with call := Function.update s.call k (some pc) }

/-- A close by a user comes to a point. -/
@[simp] def setCloser (k : ℕ) (task : Closer) : RelayState :=
  { s with closer := Function.update s.closer k (some task) }

/-- A send of a user comes to a point. -/
@[simp] def setSender (k : ℕ) (task : Sender) : RelayState :=
  { s with sender := Function.update s.sender k (some task) }

/-- The relay is changed. -/
@[simp] def withRelay (r : NetworkRelay) : RelayState := { s with relay := r }

/-- A `close` of a connection object is scheduled on the event loop. -/
@[simp] def scheduleClose (connection_id : ConnectionId) (agent_connection : AgentSocket) :
    RelayState :=
  { s with
    closer := Function.update s.closer s.closers_created (some { connection_id, agent_connection })
    closers_created := s.closers_created + 1 }

/-! ## ws_for_edge_agents -/

/-- Whether `keep_alive` is started, by the error that the agent reports. -/
def startsKeepAlive (last_error : Option String) : Bool :=
  match last_error with
  | none => true
  -- `not start_message.last_error` is also true of the empty text.
  | some text => text == "" || !(
      isIn ("Input tag 'successfully_ssh_connected' found using 'kind' does not match any of " ++
        "the expected tags") text ||
      isIn "Input tag 'keep_alive' found using 'kind' does not match any of the expected tags" text)

/-- From `edge_agent_connection_open` on: the websocket is registered and its tasks are created. -/
def openAgent (ws : AgentSocket) (start_message : EtRStartMessage) (connection_id : AgentId) :
    RelayState :=
  { s with
    relay := s.relay.edge_agent_connection_open connection_id ws
    keepAlive :=
      if startsKeepAlive start_message.last_error then
        Function.update s.keepAlive ws (some .sleeping)
      else s.keepAlive
    msgLoop := Function.update s.msgLoop ws (some ⟨connection_id, .receiving⟩)
    handshake := Function.update s.handshake ws (some (.finished (.ok (some connection_id)))) }

/-- The eviction has parked, returned or raised. -/
def evicted (ws : AgentSocket) (start_message : EtRStartMessage) (connection_id : AgentId)
    (x : NetworkRelay × Res EdgeAgentConnectionClose Unit Exc) : RelayState :=
  match x with
  | (r, .parked pc) => (s.withRelay r).setHandshake ws (.evicting start_message connection_id pc)
  | (r, .returned _) => (s.withRelay r).openAgent ws start_message connection_id
  | (r, .raised e) => (s.withRelay r).setHandshake ws (.finished (.error e))

/-- From the answer of the permission check on, where it is an id. -/
def permitted (ws : AgentSocket) (start_message : EtRStartMessage) (connection_id : AgentId) :
    RelayState :=
  -- The flag is stored before the check for a duplicate.
  let r := s.relay.setSupportsBinary connection_id start_message.supports_binary
  match r.registered_agent_connections connection_id with
  | none => (s.withRelay r).openAgent ws start_message connection_id
  | some other =>
    -- `.closed` is read of a Starlette websocket, which has no such attribute.
    if cfg.closed_attribute then
      if r.agent_dead other then
        s.evicted ws start_message connection_id
          (edge_agent_connection_close r (.handshake ws) connection_id)
      else (s.withRelay (r.closeAgent ws)).setHandshake ws .refusing
    else (s.withRelay r).setHandshake ws (.finished (.error .attributeError))

/-- The start message has been received. -/
def startReceived (frame : AgentFrame) : Handshake :=
  match frame with
  -- `receive_text` reads the key that a binary frame does not have.
  | .bytes _ => .finished (.error .keyError)
  | .text content =>
    match content.known with
    | none => .finished (.error .validationError)
    | some (.start start_message) =>
      if cfg.start_message_valid start_message then .checking start_message
      else .finished (.error .validationError)
    -- The message is no start message: the handshake returns and leaves the websocket open.
    | some _ => .finished (.ok none)

/-- `ws_for_edge_agents`, resumed. -/
def resumeHandshake (ws : AgentSocket) (pc : Handshake) (o : Outcome) : Option RelayState :=
  match pc with
  | .accepting =>
    match o with
    -- The websocket is listed before anything has been checked.
    | .ok => some ((s.withRelay (s.relay.appendAgent ws)).setHandshake ws .receivingStart)
    | .raised e => some (s.setHandshake ws (.finished (.error (.ws e))))
    | _ => none
  | .receivingStart =>
    match o, s.relay.inbox ws with
    | .next, frame :: rest =>
      some ((s.withRelay (s.relay.setInbox ws rest)).setHandshake ws (startReceived cfg frame))
    | .raised e, _ => some (s.setHandshake ws (.finished (.error (.ws e))))
    | _, _ => none
  | .checking start_message =>
    match o with
    | .permit (some connection_id) =>
      -- The empty id is falsy.
      if connection_id = "" then
        some ((s.withRelay (s.relay.closeAgent ws)).setHandshake ws .refusing)
      else some (s.permitted cfg ws start_message connection_id)
    | .permit none => some ((s.withRelay (s.relay.closeAgent ws)).setHandshake ws .refusing)
    | .hookRaised => some (s.setHandshake ws (.finished (.error .hook)))
    | _ => none
  | .refusing =>
    match o with
    | .ok => some (s.setHandshake ws (.finished (.ok none)))
    | .raised e => some (s.setHandshake ws (.finished (.error (.ws e))))
    | _ => none
  | .evicting start_message connection_id pc =>
    (pc.resume s.relay (.handshake ws) o).map (s.evicted ws start_message connection_id)
  | .finished _ => none

/-! ## keep_alive -/

/-- The send of a keep-alive message has parked, returned or raised. -/
def keepAliveSent (ws : AgentSocket) (x : NetworkRelay × Res LockedSend Unit Exc) : RelayState :=
  match x with
  | (r, .parked send) => (s.withRelay r).setKeepAlive ws (.sending send)
  | (r, .returned _) => (s.withRelay r).setKeepAlive ws .sleeping
  | (r, .raised e) =>
    (s.withRelay r).setKeepAlive ws (.finished (
      match e with
      -- `is_closed_error`, and `WebSocketDisconnect`, end the task without an error.
      | .ws error => if error.isGone then .ok () else .error e
      | _ => .error e))

/-- `keep_alive`, resumed. -/
def resumeKeepAlive (ws : AgentSocket) (pc : KeepAlive) (o : Outcome) : Option RelayState :=
  match pc with
  | .sleeping =>
    match o with
    | .ok =>
      some (s.keepAliveSent ws (locked_send s.relay (.keepAlive ws) ws (.ok (.text .keepAlive))))
    -- The websocket is not `CONNECTED` any more, and the loop breaks.
    | .notConnected => some (s.setKeepAlive ws (.finished (.ok ())))
    | _ => none
  | .sending send =>
    (send.resume s.relay (.keepAlive ws) ws (.ok (.text .keepAlive)) o).map (s.keepAliveSent ws)
  | .finished _ => none

/-! ## _msg_loop -/

/-- The teardown after a disconnect has parked, returned or raised. -/
def tornDown (ws : AgentSocket) (connection_id : AgentId)
    (x : NetworkRelay × Res EdgeAgentConnectionClose Unit Exc) : RelayState :=
  (s.withRelay x.1).setMsgLoop ws ⟨connection_id,
    match x.2 with
    | .parked pc => .tearingDown pc
    | .returned _ => .finished (.ok ())
    | .raised e => .finished (.error e)⟩

/-- The close for a reset has parked, returned or raised; an exception is logged. -/
def resetHandled (ws : AgentSocket) (agent_id : AgentId) (connection_id : ConnectionId)
    (x : NetworkRelay × Res CloseRelayedConnection Unit Exc) : RelayState :=
  (s.withRelay x.1).setMsgLoop ws ⟨agent_id,
    match x.2 with
    | .parked pc => .resetting connection_id pc
    | .returned _ => .receiving
    -- The caller logs the exception and goes on with the loop.
    | .raised _ => .receiving⟩

/-- `handle_connection_reset_message`. -/
def handle_connection_reset_message (ws : AgentSocket) (agent_id : AgentId)
    (connection_id : ConnectionId) : RelayState :=
  if connection_id ∈ s.relay.active_relayed_connections then
    match s.relay.connection connection_id with
    | some connection =>
      match connection.cls with
      -- `close` of a `TcpConnection` only schedules the coroutine.
      | .tcpConnection =>
        (s.scheduleClose connection_id connection.agent_connection).setMsgLoop ws
          ⟨agent_id, .receiving⟩
      -- `close` of a `TcpConnectionAsync` is awaited here, in the message loop.
      | .tcpConnectionAsync =>
        s.resetHandled ws agent_id connection_id
          (close_relayed_connection s.relay (.msgLoop ws) connection_id connection.agent_connection)
    | none => s.setMsgLoop ws ⟨agent_id, .receiving⟩
  else s.setMsgLoop ws ⟨agent_id, .receiving⟩

/-- `handle_tcp_data_message`, whose exceptions are logged by the caller. -/
def handle_tcp_data_message (r : NetworkRelay) (connection_id : ConnectionId)
    (data_base64 : String) : NetworkRelay :=
  if connection_id ∈ r.active_relayed_connections then
    match b64decode data_base64 with
    | .ok data => r.modifyConnection connection_id (·.fill_recv data)
    -- `binascii.Error` leaves the handler before anything is filled in.
    | .error _ => r
  else r

/-- `handle_tcp_binary_data`. -/
def handle_tcp_binary_data (r : NetworkRelay) (connection_id : ConnectionId) (payload : Bytes) :
    NetworkRelay :=
  if connection_id ∈ r.active_relayed_connections then
    r.modifyConnection connection_id (·.fill_recv payload)
  else r

/-- The branch of `handle_edge_agent_message` for an answer to a request. -/
def handle_answer (ws : AgentSocket) (agent_id : AgentId) (message : EdgeAgentToRelayMessage) :
    RelayState :=
  match message.connection_id? with
  | some connection_id =>
    if connection_id ∈ s.relay.initiate_connection_answer_queues then
      if s.relay.answers connection_id = [] then
        (s.withRelay (s.relay.setAnswers connection_id [message])).setMsgLoop ws
          ⟨agent_id, .receiving⟩
      -- The queue has `maxsize=1`: `put` waits until there is a place.
      else s.setMsgLoop ws ⟨agent_id, .putting connection_id message⟩
    else s.setMsgLoop ws ⟨agent_id, .receiving⟩
  -- A start message has no `connection_id`; the caller logs the `AttributeError`.
  | none => s.setMsgLoop ws ⟨agent_id, .receiving⟩

/-- `handle_edge_agent_message`, for a message of the built-in kinds. -/
def handle_edge_agent_message (ws : AgentSocket) (agent_id : AgentId)
    (message : EdgeAgentToRelayMessage) : RelayState :=
  match message with
  | .tcpData connection_id data_base64 =>
    (s.withRelay (handle_tcp_data_message s.relay connection_id data_base64)).setMsgLoop ws
      ⟨agent_id, .receiving⟩
  | .connectionReset _ connection_id => s.handle_connection_reset_message ws agent_id connection_id
  | .keepAlive => s.setMsgLoop ws ⟨agent_id, .receiving⟩
  | message => s.handle_answer ws agent_id message

/-- The body of `_msg_loop` for a received frame. -/
def frameReceived (ws : AgentSocket) (agent_id : AgentId) (frame : AgentFrame) : RelayState :=
  match frame with
  | .bytes binary =>
    match decode_tcp_binary_frame binary with
    -- The decoder raises outside of any `try`, so the loop ends without a teardown.
    | .error e => s.setMsgLoop ws ⟨agent_id, .finished (.error e)⟩
    | .ok (connection_id, payload) =>
      (s.withRelay (handle_tcp_binary_data s.relay connection_id payload)).setMsgLoop ws
        ⟨agent_id, .receiving⟩
  | .text content =>
    match content.known with
    | some message => s.handle_edge_agent_message ws agent_id message
    | none =>
      if cfg.CustomAgentToRelayMessage && content.custom then
        s.setMsgLoop ws ⟨agent_id, .handlingCustom⟩
      -- So does a message that does not validate.
      else s.setMsgLoop ws ⟨agent_id, .finished (.error .validationError)⟩

/-- `_msg_loop`, resumed. -/
def resumeMsgLoop (ws : AgentSocket) (task : MsgLoopTask) (o : Outcome) : Option RelayState :=
  match task.pc with
  | .receiving =>
    match o, s.relay.inbox ws with
    -- Only a disconnect leads to `edge_agent_connection_close`.
    | .disconnect, _ | .raised .webSocketDisconnect, _ =>
      some (s.tornDown ws task.connection_id
        (edge_agent_connection_close s.relay (.msgLoop ws) task.connection_id))
    | .raised e, _ => some (s.setMsgLoop ws { task with pc := .finished (.error (.ws e)) })
    | .next, frame :: rest =>
      some ((s.withRelay (s.relay.setInbox ws rest)).frameReceived cfg ws task.connection_id frame)
    | _, _ => none
  | .resetting connection_id pc =>
    match s.relay.connection connection_id with
    | some connection =>
      (pc.resume s.relay (.msgLoop ws) connection_id connection.agent_connection o).map
        (s.resetHandled ws task.connection_id connection_id)
    | none => none
  | .putting connection_id message =>
    -- The answer before has been taken.
    if o = .ok ∧ s.relay.answers connection_id = [] then
      some ((s.withRelay (s.relay.setAnswers connection_id [message])).setMsgLoop ws
        { task with pc := .receiving })
    else none
  | .handlingCustom =>
    match o with
    -- What the hook raises is logged.
    | .ok | .hookRaised => some (s.setMsgLoop ws { task with pc := .receiving })
    | _ => none
  | .tearingDown pc =>
    (pc.resume s.relay (.msgLoop ws) o).map (s.tornDown ws task.connection_id)
  | .finished _ => none

/-! ## ws_for_access_clients -/

/-- `get_agent_connection_id_for_access_client`. -/
def get_agent_connection_id_for_access_client (connection_target : String) : AgentId :=
  connection_target

/-- `uuid4()` gives an id of canonical form that no connection object has had. -/
def freshId (connection_id : ConnectionId) : Bool :=
  (s.relay.connection connection_id).isNone && canonical connection_id

/-- The create call has parked, returned or raised. -/
def created (ws : ClientSocket) (binary : Bool)
    (x : NetworkRelay × Res CreateConnection ConnectionId Exc) : RelayState :=
  match x with
  | (r, .parked pc) => (s.withRelay r).setClient ws (.creating binary pc)
  | (r, .returned connection_id) =>
    -- The answer carries the flag of the connection, not that of the access client.
    let supports_binary := (r.connection connection_id).any (·.agent_supports_binary)
    (s.withRelay (r.sendToClient ws (.text (.startOK supports_binary)))).setClient ws
      (.sendingStartOK binary connection_id)
  -- Only a `ValueError` is caught, whose text goes to the access client.
  | (r, .raised (.valueError text)) =>
    (s.withRelay (r.sendToClient ws (.text (.error text)))).setClient ws .reportingError
  | (r, .raised e) => (s.withRelay r).setClient ws (.finished none (.error e))

/-- From the permission on: the agent is looked up, and the connection is created. -/
def startSession (ws : ClientSocket) (start_message : AtRStartMessage)
    (connection_id : ConnectionId) : Option RelayState :=
  let agent_connection_id :=
    get_agent_connection_id_for_access_client start_message.connection_target
  match s.relay.registered_agent_connections agent_connection_id with
  | none =>
    some ((s.withRelay (s.relay.sendToClient ws (.text (.error "Agent not registered")))).setClient
      ws .reportingUnregistered)
  | some _ =>
    -- The id is the one that `uuid4` will give.
    if s.freshId connection_id then
      some (s.created ws (start_message.supports_binary = some true)
        (_create_connection cfg s.relay (.client ws)
          { agent_connection_id
            target_ip := start_message.target_ip
            target_port := start_message.target_port
            protocol := start_message.protocol
            connection_class := .tcpConnectionAsync }
          connection_id))
    else none

/-- `connection.close()` after the loop has parked, returned or raised. -/
def connectionClosed (ws : ClientSocket) (connection_id : ConnectionId)
    (x : NetworkRelay × Res CloseRelayedConnection Unit Exc) : RelayState :=
  match x with
  | (r, .parked pc) => (s.withRelay r).setClient ws (.closing connection_id pc)
  -- The connection is closed, and the access client's websocket is closed next.
  | (r, .returned _) => (s.withRelay (r.closeClient ws)).setClient ws (.closingClient connection_id)
  | (r, .raised e) => (s.withRelay r).setClient ws (.finished (some connection_id) (.error e))

/-- From the end of the loop on. -/
def leaveLoop (ws : ClientSocket) (connection_id : ConnectionId) (agent_connection : AgentSocket) :
    RelayState :=
  s.connectionClosed ws connection_id
    (close_relayed_connection (s.relay.access_client_connection_close connection_id) (.client ws)
      connection_id agent_connection)

/-- The condition of the loop: back to `receive`, or out of the loop. -/
def continueLoop (ws : ClientSocket) (connection_id : ConnectionId)
    (agent_connection : AgentSocket) : RelayState :=
  -- `while connection.id in self.active_access_client_connections`.
  if (s.relay.active_access_client_connections connection_id).isSome then
    s.setClient ws (.receiving connection_id)
  else s.leaveLoop ws connection_id agent_connection

/-- `connection.send` has parked, returned or raised. -/
def forwarded (ws : ClientSocket) (connection_id : ConnectionId) (agent_connection : AgentSocket)
    (message : Except Exc ToAgent) (x : NetworkRelay × Res LockedSend Unit Exc) : RelayState :=
  match x with
  | (r, .parked send) => (s.withRelay r).setClient ws (.forwarding connection_id message send)
  | (r, .returned _) => (s.withRelay r).continueLoop ws connection_id agent_connection
  | (r, .raised e) => (s.withRelay r).setClient ws (.finished (some connection_id) (.error e))

/-- `connection.send(content)`, from the call on. -/
def forward (ws : ClientSocket) (connection_id : ConnectionId) (connection : TcpConnection)
    (content : Bytes) : RelayState :=
  let message := connection.dataMessage connection_id content
  s.forwarded ws connection_id connection.agent_connection message
    (locked_send s.relay (.client ws) connection.agent_connection message)

/-- The body of the loop for a received frame. -/
def clientFrameReceived (ws : ClientSocket) (connection_id : ConnectionId)
    (connection : TcpConnection) (content : ClientFrame) : RelayState :=
  match content with
  | .bytes binary => s.forward ws connection_id connection binary
  | .text none => s.setClient ws (.finished (some connection_id) (.error .validationError))
  | .text (some (.tcpData data_base64)) =>
    match b64decode data_base64 with
    | .ok data => s.forward ws connection_id connection data
    | .error e => s.setClient ws (.finished (some connection_id) (.error (.base64 e)))
  -- A second start message is logged, and the loop goes on.
  | .text (some (.start _)) => s.continueLoop ws connection_id connection.agent_connection

/-- Whether the reader task of a connection has finished. -/
def readerFinished (connection_id : ConnectionId) : Bool :=
  (s.reader connection_id).any (·.point = .finished)

/-- The access client is connected: its websocket is published and its reader is created. -/
def startReader (ws : ClientSocket) (binary : Bool) (connection_id : ConnectionId) : RelayState :=
  (s.withRelay (s.relay.setAccessClient connection_id ws)).setReader connection_id
    { access_client_connection := ws, binary }

/-- `ws_for_access_clients`, resumed at a suspension point inside its loop or after it. -/
def resumeSession (ws : ClientSocket) (connection_id : ConnectionId) (connection : TcpConnection)
    (pc : Client) (o : Outcome) : Option RelayState :=
  match pc with
  | .receiving _ =>
    match o with
    -- The connection is dropped here, before its close.
    | .disconnect | .raised .webSocketDisconnect =>
      some ((s.withRelay (s.relay._drop_relayed_connection connection_id)).leaveLoop ws
        connection_id connection.agent_connection)
    -- Other exceptions leave the session without the cleanup after the loop.
    | .raised e => some (s.setClient ws (.finished (some connection_id) (.error (.ws e))))
    | .frame content => some (s.clientFrameReceived ws connection_id connection content)
    | _ => none
  | .forwarding _ message send =>
    (send.resume s.relay (.client ws) connection.agent_connection message o).map
      (s.forwarded ws connection_id connection.agent_connection message)
  | .closing _ pc =>
    (pc.resume s.relay (.client ws) connection_id connection.agent_connection o).map
      (s.connectionClosed ws connection_id)
  | .closingClient _ =>
    match o with
    | .ok => some (s.setClient ws (.joining connection_id))
    | .raised e =>
      -- `is_closed_error` is passed, as the websocket is closed then.
      if e.isClosed then some (s.setClient ws (.joining connection_id))
      else some (s.setClient ws (.finished (some connection_id) (.error (.ws e))))
    | _ => none
  | .joining _ =>
    match o with
    | .ok =>
      if s.readerFinished connection_id then
        some (s.setClient ws (.finished (some connection_id) (.ok ())))
      else none
    | .timeout =>
      -- After `READER_JOIN_TIMEOUT` the reader is cancelled, and awaited again.
      match s.reader connection_id with
      | some reader =>
        if reader.point = .finished then none
        else some ((s.setReader connection_id { reader with cancelled := true }).setClient ws
          (.cancelling connection_id))
      | none => none
    | _ => none
  | .cancelling _ =>
    if o = .ok ∧ s.readerFinished connection_id then
      some (s.setClient ws (.finished (some connection_id) (.ok ())))
    else none
  | _ => none

/-- `ws_for_access_clients`, resumed. -/
def resumeClient (ws : ClientSocket) (pc : Client) (o : Outcome) : Option RelayState :=
  match pc with
  | .accepting =>
    match o with
    | .ok => some (s.setClient ws .receivingStart)
    | .raised e => some (s.setClient ws (.finished none (.error (.ws e))))
    | _ => none
  | .receivingStart =>
    match o with
    | .frame (.text (some (.start start_message))) =>
      some (s.setClient ws (.checking start_message))
    -- The message is no start message: the session returns and leaves the websocket open.
    | .frame (.text (some _)) => some (s.setClient ws (.finished none (.ok ())))
    | .frame (.text none) => some (s.setClient ws (.finished none (.error .validationError)))
    | .frame (.bytes _) => some (s.setClient ws (.finished none (.error .keyError)))
    | .raised e => some (s.setClient ws (.finished none (.error (.ws e))))
    | _ => none
  | .checking start_message =>
    match o with
    | .allow true connection_id => s.startSession cfg ws start_message connection_id
    | .allow false _ => some ((s.withRelay (s.relay.closeClient ws)).setClient ws .refusing)
    | .hookRaised => some (s.setClient ws (.finished none (.error .hook)))
    | _ => none
  | .refusing =>
    match o with
    | .ok => some (s.setClient ws (.finished none (.ok ())))
    | .raised e => some (s.setClient ws (.finished none (.error (.ws e))))
    | _ => none
  | .reportingUnregistered =>
    match o with
    | .ok => some ((s.withRelay (s.relay.closeClient ws)).setClient ws .refusing)
    | .raised e => some (s.setClient ws (.finished none (.error (.ws e))))
    | _ => none
  | .creating binary pc => (pc.resume cfg s.relay (.client ws) o).map (s.created ws binary)
  | .sendingStartOK binary connection_id =>
    match o with
    | .ok =>
      (s.relay.connection connection_id).map fun connection =>
        (s.startReader ws binary connection_id).continueLoop ws connection_id
          connection.agent_connection
    | .raised e => some (s.setClient ws (.finished (some connection_id) (.error (.ws e))))
    | _ => none
  | .reportingError =>
    match o with
    -- `connection` was never assigned, so `connection.close()` raises.
    | .ok => some (s.setClient ws (.finished none (.error .unboundLocalError)))
    | .raised e => some (s.setClient ws (.finished none (.error (.ws e))))
    | _ => none
  | .receiving connection_id | .forwarding connection_id _ _ | .closing connection_id _
  | .closingClient connection_id | .joining connection_id | .cancelling connection_id =>
    (s.relay.connection connection_id).bind fun connection =>
      s.resumeSession ws connection_id connection pc o
  | .finished _ _ => none

/-! ## access_client_receive_thread -/

/-- The message with which the reader forwards a chunk. -/
def chunkMessage (binary : Bool) (data : Bytes) : ToClient :=
  if binary then .bytes data else .text (.tcpData (b64encode data))

/-- The reader leaves its loop. -/
def readerEnds (connection_id : ConnectionId) (reader : Reader) : RelayState :=
  (s.withRelay (s.relay._drop_relayed_connection connection_id)).setReader connection_id
    { reader with point := .finished }

/-- `TcpConnectionAsync.read(READ_CHUNK_SIZE)` from the test of its loop on: a chunk of the buffer
is taken and sent, or the connection is closed, or the reader parks. An event that is set when
the buffer is empty lets `wait` return at once; it is cleared, the tests are made again with the
same result, and the second `wait` parks. -/
def read (connection_id : ConnectionId) (connection : TcpConnection) (reader : Reader) :
    RelayState :=
  -- The buffer is empty: the end of the data after a drop, else the reader waits.
  if connection.recv_buffer = [] then
    if connection_id ∈ s.relay.active_relayed_connections then
      (s.withRelay (s.relay.modifyConnection connection_id fun connection =>
        { connection with event := connection.event.clear.park (.reader connection_id) })).setReader
          connection_id { reader with point := .parked }
    else s.readerEnds connection_id reader
  else
    let r := s.relay.modifyConnection connection_id fun connection =>
      { connection with recv_buffer := connection.recv_buffer.drop READ_CHUNK_SIZE }
    (s.withRelay (r.sendToClient reader.access_client_connection
      (chunkMessage reader.binary (connection.recv_buffer.take READ_CHUNK_SIZE)))).setReader
        connection_id { reader with point := .sending }

/-- The loop of the reader, from its condition on. -/
def readerLoop (connection_id : ConnectionId) (connection : TcpConnection) (reader : Reader) :
    RelayState :=
  if connection_id ∈ s.relay.active_relayed_connections then
    s.read connection_id connection reader
  else s.readerEnds connection_id reader

/-- `access_client_receive_thread`, resumed. -/
def resumeReader (connection_id : ConnectionId) (reader : Reader) (o : Outcome) :
    Option RelayState :=
  (s.relay.connection connection_id).bind fun connection =>
    let left := s.withRelay (s.relay.modifyConnection connection_id fun connection =>
      { connection with event := connection.event.leave (.reader connection_id) })
    if reader.cancelled then
      -- `CancelledError` is raised where the reader is suspended.
      match reader.point, o with
      | .ready, .ok => some (s.setReader connection_id { reader with point := .finished })
      | .parked, .ok => some (left.readerEnds connection_id reader)
      | .sending, .ok => some (s.readerEnds connection_id reader)
      | _, _ => none
    else
      match reader.point, o with
      | .ready, .ok => some (s.readerLoop connection_id connection reader)
      | .parked, .ok =>
        -- The wait has been resolved; the event is cleared, and the tests are made again.
        if Task.reader connection_id ∈ connection.event.resolved then
          some ((left.withRelay (left.relay.modifyConnection connection_id fun connection =>
            { connection with event := connection.event.clear })).read connection_id connection
              reader)
        else none
      | .sending, .ok => some (s.readerLoop connection_id connection reader)
      -- Whatever the send raises, the reader drops the connection.
      | .sending, .raised _ => some (s.readerEnds connection_id reader)
      | _, _ => none

/-! ## Users of the library -/

/-- A user's create call has parked, returned or raised. -/
def callReturned (k : ℕ) (connection_id : Option ConnectionId)
    (x : NetworkRelay × Res CreateConnection ConnectionId Exc) : RelayState :=
  (s.withRelay x.1).setCall k (
    match x.2 with
    | .parked pc => .creating pc
    | .returned c => .finished connection_id (.ok c)
    | .raised e => .finished connection_id (.error e))

/-- `create_connection` or `create_connection_async` is called. -/
def startCall (k : ℕ) (request : ConnectionRequest) (connection_id : ConnectionId) :
    Option RelayState :=
  if (s.call k).isNone && s.freshId connection_id then
    some (s.callReturned k
      ((s.relay.registered_agent_connections request.agent_connection_id).map
        fun _ => connection_id)
      (_create_connection cfg s.relay (.call k) request connection_id))
  else none

/-- `create_connection` or `create_connection_async`, resumed. -/
def resumeCall (k : ℕ) (pc : Call) (o : Outcome) : Option RelayState :=
  match pc with
  | .creating pc =>
    (pc.resume cfg s.relay (.call k) o).map (s.callReturned k (some pc.connection_id))
  | .finished _ _ => none

/-- A `close` has parked, returned or raised. -/
def closerReturned (k : ℕ) (closer : Closer)
    (x : NetworkRelay × Res CloseRelayedConnection Unit Exc) : RelayState :=
  (s.withRelay x.1).setCloser k { closer with
    point :=
      match x.2 with
      | .parked pc => .closing pc
      | .returned _ => .finished (.ok ())
      | .raised e => .finished (.error e) }

/-- A `close`, resumed. -/
def resumeCloser (k : ℕ) (closer : Closer) (o : Outcome) : Option RelayState :=
  match closer.point with
  | .scheduled =>
    if o = .ok then
      some (s.closerReturned k closer (close_relayed_connection s.relay (.closer k)
        closer.connection_id closer.agent_connection))
    else none
  | .closing pc =>
    (pc.resume s.relay (.closer k) closer.connection_id closer.agent_connection o).map
      (s.closerReturned k closer)
  | .finished _ => none

/-- A `send` has parked, returned or raised. -/
def senderReturned (k : ℕ) (sender : Sender) (message : Except Exc ToAgent)
    (x : NetworkRelay × Res LockedSend Unit Exc) : RelayState :=
  (s.withRelay x.1).setSender k { sender with
    point :=
      match x.2 with
      | .parked send => .sending message send
      | .returned _ => .finished (.ok ())
      | .raised e => .finished (.error e) }

/-- A user's `send`, resumed. -/
def resumeSender (k : ℕ) (sender : Sender) (o : Outcome) : Option RelayState :=
  (s.relay.connection sender.connection_id).bind fun connection =>
    match sender.point with
    | .scheduled content =>
      if o = .ok then
        let r :=
          match content with
          | some _ => s.relay
          | none => s.relay.modifyConnection sender.connection_id ({ · with send_buffer := [] })
        let message := connection.dataMessage sender.connection_id
          (content.getD connection.send_buffer)
        some (s.senderReturned k sender message
          (locked_send r (.sender k) connection.agent_connection message))
      else none
    | .sending message send =>
      (send.resume s.relay (.sender k) connection.agent_connection message o).map
        (s.senderReturned k sender message)
    | .finished _ => none

/-- `send(content)` is called on the connection that a create call returned. -/
def startSend (k : ℕ) (connection_id : ConnectionId) (content : Bytes) : Option RelayState :=
  if (s.sender k).isNone then
    (s.relay.connection connection_id).map fun connection =>
      match connection.cls with
      | .tcpConnection =>
        (s.withRelay (s.relay.modifyConnection connection_id fun connection =>
          { connection with send_buffer := connection.send_buffer ++ content })).setSender k
            ⟨connection_id, .scheduled none⟩
      | .tcpConnectionAsync => s.setSender k ⟨connection_id, .scheduled (some content)⟩
  else none

/-- The id of the connection that a user's create call has returned. -/
def returnedBy (call : ℕ) : Option ConnectionId :=
  match s.call call with
  | some (.finished _ (.ok connection_id)) => some connection_id
  | _ => none

end RelayState

/-! ## Steps -/

/-- What can happen next. -/
inductive RelayEvent
  /-- An agent opens its websocket. -/
  | agentConnects (ws : AgentSocket)
  /-- An agent sends a websocket message. -/
  | agentSends (ws : AgentSocket) (frame : AgentFrame)
  /-- An agent's websocket is dead from now on. -/
  | agentDies (ws : AgentSocket)
  /-- An access client opens its websocket. -/
  | clientConnects (ws : ClientSocket)
  /-- A user of the library calls `create_connection` or `create_connection_async`, for which
  `uuid4()` gives `connection_id`. -/
  | create (k : ℕ) (request : ConnectionRequest) (connection_id : ConnectionId)
  /-- A user closes the connection that a create call returned. -/
  | close (call : ℕ)
  /-- A user sends on the connection that a create call returned. -/
  | send (k : ℕ) (call : ℕ) (content : Bytes)
  /-- The event loop resumes a task. -/
  | run (t : Task) (o : Outcome)
  deriving DecidableEq, Repr

open RelayState in
/-- The state after an event, if the event can happen. -/
def step (cfg : RelayConfig) (s : RelayState) : RelayEvent → Option RelayState
  | .agentConnects ws =>
    if (s.handshake ws).isNone then some (s.setHandshake ws .accepting) else none
  | .agentSends ws frame =>
    some (s.withRelay { s.relay with
      inbox := Function.update s.relay.inbox ws (s.relay.inbox ws ++ [frame])
      agent_sent := Function.update s.relay.agent_sent ws (s.relay.agent_sent ws ++ [frame]) })
  | .agentDies ws =>
    some (s.withRelay { s.relay with agent_dead := Function.update s.relay.agent_dead ws true })
  | .clientConnects ws => if (s.client ws).isNone then some (s.setClient ws .accepting) else none
  | .create k request connection_id => s.startCall cfg k request connection_id
  | .close call =>
    (s.returnedBy call).bind fun connection_id =>
      (s.relay.connection connection_id).map fun connection =>
        s.scheduleClose connection_id connection.agent_connection
  | .send k call content =>
    (s.returnedBy call).bind fun connection_id => s.startSend k connection_id content
  | .run (.handshake ws) o => (s.handshake ws).bind fun pc => s.resumeHandshake cfg ws pc o
  | .run (.keepAlive ws) o => (s.keepAlive ws).bind fun pc => s.resumeKeepAlive ws pc o
  | .run (.msgLoop ws) o => (s.msgLoop ws).bind fun task => s.resumeMsgLoop cfg ws task o
  | .run (.client ws) o => (s.client ws).bind fun pc => s.resumeClient cfg ws pc o
  | .run (.reader connection_id) o =>
    (s.reader connection_id).bind fun reader => s.resumeReader connection_id reader o
  | .run (.call k) o => (s.call k).bind fun pc => s.resumeCall cfg k pc o
  | .run (.closer k) o => (s.closer k).bind fun closer => s.resumeCloser k closer o
  | .run (.sender k) o => (s.sender k).bind fun sender => s.resumeSender k sender o

/-! ## A registered agent and an open connection -/

/-- A `NetworkRelay` without custom messages. -/
def plainConfig : RelayConfig where
  CustomAgentToRelayMessage := false
  start_message_valid _ := true
  str _ := ""
  closed_attribute := true

/-- An agent connects, announces whether it supports binary frames, and is registered. -/
def registerAgent (ws : AgentSocket) (n : AgentId) (supports_binary : Bool) : List RelayEvent :=
  [.agentConnects ws, .run (.handshake ws) .ok,
    .agentSends ws (.text { known := some (.start { supports_binary }) }),
    .run (.handshake ws) .next, .run (.handshake ws) (.permit (some n))]

/-- An access client asks for a connection through an agent, and the request is sent. -/
def requestConnection (A : ClientSocket) (n : AgentId) (c : ConnectionId) : List RelayEvent :=
  [.clientConnects A, .run (.client A) .ok,
    .run (.client A) (.frame (.text (some (.start {
      connection_target := n, target_ip := "127.0.0.1", target_port := 22, protocol := "tcp",
      secret := "" })))),
    .run (.client A) (.allow true c), .run (.client A) .ok]

/-- The agent answers that the connection is open, and the start message is being sent to the
access client. -/
def answerOK (A : ClientSocket) (ws : AgentSocket) (c : ConnectionId) : List RelayEvent :=
  [.agentSends ws (.text { known := some (.initiateConnectionOK c) }), .run (.msgLoop ws) .next,
    .run (.client A) .ok]

/-- An id of the form that `uuid4` gives. -/
def someConnection : ConnectionId := "00000000-0000-4000-8000-000000000000"

/-- From the connect of an agent and of an access client to the loop of the session. -/
def openSession : List RelayEvent :=
  registerAgent ⟨0⟩ "agent" false ++ requestConnection ⟨0⟩ "agent" someConnection ++
    answerOK ⟨0⟩ ⟨0⟩ someConnection ++ [.run (.client ⟨0⟩) .ok]

example : ((run (step plainConfig) {} openSession).bind (·.client ⟨0⟩)) matches
    some (.receiving _) := by
  decide +kernel

/-- The relay with that session open. -/
def liveSession : RelayState :=
  (run (step plainConfig) {} openSession).get (by decide +kernel)

end HttpNetworkRelay
