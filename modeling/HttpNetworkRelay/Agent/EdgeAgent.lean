import Mathlib.Data.List.AList
import HttpNetworkRelay.Messages

/-!
# The edge agent

`EdgeAgent` with its tasks: `async_main`, which runs one session of `connect_to_server` after the
other, the `keep_alive` task of each session, and a `read_from_tcp_and_send` task for each socket.
As in the relay, a task is a resumable state machine, and `agentStep` resumes one task with the
outcome of what it awaits. Sessions and sockets are numbered in the order of their creation.

An `await` always suspends here, also one that Python may complete at once, such as `writer.drain`
on a transport with room: that adds interleavings and takes none away. The backoff between two
sessions is left out, as the model has no time.
-/

namespace HttpNetworkRelay

open Python

/-- What a subclass of `EdgeAgent` supplies: whether `CustomRelayToAgentMessage` is set. -/
structure AgentConfig where
  CustomRelayToAgentMessage : Bool

/-- The exceptions that the agent meets. -/
inductive AgentExc
  /-- `websockets.exceptions.ConnectionClosed`. -/
  | connectionClosed
  | connectionResetError
  /-- Another `OSError`. -/
  | osError
  /-- One that the code itself runs into. -/
  | code (error : Exc)
  /-- Anything else that comes out of a library or of a method of the subclass. -/
  | other
  deriving DecidableEq, Repr

/-- A websocket message as the agent receives it. A text is what
`RelayToEdgeAgentMessage.model_validate_json` makes of it, and whether `CustomRelayToAgentMessage`
would accept it. -/
inductive RelayFrame
  | bytes (data : Bytes)
  | text (known : Option RelayToEdgeAgentMessage) (custom : Bool)
  deriving DecidableEq, Repr

/-- A message of the relay, as the agent receives it. -/
def ToAgent.received : ToAgent → RelayFrame
  | .bytes data => .bytes data
  | .text message => .text (some message) false

/-- What the operation that a task of the agent awaits came back with. -/
inductive AgentOutcome
  /-- It completed. -/
  | ok
  /-- It raised, with the text `str(e)`. -/
  | raised (error : AgentExc) (text : String)
  /-- `create_start_message` returned. -/
  | start (message : EtRStartMessage)
  /-- `websocket.recv` returned. -/
  | frame (content : RelayFrame)
  /-- `reader.read` returned; no data is the end of the stream. -/
  | data (data : Bytes)
  deriving DecidableEq, Repr

/-- An `RtEInitiateConnectionMessage` for the protocol "tcp". -/
structure OpenRequest where
  target_ip : String
  target_port : ℤ
  connection_id : ConnectionId
  supports_binary : Bool
  deriving DecidableEq, Repr

/-- The writer of a socket: the request it was opened for, the payloads passed to `write`, and
whether `close` has been called. -/
structure StreamWriter where
  request : OpenRequest
  written : List Bytes := []
  closed : Bool := false
  deriving DecidableEq, Repr

/-- The attributes of an `EdgeAgent`, the sockets and websockets. `active_connections` refers to the
writers by their numbers; `to_relay` holds what was handed to `send`, by session. -/
structure EdgeAgent where
  active_connections : AList fun _ : ConnectionId => ℕ := ∅
  websocket : Option ℕ := none
  signal_connected : Bool := false
  writer : ℕ → Option StreamWriter := fun _ => none
  writers_opened : ℕ := 0
  to_relay : ℕ → List AgentFrame := fun _ => []

namespace EdgeAgent

variable (a : EdgeAgent)

/-- `send` is called on the websocket of a session. -/
@[simp] def send (session : ℕ) (frame : AgentFrame) : EdgeAgent :=
  { a with to_relay := Function.update a.to_relay session (a.to_relay session ++ [frame]) }

/-- `send` of a message of the agent. -/
abbrev sendMessage (session : ℕ) (message : EdgeAgentToRelayMessage) : EdgeAgent :=
  a.send session (.text { known := some message })

/-- A writer is replaced by `f` of it. -/
@[simp] def modifyWriter (n : ℕ) (f : StreamWriter → StreamWriter) : EdgeAgent :=
  { a with writer := Function.update a.writer n ((a.writer n).map f) }

/-- `writer.write`. -/
abbrev write (n : ℕ) (data : Bytes) : EdgeAgent :=
  a.modifyWriter n fun writer => { writer with written := writer.written ++ [data] }

/-- `writer.close`. -/
abbrev close (n : ℕ) : EdgeAgent := a.modifyWriter n fun writer => { writer with closed := true }

/-- `del self.active_connections[connection_id]`, or `pop` of it. -/
@[simp] def remove (connection_id : ConnectionId) : EdgeAgent :=
  { a with active_connections := a.active_connections.erase connection_id }

/-- `asyncio.open_connection` returns, and its reader and writer are stored. -/
@[simp] def opened (request : OpenRequest) : EdgeAgent :=
  { a with
    -- An entry of the same id is replaced, and its writer is not closed.
    active_connections := a.active_connections.insert request.connection_id a.writers_opened
    writer := Function.update a.writer a.writers_opened (some { request })
    writers_opened := a.writers_opened + 1 }

/-- The loop of `async_main` over a copy of `active_connections`: each writer is closed and its
entry deleted. -/
@[simp] def closeAll : EdgeAgent :=
  { a with
    active_connections := ∅
    writer := fun n =>
      if n ∈ a.active_connections.entries.map (·.2) then
        (a.writer n).map fun writer => { writer with closed := true }
      else a.writer n }

end EdgeAgent

/-! ## Program points -/

/-- The suspension points of `async_main`, with the coroutines that it calls. -/
inductive AgentMain
  /-- Entering `connect`. -/
  | connecting
  /-- In `create_start_message`. -/
  | creatingStart
  | sendingStart
  /-- In `websocket.recv`. -/
  | receiving
  /-- In `asyncio.open_connection`. -/
  | opening (request : OpenRequest)
  /-- Sending the answer that the connection is open, its socket having the number `n`. -/
  | sendingOK (request : OpenRequest) (n : ℕ)
  /-- Sending the answer that the connection could not be opened. -/
  | sendingError
  /-- In `writer.drain`, after a write to the socket `n`. -/
  | draining (connection_id : ConnectionId) (n : ℕ)
  /-- Sending the reset of a connection whose write has failed. -/
  | sendingReset
  /-- In `handle_custom_relay_message`. -/
  | handlingCustom
  /-- Leaving the `async with` of `connect`; `error` is the exception that `connect_to_server` is
  about to raise. -/
  | leaving (error : Option AgentExc)
  /-- In `self.websocket.close`. -/
  | closingWebsocket
  /-- In `on_connection_closed`. -/
  | closed
  /-- An exception has left `async_main`. -/
  | failed
  deriving DecidableEq, Repr

/-- The suspension points of the agent's `keep_alive`. -/
inductive AgentKeepAlive
  /-- In `signal_connected.wait`. -/
  | waiting
  | sleeping
  | sending
  | finished
  deriving DecidableEq, Repr

/-- The suspension points of `read_from_tcp_and_send`. -/
inductive ReadPoint
  /-- In `reader.read`, or not yet run. -/
  | reading
  /-- Sending a chunk. -/
  | sending
  /-- Sending the reset, in the `finally`. -/
  | resetting
  | finished
  deriving DecidableEq, Repr

/-- A `read_from_tcp_and_send` task with its variables: the message and the websocket, which is
that of a session. -/
structure ReadTask where
  request : OpenRequest
  session : ℕ
  point : ReadPoint := .reading
  deriving DecidableEq, Repr

/-- The agent with its tasks; `read_from_tcp_and_send` tasks go by the numbers of their sockets. -/
structure AgentState where
  agent : EdgeAgent := {}
  session : ℕ := 0
  main : AgentMain := .connecting
  -- Each session has a websocket and a `keep_alive` of its own.
  keepAlive : ℕ → Option AgentKeepAlive := fun _ => none
  reader : ℕ → Option ReadTask := fun _ => none

namespace AgentState

variable (cfg : AgentConfig) (s : AgentState)

/-- The agent's own state is replaced. -/
@[simp] def withAgent (a : EdgeAgent) : AgentState := { s with agent := a }

/-- The main task goes on to another point. -/
@[simp] def setMain (main : AgentMain) : AgentState := { s with main }

/-- The keep-alive task of a session goes on to another point. -/
@[simp] def setKeepAlive (session : ℕ) (point : AgentKeepAlive) : AgentState :=
  { s with keepAlive := Function.update s.keepAlive session (some point) }

/-- The task that reads from the `n`-th socket goes on. -/
@[simp] def setReader (n : ℕ) (task : ReadTask) : AgentState :=
  { s with reader := Function.update s.reader n (some task) }

/-- The main task sends a message on the websocket of the current session and parks. -/
abbrev sendAndPark (message : EdgeAgentToRelayMessage) (main : AgentMain) : AgentState :=
  (s.withAgent (s.agent.sendMessage s.session message)).setMain main

/-! ## write_to_connection -/

/-- `write_to_connection`, from the call on. -/
def write_to_connection (connection_id : ConnectionId) (data : Bytes) : AgentState :=
  match s.agent.active_connections.lookup connection_id with
  | none => s.setMain .receiving
  | some n => (s.withAgent (s.agent.write n data)).setMain (.draining connection_id n)

-- `del` raises `KeyError` if the entry has gone while the task was draining.
/-- `write_to_connection`, from the `except` clause on: `del` raises a `KeyError` where the entry is
gone. -/
def writeReset (connection_id : ConnectionId) (n : ℕ) : AgentState :=
  let s := s.withAgent (s.agent.close n)
  if connection_id ∈ s.agent.active_connections then
    (s.withAgent (s.agent.remove connection_id)).sendAndPark
      (.connectionReset "Connection reset while writing data" connection_id) .sendingReset
  else s.setMain (.leaving (some (.code .keyError)))

/-! ## initiate_connection -/

/-- `initiate_connection` has raised. -/
def initiationFailed (connection_id : ConnectionId) (text : String) : AgentState :=
  s.sendAndPark (.initiateConnectionError text connection_id) .sendingError

/-- `initiate_connection`, from the call on. -/
def initiate_connection (protocol : String) (request : OpenRequest) : AgentState :=
  if protocol = "tcp" then s.setMain (.opening request)
  -- `NotImplementedError` is caught by the caller, which answers with its text.
  else s.initiationFailed request.connection_id ("Unsupported protocol: " ++ protocol)

/-- `initiate_connection`, from the return of `open_connection` on. -/
def connectionOpened (request : OpenRequest) : AgentState :=
  (s.withAgent (s.agent.opened request)).sendAndPark (.initiateConnectionOK request.connection_id)
    (.sendingOK request s.agent.writers_opened)

/-! ## connect_to_server -/

/-- The branch of the receive loop for an `RtEConnectionCloseMessage`. -/
def closeReceived (connection_id : ConnectionId) : AgentState :=
  match s.agent.active_connections.lookup connection_id with
  | none => s.setMain .receiving
  -- The reader of the socket goes on until its `read` returns or raises.
  | some n => (s.withAgent ((s.agent.close n).remove connection_id)).setMain .receiving

/-- The body of the receive loop for a message of the built-in kinds. -/
def messageReceived (message : RelayToEdgeAgentMessage) : AgentState :=
  match message with
  | .initiateConnection target_ip target_port protocol connection_id supports_binary =>
    s.initiate_connection protocol { target_ip, target_port, connection_id, supports_binary }
  | .tcpData connection_id data_base64 =>
    match b64decode data_base64 with
    | .ok data => s.write_to_connection connection_id data
    -- `binascii.Error` leaves `connect_to_server`.
    | .error e => s.setMain (.leaving (some (.code (.base64 e))))
  | .connectionClose _ connection_id => s.closeReceived connection_id
  | .keepAlive => s.setMain .receiving

/-- The body of the receive loop. -/
def frameReceived (frame : RelayFrame) : AgentState :=
  match frame with
  | .bytes data =>
    match decode_tcp_binary_frame data with
    | .ok (connection_id, payload) => s.write_to_connection connection_id payload
    -- So does the error of a frame that is too short.
    | .error e => s.setMain (.leaving (some (.code e)))
  | .text (some message) _ => s.messageReceived message
  | .text none custom =>
    if cfg.CustomRelayToAgentMessage then
      -- A text that is none of the custom messages is logged, and the loop goes on.
      s.setMain (if custom then .handlingCustom else .receiving)
    else s.setMain (.leaving (some (.code .validationError)))

/-- The start message has been sent: the session is up. -/
def connected : AgentState :=
  { s with
    agent := { s.agent with websocket := some s.session, signal_connected := true }
    -- `keep_alive` waits for `signal_connected`, which is set already.
    keepAlive := Function.update s.keepAlive s.session (some .waiting)
    main := .receiving }

/-! ## async_main -/

/-- `async_main`, from the end of `connect_to_server` on. -/
def disconnected : AgentState :=
  (s.withAgent s.agent.closeAll).setMain
    -- `if self.websocket`: there is none where `connect` or the start message has failed.
    (if s.agent.websocket.isSome then .closingWebsocket else .closed)

/-- `async_main`, resumed. -/
def resumeMain (o : AgentOutcome) : Option AgentState :=
  match s.main, o with
  | .connecting, .ok => some (s.setMain .creatingStart)
  | .connecting, .raised _ _ => some s.disconnected
  | .creatingStart, .start message =>
    -- The agent overwrites the flag of the subclass.
    some (s.sendAndPark (.start { message with supports_binary := true }) .sendingStart)
  | .creatingStart, .raised e _ => some (s.setMain (.leaving (some e)))
  | .sendingStart, .ok => some s.connected
  | .sendingStart, .raised e _ => some (s.setMain (.leaving (some e)))
  | .receiving, .frame content => some (s.frameReceived cfg content)
  -- `ConnectionClosedOK` and `ConnectionClosedError` break the loop.
  | .receiving, .raised .connectionClosed _ => some (s.setMain (.leaving none))
  | .receiving, .raised e _ => some (s.setMain (.leaving (some e)))
  | .opening request, .ok => some (s.connectionOpened request)
  | .opening request, .raised _ text => some (s.initiationFailed request.connection_id text)
  | .sendingOK request n, .ok =>
    -- The reader is created once the answer has been sent.
    some ((s.setReader n { request, session := s.session }).setMain .receiving)
  -- The entry of the socket stays, and nobody reads from it.
  | .sendingOK request _, .raised _ text => some (s.initiationFailed request.connection_id text)
  | .sendingError, .ok => some (s.setMain .receiving)
  | .sendingError, .raised e _ => some (s.setMain (.leaving (some e)))
  | .draining _ _, .ok => some (s.setMain .receiving)
  -- Only `ConnectionResetError` is caught around `drain`.
  | .draining connection_id n, .raised .connectionResetError _ =>
    some (s.writeReset connection_id n)
  | .draining _ _, .raised e _ => some (s.setMain (.leaving (some e)))
  | .sendingReset, .ok => some (s.setMain .receiving)
  | .sendingReset, .raised e _ => some (s.setMain (.leaving (some e)))
  -- Exceptions of the hook are logged.
  | .handlingCustom, .ok | .handlingCustom, .raised _ _ => some (s.setMain .receiving)
  | .leaving _, .ok | .leaving _, .raised _ _ => some s.disconnected
  | .closingWebsocket, .ok =>
    some ((s.withAgent { s.agent with websocket := none, signal_connected := false }).setMain
      .closed)
  | .closingWebsocket, .raised _ _ => some (s.setMain .failed)
  | .closed, .ok =>
    some { s.setMain .connecting with session := s.session + 1 }
  | .closed, .raised _ _ => some (s.setMain .failed)
  | _, _ => none

/-! ## keep_alive -/

/-- The agent's `keep_alive`, resumed. -/
def resumeKeepAlive (session : ℕ) (point : AgentKeepAlive) (o : AgentOutcome) :
    Option AgentState :=
  match point, o with
  | .waiting, .ok =>
    if s.agent.signal_connected then some (s.setKeepAlive session .sleeping) else none
  | .sleeping, .ok =>
    -- `self.websocket` is another one, or `None`, after a reconnect.
    if s.agent.websocket = some session then
      some ((s.withAgent (s.agent.sendMessage session .keepAlive)).setKeepAlive session .sending)
    else some (s.setKeepAlive session .finished)
  | .sending, .ok => some (s.setKeepAlive session .sleeping)
  | .sending, .raised _ _ => some (s.setKeepAlive session .finished)
  | _, _ => none

/-! ## read_from_tcp_and_send -/

/-- The frame with which a chunk is sent. -/
def chunkFrame (request : OpenRequest) (data : Bytes) : Except Exc AgentFrame :=
  if request.supports_binary then
    (encode_tcp_binary_frame request.connection_id data).map .bytes
  else .ok (.text { known := some (.tcpData request.connection_id (b64encode data)) })

/-- The `finally` of `read_from_tcp_and_send`. -/
def readEnds (n : ℕ) (task : ReadTask) : AgentState :=
  -- The `finally` runs however the loop has ended.
  (s.withAgent (((s.agent.close n).remove task.request.connection_id).sendMessage task.session
    (.connectionReset "Connection closed by target" task.request.connection_id))).setReader n
      { task with point := .resetting }

/-- `read_from_tcp_and_send`, resumed. -/
def resumeReader (n : ℕ) (task : ReadTask) (o : AgentOutcome) : Option AgentState :=
  match task.point, o with
  | .reading, .data data =>
    if data = [] then some (s.readEnds n task)
    else
      match chunkFrame task.request data with
      | .ok frame =>
        some ((s.withAgent (s.agent.send task.session frame)).setReader n
          { task with point := .sending })
      -- The encoder raises inside of the loop.
      | .error _ => some (s.readEnds n task)
  | .reading, .raised _ _ => some (s.readEnds n task)
  | .sending, .ok => some (s.setReader n { task with point := .reading })
  | .sending, .raised _ _ => some (s.readEnds n task)
  -- Whatever the last send raises is passed.
  | .resetting, .ok | .resetting, .raised _ _ =>
    some (s.setReader n { task with point := .finished })
  | _, _ => none

end AgentState

/-! ## Steps -/

/-- The resumption of a task of the agent. -/
inductive AgentEvent
  | main (o : AgentOutcome)
  | keepAlive (session : ℕ) (o : AgentOutcome)
  | reader (n : ℕ) (o : AgentOutcome)
  deriving DecidableEq, Repr

open AgentState in
/-- The state after a resumption, if it can happen. -/
def agentStep (cfg : AgentConfig) (s : AgentState) : AgentEvent → Option AgentState
  | .main o => s.resumeMain cfg o
  | .keepAlive session o => (s.keepAlive session).bind fun point =>
    s.resumeKeepAlive session point o
  | .reader n o => (s.reader n).bind fun task => s.resumeReader n task o

/-- From the start to the receive loop of the first session. -/
def startAgent : List AgentEvent := [.main .ok, .main (.start {}), .main .ok]

/-- The relay asks for a connection, the socket is opened, and the answer is sent. -/
def openSocket (request : OpenRequest) : List AgentEvent :=
  [.main (.frame (.text (some (.initiateConnection request.target_ip request.target_port "tcp"
    request.connection_id request.supports_binary)) false)), .main .ok, .main .ok]

/-- An agent without custom messages. -/
def plainAgent : AgentConfig where
  CustomRelayToAgentMessage := false

/-- A request for a connection without binary frames. -/
def someTarget (connection_id : ConnectionId) : OpenRequest where
  target_ip := "127.0.0.1"
  target_port := 22
  connection_id
  supports_binary := false

end HttpNetworkRelay
