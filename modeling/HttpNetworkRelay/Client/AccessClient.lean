import HttpNetworkRelay.Asyncio.Machine
import HttpNetworkRelay.Agent.EdgeAgent

/-!
# The access client

`AccessClient.async_main` with its `read_stdin_and_send` task: the start message and its answer,
then data from stdin to the relay and data from the relay to stdout until the websocket is closed.
As in the agent, a task is a resumable state machine, an `await` always suspends, and
`accessClientStep` resumes one task with the outcome of what it awaits.
-/

namespace HttpNetworkRelay

open Asyncio Python

/-- The arguments of `AccessClient.__init__`, and what `RelayToAccessClientMessage` makes of bytes,
which `model_validate_json` accepts too. -/
structure AccessClientConfig where
  target_host_identifier : String
  target_ip : String
  target_port : ℤ
  protocol : String
  relay_url : Option String
  secret : Option String
  validate_bytes : Bytes → Option RelayToAccessClientMessage

/-- A websocket message as the access client receives it. A text is what
`RelayToAccessClientMessage.model_validate_json` makes of it. -/
inductive ToClientFrame
  | bytes (data : Bytes)
  | text (known : Option RelayToAccessClientMessage)
  deriving DecidableEq, Repr

/-- A message of the relay, as the access client receives it. -/
def ToClient.received : ToClient → ToClientFrame
  | .bytes data => .bytes data
  | .text message => .text (some message)

/-- What the operation that a task of the access client awaits came back with. -/
inductive AccessClientOutcome
  /-- It completed. -/
  | ok
  | raised (error : AgentExc)
  /-- `websocket.recv` returned. -/
  | frame (content : ToClientFrame)
  /-- `reader.read` returned; no data is the end of stdin. -/
  | data (data : Bytes)
  deriving DecidableEq, Repr

/-- The suspension points of `async_main`. -/
inductive AccessClientMain
  /-- Created, not yet run. -/
  | ready
  /-- Entering `connect`. -/
  | connecting
  | sendingStart
  /-- In `websocket.recv`, for the answer to the start message. -/
  | receivingAnswer
  /-- In `websocket.recv`, in the loop. -/
  | receiving
  /-- Leaving the `async with` of `connect`; `error` is the exception that is about to leave it. -/
  | leaving (error : Option AgentExc)
  | finished (result : Except AgentExc Unit)
  deriving DecidableEq, Repr

/-- The suspension points of `read_stdin_and_send`. -/
inductive StdinPoint
  /-- In `connect_read_pipe`, or not yet run. -/
  | connecting
  /-- In `reader.read`. -/
  | reading
  /-- Sending a chunk. -/
  | sending
  | finished
  deriving DecidableEq, Repr

/-- The `read_stdin_and_send` task, and whether `cancel` has been called on it. -/
structure StdinTask where
  point : StdinPoint := .connecting
  cancelled : Bool := false
  deriving DecidableEq, Repr

/-- The access client with its tasks: `to_relay` holds what was handed to `send`, and `stdout` what
was written to `sys.stdout`. -/
structure AccessClientState where
  main : AccessClientMain := .ready
  relay_supports_binary : Bool := false
  read_stdin_and_send : Option StdinTask := none
  to_relay : List ClientFrame := []
  stdout : Bytes := []
  deriving DecidableEq, Repr

namespace AccessClientState

variable (cfg : AccessClientConfig) (s : AccessClientState)

/-- The main task goes on to another point. -/
@[simp] def setMain (main : AccessClientMain) : AccessClientState := { s with main }

/-- The task that reads stdin goes on to another point. -/
@[simp] def setStdin (task : StdinTask) : AccessClientState :=
  { s with read_stdin_and_send := some task }

/-- `send` is called on the websocket. -/
@[simp] def send (frame : ClientFrame) : AccessClientState :=
  { s with to_relay := s.to_relay ++ [frame] }

/-- `sys.stdout.buffer.write` and `sys.stdout.flush`. -/
@[simp] def writeStdout (data : Bytes) : AccessClientState := { s with stdout := s.stdout ++ data }

/-- `read_stdin_and_send_task.cancel()`. -/
@[simp] def cancelStdin : AccessClientState :=
  { s with
    read_stdin_and_send := s.read_stdin_and_send.map fun task => { task with cancelled := true } }

/-! ## async_main -/

/-- The start message. -/
def startMessage (secret : String) : AtRStartMessage where
  connection_target := cfg.target_host_identifier
  target_ip := cfg.target_ip
  target_port := cfg.target_port
  protocol := cfg.protocol
  secret
  supports_binary := some true

/-- `async_main`, from the call to `connect`. -/
def start : AccessClientState :=
  match cfg.relay_url, cfg.secret with
  -- The URL is tested before the secret.
  | none, _ => s.setMain (.finished (.error (.code (.valueError "relay_url is required"))))
  | some _, none => s.setMain (.finished (.error (.code (.valueError "secret is required"))))
  | some _, some _ => s.setMain .connecting

/-- What `RelayToAccessClientMessage.model_validate_json` makes of a frame. -/
def validate : ToClientFrame → Option RelayToAccessClientMessage
  | .bytes data => cfg.validate_bytes data
  | .text known => known

/-- The answer to the start message has been received. -/
def answerReceived (frame : ToClientFrame) : AccessClientState :=
  match validate cfg frame with
  | none => s.setMain (.leaving (some (.code .validationError)))
  | some (.startOK supports_binary) =>
    { s with
      relay_supports_binary := supports_binary
      read_stdin_and_send := some {}
      main := .receiving }
  -- An error message, or one that is not expected: the coroutine returns.
  | some _ => s.setMain (.leaving none)

/-- The body of the receive loop. -/
def frameReceived (frame : ToClientFrame) : AccessClientState :=
  match frame with
  | .bytes data => s.writeStdout data
  -- The receive loop has no `try` around the validation.
  | .text none => s.setMain (.leaving (some (.code .validationError)))
  | .text (some (.tcpData data_base64)) =>
    match b64decode data_base64 with
    | .ok data => s.writeStdout data
    | .error e => s.setMain (.leaving (some (.code (.base64 e))))
  -- Error messages are logged, and the loop goes on.
  | .text (some _) => s

/-- The end of `async_main`: `asyncio.run` cancels the task that is left. -/
def finish (result : Except AgentExc Unit) : AccessClientState :=
  s.cancelStdin.setMain (.finished result)

/-- `async_main`, resumed. -/
def resumeMain (o : AccessClientOutcome) : Option AccessClientState :=
  match s.main, o with
  | .ready, .ok => some (s.start cfg)
  | .connecting, .ok =>
    cfg.secret.map fun secret =>
      (s.send (.text (some (.start (startMessage cfg secret))))).setMain .sendingStart
  | .connecting, .raised e => some (s.finish (.error e))
  | .sendingStart, .ok => some (s.setMain .receivingAnswer)
  | .sendingStart, .raised e => some (s.setMain (.leaving (some e)))
  | .receivingAnswer, .frame content => some (s.answerReceived cfg content)
  | .receivingAnswer, .raised e => some (s.setMain (.leaving (some e)))
  | .receiving, .frame content => some (s.frameReceived content)
  -- Both kinds of `ConnectionClosed` break the loop, after which the task is cancelled.
  | .receiving, .raised .connectionClosed => some (s.cancelStdin.setMain (.leaving none))
  -- Other exceptions leave `connect` with the task still running.
  | .receiving, .raised e => some (s.setMain (.leaving (some e)))
  | .leaving none, .ok => some (s.finish (.ok ()))
  | .leaving (some e), .ok => some (s.finish (.error e))
  | .leaving _, .raised e => some (s.finish (.error e))
  | _, _ => none

/-! ## read_stdin_and_send -/

/-- The frame with which a chunk of stdin is sent. -/
def stdinFrame (relay_supports_binary : Bool) (data : Bytes) : ClientFrame :=
  if relay_supports_binary then .bytes data else .text (some (.tcpData (b64encode data)))

/-- `read_stdin_and_send`, resumed. -/
def resumeStdin (task : StdinTask) (o : AccessClientOutcome) : Option AccessClientState :=
  if task.cancelled then
    -- `CancelledError` is raised where the task is suspended.
    if task.point ≠ .finished ∧ o = .ok then some (s.setStdin { task with point := .finished })
    else none
  else
    match task.point, o with
    | .connecting, .ok => some (s.setStdin { task with point := .reading })
    | .reading, .data data =>
      if data = [] then some (s.setStdin { task with point := .finished })
      else some ((s.send (stdinFrame s.relay_supports_binary data)).setStdin
        { task with point := .sending })
    | .sending, .ok => some (s.setStdin { task with point := .reading })
    | .connecting, .raised _ | .reading, .raised _ | .sending, .raised _ =>
      some (s.setStdin { task with point := .finished })
    | _, _ => none

end AccessClientState

/-! ## Steps -/

/-- The resumption of a task of the access client. -/
inductive AccessClientEvent
  | main (o : AccessClientOutcome)
  | stdin (o : AccessClientOutcome)
  deriving DecidableEq, Repr

/-- The state after a resumption, if it can happen. -/
def accessClientStep (cfg : AccessClientConfig) (s : AccessClientState) :
    AccessClientEvent → Option AccessClientState
  | .main o => s.resumeMain cfg o
  | .stdin o => s.read_stdin_and_send.bind fun task => s.resumeStdin task o

end HttpNetworkRelay
