import HttpNetworkRelay.Relay.Tasks

/-!
# The receive buffer of a TcpConnection and the thread that reads it

`TcpConnection.recv` is called from a worker thread. It measures the receive buffer under
`recv_buffer_lock`, clears `recv_event` if there is nothing to read, waits for the event, and takes
its bytes under the lock. The thread of the event loop fills the buffer and sets the event in
`fill_recv`, and drops the connection, which sets the event as well but takes no lock. Each
acquire and release of the lock, each test of the dictionary, each operation of the event and each
access to the buffer is a step of its own, and the two threads interleave freely.

`RecvRule` lists the steps of the two threads. `Guarded` says what the reader knows about the
buffer at each point; it rests on the `recv_buffer_lock` and holds in every run. `Signalled` adds
what it knows of the event after a drop, which takes no lock: this part is lost where
`wake_readers` sets the event between the reader's test of `closed` and its clear, and
`recv_wakes` shows that this is the only case.
-/

namespace HttpNetworkRelay

open Asyncio Python

/-! ## Program points -/

/-- The two threads that acquire a `recv_buffer_lock`. -/
inductive RecvThread
  | reader
  | loop
  deriving DecidableEq, Repr

/-- What a `recv` comes back with. -/
inductive RecvResult
  | returned (data : Bytes)
  | eofError
  | timeoutError
  deriving DecidableEq, Repr

/-- Where the reader's thread is in `TcpConnection.recv(size)`. -/
inductive RecvPoint
  /-- Not yet called. -/
  | idle
  /-- At the first acquire of `recv_buffer_lock`. -/
  | acquiring (size : ℤ)
  /-- At `len(self.recv_buffer) == 0`. -/
  | measuring (size : ℤ)
  /-- At the test of `self.closed`. -/
  | testing (size : ℤ)
  /-- At `self.recv_event.clear()`. -/
  | clearing (size : ℤ)
  /-- At the release of the lock. -/
  | releasing (size : ℤ)
  /-- At the call of `self.recv_event.wait(self.timeout)`. -/
  | calling (size : ℤ)
  /-- In `wait`. -/
  | waiting (size : ℤ) (timeout : Option ℕ)
  /-- At the second acquire of the lock. -/
  | reacquiring (size : ℤ)
  /-- At the second `len(self.recv_buffer) == 0`. -/
  | remeasuring (size : ℤ)
  /-- At `result = self.recv_buffer[:size]`. -/
  | slicing (size : ℤ)
  /-- At `self.recv_buffer = self.recv_buffer[size:]`. -/
  | storing (size : ℤ) (result : Bytes)
  /-- At the release of the lock, with the call about to end. -/
  | leaving (result : RecvResult)
  | finished (result : RecvResult)
  deriving DecidableEq, Repr

/-- No call is in progress. -/
def RecvPoint.over : RecvPoint → Bool
  | .idle | .finished _ => true
  | _ => false

namespace RecvPoint

/-- The points at which the reader holds the lock. -/
def holdsLock : RecvPoint → Bool
  | .measuring _ | .testing _ | .clearing _ | .releasing _ | .remeasuring _ | .slicing _
  | .storing _ _ | .leaving _ => true
  | _ => false

/-- The reader has tested `self.closed` and is to clear the event. -/
def clears : RecvPoint → Bool
  | .clearing _ => true
  | _ => false

/-- The points from the end of the first `with` to the end of `wait`. -/
def awaits : RecvPoint → Bool
  | .releasing _ | .calling _ | .waiting _ _ => true
  | _ => false

/-- The reader is in `wait`. -/
def waits : RecvPoint → Bool
  | .waiting _ _ => true
  | _ => false

/-- A `recv` that is over does not hold the lock. -/
theorem holdsLock_of_over {point : RecvPoint} (h : point.over = true) :
    point.holdsLock = false := by
  cases point <;> first | rfl | cases h

/-- A `recv` that waits for the event awaits it. -/
theorem awaits_of_waits {point : RecvPoint} (h : point.waits = true) : point.awaits = true := by
  cases point <;> first | rfl | cases h

end RecvPoint

/-- Where the thread of the event loop is, in `fill_recv` or `_drop_relayed_connection`. -/
inductive LoopPoint
  | idle
  /-- At the acquire of `recv_buffer_lock` in `fill_recv`. -/
  | acquiring (data : Bytes)
  /-- At `self.recv_buffer.extend(data)`. -/
  | extending (data : Bytes)
  /-- At `self.recv_event.set()` in `fill_recv`. -/
  | setting
  /-- At the release of the lock. -/
  | releasing
  /-- At `self.active_relayed_connections.pop(connection_id, None)`. -/
  | dropping
  /-- At `self.recv_event.set()` in `wake_readers`. -/
  | waking
  deriving DecidableEq, Repr

namespace LoopPoint

/-- A `fill_recv` is in progress. -/
def filling : LoopPoint → Bool
  | .acquiring _ | .extending _ | .setting | .releasing => true
  | _ => false

/-- The points at which the thread of the event loop holds the lock. -/
def holdsLock : LoopPoint → Bool
  | .extending _ | .setting | .releasing => true
  | _ => false

end LoopPoint

/-! ## The state -/

/-- A relay with one of its connections, the lock of its receive buffer, its `timeout`, and where
the two threads are. -/
structure RecvState where
  relay : NetworkRelay
  connection_id : ConnectionId
  recv_buffer_lock : Option RecvThread := none
  timeout : Option ℕ := none
  recv : RecvPoint := .idle
  loop : LoopPoint := .idle

namespace RecvState

variable (s : RecvState)

/-- The connection object. -/
def connection : Option TcpConnection :=
  s.relay.connection s.connection_id

/-- Whether `recv_event` is set. -/
def isSet : Bool :=
  s.connection.any (·.event.flag)

/-- The bytes in `recv_buffer`. -/
def recv_buffer : Bytes :=
  s.connection.elim [] (·.recv_buffer)

/-- `TcpConnection.closed`. -/
def closed : Bool :=
  s.connection_id ∉ s.relay.active_relayed_connections

/-- `recv_buffer_lock` is acquired or released. -/
@[simp] def setLock (holder : Option RecvThread) : RecvState :=
  { s with recv_buffer_lock := holder }

/-- The `recv` comes to a point. -/
@[simp] def setRecv (point : RecvPoint) : RecvState :=
  { s with recv := point }

/-- The event loop's thread comes to a point. -/
@[simp] def setLoop (point : LoopPoint) : RecvState :=
  { s with loop := point }

/-- The connection object is replaced by `f` of it. -/
def modify (f : TcpConnection → TcpConnection) : RecvState :=
  { s with relay := s.relay.modifyConnection s.connection_id f }

/-- The length of the slice `[:size]` of `content`, where a negative bound counts from the end. -/
def sliceEnd (size : ℤ) (content : Bytes) : ℕ :=
  if 0 ≤ size then size.toNat else content.length - size.natAbs

/-! ## The reader's thread -/

/-- `recv(size)` is called. -/
def startRecv (size : ℤ) : Option RecvState :=
  if s.recv.over then some (s.setRecv (.acquiring size)) else none

/-- The reader's thread takes the next step of its `recv`. -/
def resumeRecv : Option RecvState :=
  match s.recv with
  | .idle | .finished _ => none
  | .acquiring size =>
    if s.recv_buffer_lock.isNone then some ((s.setLock (some .reader)).setRecv (.measuring size))
    else none
  | .measuring size =>
    -- With something in the buffer the event is not cleared, and `wait` returns at once.
    some (s.setRecv (if s.recv_buffer.length = 0 then .testing size else .releasing size))
  -- Between this test and the `clear` the loop's thread can drop the connection.
  | .testing size => some (s.setRecv (if s.closed then .leaving .eofError else .clearing size))
  | .clearing size =>
    some ((s.modify fun connection =>
      { connection with event := connection.event.clear }).setRecv (.releasing size))
  | .releasing size => some ((s.setLock none).setRecv (.calling size))
  -- The timeout is read when `wait` is called.
  | .calling size => some (s.setRecv (.waiting size s.timeout))
  | .waiting size _ =>
    if s.isSet then
      some (s.setRecv (if size = 0 then .finished (.returned []) else .reacquiring size))
    else none
  | .reacquiring size =>
    if s.recv_buffer_lock.isNone then some ((s.setLock (some .reader)).setRecv (.remeasuring size))
    else none
  | .remeasuring size =>
    -- The wake of a drop, or an event that was set before: the call takes it for the end.
    some (s.setRecv (if s.recv_buffer.length = 0 then .leaving .eofError else .slicing size))
  | .slicing size =>
    some (s.setRecv (.storing size (s.recv_buffer.take (sliceEnd size s.recv_buffer))))
  | .storing size result =>
    some ((s.modify fun connection =>
      { connection with
        recv_buffer := connection.recv_buffer.drop (sliceEnd size connection.recv_buffer) }).setRecv
          (.leaving (.returned result)))
  | .leaving result => some ((s.setLock none).setRecv (.finished result))

/-- The timeout of a `wait` runs out. -/
def timeOut : Option RecvState :=
  match s.recv with
  | .waiting _ (some _) => some (s.setRecv (.finished .timeoutError))
  | _ => none

/-! ## The thread of the event loop -/

/-- `fill_recv` or `_drop_relayed_connection` is called. -/
def startLoop (point : LoopPoint) : Option RecvState :=
  if s.loop = .idle then some (s.setLoop point) else none

/-- The thread of the event loop takes its next step. -/
def resumeLoop : Option RecvState :=
  match s.loop with
  | .idle => none
  | .acquiring data =>
    if s.recv_buffer_lock.isNone then some ((s.setLock (some .loop)).setLoop (.extending data))
    else none
  | .extending data =>
    some ((s.modify fun connection =>
      { connection with recv_buffer := connection.recv_buffer ++ data }).setLoop .setting)
  | .setting =>
    some ((s.modify fun connection =>
      { connection with event := connection.event.set }).setLoop .releasing)
  | .releasing => some ((s.setLock none).setLoop .idle)
  | .dropping =>
    some { s with
      relay := { s.relay with
        active_relayed_connections :=
          s.relay.active_relayed_connections.filter (· ≠ s.connection_id) }
      -- An id that is not active any more has no readers to wake.
      loop := if s.closed then .idle else .waking }
  | .waking => some ((s.modify TcpConnection.wake_readers).setLoop .idle)

end RecvState

/-! ## Steps -/

/-- What can happen next. -/
inductive RecvEvent
  /-- `recv(size)` is called. -/
  | calls (size : ℤ)
  /-- `settimeout(timeout)` is called. -/
  | settimeout (timeout : Option ℕ)
  /-- The reader's thread takes its next step. -/
  | reader
  /-- The timeout of its `wait` runs out. -/
  | timesOut
  /-- The event loop calls `fill_recv(data)`. -/
  | fills (data : Bytes)
  /-- The event loop calls `_drop_relayed_connection`. -/
  | drops
  /-- The thread of the event loop takes its next step. -/
  | loop
  deriving DecidableEq, Repr

/-- One step of the threads. -/
def recvStep (s : RecvState) : RecvEvent → Option RecvState
  | .calls size => s.startRecv size
  | .settimeout timeout => some { s with timeout }
  | .reader => s.resumeRecv
  | .timesOut => s.timeOut
  | .fills data => s.startLoop (.acquiring data)
  | .drops => s.startLoop .dropping
  | .loop => s.resumeLoop

/-- A connection that `_create_connection` has just made. -/
def openedRecv (relay : NetworkRelay) (t : Task) (request : ConnectionRequest) (ws : AgentSocket)
    (connection_id : ConnectionId) : RecvState where
  relay := relay.publish connection_id (newConnection relay t request ws)
  connection_id

variable {s s' : RecvState} {e : RecvEvent}

/-- Without interruption, the steps of `fill_recv` are the one of the event loop. -/
theorem run_fill (data : Bytes) (hloop : s.loop = .idle) (hlock : s.recv_buffer_lock = none) :
    run recvStep s [.fills data, .loop, .loop, .loop, .loop] =
      some (s.modify (·.fill_recv data)) := by
  obtain ⟨relay, c, lock, timeout, recv, loop⟩ := s
  subst hloop hlock
  simp [run, recvStep, RecvState.startLoop, RecvState.resumeLoop, RecvState.modify,
    Function.comp_def]

/-- Without interruption, the steps of a drop are the one of the event loop. -/
theorem run_drop (hloop : s.loop = .idle)
    (hactive : s.connection_id ∈ s.relay.active_relayed_connections) :
    run recvStep s [.drops, .loop, .loop] =
      some { s with relay := s.relay._drop_relayed_connection s.connection_id } := by
  obtain ⟨relay, c, lock, timeout, recv, loop⟩ := s
  subst hloop
  have hclosed : RecvState.closed ⟨relay, c, lock, timeout, recv, .dropping⟩ = false := by
    simpa [RecvState.closed] using hactive
  simp only at hactive
  simp [run, recvStep, RecvState.startLoop, RecvState.resumeLoop, RecvState.modify, hclosed,
    hactive]

/-! ## The rules -/

/-- A step of the two threads. -/
inductive RecvRule (s : RecvState) : RecvEvent → RecvState → Prop
  | calls {size} (hover : s.recv.over = true) :
      RecvRule s (.calls size) (s.setRecv (.acquiring size))
  | settimeout {timeout} : RecvRule s (.settimeout timeout) { s with timeout }
  | acquires {size} (hpc : s.recv = .acquiring size) (hfree : s.recv_buffer_lock = none) :
      RecvRule s .reader ((s.setLock (some .reader)).setRecv (.measuring size))
  /-- Nothing is in the buffer. -/
  | findsNothing {size} (hpc : s.recv = .measuring size) (hempty : s.recv_buffer = []) :
      RecvRule s .reader (s.setRecv (.testing size))
  | findsData {size} (hpc : s.recv = .measuring size) (hdata : s.recv_buffer ≠ []) :
      RecvRule s .reader (s.setRecv (.releasing size))
  /-- The connection is closed. -/
  | findsClosed {size} (hpc : s.recv = .testing size) (hclosed : s.closed = true) :
      RecvRule s .reader (s.setRecv (.leaving .eofError))
  | findsOpen {size} (hpc : s.recv = .testing size) (hopen : s.closed = false) :
      RecvRule s .reader (s.setRecv (.clearing size))
  | clears {size} (hpc : s.recv = .clearing size) :
      RecvRule s .reader ((s.modify fun connection =>
        { connection with event := connection.event.clear }).setRecv (.releasing size))
  | releases {size} (hpc : s.recv = .releasing size) :
      RecvRule s .reader ((s.setLock none).setRecv (.calling size))
  | waits {size} (hpc : s.recv = .calling size) :
      RecvRule s .reader (s.setRecv (.waiting size s.timeout))
  /-- The event is set. -/
  | wakes {size timeout} (hpc : s.recv = .waiting size timeout) (hset : s.isSet = true) :
      RecvRule s .reader
        (s.setRecv (if size = 0 then .finished (.returned []) else .reacquiring size))
  | reacquires {size} (hpc : s.recv = .reacquiring size) (hfree : s.recv_buffer_lock = none) :
      RecvRule s .reader ((s.setLock (some .reader)).setRecv (.remeasuring size))
  /-- The reader was woken for nothing in the buffer. -/
  | wokenEmpty {size} (hpc : s.recv = .remeasuring size) (hempty : s.recv_buffer = []) :
      RecvRule s .reader (s.setRecv (.leaving .eofError))
  | wokenWithData {size} (hpc : s.recv = .remeasuring size) (hdata : s.recv_buffer ≠ []) :
      RecvRule s .reader (s.setRecv (.slicing size))
  | slices {size} (hpc : s.recv = .slicing size) :
      RecvRule s .reader (s.setRecv (.storing size
        (s.recv_buffer.take (RecvState.sliceEnd size s.recv_buffer))))
  | stores {size result} (hpc : s.recv = .storing size result) :
      RecvRule s .reader ((s.modify fun connection =>
        { connection with
          recv_buffer := connection.recv_buffer.drop
            (RecvState.sliceEnd size connection.recv_buffer) }).setRecv
              (.leaving (.returned result)))
  | leaves {result} (hpc : s.recv = .leaving result) :
      RecvRule s .reader ((s.setLock none).setRecv (.finished result))
  | timesOut {size timeout} (hpc : s.recv = .waiting size timeout) :
      RecvRule s .timesOut (s.setRecv (.finished .timeoutError))
  | fills {data} (hidle : s.loop = .idle) : RecvRule s (.fills data) (s.setLoop (.acquiring data))
  | drops (hidle : s.loop = .idle) : RecvRule s .drops (s.setLoop .dropping)
  | fillAcquires {data} (hpc : s.loop = .acquiring data) (hfree : s.recv_buffer_lock = none) :
      RecvRule s .loop ((s.setLock (some .loop)).setLoop (.extending data))
  | extends {data} (hpc : s.loop = .extending data) :
      RecvRule s .loop ((s.modify fun connection =>
        { connection with recv_buffer := connection.recv_buffer ++ data }).setLoop .setting)
  | sets (hpc : s.loop = .setting) :
      RecvRule s .loop ((s.modify fun connection =>
        { connection with event := connection.event.set }).setLoop .releasing)
  | fillReleases (hpc : s.loop = .releasing) : RecvRule s .loop ((s.setLock none).setLoop .idle)
  /-- The id is removed. -/
  | removes (hpc : s.loop = .dropping) :
      RecvRule s .loop { s with
        relay := { s.relay with
          active_relayed_connections :=
            s.relay.active_relayed_connections.filter (· ≠ s.connection_id) }
        loop := if s.closed then .idle else .waking }
  | wakesReaders (hpc : s.loop = .waking) :
      RecvRule s .loop ((s.modify TcpConnection.wake_readers).setLoop .idle)

/-- What a step of the `recv` does. -/
theorem resumeRecv_rule (h : s.resumeRecv = some s') : RecvRule s .reader s' := by
  unfold RecvState.resumeRecv at h
  split at h
  case h_1 | h_2 => cases h
  case h_3 size hpc =>
    split_ifs at h with hfree
    obtain rfl := Option.some.inj h
    exact .acquires hpc (by simpa using hfree)
  case h_4 size hpc =>
    obtain rfl := Option.some.inj h
    split_ifs with hlen
    · exact .findsNothing hpc (List.length_eq_zero_iff.mp hlen)
    · exact .findsData hpc fun hnil => hlen (by rw [hnil]; rfl)
  case h_5 size hpc =>
    obtain rfl := Option.some.inj h
    split_ifs with hclosed
    · exact .findsClosed hpc hclosed
    · exact .findsOpen hpc (by simpa using hclosed)
  case h_6 size hpc =>
    obtain rfl := Option.some.inj h
    exact .clears hpc
  case h_7 size hpc =>
    obtain rfl := Option.some.inj h
    exact .releases hpc
  case h_8 size hpc =>
    obtain rfl := Option.some.inj h
    exact .waits hpc
  case h_9 size timeout hpc =>
    split at h
    case isTrue hset =>
      obtain rfl := Option.some.inj h
      exact .wakes hpc hset
    case isFalse => cases h
  case h_10 size hpc =>
    split_ifs at h with hfree
    obtain rfl := Option.some.inj h
    exact .reacquires hpc (by simpa using hfree)
  case h_11 size hpc =>
    obtain rfl := Option.some.inj h
    split_ifs with hlen
    · exact .wokenEmpty hpc (List.length_eq_zero_iff.mp hlen)
    · exact .wokenWithData hpc fun hnil => hlen (by rw [hnil]; rfl)
  case h_12 size hpc =>
    obtain rfl := Option.some.inj h
    exact .slices hpc
  case h_13 size result hpc =>
    obtain rfl := Option.some.inj h
    exact .stores hpc
  case h_14 result hpc =>
    obtain rfl := Option.some.inj h
    exact .leaves hpc

/-- What a step of the event loop's thread does. -/
theorem resumeLoop_rule (h : s.resumeLoop = some s') : RecvRule s .loop s' := by
  unfold RecvState.resumeLoop at h
  split at h
  case h_1 => cases h
  case h_2 data hpc =>
    split_ifs at h with hfree
    obtain rfl := Option.some.inj h
    exact .fillAcquires hpc (by simpa using hfree)
  case h_3 data hpc =>
    obtain rfl := Option.some.inj h
    exact .extends hpc
  case h_4 hpc =>
    obtain rfl := Option.some.inj h
    exact .sets hpc
  case h_5 hpc =>
    obtain rfl := Option.some.inj h
    exact .fillReleases hpc
  case h_6 hpc =>
    obtain rfl := Option.some.inj h
    exact .removes hpc
  case h_7 hpc =>
    obtain rfl := Option.some.inj h
    exact .wakesReaders hpc

/-- Every step goes by one of the rules. -/
theorem recvStep_rule (h : recvStep s e = some s') : RecvRule s e s' := by
  cases e with
  | calls size =>
    simp only [recvStep, RecvState.startRecv] at h
    split_ifs at h with hover
    obtain rfl := Option.some.inj h
    exact .calls hover
  | settimeout timeout =>
    obtain rfl := Option.some.inj h
    exact .settimeout
  | reader => exact resumeRecv_rule h
  | timesOut =>
    simp only [recvStep, RecvState.timeOut] at h
    split at h
    case h_1 size timeout hpc =>
      obtain rfl := Option.some.inj h
      exact .timesOut hpc
    case h_2 => cases h
  | fills data =>
    simp only [recvStep, RecvState.startLoop] at h
    split_ifs at h with hidle
    obtain rfl := Option.some.inj h
    exact .fills hidle
  | drops =>
    simp only [recvStep, RecvState.startLoop] at h
    split_ifs at h with hidle
    obtain rfl := Option.some.inj h
    exact .drops hidle
  | loop => exact resumeLoop_rule h

/-! ## The condition -/

namespace RecvState

/-- The connection has been dropped and `wake_readers` has returned. -/
def Dropped (s : RecvState) : Prop :=
  s.closed = true ∧ s.loop ≠ .waking

/-- The reader is in `wait`, and the event is not set. -/
def Blocked (s : RecvState) : Prop :=
  s.recv.waits = true ∧ s.isSet = false

/-- No wakeup is lost: a dropped connection blocks no reader, and bytes in the buffer are signalled
as soon as the `fill_recv` that brought them has ended. -/
structure Wakes (s : RecvState) : Prop where
  dropped : s.Dropped → ¬ s.Blocked
  filled : s.recv_buffer ≠ [] → s.loop.filling = false → s.isSet = true

end RecvState

/-- `wake_readers` does not set the event while a reader is between its test of `closed` and its
clear of the event. -/
def WakesUncleared (s : RecvState) : RecvEvent → Bool
  | .loop => !(s.loop = .waking && s.recv.clears)
  | _ => true

/-! ## What the lock guards -/

namespace RecvState

/-- A change of the connection is one of its object. -/
@[simp] theorem modify_connection (f : TcpConnection → TcpConnection) :
    (s.modify f).connection = s.connection.map f := by
  simp [connection, modify]

/-- A change that leaves the buffer alone does so. -/
theorem modify_recv_buffer {f : TcpConnection → TcpConnection}
    (hf : ∀ x, (f x).recv_buffer = x.recv_buffer) : (s.modify f).recv_buffer = s.recv_buffer := by
  simp only [recv_buffer, modify_connection]
  cases s.connection with
  | none => rfl
  | some connection => exact hf connection

/-- A change that leaves the event alone does so. -/
theorem modify_isSet {f : TcpConnection → TcpConnection}
    (hf : ∀ x, (f x).event.flag = x.event.flag) : (s.modify f).isSet = s.isSet := by
  simp only [isSet, modify_connection]
  cases s.connection with
  | none => rfl
  | some connection => exact hf connection

/-- Setting the event sets it. -/
theorem modify_isSet_of_set {f : TcpConnection → TcpConnection} (hf : ∀ x, (f x).event.flag = true)
    (hmade : s.connection.isSome = true) : (s.modify f).isSet = true := by
  obtain ⟨connection, hconnection⟩ := Option.isSome_iff_exists.mp hmade
  simp [isSet, hconnection, hf]

/-- What the reader knows of the buffer while it holds the lock. -/
def Held (s : RecvState) : RecvPoint → Prop
  | .testing _ | .clearing _ | .leaving .eofError => s.recv_buffer = []
  | .storing size result => result = s.recv_buffer.take (sliceEnd size s.recv_buffer)
  | _ => True

/-- Each thread that is inside a `with` holds the lock, bytes in the buffer are signalled, but for
the step of `fill_recv` in between, and the buffer is as the reader has found it. -/
structure Guarded (s : RecvState) : Prop where
  made : s.connection.isSome = true
  reader : s.recv.holdsLock = true ↔ s.recv_buffer_lock = some .reader
  loop : s.loop.holdsLock = true ↔ s.recv_buffer_lock = some .loop
  filled : s.recv_buffer ≠ [] → s.isSet = true ∨ s.loop = .setting
  held : s.Held s.recv

/-- A point at which the lock is not held has nothing to do with the buffer. -/
theorem held_of_not_holdsLock {point : RecvPoint} (h : point.holdsLock = false) : s.Held point := by
  cases point with
  | testing | clearing | storing | leaving => cases h
  | _ => trivial

/-- What is held at a point depends on the buffer only. -/
theorem Held.congr {point : RecvPoint} (hH : s.Held point)
    (hbuffer : s'.recv_buffer = s.recv_buffer) : s'.Held point := by
  cases point with
  | testing | clearing => exact hbuffer.trans hH
  | storing size result =>
    show result = _
    rw [hbuffer]
    exact hH
  | leaving result =>
    cases result with
    | eofError => exact hbuffer.trans hH
    | _ => trivial
  | _ => trivial

namespace Guarded

/-- A connection that has just been opened is guarded. -/
theorem opened (relay : NetworkRelay) (t : Task) (request : ConnectionRequest) (ws : AgentSocket)
    (c : ConnectionId) : Guarded (openedRecv relay t request ws c) where
  made := by simp [openedRecv, connection]
  reader := by simp [openedRecv, RecvPoint.holdsLock]
  loop := by simp [openedRecv, LoopPoint.holdsLock]
  filled := by simp [openedRecv, recv_buffer, connection, newConnection]
  held := trivial

/-- A step of the reader that leaves the connection alone. -/
theorem reader_moves (hG : Guarded s) {point : RecvPoint} {lock : Option RecvThread}
    (hreader : point.holdsLock = true ↔ lock = some .reader)
    (hloop : lock = some .loop ↔ s.recv_buffer_lock = some .loop) (hheld : s.Held point) :
    Guarded ((s.setLock lock).setRecv point) where
  made := hG.made
  reader := hreader
  loop := hG.loop.trans hloop.symm
  filled := hG.filled
  held := hheld

/-- The reader goes on with the lock as it is. -/
theorem reader_stays (hG : Guarded s) {point : RecvPoint}
    (hholds : point.holdsLock = s.recv.holdsLock) (hheld : s.Held point) :
    Guarded (s.setRecv point) :=
  hG.reader_moves ((iff_of_eq (congrArg (· = true) hholds)).trans hG.reader) Iff.rfl hheld

/-- The reader holds the lock, so no `fill_recv` is between its extend and its set. -/
theorem isSet_of_holdsLock (hG : Guarded s) (hheld : s.recv.holdsLock = true)
    (hbuffer : s.recv_buffer ≠ []) : s.isSet = true := by
  rcases hG.filled hbuffer with hset | hsetting
  · exact hset
  · have hlock : s.recv_buffer_lock = some .loop := hG.loop.mp (by rw [hsetting]; rfl)
    rw [hG.reader.mp hheld] at hlock
    cases hlock

/-- A step of the event loop that leaves the connection alone. -/
theorem loop_moves (hG : Guarded s) {point : LoopPoint} {lock : Option RecvThread}
    (hloop : point.holdsLock = true ↔ lock = some .loop)
    (hreader : lock = some .reader ↔ s.recv_buffer_lock = some .reader)
    (hsetting : s.loop ≠ .setting) : Guarded ((s.setLock lock).setLoop point) where
  made := hG.made
  reader := hG.reader.trans hreader.symm
  loop := hloop
  filled hbuffer := .inl ((hG.filled hbuffer).resolve_right hsetting)
  held := hG.held

/-- A call on the event loop begins. -/
theorem starts (hG : Guarded s) {point : LoopPoint} (hidle : s.loop = .idle)
    (hholds : point.holdsLock = false) : Guarded (s.setLoop point) := by
  have hlock : s.recv_buffer_lock ≠ some .loop := by
    rw [Ne, ← hG.loop, hidle]
    simp [LoopPoint.holdsLock]
  exact hG.loop_moves (by simp [hholds, hlock]) Iff.rfl (by simp [hidle])

/-- The event is set. -/
theorem sets (hG : Guarded s) {f : TcpConnection → TcpConnection} {point : LoopPoint}
    (hholds : point.holdsLock = s.loop.holdsLock) (hset : ∀ x, (f x).event.flag = true)
    (hkept : ∀ x, (f x).recv_buffer = x.recv_buffer) : Guarded ((s.modify f).setLoop point) where
  made := by simpa [connection, modify] using hG.made
  reader := hG.reader
  loop := (iff_of_eq (congrArg (· = true) hholds)).trans hG.loop
  filled _ := .inl (modify_isSet_of_set hset hG.made)
  held := hG.held.congr (modify_recv_buffer hkept)

/-- A step of the reader. -/
theorem reader_step (hG : Guarded s) (h : RecvRule s .reader s') : Guarded s' := by
  have hholds : ∀ {point : RecvPoint}, s.recv = point → point.holdsLock = true →
      s.recv_buffer_lock = some .reader := by
    intro point hpc hholds
    rw [← hpc] at hholds
    exact hG.reader.mp hholds
  have hH := hG.held
  cases h with
  | acquires _ hfree | reacquires _ hfree =>
    exact hG.reader_moves (by simp [RecvPoint.holdsLock]) (by simp [hfree]) trivial
  | findsNothing hpc hempty => exact hG.reader_stays (by rw [hpc]; rfl) hempty
  | findsData hpc => exact hG.reader_stays (by rw [hpc]; rfl) trivial
  | findsClosed hpc | findsOpen hpc =>
    rw [hpc] at hH
    exact hG.reader_stays (by rw [hpc]; rfl) hH
  | clears hpc =>
    rw [hpc] at hH
    have hempty : (s.modify fun connection =>
        { connection with event := connection.event.clear }).recv_buffer = [] :=
      (modify_recv_buffer (by intro; rfl)).trans hH
    exact {
      made := by simpa [connection, modify] using hG.made
      reader := ⟨fun _ => hholds hpc rfl, fun _ => rfl⟩
      loop := hG.loop
      filled := fun hne => absurd hempty hne
      held := trivial }
  | releases hpc | leaves hpc =>
    exact hG.reader_moves (by simp [RecvPoint.holdsLock]) (by simp [hholds hpc rfl]) trivial
  | waits hpc => exact hG.reader_stays (by rw [hpc]; rfl) trivial
  | wakes hpc =>
    refine hG.reader_stays ?_ ?_
    · rw [hpc]
      split_ifs <;> rfl
    · split_ifs <;> trivial
  | wokenEmpty hpc hempty => exact hG.reader_stays (by rw [hpc]; rfl) hempty
  | wokenWithData hpc => exact hG.reader_stays (by rw [hpc]; rfl) trivial
  | slices hpc => exact hG.reader_stays (by rw [hpc]; rfl) rfl
  | stores hpc =>
    exact {
      made := by simpa [connection, modify] using hG.made
      reader := ⟨fun _ => hholds hpc rfl, fun _ => rfl⟩
      loop := hG.loop
      filled := fun hne => by
        -- What is left was in the buffer before, with the event set.
        refine .inl ((modify_isSet (by intro; rfl)).trans (hG.isSet_of_holdsLock ?_ fun hnil => ?_))
        · rw [hpc]
          rfl
        · apply hne
          show RecvState.recv_buffer (s.modify _) = []
          revert hnil
          simp only [recv_buffer, modify_connection]
          cases s.connection <;> simp +contextual
      held := trivial }

/-- A step of the event loop. -/
theorem loop_step (hG : Guarded s) (h : RecvRule s .loop s') : Guarded s' := by
  have hholds : ∀ {point : LoopPoint}, s.loop = point → point.holdsLock = true →
      s.recv_buffer_lock = some .loop := by
    intro point hpc hholds
    rw [← hpc] at hholds
    exact hG.loop.mp hholds
  cases h with
  | fillAcquires hpc hfree =>
    exact hG.loop_moves (by simp [LoopPoint.holdsLock]) (by simp [hfree]) (by simp [hpc])
  | «extends» hpc =>
    have hreader : s.recv.holdsLock = false := by
      rw [Bool.eq_false_iff, Ne, hG.reader, hholds hpc rfl]
      simp
    exact {
      made := by simpa [connection, modify] using hG.made
      reader := hG.reader
      loop := ⟨fun _ => hholds hpc rfl, fun _ => rfl⟩
      filled := fun _ => .inr rfl
      held := held_of_not_holdsLock hreader }
  | sets hpc => exact hG.sets (by rw [hpc]; rfl) (fun _ => rfl) fun _ => rfl
  | fillReleases hpc =>
    exact hG.loop_moves (by simp [LoopPoint.holdsLock]) (by simp [hholds hpc rfl]) (by simp [hpc])
  | removes hpc =>
    have hlock : s.recv_buffer_lock ≠ some .loop := by
      rw [Ne, ← hG.loop, hpc]
      simp [LoopPoint.holdsLock]
    exact {
      made := hG.made
      reader := hG.reader
      loop := by
        show LoopPoint.holdsLock (if s.closed then _ else _) = true ↔ s.recv_buffer_lock = _
        split_ifs <;> simp [LoopPoint.holdsLock, hlock]
      filled := fun hne => .inl ((hG.filled hne).resolve_right (by simp [hpc]))
      held := hG.held }
  | wakesReaders hpc => exact hG.sets (by rw [hpc]; rfl) (fun _ => rfl) fun _ => rfl

/-- A step keeps the buffer guarded. -/
theorem preserved (hG : Guarded s) (h : RecvRule s e s') : Guarded s' := by
  cases e with
  | calls size =>
    obtain ⟨hover⟩ := h
    exact hG.reader_stays (RecvPoint.holdsLock_of_over hover).symm trivial
  | settimeout timeout =>
    cases h
    exact { hG with }
  | reader => exact hG.reader_step h
  | timesOut =>
    cases h with
    | timesOut hpc => exact hG.reader_stays (by rw [hpc]; rfl) trivial
  | fills data =>
    cases h with
    | fills hidle => exact hG.starts hidle rfl
  | drops =>
    cases h with
    | drops hidle => exact hG.starts hidle rfl
  | loop => exact hG.loop_step h

end Guarded

end RecvState

/-! ## The signal of a drop -/

namespace RecvState

/-- What holds of the reader of a connection that has been dropped: it is not about to clear the
event, and it never waits for an event that is not set. -/
structure Signalled (s : RecvState) : Prop extends Guarded s where
  cleared : s.Dropped → s.recv.clears = false
  awaited : s.Dropped → s.recv.awaits = true → s.isSet = true

namespace Signalled

/-- A connection that has just been made is active. -/
theorem opened (relay : NetworkRelay) (t : Task) (request : ConnectionRequest) (ws : AgentSocket)
    (c : ConnectionId) : Signalled (openedRecv relay t request ws c) where
  toGuarded := .opened relay t request ws c
  cleared _ := rfl
  awaited _ hawaits := by cases hawaits

/-- No wakeup is lost where the invariant holds. -/
theorem wakes (hS : Signalled s) : s.Wakes where
  dropped hdropped hblocked := by
    obtain ⟨hwaits, hunset⟩ := hblocked
    have hawaits : s.recv.awaits = true := RecvPoint.awaits_of_waits hwaits
    rw [hS.awaited hdropped hawaits] at hunset
    cases hunset
  filled hbuffer hfilling := by
    rcases hS.filled hbuffer with hset | hsetting
    · exact hset
    · rw [hsetting] at hfilling
      cases hfilling

/-- A step of the reader. Only `findsOpen` and `clears` bring it to the clear or past it, and the
connection of neither has been dropped. -/
theorem reader_step (hS : Signalled s) (h : RecvRule s .reader s') : Signalled s' := by
  have hG : Guarded s' := hS.toGuarded.preserved h
  cases h with
  | findsData hpc hdata =>
    have hset : s.isSet = true := hS.isSet_of_holdsLock (by rw [hpc]; rfl) hdata
    exact ⟨hG, fun _ => rfl, fun _ _ => hset⟩
  | findsOpen hpc hopen =>
    have hdropped : ¬ s.Dropped := by
      intro hdropped
      rw [hdropped.1] at hopen
      cases hopen
    exact ⟨hG, fun hd => absurd hd hdropped, fun _ hawaits => by cases hawaits⟩
  | clears hpc =>
    have hdropped : ¬ s.Dropped := by
      intro hdropped
      have hcleared := hS.cleared hdropped
      rw [hpc] at hcleared
      cases hcleared
    exact ⟨hG, fun _ => rfl, fun hd => absurd hd hdropped⟩
  | releases hpc | waits hpc =>
    exact ⟨hG, fun _ => rfl, fun hd _ => hS.awaited hd (by rw [hpc]; rfl)⟩
  | @wakes size timeout hpc =>
    have hpoint : ∀ point : RecvPoint,
        point = (if size = 0 then .finished (.returned []) else .reacquiring size) →
          point.clears = false ∧ point.awaits = false := by
      intro point hpoint
      split_ifs at hpoint <;> subst hpoint <;> exact ⟨rfl, rfl⟩
    obtain ⟨hclears, hawaits⟩ := hpoint _ rfl
    exact ⟨hG, fun _ => hclears, fun _ ha => absurd (hawaits.symm.trans ha) (by simp)⟩
  | acquires | findsNothing | findsClosed | reacquires | wokenEmpty | wokenWithData | slices
  | stores | leaves => exact ⟨hG, fun _ => rfl, fun _ hawaits => by cases hawaits⟩

/-- A step of the event loop. It ends a drop in `wakesReaders`, which sets the event; by the
condition no reader is then about to clear it. -/
theorem loop_step (hS : Signalled s) (hok : WakesUncleared s .loop = true)
    (h : RecvRule s .loop s') : Signalled s' := by
  have hG : Guarded s' := hS.toGuarded.preserved h
  cases h with
  | fillAcquires hpc | fillReleases hpc =>
    have hdropped : s.closed = true → s.Dropped := fun hclosed => ⟨hclosed, by simp [hpc]⟩
    exact ⟨hG, fun hd => hS.cleared (hdropped hd.1), fun hd => hS.awaited (hdropped hd.1)⟩
  | «extends» hpc =>
    have hdropped : s.closed = true → s.Dropped := fun hclosed => ⟨hclosed, by simp [hpc]⟩
    exact ⟨hG, fun hd => hS.cleared (hdropped hd.1), fun hd hawaits =>
      (modify_isSet (by intro; rfl)).trans (hS.awaited (hdropped hd.1) hawaits)⟩
  | sets hpc =>
    have hdropped : s.closed = true → s.Dropped := fun hclosed => ⟨hclosed, by simp [hpc]⟩
    exact ⟨hG, fun hd => hS.cleared (hdropped hd.1), fun _ _ =>
      modify_isSet_of_set (fun _ => rfl) hS.made⟩
  | removes hpc =>
    -- From here to the set of the event the drop is in progress.
    have hwas : (if s.closed then LoopPoint.idle else .waking) ≠ .waking → s.Dropped := by
      intro hne
      refine ⟨?_, by simp [hpc]⟩
      by_contra hopen
      simp [hopen] at hne
    exact ⟨hG, fun hd => hS.cleared (hwas hd.2), fun hd => hS.awaited (hwas hd.2)⟩
  | wakesReaders hpc =>
    have hclears : s.recv.clears = false := by simpa [WakesUncleared, hpc] using hok
    exact ⟨hG, fun _ => hclears, fun _ _ => modify_isSet_of_set (fun _ => rfl) hS.made⟩

/-- Every step whose event meets the condition preserves the invariant. -/
theorem preserved (hS : Signalled s) (hok : WakesUncleared s e = true) (h : RecvRule s e s') :
    Signalled s' := by
  cases e with
  | calls | timesOut =>
    have hG : Guarded s' := hS.toGuarded.preserved h
    cases h
    exact ⟨hG, fun _ => rfl, fun _ hawaits => by cases hawaits⟩
  | settimeout =>
    cases h
    exact { hS with }
  | reader => exact hS.reader_step h
  | fills | drops =>
    -- The event loop was idle, and is not in `wake_readers`.
    have hG : Guarded s' := hS.toGuarded.preserved h
    cases h
    rename_i hidle
    have hdropped : s.closed = true → s.Dropped := fun hclosed => ⟨hclosed, by simp [hidle]⟩
    exact ⟨hG, fun hd => hS.cleared (hdropped hd.1), fun hd => hS.awaited (hdropped hd.1)⟩
  | loop => exact hS.loop_step hok h

end Signalled

end RecvState

/-! ## Every run -/

/-- In every run in which no `wake_readers` sets the event between a reader's test of `closed` and
its clear of the event, no wakeup is lost. -/
theorem recv_wakes {relay : NetworkRelay} {t : Task} {request : ConnectionRequest}
    {ws : AgentSocket} {c : ConnectionId}
    (h : Reaches recvStep (WakesUncleared · ·) (openedRecv relay t request ws c) s) : s.Wakes := by
  have hS : s.Signalled :=
    h.invariant (.opened relay t request ws c) fun s e s' _ hok hstep hS =>
      hS.preserved hok (recvStep_rule hstep)
  exact hS.wakes

/-- A connection through an agent at websocket 0. -/
def someRecv : RecvState :=
  openedRecv {} (.call 0) {
      agent_connection_id := "agent"
      target_ip := "10.0.0.1"
      target_port := 22
      protocol := "tcp"
      connection_class := .tcpConnection } ⟨0⟩ someConnection

/-- The reader waits when the connection is dropped. -/
def wokenRecv : RecvState :=
  (runWith recvStep (WakesUncleared · ·) someRecv
    [.calls 1, .reader, .reader, .reader, .reader, .reader, .reader, .drops, .loop, .loop, .reader,
      .reader, .reader, .reader]).get (by decide +kernel)

/-- The drop wakes the `recv`, which raises `EOFError`. -/
theorem wokenRecv_wakes :
    (wokenRecv.recv = .finished .eofError ∧ wokenRecv.closed = true) ∧ wokenRecv.Wakes :=
  ⟨by decide +kernel, recv_wakes (Reaches.init.of_runWith (Option.some_get _).symm)⟩

/-- The connection is dropped between the reader's test of `closed` and its clear of the event. -/
def missedDrop : List RecvEvent :=
  [.calls 1, .reader, .reader, .reader, .drops, .loop, .loop, .reader, .reader, .reader]

/-- The reader clears the event that the drop has set, and waits for good. -/
theorem missedDrop_blocks :
    ¬ ∀ relay t request ws c s,
      Reaches recvStep (fun _ _ => True) (openedRecv relay t request ws c) s → s.Wakes := by
  intro h
  obtain ⟨s, hs⟩ : ∃ s, run recvStep someRecv missedDrop = some s :=
    Option.isSome_iff_exists.mp (by decide +kernel)
  have hwakes := h _ _ _ _ _ s (Reaches.init.of_run (fun _ _ _ => trivial) hs)
  have hstate : ((run recvStep someRecv missedDrop).map fun s =>
      (s.closed, s.loop, s.recv.waits, s.isSet)) = some (true, .idle, true, false) := by
    decide +kernel
  rw [hs] at hstate
  simp only [Option.map_some, Option.some.injEq, Prod.mk.injEq] at hstate
  obtain ⟨hclosed, hloop, hwaits, hunset⟩ := hstate
  exact hwakes.dropped ⟨hclosed, by simp [hloop]⟩ ⟨hwaits, hunset⟩

end HttpNetworkRelay
