import HttpNetworkRelay.Asyncio.Ready
import HttpNetworkRelay.Relay.Tasks

/-!
# The send buffers and the threads that fill them

`TcpConnection.send` is called from worker threads. It appends to the connection's send buffer under
`send_buffer_lock`, a lock of the `threading` module, and schedules `send_async` on the event loop,
which takes the buffer under the same lock and sends it to the agent, with the lock held. The steps
of the threads interleave freely. The thread of the event loop takes the handles of its queue in
their order and runs each of them to its next suspension; an acquire of `send_buffer_lock` does not
suspend but blocks the thread.

The agent's send lock and the send on its websocket are awaits that may suspend or not; `Await` is
how they go. What the loop's thread runs between the handles of `send_async` takes no
`send_buffer_lock` and appears only by what `send` can see of it: connections are dropped.
-/

namespace HttpNetworkRelay

open Asyncio Python

/-! ## Program points -/

/-- Who has acquired a `send_buffer_lock`. -/
inductive LockHolder
  | thread (w : ℕ)
  | coroutine (k : ℕ)
  deriving DecidableEq, Repr

/-- Where a worker thread is in `TcpConnection.send`. -/
inductive SendPoint
  /-- At the acquire of `send_buffer_lock`. -/
  | acquiring
  /-- At `self.send_buffer.extend(content)`, holding the lock. -/
  | extending
  /-- At `run_coroutine_threadsafe`. -/
  | scheduling
  /-- At the test of `self.closed`. -/
  | checking
  /-- Returned the length of the content, or raised `EOFError`. -/
  | finished (result : Option ℕ)
  deriving DecidableEq, Repr

/-- The call is over. -/
def SendPoint.over : SendPoint → Bool
  | .finished _ => true
  | _ => false

/-- A `TcpConnection.send` with its argument. -/
structure SendCall where
  connection_id : ConnectionId
  content : Bytes
  point : SendPoint := .acquiring
  deriving DecidableEq, Repr

/-- Where a `send_async` is. -/
inductive SendAsyncPoint
  /-- Not yet run. -/
  | scheduled
  /-- At the acquire of `send_buffer_lock`, in the thread of the event loop. -/
  | blocked
  /-- Suspended at the agent's send lock. -/
  | acquiring (message : Except Exc ToAgent)
  /-- Suspended in the send on the agent's websocket. -/
  | sending
  | finished (result : Except Exc Unit)

/-- The points at which a `send_async` is suspended in an await. -/
def SendAsyncPoint.suspended : SendAsyncPoint → Bool
  | .acquiring _ | .sending => true
  | _ => false

/-- A `send_async` of a connection. -/
structure SendAsync where
  connection_id : ConnectionId
  point : SendAsyncPoint := .scheduled

/-- The handles in the queue of the event loop. -/
inductive Handle
  /-- The callback of `run_coroutine_threadsafe`, which makes a task of the coroutine. -/
  | create (k : ℕ)
  /-- The first step of the task. -/
  | start (k : ℕ)
  /-- A further step: what the task awaits has completed. -/
  | resume (k : ℕ)
  deriving DecidableEq, Repr

/-- How the awaits of a `send_async` go until it suspends or ends. -/
inductive Await
  /-- The agent's send lock is taken. -/
  | lockSuspends
  /-- The send on the websocket suspends. -/
  | sendSuspends
  /-- Nothing more suspends. -/
  | completes
  /-- The send on the websocket raises. -/
  | raises (error : WsError)
  deriving DecidableEq, Repr

/-- Whether the `send_async` suspends. -/
def Await.suspends : Await → Bool
  | .lockSuspends | .sendSuspends => true
  | _ => false

/-! ## The state -/

/-- The send buffers of a relay's connections with the threads: the call that each worker thread is
in, the coroutines, the queue of the event loop, and the coroutine in which its thread is blocked.
-/
structure SendState where
  relay : NetworkRelay
  send_buffer_lock : ConnectionId → Option LockHolder := fun _ => none
  call : ℕ → Option SendCall := fun _ => none
  coroutine : ℕ → Option SendAsync := fun _ => none
  coroutines_created : ℕ := 0
  ready : List Handle := []
  blocked : Option ℕ := none

namespace SendState

variable (s : SendState)

/-- The `send_buffer_lock` of a connection is acquired or released. -/
@[simp] def setLock (connection_id : ConnectionId) (holder : Option LockHolder) : SendState :=
  { s with send_buffer_lock := Function.update s.send_buffer_lock connection_id holder }

/-- A worker thread comes to a point of its `send`. -/
@[simp] def setCall (w : ℕ) (call : SendCall) : SendState :=
  { s with call := Function.update s.call w (some call) }

/-- A `send_async` comes to a point. -/
@[simp] def setCoroutine (k : ℕ) (coroutine : SendAsync) : SendState :=
  { s with coroutine := Function.update s.coroutine k (some coroutine) }

/-- The queue of the event loop is changed. -/
@[simp] def setReady (ready : List Handle) : SendState :=
  { s with ready }

/-- The relay is changed. -/
@[simp] def withRelay (relay : NetworkRelay) : SendState :=
  { s with relay }

/-- Whether an acquire of the `send_buffer_lock` does not block. -/
def free (connection_id : ConnectionId) : Bool :=
  (s.send_buffer_lock connection_id).isNone

/-! ## Worker threads -/

/-- `send(content)` is called in a worker thread. -/
def startCall (w : ℕ) (connection_id : ConnectionId) (content : Bytes) : Option SendState :=
  if (s.call w).all (·.point.over) &&
      (s.relay.connection connection_id).any (·.cls = .tcpConnection) then
    some (s.setCall w { connection_id, content })
  else none

/-- `asyncio.run_coroutine_threadsafe(self.send_async(), self.loop)`. -/
@[simp] def scheduleSend (connection_id : ConnectionId) : SendState :=
  { s.setCoroutine s.coroutines_created { connection_id } with
    coroutines_created := s.coroutines_created + 1
    ready := s.ready ++ [.create s.coroutines_created] }

/-- A worker thread takes the next step of its `send`. -/
def resumeCall (w : ℕ) (call : SendCall) : Option SendState :=
  match call.point with
  | .acquiring =>
    if s.free call.connection_id then
      some ((s.setLock call.connection_id (some (.thread w))).setCall w
        { call with point := .extending })
    else none
  | .extending =>
    let relay := s.relay.modifyConnection call.connection_id fun connection =>
      { connection with send_buffer := connection.send_buffer ++ call.content }
    some (((s.withRelay relay).setLock call.connection_id none).setCall w
      { call with point := .scheduling })
  | .scheduling =>
    some ((s.scheduleSend call.connection_id).setCall w { call with point := .checking })
  | .checking =>
    let closed := call.connection_id ∉ s.relay.active_relayed_connections
    some (s.setCall w { call with
      point := .finished (if closed then none else some call.content.length) })
  | .finished _ => none

/-! ## The event loop -/

/-- The `send_async` ends, releasing the lock. -/
@[simp] def finishSend (k : ℕ) (connection_id : ConnectionId) (result : Except Exc Unit) :
    SendState :=
  (s.setCoroutine k ⟨connection_id, .finished result⟩).setLock connection_id none

/-- From the acquire of the agent's send lock on. -/
def lockPassed (k : ℕ) (connection_id : ConnectionId) (ws : AgentSocket)
    (message : Except Exc ToAgent) (a : Await) : Option SendState :=
  match message, a with
  | .error e, .completes => some (s.finishSend k connection_id (.error e))
  | .ok m, .sendSuspends =>
    some ((s.withRelay (s.relay.sendToAgent ws m)).setCoroutine k ⟨connection_id, .sending⟩)
  | .ok m, .completes =>
    some ((s.withRelay (s.relay.sendToAgent ws m)).finishSend k connection_id (.ok ()))
  | .ok m, .raises e =>
    some ((s.withRelay (s.relay.sendToAgent ws m)).finishSend k connection_id (.error (.ws e)))
  | _, _ => none

/-- `send_async`, from the acquired `send_buffer_lock` on: the buffer is taken and its content
sent. -/
def takeBuffer (k : ℕ) (connection_id : ConnectionId) (a : Await) : Option SendState :=
  (s.relay.connection connection_id).bind fun connection =>
    let s := (s.withRelay (s.relay.modifyConnection connection_id
      ({ · with send_buffer := [] }))).setLock connection_id (some (.coroutine k))
    let message := connection.dataMessage connection_id connection.send_buffer
    match a with
    | .lockSuspends => some (s.setCoroutine k ⟨connection_id, .acquiring message⟩)
    | _ => s.lockPassed k connection_id connection.agent_connection message a

/-- The first step of a `send_async`. -/
def start (k : ℕ) (a : Await) : Option SendState :=
  match s.coroutine k with
  | some ⟨connection_id, .scheduled⟩ =>
    if s.free connection_id then s.takeBuffer k connection_id a
    else some { s.setCoroutine k ⟨connection_id, .blocked⟩ with blocked := some k }
  | _ => none

/-- The thread of the event loop is woken in its acquire. -/
def unblock (k : ℕ) (a : Await) : Option SendState :=
  match s.coroutine k with
  | some ⟨connection_id, .blocked⟩ =>
    if s.free connection_id then { s with blocked := none }.takeBuffer k connection_id a else none
  | _ => none

/-- A further step of a `send_async`. -/
def resume (k : ℕ) (a : Await) : Option SendState :=
  (s.coroutine k).bind fun task =>
    (s.relay.connection task.connection_id).bind fun connection =>
      match task.point, a with
      | .acquiring message, a =>
        s.lockPassed k task.connection_id connection.agent_connection message a
      | .sending, .sendSuspends => some s
      | .sending, .completes => some (s.finishSend k task.connection_id (.ok ()))
      | .sending, .raises e => some (s.finishSend k task.connection_id (.error (.ws e)))
      | _, _ => none

/-- The thread of the event loop takes its next step. -/
def loop (a : Await) : Option SendState :=
  match s.blocked, s.ready with
  | some k, _ => s.unblock k a
  | none, [] => none
  | none, .create k :: rest => some (s.setReady (rest ++ [.start k]))
  | none, .start k :: rest => (s.setReady rest).start k a
  | none, .resume k :: rest => (s.setReady rest).resume k a

/-- The `send_async` is suspended in an await. -/
def suspended (k : ℕ) : Bool :=
  (s.coroutine k).any (·.point.suspended)

end SendState

/-! ## Steps -/

/-- What can happen next. -/
inductive SendEvent
  /-- A worker thread calls `send(content)`. -/
  | calls (w : ℕ) (connection_id : ConnectionId) (content : Bytes)
  /-- A worker thread takes its next step. -/
  | thread (w : ℕ)
  /-- The thread of the event loop takes its next step. -/
  | loop (a : Await)
  /-- What a suspended `send_async` awaits completes. -/
  | wakes (k : ℕ)
  /-- The thread of the event loop drops a connection. -/
  | drops (connection_id : ConnectionId)

/-- One step of the threads. -/
def sendStep (s : SendState) : SendEvent → Option SendState
  | .calls w connection_id content => s.startCall w connection_id content
  | .thread w => (s.call w).bind (s.resumeCall w)
  | .loop a => s.loop a
  | .wakes k =>
    if s.suspended k && .resume k ∉ s.ready then some (s.setReady (s.ready ++ [.resume k]))
    else none
  | .drops connection_id =>
    if s.blocked.isNone then some (s.withRelay (s.relay._drop_relayed_connection connection_id))
    else none

/-! ## The condition -/

namespace SendState

/-- The connection of a `send_async`. -/
def connectionOf (s : SendState) (k : ℕ) : Option ConnectionId :=
  (s.coroutine k).map (·.connection_id)

/-- A task for another `send_async` of the same connection has been made and is yet to start. -/
def waits (s : SendState) (k : ℕ) (ready : List Handle) : Bool :=
  ready.any fun
    | .start k' => s.connectionOf k' = s.connectionOf k
    | _ => false

/-- Each `send_async` of the same connection that is suspended has been woken. -/
def allWoken (s : SendState) (k : ℕ) (ready : List Handle) : Bool :=
  (List.range s.coroutines_created).all fun k' =>
    s.connectionOf k' ≠ s.connectionOf k || !s.suspended k' || .resume k' ∈ ready

/-- The thread of the event loop waits for a lock that a coroutine suspended on it holds. -/
def Deadlocked (s : SendState) : Prop :=
  ∃ k k' connection_id, s.blocked = some k ∧ s.connectionOf k = some connection_id ∧
    s.send_buffer_lock connection_id = some (.coroutine k') ∧ s.suspended k' = true

end SendState

/-- When a `send_async` suspends, no task is there for another one of its connection; and when a
task is made for one, all suspended ones of its connection have been woken. -/
def SendsApart (s : SendState) : SendEvent → Bool
  | .loop a =>
    match s.blocked, s.ready with
    | some k, ready => !(a.suspends && s.waits k ready)
    | none, .create k :: rest => s.allWoken k rest
    | none, .start k :: rest | none, .resume k :: rest => !(a.suspends && s.waits k rest)
    | none, [] => true
  | _ => true

/-! ## What the steps do -/

variable {s s' : SendState} {k : ℕ} {c : ConnectionId} {a : Await}

/-- What a stretch of the `send_async` `k` of the connection `c` does, up to its next suspension or
its end. -/
structure Ran (s : SendState) (k : ℕ) (c : ConnectionId) (a : Await) (s' : SendState) : Prop where
  created : s'.coroutines_created = s.coroutines_created
  call : s'.call = s.call
  ready : s'.ready = s.ready
  blocked : s'.blocked = none
  before : s.connectionOf k = some c
  after : s'.connectionOf k = some c
  others : ∀ k', k' ≠ k → s'.coroutine k' = s.coroutine k'
  locks : ∀ c', c' ≠ c → s'.send_buffer_lock c' = s.send_buffer_lock c'
  own : (s'.suspended k = true ∧ a.suspends = true ∧
      s'.send_buffer_lock c = some (.coroutine k)) ∨
    (s'.suspended k = false ∧ s'.send_buffer_lock c = none)

namespace SendState

/-- A `send_async` that is suspended has a connection. -/
theorem connectionOf_of_suspended (h : s.suspended k = true) : ∃ c, s.connectionOf k = some c := by
  cases htask : s.coroutine k with
  | none => simp [suspended, htask] at h
  | some task => exact ⟨task.connection_id, by simp [connectionOf, htask]⟩

/-- A `send_async` that suspends, holding the lock. -/
theorem ran_suspends (hk : s.connectionOf k = some c)
    (hheld : s.send_buffer_lock c = some (.coroutine k)) (hblocked : s.blocked = none)
    (relay : NetworkRelay) {point : SendAsyncPoint} (hpoint : point.suspended = true)
    (ha : a.suspends = true) :
    Ran s k c a ((s.withRelay relay).setCoroutine k ⟨c, point⟩) where
  created := rfl
  call := rfl
  ready := rfl
  blocked := hblocked
  before := hk
  after := by simp [connectionOf]
  others k' hk' := by simp [hk']
  locks _ _ := rfl
  own := .inl ⟨by simp [suspended, hpoint], ha, hheld⟩

/-- A `send_async` that ends, releasing the lock. -/
theorem ran_finishes (hk : s.connectionOf k = some c) (hblocked : s.blocked = none)
    (relay : NetworkRelay) (result : Except Exc Unit) :
    Ran s k c a ((s.withRelay relay).finishSend k c result) where
  created := rfl
  call := rfl
  ready := rfl
  blocked := hblocked
  before := hk
  after := by simp [connectionOf]
  others k' hk' := by simp [hk']
  locks c' hc' := by simp [hc']
  own := .inr ⟨by simp [suspended, SendAsyncPoint.suspended], by simp⟩

/-- What a `send_async` does from the agent's send lock on. -/
theorem lockPassed_ran {ws : AgentSocket} {message : Except Exc ToAgent}
    (hk : s.connectionOf k = some c) (hheld : s.send_buffer_lock c = some (.coroutine k))
    (hblocked : s.blocked = none) (h : s.lockPassed k c ws message a = some s') :
    Ran s k c a s' := by
  unfold lockPassed at h
  split at h
  · obtain rfl := Option.some.inj h
    exact ran_finishes hk hblocked s.relay _
  · obtain rfl := Option.some.inj h
    exact ran_suspends hk hheld hblocked _ rfl rfl
  · obtain rfl := Option.some.inj h
    exact ran_finishes hk hblocked _ _
  · obtain rfl := Option.some.inj h
    exact ran_finishes hk hblocked _ _
  · cases h

/-- What a `send_async` does from the acquired `send_buffer_lock` on. -/
theorem takeBuffer_ran (hk : s.connectionOf k = some c) (hblocked : s.blocked = none)
    (h : s.takeBuffer k c a = some s') : Ran s k c a s' := by
  unfold takeBuffer at h
  obtain ⟨connection, -, h⟩ := Option.bind_eq_some_iff.mp h
  -- The stretch starts with the acquired lock.
  obtain ⟨s₁, hs₁⟩ : ∃ s₁, s₁ = (s.withRelay (s.relay.modifyConnection c
      ({ · with send_buffer := [] }))).setLock c (some (.coroutine k)) := ⟨_, rfl⟩
  have hk₁ : s₁.connectionOf k = some c := by rw [hs₁]; exact hk
  have hheld : s₁.send_buffer_lock c = some (.coroutine k) := by rw [hs₁]; simp
  have hblocked₁ : s₁.blocked = none := by rw [hs₁]; exact hblocked
  have hran : Ran s₁ k c a s' := by
    simp only [← hs₁] at h
    split at h
    · obtain rfl := Option.some.inj h
      exact ran_suspends hk₁ hheld hblocked₁ s₁.relay rfl rfl
    · exact lockPassed_ran hk₁ hheld hblocked₁ h
  subst hs₁
  exact { hran with
    before := hk
    locks := fun c' hc' => by
      rw [hran.locks c' hc']
      simp [hc'] }

/-- A resumed `send_async` was suspended, with the lock. -/
theorem resume_ran (hheld : ∀ c, s.connectionOf k = some c → s.suspended k = true →
      s.send_buffer_lock c = some (.coroutine k))
    (hblocked : s.blocked = none) (h : s.resume k a = some s') :
    ∃ c, s.suspended k = true ∧ Ran s k c a s' := by
  unfold resume at h
  obtain ⟨⟨c, point⟩, htask, h⟩ := Option.bind_eq_some_iff.mp h
  obtain ⟨connection, -, h⟩ := Option.bind_eq_some_iff.mp h
  have hk : s.connectionOf k = some c := by simp [connectionOf, htask]
  refine ⟨c, ?_⟩
  cases point with
  -- It waited for the agent's lock, and goes on as one that has just taken the buffer.
  | acquiring message =>
    have hsuspended : s.suspended k = true := by simp [suspended, htask, SendAsyncPoint.suspended]
    exact ⟨hsuspended, lockPassed_ran hk (hheld c hk hsuspended) hblocked h⟩
  | sending =>
    have hsuspended : s.suspended k = true := by simp [suspended, htask, SendAsyncPoint.suspended]
    have hlock := hheld c hk hsuspended
    refine ⟨hsuspended, ?_⟩
    cases a with
    | sendSuspends =>
      obtain rfl := Option.some.inj h
      exact ⟨rfl, rfl, rfl, hblocked, hk, hk, fun _ _ => rfl, fun _ _ => rfl,
        .inl ⟨hsuspended, rfl, hlock⟩⟩
    | completes | raises =>
      obtain rfl := Option.some.inj h
      exact ran_finishes hk hblocked s.relay _
    | lockSuspends => cases h
  | scheduled | blocked | finished => cases h

/-- What the thread of the event loop can do. -/
inductive LoopMoved (s : SendState) (a : Await) (s' : SendState) : Prop
  | creates {k rest} (hblocked : s.blocked = none) (hready : s.ready = .create k :: rest)
      (hs' : s' = s.setReady (rest ++ [.start k]))
  /-- The lock is taken. -/
  | blocks {k c rest} (hblocked : s.blocked = none) (hready : s.ready = .start k :: rest)
      (hk : s.coroutine k = some ⟨c, .scheduled⟩) (htaken : s.free c = false)
      (hs' : s' = { (s.setReady rest).setCoroutine k ⟨c, .blocked⟩ with blocked := some k })
  | runs {k c rest} (hfrom : s.blocked = some k ∧ s.ready = rest ∨
        s.blocked = none ∧ (s.ready = .start k :: rest ∨ s.ready = .resume k :: rest))
      (hlock : s.free c = true ∨ s.suspended k = true)
      (hran : Ran { s with ready := rest, blocked := none } k c a s')

/-- What a step of the event loop's thread does. -/
theorem loop_moved (hheld : ∀ k c, s.connectionOf k = some c → s.suspended k = true →
      s.send_buffer_lock c = some (.coroutine k))
    (h : s.loop a = some s') : LoopMoved s a s' := by
  unfold loop at h
  split at h
  · -- The thread of the loop is in `send_buffer_lock.acquire`, which returns if the lock is free.
    rename_i k hblocked
    unfold unblock at h
    split at h
    · rename_i c hk
      split at h
      case isTrue hfree =>
        have hid : s.connectionOf k = some c := by simp [connectionOf, hk]
        exact .runs (.inl ⟨hblocked, rfl⟩) (.inl hfree) (takeBuffer_ran hid rfl h)
      case isFalse => cases h
    · cases h
  · cases h
  · rename_i k rest hblocked hready
    exact .creates hblocked hready (Option.some.inj h).symm
  · rename_i k rest hblocked hready
    unfold start at h
    split at h
    · rename_i c hk
      have hk : s.coroutine k = some ⟨c, .scheduled⟩ := hk
      have hid : s.connectionOf k = some c := by simp [connectionOf, hk]
      split at h
      case isTrue hfree =>
        have hran := takeBuffer_ran (s := s.setReady rest) hid hblocked h
        rw [show s.setReady rest = { s with ready := rest, blocked := none } by
          rw [← hblocked]; rfl] at hran
        exact .runs (.inr ⟨hblocked, .inl hready⟩) (.inl hfree) hran
      case isFalse htaken =>
        have htaken : ¬ s.free c = true := htaken
        exact .blocks hblocked hready hk (by simpa using htaken) (Option.some.inj h).symm
    · cases h
  · rename_i k rest hblocked hready
    obtain ⟨c, hsuspended, hran⟩ := resume_ran (s := s.setReady rest) (hheld k) hblocked h
    rw [show s.setReady rest = { s with ready := rest, blocked := none } by
      rw [← hblocked]; rfl] at hran
    exact .runs (.inr ⟨hblocked, .inr hready⟩) (.inr hsuspended) hran

end SendState

/-! ## The invariant -/

open SendState

/-- Who holds which lock, and that every suspended `send_async` is resumed before another one of its
connection is started. -/
structure Apart (s : SendState) : Prop where
  fresh : ∀ k, s.coroutines_created ≤ k → s.coroutine k = none
  known : ∀ k, .create k ∈ s.ready ∨ .start k ∈ s.ready → k < s.coroutines_created
  threads : ∀ w call, s.call w = some call → call.point = .extending →
    s.send_buffer_lock call.connection_id = some (.thread w)
  holder : ∀ c k, s.send_buffer_lock c = some (.coroutine k) ↔
    s.connectionOf k = some c ∧ s.suspended k = true
  ahead : ∀ k k', s.suspended k = true → s.connectionOf k' = s.connectionOf k →
    Ahead (.resume k) (.start k') s.ready
  blocked : ∀ k, s.blocked = some k → ∃ c, s.connectionOf k = some c ∧
    ∀ k', s.connectionOf k' = some c → s.suspended k' = false

namespace Apart

/-- At the start nobody sends. -/
theorem initial (relay : NetworkRelay) : Apart { relay } where
  fresh _ _ := rfl
  known := by simp
  threads := by simp
  holder := by simp [suspended]
  ahead := by simp [suspended]
  blocked := by simp

/-- Where the sends are apart, the event loop's thread is not deadlocked. -/
theorem not_deadlocked (hA : Apart s) : ¬ s.Deadlocked := by
  rintro ⟨k, k', c, hblocked, hk, hlock, hsuspended⟩
  obtain ⟨c', hk', hnone⟩ := hA.blocked k hblocked
  obtain rfl := Option.some.inj (hk.symm.trans hk')
  rw [hnone k' ((hA.holder c k').mp hlock).1] at hsuspended
  cases hsuspended

/-- The worker threads and the coroutines that are not run leave the invariant alone. -/
theorem quiet (hA : Apart s) (hcreated : s'.coroutines_created = s.coroutines_created)
    (hcoroutine : s'.coroutine = s.coroutine) (hready : s'.ready = s.ready)
    (hblocked : s'.blocked = s.blocked)
    (hthreads : ∀ w call, s'.call w = some call → call.point = .extending →
      s'.send_buffer_lock call.connection_id = some (.thread w))
    (hholder : ∀ c k, s'.send_buffer_lock c = some (.coroutine k) ↔
      s.send_buffer_lock c = some (.coroutine k)) : Apart s' where
  fresh := by rw [hcreated, hcoroutine]; exact hA.fresh
  known := by rw [hcreated, hready]; exact hA.known
  threads := hthreads
  holder c k := by
    rw [hholder, hA.holder]
    simp only [connectionOf, suspended, hcoroutine]
  ahead := by
    simp only [connectionOf, suspended, hcoroutine, hready]
    exact hA.ahead
  blocked := by
    simp only [connectionOf, suspended, hcoroutine, hblocked]
    exact hA.blocked

/-- A `send` that is called keeps the sends apart. -/
theorem startCall_step (hA : Apart s) {w : ℕ} {content : Bytes}
    (h : s.startCall w c content = some s') : Apart s' := by
  unfold startCall at h
  split at h
  case isTrue =>
    obtain rfl := Option.some.inj h
    refine hA.quiet rfl rfl rfl rfl (fun w' call hcall hpoint => ?_) fun _ _ => Iff.rfl
    by_cases hw : w' = w
    · subst hw
      obtain rfl : ({ connection_id := c, content } : SendCall) = call := by simpa using hcall
      cases hpoint
    · exact hA.threads w' call (by simpa [hw] using hcall) hpoint
  case isFalse => cases h

/-- A `send_async` that is scheduled keeps the sends apart. -/
theorem scheduleSend_step (hA : Apart s) : Apart (s.scheduleSend c) := by
  have hnew : s.coroutine s.coroutines_created = none := hA.fresh _ (Nat.le_refl _)
  -- The coroutines that are there stay where they are.
  have hother : ∀ k, k ≠ s.coroutines_created →
      (s.scheduleSend c).connectionOf k = s.connectionOf k ∧
        (s.scheduleSend c).suspended k = s.suspended k := by
    intro k hk
    simp [connectionOf, suspended, hk]
  -- The new one has not run, so it is not suspended and holds no lock.
  have hsuspended : (s.scheduleSend c).suspended s.coroutines_created = false := by
    simp [suspended, SendAsyncPoint.suspended]
  constructor
  · intro k hk
    have hk : s.coroutines_created + 1 ≤ k := hk
    have hne : k ≠ s.coroutines_created := by omega
    simp [hne, hA.fresh k (by omega)]
  · intro k hk
    simp only [scheduleSend, setCoroutine, List.mem_append, List.mem_singleton, Handle.create.injEq,
      reduceCtorEq, or_false] at hk ⊢
    rcases hk with (hk | rfl) | hk
    · have hlt := hA.known k (.inl hk)
      omega
    · omega
    · have hlt := hA.known k (.inr hk)
      omega
  · exact hA.threads
  · intro c' k
    by_cases hk : k = s.coroutines_created
    · rw [hk, hsuspended]
      have hlock : s.send_buffer_lock c' ≠ some (.coroutine s.coroutines_created) := by
        intro hlock
        have hwas := ((hA.holder c' _).mp hlock).2
        simp [suspended, hnew] at hwas
      simpa using hlock
    · rw [(hother k hk).1, (hother k hk).2]
      exact hA.holder c' k
  · intro k k' hk hsame
    have hne : k ≠ s.coroutines_created := by
      rintro rfl
      rw [hsuspended] at hk
      cases hk
    rw [(hother k hne).1] at hsame
    rw [(hother k hne).2] at hk
    by_cases hk' : k' = s.coroutines_created
    · -- The new one has no task yet.
      have hnot : .start k' ∉ s.ready ++ [.create s.coroutines_created] := by
        intro hmem
        have hmem : Handle.start k' ∈ s.ready := by simpa using hmem
        have hlt := hA.known k' (.inr hmem)
        omega
      exact .of_not_mem hnot
    · rw [(hother k' hk').1] at hsame
      exact (hA.ahead k k' hk hsame).append (by simp)
  · intro k hk
    obtain ⟨c', hc', hnone⟩ := hA.blocked k hk
    have hne : k ≠ s.coroutines_created := by
      rintro rfl
      simp [connectionOf, hnew] at hc'
    refine ⟨c', by rw [(hother k hne).1, hc'], fun k' hk' => ?_⟩
    by_cases heq : k' = s.coroutines_created
    · rw [heq, hsuspended]
    · rw [(hother k' heq).1] at hk'
      rw [(hother k' heq).2, hnone k' hk']

/-- A step of a `send` keeps the sends apart. -/
theorem resumeCall_step (hA : Apart s) {w : ℕ} {call : SendCall} (hcall : s.call w = some call)
    (h : s.resumeCall w call = some s') : Apart s' := by
  obtain ⟨c, content, point⟩ := call
  -- The calls of the other threads are where they were.
  have hthreads : ∀ {s₁ : SendState} {point'},
      s₁.call = Function.update s.call w (some ⟨c, content, point'⟩) →
      (point' = .extending → s₁.send_buffer_lock c = some (.thread w)) →
      (∀ w' c', w' ≠ w → s.send_buffer_lock c' = some (.thread w') →
        s₁.send_buffer_lock c' = some (.thread w')) →
      ∀ w' call, s₁.call w' = some call → call.point = .extending →
        s₁.send_buffer_lock call.connection_id = some (.thread w') := by
    intro s₁ point' hcalls hown hothers w' call hcall' hpoint
    by_cases hw : w' = w
    · subst hw
      rw [hcalls, Function.update_self] at hcall'
      obtain rfl := Option.some.inj hcall'
      exact hown hpoint
    · rw [hcalls, Function.update_of_ne hw] at hcall'
      exact hothers w' _ hw (hA.threads w' call hcall' hpoint)
  cases point with
  | acquiring =>
    simp only [resumeCall] at h
    split at h
    case isTrue hfree =>
      obtain rfl := Option.some.inj h
      have hlock : s.send_buffer_lock c = none := by simpa [free] using hfree
      refine hA.quiet rfl rfl rfl rfl (hthreads rfl (fun _ => by simp) ?_) fun c' k => ?_
      · -- The lock was free, so no other thread is in its critical section.
        intro w' c' _ hc'
        have hne : c' ≠ c := by
          rintro rfl
          rw [hlock] at hc'
          cases hc'
        simpa [hne] using hc'
      · by_cases hc' : c' = c
        · subst hc'
          simp [hlock]
        · simp [hc']
    case isFalse => cases h
  | extending =>
    obtain rfl := Option.some.inj h
    -- The thread itself holds the lock that it releases.
    have hlock : s.send_buffer_lock c = some (.thread w) := hA.threads w _ hcall rfl
    refine hA.quiet rfl rfl rfl rfl (hthreads rfl (fun hpoint => by cases hpoint) ?_) fun c' k => ?_
    · intro w' c' hw hc'
      have hne : c' ≠ c := by
        rintro rfl
        rw [hlock] at hc'
        exact hw (LockHolder.thread.inj (Option.some.inj hc')).symm
      simpa [hne] using hc'
    · by_cases hc' : c' = c
      · subst hc'
        simp [hlock]
      · simp [hc']
  | scheduling =>
    obtain rfl := Option.some.inj h
    refine hA.scheduleSend_step.quiet rfl rfl rfl rfl
      (hthreads rfl (fun hpoint => by cases hpoint) ?_) fun _ _ => Iff.rfl
    exact fun _ _ _ hc' => hc'
  | checking =>
    obtain rfl := Option.some.inj h
    refine hA.quiet rfl rfl rfl rfl (hthreads rfl (fun hpoint => by cases hpoint) ?_)
      fun _ _ => Iff.rfl
    exact fun _ _ _ hc' => hc'
  | finished => cases h

/-- A task that is made for a `send_async` comes after the suspended ones have been woken. -/
theorem creates_step (hA : Apart s) {rest : List Handle} (hready : s.ready = .create k :: rest)
    (hwoken : s.allWoken k rest = true) : Apart (s.setReady (rest ++ [.start k])) where
  fresh := hA.fresh
  known k' hk' := by
    apply hA.known
    simp only [setReady, List.mem_append, List.mem_singleton, reduceCtorEq, or_false,
      Handle.start.injEq] at hk'
    rw [hready]
    rcases hk' with hk' | hk' | rfl
    · exact .inl (List.mem_cons_of_mem _ hk')
    · exact .inr (List.mem_cons_of_mem _ hk')
    · exact .inl List.mem_cons_self
  threads := hA.threads
  holder := hA.holder
  ahead k₁ k' hk₁ hsame := by
    have hrest : Ahead (.resume k₁) (.start k') rest := by
      have hahead := hA.ahead k₁ k' hk₁ hsame
      rw [hready] at hahead
      exact hahead.tail (by simp)
    -- The new task is last, and the suspended ones of its connection have been woken.
    by_cases hk' : k' = k
    · subst hk'
      have hlt : k₁ < s.coroutines_created := by
        by_contra hge
        obtain ⟨c, hc⟩ := connectionOf_of_suspended hk₁
        simp [connectionOf, hA.fresh k₁ (by omega)] at hc
      have hsame : s.connectionOf k' = s.connectionOf k₁ := hsame
      have hk₁ : s.suspended k₁ = true := hk₁
      have hwoken₁ := List.all_eq_true.mp hwoken k₁ (List.mem_range.mpr hlt)
      exact hrest.append_self (by simpa [hsame, hk₁] using hwoken₁)
    · exact hrest.append (by simp [Ne.symm hk'])
  blocked := hA.blocked

/-- A `send_async` that blocks the thread keeps the sends apart, as no other one of its connection
is suspended. -/
theorem blocks_step (hA : Apart s) {rest : List Handle} (hready : s.ready = .start k :: rest)
    (hk : s.coroutine k = some ⟨c, .scheduled⟩) :
    Apart { (s.setReady rest).setCoroutine k ⟨c, .blocked⟩ with blocked := some k } := by
  have hid : s.connectionOf k = some c := by simp [connectionOf, hk]
  obtain ⟨s₁, hs₁⟩ : ∃ s₁ : SendState,
      s₁ = { (s.setReady rest).setCoroutine k ⟨c, .blocked⟩ with blocked := some k } := ⟨_, rfl⟩
  rw [← hs₁]
  -- Blocking changes the point of `k` from one to another that is not suspended.
  have hconnection : ∀ k', s₁.connectionOf k' = s.connectionOf k' := by
    intro k'
    by_cases hk' : k' = k
    · simp [hs₁, connectionOf, hk', hk]
    · simp [hs₁, connectionOf, hk']
  have hsuspended : ∀ k', s₁.suspended k' = s.suspended k' := by
    intro k'
    by_cases hk' : k' = k
    · simp [hs₁, suspended, hk', hk, SendAsyncPoint.suspended]
    · simp [hs₁, suspended, hk']
  have hlt : k < s.coroutines_created :=
    hA.known k (.inr (by rw [hready]; exact List.mem_cons_self))
  constructor
  · intro k' hk'
    have hk' : s.coroutines_created ≤ k' := by simpa [hs₁] using hk'
    have hne : k' ≠ k := by omega
    simp [hs₁, hne, hA.fresh k' hk']
  · intro k' hk'
    have hk' : .create k' ∈ rest ∨ .start k' ∈ rest := by simpa [hs₁] using hk'
    have hltk := hA.known k' (by
      rw [hready]
      exact hk'.imp (List.mem_cons_of_mem _) (List.mem_cons_of_mem _))
    simpa [hs₁] using hltk
  · intro w call hcall hpoint
    have hlock := hA.threads w call (by simpa [hs₁] using hcall) hpoint
    simpa [hs₁] using hlock
  · intro c' k'
    rw [hconnection, hsuspended, ← hA.holder]
    simp [hs₁]
  · intro k₁ k' hk₁ hsame
    rw [hsuspended] at hk₁
    rw [hconnection, hconnection] at hsame
    have hahead := hA.ahead k₁ k' hk₁ hsame
    rw [hready] at hahead
    have hrest := hahead.tail (by simp)
    simpa [hs₁] using hrest
  · intro k' hk'
    obtain rfl : k = k' := by simpa [hs₁] using hk'
    refine ⟨c, by rw [hconnection, hid], fun k₁ hk₁ => ?_⟩
    rw [hconnection] at hk₁
    rw [hsuspended]
    by_contra hsuspended₁
    rw [Bool.not_eq_false] at hsuspended₁
    -- A suspended one would be ahead of the one that starts.
    have hahead := hA.ahead k₁ k hsuspended₁ (hid.trans hk₁.symm)
    rw [hready] at hahead
    exact hahead.head_ne rfl

/-! ### A stretch of a coroutine -/

section

variable {rest : List Handle} (hran : Ran { s with ready := rest, blocked := none } k c a s')
include hran

/-- Each coroutine stays with its connection. -/
theorem ran_connectionOf (k' : ℕ) : s'.connectionOf k' = s.connectionOf k' := by
  by_cases hk' : k' = k
  · rw [hk', hran.after]
    exact hran.before.symm
  · simp only [connectionOf, hran.others k' hk']

/-- The others stay where they are. -/
theorem ran_suspended {k' : ℕ} (hk' : k' ≠ k) : s'.suspended k' = s.suspended k' := by
  simp only [suspended, hran.others k' hk']

variable (hA : Apart s) (hlock : s.free c = true ∨ s.suspended k = true)
include hA hlock

/-- The lock of the connection is free, or it is the coroutine's own. -/
theorem ran_holder {holder : LockHolder} (hholder : s.send_buffer_lock c = some holder) :
    holder = .coroutine k := by
  rcases hlock with hfree | hown
  · simp [free, hholder] at hfree
  · rw [(hA.holder c k).mpr ⟨hran.before, hown⟩] at hholder
    exact (Option.some.inj hholder).symm

/-- No other coroutine of the connection is suspended. -/
theorem ran_alone {k' : ℕ} (hk' : k' ≠ k) (hc : s.connectionOf k' = some c) :
    s.suspended k' = false := by
  by_contra hsuspended
  rw [Bool.not_eq_false] at hsuspended
  have hcoroutine := ran_holder hran hA hlock ((hA.holder c k').mpr ⟨hc, hsuspended⟩)
  exact hk' (LockHolder.coroutine.inj hcoroutine)

/-- A lock is held by the coroutine of its connection that is suspended: the stretch leaves its own
lock held if it suspends and free if it ends. -/
theorem runs_holder (c' : ConnectionId) (k' : ℕ) :
    s'.send_buffer_lock c' = some (.coroutine k') ↔
      s'.connectionOf k' = some c' ∧ s'.suspended k' = true := by
  rw [ran_connectionOf hran]
  -- The stretch changes one lock, and of the coroutines only `k` can take or release it.
  by_cases hc' : c' = c
  · subst hc'
    by_cases hk' : k' = k
    · subst hk'
      have hid : s.connectionOf k' = some c' := hran.before
      rcases hran.own with ⟨hs', -, hl'⟩ | ⟨hs', hl'⟩
      · simp [hs', hl', hid]
      · simp [hs', hl']
    · rw [ran_suspended hran hk']
      constructor
      · intro hl
        rcases hran.own with ⟨-, -, hl'⟩ | ⟨-, hl'⟩ <;> rw [hl'] at hl
        · exact absurd (LockHolder.coroutine.inj (Option.some.inj hl)).symm hk'
        · cases hl
      · rintro ⟨hc, hs⟩
        rw [ran_alone hran hA hlock hk' hc] at hs
        cases hs
  · rw [hran.locks c' hc']
    have hiff := hA.holder c' k'
    by_cases hk' : k' = k
    · subst hk'
      have hid : s.connectionOf k' = some c := hran.before
      rw [hid] at hiff ⊢
      simpa [Ne.symm hc'] using hiff
    · rwa [ran_suspended hran hk']

omit hlock in
/-- A coroutine that suspends is woken before another one of its connection starts, since no task
for one is in the queue. -/
theorem runs_ahead
    (hfrom : s.blocked = some k ∧ s.ready = rest ∨
      s.blocked = none ∧ (s.ready = .start k :: rest ∨ s.ready = .resume k :: rest))
    (hok : a.suspends = true → s.waits k rest = false) (k₁ k' : ℕ)
    (hk₁ : s'.suspended k₁ = true) (hsame : s'.connectionOf k' = s'.connectionOf k₁) :
    Ahead (.resume k₁) (.start k') s'.ready := by
  rw [ran_connectionOf hran, ran_connectionOf hran] at hsame
  have hready : s'.ready = rest := hran.ready
  rw [hready]
  by_cases hk : k₁ = k
  · subst hk
    rcases hran.own with ⟨-, hsuspends, -⟩ | ⟨hends, -⟩
    · -- By the condition no task of the connection is queued while `k` suspends.
      have hwaits := hok hsuspends
      refine .of_not_mem fun hmem => ?_
      have hwaits' := List.any_eq_false.mp hwaits _ hmem
      exact hwaits' (decide_eq_true hsame)
    · rw [hends] at hk₁
      cases hk₁
  · rw [ran_suspended hran hk] at hk₁
    have hahead := hA.ahead k₁ k' hk₁ hsame
    rcases hfrom with ⟨-, heq⟩ | ⟨-, heq | heq⟩ <;> rw [heq] at hahead
    · exact hahead
    · exact hahead.tail (by simp)
    · exact hahead.tail (by simpa using Ne.symm hk)

/-- The stretch keeps the coroutines apart. -/
theorem runs_step
    (hfrom : s.blocked = some k ∧ s.ready = rest ∨
      s.blocked = none ∧ (s.ready = .start k :: rest ∨ s.ready = .resume k :: rest))
    (hok : a.suspends = true → s.waits k rest = false) : Apart s' where
  fresh k' hk' := by
    have hid : s.connectionOf k = some c := hran.before
    rw [hran.created] at hk'
    have hne : k' ≠ k := by
      rintro rfl
      simp [connectionOf, hA.fresh k' hk'] at hid
    rw [hran.others k' hne]
    exact hA.fresh k' hk'
  known k' hk' := by
    have hready : s'.ready = rest := hran.ready
    rw [hready] at hk'
    rw [hran.created]
    apply hA.known
    rcases hfrom with ⟨-, heq⟩ | ⟨-, heq | heq⟩ <;> rw [heq]
    · exact hk'
    · exact hk'.imp (List.mem_cons_of_mem _) (List.mem_cons_of_mem _)
    · exact hk'.imp (List.mem_cons_of_mem _) (List.mem_cons_of_mem _)
  threads w call hcall hpoint := by
    rw [hran.call] at hcall
    have hthread := hA.threads w call hcall hpoint
    -- A thread in its critical section holds the lock, which the stretch could not have taken.
    have hne : call.connection_id ≠ c := by
      intro heq
      rw [heq] at hthread
      cases ran_holder hran hA hlock hthread
    rw [hran.locks _ hne]
    exact hthread
  holder := runs_holder hran hA hlock
  ahead := runs_ahead hran hA hfrom hok
  blocked k' hk' := by
    rw [hran.blocked] at hk'
    cases hk'

end

/-- A step of the event loop's thread keeps the sends apart. -/
theorem loop_step (hA : Apart s) (hok : SendsApart s (.loop a) = true) (h : s.loop a = some s') :
    Apart s' := by
  have hheld : ∀ k c, s.connectionOf k = some c → s.suspended k = true →
      s.send_buffer_lock c = some (.coroutine k) := fun k c hc hk => (hA.holder c k).mpr ⟨hc, hk⟩
  cases loop_moved hheld h with
  | creates hblocked hready hs' =>
    subst hs'
    exact hA.creates_step hready (by simpa [SendsApart, hblocked, hready] using hok)
  | blocks _ hready hk _ hs' =>
    subst hs'
    exact hA.blocks_step hready hk
  | @runs k c rest hfrom hlock hran =>
    refine runs_step hran hA hlock hfrom fun ha => ?_
    rcases hfrom with ⟨hblocked, heq⟩ | ⟨hblocked, heq | heq⟩
    · simpa [SendsApart, hblocked, heq, ha] using hok
    · simpa [SendsApart, hblocked, heq, ha] using hok
    · simpa [SendsApart, hblocked, heq, ha] using hok

/-- A step that meets the condition keeps the sends apart. -/
theorem preserved (hA : Apart s) {e : SendEvent} (hok : SendsApart s e = true)
    (h : sendStep s e = some s') : Apart s' := by
  cases e with
  | calls w c content => exact hA.startCall_step h
  | thread w =>
    obtain ⟨call, hcall, hstep⟩ := Option.bind_eq_some_iff.mp h
    exact hA.resumeCall_step hcall hstep
  | loop a => exact hA.loop_step hok h
  | wakes k =>
    simp only [sendStep] at h
    split at h
    case isTrue =>
      obtain rfl := Option.some.inj h
      exact { hA with
        known := fun k' hk' => hA.known k' (by simpa using hk')
        ahead := fun k₁ k' hk₁ hsame => (hA.ahead k₁ k' hk₁ hsame).append (by simp) }
    case isFalse => cases h
  | drops c =>
    simp only [sendStep] at h
    split at h
    case isTrue =>
      obtain rfl := Option.some.inj h
      exact hA.quiet rfl rfl rfl rfl hA.threads fun _ _ => Iff.rfl
    case isFalse => cases h

end Apart

/-! ## Every run -/

/-- In every run that keeps the `send_async` coroutines of a connection apart, the thread of the
event loop never waits for a lock that a suspended coroutine holds. -/
theorem sends_never_deadlock {relay : NetworkRelay}
    (h : Reaches sendStep (SendsApart · ·) { relay } s) : ¬ s.Deadlocked := by
  have hA : Apart s :=
    h.invariant (.initial relay) fun s e s' _ hok hstep hA => hA.preserved hok hstep
  exact hA.not_deadlocked

/-- A relay after a user's `create_connection` has returned. -/
def connectedRelay : NetworkRelay :=
  ((run (step plainConfig) {} (registerAgent ⟨0⟩ "agent" false ++
    [.create 0 {
        agent_connection_id := "agent"
        target_ip := "10.0.0.1"
        target_port := 22
        protocol := "tcp"
        connection_class := .tcpConnection } someConnection,
      .run (.call 0) .ok,
      .agentSends ⟨0⟩ (.text { known := some (.initiateConnectionOK someConnection) }),
      .run (.msgLoop ⟨0⟩) .next, .run (.call 0) .ok])).get (by decide +kernel)).relay

/-- The first `send_async` suspends in its send to the agent, and is woken before the second one
gets its task. -/
def apartSends : SendState :=
  (runWith sendStep (SendsApart · ·) { relay := connectedRelay }
    [.calls 0 someConnection [1], .thread 0, .thread 0, .thread 0,
      .calls 1 someConnection [2], .thread 1, .thread 1,
      .loop .completes, .loop .sendSuspends, .thread 1, .wakes 0,
      .loop .completes, .loop .completes, .loop .completes]).get (by decide +kernel)

/-- Both contents are sent, and the event loop's thread goes on. -/
theorem apartSends_not_deadlocked :
    apartSends.relay.to_agent ⟨0⟩ = connectedRelay.to_agent ⟨0⟩ ++
        [.text (.tcpData someConnection "AQI="), .text (.tcpData someConnection "")] ∧
      ¬ apartSends.Deadlocked :=
  ⟨by decide +kernel, sends_never_deadlock (Reaches.init.of_runWith (Option.some_get _).symm)⟩

/-- A worker thread sends twice before the event loop runs, and the first `send_async` suspends. -/
def frozenSends : List SendEvent :=
  [.calls 0 someConnection [1], .thread 0, .thread 0, .thread 0, .thread 0,
    .calls 0 someConnection [2], .thread 0, .thread 0, .thread 0, .thread 0,
    .loop .completes, .loop .completes, .loop .sendSuspends, .loop .completes]

/-- The second `send_async` blocks the thread on which the first one would have to be resumed. -/
theorem frozenSends_deadlock :
    ¬ ∀ relay s, Reaches sendStep (fun _ _ => True) { relay } s → ¬ s.Deadlocked := by
  intro h
  obtain ⟨s, hs⟩ : ∃ s, run sendStep { relay := connectedRelay } frozenSends = some s :=
    Option.isSome_iff_exists.mp (by decide +kernel)
  have hreach : Reaches sendStep (fun _ _ => True) { relay := connectedRelay } s :=
    Reaches.init.of_run (fun _ _ _ => trivial) hs
  have hstate : ((run sendStep { relay := connectedRelay } frozenSends).map fun s =>
      (s.blocked, s.connectionOf 1, s.send_buffer_lock someConnection, s.suspended 0)) =
        some (some 1, some someConnection, some (.coroutine 0), true) := by
    decide +kernel
  rw [hs] at hstate
  simp only [Option.map_some, Option.some.injEq, Prod.mk.injEq] at hstate
  obtain ⟨hblocked, hk, hlock, hsuspended⟩ := hstate
  exact h _ s hreach ⟨1, 0, someConnection, hblocked, hk, hlock, hsuspended⟩

end HttpNetworkRelay
