import HttpNetworkRelay.Asyncio.Pipe
import HttpNetworkRelay.Relay.Requests
import HttpNetworkRelay.Relay.SendBuffer

/-!
# The steps of the threads that send

`SendRule` lists the steps of the worker threads and of the event loop in the machine of
`TcpConnection.send`, and `LoopRule` reads off those of the event loop what they do to the lock and
the bytes of a connection. `SendsLocked` is the invariant that both need: a thread that appends and
a `send_async` that is suspended hold the lock of their connection.
-/

namespace HttpNetworkRelay

open Asyncio Python

variable {s s' : SendState} {e : SendEvent}

/-! ## The steps -/

namespace SendState

/-- The thread of the event loop has taken a handle out of the queue, or has been unblocked. -/
@[simp] def running (s : SendState) (rest : List Handle) : SendState :=
  { s with ready := rest, blocked := none }

/-- A `send_async` has acquired the lock and taken the buffer. -/
@[simp] def taken (s : SendState) (k : ℕ) (c : ConnectionId) : SendState :=
  (s.withRelay (s.relay.modifyConnection c ({ · with send_buffer := [] }))).setLock c
    (some (.coroutine k))

/-- The event loop's thread goes on with the `send_async` `k`, and `rest` is what is in the queue
then. -/
inductive Runs (s : SendState) (k : ℕ) (rest : List Handle) : Prop
  | started (hblocked : s.blocked = none) (hready : s.ready = .start k :: rest)
  | resumed (hblocked : s.blocked = none) (hready : s.ready = .resume k :: rest)
  | unblocked (hblocked : s.blocked = some k) (hready : s.ready = rest)

end SendState

/-- From the agent's send lock on: the message is put on the websocket. -/
inductive PutRule (s : SendState) (k : ℕ) (c : ConnectionId) (ws : AgentSocket) (m : ToAgent) :
    SendState → Prop
  | suspends : PutRule s k c ws m
      ((s.withRelay (s.relay.sendToAgent ws m)).setCoroutine k ⟨c, .sending⟩)
  | ends {result} :
      PutRule s k c ws m ((s.withRelay (s.relay.sendToAgent ws m)).finishSend k c result)

/-- A step of the threads. -/
inductive SendRule (s : SendState) : SendEvent → SendState → Prop
  | calls {w : ℕ} {c content} (hover : (s.call w).all (·.point.over) = true)
      (hmade : (s.relay.connection c).isSome = true) :
      SendRule s (.calls w c content) (s.setCall w { connection_id := c, content })
  | acquires {w : ℕ} {c content} (hcall : s.call w = some ⟨c, content, .acquiring⟩)
      (hfree : s.send_buffer_lock c = none) :
      SendRule s (.thread w)
        ((s.setLock c (some (.thread w))).setCall w ⟨c, content, .extending⟩)
  | extends {w : ℕ} {c content} (hcall : s.call w = some ⟨c, content, .extending⟩) :
      SendRule s (.thread w)
        (((s.withRelay (s.relay.modifyConnection c fun connection =>
          { connection with send_buffer := connection.send_buffer ++ content })).setLock c
            none).setCall w ⟨c, content, .scheduling⟩)
  | schedules {w : ℕ} {c content} (hcall : s.call w = some ⟨c, content, .scheduling⟩) :
      SendRule s (.thread w) ((s.scheduleSend c).setCall w ⟨c, content, .checking⟩)
  | checks {w : ℕ} {c content result} (hcall : s.call w = some ⟨c, content, .checking⟩) :
      SendRule s (.thread w) (s.setCall w ⟨c, content, .finished result⟩)
  | creates {a : Await} {k rest} (hblocked : s.blocked = none)
      (hready : s.ready = .create k :: rest) :
      SendRule s (.loop a) (s.setReady (rest ++ [.start k]))
  /-- The lock is taken. -/
  | blocks {a : Await} {k c rest} (hblocked : s.blocked = none)
      (hready : s.ready = .start k :: rest)
      (hk : s.coroutine k = some ⟨c, .scheduled⟩) :
      SendRule s (.loop a) { (s.setReady rest).setCoroutine k ⟨c, .blocked⟩ with blocked := some k }
  /-- The buffer is taken, and the agent's send lock is not free. -/
  | holds {k c rest connection} (hruns : s.Runs k rest) (hfree : s.send_buffer_lock c = none)
      (hk : ∃ point, s.coroutine k = some ⟨c, point⟩ ∧ point.suspended = false)
      (hc : s.relay.connection c = some connection) :
      SendRule s (.loop .lockSuspends) (((s.running rest).taken k c).setCoroutine k
        ⟨c, .acquiring (connection.dataMessage c connection.send_buffer)⟩)
  /-- The buffer is taken and sent. -/
  | flushes {a : Await} {k c rest connection} {s₁ : SendState} (hruns : s.Runs k rest)
      (hfree : s.send_buffer_lock c = none)
      (hk : ∃ point, s.coroutine k = some ⟨c, point⟩ ∧ point.suspended = false)
      (hc : s.relay.connection c = some connection)
      (h : ((s.running rest).taken k c).lockPassed k c connection.agent_connection
        (connection.dataMessage c connection.send_buffer) a = some s₁) :
      SendRule s (.loop a) s₁
  /-- The agent's send lock has been acquired. -/
  | passes {a : Await} {k c rest message connection} {s₁ : SendState} (hblocked : s.blocked = none)
      (hready : s.ready = .resume k :: rest) (hk : s.coroutine k = some ⟨c, .acquiring message⟩)
      (hc : s.relay.connection c = some connection)
      (h : (s.running rest).lockPassed k c connection.agent_connection message a = some s₁) :
      SendRule s (.loop a) s₁
  | awaits {a : Await} {k rest} (hblocked : s.blocked = none)
      (hready : s.ready = .resume k :: rest) :
      SendRule s (.loop a) (s.running rest)
  | ends {a : Await} {k c rest result} (hblocked : s.blocked = none)
      (hready : s.ready = .resume k :: rest) (hk : s.coroutine k = some ⟨c, .sending⟩) :
      SendRule s (.loop a) ((s.running rest).finishSend k c result)
  | wakes {k : ℕ} : SendRule s (.wakes k) (s.setReady (s.ready ++ [.resume k]))
  | drops {c : ConnectionId} :
      SendRule s (.drops c) (s.withRelay (s.relay._drop_relayed_connection c))

namespace SendState

variable {k : ℕ} {c : ConnectionId} {a : Await}

/-- A message that is made is put on the websocket once the lock is passed. -/
theorem lockPassed_put {ws : AgentSocket} {m : ToAgent}
    (h : s.lockPassed k c ws (.ok m) a = some s') : PutRule s k c ws m s' := by
  cases a with
  | lockSuspends => cases h
  | sendSuspends =>
    obtain rfl := Option.some.inj h
    exact .suspends
  | completes | raises =>
    obtain rfl := Option.some.inj h
    exact .ends

/-- A `send_async` that acquires the lock. -/
theorem takeBuffer_rule {point : SendAsyncPoint} {rest : List Handle} (hruns : s.Runs k rest)
    (hk : s.coroutine k = some ⟨c, point⟩) (hpoint : point.suspended = false)
    (hfree : s.free c = true) (h : (s.running rest).takeBuffer k c a = some s') :
    SendRule s (.loop a) s' := by
  have hfree : s.send_buffer_lock c = none := by simpa [free] using hfree
  have hk : ∃ point, s.coroutine k = some ⟨c, point⟩ ∧ point.suspended = false :=
    ⟨point, hk, hpoint⟩
  obtain ⟨connection, hc, h⟩ := Option.bind_eq_some_iff.mp h
  cases a with
  | lockSuspends =>
    obtain rfl := Option.some.inj h
    exact .holds hruns hfree hk hc
  | sendSuspends | completes | raises => exact .flushes hruns hfree hk hc h

/-- What a step of the event loop's thread can be. -/
theorem loop_rule (h : s.loop a = some s') : SendRule s (.loop a) s' := by
  unfold loop at h
  split at h
  -- The thread of the loop waits for `send_buffer_lock` and gets it.
  case h_1 k hblocked =>
    unfold unblock at h
    split at h
    case h_1 c hk =>
      split_ifs at h with hfree
      exact takeBuffer_rule (.unblocked hblocked rfl) hk rfl hfree h
    case h_2 => cases h
  case h_2 => cases h
  case h_3 k rest hblocked hready =>
    obtain rfl := Option.some.inj h
    exact .creates hblocked hready
  -- A `send_async` starts: it takes the lock, or blocks the thread of the loop until it is free.
  case h_4 k rest hblocked hready =>
    unfold start at h
    split at h
    case h_1 c hk =>
      have hrunning : s.setReady rest = s.running rest := by
        rw [running, ← hblocked]
        rfl
      split_ifs at h with hfree
      · rw [hrunning] at h
        exact takeBuffer_rule (.started hblocked hready) hk rfl hfree h
      · obtain rfl := Option.some.inj h
        exact .blocks hblocked hready hk
    case h_2 => cases h
  -- One that was suspended goes on after the agent's send lock or after the send itself.
  case h_5 k rest hblocked hready =>
    unfold resume at h
    have hrunning : s.setReady rest = s.running rest := by
      rw [running, ← hblocked]
      rfl
    rw [hrunning] at h
    obtain ⟨⟨c, point⟩, hk, h⟩ := Option.bind_eq_some_iff.mp h
    obtain ⟨connection, hc, h⟩ := Option.bind_eq_some_iff.mp h
    cases point with
    | acquiring message => exact .passes hblocked hready hk hc h
    | sending =>
      cases a with
      | sendSuspends =>
        obtain rfl := Option.some.inj h
        exact .awaits hblocked hready
      | completes | raises =>
        obtain rfl := Option.some.inj h
        exact .ends hblocked hready hk
      | lockSuspends => cases h
    | scheduled | blocked | finished => cases h

/-- What a step of a `send` can be. -/
theorem resumeCall_rule {w : ℕ} {call : SendCall} (hcall : s.call w = some call)
    (h : s.resumeCall w call = some s') : SendRule s (.thread w) s' := by
  obtain ⟨c, content, point⟩ := call
  cases point with
  | acquiring =>
    simp only [resumeCall] at h
    split_ifs at h with hfree
    obtain rfl := Option.some.inj h
    exact .acquires hcall (by simpa [free] using hfree)
  | extending =>
    obtain rfl := Option.some.inj h
    exact .extends hcall
  | scheduling =>
    obtain rfl := Option.some.inj h
    exact .schedules hcall
  | checking =>
    obtain rfl := Option.some.inj h
    exact .checks hcall
  | finished => cases h

end SendState

open SendState

/-- Every step goes by one of the rules. -/
theorem sendStep_rule (h : sendStep s e = some s') : SendRule s e s' := by
  cases e with
  | calls w c content =>
    simp only [sendStep, startCall] at h
    split_ifs at h with hover
    obtain rfl := Option.some.inj h
    obtain ⟨hover, hcls⟩ := Bool.and_eq_true_iff.mp hover
    obtain ⟨connection, hc, -⟩ := (Option.any_eq_true ..).mp hcls
    exact .calls hover (by rw [hc]; rfl)
  | thread w =>
    obtain ⟨call, hcall, h⟩ := Option.bind_eq_some_iff.mp h
    exact resumeCall_rule hcall h
  | loop a => exact loop_rule h
  | wakes k =>
    simp only [sendStep] at h
    split_ifs at h
    obtain rfl := Option.some.inj h
    exact .wakes
  | drops c =>
    simp only [sendStep] at h
    split_ifs at h
    obtain rfl := Option.some.inj h
    exact .drops

/-! ## Where the bytes are -/

/-- The bytes that have been put on the agent's websocket for a connection. -/
def NetworkRelay.putBytes (r : NetworkRelay) (c : ConnectionId) : Bytes :=
  (r.connection c).elim [] fun connection => carried c (r.frames connection.agent_connection)

/-- What a `send_async` has taken and not put on the websocket yet. -/
def SendAsync.payload (task : SendAsync) : Bytes :=
  match task.point with
  | .acquiring (.ok m) => m.received.dataFor task.connection_id
  | _ => []

namespace SendState

/-- The bytes in `send_buffer`. -/
def send_buffer (s : SendState) (c : ConnectionId) : Bytes :=
  (s.relay.connection c).elim [] (·.send_buffer)

/-- The payload in the hands of the `send_async` that holds the lock. -/
def sending (s : SendState) (c : ConnectionId) : Bytes :=
  (s.send_buffer_lock c).elim [] fun
    | .coroutine k => (s.coroutine k).elim [] (·.payload)
    | .thread _ => []

/-- The content that the thread which holds the lock is about to append. -/
def appending (s : SendState) (c : ConnectionId) : Bytes :=
  (s.send_buffer_lock c).elim [] fun
    | .thread w => (s.call w).elim [] (·.content)
    | .coroutine _ => []

/-- What an event shows: the content of a thread that acquires the lock. -/
def shows (s : SendState) : SendEvent → List (ConnectionId × Bytes)
  | .thread w => (s.call w).elim [] fun call =>
    if call.point = .acquiring then [(call.connection_id, call.content)] else []
  | _ => []

end SendState

/-- The contents sent on a connection, in the order in which their senders acquired the lock. -/
def contents (c : ConnectionId) (l : List (ConnectionId × Bytes)) : List Bytes :=
  (l.filter (·.1 = c)).map (·.2)

/-- The contents of two stretches follow each other. -/
@[simp] theorem contents_append (c : ConnectionId) (l l' : List (ConnectionId × Bytes)) :
    contents c (l ++ l') = contents c l ++ contents c l' := by
  simp [contents]

/-- The bytes of a connection as a pipe: what has been acquired since `relay`, with what had been
put on the websocket by then. -/
@[simp] def SendState.pipe (s : SendState) (relay : NetworkRelay)
    (l : List (ConnectionId × Bytes)) (c : ConnectionId) : Pipe UInt8 where
  sent := relay.putBytes c ++ (contents c l).flatten
  inFlight := s.appending c
  buffered := s.sending c ++ s.send_buffer c
  delivered := s.relay.putBytes c
  isOpen := True

namespace NetworkRelay

variable {r r' : NetworkRelay} {c c' : ConnectionId} {m : ToAgent} {payload : Bytes}

/-- What has been put on the websocket depends on the messages and the agent of the connection only.
-/
theorem putBytes_congr
    (hagent : (r'.connection c).map (·.agent_connection) =
      (r.connection c).map (·.agent_connection))
    (hto : r'.to_agent = r.to_agent) : r'.putBytes c = r.putBytes c := by
  have hframes : r'.frames = r.frames := by
    funext W
    simp only [frames, hto]
  unfold putBytes
  rw [hframes]
  -- The websocket is found through the connection, and messages are only added to it.
  cases h : r.connection c <;> cases h' : r'.connection c <;> simp [h, h'] at hagent
  · rfl
  · simp [hagent]

/-- A message for a connection is put on its agent's websocket. -/
theorem putBytes_sendToAgent {connection : TcpConnection} (hc : r.connection c = some connection)
    (hm : m.received.data? = some (c, payload)) :
    (r.sendToAgent connection.agent_connection m).putBytes c = r.putBytes c ++ payload := by
  simp [putBytes, hc, frames, RelayFrame.dataFor_of_data? hm]

/-- A message for another connection is put on a websocket. -/
theorem putBytes_sendToAgent_of_ne (hne : c' ≠ c) (hm : m.received.data? = some (c', payload))
    (ws : AgentSocket) : (r.sendToAgent ws m).putBytes c = r.putBytes c := by
  have hnone : m.received.dataFor c = [] := by
    refine RelayFrame.dataFor_eq_nil fun data hdata => hne ?_
    rw [hm] at hdata
    exact (Prod.mk.inj (Option.some.inj hdata)).1
  unfold putBytes
  show Option.elim (r.connection c) [] _ = Option.elim (r.connection c) [] _
  cases r.connection c with
  | none => rfl
  | some connection =>
    -- The two connections may share the agent, and the frame carries nothing for this one.
    by_cases hws : connection.agent_connection = ws
    · simp [frames, hws, hnone]
    · simp [frames, hws]

end NetworkRelay

open NetworkRelay

/-! ## Who holds the lock -/

/-- A thread that appends and a `send_async` that is suspended hold the lock of their connection,
and what a `send_async` has taken can be put on the websocket. -/
structure SendsLocked (s : SendState) : Prop where
  fresh : ∀ k, s.coroutines_created ≤ k → s.coroutine k = none
  threads : ∀ c w, s.send_buffer_lock c = some (.thread w) ↔
    ∃ content, s.call w = some ⟨c, content, .extending⟩
  coroutines : ∀ c k, s.send_buffer_lock c = some (.coroutine k) ↔
    ∃ point, s.coroutine k = some ⟨c, point⟩ ∧ point.suspended = true
  messages : ∀ c k message, s.coroutine k = some ⟨c, .acquiring message⟩ →
    ∃ m payload, message = .ok m ∧ m.received.data? = some (c, payload)
  ids : ∀ c, (s.relay.connection c).isSome = true → canonical c = true

namespace SendsLocked

variable {k w : ℕ} {c c' : ConnectionId} {content : Bytes}

/-- At the start no lock is held. -/
theorem initial {relay : NetworkRelay}
    (hids : ∀ c, (relay.connection c).isSome = true → canonical c = true) :
    SendsLocked { relay } where
  fresh _ _ := rfl
  threads := by simp
  coroutines := by simp
  messages := by simp
  ids := hids

/-- A thread that is not in its append holds no lock. -/
theorem not_holder (hL : SendsLocked s)
    (h : ∀ c content, s.call w ≠ some ⟨c, content, .extending⟩) (c : ConnectionId) :
    s.send_buffer_lock c ≠ some (.thread w) := by
  intro hlock
  obtain ⟨content, hcall⟩ := (hL.threads c w).mp hlock
  exact h c content hcall

/-- A thread goes on outside its append. -/
theorem call_moves (hL : SendsLocked s) {call : SendCall} (hpoint : call.point ≠ .extending)
    (h : ∀ c content, s.call w ≠ some ⟨c, content, .extending⟩) :
    SendsLocked (s.setCall w call) where
  fresh := hL.fresh
  threads c w' := by
    by_cases hw : w' = w
    · subst hw
      -- The thread held no lock before its move, and it holds none after it.
      have hnot := hL.not_holder h c
      simp only [SendState.setCall, Function.update_self, Option.some.injEq, hnot, false_iff]
      rintro ⟨content, rfl⟩
      exact hpoint rfl
    · simpa [hw] using hL.threads c w'
  coroutines := hL.coroutines
  messages := hL.messages
  ids := hL.ids

/-- A thread that acquires the lock holds it. -/
theorem acquires_step (hL : SendsLocked s) (hcall : s.call w = some ⟨c, content, .acquiring⟩)
    (hfree : s.send_buffer_lock c = none) :
    SendsLocked ((s.setLock c (some (.thread w))).setCall w ⟨c, content, .extending⟩) where
  fresh := hL.fresh
  threads c' w' := by
    have hthreads := hL.threads c' w'
    have hnot := hL.not_holder (w := w) (by simp [hcall]) c'
    -- Only the holder of this lock changes, and it was free: for all others the old entry stands.
    by_cases hc : c' = c <;> by_cases hw : w' = w
    · simp [hc, hw]
    · subst hc
      simp only [hfree, reduceCtorEq, false_iff] at hthreads
      simpa [hw, Ne.symm hw] using hthreads
    · subst hw
      simp [hc, Ne.symm hc, hnot]
    · simpa [hc, hw] using hthreads
  coroutines c' k := by
    have hcoroutines := hL.coroutines c' k
    by_cases hc : c' = c
    · subst hc
      simp only [hfree, reduceCtorEq, false_iff] at hcoroutines
      simpa using hcoroutines
    · simpa [hc] using hcoroutines
  messages := hL.messages
  ids := hL.ids

/-- A thread that has appended its content releases the lock. -/
theorem extends_step (hL : SendsLocked s) (hcall : s.call w = some ⟨c, content, .extending⟩)
    {relay : NetworkRelay} (hids : ∀ c, (relay.connection c).isSome = true → canonical c = true) :
    SendsLocked (((s.withRelay relay).setLock c none).setCall w ⟨c, content, .scheduling⟩) where
  fresh := hL.fresh
  threads c' w' := by
    have hlock : s.send_buffer_lock c = some (.thread w) := (hL.threads c w).mpr ⟨content, hcall⟩
    have hthreads := hL.threads c' w'
    -- The thread held this lock and no other, and after the release it holds none.
    by_cases hc : c' = c <;> by_cases hw : w' = w
    · simp [hc, hw]
    · subst hc
      simp only [hlock, Option.some.injEq, LockHolder.thread.injEq, Ne.symm hw,
        false_iff] at hthreads
      simpa [hw] using hthreads
    · subst hw
      simp only [hcall, Option.some.injEq, SendCall.mk.injEq, Ne.symm hc, false_and, exists_false,
        iff_false] at hthreads
      simpa [hc] using hthreads
    · simpa [hc, hw] using hthreads
  coroutines c' k := by
    have hlock : s.send_buffer_lock c = some (.thread w) := (hL.threads c w).mpr ⟨content, hcall⟩
    have hcoroutines := hL.coroutines c' k
    by_cases hc : c' = c
    · subst hc
      simp only [hlock, Option.some.injEq, reduceCtorEq, false_iff] at hcoroutines
      simpa using hcoroutines
    · simpa [hc] using hcoroutines
  messages := hL.messages
  ids := hids

/-- A new coroutine is scheduled. -/
theorem schedules_step (hL : SendsLocked s) (c : ConnectionId) :
    SendsLocked (s.scheduleSend c) := by
  have hnew : s.coroutine s.coroutines_created = none := hL.fresh _ (Nat.le_refl _)
  constructor
  · intro k hk
    have hk : s.coroutines_created + 1 ≤ k := hk
    have hne : k ≠ s.coroutines_created := by omega
    simpa [hne] using hL.fresh k (by omega)
  · exact hL.threads
  · intro c' k
    have hcoroutines := hL.coroutines c' k
    -- A coroutine that is only scheduled holds no lock.
    by_cases hk : k = s.coroutines_created
    · subst hk
      rw [hnew] at hcoroutines
      simpa [SendAsyncPoint.suspended] using hcoroutines
    · simpa [hk] using hcoroutines
  · intro c' k message hmessage
    by_cases hk : k = s.coroutines_created
    · simp [hk] at hmessage
    · exact hL.messages c' k message (by simpa [hk] using hmessage)
  · exact hL.ids

/-- A `send_async` that may take the lock goes on to where it holds the lock, or has released it. -/
theorem coroutine_moves (hL : SendsLocked s) {point point' : SendAsyncPoint}
    (hk : s.coroutine k = some ⟨c, point⟩)
    (hown : s.send_buffer_lock c = none ∨ s.send_buffer_lock c = some (.coroutine k))
    (hcreated : s'.coroutines_created = s.coroutines_created) (hcall : s'.call = s.call)
    (hcoroutine : s'.coroutine = Function.update s.coroutine k (some ⟨c, point'⟩))
    (hlock : s'.send_buffer_lock = Function.update s.send_buffer_lock c
      (if point'.suspended then some (.coroutine k) else none))
    (hmessage : ∀ message, point' = .acquiring message →
      ∃ m payload, message = .ok m ∧ m.received.data? = some (c, payload))
    (hids : ∀ c, (s'.relay.connection c).isSome = true → canonical c = true) : SendsLocked s' where
  fresh k' hk' := by
    rw [hcreated] at hk'
    have hne : k' ≠ k := by
      rintro rfl
      rw [hL.fresh k' hk'] at hk
      cases hk
    rw [hcoroutine, Function.update_of_ne hne]
    exact hL.fresh k' hk'
  threads c' w := by
    have hthreads := hL.threads c' w
    rw [hlock, hcall]
    by_cases hc : c' = c
    · subst hc
      -- No thread holds the lock: it was free, or this coroutine had it.
      have hnot : s.send_buffer_lock c' ≠ some (.thread w) := by
        rcases hown with hown | hown <;> simp [hown]
      rw [Function.update_self, ← hthreads]
      split_ifs <;> simp [hnot]
    · rwa [Function.update_of_ne hc]
  coroutines c' k' := by
    have hcoroutines := hL.coroutines c' k'
    rw [hlock, hcoroutine]
    by_cases hc : c' = c <;> by_cases hk' : k' = k
    · subst hc hk'
      rw [Function.update_self, Function.update_self]
      split_ifs with hsuspended <;> simp [hsuspended]
    · subst hc
      -- Nor does another coroutine.
      have hnot : s.send_buffer_lock c' ≠ some (.coroutine k') := by
        rcases hown with hown | hown <;> simp [hown, Ne.symm hk']
      rw [Function.update_self, Function.update_of_ne hk', ← hcoroutines]
      split_ifs <;> simp [hnot, Ne.symm hk']
    · subst hk'
      rw [hk] at hcoroutines
      simpa [hc, Ne.symm hc] using hcoroutines
    · rwa [Function.update_of_ne hc, Function.update_of_ne hk']
  messages c' k' message hmessage' := by
    rw [hcoroutine] at hmessage'
    by_cases hk' : k' = k
    · subst hk'
      obtain ⟨rfl, rfl⟩ : c = c' ∧ point' = .acquiring message := by simpa using hmessage'
      exact hmessage message rfl
    · rw [Function.update_of_ne hk'] at hmessage'
      exact hL.messages c' k' message hmessage'
  ids := hids

/-- A `send_async` waits for the lock. -/
theorem blocks_step (hL : SendsLocked s) {rest : List Handle}
    (hk : s.coroutine k = some ⟨c, .scheduled⟩) :
    SendsLocked { (s.setReady rest).setCoroutine k ⟨c, .blocked⟩ with blocked := some k } where
  fresh k' hk' := by
    have hne : k' ≠ k := by
      rintro rfl
      rw [hL.fresh k' hk'] at hk
      cases hk
    simpa [hne] using hL.fresh k' hk'
  threads := hL.threads
  coroutines c' k' := by
    have hcoroutines := hL.coroutines c' k'
    by_cases hk' : k' = k
    · subst hk'
      rw [hk] at hcoroutines
      simpa [SendAsyncPoint.suspended] using hcoroutines
    · simpa [hk'] using hcoroutines
  messages c' k' message hmessage := by
    by_cases hk' : k' = k
    · simp [hk'] at hmessage
    · exact hL.messages c' k' message (by simpa [hk'] using hmessage)
  ids := hL.ids

/-- What a `send_async` takes can be put on the websocket. -/
theorem message (hL : SendsLocked s) {connection : TcpConnection}
    (hc : s.relay.connection c = some connection) (content : Bytes) :
    ∃ m, connection.dataMessage c content = .ok m ∧ m.received.data? = some (c, content) := by
  -- The id is one that `uuid4` gives, so the binary frame can be encoded.
  have hcanonical : canonical c = true := hL.ids c (by rw [hc]; rfl)
  obtain ⟨m, hm⟩ := dataMessage_encodes connection content hcanonical
  exact ⟨m, hm, dataMessage_data? hcanonical hm⟩

end SendsLocked

/-! ## A stretch of a send_async -/

/-- The `send_async` `k` of the connection `c` goes on from one point to another, holding the lock
while it is suspended. -/
structure CoroutineMoves (s s' : SendState) (k : ℕ) (c : ConnectionId)
    (point point' : SendAsyncPoint) : Prop where
  before : s.coroutine k = some ⟨c, point⟩
  own : point.suspended = false ∧ s.send_buffer_lock c = none ∨
    point.suspended = true ∧ s.send_buffer_lock c = some (.coroutine k)
  runs : s.Runs k s'.ready
  blocked : s'.blocked = none
  created : s'.coroutines_created = s.coroutines_created
  call : s'.call = s.call
  coroutine : s'.coroutine = Function.update s.coroutine k (some ⟨c, point'⟩)
  lock : s'.send_buffer_lock = Function.update s.send_buffer_lock c
    (if point'.suspended then some (.coroutine k) else none)

/-- What it does to the bytes of its connection. -/
inductive BytesRule (s s' : SendState) (c : ConnectionId) (point point' : SendAsyncPoint) : Prop
  /-- The buffer is taken. -/
  | takes {m : ToAgent} (hm : m.received.data? = some (c, s.send_buffer c))
      (hpoint : point.suspended = false) (hpoint' : point' = .acquiring (.ok m))
      (hrelay : s'.relay = s.relay.modifyConnection c ({ · with send_buffer := [] }))
  /-- The buffer is taken and put on the websocket. -/
  | flushes {connection : TcpConnection} {m : ToAgent} (hc : s.relay.connection c = some connection)
      (hm : m.received.data? = some (c, s.send_buffer c)) (hpoint : point.suspended = false)
      (hpoint' : ∀ message, point' ≠ .acquiring message)
      (hrelay : s'.relay = (s.relay.modifyConnection c ({ · with send_buffer := [] })).sendToAgent
        connection.agent_connection m)
  /-- What was taken is put on the websocket. -/
  | puts {connection : TcpConnection} {m : ToAgent} {payload : Bytes}
      (hc : s.relay.connection c = some connection) (hpoint : point = .acquiring (.ok m))
      (hm : m.received.data? = some (c, payload)) (hpoint' : ∀ message, point' ≠ .acquiring message)
      (hrelay : s'.relay = s.relay.sendToAgent connection.agent_connection m)
  | nothing (hpoint : point = .sending) (hpoint' : ∀ message, point' ≠ .acquiring message)
      (hrelay : s'.relay = s.relay)

/-- A step of the event loop. -/
inductive LoopRule (s s' : SendState) : Prop
  | queue {ready} (hs' : s' = { s with ready, blocked := none }) (hblocked : s.blocked = none)
      (hready : ∀ k c, s.coroutine k = some ⟨c, .scheduled⟩ →
        .create k ∈ s.ready ∨ .start k ∈ s.ready →
        .create k ∈ ready ∨ .start k ∈ ready)
  | blocks {k c rest} (hblocked : s.blocked = none) (hready : s.ready = .start k :: rest)
      (hk : s.coroutine k = some ⟨c, .scheduled⟩)
      (hs' : s' = { (s.setReady rest).setCoroutine k ⟨c, .blocked⟩ with blocked := some k })
  | moves {k c point point'} (hmoves : CoroutineMoves s s' k c point point')
      (hbytes : BytesRule s s' c point point')

variable {k : ℕ} {c : ConnectionId} {a : Await}

/-- A handle at the head of the queue that starts no coroutine. -/
theorem resume_ready {rest : List Handle} (hready : s.ready = .resume k :: rest) {k' : ℕ}
    (h : .create k' ∈ s.ready ∨ .start k' ∈ s.ready) : .create k' ∈ rest ∨ .start k' ∈ rest := by
  simpa [hready] using h

/-- A message that is put on the websocket, with the lock held. -/
theorem PutRule.moved {ws : AgentSocket} {m : ToAgent} (h : PutRule s k c ws m s')
    (hheld : s.send_buffer_lock c = some (.coroutine k)) :
    ∃ point', (∀ message, point' ≠ .acquiring message) ∧ s'.relay = s.relay.sendToAgent ws m ∧
      s'.ready = s.ready ∧ s'.blocked = s.blocked ∧
      s'.coroutines_created = s.coroutines_created ∧ s'.call = s.call ∧
      s'.coroutine = Function.update s.coroutine k (some ⟨c, point'⟩) ∧
      s'.send_buffer_lock = Function.update s.send_buffer_lock c
        (if point'.suspended then some (.coroutine k) else none) := by
  cases h with
  | suspends =>
    refine ⟨.sending, by simp, rfl, rfl, rfl, rfl, rfl, rfl, ?_⟩
    exact (Function.update_eq_self_iff.mpr hheld.symm).symm
  | ends => exact ⟨_, by simp, rfl, rfl, rfl, rfl, rfl, rfl, rfl⟩

/-- A step of the event loop's thread changes the queue, blocks, or moves a `send_async`. -/
theorem SendsLocked.loop_rule (hL : SendsLocked s) (h : SendRule s (.loop a) s') :
    LoopRule s s' := by
  cases h with
  | @creates _ k rest hblocked hready =>
    refine .queue
      (show _ = { s with ready := rest ++ [Handle.start k], blocked := none } from ?_) hblocked
      fun k' c' _ hk' => ?_
    · rw [← hblocked]
      rfl
    · rw [hready] at hk'
      simp at hk' ⊢
      tauto
  | blocks hblocked hready hk => exact .blocks hblocked hready hk rfl
  | awaits hblocked hready => exact .queue rfl hblocked fun _ _ _ => resume_ready hready
  -- The buffer is taken, and the coroutine waits for the agent's lock with the message in hand.
  | holds hruns hfree hk hc =>
    obtain ⟨point, hk, hpoint⟩ := hk
    obtain ⟨m, hm, hdata⟩ := hL.message hc _
    rw [hm]
    refine .moves ⟨hk, .inl ⟨hpoint, hfree⟩, hruns, rfl, rfl, rfl, rfl, rfl⟩
      (.takes ?_ hpoint rfl rfl)
    simpa [SendState.send_buffer, hc] using hdata
  -- It need not wait: what is taken is put on the websocket in the same step.
  | flushes hruns hfree hk hc h =>
    obtain ⟨point, hk, hpoint⟩ := hk
    obtain ⟨m, hm, hdata⟩ := hL.message hc _
    rw [hm] at h
    obtain ⟨point', hnot, hrelay, hready, hblocked, hcreated, hcall, hcoroutine, hlock⟩ :=
      (lockPassed_put h).moved (by simp)
    refine .moves ⟨hk, .inl ⟨hpoint, hfree⟩, hready ▸ hruns, hblocked, hcreated, hcall, hcoroutine,
      ?_⟩
      (.flushes hc ?_ hpoint hnot hrelay)
    · simpa using hlock
    · simpa [SendState.send_buffer, hc] using hdata
  -- The message that it has held since then is put on the websocket.
  | passes hblocked hready hk hc h =>
    obtain ⟨m, payload, rfl, hdata⟩ := hL.messages _ _ _ hk
    have hheld := (hL.coroutines _ _).mpr ⟨_, hk, rfl⟩
    obtain ⟨point', hnot, hrelay, hready', hblocked', hcreated, hcall, hcoroutine, hlock⟩ :=
      (lockPassed_put h).moved hheld
    exact .moves ⟨hk, .inr ⟨rfl, hheld⟩, .resumed hblocked (hready' ▸ hready), hblocked', hcreated,
      hcall, hcoroutine, hlock⟩ (.puts hc rfl hdata hnot hrelay)
  -- The send is over, and `send_buffer_lock` is released.
  | ends hblocked hready hk =>
    have hheld := (hL.coroutines _ _).mpr ⟨_, hk, rfl⟩
    exact .moves ⟨hk, .inr ⟨rfl, hheld⟩, .resumed hblocked hready, rfl, rfl, rfl, rfl, rfl⟩
      (.nothing rfl (by simp) rfl)

namespace SendsLocked

/-- A stretch of a `send_async` keeps the locks in order. -/
theorem moves_step (hL : SendsLocked s) {point point' : SendAsyncPoint}
    (hmoves : CoroutineMoves s s' k c point point') (hbytes : BytesRule s s' c point point') :
    SendsLocked s' := by
  refine hL.coroutine_moves hmoves.before ?_ hmoves.created hmoves.call hmoves.coroutine hmoves.lock
    (fun message hmessage => ?_) fun c' hc' => hL.ids c' ?_
  · exact hmoves.own.imp And.right And.right
  · cases hbytes with
    | @takes m hm _ hpoint' =>
      obtain rfl : .ok m = message := by simpa [hpoint'] using hmessage
      exact ⟨m, _, rfl, hm⟩
    | flushes _ _ _ hnot | puts _ _ _ hnot | nothing _ hnot => exact absurd hmessage (hnot message)
  · cases hbytes with
    | takes _ _ _ hrelay | flushes _ _ _ _ hrelay =>
      rw [hrelay] at hc'
      by_cases hne : c' = c
      · subst hne
        simpa using hc'
      · simpa [hne] using hc'
    | puts _ _ _ _ hrelay | nothing _ _ hrelay =>
      rw [hrelay] at hc'
      exact hc'

/-- A step keeps the locks with those who send. -/
theorem preserved (hL : SendsLocked s) (h : SendRule s e s') : SendsLocked s' := by
  cases e with
  | calls w c content =>
    obtain ⟨hover, -⟩ := h
    refine hL.call_moves (by simp) fun c' content' hcall => ?_
    rw [hcall] at hover
    cases hover
  | thread w =>
    cases h with
    | acquires hcall hfree => exact hL.acquires_step hcall hfree
    | @«extends» _ c content hcall =>
      refine hL.extends_step hcall fun c' hc' => hL.ids c' ?_
      by_cases hne : c' = c
      · subst hne
        simpa using hc'
      · simpa [hne] using hc'
    | schedules hcall => exact (hL.schedules_step _).call_moves (by simp) (by simp [hcall])
    | checks hcall => exact hL.call_moves (by simp) (by simp [hcall])
  | loop a =>
    cases hL.loop_rule h with
    | queue hs' =>
      subst hs'
      exact { hL with }
    | blocks _ _ hk hs' =>
      subst hs'
      exact hL.blocks_step hk
    | moves hmoves hbytes => exact hL.moves_step hmoves hbytes
  | wakes k =>
    cases h
    exact { hL with }
  | drops c =>
    cases h
    refine { hL with ids := fun c' hc' => hL.ids c' ?_ }
    revert hc'
    simp only [SendState.withRelay, _drop_relayed_connection]
    split_ifs
    · by_cases hne : c' = c
      · subst hne
        simp
      · simp [hne]
    · exact id

end SendsLocked

end HttpNetworkRelay
