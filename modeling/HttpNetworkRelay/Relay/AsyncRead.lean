import Mathlib.Data.List.Nodup
import HttpNetworkRelay.Relay.RecvStream

/-!
# The tasks that read a TcpConnectionAsync

Any number of tasks call `TcpConnectionAsync.read` on one connection, while `fill_recv` adds to its
receive buffer and `_drop_relayed_connection` drops it. All of them run on the event loop, so that a
`read` goes without interruption from one `wait` of the event to the next; `set` resolves the wait
of every task that is parked, and a resolved task resumes later, when the event may have been
cleared and the buffer emptied by another one.
-/

namespace HttpNetworkRelay

open Asyncio Python

/-- Where a task is in its `read`. -/
inductive AsyncReadPoint
  /-- In `self.event.wait()`. -/
  | parked
  | finished (result : Bytes)
  deriving DecidableEq, Repr

/-- A `read(n)`. -/
structure AsyncRead where
  n : ℤ
  point : AsyncReadPoint
  deriving DecidableEq, Repr

/-- The `read` is over. -/
def AsyncRead.over (read : AsyncRead) : Bool := read.point ≠ .parked

/-- A relay with one of its connections, and the last `read` of each task on it. -/
structure AsyncReadState where
  relay : NetworkRelay
  connection_id : ConnectionId
  read : Task → Option AsyncRead := fun _ => none

namespace AsyncReadState

variable (s : AsyncReadState)

/-- The connection object. -/
def connection : Option TcpConnection := s.relay.connection s.connection_id

/-- The bytes in `recv_buffer`. -/
def recv_buffer : Bytes := s.connection.elim [] (·.recv_buffer)

/-- The connection's event. -/
def event : Event Task := s.connection.elim {} (·.event)

/-- `TcpConnectionAsync.closed`. -/
def closed : Bool := s.connection_id ∉ s.relay.active_relayed_connections

/-- The connection object is replaced by `f` of it. -/
def modify (f : TcpConnection → TcpConnection) : AsyncReadState :=
  { s with relay := s.relay.modifyConnection s.connection_id f }

/-- A task is at a point of its `read(n)`. -/
@[simp] def setRead (t : Task) (n : ℤ) (point : AsyncReadPoint) : AsyncReadState :=
  { s with read := Function.update s.read t (some ⟨n, point⟩) }

/-- The first `k` bytes of the buffer are returned, and the rest is kept. -/
def returns (t : Task) (n : ℤ) (k : ℕ) : AsyncReadState :=
  (s.modify fun connection =>
    { connection with recv_buffer := connection.recv_buffer.drop k }).setRead t n
      (.finished (s.recv_buffer.take k))

/-- `await self.event.wait()` in the loop of `read`. If the event is set, `wait` returns at once;
the event is cleared, the tests are made again with the same result, and the second `wait` parks. -/
def parks (t : Task) (n : ℤ) : AsyncReadState :=
  (s.modify fun connection =>
    { connection with event := connection.event.clear.park t }).setRead t n .parked

/-- `read(n)`, from the test of its loop on. -/
def test (t : Task) (n : ℤ) : AsyncReadState :=
  if n = -1 then
    if s.closed then s.returns t n s.recv_buffer.length else s.parks t n
  else if s.recv_buffer = [] then
    if s.closed then s.setRead t n (.finished []) else s.parks t n
  else s.returns t n (RecvState.sliceEnd n s.recv_buffer)

/-- `read(n)`, from the call on. -/
def startRead (t : Task) (n : ℤ) : Option AsyncReadState :=
  if (s.read t).all (·.over) then
    some (if n = 0 then s.setRead t n (.finished []) else s.test t n)
  else none

/-- A parked `read` whose wait has been resolved goes on. -/
def resumeRead (t : Task) : Option AsyncReadState :=
  match s.read t with
  | some ⟨n, .parked⟩ =>
    if t ∈ s.event.resolved then
      some ((s.modify fun connection =>
        { connection with event := (connection.event.leave t).clear }).test t n)
    else none
  | _ => none

end AsyncReadState

/-- What can happen next. -/
inductive AsyncReadEvent
  /-- A task calls `read(n)`. -/
  | reads (t : Task) (n : ℤ)
  /-- A task goes on with its `read`. -/
  | resumes (t : Task)
  /-- `fill_recv(data)` is called. -/
  | fills (data : Bytes)
  /-- `_drop_relayed_connection` is called. -/
  | drops
  deriving DecidableEq, Repr

/-- One step of the event loop. -/
def asyncReadStep (s : AsyncReadState) : AsyncReadEvent → Option AsyncReadState
  | .reads t n => s.startRead t n
  | .resumes t => s.resumeRead t
  | .fills data => some (s.modify (·.fill_recv data))
  | .drops => some { s with relay := s.relay._drop_relayed_connection s.connection_id }

/-- A connection that `_create_connection` has just made. -/
def openedRead (relay : NetworkRelay) (t : Task) (request : ConnectionRequest) (ws : AgentSocket)
    (connection_id : ConnectionId) : AsyncReadState where
  relay := relay.publish connection_id (newConnection relay t request ws)
  connection_id

variable {s s' : AsyncReadState} {e : AsyncReadEvent} {t : Task} {n : ℤ}

/-! ## What a step does -/

/-- A stretch of a `read` from the test of its loop on. -/
inductive TestRule (s : AsyncReadState) (t : Task) (n : ℤ) : AsyncReadState → Prop
  /-- Everything is returned, after the drop. -/
  | all (hn : n = -1) (hclosed : s.closed = true) :
      TestRule s t n (s.returns t n s.recv_buffer.length)
  /-- Nothing is left, after the drop. -/
  | none (hn : n ≠ -1) (hempty : s.recv_buffer = []) (hclosed : s.closed = true) :
      TestRule s t n (s.setRead t n (.finished []))
  /-- A piece is returned. -/
  | some (hn : n ≠ -1) (hdata : s.recv_buffer ≠ []) :
      TestRule s t n (s.returns t n (RecvState.sliceEnd n s.recv_buffer))
  | parks (hclosed : s.closed = false) (hempty : n ≠ -1 → s.recv_buffer = []) :
      TestRule s t n (s.parks t n)

/-- What the test of the loop leads to. -/
theorem test_rule (s : AsyncReadState) (t : Task) (n : ℤ) : TestRule s t n (s.test t n) := by
  unfold AsyncReadState.test
  split_ifs with hn hclosed hempty hclosed
  · exact .all hn hclosed
  · exact .parks (by simpa using hclosed) fun hne => absurd hn hne
  · exact .none hn hempty hclosed
  · exact .parks (by simpa using hclosed) fun _ => hempty
  · exact .some hn hempty

/-- The wait of a task is over, and the event is cleared. -/
def AsyncReadState.leaves (s : AsyncReadState) (t : Task) : AsyncReadState :=
  s.modify fun connection => { connection with event := (connection.event.leave t).clear }

/-- A step of the event loop. -/
inductive AsyncReadRule (s : AsyncReadState) : AsyncReadEvent → AsyncReadState → Prop
  | zero {t : Task} (hover : (s.read t).all (·.over) = true) :
      AsyncReadRule s (.reads t 0) (s.setRead t 0 (.finished []))
  | reads {t : Task} {n : ℤ} {s' : AsyncReadState} (hover : (s.read t).all (·.over) = true)
      (hn : n ≠ 0) (h : TestRule s t n s') :
      AsyncReadRule s (.reads t n) s'
  | resumes {t : Task} {n : ℤ} {s' : AsyncReadState} (hpc : s.read t = some ⟨n, .parked⟩)
      (hresolved : t ∈ s.event.resolved) (h : TestRule (s.leaves t) t n s') :
      AsyncReadRule s (.resumes t) s'
  | fills {data} : AsyncReadRule s (.fills data) (s.modify (·.fill_recv data))
  | drops : AsyncReadRule s .drops
      { s with relay := s.relay._drop_relayed_connection s.connection_id }

/-- What a step of the connection can be. -/
theorem asyncReadStep_rule (h : asyncReadStep s e = some s') : AsyncReadRule s e s' := by
  cases e with
  | reads t n =>
    simp only [asyncReadStep, AsyncReadState.startRead] at h
    -- `read(0)` returns at once, and every other `read` looks at the buffer first.
    split_ifs at h with hover hn
    · subst hn
      obtain rfl := Option.some.inj h
      exact .zero hover
    · obtain rfl := Option.some.inj h
      exact .reads hover hn (test_rule s t n)
  | resumes t =>
    simp only [asyncReadStep, AsyncReadState.resumeRead] at h
    split at h
    case h_1 n hpc =>
      split_ifs at h with hresolved
      obtain rfl := Option.some.inj h
      exact .resumes hpc hresolved (test_rule (s.leaves t) t n)
    case h_2 => cases h
  | fills data =>
    obtain rfl := Option.some.inj h
    exact .fills
  | drops =>
    obtain rfl := Option.some.inj h
    exact .drops

/-! ## The parts of a state after a step -/

namespace AsyncReadState

/-- A change of the connection is one of its object. -/
@[simp] theorem modify_connection (f : TcpConnection → TcpConnection) :
    (s.modify f).connection = s.connection.map f := by
  simp [connection, modify]

/-- A change of the connection moves no task. -/
@[simp] theorem modify_read (f : TcpConnection → TcpConnection) : (s.modify f).read = s.read := rfl

/-- A change of the connection does not drop it. -/
@[simp] theorem modify_closed (f : TcpConnection → TcpConnection) :
    (s.modify f).closed = s.closed := rfl

/-- A change that leaves the buffer alone does so. -/
theorem modify_recv_buffer {f : TcpConnection → TcpConnection}
    (hf : ∀ x, (f x).recv_buffer = x.recv_buffer) : (s.modify f).recv_buffer = s.recv_buffer := by
  simp only [recv_buffer, modify_connection]
  cases s.connection with
  | none => rfl
  | some connection => exact hf connection

/-- A change that leaves the event alone does so. -/
theorem modify_event {f : TcpConnection → TcpConnection} (hf : ∀ x, (f x).event = x.event) :
    (s.modify f).event = s.event := by
  simp only [event, modify_connection]
  cases s.connection with
  | none => rfl
  | some connection => exact hf connection

/-- A drop of an active connection wakes its readers. -/
theorem drop_connection (s : AsyncReadState) :
    ({ s with relay := s.relay._drop_relayed_connection s.connection_id } :
      AsyncReadState).connection =
      if s.closed then s.connection else s.connection.map TcpConnection.wake_readers := by
  unfold closed connection
  by_cases hactive : s.connection_id ∈ s.relay.active_relayed_connections <;> simp [hactive]

end AsyncReadState

/-! ## The readers -/

/-- The tasks that are parked are those that wait for the event or have had their wait resolved, and
none of them waits without cause. -/
structure ReadersInformed (s : AsyncReadState) : Prop where
  made : s.connection.isSome = true
  nodup : (s.event.waiters ++ s.event.resolved).Nodup
  parked : ∀ t, (∃ n, s.read t = some ⟨n, .parked⟩) ↔
    t ∈ s.event.waiters ∨ t ∈ s.event.resolved
  cause : ∀ t n, s.read t = some ⟨n, .parked⟩ → t ∈ s.event.waiters →
    s.closed = false ∧ (n ≠ -1 → s.recv_buffer = [])

/-- `ReadersInformed`, but for a task that is about to test the buffer. -/
structure ReadersInformedBut (t : Task) (s : AsyncReadState) : Prop where
  made : s.connection.isSome = true
  nodup : (s.event.waiters ++ s.event.resolved).Nodup
  absent : t ∉ s.event.waiters ∧ t ∉ s.event.resolved
  parked : ∀ t' ≠ t, (∃ n, s.read t' = some ⟨n, .parked⟩) ↔
    t' ∈ s.event.waiters ∨ t' ∈ s.event.resolved
  cause : ∀ t' ≠ t, ∀ n, s.read t' = some ⟨n, .parked⟩ → t' ∈ s.event.waiters →
    s.closed = false ∧ (n ≠ -1 → s.recv_buffer = [])

/-- At the opening of the connection nobody reads. -/
theorem ReadersInformed.opened (relay : NetworkRelay) (t : Task) (request : ConnectionRequest)
    (ws : AgentSocket) (c : ConnectionId) : ReadersInformed (openedRead relay t request ws c) where
  made := by simp [openedRead, AsyncReadState.connection]
  nodup := by simp [openedRead, AsyncReadState.event, AsyncReadState.connection, newConnection]
  parked t' := by
    simp [openedRead, AsyncReadState.event, AsyncReadState.connection, newConnection]
  cause t' n h := by cases h

namespace ReadersInformedBut

/-- The `read` ends, with the event as it was. -/
theorem finishes (hI : ReadersInformedBut t s) {result : Bytes} {s₁ : AsyncReadState}
    (hmade : s₁.connection.isSome = true) (hevent : s₁.event = s.event) (hread : s₁.read = s.read)
    (hclosed : s₁.closed = s.closed) (hbuffer : s.recv_buffer = [] → s₁.recv_buffer = []) :
    ReadersInformed (s₁.setRead t n (.finished result)) where
  made := hmade
  nodup := by
    show (s₁.event.waiters ++ s₁.event.resolved).Nodup
    rw [hevent]
    exact hI.nodup
  parked t' := by
    show _ ↔ t' ∈ s₁.event.waiters ∨ t' ∈ s₁.event.resolved
    rw [hevent]
    by_cases ht : t' = t
    · subst ht
      simp [hI.absent]
    · simpa [ht, hread] using hI.parked t' ht
  cause t' n' hpc hwaits := by
    -- A task that waits is not the one that returns.
    have ht : t' ≠ t := by
      rintro rfl
      simp at hpc
    have hpc : s.read t' = some ⟨n', .parked⟩ := by simpa [ht, hread] using hpc
    have hwaits : t' ∈ s₁.event.waiters := hwaits
    rw [hevent] at hwaits
    obtain ⟨hopen, hempty⟩ := hI.cause t' ht n' hpc hwaits
    exact ⟨hclosed.trans hopen, fun hn => hbuffer (hempty hn)⟩

/-- The `read` waits for the event, which has been cleared. -/
theorem parks (hI : ReadersInformedBut t s) (hopen : s.closed = false)
    (hempty : n ≠ -1 → s.recv_buffer = []) : ReadersInformed (s.parks t n) := by
  obtain ⟨connection, hconnection⟩ := Option.isSome_iff_exists.mp hI.made
  have hevent : s.event = connection.event := by simp [AsyncReadState.event, hconnection]
  -- The event is cleared before the wait, and the task is the last of the waiters.
  have hevent' : (s.parks t n).event = connection.event.clear.park t := by
    show (s.modify fun connection =>
      { connection with event := connection.event.clear.park t }).event = _
    simp [AsyncReadState.event, hconnection]
  have hbuffer : (s.parks t n).recv_buffer = s.recv_buffer :=
    AsyncReadState.modify_recv_buffer (by intro; rfl)
  obtain ⟨habsent, hunresolved⟩ := hI.absent
  have hnodup := hI.nodup
  rw [hevent] at habsent hunresolved hnodup
  have hread : ∀ t' ≠ t, (s.parks t n).read t' = s.read t' := by
    intro t' ht
    simp [AsyncReadState.parks, ht]
  constructor
  · show (s.modify _).connection.isSome = true
    simp [hconnection]
  · rw [hevent']
    show ((connection.event.waiters ++ [t]) ++ connection.event.resolved).Nodup
    rw [List.append_assoc, List.singleton_append, List.nodup_middle]
    exact List.nodup_cons.mpr ⟨by simp [habsent, hunresolved], hnodup⟩
  · intro t'
    rw [hevent']
    show _ ↔ t' ∈ connection.event.waiters ++ [t] ∨ t' ∈ connection.event.resolved
    -- Only this task is a waiter now that was none before.
    by_cases ht : t' = t
    · subst ht
      simp [AsyncReadState.parks]
    · have hparked := hI.parked t' ht
      rw [hevent] at hparked
      simpa [hread t' ht, ht] using hparked
  · intro t' n' hpc hwaits
    rw [hbuffer]
    by_cases ht : t' = t
    · subst ht
      have hn : n = n' := by simpa [AsyncReadState.parks] using hpc
      subst hn
      exact ⟨hopen, hempty⟩
    · rw [hread t' ht] at hpc
      rw [hevent'] at hwaits
      have hwaits : t' ∈ connection.event.waiters ++ [t] := hwaits
      apply hI.cause t' ht n' hpc
      rw [hevent]
      simpa [ht] using hwaits

/-- A stretch of a `read` from its test on. -/
theorem test (hI : ReadersInformedBut t s) (h : TestRule s t n s') : ReadersInformed s' := by
  have hreturns : ∀ k, ReadersInformed (s.returns t n k) := by
    intro k
    obtain ⟨connection, hconnection⟩ := Option.isSome_iff_exists.mp hI.made
    refine hI.finishes ?_ (AsyncReadState.modify_event (by intro; rfl)) rfl rfl fun hempty => ?_
    · simp [hconnection]
    · have hempty : connection.recv_buffer = [] := by
        simpa [AsyncReadState.recv_buffer, hconnection] using hempty
      simp [AsyncReadState.recv_buffer, hconnection, hempty]
  cases h with
  | all => exact hreturns _
  | none => exact hI.finishes hI.made rfl rfl rfl id
  | some => exact hreturns _
  | parks hopen hempty => exact hI.parks hopen hempty

end ReadersInformedBut

namespace ReadersInformed

/-- A task that is not in a `read` calls one. -/
theorem calls (hI : ReadersInformed s) (hover : (s.read t).all (·.over) = true) :
    ReadersInformedBut t s where
  made := hI.made
  nodup := hI.nodup
  absent := by
    rw [← not_or, ← hI.parked t]
    rintro ⟨n, hpc⟩
    simp [hpc, AsyncRead.over] at hover
  parked t' _ := hI.parked t'
  cause t' _ := hI.cause t'

/-- A task leaves its wait, and clears the event. -/
theorem leaves (hI : ReadersInformed s) (t : Task) : ReadersInformedBut t (s.leaves t) := by
  obtain ⟨connection, hconnection⟩ := Option.isSome_iff_exists.mp hI.made
  have hevent : s.event = connection.event := by simp [AsyncReadState.event, hconnection]
  have hevent' : (s.leaves t).event = (connection.event.leave t).clear := by
    simp [AsyncReadState.leaves, AsyncReadState.event, hconnection]
  have hbuffer : (s.leaves t).recv_buffer = s.recv_buffer :=
    AsyncReadState.modify_recv_buffer (by intro; rfl)
  have hnodup := hI.nodup
  rw [hevent] at hnodup
  -- `wait` has returned: the task is no waiter any more, resolved or not.
  have hwaiters : (s.leaves t).event.waiters = connection.event.waiters.erase t := by
    rw [hevent']
    rfl
  have hres : (s.leaves t).event.resolved = connection.event.resolved.erase t := by
    rw [hevent']
    rfl
  obtain ⟨hnodup₁, hnodup₂, hdisjoint⟩ := List.nodup_append'.mp hnodup
  constructor
  · simp [AsyncReadState.leaves, hconnection]
  · rw [hwaiters, hres]
    exact hnodup.sublist (List.erase_sublist.append List.erase_sublist)
  · rw [hwaiters, hres]
    exact ⟨hnodup₁.not_mem_erase, hnodup₂.not_mem_erase⟩
  · intro t' ht
    rw [hwaiters, hres, List.mem_erase_of_ne ht, List.mem_erase_of_ne ht, ← hevent]
    exact hI.parked t'
  · intro t' ht n' hpc hwaits
    rw [hwaiters, List.mem_erase_of_ne ht, ← hevent] at hwaits
    rw [hbuffer]
    exact hI.cause t' n' hpc hwaits

/-- The event is set: nobody waits any more. -/
theorem sets (hI : ReadersInformed s) {s₁ : AsyncReadState} (hmade : s₁.connection.isSome = true)
    (hevent : s₁.event = s.event.set) (hread : s₁.read = s.read) : ReadersInformed s₁ where
  made := hmade
  nodup := by
    rw [hevent]
    show ([] ++ (s.event.resolved ++ s.event.waiters)).Nodup
    rw [List.nil_append]
    exact List.nodup_append_comm.mp hI.nodup
  parked t := by
    rw [hevent, hread, hI.parked t]
    simp [Event.set, or_comm]
  cause t n _ hwaits := by
    rw [hevent] at hwaits
    cases hwaits

/-- A step keeps the readers informed. -/
theorem preserved (hI : ReadersInformed s) (h : AsyncReadRule s e s') : ReadersInformed s' := by
  obtain ⟨connection, hconnection⟩ := Option.isSome_iff_exists.mp hI.made
  cases h with
  | zero hover => exact (hI.calls hover).finishes hI.made rfl rfl rfl id
  | reads hover _ h => exact (hI.calls hover).test h
  | resumes _ _ h => exact (hI.leaves _).test h
  -- The event is set, so that no reader is left unresolved.
  | fills =>
    refine hI.sets (by simp [hconnection]) ?_ rfl
    simp [AsyncReadState.event, hconnection]
  | drops =>
    have hdrop := AsyncReadState.drop_connection s
    by_cases hclosed : s.closed = true
    · -- The id has gone already.
      rw [if_pos hclosed] at hdrop
      have hnone : ∀ t, t ∉ s.event.waiters := by
        intro t hwaits
        obtain ⟨n, hpc⟩ := (hI.parked t).mpr (.inl hwaits)
        rw [(hI.cause t n hpc hwaits).1] at hclosed
        cases hclosed
      have hevent : ({ s with relay := s.relay._drop_relayed_connection s.connection_id } :
          AsyncReadState).event = s.event := by
        simp only [AsyncReadState.event, hdrop]
      exact {
        made := by rw [hdrop]; exact hI.made
        nodup := by rw [hevent]; exact hI.nodup
        parked := fun t => by rw [hevent]; exact hI.parked t
        cause := fun t n _ hwaits => by
          rw [hevent] at hwaits
          exact absurd hwaits (hnone t) }
    · rw [if_neg hclosed] at hdrop
      refine hI.sets (by rw [hdrop]; simp [hconnection]) ?_ rfl
      simp only [AsyncReadState.event, hdrop, hconnection]
      rfl

end ReadersInformed

/-! ## What a read returns -/

/-- A `read` that is over has taken its result. -/
def AsyncRead.takes : AsyncRead → List BufferShown
  | ⟨n, .finished result⟩ => [.taken n result]
  | ⟨_, .parked⟩ => []

/-- What an event shows. -/
def asyncShows (s : AsyncReadState) : AsyncReadEvent → List BufferShown
  | .reads t n => ((s.startRead t n).bind (·.read t)).elim [] AsyncRead.takes
  | .resumes t => ((s.resumeRead t).bind (·.read t)).elim [] AsyncRead.takes
  | .fills data => [.given data]
  | .drops => []

/-- What a stretch of `read(n)` does to the bytes: it parks and leaves them alone, or it returns the
first of them. -/
inductive ReadOutcome (s : AsyncReadState) (t : Task) (n : ℤ) (s' : AsyncReadState) : Prop
  | parked (hpc : s'.read t = some ⟨n, .parked⟩) (hbuffer : s'.recv_buffer = s.recv_buffer)
  | finished (result : Bytes) (hpc : s'.read t = some ⟨n, .finished result⟩)
      (hbuffer : result ++ s'.recv_buffer = s.recv_buffer)
      (hbound : 1 ≤ n → result.length ≤ n.toNat)
      (hend : 1 ≤ n → result = [] → s.closed = true ∧ s.recv_buffer = [])
      (hall : n = -1 → s.closed = true ∧ result = s.recv_buffer)

namespace AsyncReadState

/-- What is returned is taken from the front of the buffer. -/
theorem returns_recv_buffer (s : AsyncReadState) (t : Task) (n : ℤ) (k : ℕ) :
    (s.returns t n k).recv_buffer = s.recv_buffer.drop k := by
  show (s.modify _).recv_buffer = _
  simp only [recv_buffer, modify_connection]
  cases s.connection <;> simp

/-- A task that parks takes nothing. -/
theorem parks_recv_buffer (s : AsyncReadState) (t : Task) (n : ℤ) :
    (s.parks t n).recv_buffer = s.recv_buffer :=
  modify_recv_buffer (by intro; rfl)

/-- A task that has left the event has taken nothing. -/
theorem leaves_recv_buffer (s : AsyncReadState) (t : Task) :
    (s.leaves t).recv_buffer = s.recv_buffer :=
  modify_recv_buffer (by intro; rfl)

/-- What is received comes to the end of the buffer. -/
theorem fill_recv_buffer (hmade : s.connection.isSome = true) (data : Bytes) :
    (s.modify (·.fill_recv data)).recv_buffer = s.recv_buffer ++ data := by
  obtain ⟨connection, hconnection⟩ := Option.isSome_iff_exists.mp hmade
  simp [recv_buffer, hconnection]

/-- A drop leaves the buffer as it is. -/
theorem drop_recv_buffer (s : AsyncReadState) :
    ({ s with relay := s.relay._drop_relayed_connection s.connection_id } :
      AsyncReadState).recv_buffer = s.recv_buffer := by
  simp only [recv_buffer, drop_connection]
  split_ifs
  · rfl
  · cases s.connection <;> rfl

end AsyncReadState

/-- What a stretch of `read` does to the bytes. -/
theorem TestRule.outcome (h : TestRule s t n s') : ReadOutcome s t n s' := by
  cases h with
  | parks =>
    refine .parked ?_ (AsyncReadState.parks_recv_buffer s t n)
    simp [AsyncReadState.parks]
  -- `read(-1)` returns all that is there once the connection is dropped.
  | all hn hclosed =>
    refine .finished _ (by simp [AsyncReadState.returns]) ?_ (fun h => by omega)
      (fun h => by omega) fun _ => ⟨hclosed, List.take_length⟩
    rw [AsyncReadState.returns_recv_buffer, List.take_append_drop]
  -- Nothing is left, and the empty result is the end of the stream.
  | none hn hempty hclosed =>
    exact .finished [] (by simp) rfl (fun _ => Nat.zero_le _) (fun _ _ => ⟨hclosed, hempty⟩)
      fun h => absurd h hn
  | some hn hdata =>
    refine .finished (s.recv_buffer.take (RecvState.sliceEnd n s.recv_buffer))
      (by simp [AsyncReadState.returns]) ?_ (fun hpos => ?_) (fun hpos hnil => ?_)
      fun h => absurd h hn
    · rw [AsyncReadState.returns_recv_buffer, List.take_append_drop]
    · rw [RecvState.sliceEnd_eq hpos]
      exact List.length_take_le _ _
    · exact absurd hnil (RecvState.take_sliceEnd_ne_nil hpos hdata)

/-- A step of a task in its `read(n)`. -/
theorem AsyncReadRule.outcome (h : AsyncReadRule s e s') (htask : e = .reads t n ∨ e = .resumes t) :
    ∃ n', ReadOutcome s t n' s' := by
  rcases htask with rfl | rfl
  · cases h with
    | zero =>
      exact ⟨0, .finished [] (by simp) rfl (fun h => by omega) (fun h => by omega)
        fun h => by cases h⟩
    | reads _ _ h => exact ⟨n, h.outcome⟩
  · cases h with
    | @resumes _ n' _ _ _ h =>
      -- What the wait leaves behind does not touch the bytes.
      have hbuffer := AsyncReadState.leaves_recv_buffer s t
      refine ⟨n', ?_⟩
      cases h.outcome with
      | parked hpc hkept => exact .parked hpc (hkept.trans hbuffer)
      | finished result hpc hkept hbound hend hall =>
        rw [hbuffer] at hkept hend hall
        exact .finished result hpc hkept hbound hend hall

/-! ## Readers have their cause -/

/-- The task a step belongs to. -/
def AsyncReadEvent.task? : AsyncReadEvent → Option Task
  | .reads t _ | .resumes t => some t
  | _ => none

/-- No reader waits without cause, and none ends without. -/
structure AsyncReadState.Caused (s : AsyncReadState) : Prop where
  waits : ∀ t n, s.read t = some ⟨n, .parked⟩ → t ∉ s.event.resolved →
    s.closed = false ∧ (1 ≤ n → s.recv_buffer = [])
  ends : ∀ e s' t n result, asyncReadStep s e = some s' → e.task? = some t →
    s'.read t = some ⟨n, .finished result⟩ →
      (1 ≤ n → result = [] → s.closed = true ∧ s.recv_buffer = []) ∧
        (n = -1 → s.closed = true ∧ result = s.recv_buffer)

/-- Readers that are informed wait with a cause. -/
theorem ReadersInformed.caused (hI : ReadersInformed s) : s.Caused where
  waits t n hpc hunresolved := by
    have hwaits : t ∈ s.event.waiters :=
      ((hI.parked t).mp ⟨n, hpc⟩).resolve_right hunresolved
    obtain ⟨hopen, hempty⟩ := hI.cause t n hpc hwaits
    exact ⟨hopen, fun hn => hempty (by omega)⟩
  ends e s' t n result hstep htask hpc := by
    -- A `read` ends in the step that calls it or in one that resumes it.
    have hevent : ∃ m, e = .reads t m ∨ e = .resumes t := by
      cases e with
      | reads t' m =>
        obtain rfl : t' = t := by simpa [AsyncReadEvent.task?] using htask
        exact ⟨m, .inl rfl⟩
      | resumes t' =>
        obtain rfl : t' = t := by simpa [AsyncReadEvent.task?] using htask
        exact ⟨0, .inr rfl⟩
      | fills | drops => cases htask
    obtain ⟨m, hevent⟩ := hevent
    obtain ⟨n', houtcome⟩ := (asyncReadStep_rule hstep).outcome hevent
    cases houtcome with
    | parked hpc' =>
      rw [hpc] at hpc'
      cases hpc'
    | finished result' hpc' _ _ hend hall =>
      rw [hpc] at hpc'
      obtain ⟨rfl, rfl⟩ : n = n' ∧ result = result' := by simpa using hpc'
      exact ⟨hend, hall⟩

/-- In every run of the event loop, every reader waits for a cause. -/
theorem readers_wait_with_cause {relay : NetworkRelay} {request : ConnectionRequest}
    {ws : AgentSocket} {c : ConnectionId}
    (h : Reaches asyncReadStep (fun _ _ => True) (openedRead relay t request ws c) s) :
    s.Caused := by
  have hI : ReadersInformed s :=
    h.invariant (.opened relay t request ws c) fun s e s' _ _ hstep hI =>
      hI.preserved (asyncReadStep_rule hstep)
  exact hI.caused

/-- A connection through an agent at websocket 0. -/
def someRead : AsyncReadState :=
  openedRead {} (.call 0) {
      agent_connection_id := "agent"
      target_ip := "10.0.0.1"
      target_port := 22
      protocol := "tcp"
      connection_class := .tcpConnectionAsync } ⟨0⟩ someConnection

/-- The first of two waiting tasks takes the byte that has come; the second, which waits for
everything, and a third wait on, until the connection is dropped. The second one goes on first. -/
def twoReaders : AsyncReadState :=
  (run asyncReadStep someRead
    [.reads (.call 1) 1, .reads (.call 2) (-1), .fills [7], .resumes (.call 1),
      .resumes (.call 2), .reads (.call 3) 1, .drops, .resumes (.call 2)]).get (by decide +kernel)

/-- After the drop one reader is woken with everything, and another has yet to test. -/
theorem twoReaders_caused :
    (twoReaders.closed = true ∧ twoReaders.read (.call 2) = some ⟨-1, .finished []⟩ ∧
      twoReaders.read (.call 3) = some ⟨1, .parked⟩) ∧ twoReaders.Caused :=
  ⟨by decide +kernel, readers_wait_with_cause
    (Reaches.init.of_run (fun _ _ _ => trivial) (Option.some_get _).symm)⟩

/-! ## The bytes -/

namespace AsyncReadState

/-- What a run of the event loop conserves: what has been returned and what is in the buffer are
what was given. -/
structure Conserves (s : AsyncReadState) (l : List BufferShown) : Prop where
  whole : takenBytes l ++ s.recv_buffer = givenBytes l
  bounded : ∀ n data, .taken n data ∈ l → 1 ≤ n → data.length ≤ n.toNat
  eof : ∀ e n, (∃ s', asyncReadStep s e = some s') → .taken n [] ∈ asyncShows s e → 1 ≤ n →
    s.recv_buffer = []
  drop_keeps : ∀ s', asyncReadStep s .drops = some s' → s'.recv_buffer = s.recv_buffer
  /-- What is in the buffer can be read, also after a drop. -/
  readable : ∀ t, (s.read t).all (·.over) = true → s.recv_buffer ≠ [] → ∀ n, 1 ≤ n →
    ∃ s', asyncReadStep s (.reads t n) = some s' ∧
      s'.read t = some ⟨n, .finished (s.recv_buffer.take n.toNat)⟩ ∧
      s'.recv_buffer = s.recv_buffer.drop n.toNat
  all_readable : ∀ t, (s.read t).all (·.over) = true → s.closed = true →
    ∃ s', asyncReadStep s (.reads t (-1)) = some s' ∧
      s'.read t = some ⟨-1, .finished s.recv_buffer⟩ ∧ s'.recv_buffer = []

/-- The invariant of the record. -/
structure Accounted (s : AsyncReadState) (l : List BufferShown) : Prop where
  made : s.connection.isSome = true
  whole : takenBytes l ++ s.recv_buffer = givenBytes l
  bounded : ∀ n data, .taken n data ∈ l → 1 ≤ n → data.length ≤ n.toNat

/-- What a step of a task shows is what its `read` has taken. -/
theorem shows_of_step (h : asyncReadStep s e = some s') (htask : e = .reads t n ∨ e = .resumes t) :
    asyncShows s e = (s'.read t).elim [] AsyncRead.takes := by
  rcases htask with rfl | rfl
  · have h : s.startRead t n = some s' := h
    simp [asyncShows, h]
  · have h : s.resumeRead t = some s' := h
    simp [asyncShows, h]

namespace Accounted

variable {l : List BufferShown}

/-- A step of a task. -/
theorem task_step (hA : Accounted s l) (h : asyncReadStep s e = some s')
    (hmade : s'.connection.isSome = true) (htask : e = .reads t n ∨ e = .resumes t) :
    Accounted s' (l ++ asyncShows s e) := by
  have hwhole := hA.whole
  rw [shows_of_step h htask]
  obtain ⟨n', houtcome⟩ := (asyncReadStep_rule h).outcome htask
  cases houtcome with
  -- The task waits, and the buffer is as it was.
  | parked hpc hbuffer =>
    rw [hpc, Option.elim_some, AsyncRead.takes, List.append_nil]
    exact ⟨hmade, by rw [hbuffer, hwhole], hA.bounded⟩
  | finished result hpc hbuffer hbound =>
    rw [hpc, Option.elim_some, AsyncRead.takes]
    refine ⟨hmade, ?_, ?_⟩
    · calc takenBytes (l ++ [.taken n' result]) ++ s'.recv_buffer
          = takenBytes l ++ (result ++ s'.recv_buffer) := by
            simp [takenBytes, BufferShown.taken?]
        _ = givenBytes l := by rw [hbuffer, hwhole]
        _ = givenBytes (l ++ [.taken n' result]) := by simp [givenBytes, BufferShown.given?]
    · intro m data hmem hm
      rcases List.mem_append.mp hmem with hold | hnew
      · exact hA.bounded m data hold hm
      · obtain ⟨rfl, rfl⟩ : m = n' ∧ data = result := by simpa using hnew
        exact hbound hm

/-- A step keeps the account of the bytes. -/
theorem preserved (hA : Accounted s l) (h : asyncReadStep s e = some s')
    (hmade : s'.connection.isSome = true) : Accounted s' (l ++ asyncShows s e) := by
  have hwhole := hA.whole
  cases e with
  | reads t n => exact hA.task_step h hmade (.inl rfl)
  | resumes t => exact hA.task_step (n := 0) h hmade (.inr rfl)
  | fills data =>
    obtain rfl := Option.some.inj h
    refine ⟨hmade, ?_, ?_⟩
    · rw [fill_recv_buffer hA.made]
      calc takenBytes (l ++ [.given data]) ++ (s.recv_buffer ++ data)
          = takenBytes l ++ s.recv_buffer ++ data := by simp [takenBytes, BufferShown.taken?]
        _ = givenBytes l ++ data := by rw [hwhole]
        _ = givenBytes (l ++ [.given data]) := by simp [givenBytes, BufferShown.given?]
    · intro m data hmem hm
      exact hA.bounded m data (by simpa [asyncShows] using hmem) hm
  -- The drop leaves the buffer to the readers.
  | drops =>
    obtain rfl := Option.some.inj h
    rw [asyncShows, List.append_nil]
    exact ⟨hmade, by rw [drop_recv_buffer, hwhole], hA.bounded⟩

end Accounted

/-- A `read` on a buffer with bytes in it returns at once. -/
theorem read_data (hover : (s.read t).all (·.over) = true) (hdata : s.recv_buffer ≠ [])
    (hn : 1 ≤ n) :
    asyncReadStep s (.reads t n) = some (s.returns t n n.toNat) := by
  have hzero : n ≠ 0 := by omega
  have hall : n ≠ -1 := by omega
  simp [asyncReadStep, startRead, test, hover, hdata, hzero, hall, RecvState.sliceEnd_eq hn]

/-- `read(-1)` on a dropped connection returns at once. -/
theorem read_all (hover : (s.read t).all (·.over) = true) (hclosed : s.closed = true) :
    asyncReadStep s (.reads t (-1)) = some (s.returns t (-1) s.recv_buffer.length) := by
  simp [asyncReadStep, startRead, test, hover, hclosed]

/-- An account of the bytes conserves them. -/
theorem Accounted.conserves {l : List BufferShown} (hA : Accounted s l) : s.Conserves l where
  whole := hA.whole
  bounded := hA.bounded
  eof e n hstep hmem hn := by
    obtain ⟨s', hstep⟩ := hstep
    have htask : ∃ t m, e = .reads t m ∨ e = .resumes t := by
      cases e with
      | reads t m => exact ⟨t, m, .inl rfl⟩
      | resumes t => exact ⟨t, 0, .inr rfl⟩
      | fills | drops => simp [asyncShows] at hmem
    obtain ⟨t, m, htask⟩ := htask
    rw [shows_of_step hstep htask] at hmem
    obtain ⟨n', houtcome⟩ := (asyncReadStep_rule hstep).outcome htask
    cases houtcome with
    | parked hpc => simp [hpc, AsyncRead.takes] at hmem
    | finished result hpc _ _ hend =>
      obtain ⟨rfl, rfl⟩ : n = n' ∧ [] = result := by simpa [hpc, AsyncRead.takes] using hmem
      exact (hend hn rfl).2
  drop_keeps s' h := by
    obtain rfl := Option.some.inj h
    exact drop_recv_buffer s
  readable t hover hdata n hn :=
    ⟨_, read_data hover hdata hn, by simp [returns], returns_recv_buffer ..⟩
  all_readable t hover hclosed :=
    ⟨_, read_all hover hclosed, by simp [returns], by simp [returns_recv_buffer]⟩

/-- In every run of the event loop, the bytes of the connection are conserved. -/
theorem read_conserves {relay : NetworkRelay} {request : ConnectionRequest} {ws : AgentSocket}
    {c : ConnectionId} {l : List BufferShown}
    (h : Traced asyncReadStep (fun _ _ => True) asyncShows (openedRead relay t request ws c) s l) :
    s.Conserves l := by
  have hinv : ReadersInformed s ∧ Accounted s l := by
    refine h.invariant (I := fun s l => ReadersInformed s ∧ Accounted s l)
      ⟨.opened relay t request ws c, ?_⟩ fun s e s' l _ _ hstep hinv => ?_
    · exact {
        made := (ReadersInformed.opened relay t request ws c).made
        whole := by
          simp [openedRead, recv_buffer, connection, newConnection, takenBytes, givenBytes]
        bounded := fun n data h => by cases h }
    · have hI := hinv.1.preserved (asyncReadStep_rule hstep)
      exact ⟨hI, hinv.2.preserved hstep hI.made⟩
  exact hinv.2.conserves

end AsyncReadState

/-- The receive buffers conserve the byte stream, that of a `TcpConnection` and that of a
`TcpConnectionAsync`. -/
theorem receive_buffers_conserve (relay : NetworkRelay) (t : Task) (request : ConnectionRequest)
    (ws : AgentSocket) (c : ConnectionId) (l : List BufferShown) :
    (∀ s, Traced recvStep (fun _ _ => True) RecvState.shows (openedRecv relay t request ws c) s l →
      s.Conserves l) ∧
    (∀ s, Traced asyncReadStep (fun _ _ => True) asyncShows (openedRead relay t request ws c) s l →
      s.Conserves l) :=
  ⟨fun _ h => RecvState.recv_conserves h, fun _ h => AsyncReadState.read_conserves h⟩

/-- A `recv` times out; the next one takes a part of what has come, and after a drop another one
takes the rest. -/
def partialRecvs : List RecvEvent :=
  [.settimeout (some 1), .calls 3, .reader, .reader, .reader, .reader, .reader, .reader, .timesOut,
    .fills [1, 2, 3], .loop, .loop, .loop, .loop] ++
    .calls 2 :: List.replicate 10 .reader ++
    [.drops, .loop, .loop] ++ .calls 5 :: List.replicate 10 .reader

/-- The connection after the partial reads by threads. -/
def partialRecv : RecvState := (run recvStep someRecv partialRecvs).get (by decide +kernel)

/-- Of three tasks that read, the last one finds nothing after the drop. -/
def partialReads : List AsyncReadEvent :=
  [.reads (.call 1) 2, .fills [1, 2, 3], .resumes (.call 1), .reads (.call 2) 5,
    .reads (.call 3) 1, .drops, .resumes (.call 3)]

/-- The connection after the partial reads by tasks. -/
def partialRead : AsyncReadState :=
  (run asyncReadStep someRead partialReads).get (by decide +kernel)

/-- What was received is returned in order, before and after the drop, and the third task gets
nothing. -/
theorem partialRecv_conserves :
    (observe recvStep RecvState.shows someRecv partialRecvs =
        [.given [1, 2, 3], .taken 2 [1, 2], .taken 5 [3]] ∧
      partialRecv.closed = true ∧
      partialRecv.Conserves (observe recvStep RecvState.shows someRecv partialRecvs)) ∧
      observe asyncReadStep asyncShows someRead partialReads =
        [.given [1, 2, 3], .taken 2 [1, 2], .taken 5 [3], .taken 1 []] ∧
      partialRead.Conserves (observe asyncReadStep asyncShows someRead partialReads) := by
  have hrecv : Traced recvStep (fun _ _ => True) RecvState.shows someRecv partialRecv
      ([] ++ observe recvStep RecvState.shows someRecv partialRecvs) :=
    Traced.init.of_run (fun _ _ _ => trivial) (Option.some_get _).symm
  have hread : Traced asyncReadStep (fun _ _ => True) asyncShows someRead partialRead
      ([] ++ observe asyncReadStep asyncShows someRead partialReads) :=
    Traced.init.of_run (fun _ _ _ => trivial) (Option.some_get _).symm
  rw [List.nil_append] at hrecv hread
  exact ⟨⟨by decide +kernel, by decide +kernel,
      (receive_buffers_conserve _ _ _ _ _ _).1 _ hrecv⟩,
    by decide +kernel, (receive_buffers_conserve _ _ _ _ _ _).2 _ hread⟩

end HttpNetworkRelay
