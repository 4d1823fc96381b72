import HttpNetworkRelay.Asyncio.LockTable
import HttpNetworkRelay.Relay.SessionEnd

/-!
# The send locks of the agents' websockets

`agent_connection_locks` as a table of locks that are made on demand, and where each task is with
them. Every coroutine that sends on an agent's websocket is followed once, through the operations
that it makes on the table: no stretch makes others than those of its own task, and the only entries
removed are those of a websocket whose registration is being closed.
-/

namespace HttpNetworkRelay

open Asyncio Python RelayState NetworkRelay

/-- `agent_connection_locks` with its lock objects. -/
def NetworkRelay.locks (r : NetworkRelay) : LockTable AgentSocket Task :=
  ⟨r.agent_connection_locks, r.lock, r.locks_created⟩

/-! ## Where a task is with a send lock -/

/-- The use of the lock of `ws` at a suspension point of a locked send. -/
def LockedSend.use (ws : AgentSocket) : LockedSend → LockUse AgentSocket
  | .acquiring l => ⟨ws, l, false⟩
  | .sending l => ⟨ws, l, true⟩

/-- The use of the lock of `ws` at a suspension point of `close_relayed_connection`. -/
def CloseRelayedConnection.use? (ws : AgentSocket) : CloseRelayedConnection →
    Option (LockUse AgentSocket)
  | .informing send => some (send.use ws)
  | .closingClient => none

/-- The use of a lock at a suspension point of `edge_agent_connection_close`. -/
def EdgeAgentConnectionClose.use? (pc : EdgeAgentConnectionClose) : Option (LockUse AgentSocket) :=
  pc.pc.use? pc.agent_connection

/-- The use of a lock at a suspension point of `_create_connection`. -/
def CreateConnection.use? (pc : CreateConnection) : Option (LockUse AgentSocket) :=
  match pc.point with
  | .sending send => some (send.use pc.agent_connection)
  | .waiting => none

/-- The use after a stretch of a coroutine, by the point at which it is parked. -/
def useOf {π α : Type} (use? : π → Option (LockUse AgentSocket)) : Res π α Exc →
    Option (LockUse AgentSocket)
  | .parked pc => use? pc
  | .returned _ | .raised _ => none

/-- The websocket of the agent of a connection object. -/
def NetworkRelay.agentOf (r : NetworkRelay) (connection_id : ConnectionId) : Option AgentSocket :=
  (r.connection connection_id).map (·.agent_connection)

namespace RelayState

/-- The use that a task makes of the send lock of an agent's websocket. -/
def use? (s : RelayState) : Task → Option (LockUse AgentSocket)
  | .handshake W =>
    match s.handshake W with
    | some (.evicting _ _ pc) => pc.use?
    | _ => none
  | .keepAlive W =>
    match s.keepAlive W with
    | some (.sending send) => some (send.use W)
    | _ => none
  | .msgLoop W =>
    match s.msgLoop W with
    | some ⟨_, .resetting c pc⟩ => (s.relay.agentOf c).bind pc.use?
    | some ⟨_, .tearingDown pc⟩ => pc.use?
    | _ => none
  | .client A =>
    match s.client A with
    | some (.creating _ pc) => pc.use?
    | some (.forwarding c _ send) => (s.relay.agentOf c).map send.use
    | some (.closing c pc) => (s.relay.agentOf c).bind pc.use?
    | _ => none
  -- A reader sends to its access client only, which has no such lock.
  | .reader _ => none
  | .call k =>
    match s.call k with
    | some (.creating pc) => pc.use?
    | _ => none
  | .closer k =>
    match s.closer k with
    | some ⟨_, ws, .closing pc⟩ => pc.use? ws
    | _ => none
  | .sender k =>
    match s.sender k with
    | some ⟨c, .sending _ send⟩ => (s.relay.agentOf c).map send.use
    | _ => none

end RelayState

/-! ## The coroutines -/

section

variable {r : NetworkRelay} {t : Task} {ws : AgentSocket} {P : AgentSocket → Prop}

/-- The body of a locked send keeps the lock, or releases it where the message cannot be made. -/
theorem body_ops (message : Except Exc ToAgent) (l : ℕ) :
    LockTable.Ops t P (r.locks, some ⟨ws, l, true⟩)
      ((LockedSend.body r ws message l).1.locks,
        useOf (fun pc => some (LockedSend.use ws pc)) (LockedSend.body r ws message l).2) := by
  cases message with
  -- The message cannot be encoded, so nothing is sent.
  | error e => exact .single (.releases r.locks ws l)
  | ok m => exact .refl

/-- The lock of a websocket, as the table gives it. -/
theorem agent_send_lock_locks (r : NetworkRelay) (ws : AgentSocket) :
    (r._agent_send_lock ws).1 = (r.locks.get ws).1 ∧
      (r._agent_send_lock ws).2.locks = (r.locks.get ws).2 := by
  cases hentry : r.agent_connection_locks ws with
  | some l => simp [_agent_send_lock, LockTable.get, locks, hentry]
  | none => simp [_agent_send_lock, LockTable.get, locks, hentry]

/-- A locked send takes the lock or waits for it. -/
theorem locked_send_ops (r : NetworkRelay) (t : Task) (ws : AgentSocket)
    (message : Except Exc ToAgent) :
    LockTable.Ops t P (r.locks, none)
      ((locked_send r t ws message).1.locks,
        useOf (fun pc => some (LockedSend.use ws pc)) (locked_send r t ws message).2) := by
  obtain ⟨hl, hlocks⟩ := agent_send_lock_locks r ws
  unfold locked_send
  dsimp only
  split
  case isTrue hfree =>
    -- The lock is free, so the task takes it and goes on with the body of the send.
    have htakes : LockTable.Op t P (r.locks, none)
        (((r._agent_send_lock ws).2.acquireLock (r._agent_send_lock ws).1 t).locks,
          some ⟨ws, (r._agent_send_lock ws).1, true⟩) := by
      have hop := LockTable.Op.takes (t := t) (P := P) r.locks ws
        (by rw [← hlocks, ← hl]; exact hfree)
      rw [← hlocks, ← hl] at hop
      exact hop
    exact .head htakes (body_ops message _)
  case isFalse hbusy =>
    -- The lock is held or has a line, and the task joins the line.
    have hop := LockTable.Op.queues (t := t) (P := P) r.locks ws
      (by rw [← hlocks, ← hl]; exact Bool.eq_false_iff.mpr hbusy)
    rw [← hlocks, ← hl] at hop
    exact .single hop

/-- A locked send that goes on uses the lock as asyncio does. -/
theorem LockedSend.resume_ops {message : Except Exc ToAgent} {pc : LockedSend} {o : Outcome}
    {x : NetworkRelay × Res LockedSend Unit Exc} (h : pc.resume r t ws message o = some x) :
    LockTable.Resumes t P r.locks (some (pc.use ws))
      (x.1.locks, useOf (fun pc => some (LockedSend.use ws pc)) x.2) := by
  unfold LockedSend.resume at h
  split at h
  · split at h
    case isTrue hheld =>
      -- The task has been handed the lock.
      obtain rfl := Option.some.inj h
      exact ⟨hheld, body_ops message _⟩
    case isFalse => cases h
  -- The send has completed or has raised, and the lock is released.
  · obtain rfl := Option.some.inj h
    exact .refl
  · obtain rfl := Option.some.inj h
    exact .refl
  · cases h

/-- The second half of `close_relayed_connection` makes no use of the locks. -/
theorem closeClient_locks (ws : AgentSocket) (r : NetworkRelay) (c : ConnectionId) :
    (CloseRelayedConnection.closeClient r c).1.locks = r.locks ∧
      useOf (CloseRelayedConnection.use? ws) (CloseRelayedConnection.closeClient r c).2 = none := by
  unfold CloseRelayedConnection.closeClient
  split <;> exact ⟨rfl, rfl⟩

/-- What a close does after its send leaves the locks as they are. -/
theorem informed_locks (ws : AgentSocket) (c : ConnectionId)
    (x : NetworkRelay × Res LockedSend Unit Exc) :
    (CloseRelayedConnection.informed c x).1.locks = x.1.locks ∧
      useOf (CloseRelayedConnection.use? ws) (CloseRelayedConnection.informed c x).2 =
        useOf (fun pc => some (LockedSend.use ws pc)) x.2 := by
  obtain ⟨r', res⟩ := x
  cases res with
  | parked pc => exact ⟨rfl, rfl⟩
  | returned a => exact closeClient_locks ws r' c
  | raised e =>
    -- The agent is gone: close_relayed_connection passes the exceptions that say so.
    simp only [CloseRelayedConnection.informed, await_raised]
    split
    · split
      · exact closeClient_locks ws r' c
      · exact ⟨rfl, rfl⟩
    · exact ⟨rfl, rfl⟩

/-- A close starts with a locked send. -/
theorem close_relayed_connection_ops (r : NetworkRelay) (t : Task) (c : ConnectionId)
    (ws : AgentSocket) :
    LockTable.Ops t P (r.locks, none)
      ((close_relayed_connection r t c ws).1.locks,
        useOf (CloseRelayedConnection.use? ws) (close_relayed_connection r t c ws).2) := by
  obtain ⟨hlocks, huse⟩ := informed_locks ws c
    (locked_send r t ws (.ok (closeMessage c)))
  rw [close_relayed_connection, hlocks, huse]
  exact locked_send_ops r t ws _

/-- A close that goes on uses the lock as asyncio does. -/
theorem CloseRelayedConnection.resume_ops {c : ConnectionId} {pc : CloseRelayedConnection}
    {o : Outcome} {x : NetworkRelay × Res CloseRelayedConnection Unit Exc}
    (h : pc.resume r t c ws o = some x) :
    LockTable.Resumes t P r.locks (pc.use? ws)
      (x.1.locks, useOf (CloseRelayedConnection.use? ws) x.2) := by
  cases pc with
  | informing send =>
    obtain ⟨y, hsend, rfl⟩ := Option.map_eq_some_iff.mp h
    obtain ⟨hlocks, huse⟩ := informed_locks ws c y
    rw [hlocks, huse]
    exact LockedSend.resume_ops hsend
  | closingClient =>
    -- The access client's websocket is closed without a lock.
    simp only [resume] at h
    split at h
    · obtain rfl := Option.some.inj h
      exact .refl
    · split at h
      · obtain rfl := Option.some.inj h
        exact .refl
      · obtain rfl := Option.some.inj h
        exact .refl
    · cases h

/-- The websockets whose entry the closing of the registration of `ws` may remove. -/
theorem EdgeAgentConnectionClose.loop_ops (hws : P ws) (ids : List ConnectionId) :
    LockTable.Ops t P (r.locks, none)
      ((loop r t ws ids).1.locks, useOf EdgeAgentConnectionClose.use? (loop r t ws ids).2) := by
  cases ids with
  | nil => exact .single (.pops r.locks none ws hws)
  | cons c rest =>
    -- A close parks at once, in its send or in the line for the lock.
    obtain ⟨r', send, heq, -, -⟩ := close_relayed_connection_ok r t c ws
    have hops := close_relayed_connection_ops (P := P) r t c ws
    rw [heq] at hops
    rw [loop, heq]
    exact hops

/-- A teardown that goes on uses the lock as asyncio does, and pops the entry at its end. -/
theorem EdgeAgentConnectionClose.resume_ops {pc : EdgeAgentConnectionClose} {o : Outcome}
    (hws : P pc.agent_connection) {x : NetworkRelay × Res EdgeAgentConnectionClose Unit Exc}
    (h : pc.resume r t o = some x) :
    LockTable.Resumes t P r.locks pc.use? (x.1.locks, useOf EdgeAgentConnectionClose.use? x.2) := by
  obtain ⟨⟨r₁, res⟩, hclose, rfl⟩ := Option.map_eq_some_iff.mp h
  have hops := CloseRelayedConnection.resume_ops (P := P) hclose
  cases res with
  | parked pc' => exact hops
  -- One connection is closed; the next close starts, or the entry is removed.
  | returned a => exact hops.trans (loop_ops hws pc.rest)
  | raised e => exact hops

/-- A teardown starts with its first close, or pops the entry at once. -/
theorem edge_agent_connection_close_ops (n : AgentId)
    (hws : ∀ ws, r.registered_agent_connections n = some ws → P ws) :
    LockTable.Ops t P (r.locks, none)
      ((edge_agent_connection_close r t n).1.locks,
        useOf EdgeAgentConnectionClose.use? (edge_agent_connection_close r t n).2) := by
  unfold edge_agent_connection_close
  split
  -- The agent is not registered any more.
  · exact .refl
  · rename_i ws hreg
    exact EdgeAgentConnectionClose.loop_ops (r := (r.deregister n).removeAgent ws) (hws ws hreg) _

/-- What a create call does after its send leaves the locks as they are. -/
theorem requested_locks (cfg : RelayConfig) (pc : CreateConnection)
    (x : NetworkRelay × Res LockedSend Unit Exc) :
    (CreateConnection.requested cfg pc x).1.locks = x.1.locks ∧
      useOf CreateConnection.use? (CreateConnection.requested cfg pc x).2 =
        useOf (fun send => some (LockedSend.use pc.agent_connection send)) x.2 := by
  obtain ⟨r', res⟩ := x
  cases res with
  | parked send => exact ⟨rfl, rfl⟩
  | returned a =>
    simp only [CreateConnection.requested, await_returned]
    -- An answer that has come already is taken at once.
    split
    · exact ⟨rfl, rfl⟩
    · rename_i response rest _
      refine ⟨rfl, ?_⟩
      unfold CreateConnection.answered
      cases response <;> rfl
  | raised e => exact ⟨rfl, rfl⟩

/-- A create call that takes its answer leaves the locks as they are. -/
theorem answered_locks (cfg : RelayConfig) (c : ConnectionId) (m : EdgeAgentToRelayMessage)
    (rest : List EdgeAgentToRelayMessage) :
    (CreateConnection.answered cfg r c m rest).1.locks = r.locks ∧
      useOf CreateConnection.use? (CreateConnection.answered cfg r c m rest).2 = none := by
  unfold CreateConnection.answered
  cases m <;> exact ⟨rfl, rfl⟩

/-- A create call that goes on uses the lock as asyncio does. -/
theorem CreateConnection.resume_ops {cfg : RelayConfig} {pc : CreateConnection} {o : Outcome}
    {x : NetworkRelay × Res CreateConnection ConnectionId Exc}
    (h : pc.resume cfg r t o = some x) :
    LockTable.Resumes t P r.locks pc.use? (x.1.locks, useOf CreateConnection.use? x.2) := by
  unfold CreateConnection.resume at h
  split at h
  · rename_i send hpc
    obtain ⟨y, hsend, rfl⟩ := Option.map_eq_some_iff.mp h
    obtain ⟨hlocks, huse⟩ := requested_locks cfg pc y
    rw [hlocks, huse, CreateConnection.use?, hpc]
    exact LockedSend.resume_ops hsend
  · rename_i hpc
    split at h
    · rename_i m rest _
      obtain rfl := Option.some.inj h
      obtain ⟨hlocks, huse⟩ := answered_locks (r := r) cfg pc.connection_id m rest
      rw [hlocks, huse, CreateConnection.use?, hpc]
      exact .refl
    · cases h

/-- A create call starts with a locked send, or raises. -/
theorem _create_connection_ops (cfg : RelayConfig) (request : ConnectionRequest)
    (c : ConnectionId) :
    LockTable.Ops t P (r.locks, none)
      ((_create_connection cfg r t request c).1.locks,
        useOf CreateConnection.use? (_create_connection cfg r t request c).2) := by
  unfold _create_connection
  split
  -- Without a registered agent the call raises.
  · exact .refl
  · rename_i ws _
    obtain ⟨hlocks, huse⟩ := requested_locks cfg ⟨request, c, ws, .waiting⟩
      (locked_send (r.publish c (newConnection r t request ws)) t ws (.ok (request.message c)))
    rw [hlocks, huse]
    exact locked_send_ops (r.publish c (newConnection r t request ws)) t ws _

end

/-! ## The tasks -/

variable {cfg : RelayConfig} {s s' : RelayState} {o : Outcome}

/-- The websockets whose entry a step of the task `t` may remove: the one whose registration `t` is
closing, or closes in this step. -/
def Popped (cfg : RelayConfig) (s : RelayState) (t : Task) (o : Outcome) (W : AgentSocket) : Prop :=
  (∃ pc, s.tearing? t = some pc ∧ pc.agent_connection = W) ∨
    ∃ n, Calls cfg s t o n ∧ s.relay.registered_agent_connections n = some W

/-- The step `s'` of the task `t`, on the table of the send locks. -/
def Locks (cfg : RelayConfig) (s : RelayState) (t : Task) (o : Outcome) (s' : RelayState) : Prop :=
  LockTable.Resumes t (Popped cfg s t o) s.relay.locks (s.use? t) (s'.relay.locks, s'.use? t)

/-- A step of a task that is not at a send lock, and makes no use of the locks. -/
theorem Locks.quiet {t : Task} (huse : s.use? t = none) (hlocks : s'.relay.locks = s.relay.locks)
    (huse' : s'.use? t = none) : Locks cfg s t o s' := by
  rw [Locks, huse, hlocks, huse']
  exact .refl

/-- The use of a lock by a handshake. -/
theorem use_setHandshake (s : RelayState) (W : AgentSocket) (pc : Handshake) :
    (s.setHandshake W pc).use? (.handshake W) =
      match pc with
      | .evicting _ _ pc => pc.use?
      | _ => none := by
  cases pc <;> simp [use?]

/-- The end of an eviction leaves the locks as they are. -/
theorem evicted_locks (s : RelayState) (W : AgentSocket) (m : EtRStartMessage) (n : AgentId)
    (x : NetworkRelay × Res EdgeAgentConnectionClose Unit Exc) :
    (s.evicted W m n x).relay.locks = x.1.locks ∧
      (s.evicted W m n x).use? (.handshake W) = useOf EdgeAgentConnectionClose.use? x.2 := by
  obtain ⟨r', res⟩ := x
  cases res with
  | parked pc => exact ⟨rfl, by rw [evicted, use_setHandshake]; rfl⟩
  | returned a => exact ⟨rfl, by simp [evicted, openAgent, use?, useOf]⟩
  | raised e => exact ⟨rfl, by rw [evicted, use_setHandshake]; rfl⟩

/-- What a step of a handshake does to the locks. -/
theorem handshake_locks {W : AgentSocket} {pc : Handshake} (hpc : s.handshake W = some pc)
    (h : s.resumeHandshake cfg W pc o = some s') : Locks cfg s (.handshake W) o s' := by
  have hnone : (∀ m n t, pc ≠ .evicting m n t) → s.use? (.handshake W) = none := by
    intro hnot
    cases pc <;> simp_all [use?]
  cases pc with
  | accepting =>
    have huse := hnone (by simp)
    simp only [resumeHandshake] at h
    split at h <;> cases h
    · exact .quiet huse rfl (by rw [use_setHandshake])
    · exact .quiet huse rfl (by rw [use_setHandshake])
  | receivingStart =>
    have huse := hnone (by simp)
    simp only [resumeHandshake] at h
    split at h <;> cases h
    · refine .quiet huse rfl ?_
      rw [use_setHandshake]
      rcases startReceived_cases cfg _ with ⟨result, heq, -⟩ | ⟨m, heq, -⟩ <;> rw [heq]
    · exact .quiet huse rfl (by rw [use_setHandshake])
  | checking m =>
    have huse := hnone (by simp)
    simp only [resumeHandshake] at h
    split at h
    · rename_i n
      split at h
      · cases h
        exact .quiet huse rfl (by rw [use_setHandshake])
      · obtain rfl := Option.some.inj h
        unfold permitted
        dsimp only
        split
        -- Nobody is registered under the id.
        · exact .quiet huse rfl (by simp [openAgent, use?])
        · rename_i other hreg
          split
          case isTrue hattr =>
            split
            case isTrue hdead =>
              -- The websocket that is registered is dead, so its registration is closed first.
              obtain ⟨hlocks, huse'⟩ := evicted_locks s W m n (edge_agent_connection_close
                (s.relay.setSupportsBinary n m.supports_binary) (.handshake W) n)
              rw [Locks, huse, hlocks, huse']
              exact edge_agent_connection_close_ops
                (r := s.relay.setSupportsBinary n m.supports_binary) n fun ws hws =>
                  .inr ⟨n, .eviction hpc hattr hreg hdead, hws⟩
            -- A duplicate is refused.
            case isFalse => exact .quiet huse rfl (by rw [use_setHandshake])
          case isFalse => exact .quiet huse rfl (by rw [use_setHandshake])
    · cases h
      exact .quiet huse rfl (by rw [use_setHandshake])
    · cases h
      exact .quiet huse rfl (by rw [use_setHandshake])
    · cases h
  | refusing =>
    have huse := hnone (by simp)
    simp only [resumeHandshake] at h
    split at h <;> cases h
    · exact .quiet huse rfl (by rw [use_setHandshake])
    · exact .quiet huse rfl (by rw [use_setHandshake])
  | evicting m n pc =>
    obtain ⟨x, hres, rfl⟩ := Option.map_eq_some_iff.mp h
    obtain ⟨hlocks, huse'⟩ := evicted_locks s W m n x
    have huse : s.use? (.handshake W) = pc.use? := by simp [use?, hpc]
    rw [Locks, huse, hlocks, huse']
    exact EdgeAgentConnectionClose.resume_ops (.inl ⟨pc, by simp [tearing?, hpc], rfl⟩) hres
  | finished result => cases h

/-- The use of a lock by a keep-alive task. -/
theorem use_setKeepAlive (s : RelayState) (W : AgentSocket) (pc : KeepAlive) :
    (s.setKeepAlive W pc).use? (.keepAlive W) =
      match pc with
      | .sending send => some (send.use W)
      | _ => none := by
  cases pc <;> simp [use?]

/-- The end of a keep-alive send leaves the locks as they are. -/
theorem keepAliveSent_locks (s : RelayState) (W : AgentSocket)
    (x : NetworkRelay × Res LockedSend Unit Exc) :
    (s.keepAliveSent W x).relay.locks = x.1.locks ∧
      (s.keepAliveSent W x).use? (.keepAlive W) =
        useOf (fun send => some (LockedSend.use W send)) x.2 := by
  obtain ⟨r', res⟩ := x
  cases res <;> exact ⟨rfl, (use_setKeepAlive (s.withRelay r') W _).trans rfl⟩

/-- What a step of a keep-alive task does to the locks. -/
theorem keepAlive_locks {W : AgentSocket} {pc : KeepAlive} (hpc : s.keepAlive W = some pc)
    (h : s.resumeKeepAlive W pc o = some s') : Locks cfg s (.keepAlive W) o s' := by
  cases pc with
  | sleeping =>
    have huse : s.use? (.keepAlive W) = none := by simp [use?, hpc]
    simp only [resumeKeepAlive] at h
    split at h
    -- The task has slept: it sends on its own websocket.
    · obtain rfl := Option.some.inj h
      obtain ⟨hlocks, huse'⟩ := keepAliveSent_locks s W
        (locked_send s.relay (.keepAlive W) W (.ok (.text .keepAlive)))
      rw [Locks, huse, hlocks, huse']
      exact locked_send_ops s.relay _ W _
    · cases h
      exact .quiet huse rfl (by rw [use_setKeepAlive])
    · cases h
  | sending send =>
    obtain ⟨x, hres, rfl⟩ := Option.map_eq_some_iff.mp h
    obtain ⟨hlocks, huse'⟩ := keepAliveSent_locks s W x
    have huse : s.use? (.keepAlive W) = some (send.use W) := by simp [use?, hpc]
    rw [Locks, huse, hlocks, huse']
    exact LockedSend.resume_ops hres
  | finished result => cases h

/-- The agent of a connection stays the same. -/
theorem agentOf_evolves {r r' : NetworkRelay} (h : Evolves r r') {c : ConnectionId}
    {connection : TcpConnection} (hc : r.connection c = some connection) :
    r'.agentOf c = some connection.agent_connection := by
  obtain ⟨connection', hc', hid⟩ := h.connection c connection hc
  simp only [TcpConnection.identity, Prod.mk.injEq] at hid
  simp [agentOf, hc', hid.2.1]

/-- The use of a lock by a message loop. -/
theorem use_setMsgLoop (s : RelayState) (W : AgentSocket) (n : AgentId) (pc : MsgLoop) :
    (s.setMsgLoop W ⟨n, pc⟩).use? (.msgLoop W) =
      match pc with
      | .resetting c pc => (s.relay.agentOf c).bind pc.use?
      | .tearingDown pc => pc.use?
      | _ => none := by
  cases pc <;> simp [use?]

/-- The end of a teardown by a message loop leaves the locks as they are. -/
theorem tornDown_locks (s : RelayState) (W : AgentSocket) (n : AgentId)
    (x : NetworkRelay × Res EdgeAgentConnectionClose Unit Exc) :
    (s.tornDown W n x).relay.locks = x.1.locks ∧
      (s.tornDown W n x).use? (.msgLoop W) = useOf EdgeAgentConnectionClose.use? x.2 := by
  obtain ⟨r', res⟩ := x
  cases res <;> exact ⟨rfl, (use_setMsgLoop (s.withRelay r') W n _).trans rfl⟩

/-- The end of a reset leaves the locks as they are. -/
theorem resetHandled_locks (s : RelayState) (W : AgentSocket) (n : AgentId) {c : ConnectionId}
    {ws : AgentSocket} (x : NetworkRelay × Res CloseRelayedConnection Unit Exc)
    (hc : x.1.agentOf c = some ws) :
    (s.resetHandled W n c x).relay.locks = x.1.locks ∧
      (s.resetHandled W n c x).use? (.msgLoop W) =
        useOf (CloseRelayedConnection.use? ws) x.2 := by
  obtain ⟨r', res⟩ := x
  have hc : r'.agentOf c = some ws := hc
  refine ⟨rfl, (use_setMsgLoop (s.withRelay r') W n _).trans ?_⟩
  cases res with
  | parked pc => simp [hc, useOf]
  | returned _ | raised _ => rfl

/-- What the handling of a reset does to the locks. -/
theorem handle_connection_reset_message_locks (s : RelayState) (W : AgentSocket) (n : AgentId)
    (c : ConnectionId) {P : AgentSocket → Prop} :
    LockTable.Ops (.msgLoop W) P (s.relay.locks, none)
      ((s.handle_connection_reset_message W n c).relay.locks,
        (s.handle_connection_reset_message W n c).use? (.msgLoop W)) := by
  have hquiet : ∀ s₁ : RelayState, s₁.relay.locks = s.relay.locks →
      LockTable.Ops (.msgLoop W) P (s.relay.locks, none)
        ((s₁.setMsgLoop W ⟨n, .receiving⟩).relay.locks,
          (s₁.setMsgLoop W ⟨n, .receiving⟩).use? (.msgLoop W)) := by
    intro s₁ hlocks
    rw [use_setMsgLoop, setMsgLoop, hlocks]
    exact .refl
  unfold handle_connection_reset_message
  split
  · split
    · rename_i connection hc
      split
      -- The close of a `TcpConnection` is scheduled in a task of its own.
      · exact hquiet (s.scheduleClose c connection.agent_connection) rfl
      · -- The reset of a `TcpConnectionAsync` is awaited.
        obtain ⟨r', send, heq, same, hsend⟩ := close_relayed_connection_ok s.relay (.msgLoop W) c
          connection.agent_connection
        have hops := close_relayed_connection_ops (P := P) s.relay (.msgLoop W) c
          connection.agent_connection
        rw [heq] at hops ⊢
        obtain ⟨hlocks, huse⟩ := resetHandled_locks s W n (c := c)
          (r', .parked (.informing send)) (agentOf_evolves (hsend.evolves same) hc)
        rw [hlocks, huse]
        exact hops
    · exact hquiet s rfl
  · exact hquiet s rfl

/-- What the handling of a frame does to the locks. -/
theorem frameReceived_locks {W : AgentSocket} {n : AgentId} (frame : AgentFrame)
    {P : AgentSocket → Prop} :
    LockTable.Ops (.msgLoop W) P (s.relay.locks, none)
      ((s.frameReceived cfg W n frame).relay.locks,
        (s.frameReceived cfg W n frame).use? (.msgLoop W)) := by
  have hquiet : ∀ (s₁ : RelayState) pc, s₁.relay.locks = s.relay.locks →
      (∀ c t, pc ≠ .resetting c t) → (∀ t, pc ≠ .tearingDown t) →
      LockTable.Ops (.msgLoop W) P (s.relay.locks, none)
        ((s₁.setMsgLoop W ⟨n, pc⟩).relay.locks,
          (s₁.setMsgLoop W ⟨n, pc⟩).use? (.msgLoop W)) := by
    -- Only at `resetting` and `tearingDown` is the message loop at a lock.
    intro s₁ pc hlocks hnot hnot'
    have huse : (s₁.setMsgLoop W ⟨n, pc⟩).use? (.msgLoop W) = none := by
      rw [use_setMsgLoop]
      cases pc <;> simp_all
    rw [huse, setMsgLoop, hlocks]
    exact .refl
  have hanswer : ∀ m, LockTable.Ops (.msgLoop W) P (s.relay.locks, none)
      ((s.handle_answer W n m).relay.locks, (s.handle_answer W n m).use? (.msgLoop W)) := by
    -- An answer is put into a queue, or waits for a place in it.
    intro m
    unfold handle_answer
    split
    · split
      · split
        · exact hquiet (s.withRelay _) _ rfl (by simp) (by simp)
        · exact hquiet s _ rfl (by simp) (by simp)
      · exact hquiet s _ rfl (by simp) (by simp)
    · exact hquiet s _ rfl (by simp) (by simp)
  cases frame with
  | bytes binary =>
    simp only [frameReceived]
    split
    · exact hquiet s _ rfl (by simp) (by simp)
    · rename_i c payload _
      refine hquiet (s.withRelay _) _ ?_ (by simp) (by simp)
      unfold handle_tcp_binary_data
      split <;> rfl
  | text content =>
    simp only [frameReceived]
    split
    · rename_i m _
      cases m with
      | tcpData c data_base64 =>
        refine hquiet (s.withRelay _) _ ?_ (by simp) (by simp)
        unfold handle_tcp_data_message
        split
        · split <;> rfl
        · rfl
      | connectionReset text c => exact handle_connection_reset_message_locks s W n c
      | keepAlive => exact hquiet s _ rfl (by simp) (by simp)
      | start m => exact hanswer (.start m)
      | initiateConnectionError text c => exact hanswer (.initiateConnectionError text c)
      | initiateConnectionOK c => exact hanswer (.initiateConnectionOK c)
    · split
      · exact hquiet s _ rfl (by simp) (by simp)
      · exact hquiet s _ rfl (by simp) (by simp)

/-- What a step of a message loop does to the locks. -/
theorem msgLoop_locks {W : AgentSocket} {task : MsgLoopTask} (hpc : s.msgLoop W = some task)
    (h : s.resumeMsgLoop cfg W task o = some s') : Locks cfg s (.msgLoop W) o s' := by
  obtain ⟨n, pc⟩ := task
  have hnone : (∀ c t, pc ≠ .resetting c t) → (∀ t, pc ≠ .tearingDown t) →
      s.use? (.msgLoop W) = none := by
    intro hnot hnot'
    cases pc <;> simp_all [use?]
  cases pc with
  | receiving =>
    have huse := hnone (by simp) (by simp)
    have hteardown : ∀ o, (o = .disconnect ∨ o = .raised .webSocketDisconnect) →
        Locks cfg s (.msgLoop W) o
          (s.tornDown W n (edge_agent_connection_close s.relay (.msgLoop W) n)) := by
      intro o ho
      -- The websocket whose registration is closed is looked up by the agent's id.
      obtain ⟨hlocks, huse'⟩ := tornDown_locks s W n
        (edge_agent_connection_close s.relay (.msgLoop W) n)
      rw [Locks, huse, hlocks, huse']
      exact edge_agent_connection_close_ops n fun ws hws => .inr ⟨n, .disconnect hpc ho, hws⟩
    simp only [resumeMsgLoop] at h
    split at h <;> cases h
    · exact hteardown _ (.inl rfl)
    · exact hteardown _ (.inr rfl)
    · exact .quiet huse rfl (by rw [use_setMsgLoop])
    · rename_i frame rest _
      rw [Locks, huse]
      exact frameReceived_locks (s := s.withRelay (s.relay.setInbox W rest)) frame
  | resetting c pc =>
    simp only [resumeMsgLoop] at h
    split at h
    · rename_i connection hc
      -- The reset is awaited in the message loop.
      obtain ⟨x, hres, rfl⟩ := Option.map_eq_some_iff.mp h
      have hev := (CloseRelayedConnection.resume_step hres).evolves
      obtain ⟨hlocks, huse'⟩ := resetHandled_locks s W n x (agentOf_evolves hev hc)
      have huse : s.use? (.msgLoop W) = pc.use? connection.agent_connection := by
        simp [use?, hpc, agentOf, hc]
      rw [Locks, huse, hlocks, huse']
      exact CloseRelayedConnection.resume_ops hres
    · cases h
  | putting c m =>
    simp only [resumeMsgLoop] at h
    split at h
    · cases h
      exact .quiet (hnone (by simp) (by simp)) rfl (by rw [use_setMsgLoop])
    · cases h
  | handlingCustom =>
    simp only [resumeMsgLoop] at h
    split at h <;> cases h
    · exact .quiet (hnone (by simp) (by simp)) rfl (by rw [use_setMsgLoop])
    · exact .quiet (hnone (by simp) (by simp)) rfl (by rw [use_setMsgLoop])
  | tearingDown pc =>
    obtain ⟨x, hres, rfl⟩ := Option.map_eq_some_iff.mp h
    obtain ⟨hlocks, huse'⟩ := tornDown_locks s W n x
    have huse : s.use? (.msgLoop W) = pc.use? := by simp [use?, hpc]
    rw [Locks, huse, hlocks, huse']
    exact EdgeAgentConnectionClose.resume_ops (.inl ⟨pc, by simp [tearing?, hpc], rfl⟩) hres
  | finished result => cases h

/-- The points of a session at which it may be at a send lock. -/
def Client.locked : Client → Bool
  | .creating _ _ | .forwarding _ _ _ | .closing _ _ => true
  | _ => false

/-- The use of a lock by a session. -/
theorem use_setClient (s : RelayState) (A : ClientSocket) (pc : Client) :
    (s.setClient A pc).use? (.client A) =
      match pc with
      | .creating _ pc => pc.use?
      | .forwarding c _ send => (s.relay.agentOf c).map send.use
      | .closing c pc => (s.relay.agentOf c).bind pc.use?
      | _ => none := by
  cases pc <;> simp [use?]

/-- The end of a create call by a session leaves the locks as they are. -/
theorem created_locks (s : RelayState) (A : ClientSocket) (binary : Bool)
    (x : NetworkRelay × Res CreateConnection ConnectionId Exc) :
    (s.created A binary x).relay.locks = x.1.locks ∧
      (s.created A binary x).use? (.client A) = useOf CreateConnection.use? x.2 := by
  obtain ⟨r', res⟩ := x
  cases res with
  | parked pc => exact ⟨rfl, use_setClient (s.withRelay r') A _⟩
  | returned c => exact ⟨rfl, by simp [created, use?, useOf]⟩
  | raised e => cases e <;> exact ⟨rfl, by simp [created, use?, useOf]⟩

/-- The end of a close by a session leaves the locks as they are. -/
theorem connectionClosed_locks (s : RelayState) (A : ClientSocket) {c : ConnectionId}
    {ws : AgentSocket} (x : NetworkRelay × Res CloseRelayedConnection Unit Exc)
    (hc : x.1.agentOf c = some ws) :
    (s.connectionClosed A c x).relay.locks = x.1.locks ∧
      (s.connectionClosed A c x).use? (.client A) = useOf (CloseRelayedConnection.use? ws) x.2 := by
  obtain ⟨r', res⟩ := x
  have hc : r'.agentOf c = some ws := hc
  cases res with
  | parked pc =>
    refine ⟨rfl, (use_setClient (s.withRelay r') A _).trans ?_⟩
    simp [hc, useOf]
  | returned _ | raised _ => exact ⟨rfl, by simp [connectionClosed, use?, useOf]⟩

/-- A session that leaves its loop starts a close. -/
theorem leaveLoop_locks (s : RelayState) (A : ClientSocket) {c : ConnectionId} {ws : AgentSocket}
    (hc : s.relay.agentOf c = some ws) {P : AgentSocket → Prop} :
    LockTable.Ops (.client A) P (s.relay.locks, none)
      ((s.leaveLoop A c ws).relay.locks, (s.leaveLoop A c ws).use? (.client A)) := by
  obtain ⟨r', send, heq, same, hsend⟩ :=
    close_relayed_connection_ok (s.relay.access_client_connection_close c) (.client A) c ws
  have hops := close_relayed_connection_ops (P := P) (s.relay.access_client_connection_close c)
    (.client A) c ws
  rw [leaveLoop]
  rw [heq] at hops ⊢
  have hagent : r'.agentOf c = some ws := by
    rw [agentOf, same.connection]
    exact hc
  obtain ⟨hlocks, huse⟩ := connectionClosed_locks s A (r', .parked (.informing send)) hagent
  rw [hlocks, huse]
  exact hops

/-- A session that goes on with its loop does so, or starts a close. -/
theorem continueLoop_locks (s : RelayState) (A : ClientSocket) {c : ConnectionId}
    {ws : AgentSocket} (hc : s.relay.agentOf c = some ws) {P : AgentSocket → Prop} :
    LockTable.Ops (.client A) P (s.relay.locks, none)
      ((s.continueLoop A c ws).relay.locks, (s.continueLoop A c ws).use? (.client A)) := by
  unfold continueLoop
  split
  · rw [use_setClient, setClient]
    exact .refl
  · exact leaveLoop_locks s A hc

/-- After a send has parked, returned or raised, which has led from the uses `u` to those of `x`. -/
theorem forwarded_locks (s : RelayState) (A : ClientSocket) {c : ConnectionId}
    {connection : TcpConnection} (message : Except Exc ToAgent)
    (x : NetworkRelay × Res LockedSend Unit Exc) (hc : x.1.connection c = some connection)
    {P : AgentSocket → Prop} :
    LockTable.Ops (.client A) P
      (x.1.locks, useOf (fun send => some (LockedSend.use connection.agent_connection send)) x.2)
      ((s.forwarded A c connection.agent_connection message x).relay.locks,
        (s.forwarded A c connection.agent_connection message x).use? (.client A)) := by
  obtain ⟨r', res⟩ := x
  change r'.connection c = some connection at hc
  cases res with
  | parked send =>
    have huse : (s.forwarded A c connection.agent_connection message (r', .parked send)).use?
        (.client A) = some (send.use connection.agent_connection) := by
      refine (use_setClient (s.withRelay r') A _).trans ?_
      simp [agentOf, hc]
    rw [huse]
    exact .refl
  | returned a => exact continueLoop_locks (s.withRelay r') A (by simp [agentOf, hc])
  | raised e =>
    have huse : (s.forwarded A c connection.agent_connection message (r', .raised e)).use?
        (.client A) = none := by simp [forwarded, use?]
    rw [huse]
    exact .refl

/-- A session that forwards data starts a locked send. -/
theorem forward_locks (s : RelayState) (A : ClientSocket) {c : ConnectionId}
    {connection : TcpConnection} (hc : s.relay.connection c = some connection) (content : Bytes)
    {P : AgentSocket → Prop} :
    LockTable.Ops (.client A) P (s.relay.locks, none)
      ((s.forward A c connection content).relay.locks,
        (s.forward A c connection content).use? (.client A)) := by
  have hstep := locked_send_step s.relay (.client A) connection.agent_connection
    (connection.dataMessage c content) .ok
  have hc' : (locked_send s.relay (.client A) connection.agent_connection
      (connection.dataMessage c content)).1.connection c = some connection := by
    rw [hstep.same.connection]
    exact hc
  exact Relation.ReflTransGen.trans (locked_send_ops s.relay _ connection.agent_connection _)
    (forwarded_locks s A _ _ hc')

/-- A step of a session that is neither in a send nor starts one. -/
theorem client_quiet {A : ClientSocket} {pc pc' : Client} (s₁ : RelayState)
    (hpc : s.client A = some pc) (hlocks : s₁.relay.locks = s.relay.locks)
    (huse : pc.locked = false) (huse' : pc'.locked = false) :
    Locks cfg s (.client A) o (s₁.setClient A pc') := by
  refine .quiet ?_ hlocks ?_
  · cases pc <;> simp_all [use?, Client.locked]
  · rw [use_setClient]
    cases pc' <;> first | rfl | cases huse'

/-- What a step of a session in its loop does to the locks. -/
theorem session_locks {A : ClientSocket} {c : ConnectionId} {connection : TcpConnection}
    {pc : Client} (hpc : s.client A = some pc) (hid : pc.connection_id? = some c)
    (hc : s.relay.connection c = some connection)
    (h : s.resumeSession A c connection pc o = some s') : Locks cfg s (.client A) o s' := by
  cases pc with
  | receiving c' =>
    have huse : s.use? (.client A) = none := by simp [use?, hpc]
    have hleave : Locks cfg s (.client A) o
        ((s.withRelay (s.relay._drop_relayed_connection c)).leaveLoop A c
          connection.agent_connection) := by
      -- The access client is gone: the connection is dropped before its close.
      rw [Locks, huse]
      have hagent := agentOf_evolves (Evolves.drop s.relay c) hc
      exact leaveLoop_locks (s.withRelay (s.relay._drop_relayed_connection c)) A hagent
    simp only [resumeSession] at h
    split at h <;> cases h
    · exact hleave
    · exact hleave
    · exact client_quiet s hpc rfl rfl rfl
    · rename_i content
      cases content with
      -- Data of the access client is forwarded with a locked send.
      | bytes binary =>
        rw [Locks, huse]
        exact forward_locks s A hc binary
      | text content =>
        cases content with
        | none => exact client_quiet s hpc rfl rfl rfl
        | some m =>
          cases m with
          | start m =>
            rw [Locks, huse]
            -- A second start message is ignored, and the loop makes its test again.
            exact continueLoop_locks s A (by simp [agentOf, hc])
          | tcpData data_base64 =>
            simp only [clientFrameReceived]
            split
            · rw [Locks, huse]
              exact forward_locks s A hc _
            · exact client_quiet s hpc rfl rfl rfl
  | forwarding c' message send =>
    -- After the send the loop makes its test again.
    obtain rfl : c' = c := Option.some.inj hid
    obtain ⟨x, hres, rfl⟩ := Option.map_eq_some_iff.mp h
    have huse : s.use? (.client A) = some (send.use connection.agent_connection) := by
      simp [use?, hpc, agentOf, hc]
    have hc' : x.1.connection c' = some connection := by
      rw [(LockedSend.resume_step hres).same.connection]
      exact hc
    rw [Locks, huse]
    exact (LockedSend.resume_ops hres).trans (forwarded_locks s A message x hc')
  | closing c' pc =>
    obtain rfl : c' = c := Option.some.inj hid
    obtain ⟨x, hres, rfl⟩ := Option.map_eq_some_iff.mp h
    have hev := (CloseRelayedConnection.resume_step hres).evolves
    obtain ⟨hlocks, huse'⟩ := connectionClosed_locks s A x (agentOf_evolves hev hc)
    have huse : s.use? (.client A) = pc.use? connection.agent_connection := by
      simp [use?, hpc, agentOf, hc]
    rw [Locks, huse, hlocks, huse']
    exact CloseRelayedConnection.resume_ops hres
  | closingClient c' =>
    simp only [resumeSession] at h
    split at h
    · cases h
      exact client_quiet s hpc rfl rfl rfl
    · split at h <;> cases h
      · exact client_quiet s hpc rfl rfl rfl
      · exact client_quiet s hpc rfl rfl rfl
    · cases h
  | joining c' =>
    simp only [resumeSession] at h
    split at h
    · split at h
      · cases h
        exact client_quiet s hpc rfl rfl rfl
      · cases h
    · split at h
      · split at h
        · cases h
        · cases h
          exact client_quiet (s.setReader c _) hpc rfl rfl rfl
      · cases h
    · cases h
  | cancelling c' =>
    simp only [resumeSession] at h
    split at h
    · cases h
      exact client_quiet s hpc rfl rfl rfl
    · cases h
  | accepting | receivingStart | checking | refusing | reportingUnregistered | creating
  | sendingStartOK | reportingError | finished => cases h

/-- What the start of a session does to the locks. -/
theorem startSession_locks {A : ClientSocket} {m : AtRStartMessage} {c : ConnectionId}
    (hpc : s.client A = some (.checking m)) (h : s.startSession cfg A m c = some s') :
    Locks cfg s (.client A) o s' := by
  have huse : s.use? (.client A) = none := by simp [use?, hpc]
  -- The session looks up its agent before it makes a connection.
  unfold startSession at h
  dsimp only at h
  split at h
  · cases h
    exact client_quiet (s.withRelay _) hpc rfl rfl rfl
  · split at h
    case isTrue =>
      obtain rfl := Option.some.inj h
      rw [Locks, huse, (created_locks _ _ _ _).1, (created_locks _ _ _ _).2]
      exact _create_connection_ops cfg _ c
    case isFalse => cases h

/-- What a step of a session does to the locks. -/
theorem client_locks {A : ClientSocket} {pc : Client} (hpc : s.client A = some pc)
    (h : s.resumeClient cfg A pc o = some s') : Locks cfg s (.client A) o s' := by
  cases pc with
  | accepting =>
    simp only [resumeClient] at h
    split at h <;> cases h
    · exact client_quiet s hpc rfl rfl rfl
    · exact client_quiet s hpc rfl rfl rfl
  | receivingStart =>
    -- Nothing is done here but to check, to refuse or to leave.
    simp only [resumeClient] at h
    split at h <;> cases h
    all_goals exact client_quiet s hpc rfl rfl rfl
  | checking m =>
    simp only [resumeClient] at h
    split at h
    · exact startSession_locks hpc h
    · cases h
      exact client_quiet (s.withRelay _) hpc rfl rfl rfl
    · cases h
      exact client_quiet s hpc rfl rfl rfl
    · cases h
  | refusing =>
    simp only [resumeClient] at h
    split at h <;> cases h
    · exact client_quiet s hpc rfl rfl rfl
    · exact client_quiet s hpc rfl rfl rfl
  | reportingUnregistered =>
    simp only [resumeClient] at h
    split at h <;> cases h
    · exact client_quiet (s.withRelay _) hpc rfl rfl rfl
    · exact client_quiet s hpc rfl rfl rfl
  | creating binary pc =>
    obtain ⟨x, hres, rfl⟩ := Option.map_eq_some_iff.mp h
    have huse : s.use? (.client A) = pc.use? := by simp [use?, hpc]
    rw [Locks, huse, (created_locks _ _ _ _).1, (created_locks _ _ _ _).2]
    exact CreateConnection.resume_ops hres
  | sendingStartOK binary c =>
    simp only [resumeClient] at h
    split at h
    -- The connection is open: the reader is started and the loop entered.
    · obtain ⟨connection, hc, rfl⟩ := Option.map_eq_some_iff.mp h
      have huse : s.use? (.client A) = none := by simp [use?, hpc]
      have hagent : (s.startReader A binary c).relay.agentOf c =
          some connection.agent_connection := by simp [startReader, agentOf, hc]
      rw [Locks, huse]
      exact continueLoop_locks (s.startReader A binary c) A hagent
    · cases h
      exact client_quiet s hpc rfl rfl rfl
    · cases h
  | reportingError =>
    simp only [resumeClient] at h
    split at h <;> cases h
    · exact client_quiet s hpc rfl rfl rfl
    · exact client_quiet s hpc rfl rfl rfl
  | receiving c | forwarding c | closing c | closingClient c | joining c | cancelling c =>
    obtain ⟨connection, hc, h⟩ := Option.bind_eq_some_iff.mp h
    exact session_locks hpc rfl hc h
  | finished => cases h

/-- A step of a reader leaves the locks as they are. -/
theorem reader_locks {c : ConnectionId} {reader : Reader}
    (h : s.resumeReader c reader o = some s') : Locks cfg s (.reader c) o s' := by
  obtain ⟨connection, hc, h⟩ := resumeReader_rule h
  cases h with
  | sends | parks | ends | dies => exact .quiet rfl rfl rfl

/-- The end of a create call by a user leaves the locks as they are. -/
theorem callReturned_locks (s : RelayState) (k : ℕ) (c : Option ConnectionId)
    (x : NetworkRelay × Res CreateConnection ConnectionId Exc) :
    (s.callReturned k c x).relay.locks = x.1.locks ∧
      (s.callReturned k c x).use? (.call k) = useOf CreateConnection.use? x.2 := by
  obtain ⟨r', res⟩ := x
  cases res <;> exact ⟨rfl, by simp [callReturned, use?, useOf]⟩

/-- What a step of a create call by a user does to the locks. -/
theorem call_locks {k : ℕ} {pc : Call} (hpc : s.call k = some pc)
    (h : s.resumeCall cfg k pc o = some s') : Locks cfg s (.call k) o s' := by
  cases pc with
  | creating pc =>
    obtain ⟨x, hres, rfl⟩ := Option.map_eq_some_iff.mp h
    have huse : s.use? (.call k) = pc.use? := by simp [use?, hpc]
    rw [Locks, huse, (callReturned_locks _ _ _ _).1, (callReturned_locks _ _ _ _).2]
    exact CreateConnection.resume_ops hres
  | finished c result => cases h

/-- The end of a close by a user leaves the locks as they are. -/
theorem closerReturned_locks (s : RelayState) (k : ℕ) (closer : Closer)
    (x : NetworkRelay × Res CloseRelayedConnection Unit Exc) :
    (s.closerReturned k closer x).relay.locks = x.1.locks ∧
      (s.closerReturned k closer x).use? (.closer k) =
        useOf (CloseRelayedConnection.use? closer.agent_connection) x.2 := by
  obtain ⟨r', res⟩ := x
  cases res <;> exact ⟨rfl, by simp [closerReturned, use?, useOf]⟩

/-- What a step of a close by a user does to the locks. -/
theorem closer_locks {k : ℕ} {closer : Closer} (hpc : s.closer k = some closer)
    (h : s.resumeCloser k closer o = some s') : Locks cfg s (.closer k) o s' := by
  obtain ⟨c, ws, point⟩ := closer
  cases point with
  | scheduled =>
    simp only [resumeCloser] at h
    split at h
    case isTrue =>
      obtain rfl := Option.some.inj h
      have huse : s.use? (.closer k) = none := by simp [use?, hpc]
      rw [Locks, huse, (closerReturned_locks _ _ _ _).1, (closerReturned_locks _ _ _ _).2]
      exact close_relayed_connection_ops s.relay (.closer k) c ws
    case isFalse => cases h
  | closing pc =>
    obtain ⟨x, hres, rfl⟩ := Option.map_eq_some_iff.mp h
    have huse : s.use? (.closer k) = pc.use? ws := by simp [use?, hpc]
    rw [Locks, huse, (closerReturned_locks _ _ _ _).1, (closerReturned_locks _ _ _ _).2]
    exact CloseRelayedConnection.resume_ops hres
  | finished result => cases h

/-- The end of a send by a user leaves the locks as they are. -/
theorem senderReturned_locks (s : RelayState) (k : ℕ) (sender : Sender) {ws : AgentSocket}
    (message : Except Exc ToAgent) (x : NetworkRelay × Res LockedSend Unit Exc)
    (hc : x.1.agentOf sender.connection_id = some ws) :
    (s.senderReturned k sender message x).relay.locks = x.1.locks ∧
      (s.senderReturned k sender message x).use? (.sender k) =
        useOf (fun send => some (LockedSend.use ws send)) x.2 := by
  obtain ⟨r', res⟩ := x
  have hc : r'.agentOf sender.connection_id = some ws := hc
  cases res <;> exact ⟨rfl, by simp [senderReturned, use?, useOf, hc]⟩

/-- What a step of a send by a user does to the locks. -/
theorem sender_locks {k : ℕ} {sender : Sender} (hpc : s.sender k = some sender)
    (h : s.resumeSender k sender o = some s') : Locks cfg s (.sender k) o s' := by
  obtain ⟨connection, hc, h⟩ := Option.bind_eq_some_iff.mp h
  obtain ⟨c, point⟩ := sender
  cases point with
  | scheduled content =>
    simp only at h
    split at h
    case isTrue =>
      obtain rfl := Option.some.inj h
      have huse : s.use? (.sender k) = none := by simp [use?, hpc]
      have hsent : ∀ (r : NetworkRelay) message, r.locks = s.relay.locks →
          r.agentOf c = some connection.agent_connection →
          Locks cfg s (.sender k) o (s.senderReturned k ⟨c, .scheduled content⟩ message
            (locked_send r (.sender k) connection.agent_connection message)) := by
        -- Whatever is sent, it is sent with the lock of the connection's agent.
        intro r message hlocks hagent
        have hstep := locked_send_step r (.sender k) connection.agent_connection message .ok
        have hagent' : (locked_send r (.sender k) connection.agent_connection message).1.agentOf c =
            some connection.agent_connection := by
          rw [agentOf, hstep.same.connection]
          exact hagent
        obtain ⟨hlocks', huse'⟩ := senderReturned_locks s k ⟨c, .scheduled content⟩ message
          _ hagent'
        rw [Locks, huse, hlocks', huse', ← hlocks]
        exact locked_send_ops r _ _ message
      cases content with
      -- `send_async(content)` sends its content, and a `send` what is in the buffer.
      | some content => exact hsent s.relay _ rfl (by simp [agentOf, hc])
      | none => exact hsent _ _ rfl (by simp [agentOf, hc])
    case isFalse => cases h
  | sending message send =>
    obtain ⟨x, hres, rfl⟩ := Option.map_eq_some_iff.mp h
    have huse : s.use? (.sender k) = some (send.use connection.agent_connection) := by
      simp [use?, hpc, agentOf, hc]
    have hagent : x.1.agentOf c = some connection.agent_connection := by
      rw [agentOf, (LockedSend.resume_step hres).same.connection, hc]
      rfl
    obtain ⟨hlocks, huse'⟩ := senderReturned_locks s k ⟨c, .sending message send⟩ message x
      hagent
    rw [Locks, huse, hlocks, huse']
    exact LockedSend.resume_ops hres
  | finished result => cases h

/-- Every step of a task, on the table of the send locks. -/
theorem locks_of_run {t : Task} (h : step cfg s (.run t o) = some s') : Locks cfg s t o s' := by
  cases t with
  | handshake W =>
    obtain ⟨pc, hpc, h⟩ := Option.bind_eq_some_iff.mp h
    exact handshake_locks hpc h
  | keepAlive W =>
    obtain ⟨pc, hpc, h⟩ := Option.bind_eq_some_iff.mp h
    exact keepAlive_locks hpc h
  | msgLoop W =>
    obtain ⟨task, hpc, h⟩ := Option.bind_eq_some_iff.mp h
    exact msgLoop_locks hpc h
  | client A =>
    obtain ⟨pc, hpc, h⟩ := Option.bind_eq_some_iff.mp h
    exact client_locks hpc h
  | reader c =>
    obtain ⟨reader, -, h⟩ := Option.bind_eq_some_iff.mp h
    exact reader_locks h
  | call k =>
    obtain ⟨pc, hpc, h⟩ := Option.bind_eq_some_iff.mp h
    exact call_locks hpc h
  | closer k =>
    obtain ⟨closer, hpc, h⟩ := Option.bind_eq_some_iff.mp h
    exact closer_locks hpc h
  | sender k =>
    obtain ⟨sender, hpc, h⟩ := Option.bind_eq_some_iff.mp h
    exact sender_locks hpc h

end HttpNetworkRelay
