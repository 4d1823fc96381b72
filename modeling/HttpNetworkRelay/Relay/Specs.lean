import HttpNetworkRelay.Relay.Coroutines

/-!
# What a step of a shared coroutine can do

One inversion lemma for each coroutine of `Coroutines.lean`. `SendStep`, `CloseStep`, `TeardownStep`
and `CreateStep` list the ways in which a stretch of the coroutine can go, with its effect on the
relay and the point at which it leaves the coroutine; the functions are shown to go in one of these
ways, so that no later proof unfolds them.
-/

namespace HttpNetworkRelay

open Asyncio Python

/-- A stretch of a locked send. `pc` is the point it starts from, `none` for the call itself, and
`o` the outcome it is resumed with. -/
inductive SendStep (r : NetworkRelay) (ws : AgentSocket) (message : Except Exc ToAgent) :
    Option LockedSend → Outcome → NetworkRelay → Res LockedSend Unit Exc → Prop
  /-- The lock is taken, and the task queues for it. -/
  | queues {o r' l} (same : r.SameButSends r') (out : r'.toAgentOutput = r.toAgentOutput) :
      SendStep r ws message none o r' (.parked (.acquiring l))
  /-- The task has the lock, and the send is called. -/
  | sends {pc o r' l m} (start : pc = none ∨ pc = some (.acquiring l) ∧ o = .ok)
      (hm : message = .ok m) (same : r.SameButSends r')
      (out : r'.toAgentOutput = (r.sendToAgent ws m).toAgentOutput) :
      SendStep r ws message pc o r' (.parked (.sending l))
  /-- The task has the lock, and the message cannot be encoded. -/
  | unencodable {pc o r' e} (hm : message = .error e) (same : r.SameButSends r')
      (out : r'.toAgentOutput = r.toAgentOutput) :
      SendStep r ws message pc o r' (.raised e)
  /-- The send completes. -/
  | completes {r' l} (same : r.SameButSends r') (out : r'.toAgentOutput = r.toAgentOutput) :
      SendStep r ws message (some (.sending l)) .ok r' (.returned ())
  /-- The send raises. -/
  | fails {r' l e} (same : r.SameButSends r') (out : r'.toAgentOutput = r.toAgentOutput) :
      SendStep r ws message (some (.sending l)) (.raised e) r' (.raised (.ws e))

namespace NetworkRelay

variable (r : NetworkRelay)

/-- Looking up a send lock changes the locks only. -/
theorem sameButSends_agentSendLock (ws : AgentSocket) :
    r.SameButSends (r._agent_send_lock ws).2 ∧
      (r._agent_send_lock ws).2.toAgentOutput = r.toAgentOutput := by
  unfold _agent_send_lock
  split <;> exact ⟨⟨rfl, rfl, rfl, rfl⟩, rfl⟩

/-- Acquiring a lock changes the locks only. -/
theorem sameButSends_acquireLock (l : ℕ) (t : Task) : r.SameButSends (r.acquireLock l t) :=
  ⟨rfl, rfl, rfl, rfl⟩

/-- Releasing a lock changes the locks only. -/
theorem sameButSends_releaseLock (l : ℕ) : r.SameButSends (r.releaseLock l) :=
  ⟨rfl, rfl, rfl, rfl⟩

/-- A message to an agent changes what is sent only. -/
theorem sameButSends_sendToAgent (ws : AgentSocket) (m : ToAgent) :
    r.SameButSends (r.sendToAgent ws m) :=
  ⟨rfl, rfl, rfl, rfl⟩

end NetworkRelay

open NetworkRelay

/-- The body of the `async with`, in a relay that differs from `r` by lock operations only. -/
theorem LockedSend.body_step {r r₁ : NetworkRelay} {ws : AgentSocket}
    {message : Except Exc ToAgent} {pc : Option LockedSend} {o : Outcome} {l : ℕ}
    (start : pc = none ∨ pc = some (.acquiring l) ∧ o = .ok) (same : r.SameButSends r₁)
    (out : r₁.toAgentOutput = r.toAgentOutput) :
    SendStep r ws message pc o (LockedSend.body r₁ ws message l).1
      (LockedSend.body r₁ ws message l).2 := by
  cases message with
  | error e => exact .unencodable rfl (same.trans (sameButSends_releaseLock _ _)) out
  | ok m =>
    refine .sends start rfl (same.trans (sameButSends_sendToAgent _ _ _)) ?_
    simp only [LockedSend.body, sendToAgent]
    rw [out]

/-- A call of a locked send. -/
theorem locked_send_step (r : NetworkRelay) (t : Task) (ws : AgentSocket)
    (message : Except Exc ToAgent) (o : Outcome) :
    SendStep r ws message none o (locked_send r t ws message).1
      (locked_send r t ws message).2 := by
  obtain ⟨same, out⟩ := r.sameButSends_agentSendLock ws
  have same' := fun l => same.trans (sameButSends_acquireLock _ l t)
  unfold locked_send
  dsimp only
  split
  · exact LockedSend.body_step (.inl rfl) (same' _) out
  · exact .queues (same' _) out

/-- A resumption of a locked send. -/
theorem LockedSend.resume_step {r : NetworkRelay} {t : Task} {ws : AgentSocket}
    {message : Except Exc ToAgent} {pc : LockedSend} {o : Outcome}
    {x : NetworkRelay × Res LockedSend Unit Exc}
    (h : LockedSend.resume r t ws message pc o = some x) :
    SendStep r ws message (some pc) o x.1 x.2 := by
  unfold LockedSend.resume at h
  split at h
  · split at h
    · obtain rfl := Option.some.inj h
      exact LockedSend.body_step (.inr ⟨rfl, rfl⟩) (.refl r) rfl
    · cases h
  · obtain rfl := Option.some.inj h
    exact .completes (sameButSends_releaseLock _ _) rfl
  · obtain rfl := Option.some.inj h
    exact .fails (sameButSends_releaseLock _ _) rfl
  · cases h

/-! ## Sends of a message that encodes -/

/-- Where a message that encodes leaves the call of its send: in the queue for the lock with nothing
sent, or in the send. -/
def Sending (r : NetworkRelay) (ws : AgentSocket) (m : ToAgent) (r' : NetworkRelay) :
    LockedSend → Prop
  | .acquiring _ => r'.toAgentOutput = r.toAgentOutput
  | .sending _ => r'.toAgentOutput = (r.sendToAgent ws m).toAgentOutput

/-- The call of the send of a message that encodes parks. -/
theorem locked_send_ok (r : NetworkRelay) (t : Task) (ws : AgentSocket) (m : ToAgent) :
    ∃ r' send, locked_send r t ws (.ok m) = (r', .parked send) ∧ r.SameButSends r' ∧
      Sending r ws m r' send := by
  generalize hx : locked_send r t ws (.ok m) = x
  have h := locked_send_step r t ws (.ok m) .ok
  rw [hx] at h
  obtain ⟨r', res⟩ := x
  cases h with
  | queues same out => exact ⟨_, _, rfl, same, out⟩
  | sends _ hm same out =>
    obtain rfl := Except.ok.inj hm
    exact ⟨_, _, rfl, same, out⟩
  | unencodable hm => cases hm

/-! ## close_relayed_connection -/

/-- A stretch of `close_relayed_connection` from one suspension to the next. -/
inductive CloseStep (r : NetworkRelay) (c : ConnectionId) (ws : AgentSocket) :
    CloseRelayedConnection → Outcome → NetworkRelay → Res CloseRelayedConnection Unit Exc → Prop
  /-- The lock is handed over, and the close message is sent to the agent. -/
  | informs {r' l} (same : r.SameButSends r')
      (out : r'.toAgentOutput = (r.sendToAgent ws (closeMessage c)).toAgentOutput) :
      CloseStep r c ws (.informing (.acquiring l)) .ok r' (.parked (.informing (.sending l)))
  /-- The agent has been informed or is gone, and the access client's websocket is closed. -/
  | closesClient {o r' l A} (ho : o = .ok ∨ ∃ e, o = .raised e ∧ e.isGone = true)
      (same : r.SameButSends r') (out : r'.toAgentOutput = r.toAgentOutput)
      (hA : r.active_access_client_connections c = some A) :
      CloseStep r c ws (.informing (.sending l)) o (r'.closeClient A) (.parked .closingClient)
  /-- The agent has been informed or is gone, and there is no access client. -/
  | dropsUnattached {o r' l} (ho : o = .ok ∨ ∃ e, o = .raised e ∧ e.isGone = true)
      (same : r.SameButSends r') (out : r'.toAgentOutput = r.toAgentOutput)
      (hA : r.active_access_client_connections c = none) :
      CloseStep r c ws (.informing (.sending l)) o (r'._drop_relayed_connection c) (.returned ())
  /-- The send to the agent raises something else. -/
  | informingFails {r' l e} (he : e.isGone = false) (same : r.SameButSends r')
      (out : r'.toAgentOutput = r.toAgentOutput) :
      CloseStep r c ws (.informing (.sending l)) (.raised e) r' (.raised (.ws e))
  /-- The access client's websocket is closed. -/
  | drops {o} (ho : o = .ok ∨ ∃ e, o = .raised e ∧ e.isClosed = true) :
      CloseStep r c ws .closingClient o (r._drop_relayed_connection c) (.returned ())
  /-- The close of the access client's websocket raises something else. -/
  | closingFails {e} (he : e.isClosed = false) :
      CloseStep r c ws .closingClient (.raised e) r (.raised (.ws e))

/-- A resumption of `close_relayed_connection`. -/
theorem CloseRelayedConnection.resume_step {r : NetworkRelay} {t : Task} {c : ConnectionId}
    {ws : AgentSocket} {pc : CloseRelayedConnection} {o : Outcome}
    {x : NetworkRelay × Res CloseRelayedConnection Unit Exc} (h : pc.resume r t c ws o = some x) :
    CloseStep r c ws pc o x.1 x.2 := by
  have client : ∀ {r' l o}, (o = .ok ∨ ∃ e, o = .raised e ∧ e.isGone = true) →
      r.SameButSends r' → r'.toAgentOutput = r.toAgentOutput →
      CloseStep r c ws (.informing (.sending l)) o (closeClient r' c).1 (closeClient r' c).2 := by
    intro r' l o ho same out
    have htables := congrArg ConnectionTables.active_access_client_connections same.tables
    unfold closeClient
    split
    · rename_i A hA
      exact .closesClient ho same out (by rw [← htables]; exact hA)
    · rename_i hA
      exact .dropsUnattached ho same out (by rw [← htables]; exact hA)
  cases pc with
  | informing send =>
    obtain ⟨⟨r', res⟩, hsend, rfl⟩ := Option.map_eq_some_iff.mp h
    have hstep := LockedSend.resume_step hsend
    cases hstep with
    | sends start hm same out =>
      obtain rfl := Except.ok.inj hm
      rcases start with hpc | ⟨hpc, rfl⟩
      · cases hpc
      · obtain rfl := Option.some.inj hpc
        exact .informs same out
    | unencodable hm => cases hm
    | completes same out => exact client (.inl rfl) same out
    | @fails _ _ e same out =>
      simp only [informed, await_raised]
      split
      · exact client (.inr ⟨e, rfl, ‹_›⟩) same out
      · exact .informingFails (by simpa using ‹¬ e.isGone = true›) same out
  | closingClient =>
    simp only [resume] at h
    split at h
    · obtain rfl := Option.some.inj h
      exact .drops (.inl rfl)
    · rename_i e
      split at h
      · obtain rfl := Option.some.inj h
        exact .drops (.inr ⟨e, rfl, ‹_›⟩)
      · obtain rfl := Option.some.inj h
        exact .closingFails (by simpa using ‹¬ e.isClosed = true›)
    · cases h

/-- The call of `close_relayed_connection` parks in the send to the agent. -/
theorem close_relayed_connection_ok (r : NetworkRelay) (t : Task) (c : ConnectionId)
    (ws : AgentSocket) :
    ∃ r' send, close_relayed_connection r t c ws = (r', .parked (.informing send)) ∧
      r.SameButSends r' ∧ Sending r ws (closeMessage c) r' send := by
  obtain ⟨r', send, heq, same, hsend⟩ := locked_send_ok r t ws (closeMessage c)
  refine ⟨r', send, ?_, same, hsend⟩
  rw [close_relayed_connection, heq]
  rfl

/-! ## edge_agent_connection_close -/

/-- The loop of `edge_agent_connection_close` ends, or parks in the close of the first connection
that is left. -/
theorem EdgeAgentConnectionClose.loop_ok (r : NetworkRelay) (t : Task) (ws : AgentSocket)
    (c : ConnectionId) (rest : List ConnectionId) :
    ∃ r' send, loop r t ws (c :: rest) = (r', .parked ⟨ws, c, .informing send, rest⟩) ∧
      r.SameButSends r' ∧ Sending r ws (closeMessage c) r' send := by
  obtain ⟨r', send, heq, same, hsend⟩ := close_relayed_connection_ok r t c ws
  refine ⟨r', send, ?_, same, hsend⟩
  rw [loop, heq]
  rfl

/-- A stretch of `edge_agent_connection_close` from one suspension to the next. -/
inductive TeardownStep (r : NetworkRelay) (pc : EdgeAgentConnectionClose) (o : Outcome) :
    NetworkRelay → Res EdgeAgentConnectionClose Unit Exc → Prop
  /-- The close of the current connection parks again. -/
  | inside {r' pc'}
      (h : CloseStep r pc.current pc.agent_connection pc.pc o r' (.parked pc')) :
      TeardownStep r pc o r' (.parked { pc with pc := pc' })
  /-- The current connection is closed, and the next one is started. -/
  | next {r₁ r' c rest send}
      (h : CloseStep r pc.current pc.agent_connection pc.pc o r₁ (.returned ()))
      (hrest : pc.rest = c :: rest) (same : r₁.SameButSends r')
      (hsend : Sending r₁ pc.agent_connection (closeMessage c) r' send) :
      TeardownStep r pc o r' (.parked ⟨pc.agent_connection, c, .informing send, rest⟩)
  /-- The last connection is closed. -/
  | done {r₁} (h : CloseStep r pc.current pc.agent_connection pc.pc o r₁ (.returned ()))
      (hrest : pc.rest = []) :
      TeardownStep r pc o (r₁.popLock pc.agent_connection) (.returned ())
  /-- An exception leaves the close of the current connection, and with it the loop. -/
  | fails {r₁ e} (h : CloseStep r pc.current pc.agent_connection pc.pc o r₁ (.raised e)) :
      TeardownStep r pc o r₁ (.raised e)

/-- A resumption of `edge_agent_connection_close`. -/
theorem EdgeAgentConnectionClose.resume_step {r : NetworkRelay} {t : Task}
    {pc : EdgeAgentConnectionClose} {o : Outcome}
    {x : NetworkRelay × Res EdgeAgentConnectionClose Unit Exc} (h : pc.resume r t o = some x) :
    TeardownStep r pc o x.1 x.2 := by
  obtain ⟨⟨r₁, res⟩, hclose, rfl⟩ := Option.map_eq_some_iff.mp h
  have hstep := CloseRelayedConnection.resume_step hclose
  cases res with
  | parked pc' => exact .inside hstep
  | returned a =>
    simp only [await_returned]
    cases hrest : pc.rest with
    | nil => exact .done hstep hrest
    | cons c rest =>
      obtain ⟨r', send, heq, same, hsend⟩ := loop_ok r₁ t pc.agent_connection c rest
      rw [heq]
      exact .next hstep hrest same hsend
  | raised e => exact .fails hstep

/-- The call of `edge_agent_connection_close`. -/
inductive TeardownStart (r : NetworkRelay) (n : AgentId) :
    NetworkRelay → Res EdgeAgentConnectionClose Unit Exc → Prop
  /-- No websocket is registered under the id. -/
  | unregistered (h : r.registered_agent_connections n = none) :
      TeardownStart r n (r.deregister n) (.returned ())
  /-- The registered websocket has no active connection. -/
  | idle {ws} (h : r.registered_agent_connections n = some ws)
      (hsnap : r.active_relayed_connections.filter (r.belongsTo ws) = []) :
      TeardownStart r n (((r.deregister n).removeAgent ws).popLock ws) (.returned ())
  /-- The first connection of the snapshot is being closed. -/
  | starts {ws c rest r' send} (h : r.registered_agent_connections n = some ws)
      (hsnap : r.active_relayed_connections.filter (r.belongsTo ws) = c :: rest)
      (same : ((r.deregister n).removeAgent ws).SameButSends r')
      (hsend : Sending ((r.deregister n).removeAgent ws) ws (closeMessage c) r' send) :
      TeardownStart r n r' (.parked ⟨ws, c, .informing send, rest⟩)

/-- The call of `edge_agent_connection_close` goes in one of these ways. -/
theorem edge_agent_connection_close_start (r : NetworkRelay) (t : Task) (n : AgentId) :
    TeardownStart r n (edge_agent_connection_close r t n).1
      (edge_agent_connection_close r t n).2 := by
  unfold edge_agent_connection_close
  split
  · exact .unregistered ‹_›
  · rename_i ws hws
    cases hsnap : r.active_relayed_connections.filter (r.belongsTo ws) with
    | nil => exact .idle hws hsnap
    | cons c rest =>
      obtain ⟨r', send, heq, same, hsend⟩ :=
        EdgeAgentConnectionClose.loop_ok ((r.deregister n).removeAgent ws) t ws c rest
      rw [heq]
      exact .starts hws hsnap same hsend

/-! ## _create_connection -/

/-- A stretch of `_create_connection` from one suspension to the next. -/
inductive CreateStep (cfg : RelayConfig) (r : NetworkRelay) (pc : CreateConnection) :
    Outcome → NetworkRelay → Res CreateConnection ConnectionId Exc → Prop
  /-- The lock is handed over, and the request is sent. -/
  | requests {r' l} (hpc : pc.point = .sending (.acquiring l)) (same : r.SameButSends r')
      (out : r'.toAgentOutput =
        (r.sendToAgent pc.agent_connection (pc.request.message pc.connection_id)).toAgentOutput) :
      CreateStep cfg r pc .ok r' (.parked { pc with point := .sending (.sending l) })
  /-- The request has been sent, and there is no answer yet. -/
  | waits {r' l} (hpc : pc.point = .sending (.sending l)) (same : r.SameButSends r')
      (out : r'.toAgentOutput = r.toAgentOutput) (hm : r.answers pc.connection_id = []) :
      CreateStep cfg r pc .ok r' (.parked { pc with point := .waiting })
  /-- There is an answer. -/
  | answers {r' m rest}
      (hpc : pc.point = .waiting ∨ ∃ l, pc.point = .sending (.sending l))
      (same : r.SameButSends r') (out : r'.toAgentOutput = r.toAgentOutput)
      (hm : r.answers pc.connection_id = m :: rest) :
      CreateStep cfg r pc .ok (CreateConnection.answered cfg r' pc.connection_id m rest).1
        (CreateConnection.answered cfg r' pc.connection_id m rest).2
  /-- The send of the request raises. -/
  | requestFails {r' l e} (hpc : pc.point = .sending (.sending l)) (same : r.SameButSends r')
      (out : r'.toAgentOutput = r.toAgentOutput) :
      CreateStep cfg r pc (.raised e) r' (.raised (.ws e))

/-- A resumption of `_create_connection`. -/
theorem CreateConnection.resume_step {cfg : RelayConfig} {r : NetworkRelay} {t : Task}
    {pc : CreateConnection} {o : Outcome} {x : NetworkRelay × Res CreateConnection ConnectionId Exc}
    (h : pc.resume cfg r t o = some x) : CreateStep cfg r pc o x.1 x.2 := by
  unfold CreateConnection.resume at h
  split at h
  · rename_i send hpc
    obtain ⟨⟨r', res⟩, hsend, rfl⟩ := Option.map_eq_some_iff.mp h
    have hstep := LockedSend.resume_step hsend
    cases hstep with
    | sends start hm same out =>
      obtain rfl := Except.ok.inj hm
      rcases start with hsome | ⟨hsome, rfl⟩
      · cases hsome
      · obtain rfl := Option.some.inj hsome
        exact .requests hpc same out
    | unencodable hm => cases hm
    | completes same out =>
      have hans := congrArg ConnectionTables.answers same.tables
      simp only [requested, await_returned]
      split
      · rename_i hm
        exact .waits hpc same out (by rw [← hans]; exact hm)
      · rename_i m rest hm
        exact .answers (.inr ⟨_, hpc⟩) same out (by rw [← hans]; exact hm)
    | fails same out => exact .requestFails hpc same out
  · rename_i hpc
    split at h
    · rename_i m rest hm
      obtain rfl := Option.some.inj h
      exact .answers (.inl hpc) (.refl r) rfl hm
    · cases h

/-- A call of `_create_connection` for a registered agent publishes the connection and parks in the
send of the request. -/
theorem _create_connection_ok (cfg : RelayConfig) {r : NetworkRelay} (t : Task)
    (request : ConnectionRequest) (c : ConnectionId) {ws : AgentSocket}
    (hws : r.registered_agent_connections request.agent_connection_id = some ws) :
    ∃ r' send, _create_connection cfg r t request c =
        (r', .parked ⟨request, c, ws, .sending send⟩) ∧
      (r.publish c (newConnection r t request ws)).SameButSends r' ∧
      Sending (r.publish c (newConnection r t request ws)) ws (request.message c) r' send := by
  obtain ⟨r', send, heq, same, hsend⟩ :=
    locked_send_ok (r.publish c (newConnection r t request ws)) t ws (request.message c)
  refine ⟨r', send, ?_, same, hsend⟩
  rw [_create_connection, hws]
  dsimp only
  rw [heq]
  rfl

end HttpNetworkRelay
