import HttpNetworkRelay.Relay.SessionRules

/-!
# What a step of the relay can do

`RelayRule` puts the rules of the tasks together with those of the environment and of the library's
users. `step_rule` shows that every step of the relay follows a rule: the invariants of the later
modules are proved by cases on the rules, and no later proof unfolds `step`.
-/

namespace HttpNetworkRelay

open Asyncio Python RelayState NetworkRelay

/-- The ways in which an event can change the state. -/
inductive RelayRule (cfg : RelayConfig) (s : RelayState) : RelayEvent → RelayState → Prop
  | agentConnects {ws} (hnew : s.handshake ws = none) :
      RelayRule cfg s (.agentConnects ws) (s.setHandshake ws .accepting)
  | agentSends {ws frame} :
      RelayRule cfg s (.agentSends ws frame) (s.withRelay { s.relay with
        inbox := Function.update s.relay.inbox ws (s.relay.inbox ws ++ [frame])
        agent_sent := Function.update s.relay.agent_sent ws (s.relay.agent_sent ws ++ [frame]) })
  | agentDies {ws} :
      RelayRule cfg s (.agentDies ws)
        (s.withRelay { s.relay with agent_dead := Function.update s.relay.agent_dead ws true })
  | clientConnects {ws} (hnew : s.client ws = none) :
      RelayRule cfg s (.clientConnects ws) (s.setClient ws .accepting)
  | createFails {k request c e} (hnew : s.call k = none)
      (hreg : s.relay.registered_agent_connections request.agent_connection_id = none) :
      RelayRule cfg s (.create k request c) (s.setCall k (.finished none (.error e)))
  | create {k request c ws r' send} (hnew : s.call k = none) (hfresh : s.freshId c = true)
      (hreg : s.relay.registered_agent_connections request.agent_connection_id = some ws)
      (same : (s.relay.publish c (newConnection s.relay (.call k) request ws)).SameButSends r')
      (hsend : Sending (s.relay.publish c (newConnection s.relay (.call k) request ws)) ws
        (request.message c) r' send) :
      RelayRule cfg s (.create k request c)
        ((s.withRelay r').setCall k (.creating ⟨request, c, ws, .sending send⟩))
  | close {call c connection} (hcall : s.returnedBy call = some c)
      (hc : s.relay.connection c = some connection) :
      RelayRule cfg s (.close call) (s.scheduleClose c connection.agent_connection)
  /-- The content goes into the send buffer or is kept by the coroutine, by the class of the
  connection. -/
  | send {k call content c connection send_buffer kept} (hcall : s.returnedBy call = some c)
      (hnew : s.sender k = none) (hc : s.relay.connection c = some connection) :
      RelayRule cfg s (.send k call content)
        ((s.withRelay
          (s.relay.modifyConnection c fun _ => { connection with send_buffer })).setSender k
            ⟨c, .scheduled kept⟩)
  | handshake {ws pc o s'} (hpc : s.handshake ws = some pc) (h : HandshakeRule cfg s ws pc o s') :
      RelayRule cfg s (.run (.handshake ws) o) s'
  | keepAlive {ws pc o s'} (hpc : s.keepAlive ws = some pc) (h : KeepAliveRule s ws pc o s') :
      RelayRule cfg s (.run (.keepAlive ws) o) s'
  | msgLoop {ws n pc o s'} (hpc : s.msgLoop ws = some ⟨n, pc⟩)
      (h : MsgLoopRule cfg s ws n pc o s') :
      RelayRule cfg s (.run (.msgLoop ws) o) s'
  | client {ws pc o s'} (hpc : s.client ws = some pc) (h : ClientRule cfg s ws pc o s') :
      RelayRule cfg s (.run (.client ws) o) s'
  | reader {c reader connection o s'} (hpc : s.reader c = some reader)
      (hc : s.relay.connection c = some connection) (h : ReaderRule s c connection reader o s') :
      RelayRule cfg s (.run (.reader c) o) s'
  | call {k pc o r' res} (hpc : s.call k = some (.creating pc))
      (h : CreateStep cfg s.relay pc o r' res) :
      RelayRule cfg s (.run (.call k) o) (s.callReturned k (some pc.connection_id) (r', res))
  | closes {k c ws r' send} (hpc : s.closer k = some ⟨c, ws, .scheduled⟩)
      (same : s.relay.SameButSends r') (hsend : Sending s.relay ws (closeMessage c) r' send) :
      RelayRule cfg s (.run (.closer k) .ok)
        ((s.withRelay r').setCloser k ⟨c, ws, .closing (.informing send)⟩)
  | closing {k c ws pc o r' res} (hpc : s.closer k = some ⟨c, ws, .closing pc⟩)
      (h : CloseStep s.relay c ws pc o r' res) :
      RelayRule cfg s (.run (.closer k) o) (s.closerReturned k ⟨c, ws, .closing pc⟩ (r', res))
  | sends {k c kept connection send_buffer content r' res}
      (hpc : s.sender k = some ⟨c, .scheduled kept⟩) (hc : s.relay.connection c = some connection)
      (h : SendStep (s.relay.modifyConnection c fun _ => { connection with send_buffer })
        connection.agent_connection (connection.dataMessage c content) none .ok r' res) :
      RelayRule cfg s (.run (.sender k) .ok)
        (s.senderReturned k ⟨c, .scheduled kept⟩ (connection.dataMessage c content) (r', res))
  | sending {k c message send connection o r' res}
      (hpc : s.sender k = some ⟨c, .sending message send⟩)
      (hc : s.relay.connection c = some connection)
      (h : SendStep s.relay connection.agent_connection message (some send) o r' res) :
      RelayRule cfg s (.run (.sender k) o)
        (s.senderReturned k ⟨c, .sending message send⟩ message (r', res))

namespace RelayState

variable {cfg : RelayConfig} {s s' : RelayState}

/-- What the start of a create call by a user does. -/
theorem startCall_rule {k : ℕ} {request : ConnectionRequest} {c : ConnectionId}
    (h : s.startCall cfg k request c = some s') :
    RelayRule cfg s (.create k request c) s' := by
  unfold startCall at h
  split at h
  · rename_i hcond
    obtain ⟨hnew, hfresh⟩ := Bool.and_eq_true_iff.mp hcond
    have hnew : s.call k = none := Option.isNone_iff_eq_none.mp hnew
    cases h
    cases hreg : s.relay.registered_agent_connections request.agent_connection_id with
    | none =>
      have hfails : s.callReturned k none (_create_connection cfg s.relay (.call k) request c) =
          s.setCall k (.finished none (.error
            (.valueError ("Unknown agent: " ++ request.agent_connection_id)))) := by
        rw [_create_connection, hreg]
        rfl
      rw [Option.map_none, hfails]
      exact .createFails hnew hreg
    | some ws =>
      obtain ⟨r', send, heq, same, hsend⟩ := _create_connection_ok cfg (.call k) request c hreg
      rw [heq]
      exact .create hnew hfresh hreg same hsend
  · cases h

/-- What the start of a send by a user does. -/
theorem startSend_rule {k call : ℕ} {c : ConnectionId} {content : Bytes}
    (hcall : s.returnedBy call = some c) (h : s.startSend k c content = some s') :
    RelayRule cfg s (.send k call content) s' := by
  unfold startSend at h
  split at h
  · rename_i hnew
    have hnew : s.sender k = none := Option.isNone_iff_eq_none.mp hnew
    obtain ⟨connection, hc, rfl⟩ := Option.map_eq_some_iff.mp h
    split
    · have hsend := @RelayRule.send cfg s k call content c connection
        (connection.send_buffer ++ content) none hcall hnew hc
      simpa only [modifyConnection, hc, Option.map_some] using hsend
    · have hsend := @RelayRule.send cfg s k call content c connection connection.send_buffer
        (some content) hcall hnew hc
      rw [modifyConnection_self hc] at hsend
      exact hsend
  · cases h

/-- What a step of a close by a user does. -/
theorem resumeCloser_rule {k : ℕ} {closer : Closer} {o : Outcome} (hpc : s.closer k = some closer)
    (h : s.resumeCloser k closer o = some s') : RelayRule cfg s (.run (.closer k) o) s' := by
  obtain ⟨c, ws, point⟩ := closer
  unfold resumeCloser at h
  cases point with
  | scheduled =>
    dsimp only at h
    split at h
    · rename_i ho
      subst ho
      cases h
      obtain ⟨r', send, heq, same, hsend⟩ := close_relayed_connection_ok s.relay (.closer k) c ws
      rw [heq]
      exact .closes hpc same hsend
    · cases h
  | closing pc =>
    obtain ⟨⟨r', res⟩, hres, rfl⟩ := Option.map_eq_some_iff.mp h
    exact .closing hpc (CloseRelayedConnection.resume_step hres)
  | finished result => cases h

/-- What a step of a send by a user does. -/
theorem resumeSender_rule {k : ℕ} {sender : Sender} {o : Outcome} (hpc : s.sender k = some sender)
    (h : s.resumeSender k sender o = some s') : RelayRule cfg s (.run (.sender k) o) s' := by
  obtain ⟨c, point⟩ := sender
  obtain ⟨connection, hc, hres⟩ := Option.bind_eq_some_iff.mp h
  cases point with
  | scheduled kept =>
    dsimp only at hres
    split at hres
    · rename_i ho
      subst ho
      cases hres
      cases kept with
      | none =>
        have hmodify : (s.relay.modifyConnection c fun connection =>
            { connection with send_buffer := [] }) =
            s.relay.modifyConnection c fun _ => { connection with send_buffer := [] } := by
          simp [hc]
        have hsend := locked_send_step
          (s.relay.modifyConnection c fun _ => { connection with send_buffer := [] }) (.sender k)
          connection.agent_connection (connection.dataMessage c connection.send_buffer) .ok
        dsimp only [Option.getD_none]
        rw [hmodify]
        exact .sends hpc hc hsend
      | some content =>
        have hsend := locked_send_step s.relay (.sender k) connection.agent_connection
          (connection.dataMessage c content) .ok
        rw [← modifyConnection_self hc] at hsend
        have hsends := @RelayRule.sends cfg s k c (some content) connection connection.send_buffer
          content _ _ hpc hc hsend
        rw [modifyConnection_self hc] at hsends
        exact hsends
    · cases hres
  | sending message send =>
    obtain ⟨⟨r', res⟩, hsend, rfl⟩ := Option.map_eq_some_iff.mp hres
    exact .sending hpc hc (LockedSend.resume_step hsend)
  | finished result => cases hres

end RelayState

/-- Every step follows a rule. -/
theorem step_rule {cfg : RelayConfig} {s s' : RelayState} {e : RelayEvent}
    (h : step cfg s e = some s') : RelayRule cfg s e s' := by
  cases e with
  | agentConnects ws =>
    simp only [step] at h
    split at h
    · rename_i hnew
      cases h
      exact .agentConnects (Option.isNone_iff_eq_none.mp hnew)
    · cases h
  | agentSends ws frame =>
    cases h
    exact .agentSends
  | agentDies ws =>
    cases h
    exact .agentDies
  | clientConnects ws =>
    simp only [step] at h
    split at h
    · rename_i hnew
      cases h
      exact .clientConnects (Option.isNone_iff_eq_none.mp hnew)
    · cases h
  | create k request c => exact startCall_rule h
  | close call =>
    obtain ⟨c, hcall, h⟩ := Option.bind_eq_some_iff.mp h
    obtain ⟨connection, hc, rfl⟩ := Option.map_eq_some_iff.mp h
    exact .close hcall hc
  | send k call content =>
    obtain ⟨c, hcall, h⟩ := Option.bind_eq_some_iff.mp h
    exact startSend_rule hcall h
  | run t o =>
    cases t with
    | handshake ws =>
      obtain ⟨pc, hpc, h⟩ := Option.bind_eq_some_iff.mp h
      exact .handshake hpc (resumeHandshake_rule h)
    | keepAlive ws =>
      obtain ⟨pc, hpc, h⟩ := Option.bind_eq_some_iff.mp h
      exact .keepAlive hpc (resumeKeepAlive_rule h)
    | msgLoop ws =>
      obtain ⟨task, hpc, h⟩ := Option.bind_eq_some_iff.mp h
      exact .msgLoop hpc (resumeMsgLoop_rule h)
    | client ws =>
      obtain ⟨pc, hpc, h⟩ := Option.bind_eq_some_iff.mp h
      exact .client hpc (resumeClient_rule h)
    | reader c =>
      obtain ⟨reader, hpc, h⟩ := Option.bind_eq_some_iff.mp h
      obtain ⟨connection, hc, h⟩ := resumeReader_rule h
      exact .reader hpc hc h
    | call k =>
      obtain ⟨pc, hpc, h⟩ := Option.bind_eq_some_iff.mp h
      cases pc with
      | creating pc =>
        obtain ⟨⟨r', res⟩, hres, rfl⟩ := Option.map_eq_some_iff.mp h
        exact .call hpc (CreateConnection.resume_step hres)
      | finished i result => cases h
    | closer k =>
      obtain ⟨closer, hpc, h⟩ := Option.bind_eq_some_iff.mp h
      exact resumeCloser_rule hpc h
    | sender k =>
      obtain ⟨sender, hpc, h⟩ := Option.bind_eq_some_iff.mp h
      exact resumeSender_rule hpc h

end HttpNetworkRelay
