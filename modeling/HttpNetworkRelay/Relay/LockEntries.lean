import HttpNetworkRelay.Relay.CompleteTeardown

/-!
# The keys of agent_connection_locks

`_agent_send_lock` makes the entry of a websocket for whoever asks, and only the end of
`edge_agent_connection_close` removes it. `asks?` is the websocket whose lock a step asks for
without looking up its registration, and `step_entered` says that no other entries are made but
those of registered websockets and of websockets that are being closed. In the runs of `KeepsLocks`
the entries go with the agents (`send_locks_end_with_agent`).
-/

namespace HttpNetworkRelay

open Asyncio Python RelayState NetworkRelay

/-! ## Who asks for a lock -/

/-- Whether a session that has received what `o` gives sends something to the agent. -/
def sendsToAgent (attached : Bool) : Outcome → Bool
  | .disconnect | .raised .webSocketDisconnect | .frame (.bytes _) => true
  | .frame (.text (some (.tcpData data_base64))) => (b64decode data_base64).toOption.isSome
  | .frame (.text (some (.start _))) => !attached
  | _ => false

namespace RelayState

/-- The websocket on which the task of an event starts a send, if it does not look it up in
`registered_agent_connections`. -/
def asks? (s : RelayState) : RelayEvent → Option AgentSocket
  | .run (.keepAlive W) .ok =>
    match s.keepAlive W with
    | some .sleeping => some W
    | _ => none
  | .run (.msgLoop W) .next =>
    match s.msgLoop W, s.relay.inbox W with
    | some ⟨_, .receiving⟩, frame :: _ =>
      ((frame.reset?.filter (· ∈ s.relay.active_relayed_connections)).bind
        s.relay.connection).bind fun connection =>
          if connection.cls = .tcpConnectionAsync then some connection.agent_connection else none
    | _, _ => none
  | .run (.client A) o =>
    match s.client A with
    | some (.receiving c) =>
      if sendsToAgent (s.relay.active_access_client_connections c).isSome o then s.relay.agentOf c
      else none
    | some (.forwarding c _ (.sending _)) =>
      if o = .ok ∧ s.relay.active_access_client_connections c = none then s.relay.agentOf c
      else none
    | _ => none
  | .run (.closer k) .ok =>
    match s.closer k with
    | some ⟨_, ws, .scheduled⟩ => some ws
    | _ => none
  | .run (.sender k) .ok =>
    match s.sender k with
    | some ⟨c, .scheduled _⟩ => s.relay.agentOf c
    | _ => none
  | _ => none

/-- The websocket is registered, or its registration is being closed. -/
def InCharge (s : RelayState) (W : AgentSocket) : Prop :=
  (∃ n, s.relay.registered_agent_connections n = some W) ∨
    ∃ t pc, s.tearing? t = some pc ∧ pc.agent_connection = W

end RelayState

/-- The entries of `r'` are those of `r`, or of websockets of `Q`. -/
def Entered (Q : AgentSocket → Prop) (r r' : NetworkRelay) : Prop :=
  ∀ W, r'.agent_connection_locks W ≠ none → r.agent_connection_locks W ≠ none ∨ Q W

namespace Entered

variable {P Q : AgentSocket → Prop} {r r₁ r' : NetworkRelay}

/-- No entry is made where the table is the same. -/
theorem of_eq (h : r'.agent_connection_locks = r.agent_connection_locks) : Entered Q r r' := by
  intro W hW
  rw [h] at hW
  exact .inl hW

/-- No entry is made where the locks are the same. -/
theorem of_locks (h : r'.locks = r.locks) : Entered Q r r' :=
  of_eq (congrArg LockTable.entry h)

/-- The entries that two steps make are those of either. -/
theorem trans (h : Entered Q r r₁) (h' : Entered Q r₁ r') : Entered Q r r' := fun W hW =>
  (h' W hW).elim (h W) .inr

/-- The websockets may be described more broadly. -/
theorem mono (h : Entered Q r r') (hP : ∀ W, Q W → P W) : Entered P r r' := fun W hW =>
  (h W hW).imp_right (hP W)

/-- An entry that is removed. -/
theorem pop (h : Entered Q r r') (W : AgentSocket) : Entered Q r (r'.popLock W) := by
  intro W' hW'
  have hne : W' ≠ W := by
    rintro rfl
    simp at hW'
  exact h W' (by simpa [hne] using hW')

end Entered

/-! ## The coroutines -/

section

variable {r : NetworkRelay} {t : Task} {ws : AgentSocket} {o : Outcome}

/-- A send that has the lock makes no entry. -/
theorem body_entries (r : NetworkRelay) (ws : AgentSocket) (message : Except Exc ToAgent) (l : ℕ) :
    (LockedSend.body r ws message l).1.agent_connection_locks = r.agent_connection_locks := by
  cases message <;> rfl

/-- A locked send makes the entry of its websocket. -/
theorem locked_send_entered (r : NetworkRelay) (t : Task) (ws : AgentSocket)
    (message : Except Exc ToAgent) : Entered (· = ws) r (locked_send r t ws message).1 := by
  have hlock : Entered (· = ws) r (r._agent_send_lock ws).2 := by
    intro W hW
    by_cases hne : W = ws
    · exact .inr hne
    · have hentry := LockTable.get_entry_of_ne r.locks hne
      rw [← (agent_send_lock_locks r ws).2] at hentry
      exact .inl (by rwa [show r.agent_connection_locks W = _ from hentry.symm])
  unfold locked_send
  dsimp only
  split
  · exact hlock.trans (.of_eq (body_entries _ _ _ _))
  · exact hlock.trans (.of_eq rfl)

/-- A locked send that goes on makes no entry. -/
theorem LockedSend.resume_entries {message : Except Exc ToAgent} {pc : LockedSend}
    {x : NetworkRelay × Res LockedSend Unit Exc} (h : pc.resume r t ws message o = some x) :
    x.1.agent_connection_locks = r.agent_connection_locks := by
  unfold LockedSend.resume at h
  split at h
  · split at h
    · obtain rfl := Option.some.inj h
      exact body_entries r ws message _
    · cases h
  · obtain rfl := Option.some.inj h
    rfl
  · obtain rfl := Option.some.inj h
    rfl
  · cases h

/-- A close makes the entry of its websocket. -/
theorem close_relayed_connection_entered (r : NetworkRelay) (t : Task) (c : ConnectionId)
    (ws : AgentSocket) : Entered (· = ws) r (close_relayed_connection r t c ws).1 :=
  (locked_send_entered r t ws _).trans (.of_locks (informed_locks ws c _).1)

/-- A close that goes on makes no entry. -/
theorem CloseRelayedConnection.resume_entries {c : ConnectionId} {pc : CloseRelayedConnection}
    {x : NetworkRelay × Res CloseRelayedConnection Unit Exc} (h : pc.resume r t c ws o = some x) :
    x.1.agent_connection_locks = r.agent_connection_locks := by
  cases pc with
  | informing send =>
    obtain ⟨y, hsend, rfl⟩ := Option.map_eq_some_iff.mp h
    exact (congrArg LockTable.entry (informed_locks ws c y).1).trans
      (LockedSend.resume_entries hsend)
  -- Only the call looks the lock up, and what follows it uses the lock that was found.
  | closingClient =>
    simp only [resume] at h
    split at h
    · obtain rfl := Option.some.inj h
      rfl
    · split at h
      · obtain rfl := Option.some.inj h
        rfl
      · obtain rfl := Option.some.inj h
        rfl
    · cases h

/-- The closes of a teardown make the entry of its websocket. -/
theorem EdgeAgentConnectionClose.loop_entered (ids : List ConnectionId) :
    Entered (· = ws) r (loop r t ws ids).1 := by
  cases ids with
  | nil => exact (Entered.of_eq rfl).pop ws
  | cons c rest =>
    obtain ⟨r', send, heq, -, -⟩ := close_relayed_connection_ok r t c ws
    have hentered := close_relayed_connection_entered r t c ws
    rw [heq] at hentered
    rw [loop, heq]
    exact hentered

/-- A teardown that goes on makes the entry of its websocket. -/
theorem EdgeAgentConnectionClose.resume_entered {pc : EdgeAgentConnectionClose}
    {x : NetworkRelay × Res EdgeAgentConnectionClose Unit Exc} (h : pc.resume r t o = some x) :
    Entered (· = pc.agent_connection) r x.1 := by
  obtain ⟨⟨r₁, res⟩, hclose, rfl⟩ := Option.map_eq_some_iff.mp h
  have hsame := CloseRelayedConnection.resume_entries hclose
  cases res with
  | parked pc' => exact .of_eq hsame
  | returned a => exact (Entered.of_eq hsame).trans (loop_entered pc.rest)
  | raised e => exact .of_eq hsame

/-- A teardown makes the entry of the websocket whose registration it closes. -/
theorem edge_agent_connection_close_entered (r : NetworkRelay) (t : Task) (n : AgentId) :
    Entered (fun W => r.registered_agent_connections n = some W) r
      (edge_agent_connection_close r t n).1 := by
  unfold edge_agent_connection_close
  split
  · exact .of_eq rfl
  · rename_i ws hreg
    have hloop : Entered (· = ws) ((r.deregister n).removeAgent ws)
        (EdgeAgentConnectionClose.loop ((r.deregister n).removeAgent ws) t ws
          (r.active_relayed_connections.filter (r.belongsTo ws))).1 :=
      EdgeAgentConnectionClose.loop_entered _
    have hsame : Entered (fun W => r.registered_agent_connections n = some W) r
        ((r.deregister n).removeAgent ws) := .of_eq rfl
    exact hsame.trans (hloop.mono fun W hW => hW ▸ hreg)

/-- A create call that goes on makes no entry. -/
theorem CreateConnection.resume_entries {cfg : RelayConfig} {pc : CreateConnection}
    {x : NetworkRelay × Res CreateConnection ConnectionId Exc}
    (h : pc.resume cfg r t o = some x) :
    x.1.agent_connection_locks = r.agent_connection_locks := by
  unfold CreateConnection.resume at h
  split at h
  · obtain ⟨y, hsend, rfl⟩ := Option.map_eq_some_iff.mp h
    exact (congrArg LockTable.entry (requested_locks cfg pc y).1).trans
      (LockedSend.resume_entries hsend)
  · split at h
    · obtain rfl := Option.some.inj h
      exact congrArg LockTable.entry (answered_locks cfg pc.connection_id _ _).1
    · cases h

/-- A create call makes the entry of the registered websocket that it looks up. -/
theorem _create_connection_entered (cfg : RelayConfig) (request : ConnectionRequest)
    (c : ConnectionId) :
    Entered (fun W => r.registered_agent_connections request.agent_connection_id = some W) r
      (_create_connection cfg r t request c).1 := by
  unfold _create_connection
  split
  · exact .of_eq rfl
  · rename_i ws hreg
    have hsend := (locked_send_entered (r.publish c (newConnection r t request ws)) t ws
      (.ok (request.message c))).mono (P := fun W =>
        r.registered_agent_connections request.agent_connection_id = some W) fun W hW => hW ▸ hreg
    have hpublish : Entered (fun W =>
        r.registered_agent_connections request.agent_connection_id = some W) r
        (r.publish c (newConnection r t request ws)) := .of_eq rfl
    exact hpublish.trans (hsend.trans (.of_locks (requested_locks cfg _ _).1))

end

/-! ## The tasks -/

variable {cfg : RelayConfig} {s s' : RelayState} {e : RelayEvent} {o : Outcome}

/-- The websockets whose entry a step may make. -/
def Asked (s : RelayState) (e : RelayEvent) (W : AgentSocket) : Prop :=
  s.asks? e = some W ∨ s.InCharge W

/-- The lock of a registered websocket may be asked for. -/
theorem asked_of_registered {n : AgentId} (W : AgentSocket)
    (h : s.relay.registered_agent_connections n = some W) : Asked s e W :=
  .inr (.inl ⟨n, h⟩)

/-- The entries that a step of a handshake makes. -/
theorem handshake_entered {W : AgentSocket} {pc : Handshake} (hpc : s.handshake W = some pc)
    (h : s.resumeHandshake cfg W pc o = some s') :
    Entered (Asked s (.run (.handshake W) o)) s.relay s'.relay := by
  cases pc with
  | accepting | receivingStart | refusing =>
    simp only [resumeHandshake] at h
    split at h <;> cases h <;> exact .of_eq rfl
  | checking m =>
    simp only [resumeHandshake] at h
    split at h
    · rename_i n
      split at h
      · cases h
        exact .of_eq rfl
      · obtain rfl := Option.some.inj h
        unfold permitted
        dsimp only
        split
        · exact .of_eq rfl
        · split
          · split
            · -- The close of the dead agent looks up the lock for its first connection.
              have hclose := edge_agent_connection_close_entered
                (s.relay.setSupportsBinary n m.supports_binary) (.handshake W) n
              exact (hclose.mono asked_of_registered).trans (.of_locks (evicted_locks s W m n _).1)
            · exact .of_eq rfl
          · exact .of_eq rfl
    · cases h
      exact .of_eq rfl
    · cases h
      exact .of_eq rfl
    · cases h
  | evicting m n pc =>
    obtain ⟨x, hres, rfl⟩ := Option.map_eq_some_iff.mp h
    have htearing : s.tearing? (.handshake W) = some pc := by simp [tearing?, hpc]
    have hclose := (EdgeAgentConnectionClose.resume_entered hres).mono
      (P := Asked s (.run (.handshake W) o)) fun W' hW' => .inr (.inr ⟨_, pc, htearing, hW'.symm⟩)
    exact hclose.trans (.of_locks (evicted_locks s W m n x).1)
  | finished result => cases h

/-- The entries that a step of a keep-alive task makes. -/
theorem keepAlive_entered {W : AgentSocket} {pc : KeepAlive} (hpc : s.keepAlive W = some pc)
    (h : s.resumeKeepAlive W pc o = some s') :
    Entered (Asked s (.run (.keepAlive W) o)) s.relay s'.relay := by
  cases pc with
  | sleeping =>
    simp only [resumeKeepAlive] at h
    split at h
    · obtain rfl := Option.some.inj h
      -- Each keep-alive message looks up the lock of its own websocket.
      have hsend := (locked_send_entered s.relay (.keepAlive W) W (.ok (.text .keepAlive))).mono
        (P := Asked s (.run (.keepAlive W) .ok)) fun W' hW' => .inl (by simp [asks?, hpc, hW'])
      exact hsend.trans (.of_locks (keepAliveSent_locks s W _).1)
    · cases h
      exact .of_eq rfl
    · cases h
  | sending send =>
    obtain ⟨x, hres, rfl⟩ := Option.map_eq_some_iff.mp h
    have hsame : Entered (Asked s (.run (.keepAlive W) o)) s.relay x.1 :=
      .of_eq (LockedSend.resume_entries hres)
    exact hsame.trans (.of_locks (keepAliveSent_locks s W x).1)
  | finished result => cases h

/-- The message loop takes up a reset. -/
theorem reset_entered {W : AgentSocket} {n : AgentId} {content : AgentText} {text : String}
    {c : ConnectionId} {rest : List AgentFrame} (hpc : s.msgLoop W = some ⟨n, .receiving⟩)
    (hin : s.relay.inbox W = .text content :: rest)
    (hknown : content.known = some (.connectionReset text c)) :
    Entered (Asked s (.run (.msgLoop W) .next)) s.relay
      ((s.withRelay (s.relay.setInbox W rest)).handle_connection_reset_message W n c).relay := by
  unfold handle_connection_reset_message
  split
  · rename_i hact
    split
    · rename_i connection hc
      split
      · exact .of_eq rfl
      · rename_i hcls
        -- The close of the reset tells the agent, and looks up its lock for this.
        have hasks : s.asks? (.run (.msgLoop W) .next) = some connection.agent_connection := by
          have hreset : (AgentFrame.text content).reset? = some c := by
            obtain ⟨known, custom⟩ := content
            obtain rfl : known = some (.connectionReset text c) := hknown
            rfl
          have hact : c ∈ s.relay.active_relayed_connections := hact
          have hc : s.relay.connection c = some connection := hc
          simp [asks?, hpc, hin, hreset, Option.filter, hact, hc, hcls]
        have hclose := close_relayed_connection_entered (s.relay.setInbox W rest) (.msgLoop W) c
          connection.agent_connection
        -- Taking the frame from the inbox makes no entry.
        have hinbox : Entered (· = connection.agent_connection) s.relay (s.relay.setInbox W rest) :=
          .of_eq rfl
        exact (hinbox.trans hclose).mono fun W' hW' => .inl (hW' ▸ hasks)
    · exact .of_eq rfl
  · exact .of_eq rfl

/-- The handling of an answer makes no entry. -/
theorem handle_answer_entered (s : RelayState) (W : AgentSocket) (n : AgentId)
    (m : EdgeAgentToRelayMessage) {Q : AgentSocket → Prop} :
    Entered Q s.relay (s.handle_answer W n m).relay := by
  unfold handle_answer
  split
  · split
    · split <;> exact .of_eq rfl
    · exact .of_eq rfl
  · exact .of_eq rfl

/-- The entries that the handling of a frame makes. -/
theorem frameReceived_entered {W : AgentSocket} {n : AgentId} {frame : AgentFrame}
    {rest : List AgentFrame} (hpc : s.msgLoop W = some ⟨n, .receiving⟩)
    (hin : s.relay.inbox W = frame :: rest) :
    Entered (Asked s (.run (.msgLoop W) .next)) s.relay
      ((s.withRelay (s.relay.setInbox W rest)).frameReceived cfg W n frame).relay := by
  have hinbox : Entered (Asked s (.run (.msgLoop W) .next)) s.relay (s.relay.setInbox W rest) :=
    .of_eq rfl
  cases frame with
  | bytes binary =>
    simp only [frameReceived]
    split
    · exact hinbox
    · refine hinbox.trans (.of_eq ?_)
      unfold handle_tcp_binary_data
      split <;> rfl
  | text content =>
    simp only [frameReceived]
    split
    · rename_i m hknown
      -- Every other message goes into a queue and makes no entry.
      have hanswer := fun m => hinbox.trans
        (handle_answer_entered (s.withRelay (s.relay.setInbox W rest)) W n m)
      cases m with
      | tcpData c data_base64 =>
        refine hinbox.trans (.of_eq ?_)
        simp only [handle_edge_agent_message, handle_tcp_data_message]
        split
        · split <;> rfl
        · rfl
      | connectionReset text c => exact reset_entered hpc hin hknown
      | keepAlive => exact hinbox
      | start m => exact hanswer (.start m)
      | initiateConnectionError text c => exact hanswer (.initiateConnectionError text c)
      | initiateConnectionOK c => exact hanswer (.initiateConnectionOK c)
    · split <;> exact hinbox

/-- The entries that a step of a message loop makes. -/
theorem msgLoop_entered {W : AgentSocket} {task : MsgLoopTask} (hpc : s.msgLoop W = some task)
    (h : s.resumeMsgLoop cfg W task o = some s') :
    Entered (Asked s (.run (.msgLoop W) o)) s.relay s'.relay := by
  obtain ⟨n, pc⟩ := task
  cases pc with
  | receiving =>
    -- The teardown looks up the lock of its agent for the first connection that it closes.
    have hclose : Entered (Asked s (.run (.msgLoop W) o)) s.relay
        (s.tornDown W n (edge_agent_connection_close s.relay (.msgLoop W) n)).relay :=
      (edge_agent_connection_close_entered s.relay (.msgLoop W) n).mono asked_of_registered
    simp only [resumeMsgLoop] at h
    split at h <;> cases h
    · exact hclose
    · exact hclose
    · exact .of_eq rfl
    · rename_i frame rest hin
      exact frameReceived_entered hpc hin
  | resetting c pc =>
    simp only [resumeMsgLoop] at h
    split at h
    · obtain ⟨x, hres, rfl⟩ := Option.map_eq_some_iff.mp h
      exact .of_eq (CloseRelayedConnection.resume_entries hres)
    · cases h
  | tearingDown pc =>
    obtain ⟨x, hres, rfl⟩ := Option.map_eq_some_iff.mp h
    have htearing : s.tearing? (.msgLoop W) = some pc := by simp [tearing?, hpc]
    exact (EdgeAgentConnectionClose.resume_entered hres).mono fun W' hW' =>
      .inr (.inr ⟨_, pc, htearing, hW'.symm⟩)
  | putting c m =>
    simp only [resumeMsgLoop] at h
    split at h
    · obtain rfl := Option.some.inj h
      exact .of_eq rfl
    · cases h
  | handlingCustom =>
    simp only [resumeMsgLoop] at h
    split at h <;> cases h <;> exact .of_eq rfl
  | finished result => cases h

/-! ### ws_for_access_clients -/

/-- A session that leaves its loop makes the entry of its agent's websocket. -/
theorem leaveLoop_entered (s : RelayState) (A : ClientSocket) (c : ConnectionId)
    (ws : AgentSocket) : Entered (· = ws) s.relay (s.leaveLoop A c ws).relay := by
  have hclose := close_relayed_connection_entered (s.relay.access_client_connection_close c)
    (.client A) c ws
  have hentry : Entered (· = ws) s.relay (s.relay.access_client_connection_close c) := .of_eq rfl
  refine (hentry.trans hclose).trans (.of_eq ?_)
  rw [leaveLoop]
  generalize close_relayed_connection _ _ _ _ = x
  obtain ⟨r', res⟩ := x
  cases res <;> rfl

/-- The loop is left just if the access client's entry is gone. -/
theorem continueLoop_entered (s : RelayState) (A : ClientSocket) (c : ConnectionId)
    (ws : AgentSocket) :
    Entered (fun W => s.relay.active_access_client_connections c = none ∧ W = ws) s.relay
      (s.continueLoop A c ws).relay := by
  unfold continueLoop
  split
  case isTrue => exact .of_eq rfl
  case isFalse hnone =>
    exact (leaveLoop_entered s A c ws).mono fun W hW => ⟨by simpa using hnone, hW⟩

/-- After a send has parked, returned or raised. -/
theorem forwarded_entered (s : RelayState) (A : ClientSocket) (c : ConnectionId) (ws : AgentSocket)
    (message : Except Exc ToAgent) (x : NetworkRelay × Res LockedSend Unit Exc) :
    Entered (fun W => x.1.active_access_client_connections c = none ∧ x.2 = .returned () ∧ W = ws)
      x.1 (s.forwarded A c ws message x).relay := by
  obtain ⟨r', res⟩ := x
  cases res with
  | returned a =>
    exact (continueLoop_entered (s.withRelay r') A c ws).mono fun W hW => ⟨hW.1, rfl, hW.2⟩
  | parked | raised => exact .of_eq rfl

/-- A session that forwards data makes the entry of its agent's websocket. -/
theorem forward_entered (s : RelayState) (A : ClientSocket) (c : ConnectionId)
    (connection : TcpConnection) (content : Bytes) :
    Entered (· = connection.agent_connection) s.relay (s.forward A c connection content).relay :=
  (locked_send_entered s.relay (.client A) connection.agent_connection _).trans
    ((forwarded_entered s A c connection.agent_connection _ _).mono fun _ hW => hW.2.2)

/-- The entries that a step of a session in its loop makes. -/
theorem session_entered {A : ClientSocket} {c : ConnectionId} {connection : TcpConnection}
    {pc : Client} (hpc : s.client A = some pc) (hid : pc.connection_id? = some c)
    (hc : s.relay.connection c = some connection)
    (h : s.resumeSession A c connection pc o = some s') :
    Entered (Asked s (.run (.client A) o)) s.relay s'.relay := by
  have hagent : s.relay.agentOf c = some connection.agent_connection := by simp [agentOf, hc]
  cases pc with
  | receiving c' =>
    obtain rfl : c' = c := Option.some.inj hid
    -- The agent that is asked is that of the session's connection.
    have hasks : sendsToAgent (s.relay.active_access_client_connections c').isSome o = true →
        ∀ W, W = connection.agent_connection → Asked s (.run (.client A) o) W := by
      rintro hsends W rfl
      exact .inl (by simp [asks?, hpc, hsends, hagent])
    -- Leaving the loop, the session drops its connection and calls the close.
    have hleave : sendsToAgent (s.relay.active_access_client_connections c').isSome o = true →
        Entered (Asked s (.run (.client A) o)) s.relay
          ((s.withRelay (s.relay._drop_relayed_connection c')).leaveLoop A c'
            connection.agent_connection).relay := by
      intro hsends
      have hdrop : Entered (Asked s (.run (.client A) o)) s.relay
          (s.relay._drop_relayed_connection c') := .of_eq rfl
      exact hdrop.trans ((leaveLoop_entered _ A c' connection.agent_connection).mono (hasks hsends))
    -- Data is sent under the agent's lock, and the loop may be left after it.
    have hforward : ∀ data,
        sendsToAgent (s.relay.active_access_client_connections c').isSome o = true →
        Entered (Asked s (.run (.client A) o)) s.relay (s.forward A c' connection data).relay :=
      fun data hsends => (forward_entered s A c' connection data).mono (hasks hsends)
    simp only [resumeSession] at h
    split at h <;> cases h
    · exact hleave rfl
    · exact hleave rfl
    · exact .of_eq rfl
    · rename_i content
      cases content with
      | bytes binary => exact hforward binary rfl
      | text message =>
        cases message with
        | none => exact .of_eq rfl
        | some m =>
          cases m with
          | start m =>
            refine (continueLoop_entered s A c' connection.agent_connection).mono fun W hW => ?_
            exact hasks (by simp [sendsToAgent, hW.1]) W hW.2
          | tcpData data_base64 =>
            simp only [clientFrameReceived]
            split
            · rename_i data hdata
              exact hforward data (by simp [sendsToAgent, hdata, Except.toOption])
            · exact .of_eq rfl
  | forwarding c' message send =>
    obtain rfl : c' = c := Option.some.inj hid
    obtain ⟨x, hres, rfl⟩ := Option.map_eq_some_iff.mp h
    have hsend : Entered (Asked s (.run (.client A) o)) s.relay x.1 :=
      .of_eq (LockedSend.resume_entries hres)
    refine hsend.trans ((forwarded_entered s A c' _ message x).mono fun W hW => ?_)
    obtain ⟨hnone, hreturned, rfl⟩ := hW
    have hstep := LockedSend.resume_step hres
    rw [hreturned] at hstep
    cases hstep with
    | completes same =>
      have htables := congrArg ConnectionTables.active_access_client_connections same.tables
      -- The send itself leaves the access client's entry as it was.
      have hnone : s.relay.active_access_client_connections c' = none := by
        rw [← hnone]
        exact (congrFun htables c').symm
      exact .inl (by simp [asks?, hpc, hnone, hagent])
  | closing c' pc =>
    obtain ⟨x, hres, rfl⟩ := Option.map_eq_some_iff.mp h
    have hsame : Entered (Asked s (.run (.client A) o)) s.relay x.1 :=
      .of_eq (CloseRelayedConnection.resume_entries hres)
    refine hsame.trans (.of_eq ?_)
    obtain ⟨r', res⟩ := x
    cases res <;> rfl
  | closingClient c' =>
    simp only [resumeSession] at h
    split at h
    · cases h
      exact .of_eq rfl
    · split at h <;> cases h <;> exact .of_eq rfl
    · cases h
  | joining c' =>
    simp only [resumeSession] at h
    split at h
    · split at h <;> cases h
      exact .of_eq rfl
    · split at h
      · split at h <;> cases h
        exact .of_eq rfl
      · cases h
    · cases h
  | cancelling c' =>
    simp only [resumeSession] at h
    split at h <;> cases h
    exact .of_eq rfl
  | _ => cases h

/-- The entries that a step of a session makes. -/
theorem client_entered {A : ClientSocket} {pc : Client} (hpc : s.client A = some pc)
    (h : s.resumeClient cfg A pc o = some s') :
    Entered (Asked s (.run (.client A) o)) s.relay s'.relay := by
  -- The end of the create call tells the access client, and no agent.
  have hcreated : ∀ binary x, Entered (Asked s (.run (.client A) o)) s.relay x.1 →
      Entered (Asked s (.run (.client A) o)) s.relay (s.created A binary x).relay :=
    fun binary x hx => hx.trans (.of_locks (created_locks s A binary x).1)
  -- From the loop on, the session has its connection.
  have hsession : ∀ {c}, pc.connection_id? = some c →
      ((s.relay.connection c).bind fun connection => s.resumeSession A c connection pc o) =
        some s' → Entered (Asked s (.run (.client A) o)) s.relay s'.relay := by
    intro c hid h
    obtain ⟨connection, hc, h⟩ := Option.bind_eq_some_iff.mp h
    exact session_entered hpc hid hc h
  cases pc with
  | accepting | receivingStart | refusing | reportingUnregistered | reportingError =>
    simp only [resumeClient] at h
    split at h <;> cases h <;> exact .of_eq rfl
  | checking m =>
    simp only [resumeClient] at h
    split at h
    · simp only [startSession] at h
      split at h
      · cases h
        exact .of_eq rfl
      · split at h
        · obtain rfl := Option.some.inj h
          exact hcreated _ _ ((_create_connection_entered cfg _ _).mono asked_of_registered)
        · cases h
    · cases h
      exact .of_eq rfl
    · cases h
      exact .of_eq rfl
    · cases h
  | creating binary pc =>
    obtain ⟨x, hres, rfl⟩ := Option.map_eq_some_iff.mp h
    exact hcreated _ _ (.of_eq (CreateConnection.resume_entries hres))
  | sendingStartOK binary c =>
    simp only [resumeClient] at h
    split at h
    · obtain ⟨connection, -, rfl⟩ := Option.map_eq_some_iff.mp h
      -- The access client's entry has just been made, so the loop is entered.
      have hstart : Entered (Asked s (.run (.client A) .ok)) s.relay
          (s.startReader A binary c).relay := .of_eq rfl
      refine hstart.trans ((continueLoop_entered _ A c _).mono fun W hW => ?_)
      simp [startReader] at hW
    · cases h
      exact .of_eq rfl
    · cases h
  | receiving c | forwarding c | closing c | closingClient c | joining c | cancelling c =>
    exact hsession rfl h
  | finished => cases h

/-! ### The other tasks -/

/-- The end of a create call makes no entry. -/
theorem callReturned_entered {Q : AgentSocket → Prop} (s : RelayState) (k : ℕ)
    (c : Option ConnectionId) (x : NetworkRelay × Res CreateConnection ConnectionId Exc) :
    Entered Q x.1 (s.callReturned k c x).relay :=
  .of_locks (callReturned_locks s k c x).1

/-- The entries that a step of a close by a user makes. -/
theorem closer_entered {k : ℕ} {closer : Closer} (hpc : s.closer k = some closer)
    (h : s.resumeCloser k closer o = some s') :
    Entered (Asked s (.run (.closer k) o)) s.relay s'.relay := by
  obtain ⟨c, ws, point⟩ := closer
  cases point with
  | scheduled =>
    simp only [resumeCloser] at h
    split at h
    · rename_i ho
      obtain rfl := Option.some.inj h
      subst ho
      exact (close_relayed_connection_entered s.relay (.closer k) c ws).mono fun W hW =>
        .inl (by simp [asks?, hpc, hW])
    · cases h
  | closing pc =>
    obtain ⟨x, hres, rfl⟩ := Option.map_eq_some_iff.mp h
    exact .of_eq (CloseRelayedConnection.resume_entries hres)
  | finished result => cases h

/-- The entries that a step of a send by a user makes. -/
theorem sender_entered {k : ℕ} {sender : Sender} (hpc : s.sender k = some sender)
    (h : s.resumeSender k sender o = some s') :
    Entered (Asked s (.run (.sender k) o)) s.relay s'.relay := by
  obtain ⟨c, point⟩ := sender
  obtain ⟨connection, hc, h⟩ := Option.bind_eq_some_iff.mp h
  have hc : s.relay.connection c = some connection := hc
  cases point with
  | scheduled content =>
    dsimp only at h
    split at h
    · rename_i ho
      obtain rfl := Option.some.inj h
      subst ho
      -- A `send` is under the lock of the connection's agent.
      have hasks : ∀ W, W = connection.agent_connection → Asked s (.run (.sender k) .ok) W :=
        fun W hW => .inl (by simp [asks?, hpc, agentOf, hc, hW])
      have hbuffer : ∀ r : NetworkRelay, r.agent_connection_locks = s.relay.agent_connection_locks →
          ∀ message, Entered (Asked s (.run (.sender k) .ok)) s.relay
            (locked_send r (.sender k) connection.agent_connection message).1 :=
        fun r hr message => (Entered.of_eq hr).trans
          ((locked_send_entered r (.sender k) connection.agent_connection message).mono hasks)
      cases content with
      | none =>
        exact hbuffer (s.relay.modifyConnection c ({ · with send_buffer := [] })) rfl _
      | some data => exact hbuffer s.relay rfl _
    · cases h
  | sending message send =>
    obtain ⟨x, hres, rfl⟩ := Option.map_eq_some_iff.mp h
    exact .of_eq (LockedSend.resume_entries hres)
  | finished result => cases h

/-- A step makes entries for the websockets that `Asked` says, and for no others. -/
theorem step_entered (h : step cfg s e = some s') : Entered (Asked s e) s.relay s'.relay := by
  have hquiet : s'.relay.agent_connection_locks = s.relay.agent_connection_locks →
      Entered (Asked s e) s.relay s'.relay := .of_eq
  cases e with
  | run t o =>
    cases t with
    | handshake W =>
      obtain ⟨pc, hpc, h⟩ := Option.bind_eq_some_iff.mp h
      exact handshake_entered hpc h
    | keepAlive W =>
      obtain ⟨pc, hpc, h⟩ := Option.bind_eq_some_iff.mp h
      exact keepAlive_entered hpc h
    | msgLoop W =>
      obtain ⟨task, hpc, h⟩ := Option.bind_eq_some_iff.mp h
      exact msgLoop_entered hpc h
    | client A =>
      obtain ⟨pc, hpc, h⟩ := Option.bind_eq_some_iff.mp h
      exact client_entered hpc h
    | reader c =>
      cases step_rule h with
      | reader _ _ h => cases h <;> exact hquiet rfl
    | call k =>
      obtain ⟨pc, -, h⟩ := Option.bind_eq_some_iff.mp h
      cases pc with
      | creating pc =>
        obtain ⟨x, hres, rfl⟩ := Option.map_eq_some_iff.mp h
        exact Entered.trans (.of_eq (CreateConnection.resume_entries hres))
          (callReturned_entered s k _ x)
      | finished => cases h
    | closer k =>
      obtain ⟨closer, hpc, h⟩ := Option.bind_eq_some_iff.mp h
      exact closer_entered hpc h
    | sender k =>
      obtain ⟨sender, hpc, h⟩ := Option.bind_eq_some_iff.mp h
      exact sender_entered hpc h
  | create k request c =>
    simp only [step, startCall] at h
    split at h
    · obtain rfl := Option.some.inj h
      exact ((_create_connection_entered cfg request c).mono asked_of_registered).trans
        (callReturned_entered s k _ _)
    · cases h
  | agentConnects | agentSends | agentDies | clientConnects | close | send =>
    cases step_rule h
    exact hquiet rfl

/-! ## The entries of an agent that leaves -/

/-- A step of the task `t` that is in a close: it is in it still, the close has raised, or it has
removed the entry of its websocket. -/
theorem tearing_resumed {t : Task} {pc : EdgeAgentConnectionClose}
    (h : step cfg s (.run t o) = some s') (hpc : s.tearing? t = some pc) :
    (∃ pc', s'.tearing? t = some pc' ∧ pc'.agent_connection = pc.agent_connection) ∨
      pc.raises o = true ∨ s'.relay.agent_connection_locks pc.agent_connection = none := by
  have hcases : ∀ x, pc.resume s.relay t o = some x → s'.relay.locks = x.1.locks →
      (∀ pc', x.2 = .parked pc' → s'.tearing? t = some pc') →
      (∃ pc', s'.tearing? t = some pc' ∧ pc'.agent_connection = pc.agent_connection) ∨
        pc.raises o = true ∨ s'.relay.agent_connection_locks pc.agent_connection = none := by
    rintro ⟨r', res⟩ hres hlocks hparked
    have hstep := EdgeAgentConnectionClose.resume_step hres
    cases res with
    | parked pc' => exact .inl ⟨pc', hparked pc' rfl, hstep.parked.1⟩
    | raised e => exact .inr (.inl hstep.raises)
    | returned a =>
      refine .inr (.inr ?_)
      cases hstep with
      | done =>
        have hentry := congrArg LockTable.entry hlocks
        exact (congrFun hentry _).trans (Function.update_self _ _ _)
  rcases tearing_task hpc with ⟨W, rfl⟩ | ⟨W, rfl⟩
  · obtain ⟨pc₀, hpc₀, h⟩ := Option.bind_eq_some_iff.mp h
    cases pc₀ with
    | evicting m n pc₁ =>
      obtain rfl : pc₁ = pc := by simpa [tearing?, hpc₀] using hpc
      obtain ⟨x, hres, rfl⟩ := Option.map_eq_some_iff.mp h
      refine hcases x hres (evicted_locks s W m n x).1 fun pc' hparked => ?_
      obtain ⟨r', res⟩ := x
      obtain rfl : res = .parked pc' := hparked
      simp [tearing?, evicted]
    | _ => simp [tearing?, hpc₀] at hpc
  · obtain ⟨⟨n, pc₀⟩, hpc₀, h⟩ := Option.bind_eq_some_iff.mp h
    cases pc₀ with
    | tearingDown pc₁ =>
      obtain rfl : pc₁ = pc := by simpa [tearing?, hpc₀] using hpc
      obtain ⟨x, hres, rfl⟩ := Option.map_eq_some_iff.mp h
      refine hcases x hres rfl fun pc' hparked => ?_
      obtain ⟨r', res⟩ := x
      obtain rfl : res = .parked pc' := hparked
      rw [tornDown, tearing_setMsgLoop]
    | _ => simp [tearing?, hpc₀] at hpc

/-- A close that finds nothing to close removes the entry at once. -/
theorem entry_of_calls {t : Task} {n : AgentId} {W : AgentSocket}
    (h : step cfg s (.run t o) = some s') (hcalls : Calls cfg s t o n) (hn : n ≠ "")
    (hreg : s.relay.registered_agent_connections n = some W)
    (hsnap : s.relay.active_relayed_connections.filter (s.relay.belongsTo W) = []) :
    s'.relay.agent_connection_locks W = none := by
  have hclosed : ∀ r : NetworkRelay, r.registered_agent_connections n = some W →
      r.active_relayed_connections.filter (r.belongsTo W) = [] →
      (edge_agent_connection_close r t n).1.agent_connection_locks W = none := by
    intro r hreg hsnap
    simp [edge_agent_connection_close, hreg, hsnap, EdgeAgentConnectionClose.loop]
  cases hcalls with
  | @disconnect W₀ _ _ hpc ho =>
    have hs' : s' = s.tornDown W₀ n (edge_agent_connection_close s.relay (.msgLoop W₀) n) := by
      rcases ho with rfl | rfl <;> simpa [step, hpc, resumeMsgLoop] using h.symm
    rw [hs']
    exact hclosed s.relay hreg hsnap
  | @eviction W₀ m _ other hpc hattr hother hdead =>
    have hs' : s' = s.evicted W₀ m n (edge_agent_connection_close
        (s.relay.setSupportsBinary n m.supports_binary) (.handshake W₀) n) := by
      simpa [step, hpc, resumeHandshake, hn, permitted, hother, hattr, hdead] using h.symm
    have hentry := congrArg LockTable.entry (evicted_locks s W₀ m n (edge_agent_connection_close
      (s.relay.setSupportsBinary n m.supports_binary) (.handshake W₀) n)).1
    rw [hs']
    exact (congrFun hentry W).trans
      (hclosed (s.relay.setSupportsBinary n m.supports_binary) hreg hsnap)

/-- A lock is asked for only while someone is in charge of its websocket, no close of a registration
raises, and a handshake that has evicted an agent replaces no registration of a websocket that has a
lock. -/
structure KeepsLocks (s : RelayState) (e : RelayEvent) : Prop where
  asks : ∀ W, s.asks? e = some W → s.InCharge W
  quiet : ∀ t o pc, e = .run t o → s.tearing? t = some pc → pc.raises o = false
  replaces : ∀ W o m n pc W', e = .run (.handshake W) o →
    s.handshake W = some (.evicting m n pc) → pc.completes s.relay o = true →
    s.relay.registered_agent_connections n = some W' → s.relay.agent_connection_locks W' = none

/-- The entries of the table of send locks. -/
structure LocksEnd (s : RelayState) : Prop where
  /-- Each of them is that of a websocket that is registered, or is being closed, or whose lock a
  task holds or waits for. -/
  keys : ∀ W l, s.relay.agent_connection_locks W = some l →
    s.InCharge W ∨ ∃ t u, s.use? t = some u ∧ u.key = W
  /-- Without registered agents and running tasks there is none. -/
  empty : (∀ n, s.relay.registered_agent_connections n = none) →
    (∀ t, s.tearing? t = none ∧ s.use? t = none) → ∀ W, s.relay.agent_connection_locks W = none

/-- Someone is in charge of each websocket that has an entry. -/
theorem inCharge_preserved {ok : RelayState → RelayEvent → Prop} (hr : Reaches (step cfg) ok {} s)
    (hok : KeepsLocks s e) (h : step cfg s e = some s')
    (hcharge : ∀ W, s.relay.agent_connection_locks W ≠ none → s.InCharge W) {W : AgentSocket}
    (hW : s'.relay.agent_connection_locks W ≠ none) : s'.InCharge W := by
  have hI := registryInv hr
  have hrule := step_rule h
  have hbefore : s.InCharge W := by
    rcases step_entered h W hW with hold | hasked | hin
    · exact hcharge W hold
    · exact hok.asks W hasked
    · exact hin
  rcases hbefore with ⟨n, hreg⟩ | ⟨t, pc, hpc, rfl⟩
  · rcases registered_goes_on hrule hreg with hgoes | ⟨t, o, n₀, rfl, hcalls, hreg₀, hclosing⟩ |
      ⟨W₀, o, m, n₀, pc, rfl, hpc, hcompletes, hreg₀⟩
    · exact .inl hgoes
    · rcases hclosing with hclosing | hsnap
      · exact .inr ⟨t, hclosing⟩
      · have hn : n₀ ≠ "" := opened_id_ne hr W n₀ (.inl (hI.registered n₀ W hreg₀))
        exact absurd (entry_of_calls h hcalls hn hreg₀ hsnap) hW
    · -- Its registration is replaced, so it has had no entry, and is not the one that is closed.
      have hnone := hok.replaces W₀ o m n₀ pc W rfl hpc hcompletes hreg₀
      have htearing : s.tearing? (.handshake W₀) = some pc := by simp [tearing?, hpc]
      obtain ⟨pc₀, hpc₀, hresume⟩ := Option.bind_eq_some_iff.mp h
      obtain rfl := Option.some.inj (hpc.symm.trans hpc₀)
      obtain ⟨x, hres, rfl⟩ := Option.map_eq_some_iff.mp hresume
      have hentered : Entered (· = pc.agent_connection) s.relay (s.evicted W₀ m n₀ x).relay :=
        (EdgeAgentConnectionClose.resume_entered hres).trans
          (.of_locks (evicted_locks s W₀ m n₀ x).1)
      rcases hentered W hW with hold | rfl
      · exact absurd hnone hold
      · exact absurd hreg₀ ((closing_inv hr _ pc htearing).unlisted.1 n₀)
  · by_cases hrun : ∃ o, e = .run t o
    · obtain ⟨o, rfl⟩ := hrun
      rcases tearing_resumed h hpc with hgoes | hraises | hnone
      · exact .inr ⟨t, hgoes⟩
      · rw [hok.quiet t o pc rfl hpc] at hraises
        cases hraises
      · exact absurd hnone hW
    · exact .inr ⟨t, pc, (tearing_frame hI hrule fun o he => hrun ⟨o, he⟩).trans hpc, rfl⟩

/-- In every run that keeps to it, send locks do not outlive their agents. -/
theorem send_locks_end_with_agent (h : Reaches (step cfg) KeepsLocks {} s) : LocksEnd s := by
  have hcharge : ∀ W, s.relay.agent_connection_locks W ≠ none → s.InCharge W := by
    refine h.invariant (I := fun s => ∀ W, s.relay.agent_connection_locks W ≠ none →
      s.InCharge W) ?_ ?_
    · intro W hW
      exact absurd rfl hW
    · intro s e s' hr hok hstep hcharge W hW
      exact inCharge_preserved hr hok hstep hcharge hW
  constructor
  case keys =>
    intro W l hl
    exact .inl (hcharge W (by simp [hl]))
  case empty =>
    intro hreg hidle W
    by_contra hW
    rcases hcharge W hW with ⟨n, hn⟩ | ⟨t, pc, hpc, -⟩
    · cases (hreg n).symm.trans hn
    · cases (hidle t).1.symm.trans hpc

/-! ## Two runs -/

/-- A step that asks for no lock but that of the websocket registered as `n`, of a task that is in
no close. -/
def AsksRegistered (n : AgentId) (s : RelayState) (e : RelayEvent) : Bool :=
  (s.asks? e).all (fun W => s.relay.registered_agent_connections n = some W) &&
    match e with
    | .run t _ => (s.tearing? t).isNone
    | _ => true

/-- Where the websocket asked for is a registered one, the condition holds. -/
theorem keepsLocks_of_registered {n : AgentId} (h : AsksRegistered n s e = true) :
    KeepsLocks s e := by
  obtain ⟨hasks, htearing⟩ := Bool.and_eq_true_iff.mp h
  have hnone : ∀ t o, e = .run t o → s.tearing? t = none := by
    rintro t o rfl
    exact Option.isNone_iff_eq_none.mp htearing
  constructor
  · intro W hW
    exact .inl ⟨n, by simpa [hW] using hasks⟩
  · intro t o pc he hpc
    cases (hnone t o he).symm.trans hpc
  · intro W o m n pc W' he hpc
    have hpc' : s.tearing? (.handshake W) = some pc := by simp [tearing?, hpc]
    cases (hnone _ o he).symm.trans hpc'

/-- An agent has got a keep-alive message and has disconnected. -/
def departedAgent : RelayState :=
  (runWith (step plainConfig) (AsksRegistered "agent" · ·) {} (registerAgent ⟨0⟩ "agent" false ++
    [.run (.keepAlive ⟨0⟩) .ok, .run (.keepAlive ⟨0⟩) .ok, .run (.msgLoop ⟨0⟩) .disconnect,
      .run (.keepAlive ⟨0⟩) .notConnected])).get (by decide +kernel)

/-- The lock was made, and its entry has gone with the agent. -/
theorem departedAgent_locksEnd :
    departedAgent.relay.locks_created = 1 ∧ LocksEnd departedAgent := by
  have hreach : Reaches (step plainConfig) (AsksRegistered "agent" · ·) {} departedAgent :=
    Reaches.init.of_runWith (Option.some_get _).symm
  exact ⟨by decide +kernel,
    send_locks_end_with_agent (hreach.mono fun s e h => keepsLocks_of_registered h)⟩

/-- The agent of a session disconnects, and its teardown closes the access client's websocket; the
session is told so and closes its connection, on the agent's websocket. -/
def lateClose : List RelayEvent :=
  openSession ++ [.run (.msgLoop ⟨0⟩) .disconnect,
    .run (.msgLoop ⟨0⟩) (.raised .webSocketDisconnect), .run (.msgLoop ⟨0⟩) .ok,
    .run (.client ⟨0⟩) .disconnect, .run (.client ⟨0⟩) (.raised .webSocketDisconnect)]

/-- The state after the session has closed its connection. -/
def lateCloser : RelayState :=
  (run (step plainConfig) {} lateClose).get (by decide +kernel)

/-- No registration is being closed. -/
theorem lateCloser_tearing (t : Task) : lateCloser.tearing? t = none := by
  have hother : ∀ W, W ≠ ⟨0⟩ → lateCloser.handshake W = none ∧ lateCloser.msgLoop W = none := by
    intro W hW
    suffices hnever :
        Reaches (step plainConfig) (fun _ e => e ≠ .agentConnects W) {} lateCloser from
      agent_never_connected hnever
    refine Reaches.init.of_run (fun e he s => ?_) (Option.some_get _).symm
    have hall : lateClose.all fun e =>
        match e with
        | .agentConnects W => W = ⟨0⟩
        | _ => true := by decide
    have hthis := List.all_eq_true.mp hall e he
    rintro rfl
    exact hW (by simpa using hthis)
  cases hpc : lateCloser.tearing? t with
  | none => rfl
  | some pc =>
    rcases tearing_task hpc with ⟨W, rfl⟩ | ⟨W, rfl⟩
    · by_cases hW : W = ⟨0⟩
      · subst hW
        cases hpc
      · simp [tearing?, (hother W hW).1] at hpc
    · by_cases hW : W = ⟨0⟩
      · subst hW
        cases hpc
      · simp [tearing?, (hother W hW).2] at hpc

/-- No agent is registered and no lock is used, and the websocket of the agent has an entry. -/
theorem lateCloser_not_locksEnd :
    ¬ ∀ cfg s, Reaches (step cfg) (fun _ _ => True) {} s → LocksEnd s := by
  intro h
  have hreach : Reaches (step plainConfig) (fun _ _ => True) {} lateCloser :=
    Reaches.init.of_run (fun _ _ _ => trivial) (Option.some_get _).symm
  have hentry : lateCloser.relay.agent_connection_locks ⟨0⟩ = some 1 := by decide +kernel
  rcases (h _ _ hreach).keys ⟨0⟩ 1 hentry with (⟨n, hn⟩ | ⟨t, pc, hpc, -⟩) | ⟨t, u, hu, -⟩
  · have hopened := (registryInv hreach).registered n ⟨0⟩ hn
    obtain rfl : "agent" = n := by
      have hhandshake : lateCloser.handshake ⟨0⟩ = some (.finished (.ok (some "agent"))) := rfl
      simpa [hhandshake] using hopened
    have hnone : lateCloser.relay.registered_agent_connections "agent" = none := by decide +kernel
    cases hnone.symm.trans hn
  · cases (lateCloser_tearing t).symm.trans hpc
  · have hE := (takesTurns hreach).exclusive
    have hmade : u.lock < 2 := hE.made t u hu
    have hmem := (hE.queue u.lock t).mpr ⟨u, hu, rfl⟩
    have hempty : ∀ l < 2, (lateCloser.relay.locks.lock l).queue = [] := by decide +kernel
    rw [hempty u.lock hmade] at hmem
    cases hmem

end HttpNetworkRelay
