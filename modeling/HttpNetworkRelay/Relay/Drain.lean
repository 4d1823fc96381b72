import HttpNetworkRelay.Relay.Cleanup
import HttpNetworkRelay.Relay.Stream
import HttpNetworkRelay.Relay.Teardown

/-!
# The end of a stream

When a target closes its connection, the agent sends what it has read and then a reset. The reset is
handled by `close_relayed_connection`, which closes the access client's websocket and drops the
connection, whatever is still in the receive buffer; the reader leaves its loop when it finds the
connection dropped. `OrderlyTarget` describes such an ending from the agent's side, and
`DrainsFirst` the timing that the relay leaves to chance: the buffer is empty when a close comes to
the access client. `fully_forwarded` shows that then nothing of the stream is lost.
-/

namespace HttpNetworkRelay

open Asyncio Python RelayState NetworkRelay

/-! ## The conditions -/

/-- The points at which a message loop does not receive any more. -/
def MsgLoop.over : MsgLoop → Bool
  | .tearingDown _ | .finished _ => true
  | _ => false

/-- The message loop of an agent's websocket is running. -/
def RelayState.listens (s : RelayState) (W : AgentSocket) : Bool :=
  (s.msgLoop W).any fun task => !task.pc.over

/-- The agent has sent a reset of the connection. -/
def NetworkRelay.hasReset (r : NetworkRelay) (W : AgentSocket) (c : ConnectionId) : Bool :=
  (r.agent_sent W).any (·.reset? = some c)

/-- The target of `c` ends in order: no websocket operation fails, the access client of `c` stays
connected, agents name their own connections only, the data for `c` comes before the reset and while
the websocket is open, and a websocket is closed by the agent after everything on it has been
received. -/
def OrderlyTarget (c : ConnectionId) (s : RelayState) (e : RelayEvent) : Bool :=
  NamesOwn s e &&
    match e with
    | .agentSends W frame =>
      frame.data?.all fun p => p.1 ≠ c || (s.listens W && !s.relay.hasReset W c)
    | .agentDies _ => false
    | .run _ (.raised _) => false
    | .run (.msgLoop W) .disconnect => s.relay.inbox W = []
    | .run (.client A) .disconnect =>
      match s.client A with
      | some (.receiving c') => c' ≠ c
      | _ => true
    | _ => true

/-- When a close of `c` has informed the agent and comes to the access client, the receive buffer of
`c` is empty. -/
def DrainsFirst (c : ConnectionId) (s : RelayState) : RelayEvent → Bool
  | .run t o =>
    match s.closing? t with
    | some (c', .informing (.sending _)) =>
      c' ≠ c || !o.passes || (s.relay.connection c).all (·.recv_buffer = [])
    | _ => true
  | _ => true

/-- By the time the access client's websocket has been closed or the reader has finished, the access
client has been sent everything that the agent has sent for `c`. -/
def FullyForwarded (c : ConnectionId) (s : RelayState) : Prop :=
  ∀ A pc connection, s.client A = some pc → pc.connection_id? = some c →
    s.relay.connection c = some connection →
    (s.relay.client_closed A = true ∨
      ∃ reader, s.reader c = some reader ∧ reader.point = .finished) →
    payload (s.relay.to_client A) = dataFor c (s.relay.agent_sent connection.agent_connection)

variable {cfg : RelayConfig} {s s' : RelayState} {e : RelayEvent} {c : ConnectionId}
  {ok : RelayState → RelayEvent → Prop}

/-- In an orderly run the agents name their own connections only. -/
theorem OrderlyTarget.names (h : OrderlyTarget c s e = true) : NamesOwn s e = true :=
  (Bool.and_eq_true_iff.mp h).1

/-- In an orderly run no websocket operation fails. -/
theorem OrderlyTarget.not_raised {t : Task} {err : WsError} :
    OrderlyTarget c s (.run t (.raised err)) ≠ true := by
  intro h
  have hrest := (Bool.and_eq_true_iff.mp h).2
  cases t <;> cases hrest

/-- In an orderly run no agent's websocket dies. -/
theorem OrderlyTarget.not_dies {W : AgentSocket} : OrderlyTarget c s (.agentDies W) ≠ true := by
  intro h
  cases (Bool.and_eq_true_iff.mp h).2

/-- Under the conditions a close that comes to the access client finds the buffer empty. -/
theorem DrainsFirst.empty {t : Task} {o : Outcome} {l : ℕ} {connection : TcpConnection}
    (h : DrainsFirst c s (.run t o) = true)
    (hclosing : s.closing? t = some (c, .informing (.sending l))) (ho : o.passes = true)
    (hc : s.relay.connection c = some connection) : connection.recv_buffer = [] := by
  simpa [DrainsFirst, hclosing, ho, hc] using h

/-! ## Agents that do not die -/

/-- A handshake that is over is not resumed. -/
theorem handshake_over (h : RelayRule cfg s e s') {W : AgentSocket}
    {result : Except Exc (Option AgentId)} (hW : s.handshake W = some (.finished result)) :
    ∀ o, e ≠ .run (.handshake W) o := by
  rintro o rfl
  cases h with
  | handshake hpc h =>
    obtain rfl := Option.some.inj (hW.symm.trans hpc)
    cases h with
    | ends _ hpc' => exact hpc' _ rfl

/-- A websocket dies only by the death of its agent. -/
theorem agent_dead_frame (h : RelayRule cfg s e s') (hdie : ∀ W, e ≠ .agentDies W) :
    s'.relay.agent_dead = s.relay.agent_dead := by
  cases agents_of_rule h with
  | same hagents => rw [hagents]
  | sends W frame he =>
    subst he
    cases h
    rfl
  | dies W he => exact absurd he (hdie W)
  | starts _ _ _ hagents | receives _ _ _ hagents =>
    rw [hagents]
    rfl

/-- As long as no agent's websocket dies, no registration is replaced: a running message loop is
that of a registered websocket. -/
structure Steady (s : RelayState) : Prop where
  alive : ∀ W, s.relay.agent_dead W = false
  evicting : ∀ W m n t, s.handshake W ≠ some (.evicting m n t)
  registered : ∀ W n pc, s.msgLoop W = some ⟨n, pc⟩ → pc.over = false →
    s.relay.registered_agent_connections n = some W

namespace Steady

/-- No handshake evicts a registration, as every registered websocket is alive. -/
theorem evicting_step (hS : Steady s) (h : RelayRule cfg s e s') {W : AgentSocket}
    {m : EtRStartMessage} {n : AgentId} {t : EdgeAgentConnectionClose} :
    s'.handshake W ≠ some (.evicting m n t) := by
  intro hpc'
  by_cases hrun : ∃ o, e = .run (.handshake W) o
  · obtain ⟨o, rfl⟩ := hrun
    cases h with
    | handshake hpc h =>
      cases h with
      | @evicts _ _ other _ _ _ _ _ hdead =>
        rw [hS.alive other] at hdead
        cases hdead
      | evicting => exact hS.evicting W _ _ _ hpc
      | @receives frame =>
        have hstart : startReceived cfg frame = .evicting m n t := by simpa using hpc'
        rcases startReceived_cases cfg frame with ⟨result, heq, -⟩ | ⟨m', heq, -⟩ <;>
          rw [heq] at hstart <;> cases hstart
      | accepts | refuses | opens | duplicate | noAttribute | ends => simp [openAgent] at hpc'
  · by_cases hconn : e = .agentConnects W
    · subst hconn
      cases h with
      | agentConnects => simp at hpc'
    · rw [handshake_frame h (fun o he => hrun ⟨o, he⟩) hconn] at hpc'
      exact hS.evicting W m n t hpc'

/-- A message loop that is running stays that of a registered websocket. -/
theorem registered_step (hS : Steady s) (h : RelayRule cfg s e s')
    {W : AgentSocket} {n : AgentId} {pc' : MsgLoop} (hpc' : s'.msgLoop W = some ⟨n, pc'⟩)
    (hover : pc'.over = false) : s'.relay.registered_agent_connections n = some W := by
  by_cases hshake : ∃ W₀ o, e = .run (.handshake W₀) o
  · obtain ⟨W₀, o, rfl⟩ := hshake
    have hold : s'.msgLoop W = s.msgLoop W → s.relay.registered_agent_connections n = some W := by
      intro hsame
      exact hS.registered W n pc' (hsame.symm.trans hpc') hover
    cases h with
    | handshake hpc h =>
      cases h with
      | @opens m n₀ _ hfree =>
        by_cases hWW : W = W₀
        · subst hWW
          obtain ⟨rfl, -⟩ : n₀ = n ∧ MsgLoop.receiving = pc' := by simpa [openAgent] using hpc'
          simp [openAgent]
        · have hreg := hold (by simp [openAgent, hWW])
          have hnn : n ≠ n₀ := by
            rintro rfl
            rw [hfree] at hreg
            cases hreg
          simpa [openAgent, hnn] using hreg
      | @evicts _ _ other _ _ _ _ _ hdead =>
        rw [hS.alive other] at hdead
        cases hdead
      | evicting => exact absurd hpc (hS.evicting _ _ _ _)
      | accepts | receives | refuses | duplicate | noAttribute | ends => exact hold rfl
  by_cases hloop : ∃ W₀ o, e = .run (.msgLoop W₀) o
  · obtain ⟨W₀, o, rfl⟩ := hloop
    cases h with
    | @msgLoop _ n₀ pc _ _ hpc hrule =>
      -- Only a disconnect takes a registration away, and it ends the loop that was registered.
      have hkeeps : s'.relay.registered_agent_connections =
          s.relay.registered_agent_connections → pc.over = false →
          s'.relay.registered_agent_connections n = some W := by
        intro hregs hrunning
        rw [hregs]
        by_cases hWW : W = W₀
        · subst hWW
          obtain ⟨pc₁, hpc₁⟩ := hrule.moved.own
          obtain ⟨rfl, -⟩ := MsgLoopTask.mk.inj (Option.some.inj (hpc₁.symm.trans hpc'))
          exact hS.registered W n₀ pc hpc hrunning
        · rw [hrule.moved.other W hWW] at hpc'
          exact hS.registered W n pc' hpc' hover
      cases hrule with
      | @disconnects _ r' res _ hstart =>
        have hWW : W ≠ W₀ := by
          rintro rfl
          simp only [tornDown, setMsgLoop, withRelay, Function.update_self, Option.some.injEq,
            MsgLoopTask.mk.injEq] at hpc'
          obtain ⟨-, rfl⟩ := hpc'
          cases res <;> cases hover
        have hreg : s.relay.registered_agent_connections n = some W := by
          refine hS.registered W n pc' ?_ hover
          simpa [tornDown, hWW] using hpc'
        have hreg₀ := hS.registered W₀ n₀ _ hpc rfl
        have hregistry := hstart.registry.1
        obtain ⟨hregs, -⟩ := deregistered_registered hreg₀
        simp only [tornDown, setMsgLoop, withRelay, hregistry, hregs]
        exact registered_update hreg₀ hWW hreg none
      | receives _ hframe =>
        exact hkeeps (congrArg AgentRegistry.registered_agent_connections hframe.same.1.1) rfl
      | resetting _ hstep =>
        exact hkeeps (congrArg AgentRegistry.registered_agent_connections hstep.registry.1) rfl
      | @tearingDown pc o r' res hstep =>
        have hregs := congrArg AgentRegistry.registered_agent_connections hstep.registry.1
        have hWW : W ≠ W₀ := by
          rintro rfl
          simp only [tornDown, setMsgLoop, withRelay, Function.update_self, Option.some.injEq,
            MsgLoopTask.mk.injEq] at hpc'
          obtain ⟨-, rfl⟩ := hpc'
          cases res <;> cases hover
        simp only [tornDown, setMsgLoop, withRelay, hregs]
        refine hS.registered W n pc' ?_ hover
        simpa [tornDown, hWW] using hpc'
      | receiveFails | puts | customHandled => exact hkeeps rfl rfl
  · have hshake : ∀ W o, e ≠ .run (.handshake W) o := fun W o he => hshake ⟨W, o, he⟩
    have hloop : ∀ W o, e ≠ .run (.msgLoop W) o := fun W o he => hloop ⟨W, o, he⟩
    rw [registry_frame h hshake hloop]
    rw [msgLoop_frame h (hshake W) (hloop W)] at hpc'
    exact hS.registered W n pc' hpc' hover

/-- A step without a death keeps the registrations steady. -/
theorem step (hS : Steady s) (h : RelayRule cfg s e s')
    (hdie : ∀ W, e ≠ .agentDies W) : Steady s' where
  alive W := by
    rw [agent_dead_frame h hdie]
    exact hS.alive W
  evicting _ _ _ _ := hS.evicting_step h
  registered _ _ _ hpc' hover := hS.registered_step h hpc' hover

end Steady

/-! ## Closes of connection objects -/

/-- The connection that a user's create call has returned was made by this call. -/
theorem returned_creator (h : Reaches (step cfg) ok {} s) :
    ∀ k i c, s.call k = some (.finished i (.ok c)) →
      ∃ connection, s.relay.connection c = some connection ∧ connection.creator = .call k := by
  refine h.invariant (I := fun s => ∀ k i c, s.call k = some (.finished i (.ok c)) →
    ∃ connection, s.relay.connection c = some connection ∧ connection.creator = .call k)
    (by simp) fun s e s' hr _ hstep hI k i c hk => ?_
  have hrule := step_rule hstep
  have hstays : (∃ connection, s.relay.connection c = some connection ∧
      connection.creator = .call k) →
      ∃ connection, s'.relay.connection c = some connection ∧ connection.creator = .call k := by
    rintro ⟨connection, hc, hcreator⟩
    obtain ⟨connection', hc', hid⟩ := hrule.evolves.connection c connection hc
    simp only [TcpConnection.identity, Prod.mk.injEq] at hid
    exact ⟨connection', hc', hid.2.2.2.trans hcreator⟩
  apply hstays
  by_cases hrun : ∃ o, e = .run (.call k) o
  · obtain ⟨o, rfl⟩ := hrun
    cases hrule with
    | @call _ pc _ r' res hpc hcreate =>
      have hpending : s.pending? (.call k) = some pc := by simp [pending?, hpc]
      cases res with
      | returned c' =>
        obtain ⟨-, rfl⟩ : some pc.connection_id = i ∧ c' = c := by
          simpa [callReturned] using hk
        obtain ⟨connection, hc, -, hcreator⟩ := (outgoing hr).pending _ pc hpending
        rw [hcreate.returned]
        exact ⟨connection, hc, hcreator⟩
      | parked _ | raised _ => simp [callReturned] at hk
  · by_cases hnew : ∃ request c₁, e = .create k request c₁
    · obtain ⟨request, c₁, rfl⟩ := hnew
      cases hrule with
      | createFails | create => simp at hk
    · rw [call_frame hrule (fun o he => hrun ⟨o, he⟩) fun request c₁ he =>
        hnew ⟨request, c₁, he⟩] at hk
      exact hI k i c hk

/-- No session has made the connection. -/
def Unattached (r : NetworkRelay) (c : ConnectionId) : Prop :=
  ∃ connection, r.connection c = some connection ∧
    (connection.cls = .tcpConnection ∨ ∃ k, connection.creator = .call k)

/-- A connection that no session has made is never one of a session. -/
theorem Unattached.evolves {r r' : NetworkRelay} (h : Unattached r c) (hev : Evolves r r') :
    Unattached r' c := by
  obtain ⟨connection, hc, hwhy⟩ := h
  obtain ⟨connection', hc', hid⟩ := hev.connection c connection hc
  simp only [TcpConnection.identity, Prod.mk.injEq] at hid
  refine ⟨connection', hc', ?_⟩
  rw [hid.1, hid.2.2.2]
  exact hwhy

/-- No access client has a connection that no session has made. -/
theorem Unattached.not_owned {r : NetworkRelay} {A : ClientSocket} (h : Unattached r c) :
    ¬ Owned r c A := by
  rintro ⟨connection, hc, hcreator, hcls⟩
  obtain ⟨connection', hc', hwhy⟩ := h
  obtain rfl := Option.some.inj (hc.symm.trans hc')
  rcases hwhy with hcls' | ⟨k, hcreator'⟩
  · rw [hcls] at hcls'
    cases hcls'
  · rw [hcreator] at hcreator'
    cases hcreator'

/-- Only connections that no session has made are closed by a task of their own. -/
theorem closers_unattached (h : Reaches (step cfg) ok {} s) :
    ∀ k closer, s.closer k = some closer → Unattached s.relay closer.connection_id := by
  refine h.invariant (I := fun s => ∀ k closer, s.closer k = some closer →
    Unattached s.relay closer.connection_id) (by simp) fun s e s' hr _ hstep hI k closer hk => ?_
  have hrule := step_rule hstep
  have hev := hrule.evolves
  have hsame : s'.closer = s.closer → Unattached s'.relay closer.connection_id := by
    intro heq
    rw [heq] at hk
    exact (hI k closer hk).evolves hev
  have hschedule : ∀ {c₁ : ConnectionId} {ws}, Unattached s.relay c₁ →
      s'.closer = (s.scheduleClose c₁ ws).closer → Unattached s'.relay closer.connection_id := by
    intro c₁ ws hc₁ heq
    rw [heq] at hk
    by_cases hkk : k = s.closers_created
    · subst hkk
      obtain rfl : (⟨c₁, ws, .scheduled⟩ : Closer) = closer := by simpa using hk
      exact hc₁.evolves hev
    · exact (hI k closer (by simpa [hkk] using hk)).evolves hev
  have hupdate : ∀ {k' : ℕ} {closer' closer'' : Closer}, s.closer k' = some closer' →
      s'.closer = Function.update s.closer k' (some closer'') →
      closer''.connection_id = closer'.connection_id →
      Unattached s'.relay closer.connection_id := by
    intro k' closer' closer'' hk' heq hid
    rw [heq] at hk
    by_cases hkk : k = k'
    · subst hkk
      obtain rfl : closer'' = closer := by simpa using hk
      rw [hid]
      exact (hI k closer' hk').evolves hev
    · exact (hI k closer (by simpa [hkk] using hk)).evolves hev
  cases hrule with
  | @close call c₁ connection hcall hc =>
    refine hschedule ?_ rfl
    unfold returnedBy at hcall
    split at hcall
    · rename_i i c₂ hfinished
      obtain rfl := Option.some.inj hcall
      obtain ⟨connection', hc', hcreator⟩ := returned_creator hr call i c₂ hfinished
      exact ⟨connection', hc', .inr ⟨call, hcreator⟩⟩
    · cases hcall
  | handshake _ h => exact hsame h.frame.2.1.closer
  | keepAlive _ h => exact hsame h.frame.2.1.closer
  | msgLoop _ h =>
    cases h with
    | receives _ h =>
      cases h with
      | @schedules c₁ connection _ _ hc hcls => exact hschedule ⟨connection, hc, .inl hcls⟩ rfl
      | _ => exact hsame rfl
    | _ => exact hsame rfl
  | client _ h => exact hsame h.frame.2.1.closer
  | reader _ _ h => exact hsame h.frame.2.1.closer
  | closes hpc => exact hupdate hpc rfl rfl
  | closing hpc => exact hupdate hpc rfl rfl
  | _ => exact hsame rfl

/-- The connection objects of sessions are of the class `TcpConnectionAsync`. -/
theorem session_async (h : Reaches (step cfg) ok {} s) :
    ∀ c connection A, s.relay.connection c = some connection → connection.creator = .client A →
      connection.cls = .tcpConnectionAsync := by
  refine h.invariant (I := fun s => ∀ c connection A, s.relay.connection c = some connection →
    connection.creator = .client A → connection.cls = .tcpConnectionAsync) (by simp) ?_
  intro s e s' hr hok hstep hI c connection A hc hcreator
  have hrule := step_rule hstep
  cases hold : s.relay.connection c with
  | some connection₀ =>
    obtain ⟨connection₁, hc₁, hid⟩ := hrule.evolves.connection c connection₀ hold
    obtain rfl := Option.some.inj (hc₁.symm.trans hc)
    simp only [TcpConnection.identity, Prod.mk.injEq] at hid
    rw [hid.1]
    exact hI c connection₀ A hold (hid.2.2.2.symm.trans hcreator)
  | none =>
    -- The session that has just made it is in its create call, and owns the connection.
    obtain ⟨-, call, hcall, hid⟩ := connection_new hrule hold hc
    obtain ⟨binary, hpc⟩ : ∃ binary, s'.client A = some (.creating binary call) := by
      rw [hcreator] at hcall
      simp only [pending?] at hcall
      split at hcall
      · rename_i binary call' hpc
        obtain rfl := Option.some.inj hcall
        exact ⟨binary, hpc⟩
      · cases hcall
    obtain ⟨connection₀, hc₀, -, hcls⟩ :=
      (ownership (hr.step hok hstep)).client A _ c hpc (congrArg some hid)
    rwa [← Option.some.inj (hc₀.symm.trans hc)]

/-! ## The session -/

/-- A session leaves its loop when its access client disconnects. -/
theorem ClientRule.leaves {A : ClientSocket} {pc pc' : Client} {o : Outcome}
    (h : ClientRule cfg s A pc o s') (hI : Ownership s) (hpc : s.client A = some pc)
    (hpc' : s'.client A = some pc') (hleaving : pc'.leaving? = some c)
    (hnot : pc.leaving? ≠ some c) :
    pc = .receiving c ∧ (o = .disconnect ∨ o = .raised .webSocketDisconnect) := by
  -- The loop's condition holds, since the entry is there until the session removes it.
  have hloop : ∀ {c₁ agent}, pc.connected? = some c₁ → ∀ s₁ : RelayState,
      s₁.relay.active_access_client_connections = s.relay.active_access_client_connections →
      (s₁.continueLoop A c₁ agent).client A = some pc' → False := by
    intro c₁ agent hcon s₁ haccess heq
    obtain ⟨hA, -⟩ := hI.connected A pc c₁ hpc hcon
    rcases continueLoop_cases s₁ A c₁ agent with ⟨B, -, hcont⟩ | ⟨hnone, -⟩
    · rw [hcont] at heq
      obtain rfl : Client.receiving c₁ = pc' := by simpa using heq
      cases hleaving
    · rw [haccess, hA] at hnone
      cases hnone
  have hforwarded : ∀ {c₁ agent message r' res}, pc.connected? = some c₁ →
      s.relay.SameButSends r' → (s.forwarded A c₁ agent message (r', res)).client A = some pc' →
      False := by
    intro c₁ agent message r' res hcon same heq
    cases res with
    | returned a => exact hloop hcon (s.withRelay r') same.access heq
    | parked send =>
      obtain rfl : Client.forwarding c₁ message send = pc' := by simpa [forwarded] using heq
      cases hleaving
    | raised e =>
      obtain rfl : Client.finished (some c₁) (.error e) = pc' := by simpa [forwarded] using heq
      cases hleaving
  cases h with
  | @advances _ _ pc₁ _ hun =>
    obtain rfl : pc₁ = pc' := by simpa using hpc'
    cases pc₁ <;> first | cases hleaving; done | cases hun
  | @creating _ _ _ r' res =>
    cases res with
    | parked _ | returned _ =>
      simp only [created, setClient, Function.update_self, Option.some.injEq] at hpc'
      subst hpc'
      cases hleaving
    | raised e =>
      cases e <;>
        · simp only [created, setClient, Function.update_self, Option.some.injEq] at hpc'
          subst hpc'
          cases hleaving
  | @disconnects c₁ _ _ _ send ho =>
    obtain rfl : Client.closing c₁ (.informing send) = pc' := by simpa using hpc'
    obtain rfl := Option.some.inj hleaving
    exact ⟨rfl, ho⟩
  | ignores => exact (hloop rfl s rfl hpc').elim
  | forwards _ _ h | forwarding _ h => exact (hforwarded rfl h.same hpc').elim
  | @closing c₁ _ _ _ r' res =>
    cases res with
    | parked pc₁ =>
      obtain rfl : Client.closing c₁ pc₁ = pc' := by simpa [connectionClosed] using hpc'
      exact absurd hleaving hnot
    | returned a =>
      obtain rfl : Client.closingClient c₁ = pc' := by simpa [connectionClosed] using hpc'
      exact absurd hleaving hnot
    | raised e =>
      obtain rfl : Client.finished (some c₁) (.error e) = pc' := by
        simpa [connectionClosed] using hpc'
      cases hleaving
  | @clientClosed c₁ =>
    obtain rfl : Client.joining c₁ = pc' := by simpa using hpc'
    exact absurd hleaving hnot
  | @cancels c₁ =>
    obtain rfl : Client.cancelling c₁ = pc' := by simpa using hpc'
    exact absurd hleaving hnot
  | refuses | unregistered | opens | starts | startFails | receiveFails | malformed | closeFails
  | joined =>
    simp only [setClient, Function.update_self, Option.some.injEq] at hpc'
    subst hpc'
    cases hleaving

/-! ## The end of the data -/

/-- The agent has sent all of its data for the connection, and all of it has arrived. -/
structure Settled (s : RelayState) (c : ConnectionId) (W : AgentSocket) : Prop where
  arrived : dataFor c (s.relay.inbox W) = []
  ended : s.relay.hasReset W c = true ∨ s.listens W = false

/-- A message loop that is over is not started again. -/
theorem listens_stays (h : RelayRule cfg s e s') {W : AgentSocket} {n : AgentId}
    (hdone : s.handshake W = some (.finished (.ok (some n)))) (hW : s.listens W = false) :
    s'.listens W = false := by
  by_cases hrun : ∃ o, e = .run (.msgLoop W) o
  · obtain ⟨o, rfl⟩ := hrun
    cases h with
    | msgLoop hpc h =>
      cases h with
      | @tearingDown pc _ r' res =>
        cases res <;> simp [listens, tornDown, MsgLoop.over]
      | _ => simp [listens, hpc, MsgLoop.over] at hW
  · unfold listens at hW ⊢
    rwa [msgLoop_frame h (handshake_over h hdone) fun o he => hrun ⟨o, he⟩]

/-- No data is sent for a connection after its end. -/
theorem Settled.sent {W : AgentSocket} (hW : Settled s c W) (hok : OrderlyTarget c s e = true)
    (h : RelayRule cfg s e s') :
    dataFor c (s'.relay.agent_sent W) = dataFor c (s.relay.agent_sent W) := by
  by_cases hsend : ∃ W₀ frame, e = .agentSends W₀ frame
  · obtain ⟨W₀, frame, rfl⟩ := hsend
    cases h
    by_cases hWW : W = W₀
    · subst hWW
      have hempty : frame.dataFor c = [] := by
        unfold AgentFrame.dataFor
        split
        · rename_i c' data hframe
          apply if_neg
          rintro rfl
          have hlate := (Bool.and_eq_true_iff.mp hok).2
          rcases hW.ended with hreset | hover
          · simp [hframe, hreset] at hlate
          · simp [hframe, hover] at hlate
        · rfl
      simp [hempty]
    · simp [hWW]
  · rw [agent_sent_frame h fun W frame he => hsend ⟨W, frame, he⟩]

/-- What is left on the wire of a stream after a step that adds nothing to it. -/
theorem arrived_step (hr : Reaches (step cfg) ok {} s) (hN : Named s) (h : RelayRule cfg s e s')
    {connection : TcpConnection} {A : ClientSocket} (hc : s.relay.connection c = some connection)
    (hcreator : connection.creator = .client A)
    (hsent : dataFor c (s'.relay.agent_sent connection.agent_connection) =
      dataFor c (s.relay.agent_sent connection.agent_connection))
    (hW : dataFor c (s.relay.inbox connection.agent_connection) = []) :
    dataFor c (s'.relay.inbox connection.agent_connection) = [] := by
  obtain ⟨connection', hc', hid⟩ := h.evolves.connection c connection hc
  simp only [TcpConnection.identity, Prod.mk.injEq] at hid
  have hmoves := pipe_moves hr hN h hc hcreator hc'
  have hflight := hmoves.inFlight_nil (by simpa only [pipe, hid.2.1] using hsent) hW
  simpa only [pipe, hid.2.1] using hflight

/-- Data that has ended and arrived stays so. -/
theorem Settled.step (hr : Reaches (step cfg) ok {} s) (hN : Named s)
    (hok : OrderlyTarget c s e = true) (h : RelayRule cfg s e s') {connection : TcpConnection}
    {A : ClientSocket} (hc : s.relay.connection c = some connection)
    (hcreator : connection.creator = .client A) (hW : Settled s c connection.agent_connection) :
    Settled s' c connection.agent_connection where
  arrived := arrived_step hr hN h hc hcreator (hW.sent hok h) hW.arrived
  ended := by
    rcases hW.ended with hreset | hover
    · left
      obtain ⟨frame, hframe, hreset⟩ := List.any_eq_true.mp hreset
      exact List.any_eq_true.mpr ⟨frame, (h.evolves.agent_sent _).subset hframe, hreset⟩
    · right
      obtain ⟨n, hdone⟩ := (registryInv hr).connection c connection hc
      exact listens_stays h hdone hover

/-- The stream of the connection has ended, and the access client has been sent all of it. -/
structure Ended (s : RelayState) (c : ConnectionId) (connection : TcpConnection)
    (A : ClientSocket) : Prop where
  settled : Settled s c connection.agent_connection
  done : (s.relay.pipe c connection A).Done

/-- A stream that has ended stays so, with everything forwarded. -/
theorem Ended.step (hr : Reaches (step cfg) ok {} s) (hN : Named s)
    (hok : OrderlyTarget c s e = true) (h : RelayRule cfg s e s')
    {connection connection' : TcpConnection} {A : ClientSocket}
    (hc : s.relay.connection c = some connection) (hcreator : connection.creator = .client A)
    (hc' : s'.relay.connection c = some connection') (hE : Ended s c connection A) :
    Ended s' c connection' A := by
  obtain ⟨connection₁, hc₁, hid⟩ := h.evolves.connection c connection hc
  obtain rfl := Option.some.inj (hc₁.symm.trans hc')
  simp only [TcpConnection.identity, Prod.mk.injEq] at hid
  have hsettled := hE.settled.step hr hN hok h hc hcreator
  have hmoves := pipe_moves hr hN h hc hcreator hc'
  have hsent := hE.settled.sent hok h
  constructor
  · rwa [hid.2.1]
  · exact hE.done.step hmoves (by simpa only [pipe, hid.2.1] using hsent)

/-- A close of the connection is running, or is still to come in a teardown. -/
def Ending (s : RelayState) (c : ConnectionId) : Prop :=
  (∃ t pc, s.closing? t = some (c, pc)) ∨ ∃ t pc, s.tearing? t = some pc ∧ c ∈ pc.rest

/-- The connection of a close exists, and if it is a session's, its data has ended. -/
def SettledFor (s : RelayState) (c : ConnectionId) : Prop :=
  ∃ connection, s.relay.connection c = some connection ∧
    ∀ A, connection.creator = .client A → Settled s c connection.agent_connection

/-- The data of the connection of a close stays ended. -/
theorem SettledFor.step (hr : Reaches (step cfg) ok {} s) (hN : Named s)
    (hok : OrderlyTarget c s e = true) (h : RelayRule cfg s e s') (hs : SettledFor s c) :
    SettledFor s' c := by
  obtain ⟨connection, hc, hsettled⟩ := hs
  obtain ⟨connection', hc', hid⟩ := h.evolves.connection c connection hc
  simp only [TcpConnection.identity, Prod.mk.injEq] at hid
  refine ⟨connection', hc', fun A hA => ?_⟩
  have hcreator : connection.creator = .client A := hid.2.2.2.symm.trans hA
  rw [hid.2.1]
  exact (hsettled A hcreator).step hr hN hok h hc hcreator

/-- A message loop that receives a disconnect has received all frames of its websocket, and receives
no more. -/
theorem settled_of_disconnect (hr : Reaches (step cfg) ok {} s) (hN : Named s) (hS : Steady s)
    {W ws : AgentSocket} {n : AgentId} {o : Outcome}
    (hok : OrderlyTarget c s (.run (.msgLoop W) o) = true)
    (h : RelayRule cfg s (.run (.msgLoop W) o) s') (hpc : s.msgLoop W = some ⟨n, .receiving⟩)
    (ho : o = .disconnect ∨ o = .raised .webSocketDisconnect)
    (hreg : s.relay.registered_agent_connections n = some ws)
    (hbelongs : s.relay.belongsTo ws c = true) : SettledFor s' c := by
  rcases ho with rfl | rfl
  · -- The loop that runs is the registered one.
    obtain rfl : W = ws := Option.some.inj ((hS.registered W n _ hpc rfl).symm.trans hreg)
    obtain ⟨connection, hc, rfl⟩ : ∃ connection, s.relay.connection c = some connection ∧
        connection.agent_connection = W := by
      cases hc : s.relay.connection c with
      | none => simp [belongsTo, hc] at hbelongs
      | some connection => exact ⟨connection, rfl, by simpa [belongsTo, hc] using hbelongs⟩
    have hinbox : s.relay.inbox connection.agent_connection = [] := by
      simpa using (Bool.and_eq_true_iff.mp hok).2
    have hover : s'.listens connection.agent_connection = false := by
      cases h with
      | msgLoop hpc' hrule =>
        obtain ⟨rfl, rfl⟩ := MsgLoopTask.mk.inj (Option.some.inj (hpc.symm.trans hpc'))
        cases hrule with
        | @disconnects _ r' res => cases res <;> simp [listens, tornDown, MsgLoop.over]
    obtain ⟨connection', hc', hid⟩ := h.evolves.connection c connection hc
    simp only [TcpConnection.identity, Prod.mk.injEq] at hid
    refine ⟨connection', hc', fun A hA => ?_⟩
    rw [hid.2.1]
    have hcreator : connection.creator = .client A := hid.2.2.2.symm.trans hA
    have hsent := agent_sent_frame h (by simp)
    refine ⟨arrived_step hr hN h hc hcreator (by rw [hsent]) ?_, .inr hover⟩
    rw [hinbox]
    rfl
  · exact absurd hok OrderlyTarget.not_raised

/-! ## The invariant -/

/-- What is known of the stream of `c` and of its session in an orderly run. -/
structure Draining (c : ConnectionId) (s : RelayState) : Prop where
  staying : ∀ A pc, s.client A = some pc → pc.leaving? ≠ some c
  opening : ∀ A, (∀ pc, s.client A = some pc → pc.silent = true) →
    s.relay.client_closed A = false
  ordered : ∀ W, (s.relay.agent_sent W).Pairwise fun frame frame' =>
    frame.reset? = some c → frame'.dataFor c = []
  live : ∀ reader, s.reader c = some reader → reader.cancelled = false
  finished : ∀ reader, s.reader c = some reader → reader.point = .finished →
    c ∉ s.relay.active_relayed_connections
  ending : Ending s c → SettledFor s c
  closing : ∀ t connection A, s.closing? t = some (c, .closingClient) →
    s.relay.connection c = some connection → connection.creator = .client A →
    Ended s c connection A
  dropped : ∀ connection A, s.relay.connection c = some connection →
    connection.creator = .client A → c ∉ s.relay.active_relayed_connections →
    Ended s c connection A
  closed : ∀ A pc connection, s.client A = some pc → pc.connection_id? = some c →
    s.relay.connection c = some connection → s.relay.client_closed A = true →
    Ended s c connection A

namespace Draining

/-- At the start there is no stream. -/
theorem initial (c : ConnectionId) : Draining c {} where
  staying := by simp
  opening _ _ := rfl
  ordered _ := .nil
  live := by simp
  finished := by simp
  ending := by
    rintro (⟨t, pc, hpc⟩ | ⟨t, pc, hpc, -⟩) <;> cases t <;> cases hpc
  closing := by simp
  dropped := by simp
  closed := by simp

/-- The session of the connection does not leave its loop. -/
theorem staying_step (hD : Draining c s) (hI : Ownership s) (hok : OrderlyTarget c s e = true)
    (h : RelayRule cfg s e s') {A : ClientSocket} {pc' : Client} (hpc' : s'.client A = some pc') :
    pc'.leaving? ≠ some c := by
  intro hleaving
  by_cases hrun : ∃ o, e = .run (.client A) o
  · obtain ⟨o, rfl⟩ := hrun
    cases h with
    | client hpc hrule =>
      obtain ⟨rfl, rfl | rfl⟩ := hrule.leaves hI hpc hpc' hleaving (hD.staying A _ hpc)
      · have hstays := (Bool.and_eq_true_iff.mp hok).2
        simp [hpc] at hstays
      · exact OrderlyTarget.not_raised hok
  · have hid := Client.connection_id?_of_leaving hleaving
    have hpc := Ownership.client_other h (fun o he => hrun ⟨o, he⟩) hpc' ⟨c, hid⟩
    exact hD.staying A pc' hpc hleaving

/-- The access client of an attached connection has got past the opening of its session. -/
theorem attached_late (hr : Reaches (step cfg) ok {} s) {A : ClientSocket} {c₁ : ConnectionId}
    (haccess : s.relay.active_access_client_connections c₁ = some A) :
    ∃ pc, s.client A = some pc ∧ pc.silent = false := by
  obtain ⟨connection, hc, hcreator, -⟩ := (ownership hr).access c₁ A haccess
  have hmade := made hr c₁ connection hc
  rw [hcreator] at hmade
  obtain ⟨pc, hpc, hstage⟩ := hmade
  refine ⟨pc, hpc, ?_⟩
  cases pc with
  | creating binary call =>
    rcases hstage with hid | hfailed
    · obtain ⟨hnone, -⟩ := (ownership hr).opening _ _ c₁ hpc hid
      rw [haccess] at hnone
      cases hnone
    · cases hfailed
  | accepting | receivingStart | checking => rcases hstage with h | h <;> cases h
  | _ => rfl

/-- The websocket of a session that is yet to open its connection is not closed. -/
theorem opening_step (hD : Draining c s) (hr : Reaches (step cfg) ok {} s)
    (h : RelayRule cfg s e s') {A : ClientSocket}
    (hsilent : ∀ pc, s'.client A = some pc → pc.silent = true) :
    s'.relay.client_closed A = false := by
  by_cases hrun : ∃ o, e = .run (.client A) o
  · obtain ⟨o, rfl⟩ := hrun
    cases h with
    | @client _ pc _ _ hpc hrule =>
      cases hrule.tells with
      | waits pc' hpc' hpcsilent _ _ hclosed =>
        rw [hclosed]
        refine hD.opening A fun pc₁ hpc₁ => ?_
        rwa [← Option.some.inj (hpc.symm.trans hpc₁)]
      | starts _ _ hpc' => cases hsilent _ hpc'
      | fails pc' _ hpc' hlate | goesOn pc' hpc' hlate =>
        rw [hsilent pc' hpc'] at hlate
        cases hlate
  · have hrun : ∀ o, e ≠ .run (.client A) o := fun o he => hrun ⟨o, he⟩
    have hbefore : ∀ pc, s.client A = some pc → pc.silent = true := by
      intro pc hpc
      have hconn : e ≠ .clientConnects A := by
        rintro rfl
        cases h with
        | clientConnects hnone =>
          rw [hpc] at hnone
          cases hnone
      apply hsilent pc
      rw [client_frame h hrun hconn, hpc]
    have hopen := hD.opening A hbefore
    by_contra hshut
    rw [Bool.not_eq_false] at hshut
    cases shut_of_rule (by simp [hopen]) h hshut with
    | attached _ _ haccess =>
      obtain ⟨pc, hpc, hlate⟩ := attached_late hr haccess
      rw [hbefore pc hpc] at hlate
      cases hlate
    | refused | closed => exact hrun _ rfl

/-- Data for the connection still comes before its reset. -/
theorem ordered_step (hD : Draining c s) (hok : OrderlyTarget c s e = true)
    (h : RelayRule cfg s e s') (W : AgentSocket) :
    (s'.relay.agent_sent W).Pairwise fun frame frame' =>
      frame.reset? = some c → frame'.dataFor c = [] := by
  by_cases hsend : ∃ W₀ frame, e = .agentSends W₀ frame
  · obtain ⟨W₀, frame₀, rfl⟩ := hsend
    cases h
    by_cases hWW : W = W₀
    · subst hWW
      simp only [withRelay, Function.update_self, List.pairwise_append, List.mem_singleton]
      refine ⟨hD.ordered W, List.pairwise_singleton _ _, ?_⟩
      rintro frame hframe _ rfl hreset
      -- After the reset no data for `c` is sent.
      have hsent : s.relay.hasReset W c = true :=
        List.any_eq_true.mpr ⟨frame, hframe, decide_eq_true hreset⟩
      unfold AgentFrame.dataFor
      split
      · rename_i c' data hdata
        apply if_neg
        rintro rfl
        have hlate := (Bool.and_eq_true_iff.mp hok).2
        simp [hdata, hsent] at hlate
      · rfl
    · simpa [hWW] using hD.ordered W
  · rw [agent_sent_frame h fun W frame he => hsend ⟨W, frame, he⟩]
    exact hD.ordered W

/-- The reader of the connection is not cancelled, and finishes only after a drop. -/
theorem reader_step (hD : Draining c s) (hI : Ownership s) (hok : OrderlyTarget c s e = true)
    (h : RelayRule cfg s e s') {reader' : Reader} (hreader' : s'.reader c = some reader') :
    reader'.cancelled = false ∧
      (reader'.point = .finished → c ∉ s'.relay.active_relayed_connections) := by
  have hold : ∀ reader, s.reader c = some reader → reader' = reader →
      reader'.cancelled = false ∧
        (reader'.point = .finished → c ∉ s'.relay.active_relayed_connections) := by
    rintro reader hreader rfl
    obtain ⟨connection, hc, -⟩ := hI.reader c reader' hreader
    exact ⟨hD.live reader' hreader, fun hpoint =>
      not_active_evolves (hD.finished reader' hreader hpoint) hc h.evolves⟩
  by_cases hrun : ∃ o, e = .run (.reader c) o
  · obtain ⟨o, rfl⟩ := hrun
    cases h with
    | @reader _ reader connection _ _ hreader hc hrule =>
      have hlive := hD.live reader hreader
      cases hrule with
      | sends | parks =>
        simp only [setReader, Function.update_self, Option.some.injEq] at hreader'
        subst hreader'
        exact ⟨hlive, fun hpoint => (by cases hpoint)⟩
      | ends =>
        simp only [readerEnds, setReader, Function.update_self, Option.some.injEq] at hreader'
        subst hreader'
        refine ⟨hlive, fun _ => ?_⟩
        simp [readerEnds]
      | dies _ hcancelled =>
        rw [hlive] at hcancelled
        cases hcancelled
  by_cases hclient : ∃ A o pc, e = .run (.client A) o ∧ s.client A = some pc ∧
      pc.connection_id? = some c
  · obtain ⟨A, o, pc, rfl, hpc, hid⟩ := hclient
    obtain ⟨pc₀, hpc₀, hmoved⟩ := moved_of_run h
    obtain rfl := Option.some.inj (hpc.symm.trans hpc₀)
    have hsame : s'.reader = s.reader → reader'.cancelled = false ∧
        (reader'.point = .finished → c ∉ s'.relay.active_relayed_connections) :=
      fun hframe => hold reader' ((congrFun hframe c).symm.trans hreader') rfl
    cases hmoved with
    | ended _ _ _ _ _ _ _ hreader => exact hsame hreader
    | created _ _ _ _ _ _ _ hreader => exact hsame hreader
    | left _ _ _ _ _ _ _ hreader => exact hsame hreader
    | stays _ _ _ _ _ _ _ hreader hnone =>
      cases hs : s.reader c with
      | none =>
        rw [hnone c hs] at hreader'
        cases hreader'
      | some reader =>
        obtain ⟨reader₁, hr₁, -, hleaving | heq⟩ := hreader c reader hs
        · exact absurd hleaving (hD.staying A pc hpc)
        · obtain rfl := Option.some.inj (hr₁.symm.trans hreader')
          exact hold reader hs heq
    | @entered binary c₁ hpc₁ _ _ hreader =>
      obtain rfl : c₁ = c := by
        subst hpc₁
        exact Option.some.inj hid
      rw [hreader, Function.update_self] at hreader'
      obtain rfl := Option.some.inj hreader'
      exact ⟨rfl, fun hpoint => (by cases hpoint)⟩
  · have hframe := reader_frame h (fun o he => hrun ⟨o, he⟩)
      fun A o pc he hpc hid => hclient ⟨A, o, pc, he, hpc, hid⟩
    exact hold reader' (hframe.symm.trans hreader') rfl

/-- A reset that the message loop takes from its websocket is the last that concerns its
connection. -/
theorem settled_of_reset (hD : Draining c s) (hI : RegistryInv s) (hN : Named s) {W : AgentSocket}
    {frame : AgentFrame} {rest : List AgentFrame} (hin : s.relay.inbox W = frame :: rest)
    (hreset : frame.reset? = some c) : SettledFor s c := by
  have hsuffix := hI.inbox W
  rw [hin] at hsuffix
  have hsent := hsuffix.subset List.mem_cons_self
  have hnone := AgentFrame.data?_of_reset? hreset
  obtain ⟨connection, hc, rfl⟩ := hN W frame hsent c (by simp [AgentFrame.named?, hnone, hreset])
  refine ⟨connection, hc, fun A _ => ⟨?_, .inl ?_⟩⟩
  · have hordered := (hD.ordered connection.agent_connection).sublist hsuffix.sublist
    have hrest := (List.pairwise_cons.mp hordered).1
    have hempty : dataFor c rest = [] := by
      unfold dataFor
      rw [List.flatMap_eq_nil_iff]
      exact fun frame' hframe' => hrest frame' hframe' hreset
    rw [hin, dataFor_cons, hempty]
    simp [AgentFrame.dataFor, hnone]
  · exact List.any_eq_true.mpr ⟨frame, hsent, decide_eq_true hreset⟩

/-- When a close of the connection is under way, its data has ended. -/
theorem ending_step (hD : Draining c s) (hr : Reaches (step cfg) ok {} s) (hN : Named s)
    (hS : Steady s) (hok : OrderlyTarget c s e = true) (h : RelayRule cfg s e s')
    (hending : Ending s' c) : SettledFor s' c := by
  have hold : Ending s c → SettledFor s' c := fun hE => (hD.ending hE).step hr hN hok h
  rcases hending with ⟨t, pc', hclosing⟩ | ⟨t, pc', hpc', hrest⟩
  · cases closing_of_rule h hclosing with
    | same hpc => exact hold (.inl ⟨t, _, hpc⟩)
    | moved _ hpc => exact hold (.inl ⟨t, _, hpc⟩)
    | started he _ hstarted =>
      subst he
      cases hstarted with
      | reset _ hin hreset =>
        exact (hD.settled_of_reset (registryInv hr) hN hin hreset).step hr hN hok h
      | teardown hpc ho hreg _ hws => exact settled_of_disconnect hr hN hS hok h hpc ho hreg hws
      | @eviction _ _ _ ws _ _ hdead =>
        rw [hS.alive ws] at hdead
        cases hdead
      | next hpc hrest =>
        refine hold (.inr ⟨t, _, hpc, ?_⟩)
        rw [hrest]
        exact List.mem_cons_self
      | left =>
        -- The session stays in its loop.
        simp only [closing?] at hclosing
        split at hclosing
        · rename_i c₁ pc₁ hclient
          obtain ⟨rfl, -⟩ := Prod.mk.inj (Option.some.inj hclosing)
          exact absurd rfl (hD.staying_step (ownership hr) hok h hclient)
        · cases hclosing
      | scheduled hpc =>
        obtain ⟨connection, hc, hwhy⟩ := closers_unattached hr _ _ hpc
        refine SettledFor.step hr hN hok h ⟨connection, hc, fun A hA => ?_⟩
        rcases hwhy with hcls | ⟨k, hk⟩
        · rw [session_async hr _ connection A hc hA] at hcls
          cases hcls
        · rw [hA] at hk
          cases hk
  · by_cases hrun : ∃ o, e = .run t o
    · obtain ⟨o, rfl⟩ := hrun
      cases teardown_of_run h (tearing_task hpc') with
      | outside _ hnone | idles _ _ _ hnone | raises _ _ hnone | returns _ _ _ hnone =>
        rw [hpc'] at hnone
        cases hnone
      | starts n pc₁ _ hpc₁ hcalls hreg hsnap =>
        obtain rfl := Option.some.inj (hpc₁.symm.trans hpc')
        have hmem : c ∈ s.relay.active_relayed_connections.filter
            (s.relay.belongsTo pc₁.agent_connection) := by
          rw [hsnap]
          exact List.mem_cons_of_mem _ hrest
        have hbelongs := (List.mem_filter.mp hmem).2
        cases hcalls with
        | disconnect hpc ho => exact settled_of_disconnect hr hN hS hok h hpc ho hreg hbelongs
        | @eviction _ _ _ other _ _ _ hdead =>
          rw [hS.alive other] at hdead
          cases hdead
      | moves pc pc₁ hpc hpc₁ hstep =>
        obtain rfl := Option.some.inj (hpc₁.symm.trans hpc')
        refine hold (.inr ⟨t, pc, hpc, ?_⟩)
        obtain ⟨-, ⟨-, heq, -⟩ | ⟨heq, -⟩⟩ := hstep.parked
        · rwa [← heq]
        · rw [heq]
          exact List.mem_cons_of_mem _ hrest
    · rw [tearing_frame (registryInv hr) h fun o he => hrun ⟨o, he⟩] at hpc'
      exact hold (.inr ⟨t, pc', hpc', hrest⟩)

/-- A close that comes to the access client ends the stream: either the connection is active, and
its buffer is empty, or it has been dropped before. -/
theorem passes_ended (hD : Draining c s)
    (hintact : ∀ connection A, s.relay.connection c = some connection →
      connection.creator = .client A → (s.relay.pipe c connection A).Intact)
    {t : Task} {o : Outcome} {l : ℕ} (hdrains : DrainsFirst c s (.run t o) = true)
    (hclosing : s.closing? t = some (c, .informing (.sending l))) (ho : o.passes = true)
    {connection : TcpConnection} {A : ClientSocket} (hc : s.relay.connection c = some connection)
    (hcreator : connection.creator = .client A) : Ended s c connection A := by
  by_cases hact : c ∈ s.relay.active_relayed_connections
  · obtain ⟨connection₁, hc₁, hsettled⟩ := hD.ending (.inl ⟨t, _, hclosing⟩)
    obtain rfl := Option.some.inj (hc.symm.trans hc₁)
    have hW := hsettled A hcreator
    exact ⟨hW, (hintact connection A hc hcreator).done hact
      (DrainsFirst.empty hdrains hclosing ho hc) hW.arrived⟩
  · exact hD.dropped connection A hc hcreator hact

/-- A session whose access client's websocket is closed had its connection before. -/
theorem had_connection (hD : Draining c s) (hr : Reaches (step cfg) ok {} s)
    (h : RelayRule cfg s e s') {A : ClientSocket} {pc' : Client} (hpc' : s'.client A = some pc')
    (hid' : pc'.connection_id? = some c) (hshut' : s'.relay.client_closed A = true) :
    ∃ pc, s.client A = some pc ∧ pc.connection_id? = some c := by
  by_cases hrun : ∃ o, e = .run (.client A) o
  · obtain ⟨o, rfl⟩ := hrun
    obtain ⟨pc, hpc, hmoved⟩ := moved_of_run h
    refine ⟨pc, hpc, ?_⟩
    cases hmoved with
    | ended pc₁ hpc₁ hid =>
      obtain rfl := Option.some.inj (hpc₁.symm.trans hpc')
      rcases hid with hid | ⟨-, hfailed⟩
      · rw [← hid, hid']
      · rw [Client.failed_id hfailed] at hid'
        cases hid'
    | created binary call hpc₁ =>
      -- In the create call the access client's websocket is still open.
      have hopen := hD.opening_step hr h (A := A) fun pc₂ hpc₂ => by
        rw [← Option.some.inj (hpc₁.symm.trans hpc₂)]
        rfl
      rw [hopen] at hshut'
      cases hshut'
    | stays pc₁ hpc₁ hid =>
      obtain rfl := Option.some.inj (hpc₁.symm.trans hpc')
      rw [← hid, hid']
    | entered hpc₀ hpc₁ =>
      obtain rfl := Option.some.inj (hpc₁.symm.trans hpc')
      rw [hpc₀]
      exact hid'
    | left pc₁ hconnected hpc₁ hleaving =>
      obtain rfl := Option.some.inj (hpc₁.symm.trans hpc')
      rw [Client.connection_id?_of_leaving hleaving] at hid'
      rw [Client.connection_id?_of_connected hconnected, hid']
  · exact ⟨pc', Ownership.client_other h (fun o he => hrun ⟨o, he⟩) hpc' ⟨c, hid'⟩, hid'⟩

section

variable (hD : Draining c s) (hr : Reaches (step cfg) ok {} s) (hN : Named s)
  (hintact : ∀ connection A, s.relay.connection c = some connection →
    connection.creator = .client A → (s.relay.pipe c connection A).Intact)
  (hok : OrderlyTarget c s e = true) (hdrains : DrainsFirst c s e = true)
  (h : RelayRule cfg s e s')
include hD hr hN hintact hok hdrains h

/-- A step that takes `c` out of the active connections has ended its stream. -/
theorem dropped_step {connection' : TcpConnection} {A : ClientSocket}
    (hc' : s'.relay.connection c = some connection') (hcreator' : connection'.creator = .client A)
    (hact' : c ∉ s'.relay.active_relayed_connections) : Ended s' c connection' A := by
  cases hc : s.relay.connection c with
  | none =>
    -- A connection is made active.
    obtain ⟨-, call, hcall, rfl⟩ := connection_new h hc hc'
    cases pending_of_rule h hcall with
    | published _ _ _ _ hactive => exact absurd hactive hact'
    | same _ hcall₀ =>
      obtain ⟨connection₀, hc₀, -⟩ := (outgoing hr).pending _ call hcall₀
      rw [hc] at hc₀
      cases hc₀
    | moved _ hcall₀ hcreate =>
      obtain ⟨connection₀, hc₀, -⟩ := (outgoing hr).pending _ _ hcall₀
      rw [← hcreate.parked.2.1, hc] at hc₀
      cases hc₀
  | some connection =>
    have hcreator : connection.creator = .client A := by
      obtain ⟨connection₁, hc₁, hid⟩ := h.evolves.connection c connection hc
      obtain rfl := Option.some.inj (hc₁.symm.trans hc')
      simp only [TcpConnection.identity, Prod.mk.injEq] at hid
      exact hid.2.2.2.symm.trans hcreator'
    have hstep : Ended s c connection A → Ended s' c connection' A := fun hE =>
      hE.step hr hN hok h hc hcreator hc'
    by_cases hact : c ∈ s.relay.active_relayed_connections
    · cases lost_of_rule hact h hact' with
      | unattached hclosing ho =>
        exact hstep (hD.passes_ended hintact hdrains hclosing (passes_of ho) hc hcreator)
      | closed hclosing => exact hstep (hD.closing _ _ _ hclosing hc hcreator)
      | disconnected hpc ho =>
        rcases ho with rfl | rfl
        · have hstays := (Bool.and_eq_true_iff.mp hok).2
          simp [hpc] at hstays
        · exact absurd hok OrderlyTarget.not_raised
      | reader hreader why =>
        rcases why with hcancelled | ⟨err, rfl⟩
        · rw [hD.live _ hreader] at hcancelled
          cases hcancelled
        · exact absurd hok OrderlyTarget.not_raised
    · exact hstep (hD.dropped connection A hc hcreator hact)

/-- A close that has come to the access client has ended the stream. -/
theorem closing_step {t : Task} {connection' : TcpConnection} {A : ClientSocket}
    (hclosing : s'.closing? t = some (c, .closingClient))
    (hc' : s'.relay.connection c = some connection') (hcreator' : connection'.creator = .client A) :
    Ended s' c connection' A := by
  have hstep : Ending s c → (∀ connection, s.relay.connection c = some connection →
      connection.creator = .client A → Ended s c connection A) → Ended s' c connection' A := by
    intro hE hended
    obtain ⟨connection, hc, -⟩ := hD.ending hE
    obtain ⟨connection₁, hc₁, hid⟩ := h.evolves.connection c connection hc
    obtain rfl := Option.some.inj (hc₁.symm.trans hc')
    simp only [TcpConnection.identity, Prod.mk.injEq] at hid
    have hcreator : connection.creator = .client A := hid.2.2.2.symm.trans hcreator'
    exact (hended connection hc hcreator).step hr hN hok h hc hcreator hc'
  cases closing_of_rule h hclosing with
  | same hpc =>
    exact hstep (.inl ⟨t, _, hpc⟩) fun connection hc hcreator =>
      hD.closing t connection A hpc hc hcreator
  | moved he hpc hclose =>
    subst he
    refine hstep (.inl ⟨t, _, hpc⟩) fun connection hc hcreator => ?_
    cases hclose with
    | closesClient ho =>
      exact hD.passes_ended hintact hdrains hpc (passes_of ho) hc hcreator
  | started _ hpc' => cases hpc'

/-- The access client's websocket is closed after the stream has ended. -/
theorem closed_step {A : ClientSocket} {pc' : Client} {connection' : TcpConnection}
    (hpc' : s'.client A = some pc') (hid' : pc'.connection_id? = some c)
    (hc' : s'.relay.connection c = some connection') (hshut' : s'.relay.client_closed A = true) :
    Ended s' c connection' A := by
  have hI := ownership hr
  obtain ⟨pc, hpc, hid⟩ := hD.had_connection hr h hpc' hid' hshut'
  obtain ⟨connection, hc, hcreator, -⟩ := hI.client A pc c hpc hid
  have hstep : Ended s c connection A → Ended s' c connection' A := fun hE =>
    hE.step hr hN hok h hc hcreator hc'
  by_cases hshut : s.relay.client_closed A = true
  · exact hstep (hD.closed A pc connection hpc hid hc hshut)
  · cases shut_of_rule hshut h hshut' with
    | attached hclosing ho haccess =>
      obtain ⟨connection₁, hc₁, hcreator₁, -⟩ := hI.access _ A haccess
      obtain rfl := sole_connection hr _ c connection₁ connection hc₁ hc
        (hcreator₁.trans hcreator.symm)
      exact hstep (hD.passes_ended hintact hdrains hclosing (passes_of ho) hc hcreator)
    | refused hpc₁ hun =>
      obtain rfl := Option.some.inj (hpc.symm.trans hpc₁)
      rw [Client.unconnected_id hun] at hid
      cases hid
    | closed hpc₁ =>
      obtain rfl := Option.some.inj (hpc.symm.trans hpc₁)
      exact absurd hid (hD.staying A _ hpc)

/-- One step of an orderly run that drains first. -/
theorem preserved (hS : Steady s) : Draining c s' where
  staying _ _ hpc' := hD.staying_step (ownership hr) hok h hpc'
  opening _ hsilent := hD.opening_step hr h hsilent
  ordered W := hD.ordered_step hok h W
  live _ hreader' := (hD.reader_step (ownership hr) hok h hreader').1
  finished _ hreader' := (hD.reader_step (ownership hr) hok h hreader').2
  ending hE := hD.ending_step hr hN hS hok h hE
  closing _ _ _ hclosing hc' hcreator' :=
    hD.closing_step hr hN hintact hok hdrains h hclosing hc' hcreator'
  dropped _ _ hc' hcreator' hact' :=
    hD.dropped_step hr hN hintact hok hdrains h hc' hcreator' hact'
  closed _ _ _ hpc' hid' hc' hshut' :=
    hD.closed_step hr hN hintact hok hdrains h hpc' hid' hc' hshut'

end

end Draining

/-! ## Every run -/

/-- The runs in which the target of `c` ends in order and every close of `c` finds the buffer
empty. -/
def DrainedOrderly (c : ConnectionId) (s : RelayState) (e : RelayEvent) : Bool :=
  OrderlyTarget c s e && DrainsFirst c s e

/-- What is known of the stream in every orderly run. -/
theorem draining (h : Reaches (step cfg) (DrainedOrderly c · ·) {} s) : Draining c s := by
  have hparts : ∀ {s e}, DrainedOrderly c s e = true →
      OrderlyTarget c s e = true ∧ DrainsFirst c s e = true := fun hok =>
    Bool.and_eq_true_iff.mp hok
  have hnamed : ∀ s, Reaches (step cfg) (DrainedOrderly c · ·) {} s → Named s := fun s hr =>
    named (hr.mono fun _ _ hok => OrderlyTarget.names (hparts hok).1)
  suffices hboth : Steady s ∧ Draining c s from hboth.2
  refine h.invariant (I := fun s => Steady s ∧ Draining c s) ⟨⟨fun _ => rfl, by simp, by simp⟩,
    .initial c⟩ fun s e s' hr hok hstep ⟨hS, hD⟩ => ?_
  obtain ⟨horderly, hdrains⟩ := hparts hok
  have hrule := step_rule hstep
  have hdie : ∀ W, e ≠ .agentDies W := by
    rintro W rfl
    exact absurd horderly OrderlyTarget.not_dies
  exact ⟨hS.step hrule hdie, hD.preserved hr (hnamed s hr)
    (pipes_intact hnamed hr c) horderly hdrains hrule hS⟩

/-- In every run in which the target of `c` ends in order and every close of `c` that comes to the
access client finds the receive buffer empty, the access client has been sent all of the stream when
its websocket is closed and when the reader has finished. -/
theorem fully_forwarded (h : Reaches (step cfg) (DrainedOrderly c · ·) {} s) :
    FullyForwarded c s := by
  have hD := draining h
  rintro A pc connection hpc hid hc (hshut | ⟨reader, hreader, hpoint⟩)
  · exact (hD.closed A pc connection hpc hid hc hshut).done.delivered
  · obtain ⟨connection₁, hc₁, hcreator, -⟩ := (ownership h).client A pc c hpc hid
    obtain rfl := Option.some.inj (hc.symm.trans hc₁)
    exact (hD.dropped connection A hc hcreator (hD.finished reader hreader hpoint)).done.delivered

/-- The agent sends two bytes and a reset; the reader forwards the bytes before the reset is
received. -/
def drainedSession : RelayState :=
  (runWith (step plainConfig) (DrainedOrderly someConnection · ·) {} (openSession ++
    [.agentSends ⟨0⟩ (.text { known := some (.tcpData someConnection "AQI=") }),
      .agentSends ⟨0⟩ (.text { known := some (.connectionReset "" someConnection) }),
      .run (.msgLoop ⟨0⟩) .next, .run (.reader someConnection) .ok, .run (.msgLoop ⟨0⟩) .next,
      .run (.msgLoop ⟨0⟩) .ok])).get (by decide +kernel)

/-- The websocket is closed after everything has been forwarded. -/
theorem drainedSession_forwarded :
    drainedSession.relay.client_closed ⟨0⟩ = true ∧
      payload (drainedSession.relay.to_client ⟨0⟩) = [1, 2] ∧
      FullyForwarded someConnection drainedSession :=
  ⟨by decide +kernel, by decide +kernel,
    fully_forwarded (Reaches.init.of_runWith (Option.some_get _).symm)⟩

/-- The same frames, with the reset received before the reader has run. -/
def truncatedSession : RelayState :=
  (runWith (step plainConfig) (OrderlyTarget someConnection · ·) {} (openSession ++
    [.agentSends ⟨0⟩ (.text { known := some (.tcpData someConnection "AQI=") }),
      .agentSends ⟨0⟩ (.text { known := some (.connectionReset "" someConnection) }),
      .run (.msgLoop ⟨0⟩) .next, .run (.msgLoop ⟨0⟩) .next, .run (.msgLoop ⟨0⟩) .ok])).get
    (by decide +kernel)

/-- The access client's websocket is closed, and the two bytes are still in the buffer. -/
theorem truncatedSession_not_forwarded :
    ¬ ∀ cfg c s, Reaches (step cfg) (OrderlyTarget c · ·) {} s → FullyForwarded c s := by
  intro h
  have hreach : Reaches (step plainConfig) (OrderlyTarget someConnection · ·) {} truncatedSession :=
    Reaches.init.of_runWith (Option.some_get _).symm
  have hmade : (truncatedSession.relay.connection someConnection).map (·.agent_connection) =
      some ⟨0⟩ := by decide +kernel
  obtain ⟨connection, hc, hagent⟩ := Option.map_eq_some_iff.mp hmade
  have hpayload := h _ _ _ hreach ⟨0⟩ (.receiving someConnection) connection rfl rfl hc
    (.inl (by decide +kernel))
  rw [hagent] at hpayload
  exact absurd hpayload (by decide +kernel)

end HttpNetworkRelay
