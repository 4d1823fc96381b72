import HttpNetworkRelay.Relay.Effects

/-!
# Closes in progress

Where a `close_relayed_connection` that is in progress has come from: `closing_of_rule` says that
the task was in it already, or has just started it for one of the causes that `Started` lists.
-/

namespace HttpNetworkRelay

open Asyncio Python RelayState NetworkRelay

/-- The `edge_agent_connection_close` that a task is in. -/
def RelayState.tearing? (s : RelayState) : Task → Option EdgeAgentConnectionClose
  | .handshake ws =>
    match s.handshake ws with
    | some (.evicting _ _ pc) => some pc
    | _ => none
  | .msgLoop ws =>
    match s.msgLoop ws with
    | some ⟨_, .tearingDown pc⟩ => some pc
    | _ => none
  | _ => none

/-- Whether the first `try` of `close_relayed_connection` goes on after its send. -/
def Outcome.passes : Outcome → Bool
  | .ok => true
  | .raised e => e.isGone
  | _ => false

/-- Whether `close_relayed_connection` goes on after its close of the access client's websocket. -/
def Outcome.closes : Outcome → Bool
  | .ok => true
  | .raised e => e.isClosed
  | _ => false

/-- A send that completes or finds the peer gone lets the close go on. -/
theorem passes_of {o : Outcome} (ho : o = .ok ∨ ∃ e, o = .raised e ∧ e.isGone = true) :
    o.passes = true := by
  rcases ho with rfl | ⟨e, rfl, he⟩
  · rfl
  · exact he

/-- A close of the websocket that completes or finds it closed lets the close go on. -/
theorem closes_of {o : Outcome} (ho : o = .ok ∨ ∃ e, o = .raised e ∧ e.isClosed = true) :
    o.closes = true := by
  rcases ho with rfl | ⟨e, rfl, he⟩
  · rfl
  · exact he

/-- Why a task calls `close_relayed_connection` for a connection. -/
inductive Started (s : RelayState) (c : ConnectionId) : Task → Outcome → Prop
  /-- The agent has reset it. -/
  | reset {W n frame rest} (hpc : s.msgLoop W = some ⟨n, .receiving⟩)
      (hin : s.relay.inbox W = frame :: rest) (hreset : frame.reset? = some c)
      (hact : c ∈ s.relay.active_relayed_connections) : Started s c (.msgLoop W) .next
  /-- The agent is disconnected. -/
  | teardown {W n o ws} (hpc : s.msgLoop W = some ⟨n, .receiving⟩)
      (ho : o = .disconnect ∨ o = .raised .webSocketDisconnect)
      (hreg : s.relay.registered_agent_connections n = some ws)
      (hact : c ∈ s.relay.active_relayed_connections) (hws : s.relay.belongsTo ws c = true) :
      Started s c (.msgLoop W) o
  /-- The agent is being replaced. -/
  | eviction {W m n ws} (hpc : s.handshake W = some (.checking m))
      (hreg : s.relay.registered_agent_connections n = some ws)
      (hdead : s.relay.agent_dead ws = true)
      (hact : c ∈ s.relay.active_relayed_connections) (hws : s.relay.belongsTo ws c = true) :
      Started s c (.handshake W) (.permit (some n))
  /-- It is the next one of a teardown. -/
  | next {t o pc rest} (hpc : s.tearing? t = some pc) (hrest : pc.rest = c :: rest) :
      Started s c t o
  /-- Its session has left its loop. -/
  | left {A o pc} (hpc : s.client A = some pc) (hcon : pc.connected? = some c) :
      Started s c (.client A) o
  /-- A user closes it, or the agent has reset it. -/
  | scheduled {k ws} (hpc : s.closer k = some ⟨c, ws, .scheduled⟩) : Started s c (.closer k) .ok

section

variable {r r' : NetworkRelay}

/-- The first connection of a teardown is active and of the agent that is torn down. -/
theorem TeardownStart.first {n : AgentId} {pc : EdgeAgentConnectionClose}
    (h : TeardownStart r n r' (.parked pc)) :
    r.registered_agent_connections n = some pc.agent_connection ∧
      pc.current ∈ r.active_relayed_connections ∧
      r.belongsTo pc.agent_connection pc.current = true ∧ ∃ send, pc.pc = .informing send := by
  cases h with
  | @starts ws c rest _ send hreg hsnap =>
    -- The snapshot holds the active connections of the agent, and begins with this one.
    have hmem : c ∈ r.active_relayed_connections.filter (r.belongsTo ws) := by
      rw [hsnap]
      exact List.mem_cons_self
    obtain ⟨hact, hws⟩ := List.mem_filter.mp hmem
    exact ⟨hreg, hact, hws, send, rfl⟩

/-- A teardown that goes on is in the same close or in the next one. -/
theorem TeardownStep.parked {pc pc' : EdgeAgentConnectionClose} {o : Outcome}
    (h : TeardownStep r pc o r' (.parked pc')) :
    pc'.agent_connection = pc.agent_connection ∧
      ((pc'.current = pc.current ∧ pc'.rest = pc.rest ∧
          CloseStep r pc.current pc.agent_connection pc.pc o r' (.parked pc'.pc)) ∨
        (pc.rest = pc'.current :: pc'.rest ∧ ∃ send, pc'.pc = .informing send)) := by
  cases h with
  | inside h => exact ⟨rfl, .inl ⟨rfl, rfl, h⟩⟩
  | next _ hrest => exact ⟨rfl, .inr ⟨hrest, _, rfl⟩⟩

end

variable {cfg : RelayConfig} {s s' : RelayState} {e : RelayEvent} {c : ConnectionId}

/-- What is known of a task that is in a close after a step. -/
inductive ClosingBefore (s : RelayState) (e : RelayEvent) (s' : RelayState) (t : Task)
    (c : ConnectionId) (pc' : CloseRelayedConnection) : Prop
  /-- It was there before. -/
  | same (hpc : s.closing? t = some (c, pc'))
  /-- It has come there in the same close. -/
  | moved {o pc ws r'} (he : e = .run t o) (hpc : s.closing? t = some (c, pc))
      (h : CloseStep s.relay c ws pc o r' (.parked pc'))
      (hclosed : s'.relay.client_closed = r'.client_closed)
  /-- It has just called it. -/
  | started {o send} (he : e = .run t o) (hpc' : pc' = .informing send) (h : Started s c t o)

/-- What is known of a handshake that is in a close after its step. -/
theorem closing_of_handshake {W : AgentSocket} {pc : Handshake} {o : Outcome}
    {pc' : CloseRelayedConnection} (hpc : s.handshake W = some pc)
    (h : HandshakeRule cfg s W pc o s') (hclosing : s'.closing? (.handshake W) = some (c, pc')) :
    ClosingBefore s (.run (.handshake W) o) s' (.handshake W) c pc' := by
  cases h with
  -- The dead agent is replaced: its teardown begins, or is over at once and the new one is open.
  | @evicts m n other r' res hn hreg hattr hdead h =>
    cases res with
    | parked t =>
      obtain ⟨hreg', hact, hws, send, hsend⟩ := h.first
      simp only [closing?, evicted, setHandshake, withRelay, Function.update_self,
        Option.some.injEq, Prod.mk.injEq] at hclosing
      obtain ⟨rfl, rfl⟩ := hclosing
      have hother : other = t.agent_connection := Option.some.inj (hreg.symm.trans hreg')
      rw [hother] at hdead
      exact .started rfl hsend (.eviction hpc hreg' hdead hact hws)
    | returned a => simp [closing?, evicted, openAgent] at hclosing
    | raised e => simp [closing?, evicted] at hclosing
  | @evicting m n t _ r' res h =>
    cases res with
    | parked t' =>
      simp only [closing?, evicted, setHandshake, withRelay, Function.update_self,
        Option.some.injEq, Prod.mk.injEq] at hclosing
      obtain ⟨rfl, rfl⟩ := hclosing
      -- The teardown goes on in the same close or begins the next one.
      obtain ⟨-, ⟨hcurrent, -, hclose⟩ | ⟨hrest, send, hsend⟩⟩ := h.parked
      · rw [hcurrent]
        exact .moved rfl (by simp [closing?, hpc]) hclose rfl
      · exact .started rfl hsend (.next (by simp [tearing?, hpc]) hrest)
    | returned a => simp [closing?, evicted, openAgent] at hclosing
    | raised e => simp [closing?, evicted] at hclosing
  | @receives frame =>
    simp only [closing?, setHandshake, withRelay, Function.update_self] at hclosing
    unfold startReceived at hclosing
    split at hclosing
    · rename_i h
      split at h <;> try cases h
      split at h <;> try cases h
      split at h <;> cases h
    · cases hclosing
  | ends hne =>
    simp only [closing?, setHandshake, Function.update_self] at hclosing
    cases hclosing
  | accepts | refuses | opens | duplicate | noAttribute =>
    simp [closing?, openAgent] at hclosing

/-- The message loop of `W` in a state that it is set to. -/
theorem closing_setMsgLoop (s : RelayState) (W : AgentSocket) (n : AgentId) (pc : MsgLoop) :
    (s.setMsgLoop W ⟨n, pc⟩).closing? (.msgLoop W) =
      match pc with
      | .resetting c pc => some (c, pc)
      | .tearingDown pc => some (pc.current, pc.pc)
      | _ => none := by
  cases pc <;> simp [closing?]

/-- What is known of a message loop that is in a close after its step. -/
theorem closing_of_msgLoop {W : AgentSocket} {n : AgentId} {pc : MsgLoop} {o : Outcome}
    {pc' : CloseRelayedConnection} (hpc : s.msgLoop W = some ⟨n, pc⟩)
    (h : MsgLoopRule cfg s W n pc o s') (hclosing : s'.closing? (.msgLoop W) = some (c, pc')) :
    ClosingBefore s (.run (.msgLoop W) o) s' (.msgLoop W) c pc' := by
  cases h with
  -- The agent has gone, and its teardown closes the first connection.
  | @disconnects _ r' res ho h =>
    rw [tornDown, closing_setMsgLoop] at hclosing
    cases res with
    | parked t =>
      obtain ⟨hreg, hact, hws, send, hsend⟩ := h.first
      simp only [Option.some.injEq, Prod.mk.injEq] at hclosing
      obtain ⟨rfl, rfl⟩ := hclosing
      exact .started rfl hsend (.teardown hpc ho hreg hact hws)
    | returned _ | raised _ => cases hclosing
  | receives hin h =>
    cases h with
    -- The close of the reset begins with the notification of the agent.
    | resets hreset hact =>
      rw [closing_setMsgLoop] at hclosing
      simp only [Option.some.injEq, Prod.mk.injEq] at hclosing
      obtain ⟨rfl, rfl⟩ := hclosing
      exact .started rfl rfl (.reset hpc hin hreset hact)
    | stops | ignores | fills | schedules | answers | blocks | custom =>
      rw [closing_setMsgLoop] at hclosing
      cases hclosing
  | @resetting c₁ _ connection _ r' res hc h =>
    rw [resetHandled, closing_setMsgLoop] at hclosing
    cases res with
    | parked pc₁ =>
      simp only [Option.some.injEq, Prod.mk.injEq] at hclosing
      obtain ⟨rfl, rfl⟩ := hclosing
      exact .moved rfl (by simp [closing?, hpc]) h rfl
    | returned _ | raised _ => cases hclosing
  | @tearingDown t _ r' res h =>
    rw [tornDown, closing_setMsgLoop] at hclosing
    cases res with
    | parked t' =>
      simp only [Option.some.injEq, Prod.mk.injEq] at hclosing
      obtain ⟨rfl, rfl⟩ := hclosing
      -- The same two ways as in a handshake.
      obtain ⟨-, ⟨hcurrent, -, hclose⟩ | ⟨hrest, send, hsend⟩⟩ := h.parked
      · rw [hcurrent]
        exact .moved rfl (by simp [closing?, hpc]) hclose rfl
      · exact .started rfl hsend (.next (by simp [tearing?, hpc]) hrest)
    | returned _ | raised _ => cases hclosing
  | receiveFails | puts | customHandled =>
    rw [closing_setMsgLoop] at hclosing
    cases hclosing

/-- The session of `A` in a state that it is set to. -/
theorem closing_setClient (s : RelayState) (A : ClientSocket) (pc : Client) :
    (s.setClient A pc).closing? (.client A) =
      match pc with
      | .closing c pc => some (c, pc)
      | _ => none := by
  cases pc <;> simp [closing?]

/-- What is known of a session that is in a close after its step. -/
theorem closing_of_client {A : ClientSocket} {pc : Client} {o : Outcome}
    {pc' : CloseRelayedConnection} (hpc : s.client A = some pc) (h : ClientRule cfg s A pc o s')
    (hclosing : s'.closing? (.client A) = some (c, pc')) :
    ClosingBefore s (.run (.client A) o) s' (.client A) c pc' := by
  -- A session that leaves its loop calls the close.
  have hloop : ∀ {c₁ agent}, pc.connected? = some c₁ → ∀ s₁ : RelayState,
      s' = s₁.continueLoop A c₁ agent →
      ClosingBefore s (.run (.client A) o) s' (.client A) c pc' := by
    intro c₁ agent hcon s₁ heq
    rcases continueLoop_cases s₁ A c₁ agent with ⟨B, -, hloop⟩ | ⟨-, r', send, hloop, -⟩
    · rw [heq, hloop, closing_setClient] at hclosing
      cases hclosing
    · rw [heq, hloop, closing_setClient] at hclosing
      simp only [Option.some.injEq, Prod.mk.injEq] at hclosing
      obtain ⟨rfl, rfl⟩ := hclosing
      exact .started rfl rfl (.left hpc hcon)
  -- After a message it does so too, where the send did not suspend or raise.
  have hforwarded : ∀ {c₁ agent message r' res}, pc.connected? = some c₁ →
      s' = s.forwarded A c₁ agent message (r', res) →
      ClosingBefore s (.run (.client A) o) s' (.client A) c pc' := by
    intro c₁ agent message r' res hcon heq
    cases res with
    | returned a => exact hloop hcon (s.withRelay r') heq
    | parked send =>
      rw [heq, forwarded, closing_setClient] at hclosing
      cases hclosing
    | raised e =>
      rw [heq, forwarded, closing_setClient] at hclosing
      cases hclosing
  cases h with
  | @creating _ _ _ r' res =>
    cases res with
    | parked _ | returned _ =>
      rw [created, closing_setClient] at hclosing
      cases hclosing
    | raised e => cases e <;> simp [closing?, created] at hclosing
  | @advances _ _ pc₁ _ hun =>
    rw [closing_setClient] at hclosing
    cases pc₁ <;> first | cases hclosing; done | cases hun
  | disconnects =>
    rw [closing_setClient] at hclosing
    simp only [Option.some.injEq, Prod.mk.injEq] at hclosing
    obtain ⟨rfl, rfl⟩ := hclosing
    exact .started rfl rfl (.left hpc rfl)
  | ignores => exact hloop rfl s rfl
  | forwards => exact hforwarded rfl rfl
  | forwarding => exact hforwarded rfl rfl
  | @closing c₁ _ _ connection r' res hc h =>
    cases res with
    | parked pc₁ =>
      rw [connectionClosed, closing_setClient] at hclosing
      simp only [Option.some.injEq, Prod.mk.injEq] at hclosing
      obtain ⟨rfl, rfl⟩ := hclosing
      exact .moved rfl (by simp [closing?, hpc]) h rfl
    | returned _ | raised _ =>
      rw [connectionClosed, closing_setClient] at hclosing
      cases hclosing
  | refuses | unregistered | opens | starts | startFails | receiveFails | malformed
  | clientClosed | closeFails | joined | cancels =>
    rw [closing_setClient] at hclosing
    cases hclosing

/-- A `close` task is created scheduled, and moved by its own steps only. -/
theorem closer_frame (h : RelayRule cfg s e s') {k : ℕ} (hrun : ∀ o, e ≠ .run (.closer k) o) :
    s'.closer k = s.closer k ∨
      k = s.closers_created ∧ ∃ c ws, s'.closer k = some ⟨c, ws, .scheduled⟩ := by
  -- A new task has the next free number.
  have hschedule : ∀ c₁ ws₁, (s.scheduleClose c₁ ws₁).closer k = s.closer k ∨
      k = s.closers_created ∧
        ∃ c ws, (s.scheduleClose c₁ ws₁).closer k = some ⟨c, ws, .scheduled⟩ := by
    intro c₁ ws₁
    by_cases hk : k = s.closers_created
    · exact .inr ⟨hk, c₁, ws₁, by simp [hk]⟩
    · exact .inl (by simp [hk])
  cases h with
  | close => exact hschedule _ _
  | handshake _ h => exact .inl (congrFun h.frame.2.1.closer k)
  | keepAlive _ h => exact .inl (congrFun h.frame.2.1.closer k)
  | msgLoop _ h =>
    cases h with
    | receives _ h =>
      cases h with
      | schedules => exact hschedule _ _
      | _ => exact .inl rfl
    | _ => exact .inl rfl
  | client _ h => exact .inl (congrFun h.frame.2.1.closer k)
  | reader _ _ h => exact .inl (congrFun h.frame.2.1.closer k)
  | @closes k' =>
    have hne : k ≠ k' := by
      rintro rfl
      exact hrun _ rfl
    exact .inl (by simp [hne])
  | @closing k' _ _ _ o =>
    have hne : k ≠ k' := by
      rintro rfl
      exact hrun o rfl
    exact .inl (by simp [closerReturned, hne])
  | _ => exact .inl rfl

/-- Where a close in progress has come from. -/
theorem closing_of_rule (h : RelayRule cfg s e s') {t : Task} {pc' : CloseRelayedConnection}
    (hclosing : s'.closing? t = some (c, pc')) : ClosingBefore s e s' t c pc' := by
  cases t with
  | handshake W =>
    by_cases hrun : ∃ o, e = .run (.handshake W) o
    · obtain ⟨o, rfl⟩ := hrun
      cases h with
      | handshake hpc h => exact closing_of_handshake hpc h hclosing
    · by_cases hconn : e = .agentConnects W
      · subst hconn
        cases h with
        | agentConnects => simp [closing?] at hclosing
      · have hframe := handshake_frame h (fun o he => hrun ⟨o, he⟩) hconn
        exact .same (by simpa only [closing?, hframe] using hclosing)
  | msgLoop W =>
    by_cases hrun : ∃ o, e = .run (.msgLoop W) o
    · obtain ⟨o, rfl⟩ := hrun
      cases h with
      | msgLoop hpc h => exact closing_of_msgLoop hpc h hclosing
    · -- Other tasks leave the loop alone, but a handshake may open it, and then it is receiving.
      have hmsgLoop : s'.msgLoop W = s.msgLoop W ∨ ∃ n, s'.msgLoop W = some ⟨n, .receiving⟩ := by
        by_cases hshake : ∃ o, e = .run (.handshake W) o
        · obtain ⟨o, rfl⟩ := hshake
          have hopen : ∀ (s₁ : RelayState) m n, ∃ n', (s₁.openAgent W m n).msgLoop W =
              some ⟨n', .receiving⟩ := fun s₁ m n => ⟨n, by simp [openAgent]⟩
          cases h with
          | handshake _ h =>
            cases h with
            | opens => exact .inr (hopen _ _ _)
            | @evicts _ _ _ r' res =>
              cases res with
              | returned a => exact .inr (hopen _ _ _)
              | parked _ | raised _ => exact .inl rfl
            | @evicting _ _ _ _ r' res =>
              cases res with
              | returned a => exact .inr (hopen _ _ _)
              | parked _ | raised _ => exact .inl rfl
            | _ => exact .inl rfl
        · exact .inl (msgLoop_frame h (fun o he => hshake ⟨o, he⟩) fun o he => hrun ⟨o, he⟩)
      rcases hmsgLoop with hframe | ⟨n, hframe⟩
      · exact .same (by simpa only [closing?, hframe] using hclosing)
      · simp only [closing?, hframe] at hclosing
        cases hclosing
  | client A =>
    by_cases hrun : ∃ o, e = .run (.client A) o
    · obtain ⟨o, rfl⟩ := hrun
      cases h with
      | client hpc h => exact closing_of_client hpc h hclosing
    · by_cases hconn : e = .clientConnects A
      · subst hconn
        cases h with
        | clientConnects => simp [closing?] at hclosing
      · have hframe := client_frame h (fun o he => hrun ⟨o, he⟩) hconn
        exact .same (by simpa only [closing?, hframe] using hclosing)
  -- A `close` task calls the close when it runs first.
  | closer k =>
    by_cases hrun : ∃ o, e = .run (.closer k) o
    · obtain ⟨o, rfl⟩ := hrun
      cases h with
      | closes hpc =>
        simp only [closing?, setCloser, withRelay, Function.update_self, Option.some.injEq,
          Prod.mk.injEq] at hclosing
        obtain ⟨rfl, rfl⟩ := hclosing
        exact .started rfl rfl (.scheduled hpc)
      | @closing _ c₁ ws pc _ r' res hpc h =>
        cases res with
        | parked pc₁ =>
          simp only [closing?, closerReturned, setCloser, withRelay, Function.update_self,
            Option.some.injEq, Prod.mk.injEq] at hclosing
          obtain ⟨rfl, rfl⟩ := hclosing
          exact .moved rfl (by simp [closing?, hpc]) h rfl
        | returned _ | raised _ => simp [closing?, closerReturned] at hclosing
    · rcases closer_frame h fun o he => hrun ⟨o, he⟩ with hframe | ⟨-, c₁, ws, hframe⟩
      · exact .same (by simpa only [closing?, hframe] using hclosing)
      · simp [closing?, hframe] at hclosing
  | keepAlive _ | reader _ | call _ | sender _ => cases hclosing

/-- A close that has reached the close of the access client's websocket has closed it. -/
theorem closingClient_of_rule (h : RelayRule cfg s e s') {t : Task}
    (hclosing : s'.closing? t = some (c, .closingClient)) :
    s.closing? t = some (c, .closingClient) ∨ ∃ A,
      s.relay.active_access_client_connections c = some A ∧ s'.relay.client_closed A = true := by
  cases closing_of_rule h hclosing with
  | same hpc => exact .inl hpc
  | moved _ hpc hstep hclosed =>
    obtain ⟨l, A, -, hA, hshut⟩ := hstep.closingClient
    exact .inr ⟨A, hA, by rw [hclosed]; exact hshut⟩
  | started _ hpc' => cases hpc'

/-! ## The next step of a close -/

/-- What the task that is in a close of `c` does when it is resumed: the close takes its step, and
stays in the task if it parks again. -/
structure CloseRun (s : RelayState) (t : Task) (c : ConnectionId) (pc : CloseRelayedConnection)
    (o : Outcome) (s' : RelayState) (ws : AgentSocket) (r' : NetworkRelay)
    (res : Res CloseRelayedConnection Unit Exc) : Prop where
  step : CloseStep s.relay c ws pc o r' res
  shut : ∀ A, r'.client_closed A = true → s'.relay.client_closed A = true
  parked : ∀ pc', res = .parked pc' → s'.closing? t = some (c, pc')

/-- The close inside a close of a registration. -/
theorem TeardownStep.run {r' : NetworkRelay} {td : EdgeAgentConnectionClose} {o : Outcome}
    {t : Task} {res : Res EdgeAgentConnectionClose Unit Exc}
    (h : TeardownStep s.relay td o r' res)
    (hclients : s'.relay.toClientOutput = r'.toClientOutput)
    (hparked : ∀ td', res = .parked td' → s'.closing? t = some (td'.current, td'.pc)) :
    ∃ ws r₁ res₁, CloseRun s t td.current td.pc o s' ws r₁ res₁ := by
  -- What follows the close in the same step closes no access client's websocket.
  have hshut : ∀ {r₁ : NetworkRelay}, r'.toClientOutput = r₁.toClientOutput →
      ∀ A, r₁.client_closed A = true → s'.relay.client_closed A = true := by
    intro r₁ hsame A hA
    rw [hclients, hsame]
    exact hA
  cases h with
  | inside h =>
    refine ⟨_, _, _, h, hshut rfl, ?_⟩
    rintro pc' ⟨⟩
    exact hparked _ rfl
  | next h _ same => exact ⟨_, _, _, h, hshut same.clients, fun _ hres => by cases hres⟩
  | done h | fails h => exact ⟨_, _, _, h, hshut rfl, fun _ hres => by cases hres⟩

/-- A task that is in a close and is resumed takes the next step of the close. -/
theorem close_of_run {t : Task} {o : Outcome} {pc : CloseRelayedConnection}
    (h : RelayRule cfg s (.run t o) s') (hpc : s.closing? t = some (c, pc)) :
    ∃ ws r' res, CloseRun s t c pc o s' ws r' res := by
  cases h with
  | @handshake W pc₀ _ _ hpc₀ h =>
    cases h with
    | @evicting m n td _ r' res h =>
      simp only [closing?, hpc₀, Option.some.injEq, Prod.mk.injEq] at hpc
      obtain ⟨rfl, rfl⟩ := hpc
      refine h.run (evicted_active _ _ _ _ _).2.1 ?_
      rintro td' rfl
      simp [closing?, evicted]
    | @ends pc₀ _ _ hne =>
      cases pc₀ with
      | evicting m n td => exact absurd rfl (hne m n td)
      | _ => simp [closing?, hpc₀] at hpc
    | _ => simp [closing?, hpc₀] at hpc
  | @msgLoop W n pc₀ _ _ hpc₀ h =>
    cases h with
    | @resetting c₁ _ connection _ r' res _ h =>
      simp only [closing?, hpc₀, Option.some.injEq, Prod.mk.injEq] at hpc
      obtain ⟨rfl, rfl⟩ := hpc
      refine ⟨_, r', res, h, fun _ hA => hA, ?_⟩
      rintro pc' rfl
      rw [resetHandled, closing_setMsgLoop]
    | @tearingDown td _ r' res h =>
      simp only [closing?, hpc₀, Option.some.injEq, Prod.mk.injEq] at hpc
      obtain ⟨rfl, rfl⟩ := hpc
      refine h.run rfl ?_
      rintro td' rfl
      rw [tornDown, closing_setMsgLoop]
    | _ => simp [closing?, hpc₀] at hpc
  | @client A pc₀ _ _ hpc₀ h =>
    -- Of the stages of a session, only one is in a close.
    have hclient : pc₀ = .closing c pc := by
      cases pc₀ <;> simp_all [closing?]
    subst hclient
    cases h with
    | @closing _ _ _ connection r' res _ h =>
      refine ⟨_, r', res, h, fun B hB => ?_, ?_⟩
      · cases res with
        | returned _ =>
          by_cases hAB : B = A
          · simp [connectionClosed, closeClient, hAB]
          · simpa [connectionClosed, closeClient, hAB] using hB
        | parked _ | raised _ => exact hB
      · rintro pc' rfl
        rw [connectionClosed, closing_setClient]
    | advances hun => cases hun
    | refuses hrefuse => simp at hrefuse
    | joined hjoin => simp at hjoin
  | @closing k c₁ ws pc₁ _ r' res hpc₀ h =>
    simp only [closing?, hpc₀, Option.some.injEq, Prod.mk.injEq] at hpc
    obtain ⟨rfl, rfl⟩ := hpc
    refine ⟨ws, r', res, h, fun _ hA => hA, ?_⟩
    rintro pc' rfl
    simp [closing?, closerReturned]
  | closes hpc₀ => simp [closing?, hpc₀] at hpc
  | keepAlive | reader | call | sends | sending => cases hpc

/-! ## Tasks that were never created -/

/-- The websocket of an agent that never connects has no tasks. -/
theorem agent_never_connected {W : AgentSocket}
    (h : Reaches (step cfg) (fun _ e => e ≠ .agentConnects W) {} s) :
    s.handshake W = none ∧ s.msgLoop W = none := by
  refine h.invariant (I := fun s => s.handshake W = none ∧ s.msgLoop W = none) ⟨rfl, rfl⟩
    fun s e s' _ hconn hstep ⟨hshake, hloop⟩ => ?_
  have hrule := step_rule hstep
  -- A task that does not exist takes no step.
  have hrun : ∀ o, e ≠ .run (.handshake W) o := by
    rintro o rfl
    cases hrule with
    | handshake hpc =>
      rw [hshake] at hpc
      cases hpc
  have hrun' : ∀ o, e ≠ .run (.msgLoop W) o := by
    rintro o rfl
    cases hrule with
    | msgLoop hpc =>
      rw [hloop] at hpc
      cases hpc
  exact ⟨(handshake_frame hrule hrun hconn).trans hshake,
    (msgLoop_frame hrule hrun hrun').trans hloop⟩

/-- An access client that never connects has no session. -/
theorem client_never_connected {A : ClientSocket}
    (h : Reaches (step cfg) (fun _ e => e ≠ .clientConnects A) {} s) : s.client A = none := by
  refine h.invariant (I := fun s => s.client A = none) rfl fun s e s' _ hconn hstep hnone => ?_
  have hrule := step_rule hstep
  have hrun : ∀ o, e ≠ .run (.client A) o := by
    rintro o rfl
    cases hrule with
    | client hpc =>
      rw [hnone] at hpc
      cases hpc
  exact (client_frame hrule hrun hconn).trans hnone

/-- The `close` tasks that have not been created yet. -/
theorem closer_never_created {ok : RelayState → RelayEvent → Prop}
    (h : Reaches (step cfg) ok {} s) : ∀ k, s.closers_created ≤ k → s.closer k = none := by
  refine h.invariant (I := fun s => ∀ k, s.closers_created ≤ k → s.closer k = none)
    (fun _ _ => rfl) fun s e s' _ _ hstep hnone k hk => ?_
  -- Scheduling takes the next free number, so the later ones stay free.
  have hschedule : ∀ c ws, (s.scheduleClose c ws).closers_created ≤ k →
      (s.scheduleClose c ws).closer k = none := by
    intro c ws hk
    have hlt : s.closers_created + 1 ≤ k := hk
    have hne : k ≠ s.closers_created := by omega
    simp [hne, hnone k (by omega)]
  have hsame : SameClosers s s' → s'.closer k = none := by
    intro hsame
    rw [hsame.closer]
    exact hnone k (by rw [← hsame.closers_created]; exact hk)
  cases step_rule hstep with
  | close => exact hschedule _ _ hk
  | handshake _ h => exact hsame h.frame.2.1
  | keepAlive _ h => exact hsame h.frame.2.1
  | msgLoop _ h =>
    cases h with
    | receives _ h =>
      cases h with
      | schedules => exact hschedule _ _ hk
      | _ => exact hsame ⟨rfl, rfl⟩
    | _ => exact hsame ⟨rfl, rfl⟩
  | client _ h => exact hsame h.frame.2.1
  | reader _ _ h => exact hsame h.frame.2.1
  | @closes k' _ _ _ _ hpc =>
    have hne : k ≠ k' := by
      rintro rfl
      rw [hnone k hk] at hpc
      cases hpc
    simpa [hne] using hnone k hk
  | @closing k' _ _ _ _ _ _ hpc =>
    have hne : k ≠ k' := by
      rintro rfl
      rw [hnone k hk] at hpc
      cases hpc
    simpa [closerReturned, hne] using hnone k hk
  | _ => exact hsame ⟨rfl, rfl⟩

end HttpNetworkRelay
