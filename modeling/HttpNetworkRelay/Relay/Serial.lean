import HttpNetworkRelay.Relay.Locks
import HttpNetworkRelay.Relay.Sends

/-!
# Sends on an agent's websocket take turns

`agent_sends_serialized`: as long as a websocket is registered, the tasks that send on it use one
lock object, at most one of them is in its send, and a send that raises passes the lock on. Over the
operations of `Locks.lean` it remains to see that a step changes the use of no other task, and that
an entry of the table is removed only when its websocket is not registered any more.
-/

namespace HttpNetworkRelay

open Asyncio Python RelayState NetworkRelay

variable {cfg : RelayConfig} {s s' : RelayState} {e : RelayEvent}

/-! ## Whose lock a task uses -/

/-- A websocket whose handshake has registered it. -/
def Opened (s : RelayState) (W : AgentSocket) : Prop :=
  ∃ n, s.handshake W = some (.finished (.ok (some n)))

/-- A websocket that has been registered stays so. -/
theorem Opened.step (h : RelayRule cfg s e s') {W : AgentSocket} (hW : Opened s W) :
    Opened s' W := by
  obtain ⟨n, hn⟩ := hW
  exact ⟨n, handshake_finished h hn⟩

/-- A handshake that takes a step has not registered its websocket yet. -/
theorem not_opened_of_run {W : AgentSocket} {o : Outcome}
    (h : RelayRule cfg s (.run (.handshake W) o) s') : ¬ Opened s W := by
  rintro ⟨n, hn⟩
  exact not_finished_of_run h _ hn

/-- The slots from which a task takes the websocket that it sends on. -/
structure SendTargets (s : RelayState) : Prop where
  keepAlive : ∀ W pc, s.keepAlive W = some pc → Opened s W
  resetting : ∀ W n c pc, s.msgLoop W = some ⟨n, .resetting c pc⟩ →
    (s.relay.connection c).isSome = true
  closer : ∀ k closer, s.closer k = some closer → Opened s closer.agent_connection

/-- A `keep_alive` task is created, asleep, by the handshake that registers its websocket. -/
theorem keepAlive_created (h : RelayRule cfg s e s') {W : AgentSocket} {pc : KeepAlive}
    (hpc : s'.keepAlive W = some pc) :
    (∃ pc, s.keepAlive W = some pc) ∨ pc = .sleeping ∧ Opened s' W := by
  by_cases hshake : ∃ o, e = .run (.handshake W) o
  · obtain ⟨o, rfl⟩ := hshake
    have hopen : ∀ (s₁ : RelayState) m n, s₁.keepAlive = s.keepAlive →
        (s₁.openAgent W m n).keepAlive W = some pc →
        (∃ pc, s.keepAlive W = some pc) ∨ pc = .sleeping ∧ Opened (s₁.openAgent W m n) W := by
      intro s₁ m n hsame hpc
      by_cases hstarts : startsKeepAlive m.last_error
      · have hpc : some KeepAlive.sleeping = some pc := by simpa [openAgent, hstarts] using hpc
        exact .inr ⟨(Option.some.inj hpc).symm, n, by simp [openAgent]⟩
      · exact .inl ⟨pc, by simpa [openAgent, hstarts, hsame] using hpc⟩
    have hevicted : ∀ m n r' res, (s.evicted W m n (r', res)).keepAlive W = some pc →
        (∃ pc, s.keepAlive W = some pc) ∨
          pc = .sleeping ∧ Opened (s.evicted W m n (r', res)) W := by
      intro m n r' res hpc
      cases res with
      | parked pc' => exact .inl ⟨pc, hpc⟩
      | returned a => exact hopen (s.withRelay r') m n rfl hpc
      | raised e => exact .inl ⟨pc, hpc⟩
    cases h with
    | handshake _ hrule =>
      cases hrule with
      | opens => exact hopen (s.withRelay _) _ _ rfl hpc
      | evicts | evicting => exact hevicted _ _ _ _ hpc
      | accepts | receives | refuses | duplicate | noAttribute | ends => exact .inl ⟨pc, hpc⟩
  · by_cases halive : ∃ o, e = .run (.keepAlive W) o
    · obtain ⟨o, rfl⟩ := halive
      cases h with
      | @keepAlive _ pc₀ _ _ hpc₀ => exact .inl ⟨pc₀, hpc₀⟩
    · have hframe := keepAlive_frame h (fun o he => hshake ⟨o, he⟩) fun o he => halive ⟨o, he⟩
      exact .inl ⟨pc, hframe.symm.trans hpc⟩

/-- A message loop takes up a reset of an object that there is. -/
theorem resetting_connection (h : RelayRule cfg s e s') {W : AgentSocket} {n : AgentId}
    {c : ConnectionId} {pc : CloseRelayedConnection}
    (hpc : s'.msgLoop W = some ⟨n, .resetting c pc⟩) :
    (∃ pc, s.msgLoop W = some ⟨n, .resetting c pc⟩) ∨ (s.relay.connection c).isSome = true := by
  by_cases hrun : ∃ o, e = .run (.msgLoop W) o
  · obtain ⟨o, rfl⟩ := hrun
    cases h with
    | @msgLoop _ n₀ _ _ _ _ hrule =>
      have hself : ∀ (s₁ : RelayState) pc₁, (∀ t, pc₁ ≠ .resetting c t) →
          (s₁.setMsgLoop W ⟨n₀, pc₁⟩).msgLoop W ≠ some ⟨n, .resetting c pc⟩ := by
        intro s₁ pc₁ hne heq
        simp only [setMsgLoop, Function.update_self, Option.some.injEq, MsgLoopTask.mk.injEq] at heq
        exact hne pc heq.2
      cases hrule with
      | receives _ hframe =>
        cases hframe with
        | @resets c₀ connection r' send _ _ hc =>
          simp only [setMsgLoop, Function.update_self, Option.some.injEq, MsgLoopTask.mk.injEq,
            MsgLoop.resetting.injEq] at hpc
          obtain ⟨-, rfl, -⟩ := hpc
          have hc : s.relay.connection c₀ = some connection := hc
          exact .inr (by rw [hc]; rfl)
        | stops | ignores | fills | schedules | answers | blocks | custom =>
          exact absurd hpc (hself _ _ (by simp))
      | @resetting c₀ _ connection _ r' res hc =>
        cases res with
        | parked pc₁ =>
          simp only [resetHandled, setMsgLoop, Function.update_self, Option.some.injEq,
            MsgLoopTask.mk.injEq, MsgLoop.resetting.injEq] at hpc
          obtain ⟨-, rfl, -⟩ := hpc
          exact .inr (by rw [hc]; rfl)
        | returned _ | raised _ => exact absurd hpc (hself _ _ (by simp))
      | @disconnects _ r' res | @tearingDown _ _ r' res =>
        cases res <;> exact absurd hpc (hself _ _ (by simp))
      | receiveFails | puts | customHandled => exact absurd hpc (hself _ _ (by simp))
  · rcases msgLoop_created h (fun o he => hrun ⟨o, he⟩) hpc with hold | hnew
    · exact .inl ⟨pc, hold⟩
    · cases hnew

/-- A `close` task is made for the agent of a connection object. -/
theorem closer_agent (h : RelayRule cfg s e s') {k : ℕ} {closer : Closer}
    (hpc : s'.closer k = some closer) :
    (∃ closer₀, s.closer k = some closer₀ ∧
        closer₀.agent_connection = closer.agent_connection) ∨
      ∃ c connection, s.relay.connection c = some connection ∧
        connection.agent_connection = closer.agent_connection := by
  have hsame : s'.closer k = s.closer k → (∃ closer₀, s.closer k = some closer₀ ∧
      closer₀.agent_connection = closer.agent_connection) := fun heq =>
    ⟨closer, heq.symm.trans hpc, rfl⟩
  have hschedule : ∀ {s₁ : RelayState} {c connection}, s₁.closer = s.closer →
      s.relay.connection c = some connection →
      (s₁.scheduleClose c connection.agent_connection).closer k = some closer →
      (∃ closer₀, s.closer k = some closer₀ ∧
        closer₀.agent_connection = closer.agent_connection) ∨
      ∃ c connection, s.relay.connection c = some connection ∧
        connection.agent_connection = closer.agent_connection := by
    intro s₁ c connection heq hc hpc
    by_cases hk : k = s₁.closers_created
    · obtain rfl : ⟨c, connection.agent_connection, .scheduled⟩ = closer := by simpa [hk] using hpc
      exact .inr ⟨c, connection, hc, rfl⟩
    · exact .inl ⟨closer, by rw [← heq]; simpa [hk] using hpc, rfl⟩
  cases h with
  | close _ hc => exact hschedule rfl hc hpc
  | handshake _ h => exact .inl (hsame (congrFun h.frame.2.1.closer k))
  | keepAlive _ h => exact .inl (hsame (congrFun h.frame.2.1.closer k))
  | msgLoop _ h =>
    cases h with
    | receives _ h =>
      cases h with
      | @schedules c connection _ _ hc =>
        have hc : s.relay.connection c = some connection := hc
        exact @hschedule (s.withRelay _) _ _ rfl hc hpc
      | _ => exact .inl (hsame rfl)
    | _ => exact .inl (hsame rfl)
  | client _ h => exact .inl (hsame (congrFun h.frame.2.1.closer k))
  | reader _ _ h => exact .inl (hsame (congrFun h.frame.2.1.closer k))
  | @closes k' c ws r' send hk' =>
    by_cases hk : k = k'
    · obtain rfl : ⟨c, ws, .closing (.informing send)⟩ = closer := by simpa [hk] using hpc
      rw [hk]
      exact .inl ⟨_, hk', rfl⟩
    · exact .inl (hsame (by simp [hk]))
  | @closing k' c ws pc o r' res hk' =>
    by_cases hk : k = k'
    · have hagent : closer.agent_connection = ws := by
        rw [hk] at hpc
        simp only [closerReturned, setCloser, withRelay, Function.update_self,
          Option.some.injEq] at hpc
        rw [← hpc]
      rw [hk]
      exact .inl ⟨_, hk', hagent.symm⟩
    · exact .inl (hsame (by simp [closerReturned, hk]))
  | _ => exact .inl (hsame rfl)

/-- A step keeps the websockets that tasks send on. -/
theorem SendTargets.preserved (hI : RegistryInv s) (hT : SendTargets s)
    (h : RelayRule cfg s e s') : SendTargets s' where
  keepAlive W pc hpc := by
    rcases keepAlive_created h hpc with ⟨pc₀, hpc₀⟩ | ⟨-, hopen⟩
    · exact (hT.keepAlive W pc₀ hpc₀).step h
    · exact hopen
  resetting W n c pc hpc := by
    apply h.evolves.connection_isSome
    rcases resetting_connection h hpc with ⟨pc₀, hpc₀⟩ | hc
    · exact hT.resetting W n c pc₀ hpc₀
    · exact hc
  closer k closer hpc := by
    rcases closer_agent h hpc with ⟨closer₀, hpc₀, hagent⟩ | ⟨c, connection, hc, hagent⟩
    · rw [← hagent]
      exact (hT.closer k closer₀ hpc₀).step h
    · rw [← hagent]
      exact Opened.step h (hI.connection c connection hc)

/-- The websockets that tasks send on, in every run. -/
theorem sendTargets {ok : RelayState → RelayEvent → Prop} (h : Reaches (step cfg) ok {} s) :
    SendTargets s :=
  h.invariant ⟨by simp, by simp, by simp⟩ fun _ _ _ hr _ hstep hT =>
    hT.preserved (registryInv hr) (step_rule hstep)


/-! ## Uses -/

/-- A locked send uses the lock of its websocket. -/
@[simp] theorem LockedSend.use_key (W : AgentSocket) (send : LockedSend) :
    (send.use W).key = W := by
  cases send <;> rfl

/-- A close uses the lock of its agent's websocket. -/
theorem CloseRelayedConnection.use_key {W : AgentSocket} {pc : CloseRelayedConnection}
    {u : LockUse AgentSocket} (h : pc.use? W = some u) : u.key = W := by
  cases pc with
  | informing send =>
    obtain rfl := Option.some.inj h
    exact send.use_key W
  | closingClient => cases h

/-- A create call uses the lock of its agent's websocket. -/
theorem CreateConnection.use_key {pc : CreateConnection} {u : LockUse AgentSocket}
    (h : pc.use? = some u) : u.key = pc.agent_connection := by
  unfold CreateConnection.use? at h
  split at h
  · obtain rfl := Option.some.inj h
    exact LockedSend.use_key _ _
  · cases h

/-- The agent's websocket of a connection has been registered. -/
theorem opened_of_agentOf (hI : RegistryInv s) {c : ConnectionId} {W : AgentSocket}
    (hc : s.relay.agentOf c = some W) : Opened s W := by
  obtain ⟨connection, hconn, rfl⟩ := Option.map_eq_some_iff.mp hc
  exact hI.connection c connection hconn

/-- A task sends only on a websocket whose handshake has registered it. -/
theorem use_opened (hI : RegistryInv s) (hC : ∀ t pc, s.tearing? t = some pc → Closing s pc)
    (hS : Outgoing s) (hT : SendTargets s) {t : Task} {u : LockUse AgentSocket}
    (hu : s.use? t = some u) : Opened s u.key := by
  have hcreating : ∀ {pc}, s.pending? t = some pc → pc.use? = some u → Opened s u.key := by
    intro pc hpc hu
    obtain ⟨connection, hc, hagent, -⟩ := hS.pending t pc hpc
    rw [CreateConnection.use_key hu, ← hagent]
    exact hI.connection _ connection hc
  have htearing : ∀ {pc}, s.tearing? t = some pc → pc.use? = some u → Opened s u.key := by
    intro pc hpc hu
    rw [CloseRelayedConnection.use_key hu]
    exact (hC t pc hpc).done
  have hclosing : ∀ {c} {pc : CloseRelayedConnection},
      (s.relay.agentOf c).bind pc.use? = some u → Opened s u.key := by
    intro c pc hu
    obtain ⟨W, hW, hu⟩ := Option.bind_eq_some_iff.mp hu
    rw [CloseRelayedConnection.use_key hu]
    exact opened_of_agentOf hI hW
  have hsending : ∀ {c} {send : LockedSend},
      (s.relay.agentOf c).map send.use = some u → Opened s u.key := by
    intro c send hu
    obtain ⟨W, hW, rfl⟩ := Option.map_eq_some_iff.mp hu
    rw [LockedSend.use_key]
    exact opened_of_agentOf hI hW
  cases t with
  | handshake W =>
    simp only [use?] at hu
    split at hu
    case h_1 m n pc hpc => exact htearing (by simp [tearing?, hpc]) hu
    case h_2 => cases hu
  | keepAlive W =>
    simp only [use?] at hu
    split at hu
    case h_1 send hpc =>
      obtain rfl := Option.some.inj hu
      rw [LockedSend.use_key]
      exact hT.keepAlive W _ hpc
    case h_2 => cases hu
  | msgLoop W =>
    simp only [use?] at hu
    split at hu
    case h_1 => exact hclosing hu
    case h_2 n pc hpc => exact htearing (by simp [tearing?, hpc]) hu
    case h_3 => cases hu
  | client A =>
    simp only [use?] at hu
    split at hu
    case h_1 binary pc hpc => exact hcreating (by simp [pending?, hpc]) hu
    case h_2 => exact hsending hu
    case h_3 => exact hclosing hu
    case h_4 => cases hu
  | reader c => cases hu
  | call k =>
    simp only [use?] at hu
    split at hu
    case h_1 pc hpc => exact hcreating (by simp [pending?, hpc]) hu
    case h_2 => cases hu
  | closer k =>
    simp only [use?] at hu
    split at hu
    case h_1 c W pc hpc =>
      rw [CloseRelayedConnection.use_key hu]
      exact hT.closer k _ hpc
    case h_2 => cases hu
  | sender k =>
    simp only [use?] at hu
    split at hu
    case h_1 => exact hsending hu
    case h_2 => cases hu

/-- A connection stays with its agent's websocket. -/
theorem agentOf_step (h : RelayRule cfg s e s') {c : ConnectionId}
    (hc : (s.relay.connection c).isSome = true) : s'.relay.agentOf c = s.relay.agentOf c := by
  obtain ⟨connection, hconn⟩ := Option.isSome_iff_exists.mp hc
  rw [agentOf_evolves h.evolves hconn]
  simp [agentOf, hconn]

/-- The use of a task changes only when it is run, or when it is a create call that starts. -/
theorem use_frame (hI : RegistryInv s) (hO : Ownership s) (hS : Outgoing s) (hT : SendTargets s)
    (hclosers : ∀ k, s.closers_created ≤ k → s.closer k = none)
    (h : RelayRule cfg s e s') {t : Task} (hrun : ∀ o, e ≠ .run t o)
    (hnew : ∀ k request c, t = .call k → e ≠ .create k request c) : s'.use? t = s.use? t := by
  cases t with
  | handshake W =>
    by_cases hconn : e = .agentConnects W
    · subst hconn
      cases h with
      | agentConnects hnone => simp [use?, hnone]
    · simp only [use?, handshake_frame h hrun hconn]
  | keepAlive W =>
    by_cases hshake : ∃ o, e = .run (.handshake W) o
    · obtain ⟨o, rfl⟩ := hshake
      -- The handshake creates the task, which has not been there.
      have hnone : s.keepAlive W = none := by
        cases halive : s.keepAlive W with
        | none => rfl
        | some pc => exact absurd (hT.keepAlive W pc halive) (not_opened_of_run h)
      cases hpc : s'.keepAlive W with
      | none => simp [use?, hpc, hnone]
      | some pc =>
        rcases keepAlive_created h hpc with ⟨pc₀, hpc₀⟩ | ⟨rfl, -⟩
        · rw [hnone] at hpc₀
          cases hpc₀
        · simp [use?, hpc, hnone]
    · simp only [use?, keepAlive_frame h (fun o he => hshake ⟨o, he⟩) hrun]
  | msgLoop W =>
    by_cases hshake : ∃ o, e = .run (.handshake W) o
    · obtain ⟨o, rfl⟩ := hshake
      have hnone : s.msgLoop W = none := by
        cases hloop : s.msgLoop W with
        | none => rfl
        | some task => exact absurd ⟨_, hI.msgLoop W task hloop⟩ (not_opened_of_run h)
      cases hpc : s'.msgLoop W with
      | none => simp [use?, hpc, hnone]
      | some task =>
        obtain ⟨n, pc⟩ := task
        rcases msgLoop_created h hrun hpc with hold | hnew
        · rw [hnone] at hold
          cases hold
        · dsimp only at hnew
          simp [use?, hpc, hnone, hnew]
    · have hsame := msgLoop_frame h (fun o he => hshake ⟨o, he⟩) hrun
      cases hpc : s.msgLoop W with
      | none => simp [use?, hsame, hpc]
      | some task =>
        obtain ⟨n, pc⟩ := task
        simp only [use?, hsame, hpc]
        cases pc with
        | resetting c pc => simp only [agentOf_step h (hT.resetting W n c pc hpc)]
        | _ => rfl
  | client A =>
    by_cases hconn : e = .clientConnects A
    · subst hconn
      cases h with
      | clientConnects hnone => simp [use?, hnone]
    · have hsame := client_frame h hrun hconn
      cases hpc : s.client A with
      | none => simp [use?, hsame, hpc]
      | some pc =>
        have hagent : ∀ c, pc.connection_id? = some c → s'.relay.agentOf c = s.relay.agentOf c := by
          intro c hid
          obtain ⟨connection, hc, -⟩ := hO.client A pc c hpc hid
          exact agentOf_step h (by rw [hc]; rfl)
        simp only [use?, hsame, hpc]
        cases pc with
        | forwarding c message send => simp only [hagent c rfl]
        | closing c pc => simp only [hagent c rfl]
        | _ => rfl
  | reader c => rfl
  | call k => simp only [use?, call_frame h hrun fun request c => hnew k request c rfl]
  | closer k =>
    rcases closer_frame h hrun with hsame | ⟨hk, c, ws, hpc'⟩
    · simp only [use?, hsame]
    · simp [use?, hpc', hclosers k hk.ge]
  | sender k =>
    by_cases hsend : ∃ call content, e = .send k call content
    · obtain ⟨call, content, rfl⟩ := hsend
      cases h with
      | send _ hnone => simp [use?, hnone]
    · have hsame := sender_frame h hrun fun call content he => hsend ⟨call, content, he⟩
      cases hpc : s.sender k with
      | none => simp [use?, hsame, hpc]
      | some sender =>
        obtain ⟨c, point⟩ := sender
        simp only [use?, hsame, hpc]
        cases point with
        | sending message send =>
          obtain ⟨connection, -, hc, -⟩ := hS.sender k c message send hpc
          simp only [agentOf_step h (c := c) (by rw [hc]; rfl)]
        | _ => rfl

/-! ## The entry of a registered websocket -/

/-- The id under which a websocket is registered is not empty. -/
theorem opened_id_ne {ok : RelayState → RelayEvent → Prop} (h : Reaches (step cfg) ok {} s) :
    ∀ W n, (s.handshake W = some (.finished (.ok (some n))) ∨
      ∃ m pc, s.handshake W = some (.evicting m n pc)) → n ≠ "" := by
  refine h.invariant (I := fun s => ∀ W n, (s.handshake W = some (.finished (.ok (some n))) ∨
      ∃ m pc, s.handshake W = some (.evicting m n pc)) → n ≠ "") (by simp) ?_
  intro s e s' _ _ hstep hI W n hW
  have h := step_rule hstep
  have hself : ∀ (s₁ : RelayState) pc, (s₁.setHandshake W pc).handshake W = some pc :=
    fun s₁ pc => by simp
  by_cases hshake : ∃ o, e = .run (.handshake W) o
  · obtain ⟨o, rfl⟩ := hshake
    have hevicted : ∀ m n₀ r' res, n₀ ≠ "" → ((s.evicted W m n₀ (r', res)).handshake W =
        some (.finished (.ok (some n))) ∨
        ∃ m' pc, (s.evicted W m n₀ (r', res)).handshake W = some (.evicting m' n pc)) → n ≠ "" := by
      intro m n₀ r' res hn₀ hW
      cases res with
      | parked pc =>
        simp only [evicted, hself, reduceCtorEq, false_or, Option.some.injEq,
          Handshake.evicting.injEq] at hW
        obtain ⟨-, -, -, rfl, -⟩ := hW
        exact hn₀
      | returned a =>
        obtain rfl : n₀ = n := by simpa [evicted, openAgent] using hW
        exact hn₀
      | raised e => simp [evicted] at hW
    cases h with
    | handshake hpc h =>
      cases h with
      | @opens m n₀ hn₀ =>
        obtain rfl : n₀ = n := by simpa [openAgent] using hW
        exact hn₀
      | evicts hn₀ => exact hevicted _ _ _ _ hn₀ hW
      | evicting => exact hevicted _ _ _ _ (hI W _ (.inr ⟨_, _, hpc⟩)) hW
      | @receives frame =>
        rw [hself] at hW
        rcases startReceived_cases cfg frame with ⟨result, heq, hres⟩ | ⟨m, heq, -⟩
        · have hres := hres n
          simp_all
        · simp_all
      | @ends pc o result _ _ hres =>
        have hres := hres n
        simp_all
      | accepts | refuses | duplicate | noAttribute => simp at hW
  · by_cases hconn : e = .agentConnects W
    · subst hconn
      cases h with
      | agentConnects => simp at hW
    · rw [handshake_frame h (fun o he => hshake ⟨o, he⟩) hconn] at hW
      exact hI W n hW

/-- The step in which a task calls `edge_agent_connection_close`. -/
theorem step_of_calls {t : Task} {o : Outcome} {n : AgentId} (h : step cfg s (.run t o) = some s')
    (hcalls : Calls cfg s t o n) (hn : n ≠ "") :
    (∃ W, t = .msgLoop W ∧
        s' = s.tornDown W n (edge_agent_connection_close s.relay (.msgLoop W) n)) ∨
      ∃ W m, t = .handshake W ∧ s.handshake W = some (.checking m) ∧
        s' = s.evicted W m n (edge_agent_connection_close
          (s.relay.setSupportsBinary n m.supports_binary) (.handshake W) n) := by
  cases hcalls with
  | @disconnect W _ _ hpc ho =>
    left
    refine ⟨W, rfl, ?_⟩
    rcases ho with rfl | rfl <;> simpa [step, resumeMsgLoop, hpc] using h.symm
  | @eviction W m _ other hpc hattr hreg hdead =>
    right
    refine ⟨W, m, rfl, hpc, ?_⟩
    simpa [step, resumeHandshake, hpc, hn, permitted, hattr, hreg, hdead] using h.symm

/-- The registrations after the first stretch of a close. -/
theorem edge_agent_connection_close_registry {r : NetworkRelay} (t : Task) {n : AgentId}
    {W : AgentSocket} (hreg : r.registered_agent_connections n = some W) :
    (edge_agent_connection_close r t n).1.registered_agent_connections =
        Function.update r.registered_agent_connections n none ∧
      (edge_agent_connection_close r t n).1.agent_connections = r.agent_connections.erase W := by
  have hregistry := (edge_agent_connection_close_start r t n).registry.1
  obtain ⟨hregs, hlist⟩ := deregistered_registered hreg
  exact ⟨(congrArg AgentRegistry.registered_agent_connections hregistry).trans hregs,
    (congrArg AgentRegistry.agent_connections hregistry).trans hlist⟩

/-- A finished eviction registers the websocket of its handshake, and no other. -/
theorem evicted_registry (s : RelayState) (W₀ : AgentSocket) (m : EtRStartMessage) (n : AgentId)
    (x : NetworkRelay × Res EdgeAgentConnectionClose Unit Exc) :
    (s.evicted W₀ m n x).relay.agent_connections = x.1.agent_connections ∧
      ∀ n' W, (s.evicted W₀ m n x).relay.registered_agent_connections n' = some W →
        x.1.registered_agent_connections n' = some W ∨ W = W₀ := by
  obtain ⟨r', res⟩ := x
  refine ⟨by cases res <;> rfl, fun n' W hW => ?_⟩
  cases res with
  | returned a =>
    by_cases hn : n' = n
    · exact .inr (by simpa [evicted, openAgent, hn] using hW.symm)
    · exact .inl (by simpa [evicted, openAgent, hn] using hW)
  | parked _ | raised _ => exact .inl hW

/-- A websocket whose entry a step may remove is not registered after it. -/
theorem unlisted_of_popped (hI : RegistryInv s)
    (hC : ∀ t pc, s.tearing? t = some pc → Closing s pc) {t : Task} {o : Outcome}
    (hstep : step cfg s (.run t o) = some s') {W : AgentSocket}
    (hid : ∀ n, s.relay.registered_agent_connections n = some W → n ≠ "")
    (hW : Popped cfg s t o W) : Unlisted s'.relay W := by
  rcases hW with ⟨pc, hpc, rfl⟩ | ⟨n, hcalls, hreg⟩
  · obtain ⟨⟨n, hdone⟩, hunlisted, -⟩ := hC t pc hpc
    exact hunlisted.step (step_rule hstep) hdone
  · have hother : ∀ n' W', n' ≠ n → Function.update s.relay.registered_agent_connections n none n' =
        some W' → s.relay.registered_agent_connections n' = some W' := by
      intro n' W' hn hn'
      rwa [Function.update_of_ne hn] at hn'
    rcases step_of_calls hstep hcalls (hid n hreg) with ⟨W₀, -, rfl⟩ | ⟨W₀, m, -, hpc, rfl⟩
    · obtain ⟨hregs, hlist⟩ := edge_agent_connection_close_registry (.msgLoop W₀) hreg
      refine unlisted_of_closed hI hreg (fun n' W' hn hn' => ?_) ?_ hlist
      · exact hother n' W' hn (by rw [← hregs]; exact hn')
      · simp [tornDown, hregs]
    · -- The handshake that evicts is that of another websocket.
      have hne : W ≠ W₀ := by
        rintro rfl
        have hdone := (hI.registered n W hreg).symm.trans hpc
        cases hdone
      obtain ⟨hregs, hlist⟩ := edge_agent_connection_close_registry
        (r := s.relay.setSupportsBinary n m.supports_binary) (.handshake W₀) hreg
      obtain ⟨hlist', hregs'⟩ := evicted_registry s W₀ m n (edge_agent_connection_close
        (s.relay.setSupportsBinary n m.supports_binary) (.handshake W₀) n)
      constructor
      · intro n' hn'
        rcases hregs' n' W hn' with hn' | hW
        · rw [hregs] at hn'
          by_cases hn : n' = n
          · subst hn
            simp at hn'
          · have hold := hother n' W hn hn'
            have hsame := (hI.registered n' W hold).symm.trans (hI.registered n W hreg)
            exact hn (by simpa using hsame)
        · exact hne hW
      · rw [hlist', hlist]
        exact hI.nodup.not_mem_erase

/-! ## Turns -/

/-- Mutual exclusion on all locks, and one lock for each registered websocket. -/
structure TakesTurns (s : RelayState) : Prop where
  exclusive : LockTable.Exclusive s.relay.locks s.use?
  serves : ∀ n W, s.relay.registered_agent_connections n = some W →
    LockTable.Serves s.relay.locks s.use? W

/-- A step makes operations of one task on the locks, and changes the use of no other. -/
theorem ops_of_step {ok : RelayState → RelayEvent → Prop} (hr : Reaches (step cfg) ok {} s)
    (hstep : step cfg s e = some s') :
    ∃ t, LockTable.Ops t (fun W => ∃ o, e = .run t o ∧ Popped cfg s t o W)
        (s.relay.locks, s.use? t) (s'.relay.locks, s'.use? t) ∧
      s'.use? = Function.update s.use? t (s'.use? t) := by
  have h := step_rule hstep
  have hframe := fun t => use_frame (registryInv hr) (ownership hr) (outgoing hr)
    (sendTargets hr) (closer_never_created hr) h (t := t)
  have hupdate : ∀ t, (∀ t', t' ≠ t → s'.use? t' = s.use? t') →
      s'.use? = Function.update s.use? t (s'.use? t) := by
    intro t hsame
    funext t'
    by_cases ht : t' = t
    · rw [ht, Function.update_self]
    · rw [Function.update_of_ne ht, hsame t' ht]
  have hquiet : s'.relay.locks = s.relay.locks → (∀ t o, e ≠ .run t o) →
      (∀ k request c, e ≠ .create k request c) →
      ∃ t, LockTable.Ops t (fun W => ∃ o, e = .run t o ∧ Popped cfg s t o W)
          (s.relay.locks, s.use? t) (s'.relay.locks, s'.use? t) ∧
        s'.use? = Function.update s.use? t (s'.use? t) := by
    intro hlocks hrun hcreate
    have hsame := fun t => hframe t (fun o => hrun t o) fun k request c _ => hcreate k request c
    refine ⟨.call 0, ?_, hupdate _ fun t' _ => hsame t'⟩
    rw [hlocks, hsame]
    exact .refl
  cases e with
  | run t o =>
    refine ⟨t, (locks_of_run hstep).ops.mono fun W hW => ⟨o, rfl, hW⟩, hupdate t fun t' ht => ?_⟩
    refine hframe t' (fun o' he => ht ?_) fun k request c _ he => by cases he
    obtain ⟨rfl, -⟩ := RelayEvent.run.inj he
    rfl
  | create k request c =>
    have hsame : ∀ t', t' ≠ .call k → s'.use? t' = s.use? t' := by
      intro t' ht
      refine hframe t' (fun o he => by cases he) fun k' request' c' ht' he => ht ?_
      obtain ⟨rfl, -⟩ := RelayEvent.create.inj he
      exact ht'
    refine ⟨.call k, ?_, hupdate _ hsame⟩
    simp only [step, startCall] at hstep
    split at hstep
    case isTrue hcond =>
      obtain rfl := Option.some.inj hstep
      have hnew : s.call k = none := Option.isNone_iff_eq_none.mp (Bool.and_eq_true_iff.mp hcond).1
      have huse : s.use? (.call k) = none := by simp [use?, hnew]
      rw [huse, (callReturned_locks _ _ _ _).1, (callReturned_locks _ _ _ _).2]
      exact _create_connection_ops cfg request c
    case isFalse => cases hstep
  | agentConnects | agentSends | agentDies | clientConnects | close | send =>
    cases h
    exact hquiet rfl (by simp) (by simp)

/-- A step keeps the turns. -/
theorem TakesTurns.preserved {ok : RelayState → RelayEvent → Prop}
    (hr : Reaches (step cfg) ok {} s) (hstep : step cfg s e = some s') (hT : TakesTurns s) :
    TakesTurns s' := by
  have h := step_rule hstep
  have hI := registryInv hr
  obtain ⟨t, hops, huse⟩ := ops_of_step hr hstep
  have hself : s.use? = Function.update s.use? t (s.use? t) := (Function.update_eq_self _ _).symm
  constructor
  · have hE := hT.exclusive
    rw [hself] at hE
    rw [huse]
    exact LockTable.Exclusive.ops (x := (s.relay.locks, s.use? t)) hE hops
  · intro n W hW
    rcases registered_before h hW with ⟨n', hn'⟩ | ⟨o, rfl⟩
    · have hS := hT.serves n' W hn'
      rw [hself] at hS
      rw [huse]
      refine LockTable.Serves.ops (x := (s.relay.locks, s.use? t)) ?_ hS hops
      rintro ⟨o, rfl, hpop⟩
      have hid : ∀ n, s.relay.registered_agent_connections n = some W → n ≠ "" :=
        fun n hn => opened_id_ne hr W n (.inl (hI.registered n W hn))
      exact (unlisted_of_popped hI (closing_inv hr) hstep hid hpop).1 n hW
    · -- The websocket has just been registered, so nobody has sent on it.
      intro t' u hu hkey
      by_cases ht' : t' = .handshake W
      · have hdone := (hI.preserved h).registered n W hW
        rw [ht'] at hu
        simp [use?, hdone] at hu
      · have hsame := use_frame hI (ownership hr) (outgoing hr) (sendTargets hr)
          (closer_never_created hr) h (t := t')
          (fun o' he => ht' (RelayEvent.run.inj he).1.symm) fun k request c _ he => by cases he
        rw [hsame] at hu
        have hopened := use_opened hI (closing_inv hr) (outgoing hr) (sendTargets hr) hu
        rw [hkey] at hopened
        exact absurd hopened (not_opened_of_run h)

/-- Nobody uses a lock in the initial state. -/
theorem TakesTurns.initial : TakesTurns {} := by
  have hnone : ∀ t, ({} : RelayState).use? t = none := by
    intro t
    cases t <;> rfl
  refine ⟨⟨?_, ?_, ?_, ?_, ?_, ?_⟩, ?_⟩
  · intro key l hl
    cases hl
  · intro t u hu
    rw [hnone] at hu
    cases hu
  · intro l t
    have hempty : t ∉ (({} : RelayState).relay.locks.lock l).queue := by
      apply List.not_mem_nil
    simp [hnone, hempty]
  · exact fun l => List.nodup_nil
  · exact fun l => Lock.Tight.empty
  · intro t u hu
    rw [hnone] at hu
    cases hu
  · intro n W hW
    cases hW

/-- The tasks take turns in every run. -/
theorem takesTurns {ok : RelayState → RelayEvent → Prop} (h : Reaches (step cfg) ok {} s) :
    TakesTurns s :=
  h.invariant .initial fun _ _ _ hr _ hstep hT => hT.preserved hr hstep

/-- The task `t` is in `send_text` or `send_bytes` on the websocket, holding the lock object `l`. -/
def InSend (s : RelayState) (W : AgentSocket) (t : Task) (l : ℕ) : Prop :=
  s.use? t = some ⟨W, l, true⟩

/-- Whether a task is in a send can be computed. -/
instance (s : RelayState) (W : AgentSocket) (t : Task) (l : ℕ) : Decidable (InSend s W t l) :=
  inferInstanceAs (Decidable (_ = _))

/-- On a registered websocket there is at most one send at a time, and all tasks that hold its send
lock or wait for it have the same lock object; a send that raises, on any websocket, passes its lock
to the first waiter, and its own task comes after all that have waited. -/
theorem agent_sends_serialized (h : Reaches (step cfg) (fun _ _ => True) {} s) :
    (∀ l t, t ∈ (s.relay.lock l).queue ↔ ∃ u, s.use? t = some u ∧ u.lock = l) ∧
    (∀ n W, s.relay.registered_agent_connections n = some W →
      (∀ t t' l l', InSend s W t l → InSend s W t' l' → t = t') ∧
      ∃ l, ∀ t u, s.use? t = some u → u.key = W → u.lock = l) ∧
    ∀ t W l e s', InSend s W t l → step cfg s (.run t (.raised e)) = some s' →
      (s'.relay.lock l).holder = (s.relay.lock l).waiters.head? ∨
        (s.relay.lock l).waiters = [] ∧ ∃ u, s'.use? t = some u ∧ u.lock = l := by
  have hT := takesTurns h
  refine ⟨hT.exclusive.queue, fun n W hW => ⟨?_, ?_⟩, ?_⟩
  · intro t t' l l' ht ht'
    exact hT.exclusive.sole (hT.serves n W hW) ht ht' rfl rfl rfl rfl
  · -- A websocket without an entry has no users.
    cases hentry : s.relay.agent_connection_locks W with
    | some l =>
      refine ⟨l, fun t u hu hkey => ?_⟩
      have hserved := hT.serves n W hW t u hu hkey
      exact Option.some.inj (hserved.symm.trans hentry)
    | none =>
      refine ⟨0, fun t u hu hkey => ?_⟩
      have hserved := hT.serves n W hW t u hu hkey
      have hnone : s.relay.locks.entry W = none := hentry
      rw [hnone] at hserved
      cases hserved
  · intro t W l e s' ht hstep
    have hresumes := locks_of_run hstep
    have ht : s.use? t = some ⟨W, l, true⟩ := ht
    rw [Locks, ht] at hresumes
    exact LockTable.Ops.released hT.exclusive ht hresumes

/-- Two users ask for a connection through the same agent; the second waits for the send of the
first. -/
def twoRequests : RelayState :=
  (run (step plainConfig) {} (registerAgent ⟨0⟩ "agent" true ++
    [.create 0 ⟨"agent", "127.0.0.1", 22, "tcp", .tcpConnection⟩ someConnection,
      .create 1 ⟨"agent", "127.0.0.1", 80, "tcp", .tcpConnection⟩
        "00000000-0000-4000-8000-000000000001"])).get (by decide +kernel)

/-- One call is in its send, and the other one waits for its turn. -/
theorem twoRequests_serialized :
    InSend twoRequests ⟨0⟩ (.call 0) 0 ∧ (twoRequests.relay.lock 0).waiters = [.call 1] ∧
      (∀ t t' l l', InSend twoRequests ⟨0⟩ t l → InSend twoRequests ⟨0⟩ t' l' → t = t') := by
  have hreach : Reaches (step plainConfig) (fun _ _ => True) {} twoRequests :=
    Reaches.init.of_run (fun _ _ _ => trivial) (Option.some_get _).symm
  obtain ⟨-, hturns, -⟩ := agent_sends_serialized hreach
  exact ⟨rfl, rfl, (hturns "agent" ⟨0⟩ rfl).1⟩

end HttpNetworkRelay
