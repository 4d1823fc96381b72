import HttpNetworkRelay.Relay.SessionFrames

/-!
# The agents that are registered

What a step does to the dictionaries about agents, and the invariant `RegistryInv` of every run: a
websocket is registered, served by a message loop or referred to by a connection object only after
its own handshake has returned an id, and until the start message has been received nothing of what
the agent has sent has been.
-/

namespace HttpNetworkRelay

open Asyncio Python RelayState NetworkRelay

/-! ## What the coroutines do to the registry -/

/-- The registry after the two removals of `edge_agent_connection_close`. -/
def NetworkRelay.deregistered (r : NetworkRelay) (n : AgentId) : NetworkRelay :=
  match r.registered_agent_connections n with
  | none => r.deregister n
  | some agent_connection => (r.deregister n).removeAgent agent_connection

section

variable {r r' : NetworkRelay} {c : ConnectionId} {ws : AgentSocket} {o : Outcome}

/-- A step of a close leaves the registry and the agents' side alone. -/
theorem CloseStep.registry {pc : CloseRelayedConnection} {res : Res CloseRelayedConnection Unit Exc}
    (h : CloseStep r c ws pc o r' res) :
    r'.toAgentRegistry = r.toAgentRegistry ∧ r'.toAgentSide = r.toAgentSide := by
  cases h with
  | informs same | informingFails _ same | closesClient _ same | dropsUnattached _ same =>
    exact ⟨same.registry, same.agents⟩
  | drops | closingFails => exact ⟨rfl, rfl⟩

/-- A step of a teardown leaves the registry and the agents' side alone. -/
theorem TeardownStep.registry {pc : EdgeAgentConnectionClose}
    {res : Res EdgeAgentConnectionClose Unit Exc} (h : TeardownStep r pc o r' res) :
    r'.toAgentRegistry = r.toAgentRegistry ∧ r'.toAgentSide = r.toAgentSide := by
  cases h with
  | inside h | fails h => exact h.registry
  | next h _ same =>
    exact ⟨same.registry.trans h.registry.1, same.agents.trans h.registry.2⟩
  | done h => exact h.registry

/-- The start of a teardown takes its agent out of the registry. -/
theorem TeardownStart.registry {n : AgentId} {res : Res EdgeAgentConnectionClose Unit Exc}
    (h : TeardownStart r n r' res) :
    r'.toAgentRegistry = (r.deregistered n).toAgentRegistry ∧ r'.toAgentSide = r.toAgentSide := by
  cases h with
  | unregistered h | idle h => simp [deregistered, h]
  | starts h _ same =>
    have hregistry := same.registry
    have hagents := same.agents
    simp [deregistered, h, hregistry, hagents]

end

variable {cfg : RelayConfig} {s s' : RelayState} {e : RelayEvent}

/-- What concerns agents, in the dictionaries and on their side of the websockets, is the same. -/
def SameAgents (r r' : NetworkRelay) : Prop :=
  r'.toAgentRegistry = r.toAgentRegistry ∧ r'.toAgentSide = r.toAgentSide

/-- Two steps that leave the agents alone do so together. -/
theorem SameAgents.trans {r r' r'' : NetworkRelay} (h : SameAgents r r') (h' : SameAgents r' r'') :
    SameAgents r r'' :=
  ⟨h'.1.trans h.1, h'.2.trans h.2⟩

/-- A send that is begun leaves the agents alone. -/
theorem NetworkRelay.SameButSends.sameAgents {r r' : NetworkRelay} (same : r.SameButSends r') :
    SameAgents r r' :=
  ⟨same.registry, same.agents⟩

/-- A change of the access client's side leaves the agents alone. -/
theorem NetworkRelay.SameButAccess.sameAgents {r r' : NetworkRelay} {c : ConnectionId}
    (same : SameButAccess c r r') : SameAgents r r' :=
  ⟨same.registry, same.agents⟩

/-- Only the tasks of its websocket, and the agent itself, change what concerns an agent. -/
theorem agents_frame (h : RelayRule cfg s e s') (hsend : ∀ W frame, e ≠ .agentSends W frame)
    (hdie : ∀ W, e ≠ .agentDies W) (hshake : ∀ W o, e ≠ .run (.handshake W) o)
    (hloop : ∀ W o, e ≠ .run (.msgLoop W) o) : SameAgents s.relay s'.relay := by
  cases h with
  | agentSends => exact absurd rfl (hsend _ _)
  | agentDies => exact absurd rfl (hdie _)
  | create _ _ _ same => exact ⟨same.registry, same.agents⟩
  | handshake => exact absurd rfl (hshake _ _)
  | keepAlive _ h => exact h.same.sameAgents
  | msgLoop => exact absurd rfl (hloop _ _)
  | client _ h =>
    cases h with
    | opens _ _ _ same => exact ⟨same.registry, same.agents⟩
    | @creating _ _ _ r' res h =>
      have hcreate : SameAgents s.relay r' := ⟨h.frame.registry, h.frame.agents⟩
      cases res with
      | parked _ | returned _ => exact hcreate
      | raised e => cases e <;> exact hcreate
    | disconnects _ _ same => exact ⟨same.registry, same.agents⟩
    | ignores => exact (continueLoop_same s _ _ _).sameAgents
    | forwards _ _ h | forwarding _ h => exact (forwarded_same h.same _ _ _ _ _).sameAgents
    | @closing _ _ _ _ r' res _ h =>
      have hclose : SameAgents s.relay r' := h.registry
      cases res <;> exact hclose
    | advances | refuses | unregistered | starts | startFails | receiveFails | malformed
    | clientClosed | closeFails | joined | cancels => exact ⟨rfl, rfl⟩
  | reader _ _ h => cases h <;> exact ⟨rfl, rfl⟩
  | call _ h => exact ⟨h.frame.registry, h.frame.agents⟩
  | closes _ same => exact same.sameAgents
  | closing _ h => exact h.registry
  | sends _ _ h | sending _ _ h => exact ⟨h.same.registry, h.same.agents⟩
  | agentConnects | clientConnects | createFails | close | send => exact ⟨rfl, rfl⟩

/-- The registry is changed by handshakes and message loops only. -/
theorem registry_frame (h : RelayRule cfg s e s') (hshake : ∀ W o, e ≠ .run (.handshake W) o)
    (hloop : ∀ W o, e ≠ .run (.msgLoop W) o) :
    s'.relay.toAgentRegistry = s.relay.toAgentRegistry := by
  by_cases hsend : ∃ W frame, e = .agentSends W frame
  · obtain ⟨W, frame, rfl⟩ := hsend
    cases h
    rfl
  by_cases hdie : ∃ W, e = .agentDies W
  · obtain ⟨W, rfl⟩ := hdie
    cases h
    rfl
  · exact (agents_frame h (fun W frame he => hsend ⟨W, frame, he⟩) (fun W he => hdie ⟨W, he⟩)
      hshake hloop).1

/-! ## What handshakes and message loops do -/

/-- Registrations and listed websockets are removed only. -/
def Shrinks (r r' : AgentRegistry) : Prop :=
  (∀ n W, r'.registered_agent_connections n = some W → r.registered_agent_connections n = some W) ∧
    r'.agent_connections.Sublist r.agent_connections

/-- A registry that stays as it is has not grown. -/
theorem Shrinks.refl (r : AgentRegistry) : Shrinks r r :=
  ⟨fun _ _ h => h, List.Sublist.refl _⟩

/-- A registry without one of its agents has not grown. -/
theorem Shrinks.deregistered (r : NetworkRelay) (n : AgentId) :
    Shrinks r.toAgentRegistry (r.deregistered n).toAgentRegistry := by
  have hremoved : ∀ n' W,
      Function.update r.registered_agent_connections n none n' = some W →
        r.registered_agent_connections n' = some W := by
    intro n' W h
    by_cases hn : n' = n
    · subst hn
      simp at h
    · simpa [hn] using h
  unfold NetworkRelay.deregistered
  split
  · exact ⟨hremoved, List.Sublist.refl _⟩
  · exact ⟨hremoved, List.erase_sublist⟩

/-- How a handshake's step changes its stage and what concerns agents. -/
inductive HandshakeMoved (cfg : RelayConfig) (s : RelayState) (W : AgentSocket) (pc : Handshake)
    (s' : RelayState) : Prop
  | accepted (hpc : pc = .accepting) (hpc' : s'.handshake W = some .receivingStart)
      (hreg : s'.relay.toAgentRegistry = (s.relay.appendAgent W).toAgentRegistry)
      (hagents : s'.relay.toAgentSide = s.relay.toAgentSide) (hloop : s'.msgLoop = s.msgLoop)
  | received {frame rest} (hpc : pc = .receivingStart) (hin : s.relay.inbox W = frame :: rest)
      (hpc' : s'.handshake W = some (startReceived cfg frame))
      (hreg : s'.relay.toAgentRegistry = s.relay.toAgentRegistry)
      (hagents : s'.relay.toAgentSide = (s.relay.setInbox W rest).toAgentSide)
      (hloop : s'.msgLoop = s.msgLoop)
  /-- It does not lead to a registration. -/
  | left (pc' : Handshake) (hpc' : s'.handshake W = some pc')
      (hleft : pc' = .refusing ∨ ∃ result, pc' = .finished result ∧ ∀ n, result ≠ .ok (some n))
      (hreg : Shrinks s.relay.toAgentRegistry s'.relay.toAgentRegistry)
      (hagents : s'.relay.toAgentSide = s.relay.toAgentSide) (hloop : s'.msgLoop = s.msgLoop)
  | evicts (m : EtRStartMessage) (n : AgentId) (t : EdgeAgentConnectionClose)
      (hpc : pc = .checking m ∨ ∃ t, pc = .evicting m n t)
      (hpc' : s'.handshake W = some (.evicting m n t))
      (hreg : Shrinks s.relay.toAgentRegistry s'.relay.toAgentRegistry)
      (hagents : s'.relay.toAgentSide = s.relay.toAgentSide) (hloop : s'.msgLoop = s.msgLoop)
  | opened (r : NetworkRelay) (m : EtRStartMessage) (n : AgentId)
      (hpc : pc = .checking m ∨ ∃ t, pc = .evicting m n t)
      (hpc' : s'.handshake W = some (.finished (.ok (some n))))
      (hreg : Shrinks s.relay.toAgentRegistry r.toAgentRegistry)
      (hopen : s'.relay = r.edge_agent_connection_open n W)
      (hagents : s'.relay.toAgentSide = s.relay.toAgentSide)
      (hloop : s'.msgLoop = Function.update s.msgLoop W (some ⟨n, .receiving⟩))

/-- An eviction that has parked, returned or raised. -/
theorem HandshakeMoved.of_evicted {W : AgentSocket} {pc : Handshake} {m : EtRStartMessage}
    {n : AgentId} (hpc : pc = .checking m ∨ ∃ t, pc = .evicting m n t) {r : NetworkRelay}
    (hreg : Shrinks s.relay.toAgentRegistry r.toAgentRegistry)
    (hagents : r.toAgentSide = s.relay.toAgentSide) (res : Res EdgeAgentConnectionClose Unit Exc) :
    HandshakeMoved cfg s W pc (s.evicted W m n (r, res)) := by
  cases res with
  | parked t => exact .evicts m n t hpc (by simp [evicted]) hreg hagents rfl
  | returned a => exact .opened r m n hpc (by simp [evicted, openAgent]) hreg rfl hagents rfl
  | raised e =>
    -- The exception of a close leaves the handshake without a registration.
    refine .left (.finished (.error e)) (by simp [evicted]) (.inr ⟨_, rfl, ?_⟩) hreg hagents rfl
    rintro n ⟨⟩

/-- What a step of a handshake does to its websocket. -/
theorem HandshakeRule.moved {W : AgentSocket} {pc : Handshake} {o : Outcome}
    (h : HandshakeRule cfg s W pc o s') : HandshakeMoved cfg s W pc s' := by
  have hset : ∀ n b, Shrinks s.relay.toAgentRegistry (s.relay.setSupportsBinary n b).toAgentRegistry
      := fun n b => ⟨fun _ _ h => h, List.Sublist.refl _⟩
  cases h with
  | accepts => exact .accepted rfl (by simp) rfl rfl rfl
  | receives hin => exact .received rfl hin (by simp) rfl rfl rfl
  | refuses => exact .left .refusing (by simp) (.inl rfl) (.refl _) rfl rfl
  | @opens m n => exact .opened _ m n (.inl rfl) (by simp [openAgent]) (hset _ _) rfl rfl rfl
  | duplicate => exact .left .refusing (by simp) (.inl rfl) (hset _ _) rfl rfl
  | noAttribute =>
    refine .left (.finished (.error .attributeError)) (by simp) (.inr ⟨_, rfl, ?_⟩) (hset _ _) rfl
      rfl
    rintro n ⟨⟩
  | @evicts m n other r' res _ _ _ _ h =>
    obtain ⟨hregistry, hagents⟩ := h.registry
    refine .of_evicted (.inl rfl) ?_ hagents res
    rw [hregistry]
    have hshrinks := Shrinks.deregistered (s.relay.setSupportsBinary n m.supports_binary) n
    exact hshrinks
  | evicting h =>
    obtain ⟨hregistry, hagents⟩ := h.registry
    refine .of_evicted (.inr ⟨_, rfl⟩) ?_ hagents _
    rw [hregistry]
    exact .refl _
  | @ends _ _ result _ _ hres =>
    exact .left (.finished result) (by simp) (.inr ⟨_, rfl, hres⟩) (.refl _) rfl rfl

/-- How a message loop's step changes what concerns agents. -/
structure MsgLoopMoved (s : RelayState) (W : AgentSocket) (n : AgentId) (s' : RelayState) :
    Prop where
  handshake : s'.handshake = s.handshake
  other : ∀ W', W' ≠ W → s'.msgLoop W' = s.msgLoop W'
  own : ∃ pc', s'.msgLoop W = some ⟨n, pc'⟩
  registry : Shrinks s.relay.toAgentRegistry s'.relay.toAgentRegistry
  agent_sent : s'.relay.agent_sent = s.relay.agent_sent
  inbox : s'.relay.inbox = s.relay.inbox ∨ ∃ frame rest, s.relay.inbox W = frame :: rest ∧
    s'.relay.inbox = Function.update s.relay.inbox W rest

/-- The handling of a frame leaves the agents alone, and its message loop on the websocket. -/
theorem FrameRule.same {W : AgentSocket} {n : AgentId} {frame : AgentFrame}
    (h : FrameRule cfg s W n frame s') :
    SameAgents s.relay s'.relay ∧ ∃ pc', s'.msgLoop W = some ⟨n, pc'⟩ := by
  cases h with
  | resets _ _ _ _ same => exact ⟨same.sameAgents, _, Function.update_self _ _ _⟩
  | stops | ignores | fills | schedules | answers | blocks | custom =>
    exact ⟨⟨rfl, rfl⟩, _, Function.update_self _ _ _⟩

/-- What a step of a message loop does to its websocket. -/
theorem MsgLoopRule.moved {W : AgentSocket} {n : AgentId} {pc : MsgLoop} {o : Outcome}
    (h : MsgLoopRule cfg s W n pc o s') : MsgLoopMoved s W n s' := by
  obtain ⟨-, hshake, -, hother, -⟩ := h.frame
  cases h with
  | disconnects _ h =>
    obtain ⟨hregistry, hagents⟩ := h.registry
    refine ⟨hshake, hother, ⟨_, Function.update_self _ _ _⟩, ?_,
      congrArg AgentSide.agent_sent hagents,
      .inl (congrArg AgentSide.inbox hagents)⟩
    simp only [tornDown, setMsgLoop, withRelay, hregistry]
    exact .deregistered _ _
  | @receives frame rest s' hin h =>
    obtain ⟨⟨hregistry, hagents⟩, hown⟩ := h.same
    refine ⟨hshake, hother, hown, ?_, ?_, .inr ⟨frame, rest, hin, ?_⟩⟩
    · rw [hregistry]
      exact .refl _
    · rw [hagents]
      rfl
    · rw [hagents]
      rfl
  | resetting _ h =>
    obtain ⟨hregistry, hagents⟩ := h.registry
    refine ⟨hshake, hother, ⟨_, Function.update_self _ _ _⟩, ?_,
      congrArg AgentSide.agent_sent hagents,
      .inl (congrArg AgentSide.inbox hagents)⟩
    simp only [resetHandled, setMsgLoop, withRelay, hregistry]
    exact .refl _
  | tearingDown h =>
    obtain ⟨hregistry, hagents⟩ := h.registry
    refine ⟨hshake, hother, ⟨_, Function.update_self _ _ _⟩, ?_,
      congrArg AgentSide.agent_sent hagents,
      .inl (congrArg AgentSide.inbox hagents)⟩
    simp only [tornDown, setMsgLoop, withRelay, hregistry]
    exact .refl _
  | receiveFails | puts | customHandled =>
    exact ⟨hshake, hother, ⟨_, Function.update_self _ _ _⟩, .refl _, rfl, .inl rfl⟩

/-- How a step changes the agents' side of their websockets. -/
inductive AgentSideMoved (s : RelayState) (e : RelayEvent) (s' : RelayState) : Prop
  | same (hagents : s'.relay.toAgentSide = s.relay.toAgentSide)
  | sends (W : AgentSocket) (frame : AgentFrame) (he : e = .agentSends W frame)
  | dies (W : AgentSocket) (he : e = .agentDies W)
  /-- A handshake takes the first frame. -/
  | starts {W o frame rest} (he : e = .run (.handshake W) o)
      (hpc : s.handshake W = some .receivingStart) (hin : s.relay.inbox W = frame :: rest)
      (hagents : s'.relay.toAgentSide = (s.relay.setInbox W rest).toAgentSide)
  /-- A message loop takes the next frame. -/
  | receives {W n frame rest} (he : e = .run (.msgLoop W) .next)
      (hpc : s.msgLoop W = some ⟨n, .receiving⟩) (hin : s.relay.inbox W = frame :: rest)
      (hagents : s'.relay.toAgentSide = (s.relay.setInbox W rest).toAgentSide)

/-- What any step does to the agents' websockets. -/
theorem agents_of_rule (h : RelayRule cfg s e s') : AgentSideMoved s e s' := by
  -- Handshakes and message loops take frames; the agent itself sends them and dies.
  by_cases hshake : ∃ W o, e = .run (.handshake W) o
  · obtain ⟨W, o, rfl⟩ := hshake
    cases h with
    | handshake hpc h =>
      cases h.moved with
      | received hreceiving hin _ _ hagents =>
        exact .starts rfl (by rw [hpc, hreceiving]) hin hagents
      | accepted _ _ _ hagents | left _ _ _ _ hagents | evicts _ _ _ _ _ _ hagents
      | opened _ _ _ _ _ _ _ hagents => exact .same hagents
  by_cases hloop : ∃ W o, e = .run (.msgLoop W) o
  · obtain ⟨W, o, rfl⟩ := hloop
    cases h with
    | msgLoop hpc h =>
      cases h with
      | disconnects _ h => exact .same h.registry.2
      | receives hin h => exact .receives rfl hpc hin h.same.1.2
      | resetting _ h => exact .same h.registry.2
      | tearingDown h => exact .same h.registry.2
      | receiveFails | puts | customHandled => exact .same rfl
  by_cases hsend : ∃ W frame, e = .agentSends W frame
  · obtain ⟨W, frame, he⟩ := hsend
    exact .sends W frame he
  by_cases hdie : ∃ W, e = .agentDies W
  · obtain ⟨W, he⟩ := hdie
    exact .dies W he
  · exact .same (agents_frame h (fun W frame he => hsend ⟨W, frame, he⟩)
      (fun W he => hdie ⟨W, he⟩) (fun W o he => hshake ⟨W, o, he⟩)
      fun W o he => hloop ⟨W, o, he⟩).2

/-! ## The invariant -/

/-- The start message that an agent has sent first. -/
def AgentFrame.startMessage? : AgentFrame → Option EtRStartMessage
  | .text ⟨some (.start m), _⟩ => some m
  | _ => none

/-- The start message of an agent's websocket. -/
def NetworkRelay.startMessage? (r : NetworkRelay) (W : AgentSocket) : Option EtRStartMessage :=
  (r.agent_sent W).head?.bind AgentFrame.startMessage?

/-- The flag that an agent has announced in its start message. -/
def NetworkRelay.announced (r : NetworkRelay) (W : AgentSocket) : Bool :=
  (r.startMessage? W).any (·.supports_binary)

/-- Which websockets the registry, the message loops and the connection objects refer to. -/
structure RegistryInv (s : RelayState) : Prop where
  registered : ∀ n W, s.relay.registered_agent_connections n = some W →
    s.handshake W = some (.finished (.ok (some n)))
  msgLoop : ∀ W task, s.msgLoop W = some task →
    s.handshake W = some (.finished (.ok (some task.connection_id)))
  connection : ∀ c connection, s.relay.connection c = some connection →
    ∃ n, s.handshake connection.agent_connection = some (.finished (.ok (some n)))
  listed : ∀ W ∈ s.relay.agent_connections, ∃ pc, s.handshake W = some pc ∧ pc ≠ .accepting
  nodup : s.relay.agent_connections.Nodup
  unread : ∀ W, s.handshake W = none ∨ s.handshake W = some .accepting ∨
    s.handshake W = some .receivingStart → s.relay.inbox W = s.relay.agent_sent W
  inbox : ∀ W, s.relay.inbox W <:+ s.relay.agent_sent W
  startMessage : ∀ W m, (s.handshake W = some (.checking m) ∨
    ∃ n pc, s.handshake W = some (.evicting m n pc)) → s.relay.startMessage? W = some m
  started : ∀ W n, s.handshake W = some (.finished (.ok (some n))) →
    ∃ m, s.relay.startMessage? W = some m

/-- The point of a handshake that has received its first frame. -/
theorem startReceived_cases (cfg : RelayConfig) (frame : AgentFrame) :
    (∃ result, startReceived cfg frame = .finished result ∧ ∀ n, result ≠ .ok (some n)) ∨
      ∃ m, startReceived cfg frame = .checking m ∧ frame.startMessage? = some m := by
  cases frame with
  | bytes binary => exact .inl ⟨_, rfl, by simp⟩
  | text content =>
    obtain ⟨known, custom⟩ := content
    cases known with
    | none => exact .inl ⟨_, rfl, by simp⟩
    | some message =>
      cases message with
      | start m =>
        by_cases hvalid : cfg.start_message_valid m = true
        · exact .inr ⟨m, by simp [startReceived, hvalid], rfl⟩
        · exact .inl ⟨.error .validationError, by simp [startReceived, hvalid], by simp⟩
      | initiateConnectionError | initiateConnectionOK | tcpData | connectionReset | keepAlive =>
        exact .inl ⟨.ok none, rfl, by simp⟩

/-- A handshake that has received something is not accepting any more. -/
theorem startReceived_ne (cfg : RelayConfig) (frame : AgentFrame) :
    startReceived cfg frame ≠ .accepting := by
  rcases startReceived_cases cfg frame with ⟨result, heq, -⟩ | ⟨m, heq, -⟩ <;> simp [heq]

/-- A handshake that has received something does not receive any more. -/
theorem startReceived_reads (cfg : RelayConfig) (frame : AgentFrame) :
    startReceived cfg frame ≠ .accepting ∧ startReceived cfg frame ≠ .receivingStart := by
  rcases startReceived_cases cfg frame with ⟨result, heq, -⟩ | ⟨m, heq, -⟩ <;> simp [heq]

/-- What a handshake checks is the start message that it has received. -/
theorem startReceived_startMessage {frame : AgentFrame} {m : EtRStartMessage}
    (h : startReceived cfg frame = .checking m ∨
      ∃ n pc, startReceived cfg frame = .evicting m n pc) : frame.startMessage? = some m := by
  rcases startReceived_cases cfg frame with ⟨result, heq, -⟩ | ⟨m', heq, hm'⟩
  · simp [heq] at h
  · obtain rfl : m' = m := by simpa [heq] using h
    exact hm'

/-- A handshake that has returned or raised stays so. -/
theorem handshake_finished (h : RelayRule cfg s e s') {W : AgentSocket}
    {result : Except Exc (Option AgentId)} (hW : s.handshake W = some (.finished result)) :
    s'.handshake W = some (.finished result) := by
  have hrun : ∀ o, e ≠ .run (.handshake W) o := by
    rintro o rfl
    cases h with
    | handshake hpc h =>
      obtain rfl := Option.some.inj (hW.symm.trans hpc)
      cases h with
      | ends _ hpc' => exact hpc' _ rfl
  have hconn : e ≠ .agentConnects W := by
    rintro rfl
    cases h with
    | agentConnects hnone =>
      rw [hW] at hnone
      cases hnone
  rw [handshake_frame h hrun hconn]
  exact hW

/-- The start message of a websocket stays the same. -/
theorem startMessage?_evolves {r r' : NetworkRelay} (h : Evolves r r') {W : AgentSocket}
    {m : EtRStartMessage} (hm : r.startMessage? W = some m) : r'.startMessage? W = some m := by
  obtain ⟨rest, hrest⟩ := h.agent_sent W
  unfold startMessage? at hm ⊢
  rw [← hrest]
  cases hsent : r.agent_sent W with
  | nil =>
    rw [hsent] at hm
    cases hm
  | cons frame frames =>
    rw [hsent] at hm
    exact hm

/-! ## New connection objects -/

/-- A connection that is not known stays so where the connections are not touched. -/
theorem Untouched.connection_none {r r' : NetworkRelay} (h : Untouched r r') {c : ConnectionId}
    (hc : r.connection c = none) : r'.connection c = none := by
  have hcontent := h.content c
  rw [hc, Option.map_none, Option.map_eq_none_iff] at hcontent
  exact hcontent

/-- A connection object is made for a registered agent, with the flag that is stored for its id. -/
def MadeFor (s : RelayState) (connection : TcpConnection) : Prop :=
  ∃ n, s.relay.registered_agent_connections n = some connection.agent_connection ∧
    connection.agent_supports_binary =
      (s.relay.agent_connection_id_to_supports_binary n).getD false

/-- A new connection object, and the create call that has made it. -/
def NewlyMade (s s' : RelayState) (c : ConnectionId) (connection : TcpConnection) : Prop :=
  MadeFor s connection ∧ ∃ pc, s'.pending? connection.creator = some pc ∧ pc.connection_id = c

/-- A connection that is created has the registered websocket of its request. -/
theorem connection_of_publish {r' : NetworkRelay} {t : Task} {c c₁ : ConnectionId}
    {connection : TcpConnection} {request : ConnectionRequest} {ws : AgentSocket}
    {send : LockedSend}
    (hreg : s.relay.registered_agent_connections request.agent_connection_id = some ws)
    (same : (s.relay.publish c₁ (newConnection s.relay t request ws)).SameButSends r')
    (hnone : s.relay.connection c = none) (hc : r'.connection c = some connection)
    (hpc : s'.pending? t = some ⟨request, c₁, ws, .sending send⟩) :
    NewlyMade s s' c connection := by
  rw [same.connection] at hc
  by_cases hcc : c = c₁
  · subst hcc
    obtain rfl : newConnection s.relay t request ws = connection := by simpa using hc
    exact ⟨⟨request.agent_connection_id, hreg, rfl⟩, _, hpc, rfl⟩
  · simp [hcc, hnone] at hc

/-- A connection object that is new after a step. -/
theorem connection_new (h : RelayRule cfg s e s') {c : ConnectionId} {connection : TcpConnection}
    (hnone : s.relay.connection c = none) (hc : s'.relay.connection c = some connection) :
    NewlyMade s s' c connection := by
  have hstays : ∀ {r' : NetworkRelay}, r'.connection c = none → r'.connection c ≠ some connection :=
    by
      intro r' h
      rw [h]
      simp
  have hmodify : ∀ {c₁ : ConnectionId} {f : TcpConnection → TcpConnection},
      (s.relay.modifyConnection c₁ f).connection c = none := by
    intro c₁ f
    by_cases hcc : c = c₁
    · subst hcc
      simp [hnone]
    · simp [hcc, hnone]
  -- Two steps make an object: the create call of a user and that of a session.
  cases h with
  | @create k request c₁ ws r' send _ _ hreg same =>
    have hpc : ((s.withRelay r').setCall k (.creating ⟨request, c₁, ws, .sending send⟩)).pending?
        (.call k) = some ⟨request, c₁, ws, .sending send⟩ := by
      simp [pending?]
    exact connection_of_publish hreg same hnone hc hpc
  | handshake _ h => exact absurd hc (hstays (h.untouched.connection_none hnone))
  | keepAlive _ h => exact absurd hc (hstays ((congrFun h.same.connection c).trans hnone))
  | msgLoop _ h =>
    cases h with
    | disconnects _ h => exact absurd hc (hstays (h.untouched.connection_none hnone))
    | receives _ h =>
      cases h with
      | fills => exact absurd hc (hstays hmodify)
      | resets _ _ _ _ same => exact absurd hc (hstays ((congrFun same.connection c).trans hnone))
      | stops | ignores | schedules | answers | blocks | custom => exact absurd hc (hstays hnone)
    | resetting _ h => exact absurd hc (hstays (h.untouched.connection_none hnone))
    | tearingDown h => exact absurd hc (hstays (h.untouched.connection_none hnone))
    | receiveFails | puts | customHandled => exact absurd hc (hstays hnone)
  | client _ h =>
    cases h with
    | opens _ hreg _ same =>
      exact connection_of_publish hreg same hnone hc (pending_setClient _ _ _)
    | @creating _ _ _ r' res h =>
      have hcreate : r'.connection c = none := (congrFun h.frame.connection c).trans hnone
      cases res with
      | parked _ | returned _ => exact absurd hc (hstays hcreate)
      | raised e => cases e <;> exact absurd hc (hstays hcreate)
    | disconnects _ _ same =>
      have hdrop := (Untouched.drop s.relay ‹ConnectionId›).connection_none hnone
      exact absurd hc (hstays ((congrFun same.connection c).trans hdrop))
    | ignores =>
      rw [(continueLoop_same s _ _ _).connection] at hc
      exact absurd hc (hstays hnone)
    | forwards _ _ h | forwarding _ h =>
      rw [(forwarded_same h.same _ _ _ _ _).connection] at hc
      exact absurd hc (hstays hnone)
    | @closing _ _ _ _ r' res _ h =>
      have hclose := h.untouched.connection_none hnone
      cases res <;> exact absurd hc (hstays hclose)
    | advances | refuses | unregistered | starts | startFails | receiveFails | malformed
    | clientClosed | closeFails | joined | cancels => exact absurd hc (hstays hnone)
  | reader _ hconn h =>
    cases h with
    | sends => exact absurd hc (hstays hmodify)
    | parks => exact absurd hc (hstays hmodify)
    | ends => exact absurd hc (hstays ((Untouched.drop _ _).connection_none hmodify))
    | dies => exact absurd hc (hstays hnone)
  | call _ h => exact absurd hc (hstays ((congrFun h.frame.connection c).trans hnone))
  | closes _ same => exact absurd hc (hstays ((congrFun same.connection c).trans hnone))
  | closing _ h => exact absurd hc (hstays (h.untouched.connection_none hnone))
  | send => exact absurd hc (hstays hmodify)
  | sends _ _ h => exact absurd hc (hstays ((congrFun h.same.connection c).trans hmodify))
  | sending _ _ h => exact absurd hc (hstays ((congrFun h.same.connection c).trans hnone))
  | agentConnects | agentSends | agentDies | clientConnects | createFails | close =>
    exact absurd hc (hstays hnone)

/-- The registry is not changed by a step that makes a connection object. -/
theorem registry_of_new (h : RelayRule cfg s e s') {c : ConnectionId} {connection : TcpConnection}
    (hnone : s.relay.connection c = none) (hc : s'.relay.connection c = some connection) :
    s'.relay.toAgentRegistry = s.relay.toAgentRegistry := by
  have hstays : ∀ {r' : NetworkRelay}, Untouched s.relay r' →
      r'.connection c ≠ some connection := by
    intro r' h
    rw [h.connection_none hnone]
    simp
  refine registry_frame h ?_ ?_
  · rintro W o rfl
    cases h with
    | handshake _ h => exact hstays h.untouched hc
  · rintro W o rfl
    cases h with
    | msgLoop _ h =>
      cases h with
      | disconnects _ h => exact hstays h.untouched hc
      | receives _ h =>
        cases h with
        | @fills c₁ data =>
          -- Data is filled into an object that is there already, which is not the new one.
          by_cases hcc : c = c₁
          · subst hcc
            simp [hnone] at hc
          · simp [hcc, hnone] at hc
        | resets _ _ _ _ same =>
          have hc₁ : s.relay.connection c = some connection :=
            (congrFun same.connection c).symm.trans hc
          rw [hnone] at hc₁
          cases hc₁
        | stops | ignores | schedules | answers | blocks | custom =>
          have hc₁ : s.relay.connection c = some connection := hc
          rw [hnone] at hc₁
          cases hc₁
      | resetting _ h => exact hstays h.untouched hc
      | tearingDown h => exact hstays h.untouched hc
      | receiveFails | puts | customHandled =>
        have hc₁ : s.relay.connection c = some connection := hc
        rw [hnone] at hc₁
        cases hc₁

/-! ## The invariant in every run -/

/-- A handshake that has been accepted does not go back. -/
theorem handshake_accepted (h : RelayRule cfg s e s') {W : AgentSocket} {pc : Handshake}
    (hW : s.handshake W = some pc) (hpc : pc ≠ .accepting) :
    ∃ pc', s'.handshake W = some pc' ∧ pc' ≠ .accepting := by
  -- The handshake moves itself on.
  by_cases hrun : ∃ o, e = .run (.handshake W) o
  · obtain ⟨o, rfl⟩ := hrun
    cases h with
    | handshake _ h =>
      cases h.moved with
      | accepted _ hpc' => exact ⟨_, hpc', by simp⟩
      | @received frame _ _ _ hpc' => exact ⟨_, hpc', startReceived_ne cfg frame⟩
      | left pc' hpc' hleft =>
        refine ⟨pc', hpc', ?_⟩
        rcases hleft with rfl | ⟨_, rfl, -⟩ <;> simp
      | evicts _ _ _ _ hpc' => exact ⟨_, hpc', by simp⟩
      | opened _ _ _ _ hpc' => exact ⟨_, hpc', by simp⟩
  · have hconn : e ≠ .agentConnects W := by
      rintro rfl
      -- A websocket that connects has had no handshake before.
      cases h with
      | agentConnects hnone =>
        rw [hW] at hnone
        cases hnone
    have hsame := handshake_frame h (fun o he => hrun ⟨o, he⟩) hconn
    exact ⟨pc, hsame.trans hW, hpc⟩

namespace RegistryInv

/-- At the start there is no agent. -/
theorem initial : RegistryInv {} where
  registered _ _ h := by cases h
  msgLoop _ _ h := by cases h
  connection _ _ h := by cases h
  listed _ h := by cases h
  nodup := List.nodup_nil
  unread _ _ := rfl
  inbox _ := List.suffix_rfl
  startMessage _ _ h := by rcases h with h | ⟨_, _, h⟩ <;> cases h
  started _ _ h := by cases h

/-- An agent that is registered has sent its start message. -/
theorem started_step (hI : RegistryInv s) (h : RelayRule cfg s e s') {W : AgentSocket} {n : AgentId}
    (hW : s'.handshake W = some (.finished (.ok (some n)))) :
    ∃ m, s'.relay.startMessage? W = some m := by
  -- What a websocket has sent first stays the first.
  have hold : (∃ m, s.relay.startMessage? W = some m) → ∃ m, s'.relay.startMessage? W = some m :=
    Exists.imp fun m => startMessage?_evolves h.evolves
  by_cases hrun : ∃ o, e = .run (.handshake W) o
  · obtain ⟨o, rfl⟩ := hrun
    cases h with
    | handshake hpc h =>
      cases h.moved with
      | accepted _ hpc' => simp [hpc'] at hW
      | @received frame _ _ _ hpc' =>
        rw [hpc', Option.some.injEq] at hW
        rcases startReceived_cases cfg frame with ⟨result, heq, hres⟩ | ⟨m, heq, -⟩
        · rw [heq, Handshake.finished.injEq] at hW
          exact absurd hW (hres n)
        · simp [heq] at hW
      | left pc' hpc' hleft =>
        rw [hpc', Option.some.injEq] at hW
        subst hW
        rcases hleft with hleft | ⟨result, heq, hres⟩
        · cases hleft
        · exact absurd (Handshake.finished.inj heq).symm (hres n)
      | evicts _ _ _ _ hpc' => simp [hpc'] at hW
      | opened _ m _ hpc₀ =>
        refine hold ⟨m, hI.startMessage W m ?_⟩
        rcases hpc₀ with rfl | ⟨t, rfl⟩
        · exact .inl hpc
        · exact .inr ⟨_, t, hpc⟩
  · by_cases hconn : e = .agentConnects W
    · subst hconn
      cases h
      simp at hW
    · rw [handshake_frame h (fun o he => hrun ⟨o, he⟩) hconn] at hW
      exact hold (hI.started W n hW)

/-- The websocket of a connection has been registered. -/
theorem connection_step (hI : RegistryInv s) (h : RelayRule cfg s e s') {c : ConnectionId}
    {connection : TcpConnection} (hc : s'.relay.connection c = some connection) :
    ∃ n, s'.handshake connection.agent_connection = some (.finished (.ok (some n))) := by
  cases hold : s.relay.connection c with
  | none =>
    obtain ⟨⟨n, hreg, -⟩, -⟩ := connection_new h hold hc
    exact ⟨n, handshake_finished h (hI.registered n _ hreg)⟩
  | some connection₀ =>
    obtain ⟨connection₁, hc₁, hid⟩ := h.evolves.connection c connection₀ hold
    obtain rfl := Option.some.inj (hc₁.symm.trans hc)
    simp only [TcpConnection.identity, Prod.mk.injEq] at hid
    obtain ⟨n, hn⟩ := hI.connection c connection₀ hold
    exact ⟨n, by rw [hid.2.1]; exact handshake_finished h hn⟩

/-- What a step that does not extend the registry leaves of the first fields. -/
theorem of_shrinks (hI : RegistryInv s) (h : RelayRule cfg s e s')
    (hreg : Shrinks s.relay.toAgentRegistry s'.relay.toAgentRegistry) :
    (∀ n W, s'.relay.registered_agent_connections n = some W →
      s'.handshake W = some (.finished (.ok (some n)))) ∧
    (∀ W ∈ s'.relay.agent_connections, ∃ pc, s'.handshake W = some pc ∧ pc ≠ .accepting) ∧
    s'.relay.agent_connections.Nodup := by
  refine ⟨fun n W hn => ?_, fun W hW => ?_, hreg.2.nodup hI.nodup⟩
  · exact handshake_finished h (hI.registered n W (hreg.1 n W hn))
  · obtain ⟨pc, hpc, hne⟩ := hI.listed W (hreg.2.subset hW)
    exact handshake_accepted h hpc hne

/-- Message loops that a step leaves alone stay behind finished handshakes. -/
theorem msgLoop_kept (hI : RegistryInv s) (h : RelayRule cfg s e s') {W : AgentSocket}
    {task : MsgLoopTask} (hloop : s'.msgLoop W = s.msgLoop W) (htask : s'.msgLoop W = some task) :
    s'.handshake W = some (.finished (.ok (some task.connection_id))) := by
  rw [hloop] at htask
  exact handshake_finished h (hI.msgLoop W task htask)

/-! ### The step of a handshake -/

section

variable {W₀ : AgentSocket} {o : Outcome} {pc : Handshake} (hI : RegistryInv s)
  (h : RelayRule cfg s (.run (.handshake W₀) o) s')

include h in
/-- The handshakes of other websockets stay where they are. -/
theorem handshake_other {W : AgentSocket} (hW : W ≠ W₀) : s'.handshake W = s.handshake W := by
  refine handshake_frame h ?_ (by simp)
  rintro o' ⟨⟩
  exact hW rfl

include hI h

/-- The inboxes of other websockets are as unread as they were. -/
theorem unread_kept (hagents : s'.relay.toAgentSide = s.relay.toAgentSide)
    (hown : s'.handshake W₀ = none ∨ s'.handshake W₀ = some .accepting ∨
      s'.handshake W₀ = some .receivingStart → s.relay.inbox W₀ = s.relay.agent_sent W₀)
    (W : AgentSocket) (hW : s'.handshake W = none ∨ s'.handshake W = some .accepting ∨
      s'.handshake W = some .receivingStart) : s'.relay.inbox W = s'.relay.agent_sent W := by
  rw [hagents]
  by_cases hWW : W = W₀
  · subst hWW
    exact hown hW
  · rw [handshake_other h hWW] at hW
    exact hI.unread W hW

/-- The start messages of other websockets are as they were. -/
theorem startMessage_kept (hsent : s'.relay.agent_sent = s.relay.agent_sent)
    (hown : ∀ m, (s'.handshake W₀ = some (.checking m) ∨
      ∃ n pc, s'.handshake W₀ = some (.evicting m n pc)) → s.relay.startMessage? W₀ = some m)
    (W : AgentSocket) (m : EtRStartMessage) (hW : s'.handshake W = some (.checking m) ∨
      ∃ n pc, s'.handshake W = some (.evicting m n pc)) : s'.relay.startMessage? W = some m := by
  have hsame : s'.relay.startMessage? W = s.relay.startMessage? W := by
    simp only [startMessage?, hsent]
  rw [hsame]
  by_cases hWW : W = W₀
  · subst hWW
    exact hown m hW
  · rw [handshake_other h hWW] at hW
    exact hI.startMessage W m hW

/-- The websocket of a handshake that is accepted enters the list, where it was not yet. -/
theorem accepted_step (hpc : s.handshake W₀ = some .accepting)
    (hpc' : s'.handshake W₀ = some .receivingStart)
    (hreg : s'.relay.toAgentRegistry = (s.relay.appendAgent W₀).toAgentRegistry)
    (hagents : s'.relay.toAgentSide = s.relay.toAgentSide) (hloop : s'.msgLoop = s.msgLoop) :
    RegistryInv s' := by
  -- A listed websocket is past its accept, so it is not listed twice.
  have hnew : W₀ ∉ s.relay.agent_connections := by
    intro hmem
    obtain ⟨pc, hpc₁, hne⟩ := hI.listed W₀ hmem
    exact hne (Option.some.inj (hpc₁.symm.trans hpc))
  have hlist : s'.relay.agent_connections = s.relay.agent_connections ++ [W₀] :=
    congrArg AgentRegistry.agent_connections hreg
  have hregistered : s'.relay.registered_agent_connections =
      s.relay.registered_agent_connections := by
    rw [hreg]
    rfl
  exact {
    registered := fun n W hn => by
      rw [hregistered] at hn
      exact handshake_finished h (hI.registered n W hn)
    msgLoop := fun W task => hI.msgLoop_kept h (congrFun hloop W)
    connection := fun c connection => hI.connection_step h
    listed := fun W hW => by
      rw [hlist, List.mem_append, List.mem_singleton] at hW
      rcases hW with hW | rfl
      · obtain ⟨pc, hpc₁, hne⟩ := hI.listed W hW
        exact handshake_accepted h hpc₁ hne
      · exact ⟨_, hpc', by simp⟩
    nodup := by
      rw [hlist]
      exact hI.nodup.append (List.nodup_singleton W₀) (by simpa using hnew)
    unread := hI.unread_kept h hagents fun _ => hI.unread W₀ (.inr (.inl hpc))
    inbox := by
      rw [hagents]
      exact hI.inbox
    startMessage := hI.startMessage_kept h (by rw [hagents]) fun m hm => by simp [hpc'] at hm
    started := fun W n => hI.started_step h }

/-- A handshake that takes the first frame has not read before, so that this frame is what its
agent has sent first. -/
theorem received_step {frame : AgentFrame} {rest : List AgentFrame}
    (hpc : s.handshake W₀ = some .receivingStart) (hin : s.relay.inbox W₀ = frame :: rest)
    (hpc' : s'.handshake W₀ = some (startReceived cfg frame))
    (hreg : s'.relay.toAgentRegistry = s.relay.toAgentRegistry)
    (hagents : s'.relay.toAgentSide = (s.relay.setInbox W₀ rest).toAgentSide)
    (hloop : s'.msgLoop = s.msgLoop) : RegistryInv s' := by
  -- Nothing has been taken from the websocket yet.
  have hall : s.relay.inbox W₀ = s.relay.agent_sent W₀ := hI.unread W₀ (.inr (.inr hpc))
  have hinbox : s'.relay.inbox = Function.update s.relay.inbox W₀ rest :=
    congrArg AgentSide.inbox hagents
  have hsent : s'.relay.agent_sent = s.relay.agent_sent := by
    rw [hagents]
    rfl
  have hshrinks : Shrinks s.relay.toAgentRegistry s'.relay.toAgentRegistry := by
    rw [hreg]
    exact .refl _
  obtain ⟨hregistered, hlisted, hnodup⟩ := hI.of_shrinks h hshrinks
  exact {
    registered := hregistered
    msgLoop := fun W task => hI.msgLoop_kept h (congrFun hloop W)
    connection := fun c connection => hI.connection_step h
    listed := hlisted
    nodup := hnodup
    unread := fun W hW => by
      -- The handshake that has taken the frame is past its receive.
      have hWW : W ≠ W₀ := by
        rintro rfl
        have hnot := startReceived_reads cfg frame
        rw [hpc'] at hW
        simp [hnot] at hW
      rw [hinbox, hsent, Function.update_of_ne hWW]
      rw [handshake_other h hWW] at hW
      exact hI.unread W hW
    inbox := fun W => by
      rw [hinbox, hsent]
      by_cases hWW : W = W₀
      · subst hWW
        rw [Function.update_self, ← hall, hin]
        exact List.suffix_cons _ _
      · rw [Function.update_of_ne hWW]
        exact hI.inbox W
    startMessage := hI.startMessage_kept h hsent fun m hm => by
      rw [hpc'] at hm
      have hframe : frame.startMessage? = some m := startReceived_startMessage (by simpa using hm)
      rw [startMessage?, ← hall, hin]
      exact hframe
    started := fun W n => hI.started_step h }

/-- A handshake that is at none of the points of the invariant after its step. -/
theorem left_step {pc' : Handshake} (hpc' : s'.handshake W₀ = some pc')
    (hleft : pc' = .refusing ∨ ∃ result, pc' = .finished result ∧ ∀ n, result ≠ .ok (some n))
    (hreg : Shrinks s.relay.toAgentRegistry s'.relay.toAgentRegistry)
    (hagents : s'.relay.toAgentSide = s.relay.toAgentSide) (hloop : s'.msgLoop = s.msgLoop) :
    RegistryInv s' := by
  obtain ⟨hregistered, hlisted, hnodup⟩ := hI.of_shrinks h hreg
  have hpoint : pc' ≠ .accepting ∧ pc' ≠ .receivingStart ∧ (∀ m, pc' ≠ .checking m) ∧
      ∀ m n t, pc' ≠ .evicting m n t := by
    rcases hleft with rfl | ⟨_, rfl, -⟩ <;> simp
  exact {
    registered := hregistered
    msgLoop := fun W task => hI.msgLoop_kept h (congrFun hloop W)
    connection := fun c connection => hI.connection_step h
    listed := hlisted
    nodup := hnodup
    unread := hI.unread_kept h hagents fun hW => by simp [hpc', hpoint] at hW
    inbox := by
      rw [hagents]
      exact hI.inbox
    startMessage := hI.startMessage_kept h (by rw [hagents]) fun m hm => by
      simp [hpc', hpoint] at hm
    started := fun W n => hI.started_step h }

/-- A handshake that evicts keeps its start message. -/
theorem evicts_step {m : EtRStartMessage} {n : AgentId} {t : EdgeAgentConnectionClose}
    (hpc : s.handshake W₀ = some pc) (hpc₀ : pc = .checking m ∨ ∃ t, pc = .evicting m n t)
    (hpc' : s'.handshake W₀ = some (.evicting m n t))
    (hreg : Shrinks s.relay.toAgentRegistry s'.relay.toAgentRegistry)
    (hagents : s'.relay.toAgentSide = s.relay.toAgentSide) (hloop : s'.msgLoop = s.msgLoop) :
    RegistryInv s' := by
  obtain ⟨hregistered, hlisted, hnodup⟩ := hI.of_shrinks h hreg
  have hmessage : s.relay.startMessage? W₀ = some m := by
    rcases hpc₀ with rfl | ⟨t, rfl⟩
    · exact hI.startMessage W₀ m (.inl hpc)
    · exact hI.startMessage W₀ m (.inr ⟨n, t, hpc⟩)
  exact {
    registered := hregistered
    msgLoop := fun W task => hI.msgLoop_kept h (congrFun hloop W)
    connection := fun c connection => hI.connection_step h
    listed := hlisted
    nodup := hnodup
    unread := hI.unread_kept h hagents fun hW => by simp [hpc'] at hW
    inbox := by
      rw [hagents]
      exact hI.inbox
    startMessage := hI.startMessage_kept h (by rw [hagents]) fun m' hm => by
      obtain rfl : m = m' := by simpa [hpc'] using hm
      exact hmessage
    started := fun W n => hI.started_step h }

/-- The websocket of a handshake that returns an id is registered under it, and has its message
loop. -/
theorem opened_step {r : NetworkRelay} {n : AgentId}
    (hpc' : s'.handshake W₀ = some (.finished (.ok (some n))))
    (hreg : Shrinks s.relay.toAgentRegistry r.toAgentRegistry)
    (hopen : s'.relay = r.edge_agent_connection_open n W₀)
    (hagents : s'.relay.toAgentSide = s.relay.toAgentSide)
    (hloop : s'.msgLoop = Function.update s.msgLoop W₀ (some ⟨n, .receiving⟩)) :
    RegistryInv s' := by
  have hregistered : s'.relay.registered_agent_connections =
      Function.update r.registered_agent_connections n (some W₀) := by
    rw [hopen]
    rfl
  have hlist : s'.relay.agent_connections = r.agent_connections := by
    rw [hopen]
    rfl
  exact {
    registered := fun n' W hn => by
      rw [hregistered] at hn
      -- The websocket is registered under the id now; the other ids are as before.
      by_cases hnn : n' = n
      · subst hnn
        obtain rfl : W₀ = W := by simpa using hn
        exact hpc'
      · rw [Function.update_of_ne hnn] at hn
        exact handshake_finished h (hI.registered n' W (hreg.1 n' W hn))
    msgLoop := fun W task htask => by
      by_cases hWW : W = W₀
      · subst hWW
        -- The message loop has just been created.
        obtain rfl : ⟨n, .receiving⟩ = task := by simpa [hloop] using htask
        exact hpc'
      · refine hI.msgLoop_kept h ?_ htask
        rw [hloop, Function.update_of_ne hWW]
    connection := fun c connection => hI.connection_step h
    listed := fun W hW => by
      rw [hlist] at hW
      obtain ⟨pc, hpc₁, hne⟩ := hI.listed W (hreg.2.subset hW)
      exact handshake_accepted h hpc₁ hne
    nodup := by
      rw [hlist]
      exact hreg.2.nodup hI.nodup
    unread := hI.unread_kept h hagents fun hW => by simp [hpc'] at hW
    inbox := by
      rw [hagents]
      exact hI.inbox
    startMessage := hI.startMessage_kept h (by rw [hagents]) fun m hm => by simp [hpc'] at hm
    started := fun W n => hI.started_step h }

/-- Every step of a handshake preserves the invariant. -/
theorem handshake_step : RegistryInv s' := by
  have hstep := h
  cases hstep with
  | handshake hpc hrule =>
    cases hrule.moved with
    | accepted hpc₀ hpc' hreg hagents hloop =>
      subst hpc₀
      exact hI.accepted_step h hpc hpc' hreg hagents hloop
    | received hpc₀ hin hpc' hreg hagents hloop =>
      subst hpc₀
      exact hI.received_step h hpc hin hpc' hreg hagents hloop
    | left _ hpc' hleft hreg hagents hloop => exact hI.left_step h hpc' hleft hreg hagents hloop
    | evicts _ _ _ hpc₀ hpc' hreg hagents hloop =>
      exact hI.evicts_step h hpc hpc₀ hpc' hreg hagents hloop
    | opened _ _ _ _ hpc' hreg hopen hagents hloop =>
      exact hI.opened_step h hpc' hreg hopen hagents hloop

end

/-! ### The other steps -/

/-- A step of a message loop keeps the registry. -/
theorem msgLoop_step (hI : RegistryInv s) {W₀ : AgentSocket} {o : Outcome}
    (h : RelayRule cfg s (.run (.msgLoop W₀) o) s') : RegistryInv s' := by
  have hconn : ∀ c connection, s'.relay.connection c = some connection → _ :=
    fun _ _ => hI.connection_step h
  have hstarted : ∀ W n, s'.handshake W = some (.finished (.ok (some n))) → _ :=
    fun _ _ => hI.started_step h
  cases h with
  | @msgLoop _ n pc _ _ hpc hrule =>
    have h : RelayRule cfg s (.run (.msgLoop W₀) o) s' := .msgLoop hpc hrule
    obtain ⟨hshake, hother, ⟨pc', hown⟩, hreg, hsent, hin⟩ := hrule.moved
    have hdone := hI.msgLoop W₀ _ hpc
    obtain ⟨hregistered, hlisted, hnodup⟩ := hI.of_shrinks h hreg
    refine ⟨hregistered, fun W task htask => ?_, hconn, hlisted, hnodup, fun W hW => ?_,
      fun W => ?_, fun W m hm => ?_, hstarted⟩
    -- The loop keeps its id, and the others are not moved.
    · rw [hshake]
      by_cases hWW : W = W₀
      · subst hWW
        obtain rfl := Option.some.inj (hown.symm.trans htask)
        exact hdone
      · rw [hother W hWW] at htask
        exact hI.msgLoop W task htask
    · rw [hshake] at hW
      -- A loop runs only after its handshake is over.
      have hWW : W ≠ W₀ := by
        rintro rfl
        simp [hdone] at hW
      have hin' : s'.relay.inbox W = s.relay.inbox W := by
        rcases hin with heq | ⟨_, _, -, heq⟩
        · rw [heq]
        · rw [heq, Function.update_of_ne hWW]
      rw [hin', hsent]
      exact hI.unread W hW
    · rw [hsent]
      rcases hin with heq | ⟨frame, rest, hframe, heq⟩
      · rw [heq]
        exact hI.inbox W
      · rw [heq]
        -- What is in flight is the rest of what was.
        by_cases hWW : W = W₀
        · subst hWW
          rw [Function.update_self]
          have hsuffix := hI.inbox W
          rw [hframe] at hsuffix
          exact (List.suffix_cons _ _).trans hsuffix
        · rw [Function.update_of_ne hWW]
          exact hI.inbox W
    · rw [hshake] at hm
      rw [startMessage?, hsent]
      exact hI.startMessage W m hm

/-- A websocket that connects keeps the registry. -/
theorem connects_step (hI : RegistryInv s) {W₀ : AgentSocket}
    (h : RelayRule cfg s (.agentConnects W₀) s') : RegistryInv s' := by
  have hconn : ∀ c connection, s'.relay.connection c = some connection → _ :=
    fun _ _ => hI.connection_step h
  have hstarted : ∀ W n, s'.handshake W = some (.finished (.ok (some n))) → _ :=
    fun _ _ => hI.started_step h
  have hregistry : s'.relay.toAgentRegistry = s.relay.toAgentRegistry :=
    registry_frame h (by simp) (by simp)
  have hshrinks : Shrinks s.relay.toAgentRegistry s'.relay.toAgentRegistry := by
    rw [hregistry]
    exact .refl _
  obtain ⟨hregistered, hlisted, hnodup⟩ := hI.of_shrinks h hshrinks
  have hmsg : ∀ W task, s'.msgLoop W = some task →
      s'.handshake W = some (.finished (.ok (some task.connection_id))) :=
    fun W task => hI.msgLoop_kept h (msgLoop_frame h (by simp) (by simp))
  cases h with
  | agentConnects hnone =>
    refine ⟨hregistered, hmsg, hconn, hlisted, hnodup, fun W hW => ?_, hI.inbox, fun W m hm => ?_,
      hstarted⟩
    -- Before it connects a websocket has no handshake, and nothing has been taken from it.
    · by_cases hWW : W = W₀
      · subst hWW
        exact hI.unread W (.inl hnone)
      · simp only [setHandshake, Function.update_of_ne hWW] at hW
        exact hI.unread W hW
    · by_cases hWW : W = W₀
      · subst hWW
        simp at hm
      · simp only [setHandshake, Function.update_of_ne hWW] at hm
        exact hI.startMessage W m hm

/-- A step that concerns no agent. -/
theorem other_step (hI : RegistryInv s) (h : RelayRule cfg s e s')
    (hconn : ∀ W, e ≠ .agentConnects W) (hshake : ∀ W o, e ≠ .run (.handshake W) o)
    (hloop : ∀ W o, e ≠ .run (.msgLoop W) o) : RegistryInv s' := by
  have hregistry : s'.relay.toAgentRegistry = s.relay.toAgentRegistry :=
    registry_frame h hshake hloop
  have hshrinks : Shrinks s.relay.toAgentRegistry s'.relay.toAgentRegistry := by
    rw [hregistry]
    exact .refl _
  have hpoint : ∀ W, s'.handshake W = s.handshake W :=
    fun W => handshake_frame h (hshake W) (hconn W)
  obtain ⟨hregistered, hlisted, hnodup⟩ := hI.of_shrinks h hshrinks
  refine ⟨hregistered, fun W task htask => ?_, fun c connection => hI.connection_step h, hlisted,
    hnodup, fun W hW => ?_, fun W => ?_, fun W m hm => ?_, fun W n => hI.started_step h⟩
  · rw [msgLoop_frame h (hshake W) (hloop W)] at htask
    exact handshake_finished h (hI.msgLoop W task htask)
  · rw [hpoint] at hW
    have hall := hI.unread W hW
    by_cases hsend : ∃ W' frame, e = .agentSends W' frame
    · obtain ⟨W', frame, rfl⟩ := hsend
      cases h with
      | agentSends =>
        by_cases hWW : W = W'
        · subst hWW
          simp [hall]
        · simp [hWW, hall]
    · by_cases hdie : ∃ W', e = .agentDies W'
      · obtain ⟨W', rfl⟩ := hdie
        cases h
        exact hall
      · have hsame := (agents_frame h (fun W' frame he => hsend ⟨W', frame, he⟩)
          (fun W' he => hdie ⟨W', he⟩) hshake hloop).2
        rw [hsame]
        exact hall
  · have hsuffix := hI.inbox W
    by_cases hsend : ∃ W' frame, e = .agentSends W' frame
    · obtain ⟨W', frame, rfl⟩ := hsend
      cases h with
      | agentSends =>
        by_cases hWW : W = W'
        · subst hWW
          obtain ⟨taken, htaken⟩ := hsuffix
          refine ⟨taken, ?_⟩
          simp [← htaken]
        · simpa [hWW] using hsuffix
    · by_cases hdie : ∃ W', e = .agentDies W'
      · obtain ⟨W', rfl⟩ := hdie
        cases h
        exact hsuffix
      · have hsame := (agents_frame h (fun W' frame he => hsend ⟨W', frame, he⟩)
          (fun W' he => hdie ⟨W', he⟩) hshake hloop).2
        rw [hsame]
        exact hsuffix
  · rw [hpoint] at hm
    exact startMessage?_evolves h.evolves (hI.startMessage W m hm)

/-- Every step keeps the invariant. -/
theorem preserved (hI : RegistryInv s) (h : RelayRule cfg s e s') : RegistryInv s' := by
  by_cases hconn : ∃ W, e = .agentConnects W
  · obtain ⟨W, rfl⟩ := hconn
    exact hI.connects_step h
  by_cases hshake : ∃ W o, e = .run (.handshake W) o
  · obtain ⟨W, o, rfl⟩ := hshake
    exact hI.handshake_step h
  by_cases hloop : ∃ W o, e = .run (.msgLoop W) o
  · obtain ⟨W, o, rfl⟩ := hloop
    exact hI.msgLoop_step h
  exact hI.other_step h (fun W he => hconn ⟨W, he⟩) (fun W o he => hshake ⟨W, o, he⟩)
    fun W o he => hloop ⟨W, o, he⟩

end RegistryInv

/-- The registry's invariant holds in every reachable state. -/
theorem registryInv {ok : RelayState → RelayEvent → Prop} (h : Reaches (step cfg) ok {} s) :
    RegistryInv s :=
  h.invariant .initial fun _ _ _ _ _ hstep hI => hI.preserved (step_rule hstep)

end HttpNetworkRelay
