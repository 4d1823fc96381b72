import HttpNetworkRelay.Relay.Serial

/-!
# Who gets keep-alive messages

An agent that does not know `keep_alive` fails on the first such message, and tells the relay so
when it connects again. `keep_alive_understood` says that this is enough: the task that sends them
is there for the websockets of those registered agents that have not complained, and no keep-alive
message is sent on any other.
-/

namespace HttpNetworkRelay

open Asyncio Python RelayState NetworkRelay

/-! ## Nobody else sends them -/

/-- At most one message is sent, and it is no keep-alive message. -/
abbrev SendsOther (r r' : NetworkRelay) : Prop := Sends (fun _ m => m ≠ .text .keepAlive) r r'

/-- The message of a close is no keep-alive message. -/
theorem closeMessage_ne_keepAlive (c : ConnectionId) : closeMessage c ≠ .text .keepAlive := by
  simp [closeMessage]

/-- The request for a connection is no keep-alive message. -/
theorem message_ne_keepAlive (request : ConnectionRequest) (c : ConnectionId) :
    request.message c ≠ .text .keepAlive := by
  simp [ConnectionRequest.message]

/-- Data is no keep-alive message. -/
theorem dataMessage_ne_keepAlive {connection : TcpConnection} {c : ConnectionId} {content : Bytes}
    {m : ToAgent} (h : connection.dataMessage c content = .ok m) : m ≠ .text .keepAlive := by
  unfold TcpConnection.dataMessage at h
  rintro rfl
  split at h
  · cases hframe : encode_tcp_binary_frame c content with
    | ok frame => simp [hframe, Except.map] at h
    | error e => simp [hframe, Except.map] at h
  · cases h

section

variable {r r' : NetworkRelay} {c : ConnectionId} {ws : AgentSocket} {o : Outcome}

/-- A step of a close sends no keep-alive message. -/
theorem CloseStep.sendsOther {pc : CloseRelayedConnection}
    {res : Res CloseRelayedConnection Unit Exc} (h : CloseStep r c ws pc o r' res) :
    SendsOther r r' := by
  refine h.emits.mono ?_
  rintro W m ⟨-, rfl, -⟩
  exact closeMessage_ne_keepAlive c

/-- A step of a teardown sends no keep-alive message. -/
theorem TeardownStep.sendsOther {pc : EdgeAgentConnectionClose}
    {res : Res EdgeAgentConnectionClose Unit Exc} (h : TeardownStep r pc o r' res) :
    SendsOther r r' := by
  refine h.emits.mono ?_
  rintro W m ⟨-, pc', send, -, -, rfl⟩
  exact closeMessage_ne_keepAlive pc'.current

/-- The start of a teardown sends no keep-alive message. -/
theorem TeardownStart.sendsOther {n : AgentId} {res : Res EdgeAgentConnectionClose Unit Exc}
    (h : TeardownStart r n r' res) : SendsOther r r' := by
  refine h.emits.mono ?_
  rintro W m ⟨pc', send, -, -, rfl⟩
  exact closeMessage_ne_keepAlive pc'.current

/-- A step of a create call sends no keep-alive message. -/
theorem CreateStep.sendsOther {cfg : RelayConfig} {pc : CreateConnection}
    {res : Res CreateConnection ConnectionId Exc} (h : CreateStep cfg r pc o r' res) :
    SendsOther r r' := by
  refine h.emits.mono ?_
  rintro W m ⟨-, rfl, -⟩
  exact message_ne_keepAlive pc.request pc.connection_id

end

variable {cfg : RelayConfig} {s s' : RelayState} {e : RelayEvent}

/-- What a task forwards is data. -/
theorem Framed.ne_keepAlive {c : ConnectionId} {m : ToAgent} (h : Framed s.relay c (.ok m)) :
    m ≠ .text .keepAlive := by
  obtain ⟨connection, content, -, hm⟩ := h
  exact dataMessage_ne_keepAlive hm.symm

/-- The forwarding by a session sends no keep-alive message. -/
theorem forwarded_sendsOther {A : ClientSocket} {c : ConnectionId} {agent : AgentSocket}
    {message : Except Exc ToAgent} {pc : Option LockedSend} {o : Outcome} {r' : NetworkRelay}
    {res : Res LockedSend Unit Exc} (h : SendStep s.relay agent message pc o r' res)
    (hm : ∀ m, message = .ok m → m ≠ .text .keepAlive) :
    SendsOther s.relay (s.forwarded A c agent message (r', res)).relay := by
  refine (forwarded_sends h).mono ?_
  rintro W m ⟨-, ⟨heq, -⟩ | ⟨rfl, -⟩⟩
  · exact hm m heq
  · exact closeMessage_ne_keepAlive c

/-- A step of a session sends no keep-alive message. -/
theorem ClientRule.sendsOther {A : ClientSocket} {pc : Client} {o : Outcome} (hO : Outgoing s)
    (hpc : s.client A = some pc) (h : ClientRule cfg s A pc o s') :
    SendsOther s.relay s'.relay := by
  cases h with
  | opens _ _ _ _ hsend =>
    refine (hsend.emits.mono ?_).congr rfl
    rintro W m ⟨-, rfl, -⟩
    exact message_ne_keepAlive _ _
  | @creating binary pc _ r' res h =>
    cases res with
    | parked _ | returned _ => exact h.sendsOther
    | raised e => cases e <;> exact h.sendsOther
  | @disconnects c _ _ _ _ _ _ _ hsend =>
    refine (hsend.emits.mono ?_).congr rfl
    rintro W m ⟨-, rfl, -⟩
    exact closeMessage_ne_keepAlive c
  | @ignores c =>
    refine (continueLoop_sends s A _ _).mono ?_
    rintro W m ⟨-, rfl, -⟩
    exact closeMessage_ne_keepAlive c
  | forwards _ _ h => exact forwarded_sendsOther h fun m hm => dataMessage_ne_keepAlive hm
  | @forwarding c connection message send _ _ _ _ h =>
    refine forwarded_sendsOther h ?_
    rintro m rfl
    exact (hO.forwarding A c _ _ hpc).ne_keepAlive
  | @closing c _ _ _ r' res _ h => cases res <;> exact h.sendsOther
  | advances | refuses | unregistered | starts | startFails | receiveFails | malformed
  | clientClosed | closeFails | joined | cancels => exact .of_eq rfl

/-- A step that is none of a `keep_alive` task sends no keep-alive message. -/
theorem sendsOther_of_rule (hO : Outgoing s) (h : RelayRule cfg s e s')
    (halive : ∀ W o, e ≠ .run (.keepAlive W) o) : SendsOther s.relay s'.relay := by
  cases h with
  | create _ _ _ _ hsend =>
    refine (hsend.emits.mono ?_).congr rfl
    rintro W m ⟨-, rfl, -⟩
    exact message_ne_keepAlive _ _
  | handshake _ h =>
    cases h with
    | evicts _ _ _ _ h =>
      exact (Sends.congr h.sendsOther rfl).congr_right (evicted_to_agent _ _ _ _ _ _)
    | evicting h => exact h.sendsOther.congr_right (evicted_to_agent _ _ _ _ _ _)
    | accepts | receives | refuses | opens | duplicate | noAttribute | ends => exact .of_eq rfl
  | keepAlive => exact absurd rfl (halive _ _)
  | msgLoop _ h =>
    cases h with
    | disconnects _ h => exact h.sendsOther
    | receives _ h =>
      cases h with
      | @resets _ _ c _ _ _ _ _ _ hsend =>
        refine (hsend.emits.mono ?_).congr rfl
        rintro W m ⟨-, rfl, -⟩
        exact closeMessage_ne_keepAlive _
      | stops | ignores | fills | schedules | answers | blocks | custom => exact .of_eq rfl
    | resetting _ h => exact h.sendsOther
    | tearingDown h => exact h.sendsOther
    | receiveFails | puts | customHandled => exact .of_eq rfl
  | client hpc h => exact h.sendsOther hO hpc
  | reader _ _ h =>
    cases h with
    | sends | parks | ends | dies => exact .of_eq rfl
  | call hpc h => exact h.sendsOther
  | closes _ _ hsend =>
    refine hsend.emits.mono ?_
    rintro W m ⟨-, rfl, -⟩
    exact closeMessage_ne_keepAlive _
  | closing _ h => exact h.sendsOther
  | sends _ _ h =>
    refine (h.emits.congr rfl).mono ?_
    rintro W m ⟨-, hm, -⟩
    exact dataMessage_ne_keepAlive hm
  | @sending k c _ _ _ _ _ _ hpc _ h =>
    refine h.emits.mono ?_
    rintro W m ⟨-, rfl, -⟩
    exact (hO.sender k c _ _ hpc).ne_keepAlive
  | agentConnects | agentSends | agentDies | clientConnects | createFails | close | send =>
    exact .of_eq rfl

/-- A keep-alive message comes from the task of its websocket. -/
theorem keepAlive_sent (hO : Outgoing s) (h : RelayRule cfg s e s') {W : AgentSocket}
    (hsent : .text .keepAlive ∈ s'.relay.to_agent W) :
    .text .keepAlive ∈ s.relay.to_agent W ∨ ∃ pc, s.keepAlive W = some pc := by
  by_cases halive : ∃ W₀ o, e = .run (.keepAlive W₀) o
  · obtain ⟨W₀, o, rfl⟩ := halive
    have hto : ∀ r' res, (s.keepAliveSent W₀ (r', res)).relay = r' := by
      intro r' res
      cases res <;> rfl
    cases h with
    | keepAlive hpc h =>
      have hown : Sends (fun W _ => W = W₀) s.relay s'.relay := by
        cases h with
        | sends h | sending h =>
          rw [hto]
          exact h.emits.mono fun W m hW => hW.1
        | stops => exact .of_eq rfl
      rcases hown.mem hsent with hold | rfl
      · exact .inl hold
      · exact .inr ⟨_, hpc⟩
  · have hother := sendsOther_of_rule hO h fun W₀ o he => halive ⟨W₀, o, he⟩
    rcases hother.mem hsent with hold | hne
    · exact .inl hold
    · exact absurd rfl hne

/-! ## Who has the task -/

/-- A `keep_alive` task does not go away, and comes with the registration of its websocket. -/
theorem keepAlive_stays (h : RelayRule cfg s e s') {W : AgentSocket} (hW : Opened s W) :
    (s'.keepAlive W).isSome = (s.keepAlive W).isSome := by
  by_cases hrun : ∃ o, e = .run (.keepAlive W) o
  · obtain ⟨o, rfl⟩ := hrun
    cases h with
    | @keepAlive _ pc _ _ hpc h =>
      have hset : ∀ r' res, ((s.keepAliveSent W (r', res)).keepAlive W).isSome = true := by
        intro r' res
        cases res <;> simp [keepAliveSent]
      rw [hpc]
      cases h with
      | sends h | sending h => exact hset _ _
      | stops => simp
  · rw [keepAlive_frame h ?_ fun o he => hrun ⟨o, he⟩]
    rintro o rfl
    exact not_opened_of_run h hW

/-- A websocket is registered by its handshake. -/
theorem opened_of_step (h : RelayRule cfg s e s') {W : AgentSocket} (hopen : Opened s' W) :
    Opened s W ∨ ∃ o, e = .run (.handshake W) o := by
  by_cases hrun : ∃ o, e = .run (.handshake W) o
  · exact .inr hrun
  · obtain ⟨n, hn⟩ := hopen
    have hconn : e ≠ .agentConnects W := by
      rintro rfl
      cases h
      simp at hn
    rw [handshake_frame h (fun o he => hrun ⟨o, he⟩) hconn] at hn
    exact .inl ⟨n, hn⟩

/-- A handshake that registers its websocket creates the task, unless the agent has complained. -/
theorem keepAlive_opened (hI : RegistryInv s) {W : AgentSocket} {o : Outcome}
    (h : RelayRule cfg s (.run (.handshake W) o) s') (hnone : s.keepAlive W = none)
    (hopen : Opened s' W) :
    ∃ m, s.relay.startMessage? W = some m ∧
      (s'.keepAlive W).isSome = startsKeepAlive m.last_error := by
  have hopens : ∀ (s₁ : RelayState) m n, s₁.keepAlive = s.keepAlive →
      ((s₁.openAgent W m n).keepAlive W).isSome = startsKeepAlive m.last_error := by
    intro s₁ m n hsame
    by_cases hstarts : startsKeepAlive m.last_error
    · simp [openAgent, hstarts]
    · simp [openAgent, hstarts, hsame, hnone]
  have hevicted : ∀ m n r' res, Opened (s.evicted W m n (r', res)) W →
      ((s.evicted W m n (r', res)).keepAlive W).isSome = startsKeepAlive m.last_error := by
    intro m n r' res hopen
    cases res with
    | returned a => exact hopens (s.withRelay r') m n rfl
    | parked t => obtain ⟨n', hn'⟩ := hopen; simp [evicted] at hn'
    | raised e => obtain ⟨n', hn'⟩ := hopen; simp [evicted] at hn'
  cases h with
  | handshake hpc h =>
    obtain ⟨n, hn⟩ := hopen
    cases h with
    | @opens m => exact ⟨m, hI.startMessage W m (.inl hpc), hopens _ m _ rfl⟩
    | @evicts m => exact ⟨m, hI.startMessage W m (.inl hpc), hevicted _ _ _ _ ⟨n, hn⟩⟩
    | @evicting m n' pc =>
      exact ⟨m, hI.startMessage W m (.inr ⟨n', pc, hpc⟩), hevicted _ _ _ _ ⟨n, hn⟩⟩
    | @receives frame =>
      -- The first frame ends a handshake, or it is checked.
      rcases startReceived_cases cfg frame with ⟨result, heq, hne⟩ | ⟨m, heq, -⟩
      · exact absurd (by simpa [heq] using hn) (hne n)
      · simp [heq] at hn
    | ends _ _ hres =>
      simp at hn
      exact absurd hn (hres n)
    | accepts | refuses | duplicate | noAttribute => simp at hn

/-- Which websockets have a `keep_alive` task, and on which a keep-alive message has been sent. -/
structure KeptAlive (s : RelayState) : Prop where
  task : ∀ W m, Opened s W → s.relay.startMessage? W = some m →
    (s.keepAlive W).isSome = startsKeepAlive m.last_error
  sent : ∀ W, .text .keepAlive ∈ s.relay.to_agent W → (s.keepAlive W).isSome = true

/-- A step keeps to the websockets that are kept alive. -/
theorem KeptAlive.preserved (hI : RegistryInv s) (hT : SendTargets s) (hO : Outgoing s)
    (hK : KeptAlive s) (h : RelayRule cfg s e s') : KeptAlive s' where
  task W m hopen hm := by
    by_cases hold : Opened s W
    · obtain ⟨n, hn⟩ := hold
      obtain ⟨m₀, hm₀⟩ := hI.started W n hn
      have hlater := startMessage?_evolves h.evolves hm₀
      obtain rfl : m₀ = m := Option.some.inj (hlater.symm.trans hm)
      rw [keepAlive_stays h ⟨n, hn⟩]
      exact hK.task W m₀ ⟨n, hn⟩ hm₀
    · have hnone : s.keepAlive W = none := by
        cases hpc : s.keepAlive W with
        | none => rfl
        | some pc => exact absurd (hT.keepAlive W pc hpc) hold
      obtain ⟨o, rfl⟩ := (opened_of_step h hopen).resolve_left hold
      obtain ⟨m₀, hm₀, hsome⟩ := keepAlive_opened hI h hnone hopen
      have hlater := startMessage?_evolves h.evolves hm₀
      obtain rfl : m₀ = m := Option.some.inj (hlater.symm.trans hm)
      exact hsome
  sent W hsent := by
    have hopen : ∀ pc, s.keepAlive W = some pc → (s'.keepAlive W).isSome = true := by
      intro pc hpc
      rw [keepAlive_stays h (hT.keepAlive W pc hpc), hpc]
      rfl
    rcases keepAlive_sent hO h hsent with hold | ⟨pc, hpc⟩
    · obtain ⟨pc, hpc⟩ := Option.isSome_iff_exists.mp (hK.sent W hold)
      exact hopen pc hpc
    · exact hopen pc hpc

/-- In every run: of the websockets that have been registered, those have a `keep_alive` task whose
agents have not complained about such messages, and no keep-alive message is sent on another. -/
theorem keep_alive_understood (cfg : RelayConfig) (s : RelayState)
    (h : Reaches (step cfg) (fun _ _ => True) {} s) (W : AgentSocket) :
    (∀ m, Opened s W → s.relay.startMessage? W = some m →
      (s.keepAlive W).isSome = startsKeepAlive m.last_error) ∧
      (.text .keepAlive ∈ s.relay.to_agent W → Opened s W ∧
        ∃ m, s.relay.startMessage? W = some m ∧ startsKeepAlive m.last_error = true) := by
  have hK : KeptAlive s := by
    refine h.invariant (I := KeptAlive) ⟨?_, ?_⟩ fun s e s' hr _ hstep hK => ?_
    · rintro W m ⟨n, hn⟩
      cases hn
    · intro W hsent
      cases hsent
    · exact hK.preserved (registryInv hr) (sendTargets hr) (outgoing hr) (step_rule hstep)
  refine ⟨fun m => hK.task W m, fun hsent => ?_⟩
  obtain ⟨pc, hpc⟩ := Option.isSome_iff_exists.mp (hK.sent W hsent)
  obtain ⟨n, hn⟩ := (sendTargets h).keepAlive W pc hpc
  obtain ⟨m, hm⟩ := (registryInv h).started W n hn
  refine ⟨⟨n, hn⟩, m, hm, ?_⟩
  rw [← hK.task W m ⟨n, hn⟩ hm, hpc]
  rfl

/-- An agent that does not know `keep_alive` has told so, and another one has not failed before. -/
def oldAgentEvents : List RelayEvent :=
  [.agentConnects ⟨0⟩, .run (.handshake ⟨0⟩) .ok,
    .agentSends ⟨0⟩ (.text { known := some (.start {
      last_error := some ("1 validation error: Input tag 'keep_alive' found using 'kind' does " ++
        "not match any of the expected tags: 'initiate_connection'") }) }),
    .run (.handshake ⟨0⟩) .next, .run (.handshake ⟨0⟩) (.permit (some "old"))] ++
  registerAgent ⟨1⟩ "new" true ++ [.run (.keepAlive ⟨1⟩) .ok]

/-- The state after both agents have been registered. -/
def oldAgent : RelayState := (run (step plainConfig) {} oldAgentEvents).get (by decide +kernel)

/-- Only the second agent has got a keep-alive message. -/
theorem oldAgent_understood :
    oldAgent.relay.to_agent ⟨1⟩ = [.text .keepAlive] ∧ oldAgent.keepAlive ⟨0⟩ = none ∧
      Opened oldAgent ⟨0⟩ ∧ ∃ m, oldAgent.relay.startMessage? ⟨1⟩ = some m ∧
        startsKeepAlive m.last_error = true := by
  have hsent : oldAgent.relay.to_agent ⟨1⟩ = [.text .keepAlive] := by decide +kernel
  have hreach : Reaches (step plainConfig) (fun _ _ => True) {} oldAgent :=
    Reaches.init.of_run (fun _ _ _ => trivial) (Option.some_get _).symm
  have hunderstood := (keep_alive_understood plainConfig oldAgent hreach ⟨1⟩).2
  have hold : oldAgent.relay.registered_agent_connections "old" = some ⟨0⟩ := by decide +kernel
  exact ⟨hsent, by decide +kernel, ⟨"old", (registryInv hreach).registered "old" ⟨0⟩ hold⟩,
    (hunderstood (by rw [hsent]; exact List.mem_singleton.mpr rfl)).2⟩

end HttpNetworkRelay
