import HttpNetworkRelay.Tunnel.Upward

/-!
# From the target to stdout

The way back has four stages: the agent's websocket, the receive buffer of the connection, its
reader, and the websocket of the access client. `target_to_stdout` puts them together: what the
agent reads from the target of a connection arrives at the stdout of the access client whose
session has made it, in its order, each byte once and no other bytes, and as long as the connection
is in the relay's table no byte is missing.
-/

namespace HttpNetworkRelay

open Asyncio Python

variable {cfg : RelayConfig} {acfg : AgentConfig} {ccfg : AccessClientConfig} {W : AgentSocket}
  {A : ClientSocket} {s s' : TunnelState} {e : TunnelEvent} {c : ConnectionId}
  {ok : TunnelState → TunnelEvent → Prop} {l : List TunnelShown}

/-- The passages from the target of a connection to stdout. -/
abbrev downward (connection_id : ConnectionId) (l : List TunnelShown) : List (Passage UInt8) :=
  (endsShown l).filterMap (downstreamEnd connection_id)

/-! ## The ends -/

/-- What two stretches of a run show for a connection follows each other. -/
theorem downward_append (c : ConnectionId) (l l' : List TunnelShown) :
    downward c (l ++ l') = downward c l ++ downward c l' := by
  simp only [downward, endsShown, List.filterMap_append]

/-- Nothing is handed out by the downward channel at the agent's end. -/
theorem handed_downstream_agent (s : AgentState) (e : AgentEvent) (c : ConnectionId) :
    handedOf ((s.ends e).filterMap (downstreamEnd c)) = [] := by
  rcases agent_ends_cases s e with h | ⟨c', data, h⟩ | ⟨c', data, h⟩
  · rw [h]; rfl
  · rw [h]
    rcases eq_or_ne c' c with rfl | hne
    · simp [downstreamEnd]
    · simp [downstreamEnd, hne]
  · rw [h]; rfl

/-- Nothing is given to the downward channel at the access client's end. -/
theorem given_downstream_client (s : AccessClientState) (e : AccessClientEvent) (c : ConnectionId) :
    givenOf ((s.ends e).filterMap (downstreamEnd c)) = [] := by
  rcases client_ends_cases s e with h | ⟨data, h⟩ | ⟨data, h⟩
  · rw [h]; rfl
  · rw [h]; rfl
  · rw [h]
    simp [downstreamEnd]

/-! ## The stages -/

/-- What the relay's end of a message and the access client's end say of its data. -/
theorem received_payload (m : ToClient) : m.received.payload? = m.payload? := by
  match m with
  | .bytes _ | .text (.tcpData _) | .text (.startOK _) | .text (.error _) => rfl

/-- What has been written to stdout is in the messages that have been received. -/
structure Printed (A : ClientSocket) (s : TunnelState) : Prop where
  le : s.delivered ≤ (s.link.relay.relay.to_client A).length
  waiting : s.client.main.waiting = true → s.delivered = 0
  printed : s.client.stdout = payload ((s.link.relay.relay.to_client A).take s.delivered)

namespace Printed

/-- More messages have been sent. -/
theorem of_more (hP : Printed A s) {link : LinkState}
    (hmore : s.link.relay.relay.to_client A <+: link.relay.relay.to_client A) {received : ℕ} :
    Printed A { s with link, received } := by
  obtain ⟨more, hmore⟩ := hmore
  refine ⟨?_, hP.waiting, ?_⟩
  · show s.delivered ≤ (link.relay.relay.to_client A).length
    rw [← hmore, List.length_append]
    exact hP.le.trans (Nat.le_add_right _ _)
  · show s.client.stdout = payload ((link.relay.relay.to_client A).take s.delivered)
    rw [← hmore, List.take_append_of_le_length hP.le]
    exact hP.printed

/-- The access client takes a step of its own. -/
theorem client_step (hP : Printed A s) {e : AccessClientEvent} {client : AccessClientState}
    (hother : e.receives = false) (hstep : accessClientStep ccfg s.client e = some client) :
    Printed A { s with client } := by
  have hrule := accessClientStep_rule hstep
  refine ⟨hP.le, fun hwaiting => hP.waiting (hrule.waiting hwaiting).1, ?_⟩
  refine Eq.trans ?_ hP.printed
  cases hrule with
  | answered | writes => cases hother
  | _ => rfl

/-- The access client receives a message. -/
theorem receive_step (hP : Printed A s) {m : ToClient} {client : AccessClientState}
    (hgreeted : Greeted (s.link.relay.relay.to_client A))
    (hm : (s.link.relay.relay.to_client A)[s.delivered]? = some m)
    (hstep : accessClientStep ccfg s.client (.main (.frame m.received)) = some client) :
    Printed A { s with client, delivered := s.delivered + 1 } := by
  have hrule := accessClientStep_rule hstep
  have hnext : (s.link.relay.relay.to_client A).take (s.delivered + 1) =
      (s.link.relay.relay.to_client A).take s.delivered ++ [m] := by
    rw [List.take_add_one, hm]
    rfl
  have hpayload := received_payload m
  refine ⟨(List.getElem?_eq_some_iff.mp hm).1, ?_, ?_⟩
  · intro hwaiting
    exact absurd rfl ((hrule.waiting hwaiting).2 m.received)
  · show client.stdout = payload ((s.link.relay.relay.to_client A).take (s.delivered + 1))
    rw [hnext, payload_append, ← hP.printed]
    show _ = s.client.stdout ++ (m.payload?.getD [] ++ [])
    have hanswer : s.client.main = .receivingAnswer → m.payload? = none := by
      intro hmain
      have hzero := hP.waiting (by rw [hmain]; rfl)
      rw [hzero] at hm
      refine ToClient.payload?_of_isAnswer (hgreeted.head m ?_)
      rw [List.head?_eq_getElem?]
      exact hm
    have hnone : m.payload? = none → client.stdout = s.client.stdout → client.stdout =
        s.client.stdout ++ (m.payload?.getD [] ++ []) := by
      intro hno hsame
      simp [hno, hsame]
    generalize hframe : m.received = frame at hrule hpayload
    cases hrule with
    | answered hmain => exact hnone (hanswer hmain) rfl
    | writes hmain hdata =>
      rw [← hpayload, hdata]
      simp [AccessClientState.writeStdout]
    | ignores hmain hdata => exact hnone (hpayload.symm.trans hdata) rfl
    | ends _ hdata =>
      refine hnone ?_ rfl
      rcases frame_point hstep with hmain | hmain
      · exact hanswer hmain
      · rw [← hpayload]
        exact hdata _ rfl hmain

end Printed

section
variable (h : Traced (tunnelStep cfg acfg ccfg W A) ok (TunnelState.shows acfg W A) {} s l)
include h

/-- The agent sends what it reads. -/
theorem target_sent (c : ConnectionId) :
    dataFor c (s.link.agent.agent.to_relay 0) = givenOf (downward c l) := by
  refine h.invariant (I := fun s l =>
    dataFor c (s.link.agent.agent.to_relay 0) = givenOf (downward c l)) rfl
    fun s e s' l ht _ hstep hI => ?_
  rw [downward_append, givenOf_append, ← hI]
  unfold downward endsShown
  cases tunnel_moves hstep with
  | relay hends hagent =>
    rw [hends, hagent]
    simp
  | agent hends hstep =>
    rw [hends]
    exact sent_step (link_readers (tunnel_link ht)) hstep c
  | client hends _ hlink =>
    rw [hends, hlink, given_downstream_client, List.append_nil]

/-- What is written to stdout is what is handed out. -/
theorem stdout_handed (c : ConnectionId) : s.client.stdout = handedOf (downward c l) := by
  refine h.invariant (I := fun s l => s.client.stdout = handedOf (downward c l)) rfl
    fun s e s' l _ _ hstep hI => ?_
  rw [downward_append, handedOf_append, ← hI]
  unfold downward endsShown
  cases tunnel_moves hstep with
  | relay hends _ hclient =>
    rw [hends, hclient]
    simp
  | agent hends _ hclient =>
    rw [hends, hclient, handed_downstream_agent, List.append_nil]
  | client hends hstep =>
    rw [hends]
    exact stdout_step hstep c

/-- The access client has printed the data of the messages that it has received. -/
theorem stdout_printed : Printed A s := by
  refine h.invariant (I := fun s _ => Printed A s) ⟨le_rfl, fun _ => rfl, rfl⟩
    fun s e s' l ht _ hstep hP => ?_
  cases tunnelStep_rule hstep with
  | link _ h => exact hP.of_more ((link_evolves h).to_client A)
  | client he h => exact hP.client_step he h
  | up _ h => exact hP.of_more ((link_evolves h).to_client A)
  | down hm h =>
    exact hP.receive_step (greeted (relay_trace (tunnel_link ht)).reaches A) hm h

/-- What the access client receives first is an answer. -/
theorem answer_first (hwaiting : s.client.main.waiting = true) {m : ToClient}
    (hm : (s.link.relay.relay.to_client A)[s.delivered]? = some m) : m.isAnswer = true := by
  rw [(stdout_printed h).waiting hwaiting, ← List.head?_eq_getElem?] at hm
  exact (greeted (relay_trace (tunnel_link h)).reaches A).head m hm

end

/-- All that the agent has sent has arrived at the relay. -/
theorem link_arrived {s : LinkState} {l : List (Shown ⊕ AgentShown)}
    {ok : LinkState → LinkEvent → Prop}
    (h : Traced (linkStep cfg acfg W) ok (LinkState.shows acfg W) {} s l) :
    s.relay.relay.agent_sent W = s.agent.agent.to_relay 0 := by
  refine h.invariant (I := fun s _ => s.relay.relay.agent_sent W = s.agent.agent.to_relay 0) rfl
    fun s e s' l ht _ hstep hI => ?_
  have hmoves : ∀ {e' agent}, agentStep acfg s.agent e' = some agent →
      (s.moves W agent).relay.relay.agent_sent W = agent.agent.to_relay 0 := by
    intro e' agent hagent
    obtain ⟨more, hmore⟩ :=
      ((agentStep_rule hagent).sends_one (sockets (own_trace ht).reaches)).grows
    simp [LinkState.moves, RelayState.arrive, hI, ← hmore]
  cases linkStep_rule hstep with
  | @relay e relay he h =>
    refine Eq.trans ?_ hI
    have hrule := step_rule h
    by_cases hsends : ∃ W' frame, e = .agentSends W' frame
    · obtain ⟨W', frame, rfl⟩ := hsends
      have hne : W ≠ W' := by
        rintro rfl
        simp [RelayEvent.sentOn] at he
      cases hrule
      exact Function.update_of_ne hne _ _
    · rw [agent_sent_frame hrule fun W' frame hsend => hsends ⟨W', frame, hsend⟩]
  | agent _ hagent => exact hmoves hagent
  | receive _ hagent => exact hmoves hagent

/-! ## The channel -/

/-- What the agent has sent for a connection and the stdout of its access client has not got yet:
in the websocket of the access client, in the receive buffer, and in the websocket of the agent. -/
def TunnelState.descending (W : AgentSocket) (A : ClientSocket) (s : TunnelState)
    (connection_id : ConnectionId) (connection : TcpConnection) : Bytes :=
  payload ((s.link.relay.relay.to_client A).drop s.delivered) ++ connection.recv_buffer ++
    dataFor connection_id (s.link.relay.relay.inbox W)

section
variable
  (h : Traced (tunnelStep cfg acfg ccfg W A) (TunnelState.namesOwn · ·) (TunnelState.shows acfg W A)
    {} s l)
include h

/-- The link's part of a run in which agents name their own ids. -/
theorem tunnel_names : Reaches (step cfg) (NamesOwn · ·) {} s.link.relay :=
  names_own (tunnel_link_of (fun _ _ hok => hok) (fun _ _ => rfl) h)

/-- The pipe of a connection of the access client is intact. -/
theorem tunnel_pipe {connection : TcpConnection}
    (hc : s.link.relay.relay.connection c = some connection)
    (hcreator : connection.creator = .client A) :
    (s.link.relay.relay.pipe c connection A).Intact :=
  pipes_intact (fun _ hr => named hr) (tunnel_names h) c connection A hc hcreator

/-- What has been written to stdout is a prefix of what has been read from the target. -/
theorem downward_ordered (hsole : ∀ c' connection,
      s.link.relay.relay.connection c' = some connection → connection.creator = .client A →
        c' = c ∧ connection.agent_connection = W) :
    handedOf (downward c l) <+: givenOf (downward c l) := by
  have hprinted := stdout_printed h
  have htaken : payload ((s.link.relay.relay.to_client A).take s.delivered) <+:
      payload (s.link.relay.relay.to_client A) := by
    obtain ⟨more, hmore⟩ := List.take_prefix s.delivered (s.link.relay.relay.to_client A)
    exact ⟨payload more, by rw [← payload_append, hmore]⟩
  rw [← stdout_handed h, ← target_sent h, ← link_arrived (tunnel_link h), hprinted.printed]
  refine htaken.trans ?_
  by_cases hmade : ∃ c' connection, s.link.relay.relay.connection c' = some connection ∧
      connection.creator = .client A
  · obtain ⟨c', connection, hc, hcreator⟩ := hmade
    obtain ⟨rfl, hagent⟩ := hsole c' connection hc hcreator
    have hintact := tunnel_pipe h hc hcreator
    rw [← hagent]
    exact hintact.delivered_prefix
  · rw [no_payload (relay_trace (tunnel_link h)).reaches A
      fun c' connection hc hcreator => hmade ⟨c', connection, hc, hcreator⟩]
    exact List.nil_prefix

/-- Nothing is lost as long as the connection is in the relay's table. -/
theorem downward_complete {connection : TcpConnection}
    (hc : s.link.relay.relay.connection c = some connection)
    (hcreator : connection.creator = .client A) (hagent : connection.agent_connection = W)
    (hopen : c ∈ s.link.relay.relay.active_relayed_connections) :
    givenOf (downward c l) = handedOf (downward c l) ++ s.descending W A c connection := by
  subst hagent
  have hwhole := (tunnel_pipe h hc hcreator).whole hopen
  calc givenOf (downward c l)
      = dataFor c (s.link.relay.relay.agent_sent connection.agent_connection) := by
        rw [← target_sent h, link_arrived (tunnel_link h)]
    _ = payload (s.link.relay.relay.to_client A) ++ connection.recv_buffer ++
          dataFor c (s.link.relay.relay.inbox connection.agent_connection) := hwhole.symm
    _ = payload ((s.link.relay.relay.to_client A).take s.delivered) ++
          s.descending connection.agent_connection A c connection := by
        rw [TunnelState.descending, ← List.append_assoc, ← List.append_assoc, ← payload_append,
          List.take_append_drop]
    _ = handedOf (downward c l) ++ s.descending connection.agent_connection A c connection := by
        rw [← (stdout_printed h).printed, stdout_handed h c]

end

/-- What the agent reads from the target of the access client's connection arrives at stdout, in its
order, each byte once and nothing else, and as long as the connection is in the relay's table, what
has not arrived is on its way. -/
theorem target_to_stdout (cfg : RelayConfig) (acfg : AgentConfig) (ccfg : AccessClientConfig)
    (W : AgentSocket) (A : ClientSocket) (s : TunnelState) (l : List TunnelShown)
    (h : Traced (tunnelStep cfg acfg ccfg W A) (TunnelState.namesOwn · ·)
      (TunnelState.shows acfg W A) {} s l)
    (c : ConnectionId) (connection : TcpConnection)
    (hc : s.link.relay.relay.connection c = some connection)
    (hcreator : connection.creator = .client A) (hagent : connection.agent_connection = W) :
    Carries (downward c l) ∧ s.client.stdout = handedOf (downward c l) ∧
      (c ∈ s.link.relay.relay.active_relayed_connections →
        givenOf (downward c l) = handedOf (downward c l) ++ s.descending W A c connection) := by
  refine ⟨?_, stdout_handed h c, fun hopen => downward_complete h hc hcreator hagent hopen⟩
  refine tunnel_channel (downstreamEnd c) (P := fun c' connection =>
    connection.creator = .client A → c' = c ∧ connection.agent_connection = W) ?_ ?_ h ?_
  · intro c' connection connection' hagent hcreator hP hA
    rw [← hagent]
    exact hP (hcreator.trans hA)
  · intro s l ht hs
    exact downward_ordered ht hs
  · intro c' connection' hc' hA
    have hreaches := (relay_trace (tunnel_link h)).reaches
    obtain rfl := sole_connection hreaches c' c connection' connection hc' hc (by rw [hA, hcreator])
    obtain rfl := Option.some.inj (hc.symm.trans hc')
    exact ⟨rfl, hagent⟩

/-- What the target sends is printed in order, and the last byte is on its way. -/
theorem halfWay_downward :
    downward someConnection halfWayShown = [.given [7, 8], .handed [7, 8], .given [9]] ∧
      halfWay.client.stdout = [7, 8] ∧ Carries (downward someConnection halfWayShown) ∧
      ∃ connection, connection.recv_buffer = [] ∧ givenOf (downward someConnection halfWayShown) =
        handedOf (downward someConnection halfWayShown) ++
          halfWay.descending ⟨0⟩ ⟨0⟩ someConnection connection := by
  refine ⟨by decide +kernel, by decide +kernel, ?_⟩
  obtain ⟨connection, hc, hcreator, hagent, hbuffer⟩ := halfWay_connection
  obtain ⟨hcarries, -, hopen⟩ := target_to_stdout plainConfig plainAgent plainClient ⟨0⟩ ⟨0⟩
    halfWay halfWayShown halfWay_traced someConnection connection hc hcreator hagent
  exact ⟨hcarries, connection, hbuffer, hopen (by decide +kernel)⟩

end HttpNetworkRelay
