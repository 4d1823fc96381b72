import HttpNetworkRelay.Relay.ClientFraming
import HttpNetworkRelay.Tunnel.Compatible
import HttpNetworkRelay.Tunnel.Targets

/-!
# The framing on the four hops of a tunnel

Data is sent in binary frames, or as base64 in JSON. Each sender learns in another way which of the
two its receiver understands: the relay from the start messages of the agent and of the access
client, the agent from the request for the connection, the access client from the answer to its
start message. `framing_negotiated` says that they agree: towards the target both senders follow the
flag of the connection, and towards the access client all data is binary.
-/

namespace HttpNetworkRelay

open Asyncio Python AgentState AccessClientState NetworkRelayForAccessClients

/-- How the data of a connection is framed on its hops. -/
structure Negotiated (A : ClientSocket) (s : TunnelState) (c : ConnectionId)
    (connection : TcpConnection) : Prop where
  /-- From the access client to the relay. -/
  stdin : ∀ frame ∈ s.client.to_relay, ∀ data, frame.content? = some data →
    frame = stdinFrame connection.agent_supports_binary data
  /-- The flag of the answer that the access client is sent is that of the connection. -/
  answer : ∀ flag, .text (.startOK flag) ∈ s.link.relay.relay.to_client A →
    flag = connection.agent_supports_binary
  /-- From the relay to an agent. -/
  agent : ∀ W' m data, m ∈ s.link.relay.relay.to_agent W' → m.received.data? = some (c, data) →
    connection.dataMessage c data = .ok m
  /-- From the agent to the relay. -/
  target : ∀ frame ∈ s.link.agent.agent.to_relay 0, (frame.data?).isSome = true →
    ∃ bytes, frame = .bytes bytes
  /-- From the relay to the access client. -/
  stdout : ∀ message ∈ s.link.relay.relay.to_client A, ∀ data, message.payload? = some data →
    message = .bytes data

variable {cfg : RelayConfig} {acfg : AgentConfig} {ccfg : AccessClientConfig} {W : AgentSocket}
  {A : ClientSocket} {c : ConnectionId}

/-! ## From the access client -/

/-- The data of the access client is framed by `relay_supports_binary`, which is not set again after
data has been sent. -/
structure StdinFramed (s : AccessClientState) : Prop where
  idle : s.main.waiting = true → s.read_stdin_and_send = none
  unsent : s.read_stdin_and_send = none → ∀ frame ∈ s.to_relay, frame.content? = none
  framed : ∀ frame ∈ s.to_relay, ∀ data, frame.content? = some data →
    frame = stdinFrame s.relay_supports_binary data

namespace StdinFramed

variable {s s' : AccessClientState} {e : AccessClientEvent}

/-- At the start nothing is framed. -/
theorem initial : StdinFramed {} := ⟨fun _ => rfl, fun _ _ h => (nomatch h), fun _ h => (nomatch h)⟩

/-- A step of the access client keeps to the framing. -/
theorem preserved (hF : StdinFramed s) (hstep : accessClientStep ccfg s e = some s') :
    StdinFramed s' := by
  cases accessClientStep_rule hstep with
  | begins hmain =>
    have hidle := hF.idle (by rw [hmain]; rfl)
    exact ⟨fun _ => hidle, hF.unsent, hF.framed⟩
  | @opens secret hmain =>
    -- There is no data in the start message.
    have hidle := hF.idle (by rw [hmain]; rfl)
    have hnone : ∀ frame ∈ s.to_relay ++
        [.text (some (.start (AccessClientState.startMessage ccfg secret)))],
        frame.content? = none := by
      intro frame hframe
      rcases List.mem_append.mp hframe with hold | hnew
      · exact hF.unsent hidle frame hold
      · rw [List.mem_singleton.mp hnew]
        rfl
    refine ⟨fun _ => hidle, fun _ => hnone, fun frame hframe data hdata => ?_⟩
    rw [hnone frame hframe] at hdata
    cases hdata
  | opened hmain =>
    have hidle := hF.idle (by rw [hmain]; rfl)
    exact ⟨fun _ => hidle, hF.unsent, hF.framed⟩
  | answered hmain =>
    -- The flag is set while nothing has been sent.
    have hnone := hF.unsent (hF.idle (by rw [hmain]; rfl))
    refine ⟨fun h => (nomatch h), fun h => (nomatch h), fun frame hframe data hdata => ?_⟩
    rw [hnone frame hframe] at hdata
    cases hdata
  | writes hmain =>
    exact ⟨fun h => hF.idle h, hF.unsent, hF.framed⟩
  | ignores => exact hF
  | @ends o main task? hmain _ htask =>
    refine ⟨fun h => ?_, fun h => hF.unsent ?_, hF.framed⟩
    · rcases hmain with ⟨error, rfl⟩ | ⟨result, rfl⟩ <;> cases h
    · have hnone : task? = none := h
      rw [hnone] at htask
      simpa using htask.symm
  | @sends task data htask =>
    refine ⟨fun h => ?_, fun h => (nomatch h), fun frame hframe data' hdata => ?_⟩
    · rw [hF.idle h] at htask
      cases htask
    · rcases List.mem_append.mp hframe with hold | hnew
      · exact hF.framed frame hold data' hdata
      · obtain rfl := List.mem_singleton.mp hnew
        rw [stdinFrame_content] at hdata
        obtain rfl := Option.some.inj hdata
        rfl
  | @moves task o point htask =>
    refine ⟨fun h => ?_, fun h => (nomatch h), hF.framed⟩
    rw [hF.idle h] at htask
    cases htask

end StdinFramed

section
variable {s : TunnelState} {ok : TunnelState → TunnelEvent → Prop} {l : List TunnelShown}
  (h : Traced (tunnelStep cfg acfg ccfg W A) ok (TunnelState.shows acfg W A) {} s l)
include h

/-- The access client uses the flag that the relay has told it. -/
theorem flag_told (htask : s.client.read_stdin_and_send.isSome = true) :
    .text (.startOK s.client.relay_supports_binary) ∈ s.link.relay.relay.to_client A := by
  have hI : s.client.read_stdin_and_send.isSome = true →
      .text (.startOK s.client.relay_supports_binary) ∈ s.link.relay.relay.to_client A := by
    refine h.invariant (I := fun s _ => s.client.read_stdin_and_send.isSome = true →
      .text (.startOK s.client.relay_supports_binary) ∈ s.link.relay.relay.to_client A)
      (fun h => by cases h) fun s e s' l ht _ hstep hI htask' => ?_
    have hmore : ∀ {flag}, .text (.startOK flag) ∈ s.link.relay.relay.to_client A →
        .text (.startOK flag) ∈ s'.link.relay.relay.to_client A :=
      fun hm => ((tunnel_evolves hstep).to_client A).subset hm
    have hframes := (tunnel_client ht.reaches).invariant .initial
      fun _ _ _ _ _ hstep (hF : StdinFramed _) => hF.preserved hstep
    have hclient : ∀ {e client}, accessClientStep ccfg s.client e = some client →
        (∀ frame, e ≠ .main (.frame frame)) → client.read_stdin_and_send.isSome = true →
        .text (.startOK client.relay_supports_binary) ∈ s'.link.relay.relay.to_client A := by
      intro e client hclient he htask
      cases accessClientStep_rule hclient with
      | begins | opens | opened => exact hmore (hI htask)
      | answered | writes | ignores => exact absurd rfl (he _)
      | ends _ _ hsame => exact hmore (hI (hsame.symm.trans htask))
      | sends hbefore | moves hbefore => exact hmore (hI (by rw [hbefore]; rfl))
    cases tunnelStep_rule hstep with
    | link | up => exact hmore (hI htask')
    | client he hclient' =>
      refine hclient hclient' ?_ htask'
      rintro frame rfl
      cases he
    | @down m client hm hdown =>
      cases accessClientStep_rule hdown with
      | @answered _ relay_supports_binary hmain hframe =>
        -- The answer is a text, which the access client decodes to the message itself.
        have hanswer := answer_first ht (by rw [hmain]; rfl) hm
        have hmem := List.mem_of_getElem? hm
        match m, hanswer with
        | .text (.startOK flag), _ =>
          obtain rfl : flag = relay_supports_binary := by
            simpa [ToClient.received, AccessClientState.validate] using hframe
          exact hmem
        | .text (.error text), _ => simp [ToClient.received, AccessClientState.validate] at hframe
      | writes => exact hI htask'
      | ignores => exact hI htask'
      | ends _ _ hsame => exact hI (hsame.symm.trans htask')
  exact hI htask

/-! ## From the agent -/

/-- The relay asks every agent for binary frames. -/
theorem reader_binary {n : ℕ} {task : ReadTask} (htask : s.link.agent.reader n = some task) :
    task.request.supports_binary = true := by
  obtain ⟨w, hw, hsame⟩ := (sockets (own_trace (tunnel_link h)).reaches).reader n task htask
  obtain ⟨m, hm, hrequest⟩ := link_on_request (tunnel_link h) hw
  obtain rfl := message_of_request hrequest
  have haddressed := (outgoing (tunnel_relay h)).sent W _ hm
  rw [← hsame]
  generalize hmessage : ToAgent.text _ = message at haddressed
  cases haddressed with
  | keepAlive | close => cases hmessage
  | request =>
    simp only [ConnectionRequest.message, ToAgent.text.injEq,
      RelayToEdgeAgentMessage.initiateConnection.injEq] at hmessage
    exact hmessage.2.2.2.2
  | data _ hdata =>
    subst hmessage
    exact absurd hdata request_ne_data

/-- The agent sends the data of its targets in binary frames. -/
theorem target_framed {frame : AgentFrame} (hframe : frame ∈ s.link.agent.agent.to_relay 0)
    (hdata : (frame.data?).isSome = true) : ∃ bytes, frame = .bytes bytes := by
  have hI : ∀ frame ∈ s.link.agent.agent.to_relay 0, (frame.data?).isSome = true →
      ∃ bytes, frame = .bytes bytes := by
    refine h.invariant (I := fun s _ => ∀ frame ∈ s.link.agent.agent.to_relay 0,
      (frame.data?).isSome = true → ∃ bytes, frame = .bytes bytes) (fun frame h => by cases h)
      fun s e s' l ht _ hstep hI => ?_
    cases tunnel_moves hstep with
    | relay _ hagent =>
      rw [hagent]
      exact hI
    | client _ _ hlink =>
      rw [hlink]
      exact hI
    | agent _ hagent =>
      intro frame hframe hdata
      rcases (agentStep_rule hagent).sent_in 0 with hsame | ⟨new, hsends, hto⟩
      · rw [hsame] at hframe
        exact hI frame hframe hdata
      · rw [hto] at hframe
        rcases List.mem_append.mp hframe with hold | hnew
        · exact hI frame hold hdata
        · obtain rfl := List.mem_singleton.mp hnew
          generalize 0 = session at hsends
          cases hsends with
          | @chunk n task data _ htask _ _ hchunk =>
            unfold chunkFrame at hchunk
            rw [reader_binary ht htask, if_pos rfl] at hchunk
            cases hbytes : encode_tcp_binary_frame task.request.connection_id data with
            | error e =>
              rw [hbytes] at hchunk
              cases hchunk
            | ok bytes =>
              rw [hbytes] at hchunk
              exact ⟨bytes, (Except.ok.inj hchunk).symm⟩
          | _ => cases hdata
  exact hI frame hframe hdata

end

/-! ## All hops -/

/-- In every run, the data of the access client's connection is framed as it has been negotiated. -/
theorem framing_negotiated (cfg : RelayConfig) (acfg : AgentConfig) (ccfg : AccessClientConfig)
    (W : AgentSocket) (A : ClientSocket) (s : TunnelState)
    (h : Reaches (tunnelStep cfg acfg ccfg W A) (fun _ _ => True) {} s)
    (c : ConnectionId) (connection : TcpConnection)
    (hc : s.link.relay.relay.connection c = some connection)
    (hcreator : connection.creator = .client A) : Negotiated A s c connection := by
  obtain ⟨l, ht⟩ := h.traced (TunnelState.shows acfg W A)
  have hr := tunnel_relay ht
  have hF := client_framing (tunnel_session ht)
  -- The flag that the access client is told is that of its only connection.
  have hanswer : ∀ flag, .text (.startOK flag) ∈ s.link.relay.relay.to_client A →
      flag = connection.agent_supports_binary := by
    intro flag hm
    obtain ⟨c', connection', hc', hcreator', hflag⟩ := hF.answer flag hm
    obtain rfl := sole_connection hr c c' connection connection' hc hc'
      (hcreator.trans hcreator'.symm)
    obtain rfl := Option.some.inj (hc.symm.trans hc')
    exact hflag.symm
  refine ⟨fun frame hframe data hdata => ?_, hanswer, fun W' m data hm hdata => ?_,
    fun frame hframe hdata => target_framed ht hframe hdata, fun message hm data hdata => ?_⟩
  · have hstdin := (tunnel_client h).invariant .initial
      fun _ _ _ _ _ hstep (hF : StdinFramed _) => hF.preserved hstep
    have htask : s.client.read_stdin_and_send.isSome = true := by
      by_contra hnone
      rw [hstdin.unsent (by simpa using hnone) frame hframe] at hdata
      cases hdata
    rw [← hanswer _ (flag_told ht htask)]
    exact hstdin.framed frame hframe data hdata
  · cases (outgoing hr).sent W' m hm with
    | keepAlive | close | request => cases hdata
    | @data c' connection' content _ hc' hmessage =>
      have hsent := dataMessage_data? (canonical_ids hr c' (by rw [hc']; rfl)) hmessage
      obtain ⟨rfl, rfl⟩ : c' = c ∧ content = data := by
        rw [hsent] at hdata
        simpa using hdata
      obtain rfl := Option.some.inj (hc.symm.trans hc')
      exact hmessage
  · obtain ⟨data', rfl⟩ := hF.data message hm (by rw [hdata]; rfl)
    obtain rfl : data' = data := by simpa using hdata
    rfl

/-- Both directions are binary. -/
theorem halfWay_negotiated :
    halfWay.link.relay.relay.to_client ⟨0⟩ = [.text (.startOK true), .bytes [7, 8]] ∧
      ∃ connection, Negotiated ⟨0⟩ halfWay someConnection connection := by
  refine ⟨by decide +kernel, ?_⟩
  obtain ⟨connection, hc, hcreator, -⟩ := halfWay_connection
  exact ⟨connection, framing_negotiated plainConfig plainAgent plainClient ⟨0⟩ ⟨0⟩ halfWay
    (halfWay_traced.reaches.mono fun _ _ _ => trivial) someConnection connection hc hcreator⟩

end HttpNetworkRelay
