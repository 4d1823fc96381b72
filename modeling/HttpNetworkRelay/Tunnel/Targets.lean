import HttpNetworkRelay.Relay.Targets
import HttpNetworkRelay.Tunnel.Upward

/-!
# Where a tunnel leads

The command line of the access client names an agent and a target. Both pass through the relay, the
name as the id under which the agent is looked up, the target as part of the request to that agent.
`sockets_on_target` says that they arrive: whatever is requested or opened for the connection of the
access client is for its target, by an agent that was registered under the name.
-/

namespace HttpNetworkRelay

open Asyncio Python NetworkRelayForAccessClients

/-- What the access client wants to be opened for its connection. -/
def AccessClientConfig.openRequest (cfg : AccessClientConfig) (connection_id : ConnectionId) :
    OpenRequest where
  target_ip := cfg.target_ip
  target_port := cfg.target_port
  connection_id
  supports_binary := true

/-- A request that was sent on a websocket is what the access client wants. -/
structure OnTarget (cfg : AccessClientConfig) (s : RelayState) (W : AgentSocket)
    (c : ConnectionId) (protocol : String) (request : OpenRequest) : Prop where
  protocol : protocol = cfg.protocol
  request : request = cfg.openRequest c
  registered : s.handshake W = some (.finished (.ok (some cfg.target_host_identifier)))

/-- The sockets that the agent opens are those that it has been asked for. -/
structure OnRequest (s : AgentState) (frames : List RelayFrame) : Prop where
  opening : ∀ request, s.main = .opening request →
    ∃ frame ∈ frames, frame.request? = some ("tcp", request)
  writer : ∀ n w, s.agent.writer n = some w →
    ∃ frame ∈ frames, frame.request? = some ("tcp", w.request)

variable {cfg : RelayConfig} {acfg : AgentConfig} {ccfg : AccessClientConfig} {W : AgentSocket}
  {A : ClientSocket} {c : ConnectionId}

/-! ## The agent -/

/-- The agent opens sockets on request only. -/
theorem on_request {ok : AgentState → AgentEvent → Prop} {s : AgentState} {l : List AgentShown}
    (h : Traced (agentStep acfg) ok (AgentState.shows acfg) {} s l) : OnRequest s (framesOf l) := by
  refine h.invariant (I := fun s l => OnRequest s (framesOf l)) ?_ ?_
  · exact ⟨fun request h => (nomatch h), fun n w h => (nomatch h)⟩
  intro s e s' l ht _ hstep hR
  refine ⟨fun request hmain' => ?_, fun n w hw => ?_⟩
  · rw [framesOf_append]
    rcases (agentStep_rule hstep).opening_of hmain' with hmain | ⟨frame, rfl, hrequest⟩
    · obtain ⟨frame, hframe, hrequest⟩ := hR.opening request hmain
      exact ⟨frame, List.mem_append_left _ hframe, hrequest⟩
    · refine ⟨frame, List.mem_append_right _ ?_, hrequest⟩
      rw [framesOf_frame]
      exact List.mem_singleton_self frame
  · -- A writer is older than the step, or its socket was being opened.
    rw [framesOf_append]
    rcases (writer_of_step (sockets ht.reaches) hstep hw).before with ⟨w₀, hw₀, hsame⟩ | ⟨hmain, -⟩
    · obtain ⟨frame, hframe, hrequest⟩ := hR.writer n w₀ hw₀
      exact ⟨frame, List.mem_append_left _ hframe, hsame ▸ hrequest⟩
    · obtain ⟨frame, hframe, hrequest⟩ := hR.opening _ hmain
      exact ⟨frame, List.mem_append_left _ hframe, hrequest⟩

/-- The linked agent opens sockets on requests that the relay has sent. -/
theorem link_on_request {ok : LinkState → LinkEvent → Prop} {s : LinkState}
    {l : List (Shown ⊕ AgentShown)}
    (h : Traced (linkStep cfg acfg W) ok (LinkState.shows acfg W) {} s l) {n : ℕ} {w : StreamWriter}
    (hw : s.agent.agent.writer n = some w) :
    ∃ m ∈ s.relay.relay.to_agent W, m.received.request? = some ("tcp", w.request) := by
  obtain ⟨frame, hframe, hrequest⟩ := (on_request (own_trace h)).writer n w hw
  obtain ⟨m, hm, rfl⟩ := received_mem h hframe
  exact ⟨m, hm, hrequest⟩

/-! ## The relay -/

/-- Frames that arrive are steps of the relay. -/
theorem reaches_arrive {ok : RelayState → RelayEvent → Prop} {s : RelayState}
    (hok : ∀ s frame, ok s (.agentSends W frame)) (frames : List AgentFrame)
    (h : Reaches (step cfg) ok {} s) : Reaches (step cfg) ok {} (s.arrive W frames) := by
  obtain ⟨l, ht⟩ := h.traced RelayState.shows
  exact (traced_arrive hok frames ht).reaches

/-- The start message of the access client, which is sent only with a secret. -/
def AccessClientConfig.startMessage (cfg : AccessClientConfig) : AtRStartMessage :=
  AccessClientState.startMessage cfg (cfg.secret.getD "")

/-- The relay's part of a run of the tunnel, in which the session starts with this message. -/
theorem tunnel_session {ok : TunnelState → TunnelEvent → Prop} {s : TunnelState}
    {l : List TunnelShown}
    (h : Traced (tunnelStep cfg acfg ccfg W A) ok (TunnelState.shows acfg W A) {} s l) :
    Reaches (step cfg) (SessionStarts A ccfg.startMessage) {} s.link.relay := by
  refine h.invariant (I := fun s _ =>
    Reaches (step cfg) (SessionStarts A ccfg.startMessage) {} s.link.relay) .init
    fun s e s' l ht _ hstep hI => ?_
  have harrive : ∀ s frame, SessionStarts A ccfg.startMessage s (.agentSends W frame) :=
    fun s frame m' he => by cases he
  cases tunnelStep_rule hstep with
  | @link e link he hlink =>
    cases linkStep_rule hlink with
    | relay _ hrelay =>
      refine hI.step ?_ hrelay
      rintro m' rfl
      simp [LinkEvent.receivesFrom] at he
    | agent | receive => exact reaches_arrive harrive _ hI
  | client | down => exact hI
  | @up frame link hframe hlink =>
    cases linkStep_rule hlink with
    | relay _ hrelay =>
      refine hI.step ?_ hrelay
      intro m' he hpc
      obtain ⟨-, rfl⟩ : True ∧ frame = .text (some (.start m')) := by simpa using he
      obtain ⟨secret, hsecret, hstart⟩ := start_received ht hpc hframe
      have hm : m' = AccessClientState.startMessage ccfg secret := by simpa using hstart
      rw [hm, AccessClientConfig.startMessage, hsecret]
      rfl

/-- A request has come in a message with the same fields. -/
theorem message_of_request {m : ToAgent} {protocol : String} {request : OpenRequest}
    (h : m.received.request? = some (protocol, request)) :
    m = .text (.initiateConnection request.target_ip request.target_port protocol
      request.connection_id request.supports_binary) := by
  match m with
  | .text (.initiateConnection _ _ _ _ _) =>
    obtain ⟨rfl, rfl⟩ := Prod.mk.inj (Option.some.inj h)
    rfl
  | .bytes _ | .text (.tcpData _ _) | .text (.connectionClose _ _) | .text .keepAlive => cases h

/-- A request that has been sent for the session is what the access client wants. -/
theorem Targets.on_target {s : RelayState} (hT : Targets A ccfg.startMessage s) (hO : Outgoing s)
    {W : AgentSocket} {m : ToAgent} {protocol : String} {request : OpenRequest}
    (hm : m ∈ s.relay.to_agent W) (hrequest : m.received.request? = some (protocol, request))
    {connection : TcpConnection} (hc : s.relay.connection request.connection_id = some connection)
    (hcreator : connection.creator = .client A) :
    OnTarget ccfg s W request.connection_id protocol request := by
  obtain rfl := message_of_request hrequest
  have haddressed := hO.sent W _ hm
  generalize hmessage : ToAgent.text (.initiateConnection request.target_ip request.target_port
    protocol request.connection_id request.supports_binary) = message at haddressed
  cases haddressed with
  | keepAlive | close => cases hmessage
  | @request asked c' connection' hc' =>
    obtain rfl : request.connection_id = c' := by
      simp only [ConnectionRequest.message, ToAgent.text.injEq,
        RelayToEdgeAgentMessage.initiateConnection.injEq] at hmessage
      exact hmessage.2.2.2.1
    rw [hmessage] at hm
    obtain ⟨hasked, hnamed⟩ := hT.requested _ asked _ connection hm hc hcreator
    rw [hasked] at hmessage
    simp only [ConnectionRequest.message, sessionRequest, ToAgent.text.injEq,
      RelayToEdgeAgentMessage.initiateConnection.injEq] at hmessage
    obtain ⟨hip, hport, hprotocol, -, hbinary⟩ := hmessage
    refine ⟨hprotocol, ?_, hnamed⟩
    show request = ⟨ccfg.target_ip, ccfg.target_port, request.connection_id, true⟩
    rw [OpenRequest.mk.injEq]
    exact ⟨hip, hport, rfl, hbinary⟩
  | data _ hdata =>
    subst hmessage
    exact absurd hdata request_ne_data

/-- All that is asked for and opened for the connection of the access client is its target. -/
theorem sockets_on_target (cfg : RelayConfig) (acfg : AgentConfig) (ccfg : AccessClientConfig)
    (W : AgentSocket) (A : ClientSocket) (s : TunnelState)
    (h : Reaches (tunnelStep cfg acfg ccfg W A) (fun _ _ => True) {} s)
    (c : ConnectionId) (connection : TcpConnection)
    (hc : s.link.relay.relay.connection c = some connection)
    (hcreator : connection.creator = .client A) :
    (∀ W' m protocol request, m ∈ s.link.relay.relay.to_agent W' →
        m.received.request? = some (protocol, request) → request.connection_id = c →
        OnTarget ccfg s.link.relay W' c protocol request) ∧
      ∀ n w, s.link.agent.agent.writer n = some w → w.request.connection_id = c →
        OnTarget ccfg s.link.relay W c "tcp" w.request := by
  obtain ⟨l, ht⟩ := h.traced (TunnelState.shows acfg W A)
  have hT := targets (tunnel_session ht)
  have hO := outgoing (tunnel_session ht)
  have hrequests : ∀ W' m protocol request, m ∈ s.link.relay.relay.to_agent W' →
      m.received.request? = some (protocol, request) → request.connection_id = c →
      OnTarget ccfg s.link.relay W' c protocol request := by
    rintro W' m protocol request hm hrequest rfl
    exact hT.on_target hO hm hrequest hc hcreator
  refine ⟨hrequests, fun n w hw hid => ?_⟩
  -- The agent has received a request for the socket.
  obtain ⟨m, hm, hrequest⟩ := link_on_request (tunnel_link ht) hw
  exact hrequests W m "tcp" w.request hm hrequest hid

/-- The socket is opened for the target of the command line. -/
theorem halfWay_on_target :
    (∃ w, halfWay.link.agent.agent.writer 0 = some w ∧
        w.request.connection_id = someConnection ∧
        OnTarget plainClient halfWay.link.relay ⟨0⟩ someConnection "tcp" w.request) ∧
      plainClient.openRequest someConnection = ⟨"127.0.0.1", 22, someConnection, true⟩ := by
  refine ⟨?_, rfl⟩
  obtain ⟨connection, hc, hcreator, -⟩ := halfWay_connection
  have hsome : (halfWay.link.agent.agent.writer 0).map (·.request.connection_id) =
      some someConnection := by
    decide +kernel
  obtain ⟨w, hw, hid⟩ := Option.map_eq_some_iff.mp hsome
  refine ⟨w, hw, hid, ?_⟩
  exact (sockets_on_target plainConfig plainAgent plainClient ⟨0⟩ ⟨0⟩ halfWay
    (halfWay_traced.reaches.mono fun _ _ _ => trivial) someConnection connection hc hcreator).2
    0 w hw hid

end HttpNetworkRelay
