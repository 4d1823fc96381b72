import HttpNetworkRelay.Tunnel.Tunnel

/-!
# From stdin to the target

The bytes that the access client reads from its stdin pass five stages on their way to the target:
the websocket of the access client, its session, the lock of the agent's websocket, that websocket,
and the agent. `stdin_to_target` puts the stages together: for the connection that the session has
made, they are a channel, in every run and without an assumption about the other parties, and as
long as the agent has the connection open no byte is missing.
-/

namespace HttpNetworkRelay

open Asyncio Python AccessClientState

variable {cfg : RelayConfig} {acfg : AgentConfig} {ccfg : AccessClientConfig} {W : AgentSocket}
  {A : ClientSocket} {s s' : TunnelState} {e : TunnelEvent} {c : ConnectionId}
  {ok : TunnelState → TunnelEvent → Prop} {l : List TunnelShown}

/-- The passages from stdin to the target of a connection. -/
abbrev upward (connection_id : ConnectionId) (l : List TunnelShown) : List (Passage UInt8) :=
  (endsShown l).filterMap (upstreamEnd connection_id)

/-! ## The ends -/

/-- What two stretches of a run show for a connection follows each other. -/
theorem upward_append (c : ConnectionId) (l l' : List TunnelShown) :
    upward c (l ++ l') = upward c l ++ upward c l' := by
  simp only [upward, endsShown, List.filterMap_append]

/-- What an event shows at the sockets of the targets. -/
theorem agent_ends_cases (s : AgentState) (e : AgentEvent) :
    s.ends e = [] ∨ (∃ c data, s.ends e = [.target c data]) ∨
      ∃ c data, s.ends e = [.wrote c data] := by
  unfold AgentState.ends
  split
  · split
    · split
      · exact .inr (.inl ⟨_, _, rfl⟩)
      · exact .inl rfl
    · exact .inl rfl
  · split
    · split
      · exact .inr (.inr ⟨_, _, rfl⟩)
      · exact .inl rfl
    · exact .inl rfl
  · exact .inl rfl

/-- What an event shows at stdin and stdout. -/
theorem client_ends_cases (s : AccessClientState) (e : AccessClientEvent) :
    s.ends e = [] ∨ (∃ data, s.ends e = [.stdin data]) ∨ ∃ data, s.ends e = [.stdout data] := by
  match e with
  | .main o =>
    rcases ends_main (s := s) o with hnil | ⟨frame, data, -, -, -, hends⟩
    · exact .inl hnil
    · exact .inr (.inr ⟨data, hends⟩)
  | .stdin o =>
    rcases ends_stdin (s := s) o with hnil | ⟨task, data, -, -, -, -, hends⟩
    · exact .inl hnil
    · exact .inr (.inl ⟨data, hends⟩)

/-- A step shows one thing at the ends, at most. -/
theorem ends_one (hstep : tunnelStep cfg acfg ccfg W A s e = some s') :
    (endsShown (s.shows acfg W A e)).length ≤ 1 := by
  unfold endsShown
  cases tunnel_moves hstep with
  | relay hends =>
    rw [hends]
    exact Nat.zero_le 1
  | @agent e' hends =>
    rw [hends]
    rcases agent_ends_cases s.link.agent e' with h | ⟨c, data, h⟩ | ⟨c, data, h⟩ <;> simp [h]
  | @client e' hends =>
    rw [hends]
    rcases client_ends_cases s.client e' with h | ⟨data, h⟩ | ⟨data, h⟩ <;> simp [h]

/-- The passages of a record, read off in one go. -/
theorem passages_eq (ends : TunnelEnd → Option (Passage UInt8)) (l : List TunnelShown) :
    (endsShown l).filterMap ends = l.filterMap fun shown => shown.getRight?.bind ends :=
  List.filterMap_filterMap

/-- The ends carry a channel if no more has been handed out than given, as long as `P` holds of the
connections that there are. `P` is about their agents and creators. -/
theorem tunnel_channel (ends : TunnelEnd → Option (Passage UInt8))
    {P : ConnectionId → TcpConnection → Prop}
    (hP : ∀ c connection connection', connection'.agent_connection = connection.agent_connection →
      connection'.creator = connection.creator → P c connection' → P c connection)
    (hordered : ∀ s l,
      Traced (tunnelStep cfg acfg ccfg W A) ok (TunnelState.shows acfg W A) {} s l →
      (∀ c connection, s.link.relay.relay.connection c = some connection → P c connection) →
      handedOf ((endsShown l).filterMap ends) <+: givenOf ((endsShown l).filterMap ends))
    (h : Traced (tunnelStep cfg acfg ccfg W A) ok (TunnelState.shows acfg W A) {} s l)
    (hs : ∀ c connection, s.link.relay.relay.connection c = some connection → P c connection) :
    Carries ((endsShown l).filterMap ends) := by
  rw [passages_eq]
  refine h.channel _ (P := fun s =>
    ∀ c connection, s.link.relay.relay.connection c = some connection → P c connection) ?_ ?_ ?_ hs
  · intro s e s' hstep hs' c connection hc
    obtain ⟨connection', hc', -⟩ := (tunnel_evolves hstep).connection c connection hc
    obtain ⟨hagent, hcreator⟩ := same_connection (tunnel_evolves hstep) hc hc'
    exact hP c connection connection' hagent hcreator (hs' c connection' hc')
  · intro s e s' hstep
    rw [← passages_eq]
    exact (List.length_filterMap_le _ _).trans (ends_one hstep)
  · intro s l ht hs
    rw [← passages_eq]
    exact hordered s l ht hs

/-- Nothing is given to the upward channel at the agent's end. -/
theorem given_upstream_agent (s : AgentState) (e : AgentEvent) (c : ConnectionId) :
    givenOf ((s.ends e).filterMap (upstreamEnd c)) = [] := by
  rcases agent_ends_cases s e with h | ⟨c', data, h⟩ | ⟨c', data, h⟩
  · rw [h]; rfl
  · rw [h]; rfl
  · rw [h]
    rcases eq_or_ne c' c with rfl | hne
    · simp [upstreamEnd]
    · simp [upstreamEnd, hne]

/-- Nothing is handed out by the upward channel at the access client's end. -/
theorem handed_upstream_client (s : AccessClientState) (e : AccessClientEvent) (c : ConnectionId) :
    handedOf ((s.ends e).filterMap (upstreamEnd c)) = [] := by
  rcases client_ends_cases s e with h | ⟨data, h⟩ | ⟨data, h⟩
  · rw [h]; rfl
  · rw [h]
    simp [upstreamEnd]
  · rw [h]; rfl

/-! ## The stages -/

section
variable (h : Traced (tunnelStep cfg acfg ccfg W A) ok (TunnelState.shows acfg W A) {} s l)
include h

/-- The access client sends its start message first. -/
theorem tunnel_frames : ClientFrames ccfg s.client :=
  (tunnel_client h.reaches).invariant .initial fun _ _ _ _ _ hstep hF => hF.preserved hstep

/-- The access client sends what it reads. -/
theorem stdin_sent (c : ConnectionId) : clientData s.client.to_relay = givenOf (upward c l) := by
  refine h.invariant (I := fun s l => clientData s.client.to_relay = givenOf (upward c l)) rfl
    fun s e s' l ht _ hstep hI => ?_
  rw [upward_append, givenOf_append, ← hI]
  unfold upward endsShown
  cases tunnel_moves hstep with
  | relay hends _ hclient =>
    rw [hends, hclient]
    simp
  | agent hends _ hclient =>
    rw [hends, hclient, given_upstream_agent, List.append_nil]
  | client hends hstep =>
    rw [hends]
    exact stdin_step hstep c

/-- The agent's writers have written what goes to the targets. -/
theorem target_written : Written s.link.agent (endsShown l) := by
  refine h.invariant (I := fun s l => Written s.link.agent (endsShown l)) .initial
    fun s e s' l ht hok hstep hW => ?_
  have hlink := tunnel_link ht
  have hlink' := tunnel_link (ht.step hok hstep)
  unfold endsShown at *
  rw [List.filterMap_append]
  cases tunnel_moves hstep with
  | relay hends hagent =>
    rw [hends, hagent, List.append_nil]
    exact hW
  | agent hends hstep =>
    rw [hends]
    exact hW.preserved (sockets (own_trace hlink).reaches) hstep (link_delivered hlink').sole
  | client hends _ hlink =>
    rw [hends, hlink]
    refine ⟨fun n w hw => ?_, fun c hnone => ?_⟩
    · rw [hW.writer n w hw, List.filterMap_append, handedOf_append, handed_upstream_client,
        List.append_nil]
    · rw [List.filterMap_append, handedOf_append, handed_upstream_client, List.append_nil]
      exact hW.unopened c hnone

end

/-! What the relay's end of the link shows in an event of the link. -/

/-- The linked relay shows what it shows alone. -/
theorem relay_shown (s : LinkState) (e : RelayEvent) :
    (s.shows acfg W (.relay e)).filterMap Sum.getLeft? = s.relay.shows e := by
  simp [LinkState.shows, List.filterMap_map, Function.comp_def]

/-- The linked agent shows the relay nothing. -/
theorem agent_shown (s : LinkState) (e : AgentEvent) :
    (s.shows acfg W (.agent e)).filterMap Sum.getLeft? = [] := by
  simp [LinkState.shows, List.filterMap_map, Function.comp_def]

/-- A message that the agent receives shows the relay nothing. -/
theorem receive_shown (s : LinkState) :
    (s.shows acfg W .receive).filterMap Sum.getLeft? = [] := by
  simp [LinkState.shows, List.filterMap_map, Function.comp_def]

section
variable (h : Traced (tunnelStep cfg acfg ccfg W A) ok (TunnelState.shows acfg W A) {} s l)
include h

/-- The session has received the first of the frames of the access client. -/
theorem session_received :
    Received A s.link.relay (s.client.to_relay.take s.received) (relayShown (linkShown l)) ∧
      s.received ≤ s.client.to_relay.length := by
  refine h.invariant (I := fun s l =>
    Received A s.link.relay (s.client.to_relay.take s.received) (relayShown (linkShown l)) ∧
      s.received ≤ s.client.to_relay.length) ⟨.initial A, le_rfl⟩ fun s e s' l ht hok hstep hI => ?_
  obtain ⟨hR, hle⟩ := hI
  have hrelay := relay_trace (tunnel_link ht)
  have hfresh : ∀ c, s.link.relay.relay.connection c = none →
      payloads c (relayShown (linkShown l)) = [] := fun c hc => (upstream hrelay c).fresh hc
  have hfirst : ∀ n, ∀ frame ∈ (s.client.to_relay.take n).head?, frame.content? = none :=
    fun n => (tunnel_frames ht).first_frame n
  unfold relayShown linkShown at *
  rw [List.filterMap_append, List.filterMap_append]
  -- The access client adds frames behind those that have been received.
  have hsends : ∀ {e client}, accessClientStep ccfg s.client e = some client →
      Received A s.link.relay (client.to_relay.take s.received)
          ((l.filterMap Sum.getLeft?).filterMap Sum.getLeft? ++ []) ∧
        s.received ≤ client.to_relay.length := by
    intro e client hclient
    obtain ⟨more, hmore⟩ := (accessClientStep_rule hclient).sends_more
    rw [← hmore, List.take_append_of_le_length hle, List.append_nil, List.length_append]
    exact ⟨hR, Nat.le_add_right_of_le hle⟩
  cases tunnelStep_rule hstep with
  | @link e link he h =>
    rw [linkShown_link]
    refine ⟨?_, hle⟩
    cases linkStep_rule h with
    | @relay e relay _ hnext =>
      rw [relay_shown]
      refine hR.other hrelay.reaches hfresh hnext ?_ (hfirst _)
      rintro frame rfl
      simp [LinkEvent.receivesFrom] at he
    | agent =>
      rw [agent_shown, List.append_nil]
      exact hR.of_same rfl rfl
    | receive =>
      rw [receive_shown, List.append_nil]
      exact hR.of_same rfl rfl
  | client _ h =>
    rw [linkShown_client]
    exact hsends h
  | @up frame link hframe h =>
    rw [linkShown_up hframe]
    have hlt := (List.getElem?_eq_some_iff.mp hframe).1
    have hnext : s.client.to_relay.take (s.received + 1) =
        s.client.to_relay.take s.received ++ [frame] := by
      rw [List.take_add_one, hframe]
      rfl
    refine ⟨?_, hlt⟩
    cases linkStep_rule h with
    | relay _ hrun =>
      rw [relay_shown]
      show Received A _ (s.client.to_relay.take (s.received + 1)) _
      rw [hnext]
      refine hR.receives hrelay.reaches hfresh hrun ?_
      rw [← hnext]
      exact hfirst _
  | down hm h =>
    rw [linkShown_down hm]
    exact hsends h

/-- The frame for which a session waits first is the start message. -/
theorem start_received {frame : ClientFrame}
    (hpc : s.link.relay.client A = some .receivingStart)
    (hframe : s.client.to_relay[s.received]? = some frame) :
    ∃ secret, ccfg.secret = some secret ∧
      frame = .text (some (.start (startMessage ccfg secret))) := by
  have hsome : s.client.to_relay ≠ [] := by
    intro hnil
    rw [hnil] at hframe
    cases hframe
  obtain ⟨secret, chunks, hsecret, hto, -⟩ := (tunnel_frames h).frames.resolve_left hsome
  -- Nothing has been received before.
  have hnil := (session_received h).1.early fun pc hpc' => by
    obtain rfl := Option.some.inj (hpc.symm.trans hpc')
    rfl
  rw [List.take_eq_nil_iff] at hnil
  rw [hnil.resolve_right hsome, hto] at hframe
  obtain rfl := Option.some.inj hframe
  exact ⟨secret, hsecret, rfl⟩

/-! ## The channel -/

/-- What has been written to the target is a prefix of what has been read from stdin. -/
theorem upward_ordered (hcreator : ∀ connection,
      s.link.relay.relay.connection c = some connection → connection.creator = .client A) :
    handedOf (upward c l) <+: givenOf (upward c l) := by
  have hlink := tunnel_link h
  have hW := target_written h
  by_cases hopened : ∃ n w, s.link.agent.agent.writer n = some w ∧ w.request.connection_id = c
  · obtain ⟨n, w, hw, rfl⟩ := hopened
    obtain ⟨connection, hc, hagent⟩ := writer_connection hlink hw
    have hintact := stream_intact hlink hc (hcreator connection hc) hagent
    have hreceived := (session_received h).1.stream _ connection hc (hcreator connection hc)
    have hwritten := hintact.written n w hw rfl
    rw [hreceived] at hwritten
    rw [← stdin_sent h, upward, ← hW.writer n w hw]
    refine hwritten.trans ?_
    obtain ⟨more, hmore⟩ := List.take_prefix s.received s.client.to_relay
    exact ⟨clientData more, by rw [← clientData_append, hmore]⟩
  · rw [upward, hW.unopened c fun n w hw hid => hopened ⟨n, w, hw, hid⟩]
    exact List.nil_prefix

end

/-- What has been read from stdin and is still on its way to the target of the connection: in the
websocket of the agent, before its lock, and in the websocket of the access client. -/
def TunnelState.ascending (W : AgentSocket) (A : ClientSocket) (s : TunnelState)
    (connection_id : ConnectionId) : Bytes :=
  carried connection_id ((s.link.relay.relay.frames W).drop s.link.received) ++
    s.link.relay.queued A connection_id ++ clientData (s.client.to_relay.drop s.received)

/-- Nothing is lost as long as the agent has the connection open. -/
theorem upward_complete
    (h : Traced (tunnelStep cfg acfg ccfg W A) ok (TunnelState.shows acfg W A) {} s l)
    {connection : TcpConnection} (hc : s.link.relay.relay.connection c = some connection)
    (hcreator : connection.creator = .client A) {n : ℕ}
    (hopen : s.link.agent.agent.active_connections.lookup c = some n) :
    givenOf (upward c l) = handedOf (upward c l) ++ s.ascending W A c := by
  have hlink := tunnel_link h
  obtain ⟨request, ⟨w, hw, rfl⟩, rfl⟩ := (sockets (own_trace hlink).reaches).stored c n hopen
  obtain ⟨connection', hc', hagent⟩ := writer_connection hlink hw
  obtain rfl := Option.some.inj (hc.symm.trans hc')
  have hwritten := ((link_delivered hlink).entered _ n w hopen hw).2
  rw [agentShown, (passed hlink).1] at hwritten
  have hstream := (upstream (relay_trace hlink) w.request.connection_id).stream connection A hc
    hcreator
  rw [hagent] at hstream
  have hreceived := (session_received h).1.stream _ connection hc hcreator
  calc givenOf (upward w.request.connection_id l)
      = clientData s.client.to_relay := (stdin_sent h _).symm
    _ = clientData (s.client.to_relay.take s.received) ++
          clientData (s.client.to_relay.drop s.received) := by
        rw [← clientData_append, List.take_append_drop]
    _ = carried w.request.connection_id (s.link.relay.relay.frames W) ++
          s.link.relay.queued A w.request.connection_id ++
            clientData (s.client.to_relay.drop s.received) := by
        rw [← hreceived, ← hstream]
    _ = carried w.request.connection_id ((s.link.relay.relay.frames W).take s.link.received) ++
          s.ascending W A w.request.connection_id := by
        rw [TunnelState.ascending, ← List.append_assoc, ← List.append_assoc, ← carried_append,
          List.take_append_drop]
    _ = handedOf (upward w.request.connection_id l) ++
          s.ascending W A w.request.connection_id := by
        rw [← hwritten, (target_written h).writer n w hw]

/-- The connection of the access client takes the bytes from its stdin to the target in their order,
each once, and as long as the agent has it open, those that have not arrived are on their way. -/
theorem stdin_to_target (cfg : RelayConfig) (acfg : AgentConfig) (ccfg : AccessClientConfig)
    (W : AgentSocket) (A : ClientSocket) (s : TunnelState) (l : List TunnelShown)
    (h : Traced (tunnelStep cfg acfg ccfg W A) (fun _ _ => True) (TunnelState.shows acfg W A)
      {} s l)
    (c : ConnectionId) (connection : TcpConnection)
    (hc : s.link.relay.relay.connection c = some connection)
    (hcreator : connection.creator = .client A) :
    Carries (upward c l) ∧
      ∀ n, s.link.agent.agent.active_connections.lookup c = some n →
        givenOf (upward c l) = handedOf (upward c l) ++ s.ascending W A c := by
  refine ⟨?_, fun n hopen => upward_complete h hc hcreator hopen⟩
  refine tunnel_channel (upstreamEnd c) (P := fun c' connection =>
    c' = c → connection.creator = .client A) ?_ ?_ h ?_
  · rintro c' connection connection' - hsame hP rfl
    exact hsame ▸ hP rfl
  · intro s l ht hs
    exact upward_ordered ht fun connection hc => hs c connection hc rfl
  · rintro c' connection' hc' rfl
    obtain rfl := Option.some.inj (hc.symm.trans hc')
    exact hcreator

/-- Two chunks from stdin, of which one arrives, and two from the target, of which one arrives. -/
def bothWays : List TunnelEvent :=
  openTunnel ⟨0⟩ someConnection ++
    [.client (.stdin (.data [1, 2])), .up, .link (.relay (.run (.client ⟨0⟩) .ok)), .link .receive,
      .link (.agent (.main .ok)), .client (.stdin .ok), .client (.stdin (.data [3])),
      .link (.agent (.reader 0 (.data [7, 8]))), .link (.agent (.reader 0 .ok)),
      .link (.relay (.run (.msgLoop ⟨0⟩) .next)),
      .link (.relay (.run (.reader someConnection) .ok)), .down,
      .link (.agent (.reader 0 (.data [9])))]

/-- The tunnel with data in both directions on the way. -/
def halfWay : TunnelState :=
  (runWith (tunnelStep plainConfig plainAgent plainClient ⟨0⟩ ⟨0⟩)
    (fun s e => s.namesOwn e = true) {}
    bothWays).get (by decide +kernel)

/-- What has been shown of that run. -/
def halfWayShown : List TunnelShown :=
  observe (tunnelStep plainConfig plainAgent plainClient ⟨0⟩ ⟨0⟩)
    (TunnelState.shows plainAgent ⟨0⟩ ⟨0⟩) {} bothWays

/-- The run, with what it shows. -/
theorem halfWay_traced :
    Traced (tunnelStep plainConfig plainAgent plainClient ⟨0⟩ ⟨0⟩) (TunnelState.namesOwn · ·)
      (TunnelState.shows plainAgent ⟨0⟩ ⟨0⟩) {} halfWay halfWayShown :=
  Traced.init.of_runWith (Option.some_get _).symm

/-- The connection of the session, in the state after the run. -/
theorem halfWay_connection : ∃ connection,
    halfWay.link.relay.relay.connection someConnection = some connection ∧
      connection.creator = .client ⟨0⟩ ∧ connection.agent_connection = ⟨0⟩ ∧
      connection.recv_buffer = [] := by
  have hsome : (halfWay.link.relay.relay.connection someConnection).map (fun connection =>
      (connection.creator, connection.agent_connection, connection.recv_buffer)) =
        some (.client ⟨0⟩, ⟨0⟩, []) := by
    decide +kernel
  obtain ⟨connection, hc, hfields⟩ := Option.map_eq_some_iff.mp hsome
  simp only [Prod.mk.injEq] at hfields
  exact ⟨connection, hc, hfields⟩

/-- What is given to the standard input is handed to the target in order, and the last byte is on
its way. -/
theorem halfWay_upward :
    upward someConnection halfWayShown = [.given [1, 2], .handed [1, 2], .given [3]] ∧
      halfWay.ascending ⟨0⟩ ⟨0⟩ someConnection = [3] ∧
      Carries (upward someConnection halfWayShown) ∧
      givenOf (upward someConnection halfWayShown) =
        handedOf (upward someConnection halfWayShown) ++
          halfWay.ascending ⟨0⟩ ⟨0⟩ someConnection := by
  refine ⟨by decide +kernel, by decide +kernel, ?_⟩
  obtain ⟨connection, hc, hcreator, -⟩ := halfWay_connection
  obtain ⟨hcarries, hopen⟩ := stdin_to_target plainConfig plainAgent plainClient ⟨0⟩ ⟨0⟩ halfWay
    halfWayShown (halfWay_traced.mono fun _ _ _ => trivial) someConnection connection hc hcreator
  exact ⟨hcarries, hopen 0 (by decide +kernel)⟩

end HttpNetworkRelay
