import HttpNetworkRelay.Link.Link

/-!
# The stream of an access client

The data of an access client on its whole way to its target, whatever else is on the link:
`client_stream_intact` puts together the law of the relay's part (`Upstream`) and that of the
agent's (`Delivered`).
-/

namespace HttpNetworkRelay

open Asyncio Python

variable {cfg : RelayConfig} {acfg : AgentConfig} {W : AgentSocket} {s s' : LinkState}
  {e : LinkEvent} {ok : LinkState → LinkEvent → Prop} {l : List (Shown ⊕ AgentShown)}
  {c : ConnectionId}

/-- What the relay shows in a run of the link. -/
abbrev relayShown (l : List (Shown ⊕ AgentShown)) : List Shown := l.filterMap Sum.getLeft?

/-- What the agent shows in a run of the link. -/
abbrev agentShown (l : List (Shown ⊕ AgentShown)) : List AgentShown := l.filterMap Sum.getRight?

/-- The stream from the access client of a connection to its target. -/
structure StreamIntact (W : AgentSocket) (s : LinkState) (l : List (Shown ⊕ AgentShown))
    (c : ConnectionId) : Prop where
  sole : ∀ n n' w w', s.agent.agent.writer n = some w → s.agent.agent.writer n' = some w' →
    w.request.connection_id = c → w'.request.connection_id = c → n = n'
  /-- What has been written is a prefix of what the access client has sent. -/
  written : ∀ n w, s.agent.agent.writer n = some w → w.request.connection_id = c →
    w.written.flatten <+: payloads c (relayShown l)
  /-- If the access client disconnects first, all that it has sent precedes the close message. -/
  sent : DisconnectedFirst c (relayShown l) → ∀ l₁ l₂,
    s.relay.relay.to_agent W = l₁ ++ closeMessage c :: l₂ →
    carried c (l₁.map ToAgent.received) = payloads c (relayShown l)
  /-- And it has been written, unless the agent or the target has ended the connection before. -/
  closed : DisconnectedFirst c (relayShown l) → .dropped c ∉ agentShown l → ∀ n w,
    s.agent.agent.writer n = some w → w.request.connection_id = c → w.closed = true →
    w.written.flatten = payloads c (relayShown l)

/-- What is carried by the beginning of the frames is the beginning of what they carry. -/
theorem carried_prefix {frames frames' : List RelayFrame} (h : frames <+: frames') :
    carried c frames <+: carried c frames' := by
  obtain ⟨more, rfl⟩ := h
  rw [carried_append]
  exact List.prefix_append _ _

/-- A frame that closes a connection is its close message. -/
theorem Addressed.eq_closeMessage {r : NetworkRelay}
    (hcanonical : ∀ c, (r.connection c).isSome = true →
    canonical c = true) {m : ToAgent} (h : Addressed r W m) (hclose : m.received.close? = some c) :
    m = closeMessage c := by
  cases h with
  | keepAlive | request => cases hclose
  | close =>
    obtain rfl := Option.some.inj hclose
    rfl
  | data hc hm =>
    have hdata := dataMessage_data? (hcanonical _ (by rw [hc]; rfl)) hm
    rw [(RelayFrame.of_data? hdata).2] at hclose
    cases hclose

section
variable (h : Traced (linkStep cfg acfg W) ok (LinkState.shows acfg W) {} s l)
include h

/-- The frames that the agent has received are the first of those sent to it. -/
theorem received_take : framesOf (agentShown l) <+: s.relay.relay.frames W := by
  rw [(passed h).1]
  exact List.take_prefix _ _

/-- The sockets of the linked agent carry what its trace accounts for. -/
theorem link_delivered : Delivered s.agent (agentShown l) := by
  obtain ⟨more, hmore⟩ := received_take h
  have hfirst := asked_first (relay_trace h).reaches W
  rw [← hmore] at hfirst
  exact delivered (agent_trace h) hfirst.of_append

/-- A writer is there because the relay has asked for its connection. -/
theorem writer_asked {n : ℕ} {w : StreamWriter} (hw : s.agent.agent.writer n = some w) :
    ∃ m ∈ s.relay.relay.to_agent W, m.received.asks? = some w.request.connection_id := by
  obtain ⟨frame, hframe, hasks⟩ := (link_delivered h).asked n w hw
  have hreceived := received_take h
  obtain ⟨m, hm, rfl⟩ := List.mem_map.mp (hreceived.subset hframe)
  exact ⟨m, hm, hasks⟩

/-- A writer is that of a connection of the websocket. -/
theorem writer_connection {n : ℕ} {w : StreamWriter} (hw : s.agent.agent.writer n = some w) :
    ∃ connection, s.relay.relay.connection w.request.connection_id = some connection ∧
      connection.agent_connection = W := by
  obtain ⟨m, hm, hasks⟩ := writer_asked h hw
  have hr := (relay_trace h).reaches
  cases (outgoing hr).sent W m hm with
  | keepAlive | close => cases hasks
  | @request request c connection hc =>
    obtain rfl : c = w.request.connection_id := about_request (.inl hasks)
    exact ⟨connection, hc, rfl⟩
  | data hc hdata =>
    rw [asks?_of_data? (dataMessage_data? (canonical_ids hr _ (by rw [hc]; rfl)) hdata)] at hasks
    cases hasks

/-- The stream of every connection of an access client is intact. -/
theorem stream_intact {connection : TcpConnection} {A : ClientSocket}
    (hc : s.relay.relay.connection c = some connection) (hcreator : connection.creator = .client A)
    (hagent : connection.agent_connection = W) : StreamIntact W s l c := by
  have hr := (relay_trace h).reaches
  have hU := upstream (relay_trace h) c
  have hD := link_delivered h
  refine ⟨?_, ?_, ?_, ?_⟩
  · intro n n' w w' hw hw' hid hid'
    exact hD.sole n n' w w' hw hw' (hid.trans hid'.symm)
  · rintro n w hw rfl
    calc w.written.flatten
      _ <+: carried w.request.connection_id (framesOf (agentShown l)) := hD.written n w hw
      _ <+: carried w.request.connection_id (s.relay.relay.frames W) :=
          carried_prefix (received_take h)
      _ <+: carried w.request.connection_id (s.relay.relay.frames W) ++
            s.relay.queued A w.request.connection_id := List.prefix_append _ _
      _ <+: payloads w.request.connection_id (relayShown l) := by
          rw [← hU.stream connection A hc hcreator, hagent]
  · intro hfirst l₁ l₂ hsplit
    exact hU.ordered hfirst connection A hc hcreator l₁ l₂ (hagent ▸ hsplit)
  · rintro hfirst hkept n w hw rfl hclosed
    have hgone : s.agent.agent.active_connections.lookup w.request.connection_id ≠ some n := by
      intro hn
      rw [(hD.entered _ n w hn hw).1] at hclosed
      cases hclosed
    obtain hdropped | ⟨l₁, frame, l₂, hsplit, hclose, hwritten⟩ := hD.closed n w hw hgone
    · exact absurd hdropped hkept
    · -- The frame that has closed it is the close message of the relay.
      obtain ⟨more, hmore⟩ := received_take h
      rw [hsplit, List.append_assoc, List.cons_append] at hmore
      obtain ⟨m₁, m₂, hm, rfl, htail⟩ := List.map_eq_append_iff.mp hmore.symm
      obtain ⟨m, m₃, rfl, rfl, -⟩ := List.map_eq_cons_iff.mp htail
      have hmem : m ∈ s.relay.relay.to_agent W := by simp [hm]
      obtain rfl := ((outgoing hr).sent W m hmem).eq_closeMessage (canonical_ids hr) hclose
      rw [hwritten]
      exact hU.ordered hfirst connection A hc hcreator m₁ m₃ (hagent ▸ hm)

end

/-- The bytes that the edge agent writes to the target of an access client's connection are a prefix
of those that the client has sent, and if the client disconnects before the agent or the target has
ended the connection, all of them, sent before the close message and written before the close. -/
theorem client_stream_intact (cfg : RelayConfig) (acfg : AgentConfig) (W : AgentSocket)
    (s : LinkState) (l : List (Shown ⊕ AgentShown))
    (h : Traced (linkStep cfg acfg W) (fun _ _ => True) (LinkState.shows acfg W) {} s l) :
    (∀ n w, s.agent.agent.writer n = some w →
      ∃ connection, s.relay.relay.connection w.request.connection_id = some connection ∧
        connection.agent_connection = W) ∧
    ∀ c connection A, s.relay.relay.connection c = some connection →
      connection.creator = .client A → connection.agent_connection = W → StreamIntact W s l c :=
  ⟨fun _ _ => writer_connection h, fun _ _ _ => stream_intact h⟩

/-- An access client sends two bytes and disconnects, and the agent closes the writer. -/
def finishedStream : List LinkEvent :=
  startLink ++ openLink ⟨0⟩ someConnection ++
    [.relay (.run (.client ⟨0⟩) (.frame (.bytes [1, 2]))), .relay (.run (.client ⟨0⟩) .ok),
      .receive, .agent (.main .ok), .relay (.run (.client ⟨0⟩) .disconnect), .receive]

/-- The link after the client has disconnected. -/
def closedLink : LinkState :=
  (run (linkStep plainConfig plainAgent ⟨0⟩) {} finishedStream).get (by decide +kernel)

/-- The writer has the data that the client sent, and is closed after it. -/
theorem closedLink_intact :
    (closedLink.agent.agent.writer 0).map StreamWriter.written = some [[1, 2]] ∧
      (closedLink.agent.agent.writer 0).map StreamWriter.closed = some true ∧
      DisconnectedFirst someConnection (relayShown
        (observe (linkStep plainConfig plainAgent ⟨0⟩) (LinkState.shows plainAgent ⟨0⟩) {}
          finishedStream)) ∧
      StreamIntact ⟨0⟩ closedLink
        (observe (linkStep plainConfig plainAgent ⟨0⟩) (LinkState.shows plainAgent ⟨0⟩) {}
          finishedStream) someConnection := by
  refine ⟨by decide +kernel, by decide +kernel, ⟨[.received someConnection [1, 2]], [], ?_⟩, ?_⟩
  · decide +kernel
  · obtain ⟨connection, hc, hid⟩ : ∃ connection,
        closedLink.relay.relay.connection someConnection = some connection ∧
          connection.creator = .client ⟨0⟩ ∧ connection.agent_connection = ⟨0⟩ := by
      refine ⟨(closedLink.relay.relay.connection someConnection).get (by decide +kernel),
        (Option.some_get _).symm, ?_⟩
      decide +kernel
    exact (client_stream_intact plainConfig plainAgent ⟨0⟩ closedLink _
      (Traced.init.of_run (fun _ _ _ => trivial) (Option.some_get _).symm)).2 _ connection ⟨0⟩ hc
        hid.1 hid.2

end HttpNetworkRelay
