import HttpNetworkRelay.Link.Streams
import HttpNetworkRelay.Relay.UserSends

/-!
# The stream of a user of the library

The contents that users give to a connection on their whole way to its target, whatever else is on
the link. `user_to_target` puts together the law of the relay's part (`UserStream`) and that of the
agent's (`Delivered`): as long as the agent is registered, what is written to the target is what has
been given, in its order, and if the agent has the connection open, the rest is on its way.
-/

namespace HttpNetworkRelay

open Asyncio Python

variable {cfg : RelayConfig} {acfg : AgentConfig} {W : AgentSocket} {s : LinkState}
  {ok : LinkState → LinkEvent → Prop} {l : List (ConnectionId × Bytes)} {c : ConnectionId}

namespace LinkState

/-- The content that is given to a connection in an event. -/
def gives (s : LinkState) : LinkEvent → List (ConnectionId × Bytes)
  | .relay e => s.relay.gives e
  | .agent _ | .receive => []

/-- What has been given to a connection and is still on its way to the target: in the agent's
websocket, at its lock, and in the send buffer. -/
def ascending (W : AgentSocket) (s : LinkState) (connection_id : ConnectionId) : Bytes :=
  carried connection_id ((s.relay.relay.frames W).drop s.received) ++
    s.relay.unsent W connection_id ++
      ((s.relay.relay.connection connection_id).map TcpConnection.send_buffer).getD []

end LinkState

section

variable (h : Traced (linkStep cfg acfg W) ok LinkState.gives {} s l)
include h

/-- The law of the relay's part holds on the link. -/
theorem link_user_stream (c : ConnectionId) : UserStream s.relay c l := by
  refine h.invariant (I := fun s l => UserStream s.relay c l) (.initial c)
    fun s e s' l ht _ hstep hU => ?_
  cases linkStep_rule hstep with
  | relay _ hrelay =>
    obtain ⟨shown, hshown⟩ := ht.reaches.traced (LinkState.shows acfg W)
    exact hU.preserved (relay_trace hshown).reaches trivial hrelay
  | agent | receive =>
    show UserStream _ c (l ++ [])
    rw [List.append_nil]
    exact ⟨hU.fresh, hU.stream⟩

variable {connection : TcpConnection} {call : ℕ} {n : AgentId}
  (hc : s.relay.relay.connection c = some connection) (hcreator : connection.creator = .call call)
  (hagent : connection.agent_connection = W)
  (hreg : s.relay.relay.registered_agent_connections n = some W)
include hc hcreator hagent hreg

/-- What has been given has been received by the agent, or is on its way. -/
theorem givenTo_split :
    givenTo c l = carried c ((s.relay.relay.frames W).take s.received) ++ s.ascending W c := by
  subst hagent
  have hstream := (link_user_stream h c).stream connection call n hc hcreator hreg
  calc givenTo c l
      = carried c (s.relay.relay.frames connection.agent_connection) ++
          s.relay.unsent connection.agent_connection c ++ connection.send_buffer := hstream.symm
    _ = carried c ((s.relay.relay.frames connection.agent_connection).take s.received) ++
          s.ascending connection.agent_connection c := by
        rw [LinkState.ascending, hc, ← List.append_assoc, ← List.append_assoc, ← carried_append,
          List.take_append_drop]
        rfl

/-- What has been written to the target is a prefix of what has been given. -/
theorem user_written {i : ℕ} {w : StreamWriter} (hw : s.agent.agent.writer i = some w)
    (hid : w.request.connection_id = c) : w.written.flatten <+: givenTo c l := by
  subst hid
  obtain ⟨shown, hshown⟩ := h.reaches.traced (LinkState.shows acfg W)
  have hwritten := (link_delivered hshown).written i w hw
  rw [agentShown, (passed hshown).1] at hwritten
  rw [givenTo_split h hc hcreator hagent hreg]
  exact hwritten.trans (List.prefix_append _ _)

/-- Nothing is lost as long as the agent has the connection open. -/
theorem user_complete {i : ℕ} (hopen : s.agent.agent.active_connections.lookup c = some i) :
    ∃ w, s.agent.agent.writer i = some w ∧
      givenTo c l = w.written.flatten ++ s.ascending W c := by
  obtain ⟨shown, hshown⟩ := h.reaches.traced (LinkState.shows acfg W)
  obtain ⟨request, ⟨w, hw, rfl⟩, rfl⟩ := (sockets (own_trace hshown).reaches).stored c i hopen
  have hwritten := ((link_delivered hshown).entered _ i w hopen hw).2
  rw [agentShown, (passed hshown).1] at hwritten
  exact ⟨w, hw, by rw [givenTo_split h hc hcreator hagent hreg, hwritten]⟩

end

/-- As long as the agent of a user's connection is registered, the bytes that are written to the
target are those that have been given to the connection, in their order, each once, and if the agent
has the connection open, those that have not been written are on their way. -/
theorem user_to_target (cfg : RelayConfig) (acfg : AgentConfig) (W : AgentSocket) (s : LinkState)
    (l : List (ConnectionId × Bytes))
    (h : Traced (linkStep cfg acfg W) (fun _ _ => True) LinkState.gives {} s l)
    (c : ConnectionId) (connection : TcpConnection) (call : ℕ) (n : AgentId)
    (hc : s.relay.relay.connection c = some connection) (hcreator : connection.creator = .call call)
    (hagent : connection.agent_connection = W)
    (hreg : s.relay.relay.registered_agent_connections n = some W) :
    (∀ i w, s.agent.agent.writer i = some w → w.request.connection_id = c →
      w.written.flatten <+: givenTo c l) ∧
    ∀ i, s.agent.agent.active_connections.lookup c = some i → ∃ w,
      s.agent.agent.writer i = some w ∧ givenTo c l = w.written.flatten ++ s.ascending W c :=
  ⟨fun _ _ => user_written h hc hcreator hagent hreg,
    fun _ => user_complete h hc hcreator hagent hreg⟩

/-- A user asks for a connection, its socket is opened, and the call returns. -/
def openCall (k : ℕ) (connection_class : ConnectionClass) (c : ConnectionId) : List LinkEvent :=
  [.relay (.create k ⟨"agent", "127.0.0.1", 22, "tcp", connection_class⟩ c),
    .relay (.run (.call k) .ok), .receive, .agent (.main .ok), .agent (.main .ok),
    .relay (.run (.msgLoop ⟨0⟩) .next), .relay (.run (.call k) .ok)]

/-- A user sends three pieces: the first is written to the target, the second is in the websocket,
and the third waits for its send. -/
def threePieces : List LinkEvent :=
  startLink ++ openCall 0 .tcpConnectionAsync someConnection ++
    [.relay (.send 0 0 [1, 2]), .relay (.run (.sender 0) .ok), .receive, .agent (.main .ok),
      .relay (.run (.sender 0) .ok), .relay (.send 1 0 [3]), .relay (.send 2 0 [4]),
      .relay (.run (.sender 1) .ok), .relay (.run (.sender 2) .ok)]

/-- The link with two of the pieces on the way. -/
def sendingUser : LinkState :=
  (run (linkStep plainConfig plainAgent ⟨0⟩) {} threePieces).get (by decide +kernel)

/-- What was given to `send` and `send_async` in that run. -/
def sendingUserGiven : List (ConnectionId × Bytes) :=
  observe (linkStep plainConfig plainAgent ⟨0⟩) LinkState.gives {} threePieces

/-- The bytes given are those written and those on the way, one of which is not sent yet. -/
theorem sendingUser_written :
    givenTo someConnection sendingUserGiven = [1, 2, 3, 4] ∧
      sendingUser.ascending ⟨0⟩ someConnection = [3, 4] ∧
      sendingUser.relay.unsent ⟨0⟩ someConnection = [4] ∧
      ∃ w, sendingUser.agent.agent.writer 0 = some w ∧
        givenTo someConnection sendingUserGiven =
          w.written.flatten ++ sendingUser.ascending ⟨0⟩ someConnection := by
  refine ⟨by decide +kernel, by decide +kernel, by decide +kernel, ?_⟩
  have hsome : (sendingUser.relay.relay.connection someConnection).map (fun connection =>
      (connection.creator, connection.agent_connection)) = some (.call 0, ⟨0⟩) := by
    decide +kernel
  obtain ⟨connection, hc, hfields⟩ := Option.map_eq_some_iff.mp hsome
  simp only [Prod.mk.injEq] at hfields
  obtain ⟨hcreator, hagent⟩ := hfields
  have htraced : Traced (linkStep plainConfig plainAgent ⟨0⟩) (fun _ _ => True) LinkState.gives {}
      sendingUser ([] ++ sendingUserGiven) :=
    Traced.init.of_run (fun _ _ _ => trivial) (Option.some_get _).symm
  rw [List.nil_append] at htraced
  exact (user_to_target plainConfig plainAgent ⟨0⟩ sendingUser sendingUserGiven htraced
    someConnection connection 0 "agent" hc hcreator hagent (by decide +kernel)).2 0
      (by decide +kernel)

end HttpNetworkRelay
