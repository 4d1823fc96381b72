import HttpNetworkRelay.Link.CloseOrder
import HttpNetworkRelay.Link.Entries
import HttpNetworkRelay.Link.Streams

/-!
# The two tables agree

`active_relayed_connections` of the relay and `active_connections` of the agent are changed by
whoever learns first that a connection has ended, and the other side learns it by a message: a close
or a reset, which may cross. `tables_agree` says that where nothing is in flight and no task has
anything to receive, the two have the same connections among those that the agent has answered.

The runs are those of a link with its peers (`peerStep`) in which no exception leaves an
`edge_agent_connection_close`. Where one does, at the websocket of an access client that has
disconnected too, the connections that are left stay in the table of the relay for good
(`abortedTeardown_disagrees`).
-/

namespace HttpNetworkRelay

open Asyncio Python RelayState NetworkRelay

variable {cfg : RelayConfig} {acfg : AgentConfig} {W : AgentSocket} {c : ConnectionId}

/-! ## What has been sent -/

section
variable {s : LinkState} {ok : LinkState → LinkEvent → Prop} {l : List (Shown ⊕ AgentShown)}
  (h : Traced (linkStep cfg acfg W) ok (LinkState.shows acfg W) {} s l)
include h

/-- The entries of the linked agent are those that its trace accounts for. -/
theorem link_entries : Entries s.agent (agentShown l) :=
  entries (own_trace h)

/-- The relay has asked for the connection of a socket. -/
theorem served_asked (hserved : s.agent.agent.Served c) :
    ∃ m ∈ s.relay.relay.to_agent W, m.received.asks? = some c := by
  obtain ⟨n, request, ⟨w, hw, rfl⟩, rfl⟩ := hserved
  exact writer_asked h hw

/-- A connection that the agent has served is one of the relay. -/
theorem served_connection (hserved : s.agent.agent.Served c) :
    (s.relay.relay.connection c).isSome = true := by
  obtain ⟨n, request, ⟨w, hw, rfl⟩, rfl⟩ := hserved
  obtain ⟨connection, hc, -⟩ := writer_connection h hw
  rw [hc]
  rfl

/-- What the agent sends is no surprise to the relay. -/
theorem sent_good {frame : AgentFrame} (hframe : frame ∈ s.agent.agent.to_relay 0) :
    frame.malformed cfg = false := by
  refine ((link_entries h).sent frame hframe).not_malformed fun c hserved => ?_
  exact canonical_ids (relay_trace h).reaches c (served_connection h hserved)

end

/-! ## The invariant -/

variable {s s' : PeerState} {e : PeerEvent} {ok : PeerState → PeerEvent → Prop}

/-- A step of the link with its peers. -/
inductive PeerRule (cfg : RelayConfig) (acfg : AgentConfig) (W : AgentSocket) (s : PeerState) :
    PeerEvent → PeerState → Prop
  | relay {e relay} (he : e.sentOn W = false) (h : step cfg s.link.relay e = some relay) :
      PeerRule cfg acfg W s (.link (.relay e)) { s with link := { s.link with relay } }
  | agent {e e' agent received} (hown : OwnEvent s.link.agent e')
      (h : agentStep acfg s.link.agent e' = some agent) :
      PeerRule cfg acfg W s (.link e) { s with link := { s.link.moves W agent with received } }
  | disconnects {p} : PeerRule cfg acfg W s (.disconnects p)
      { s with disconnected := Function.update s.disconnected p true }

/-- What a step of the link with its peers can be. -/
theorem peerStep_rule (h : peerStep cfg acfg W s e = some s') : PeerRule cfg acfg W s e s' := by
  cases e with
  | disconnects p =>
    obtain rfl := Option.some.inj h
    exact .disconnects
  | link e =>
    obtain ⟨link, hlink, rfl⟩ := Option.map_eq_some_iff.mp h
    cases linkStep_rule hlink with
    | relay he hrelay => exact .relay he hrelay
    | agent hown hagent => exact .agent (.inl hown) hagent
    | receive hm hagent => exact .agent (.inr ⟨_, rfl⟩) hagent

/-- The link's part of a run is a run of the link. -/
theorem peer_link (h : Reaches (peerStep cfg acfg W) ok {} s) :
    Reaches (linkStep cfg acfg W) (fun _ _ => True) {} s.link := by
  refine h.invariant (I := fun s => Reaches (linkStep cfg acfg W) (fun _ _ => True) {} s.link)
    .init fun s e s' _ _ hstep hlink => ?_
  cases e with
  | disconnects p =>
    obtain rfl := Option.some.inj hstep
    exact hlink
  | link e =>
    obtain ⟨link, hnext, rfl⟩ := Option.map_eq_some_iff.mp hstep
    exact .step hlink trivial hnext

/-- What holds of the relay, the agent and what is in flight between them. -/
structure Tied (W : AgentSocket) (s : PeerState) : Prop where
  sole : SoleAgent W s.link.relay
  departures : Departures W s.gone s.link.relay
  later : ClosesLater W s.gone s.link.relay
  ends : LoopEnds s.link.relay
  arriving : ∀ frame ∈ s.link.relay.relay.inbox W, frame ∈ s.link.agent.agent.to_relay 0
  /-- A reset is still in flight, or has ended its connection. -/
  resets : ∀ frame ∈ s.link.agent.agent.to_relay 0, ∀ c, frame.reset? = some c →
    frame ∈ s.link.relay.relay.inbox W ∨ Departing s.gone s.link.relay c

/-- A connection goes on departing as more peers go and frames arrive. -/
theorem Departing.mono {gone gone' : Peer → Bool} {s : RelayState} (h : Departing gone s c)
    (hgone : ∀ p, gone p = true → gone' p = true) (frames : List AgentFrame) :
    Departing gone' (s.arrive W frames) c := by
  rcases h with hnot | hclosing | ⟨A, hA, hin⟩ | hagent
  · exact .inl hnot
  · exact .inr (.inl hclosing)
  · exact .inr (.inr (.inl ⟨A, hgone _ hA, hin⟩))
  · exact .inr (.inr (.inr (hgone _ hagent)))

namespace Tied

/-- At the start nothing ties the relay to the agent. -/
theorem initial (W : AgentSocket) : Tied W {} where
  sole := .initial W
  departures := .initial W _
  later := .initial W _
  ends := ⟨fun _ _ _ h => (nomatch h), fun _ _ _ h => (nomatch h)⟩
  arriving _ h := by cases h
  resets _ h := by cases h

/-- More peers have gone, and frames of the agent have arrived. -/
theorem mono (hT : Tied W s) {link : LinkState} {disconnected : Peer → Bool}
    (frames : List AgentFrame)
    (hrelay : link.relay = s.link.relay.arrive W frames)
    (hto : link.agent.agent.to_relay 0 = s.link.agent.agent.to_relay 0 ++ frames)
    (hgone : ∀ p, s.gone p = true → ({ link, disconnected } : PeerState).gone p = true) :
    Tied W { link, disconnected } := by
  obtain ⟨relay, agent, received⟩ := link
  subst hrelay
  refine ⟨⟨hT.sole.handshake, hT.sole.evicting, hT.sole.registered, hT.sole.connection,
    hT.sole.call, hT.sole.closer⟩, hT.departures.mono hgone frames, hT.later.mono hgone frames,
    ⟨fun W' n result hpc => ?_, fun W' n pc hpc => ?_⟩, fun frame hframe => ?_,
    fun frame hframe c hreset => ?_⟩
  · obtain ⟨hunlisted, hactive⟩ := hT.ends.finished W' n result hpc
    exact ⟨⟨hunlisted.1, hunlisted.2⟩, hactive⟩
  · refine (hT.ends.tearingDown W' n pc hpc).imp_right ?_
    rintro ⟨hunlisted, hactive⟩
    exact ⟨⟨hunlisted.1, hunlisted.2⟩, hactive⟩
  · have hframe : frame ∈ s.link.relay.relay.inbox W ++ frames := by
      simpa [RelayState.arrive] using hframe
    show frame ∈ agent.agent.to_relay 0
    rw [hto, List.mem_append]
    exact (List.mem_append.mp hframe).imp_left (hT.arriving frame)
  · have hframe : frame ∈ agent.agent.to_relay 0 := hframe
    rw [hto, List.mem_append] at hframe
    -- A frame that is in the inbox now was there, or has just arrived.
    have hinbox : frame ∈ s.link.relay.relay.inbox W ++ frames →
        frame ∈ (s.link.relay.arrive W frames).relay.inbox W := by
      intro hmem
      simpa [RelayState.arrive] using hmem
    rcases hframe with hold | hnew
    · rcases hT.resets frame hold c hreset with hin | hdeparting
      · exact .inl (hinbox (List.mem_append_left _ hin))
      · exact .inr (hdeparting.mono hgone frames)
    · exact .inl (hinbox (List.mem_append_right _ hnew))

/-- A step of the relay. -/
theorem relay_step (hT : Tied W s) {l : List (Shown ⊕ AgentShown)}
    (ht : Traced (linkStep cfg acfg W) (fun _ _ => True) (LinkState.shows acfg W) {} s.link l)
    {e : RelayEvent} {relay : RelayState} (hok : s.link.relay.permits W s.gone e = true)
    (hquiet : s.link.relay.tearsQuietly e = true) (hother : e.sentOn W = false)
    (h : step cfg s.link.relay e = some relay) :
    Tied W { s with link := { s.link with relay } } := by
  have hrule := step_rule h
  have hr := (relay_trace ht).reaches
  have hr' : Reaches (step cfg) (fun _ _ => True) {} relay := .step hr trivial h
  have hI := registryInv hr
  -- A step of the relay makes no peer go.
  have hgone : ({ s with link := { s.link with relay } } : PeerState).gone = s.gone := by
    funext p
    cases p <;> rfl
  have hgood : ∀ frame ∈ s.link.relay.relay.inbox W, frame.malformed cfg = false :=
    fun frame hframe => sent_good ht (hT.arriving frame hframe)
  -- The agent resets only connections that it was asked for.
  have hserved : ∀ frame ∈ s.link.agent.agent.to_relay 0, ∀ c, frame.reset? = some c →
      s.link.agent.agent.Served c :=
    fun frame hframe c => ((link_entries ht).sent frame hframe).of_reset
  have hS' := hT.sole.preserved hI hok hrule (ownership hr)
  refine ⟨hS', ?_, ?_, ?_, ?_, ?_⟩
  · rw [hgone]
    exact hT.departures.preserved hT.sole hr hS' hr' hok hrule hquiet hgood
  · rw [hgone]
    refine hT.later.preserved hT.sole hT.departures hr hok (fun frame hframe c hreset => ?_) hrule
    obtain ⟨m, hm, hasks⟩ := served_asked ht (hserved frame (hT.arriving frame hframe) c hreset)
    exact ⟨m, hm, .inl hasks⟩
  · exact hT.ends.preserved hI (ownership hr) (closing_inv hr)
      (hT.sole.orderly hI hok hquiet hgood) hrule
  · exact fun frame hframe => hT.arriving frame (inbox_step hrule hother hframe)
  · intro frame hframe c hreset
    rw [hgone]
    have hsome := served_connection ht (hserved frame hframe c hreset)
    rcases hT.resets frame hframe c hreset with hin | hdeparting
    · exact hT.sole.reset_step hr hrule hother hgood hsome hin hreset
    · exact .inr (hT.departures.departing_step hT.sole hr hok hrule hquiet hsome hdeparting)

/-- A step that the peers permit, and that tears down quietly, keeps what ties the relay to the
agent. -/
theorem preserved (hT : Tied W s) (hr : Reaches (peerStep cfg acfg W) ok {} s)
    (hok : s.permits W e = true) (hquiet : s.tearsQuietly e = true)
    (h : peerStep cfg acfg W s e = some s') : Tied W s' := by
  obtain ⟨l, ht⟩ := (peer_link hr).traced (LinkState.shows acfg W)
  cases peerStep_rule h with
  | relay hother hrelay => exact hT.relay_step ht hok hquiet hother hrelay
  -- The agent's step may put frames on the wire, which arrive in the inbox.
  | @agent e e' agent received hown hagent =>
    have hE := link_entries ht
    have hrule := agentStep_rule hagent
    obtain ⟨more, hmore⟩ := (hrule.sends_one (sockets (own_trace ht).reaches)).grows
    refine hT.mono more ?_ hmore.symm fun p hp => ?_
    · simp only [LinkState.moves, ← hmore, List.drop_left]
    · cases p with
      | agent =>
        simp only [PeerState.gone, Bool.or_eq_true] at hp ⊢
        exact hp.imp_right (hE.first.step hown hagent).2
      | client A => exact hp
  -- A peer that goes stays away.
  | @disconnects p =>
    refine hT.mono [] (by simp [RelayState.arrive]) (List.append_nil _).symm fun p' hp => ?_
    have hstays : s.disconnected p' = true → Function.update s.disconnected p true p' = true := by
      intro hp'
      rcases eq_or_ne p' p with rfl | hne
      · exact Function.update_self _ _ _
      · rwa [Function.update_of_ne hne]
    cases p' with
    | agent =>
      simp only [PeerState.gone, Bool.or_eq_true] at hp ⊢
      exact hp.imp_left hstays
    | client A => exact hstays hp

end Tied

/-! ## Nothing in flight -/

/-- The reader of a connection has ended, or waits for data. -/
def RelayState.readerRests (s : RelayState) (connection_id : ConnectionId) : Bool :=
  (s.reader connection_id).all fun reader =>
    reader.point = .finished || reader.point = .parked && !reader.cancelled &&
      (s.relay.connection connection_id).all fun connection =>
        .reader connection_id ∉ connection.event.resolved

/-- A session has ended, or waits for its access client or for an answer. -/
def RelayState.sessionRests (s : RelayState) (there : Bool) : Client → Bool
  | .receivingStart => there
  | .receiving connection_id => there && s.readerRests connection_id
  | .creating _ call => call.point = .waiting && (s.relay.answers call.connection_id).isEmpty
  | .finished connection_id _ => connection_id.all s.readerRests
  | _ => false

/-- A message loop has ended, or waits for the agent. -/
def MsgLoop.rests (there : Bool) : MsgLoop → Bool
  | .receiving => there
  | .finished _ => true
  | _ => false

/-- The message loop does nothing more. -/
def MsgLoop.isFinished : MsgLoop → Bool
  | .finished _ => true
  | _ => false

/-- A `keep_alive` task does not send. -/
def KeepAlive.rests : KeepAlive → Bool
  | .sending _ => false
  | _ => true

/-- `async_main` has left its first session, or waits for the relay. -/
def AgentState.rests (s : AgentState) (there : Bool) : Bool :=
  match s.main with
  | .receiving => there
  | .leaving _ => false
  | _ => s.gone

/-- A `read_from_tcp_and_send` task has ended, or waits for its target. -/
def AgentState.readerRests (s : AgentState) (n : ℕ) (task : ReadTask) : Bool :=
  task.point = .finished ||
    task.point = .reading && (s.agent.writer n).all fun writer => !writer.closed

/-- No message is in flight, and every task is parked with nothing to receive. A message to a side
that has left is not in flight. -/
structure Quiescent (W : AgentSocket) (s : PeerState) : Prop where
  to_agent : s.link.next? W = none ∨ s.gone .agent = true
  to_relay : s.link.relay.relay.inbox W = [] ∨
    ∃ n pc, s.link.relay.msgLoop W = some ⟨n, pc⟩ ∧ pc.isFinished = true
  msgLoop : ∀ n pc, s.link.relay.msgLoop W = some ⟨n, pc⟩ → pc.rests (!s.gone .agent) = true
  keepAlive : ∀ pc, s.link.relay.keepAlive W = some pc → pc.rests = true
  client : ∀ A pc, s.link.relay.client A = some pc →
    s.link.relay.sessionRests (!s.gone (.client A)) pc = true
  main : s.link.agent.rests (!s.disconnected .agent) = true
  agentKeepAlive : s.link.agent.keepAlive 0 ≠ some .sending
  agentReader : ∀ n task, s.link.agent.reader n = some task → s.link.agent.readerRests n task = true

/-- An agent that has gone is not in the receive loop of its first session. -/
theorem AgentState.not_inLoop {s : AgentState} (hF : FirstSession s) (hgone : s.gone = true) :
    s.main.inLoop = false := by
  by_cases hsession : s.session = 0
  · unfold AgentState.gone at hgone
    cases hmain : s.main with
    | leaving | closingWebsocket | closed | failed => rfl
    | _ => simp [hmain, hsession] at hgone
  · rw [hF hsession]
    rfl

namespace Tied

/-- On the websocket no close message comes before the request for its connection. -/
theorem closedAfter (hT : Tied W s) {l : List (Shown ⊕ AgentShown)}
    (ht : Traced (linkStep cfg acfg W) (fun _ _ => True) (LinkState.shows acfg W) {} s.link l)
    (hthere : s.gone .agent = false) : ClosedAfter (framesOf (agentShown l)) := by
  have hr := (relay_trace ht).reaches
  -- What the relay sends in order the agent receives in order.
  have hordered : ClosedAfter (s.link.relay.relay.frames W) := by
    intro l₁ frame l₂ c hsplit hasks f hf hclose
    obtain ⟨m₁, m₂, hm, rfl, htail⟩ := List.map_eq_append_iff.mp hsplit
    obtain ⟨m, m₃, rfl, rfl, rfl⟩ := List.map_eq_cons_iff.mp htail
    obtain ⟨m', hm', rfl⟩ := List.mem_map.mp hf
    have hmem : m' ∈ s.link.relay.relay.to_agent W := by
      rw [hm]
      exact List.mem_append_left _ hm'
    obtain rfl := ((outgoing hr).sent W m' hmem).eq_closeMessage (canonical_ids hr) hclose
    rcases hT.later.ordered with hagent | hordered
    · rw [hthere] at hagent
      cases hagent
    · exact hordered m₁ m m₃ c hm hasks hm'
  obtain ⟨more, hmore⟩ := received_take ht
  rw [← hmore] at hordered
  exact hordered.of_append

section
variable (hT : Tied W s) (hq : Quiescent W s) {l : List (Shown ⊕ AgentShown)}
  (ht : Traced (linkStep cfg acfg W) (fun _ _ => True) (LinkState.shows acfg W) {} s.link l)
include hT hq ht

omit hT in
/-- Where the agent has gone, its table is empty. -/
theorem agent_cleared (hagent : s.gone .agent = true) :
    s.link.agent.agent.active_connections = ∅ := by
  have hE := link_entries ht
  have hmain := hq.main
  -- At rest, an agent whose connection is lost has left its loop.
  have hgone : s.link.agent.gone = true := by
    rcases Bool.or_eq_true_iff.mp hagent with hlost | hgone
    · unfold AgentState.rests at hmain
      split at hmain
      · rw [hlost] at hmain
        cases hmain
      · cases hmain
      · exact hmain
    · exact hgone
  refine hE.left (AgentState.not_inLoop hE.first hgone) fun error heq => ?_
  rw [AgentState.rests, heq] at hmain
  cases hmain

/-- And so is that of the relay. -/
theorem relay_cleared (hagent : s.gone .agent = true) :
    c ∉ s.link.relay.relay.active_relayed_connections := by
  intro hin
  have hr := (relay_trace ht).reaches
  obtain ⟨connection, hc⟩ := Option.isSome_iff_exists.mp ((ownership hr).active c hin)
  obtain ⟨hW, -⟩ := hT.sole.connection c connection hc
  obtain ⟨n, hdone⟩ := (registryInv hr).connection c connection hc
  rw [hW] at hdone
  obtain ⟨⟨n', pc⟩, hloop⟩ := Option.isSome_iff_exists.mp (served hr W n hdone)
  -- At rest, the message loop of an agent that has gone is over.
  have hrests := hq.msgLoop n' pc hloop
  cases pc with
  | finished result =>
    have hbelongs := (hT.ends.finished W n' result hloop).active c hin
    simp [belongsTo, hc, hW] at hbelongs
  | receiving => simp [MsgLoop.rests, hagent] at hrests
  | _ => cases hrests

/-- No close is under way. -/
theorem not_closing {t : Task} {pc : CloseRelayedConnection} :
    s.link.relay.closing? t ≠ some (c, pc) := by
  intro hpc
  rcases hT.sole.closing_cases (registryInv (relay_trace ht).reaches) hpc with ⟨-, n, hloop⟩ |
    ⟨-, n, td, hloop, -⟩ | ⟨A, -, hA⟩
  · cases hq.msgLoop n _ hloop
  · cases hq.msgLoop n _ hloop
  · cases hq.client A _ hA

omit hT ht in
/-- In a quiescent state no session is in its loop for an access client that has gone. -/
theorem not_leaving : ¬ Leaving s.gone s.link.relay c := by
  rintro ⟨A, hA, pc, hpc, hcon⟩
  have hrests := hq.client A pc hpc
  cases pc with
  | receiving => simp [sessionRests, hA] at hrests
  | forwarding => cases hrests
  | _ => cases hcon

/-- In a quiescent state an active connection is not departing. -/
theorem not_departing (hin : c ∈ s.link.relay.relay.active_relayed_connections) :
    ¬ Departing s.gone s.link.relay c := by
  rintro (hnot | ⟨t, pc, hpc⟩ | hleaving | hagent)
  · exact hnot hin
  · exact hT.not_closing hq ht hpc
  · exact not_leaving hq hleaving
  · exact hT.relay_cleared hq ht hagent hin

/-- A connection that the agent has been told to close is not in its table. -/
theorem closed_there (hsent : closeMessage c ∈ s.link.relay.relay.to_agent W) :
    c ∉ s.link.agent.agent.active_connections := by
  intro hin
  cases hagent : s.gone .agent with
  | true =>
    rw [agent_cleared hq ht hagent] at hin
    cases hin
  | false =>
    -- In a quiescent state the agent has received all that the relay has sent.
    have hnone : s.link.next? W = none := by
      rcases hq.to_agent with hnone | hgone
      · exact hnone
      · rw [hagent] at hgone
        cases hgone
    -- Everything that the relay has sent has been received.
    have hall : framesOf (agentShown l) = s.link.relay.relay.frames W := by
      have hlength := List.getElem?_eq_none_iff.mp hnone
      rw [(passed ht).1]
      apply List.take_of_length_le
      simpa [NetworkRelay.frames] using hlength
    have hclose : (closeMessage c).received ∈ framesOf (agentShown l) := by
      rw [hall]
      exact List.mem_map_of_mem hsent
    exact (not_entered (own_trace ht) (hT.closedAfter ht hagent) _ hclose c rfl).1 hin

end

end Tied

/-- In every run in which no exception leaves an `edge_agent_connection_close`, in every quiescent
state, the agent and the relay have the same connections among those that the agent has answered. -/
theorem tables_agree (cfg : RelayConfig) (acfg : AgentConfig) (W : AgentSocket) (s : PeerState)
    (h : Reaches (peerStep cfg acfg W)
      (fun s e => s.permits W e = true ∧ s.tearsQuietly e = true) {} s)
    (hq : Quiescent W s) (c : ConnectionId) (hok : okFrame c ∈ s.link.agent.agent.to_relay 0) :
    c ∈ s.link.agent.agent.active_connections ↔
      c ∈ s.link.relay.relay.active_relayed_connections := by
  have hT : Tied W s := h.invariant (I := Tied W) (.initial W)
    fun s e s' hr hok hstep hT => hT.preserved hr hok.1 hok.2 hstep
  obtain ⟨l, ht⟩ := (peer_link h).traced (LinkState.shows acfg W)
  have hE := link_entries ht
  have hr := (relay_trace ht).reaches
  constructor
  · intro hin
    by_contra hnot
    have hsome := served_connection ht (hE.sent _ hok).of_ok
    -- The relay has dropped it: it has told the agent, is about to, or one of the two has gone.
    rcases hT.departures.dropped c hsome hnot with (hsent | ⟨t, lock, hpc⟩ | hagent) | hleaving
    · exact hT.closed_there hq ht hsent hin
    · exact hT.not_closing hq ht hpc
    · rw [Tied.agent_cleared hq ht hagent] at hin
      cases hin
    · exact Tied.not_leaving hq hleaving
  · intro hin
    -- The agent has no entry: it was reset or closed, or the agent has gone.
    rcases hE.answered c hok with hentered | hreset | hclose | hgone
    · exact hentered
    · obtain ⟨frame, hframe, hreset⟩ := hreset
      rcases hT.resets frame hframe c hreset with hinbox | hdeparting
      · rcases hq.to_relay with hempty | ⟨n, pc, hloop, hfinished⟩
        · rw [hempty] at hinbox
          cases hinbox
        · have hended : pc.ended = true := by
            cases pc with
            | finished => rfl
            | _ => cases hfinished
          have hagent := hT.departures.tearing n pc hloop hended
          exact absurd hin (hT.relay_cleared hq ht hagent)
      · exact absurd hdeparting (hT.not_departing hq ht hin)
    · obtain ⟨frame, hframe, hclose⟩ := hclose
      have hreceived := received_take ht
      obtain ⟨m, hm, rfl⟩ := List.mem_map.mp (hreceived.subset hframe)
      obtain rfl := ((outgoing hr).sent W m hm).eq_closeMessage (canonical_ids hr) hclose
      exact absurd (hT.departures.told c hm).2 (hT.not_departing hq ht hin)
    · have hagent : s.gone .agent = true := by simp [PeerState.gone, hgone]
      exact absurd hin (hT.relay_cleared hq ht hagent)

/-! ## Two runs -/

/-- An access client that never connects has no session. -/
theorem absent_client {A : ClientSocket}
    (h : Reaches (peerStep cfg acfg W) (fun _ e => e ≠ .link (.relay (.clientConnects A))) {} s) :
    s.link.relay.client A = none := by
  refine h.invariant (I := fun s => s.link.relay.client A = none) rfl
    fun s e s' _ hconn hstep hnone => ?_
  cases peerStep_rule hstep with
  | @relay e relay _ hrelay =>
    have hrule := step_rule hrelay
    have hrun : ∀ o, e ≠ .run (.client A) o := by
      rintro o rfl
      cases hrule with
      | client hpc =>
        rw [hnone] at hpc
        cases hpc
    have hconn' : e ≠ .clientConnects A := by
      rintro rfl
      exact hconn rfl
    exact (client_frame hrule hrun hconn').trans hnone
  | agent | disconnects => exact hnone

/-- `Quiescent`, where there are only the access clients of a list. -/
def PeerState.quiescent (W : AgentSocket) (clients : List ClientSocket) (s : PeerState) : Bool :=
  ((s.link.next? W).isNone || s.gone .agent) &&
    ((s.link.relay.relay.inbox W).isEmpty || (s.link.relay.msgLoop W).any (·.pc.isFinished)) &&
    (s.link.relay.msgLoop W).all (·.pc.rests (!s.gone .agent)) &&
    (s.link.relay.keepAlive W).all KeepAlive.rests &&
    clients.all (fun A =>
      (s.link.relay.client A).all (s.link.relay.sessionRests (!s.gone (.client A)))) &&
    s.link.agent.rests (!s.disconnected .agent) &&
    s.link.agent.keepAlive 0 ≠ some .sending &&
    (List.range s.link.agent.agent.writers_opened).all fun n =>
      (s.link.agent.reader n).all (s.link.agent.readerRests n)

/-- The access client that connects in an event. -/
def PeerEvent.connects? : PeerEvent → Option ClientSocket
  | .link (.relay (.clientConnects A)) => some A
  | _ => none

/-- The check, at the end of a run. -/
theorem quiescent_of_run (clients : List ClientSocket) {es : List PeerEvent}
    (hrun : run (peerStep cfg acfg W) {} es = some s)
    (hconnects : ∀ e ∈ es, ∀ A ∈ e.connects?, A ∈ clients)
    (h : s.quiescent W clients = true) : Quiescent W s := by
  have hreached : Reaches (peerStep cfg acfg W) (fun _ _ => True) {} s :=
    .of_run (fun _ _ _ => trivial) .init hrun
  obtain ⟨l, ht⟩ := (peer_link hreached).traced (LinkState.shows acfg W)
  have hS := sockets (own_trace ht).reaches
  have habsent : ∀ A ∉ clients, s.link.relay.client A = none := by
    intro A hA
    refine absent_client (.of_run (fun e he _ => ?_) .init hrun)
    rintro rfl
    exact hA (hconnects _ he A rfl)
  simp only [PeerState.quiescent, Bool.and_eq_true, Bool.or_eq_true, decide_eq_true_eq,
    Option.all_eq_true, Option.any_eq_true, Option.isNone_iff_eq_none, List.isEmpty_iff,
    List.all_eq_true, List.mem_range] at h
  obtain ⟨⟨⟨⟨⟨⟨⟨hnext, hinbox⟩, hloop⟩, hkeep⟩, hclients⟩, hmain⟩, hagentKeep⟩, hreaders⟩ := h
  refine ⟨hnext, ?_, fun n pc => hloop ⟨n, pc⟩, hkeep, fun A pc hA => ?_, hmain, hagentKeep,
    fun n task htask => ?_⟩
  · refine hinbox.imp_right ?_
    rintro ⟨⟨n, pc⟩, hpc, hfinished⟩
    exact ⟨n, pc, hpc, hfinished⟩
  · by_cases hmem : A ∈ clients
    · exact hclients A hmem pc hA
    · rw [habsent A hmem] at hA
      cases hA
  · obtain ⟨w, hw, -⟩ := hS.reader n task htask
    refine hreaders n ?_ task htask
    by_contra hnew
    rw [hS.unopened n (not_lt.mp hnew)] at hw
    cases hw

/-- The connection of the second client. -/
def otherConnection : ConnectionId := "00000000-0000-4000-8000-000000000001"

/-- Two access clients have sessions, and their readers wait for data. -/
def twoSessions : List PeerEvent :=
  (startLink ++ openLink ⟨0⟩ someConnection ++ openLink ⟨1⟩ otherConnection).map .link ++
    [.link (.relay (.run (.reader someConnection) .ok)),
      .link (.relay (.run (.reader otherConnection) .ok))]

/-- The second client disconnects. -/
def clientLeaves : List PeerEvent :=
  [.disconnects (.client ⟨1⟩), .link (.relay (.run (.client ⟨1⟩) .disconnect)), .link .receive,
    .link (.relay (.run (.client ⟨1⟩) .ok)), .link (.relay (.run (.reader otherConnection) .ok)),
    .link (.relay (.run (.client ⟨1⟩) .ok)), .link (.relay (.run (.client ⟨1⟩) .ok)),
    .link (.agent (.reader 1 (.data []))), .link (.relay (.run (.msgLoop ⟨0⟩) .next)),
    .link (.agent (.reader 1 .ok))]

/-- The state after one of two clients has left. -/
def oneLeft : PeerState :=
  (runWith (peerStep plainConfig plainAgent ⟨0⟩)
    (fun s e => s.permits ⟨0⟩ e = true ∧ s.tearsQuietly e = true) {}
    (twoSessions ++ clientLeaves)).get (by decide +kernel)

/-- The relay and the agent agree on the connection that is left and on the one that has gone. -/
theorem oneLeft_agree :
    (okFrame someConnection ∈ oneLeft.link.agent.agent.to_relay 0 ∧
      okFrame otherConnection ∈ oneLeft.link.agent.agent.to_relay 0 ∧
      oneLeft.link.relay.relay.active_relayed_connections = [someConnection]) ∧
    Quiescent ⟨0⟩ oneLeft ∧
    (someConnection ∈ oneLeft.link.agent.agent.active_connections ↔
      someConnection ∈ oneLeft.link.relay.relay.active_relayed_connections) ∧
    (otherConnection ∈ oneLeft.link.agent.agent.active_connections ↔
      otherConnection ∈ oneLeft.link.relay.relay.active_relayed_connections) := by
  have hrun := (Option.some_get (show (runWith (peerStep plainConfig plainAgent ⟨0⟩)
    (fun s e => s.permits ⟨0⟩ e = true ∧ s.tearsQuietly e = true) {}
    (twoSessions ++ clientLeaves)).isSome = true by decide +kernel)).symm
  have hreached := Reaches.of_runWith .init hrun
  have hq : Quiescent ⟨0⟩ oneLeft :=
    quiescent_of_run [⟨0⟩, ⟨1⟩] (run_of_runWith hrun) (by decide) (by decide +kernel)
  have hanswered : okFrame someConnection ∈ oneLeft.link.agent.agent.to_relay 0 := by
    decide +kernel
  have hanswered' : okFrame otherConnection ∈ oneLeft.link.agent.agent.to_relay 0 := by
    decide +kernel
  exact ⟨⟨hanswered, hanswered', by decide +kernel⟩, hq,
    tables_agree _ _ _ _ hreached hq _ hanswered, tables_agree _ _ _ _ hreached hq _ hanswered'⟩

/-- The agent and the first client disconnect, and the relay learns of the agent first. -/
def bothLeave : List PeerEvent :=
  [.disconnects .agent, .link (.agent (.main (.raised .connectionClosed ""))),
    .link (.agent (.main .ok)), .link (.agent (.main .ok)), .disconnects (.client ⟨0⟩),
    .link (.relay (.run (.msgLoop ⟨0⟩) .disconnect)),
    .link (.relay (.run (.msgLoop ⟨0⟩) (.raised .webSocketDisconnect))),
    .link (.relay (.run (.msgLoop ⟨0⟩) (.raised .webSocketDisconnect)))]

/-- The session of the first client and the tasks of the agent end. -/
def allEnd : List PeerEvent :=
  [.link (.relay (.run (.client ⟨0⟩) .disconnect)),
    .link (.relay (.run (.client ⟨0⟩) (.raised .webSocketDisconnect))),
    .link (.relay (.run (.reader someConnection) .ok)),
    .link (.relay (.run (.client ⟨0⟩) .ok)), .link (.relay (.run (.client ⟨0⟩) .ok)),
    .link (.agent (.reader 0 (.data []))),
    .link (.agent (.reader 0 (.raised .connectionClosed ""))),
    .link (.agent (.reader 1 (.data []))),
    .link (.agent (.reader 1 (.raised .connectionClosed "")))]

/-- The state in which the teardown has been left by the exception of a close. -/
def abortedTeardown : PeerState :=
  (runWith (peerStep plainConfig plainAgent ⟨0⟩) (fun s e => s.permits ⟨0⟩ e = true) {}
    (twoSessions ++ bothLeave ++ allEnd)).get (by decide +kernel)

/-- The connection of the second client stays in the table of the relay. -/
theorem abortedTeardown_disagrees :
    ¬ ∀ (cfg : RelayConfig) (acfg : AgentConfig) (W : AgentSocket) (s : PeerState),
      Reaches (peerStep cfg acfg W) (fun s e => s.permits W e = true) {} s → Quiescent W s →
        ∀ c, okFrame c ∈ s.link.agent.agent.to_relay 0 →
          (c ∈ s.link.agent.agent.active_connections ↔
            c ∈ s.link.relay.relay.active_relayed_connections) := by
  intro hclaim
  have hrun := (Option.some_get (show (runWith (peerStep plainConfig plainAgent ⟨0⟩)
    (fun s e => s.permits ⟨0⟩ e = true) {} (twoSessions ++ bothLeave ++ allEnd)).isSome = true by
    decide +kernel)).symm
  have hq : Quiescent ⟨0⟩ abortedTeardown :=
    quiescent_of_run [⟨0⟩, ⟨1⟩] (run_of_runWith hrun) (by decide) (by decide +kernel)
  have hanswered : okFrame otherConnection ∈ abortedTeardown.link.agent.agent.to_relay 0 := by
    decide +kernel
  have hactive : otherConnection ∈ abortedTeardown.link.relay.relay.active_relayed_connections := by
    decide +kernel
  have hentered := (hclaim _ _ _ _ (.of_runWith .init hrun) hq _ hanswered).mpr hactive
  exact absurd hentered (by decide +kernel)

end HttpNetworkRelay
