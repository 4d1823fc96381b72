import HttpNetworkRelay.Agent.Stream
import HttpNetworkRelay.Relay.Upstream

/-!
# A relay and an edge agent

A `NetworkRelay` and an `EdgeAgent`, joined by the two directions of one agent websocket for the
first session of the agent. Each direction is a reliable FIFO channel: what the relay hands to
`send` on the websocket is received by the agent in the same order, as is what the agent hands to
`send` in the session. A message is on the channel from the call of `send` on; a send that raises
later is one whose receiver has left and takes nothing more from the channel. Other agents, the
access clients and the targets are free to do what they like.

`linkStep` is a machine whose components are the two machines of the parts: `relay_trace` and
`agent_trace` take a run of the link apart, and `passed` says that the frames that the agent has
received are the first ones that the relay has sent.
-/

namespace HttpNetworkRelay

open Asyncio Python

/-- A relay, an agent in its first session, and how many of the relay's messages the agent has
received. -/
structure LinkState where
  relay : RelayState := {}
  agent : AgentState := {}
  received : ℕ := 0

/-- The events of the relay and the agent, and the message that the agent takes from the websocket.
-/
inductive LinkEvent
  /-- The relay takes a step, or something else than the agent acts on it. -/
  | relay (e : RelayEvent)
  /-- The agent takes a step other than a receive. -/
  | agent (e : AgentEvent)
  /-- The agent receives the next message. -/
  | receive
  deriving DecidableEq, Repr

/-- Frames of an agent arrive at the relay's end of its websocket. -/
def RelayState.arrive (s : RelayState) (ws : AgentSocket) (frames : List AgentFrame) : RelayState :=
  s.withRelay { s.relay with
    inbox := Function.update s.relay.inbox ws (s.relay.inbox ws ++ frames)
    agent_sent := Function.update s.relay.agent_sent ws (s.relay.agent_sent ws ++ frames) }

/-- The event is a frame on the websocket. -/
def RelayEvent.sentOn (ws : AgentSocket) : RelayEvent → Bool
  | .agentSends ws' _ => ws' = ws
  | _ => false

/-- The event can happen without a message of the relay, and belongs to the first session. -/
def AgentEvent.own (session : ℕ) : AgentEvent → Bool
  | .main (.frame _) => false
  | .main _ => session = 0
  | _ => true

/-- The event can happen in the first session. -/
abbrev OwnEvent (s : AgentState) (e : AgentEvent) : Prop :=
  e.own s.session = true ∨ ∃ frame, e = .main (.frame frame)

namespace LinkState

variable (cfg : RelayConfig) (acfg : AgentConfig) (W : AgentSocket) (s : LinkState)

/-- The agent takes a step, and what it hands to the websocket arrives. -/
def moves (agent : AgentState) : LinkState :=
  { s with
    relay := s.relay.arrive W ((agent.agent.to_relay 0).drop (s.agent.agent.to_relay 0).length)
    agent }

/-- The next message that the agent will receive. -/
def next? : Option ToAgent := (s.relay.relay.to_agent W)[s.received]?

/-- What an event shows. -/
def shows : LinkEvent → List (Shown ⊕ AgentShown)
  | .relay e => (s.relay.shows e).map .inl
  | .agent e => (s.agent.shows acfg e).map .inr
  | .receive => (s.next? W).toList.map fun m => .inr (.frame m.received)

end LinkState

/-- The step function of the link over the websocket `W`. -/
def linkStep (cfg : RelayConfig) (acfg : AgentConfig) (W : AgentSocket) (s : LinkState) :
    LinkEvent → Option LinkState
  | .relay e =>
    if e.sentOn W then none else (step cfg s.relay e).map fun relay => { s with relay }
  | .agent e =>
    if e.own s.agent.session then (agentStep acfg s.agent e).map (s.moves W) else none
  | .receive => do
    let m ← s.next? W
    let agent ← agentStep acfg s.agent (.main (.frame m.received))
    return { s.moves W agent with received := s.received + 1 }

/-! ## The parts of a run -/

variable {cfg : RelayConfig} {acfg : AgentConfig} {W : AgentSocket} {s s' : LinkState}
  {e : LinkEvent} {ok : LinkState → LinkEvent → Prop} {l : List (Shown ⊕ AgentShown)}

/-- A step of the link. -/
inductive LinkRule (cfg : RelayConfig) (acfg : AgentConfig) (W : AgentSocket) (s : LinkState) :
    LinkEvent → LinkState → Prop
  | relay {e relay} (he : e.sentOn W = false) (h : step cfg s.relay e = some relay) :
      LinkRule cfg acfg W s (.relay e) { s with relay }
  | agent {e agent} (hown : e.own s.agent.session = true)
      (h : agentStep acfg s.agent e = some agent) :
      LinkRule cfg acfg W s (.agent e) (s.moves W agent)
  | receive {m agent} (hm : s.next? W = some m)
      (h : agentStep acfg s.agent (.main (.frame m.received)) = some agent) :
      LinkRule cfg acfg W s .receive { s.moves W agent with received := s.received + 1 }

/-- What a step of the link can be. -/
theorem linkStep_rule (h : linkStep cfg acfg W s e = some s') : LinkRule cfg acfg W s e s' := by
  unfold linkStep at h
  split at h
  case h_1 e =>
    split_ifs at h with he
    obtain ⟨relay, hrelay, rfl⟩ := Option.map_eq_some_iff.mp h
    exact .relay (by simpa using he) hrelay
  case h_2 e =>
    split_ifs at h with hown
    obtain ⟨agent, hagent, rfl⟩ := Option.map_eq_some_iff.mp h
    exact .agent hown hagent
  case h_3 =>
    obtain ⟨m, hm, h⟩ := Option.bind_eq_some_iff.mp h
    obtain ⟨agent, hagent, h⟩ := Option.bind_eq_some_iff.mp h
    obtain rfl := Option.some.inj h
    exact .receive hm hagent

/-- The arrival of frames is a run of the relay, and shows nothing. -/
theorem traced_arrive {ok : RelayState → RelayEvent → Prop} {s : RelayState} {l : List Shown}
    (hok : ∀ s frame, ok s (.agentSends W frame)) (frames : List AgentFrame)
    (h : Traced (step cfg) ok RelayState.shows {} s l) :
    Traced (step cfg) ok RelayState.shows {} (s.arrive W frames) l := by
  induction frames generalizing s with
  | nil => simpa [RelayState.arrive] using h
  | cons frame frames ih =>
    have hnext : Traced (step cfg) ok RelayState.shows {} (s.arrive W [frame]) l := by
      have hstep := Traced.step (e := .agentSends W frame) h (hok s frame) rfl
      simpa [RelayState.shows, RelayState.endedBy, RelayState.arrive] using hstep
    have hrest := ih hnext
    simpa [RelayState.arrive] using hrest

/-- The relay's part of a run of the link is a run of the relay. -/
theorem relay_trace (h : Traced (linkStep cfg acfg W) ok (LinkState.shows acfg W) {} s l) :
    Traced (step cfg) (fun _ _ => True) RelayState.shows {} s.relay (l.filterMap Sum.getLeft?) := by
  refine h.project LinkState.relay Sum.getLeft? rfl fun s e s' l' _ hstep ht => ?_
  cases linkStep_rule hstep with
  | @relay e relay _ hrelay =>
    have hshown : (s.shows acfg W (.relay e)).filterMap Sum.getLeft? = s.relay.shows e := by
      simp [LinkState.shows, List.filterMap_map, Function.comp_def]
    rw [hshown]
    exact .step ht trivial hrelay
  | @agent e agent =>
    have hshown : (s.shows acfg W (.agent e)).filterMap Sum.getLeft? = [] := by
      simp [LinkState.shows, List.filterMap_map, Function.comp_def]
    rw [hshown, List.append_nil]
    exact traced_arrive (fun _ _ => trivial) _ ht
  | @receive m agent =>
    have hshown : (s.shows acfg W .receive).filterMap Sum.getLeft? = [] := by
      simp [LinkState.shows, List.filterMap_map, Function.comp_def]
    rw [hshown, List.append_nil]
    exact traced_arrive (fun _ _ => trivial) _ ht

/-- The agent's part of a run of the link is a run of the agent in its first session. -/
theorem own_trace (h : Traced (linkStep cfg acfg W) ok (LinkState.shows acfg W) {} s l) :
    Traced (agentStep acfg) OwnEvent (AgentState.shows acfg) {} s.agent
      (l.filterMap Sum.getRight?) := by
  refine h.project LinkState.agent Sum.getRight? rfl fun s e s' l' _ hstep ht => ?_
  cases linkStep_rule hstep with
  | @relay e relay =>
    have hshown : (s.shows acfg W (.relay e)).filterMap Sum.getRight? = [] := by
      simp [LinkState.shows, List.filterMap_map, Function.comp_def]
    rw [hshown, List.append_nil]
    exact ht
  | @agent e agent hown hagent =>
    have hshown : (s.shows acfg W (.agent e)).filterMap Sum.getRight? = s.agent.shows acfg e := by
      simp [LinkState.shows, List.filterMap_map, Function.comp_def]
    rw [hshown]
    exact .step ht (.inl hown) hagent
  | @receive m agent hm hagent =>
    have hshown : (s.shows acfg W .receive).filterMap Sum.getRight? =
        s.agent.shows acfg (.main (.frame m.received)) := by
      simp [LinkState.shows, hm, AgentState.shows]
    rw [hshown]
    exact .step ht (.inr ⟨_, rfl⟩) hagent

/-- The agent's part of a run of the link is a run of the agent. -/
theorem agent_trace (h : Traced (linkStep cfg acfg W) ok (LinkState.shows acfg W) {} s l) :
    Traced (agentStep acfg) (fun _ _ => True) (AgentState.shows acfg) {} s.agent
      (l.filterMap Sum.getRight?) :=
  (own_trace h).mono fun _ _ _ => trivial

/-- The agent has received the first of the frames that the relay has sent. -/
theorem passed (h : Traced (linkStep cfg acfg W) ok (LinkState.shows acfg W) {} s l) :
    framesOf (l.filterMap Sum.getRight?) = (s.relay.relay.frames W).take s.received ∧
      s.received ≤ (s.relay.relay.to_agent W).length := by
  refine h.invariant (I := fun s l =>
    framesOf (l.filterMap Sum.getRight?) = (s.relay.relay.frames W).take s.received ∧
      s.received ≤ (s.relay.relay.to_agent W).length) ⟨rfl, le_rfl⟩ ?_
  intro s e s' l ht _ hstep hI
  obtain ⟨hframes, hle⟩ := hI
  rw [List.filterMap_append, framesOf_append, hframes]
  cases linkStep_rule hstep with
  | @relay e relay _ hrelay =>
    obtain ⟨more, hmore⟩ := (step_evolves hrelay).to_agent W
    have hlen : s.received ≤ (relay.relay.to_agent W).length := by
      rw [← hmore, List.length_append]
      omega
    refine ⟨?_, hlen⟩
    have htake : (relay.relay.frames W).take s.received =
        (s.relay.relay.frames W).take s.received := by
      unfold NetworkRelay.frames
      rw [← hmore, List.map_append, List.take_append_of_le_length (by simpa using hle)]
    simp [LinkState.shows, List.filterMap_map, Function.comp_def, htake]
  | @agent e agent hown hagent =>
    have hother : framesOf (s.agent.shows acfg e) = [] := by
      refine framesOf_other ?_
      rintro frame rfl
      cases hown
    refine ⟨?_, hle⟩
    show _ = (s.relay.relay.frames W).take s.received
    simp [LinkState.shows, List.filterMap_map, Function.comp_def, hother]
  | @receive m agent hm hagent =>
    have hlt := (List.getElem?_eq_some_iff.mp hm).1
    refine ⟨?_, hlt⟩
    show _ = (s.relay.relay.frames W).take (s.received + 1)
    rw [List.take_add_one]
    have hnext : (s.relay.relay.frames W)[s.received]? = some m.received := by
      unfold NetworkRelay.frames
      rw [List.getElem?_map]
      exact congrArg (Option.map ToAgent.received) hm
    simp [LinkState.shows, hm, hnext, framesOf]

/-! ## A run -/

/-- The agent connects, and its websocket is registered. -/
def startLink : List LinkEvent :=
  [.relay (.agentConnects ⟨0⟩), .relay (.run (.handshake ⟨0⟩) .ok)] ++ startAgent.map .agent ++
    [.relay (.run (.handshake ⟨0⟩) .next),
      .relay (.run (.handshake ⟨0⟩) (.permit (some "agent")))]

/-- An access client opens a session, its socket is opened, and the session is in its loop. -/
def openLink (A : ClientSocket) (c : ConnectionId) : List LinkEvent :=
  (requestConnection A "agent" c).map .relay ++
    [.receive, .agent (.main .ok), .agent (.main .ok), .relay (.run (.msgLoop ⟨0⟩) .next),
      .relay (.run (.client A) .ok), .relay (.run (.client A) .ok)]

end HttpNetworkRelay
