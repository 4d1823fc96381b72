import HttpNetworkRelay.Link.Agreement
import HttpNetworkRelay.Tunnel.AgentEnds

/-!
# The ids that an agent names

The relay takes it for granted that an agent names in its messages only connections that the relay
has asked it for (`NamesOwn`). For the modelled agent of a link this is a theorem, `names_own`. It
remains an assumption about the other agents, and about the start message, which the subclass of
`EdgeAgent` makes.
-/

namespace HttpNetworkRelay

open Asyncio Python

/-- The other agents name only ids that the relay has sent to them, and the start message has no
attribute `connection_id`. -/
def LinkState.namesOwn (s : LinkState) : LinkEvent → Bool
  | .relay e => NamesOwn s.relay e
  | .agent (.main (.start message)) => (EdgeAgentToRelayMessage.start message).connection_id?.isNone
  | _ => true

variable {cfg : RelayConfig} {acfg : AgentConfig} {W : AgentSocket}

/-- The relay has asked for the connection. -/
theorem asked_of_asks {r : NetworkRelay} {c : ConnectionId} {m : ToAgent} (hm : m ∈ r.to_agent W)
    (hasks : m.received.asks? = some c) : r.asked W c = true := by
  refine List.any_eq_true.mpr ⟨m, hm, ?_⟩
  match m with
  | .text (.initiateConnection _ _ _ c' _) =>
    obtain rfl : c' = c := Option.some.inj hasks
    exact decide_eq_true rfl
  | .bytes _ | .text (.tcpData _ _) | .text (.connectionClose _ _) | .text .keepAlive => cases hasks

/-- What the agent has received was sent to it. -/
theorem received_mem {ok : LinkState → LinkEvent → Prop} {s : LinkState}
    {l : List (Shown ⊕ AgentShown)}
    (h : Traced (linkStep cfg acfg W) ok (LinkState.shows acfg W) {} s l) {frame : RelayFrame}
    (hframe : frame ∈ framesOf (agentShown l)) :
    ∃ m ∈ s.relay.relay.to_agent W, m.received = frame := by
  have hreceived := received_take h
  exact List.mem_map.mp (hreceived.subset hframe)

section
variable {s s' : LinkState} {e : LinkEvent} {ok : LinkState → LinkEvent → Prop}
  {l : List (Shown ⊕ AgentShown)} {e' : AgentEvent} {agent : AgentState} {received : ℕ}
  (h : Traced (linkStep cfg acfg W) ok (LinkState.shows acfg W) {} s l)
  (hstep : agentStep acfg s.agent e' = some agent)
  (hreceived : ∀ frame, e' = .main (.frame frame) → ∃ m ∈ s.relay.relay.to_agent W,
    m.received = frame)
include h hstep hreceived

/-- A connection that a new frame of the agent names has been asked for. -/
theorem sends_asked (hserved : ∀ c, agent.agent.Served c → s.relay.relay.asked W c = true)
    (hcanonical : ∀ n task, s.agent.reader n = some task →
      canonical task.request.connection_id = true)
    {frame : AgentFrame} (hsends : AgentSends s.agent e' 0 frame)
    (hto : agent.agent.to_relay 0 = s.agent.agent.to_relay 0 ++ [frame])
    (hstart : ∀ message, e' = .main (.start message) →
      (EdgeAgentToRelayMessage.start message).connection_id? = none)
    {c : ConnectionId} (hc : frame.named? = some c) : s.relay.relay.asked W c = true := by
  have hD := link_delivered h
  have hrule := agentStep_rule hstep
  have hkeeps := hrule.keeps (sockets (own_trace h).reaches).unopened
  have hasks : ∀ {frame : RelayFrame}, frame ∈ framesOf (agentShown l) → frame.asks? = some c →
      s.relay.relay.asked W c = true := by
    intro frame hframe hask
    obtain ⟨m, hm, rfl⟩ := received_mem h hframe
    exact asked_of_asks hm hask
  generalize 0 = session at hsends hto
  cases hsends with
  | @start message =>
    have hnone := hstart message rfl
    simp only [EdgeAgentToRelayMessage.connection_id?] at hnone
    simp [AgentFrame.named?, AgentFrame.data?, AgentFrame.reset?, AgentFrame.answer?,
      EdgeAgentToRelayMessage.connection_id?, hnone] at hc
  | @unsupported frame protocol request _ hrequest =>
    obtain ⟨m, hm, rfl⟩ := hreceived _ rfl
    obtain rfl : request.connection_id = c := by
      simpa [AgentFrame.named?, AgentFrame.data?, AgentFrame.reset?, AgentFrame.answer?] using hc
    exact asked_of_asks hm (by simp [RelayFrame.asks?, hrequest])
  | @unopened request error text hmain =>
    obtain rfl : request.connection_id = c := by
      simpa [AgentFrame.named?, AgentFrame.data?, AgentFrame.reset?, AgentFrame.answer?] using hc
    obtain ⟨-, ⟨frame, hframe, hask⟩, -⟩ := hD.opening request hmain
    exact hasks hframe hask
  | @opened request hmain =>
    obtain rfl : request.connection_id = c := by
      simpa [AgentFrame.named?, AgentFrame.data?, AgentFrame.reset?, AgentFrame.answer?] using hc
    obtain ⟨-, ⟨frame, hframe, hask⟩, -⟩ := hD.opening request hmain
    exact hasks hframe hask
  | @unanswered request n error text hmain =>
    obtain rfl : request.connection_id = c := by
      simpa [AgentFrame.named?, AgentFrame.data?, AgentFrame.reset?, AgentFrame.answer?] using hc
    have hopened := (sockets (own_trace h).reaches).answering request n hmain
    exact hserved _ (hopened.served.keeps hkeeps)
  | @reset c' n text hmain =>
    obtain rfl : c' = c := by
      simpa [AgentFrame.named?, AgentFrame.data?, AgentFrame.reset?, AgentFrame.answer?] using hc
    obtain ⟨request, hopened, rfl⟩ := (sockets (own_trace h).reaches).draining c' n hmain
    exact hserved _ (hopened.served.keeps hkeeps)
  | keepAlive => cases hc
  | @chunk n task data frame htask hpoint hdata hframe =>
    have hopened := (sockets (own_trace h).reaches).reader n task htask
    have hserved' := hserved _ (hopened.served.keeps hkeeps)
    obtain ⟨frame', hframe', hcarried⟩ := chunkFrame_data? (hcanonical n task htask) data
    obtain rfl := Except.ok.inj (hframe'.symm.trans hframe)
    obtain rfl : task.request.connection_id = c := by
      simpa [AgentFrame.named?, hcarried] using hc
    exact hserved'
  | @closed n task o htask =>
    obtain rfl : task.request.connection_id = c := by
      simpa [AgentFrame.named?, AgentFrame.data?, AgentFrame.reset?, AgentFrame.answer?] using hc
    have hopened := (sockets (own_trace h).reaches).reader n task htask
    exact hserved _ (hopened.served.keeps hkeeps)

end

section
variable {s s' : LinkState} {e : LinkEvent} {l : List (Shown ⊕ AgentShown)}

/-- The agent of a link is grammatical. -/
theorem link_spoken {ok : LinkState → LinkEvent → Prop}
    (h : Traced (linkStep cfg acfg W) ok (LinkState.shows acfg W) {} s l) :
    Spoken s.agent (agentShown l) := by
  obtain ⟨more, hmore⟩ := received_take h
  have hr := (relay_trace h).reaches
  refine agent_spoken (agent_trace h) ?_ fun frame hframe c hasks => ?_
  · have hfirst := asked_first hr W
    rw [← hmore] at hfirst
    exact hfirst.of_append
  · obtain ⟨m, hm, rfl⟩ := received_mem h hframe
    refine canonical_ids hr c ?_
    have haddressed := (outgoing hr).sent W m hm
    cases haddressed with
    | keepAlive | close => cases hasks
    | @request request c' connection hc =>
      obtain rfl : c' = c := about_request (.inl hasks)
      rw [hc]
      rfl
    | data hc hdata =>
      rw [asks?_of_data? (dataMessage_data? (canonical_ids hr _ (by rw [hc]; rfl)) hdata)] at hasks
      cases hasks

/-- The readers of the agent are for connections of the relay, in the first session. -/
theorem link_readers {ok : LinkState → LinkEvent → Prop}
    (h : Traced (linkStep cfg acfg W) ok (LinkState.shows acfg W) {} s l) :
    ∀ n task, s.agent.reader n = some task →
      task.session = 0 ∧ canonical task.request.connection_id = true := by
  intro n task htask
  have hopened := (sockets (own_trace h).reaches).reader n task htask
  exact ⟨(link_entries h).readers n task htask,
    canonical_ids (relay_trace h).reaches _ (served_connection h hopened.served)⟩

/-- A step of the agent in a run of the relay in which agents name their own ids. -/
theorem names_moves {ok : LinkState → LinkEvent → Prop} {e' : AgentEvent} {agent : AgentState}
    (received : ℕ)
    (ht : Traced (linkStep cfg acfg W) ok (LinkState.shows acfg W) {} s l)
    (ht' : ∃ l', Traced (linkStep cfg acfg W) (fun _ _ => True) (LinkState.shows acfg W) {}
      { s.moves W agent with received } l')
    (hstep : agentStep acfg s.agent e' = some agent)
    (hreceived : ∀ frame, e' = .main (.frame frame) → ∃ m ∈ s.relay.relay.to_agent W,
      m.received = frame)
    (hstart : ∀ message, e' = .main (.start message) →
      (EdgeAgentToRelayMessage.start message).connection_id? = none)
    (hnames : Reaches (step cfg) (NamesOwn · ·) {} s.relay) :
    Reaches (step cfg) (NamesOwn · ·) {} (s.moves W agent).relay := by
  obtain ⟨l', ht'⟩ := ht'
  have hserved : ∀ c, agent.agent.Served c → s.relay.relay.asked W c = true := by
    intro c hc
    obtain ⟨m, hm, hasks⟩ := served_asked ht' hc
    exact asked_of_asks hm hasks
  have hcanonical : ∀ n task, s.agent.reader n = some task →
      canonical task.request.connection_id = true :=
        fun n task htask => (link_readers ht n task htask).2
  rcases (agentStep_rule hstep).sent_in 0 with hsame | ⟨frame, hsends, hto⟩
  · have hframes : (s.moves W agent).relay = s.relay := by
      simp [LinkState.moves, hsame, RelayState.arrive]
    rw [hframes]
    exact hnames
  · have hframes : (s.moves W agent).relay = s.relay.arrive W [frame] := by
      simp [LinkState.moves, hto]
    rw [hframes]
    refine hnames.step (e := .agentSends W frame) ?_ rfl
    show frame.named?.all (s.relay.relay.asked W) = true
    rw [Option.all_eq_true]
    intro c hc
    exact sends_asked ht hstep hreceived hserved hcanonical hsends hto hstart hc

/-- The edge agent names only connections that it was asked for. -/
theorem names_own
    (h : Traced (linkStep cfg acfg W) (LinkState.namesOwn · ·) (LinkState.shows acfg W) {} s l) :
    Reaches (step cfg) (NamesOwn · ·) {} s.relay := by
  refine h.invariant (I := fun s _ => Reaches (step cfg) (NamesOwn · ·) {} s.relay) .init
    fun s e s' l ht hok hstep hnames => ?_
  have ht' : Traced (linkStep cfg acfg W) (fun _ _ => True) (LinkState.shows acfg W) {} s'
      (l ++ s.shows acfg W e) := (ht.step hok hstep).mono fun _ _ _ => trivial
  cases linkStep_rule hstep with
  | relay _ hrelay => exact hnames.step hok hrelay
  | @agent e agent hown hagent =>
    refine names_moves s.received ht ⟨_, ht'⟩ hagent ?_ ?_ hnames
    · rintro frame rfl
      cases hown
    · rintro message rfl
      exact Option.isNone_iff_eq_none.mp hok
  | @receive m agent hm hagent =>
    refine names_moves (s.received + 1) ht ⟨_, ht'⟩ hagent ?_ ?_ hnames
    · intro frame hframe
      cases hframe
      exact ⟨m, List.mem_of_getElem? hm, rfl⟩
    · intro message hmessage
      cases hmessage

end

end HttpNetworkRelay
