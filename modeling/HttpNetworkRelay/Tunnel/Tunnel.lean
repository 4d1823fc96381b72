import HttpNetworkRelay.Client.Stream
import HttpNetworkRelay.Link.Streams
import HttpNetworkRelay.Relay.Greeting
import HttpNetworkRelay.Relay.SessionInput
import HttpNetworkRelay.Tunnel.Names

/-!
# The tunnel

A link with an access client at its other end: the two directions of the access client's websocket
are reliable FIFO channels, as those of the agent's are. The relay receives what the access client
has handed to `send`, and the access client receives what the relay has handed to `send`, each in
its order. Other agents, other access clients and the targets do what they like.

`tunnelStep` is a machine whose components are the link and the access client: `tunnel_link` and
`tunnel_client` take a run of the tunnel apart.
-/

namespace HttpNetworkRelay

open Asyncio Python

/-- A link, an access client, how many of its frames the relay has received, and how many messages
it has received from the relay. -/
structure TunnelState where
  link : LinkState := {}
  client : AccessClientState := {}
  received : ℕ := 0
  delivered : ℕ := 0

/-- The steps of the three parties, and the messages between the relay and the access client. -/
inductive TunnelEvent
  /-- A step of the link that is no receive from the access client. -/
  | link (e : LinkEvent)
  /-- A step of the access client that is no receive. -/
  | client (e : AccessClientEvent)
  /-- The relay receives the next frame of the access client. -/
  | up
  /-- The access client receives the next message of the relay. -/
  | down
  deriving DecidableEq, Repr

/-- The relay receives a frame on the websocket. -/
def LinkEvent.receivesFrom (access_client_connection : ClientSocket) : LinkEvent → Bool
  | .relay (.run (.client ws) (.frame _)) => ws = access_client_connection
  | _ => false

/-- The access client receives a message. -/
def AccessClientEvent.receives : AccessClientEvent → Bool
  | .main (.frame _) => true
  | _ => false

/-- What an event of the link shows at the sockets of the targets. -/
def LinkState.ends (W : AgentSocket) (s : LinkState) : LinkEvent → List TunnelEnd
  | .relay _ => []
  | .agent e => s.agent.ends e
  | .receive => (s.next? W).toList.flatMap fun m => s.agent.ends (.main (.frame m.received))

/-- What a run of the tunnel shows: what the link shows, and what happens at the ends. -/
abbrev TunnelShown := (Shown ⊕ AgentShown) ⊕ TunnelEnd

namespace TunnelState

variable (cfg : RelayConfig) (acfg : AgentConfig) (ccfg : AccessClientConfig) (W : AgentSocket)
  (A : ClientSocket) (s : TunnelState)

/-- The next frame that the relay will receive from the access client. -/
def nextFrame? : Option ClientFrame := s.client.to_relay[s.received]?

/-- The next message that the access client will receive. -/
def nextMessage? : Option ToClient := (s.link.relay.relay.to_client A)[s.delivered]?

/-- What an event shows. -/
def shows : TunnelEvent → List TunnelShown
  | .link e => (s.link.shows acfg W e).map .inl ++ (s.link.ends W e).map .inr
  | .client e => (s.client.ends e).map .inr
  | .up => s.nextFrame?.toList.flatMap fun frame =>
      (s.link.shows acfg W (.relay (.run (.client A) (.frame frame)))).map .inl
  | .down => (s.nextMessage? A).toList.flatMap fun m =>
      (s.client.ends (.main (.frame m.received))).map .inr

/-- Every other agent names in its messages only ids that the relay has sent to it, and the start
message of the agent has no attribute `connection_id`. -/
def namesOwn : TunnelEvent → Bool
  | .link e => s.link.namesOwn e
  | _ => true

end TunnelState

/-- The step function of the tunnel between the access client on `A` and the agent on `W`. -/
def tunnelStep (cfg : RelayConfig) (acfg : AgentConfig) (ccfg : AccessClientConfig)
    (W : AgentSocket) (A : ClientSocket) (s : TunnelState) : TunnelEvent → Option TunnelState
  | .link e =>
    if e.receivesFrom A then none
    else (linkStep cfg acfg W s.link e).map fun link => { s with link }
  | .client e =>
    if e.receives then none
    else (accessClientStep ccfg s.client e).map fun client => { s with client }
  | .up => do
    let frame ← s.nextFrame?
    let link ← linkStep cfg acfg W s.link (.relay (.run (.client A) (.frame frame)))
    return { s with link, received := s.received + 1 }
  | .down => do
    let m ← s.nextMessage? A
    let client ← accessClientStep ccfg s.client (.main (.frame m.received))
    return { s with client, delivered := s.delivered + 1 }

/-! ## The parts of a run -/

variable {cfg : RelayConfig} {acfg : AgentConfig} {ccfg : AccessClientConfig} {W : AgentSocket}
  {A : ClientSocket} {s s' : TunnelState} {e : TunnelEvent}
  {ok : TunnelState → TunnelEvent → Prop} {l : List TunnelShown}

/-- A step of the tunnel. -/
inductive TunnelRule (cfg : RelayConfig) (acfg : AgentConfig) (ccfg : AccessClientConfig)
    (W : AgentSocket) (A : ClientSocket) (s : TunnelState) : TunnelEvent → TunnelState → Prop
  | link {e link} (he : e.receivesFrom A = false) (h : linkStep cfg acfg W s.link e = some link) :
      TunnelRule cfg acfg ccfg W A s (.link e) { s with link }
  | client {e client} (he : e.receives = false)
      (h : accessClientStep ccfg s.client e = some client) :
      TunnelRule cfg acfg ccfg W A s (.client e) { s with client }
  | up {frame link} (hframe : s.client.to_relay[s.received]? = some frame)
      (h : linkStep cfg acfg W s.link (.relay (.run (.client A) (.frame frame))) = some link) :
      TunnelRule cfg acfg ccfg W A s .up { s with link, received := s.received + 1 }
  | down {m client} (hm : (s.link.relay.relay.to_client A)[s.delivered]? = some m)
      (h : accessClientStep ccfg s.client (.main (.frame m.received)) = some client) :
      TunnelRule cfg acfg ccfg W A s .down { s with client, delivered := s.delivered + 1 }

/-- What a step of the tunnel can be. -/
theorem tunnelStep_rule (h : tunnelStep cfg acfg ccfg W A s e = some s') :
    TunnelRule cfg acfg ccfg W A s e s' := by
  unfold tunnelStep at h
  split at h
  case h_1 e =>
    split_ifs at h with he
    obtain ⟨link, hlink, rfl⟩ := Option.map_eq_some_iff.mp h
    exact .link (by simpa using he) hlink
  case h_2 e =>
    split_ifs at h with he
    obtain ⟨client, hclient, rfl⟩ := Option.map_eq_some_iff.mp h
    exact .client (by simpa using he) hclient
  case h_3 =>
    obtain ⟨frame, hframe, h⟩ := Option.bind_eq_some_iff.mp h
    obtain ⟨link, hlink, h⟩ := Option.bind_eq_some_iff.mp h
    obtain rfl := Option.some.inj h
    exact .up hframe hlink
  case h_4 =>
    obtain ⟨m, hm, h⟩ := Option.bind_eq_some_iff.mp h
    obtain ⟨client, hclient, h⟩ := Option.bind_eq_some_iff.mp h
    obtain rfl := Option.some.inj h
    exact .down hm hclient

/-- What the link shows in a run of the tunnel. -/
abbrev linkShown (l : List TunnelShown) : List (Shown ⊕ AgentShown) := l.filterMap Sum.getLeft?

/-- What happens at the ends in a run of the tunnel. -/
abbrev endsShown (l : List TunnelShown) : List TunnelEnd := l.filterMap Sum.getRight?

/-- A step of the link shows the relay what it shows without the access client. -/
theorem linkShown_link (e : LinkEvent) :
    (s.shows acfg W A (.link e)).filterMap Sum.getLeft? = s.link.shows acfg W e := by
  simp [TunnelState.shows, List.filterMap_map, Function.comp_def]

/-- A step of the access client shows the relay nothing. -/
theorem linkShown_client (e : AccessClientEvent) :
    (s.shows acfg W A (.client e)).filterMap Sum.getLeft? = [] := by
  simp [TunnelState.shows, List.filterMap_map, Function.comp_def]

/-- A frame of the access client that comes up is shown as received by the relay. -/
theorem linkShown_up {frame : ClientFrame} (hframe : s.client.to_relay[s.received]? = some frame) :
    (s.shows acfg W A .up).filterMap Sum.getLeft? =
      s.link.shows acfg W (.relay (.run (.client A) (.frame frame))) := by
  simp [TunnelState.shows, TunnelState.nextFrame?, hframe, List.filterMap_map, Function.comp_def]

/-- A message that comes down shows the relay nothing. -/
theorem linkShown_down {m : ToClient}
    (hm : (s.link.relay.relay.to_client A)[s.delivered]? = some m) :
    (s.shows acfg W A .down).filterMap Sum.getLeft? = [] := by
  simp [TunnelState.shows, TunnelState.nextMessage?, hm, List.filterMap_map, Function.comp_def]

/-- A step of the link shows what its ends do. -/
theorem endsShown_link (e : LinkEvent) :
    (s.shows acfg W A (.link e)).filterMap Sum.getRight? = s.link.ends W e := by
  simp [TunnelState.shows, List.filterMap_map, Function.comp_def]

/-- A step of the access client shows what its ends do. -/
theorem endsShown_client (e : AccessClientEvent) :
    (s.shows acfg W A (.client e)).filterMap Sum.getRight? = s.client.ends e := by
  simp [TunnelState.shows, List.filterMap_map, Function.comp_def]

/-- A frame that comes up shows nothing of the ends. -/
theorem endsShown_up : (s.shows acfg W A .up).filterMap Sum.getRight? = [] := by
  cases hframe : s.nextFrame? with
  | none => simp [TunnelState.shows, hframe]
  | some frame => simp [TunnelState.shows, hframe, List.filterMap_map, Function.comp_def]

/-- A message that comes down shows what the access client prints. -/
theorem endsShown_down {m : ToClient}
    (hm : (s.link.relay.relay.to_client A)[s.delivered]? = some m) :
    (s.shows acfg W A .down).filterMap Sum.getRight? =
      s.client.ends (.main (.frame m.received)) := by
  simp [TunnelState.shows, TunnelState.nextMessage?, hm, List.filterMap_map, Function.comp_def]

/-- The link's part of a run of the tunnel is a run of the link, under what is known of its events.
-/
theorem tunnel_link_of {ok' : LinkState → LinkEvent → Prop}
    (hlink : ∀ s e, ok s (.link e) → ok' s.link e)
    (hup : ∀ s frame, ok' s (.relay (.run (.client A) (.frame frame))))
    (h : Traced (tunnelStep cfg acfg ccfg W A) ok (TunnelState.shows acfg W A) {} s l) :
    Traced (linkStep cfg acfg W) ok' (LinkState.shows acfg W) {} s.link (linkShown l) := by
  refine h.project TunnelState.link Sum.getLeft? rfl fun s e s' l' hok hstep ht => ?_
  cases tunnelStep_rule hstep with
  | link _ h =>
    rw [linkShown_link]
    exact .step ht (hlink _ _ hok) h
  | client =>
    rw [linkShown_client, List.append_nil]
    exact ht
  | up hframe h =>
    rw [linkShown_up hframe]
    exact .step ht (hup _ _) h
  | down hm =>
    rw [linkShown_down hm, List.append_nil]
    exact ht

/-- The link in a run of the tunnel runs as the link does. -/
theorem tunnel_link
    (h : Traced (tunnelStep cfg acfg ccfg W A) ok (TunnelState.shows acfg W A) {} s l) :
    Traced (linkStep cfg acfg W) (fun _ _ => True) (LinkState.shows acfg W) {} s.link
      (linkShown l) :=
  tunnel_link_of (fun _ _ _ => trivial) (fun _ _ => trivial) h

/-- The access client's part of a run of the tunnel. -/
theorem tunnel_client (h : Reaches (tunnelStep cfg acfg ccfg W A) ok {} s) :
    Reaches (accessClientStep ccfg) (fun _ _ => True) {} s.client := by
  refine h.invariant (I := fun s => Reaches (accessClientStep ccfg) (fun _ _ => True) {} s.client)
    .init fun s e s' _ _ hstep hclient => ?_
  cases tunnelStep_rule hstep with
  | link | up => exact hclient
  | client _ h | down _ h => exact .step hclient trivial h

/-- Which party moves in a step, and what it shows at its end. -/
inductive TunnelMoves (acfg : AgentConfig) (ccfg : AccessClientConfig) (W : AgentSocket)
    (A : ClientSocket) (s : TunnelState) (e : TunnelEvent) (s' : TunnelState) : Prop
  | relay (hends : (s.shows acfg W A e).filterMap Sum.getRight? = [])
      (hagent : s'.link.agent = s.link.agent) (hclient : s'.client = s.client)
  | agent {e'} (hends : (s.shows acfg W A e).filterMap Sum.getRight? = s.link.agent.ends e')
      (hstep : agentStep acfg s.link.agent e' = some s'.link.agent) (hclient : s'.client = s.client)
  | client {e'} (hends : (s.shows acfg W A e).filterMap Sum.getRight? = s.client.ends e')
      (hstep : accessClientStep ccfg s.client e' = some s'.client) (hlink : s'.link = s.link)

/-- A step of the tunnel moves the link, the access client or both. -/
theorem tunnel_moves (hstep : tunnelStep cfg acfg ccfg W A s e = some s') :
    TunnelMoves acfg ccfg W A s e s' := by
  cases tunnelStep_rule hstep with
  | @link e link _ h =>
    cases linkStep_rule h with
    | relay => exact .relay (endsShown_link _) rfl rfl
    | agent _ hagent => exact .agent (endsShown_link _) hagent rfl
    | @receive m agent hm hagent =>
      refine .agent ?_ hagent rfl
      rw [endsShown_link]
      simp [LinkState.ends, hm]
  | client _ h => exact .client (endsShown_client _) h rfl
  | up _ h =>
    cases linkStep_rule h with
    | relay => exact .relay endsShown_up rfl rfl
  | down hm h => exact .client (endsShown_down hm) h rfl

/-! ## What a step keeps -/

/-- Frames that arrive are an evolution of the relay. -/
theorem arrive_evolves (r : RelayState) (W : AgentSocket) (frames : List AgentFrame) :
    Evolves r.relay (r.arrive W frames).relay where
  connection c connection hc := ⟨connection, hc, rfl⟩
  fresh c hnone hsome := by
    have hsome' : (r.relay.connection c).isSome = true := hsome
    rw [hnone] at hsome'
    cases hsome'
  active _ h := .inl h
  queues _ h := .inl h
  client_closed _ h := h
  to_agent _ := List.prefix_rfl
  to_client _ := List.prefix_rfl
  agent_sent W' := by
    rcases eq_or_ne W' W with rfl | hne
    · simp [RelayState.arrive]
    · simp [RelayState.arrive, hne]

/-- A step of the link is an evolution of the relay. -/
theorem link_evolves {s s' : LinkState} {e : LinkEvent}
    (hstep : linkStep cfg acfg W s e = some s') :
    Evolves s.relay.relay s'.relay.relay := by
  cases linkStep_rule hstep with
  | relay _ h => exact step_evolves h
  | agent | receive => exact arrive_evolves _ _ _

/-- A step of the tunnel is an evolution of the relay. -/
theorem tunnel_evolves (hstep : tunnelStep cfg acfg ccfg W A s e = some s') :
    Evolves s.link.relay.relay s'.link.relay.relay := by
  cases tunnelStep_rule hstep with
  | link _ h | up _ h => exact link_evolves h
  | client | down => exact .refl _

/-! ## A run -/

/-- An access client that asks for a connection through the agent. -/
def plainClient : AccessClientConfig where
  target_host_identifier := "agent"
  target_ip := "127.0.0.1"
  target_port := 22
  protocol := "tcp"
  relay_url := some "ws://relay"
  secret := some ""
  validate_bytes _ := none

/-- The agent is registered, the access client asks for a connection, its socket is opened, and both
are in their loops. -/
def openTunnel (A : ClientSocket) (c : ConnectionId) : List TunnelEvent :=
  startLink.map .link ++
    [.link (.relay (.clientConnects A)), .link (.relay (.run (.client A) .ok)),
      .client (.main .ok), .client (.main .ok), .client (.main .ok), .up,
      .link (.relay (.run (.client A) (.allow true c))), .link (.relay (.run (.client A) .ok)),
      .link .receive, .link (.agent (.main .ok)), .link (.agent (.main .ok)),
      .link (.relay (.run (.msgLoop ⟨0⟩) .next)), .link (.relay (.run (.client A) .ok)),
      .link (.relay (.run (.client A) .ok)), .down, .client (.stdin .ok)]

end HttpNetworkRelay
