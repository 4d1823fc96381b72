import HttpNetworkRelay.Link.Flow

/-!
# Peers that disconnect

The link as a closed system: one agent, its targets, and access clients, which can disconnect at any
time. An operation on a websocket fails only when its peer has disconnected, and what the access
clients send is valid; users of the library take no part. `permits` says so of the events of the
relay, and `PeerState` is the link with the peers that have disconnected.

With one agent and nobody else there is no eviction and no scheduled close, and every connection is
that of an access client: `SoleAgent`.
-/

namespace HttpNetworkRelay

open Asyncio Python RelayState NetworkRelay

/-- The other end of a websocket of the relay. -/
inductive Peer
  | agent
  | client (access_client_connection : ClientSocket)
  deriving DecidableEq, Repr

namespace RelayState

variable (s : RelayState)

/-- The access client for which a connection was created. -/
def clientOf (connection_id : ConnectionId) : Option ClientSocket :=
  (s.relay.connection connection_id).bind fun connection =>
    match connection.creator with
    | .client A => some A
    | _ => none

/-- The peer of the websocket that a `close_relayed_connection` waits on. -/
def closePeer? (connection_id : ConnectionId) : CloseRelayedConnection → Option Peer
  | .informing _ => some .agent
  | .closingClient => (s.clientOf connection_id).map .client

/-- The peer of the websocket that a task waits on. -/
def peer? : Task → Option Peer
  | .handshake ws =>
    match s.handshake ws with
    | some (.checking _) => none
    | _ => some .agent
  | .keepAlive _ => some .agent
  | .msgLoop ws =>
    match s.msgLoop ws with
    | some ⟨_, .receiving⟩ => some .agent
    | some ⟨_, .resetting c pc⟩ => s.closePeer? c pc
    | some ⟨_, .tearingDown pc⟩ => s.closePeer? pc.current pc.pc
    | _ => none
  | .client A =>
    match s.client A with
    | some (.creating _ _) | some (.forwarding _ _ _) => some .agent
    | some (.closing c pc) => s.closePeer? c pc
    | some (.checking _) | none => none
    | some _ => some (.client A)
  | .reader c => (s.reader c).map fun reader => .client reader.access_client_connection
  | _ => none

/-- What comes back from a websocket is what Starlette gives back: `receive` fails with a disconnect
and with nothing else, and a frame of an access client is a valid message. -/
def valid : Task → Outcome → Bool
  | .msgLoop ws, .raised e =>
    match s.msgLoop ws with
    | some ⟨_, .receiving⟩ => e = .webSocketDisconnect
    | _ => true
  | .client A, .raised e =>
    match s.client A with
    | some (.receiving _) => e = .webSocketDisconnect
    | _ => true
  | .client _, .frame content => !content.malformed
  | _, _ => true

/-- What can happen to a relay whose one agent is on `W`: no other agent connects, users of the
library do nothing, and an operation on a websocket fails only when its peer has gone. -/
def permits (W : AgentSocket) (gone : Peer → Bool) : RelayEvent → Bool
  | .agentConnects ws => ws = W
  | .create _ _ _ | .close _ | .send _ _ _ => false
  | .run t o => (!o.lost || (s.peer? t).all gone) && s.valid t o
  | _ => true

/-- No exception leaves an `edge_agent_connection_close`. -/
def tearsQuietly : RelayEvent → Bool
  | .run t o => (s.tearing? t).all fun pc => !pc.raises o
  | _ => true

end RelayState

/-- The link, and which peers have disconnected. -/
structure PeerState where
  link : LinkState := {}
  disconnected : Peer → Bool := fun _ => false

/-- The steps of the link, and the departures of its peers. -/
inductive PeerEvent
  | link (e : LinkEvent)
  | disconnects (p : Peer)
  deriving DecidableEq, Repr

/-- The step function of the link with its peers. -/
def peerStep (cfg : RelayConfig) (acfg : AgentConfig) (W : AgentSocket) (s : PeerState) :
    PeerEvent → Option PeerState
  | .link e => (linkStep cfg acfg W s.link e).map fun link => { s with link }
  | .disconnects p => some { s with disconnected := Function.update s.disconnected p true }

namespace PeerState

variable (W : AgentSocket) (s : PeerState)

/-- A peer is not at its websocket any more. The agent is not when it has left its session, either.
-/
def gone : Peer → Bool
  | .agent => s.disconnected .agent || s.link.agent.gone
  | .client A => s.disconnected (.client A)

/-- What can happen in the system. -/
def permits : PeerEvent → Bool
  | .link (.relay e) => s.link.relay.permits W s.gone e
  | _ => true

/-- No exception leaves an `edge_agent_connection_close`. -/
def tearsQuietly : PeerEvent → Bool
  | .link (.relay e) => s.link.relay.tearsQuietly e
  | _ => true

end PeerState

/-! ## One agent and nobody else -/

/-- The message loop has received a disconnect, or has ended. -/
def MsgLoop.ended : MsgLoop → Bool
  | .tearingDown _ | .finished _ => true
  | _ => false

/-- The agent on `W` is the only one, and every connection is that of an access client. -/
structure SoleAgent (W : AgentSocket) (s : RelayState) : Prop where
  handshake : ∀ ws, ws ≠ W → s.handshake ws = none
  evicting : ∀ m n pc, s.handshake W ≠ some (.evicting m n pc)
  registered : ∀ n pc, s.msgLoop W = some ⟨n, pc⟩ → pc.ended = false →
    s.relay.registered_agent_connections n = some W
  connection : ∀ c connection, s.relay.connection c = some connection →
    connection.agent_connection = W ∧ ∃ A, Owned s.relay c A
  call : ∀ k, s.call k = none
  closer : ∀ k, s.closer k = none

variable {cfg : RelayConfig} {W : AgentSocket} {gone : Peer → Bool} {s s' : RelayState}
  {e : RelayEvent} {t : Task} {o : Outcome} {c : ConnectionId}

/-- Where a resumption is permitted, its outcome is a valid one, and a loss is that of a peer that
has gone. -/
theorem permits_run (h : s.permits W gone (.run t o) = true) :
    (o.lost = true → (s.peer? t).all gone = true) ∧ s.valid t o = true := by
  simp only [RelayState.permits, Bool.and_eq_true, Bool.or_eq_true, Bool.not_eq_true'] at h
  refine ⟨fun hlost => ?_, h.2⟩
  rcases h.1 with hnot | hgone
  · rw [hlost] at hnot
    cases hnot
  · exact hgone

namespace SoleAgent

/-- At the start no agent is registered, and there are no connections. -/
theorem initial (W : AgentSocket) : SoleAgent W {} where
  handshake _ _ := rfl
  evicting _ _ _ h := by cases h
  registered _ _ h := by cases h
  connection _ _ h := by cases h
  call _ := rfl
  closer _ := rfl

section
variable (hS : SoleAgent W s)
include hS

/-- There is no message loop but that of the agent. -/
theorem msgLoop (hI : RegistryInv s) {ws : AgentSocket} {task : MsgLoopTask}
    (h : s.msgLoop ws = some task) : ws = W := by
  by_contra hne
  have hdone := hI.msgLoop ws task h
  rw [hS.handshake ws hne] at hdone
  cases hdone

/-- Nobody else is registered. -/
theorem registered_eq (hI : RegistryInv s) {n : AgentId} {ws : AgentSocket}
    (h : s.relay.registered_agent_connections n = some ws) : ws = W := by
  by_contra hne
  have hdone := hI.registered n ws h
  rw [hS.handshake ws hne] at hdone
  cases hdone

/-- The tasks that can be in a close. -/
theorem closing_cases (hI : RegistryInv s) {pc : CloseRelayedConnection}
    (h : s.closing? t = some (c, pc)) :
    (t = .msgLoop W ∧ ∃ n, s.msgLoop W = some ⟨n, .resetting c pc⟩) ∨
      (t = .msgLoop W ∧ ∃ n td, s.msgLoop W = some ⟨n, .tearingDown td⟩ ∧ td.current = c ∧
        td.pc = pc) ∨
      ∃ A, t = .client A ∧ s.client A = some (.closing c pc) := by
  unfold closing? at h
  split at h
  case h_1 ws =>
    split at h
    case h_1 m n td hpc =>
      by_cases hW : ws = W
      · subst hW
        exact absurd hpc (hS.evicting m n td)
      · rw [hS.handshake ws hW] at hpc
        cases hpc
    case h_2 => cases h
  case h_2 ws =>
    split at h
    case h_1 n c₁ pc₁ hpc =>
      obtain ⟨rfl, rfl⟩ := Prod.mk.inj (Option.some.inj h)
      obtain rfl := hS.msgLoop hI hpc
      exact .inl ⟨rfl, n, hpc⟩
    case h_2 n td hpc =>
      obtain ⟨rfl, rfl⟩ := Prod.mk.inj (Option.some.inj h)
      obtain rfl := hS.msgLoop hI hpc
      exact .inr (.inl ⟨rfl, n, td, hpc, rfl, rfl⟩)
    case h_3 => cases h
  case h_3 A =>
    split at h
    case h_1 c₁ pc₁ hpc =>
      obtain ⟨rfl, rfl⟩ := Prod.mk.inj (Option.some.inj h)
      exact .inr (.inr ⟨A, rfl, hpc⟩)
    case h_2 => cases h
  case h_4 k =>
    simp [hS.closer k] at h
  case h_5 => cases h

end

section
variable (hS : SoleAgent W s) (hr : RegistryInv s) (hok : s.permits W gone e = true)
  (h : RelayRule cfg s e s')
include hS hok h

/-- No other websocket shakes hands. -/
theorem handshake_step {ws : AgentSocket} (hne : ws ≠ W) : s'.handshake ws = none := by
  have hnone := hS.handshake ws hne
  rw [handshake_frame h ?_ ?_, hnone]
  · rintro o rfl
    cases h with
    | handshake hpc => simp [hnone] at hpc
  · rintro rfl
    exact hne (by simpa [RelayState.permits] using hok)

/-- No task calls for a connection. -/
theorem call_step (k : ℕ) : s'.call k = none := by
  have hnone := hS.call k
  rw [call_frame h ?_ ?_, hnone]
  · rintro o rfl
    cases h with
    | call hpc => simp [hnone] at hpc
  · rintro request c rfl
    simp [RelayState.permits] at hok

/-- No task of the user closes one. -/
theorem closer_step (k : ℕ) : s'.closer k = none := by
  have hnone := hS.closer k
  have hsame : SameClosers s s' → s'.closer k = none := fun hsame => by rw [hsame.closer, hnone]
  cases h with
  | close => simp [RelayState.permits] at hok
  | handshake _ h => exact hsame h.frame.2.1
  | keepAlive _ h => exact hsame h.frame.2.1
  | msgLoop _ h =>
    cases h with
    | receives _ h =>
      cases h with
      | @schedules c connection _ _ hc hcls =>
        -- Only the close of a `TcpConnection` is scheduled.
        obtain ⟨-, A, connection', hc', -, hcls'⟩ := hS.connection c connection hc
        have hc : s.relay.connection c = some connection := hc
        obtain rfl := Option.some.inj (hc.symm.trans hc')
        rw [hcls] at hcls'
        cases hcls'
      | _ => exact hsame ⟨rfl, rfl⟩
    | _ => exact hsame ⟨rfl, rfl⟩
  | client _ h => exact hsame h.frame.2.1
  | reader _ _ h => exact hsame h.frame.2.1
  | @closes k' _ _ _ _ hpc => simp [hS.closer k'] at hpc
  | @closing k' _ _ _ _ _ _ hpc => simp [hS.closer k'] at hpc
  | _ => exact hsame ⟨rfl, rfl⟩

include hr

/-- The handshake evicts nobody. -/
theorem evicting_step (m : EtRStartMessage) (n : AgentId) (pc : EdgeAgentConnectionClose) :
    s'.handshake W ≠ some (.evicting m n pc) := by
  intro hpc'
  by_cases hrun : ∃ o, e = .run (.handshake W) o
  · obtain ⟨o, rfl⟩ := hrun
    cases h with
    | @handshake _ pc₀ _ _ hpc h =>
      cases h with
      | evicts _ hreg =>
        -- The websocket that is registered is that of the agent, whose handshake is over.
        obtain rfl := hS.registered_eq hr hreg
        cases (hr.registered _ _ hreg).symm.trans hpc
      | evicting => exact hS.evicting _ _ _ hpc
      | receives =>
        simp only [setHandshake, withRelay, Function.update_self, Option.some.injEq] at hpc'
        rcases startReceived_cases cfg ‹_› with ⟨result, heq, -⟩ | ⟨m', heq, -⟩ <;>
          simp [heq] at hpc'
      | _ => simp [openAgent] at hpc'
  · by_cases hconn : e = .agentConnects W
    · subst hconn
      cases h with
      | agentConnects => simp at hpc'
    · rw [handshake_frame h (fun o he => hrun ⟨o, he⟩) hconn] at hpc'
      exact hS.evicting m n pc hpc'

omit hok in
/-- While the message loop is not at its end, its websocket stays registered. -/
theorem registered_step {n : AgentId} {pc : MsgLoop} (hpc' : s'.msgLoop W = some ⟨n, pc⟩)
    (hopen : pc.ended = false) : s'.relay.registered_agent_connections n = some W := by
  by_cases hshake : ∃ ws o, e = .run (.handshake ws) o
  · obtain ⟨ws, o, rfl⟩ := hshake
    cases h with
    | @handshake _ pc₀ _ _ hpc hrule =>
      obtain rfl : ws = W := by
        by_contra hne
        rw [hS.handshake ws hne] at hpc
        cases hpc
      cases hloop : s.msgLoop ws with
      | some task =>
        have hdone := hr.msgLoop ws task hloop
        exact absurd hdone (not_finished_of_run (.handshake hpc hrule) _)
      | none =>
        cases hrule.moved with
        | accepted _ _ _ _ hsame | received _ _ _ _ _ hsame | left _ _ _ _ _ hsame
        | evicts _ _ _ _ _ _ _ hsame =>
          rw [hsame, hloop] at hpc'
          cases hpc'
        | opened r m n₀ _ _ _ hregistered _ hsame =>
          rw [hsame] at hpc'
          obtain ⟨rfl, -⟩ : n₀ = n ∧ MsgLoop.receiving = pc := by simpa using hpc'
          simp [hregistered]
  · by_cases hrun : ∃ o, e = .run (.msgLoop W) o
    · obtain ⟨o, rfl⟩ := hrun
      cases h with
      | @msgLoop _ n₀ pc₀ _ _ hpc hrule =>
        have hkept : ∀ {s₁ : RelayState} {pc₁ : MsgLoop},
            (s₁.setMsgLoop W ⟨n₀, pc₁⟩).msgLoop W = some ⟨n, pc⟩ → n₀ = n ∧ pc₁ = pc := by
          intro s₁ pc₁ heq
          simpa using heq
        have hreg : pc₀.ended = false → s.relay.registered_agent_connections n₀ = some W :=
          hS.registered n₀ pc₀ hpc
        cases hrule with
        | @disconnects _ r' res =>
          obtain ⟨-, rfl⟩ := hkept hpc'
          cases res <;> cases hopen
        | @tearingDown _ _ r' res =>
          obtain ⟨-, rfl⟩ := hkept hpc'
          cases res <;> cases hopen
        | receiveFails =>
          obtain ⟨-, rfl⟩ := hkept hpc'
          cases hopen
        | receives _ hframe =>
          obtain ⟨⟨hsame, -⟩, pc', hloop⟩ := hframe.same
          obtain ⟨rfl, -⟩ : n₀ = n ∧ pc' = pc := by simpa [hloop] using hpc'
          rw [show s'.relay.registered_agent_connections = s.relay.registered_agent_connections from
            congrArg AgentRegistry.registered_agent_connections hsame]
          exact hreg rfl
        | @resetting _ _ _ _ r' res _ hclose =>
          obtain ⟨rfl, -⟩ := hkept hpc'
          have hsame := congrArg AgentRegistry.registered_agent_connections hclose.registry.1
          exact (congrFun hsame n₀).trans (hreg rfl)
        | puts | customHandled =>
          obtain ⟨rfl, -⟩ := hkept hpc'
          exact hreg rfl
    · rw [registry_frame h (fun ws o he => hshake ⟨ws, o, he⟩) ?_]
      · rw [msgLoop_frame h (fun o he => hshake ⟨_, o, he⟩) fun o he => hrun ⟨o, he⟩] at hpc'
        exact hS.registered n pc hpc' hopen
      · rintro ws o rfl
        cases h with
        | msgLoop hpc =>
          obtain rfl := hS.msgLoop hr hpc
          exact hrun ⟨o, rfl⟩

/-- A connection is that of an access client through the only agent. -/
theorem connection_step (hO : Ownership s) {connection : TcpConnection}
    (hc' : s'.relay.connection c = some connection) :
    connection.agent_connection = W ∧ ∃ A, Owned s'.relay c A := by
  cases hc : s.relay.connection c with
  | some connection₀ =>
    obtain ⟨hagent, A, hA⟩ := hS.connection c connection₀ hc
    exact ⟨(same_connection h.evolves hc hc').1.trans hagent, A, hA.evolves h.evolves⟩
  | none =>
    obtain ⟨⟨n, hreg, -⟩, pc, hpending, rfl⟩ := connection_new h hc hc'
    refine ⟨hS.registered_eq hr hreg, ?_⟩
    cases hcreator : connection.creator with
    | client A =>
      rw [hcreator] at hpending
      simp only [pending?] at hpending
      split at hpending
      case h_1 binary pc₁ hpc =>
        obtain rfl := Option.some.inj hpending
        exact ⟨A, (hO.preserved h).client A _ _ hpc rfl⟩
      case h_2 => cases hpending
    | call k =>
      rw [hcreator] at hpending
      simp [pending?, hS.call_step hok h k] at hpending
    | _ =>
      rw [hcreator] at hpending
      cases hpending

/-- A step keeps the agent alone. -/
theorem preserved (hO : Ownership s) : SoleAgent W s' where
  handshake _ := hS.handshake_step hok h
  evicting := hS.evicting_step hr hok h
  registered _ _ := hS.registered_step hr h
  connection _ _ := hS.connection_step hr hok h hO
  call := hS.call_step hok h
  closer := hS.closer_step hok h

end

/-- The message loop ends in order. -/
theorem orderly (hS : SoleAgent W s) (hI : RegistryInv s)
    (hok : s.permits W gone e = true) (hquiet : s.tearsQuietly e = true)
    (hgood : ∀ frame ∈ s.relay.inbox W, frame.malformed cfg = false) :
    OrderlyLoops cfg s e = true := by
  unfold OrderlyLoops
  split
  case h_1 W' o =>
    obtain ⟨-, hvalid⟩ := permits_run hok
    split
    case h_1 n hpc =>
      obtain rfl := hS.msgLoop hI hpc
      have hreg := hS.registered n _ hpc rfl
      split
      · cases hin : s.relay.inbox W' with
        | nil => rfl
        | cons frame rest =>
          have hframe := hgood frame (by rw [hin]; exact List.mem_cons_self)
          simp [hframe]
      · simp [hreg]
      · simp [hreg]
      · simp_all [RelayState.valid]
      · rfl
    case h_2 n pc hpc =>
      have htearing : s.tearing? (.msgLoop W') = some pc := by simp [tearing?, hpc]
      simpa [RelayState.tearsQuietly, htearing] using hquiet
    case h_3 => rfl
  case h_2 => rfl

end SoleAgent

/-! ## The frames of the agent -/

/-- No frame comes to the websocket in a step of the relay. -/
theorem inbox_step (h : RelayRule cfg s e s') (hother : e.sentOn W = false)
    {frame : AgentFrame}
    (hframe : frame ∈ s'.relay.inbox W) : frame ∈ s.relay.inbox W := by
  have htakes : ∀ {W' rest first}, s.relay.inbox W' = first :: rest →
      s'.relay.toAgentSide = (s.relay.setInbox W' rest).toAgentSide → frame ∈ s.relay.inbox W := by
    intro W' rest first hin hagents
    rw [show s'.relay.inbox W = (s.relay.setInbox W' rest).inbox W from
      congrFun (congrArg AgentSide.inbox hagents) W] at hframe
    rcases eq_or_ne W W' with rfl | hne
    · rw [hin]
      exact List.mem_cons_of_mem _ (by simpa using hframe)
    · simpa [hne] using hframe
  cases agents_of_rule h with
  | same hagents =>
    rwa [show s'.relay.inbox = s.relay.inbox from congrArg AgentSide.inbox hagents] at hframe
  | sends W' frame' he =>
    subst he
    have hne : W ≠ W' := by
      rintro rfl
      simp [RelayEvent.sentOn] at hother
    cases h with
    | agentSends => simpa [hne] using hframe
  | dies W' he =>
    subst he
    cases h with
    | agentDies => exact hframe
  | starts _ _ hin hagents | receives _ _ hin hagents => exact htakes hin hagents

end HttpNetworkRelay
