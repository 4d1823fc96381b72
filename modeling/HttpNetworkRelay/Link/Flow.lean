import HttpNetworkRelay.Link.Link
import HttpNetworkRelay.Relay.Serial

/-!
# Backpressure on the link

The link with channels of finite capacity. Either direction of the websocket holds so many messages;
a send whose message does not fit is suspended until the receiver has taken enough of those before
it. A socket has a channel to its target and one back, which hold so many bytes, and its target is
an echo server: it reads more input only after all it has read has been accepted by the channel
back.

While the relay's message loop waits to send on the websocket it takes nothing from the other
direction. `CyclicWait` is the state in which it waits for the lock of a task whose message does not
fit, the agent's receive loop drains a socket whose target does not read, and the task that reads
from this target cannot send because the relay takes nothing. A reset of a `TcpConnectionAsync`
leads there, since `handle_connection_reset_message` awaits its close in the message loop, where it
schedules that of a `TcpConnection`. `no_cyclic_wait` shows that nothing else does.
-/

namespace HttpNetworkRelay

open Asyncio Python RelayState

/-- How many messages either direction of the websocket holds, and how many bytes either direction
of a socket. -/
structure Capacities where
  to_agent : ℕ
  to_relay : ℕ
  input : ℕ
  output : ℕ

/-- The target of a socket: how many bytes it has read, how many of these it has echoed, and how
many of the echo the agent has read. -/
structure EchoTarget where
  read : ℕ := 0
  echoed : ℕ := 0
  returned : ℕ := 0
  deriving DecidableEq, Repr

/-- The tasks of the agent. -/
inductive AgentTask
  | main
  | keepAlive (session : ℕ)
  | reader (n : ℕ)
  deriving DecidableEq, Repr

/-- The task of the relay that acts in an event. -/
def LinkEvent.actor : LinkEvent → Option Task
  | .relay (.run t _) => some t
  | .relay (.create k _ _) => some (.call k)
  | _ => none

/-- The task of the agent that acts in an event. -/
def LinkEvent.agentTask : LinkEvent → Option AgentTask
  | .agent (.main _) | .receive => some .main
  | .agent (.keepAlive session _) => some (.keepAlive session)
  | .agent (.reader n _) => some (.reader n)
  | .relay _ => none

/-- Where the last message of each task stands after a step of the task `k`. -/
def placed {κ β : Type*} [DecidableEq κ] (place : κ → ℕ) (k : Option κ) (sent sent' : List β) :
    κ → ℕ :=
  match k with
  | some k => if sent.length < sent'.length then Function.update place k sent'.length else place
  | none => place

/-- The agent has left the receive loop of its first session for good. -/
def AgentState.gone (s : AgentState) : Bool :=
  match s.main with
  | .leaving _ | .closingWebsocket | .closed | .failed => true
  | _ => s.session ≠ 0

/-- The task is in a send on the websocket. -/
def RelayState.inSend (s : RelayState) (W : AgentSocket) (t : Task) : Bool :=
  (s.use? t).any fun use => use.key = W && use.holds

/-- The task is in a send or in the receive of the message loop on the websocket. -/
def RelayState.onSocket (s : RelayState) (W : AgentSocket) (t : Task) : Bool :=
  s.inSend W t || t = .msgLoop W &&
    match s.msgLoop W with
    | some ⟨_, .receiving⟩ => true
    | _ => false

/-- The outcome of an operation on a websocket that is lost. -/
def Outcome.lost : Outcome → Bool
  | .raised _ | .disconnect => true
  | _ => false

/-- A send on the websocket that is called now has the lock at once. -/
def NetworkRelay.lockFree (r : NetworkRelay) (W : AgentSocket) : Bool :=
  let (l, r) := r._agent_send_lock W
  (r.lock l).free

/-- The link with the targets, and for each task the place of its last message in its direction of
the websocket, counted from one. -/
structure FlowState where
  link : LinkState := {}
  target : ℕ → EchoTarget := fun _ => {}
  sent_at : Task → ℕ := fun _ => 0
  agent_sent_at : AgentTask → ℕ := fun _ => 0

/-- The steps of the link, and those of the targets. -/
inductive FlowEvent
  | link (e : LinkEvent)
  /-- The target of a socket reads bytes. -/
  | reads (n : ℕ) (bytes : ℕ)
  /-- The target of a socket has bytes accepted. -/
  | echoes (n : ℕ) (bytes : ℕ)
  deriving DecidableEq, Repr

namespace FlowState

variable (caps : Capacities) (cfg : RelayConfig) (acfg : AgentConfig) (W : AgentSocket)
  (s : FlowState)

/-- The bytes that have been passed to `write` for a socket. -/
def input (n : ℕ) : Bytes := ((s.link.agent.agent.writer n).map (·.written.flatten)).getD []

/-- The message of a task of the relay fits into the channel to the agent. -/
def accepted (t : Task) : Bool := s.sent_at t ≤ s.link.received + caps.to_agent

/-- How many frames of the agent the relay has received. -/
def taken : ℕ :=
  (s.link.relay.relay.agent_sent W).length - (s.link.relay.relay.inbox W).length

/-- The frame of a task of the agent fits into the channel to the relay. -/
def agentAccepted (t : AgentTask) : Bool := s.agent_sent_at t ≤ s.taken W + caps.to_relay

/-- The input of a target that it has not read fits into the channel. -/
def drained (n : ℕ) : Bool := (s.input n).length ≤ (s.target n).read + caps.input

/-- What the channels allow: a send completes when its message fits, a drain when the input fits, a
read returns what the target has echoed or the end of its stream, and the websocket is lost to the
relay when the agent has left. -/
def allows : LinkEvent → Bool
  | .relay (.run t o) =>
    if s.link.relay.onSocket W t && o.lost then s.link.agent.gone
    else if s.link.relay.inSend W t && o = .ok then s.accepted caps t
    else true
  | .agent (.main .ok) =>
    match s.link.agent.main with
    | .draining _ n => s.drained caps n
    | .sendingStart | .sendingOK _ _ | .sendingError | .sendingReset => s.agentAccepted caps W .main
    | _ => true
  | .agent (.keepAlive session .ok) =>
    match s.link.agent.keepAlive session with
    | some .sending => s.agentAccepted caps W (.keepAlive session)
    | _ => true
  | .agent (.reader n .ok) => s.agentAccepted caps W (.reader n)
  | .agent (.reader n (.data data)) =>
    data.isPrefixOf (((s.input n).take (s.target n).echoed).drop (s.target n).returned)
  | _ => true

/-- A target changes. -/
@[simp] def setTarget (n : ℕ) (target : EchoTarget) : FlowState :=
  { s with target := Function.update s.target n target }

/-- The link has taken the step `e`. -/
def linked (e : LinkEvent) (link : LinkState) : FlowState where
  link
  target :=
    match e with
    | .agent (.reader n (.data data)) => Function.update s.target n
        { s.target n with returned := (s.target n).returned + data.length }
    | _ => s.target
  sent_at := placed s.sent_at e.actor (s.link.relay.relay.to_agent W) (link.relay.relay.to_agent W)
  agent_sent_at := placed s.agent_sent_at e.agentTask (s.link.agent.agent.to_relay 0)
    (link.agent.agent.to_relay 0)

end FlowState

/-- The step function of the link with its channels. A target that has read bytes reads no more
until they have been accepted by the channel back. -/
def flowStep (caps : Capacities) (cfg : RelayConfig) (acfg : AgentConfig) (W : AgentSocket)
    (s : FlowState) : FlowEvent → Option FlowState
  | .link e =>
    if s.allows caps W e then (linkStep cfg acfg W s.link e).map (s.linked W e) else none
  | .reads n bytes =>
    let target := s.target n
    if target.read = target.echoed ∧ target.read + bytes ≤ (s.input n).length then
      some (s.setTarget n { target with read := target.read + bytes })
    else none
  | .echoes n bytes =>
    let target := s.target n
    if target.echoed + bytes ≤ target.read ∧
        target.echoed + bytes ≤ target.returned + caps.output then
      some (s.setTarget n { target with echoed := target.echoed + bytes })
    else none

/-! ## The wait -/

/-- The relay's message loop waits for the send lock, or for room to send. -/
def LoopWaits (caps : Capacities) (W : AgentSocket) (s : FlowState) : Prop :=
  ∃ t l, InSend s.link.relay W t l ∧ s.accepted caps t = false ∧
    (t = .msgLoop W ∨ s.link.relay.use? (.msgLoop W) = some ⟨W, l, false⟩)

/-- The agent drains a socket, the task of which waits for room to send. -/
def DrainWaits (caps : Capacities) (W : AgentSocket) (s : FlowState) : Prop :=
  ∃ c n task, s.link.agent.main = .draining c n ∧ s.drained caps n = false ∧
    s.link.agent.reader n = some task ∧ task.point = .sending ∧
    s.agentAccepted caps W (.reader n) = false

/-- The relay and the agent wait for each other. -/
def CyclicWait (caps : Capacities) (W : AgentSocket) (s : FlowState) : Prop :=
  LoopWaits caps W s ∧ DrainWaits caps W s

/-- The next frame resets a `TcpConnectionAsync` of the agent. -/
def NetworkRelay.resetNext (r : NetworkRelay) (W : AgentSocket) : Bool :=
  match (r.inbox W).head?.bind AgentFrame.reset? with
  | some c => c ∈ r.active_relayed_connections && (r.connection c).any fun connection =>
      connection.cls = .tcpConnectionAsync && connection.agent_connection = W
  | none => false

/-- Where the message loop takes a reset whose close it awaits, the lock is free and the close
message fits. -/
def ResetsAtOnce (caps : Capacities) (W : AgentSocket) (s : FlowState) (e : FlowEvent) : Prop :=
  e = .link (.relay (.run (.msgLoop W) .next)) → s.link.relay.relay.resetNext W = true →
    s.link.relay.relay.lockFree W = true ∧
      (s.link.relay.relay.to_agent W).length < s.link.received + caps.to_agent

/-- The condition can be computed. -/
instance (caps : Capacities) (W : AgentSocket) (s : FlowState) (e : FlowEvent) :
    Decidable (ResetsAtOnce caps W s e) := by
  unfold ResetsAtOnce
  infer_instance

/-! ## The agent after its first session -/

section
variable {acfg : AgentConfig} {s s' : AgentState} {o : AgentOutcome} {main : AgentMain}

/-- The session changes only when `async_main` starts the next one. -/
theorem MainRule.session (h : MainRule acfg s main o s') :
    s'.session = s.session ∨ s'.main = .connecting := by
  cases h with
  | restarts => exact .inr rfl
  | receives h => cases h <;> exact .inl rfl
  | _ => exact .inl rfl

/-- `async_main` does not go back to the receive loop of a session. -/
theorem MainRule.gone (h : MainRule acfg s s.main o s') (hsession : s.session = 0)
    (hgone : s.gone = true) : s'.gone = true := by
  unfold AgentState.gone at hgone
  generalize hmain : s.main = main at h
  cases h with
  | leaves =>
    unfold AgentState.gone AgentState.disconnected
    cases s.agent.websocket <;> rfl
  | restarts => simp [AgentState.gone, hsession]
  | disconnects | fails | unstarted | lost | unsent | missing | undrained => rfl
  | goesOn h =>
    rcases h with ⟨rfl, -⟩ | ⟨rfl, -⟩ | ⟨c, n, rfl, -⟩ | rfl <;> simp [hmain, hsession] at hgone
  | _ => simp [hmain, hsession] at hgone

/-- `async_main` runs in its first session only, and does not come back to it. -/
def FirstSession (s : AgentState) : Prop := s.session ≠ 0 → s.main = .connecting

/-- While the agent stays in its first session, its step leads to a state of that session, and what
is gone stays so. -/
theorem FirstSession.step {e : AgentEvent} (hF : FirstSession s)
    (hown : OwnEvent s e)
    (h : agentStep acfg s e = some s') :
    FirstSession s' ∧ (s.gone = true → s'.gone = true) := by
  have hrule := agentStep_rule h
  by_cases hmain : ∃ o, e = .main o
  · obtain ⟨o, rfl⟩ := hmain
    cases hrule with
    | main hrule =>
      have hsession : s.session = 0 := by
        by_contra hne
        rw [hF hne] at hrule
        rcases hown with hown | ⟨frame, hframe⟩
        · cases o <;> simp [AgentEvent.own, hne] at hown
        · obtain rfl : o = .frame frame := by simpa using hframe
          cases hrule with
          | goesOn hmain => simp at hmain
      refine ⟨fun hne => ?_, hrule.gone hsession⟩
      rcases hrule.session with hsame | hmain
      · exact absurd (hsame.trans hsession) hne
      · exact hmain
  · obtain ⟨hmain, hsession⟩ := hrule.main_same fun o ho => hmain ⟨o, ho⟩
    refine ⟨fun hne => ?_, fun hgone => ?_⟩
    · rw [hmain]
      exact hF (hsession ▸ hne)
    · unfold AgentState.gone at hgone ⊢
      rwa [hmain, hsession]

end

/-! ## A reset whose close starts at once -/

section
variable {cfg : RelayConfig} {s s' : RelayState} {r : NetworkRelay} {W : AgentSocket}

/-- Frames taken from the inbox leave the lock as it is. -/
theorem NetworkRelay.lockFree_setInbox (r : NetworkRelay) (W : AgentSocket)
    (rest : List AgentFrame) : (r.setInbox W rest).lockFree W = r.lockFree W := by
  unfold NetworkRelay.lockFree NetworkRelay._agent_send_lock
  cases hl : r.agent_connection_locks W <;> simp [hl]

/-- A send that finds the lock free is called at once. -/
theorem locked_send_free (t : Task) {m : ToAgent} (h : r.lockFree W = true) :
    ∃ r' l, locked_send r t W (.ok m) = (r', .parked (.sending l)) ∧
      r'.to_agent W = r.to_agent W ++ [m] := by
  have hout := (r.sameButSends_agentSendLock W).2
  unfold NetworkRelay.lockFree at h
  unfold locked_send
  dsimp only at h ⊢
  rw [if_pos h]
  refine ⟨_, _, rfl, ?_⟩
  have hto := congrArg AgentOutput.to_agent hout
  simp [hto]

/-- Only a text frame with a reset is a reset. -/
theorem AgentFrame.reset?_cases {frame : AgentFrame} {c : ConnectionId}
    (h : frame.reset? = some c) :
    ∃ text custom, frame = .text ⟨some (.connectionReset text c), custom⟩ := by
  unfold AgentFrame.reset? at h
  split at h
  · obtain rfl := Option.some.inj h
    exact ⟨_, _, rfl⟩
  · cases h

/-- Where the message loop starts to handle a reset of a connection of its websocket, with the lock
free, it sends the close message in the same step. -/
theorem reset_at_once {n n' : AgentId} {c : ConnectionId} {send : LockedSend} {o : Outcome}
    (hpc : s.msgLoop W = some ⟨n, .receiving⟩) (h : step cfg s (.run (.msgLoop W) o) = some s')
    (hpc' : s'.msgLoop W = some ⟨n', .resetting c (.informing send)⟩)
    (hagent : s.relay.agentOf c = some W) :
    o = .next ∧ s.relay.resetNext W = true ∧ (s.relay.lockFree W = true →
      (∃ l, send = .sending l) ∧ s'.relay.to_agent W = s.relay.to_agent W ++ [closeMessage c]) := by
  obtain ⟨task, htask, h⟩ := Option.bind_eq_some_iff.mp h
  obtain rfl := Option.some.inj (hpc.symm.trans htask)
  have hother : ∀ (s₁ : RelayState) (pc : MsgLoop), (∀ c pc₁, pc ≠ .resetting c pc₁) →
      (s₁.setMsgLoop W ⟨n, pc⟩).msgLoop W ≠ some ⟨n', .resetting c (.informing send)⟩ := by
    intro s₁ pc hne heq
    simp only [setMsgLoop, Function.update_self, Option.some.injEq, MsgLoopTask.mk.injEq] at heq
    exact hne _ _ heq.2
  cases resumeMsgLoop_rule h with
  | @disconnects _ r' res => cases res <;> exact absurd hpc' (hother _ _ (by simp))
  | receiveFails => exact absurd hpc' (hother _ _ (by simp))
  | @receives frame rest _ hin hframe =>
    have hs' : (s.withRelay (s.relay.setInbox W rest)).frameReceived cfg W n frame = s' := by
      simp only [resumeMsgLoop, hin] at h
      exact Option.some.inj h
    refine ⟨rfl, ?_⟩
    cases hframe with
    | @resets c₀ connection r' send' hreset hact hc hcls =>
      simp only [setMsgLoop, Function.update_self, Option.some.injEq, MsgLoopTask.mk.injEq,
        MsgLoop.resetting.injEq, CloseRelayedConnection.informing.injEq] at hpc'
      obtain ⟨-, rfl, rfl⟩ := hpc'
      have hconn : s.relay.connection c₀ = some connection := hc
      have hactive : c₀ ∈ s.relay.active_relayed_connections := hact
      have hW : connection.agent_connection = W := by
        simpa [NetworkRelay.agentOf, hconn] using hagent
      refine ⟨by simp [NetworkRelay.resetNext, hin, hreset, hactive, hconn, hcls, hW],
        fun hfree => ?_⟩
      obtain ⟨text, custom, rfl⟩ := AgentFrame.reset?_cases hreset
      have hfree' : (s.relay.setInbox W rest).lockFree W = true := by
        rwa [NetworkRelay.lockFree_setInbox]
      obtain ⟨r₁, l, hsent, hto⟩ := locked_send_free (.msgLoop W) (m := closeMessage c₀) hfree'
      have hclose : close_relayed_connection (s.relay.setInbox W rest) (.msgLoop W) c₀ W =
          (r₁, .parked (.informing (.sending l))) := by
        rw [close_relayed_connection, hsent]
        rfl
      have hhandled : (s.withRelay (s.relay.setInbox W rest)).frameReceived cfg W n
          (.text ⟨some (.connectionReset text c₀), custom⟩) =
          (s.withRelay r₁).setMsgLoop W ⟨n, .resetting c₀ (.informing (.sending l))⟩ := by
        show RelayState.handle_connection_reset_message _ W n c₀ = _
        unfold handle_connection_reset_message
        rw [if_pos hact]
        simp only [hc, hcls, hW]
        rw [show (s.withRelay (s.relay.setInbox W rest)).relay = s.relay.setInbox W rest from rfl,
          hclose]
        rfl
      rw [hhandled] at hs'
      have hrelay : r₁ = r' := congrArg RelayState.relay hs'
      have hloop := congrFun (congrArg RelayState.msgLoop hs') W
      simp only [setMsgLoop, Function.update_self, Option.some.injEq, MsgLoopTask.mk.injEq,
        MsgLoop.resetting.injEq, CloseRelayedConnection.informing.injEq] at hloop
      subst hrelay
      exact ⟨⟨l, hloop.2.2.symm⟩, hto⟩
    | stops | ignores | fills | schedules | answers | blocks | custom =>
      exact absurd hpc' (hother _ _ (by simp))

end

section
variable {cfg : RelayConfig} {s s' : RelayState} {W : AgentSocket} {n n' : AgentId} {pc : MsgLoop}
  {o : Outcome}

/-- A message loop that handles a reset has just received it, or has waited for the lock. -/
theorem resetting_of_run (h : MsgLoopRule cfg s W n pc o s') {c : ConnectionId} {send : LockedSend}
    (hpc' : s'.msgLoop W = some ⟨n', .resetting c (.informing send)⟩) :
    pc = .receiving ∨ ∃ l, pc = .resetting c (.informing (.acquiring l)) := by
  cases h with
  | disconnects | receiveFails | receives => exact .inl rfl
  | resetting hc hclose =>
    cases hclose with
    | informs =>
      simp only [resetHandled, setMsgLoop, Function.update_self, Option.some.injEq,
        MsgLoopTask.mk.injEq, MsgLoop.resetting.injEq] at hpc'
      obtain ⟨-, rfl, -⟩ := hpc'
      exact .inr ⟨_, rfl⟩
    | closesClient | dropsUnattached | informingFails | drops | closingFails =>
      simp [resetHandled] at hpc'
  | puts | customHandled => simp at hpc'
  | @tearingDown _ _ r' res => cases res <;> simp [tornDown] at hpc'

/-- A message loop that tears its connections down has just learned that the agent is disconnected,
or goes on with it. -/
theorem tearing_of_run (h : MsgLoopRule cfg s W n pc o s') {pc' : EdgeAgentConnectionClose}
    (hpc' : s'.msgLoop W = some ⟨n', .tearingDown pc'⟩) :
    pc = .receiving ∧ (o = .disconnect ∨ ∃ e, o = .raised e) ∨ ∃ pc₀, pc = .tearingDown pc₀ := by
  cases h with
  | disconnects ho => exact .inl ⟨rfl, ho.imp_right fun ho => ⟨_, ho⟩⟩
  | receives _ hframe => cases hframe <;> simp at hpc'
  | @resetting _ _ _ _ r' res => cases res <;> simp [resetHandled] at hpc'
  | tearingDown => exact .inr ⟨_, rfl⟩
  | receiveFails | puts | customHandled => simp at hpc'

end

/-! ## What the message loop waits for -/

section
variable {κ β : Type*} [DecidableEq κ] {place : κ → ℕ} {sent sent' : List β} {k : κ}

/-- Another task's place is not changed. -/
theorem placed_other {k' : Option κ} (h : k' ≠ some k) :
    placed place k' sent sent' k = place k := by
  unfold placed
  split
  · split_ifs
    · rw [Function.update_of_ne]
      rintro rfl
      exact h rfl
    · rfl
  · rfl

/-- The place of a task that has sent a message is the last one. -/
theorem placed_self (h : sent.length < sent'.length) :
    placed place (some k) sent sent' k = sent'.length := by
  simp [placed, h]

end

section
variable {caps : Capacities} {cfg : RelayConfig} {acfg : AgentConfig} {W : AgentSocket}
  {s s' : FlowState} {e : FlowEvent} {ok : FlowState → FlowEvent → Prop}

/-- A step of the link with its channels. -/
inductive FlowRule (caps : Capacities) (cfg : RelayConfig) (acfg : AgentConfig) (W : AgentSocket)
    (s : FlowState) : FlowEvent → FlowState → Prop
  | link {e link} (hallows : s.allows caps W e = true)
      (h : linkStep cfg acfg W s.link e = some link) :
      FlowRule caps cfg acfg W s (.link e) (s.linked W e link)
  /-- A target reads or echoes. -/
  | target {e n target} (he : ∀ e', e ≠ .link e') :
      FlowRule caps cfg acfg W s e (s.setTarget n target)

/-- What a step of the link with its targets can be. -/
theorem flowStep_rule (h : flowStep caps cfg acfg W s e = some s') :
    FlowRule caps cfg acfg W s e s' := by
  cases e with
  | link e =>
    simp only [flowStep] at h
    split_ifs at h with hallows
    obtain ⟨link, hlink, rfl⟩ := Option.map_eq_some_iff.mp h
    exact .link hallows hlink
  | reads n bytes | echoes n bytes =>
    simp only [flowStep] at h
    split_ifs at h
    obtain rfl := Option.some.inj h
    exact .target (by simp)

/-- The link's part of a run is a run of the link. -/
theorem flow_link (h : Reaches (flowStep caps cfg acfg W) ok {} s) :
    Reaches (linkStep cfg acfg W) (fun _ _ => True) {} s.link := by
  refine h.invariant (I := fun s => Reaches (linkStep cfg acfg W) (fun _ _ => True) {} s.link)
    .init fun s e s' _ _ hstep hlink => ?_
  cases flowStep_rule hstep with
  | link _ h => exact .step hlink trivial h
  | target => exact hlink

/-- What the message loop of the websocket can be waiting for: where it handles a reset of one of
its connections, the close message has been accepted, and where it tears its connections down, the
agent has left. -/
structure Flowing (caps : Capacities) (W : AgentSocket) (s : FlowState) : Prop where
  resetting : ∀ n c send, s.link.relay.msgLoop W = some ⟨n, .resetting c (.informing send)⟩ →
    s.link.relay.relay.agentOf c = some W →
    (∃ l, send = .sending l) ∧ s.accepted caps (.msgLoop W) = true
  tearing : ∀ n pc, s.link.relay.msgLoop W = some ⟨n, .tearingDown pc⟩ →
    s.link.agent.gone = true
  first : FirstSession s.link.agent

namespace Flowing

/-- While the message loop stays where it is, its message stays accepted. -/
theorem kept (hF : Flowing caps W s)
    (hloop : ∀ n pc, s'.link.relay.msgLoop W = some ⟨n, pc⟩ →
      s.link.relay.msgLoop W = some ⟨n, pc⟩ ∨ pc = .receiving)
    (hagent : ∀ n c pc, s.link.relay.msgLoop W = some ⟨n, .resetting c pc⟩ →
      s'.link.relay.relay.agentOf c = s.link.relay.relay.agentOf c)
    (hplace : s'.sent_at (.msgLoop W) = s.sent_at (.msgLoop W))
    (hreceived : s.link.received ≤ s'.link.received)
    (hgone : s.link.agent.gone = true → s'.link.agent.gone = true)
    (hfirst : FirstSession s'.link.agent) : Flowing caps W s' where
  resetting n c send hpc hc := by
    rcases hloop n _ hpc with hpc | hpc
    · rw [hagent n c _ hpc] at hc
      obtain ⟨hsend, haccepted⟩ := hF.resetting n c send hpc hc
      refine ⟨hsend, ?_⟩
      unfold FlowState.accepted at haccepted ⊢
      rw [decide_eq_true_eq] at haccepted ⊢
      omega
    · cases hpc
  tearing n pc hpc := by
    rcases hloop n _ hpc with hpc | hpc
    · exact hgone (hF.tearing n pc hpc)
    · cases hpc
  first := hfirst

/-- A step of the message loop. -/
theorem loop_step (hF : Flowing caps W s) {o : Outcome} {relay : RelayState}
    (hallows : s.allows caps W (.relay (.run (.msgLoop W) o)) = true)
    (hok : ResetsAtOnce caps W s (.link (.relay (.run (.msgLoop W) o))))
    (hT : SendTargets s.link.relay)
    (h : step cfg s.link.relay (.run (.msgLoop W) o) = some relay) :
    Flowing caps W (s.linked W (.relay (.run (.msgLoop W) o)) { s.link with relay }) where
  resetting n c send hpc hc := by
    have hpc : relay.msgLoop W = some ⟨n, .resetting c (.informing send)⟩ := hpc
    have hrule := step_rule h
    have hconn : (s.link.relay.relay.connection c).isSome = true := by
      rcases resetting_connection hrule hpc with ⟨pc₀, hpc₀⟩ | hconn
      · exact hT.resetting W n c pc₀ hpc₀
      · exact hconn
    have hagent : s.link.relay.relay.agentOf c = some W := (agentOf_step hrule hconn).symm.trans hc
    cases hrule with
    | @msgLoop _ n₀ pc₀ _ _ hpc₀ hloop =>
      rcases resetting_of_run hloop hpc with rfl | ⟨l, rfl⟩
      · -- The reset has just been received, and its close starts at once.
        obtain ⟨rfl, hreset, hsends⟩ := reset_at_once hpc₀ h hpc hagent
        obtain ⟨hfree, hroom⟩ := hok rfl hreset
        obtain ⟨hsend, hto⟩ := hsends hfree
        refine ⟨hsend, ?_⟩
        have hplace : (s.linked W (.relay (.run (.msgLoop W) .next)) { s.link with relay }).sent_at
            (.msgLoop W) = (relay.relay.to_agent W).length := by
          apply placed_self
          simp [hto]
        unfold FlowState.accepted
        rw [hplace, hto, List.length_append, decide_eq_true_eq]
        exact hroom
      · -- The message loop has not waited for the lock.
        obtain ⟨⟨l', hsend⟩, -⟩ := hF.resetting n₀ c _ hpc₀ hagent
        cases hsend
  tearing n pc hpc := by
    cases step_rule h with
    | @msgLoop _ n₀ pc₀ _ _ hpc₀ hloop =>
      rcases tearing_of_run hloop hpc with ⟨rfl, ho⟩ | ⟨pc₁, rfl⟩
      · have hon : s.link.relay.onSocket W (.msgLoop W) = true := by
          simp [RelayState.onSocket, hpc₀]
        have hlost : o.lost = true := by
          rcases ho with rfl | ⟨e, rfl⟩ <;> rfl
        show s.link.agent.gone = true
        simpa [FlowState.allows, hon, hlost] using hallows
      · exact hF.tearing n₀ pc₁ hpc₀
  first := hF.first

/-- At the start nothing waits. -/
theorem initial : Flowing caps W {} where
  resetting _ _ _ h := by cases h
  tearing _ _ h := by cases h
  first h := absurd rfl h

/-- A step of the agent, whose frames arrive at the relay. -/
theorem agent_step (hF : Flowing caps W s) {e : LinkEvent} {e' : AgentEvent} {agent : AgentState}
    {received : ℕ} (hactor : e.actor = none) (hreceived : s.link.received ≤ received)
    (hown : OwnEvent s.link.agent e')
    (h : agentStep acfg s.link.agent e' = some agent) :
    Flowing caps W (s.linked W e { s.link.moves W agent with received }) := by
  obtain ⟨hfirst, hgone⟩ := hF.first.step hown h
  refine hF.kept (fun n pc hpc => .inl hpc) (fun n c pc _ => rfl) ?_ hreceived hgone hfirst
  apply placed_other
  simp [hactor]

/-- A step that meets the condition keeps the flow. -/
theorem preserved (hr : Reaches (flowStep caps cfg acfg W) ok {} s) (hok : ResetsAtOnce caps W s e)
    (h : flowStep caps cfg acfg W s e = some s') (hF : Flowing caps W s) : Flowing caps W s' := by
  obtain ⟨l, ht⟩ := (flow_link hr).traced (LinkState.shows acfg W)
  have hT := sendTargets (relay_trace ht).reaches
  cases flowStep_rule h with
  | target => exact ⟨hF.resetting, hF.tearing, hF.first⟩
  | link hallows hlink =>
    cases linkStep_rule hlink with
    | @relay e relay he hrelay =>
      by_cases hrun : ∃ o, e = .run (.msgLoop W) o
      · obtain ⟨o, rfl⟩ := hrun
        exact hF.loop_step hallows hok hT hrelay
      · have hrule := step_rule hrelay
        refine hF.kept (fun n pc hpc => msgLoop_created hrule (fun o ho => hrun ⟨o, ho⟩) hpc)
          (fun n c pc hpc => agentOf_step hrule (hT.resetting W n c pc hpc)) ?_ le_rfl id hF.first
        -- The message loop does not act, so its last message keeps its place.
        apply placed_other
        intro hactor
        cases e with
        | run t o =>
          obtain rfl : t = .msgLoop W := Option.some.inj hactor
          exact hrun ⟨o, rfl⟩
        | create k request c => cases hactor
        | _ => cases hactor
    | agent hown hagent => exact hF.agent_step rfl le_rfl (.inl hown) hagent
    | receive hm hagent => exact hF.agent_step rfl (Nat.le_succ _) (.inr ⟨_, rfl⟩) hagent

/-- Where the agent has not left, the message loop does not wait for the agent. -/
theorem not_waiting (hF : Flowing caps W s) (hgone : s.link.agent.gone = false) :
    ¬ LoopWaits caps W s := by
  have huse : ∀ l b, s.link.relay.use? (.msgLoop W) = some ⟨W, l, b⟩ →
      b = true ∧ s.accepted caps (.msgLoop W) = true := by
    intro l b huse
    unfold use? at huse
    dsimp only at huse
    split at huse
    · rename_i n c pc hpc
      obtain ⟨W', hagent, huse⟩ := Option.bind_eq_some_iff.mp huse
      cases pc with
      | informing send =>
        have huse : send.use W' = ⟨W, l, b⟩ := Option.some.inj huse
        obtain rfl : W' = W := (send.use_key W').symm.trans (congrArg LockUse.key huse)
        obtain ⟨⟨l', rfl⟩, haccepted⟩ := hF.resetting n c send hpc hagent
        exact ⟨(congrArg LockUse.holds huse).symm, haccepted⟩
      | closingClient => cases huse
    · rename_i n pc hpc
      rw [hF.tearing n pc hpc] at hgone
      cases hgone
    · cases huse
  rintro ⟨t, l, hsend, haccepted, rfl | hloop⟩
  · rw [(huse l true hsend).2] at haccepted
    cases haccepted
  · cases (huse l false hloop).1

end Flowing

/-- The relay and the agent never wait for each other, in every run in which a reset that the
message loop takes has its close message sent at once. -/
theorem no_cyclic_wait (h : Reaches (flowStep caps cfg acfg W) (ResetsAtOnce caps W) {} s) :
    ¬ CyclicWait caps W s := by
  have hF : Flowing caps W s := h.invariant (I := Flowing caps W) .initial
    fun s e s' hr hok hstep hF => hF.preserved hr hok hstep
  rintro ⟨hloop, c, n, task, hmain, -⟩
  refine hF.not_waiting ?_ hloop
  -- The agent drains a socket, so it has not left its first session.
  have hsession : s.link.agent.session = 0 := by
    by_contra hne
    cases hmain.symm.trans (hF.first hne)
  simp [AgentState.gone, hmain, hsession]

end

/-! ## The reset that waits -/

/-- One message, or one byte, fits into each channel. -/
def narrow : Capacities where
  to_agent := 1
  to_relay := 1
  input := 1
  output := 1

/-- Two access clients have connections. The first sends to its target, which echoes; the target of
the second closes; and the agent waits for room to send what it has read from the first. -/
def bulkAndReset : List FlowEvent :=
  (startLink ++ openLink ⟨0⟩ someConnection ++
    openLink ⟨1⟩ "00000000-0000-4000-8000-000000000001").map .link ++
  [.link (.relay (.run (.client ⟨0⟩) (.frame (.bytes [1, 2, 3, 4])))),
    .link (.relay (.run (.client ⟨0⟩) .ok)), .link .receive, .reads 0 4, .link (.agent (.main .ok)),
    .echoes 0 1, .link (.agent (.reader 1 (.data []))), .link (.agent (.reader 0 (.data [1]))),
    .echoes 0 1]

/-- The message loop takes the reset. -/
def takeReset : FlowEvent := .link (.relay (.run (.msgLoop ⟨0⟩) .next))

/-- The reset is taken with the lock free. -/
def promptReset : FlowState :=
  (runWith (flowStep narrow plainConfig plainAgent ⟨0⟩) (ResetsAtOnce narrow ⟨0⟩) {}
    (bulkAndReset ++ [takeReset])).get (by decide +kernel)

/-- With the lock free the reset ends without a cyclic wait. -/
theorem promptReset_no_cyclic_wait :
    promptReset.link.relay.inSend ⟨0⟩ (.msgLoop ⟨0⟩) = true ∧ ¬ CyclicWait narrow ⟨0⟩ promptReset :=
  ⟨by decide +kernel, no_cyclic_wait (Reaches.of_runWith .init (Option.some_get _).symm)⟩

/-- The first client goes on to send: the agent drains what the target does not read, and a message
does not fit. The reset is taken, and the agent cannot send what it reads next. -/
def waitForEver : List FlowEvent :=
  [.link (.relay (.run (.client ⟨0⟩) (.frame (.bytes [5, 6])))),
    .link (.relay (.run (.client ⟨0⟩) .ok)), .link .receive,
    .link (.relay (.run (.client ⟨0⟩) (.frame (.bytes [7])))),
    .link (.relay (.run (.client ⟨0⟩) .ok)),
    .link (.relay (.run (.client ⟨0⟩) (.frame (.bytes [8])))), takeReset,
    .link (.agent (.reader 0 .ok)), .link (.agent (.reader 0 (.data [2])))]

/-- The link after the run that stalls it. -/
def stalledLink : FlowState :=
  (run (flowStep narrow plainConfig plainAgent ⟨0⟩) {} (bulkAndReset ++ waitForEver)).get
    (by decide +kernel)

/-- Without the condition a run comes to a cyclic wait. -/
theorem stalledLink_cyclic_wait :
    ¬ ∀ (caps : Capacities) (cfg : RelayConfig) (acfg : AgentConfig) (W : AgentSocket)
      (s : FlowState), Reaches (flowStep caps cfg acfg W) (fun _ _ => True) {} s →
        ¬ CyclicWait caps W s := by
  intro hclaim
  have hreached : Reaches (flowStep narrow plainConfig plainAgent ⟨0⟩) (fun _ _ => True) {}
      stalledLink :=
    .of_run (fun _ _ _ => trivial) .init (Option.some_get _).symm
  refine hclaim _ _ _ _ _ hreached ⟨⟨.client ⟨0⟩, 0, ?_, ?_, .inr ?_⟩, someConnection, 0,
    ⟨⟨"127.0.0.1", 22, someConnection, true⟩, 0, .sending⟩, ?_, ?_, ?_, rfl, ?_⟩
  all_goals decide +kernel

end HttpNetworkRelay
