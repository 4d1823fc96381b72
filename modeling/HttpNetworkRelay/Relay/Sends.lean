import HttpNetworkRelay.Relay.Ownership
import HttpNetworkRelay.Relay.Registry

/-!
# What the relay sends to agents

A step sends at most one message on one agent's websocket. `Emits` lists which, `sends_of_rule`
shows it of every step, and `outgoing` says what every message that has been sent on a websocket is:
a keep-alive or close message, or a request or data for a connection of this very agent.
-/

namespace HttpNetworkRelay

open Asyncio Python RelayState NetworkRelay

/-- At most one message is sent on an agent's websocket, and it meets `P`. -/
def Sends (P : AgentSocket → ToAgent → Prop) (r r' : NetworkRelay) : Prop :=
  r'.to_agent = r.to_agent ∨ ∃ W m, P W m ∧ r'.to_agent = (r.sendToAgent W m).to_agent

namespace Sends

variable {P Q : AgentSocket → ToAgent → Prop} {r r₁ r' : NetworkRelay}

/-- Nothing is sent where the messages are the same. -/
theorem of_eq (h : r'.to_agent = r.to_agent) : Sends P r r' := .inl h

/-- What is sent may be described more broadly. -/
theorem mono (h : Sends P r r') (hPQ : ∀ W m, P W m → Q W m) : Sends Q r r' := by
  rcases h with h | ⟨W, m, hP, h⟩
  · exact .inl h
  · exact .inr ⟨W, m, hPQ W m hP, h⟩

/-- Only the contents of the websockets count. -/
theorem congr (h : Sends P r₁ r') (heq : r₁.to_agent = r.to_agent) : Sends P r r' := by
  rcases h with h | ⟨W, m, hP, h⟩
  · exact .inl (h.trans heq)
  · refine .inr ⟨W, m, hP, ?_⟩
    rw [h]
    simp only [sendToAgent, heq]

/-- What is sent does not depend on the rest of the relay. -/
theorem congr_right (h : Sends P r r₁) (heq : r'.to_agent = r₁.to_agent) : Sends P r r' := by
  rcases h with h | ⟨W, m, hP, h⟩
  · exact .inl (heq.trans h)
  · exact .inr ⟨W, m, hP, heq.trans h⟩

/-- A message that has been sent was sent before or in the step. -/
theorem mem (h : Sends P r r') {W : AgentSocket} {m : ToAgent} (hm : m ∈ r'.to_agent W) :
    m ∈ r.to_agent W ∨ P W m := by
  rcases h with h | ⟨W', m', hP, h⟩
  · rw [h] at hm
    exact .inl hm
  · rw [h] at hm
    by_cases hWW : W = W'
    · subst hWW
      simp only [sendToAgent, Function.update_self, List.mem_append, List.mem_singleton] at hm
      rcases hm with hm | rfl
      · exact .inl hm
      · exact .inr hP
    · simp only [sendToAgent, Function.update_of_ne hWW] at hm
      exact .inl hm

/-- Nothing is sent to a websocket for which there is no message. -/
theorem other (h : Sends P r r') {W : AgentSocket} (hW : ∀ m, ¬ P W m) :
    r'.to_agent W = r.to_agent W := by
  rcases h with heq | ⟨W₀, m, hP, heq⟩
  · rw [heq]
  · have hne : W ≠ W₀ := by
      rintro rfl
      exact hW m hP
    rw [heq]
    simp [hne]

end Sends

/-! ## The coroutines -/

section

variable {r r' : NetworkRelay} {c : ConnectionId} {ws : AgentSocket} {o : Outcome}

/-- A locked send sends its message once it has the lock. -/
theorem SendStep.emits {message : Except Exc ToAgent} {pc : Option LockedSend}
    {res : Res LockedSend Unit Exc} (h : SendStep r ws message pc o r' res) :
    Sends (fun W m => W = ws ∧ message = .ok m ∧ ∀ send, pc = some send → ∃ l, send = .acquiring l)
      r r' := by
  cases h with
  | sends start hm _ out =>
    refine .inr ⟨ws, _, ⟨rfl, hm, ?_⟩, by rw [out]⟩
    rintro send rfl
    obtain hnone | ⟨hsome, -⟩ := start
    · cases hnone
    · exact ⟨_, Option.some.inj hsome⟩
  | queues _ out | unencodable _ _ out | completes _ out | fails _ out => exact .of_eq (by rw [out])

/-- A send that has returned sent its message before. -/
theorem SendStep.silent {message : Except Exc ToAgent} {pc : Option LockedSend}
    (h : SendStep r ws message pc o r' (.returned ())) : r'.to_agent = r.to_agent := by
  cases h with
  | completes _ out => rw [out]

/-- A locked send that is begun sends its message if it has the lock. -/
theorem Sending.emits {m : ToAgent} {send : LockedSend} (h : Sending r ws m r' send) :
    Sends (fun W m' => W = ws ∧ m' = m ∧ ∃ l, send = .sending l) r r' := by
  cases send with
  | acquiring l => exact .of_eq (congrArg AgentOutput.to_agent h)
  | sending l => exact .inr ⟨ws, m, ⟨rfl, rfl, l, rfl⟩, congrArg AgentOutput.to_agent h⟩

/-- A step of a close sends its message once it has the lock. -/
theorem CloseStep.emits {pc : CloseRelayedConnection} {res : Res CloseRelayedConnection Unit Exc}
    (h : CloseStep r c ws pc o r' res) :
    Sends (fun W m => W = ws ∧ m = closeMessage c ∧ ∃ send, res = .parked (.informing send)) r
      r' := by
  cases h with
  | informs _ out => exact .inr ⟨ws, _, ⟨rfl, rfl, _, rfl⟩, by rw [out]⟩
  | closesClient _ _ out | dropsUnattached _ _ out | informingFails _ _ out =>
    exact .of_eq (congrArg AgentOutput.to_agent out)
  | drops | closingFails => exact .of_eq rfl

/-- A close that has returned sent its message before. -/
theorem CloseStep.silent {pc : CloseRelayedConnection}
    (h : CloseStep r c ws pc o r' (.returned ())) : r'.to_agent = r.to_agent := by
  cases h with
  | dropsUnattached _ _ out => exact congrArg AgentOutput.to_agent out
  | drops => rfl

/-- A step of a teardown sends the message of the close that it begins. -/
theorem TeardownStep.emits {pc : EdgeAgentConnectionClose}
    {res : Res EdgeAgentConnectionClose Unit Exc} (h : TeardownStep r pc o r' res) :
    Sends (fun W m => W = pc.agent_connection ∧ ∃ pc' send, res = .parked pc' ∧
      pc'.pc = .informing send ∧ m = closeMessage pc'.current) r r' := by
  cases h with
  | inside h =>
    refine h.emits.mono ?_
    rintro W m ⟨hW, rfl, send, hres⟩
    exact ⟨hW, _, send, rfl, Res.parked.inj hres, rfl⟩
  -- A close that raises has sent nothing in this step.
  | fails h =>
    refine h.emits.mono ?_
    rintro W m ⟨-, -, send, hres⟩
    cases hres
  | next h _ _ hsend =>
    refine (hsend.emits.mono ?_).congr h.silent
    rintro W m ⟨hW, rfl, -⟩
    exact ⟨hW, _, _, rfl, rfl, rfl⟩
  | done h => exact .of_eq h.silent

/-- The start of a teardown sends the message of the first close. -/
theorem TeardownStart.emits {n : AgentId} {res : Res EdgeAgentConnectionClose Unit Exc}
    (h : TeardownStart r n r' res) :
    Sends (fun _ m => ∃ pc' send, res = .parked pc' ∧ pc'.pc = .informing send ∧
      m = closeMessage pc'.current) r r' := by
  cases h with
  | unregistered | idle => exact .of_eq rfl
  | starts _ _ _ hsend =>
    refine (hsend.emits.mono ?_).congr rfl
    rintro W m ⟨-, rfl, -⟩
    exact ⟨_, _, rfl, rfl, rfl⟩

/-- A step of a create call sends its request once it has the lock. -/
theorem CreateStep.emits {cfg : RelayConfig} {pc : CreateConnection}
    {res : Res CreateConnection ConnectionId Exc} (h : CreateStep cfg r pc o r' res) :
    Sends (fun W m => W = pc.agent_connection ∧ m = pc.request.message pc.connection_id ∧
      ∃ l, pc.point = .sending (.acquiring l)) r r' := by
  cases h with
  | requests hpc _ out => exact .inr ⟨_, _, ⟨rfl, rfl, _, hpc⟩, by rw [out]⟩
  | waits _ _ out | requestFails _ _ out => exact .of_eq (by rw [out])
  | answers _ _ out => exact .of_eq (congrArg AgentOutput.to_agent out)

end

/-! ## The steps -/

/-- The messages that a step from `s` to `s'` by the event `e` may send on an agent's websocket. -/
inductive Emits (s : RelayState) (e : RelayEvent) (s' : RelayState) : AgentSocket → ToAgent → Prop
  | keepAlive {W} : Emits s e s' W (.text .keepAlive)
  /-- The message of a close in progress. -/
  | close {W t o c send} (he : e = .run t o)
      (hclosing : s'.closing? t = some (c, .informing send)) : Emits s e s' W (closeMessage c)
  /-- A request that has waited for the lock. -/
  | requests {t o pc l} (he : e = .run t o) (hpc : s.pending? t = some pc)
      (hpoint : pc.point = .sending (.acquiring l)) :
      Emits s e s' pc.agent_connection (pc.request.message pc.connection_id)
  /-- The request for a connection that has just been published. -/
  | opens {t pc connection l} (hpc : s'.pending? t = some pc)
      (hpoint : pc.point = .sending (.sending l))
      (hnone : s.relay.connection pc.connection_id = none)
      (hc : s'.relay.connection pc.connection_id = some connection) :
      Emits s e s' connection.agent_connection (pc.request.message pc.connection_id)
  | data {c connection content m} (hc : s.relay.connection c = some connection)
      (hm : connection.dataMessage c content = .ok m)
      (hpc : (∃ A o, e = .run (.client A) o ∧ s.client A = some (.receiving c)) ∨
        ∃ k o kept, e = .run (.sender k) o ∧ s.sender k = some ⟨c, .scheduled kept⟩) :
      Emits s e s' connection.agent_connection m
  /-- Data that has waited for the lock. -/
  | forwards {c connection m l} (hc : s.relay.connection c = some connection)
      (hpc : (∃ A o, e = .run (.client A) o ∧
          s.client A = some (.forwarding c (.ok m) (.acquiring l))) ∨
        ∃ k o, e = .run (.sender k) o ∧ s.sender k = some ⟨c, .sending (.ok m) (.acquiring l)⟩) :
      Emits s e s' connection.agent_connection m

variable {cfg : RelayConfig} {s s' : RelayState} {e : RelayEvent}

/-- The end of an eviction sends nothing. -/
theorem evicted_to_agent (s : RelayState) (ws : AgentSocket) (m : EtRStartMessage) (n : AgentId)
    (r : NetworkRelay) (res : Res EdgeAgentConnectionClose Unit Exc) :
    (s.evicted ws m n (r, res)).relay.to_agent = r.to_agent := by
  cases res <;> rfl

/-- The next turn of a session's loop sends at most the message of its close. -/
theorem continueLoop_sends (s : RelayState) (A : ClientSocket) (c : ConnectionId)
    (agent : AgentSocket) :
    Sends (fun W m => W = agent ∧ m = closeMessage c ∧ ∃ send,
        (s.continueLoop A c agent).closing? (.client A) = some (c, .informing send)) s.relay
      (s.continueLoop A c agent).relay := by
  rcases continueLoop_cases s A c agent with ⟨B, -, heq⟩ | ⟨-, r', send, heq, -, hsend⟩
  · rw [heq]
    exact .of_eq rfl
  · rw [heq]
    refine (hsend.emits.mono ?_).congr rfl
    rintro W m ⟨hW, hm, -⟩
    exact ⟨hW, hm, send, by simp [closing?]⟩

/-- The forwarding by a session sends its message, or that of its close. -/
theorem forwarded_sends {A : ClientSocket} {c : ConnectionId} {agent : AgentSocket}
    {message : Except Exc ToAgent} {pc : Option LockedSend} {o : Outcome} {r' : NetworkRelay}
    {res : Res LockedSend Unit Exc} (h : SendStep s.relay agent message pc o r' res) :
    Sends (fun W m => W = agent ∧
        ((message = .ok m ∧ ∀ send, pc = some send → ∃ l, send = .acquiring l) ∨
          m = closeMessage c ∧ ∃ send,
            (s.forwarded A c agent message (r', res)).closing? (.client A) =
              some (c, .informing send))) s.relay
      (s.forwarded A c agent message (r', res)).relay := by
  cases res with
  | parked _ | raised _ => exact h.emits.mono fun W m hm => ⟨hm.1, .inl hm.2⟩
  | returned a =>
    have hloop := continueLoop_sends (s.withRelay r') A c agent
    exact (hloop.mono fun W m hm => ⟨hm.1, .inr hm.2⟩).congr h.silent

/-- The start of a create call sends its request if it has the lock. -/
theorem opened_sends {t : Task} {request : ConnectionRequest} {c : ConnectionId} {ws : AgentSocket}
    {r' : NetworkRelay} {send : LockedSend}
    (same : (s.relay.publish c (newConnection s.relay t request ws)).SameButSends r')
    (hsend : Sending (s.relay.publish c (newConnection s.relay t request ws)) ws
      (request.message c) r' send) (hfresh : s.freshId c = true)
    (hs' : s'.relay.connection = r'.connection)
    (hpc : s'.pending? t = some ⟨request, c, ws, .sending send⟩) :
    Sends (Emits s e s') s.relay r' := by
  have hconn : s'.relay.connection c = some (newConnection s.relay t request ws) := by
    rw [hs', same.connection]
    simp
  have hnone := Option.isNone_iff_eq_none.mp (Bool.and_eq_true_iff.mp hfresh).1
  refine (hsend.emits.mono ?_).congr rfl
  rintro W m ⟨rfl, rfl, l, rfl⟩
  exact .opens hpc rfl hnone hconn

/-- What a step of a session sends. -/
theorem ClientRule.sends {A : ClientSocket} {pc : Client} {o : Outcome} (hpc : s.client A = some pc)
    (h : ClientRule cfg s A pc o s') :
    Sends (Emits s (.run (.client A) o) s') s.relay s'.relay := by
  cases h with
  | opens hfresh _ _ same hsend => exact opened_sends same hsend hfresh rfl (by simp [pending?])
  | @creating binary pc _ r' res h =>
    -- The call may put its request on the websocket, now that it has the lock.
    have hcreate : Sends (Emits s (.run (.client A) o) (s.created A binary (r', res))) s.relay
        r' := by
      refine h.emits.mono ?_
      rintro W m ⟨rfl, rfl, l, hpoint⟩
      exact .requests rfl (by simp [pending?, hpc]) hpoint
    cases res with
    | parked _ | returned _ => exact hcreate
    | raised e => cases e <;> exact hcreate
  | @disconnects _ _ _ _ send _ _ _ hsend =>
    refine (hsend.emits.mono ?_).congr rfl
    rintro W m ⟨-, rfl, -⟩
    exact .close rfl (by simp [closing?]; rfl)
  -- Nothing is forwarded, but the loop may be left, and the close sends its message.
  | ignores =>
    refine (continueLoop_sends s A _ _).mono ?_
    rintro W m ⟨-, rfl, send, hclosing⟩
    exact .close rfl hclosing
  -- The data comes first, and after it the message of the close if the loop is left.
  | forwards hc _ h =>
    refine (forwarded_sends h).mono ?_
    rintro W m ⟨rfl, ⟨hm, -⟩ | ⟨rfl, send, hclosing⟩⟩
    · exact .data hc hm (.inl ⟨A, _, rfl, hpc⟩)
    · exact .close rfl hclosing
  | forwarding hc h =>
    refine (forwarded_sends h).mono ?_
    rintro W m ⟨rfl, ⟨rfl, hsend⟩ | ⟨rfl, send, hclosing⟩⟩
    · obtain ⟨l, rfl⟩ := hsend _ rfl
      exact .forwards hc (.inl ⟨A, _, rfl, hpc⟩)
    · exact .close rfl hclosing
  | @closing c _ _ _ r' res _ h =>
    -- A close that goes on sends its message once it has the lock.
    have hclose : Sends (Emits s (.run (.client A) o) (s.connectionClosed A c (r', res))) s.relay
        r' := by
      refine h.emits.mono ?_
      rintro W m ⟨-, rfl, send, rfl⟩
      exact .close rfl (by simp [connectionClosed, closing?]; rfl)
    cases res <;> exact hclose
  | advances | refuses | unregistered | starts | startFails | receiveFails | malformed
  | clientClosed | closeFails | joined | cancels => exact .of_eq rfl

/-- What a step sends to agents. -/
theorem sends_of_rule (h : RelayRule cfg s e s') : Sends (Emits s e s') s.relay s'.relay := by
  cases h with
  | create _ hfresh _ same hsend => exact opened_sends same hsend hfresh rfl (by simp [pending?])
  | handshake _ h =>
    cases h with
    | evicts _ _ _ _ h =>
      refine (Sends.congr (h.emits.mono ?_) rfl).congr_right (evicted_to_agent _ _ _ _ _ _)
      rintro W m ⟨pc', send, rfl, hpc', rfl⟩
      exact .close rfl (by simp [evicted, closing?, hpc']; rfl)
    | evicting h =>
      refine (h.emits.mono ?_).congr_right (evicted_to_agent _ _ _ _ _ _)
      rintro W m ⟨-, pc', send, rfl, hpc', rfl⟩
      exact .close rfl (by simp [evicted, closing?, hpc']; rfl)
    | accepts | receives | refuses | opens | duplicate | noAttribute | ends => exact .of_eq rfl
  | @keepAlive W _ _ _ _ h =>
    -- What a keep-alive task does after its send touches its own stage only.
    have hsent : ∀ r' res, (s.keepAliveSent W (r', res)).relay = r' := by
      intro r' res
      cases res <;> rfl
    cases h with
    | sends h | sending h =>
      rw [hsent]
      refine h.emits.mono ?_
      rintro W m ⟨-, hm, -⟩
      obtain rfl := Except.ok.inj hm
      exact .keepAlive
    | stops => exact .of_eq rfl
  | msgLoop _ h =>
    cases h with
    | disconnects _ h =>
      refine h.emits.mono ?_
      rintro W m ⟨pc', send, rfl, hpc', rfl⟩
      exact .close rfl (by simp [tornDown, closing?, hpc']; rfl)
    | receives _ h =>
      cases h with
      | resets _ _ _ _ _ hsend =>
        refine (hsend.emits.mono ?_).congr rfl
        rintro W m ⟨-, rfl, -⟩
        exact .close rfl (by simp [closing?]; rfl)
      | stops | ignores | fills | schedules | answers | blocks | custom => exact .of_eq rfl
    | resetting _ h =>
      refine h.emits.mono ?_
      rintro W m ⟨-, rfl, send, rfl⟩
      exact .close rfl (by simp [resetHandled, closing?]; rfl)
    | tearingDown h =>
      refine h.emits.mono ?_
      rintro W m ⟨-, pc', send, rfl, hpc', rfl⟩
      exact .close rfl (by simp [tornDown, closing?, hpc']; rfl)
    | receiveFails | puts | customHandled => exact .of_eq rfl
  | client hpc h => exact h.sends hpc
  | reader _ _ h =>
    cases h with
    | sends | parks | ends | dies => exact .of_eq rfl
  | @call k _ _ _ _ hpc h =>
    refine h.emits.mono ?_
    rintro W m ⟨rfl, rfl, l, hpoint⟩
    exact .requests (t := .call k) rfl (by simp [pending?, hpc]) hpoint
  | closes _ _ hsend =>
    refine hsend.emits.mono ?_
    rintro W m ⟨-, rfl, -⟩
    exact .close rfl (by simp [closing?]; rfl)
  | closing _ h =>
    refine h.emits.mono ?_
    rintro W m ⟨-, rfl, send, rfl⟩
    exact .close rfl (by simp [closerReturned, closing?]; rfl)
  | @sends k _ _ _ _ _ _ _ hpc hc h =>
    refine (h.emits.congr rfl).mono ?_
    rintro W m ⟨rfl, hm, -⟩
    exact .data hc hm (.inr ⟨k, _, _, rfl, hpc⟩)
  | @sending k _ _ _ _ _ _ _ hpc hc h =>
    refine h.emits.mono ?_
    rintro W m ⟨rfl, rfl, hsend⟩
    obtain ⟨l, rfl⟩ := hsend _ rfl
    exact .forwards hc (.inr ⟨k, _, rfl, hpc⟩)
  | agentConnects | agentSends | agentDies | clientConnects | createFails | close | send =>
    exact .of_eq rfl

/-! ## The invariant -/

/-- What a message on an agent's websocket is. -/
inductive Addressed (r : NetworkRelay) : AgentSocket → ToAgent → Prop
  | keepAlive {W} : Addressed r W (.text .keepAlive)
  | close {W c} : Addressed r W (closeMessage c)
  | request {request : ConnectionRequest} {c connection} (hc : r.connection c = some connection) :
      Addressed r connection.agent_connection (request.message c)
  | data {c connection content m} (hc : r.connection c = some connection)
      (hm : connection.dataMessage c content = .ok m) : Addressed r connection.agent_connection m

/-- The framing of an object does not change. -/
theorem dataMessage_evolves {r r' : NetworkRelay} (h : Evolves r r') {c : ConnectionId}
    {connection : TcpConnection} (hc : r.connection c = some connection) :
    ∃ connection', r'.connection c = some connection' ∧
      connection'.agent_connection = connection.agent_connection ∧
      ∀ content, connection'.dataMessage c content = connection.dataMessage c content := by
  obtain ⟨connection', hc', hid⟩ := h.connection c connection hc
  simp only [TcpConnection.identity, Prod.mk.injEq] at hid
  refine ⟨connection', hc', hid.2.1, fun content => ?_⟩
  unfold TcpConnection.dataMessage
  rw [hid.2.2.1]

/-- A message stays one for its websocket. -/
theorem Addressed.evolves {r r' : NetworkRelay} (h : Evolves r r') {W : AgentSocket} {m : ToAgent}
    (hm : Addressed r W m) : Addressed r' W m := by
  cases hm with
  | keepAlive => exact .keepAlive
  | close => exact .close
  | request hc =>
    obtain ⟨connection', hc', hagent, -⟩ := dataMessage_evolves h hc
    rw [← hagent]
    exact .request hc'
  | data hc hm =>
    obtain ⟨connection', hc', hagent, hdata⟩ := dataMessage_evolves h hc
    rw [← hagent]
    exact .data hc' (by rw [hdata]; exact hm)

/-- A message that a task is sending is data of its connection. -/
def Framed (r : NetworkRelay) (c : ConnectionId) (message : Except Exc ToAgent) : Prop :=
  ∃ connection content, r.connection c = some connection ∧
    message = connection.dataMessage c content

/-- A message stays one for its connection. -/
theorem Framed.evolves {r r' : NetworkRelay} (h : Evolves r r') {c : ConnectionId}
    {message : Except Exc ToAgent} (hm : Framed r c message) : Framed r' c message := by
  obtain ⟨connection, content, hc, rfl⟩ := hm
  obtain ⟨connection', hc', -, hdata⟩ := dataMessage_evolves h hc
  exact ⟨connection', content, hc', (hdata content).symm⟩

/-! ## Create calls -/

/-- Where a create call that the task `t` is in has come from. -/
inductive PendingBefore (cfg : RelayConfig) (s : RelayState) (e : RelayEvent) (s' : RelayState)
    (t : Task) (pc' : CreateConnection) : Prop
  | same (hrun : ∀ o, e ≠ .run t o) (hpc : s.pending? t = some pc')
  | moved {o pc} (he : e = .run t o) (hpc : s.pending? t = some pc)
      (h : CreateStep cfg s.relay pc o s'.relay (.parked pc'))
  | published {request} (hnone : s.relay.connection pc'.connection_id = none)
      (hconn : s'.relay.connection pc'.connection_id =
        some (newConnection s.relay t request pc'.agent_connection))
      (hfree : (∃ A m, t = .client A ∧ s.client A = some (.checking m)) ∨
        ∃ k, t = .call k ∧ s.call k = none)
      (hqueues : s'.relay.initiate_connection_answer_queues =
        s.relay.initiate_connection_answer_queues ++ [pc'.connection_id])
      (hactive : pc'.connection_id ∈ s'.relay.active_relayed_connections)

/-- A create call that is begun has published its connection. -/
theorem published_of_create {t : Task} {request : ConnectionRequest} {c : ConnectionId}
    {ws : AgentSocket} {r' : NetworkRelay} {send : LockedSend} (hfresh : s.freshId c = true)
    (same : (s.relay.publish c (newConnection s.relay t request ws)).SameButSends r')
    (hfree : (∃ A m, t = .client A ∧ s.client A = some (.checking m)) ∨
      ∃ k, t = .call k ∧ s.call k = none) (hs' : s'.relay = r') :
    PendingBefore cfg s e s' t ⟨request, c, ws, .sending send⟩ := by
  have hnone := Option.isNone_iff_eq_none.mp (Bool.and_eq_true_iff.mp hfresh).1
  have hqueues := same.queues
  have hconn : r'.connection c = some (newConnection s.relay t request ws) := by
    rw [same.connection]
    simp
  -- `_create_connection` publishes the connection before it sends the request.
  have hactive : c ∈ r'.active_relayed_connections := by
    rw [same.active]
    simp
  subst hs'
  exact .published hnone hconn hfree hqueues hactive

/-- A session that creates a connection did so before, or has begun to. -/
theorem pending_of_client {A : ClientSocket} {pc : Client} {o : Outcome} {pc' : CreateConnection}
    (hpc : s.client A = some pc) (h : ClientRule cfg s A pc o s')
    (hpc' : s'.pending? (.client A) = some pc') :
    PendingBefore cfg s (.run (.client A) o) s' (.client A) pc' := by
  -- A session in its loop is in no create call, wherever the loop leads.
  have hloop : ∀ {s₁ : RelayState} {c agent},
      (s₁.continueLoop A c agent).pending? (.client A) = none := by
    intro s₁ c agent
    rcases continueLoop_cases s₁ A c agent with ⟨B, -, heq⟩ | ⟨-, r', send, heq, -⟩ <;>
      rw [heq, pending_setClient]
  have hforwarded : ∀ {c agent message r' res},
      (s.forwarded A c agent message (r', res)).pending? (.client A) = none := by
    intro c agent message r' res
    cases res with
    | parked send | raised e => rw [forwarded, pending_setClient]
    | returned a => exact hloop
  cases h with
  | @advances _ _ pc₁ _ hun =>
    rw [pending_setClient] at hpc'
    cases pc₁ <;> first | cases hpc'; done | cases hun
  | opens hfresh _ _ same =>
    rw [pending_setClient] at hpc'
    obtain rfl := Option.some.inj hpc'
    exact published_of_create hfresh same (.inl ⟨A, _, rfl, hpc⟩) rfl
  | @creating binary pc _ r' res h =>
    cases res with
    | parked pc₁ =>
      rw [created, pending_setClient] at hpc'
      obtain rfl := Option.some.inj hpc'
      exact .moved rfl (by simp [pending?, hpc]) h
    | returned _ =>
      rw [created, pending_setClient] at hpc'
      cases hpc'
    | raised e => cases e <;> simp [pending?, created] at hpc'
  | ignores =>
    rw [hloop] at hpc'
    cases hpc'
  | forwards | forwarding =>
    rw [hforwarded] at hpc'
    cases hpc'
  | @closing _ _ _ _ r' res =>
    cases res <;> rw [connectionClosed, pending_setClient] at hpc' <;> cases hpc'
  | refuses | unregistered | starts | startFails | disconnects | receiveFails | malformed
  | clientClosed | closeFails | joined | cancels =>
    rw [pending_setClient] at hpc'
    cases hpc'

/-- Where a create call has come from. -/
theorem pending_of_rule (h : RelayRule cfg s e s') {t : Task} {pc' : CreateConnection}
    (hpc' : s'.pending? t = some pc') : PendingBefore cfg s e s' t pc' := by
  cases t with
  | client A =>
    by_cases hrun : ∃ o, e = .run (.client A) o
    · obtain ⟨o, rfl⟩ := hrun
      cases h with
      | client hpc h => exact pending_of_client hpc h hpc'
    · have hrun : ∀ o, e ≠ .run (.client A) o := fun o he => hrun ⟨o, he⟩
      by_cases hconn : e = .clientConnects A
      · subst hconn
        cases h with
        | clientConnects => simp [pending?] at hpc'
      · exact .same hrun (by simpa only [pending?, client_frame h hrun hconn] using hpc')
  | call k =>
    by_cases hrun : ∃ o, e = .run (.call k) o
    · obtain ⟨o, rfl⟩ := hrun
      cases h with
      | @call _ pc _ r' res hpc h =>
        cases res with
        | parked pc₁ =>
          obtain rfl : pc₁ = pc' := by simpa [pending?, callReturned] using hpc'
          exact .moved rfl (by simp [pending?, hpc]) h
        | returned _ | raised _ => simp [pending?, callReturned] at hpc'
    · have hrun : ∀ o, e ≠ .run (.call k) o := fun o he => hrun ⟨o, he⟩
      -- The user starts a call by `create` only.
      by_cases hnew : ∃ request c, e = .create k request c
      · obtain ⟨request, c, rfl⟩ := hnew
        cases h with
        | createFails => simp [pending?] at hpc'
        | create hnone hfresh _ same =>
          simp only [pending?, setCall, Function.update_self, Option.some.injEq] at hpc'
          subst hpc'
          exact published_of_create hfresh same (.inr ⟨k, rfl, hnone⟩) rfl
      · have hframe := call_frame h hrun fun request c he => hnew ⟨request, c, he⟩
        exact .same hrun (by simpa only [pending?, hframe] using hpc')
  | _ => cases hpc'

/-- A step of a task that is in a create call. -/
theorem create_of_run {t : Task} {o : Outcome} (h : RelayRule cfg s (.run t o) s')
    {pc : CreateConnection} (hpc : s.pending? t = some pc) :
    ∃ r' res, CreateStep cfg s.relay pc o r' res ∧
      s'.relay.toConnectionTables = r'.toConnectionTables ∧
      ((∃ A binary, t = .client A ∧ s.client A = some (.creating binary pc) ∧
        s' = s.created A binary (r', res)) ∨
        ∃ k, t = .call k ∧ s' = s.callReturned k (some pc.connection_id) (r', res)) := by
  cases h with
  | @client A pc₁ _ _ hA h =>
    simp only [pending?, hA] at hpc
    split at hpc
    · rename_i binary pc₂ heq
      obtain rfl := Option.some.inj hpc
      obtain rfl := Option.some.inj heq
      cases h with
      | @creating _ _ _ r' res h =>
        refine ⟨r', res, h, ?_, .inl ⟨A, binary, rfl, hA, rfl⟩⟩
        cases res with
        | parked _ | returned _ => rfl
        | raised e => cases e <;> rfl
      -- No other rule is about a session that is in a create call.
      | advances hun => cases hun
      | joined hjoin => rcases hjoin with hjoin | hjoin <;> cases hjoin
      | refuses hrefuse =>
        rcases hrefuse with ⟨m, hrefuse⟩ | hrefuse <;> cases hrefuse
    · cases hpc
  | @call k pc₁ _ r' res hk h =>
    obtain rfl : pc₁ = pc := by simpa [pending?, hk] using hpc
    exact ⟨r', res, h, rfl, .inr ⟨k, rfl, rfl⟩⟩
  | handshake | keepAlive | msgLoop | reader | closes | closing | sends | sending => cases hpc

/-- A create call refers to the connection that it has published. -/
def Published (r : NetworkRelay) (t : Task) (pc : CreateConnection) : Prop :=
  ∃ connection, r.connection pc.connection_id = some connection ∧
    connection.agent_connection = pc.agent_connection ∧ connection.creator = t

/-- A connection that has been published stays so. -/
theorem Published.evolves {r r' : NetworkRelay} (h : Evolves r r') {t : Task}
    {pc : CreateConnection} (hpc : Published r t pc) : Published r' t pc := by
  obtain ⟨connection, hc, hagent, hcreator⟩ := hpc
  obtain ⟨connection', hc', hid⟩ := h.connection _ connection hc
  simp only [TcpConnection.identity, Prod.mk.injEq] at hid
  exact ⟨connection', hc', hid.2.1.trans hagent, hid.2.2.2.trans hcreator⟩

/-- A create call that waits has published its connection. -/
theorem Published.parked {r r' : NetworkRelay} {t : Task} {pc pc' : CreateConnection} {o : Outcome}
    (hpc : Published r t pc) (h : CreateStep cfg r pc o r' (.parked pc')) : Published r' t pc' := by
  obtain ⟨-, hid, hagent⟩ := h.parked
  unfold Published
  rw [hid, hagent]
  exact hpc.evolves h.evolves

/-! ## The invariant -/

/-- What the relay has sent to agents, and what its tasks are about to send. -/
structure Outgoing (s : RelayState) : Prop where
  sent : ∀ W, ∀ m ∈ s.relay.to_agent W, Addressed s.relay W m
  forwarding : ∀ A c message send, s.client A = some (.forwarding c message send) →
    Framed s.relay c message
  sender : ∀ k c message send, s.sender k = some ⟨c, .sending message send⟩ →
    Framed s.relay c message
  pending : ∀ t pc, s.pending? t = some pc → Published s.relay t pc

namespace Outgoing

/-- At the start nothing has been sent. -/
theorem initial : Outgoing {} where
  sent _ _ h := by cases h
  forwarding _ _ _ _ h := by cases h
  sender _ _ _ _ h := by cases h
  pending t _ h := by cases t <;> cases h

/-- What a step sends is for its websocket. -/
theorem addressed (hI : Outgoing s) (h : RelayRule cfg s e s') {W : AgentSocket} {m : ToAgent}
    (hm : Emits s e s' W m) : Addressed s'.relay W m := by
  have hev := h.evolves
  cases hm with
  | keepAlive => exact .keepAlive
  | close => exact .close
  | @requests t _ pc _ _ hpc =>
    obtain ⟨connection, hc, hagent, -⟩ := hI.pending t pc hpc
    rw [← hagent]
    exact (Addressed.request hc).evolves hev
  | opens _ _ _ hc => exact .request hc
  | data hc hm => exact (Addressed.data hc hm).evolves hev
  | @forwards c connection m l hc hpc =>
    -- What was being sent was framed for the connection when the send began.
    have hframed : Framed s.relay c (.ok m) := by
      rcases hpc with ⟨A, o, -, hpc⟩ | ⟨k, o, -, hpc⟩
      · exact hI.forwarding A c _ _ hpc
      · exact hI.sender k c _ _ hpc
    obtain ⟨connection', content, hc', hm⟩ := hframed
    obtain rfl := Option.some.inj (hc.symm.trans hc')
    exact (Addressed.data hc hm.symm).evolves hev

/-- What has been sent after a step is for its websocket. -/
theorem sent_step (hI : Outgoing s) (h : RelayRule cfg s e s') (W : AgentSocket) :
    ∀ m ∈ s'.relay.to_agent W, Addressed s'.relay W m := by
  intro m hm
  rcases (sends_of_rule h).mem hm with hold | hnew
  · exact (hI.sent W m hold).evolves h.evolves
  · exact hI.addressed h hnew

/-- What a session is about to send is for its connection. -/
theorem forwarding_step (hI : Outgoing s) (h : RelayRule cfg s e s') {A : ClientSocket}
    {c : ConnectionId} {message : Except Exc ToAgent} {send : LockedSend}
    (hpc' : s'.client A = some (.forwarding c message send)) : Framed s'.relay c message := by
  have hev := h.evolves
  by_cases hrun : ∃ o, e = .run (.client A) o
  · obtain ⟨o, rfl⟩ := hrun
    have hloop : ∀ {s₁ : RelayState} {c₁ agent},
        (s₁.continueLoop A c₁ agent).client A ≠ some (.forwarding c message send) := by
      intro s₁ c₁ agent heq
      rcases continueLoop_cases s₁ A c₁ agent with ⟨B, -, hloop⟩ | ⟨-, r', send, hloop, -⟩ <;>
        simp [hloop] at heq
    -- The session waits with the message that it has framed before.
    have hforwarded : ∀ {c₁ agent message₁ r' res}, Framed s.relay c₁ message₁ →
        (s.forwarded A c₁ agent message₁ (r', res)).client A =
          some (.forwarding c message send) → Framed s.relay c message := by
      intro c₁ agent message₁ r' res hframed heq
      cases res with
      | parked send₁ =>
        simp only [forwarded, setClient, Function.update_self, Option.some.injEq,
          Client.forwarding.injEq] at heq
        obtain ⟨rfl, rfl, -⟩ := heq
        exact hframed
      | returned a => exact absurd heq hloop
      | raised e => simp [forwarded] at heq
    cases h with
    | client hpc h =>
      cases h with
      | @advances _ _ pc' _ hun =>
        obtain rfl : pc' = .forwarding c message send := by simpa using hpc'
        cases hun
      | @creating _ _ _ r' res =>
        cases res with
        | parked _ | returned _ => simp [created] at hpc'
        | raised e => cases e <;> simp [created] at hpc'
      | ignores => exact absurd hpc' hloop
      | forwards hc => exact (hforwarded ⟨_, _, hc, rfl⟩ hpc').evolves hev
      | forwarding => exact (hforwarded (hI.forwarding A _ _ _ hpc) hpc').evolves hev
      | @closing _ _ _ _ r' res => cases res <;> simp [connectionClosed] at hpc'
      | refuses | unregistered | opens | starts | startFails | disconnects | receiveFails
      | malformed | clientClosed | closeFails | joined | cancels => simp at hpc'
  · have hrun : ∀ o, e ≠ .run (.client A) o := fun o he => hrun ⟨o, he⟩
    have hpc := Ownership.client_other h hrun hpc' ⟨c, rfl⟩
    exact (hI.forwarding A c message send hpc).evolves hev

/-- A create call that has not ended has published its connection. -/
theorem pending_step (hI : Outgoing s) (h : RelayRule cfg s e s') {t : Task}
    {pc' : CreateConnection} (hpc' : s'.pending? t = some pc') : Published s'.relay t pc' := by
  cases pending_of_rule h hpc' with
  | same _ hpc => exact (hI.pending t pc' hpc).evolves h.evolves
  | moved _ hpc hstep => exact (hI.pending t _ hpc).parked hstep
  | published _ hconn => exact ⟨_, hconn, rfl, rfl⟩

/-- What a user is about to send is for its connection. -/
theorem sender_step (hI : Outgoing s) (h : RelayRule cfg s e s') {k : ℕ} {c : ConnectionId}
    {message : Except Exc ToAgent} {send : LockedSend}
    (hpc' : s'.sender k = some ⟨c, .sending message send⟩) : Framed s'.relay c message := by
  have hev := h.evolves
  by_cases hrun : ∃ o, e = .run (.sender k) o
  · obtain ⟨o, rfl⟩ := hrun
    -- The same for a `send` of the user.
    have hreturned : ∀ {c₁ point message₁ r' res}, Framed s.relay c₁ message₁ →
        (s.senderReturned k ⟨c₁, point⟩ message₁ (r', res)).sender k =
          some ⟨c, .sending message send⟩ → Framed s.relay c message := by
      intro c₁ point message₁ r' res hframed heq
      cases res with
      | parked send₁ =>
        simp only [senderReturned, setSender, Function.update_self, Option.some.injEq,
          Sender.mk.injEq, SenderPoint.sending.injEq] at heq
        obtain ⟨rfl, rfl, -⟩ := heq
        exact hframed
      | returned _ | raised _ => simp [senderReturned] at heq
    cases h with
    | sends hpc hc => exact (hreturned ⟨_, _, hc, rfl⟩ hpc').evolves hev
    | sending hpc => exact (hreturned (hI.sender k _ _ _ hpc) hpc').evolves hev
  · by_cases hnew : ∃ call content, e = .send k call content
    · obtain ⟨call, content, rfl⟩ := hnew
      cases h with
      | send => simp at hpc'
    · have hpc := sender_frame h (fun o he => hrun ⟨o, he⟩) fun call content he =>
        hnew ⟨call, content, he⟩
      exact (hI.sender k c message send (hpc.symm.trans hpc')).evolves hev

/-- A step keeps the messages to their connections. -/
theorem preserved (hI : Outgoing s) (h : RelayRule cfg s e s') : Outgoing s' where
  sent := hI.sent_step h
  forwarding _ _ _ _ := hI.forwarding_step h
  sender _ _ _ _ := hI.sender_step h
  pending _ _ := hI.pending_step h

end Outgoing

/-- Whatever is sent on an agent's websocket in a run is addressed to this agent. -/
theorem outgoing {ok : RelayState → RelayEvent → Prop} (h : Reaches (step cfg) ok {} s) :
    Outgoing s :=
  h.invariant .initial fun _ _ _ _ _ hstep hI => hI.preserved (step_rule hstep)

/-! ## The connection of a create call -/

/-- The task has made the connection `c`, or lost it with its create call. -/
def RelayState.Made (s : RelayState) (c : ConnectionId) : Task → Prop
  | .client A => ∃ pc, s.client A = some pc ∧ (pc.connection_id? = some c ∨ pc.failed = true)
  | .call k => (∃ pc, s.call k = some (.creating pc) ∧ pc.connection_id = c) ∨
      ∃ result, s.call k = some (.finished (some c) result)
  | _ => False

/-- A create call that has not ended has made its connection. -/
theorem made_of_pending {t : Task} {pc : CreateConnection} (h : s.pending? t = some pc) :
    s.Made pc.connection_id t := by
  cases t with
  | client A =>
    simp only [pending?] at h
    split at h
    · rename_i binary pc' hA
      obtain rfl := Option.some.inj h
      exact ⟨_, hA, .inl rfl⟩
    · cases h
  | call k =>
    simp only [pending?] at h
    split at h
    · rename_i pc' hk
      obtain rfl := Option.some.inj h
      exact .inl ⟨_, hk, rfl⟩
    · cases h
  | _ => cases h

/-- A create call makes one connection. -/
theorem pending_of_made {t : Task} {pc : CreateConnection} {c : ConnectionId}
    (h : s.pending? t = some pc) (hmade : s.Made c t) : pc.connection_id = c := by
  cases t with
  | client A =>
    obtain ⟨pc', hA, hstage⟩ := hmade
    simp only [pending?, hA] at h
    split at h
    · rename_i binary pc'' heq
      obtain rfl := Option.some.inj h
      obtain rfl := Option.some.inj heq
      -- A session in its create call has not failed, so its connection is that of the call.
      rcases hstage with hid | hfailed
      · exact Option.some.inj hid
      · cases hfailed
    · cases h
  | call k =>
    rcases hmade with ⟨pc', hk, hid⟩ | ⟨result, hk⟩
    · obtain rfl : pc' = pc := by simpa [pending?, hk] using h
      exact hid
    · simp [pending?, hk] at h
  | _ => cases hmade

/-- A session that has failed stays so. -/
theorem ClientRule.failed {A : ClientSocket} {pc : Client} {o : Outcome}
    (h : ClientRule cfg s A pc o s') (hpc : pc.failed = true) :
    ∃ pc', s'.client A = some pc' ∧ pc'.failed = true := by
  -- A session without a connection is about to report its error, or has ended.
  have hpc₀ : pc = .reportingError ∨ ∃ result, pc = .finished none result := by
    cases pc with
    | reportingError => exact .inl rfl
    | finished i result =>
      cases i with
      | none => exact .inr ⟨result, rfl⟩
      | some c => cases hpc
    | _ => cases hpc
  cases h with
  | @advances _ _ pc' _ _ hdone _ _ hlast =>
    rcases hpc₀ with rfl | ⟨result, rfl⟩
    · obtain ⟨result, rfl⟩ := hlast rfl
      exact ⟨_, Function.update_self _ _ _, rfl⟩
    · exact absurd rfl (hdone none result)
  | refuses hrefuse => rcases hrefuse with ⟨m, rfl⟩ | rfl <;> cases hpc
  | joined hjoin => rcases hjoin with rfl | rfl <;> cases hpc
  | _ => cases hpc

/-- A task keeps the connection that it has made. -/
theorem Made.step (h : RelayRule cfg s e s') {t : Task} {c : ConnectionId} (hmade : s.Made c t) :
    s'.Made c t := by
  cases t with
  | client A =>
    obtain ⟨pc, hpc, hstage⟩ := hmade
    by_cases hrun : ∃ o, e = .run (.client A) o
    · obtain ⟨o, rfl⟩ := hrun
      rcases hstage with hid | hfailed
      · obtain ⟨pc₀, hpc₀, hmoved⟩ := moved_of_run h
        obtain rfl := Option.some.inj (hpc₀.symm.trans hpc)
        cases hmoved with
        | ended pc' hpc' hid' =>
          exact ⟨pc', hpc', hid'.imp (fun heq => heq.trans hid) And.right⟩
        | created _ _ _ hnone =>
          rw [hid] at hnone
          cases hnone
        | stays pc' hpc' hid' => exact ⟨pc', hpc', .inl (hid'.trans hid)⟩
        | entered hpc₁ hpc' =>
          subst hpc₁
          exact ⟨_, hpc', .inl hid⟩
        | @left c₁ pc' hconnected hpc' hleaving =>
          rw [Client.connection_id?_of_connected hconnected] at hid
          exact ⟨pc', hpc', .inl ((Client.connection_id?_of_leaving hleaving).trans hid)⟩
      · cases h with
        | client hpc₀ hrule =>
          obtain rfl := Option.some.inj (hpc₀.symm.trans hpc)
          obtain ⟨pc', hpc', hfailed'⟩ := hrule.failed hfailed
          exact ⟨pc', hpc', .inr hfailed'⟩
    · have hconn : e ≠ .clientConnects A := by
        rintro rfl
        cases h with
        | clientConnects hnone =>
          rw [hpc] at hnone
          cases hnone
      have hframe := client_frame h (fun o he => hrun ⟨o, he⟩) hconn
      exact ⟨pc, hframe.trans hpc, hstage⟩
  | call k =>
    have hsome : s.call k ≠ none := by
      rcases hmade with ⟨pc, hk, -⟩ | ⟨result, hk⟩ <;> simp [hk]
    by_cases hrun : ∃ o, e = .run (.call k) o
    · obtain ⟨o, rfl⟩ := hrun
      cases h with
      | @call _ pc _ r' res hk h =>
        have hpending : s.pending? (.call k) = some pc := by simp [pending?, hk]
        have hid := pending_of_made hpending hmade
        cases res with
        | parked pc' =>
          exact .inl ⟨pc', by simp [callReturned], h.parked.2.1.trans hid⟩
        | returned c' => exact .inr ⟨.ok c', by simp [callReturned, hid]⟩
        | raised e => exact .inr ⟨.error e, by simp [callReturned, hid]⟩
    · have hnew : ∀ request c₁, e ≠ .create k request c₁ := by
        rintro request c₁ rfl
        cases h with
        | createFails hnone => exact hsome hnone
        | create hnone => exact hsome hnone
      have hframe := call_frame h (fun o he => hrun ⟨o, he⟩) hnew
      simpa only [Made, hframe] using hmade
  | _ => cases hmade

/-- Every connection object was made by its creator. -/
theorem made {ok : RelayState → RelayEvent → Prop} (h : Reaches (step cfg) ok {} s) :
    ∀ c connection, s.relay.connection c = some connection → s.Made c connection.creator := by
  refine h.invariant (I := fun s => ∀ c connection, s.relay.connection c = some connection →
    s.Made c connection.creator) (by simp) ?_
  intro s e s' _ _ hstep hI c connection hc
  have hrule := step_rule hstep
  cases hold : s.relay.connection c with
  | none =>
    obtain ⟨-, pc, hpc, rfl⟩ := connection_new hrule hold hc
    exact made_of_pending hpc
  | some connection₀ =>
    obtain ⟨connection₁, hc₁, hid⟩ := hrule.evolves.connection c connection₀ hold
    obtain rfl := Option.some.inj (hc₁.symm.trans hc)
    simp only [TcpConnection.identity, Prod.mk.injEq] at hid
    rw [hid.2.2.2]
    exact Made.step hrule (hI c connection₀ hold)

/-- A task makes one connection. -/
theorem sole_connection {ok : RelayState → RelayEvent → Prop} (h : Reaches (step cfg) ok {} s) :
    ∀ c₁ c₂ connection₁ connection₂, s.relay.connection c₁ = some connection₁ →
      s.relay.connection c₂ = some connection₂ → connection₁.creator = connection₂.creator →
      c₁ = c₂ := by
  refine h.invariant (I := fun s => ∀ c₁ c₂ connection₁ connection₂,
    s.relay.connection c₁ = some connection₁ → s.relay.connection c₂ = some connection₂ →
      connection₁.creator = connection₂.creator → c₁ = c₂) (by simp) ?_
  intro s e s' hr _ hstep hI
  have hrule := step_rule hstep
  have hold : ∀ {c connection}, s.relay.connection c ≠ none →
      s'.relay.connection c = some connection →
      ∃ connection₀, s.relay.connection c = some connection₀ ∧
        connection₀.creator = connection.creator := by
    intro c connection hsome hc
    obtain ⟨connection₀, hc₀⟩ := Option.ne_none_iff_exists'.mp hsome
    obtain ⟨connection₁, hc₁, hid⟩ := hrule.evolves.connection c connection₀ hc₀
    obtain rfl := Option.some.inj (hc₁.symm.trans hc)
    simp only [TcpConnection.identity, Prod.mk.injEq] at hid
    exact ⟨connection₀, hc₀, hid.2.2.2.symm⟩
  -- A task that makes a connection has not made one before.
  have hnew : ∀ {c connection}, s.relay.connection c = none →
      s'.relay.connection c = some connection → ∀ c', ¬ s.Made c' connection.creator := by
    intro c connection hnone hc c' hmade
    obtain ⟨-, pc, hpc, hid⟩ := connection_new hrule hnone hc
    have hexists : ∀ {pc'}, s.pending? connection.creator = some pc' → pc'.connection_id ≠ c := by
      rintro pc' hpc' rfl
      obtain ⟨connection₀, hc₀, -⟩ := (outgoing hr).pending _ pc' hpc'
      rw [hnone] at hc₀
      cases hc₀
    cases pending_of_rule hrule hpc with
    | same _ hpc' => exact hexists hpc' hid
    | moved _ hpc' hcreate => exact hexists hpc' (hcreate.parked.2.1.symm.trans hid)
    | published _ _ hfree =>
      rcases hfree with ⟨A, m, heq, hA⟩ | ⟨k, heq, hk⟩
      · rw [heq] at hmade
        obtain ⟨pc', hA', hstage⟩ := hmade
        obtain rfl := Option.some.inj (hA.symm.trans hA')
        rcases hstage with hstage | hstage <;> cases hstage
      · rw [heq] at hmade
        rcases hmade with ⟨pc', hk', -⟩ | ⟨result, hk'⟩ <;> simp [hk] at hk'
  intro c₁ c₂ connection₁ connection₂ hc₁ hc₂ heq
  by_cases h₁ : s.relay.connection c₁ = none
  · by_cases h₂ : s.relay.connection c₂ = none
    · obtain ⟨-, pc₁, hpc₁, rfl⟩ := connection_new hrule h₁ hc₁
      obtain ⟨-, pc₂, hpc₂, rfl⟩ := connection_new hrule h₂ hc₂
      rw [heq, hpc₂] at hpc₁
      rw [Option.some.inj hpc₁]
    · obtain ⟨connection₀, hc₀, hcreator⟩ := hold h₂ hc₂
      have hmade := made hr c₂ connection₀ hc₀
      rw [hcreator, ← heq] at hmade
      exact absurd hmade (hnew h₁ hc₁ c₂)
  · obtain ⟨connection₀, hc₀, hcreator⟩ := hold h₁ hc₁
    by_cases h₂ : s.relay.connection c₂ = none
    · have hmade := made hr c₁ connection₀ hc₀
      rw [hcreator, heq] at hmade
      exact absurd hmade (hnew h₂ hc₂ c₁)
    · obtain ⟨connection₀', hc₀', hcreator'⟩ := hold h₂ hc₂
      exact hI c₁ c₂ connection₀ connection₀' hc₀ hc₀' (hcreator.trans (heq.trans hcreator'.symm))

end HttpNetworkRelay
