import HttpNetworkRelay.Relay.AccessClients
import HttpNetworkRelay.Relay.Upstream

/-!
# What a session asks for

A session passes its start message on: the connection target is the id under which
`_create_connection` looks up the agent, and the other fields go to that agent. `Targets` says so of
all that the relay has asked agents for on behalf of the session, whichever class of relay it is.
-/

namespace HttpNetworkRelay

open Asyncio Python RelayState NetworkRelay NetworkRelayForAccessClients

/-- The websocket was registered under the id that the start message names. -/
def RelayState.Named (s : RelayState) (edge_agent_connection : AgentSocket) (m : AtRStartMessage) :
    Prop :=
  s.handshake edge_agent_connection =
    some (.finished (.ok (some (get_agent_connection_id_for_access_client m.connection_target))))

/-- What has been asked for on behalf of the session on `A` is what its start message `m` asks for.
-/
structure Targets (A : ClientSocket) (m : AtRStartMessage) (s : RelayState) : Prop where
  checking : ∀ m', s.client A = some (.checking m') → m' = m
  pending : ∀ pc, s.pending? (.client A) = some pc →
    pc.request = sessionRequest m ∧ s.Named pc.agent_connection m
  requested : ∀ W (request : ConnectionRequest) c connection,
    request.message c ∈ s.relay.to_agent W →
    s.relay.connection c = some connection → connection.creator = .client A →
    request.message c = (sessionRequest m).message c ∧ s.Named W m

/-- The start message that the session on `A` receives, if it does, is `m`. -/
def SessionStarts (A : ClientSocket) (m : AtRStartMessage) (s : RelayState) (e : RelayEvent) :
    Prop :=
  ∀ m', e = .run (.client A) (.frame (.text (some (.start m')))) →
    s.client A = some .receivingStart → m' = m

variable {cfg : RelayConfig} {s s' : RelayState} {e : RelayEvent} {A : ClientSocket}
  {m : AtRStartMessage} {W : AgentSocket} {c : ConnectionId}

/-- A websocket stays registered under the id that was named. -/
theorem RelayState.Named.step (h : RelayRule cfg s e s') (hW : s.Named W m) : s'.Named W m :=
  handshake_finished h hW

/-- A session is checked since it has received its start message. -/
theorem checking_before (hstep : step cfg s e = some s') {m' : AtRStartMessage}
    (hpc' : s'.client A = some (.checking m')) :
    s.client A = some (.checking m') ∨
      s.client A = some .receivingStart ∧
        e = .run (.client A) (.frame (.text (some (.start m')))) := by
  have h := step_rule hstep
  by_cases hrun : ∃ o, e = .run (.client A) o
  · obtain ⟨o, rfl⟩ := hrun
    obtain ⟨pc, hpc, hresume⟩ := Option.bind_eq_some_iff.mp hstep
    obtain ⟨rfl, rfl⟩ := checking_of_resume hpc hresume hpc'
    exact .inr ⟨hpc, rfl⟩
  · have hconn : e ≠ .clientConnects A := by
      rintro rfl
      cases h with
      | clientConnects => simp at hpc'
    exact .inl ((client_frame h (fun o he => hrun ⟨o, he⟩) hconn).symm.trans hpc')

/-- The id in a request is that of the connection. -/
theorem message_id {request request' : ConnectionRequest} {c c' : ConnectionId}
    (h : request.message c = request'.message c') : c = c' := by
  simp only [ConnectionRequest.message, ToAgent.text.injEq,
    RelayToEdgeAgentMessage.initiateConnection.injEq] at h
  exact h.2.2.2.1

/-- A request has been sent for a connection of the websocket. -/
theorem Outgoing.requested (hO : Outgoing s) {request : ConnectionRequest}
    (hm : request.message c ∈ s.relay.to_agent W) :
    ∃ connection, s.relay.connection c = some connection ∧ connection.agent_connection = W := by
  have haddressed := hO.sent W _ hm
  generalize hmessage : request.message c = message at haddressed
  cases haddressed with
  | keepAlive | close => cases hmessage
  | @request request' c' connection hc =>
    obtain rfl := message_id hmessage
    exact ⟨connection, hc, rfl⟩
  | data _ hdata =>
    subst hmessage
    exact absurd hdata request_ne_data

/-- Where a new request comes from: a call that has waited for the lock, or one that has just looked
up the agent. -/
theorem Emits.caller {request : ConnectionRequest} (h : Emits s e s' W (request.message c))
    (hO : Outgoing s) (hO' : Outgoing s') :
    ∃ t pc, (s.pending? t = some pc ∨ s'.pending? t = some pc) ∧ pc.agent_connection = W ∧
      pc.connection_id = c ∧ request.message c = pc.request.message c := by
  generalize hmessage : request.message c = message at h
  cases h with
  | keepAlive | close => cases hmessage
  | @requests t o pc l _ hpc =>
    obtain rfl := message_id hmessage
    exact ⟨t, pc, .inl hpc, rfl, rfl, rfl⟩
  | @opens t pc connection l hpc _ _ hc =>
    obtain rfl := message_id hmessage
    obtain ⟨connection', hc', hagent, -⟩ := hO'.pending t pc hpc
    obtain rfl := Option.some.inj (hc.symm.trans hc')
    exact ⟨t, pc, .inr hpc, hagent.symm, rfl, rfl⟩
  | data _ hdata =>
    subst hmessage
    exact absurd hdata request_ne_data
  | forwards _ hpc =>
    subst hmessage
    rcases hpc with ⟨B, _, -, hpc⟩ | ⟨k, _, -, hpc⟩
    · obtain ⟨connection, content, -, hdata⟩ := hO.forwarding B _ _ _ hpc
      exact absurd hdata.symm request_ne_data
    · obtain ⟨connection, content, -, hdata⟩ := hO.sender k _ _ _ hpc
      exact absurd hdata.symm request_ne_data

/-- A session that starts with `m` is checked with `m`. -/
theorem SessionStarts.checking (hstart : SessionStarts A m s e) (hstep : step cfg s e = some s')
    (hbefore : ∀ m', s.client A = some (.checking m') → m' = m) {m' : AtRStartMessage}
    (hpc' : s'.client A = some (.checking m')) : m' = m := by
  rcases checking_before hstep hpc' with hpc | ⟨hpc, he⟩
  · exact hbefore m' hpc
  · exact hstart m' he hpc

namespace Targets

/-- At the start nothing has been asked for. -/
theorem initial : Targets A m {} where
  checking _ h := by cases h
  pending _ h := by cases h
  requested _ _ _ _ h := by cases h

section
variable (hT : Targets A m s) (hI : RegistryInv s) (hO : Outgoing s)
  (hstep : step cfg s e = some s')

include hT hI hstep in
/-- A create call of the session asks for what its start message does. -/
theorem pending_step {pc' : CreateConnection} (hpc' : s'.pending? (.client A) = some pc') :
    pc'.request = sessionRequest m ∧ s'.Named pc'.agent_connection m := by
  have h := step_rule hstep
  cases pending_of_rule h hpc' with
  | same _ hpc =>
    obtain ⟨hrequest, hnamed⟩ := hT.pending pc' hpc
    exact ⟨hrequest, hnamed.step h⟩
  | moved _ hpc hcreate =>
    obtain ⟨hrequest, hnamed⟩ := hT.pending _ hpc
    obtain ⟨hsame, -, hagent⟩ := hcreate.parked
    rw [hsame, hagent]
    exact ⟨hrequest, hnamed.step h⟩
  | published _ _ hfree =>
    -- The session has looked up the agent in this step.
    obtain ⟨B, m', hB, hpc⟩ | ⟨k, hcall, -⟩ := hfree
    · obtain rfl : A = B := by simpa using hB
      obtain rfl := hT.checking m' hpc
      have hrun : ∃ o, e = .run (.client A) o := by
        by_contra hrun
        have hconn : e ≠ .clientConnects A := by
          rintro rfl
          cases h with
          | clientConnects hnew => simp [hnew] at hpc
        rw [pending?, client_frame h (fun o he => hrun ⟨o, he⟩) hconn, hpc] at hpc'
        cases hpc'
      obtain ⟨o, rfl⟩ := hrun
      obtain ⟨pc, hpc₁, hresume⟩ := Option.bind_eq_some_iff.mp hstep
      obtain rfl := Option.some.inj (hpc.symm.trans hpc₁)
      simp only [resumeClient] at hresume
      split at hresume
      · rcases startSession_cases hresume with hpc₂ | ⟨binary, pc, hpc₂, hrequest, hreg⟩
        · simp [pending?, hpc₂] at hpc'
        · obtain rfl : pc = pc' := by simpa [pending?, hpc₂] using hpc'
          exact ⟨hrequest, handshake_finished h (hI.registered _ _ hreg)⟩
      · cases hresume
        simp [pending?] at hpc'
      · cases hresume
        simp [pending?] at hpc'
      · cases hresume
    · cases hcall

include hT hI hO hstep in
/-- A request that has been sent asks for what the start message does. -/
theorem requested_step {request : ConnectionRequest} {connection : TcpConnection}
    (hm : request.message c ∈ s'.relay.to_agent W) (hc : s'.relay.connection c = some connection)
    (hcreator : connection.creator = .client A) :
    request.message c = (sessionRequest m).message c ∧ s'.Named W m := by
  have h := step_rule hstep
  rcases (sends_of_rule h).mem hm with hold | hnew
  · obtain ⟨connection₀, hc₀, -⟩ := hO.requested hold
    have hcreator₀ := (same_connection h.evolves hc₀ hc).2.symm.trans hcreator
    obtain ⟨hmessage, hnamed⟩ := hT.requested W request c connection₀ hold hc₀ hcreator₀
    exact ⟨hmessage, hnamed.step h⟩
  · obtain ⟨t, pc, hpc, rfl, rfl, hmessage⟩ := hnew.caller hO (hO.preserved h)
    -- The caller has made the connection, so it is the session.
    have hpublished : Published s'.relay t pc := by
      rcases hpc with hpc | hpc
      · exact (hO.pending _ _ hpc).evolves h.evolves
      · exact (hO.preserved h).pending _ _ hpc
    obtain ⟨connection', hc', -, hcreator'⟩ := hpublished
    obtain rfl := Option.some.inj (hc.symm.trans hc')
    obtain rfl : t = .client A := hcreator'.symm.trans hcreator
    rw [hmessage]
    rcases hpc with hpc | hpc
    · obtain ⟨hrequest, hnamed⟩ := hT.pending pc hpc
      exact ⟨by rw [hrequest], hnamed.step h⟩
    · obtain ⟨hrequest, hnamed⟩ := hT.pending_step hI hstep hpc
      exact ⟨by rw [hrequest], hnamed⟩

include hT hI hO hstep in
/-- A step keeps to the start message. -/
theorem preserved (hstart : SessionStarts A m s e) : Targets A m s' where
  checking _ hpc' := hstart.checking hstep hT.checking hpc'
  pending _ hpc' := hT.pending_step hI hstep hpc'
  requested _ _ _ _ hm hc hcreator := hT.requested_step hI hO hstep hm hc hcreator

end

end Targets

/-- In every run in which its session starts with `m`, an access client gets what `m` asks for. -/
theorem targets (h : Reaches (step cfg) (SessionStarts A m) {} s) : Targets A m s := by
  refine h.invariant (I := Targets A m) .initial fun s e s' hr hok hstep hT => ?_
  exact hT.preserved (registryInv hr) (outgoing hr) hstep hok

end HttpNetworkRelay
