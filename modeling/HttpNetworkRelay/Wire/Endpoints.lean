import HttpNetworkRelay.Agent.StartMessages
import HttpNetworkRelay.Relay.Blind
import HttpNetworkRelay.Wire.Texts

/-!
# The wrong endpoint

The relay has two endpoints, and the messages of agents and of access clients have kinds in common,
such as `start`. An access client that is given the URL of the agents' endpoint, or the other way
round, says something there that the relay reads as a message of another class. `crossed_endpoints`
says that it is turned away: its start message does not get as far as a check of its credentials.
-/

namespace HttpNetworkRelay

open Asyncio Python RelayState NetworkRelayForAccessClients

variable {T : Texts}

/-! ## What the other endpoint makes of a message -/

namespace Texts.Documented

/-- The agents' endpoint finds no name in a message of an access client. -/
theorem no_name (hT : T.Documented) {m : AccessClientToRelayMessage} {j : T.Text}
    (hj : T.dump_access_client m = some j) {m' : EtRStartMessage}
    (h : T.validate_edge_agent j = some (.start m')) :
    EdgeAgentToRelayStartMessage.model_validate m' = none := by
  have hfields : "name" ∉ m.fields := by
    cases m <;> simp [AccessClientToRelayMessage.fields, AtRStartMessage.required]
  have hnone : m'.extra.lookup "name" = none := by
    refine List.lookup_eq_none_iff.mpr fun entry hentry => ?_
    obtain ⟨hkey, -⟩ := (hT.extra j m' h entry.1).mp (List.mem_map_of_mem hentry)
    rw [hT.keys_access_client m j hj] at hkey
    have hne : "name" ≠ entry.1 := fun heq => hfields (heq ▸ hkey)
    simpa using hne
  unfold EdgeAgentToRelayStartMessage.model_validate EtRStartMessage.attribute
  rw [hnone]
  rfl

/-- The access clients' endpoint finds no target in a message of an agent. -/
theorem no_target (hT : T.Documented) {m : EdgeAgentToRelayMessage} {j : T.Text}
    (hj : T.dump_edge_agent m = some j)
    (hextra : ∀ message, m = .start message → "connection_target" ∉ message.extra.map Prod.fst)
    (m' : AtRStartMessage) : T.validate_access_client j ≠ some (.start m') := by
  intro h
  have hkey := hT.required j m' h "connection_target" (by simp [AtRStartMessage.required])
  rw [hT.keys_edge_agent m j hj] at hkey
  cases m with
  | start message =>
    rcases List.mem_append.mp hkey with hdeclared | hattribute
    · exact absurd hdeclared (by decide)
    · exact hextra message rfl hattribute
  | _ => exact absurd hkey (by simp [EdgeAgentToRelayMessage.fields])

end Texts.Documented

/-! ## Sessions at the wrong endpoint -/

/-- A frame that an access client sends, as the agents' endpoint receives it. -/
def sentByAccessClient (T : Texts) (frame : AgentFrame) : Prop :=
  (∃ data, frame = .bytes data) ∨
    ∃ m j custom, T.dump_access_client m = some j ∧
      frame = .text ⟨T.validate_edge_agent j, custom⟩

/-- A frame that an agent of the example sends, as the access clients' endpoint receives it. -/
def sentByAgent (T : Texts) (a : EdgeAgentForAccessClients) (frame : ClientFrame) : Prop :=
  (∃ data, frame = .bytes data) ∨
    ∃ m j, T.dump_edge_agent m = some j ∧
      (∀ message, m = .start message → ∃ last_error,
        message = { a.create_start_message last_error with supports_binary := true }) ∧
      frame = .text (T.validate_access_client j)

/-- An access client has connected to the agents' endpoint, on `W`, and an agent to the access
clients' endpoint, on `A`. -/
structure Crossed (T : Texts) (a : EdgeAgentForAccessClients) (W : AgentSocket) (A : ClientSocket)
    (e : RelayEvent) : Prop where
  agents : ∀ frame, e = .agentSends W frame → sentByAccessClient T frame
  clients : ∀ frame, e = .run (.client A) (.frame frame) → sentByAgent T a frame

/-- The handshake has not come to a check, and has not registered its websocket. -/
def Handshake.unchecked : Handshake → Bool
  | .accepting | .receivingStart | .finished (.ok none) | .finished (.error _) => true
  | .checking _ | .refusing | .evicting _ _ _ | .finished (.ok (some _)) => false

/-- The session has not come to a check, and has not asked for a connection. -/
def Client.unchecked : Client → Bool
  | .accepting | .receivingStart | .finished none _ => true
  | _ => false

/-- Both are turned away. -/
structure TurnedAway (T : Texts) (W : AgentSocket) (A : ClientSocket) (s : RelayState) : Prop where
  sent : ∀ frame ∈ s.relay.agent_sent W, sentByAccessClient T frame
  handshake : ∀ pc, s.handshake W = some pc → pc.unchecked = true
  client : ∀ pc, s.client A = some pc → pc.unchecked = true

variable {a : EdgeAgentForAccessClients} {W : AgentSocket} {A : ClientSocket} {cfg : RelayConfig}
  {credentials : Credentials} {s s' : RelayState} {e : RelayEvent}

/-- No frame of an access client is a start message that validates. -/
theorem startReceived_unchecked (hT : T.Documented) {frame : AgentFrame}
    (h : sentByAccessClient T frame) :
    (startReceived (relayConfig cfg) frame).unchecked = true := by
  rcases h with ⟨data, rfl⟩ | ⟨m, j, custom, hj, rfl⟩
  · rfl
  · unfold startReceived
    dsimp only
    split
    next => rfl
    next start_message hknown =>
      have hinvalid := hT.no_name hj hknown
      simp [relayConfig, hinvalid, Handshake.unchecked]
    next => rfl

/-- No frame of an agent is a start message. -/
theorem sentByAgent.no_start (hT : T.Documented) {m : AtRStartMessage}
    (h : sentByAgent T a (.text (some (.start m)))) : False := by
  rcases h with ⟨data, h⟩ | ⟨m', j, hj, hstart, h⟩
  · cases h
  · refine hT.no_target hj ?_ m (ClientFrame.text.inj h).symm
    rintro message rfl
    obtain ⟨last_error, rfl⟩ := hstart message rfl
    show "connection_target" ∉ ["name", "secret"]
    decide

namespace TurnedAway

/-- The handshake does not come to check what the access client sends. -/
theorem handshake_step (hdoc : T.Documented) (hI : RegistryInv s) (hT : TurnedAway T W A s)
    (h : RelayRule (relayConfig cfg) s e s') {pc' : Handshake} (hpc' : s'.handshake W = some pc') :
    pc'.unchecked = true := by
  by_cases hrun : ∃ o, e = .run (.handshake W) o
  · obtain ⟨o, rfl⟩ := hrun
    cases h with
    | handshake hpc h =>
      have hbefore := hT.handshake _ hpc
      cases h with
      | accepts =>
        obtain rfl : Handshake.receivingStart = pc' := by simpa using hpc'
        rfl
      | @receives frame rest hin =>
        obtain rfl : startReceived (relayConfig cfg) frame = pc' := by simpa using hpc'
        have hframe : frame ∈ s.relay.agent_sent W := by
          have hsuffix := hI.inbox W
          rw [hin] at hsuffix
          exact hsuffix.subset List.mem_cons_self
        exact startReceived_unchecked hdoc (hT.sent frame hframe)
      | @ends _ _ result _ _ hres =>
        obtain rfl : Handshake.finished result = pc' := by simpa using hpc'
        match result with
        | .ok none | .error _ => rfl
        | .ok (some n) => exact absurd rfl (hres n)
      | refuses | opens | duplicate | noAttribute | evicts | evicting => cases hbefore
  · by_cases hconn : e = .agentConnects W
    · subst hconn
      cases h with
      | agentConnects =>
        obtain rfl : Handshake.accepting = pc' := by simpa using hpc'
        rfl
    · rw [handshake_frame h (fun o he => hrun ⟨o, he⟩) hconn] at hpc'
      exact hT.handshake pc' hpc'

/-- The session does not come to check what the agent sends. -/
theorem client_step (hdoc : T.Documented) (hT : TurnedAway T W A s) (hok : Crossed T a W A e)
    (hstep : HttpNetworkRelay.step cfg s e = some s') {pc' : Client}
    (hpc' : s'.client A = some pc') : pc'.unchecked = true := by
  have h := step_rule hstep
  by_cases hrun : ∃ o, e = .run (.client A) o
  · obtain ⟨o, rfl⟩ := hrun
    obtain ⟨pc, hpc, hresume⟩ := Option.bind_eq_some_iff.mp hstep
    have hbefore := hT.client pc hpc
    have hset : ∀ pc₁ : Client, pc₁.unchecked = true → some (s.setClient A pc₁) = some s' →
        pc'.unchecked = true := by
      intro pc₁ hunchecked heq
      obtain rfl := Option.some.inj heq
      obtain rfl : pc₁ = pc' := by simpa using hpc'
      exact hunchecked
    cases pc with
    | accepting =>
      dsimp only [resumeClient] at hresume
      split at hresume
      case h_1 => exact hset .receivingStart rfl hresume
      case h_2 => exact hset _ rfl hresume
      case h_3 => cases hresume
    | receivingStart =>
      dsimp only [resumeClient] at hresume
      split at hresume
      case h_1 m => exact ((hok.clients _ rfl).no_start hdoc).elim
      case h_6 => cases hresume
      all_goals exact hset _ rfl hresume
    | finished i result => cases hresume
    | _ => cases hbefore
  · by_cases hconn : e = .clientConnects A
    · subst hconn
      cases h with
      | clientConnects =>
        obtain rfl : Client.accepting = pc' := by simpa using hpc'
        rfl
    · rw [client_frame h (fun o he => hrun ⟨o, he⟩) hconn] at hpc'
      exact hT.client pc' hpc'

/-- A step keeps the crossed peers turned away. -/
theorem preserved (hdoc : T.Documented) (hI : RegistryInv s) (hT : TurnedAway T W A s)
    (hok : Crossed T a W A e) (hstep : HttpNetworkRelay.step (relayConfig cfg) s e = some s') :
    TurnedAway T W A s' where
  sent frame hframe := by
    by_cases hsend : ∃ W₀ frame₀, e = .agentSends W₀ frame₀
    · obtain ⟨W₀, frame₀, rfl⟩ := hsend
      cases step_rule hstep with
      | agentSends =>
        by_cases hW : W = W₀
        · subst hW
          simp only [withRelay, Function.update_self, List.mem_append, List.mem_singleton] at hframe
          rcases hframe with hold | rfl
          · exact hT.sent frame hold
          · exact hok.agents frame rfl
        · simp only [withRelay, Function.update_of_ne hW] at hframe
          exact hT.sent frame hframe
    · rw [agent_sent_frame (step_rule hstep) fun W₀ frame₀ he => hsend ⟨W₀, frame₀, he⟩] at hframe
      exact hT.sent frame hframe
  handshake _ hpc' := hT.handshake_step hdoc hI (step_rule hstep) hpc'
  client _ hpc' := hT.client_step hdoc hok hstep hpc'

/-- A message to an access client changes nothing of this. -/
theorem told (hT : TurnedAway T W A s) (B : ClientSocket) (message : ToClient) :
    TurnedAway T W A (s.withRelay (s.relay.sendToClient B message)) :=
  ⟨hT.sent, hT.handshake, hT.client⟩

end TurnedAway

/-- In every run of the example's relay, a party that has connected to the wrong endpoint is turned
away: an access client at the agents' endpoint is not registered, and no connection is made through
it, and an agent at the access clients' endpoint gets no session. Neither comes to a check. -/
theorem crossed_endpoints (T : Texts) (hdoc : T.Documented) (a : EdgeAgentForAccessClients)
    (W : AgentSocket) (A : ClientSocket) (cfg : RelayConfig) (credentials : Credentials)
    (s : RelayState)
    (h : Reaches (NetworkRelayForAccessClients.step cfg credentials)
      (fun _ e => Crossed T a W A e) {} s) :
    (∀ pc, s.handshake W = some pc → pc.unchecked = true) ∧
      (∀ n, s.relay.registered_agent_connections n ≠ some W) ∧
      (∀ c connection, s.relay.connection c = some connection →
        connection.agent_connection ≠ W) ∧
      ∀ pc, s.client A = some pc → pc.unchecked = true := by
  have hT : TurnedAway T W A s := by
    refine h.invariant (I := TurnedAway T W A) ⟨?_, ?_, ?_⟩ fun s e s' hr hok hstep hT => ?_
    · intro frame hframe
      cases hframe
    · intro pc hpc
      cases hpc
    · intro pc hpc
      cases hpc
    · obtain ⟨hI, -⟩ := base_invariants hr
      obtain ⟨-, s₁, hs₁, hs'⟩ := step_base hstep
      have hT₁ := hT.preserved hdoc hI hok hs₁
      rcases hs' with rfl | ⟨B, rfl⟩
      · exact hT₁
      · exact hT₁.told B invalidSecret
  obtain ⟨hI, -⟩ := base_invariants h
  have hunregistered : ∀ n, s.handshake W ≠ some (.finished (.ok (some n))) := by
    intro n hn
    cases hT.handshake _ hn
  refine ⟨hT.handshake, fun n hreg => ?_, fun c connection hc heq => ?_, hT.client⟩
  · exact hunregistered n (hI.registered n W hreg)
  · obtain ⟨n, hn⟩ := hI.connection c connection hc
    rw [heq] at hn
    exact hunregistered n hn

/-- What the agents' endpoint reads in the start message of an access client. -/
def strayStart : EtRStartMessage where
  extra := [("connection_target", .str "agent"), ("target_ip", .str "127.0.0.1"),
    ("target_port", .other), ("protocol", .str "tcp"), ("secret", .str "client-secret")]

/-- The agents' endpoint reads this in what an access client can send. -/
theorem strayStart_sent :
    sentByAccessClient plainTexts (.text ⟨some (.start strayStart), false⟩) := by
  refine .inr ⟨.start (someStart "client-secret" "127.0.0.1"), _, false, rfl, ?_⟩
  decide +kernel

/-- The access clients' endpoint reads nothing in the start message of an agent. -/
theorem strayAgent_sent (a : EdgeAgentForAccessClients) :
    sentByAgent plainTexts a (.text none) := by
  refine .inr ⟨.start { a.create_start_message none with supports_binary := true }, _, rfl, ?_, rfl⟩
  rintro message ⟨⟩
  exact ⟨none, rfl⟩

/-- Both connect to the wrong endpoint, and introduce themselves. -/
def crossedEvents : List RelayEvent :=
  [.agentConnects ⟨0⟩, .run (.handshake ⟨0⟩) .ok,
    .agentSends ⟨0⟩ (.text ⟨some (.start strayStart), false⟩), .run (.handshake ⟨0⟩) .next,
    .clientConnects ⟨0⟩, .run (.client ⟨0⟩) .ok, .run (.client ⟨0⟩) (.frame (.text none))]

/-- The events cross the endpoints. -/
theorem crossedEvents_crossed (a : EdgeAgentForAccessClients) :
    ∀ e ∈ crossedEvents, Crossed plainTexts a ⟨0⟩ ⟨0⟩ e := by
  intro e he
  constructor
  · rintro frame rfl
    obtain rfl : frame = .text ⟨some (.start strayStart), false⟩ := by
      simpa [crossedEvents] using he
    exact strayStart_sent
  · rintro frame rfl
    obtain rfl : frame = .text none := by simpa [crossedEvents] using he
    exact strayAgent_sent a

/-- The relay after both peers have connected to the wrong endpoint. -/
def crossedRelay : RelayState :=
  (run (NetworkRelayForAccessClients.step plainConfig someCredentials) {} crossedEvents).get
    (by decide +kernel)

/-- Neither peer gets anything from the relay. -/
theorem crossedRelay_turned_away :
    crossedRelay.handshake ⟨0⟩ = some (.finished (.error .validationError)) ∧
      (∃ result, crossedRelay.client ⟨0⟩ = some (.finished none result)) ∧
      ∀ n, crossedRelay.relay.registered_agent_connections n ≠ some ⟨0⟩ := by
  let a := EdgeAgentForAccessClients.someAgent
  have hreach : Reaches (NetworkRelayForAccessClients.step plainConfig someCredentials)
      (fun _ e => Crossed plainTexts a ⟨0⟩ ⟨0⟩ e) {} crossedRelay :=
    Reaches.init.of_run (fun e he _ => crossedEvents_crossed a e he) (Option.some_get _).symm
  exact ⟨rfl, ⟨_, rfl⟩,
    (crossed_endpoints plainTexts plainTexts_documented a ⟨0⟩ ⟨0⟩ plainConfig someCredentials
      crossedRelay hreach).2.1⟩

end HttpNetworkRelay
