import HttpNetworkRelay.Asyncio.Trace
import HttpNetworkRelay.Relay.Sends

/-!
# NetworkRelayForAccessClients

The relay of `network_relay_example.py`: agents and access clients are let in by what their start
messages carry, compared with the contents of the credentials file. The methods that the base class
leaves to a subclass become functions of the start message here, and `step` is the base class's step
where they answer as these functions do. Nothing but the two websocket endpoints starts a task.

`Gated` says of a state, and of the start messages of access clients that have been received, that
every registration and every request that was sent has its credentials behind it.
-/

namespace HttpNetworkRelay

open Asyncio Python RelayState NetworkRelay

/-- The contents of the credentials file. -/
structure Credentials where
  /-- `edge-agents`: the secret of each agent, by its name. -/
  edge_agents : String → Option String
  /-- `access-client-secrets`. -/
  access_client_secrets : List String

/-! ## EdgeAgentToRelayStartMessage -/

/-- An attribute that is a string. -/
def EtRStartMessage.attribute (m : EtRStartMessage) (name : String) : Option String :=
  match m.extra.lookup name with
  | some (.str value) => some value
  | _ => none

/-- `EdgeAgentToRelayStartMessage`: the fields that it adds to `EtRStartMessage`. -/
structure EdgeAgentToRelayStartMessage where
  name : String
  secret : String
  deriving DecidableEq, Repr

/-- `EdgeAgentToRelayStartMessage.model_validate`. -/
def EdgeAgentToRelayStartMessage.model_validate (m : EtRStartMessage) :
    Option EdgeAgentToRelayStartMessage :=
  (m.attribute "name").bind fun name => (m.attribute "secret").map fun secret => ⟨name, secret⟩

namespace NetworkRelayForAccessClients

/-! ## The methods -/

/-- `get_access_client_permission`. -/
def get_access_client_permission (credentials : Credentials) (start_message : AtRStartMessage) :
    Bool :=
  start_message.secret ∈ credentials.access_client_secrets

/-- What `get_access_client_permission` sends before it denies the permission. -/
def invalidSecret : ToClient := .text (.error "Invalid access client secret")

/-- `get_agent_msg_loop_permission_and_create_connection_id`. -/
def get_agent_msg_loop_permission_and_create_connection_id (credentials : Credentials)
    (start_message : EdgeAgentToRelayStartMessage) : Option AgentId :=
  match credentials.edge_agents start_message.name with
  | none => none
  | some secret => if secret = start_message.secret then some start_message.name else none

/-- The answer of the check to what an agent has sent. -/
def agentPermission (credentials : Credentials) (m : EtRStartMessage) : Option AgentId :=
  (EdgeAgentToRelayStartMessage.model_validate m).bind
    (get_agent_msg_loop_permission_and_create_connection_id credentials)

/-- The class attributes of the subclass. -/
def relayConfig (cfg : RelayConfig) : RelayConfig :=
  { cfg with
    CustomAgentToRelayMessage := false
    start_message_valid := fun m => (EdgeAgentToRelayStartMessage.model_validate m).isSome }

/-- The methods answer by the credentials, and nobody else calls `create_connection`. A check that
denies the permission raises if its own send does. -/
def hookAnswers (credentials : Credentials) (s : RelayState) : RelayEvent → Bool
  | .create _ _ _ => false
  | .run (.handshake ws) o =>
    match s.handshake ws with
    | some (.checking m) => o = .permit (agentPermission credentials m)
    | _ => true
  | .run (.client ws) o =>
    match s.client ws, o with
    | some (.checking m), .allow permission _ =>
      permission = get_access_client_permission credentials m
    | some (.checking m), .hookRaised => !get_access_client_permission credentials m
    | some (.checking _), _ => false
    | _, _ => true
  | _ => true

/-- A check that will deny the permission calls its send when the start message has been received.
-/
def deny (credentials : Credentials) (s : RelayState) : RelayEvent → RelayState
  | .run (.client ws) _ =>
    match s.client ws with
    | some (.checking m) =>
      if get_access_client_permission credentials m then s
      else s.withRelay (s.relay.sendToClient ws invalidSecret)
    | _ => s
  | _ => s

/-- The state after an event, if the event can happen. -/
def step (cfg : RelayConfig) (credentials : Credentials) (s : RelayState) (e : RelayEvent) :
    Option RelayState :=
  if hookAnswers credentials s e then
    (HttpNetworkRelay.step (relayConfig cfg) s e).map (deny credentials · e)
  else none

/-! ## The gate -/

/-- The start message that an access client's session receives in an event. -/
def startSeen (s : RelayState) : RelayEvent → List (ClientSocket × AtRStartMessage)
  | .run (.client A) (.frame (.text (some (.start m)))) =>
    match s.client A with
    | some .receivingStart => [(A, m)]
    | _ => []
  | _ => []

/-- The start message of `W` has the name `n` and the secret that the credentials give to it. -/
def Presented (credentials : Credentials) (s : RelayState) (W : AgentSocket) (n : AgentId) : Prop :=
  ∃ m start, s.relay.startMessage? W = some m ∧
    EdgeAgentToRelayStartMessage.model_validate m = some start ∧ start.name = n ∧
    credentials.edge_agents n = some start.secret

/-- The request that a session's start message asks for. -/
def sessionRequest (m : AtRStartMessage) : ConnectionRequest where
  agent_connection_id := get_agent_connection_id_for_access_client m.connection_target
  target_ip := m.target_ip
  target_port := m.target_port
  protocol := m.protocol
  connection_class := .tcpConnectionAsync

/-- A session of the access client `A` with a good secret asks for a connection through `W`, which
was registered under the id that the session named. -/
structure Asked (credentials : Credentials) (s : RelayState)
    (started : List (ClientSocket × AtRStartMessage)) (A : ClientSocket) (m : AtRStartMessage)
    (W : AgentSocket) : Prop where
  started : (A, m) ∈ started
  secret : m.secret ∈ credentials.access_client_secrets
  registered : s.handshake W = some (.finished (.ok (some m.connection_target)))

/-- What has been let through has its credentials behind it. -/
structure Gated (credentials : Credentials) (s : RelayState)
    (started : List (ClientSocket × AtRStartMessage)) : Prop where
  registered : ∀ n W, s.relay.registered_agent_connections n = some W → Presented credentials s W n
  requested : ∀ W target_ip target_port protocol c supports_binary,
    .text (.initiateConnection target_ip target_port protocol c supports_binary) ∈
      s.relay.to_agent W →
    ∃ A m, Asked credentials s started A m W ∧ m.target_ip = target_ip ∧
      m.target_port = target_port ∧ m.protocol = protocol ∧
      ∃ connection, s.relay.connection c = some connection ∧ connection.creator = .client A

variable {cfg : RelayConfig} {credentials : Credentials} {s s' : RelayState} {e : RelayEvent}
  {started : List (ClientSocket × AtRStartMessage)}

/-- A step is one of the base class, with at most a message to an access client after it. -/
theorem step_base (h : step cfg credentials s e = some s') :
    hookAnswers credentials s e = true ∧ ∃ s₁,
      HttpNetworkRelay.step (relayConfig cfg) s e = some s₁ ∧
        (s' = s₁ ∨ ∃ A, s' = s₁.withRelay (s₁.relay.sendToClient A invalidSecret)) := by
  unfold step at h
  split at h
  · rename_i hans
    obtain ⟨s₁, hs₁, rfl⟩ := Option.map_eq_some_iff.mp h
    refine ⟨hans, s₁, hs₁, ?_⟩
    unfold deny
    split
    · split
      · split
        · exact .inl rfl
        · exact .inr ⟨_, rfl⟩
      · exact .inl rfl
    · exact .inl rfl
  · cases h

/-! ## What the base class guarantees -/

/-- A message to an access client leaves the registry as it is. -/
theorem registry_told (hI : RegistryInv s) (A : ClientSocket) (m : ToClient) :
    RegistryInv (s.withRelay (s.relay.sendToClient A m)) :=
  ⟨hI.registered, hI.msgLoop, hI.connection, hI.listed, hI.nodup, hI.unread, hI.inbox,
    hI.startMessage, hI.started⟩

/-- A message to an access client leaves the messages to the agents as they are. -/
theorem outgoing_told (hO : Outgoing s) (A : ClientSocket) (m : ToClient) :
    Outgoing (s.withRelay (s.relay.sendToClient A m)) :=
  ⟨fun W message hm => (hO.sent W message hm).evolves (.sendToClient _ _ _), hO.forwarding,
    hO.sender, hO.pending⟩

/-- The registry and the messages to the agents, in every run with the hooks. -/
theorem base_invariants {ok : RelayState → RelayEvent → Prop}
    (h : Reaches (step cfg credentials) ok {} s) : RegistryInv s ∧ Outgoing s := by
  refine h.invariant (I := fun s => RegistryInv s ∧ Outgoing s) ⟨.initial, .initial⟩ ?_
  rintro s e s' _ _ hstep ⟨hI, hO⟩
  obtain ⟨-, s₁, hs₁, hs'⟩ := step_base hstep
  have hI₁ := hI.preserved (step_rule hs₁)
  have hO₁ := hO.preserved (step_rule hs₁)
  rcases hs' with rfl | ⟨A, rfl⟩
  · exact ⟨hI₁, hO₁⟩
  · exact ⟨registry_told hI₁ A _, outgoing_told hO₁ A _⟩

/-! ## Registrations -/

/-- A permission is given for the name in the start message, and the secret is its secret. -/
theorem permitted_name {m : EtRStartMessage} {n : AgentId}
    (h : agentPermission credentials m = some n) :
    ∃ start, EdgeAgentToRelayStartMessage.model_validate m = some start ∧ start.name = n ∧
      credentials.edge_agents n = some start.secret := by
  obtain ⟨start, hstart, hpermission⟩ := Option.bind_eq_some_iff.mp h
  refine ⟨start, hstart, ?_⟩
  unfold get_agent_msg_loop_permission_and_create_connection_id at hpermission
  split at hpermission
  · cases hpermission
  · rename_i secret hsecret
    split at hpermission
    · rename_i heq
      obtain rfl := Option.some.inj hpermission
      exact ⟨rfl, by rw [hsecret, heq]⟩
    · cases hpermission

/-- What the methods answer to a handshake that is being checked. -/
theorem permission_of_answers {W : AgentSocket} {m : EtRStartMessage} {o : Outcome}
    (hans : hookAnswers credentials s (.run (.handshake W) o) = true)
    (hpc : s.handshake W = some (.checking m)) :
    o = .permit (agentPermission credentials m) := by
  simpa [hookAnswers, hpc] using hans

/-- A handshake goes on to a registration with a permission only. -/
theorem handshake_permitted {cfg : RelayConfig} {W : AgentSocket} {pc : Handshake} {o : Outcome}
    (hans : hookAnswers credentials s (.run (.handshake W) o) = true)
    (hpc : s.handshake W = some pc) (h : HandshakeRule cfg s W pc o s')
    (hevicting : ∀ m n t, pc = .evicting m n t → agentPermission credentials m = some n)
    {n : AgentId} (hpc' : (∃ m t, s'.handshake W = some (.evicting m n t)) ∨
      s'.handshake W = some (.finished (.ok (some n)))) :
    ∃ m, (s.handshake W = some (.checking m) ∨ ∃ n t, s.handshake W = some (.evicting m n t)) ∧
      agentPermission credentials m = some n ∧
      ∀ m' t, s'.handshake W = some (.evicting m' n t) → m' = m := by
  have hevicted : ∀ {m n₁ r' res},
      (∃ m' t, (s.evicted W m n₁ (r', res)).handshake W = some (.evicting m' n t)) ∨
        (s.evicted W m n₁ (r', res)).handshake W = some (.finished (.ok (some n))) →
      n₁ = n ∧ ∀ m' t, (s.evicted W m n₁ (r', res)).handshake W = some (.evicting m' n t) →
        m' = m := by
    intro m n₁ r' res h
    cases res with
    | parked pc =>
      simp only [evicted, setHandshake, Function.update_self, Option.some.injEq,
        Handshake.evicting.injEq, reduceCtorEq, or_false] at h ⊢
      obtain ⟨m', t, -, rfl, -⟩ := h
      exact ⟨rfl, fun m' t h => h.1.symm⟩
    | returned _ =>
      have hn : n₁ = n := by simpa [evicted, openAgent] using h
      exact ⟨hn, by simp [evicted, openAgent]⟩
    | raised e => simp [evicted] at h
  cases h with
  | accepts | refuses | duplicate | noAttribute => simp at hpc'
  | @receives frame =>
    rcases startReceived_cases cfg frame with ⟨result, heq, hresult⟩ | ⟨m, heq, -⟩
    · simp [heq, hresult] at hpc'
    · simp [heq] at hpc'
  | @opens m n₁ =>
    have hn : n₁ = n := by simpa [openAgent] using hpc'
    subst hn
    have ho := permission_of_answers hans hpc
    exact ⟨m, .inl hpc, (Outcome.permit.inj ho).symm, by simp [openAgent]⟩
  | @evicts m n₁ =>
    obtain ⟨rfl, hm⟩ := hevicted hpc'
    have ho := permission_of_answers hans hpc
    exact ⟨m, .inl hpc, (Outcome.permit.inj ho).symm, hm⟩
  | @evicting m n₁ t =>
    obtain ⟨rfl, hm⟩ := hevicted hpc'
    exact ⟨m, .inr ⟨_, _, hpc⟩, hevicting m _ t rfl, hm⟩
  | @ends _ _ result _ _ hresult =>
    simp [hresult] at hpc'

/-! ## The invariant -/

/-- What is under way has its credentials behind it. -/
structure GateInv (credentials : Credentials) (s : RelayState)
    (started : List (ClientSocket × AtRStartMessage)) : Prop where
  evicting : ∀ W m n t, s.handshake W = some (.evicting m n t) →
    agentPermission credentials m = some n
  registered : ∀ W n, s.handshake W = some (.finished (.ok (some n))) →
    Presented credentials s W n
  checking : ∀ A m, s.client A = some (.checking m) → (A, m) ∈ started
  pending : ∀ t pc, s.pending? t = some pc → ∃ A m, t = .client A ∧
    Asked credentials s started A m pc.agent_connection ∧ pc.request = sessionRequest m
  requested : ∀ W (request : ConnectionRequest) c, request.message c ∈ s.relay.to_agent W →
    ∃ A m, Asked credentials s started A m W ∧ request.message c = (sessionRequest m).message c ∧
      ∃ connection, s.relay.connection c = some connection ∧ connection.creator = .client A

/-- What a session has asked for with a good secret stays asked for. -/
theorem Asked.step (h : RelayRule cfg s e s') {A : ClientSocket} {m : AtRStartMessage}
    {W : AgentSocket} (hA : Asked credentials s started A m W)
    (seen : List (ClientSocket × AtRStartMessage)) :
    Asked credentials s' (started ++ seen) A m W where
  started := List.mem_append_left _ hA.started
  secret := hA.secret
  registered := handshake_finished h hA.registered

/-! ## Sessions -/

/-- What a session does with a permission. -/
theorem startSession_cases {cfg : RelayConfig} {A : ClientSocket} {m : AtRStartMessage}
    {c : ConnectionId} (h : s.startSession cfg A m c = some s') :
    s'.client A = some .reportingUnregistered ∨
      ∃ binary pc, s'.client A = some (.creating binary pc) ∧ pc.request = sessionRequest m ∧
        s.relay.registered_agent_connections m.connection_target = some pc.agent_connection := by
  unfold startSession at h
  dsimp only at h
  split at h
  · cases h
    exact .inl (by simp)
  · rename_i agent_connection hreg
    split at h
    · cases h
      obtain ⟨r', send, heq, -, -⟩ :=
        _create_connection_ok cfg (.client A) (sessionRequest m) c hreg
      have hparked : _create_connection cfg s.relay (.client A)
          { agent_connection_id := get_agent_connection_id_for_access_client m.connection_target
            target_ip := m.target_ip
            target_port := m.target_port
            protocol := m.protocol
            connection_class := .tcpConnectionAsync } c =
          (r', .parked ⟨sessionRequest m, c, agent_connection, .sending send⟩) := heq
      rw [hparked]
      exact .inr ⟨decide (m.supports_binary = some true),
        ⟨sessionRequest m, c, agent_connection, .sending send⟩, by simp [created], rfl, hreg⟩
    · cases h

/-- A session is checked after it has received its start message. -/
theorem checking_of_resume {cfg : RelayConfig} {A : ClientSocket} {pc : Client} {o : Outcome}
    {m : AtRStartMessage} (hpc : s.client A = some pc) (h : s.resumeClient cfg A pc o = some s')
    (hpc' : s'.client A = some (.checking m)) :
    pc = .receivingStart ∧ o = .frame (.text (some (.start m))) := by
  have hrule := resumeClient_rule h
  -- A session that has a connection does not go back to the check.
  have hnone : pc.connection_id? = none := by
    have hsame : ∀ {pc'}, s'.client A = some pc' → pc' = .checking m := fun hpc₁ =>
      Option.some.inj (hpc₁.symm.trans hpc')
    cases hrule.moved with
    | ended pc' hpc₁ hid =>
      obtain rfl := hsame hpc₁
      rcases hid with hid | ⟨-, hfailed⟩
      · exact hid.symm
      · cases hfailed
    | created binary pc' hpc₁ => cases hsame hpc₁
    | stays pc' hpc₁ hid =>
      obtain rfl := hsame hpc₁
      exact hid.symm
    | entered _ hpc₁ => cases hsame hpc₁
    | left pc' _ hpc₁ hleaving =>
      obtain rfl := hsame hpc₁
      cases hleaving
  cases pc with
  | receivingStart =>
    refine ⟨rfl, ?_⟩
    simp only [resumeClient] at h
    split at h <;> cases h <;> simp at hpc' ⊢
    exact hpc'
  | checking m' =>
    simp only [resumeClient] at h
    split at h
    · rcases startSession_cases h with hpc₁ | ⟨binary, pc, hpc₁, -⟩
      · cases hpc₁.symm.trans hpc'
      · cases hpc₁.symm.trans hpc'
    · cases h
      simp at hpc'
    · cases h
      simp at hpc'
    · cases h
  | accepting | refusing | reportingUnregistered | reportingError =>
    simp only [resumeClient] at h
    split at h <;> cases h <;> simp at hpc'
  | finished i result => cases h
  | _ => cases hnone

/-- Data is no request. -/
theorem request_ne_data {connection : TcpConnection} {c c' : ConnectionId} {content : Bytes}
    {target_ip protocol : String} {target_port : ℤ} {supports_binary : Bool} :
    connection.dataMessage c content ≠
      .ok (.text (.initiateConnection target_ip target_port protocol c' supports_binary)) := by
  unfold TcpConnection.dataMessage
  split
  · cases encode_tcp_binary_frame c content <;> simp [Except.map]
  · simp

namespace GateInv

/-- At the start nothing is under way. -/
theorem initial : GateInv credentials {} [] where
  evicting _ _ _ _ h := by cases h
  registered _ _ h := by cases h
  checking _ _ h := by cases h
  pending t _ h := by cases t <;> cases h
  requested _ _ _ h := by cases h

/-- A handshake that is permitted has presented the credentials of the agent. -/
theorem handshake_step (hG : GateInv credentials s started) (hI : RegistryInv s)
    (hans : hookAnswers credentials s e = true) (h : RelayRule cfg s e s') :
    (∀ W m n t, s'.handshake W = some (.evicting m n t) → agentPermission credentials m = some n) ∧
      ∀ W n, s'.handshake W = some (.finished (.ok (some n))) → Presented credentials s' W n := by
  have hev := h.evolves
  -- Another task leaves the handshake where it is, unless this one has just connected.
  have hother : ∀ {W pc}, (∀ o, e ≠ .run (.handshake W) o) → s'.handshake W = some pc →
      pc ≠ .accepting → s.handshake W = some pc := by
    intro W pc hrun hpc hne
    by_cases hconn : e = .agentConnects W
    · subst hconn
      cases h with
      | agentConnects =>
        have hpc : Handshake.accepting = pc := by simpa using hpc
        exact absurd hpc.symm hne
    · exact (handshake_frame h hrun hconn).symm.trans hpc
  constructor
  · -- While a dead agent is being evicted, the permission of the new one is kept.
    intro W m n t hpc'
    by_cases hrun : ∃ o, e = .run (.handshake W) o
    · obtain ⟨o, rfl⟩ := hrun
      cases h with
      | handshake hpc h =>
        obtain ⟨m₁, -, hperm, hm⟩ := handshake_permitted hans hpc h
          (fun m n t heq => hG.evicting W m n t (heq ▸ hpc)) (.inl ⟨m, t, hpc'⟩)
        rwa [hm m t hpc']
    · exact hG.evicting W m n t (hother (fun o he => hrun ⟨o, he⟩) hpc' (by simp))
  · intro W n hpc'
    by_cases hrun : ∃ o, e = .run (.handshake W) o
    · obtain ⟨o, rfl⟩ := hrun
      cases h with
      | handshake hpc hrule =>
        obtain ⟨m, hstart, hperm, -⟩ := handshake_permitted hans hpc hrule
          (fun m n t heq => hG.evicting W m n t (heq ▸ hpc)) (.inr hpc')
        obtain ⟨start, hvalid, hname, hsecret⟩ := permitted_name hperm
        have hm := startMessage?_evolves hev (hI.startMessage W m hstart)
        exact ⟨m, start, hm, hvalid, hname, hsecret⟩
    · obtain ⟨m, start, hm, hvalid⟩ :=
        hG.registered W n (hother (fun o he => hrun ⟨o, he⟩) hpc' (by simp))
      exact ⟨m, start, startMessage?_evolves hev hm, hvalid⟩

/-- A start message that is being checked has been seen. -/
theorem checking_step (hG : GateInv credentials s started)
    (hstep : HttpNetworkRelay.step cfg s e = some s') {A : ClientSocket} {m : AtRStartMessage}
    (hpc' : s'.client A = some (.checking m)) : (A, m) ∈ started ++ startSeen s e := by
  have h := step_rule hstep
  by_cases hrun : ∃ o, e = .run (.client A) o
  · obtain ⟨o, rfl⟩ := hrun
    obtain ⟨pc, hpc, hresume⟩ := Option.bind_eq_some_iff.mp hstep
    obtain ⟨rfl, rfl⟩ := checking_of_resume hpc hresume hpc'
    exact List.mem_append_right _ (by simp [startSeen, hpc])
  · have hconn : e ≠ .clientConnects A := by
      rintro rfl
      cases h with
      | clientConnects => simp at hpc'
    have hframe := client_frame h (fun o he => hrun ⟨o, he⟩) hconn
    exact List.mem_append_left _ (hG.checking A m (hframe.symm.trans hpc'))

/-- A connection that is being created was asked for with a good secret. -/
theorem pending_step (hG : GateInv credentials s started) (hI : RegistryInv s)
    (hans : hookAnswers credentials s e = true) (hstep : HttpNetworkRelay.step cfg s e = some s')
    {t : Task} {pc' : CreateConnection} (hpc' : s'.pending? t = some pc')
    (seen : List (ClientSocket × AtRStartMessage)) :
    ∃ A m, t = .client A ∧ Asked credentials s' (started ++ seen) A m pc'.agent_connection ∧
      pc'.request = sessionRequest m := by
  have h := step_rule hstep
  cases pending_of_rule h hpc' with
  | same _ hpc =>
    obtain ⟨A, m, ht, hA, hrequest⟩ := hG.pending t pc' hpc
    exact ⟨A, m, ht, hA.step h seen, hrequest⟩
  -- A call that goes on is for the same request.
  | moved _ hpc hcreate =>
    obtain ⟨A, m, ht, hA, hrequest⟩ := hG.pending t _ hpc
    obtain ⟨hsame, -, hagent⟩ := hcreate.parked
    rw [hsame, hagent]
    exact ⟨A, m, ht, hA.step h seen, hrequest⟩
  -- A new call is that of a session whose start message has been permitted.
  | published _ _ hfree =>
    rcases hfree with ⟨A, m, rfl, hpc⟩ | ⟨k, rfl, hk⟩
    · have hrun : ∃ o, e = .run (.client A) o := by
        by_contra hrun
        have hconn : e ≠ .clientConnects A := by
          rintro rfl
          cases h with
          | clientConnects hnew => simp [hnew] at hpc
        rw [pending?, client_frame h (fun o he => hrun ⟨o, he⟩) hconn, hpc] at hpc'
        cases hpc'
      obtain ⟨o, rfl⟩ := hrun
      obtain ⟨pc, hpc₁, hresume⟩ := Option.bind_eq_some_iff.mp hstep
      obtain rfl := Option.some.inj (hpc.symm.trans hpc₁)
      simp only [resumeClient] at hresume
      split at hresume
      · have hpermission : m.secret ∈ credentials.access_client_secrets := by
          simpa [hookAnswers, hpc, get_access_client_permission] using hans
        rcases startSession_cases hresume with hpc₂ | ⟨binary, pc, hpc₂, hrequest, hreg⟩
        · simp [pending?, hpc₂] at hpc'
        · obtain rfl : pc = pc' := by simpa [pending?, hpc₂] using hpc'
          have hregistered := handshake_finished h (hI.registered _ _ hreg)
          exact ⟨A, m, rfl,
            ⟨List.mem_append_left _ (hG.checking A m hpc), hpermission, hregistered⟩,
            hrequest⟩
      · cases hresume
        simp [pending?] at hpc'
      · cases hresume
        simp [pending?] at hpc'
      · cases hresume
    · -- Only `create` starts a call, and nobody does.
      exfalso
      by_cases hcreate : ∃ request c, e = .create k request c
      · obtain ⟨request, c, rfl⟩ := hcreate
        cases hans
      · by_cases hrun : ∃ o, e = .run (.call k) o
        · obtain ⟨o, rfl⟩ := hrun
          cases h with
          | call hpc => simp [hk] at hpc
        · rw [pending?, call_frame h (fun o he => hrun ⟨o, he⟩) fun request c he =>
            hcreate ⟨request, c, he⟩, hk] at hpc'
          cases hpc'

/-- A request that has been sent was asked for with a good secret. -/
theorem requested_step (hG : GateInv credentials s started) (hO : Outgoing s) (hI : RegistryInv s)
    (hans : hookAnswers credentials s e = true) (hstep : HttpNetworkRelay.step cfg s e = some s')
    {W : AgentSocket} {request : ConnectionRequest} {c : ConnectionId}
    (hm : request.message c ∈ s'.relay.to_agent W) (seen : List (ClientSocket × AtRStartMessage)) :
    ∃ A m, Asked credentials s' (started ++ seen) A m W ∧
      request.message c = (sessionRequest m).message c ∧
      ∃ connection, s'.relay.connection c = some connection ∧ connection.creator = .client A := by
  have h := step_rule hstep
  -- A request comes from the call of a session, whose connection has this session as its owner.
  have hmade : ∀ {A m pc}, s'.pending? (.client A) = some pc ∨ s.pending? (.client A) = some pc →
      Asked credentials s' (started ++ seen) A m pc.agent_connection →
      pc.request = sessionRequest m → request.message c = pc.request.message pc.connection_id →
      ∃ A m, Asked credentials s' (started ++ seen) A m pc.agent_connection ∧
        request.message c = (sessionRequest m).message c ∧
        ∃ connection, s'.relay.connection c = some connection ∧
          connection.creator = .client A := by
    intro A m pc hpc hA hrequest heq
    have hid : c = pc.connection_id := by
      simp only [ConnectionRequest.message, ToAgent.text.injEq,
        RelayToEdgeAgentMessage.initiateConnection.injEq] at heq
      exact heq.2.2.2.1
    have hpublished : Published s'.relay (.client A) pc := by
      rcases hpc with hpc | hpc
      · exact (hO.preserved h).pending _ _ hpc
      · exact (hO.pending _ _ hpc).evolves h.evolves
    obtain ⟨connection, hconn, -, hcreator⟩ := hpublished
    subst hid
    rw [hrequest] at heq
    exact ⟨A, m, hA, heq, connection, hconn, hcreator⟩
  rcases (sends_of_rule h).mem hm with hold | hnew
  · obtain ⟨A, m, hA, heq, connection, hconn, hcreator⟩ := hG.requested W request c hold
    obtain ⟨connection', hconn', hid⟩ := h.evolves.connection c connection hconn
    simp only [TcpConnection.identity, Prod.mk.injEq] at hid
    exact ⟨A, m, hA.step h seen, heq, connection', hconn', hid.2.2.2.trans hcreator⟩
  · generalize hmessage : request.message c = message at hnew
    cases hnew with
    | keepAlive | close => cases hmessage
    | requests _ hpc =>
      obtain ⟨A, m, rfl, hA, hrequest⟩ := hG.pending _ _ hpc
      rw [← hmessage]
      exact hmade (.inr hpc) (hA.step h seen) hrequest hmessage
    -- The request is sent in the step that starts the call.
    | opens hpc _ _ hconn =>
      obtain ⟨A, m, rfl, hA, hrequest⟩ := hG.pending_step hI hans hstep hpc seen
      obtain ⟨connection, hconn', hagent, -⟩ := (hO.preserved h).pending _ _ hpc
      obtain rfl := Option.some.inj (hconn'.symm.trans hconn)
      rw [hagent, ← hmessage]
      exact hmade (.inl hpc) hA hrequest hmessage
    -- Data and forwarded messages are no requests.
    | data _ hdata =>
      subst hmessage
      exact absurd hdata request_ne_data
    | forwards _ hpc =>
      subst hmessage
      rcases hpc with ⟨B, _, -, hpc⟩ | ⟨k, _, -, hpc⟩
      · obtain ⟨connection, content, -, hdata⟩ := hO.forwarding B _ _ _ hpc
        exact absurd hdata.symm request_ne_data
      · obtain ⟨connection, content, -, hdata⟩ := hO.sender k _ _ _ hpc
        exact absurd hdata.symm request_ne_data

/-- A step keeps the credentials behind what is under way. -/
theorem preserved (hG : GateInv credentials s started) (hI : RegistryInv s) (hO : Outgoing s)
    (hans : hookAnswers credentials s e = true) (hstep : HttpNetworkRelay.step cfg s e = some s') :
    GateInv credentials s' (started ++ startSeen s e) where
  evicting := (hG.handshake_step hI hans (step_rule hstep)).1
  registered := (hG.handshake_step hI hans (step_rule hstep)).2
  checking _ _ hpc' := hG.checking_step hstep hpc'
  pending _ _ hpc' := hG.pending_step hI hans hstep hpc' _
  requested _ _ _ hm := hG.requested_step hO hI hans hstep hm _

/-- A message to an access client changes nothing of this. -/
theorem told (hG : GateInv credentials s started) (A : ClientSocket) (message : ToClient) :
    GateInv credentials (s.withRelay (s.relay.sendToClient A message)) started where
  evicting := hG.evicting
  registered := hG.registered
  checking := hG.checking
  pending t pc hpc := by
    obtain ⟨B, m, ht, hA, hrequest⟩ := hG.pending t pc hpc
    exact ⟨B, m, ht, ⟨hA.started, hA.secret, hA.registered⟩, hrequest⟩
  requested W request c hm := by
    obtain ⟨B, m, hA, hrest⟩ := hG.requested W request c hm
    exact ⟨B, m, ⟨hA.started, hA.secret, hA.registered⟩, hrest⟩

end GateInv

/-- In every run, what has been let through has its credentials behind it. -/
theorem gated {ok : RelayState → RelayEvent → Prop}
    (h : Traced (step cfg credentials) ok startSeen {} s started) :
    Gated credentials s started := by
  have hG : GateInv credentials s started := by
    refine h.invariant (I := GateInv credentials) .initial fun s e s' started ht _ hstep hG => ?_
    obtain ⟨hI, hO⟩ := base_invariants ht.reaches
    obtain ⟨hans, s₁, hs₁, hs'⟩ := step_base hstep
    have hG₁ := hG.preserved hI hO hans hs₁
    rcases hs' with rfl | ⟨A, rfl⟩
    · exact hG₁
    · exact hG₁.told A _
  obtain ⟨hI, hO⟩ := base_invariants h.reaches
  refine ⟨fun n W hreg => ?_, fun W target_ip target_port protocol c supports_binary hm => ?_⟩
  · exact hG.registered W n (hI.registered n W hreg)
  · have haddressed := hO.sent W _ hm
    generalize hmessage : ToAgent.text (.initiateConnection target_ip target_port protocol c
      supports_binary) = message at haddressed
    cases haddressed with
    | keepAlive | close => cases hmessage
    | @request request c' connection _ =>
      rw [hmessage] at hm
      obtain ⟨A, m, hA, heq, hmade⟩ := hG.requested _ request c' hm
      rw [heq] at hmessage
      simp only [ConnectionRequest.message, ToAgent.text.injEq,
        RelayToEdgeAgentMessage.initiateConnection.injEq] at hmessage
      obtain ⟨rfl, rfl, rfl, rfl, -⟩ := hmessage
      exact ⟨A, m, hA, rfl, rfl, rfl, hmade⟩
    | data _ hdata =>
      subst hmessage
      exact absurd hdata request_ne_data

end NetworkRelayForAccessClients

end HttpNetworkRelay
