import HttpNetworkRelay.Agent.Reconnect
import HttpNetworkRelay.Link.Grammar
import HttpNetworkRelay.Relay.AccessClients

/-!
# EdgeAgentForAccessClients

The agent of `edge_agent_example.py` tells the relay its name and secret, and why its last
connection has failed, so that the relay can leave out what the agent does not understand.
`start_messages` says what arrives: in whichever session, the last failure before it, and a name and
secret on which the relay of `network_relay_example.py` decides by its credentials alone.
-/

namespace HttpNetworkRelay

open Asyncio Python AgentState ReconnectingAgent

/-- The attributes that `EdgeAgentForAccessClients` adds to `EdgeAgent`. -/
structure EdgeAgentForAccessClients where
  name : String
  secret : String

/-- What an agent shows of its connections: that one has failed, and its start messages. -/
inductive StartShown
  | failed (error : String)
  | started (message : EtRStartMessage)
  deriving DecidableEq, Repr

/-- The error of a connection that has failed. -/
def StartShown.failure? : StartShown → Option String
  | .failed error => some error
  | .started _ => none

/-- The error of the last connection that has failed. -/
def lastFailure (l : List StartShown) : Option String := (l.filterMap StartShown.failure?).getLast?

/-- The last failure of two stretches is that of the second, or of the first if it has none. -/
theorem lastFailure_append (l l' : List StartShown) :
    lastFailure (l ++ l') = (lastFailure l').or (lastFailure l) := by
  simp [lastFailure, List.filterMap_append, List.getLast?_append]

namespace EdgeAgentForAccessClients

variable (a : EdgeAgentForAccessClients)

/-- `create_start_message`. -/
def create_start_message (last_error : Option String) : EtRStartMessage where
  last_error
  extra := [("name", .str a.name), ("secret", .str a.secret)]

/-- `create_start_message` returns, where it is called. -/
def creates (s : ReconnectingAgent) : ReconnectEvent → Bool
  | .agent (.main o) _ =>
    s.agent.main ≠ .creatingStart ∨ o = .start (a.create_start_message s.last_error)
  | _ => true

/-- The state after an event, if it can happen. -/
def step (s : ReconnectingAgent) (e : ReconnectEvent) : Option ReconnectingAgent :=
  if a.creates s e then s.step { CustomRelayToAgentMessage := false } e else none

/-- What an event shows. -/
def shows (s : ReconnectingAgent) : ReconnectEvent → List StartShown
  | .agent (.main o) _ =>
    match s.agent.main, o with
    | .connecting, .raised _ text => [.failed text]
    | .leaving _, .raised _ text => [.failed text]
    | .leaving _, _ => s.raising.toList.map .failed
    | .creatingStart, .start message => [.started { message with supports_binary := true }]
    | _, _ => []
  | _ => []

variable {a : EdgeAgentForAccessClients} {s s' : ReconnectingAgent}
  {e : ReconnectEvent} {l : List StartShown}

/-- A step shows failures, or the start message that has been created. -/
theorem shows_main (s : ReconnectingAgent) (o : AgentOutcome) (text : String) :
    (∃ errors : List String, shows s (.agent (.main o) text) = errors.map .failed) ∨
      ∃ m, s.agent.main = .creatingStart ∧ o = .start m ∧
        shows s (.agent (.main o) text) = [.started { m with supports_binary := true }] := by
  dsimp only [shows]
  split
  next _ text _ => exact .inl ⟨[text], rfl⟩
  next _ text _ => exact .inl ⟨[text], rfl⟩
  next => exact .inl ⟨s.raising.toList, rfl⟩
  next m hmain => exact .inr ⟨m, hmain, rfl, rfl⟩
  next => exact .inl ⟨[], rfl⟩

/-- `last_error` follows the failures. -/
theorem errorAfter_shows (o : AgentOutcome) (text : String) (hlast : s.last_error = lastFailure l) :
    s.errorAfter o = lastFailure (l ++ shows s (.agent (.main o) text)) := by
  rw [lastFailure_append, ← hlast]
  unfold errorAfter shows
  generalize s.agent.main = main
  cases main with
  | connecting => cases o <;> rfl
  | creatingStart => cases o <;> rfl
  | leaving =>
    -- A failure is on its way, or the connection was closed without one.
    cases o <;> first | rfl | (cases s.raising <;> rfl)
  | _ => rfl

/-- What the start message carries, if it is made after the failures `l`. -/
structure Introduces (a : EdgeAgentForAccessClients) (l : List StartShown)
    (message : EtRStartMessage) : Prop where
  last_error : message.last_error = lastFailure l
  supports_binary : message.supports_binary = true
  permission : ∀ credentials,
    NetworkRelayForAccessClients.agentPermission credentials message =
      if credentials.edge_agents a.name = some a.secret then some a.name else none

/-- The example relay decides on the message by the name and the secret. -/
theorem introduces_created {message : EtRStartMessage} (l : List StartShown)
    (h : message = { a.create_start_message (lastFailure l) with supports_binary := true }) :
    Introduces a l message := by
  subst h
  refine ⟨rfl, rfl, fun credentials => ?_⟩
  have hvalid : EdgeAgentToRelayStartMessage.model_validate
      { a.create_start_message (lastFailure l) with supports_binary := true } =
        some ⟨a.name, a.secret⟩ := by
    simp [EdgeAgentToRelayStartMessage.model_validate, EtRStartMessage.attribute,
      create_start_message, List.lookup_cons]
  unfold NetworkRelayForAccessClients.agentPermission
  rw [hvalid, Option.bind_some]
  unfold NetworkRelayForAccessClients.get_agent_msg_loop_permission_and_create_connection_id
  dsimp only
  cases credentials.edge_agents a.name with
  | none => rfl
  | some secret => simp only [Option.some.injEq]

/-- `last_error` and the start messages, in the run that has shown `l`. -/
structure Introduced (a : EdgeAgentForAccessClients) (s : ReconnectingAgent) (l : List StartShown) :
    Prop where
  last_error : s.last_error = lastFailure l
  started : ∀ l₁ message l₂, l = l₁ ++ .started message :: l₂ → Introduces a l₁ message
  sent : ∀ k message custom, .text ⟨some (.start message), custom⟩ ∈ s.agent.agent.to_relay k →
    .started message ∈ l

namespace Introduced

/-- Nothing has been sent. -/
theorem initial : Introduced a {} [] where
  last_error := rfl
  started l₁ message l₂ h := by simp at h
  sent _ _ _ h := by cases h

/-- What the agent has sent as a start message has been shown. -/
theorem sent_step (hI : Introduced a s l) {e' : AgentEvent} (text : String) {agent : AgentState}
    (hagent : agentStep { CustomRelayToAgentMessage := false } s.agent e' = some agent) {k : ℕ}
    {message : EtRStartMessage} {custom : Bool}
    (hsent : .text ⟨some (.start message), custom⟩ ∈ agent.agent.to_relay k) :
    .started message ∈ l ++ shows s (.agent e' text) := by
  rcases (agentStep_rule hagent).sent_in k with hsame | ⟨frame, hsends, hto⟩
  · rw [hsame] at hsent
    exact List.mem_append_left _ (hI.sent k message custom hsent)
  · rw [hto] at hsent
    rcases List.mem_append.mp hsent with hold | hnew
    · exact List.mem_append_left _ (hI.sent k message custom hold)
    · have hframe := List.mem_singleton.mp hnew
      cases hsends with
      | @start m hmain =>
        obtain ⟨rfl, -⟩ : message = { m with supports_binary := true } ∧ custom = false := by
          simpa using hframe
        apply List.mem_append_right
        simp [shows, hmain]
      | chunk _ _ _ hchunk =>
        subst hframe
        rcases chunkFrame_shape hchunk with ⟨bytes, heq⟩ | ⟨data_base64, heq⟩ <;> cases heq
      | _ => simp at hframe

/-- The failures that a step shows leave the start messages as they are. -/
theorem started_failures (hI : Introduced a s l) (errors : List String) :
    ∀ l₁ message l₂, l ++ errors.map .failed = l₁ ++ .started message :: l₂ →
      Introduces a l₁ message := by
  induction errors using List.reverseRecOn with
  | nil =>
    rw [List.map_nil, List.append_nil]
    exact hI.started
  | append_singleton errors error ih =>
    intro l₁ message l₂ heq
    rw [List.map_append, ← List.append_assoc] at heq
    refine each_concat (P := fun l₁ x => ∀ message, x = .started message → Introduces a l₁ message)
      ?_ ?_ l₁ (.started message) l₂ heq message rfl
    · intro l₁ x l₂ heq message hx
      subst hx
      exact ih l₁ message l₂ heq
    · intro message hx
      cases hx

/-- A start message that has just been created introduces the agent. -/
theorem started_created (hI : Introduced a s l) {shown : EtRStartMessage}
    (hshown : Introduces a l shown) :
    ∀ l₁ message l₂, l ++ [.started shown] = l₁ ++ .started message :: l₂ →
      Introduces a l₁ message := by
  intro l₁ message l₂ heq
  refine each_concat (P := fun l₁ x => ∀ message, x = .started message → Introduces a l₁ message)
    ?_ ?_ l₁ (.started message) l₂ heq message rfl
  · intro l₁ x l₂ heq message hx
    subst hx
    exact hI.started l₁ message l₂ heq
  · intro message hx
    obtain rfl := StartShown.started.inj hx
    exact hshown

/-- A start message that is being sent reports the last failure before it. -/
theorem started_step (hI : Introduced a s l) {o : AgentOutcome} {text : String}
    (hcreates : a.creates s (.agent (.main o) text) = true) :
    ∀ l₁ message l₂, l ++ shows s (.agent (.main o) text) = l₁ ++ .started message :: l₂ →
      Introduces a l₁ message := by
  rcases shows_main s o text with ⟨errors, hshows⟩ | ⟨m, hmain, rfl, hshows⟩
  · rw [hshows]
    exact hI.started_failures errors
  · rw [hshows]
    have hcreated : m = a.create_start_message s.last_error := by
      simpa [creates, hmain] using hcreates
    rw [hI.last_error] at hcreated
    exact hI.started_created (introduces_created l (by rw [hcreated]))

/-- An event that shows nothing leaves `last_error`, and what has been sent, as it is. -/
theorem silent (hI : Introduced a s l) {e' : AgentEvent} (text : String)
    (hshows : shows s (.agent e' text) = []) (hlast : s'.last_error = s.last_error)
    (hagent : agentStep { CustomRelayToAgentMessage := false } s.agent e' = some s'.agent) :
    Introduced a s' l where
  last_error := hlast.trans hI.last_error
  started := hI.started
  sent k message custom hsent := by
    have hshown := hI.sent_step text hagent hsent
    rwa [hshows, List.append_nil] at hshown

/-- Every step keeps the invariant. -/
theorem preserved (hI : Introduced a s l) (hstep : a.step s e = some s') :
    Introduced a s' (l ++ shows s e) := by
  unfold step at hstep
  split_ifs at hstep with hcreates
  unfold ReconnectingAgent.step at hstep
  split at hstep
  case h_1 o text =>
    split_ifs at hstep
    obtain ⟨agent, hagent, rfl⟩ := Option.map_eq_some_iff.mp hstep
    exact ⟨errorAfter_shows o text hI.last_error, hI.started_step hcreates,
      fun k message custom hsent => hI.sent_step text hagent hsent⟩
  case h_2 e text hmain =>
    obtain ⟨agent, hagent, rfl⟩ := Option.map_eq_some_iff.mp hstep
    have hshows : shows s (.agent e text) = [] := by
      unfold shows
      split
      next o _ heq => exact absurd (ReconnectEvent.agent.inj heq).1 (hmain o)
      next => rfl
    rw [hshows, List.append_nil]
    exact hI.silent text hshows rfl hagent
  case h_3 time =>
    split_ifs at hstep
    obtain rfl := Option.some.inj hstep
    show Introduced a _ (l ++ [])
    rw [List.append_nil]
    exact ⟨hI.last_error, hI.started, hI.sent⟩
  case h_4 time =>
    split_ifs at hstep with hsleep
    obtain ⟨agent, hagent, rfl⟩ := Option.map_eq_some_iff.mp hstep
    show Introduced a _ (l ++ [])
    rw [List.append_nil]
    exact hI.silent "" (by simp [shows, hsleep.1]) rfl hagent

end Introduced

/-- In every run, and in whichever session: what arrives at the relay as the agent's start message
gives the last failure before it, and promises binary frames; and the relay for access clients
decides on it by the name and the secret. -/
theorem start_messages (a : EdgeAgentForAccessClients) (s : ReconnectingAgent)
    (l : List StartShown) (h : Traced (a.step) (fun _ _ => True) shows {} s l) :
    (∀ l₁ message l₂, l = l₁ ++ .started message :: l₂ → Introduces a l₁ message) ∧
      ∀ k message custom, .text ⟨some (.start message), custom⟩ ∈ s.agent.agent.to_relay k →
        ∃ l₁ l₂, l = l₁ ++ .started message :: l₂ ∧ Introduces a l₁ message := by
  have hI : Introduced a s l :=
    h.invariant (I := Introduced a) .initial fun s e s' l _ _ hstep hI => hI.preserved hstep
  refine ⟨hI.started, fun k message custom hsent => ?_⟩
  obtain ⟨l₁, l₂, heq⟩ := List.append_of_mem (hI.sent k message custom hsent)
  exact ⟨l₁, l₂, heq, hI.started l₁ message l₂ heq⟩

/-- The agent of the examples. -/
def someAgent : EdgeAgentForAccessClients where
  name := "agent"
  secret := "secret"

/-- The relay refuses a connection, and then takes one, in which it fails before the first frame. -/
def retriedEvents : List ReconnectEvent :=
  [.agent (.main (.raised .osError "refused")), .sleep 1, .agent (.main .ok),
    .agent (.main (.start (someAgent.create_start_message (some "refused")))), .agent (.main .ok),
    .wait 5, .agent (.main (.raised .other "reset"))]

/-- The agent after these events. -/
def retried : ReconnectingAgent :=
  (run someAgent.step {} retriedEvents).get (by decide +kernel)

/-- What it shows. -/
def retriedShown : List StartShown := observe someAgent.step shows {} retriedEvents

/-- The second session of a run with a failed one reports the failure. -/
theorem retried_start_messages :
    retried.agent.agent.to_relay 1 =
        [.text ⟨some (.start { someAgent.create_start_message (some "refused") with
          supports_binary := true }), false⟩] ∧
      ∀ k message custom, .text ⟨some (.start message), custom⟩ ∈ retried.agent.agent.to_relay k →
        ∃ l₁ l₂, retriedShown = l₁ ++ .started message :: l₂ ∧ Introduces someAgent l₁ message := by
  refine ⟨by decide +kernel, ?_⟩
  have hinit : Traced someAgent.step (fun _ _ => True) shows {} {} [] := .init
  have hrun : run someAgent.step {} retriedEvents = some retried :=
    (Option.some_get _).symm
  have htraced := hinit.of_run (fun _ _ _ => trivial) hrun
  exact (start_messages someAgent retried retriedShown htraced).2

end EdgeAgentForAccessClients

end HttpNetworkRelay
