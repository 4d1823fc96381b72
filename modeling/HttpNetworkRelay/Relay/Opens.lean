import HttpNetworkRelay.Relay.Sends

/-!
# Create calls that fail

`_create_connection` publishes a connection and its answer queue before it sends the request, and
undoes neither when the request cannot be sent or the agent's answer is no OK; the error branch of
`ws_for_access_clients` closes a `connection` that it has not been given. `CleanFailures` leaves the
failures without consequences; `failed_opens_clean` shows that they are.
-/

namespace HttpNetworkRelay

open Asyncio Python RelayState NetworkRelay

/-- Whether a message is the answer of a connection that is open. -/
def EdgeAgentToRelayMessage.isOK : EdgeAgentToRelayMessage → Bool
  | .initiateConnectionOK _ => true
  | _ => false

/-- Whether `_create_connection`, resumed with `o`, raises. -/
def CreateConnection.fails (r : NetworkRelay) (pc : CreateConnection) (o : Outcome) : Bool :=
  match pc.point, o with
  | .sending (.sending _), .raised _ => true
  | .sending (.sending _), .ok | .waiting, .ok =>
    (r.answers pc.connection_id).head?.any fun m => !m.isOK
  | _, _ => false

/-- No session's create call raises, and a user's call raises on an answer only, when its connection
has been dropped before. -/
def CleanFailures (s : RelayState) : RelayEvent → Bool
  | .run (.client A) o => (s.pending? (.client A)).all fun pc => !pc.fails s.relay o
  | .run (.call k) o =>
    (s.pending? (.call k)).all fun pc =>
      !pc.fails s.relay o ||
        (o = .ok && !s.relay.active_relayed_connections.contains pc.connection_id)
  | _ => true

/-- Whether the create call of the task has raised. -/
def RelayState.createFailed (s : RelayState) : Task → Bool
  | .client A => (s.client A).any Client.failed
  | .call k =>
    match s.call k with
    | some (.finished _ (.error _)) => true
    | _ => false
  | _ => false

/-- A create call that has raised leaves no trace of its connection, and a session whose create call
has raised a `ValueError`, of which the access client has been told, has closed the access client's
websocket when it ends, and returned. -/
structure FailedOpensClean (s : RelayState) : Prop where
  traceless : ∀ c connection, s.relay.connection c = some connection →
    s.createFailed connection.creator = true →
    c ∉ s.relay.active_relayed_connections ∧ c ∉ s.relay.initiate_connection_answer_queues
  reported : ∀ c connection A result, s.relay.connection c = some connection →
    connection.creator = .client A → s.client A = some (.finished none result) →
    s.relay.to_client A ≠ [] →
    (∃ text, s.relay.to_client A = [.text (.error text)]) ∧ s.relay.client_closed A = true ∧
      result = .ok ()

variable {cfg : RelayConfig} {s s' : RelayState} {e : RelayEvent}

/-! ## Failures -/

/-- A create call that raises has failed, and has taken its queue with it unless its send raised. -/
theorem CreateStep.raised {r r' : NetworkRelay} {pc : CreateConnection} {o : Outcome} {e : Exc}
    (h : CreateStep cfg r pc o r' (.raised e)) :
    pc.fails r o = true ∧ (o = .ok →
      r'.active_relayed_connections = r.active_relayed_connections ∧
        pc.connection_id ∉ r'.initiate_connection_answer_queues) := by
  obtain ⟨request, c, ws, point⟩ := pc
  generalize hres : Res.raised e = res at h
  cases h with
  | requests | waits => cases hres
  | @answers r₁ m rest hpc same _ hm =>
    have hbad : m.isOK = false := by
      cases m with
      | initiateConnectionOK => cases hres
      | _ => rfl
    have hactive := same.active
    dsimp only at hm hpc
    refine ⟨?_, fun _ => ⟨hactive, by simp [CreateConnection.answered]⟩⟩
    rcases hpc with rfl | ⟨l, rfl⟩ <;> simp [CreateConnection.fails, hm, hbad]
  | requestFails hpc =>
    dsimp only at hpc
    subst hpc
    exact ⟨rfl, fun ho => by cases ho⟩

/-- Under the condition no session's create call raises. -/
theorem session_opens (hok : CleanFailures s e = true) (h : RelayRule cfg s e s') {A : ClientSocket}
    {c : ConnectionId} (hmade : s.Made c (.client A))
    (hfailed : s'.createFailed (.client A) = true) : s.createFailed (.client A) = true := by
  obtain ⟨pc, hpc, hstage⟩ := hmade
  by_cases hrun : ∃ o, e = .run (.client A) o
  · obtain ⟨o, rfl⟩ := hrun
    rcases hstage with hid | hfailed₀
    · -- The session has a connection, and its create call does not raise.
      exfalso
      have hgood : ∀ pc', s'.client A = some pc' → pc'.connection_id? ≠ some c := by
        intro pc' hpc' hid'
        simp only [createFailed, hpc', Option.any_some] at hfailed
        rw [Client.failed_id hfailed] at hid'
        cases hid'
      cases h with
      | client hpc₀ hrule =>
        obtain rfl := Option.some.inj (hpc₀.symm.trans hpc)
        cases hrule.moved with
        | ended pc' hpc' hid' =>
          rcases hid' with heq | ⟨⟨binary, call, rfl⟩, -⟩
          · exact hgood pc' hpc' (heq.trans hid)
          · cases hrule with
            | @creating _ _ _ r' res hcreate =>
              cases res with
              | parked pc₁ =>
                exact hgood _ (Function.update_self _ _ _)
                  ((congrArg some hcreate.parked.2.1).trans hid)
              | returned c₁ =>
                exact hgood _ (Function.update_self _ _ _)
                  ((congrArg some hcreate.returned).trans hid)
              | raised e =>
                have hfails := hcreate.raised.1
                simp [CleanFailures, pending?, hpc, hfails] at hok
            | advances hun => cases hun
            | refuses hrefuse => rcases hrefuse with ⟨m, heq⟩ | heq <;> cases heq
            | joined hjoin => rcases hjoin with heq | heq <;> cases heq
        | created _ _ _ hnone =>
          rw [hid] at hnone
          cases hnone
        | stays pc' hpc' hid' => exact hgood pc' hpc' (hid'.trans hid)
        | entered hpc₁ hpc' =>
          subst hpc₁
          exact hgood _ hpc' hid
        | @left c₁ pc' hconnected hpc' hleaving =>
          rw [Client.connection_id?_of_connected hconnected] at hid
          exact hgood pc' hpc' ((Client.connection_id?_of_leaving hleaving).trans hid)
    · simp [createFailed, hpc, hfailed₀]
  · have hconn : e ≠ .clientConnects A := by
      rintro rfl
      cases h with
      | clientConnects hnone =>
        rw [hpc] at hnone
        cases hnone
    have hframe := client_frame h (fun o he => hrun ⟨o, he⟩) hconn
    simpa only [createFailed, hframe] using hfailed

/-- Under the condition a user's create call raises only without a trace. -/
theorem call_opens (hok : CleanFailures s e = true) (h : RelayRule cfg s e s') {k : ℕ}
    {c : ConnectionId} (hmade : s.Made c (.call k)) (hfailed : s'.createFailed (.call k) = true) :
    s.createFailed (.call k) = true ∨ c ∉ s'.relay.active_relayed_connections ∧
      c ∉ s'.relay.initiate_connection_answer_queues := by
  have hsome : s.call k ≠ none := by
    rcases hmade with ⟨pc, hk, -⟩ | ⟨result, hk⟩ <;> simp [hk]
  by_cases hrun : ∃ o, e = .run (.call k) o
  · obtain ⟨o, rfl⟩ := hrun
    cases h with
    | @call _ pc _ r' res hk hcreate =>
      have hpending : s.pending? (.call k) = some pc := by simp [pending?, hk]
      obtain rfl := pending_of_made hpending hmade
      cases res with
      | parked _ | returned _ => simp [createFailed, callReturned] at hfailed
      | raised e =>
        obtain ⟨hfails, htrace⟩ := hcreate.raised
        simp only [CleanFailures, hpending, Option.all_some, hfails, Bool.not_true,
          Bool.false_or, Bool.and_eq_true, decide_eq_true_eq, Bool.not_eq_true',
          List.contains_eq_mem, decide_eq_false_iff_not] at hok
        obtain ⟨hactive, hqueue⟩ := htrace hok.1
        refine .inr ⟨fun hmem => hok.2 ?_, hqueue⟩
        rw [← hactive]
        exact hmem
  · have hnew : ∀ request c₁, e ≠ .create k request c₁ := by
      rintro request c₁ rfl
      cases h with
      | createFails hnone => exact hsome hnone
      | create hnone => exact hsome hnone
    have hframe := call_frame h (fun o he => hrun ⟨o, he⟩) hnew
    exact .inl (by simpa only [createFailed, hframe] using hfailed)

/-- A create call that has not ended has not failed. -/
theorem not_failed_of_pending {t : Task} {pc : CreateConnection} (h : s.pending? t = some pc) :
    s.createFailed t = false := by
  cases t with
  | client A =>
    simp only [pending?] at h
    split at h
    · rename_i binary pc' hA
      simp [createFailed, hA, Client.failed]
    · cases h
  | call k =>
    simp only [pending?] at h
    split at h
    · rename_i pc' hk
      simp [createFailed, hk]
    · cases h
  | _ => cases h

/-- What becomes of the connections whose create call has raised. -/
def FailuresClean (s : RelayState) : Prop :=
  ∀ c connection, s.relay.connection c = some connection →
    s.createFailed connection.creator = true →
    (∀ A, connection.creator ≠ .client A) ∧ c ∉ s.relay.active_relayed_connections ∧
      c ∉ s.relay.initiate_connection_answer_queues

/-- A step that meets the condition keeps the failed calls clean. -/
theorem FailuresClean.preserved (hF : FailuresClean s)
    (hM : ∀ c connection, s.relay.connection c = some connection → s.Made c connection.creator)
    (hok : CleanFailures s e = true) (h : RelayRule cfg s e s') : FailuresClean s' := by
  intro c connection hc hfailed
  cases hold : s.relay.connection c with
  | none =>
    obtain ⟨-, pc, hpc, -⟩ := connection_new h hold hc
    rw [not_failed_of_pending hpc] at hfailed
    cases hfailed
  | some connection₀ =>
    obtain ⟨connection₁, hc₁, hid⟩ := h.evolves.connection c connection₀ hold
    obtain rfl := Option.some.inj (hc₁.symm.trans hc)
    simp only [TcpConnection.identity, Prod.mk.injEq] at hid
    rw [hid.2.2.2] at hfailed ⊢
    have hmade := hM c connection₀ hold
    -- What was removed does not come back: the id has its object already.
    have hstays : s.createFailed connection₀.creator = true →
        (∀ A, connection₀.creator ≠ .client A) ∧ c ∉ s'.relay.active_relayed_connections ∧
          c ∉ s'.relay.initiate_connection_answer_queues := by
      intro hfailed₀
      obtain ⟨hclient, hactive, hqueue⟩ := hF c connection₀ hold hfailed₀
      refine ⟨hclient, fun hmem => ?_, fun hmem => ?_⟩
      · rcases h.evolves.active c hmem with hmem | ⟨hnone, -⟩
        · exact hactive hmem
        · rw [hold] at hnone
          cases hnone
      · rcases h.evolves.queues c hmem with hmem | ⟨hnone, -⟩
        · exact hqueue hmem
        · rw [hold] at hnone
          cases hnone
    cases hcreator : connection₀.creator with
    | client A =>
      rw [hcreator] at hmade hfailed hstays
      exact hstays (session_opens hok h hmade hfailed)
    | call k =>
      rw [hcreator] at hmade hfailed hstays
      rcases call_opens hok h hmade hfailed with hfailed₀ | htrace
      · exact hstays hfailed₀
      · exact ⟨by simp, htrace⟩
    | _ =>
      rw [hcreator] at hmade
      cases hmade

/-- In a run whose failures are clean, a failed open leaves no trace. -/
theorem failed_opens_clean (h : Reaches (step cfg) (CleanFailures · ·) {} s) :
    FailedOpensClean s := by
  have hF : FailuresClean s := by
    refine h.invariant (by simp [FailuresClean]) fun s e s' hr hok hstep hF => ?_
    exact hF.preserved (made hr) hok (step_rule hstep)
  refine ⟨fun c connection hc hfailed => (hF c connection hc hfailed).2, ?_⟩
  intro c connection A result hc hcreator hpc _
  have hfailed : s.createFailed connection.creator = true := by
    simp [hcreator, createFailed, hpc, Client.failed]
  exact absurd hcreator ((hF c connection hc hfailed).1 A)

/-- A request for a connection to a host behind the agent. -/
def someRequest : ConnectionRequest where
  agent_connection_id := "agent"
  target_ip := "127.0.0.1"
  target_port := 22
  protocol := "tcp"
  connection_class := .tcpConnectionAsync

/-- A user's create call is answered with an error after the agent has reset its connection. -/
def cleanFailure : RelayState :=
  (runWith (step plainConfig) (CleanFailures · ·) {} (registerAgent ⟨0⟩ "agent" false ++
    [.create 0 someRequest someConnection, .run (.call 0) .ok,
      .agentSends ⟨0⟩ (.text { known := some (.connectionReset "" someConnection) }),
      .agentSends ⟨0⟩ (.text { known := some (.initiateConnectionError "refused" someConnection) }),
      .run (.msgLoop ⟨0⟩) .next, .run (.msgLoop ⟨0⟩) .ok, .run (.msgLoop ⟨0⟩) .next,
      .run (.call 0) .ok])).get (by decide +kernel)

/-- The call has failed, and nothing is left of it. -/
theorem cleanFailure_clean :
    cleanFailure.createFailed (.call 0) = true ∧ FailedOpensClean cleanFailure :=
  ⟨rfl, failed_opens_clean (Reaches.init.of_runWith (Option.some_get _).symm)⟩

/-- The agent answers a session's request with an error, and the access client is told. -/
def failedSession : RelayState :=
  (run (step plainConfig) {} (registerAgent ⟨0⟩ "agent" false ++
    requestConnection ⟨0⟩ "agent" someConnection ++
    [.agentSends ⟨0⟩ (.text { known := some (.initiateConnectionError "refused" someConnection) }),
      .run (.msgLoop ⟨0⟩) .next, .run (.client ⟨0⟩) .ok, .run (.client ⟨0⟩) .ok])).get
    (by decide +kernel)

/-- The connection stays active, and the session ends in an `UnboundLocalError`. -/
theorem failedSession_not_clean :
    ¬ ∀ cfg s, Reaches (step cfg) (fun _ _ => True) {} s → FailedOpensClean s := by
  intro h
  have hreach : Reaches (step plainConfig) (fun _ _ => True) {} failedSession :=
    Reaches.init.of_run (fun _ _ _ => trivial) (Option.some_get _).symm
  obtain ⟨connection, hc, hcreator⟩ : ∃ connection,
      failedSession.relay.connection someConnection = some connection ∧
        connection.creator = .client ⟨0⟩ := ⟨_, rfl, rfl⟩
  have hpc : failedSession.client ⟨0⟩ = some (.finished none (.error .unboundLocalError)) := rfl
  obtain ⟨-, -, hresult⟩ := (h _ _ hreach).reported _ connection ⟨0⟩ _ hc hcreator hpc
    (by decide +kernel)
  cases hresult

end HttpNetworkRelay
