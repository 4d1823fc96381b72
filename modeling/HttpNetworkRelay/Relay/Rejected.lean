import HttpNetworkRelay.Relay.Serial

/-!
# Rejected handshakes

What a handshake that does not end in registration leaves behind is what its own steps have changed:
the relay after the run is compared with the relay after the same events without the steps of that
handshake. `rejected_leaves_trace` shows that every rejected handshake leaves its websocket in
`agent_connections`, into which it is entered before the first message is read.
-/

namespace HttpNetworkRelay

open Asyncio Python RelayState NetworkRelay

/-- An event other than a step of the handshake of `W`. -/
def NotOfHandshake (W : AgentSocket) : RelayEvent → Bool
  | .run (.handshake W') _ => W' != W
  | _ => true

/-- The events lead to the same dictionaries without the steps of the handshake of `W`, and the
relay has closed its websocket. -/
def LeavesNoTrace (cfg : RelayConfig) (W : AgentSocket) (events : List RelayEvent)
    (s : RelayState) : Prop :=
  (∃ s₀, run (step cfg) {} (events.filter (NotOfHandshake W)) = some s₀ ∧
    s.relay.agent_connections = s₀.relay.agent_connections ∧
    s.relay.registered_agent_connections = s₀.relay.registered_agent_connections ∧
    s.relay.agent_connection_id_to_supports_binary =
      s₀.relay.agent_connection_id_to_supports_binary ∧
    s.relay.active_relayed_connections = s₀.relay.active_relayed_connections ∧
    s.relay.agent_connection_locks = s₀.relay.agent_connection_locks) ∧
  s.relay.agent_closed W = true

/-- The handshake of `W` has received its first message and ended without a registration. -/
structure Rejected (s : RelayState) (W : AgentSocket) : Prop where
  received : s.relay.inbox W ≠ s.relay.agent_sent W
  ended : ∃ result, s.handshake W = some (.finished result) ∧ ∀ n, result ≠ .ok (some n)

variable {cfg : RelayConfig} {s s' : RelayState} {e : RelayEvent} {W : AgentSocket}

/-! ## The list of websockets -/

/-- Only the websocket of a registration is taken from the list with it. -/
theorem deregistered_listed (r : NetworkRelay) (n : AgentId) (hW : W ∈ r.agent_connections) :
    W ∈ (r.deregistered n).agent_connections ∨ r.registered_agent_connections n = some W := by
  unfold deregistered
  split
  · exact .inl hW
  · rename_i ws hreg
    by_cases hne : W = ws
    · exact .inr (hne ▸ hreg)
    · exact .inl ((List.mem_erase_of_ne hne).mpr hW)

/-- Only a registered websocket is taken off the list. -/
theorem listed_goes_on (h : RelayRule cfg s e s') (hW : W ∈ s.relay.agent_connections) :
    W ∈ s'.relay.agent_connections ∨ ∃ n, s.relay.registered_agent_connections n = some W := by
  have hstart : ∀ {r r' : NetworkRelay} {n res}, r.agent_connections = s.relay.agent_connections →
      r.registered_agent_connections = s.relay.registered_agent_connections →
      TeardownStart r n r' res →
      W ∈ r'.agent_connections ∨ ∃ n, s.relay.registered_agent_connections n = some W := by
    intro r r' n res hlist hregs h
    rw [← hlist] at hW
    rw [h.registry.1, ← hregs]
    exact (deregistered_listed r n hW).imp_right fun hreg => ⟨n, hreg⟩
  by_cases hshake : ∃ W₀ o, e = .run (.handshake W₀) o
  · obtain ⟨W₀, o, rfl⟩ := hshake
    cases h with
    | handshake _ h =>
      cases h with
      | accepts => exact .inl (List.mem_append_left _ hW)
      | @evicts m n _ r' res _ _ _ _ h =>
        rw [(evicted_registry s W₀ m n (r', res)).1]
        exact hstart (r := s.relay.setSupportsBinary n m.supports_binary) rfl rfl h
      | @evicting m n _ _ r' res h =>
        rw [(evicted_registry s W₀ m n (r', res)).1, h.registry.1]
        exact .inl hW
      | receives | refuses | opens | duplicate | noAttribute | ends => exact .inl hW
  · by_cases hloop : ∃ W₀ o, e = .run (.msgLoop W₀) o
    · obtain ⟨W₀, o, rfl⟩ := hloop
      cases h with
      | msgLoop _ h =>
        cases h with
        | disconnects _ h => exact hstart rfl rfl h
        | receives _ h => exact .inl (by rw [h.same.1.1]; exact hW)
        | resetting _ h =>
          rw [← congrArg AgentRegistry.agent_connections h.registry.1] at hW
          exact .inl hW
        | tearingDown h =>
          rw [← congrArg AgentRegistry.agent_connections h.registry.1] at hW
          exact .inl hW
        | receiveFails | puts | customHandled => exact .inl hW
    · rw [registry_frame h (fun W o he => hshake ⟨W, o, he⟩) fun W o he => hloop ⟨W, o, he⟩]
      exact .inl hW

/-- A websocket that has been accepted is on the list until it is registered; a handshake that ends
before has read nothing. -/
structure ListedOnAccept (s : RelayState) : Prop where
  pending : ∀ W pc, s.handshake W = some pc → pc ≠ .accepting → (∀ result, pc ≠ .finished result) →
    W ∈ s.relay.agent_connections
  ended : ∀ W result, s.handshake W = some (.finished result) → (∀ n, result ≠ .ok (some n)) →
    W ∈ s.relay.agent_connections ∨ s.relay.inbox W = s.relay.agent_sent W

/-- What a handshake that has ended without a registration has not read stays unread. -/
theorem unread_goes_on (hI : RegistryInv s) (h : RelayRule cfg s e s')
    {result : Except Exc (Option AgentId)} (hW : s.handshake W = some (.finished result))
    (hresult : ∀ n, result ≠ .ok (some n)) (hunread : s.relay.inbox W = s.relay.agent_sent W) :
    s'.relay.inbox W = s'.relay.agent_sent W := by
  cases agents_of_rule h with
  | same hagents =>
    rw [hagents]
    exact hunread
  | sends W₀ frame he =>
    subst he
    cases h with
    | agentSends =>
      by_cases hne : W = W₀
      · subst hne
        simp [hunread]
      · simpa [hne] using hunread
  | dies W₀ he =>
    subst he
    cases h with
    | agentDies => exact hunread
  | @starts W₀ o frame rest he hpc _ hagents =>
    have hne : W ≠ W₀ := by
      rintro rfl
      rw [hW] at hpc
      cases hpc
    rw [hagents]
    simpa [hne] using hunread
  | @receives W₀ n frame rest he hpc _ hagents =>
    have hne : W ≠ W₀ := by
      rintro rfl
      have hdone := (hI.msgLoop W _ hpc).symm.trans hW
      simp only [Option.some.injEq, Handshake.finished.injEq] at hdone
      exact hresult n hdone.symm
    rw [hagents]
    simpa [hne] using hunread

/-- A websocket is listed from its accept on, in every run. -/
theorem listedOnAccept {ok : RelayState → RelayEvent → Prop} (h : Reaches (step cfg) ok {} s) :
    ListedOnAccept s := by
  refine h.invariant ⟨by simp, by simp⟩ fun s e s' hr _ hstep hL => ?_
  have hI := registryInv hr
  have h := step_rule hstep
  -- A websocket whose handshake is not over stays on the list.
  have hlisted : ∀ W pc, s.handshake W = some pc → (∀ n, pc ≠ .finished (.ok (some n))) →
      W ∈ s.relay.agent_connections → W ∈ s'.relay.agent_connections := by
    intro W pc hpc hne hmem
    rcases listed_goes_on h hmem with hmem' | ⟨n, hreg⟩
    · exact hmem'
    · exact absurd (Option.some.inj (hpc.symm.trans (hI.registered n W hreg))) (hne n)
  have hframe : ∀ W, (∀ o, e ≠ .run (.handshake W) o) → ∀ pc, s'.handshake W = some pc →
      pc ≠ .accepting → s.handshake W = some pc := by
    intro W hrun pc hpc hne
    by_cases hconn : e = .agentConnects W
    · subst hconn
      cases h with
      | agentConnects =>
        have hpc : Handshake.accepting = pc := by simpa using hpc
        exact absurd hpc.symm hne
    · exact (handshake_frame h hrun hconn).symm.trans hpc
  -- The handshake's own step.
  have hown : ∀ W o, e = .run (.handshake W) o → W ∈ s'.relay.agent_connections ∨
      (∃ result, s'.handshake W = some (.finished result)) ∧
        s'.relay.inbox W = s'.relay.agent_sent W := by
    rintro W o rfl
    cases h with
    | @handshake _ pc _ _ hpc hrule =>
      by_cases hacc : pc = .accepting
      · subst hacc
        cases hrule with
        | accepts => exact .inl (by simp)
        | @ends _ _ result => exact .inr ⟨⟨result, by simp⟩, hI.unread W (.inr (.inl hpc))⟩
      · have hnot : ∀ result, pc ≠ .finished result := fun result hfinished =>
          not_finished_of_run (.handshake hpc hrule) result (by rw [hpc, hfinished])
        exact .inl (hlisted W pc hpc (fun n => hnot _) (hL.pending W pc hpc hacc hnot))
  constructor
  · intro W pc' hpc' hne hnot
    by_cases hrun : ∃ o, e = .run (.handshake W) o
    · obtain ⟨o, he⟩ := hrun
      rcases hown W o he with hmem | ⟨⟨result, hfinished⟩, -⟩
      · exact hmem
      · exact absurd (Option.some.inj (hpc'.symm.trans hfinished)) (hnot result)
    · have hpc := hframe W (fun o he => hrun ⟨o, he⟩) pc' hpc' hne
      exact hlisted W pc' hpc (fun n => hnot _) (hL.pending W pc' hpc hne hnot)
  · intro W result hpc' hresult
    by_cases hrun : ∃ o, e = .run (.handshake W) o
    · obtain ⟨o, he⟩ := hrun
      exact (hown W o he).imp_right fun hended => hended.2
    · have hpc := hframe W (fun o he => hrun ⟨o, he⟩) _ hpc' (by simp)
      rcases hL.ended W result hpc hresult with hmem | hunread
      · exact .inl (hlisted W _ hpc (fun n h => hresult n (by simpa using h)) hmem)
      · exact .inr (unread_goes_on hI h hpc hresult hunread)

/-! ## The trace -/

/-- Without steps of its handshake, a websocket is never on the list. -/
theorem unlisted_without_handshake
    (h : Reaches (step cfg) (fun _ e => NotOfHandshake W e = true) {} s) :
    W ∉ s.relay.agent_connections := by
  have hwaits : s.handshake W = none ∨ s.handshake W = some .accepting := by
    refine h.invariant (I := fun s => s.handshake W = none ∨ s.handshake W = some .accepting)
      (.inl rfl) fun s e s' _ hok hstep hI => ?_
    by_cases hconn : e = .agentConnects W
    · subst hconn
      cases step_rule hstep with
      | agentConnects => exact .inr (by simp)
    · rw [handshake_frame (step_rule hstep) ?_ hconn]
      · exact hI
      · rintro o rfl
        simp [NotOfHandshake] at hok
  intro hmem
  obtain ⟨pc, hpc, hne⟩ := (registryInv h).listed W hmem
  rcases hwaits with hnone | hacc
  · rw [hnone] at hpc
    cases hpc
  · exact hne (Option.some.inj (hpc.symm.trans hacc))

/-- Every rejected handshake leaves a trace: its websocket stays in `agent_connections`. -/
theorem rejected_leaves_trace {events : List RelayEvent}
    (hrun : run (step cfg) {} events = some s) (hW : Rejected s W) :
    ¬ LeavesNoTrace cfg W events s := by
  have hr : Reaches (step cfg) (fun _ _ => True) {} s :=
    Reaches.init.of_run (fun _ _ _ => trivial) hrun
  obtain ⟨hreceived, result, hpc, hresult⟩ := hW
  have hlisted : W ∈ s.relay.agent_connections := by
    rcases (listedOnAccept hr).ended W result hpc hresult with hmem | hunread
    · exact hmem
    · exact absurd hunread hreceived
  rintro ⟨⟨s₀, hrun₀, hlist, -⟩, -⟩
  have hr₀ : Reaches (step cfg) (fun _ e => NotOfHandshake W e = true) {} s₀ :=
    Reaches.init.of_run (fun e he _ => (List.mem_filter.mp he).2) hrun₀
  rw [hlist] at hlisted
  exact unlisted_without_handshake hr₀ hlisted

/-- The first message of an agent is a keep-alive. -/
def otherFirstMessage : List RelayEvent :=
  [.agentConnects ⟨0⟩, .run (.handshake ⟨0⟩) .ok,
    .agentSends ⟨0⟩ (.text { known := some .keepAlive }), .run (.handshake ⟨0⟩) .next]

/-- The relay after the rejection of that agent. -/
def rejectedAgent : RelayState :=
  (run (step plainConfig) {} otherFirstMessage).get (by decide +kernel)

/-- The handshake has received its first message and ended without a registration. -/
theorem rejectedAgent_rejected : Rejected rejectedAgent ⟨0⟩ where
  received := by decide
  ended := ⟨.ok none, rfl, fun n h => by cases h⟩

/-- The refused websocket is still listed, unlike in the run without its steps. -/
theorem rejectedAgent_leaves_trace :
    ¬ LeavesNoTrace plainConfig ⟨0⟩ otherFirstMessage rejectedAgent :=
  rejected_leaves_trace (Option.some_get _).symm rejectedAgent_rejected

/-- The handshake has returned without closing the websocket, too. -/
theorem otherFirstMessage_leaves_trace :
    ¬ ∀ cfg W events s, run (step cfg) {} events = some s → Rejected s W →
      LeavesNoTrace cfg W events s := by
  intro h
  have hclosed := (h plainConfig ⟨0⟩ otherFirstMessage rejectedAgent (Option.some_get _).symm
    rejectedAgent_rejected).2
  cases hclosed

end HttpNetworkRelay
