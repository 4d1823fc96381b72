import HttpNetworkRelay.Relay.CompleteTeardown
import HttpNetworkRelay.Relay.Framing

/-!
# Sessions under the same agent id

A teardown is keyed by the agent's id, a session by its websocket. `TeardownBy` is a stretch of a
teardown with the session that has triggered it, and `SparesSuccessors` what it owes to the other
sessions. In a run whose steps meet `KeepsToItself`, `successors_spared_iff` shows that the next
step harms no other session exactly when it meets `KeepsToItself`, too.
-/

namespace HttpNetworkRelay

open Asyncio Python RelayState NetworkRelay

/-- In the event `e`, `edge_agent_connection_close` runs from the relay `r` to `r'`, triggered by
the message loop of the websocket `W` or by its eviction; `owner` says whose flag is stored under an
id. An evicting handshake has just stored its own. -/
inductive TeardownBy (cfg : RelayConfig) (s : RelayState) : RelayEvent → AgentSocket →
    (AgentId → Option AgentSocket) → NetworkRelay → NetworkRelay → Prop
  | disconnect {W n o} (hpc : s.msgLoop W = some ⟨n, .receiving⟩)
      (ho : o = .disconnect ∨ o = .raised .webSocketDisconnect) :
      TeardownBy cfg s (.run (.msgLoop W) o) W s.relay.registered_agent_connections s.relay
        (edge_agent_connection_close s.relay (.msgLoop W) n).1
  | tearingDown {W n pc o x} (hpc : s.msgLoop W = some ⟨n, .tearingDown pc⟩)
      (h : pc.resume s.relay (.msgLoop W) o = some x) :
      TeardownBy cfg s (.run (.msgLoop W) o) W s.relay.registered_agent_connections s.relay x.1
  | evicts {W W₀ m n} (hpc : s.handshake W₀ = some (.checking m)) (hn : n ≠ "")
      (hattr : cfg.closed_attribute = true)
      (hreg : s.relay.registered_agent_connections n = some W)
      (hdead : s.relay.agent_dead W = true) :
      TeardownBy cfg s (.run (.handshake W₀) (.permit (some n))) W
        (Function.update s.relay.registered_agent_connections n (some W₀))
        (s.relay.setSupportsBinary n m.supports_binary)
        (edge_agent_connection_close (s.relay.setSupportsBinary n m.supports_binary)
          (.handshake W₀) n).1
  | evicting {W₀ m n pc o x} (hpc : s.handshake W₀ = some (.evicting m n pc))
      (h : pc.resume s.relay (.handshake W₀) o = some x) :
      TeardownBy cfg s (.run (.handshake W₀) o) pc.agent_connection
        s.relay.registered_agent_connections s.relay x.1

/-- What a teardown triggered by the session of `W` leaves of the other sessions: their
registrations, the flags stored for them, their relayed connections, and that nothing is sent to
their agents. -/
structure SparesSuccessors (W : AgentSocket) (owner : AgentId → Option AgentSocket)
    (r r' : NetworkRelay) : Prop where
  registered : ∀ n W', W' ≠ W → r.registered_agent_connections n = some W' →
    r'.registered_agent_connections n = some W'
  flag : ∀ n W', W' ≠ W → owner n = some W' →
    (r'.agent_connection_id_to_supports_binary n).getD false =
      (r.agent_connection_id_to_supports_binary n).getD false
  active : ∀ c ∈ r.active_relayed_connections, r.belongsTo W c = false →
    c ∈ r'.active_relayed_connections
  sent : ∀ W', W' ≠ W → r'.to_agent W' = r.to_agent W'

/-- A message loop handles a disconnect only while its own websocket, or none, is registered under
its id, and a handshake that evicts a dead websocket has not announced binary frames. -/
def KeepsToItself (cfg : RelayConfig) (s : RelayState) : RelayEvent → Bool
  | .run (.msgLoop W) o =>
    match s.msgLoop W with
    | some ⟨n, .receiving⟩ =>
      !(o == .disconnect || o == .raised .webSocketDisconnect) ||
        (s.relay.registered_agent_connections n).all (· == W)
    | _ => true
  | .run (.handshake W₀) (.permit (some n)) =>
    match s.handshake W₀ with
    | some (.checking m) =>
      !(cfg.closed_attribute &&
          (s.relay.registered_agent_connections n).any (s.relay.agent_dead ·)) ||
        !m.supports_binary
    | _ => true
  | _ => true

variable {cfg : RelayConfig} {s s' : RelayState} {e : RelayEvent} {W : AgentSocket}

/-! ## The coroutine -/

section

variable {r r' : NetworkRelay} {t : Task} {n : AgentId} {o : Outcome}

/-- Close messages go to the websocket that is registered under the id. -/
theorem edge_agent_connection_close_sent (r : NetworkRelay) (t : Task)
    (hreg : r.registered_agent_connections n = some W) {W' : AgentSocket} (hne : W' ≠ W) :
    (edge_agent_connection_close r t n).1.to_agent W' = r.to_agent W' := by
  have hstart := edge_agent_connection_close_start r t n
  generalize edge_agent_connection_close r t n = x at hstart
  obtain ⟨r', res⟩ := x
  cases hstart with
  | unregistered | idle => rfl
  | @starts ws c rest _ send hws hsnap same hsend =>
    obtain rfl := Option.some.inj (hws.symm.trans hreg)
    exact hsend.emits.other fun m hm => hne hm.1

/-- A teardown that goes on sends to its own websocket only. -/
theorem resume_sent {pc : EdgeAgentConnectionClose}
    {x : NetworkRelay × Res EdgeAgentConnectionClose Unit Exc} (h : pc.resume r t o = some x)
    {W' : AgentSocket} (hne : W' ≠ pc.agent_connection) : x.1.to_agent W' = r.to_agent W' := by
  exact (EdgeAgentConnectionClose.resume_step h).emits.other fun m hm => hne hm.1

/-- A teardown forgets the flag of its agent only. -/
theorem edge_agent_connection_close_flags (r : NetworkRelay) (t : Task) (n : AgentId) :
    (edge_agent_connection_close r t n).1.agent_connection_id_to_supports_binary =
      Function.update r.agent_connection_id_to_supports_binary n none := by
  have hregistry := (edge_agent_connection_close_start r t n).registry.1
  have hflags := congrArg AgentRegistry.agent_connection_id_to_supports_binary hregistry
  exact hflags.trans (deregistered_flags r n).2

end

/-! ## One stretch -/

/-- The close of the registration of `W` spares the other sessions, if no other flag than that of
`W` is stored under its id. -/
theorem close_spares_successors {r : NetworkRelay} (t : Task) {n : AgentId}
    {owner : AgentId → Option AgentSocket} (hreg : r.registered_agent_connections n = some W)
    (howner : ∀ W', W' ≠ W → owner n = some W' →
      (r.agent_connection_id_to_supports_binary n).getD false = false) :
    SparesSuccessors W owner r (edge_agent_connection_close r t n).1 := by
  have hspares := edge_agent_connection_close_spares t hreg
  refine ⟨hspares.registered, ?_, hspares.active, ?_⟩
  · intro n' W' hne hown
    rw [edge_agent_connection_close_flags]
    by_cases hn : n' = n
    · subst hn
      rw [Function.update_self, howner W' hne hown]
      rfl
    · rw [Function.update_of_ne hn]
  · exact fun W' hne => edge_agent_connection_close_sent r t hreg hne

/-- A teardown that goes on spares the sessions of the others. -/
theorem resume_spares_successors {r : NetworkRelay} {t : Task} {pc : EdgeAgentConnectionClose}
    {o : Outcome} {x : NetworkRelay × Res EdgeAgentConnectionClose Unit Exc}
    (hsnap : Snapshot r pc) (h : pc.resume r t o = some x)
    (owner : AgentId → Option AgentSocket) :
    SparesSuccessors pc.agent_connection owner r x.1 := by
  have hspares := EdgeAgentConnectionClose.resume_spares (hsnap pc.current (.inl rfl)) h
  refine ⟨hspares.registered, ?_, hspares.active, ?_⟩
  · intro n W' _ _
    rw [(EdgeAgentConnectionClose.resume_step h).registry.1]
  · exact fun W' hne => resume_sent h hne

/-- The teardowns of message loops are those of their own websockets. -/
def LoopsKeep (s : RelayState) : Prop :=
  ∀ W pc, s.tearing? (.msgLoop W) = some pc → pc.agent_connection = W

/-- In such a run a message loop closes its own registration. -/
theorem loopsKeep (h : Reaches (step cfg) (KeepsToItself cfg · ·) {} s) : LoopsKeep s := by
  refine h.invariant (I := LoopsKeep) (by intro W pc hpc; cases hpc) ?_
  intro s e s' hr hok hstep hL W pc' hpc'
  have h := step_rule hstep
  by_cases hrun : ∃ o, e = .run (.msgLoop W) o
  · obtain ⟨o, rfl⟩ := hrun
    cases teardown_of_run h (.inr ⟨W, rfl⟩) with
    | outside _ hnone | idles _ _ _ hnone | raises _ _ hnone | returns _ _ _ hnone =>
      rw [hpc'] at hnone
      cases hnone
    | starts n₀ pc₁ _ hpc₁ hcalls hreg =>
      obtain rfl := Option.some.inj (hpc₁.symm.trans hpc')
      cases hcalls with
      | disconnect hpc ho =>
        rcases ho with rfl | rfl <;> simpa [KeepsToItself, hpc, hreg] using hok
    | moves pc pc₁ hpc hpc₁ hmoved =>
      obtain rfl := Option.some.inj (hpc₁.symm.trans hpc')
      exact hmoved.parked.1.trans (hL W pc hpc)
  · rw [tearing_frame (registryInv hr) h fun o he => hrun ⟨o, he⟩] at hpc'
    exact hL W pc' hpc'

/-! ## Successors -/

/-- In a run whose steps all meet `KeepsToItself`, the teardowns in the next step spare the other
sessions if and only if this step meets it, too. -/
theorem successors_spared_iff (h : Reaches (step cfg) (KeepsToItself cfg · ·) {} s)
    (e : RelayEvent) :
    (∀ W owner r r', TeardownBy cfg s e W owner r r' → SparesSuccessors W owner r r') ↔
      KeepsToItself cfg s e = true := by
  have hI := registryInv h
  have hid : ∀ n W, s.relay.registered_agent_connections n = some W → n ≠ "" :=
    fun n W hn => opened_id_ne h W n (.inl (hI.registered n W hn))
  constructor
  · intro hspares
    by_contra hnot
    rw [Bool.not_eq_true] at hnot
    unfold KeepsToItself at hnot
    split at hnot
    · rename_i W o
      split at hnot
      · -- The loop tears down the registration of another websocket.
        rename_i n hpc
        simp only [Bool.or_eq_false_iff, Bool.not_eq_false', Bool.or_eq_true, beq_iff_eq,
          Option.all_eq_false] at hnot
        obtain ⟨ho, W', hreg, hne⟩ := hnot
        have hne : W' ≠ W := by simpa using hne
        have hkept := (hspares _ _ _ _ (.disconnect hpc ho)).registered n W' hne hreg
        rw [(edge_agent_connection_close_registry (.msgLoop W) hreg).1] at hkept
        simp at hkept
      · cases hnot
    · rename_i W₀ n
      split at hnot
      · -- The eviction takes the flag that the handshake has stored.
        rename_i m hpc
        simp only [Bool.or_eq_false_iff, Bool.not_eq_false', Bool.and_eq_true,
          Option.any_eq_true] at hnot
        obtain ⟨⟨hattr, W, hreg, hdead⟩, hbinary⟩ := hnot
        have hne : W₀ ≠ W := by
          rintro rfl
          have hdone := (hI.registered n W₀ hreg).symm.trans hpc
          cases hdone
        have hkept := (hspares _ _ _ _ (.evicts hpc (hid n W hreg) hattr hreg hdead)).flag n W₀ hne
          (Function.update_self _ _ _)
        rw [edge_agent_connection_close_flags] at hkept
        simp [hbinary] at hkept
      · cases hnot
    · cases hnot
  · intro hok W owner r r' hstretch
    cases hstretch with
    | @disconnect _ n o hpc ho =>
      cases hreg : s.relay.registered_agent_connections n with
      | none =>
        rw [edge_agent_connection_close, hreg]
        refine ⟨fun n' W' _ hn' => ?_, fun n' W' _ hn' => ?_, fun c hc _ => hc, fun W' _ => rfl⟩
        · have hne : n' ≠ n := by
            rintro rfl
            rw [hreg] at hn'
            cases hn'
          simp [hne, hn']
        · have hne : n' ≠ n := by
            rintro rfl
            rw [hreg] at hn'
            cases hn'
          simp [hne]
      | some W' =>
        obtain rfl : W' = W := by
          rcases ho with rfl | rfl <;> simpa [KeepsToItself, hpc, hreg] using hok
        refine close_spares_successors _ hreg fun W₁ hne howner => ?_
        exact absurd (Option.some.inj (howner.symm.trans hreg)) hne
    | @tearingDown _ n pc o x hpc hx =>
      have hcurrent : s.tearing? (.msgLoop W) = some pc := by simp [tearing?, hpc]
      have hagent := loopsKeep h W pc hcurrent
      have hspares := resume_spares_successors (snapshots h _ pc hcurrent) hx
        s.relay.registered_agent_connections
      rw [hagent] at hspares
      exact hspares
    | @evicts _ W₀ m n hpc hn hattr hreg hdead =>
      have hbinary : m.supports_binary = false := by
        simpa [KeepsToItself, hpc, hattr, hreg, hdead] using hok
      refine close_spares_successors (r := s.relay.setSupportsBinary n m.supports_binary) _ hreg
        fun _ _ _ => ?_
      simp [hbinary]
    | @evicting W₀ m n pc o x hpc hx =>
      have hcurrent : s.tearing? (.handshake W₀) = some pc := by simp [tearing?, hpc]
      exact resume_spares_successors (snapshots h _ pc hcurrent) hx _

/-- An agent without binary frames has died, and its next connection asks for its id. -/
def returningAgent : RelayState :=
  (runWith (step plainConfig) (KeepsToItself plainConfig · ·) {} (registerAgent ⟨0⟩ "agent" false ++
    [.agentDies ⟨0⟩, .agentConnects ⟨1⟩, .run (.handshake ⟨1⟩) .ok,
      .agentSends ⟨1⟩ (.text { known := some (.start {}) }), .run (.handshake ⟨1⟩) .next])).get
    (by decide +kernel)

/-- The handshake that takes over closes the old registration and spares the others. -/
theorem returningAgent_spares :
    ∃ owner r r', TeardownBy plainConfig returningAgent (.run (.handshake ⟨1⟩)
        (.permit (some "agent"))) ⟨0⟩ owner r r' ∧ SparesSuccessors ⟨0⟩ owner r r' := by
  have hreach : Reaches (step plainConfig) (KeepsToItself plainConfig · ·) {} returningAgent :=
    Reaches.init.of_runWith (Option.some_get _).symm
  have hstretch := @TeardownBy.evicts plainConfig returningAgent ⟨0⟩ ⟨1⟩ _ "agent" rfl (by decide)
    rfl rfl rfl
  exact ⟨_, _, _, hstretch, (successors_spared_iff hreach _).mpr rfl _ _ _ _ hstretch⟩

/-- The agent's next connection is registered before its old message loop has received the
disconnect. -/
def overtakenLoop : RelayState :=
  (run (step plainConfig) {} (registerAgent ⟨0⟩ "agent" false ++ [.agentDies ⟨0⟩] ++
    registerAgent ⟨1⟩ "agent" false)).get (by decide +kernel)

/-- The old loop removes the registration of the new websocket. -/
theorem overtakenLoop_harms :
    ¬ ∀ cfg s e, cfg.closed_attribute = true → Reaches (step cfg) (fun _ _ => True) {} s →
      ∀ W owner r r', TeardownBy cfg s e W owner r r' → SparesSuccessors W owner r r' := by
  intro h
  have hreach : Reaches (step plainConfig) (fun _ _ => True) {} overtakenLoop :=
    Reaches.init.of_run (fun _ _ _ => trivial) (Option.some_get _).symm
  have hstretch := @TeardownBy.disconnect plainConfig overtakenLoop ⟨0⟩ "agent" _ rfl (.inl rfl)
  have hkept := (h _ _ _ rfl hreach _ _ _ _ hstretch).registered "agent" ⟨1⟩ (by decide) rfl
  cases hkept

end HttpNetworkRelay
