import HttpNetworkRelay.Relay.Sends
import HttpNetworkRelay.Relay.Teardown

/-!
# The framing that an agent has negotiated

`agent_connection_id_to_supports_binary` is written when a handshake has its permission, before the
handshake knows whether its websocket is going to be registered, and it is forgotten by the close of
a dead registration, after it was written. `NegotiatesFlags` excludes the handshakes for which this
matters; `framing_agrees` shows that then the flag of an id is that of its registered websocket, and
that binary frames are sent to agents that announced them only.
-/

namespace HttpNetworkRelay

open Asyncio Python RelayState NetworkRelay

/-- A refused duplicate announces what the registered websocket has announced, and a websocket that
replaces a dead one announces what is stored when it is registered: nothing, if there was no
connection to close. -/
def NegotiatesFlags (s : RelayState) : RelayEvent → Bool
  | .run (.handshake W) o =>
    match s.handshake W, o with
    | some (.checking m), .permit (some n) =>
      match s.relay.registered_agent_connections n with
      | none => true
      | some other =>
        if s.relay.agent_dead other then
          s.relay.active_relayed_connections.any (s.relay.belongsTo other) || !m.supports_binary
        else m.supports_binary == s.relay.announced other
    | some (.evicting m n pc), o =>
      !pc.completes s.relay o ||
        (s.relay.agent_connection_id_to_supports_binary n).getD false == m.supports_binary
    | _, _ => true
  | _ => true

/-- The framing in use is the one that was announced. -/
structure FramingAgrees (s : RelayState) : Prop where
  flag : ∀ n W, s.relay.registered_agent_connections n = some W →
    (s.relay.agent_connection_id_to_supports_binary n).getD false = s.relay.announced W
  connection : ∀ c connection, s.relay.connection c = some connection →
    connection.agent_supports_binary = s.relay.announced connection.agent_connection
  bytes : ∀ W data, .bytes data ∈ s.relay.to_agent W → s.relay.announced W = true

variable {cfg : RelayConfig} {s s' : RelayState} {e : RelayEvent}

/-- The flag that is announced is that of the start message. -/
theorem announced_of_startMessage? {r : NetworkRelay} {W : AgentSocket} {m : EtRStartMessage}
    (h : r.startMessage? W = some m) : r.announced W = m.supports_binary := by
  simp [announced, h]

/-- What a registered websocket has announced does not change. -/
theorem announced_step (hI : RegistryInv s) (h : RelayRule cfg s e s') {W : AgentSocket}
    {n : AgentId} (hW : s.handshake W = some (.finished (.ok (some n)))) :
    s'.relay.announced W = s.relay.announced W := by
  obtain ⟨m, hm⟩ := hI.started W n hW
  rw [announced_of_startMessage? hm,
    announced_of_startMessage? (startMessage?_evolves h.evolves hm)]

/-! ## What happens to the flags -/

/-- The registrations that are left keep their flags. -/
def KeepsFlags (r r' : AgentRegistry) : Prop :=
  ∀ n W, r'.registered_agent_connections n = some W → r.registered_agent_connections n = some W ∧
    r'.agent_connection_id_to_supports_binary n = r.agent_connection_id_to_supports_binary n

/-- A registry that stays as it is keeps the flags. -/
theorem KeepsFlags.refl (r : AgentRegistry) : KeepsFlags r r := fun _ _ h => ⟨h, rfl⟩

/-- The close of a registration forgets its flag with it. -/
theorem deregistered_flags (r : NetworkRelay) (n : AgentId) :
    (r.deregistered n).registered_agent_connections =
        Function.update r.registered_agent_connections n none ∧
      (r.deregistered n).agent_connection_id_to_supports_binary =
        Function.update r.agent_connection_id_to_supports_binary n none := by
  unfold NetworkRelay.deregistered
  split <;> exact ⟨rfl, rfl⟩

/-- The flags of the registrations that are left are kept when one is closed. -/
theorem KeepsFlags.deregistered (r : NetworkRelay) (n : AgentId) :
    KeepsFlags r.toAgentRegistry (r.deregistered n).toAgentRegistry := by
  intro n' W h
  obtain ⟨hreg, hflag⟩ := deregistered_flags r n
  rw [hreg] at h
  rw [hflag]
  by_cases hn : n' = n
  · subst hn
    simp at h
  · simpa [hn] using h

/-- A step of a message loop keeps the flags. -/
theorem MsgLoopRule.keepsFlags {W : AgentSocket} {n : AgentId} {pc : MsgLoop} {o : Outcome}
    (h : MsgLoopRule cfg s W n pc o s') :
    KeepsFlags s.relay.toAgentRegistry s'.relay.toAgentRegistry := by
  cases h with
  | disconnects _ h =>
    simp only [tornDown, setMsgLoop, withRelay, h.registry.1]
    exact .deregistered _ _
  | receives _ h =>
    rw [h.same.1.1]
    exact .refl _
  | resetting _ h =>
    simp only [resetHandled, setMsgLoop, withRelay, h.registry.1]
    exact .refl _
  | tearingDown h =>
    simp only [tornDown, setMsgLoop, withRelay, h.registry.1]
    exact .refl _
  | receiveFails | puts | customHandled => exact .refl _

/-- How a handshake's step changes the flags: its websocket is registered, or a refused duplicate
has left its flag, or nothing is added. -/
inductive HandshakeFlags (s : RelayState) (W : AgentSocket) (s' : RelayState) : Prop
  | keeps (h : KeepsFlags s.relay.toAgentRegistry s'.relay.toAgentRegistry)
  | registers (n : AgentId) (m : EtRStartMessage) (hm : s.relay.startMessage? W = some m)
      (hreg : s'.relay.registered_agent_connections n = some W)
      (hflag : (s'.relay.agent_connection_id_to_supports_binary n).getD false = m.supports_binary)
      (hother : ∀ n', n' ≠ n → s'.relay.registered_agent_connections n' =
          s.relay.registered_agent_connections n' ∧
        s'.relay.agent_connection_id_to_supports_binary n' =
          s.relay.agent_connection_id_to_supports_binary n')
  | refuses (n : AgentId) (other : AgentSocket)
      (hreg : s.relay.registered_agent_connections n = some other)
      (hflag : (s'.relay.agent_connection_id_to_supports_binary n).getD false =
        s.relay.announced other)
      (hregs : s'.relay.registered_agent_connections = s.relay.registered_agent_connections)
      (hother : ∀ n', n' ≠ n → s'.relay.agent_connection_id_to_supports_binary n' =
          s.relay.agent_connection_id_to_supports_binary n')

/-- What a step of a handshake does to the flags. -/
theorem HandshakeRule.flags (hattr : cfg.closed_attribute = true) (hI : RegistryInv s)
    {W : AgentSocket} {pc : Handshake} {o : Outcome} (hpc : s.handshake W = some pc)
    (hok : NegotiatesFlags s (.run (.handshake W) o) = true) (h : HandshakeRule cfg s W pc o s') :
    HandshakeFlags s W s' := by
  cases h with
  | accepts | receives | refuses | ends => exact .keeps (.refl _)
  | @opens m n =>
    refine .registers n m (hI.startMessage W m (.inl hpc)) (by simp [openAgent])
      (by simp [openAgent]) fun n' hn' => ?_
    simp [openAgent, hn']
  | @duplicate m n other hn hreg _ halive =>
    have hsame : m.supports_binary = s.relay.announced other := by
      simpa [NegotiatesFlags, hpc, hreg, halive] using hok
    exact .refuses n other hreg (by simpa using hsame) rfl fun n' hn' => by simp [hn']
  | noAttribute _ _ hfalse =>
    rw [hattr] at hfalse
    cases hfalse
  | @evicts m n other r' res hn hreg _ hdead h =>
    have hregistry := h.registry.1
    obtain ⟨hregs, hflags⟩ := deregistered_flags (s.relay.setSupportsBinary n m.supports_binary) n
    have hregs' : r'.registered_agent_connections =
        Function.update s.relay.registered_agent_connections n none := by
      rw [hregistry, hregs]
      rfl
    have hflags' : r'.agent_connection_id_to_supports_binary =
        Function.update s.relay.agent_connection_id_to_supports_binary n none := by
      rw [hregistry, hflags]
      simp
    have hkeeps : KeepsFlags s.relay.toAgentRegistry r'.toAgentRegistry := by
      intro n' W' hW'
      rw [hregs'] at hW'
      rw [hflags']
      by_cases hnn : n' = n
      · subst hnn
        simp at hW'
      · simpa [hnn] using hW'
    cases h with
    | unregistered hnone =>
      have hnone : s.relay.registered_agent_connections n = none := hnone
      rw [hreg] at hnone
      cases hnone
    | @idle ws hws hsnap =>
      -- Nothing is closed, and the websocket is registered without a flag.
      obtain rfl : other = ws := Option.some.inj (hreg.symm.trans hws)
      have hany : s.relay.active_relayed_connections.any (s.relay.belongsTo other) = false := by
        rw [List.any_eq_false]
        intro c hc hbelongs
        have hmem : c ∈ s.relay.active_relayed_connections.filter (s.relay.belongsTo other) :=
          List.mem_filter.mpr ⟨hc, hbelongs⟩
        have hsnap' : s.relay.active_relayed_connections.filter (s.relay.belongsTo other) = [] :=
          hsnap
        rw [hsnap'] at hmem
        cases hmem
      have hplain : m.supports_binary = false := by
        simpa [NegotiatesFlags, hpc, hreg, hdead, hany] using hok
      refine .registers n m (hI.startMessage W m (.inl hpc)) (by simp [evicted, openAgent])
        (by simp [evicted, openAgent, hplain]) fun n' hn' => ?_
      simp [evicted, openAgent, hn']
    | starts => exact .keeps hkeeps
  | @evicting m n pc _ r' res h =>
    have hregistry := h.registry.1
    cases res with
    | parked _ | raised _ =>
      simp only [evicted]
      refine .keeps ?_
      simp only [setHandshake, withRelay, hregistry]
      exact .refl _
    | returned a =>
      have hflag : (s.relay.agent_connection_id_to_supports_binary n).getD false =
          m.supports_binary := by
        simpa [NegotiatesFlags, hpc, h.completes] using hok
      refine .registers n m (hI.startMessage W m (.inr ⟨n, pc, hpc⟩)) (by simp [evicted, openAgent])
        ?_ fun n' hn' => ?_
      · simp [evicted, openAgent, hregistry, hflag]
      · simp [evicted, openAgent, hn', hregistry]

/-! ## The invariant -/

/-- The two tables agree after a step. -/
theorem flag_step (hattr : cfg.closed_attribute = true) (hI : RegistryInv s)
    (hF : ∀ n W, s.relay.registered_agent_connections n = some W →
      (s.relay.agent_connection_id_to_supports_binary n).getD false = s.relay.announced W)
    (hok : NegotiatesFlags s e = true) (h : RelayRule cfg s e s') (n : AgentId) (W : AgentSocket)
    (hn : s'.relay.registered_agent_connections n = some W) :
    (s'.relay.agent_connection_id_to_supports_binary n).getD false = s'.relay.announced W := by
  have hold : s.relay.registered_agent_connections n = some W →
      s'.relay.agent_connection_id_to_supports_binary n =
        s.relay.agent_connection_id_to_supports_binary n →
      (s'.relay.agent_connection_id_to_supports_binary n).getD false = s'.relay.announced W := by
    intro hreg hflag
    rw [hflag, announced_step hI h (hI.registered n W hreg)]
    exact hF n W hreg
  have hkeeps : KeepsFlags s.relay.toAgentRegistry s'.relay.toAgentRegistry →
      (s'.relay.agent_connection_id_to_supports_binary n).getD false = s'.relay.announced W := by
    intro hkeeps
    obtain ⟨hreg, hflag⟩ := hkeeps n W hn
    exact hold hreg hflag
  by_cases hshake : ∃ W₀ o, e = .run (.handshake W₀) o
  · obtain ⟨W₀, o, rfl⟩ := hshake
    have hflags : HandshakeFlags s W₀ s' := by
      cases h with
      | handshake hpc hrule => exact hrule.flags hattr hI hpc hok
    cases hflags with
    | keeps h => exact hkeeps h
    | registers n₀ m hm hreg hflag hother =>
      by_cases hnn : n = n₀
      · subst hnn
        obtain rfl := Option.some.inj (hreg.symm.trans hn)
        rw [hflag, announced_of_startMessage? (startMessage?_evolves h.evolves hm)]
      · obtain ⟨hregs, hflag⟩ := hother n hnn
        exact hold (hregs.symm.trans hn) hflag
    | refuses n₀ other hreg hflag hregs hother =>
      rw [hregs] at hn
      by_cases hnn : n = n₀
      · subst hnn
        obtain rfl := Option.some.inj (hreg.symm.trans hn)
        rw [hflag, announced_step hI h (hI.registered n other hn)]
      · exact hold hn (hother n hnn)
  · by_cases hloop : ∃ W₀ o, e = .run (.msgLoop W₀) o
    · obtain ⟨W₀, o, rfl⟩ := hloop
      refine hkeeps ?_
      cases h with
      | msgLoop _ hrule => exact hrule.keepsFlags
    · refine hkeeps ?_
      rw [registry_frame h (fun W o he => hshake ⟨W, o, he⟩) fun W o he => hloop ⟨W, o, he⟩]
      exact .refl _

/-- A connection object has the flag of its agent after a step. -/
theorem supports_binary_step (hI : RegistryInv s)
    (hF : ∀ n W, s.relay.registered_agent_connections n = some W →
      (s.relay.agent_connection_id_to_supports_binary n).getD false = s.relay.announced W)
    (hC : ∀ c connection, s.relay.connection c = some connection →
      connection.agent_supports_binary = s.relay.announced connection.agent_connection)
    (h : RelayRule cfg s e s') (c : ConnectionId) (connection : TcpConnection)
    (hc : s'.relay.connection c = some connection) :
    connection.agent_supports_binary = s'.relay.announced connection.agent_connection := by
  cases hold : s.relay.connection c with
  | none =>
    obtain ⟨⟨n, hreg, hflag⟩, -⟩ := connection_new h hold hc
    rw [hflag, announced_step hI h (hI.registered n _ hreg)]
    exact hF n _ hreg
  | some connection₀ =>
    obtain ⟨connection₁, hc₁, hid⟩ := h.evolves.connection c connection₀ hold
    obtain rfl := Option.some.inj (hc₁.symm.trans hc)
    simp only [TcpConnection.identity, Prod.mk.injEq] at hid
    obtain ⟨n, hn⟩ := hI.connection c connection₀ hold
    rw [hid.2.2.1, hid.2.1, announced_step hI h hn]
    exact hC c connection₀ hold

/-- Binary frames come from connections with binary framing. -/
theorem Addressed.bytes {r : NetworkRelay} {W : AgentSocket} {data : Bytes}
    (h : Addressed r W (.bytes data)) : ∃ c connection, r.connection c = some connection ∧
      connection.agent_connection = W ∧ connection.agent_supports_binary = true := by
  generalize hm : ToAgent.bytes data = m at h
  cases h with
  | @data c connection content m hc hdata =>
    refine ⟨c, connection, hc, rfl, ?_⟩
    subst hm
    by_contra hbinary
    simp [TcpConnection.dataMessage, hbinary] at hdata
  | keepAlive | close | request => cases hm

/-- In a run of handshakes that keep the flags, the framing in use is the one that was announced. -/
theorem framing_agrees (hattr : cfg.closed_attribute = true)
    (h : Reaches (step cfg) (NegotiatesFlags · ·) {} s) : FramingAgrees s := by
  have hinv : (∀ n W, s.relay.registered_agent_connections n = some W →
      (s.relay.agent_connection_id_to_supports_binary n).getD false = s.relay.announced W) ∧
      ∀ c connection, s.relay.connection c = some connection →
        connection.agent_supports_binary = s.relay.announced connection.agent_connection := by
    refine h.invariant (I := fun s => (∀ n W, s.relay.registered_agent_connections n = some W →
      (s.relay.agent_connection_id_to_supports_binary n).getD false = s.relay.announced W) ∧
      ∀ c connection, s.relay.connection c = some connection →
        connection.agent_supports_binary = s.relay.announced connection.agent_connection)
      ⟨by simp, by simp⟩ fun s e s' hr hok hstep hinv => ?_
    have hI := registryInv hr
    have hrule := step_rule hstep
    exact ⟨flag_step hattr hI hinv.1 hok hrule, supports_binary_step hI hinv.1 hinv.2 hrule⟩
  refine ⟨hinv.1, hinv.2, fun W data hdata => ?_⟩
  obtain ⟨c, connection, hc, rfl, hbinary⟩ := ((outgoing h).sent W _ hdata).bytes
  exact (hinv.2 c connection hc).symm.trans hbinary

/-- An agent with binary frames, and data of an access client for it. A duplicate with the same flag
is refused, the agent dies, and an agent without binary frames takes its place. -/
def replaceBinary : List RelayEvent :=
  registerAgent ⟨0⟩ "agent" true ++ requestConnection ⟨0⟩ "agent" someConnection ++
    answerOK ⟨0⟩ ⟨0⟩ someConnection ++
    [.run (.client ⟨0⟩) .ok, .run (.client ⟨0⟩) (.frame (.bytes [1, 2]))] ++
    registerAgent ⟨1⟩ "agent" true ++ [.agentDies ⟨0⟩] ++ registerAgent ⟨2⟩ "agent" false ++
    [.run (.client ⟨0⟩) .ok, .run (.handshake ⟨2⟩) .ok, .run (.handshake ⟨2⟩) .ok,
      .run (.handshake ⟨2⟩) .ok]

/-- The state after the second agent has replaced the first. -/
def replacedAgent : RelayState :=
  (runWith (step plainConfig) (NegotiatesFlags · ·) {} replaceBinary).get (by decide +kernel)

/-- The first agent has got data in binary frames, and the flag is that of the second. -/
theorem replacedAgent_framing_agrees :
    replacedAgent.relay.registered_agent_connections "agent" = some ⟨2⟩ ∧
      .bytes [0, 0, 0, 0, 0, 0, 64, 0, 128, 0, 0, 0, 0, 0, 0, 0, 1, 2] ∈
        replacedAgent.relay.to_agent ⟨0⟩ ∧ FramingAgrees replacedAgent :=
  ⟨by decide +kernel, by decide +kernel,
    framing_agrees rfl (Reaches.init.of_runWith (Option.some_get _).symm)⟩

/-- An agent with binary frames is registered, and a second one without is refused under its id. -/
def refusedDuplicate : RelayState :=
  (run (step plainConfig) {} (registerAgent ⟨0⟩ "agent" true ++
    registerAgent ⟨1⟩ "agent" false)).get
    (by decide +kernel)

/-- The first agent is registered still, under the flag of the second. -/
theorem refusedDuplicate_framing_disagrees :
    ¬ ∀ cfg s, cfg.closed_attribute = true → Reaches (step cfg) (fun _ _ => True) {} s →
      FramingAgrees s := by
  intro h
  have hreach : Reaches (step plainConfig) (fun _ _ => True) {} refusedDuplicate :=
    Reaches.init.of_run (fun _ _ _ => trivial) (Option.some_get _).symm
  have hflag := (h plainConfig refusedDuplicate rfl hreach).flag "agent" ⟨0⟩ rfl
  exact absurd hflag (by decide +kernel)

end HttpNetworkRelay
