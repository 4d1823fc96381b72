import HttpNetworkRelay.Relay.Closes
import HttpNetworkRelay.Relay.Ownership
import HttpNetworkRelay.Relay.Registry

/-!
# Closing the registration of an agent

`TeardownMoved` says what a step of a task does with the `edge_agent_connection_close` that the task
is in, or calls, and with the registrations. `TearingInv` is the invariant of such a close: its
websocket is neither registered nor listed any more, and its active connections are among those that
are still to be closed.
-/

namespace HttpNetworkRelay

open Asyncio Python RelayState NetworkRelay

/-! ## How a close of a registration ends -/

namespace EdgeAgentConnectionClose

/-- Whether `edge_agent_connection_close`, resumed with `o`, returns. -/
def completes (r : NetworkRelay) (pc : EdgeAgentConnectionClose) (o : Outcome) : Bool :=
  pc.rest.isEmpty &&
    match pc.pc with
    | .informing (.acquiring _) => false
    | .informing (.sending _) =>
      o.passes && (r.active_access_client_connections pc.current).isNone
    | .closingClient => o.closes

/-- Whether `edge_agent_connection_close`, resumed with `o`, raises. -/
def raises (pc : EdgeAgentConnectionClose) (o : Outcome) : Bool :=
  match pc.pc with
  | .informing (.acquiring _) => false
  | .informing (.sending _) => !o.passes
  | .closingClient => !o.closes

end EdgeAgentConnectionClose

section

variable {r r' : NetworkRelay} {pc : EdgeAgentConnectionClose} {o : Outcome}

/-- A teardown that returns has come to its end. -/
theorem TeardownStep.completes (h : TeardownStep r pc o r' (.returned ())) :
    pc.completes r o = true := by
  obtain ⟨ws, current, point, rest⟩ := pc
  generalize hres : Res.returned () = res at h
  cases h with
  | done h hrest =>
    subst hrest
    cases h with
    | dropsUnattached ho _ _ hA =>
      dsimp only at hA
      simp [EdgeAgentConnectionClose.completes, passes_of ho, hA]
    | drops ho => simp [EdgeAgentConnectionClose.completes, closes_of ho]
  | inside | next | fails => cases hres

/-- A teardown that raises has been given an exception that its close does not catch. -/
theorem TeardownStep.raises {e : Exc} (h : TeardownStep r pc o r' (.raised e)) :
    pc.raises o = true := by
  obtain ⟨ws, current, point, rest⟩ := pc
  generalize hres : Res.raised e = res at h
  cases h with
  | fails h =>
    cases h with
    | informingFails he => simp [EdgeAgentConnectionClose.raises, Outcome.passes, he]
    | closingFails he => simp [EdgeAgentConnectionClose.raises, Outcome.closes, he]
  | inside | next | done => cases hres

/-- The connections that are active when the close returns were active before, and the one that it
was closing is not among them. -/
theorem TeardownStep.returned (h : TeardownStep r pc o r' (.returned ())) :
    pc.rest = [] ∧ pc.current ∉ r'.active_relayed_connections := by
  obtain ⟨ws, current, point, rest⟩ := pc
  generalize hres : Res.returned () = res at h
  cases h with
  | done h hrest =>
    refine ⟨hrest, ?_⟩
    cases h with
    | dropsUnattached | drops => simp
  | inside | next | fails => cases hres

/-- The close goes on with the connections that it had still to close. -/
theorem TeardownStep.remaining {pc' : EdgeAgentConnectionClose}
    (h : TeardownStep r pc o r' (.parked pc')) {c : ConnectionId}
    (hc : c ∈ r'.active_relayed_connections) (hpc : c = pc.current ∨ c ∈ pc.rest) :
    c = pc'.current ∨ c ∈ pc'.rest := by
  obtain ⟨ws, current, point, rest⟩ := pc
  generalize hres : Res.parked pc' = res at h
  cases h with
  | inside h =>
    cases hres
    exact hpc
  | next h hrest same =>
    cases hres
    rw [same.active] at hc
    subst hrest
    -- The current connection has been dropped, so `c` is one of the others.
    have hne : c ≠ current := by
      rintro rfl
      cases h with
      | dropsUnattached | drops => simp at hc
    simpa [hne] using hpc
  | done | fails => cases hres

end

/-! ## What a step does with it -/

variable {cfg : RelayConfig} {s s' : RelayState} {e : RelayEvent}

/-- The task `t`, resumed with `o`, calls `edge_agent_connection_close` for the id `n`. -/
inductive Calls (cfg : RelayConfig) (s : RelayState) : Task → Outcome → AgentId → Prop
  | disconnect {W n o} (hpc : s.msgLoop W = some ⟨n, .receiving⟩)
      (ho : o = .disconnect ∨ o = .raised .webSocketDisconnect) : Calls cfg s (.msgLoop W) o n
  | eviction {W m n other} (hpc : s.handshake W = some (.checking m))
      (hattr : cfg.closed_attribute = true)
      (hreg : s.relay.registered_agent_connections n = some other)
      (hdead : s.relay.agent_dead other = true) : Calls cfg s (.handshake W) (.permit (some n)) n

/-- How a step of the task `t` changes the close that `t` is in and the registrations. -/
inductive TeardownMoved (cfg : RelayConfig) (s : RelayState) (t : Task) (o : Outcome)
    (s' : RelayState) : Prop
  | outside (hpc : s.tearing? t = none) (hpc' : s'.tearing? t = none)
      (hreg : ∀ n W, s.relay.registered_agent_connections n = some W →
        s'.relay.registered_agent_connections n = some W)
  /-- It is called and returns at once, as there is nothing to close. -/
  | idles (n : AgentId) (W : AgentSocket) (hpc : s.tearing? t = none) (hpc' : s'.tearing? t = none)
      (hcalls : Calls cfg s t o n) (hreg : s.relay.registered_agent_connections n = some W)
      (hsnap : s.relay.active_relayed_connections.filter (s.relay.belongsTo W) = [])
      (hlist : s'.relay.agent_connections = s.relay.agent_connections.erase W)
      (hother : ∀ n' W', W' ≠ W → s.relay.registered_agent_connections n' = some W' →
        s'.relay.registered_agent_connections n' = some W')
      (hactive : s'.relay.active_relayed_connections = s.relay.active_relayed_connections)
  /-- It is called. -/
  | starts (n : AgentId) (pc' : EdgeAgentConnectionClose) (hpc : s.tearing? t = none)
      (hpc' : s'.tearing? t = some pc') (hcalls : Calls cfg s t o n)
      (hreg : s.relay.registered_agent_connections n = some pc'.agent_connection)
      (hsnap : s.relay.active_relayed_connections.filter
        (s.relay.belongsTo pc'.agent_connection) = pc'.current :: pc'.rest)
      (hregs : s'.relay.registered_agent_connections =
        Function.update s.relay.registered_agent_connections n none)
      (hlist : s'.relay.agent_connections =
        s.relay.agent_connections.erase pc'.agent_connection)
      (hactive : s'.relay.active_relayed_connections = s.relay.active_relayed_connections)
  | moves (pc pc' : EdgeAgentConnectionClose) (hpc : s.tearing? t = some pc)
      (hpc' : s'.tearing? t = some pc') (h : TeardownStep s.relay pc o s'.relay (.parked pc'))
  | raises (pc : EdgeAgentConnectionClose) (hpc : s.tearing? t = some pc)
      (hpc' : s'.tearing? t = none) (hraises : pc.raises o = true)
      (hregs : s'.relay.registered_agent_connections = s.relay.registered_agent_connections)
  | returns (pc : EdgeAgentConnectionClose) (r' : NetworkRelay) (hpc : s.tearing? t = some pc)
      (hpc' : s'.tearing? t = none) (h : TeardownStep s.relay pc o r' (.returned ()))
      (hactive : s'.relay.active_relayed_connections = r'.active_relayed_connections)
      (hregs : s'.relay.registered_agent_connections = s.relay.registered_agent_connections ∨
        ∃ W m n, t = .handshake W ∧ s.handshake W = some (.evicting m n pc) ∧
          s'.relay.registered_agent_connections =
            Function.update s.relay.registered_agent_connections n (some W))

/-- The message loop of `W` in a state that it is set to. -/
theorem tearing_setMsgLoop (s : RelayState) (W : AgentSocket) (n : AgentId) (pc : MsgLoop) :
    (s.setMsgLoop W ⟨n, pc⟩).tearing? (.msgLoop W) =
      match pc with
      | .tearingDown pc => some pc
      | _ => none := by
  cases pc <;> simp [tearing?]

/-- The handshake of `W` in a state that it is set to. -/
theorem tearing_setHandshake (s : RelayState) (W : AgentSocket) (pc : Handshake) :
    (s.setHandshake W pc).tearing? (.handshake W) =
      match pc with
      | .evicting _ _ pc => some pc
      | _ => none := by
  cases pc <;> simp [tearing?]

/-- The registrations after the close of one of them. -/
theorem deregistered_registered {r : NetworkRelay} {n : AgentId} {W : AgentSocket}
    (hreg : r.registered_agent_connections n = some W) :
    (r.deregistered n).registered_agent_connections =
        Function.update r.registered_agent_connections n none ∧
      (r.deregistered n).agent_connections = r.agent_connections.erase W := by
  rw [deregistered, hreg]
  exact ⟨rfl, rfl⟩

/-- The other websockets stay registered. -/
theorem registered_update {f : AgentId → Option AgentSocket} {n n' : AgentId} {W W' : AgentSocket}
    (hreg : f n = some W) (hne : W' ≠ W) (hn' : f n' = some W') (o : Option AgentSocket) :
    Function.update f n o n' = some W' := by
  have hnn : n' ≠ n := by
    rintro rfl
    exact hne (Option.some.inj (hn'.symm.trans hreg))
  rw [Function.update_of_ne hnn]
  exact hn'

/-- What a step of a message loop does to its teardown. -/
theorem MsgLoopRule.teardown {W : AgentSocket} {n : AgentId} {pc : MsgLoop} {o : Outcome}
    (hpc : s.msgLoop W = some ⟨n, pc⟩) (h : MsgLoopRule cfg s W n pc o s') :
    TeardownMoved cfg s (.msgLoop W) o s' := by
  -- A loop at any other point is in no teardown.
  have hbefore : (∀ t, pc ≠ .tearingDown t) → s.tearing? (.msgLoop W) = none := by
    intro hnot
    cases pc <;> simp_all [tearing?]
  cases h with
  | @disconnects _ r' res ho h =>
    have hnone := hbefore (by simp)
    have hcalls : Calls cfg s (.msgLoop W) o n := .disconnect hpc ho
    have hregistry := h.registry.1
    have hactive := h.active
    cases h with
    -- The id has no entry any more, and the close returns without a step.
    | unregistered hreg =>
      refine .outside hnone (by rw [tornDown, tearing_setMsgLoop]) fun n' W' hn' => ?_
      have hne : n' ≠ n := by
        rintro rfl
        rw [hreg] at hn'
        cases hn'
      simp [tornDown, hne, hn']
    | @idle ws hreg hsnap =>
      refine .idles n ws hnone (by rw [tornDown, tearing_setMsgLoop]) hcalls hreg hsnap rfl
        (fun n' W' hne hn' => ?_) rfl
      exact registered_update hreg hne hn' none
    | @starts ws c rest r' send hreg hsnap same =>
      obtain ⟨hregs, hlist⟩ := deregistered_registered hreg
      have hafter : (s.tornDown W n (r', .parked ⟨ws, c, .informing send, rest⟩)).tearing?
          (.msgLoop W) = some ⟨ws, c, .informing send, rest⟩ := by
        rw [tornDown, tearing_setMsgLoop]
      exact .starts n _ hnone hafter hcalls hreg hsnap
        ((congrArg AgentRegistry.registered_agent_connections hregistry).trans hregs)
        ((congrArg AgentRegistry.agent_connections hregistry).trans hlist) hactive
  -- A teardown in progress has removed its registration before, and makes no other change to it.
  | @tearingDown pc _ r' res h =>
    have hcurrent : s.tearing? (.msgLoop W) = some pc := by simp [tearing?, hpc]
    have hregs := congrArg AgentRegistry.registered_agent_connections h.registry.1
    cases res with
    | parked pc' => exact .moves pc pc' hcurrent (by rw [tornDown, tearing_setMsgLoop]) h
    | returned a =>
      exact .returns pc r' hcurrent (by rw [tornDown, tearing_setMsgLoop]) h rfl (.inl hregs)
    | raised e =>
      exact .raises pc hcurrent (by rw [tornDown, tearing_setMsgLoop]) h.raises hregs
  | receives _ h =>
    have hreg := congrArg AgentRegistry.registered_agent_connections h.same.1.1
    refine .outside (hbefore (by simp)) ?_ fun n' W' hn' => (congrFun hreg n').trans hn'
    cases h <;> rw [tearing_setMsgLoop]
  | @resetting c pc connection _ r' res _ h =>
    have hreg := congrArg AgentRegistry.registered_agent_connections h.registry.1
    refine .outside (hbefore (by simp)) ?_ fun n' W' hn' => (congrFun hreg n').trans hn'
    rw [resetHandled, tearing_setMsgLoop]
    cases res <;> rfl
  | receiveFails | puts | customHandled =>
    exact .outside (hbefore (by simp)) (by rw [tearing_setMsgLoop]) fun _ _ hn' => hn'

/-- What a step of a handshake does to its teardown. -/
theorem HandshakeRule.teardown {W : AgentSocket} {pc : Handshake} {o : Outcome}
    (hpc : s.handshake W = some pc) (h : HandshakeRule cfg s W pc o s') :
    TeardownMoved cfg s (.handshake W) o s' := by
  -- Only an evicting handshake is in a teardown.
  have hbefore : (∀ m n t, pc ≠ .evicting m n t) → s.tearing? (.handshake W) = none := by
    intro hnot
    cases pc <;> simp_all [tearing?]
  cases h with
  | @evicts m n other r' res hn hreg hattr hdead h =>
    have hnone := hbefore (by simp)
    have hcalls : Calls cfg s (.handshake W) (.permit (some n)) n := .eviction hpc hattr hreg hdead
    have hregistry := h.registry.1
    have hactive := h.active
    cases h with
    | unregistered hfree =>
      have hfree : s.relay.registered_agent_connections n = none := hfree
      rw [hreg] at hfree
      cases hfree
    | @idle ws hws hsnap =>
      refine .idles n ws hnone (by simp [tearing?, evicted, openAgent]) hcalls hws hsnap rfl ?_ rfl
      intro n' W' hne hn'
      have hnone := registered_update hws hne hn' none
      -- The id of the evicted agent goes over to the new one, and no other id changes.
      have hnn : n' ≠ n := by
        rintro rfl
        simp at hnone
      simpa [evicted, openAgent, hnn] using hn'
    | @starts ws c rest r' send hws hsnap same =>
      obtain ⟨hregs, hlist⟩ := deregistered_registered hws
      have hws' : s.relay.registered_agent_connections n = some ws := hws
      exact .starts n ⟨ws, c, .informing send, rest⟩ hnone (by simp [tearing?, evicted]) hcalls hws'
        hsnap ((congrArg AgentRegistry.registered_agent_connections hregistry).trans hregs)
        ((congrArg AgentRegistry.agent_connections hregistry).trans hlist) hactive
  | @evicting m n pc _ r' res h =>
    have hcurrent : s.tearing? (.handshake W) = some pc := by simp [tearing?, hpc]
    have hregs := congrArg AgentRegistry.registered_agent_connections h.registry.1
    cases res with
    | parked pc' => exact .moves pc pc' hcurrent (by simp [tearing?, evicted]) h
    | returned a =>
      refine .returns pc r' hcurrent (by simp [tearing?, evicted, openAgent]) h rfl
        (.inr ⟨W, m, n, rfl, hpc, ?_⟩)
      have hopen : (s.evicted W m n (r', .returned a)).relay.registered_agent_connections =
          Function.update r'.registered_agent_connections n (some W) := rfl
      rw [hopen, hregs]
    | raised e => exact .raises pc hcurrent (by simp [tearing?, evicted]) h.raises hregs
  | @opens m n _ hfree =>
    refine .outside (hbefore (by simp)) (by simp [tearing?, openAgent]) fun n' W' hn' => ?_
    have hne : n' ≠ n := by
      rintro rfl
      rw [hfree] at hn'
      cases hn'
    simp [openAgent, hne, hn']
  | @receives frame =>
    refine .outside (hbefore (by simp)) ?_ fun _ _ hn' => hn'
    rw [tearing_setHandshake]
    rcases startReceived_cases cfg frame with ⟨result, heq, -⟩ | ⟨m, heq, -⟩ <;> rw [heq]
  | accepts | refuses | duplicate | noAttribute =>
    exact .outside (hbefore (by simp)) (by rw [tearing_setHandshake]) fun _ _ hn' => hn'
  | ends hne =>
    exact .outside (hbefore hne) (by rw [tearing_setHandshake]) fun _ _ hn' => hn'

/-- A message loop that takes no step stays where it is, or has just been created. -/
theorem msgLoop_stays (hI : RegistryInv s) (h : RelayRule cfg s e s') {W : AgentSocket}
    (hrun : ∀ o, e ≠ .run (.msgLoop W) o) :
    s'.msgLoop W = s.msgLoop W ∨
      s.msgLoop W = none ∧ ∃ n, s'.msgLoop W = some ⟨n, .receiving⟩ := by
  by_cases hshake : ∃ o, e = .run (.handshake W) o
  · obtain ⟨o, rfl⟩ := hshake
    cases h with
    | @handshake _ pc _ _ hpc h =>
      -- The handshake creates the message loop, which has not been there.
      have hnone : s.msgLoop W = none := by
        cases hloop : s.msgLoop W with
        | none => rfl
        | some task =>
          obtain rfl := Option.some.inj ((hI.msgLoop W task hloop).symm.trans hpc)
          cases h with
          | ends _ hpc' => exact absurd rfl (hpc' _)
      cases h.moved with
      | accepted _ _ _ _ hloop | received _ _ _ _ _ hloop | left _ _ _ _ _ hloop
      | evicts _ _ _ _ _ _ _ hloop => exact .inl (by rw [hloop])
      | opened _ _ n _ _ _ _ _ hloop => exact .inr ⟨hnone, n, by simp [hloop]⟩
  · exact .inl (msgLoop_frame h (fun o he => hshake ⟨o, he⟩) hrun)

/-- A handshake that takes no step stays where it is, or has just been created. -/
theorem handshake_stays (h : RelayRule cfg s e s') {W : AgentSocket}
    (hrun : ∀ o, e ≠ .run (.handshake W) o) :
    s'.handshake W = s.handshake W ∨
      s.handshake W = none ∧ s'.handshake W = some .accepting := by
  by_cases hconn : e = .agentConnects W
  · subst hconn
    cases h with
    | agentConnects hnone => exact .inr ⟨hnone, by simp⟩
  · exact .inl (handshake_frame h hrun hconn)

/-- A task is in another close of a registration only after its own step. -/
theorem tearing_frame (hI : RegistryInv s) (h : RelayRule cfg s e s') {t : Task}
    (hrun : ∀ o, e ≠ .run t o) : s'.tearing? t = s.tearing? t := by
  cases t with
  | handshake W =>
    rcases handshake_stays h hrun with hsame | ⟨hnone, hnew⟩
    · simp only [tearing?, hsame]
    · simp only [tearing?, hnone, hnew]
  | msgLoop W =>
    rcases msgLoop_stays hI h hrun with hsame | ⟨hnone, n, hnew⟩
    · simp only [tearing?, hsame]
    · simp only [tearing?, hnone, hnew]
  | _ => rfl

/-- A task is in another close of a connection only after its own step. -/
theorem closing_frame {ok : RelayState → RelayEvent → Prop} (hr : Reaches (step cfg) ok {} s)
    (h : RelayRule cfg s e s') {t : Task} (hrun : ∀ o, e ≠ .run t o) :
    s'.closing? t = s.closing? t := by
  cases t with
  | handshake W =>
    rcases handshake_stays h hrun with hsame | ⟨hnone, hnew⟩
    · simp only [closing?, hsame]
    · simp only [closing?, hnone, hnew]
  | msgLoop W =>
    rcases msgLoop_stays (registryInv hr) h hrun with hsame | ⟨hnone, n, hnew⟩
    · simp only [closing?, hsame]
    · simp only [closing?, hnone, hnew]
  | client A =>
    by_cases hconn : e = .clientConnects A
    · subst hconn
      cases h with
      | clientConnects hnone => simp [closing?, hnone]
    · simp only [closing?, client_frame h hrun hconn]
  | closer k =>
    rcases closer_frame h hrun with hsame | ⟨rfl, c, ws, hnew⟩
    · simp only [closing?, hsame]
    · have hnone := closer_never_created hr s.closers_created le_rfl
      simp only [closing?, hnone, hnew]
  | _ => rfl

/-- A step of the task `t` that is in a close, or calls one. -/
theorem teardown_of_run {t : Task} {o : Outcome} (h : RelayRule cfg s (.run t o) s')
    (ht : (∃ W, t = .handshake W) ∨ ∃ W, t = .msgLoop W) : TeardownMoved cfg s t o s' := by
  rcases ht with ⟨W, rfl⟩ | ⟨W, rfl⟩
  · cases h with
    | handshake hpc h => exact h.teardown hpc
  · cases h with
    | msgLoop hpc h => exact h.teardown hpc

/-- Only handshakes and message loops are in a teardown. -/
theorem tearing_task {t : Task} {pc : EdgeAgentConnectionClose} (h : s.tearing? t = some pc) :
    (∃ W, t = .handshake W) ∨ ∃ W, t = .msgLoop W := by
  cases t with
  | handshake W => exact .inl ⟨W, rfl⟩
  | msgLoop W => exact .inr ⟨W, rfl⟩
  | _ => cases h

/-- A close that is running goes on for the same websocket, or ends. -/
theorem tearing_goes_on (hI : RegistryInv s) (h : RelayRule cfg s e s') {t : Task}
    {pc : EdgeAgentConnectionClose} (hpc : s.tearing? t = some pc) :
    (∃ pc', s'.tearing? t = some pc' ∧ pc'.agent_connection = pc.agent_connection) ∨
      ∃ o, e = .run t o ∧ (pc.completes s.relay o = true ∨ pc.raises o = true) := by
  by_cases hrun : ∃ o, e = .run t o
  · obtain ⟨o, rfl⟩ := hrun
    cases teardown_of_run h (tearing_task hpc) with
    | outside hnone | idles _ _ hnone | starts _ _ hnone =>
      rw [hpc] at hnone
      cases hnone
    | moves pc₀ pc' hpc₀ hpc' h =>
      obtain rfl := Option.some.inj (hpc₀.symm.trans hpc)
      exact .inl ⟨pc', hpc', h.parked.1⟩
    | raises pc₀ hpc₀ _ hraises =>
      obtain rfl := Option.some.inj (hpc₀.symm.trans hpc)
      exact .inr ⟨o, rfl, .inr hraises⟩
    | returns pc₀ _ hpc₀ _ h =>
      obtain rfl := Option.some.inj (hpc₀.symm.trans hpc)
      exact .inr ⟨o, rfl, .inl h.completes⟩
  · exact .inl ⟨pc, (tearing_frame hI h fun o he => hrun ⟨o, he⟩).trans hpc, rfl⟩

/-- A websocket that is registered stays so, or its registration is closed or overwritten. -/
theorem registered_goes_on (h : RelayRule cfg s e s') {n : AgentId} {W : AgentSocket}
    (hreg : s.relay.registered_agent_connections n = some W) :
    (∃ n, s'.relay.registered_agent_connections n = some W) ∨
      (∃ t o n₀, e = .run t o ∧ Calls cfg s t o n₀ ∧
        s.relay.registered_agent_connections n₀ = some W ∧
        ((∃ pc', s'.tearing? t = some pc' ∧ pc'.agent_connection = W) ∨
          s.relay.active_relayed_connections.filter (s.relay.belongsTo W) = [])) ∨
      ∃ W₀ o m n₀ pc, e = .run (.handshake W₀) o ∧ s.handshake W₀ = some (.evicting m n₀ pc) ∧
        pc.completes s.relay o = true ∧ s.relay.registered_agent_connections n₀ = some W := by
  by_cases hrun : ∃ t o, e = .run t o ∧ ((∃ W, t = .handshake W) ∨ ∃ W, t = .msgLoop W)
  · obtain ⟨t, o, rfl, ht⟩ := hrun
    cases teardown_of_run h ht with
    | outside _ _ hkeeps => exact .inl ⟨n, hkeeps n W hreg⟩
    | idles n₀ W₀ _ _ hcalls hreg₀ hsnap _ hother =>
      -- It is the registration of `W` that is closed, or that of another websocket.
      by_cases hWW : W = W₀
      · subst hWW
        exact .inr (.inl ⟨t, o, n₀, rfl, hcalls, hreg₀, .inr hsnap⟩)
      · exact .inl ⟨n, hother n W hWW hreg⟩
    | starts n₀ pc' _ hpc' hcalls hreg₀ _ hregs =>
      by_cases hWW : W = pc'.agent_connection
      · subst hWW
        exact .inr (.inl ⟨t, o, n₀, rfl, hcalls, hreg₀, .inl ⟨pc', hpc', rfl⟩⟩)
      · refine .inl ⟨n, ?_⟩
        rw [hregs]
        exact registered_update hreg₀ hWW hreg none
    | moves pc pc' _ _ h =>
      have hsame := congrArg AgentRegistry.registered_agent_connections h.registry.1
      exact .inl ⟨n, (congrFun hsame n).trans hreg⟩
    | raises pc _ _ _ hregs => exact .inl ⟨n, (congrFun hregs n).trans hreg⟩
    -- A handshake whose eviction has returned registers its own websocket.
    | returns pc r' _ _ hstep _ hregs =>
      rcases hregs with hsame | ⟨W₀, m, n₀, rfl, hpc, hregs⟩
      · exact .inl ⟨n, (congrFun hsame n).trans hreg⟩
      · by_cases hnn : n = n₀
        · subst hnn
          exact .inr (.inr ⟨W₀, o, m, n, pc, rfl, hpc, hstep.completes, hreg⟩)
        · exact .inl ⟨n, by rw [hregs, Function.update_of_ne hnn]; exact hreg⟩
  · have hsame := registry_frame h (fun W o he => hrun ⟨_, o, he, .inl ⟨W, rfl⟩⟩)
      fun W o he => hrun ⟨_, o, he, .inr ⟨W, rfl⟩⟩
    exact .inl ⟨n, by rw [hsame]; exact hreg⟩

end HttpNetworkRelay
