import HttpNetworkRelay.Relay.Teardown

/-!
# The end of an agent's session

`_msg_loop` closes the registration of its agent when it receives a disconnect, and only then: a
frame that it does not survive ends it without the close, and an exception that leaves the close
ends it half-way. `OrderlyLoops` excludes these ends; `sessions_end_closed` shows that then a
message loop that has ended leaves nothing of its websocket behind.
-/

namespace HttpNetworkRelay

open Asyncio Python RelayState NetworkRelay

/-- The websocket is neither registered nor listed. -/
def Unlisted (r : NetworkRelay) (W : AgentSocket) : Prop :=
  (∀ n, r.registered_agent_connections n ≠ some W) ∧ W ∉ r.agent_connections

/-- Nothing refers to the websocket any more. -/
structure Gone (r : NetworkRelay) (W : AgentSocket) : Prop where
  unlisted : Unlisted r W
  active : ∀ c ∈ r.active_relayed_connections, r.belongsTo W c = false

/-- A message loop ends with a disconnect that finds its own registration, or finds that it has been
closed before, and the close raises nothing. -/
def OrderlyLoops (cfg : RelayConfig) (s : RelayState) : RelayEvent → Bool
  | .run (.msgLoop W) o =>
    match s.msgLoop W with
    | some ⟨n, .receiving⟩ =>
      match o with
      | .next => (s.relay.inbox W).head?.all fun frame => !frame.malformed cfg
      | .disconnect | .raised .webSocketDisconnect =>
        s.relay.registered_agent_connections n = some W ||
          (!s.relay.agent_connections.contains W &&
            s.relay.active_relayed_connections.all fun c => !s.relay.belongsTo W c)
      | .raised _ => false
      | _ => true
    | some ⟨_, .tearingDown pc⟩ => !pc.raises o
    | _ => true
  | _ => true

variable {cfg : RelayConfig} {s s' : RelayState} {e : RelayEvent}

/-! ## A websocket that is not registered any more -/

/-- A connection stays one of its websocket, and of no other. -/
theorem belongsTo_evolves {r r' : NetworkRelay} (h : Evolves r r') {c : ConnectionId}
    (hc : (r.connection c).isSome = true) (W : AgentSocket) :
    r'.belongsTo W c = r.belongsTo W c := by
  obtain ⟨connection, hconn⟩ := Option.isSome_iff_exists.mp hc
  obtain ⟨connection', hconn', hid⟩ := h.connection c connection hconn
  simp only [TcpConnection.identity, Prod.mk.injEq] at hid
  simp [belongsTo, hconn, hconn', hid.2.1]

/-- A websocket is registered by its handshake only. -/
theorem registered_before (h : RelayRule cfg s e s') {n : AgentId} {W : AgentSocket}
    (hreg : s'.relay.registered_agent_connections n = some W) :
    (∃ n', s.relay.registered_agent_connections n' = some W) ∨ ∃ o, e = .run (.handshake W) o := by
  -- Where the registry only loses entries, the entry was there before.
  have hshrinks : Shrinks s.relay.toAgentRegistry s'.relay.toAgentRegistry →
      ∃ n', s.relay.registered_agent_connections n' = some W := fun hold =>
    ⟨n, hold.1 n W hreg⟩
  by_cases hshake : ∃ W₀ o, e = .run (.handshake W₀) o
  · obtain ⟨W₀, o, rfl⟩ := hshake
    cases h with
    | handshake _ h =>
      cases h.moved with
      | accepted _ _ hold =>
        rw [hold] at hreg
        exact .inl ⟨n, hreg⟩
      | received _ _ _ hold =>
        rw [hold] at hreg
        exact .inl ⟨n, hreg⟩
      | left _ _ _ hold | evicts _ _ _ _ _ hold => exact .inl (hshrinks hold)
      -- The handshake registers its own websocket under the id that was granted.
      | opened r m n₀ _ _ hold hopen =>
        rw [hopen] at hreg
        by_cases hn : n = n₀
        · obtain rfl : W₀ = W := by simpa [hn] using hreg
          exact .inr ⟨o, rfl⟩
        · exact .inl ⟨n, hold.1 n W (by simpa [hn] using hreg)⟩
  · by_cases hloop : ∃ W₀ o, e = .run (.msgLoop W₀) o
    · obtain ⟨W₀, o, rfl⟩ := hloop
      cases h with
      | msgLoop _ h => exact .inl (hshrinks h.moved.registry)
    · rw [registry_frame h (fun W o he => hshake ⟨W, o, he⟩) fun W o he => hloop ⟨W, o, he⟩] at hreg
      exact .inl ⟨n, hreg⟩

/-- A handshake that takes a step is not over. -/
theorem not_finished_of_run {W : AgentSocket} {o : Outcome}
    (h : RelayRule cfg s (.run (.handshake W) o) s') (result : Except Exc (Option AgentId)) :
    s.handshake W ≠ some (.finished result) := by
  intro hdone
  cases h with
  | handshake hpc h =>
    obtain rfl := Option.some.inj (hpc.symm.trans hdone)
    cases h with
    | ends _ hpc' => exact hpc' result rfl

/-- A websocket whose handshake is over is not registered or listed again. -/
theorem Unlisted.step (h : RelayRule cfg s e s') {W : AgentSocket} {n : AgentId}
    (hdone : s.handshake W = some (.finished (.ok (some n)))) (hW : Unlisted s.relay W) :
    Unlisted s'.relay W := by
  -- A handshake that is over takes no step.
  have hne : ∀ o, e ≠ .run (.handshake W) o := by
    rintro o rfl
    exact not_finished_of_run h _ hdone
  constructor
  · intro n' hn'
    rcases registered_before h hn' with ⟨n₀, hn₀⟩ | ⟨o, he⟩
    · exact hW.1 n₀ hn₀
    · exact hne o he
  · have hshrinks : Shrinks s.relay.toAgentRegistry s'.relay.toAgentRegistry →
        W ∉ s'.relay.agent_connections := fun hreg hmem => hW.2 (hreg.2.subset hmem)
    by_cases hshake : ∃ W₀ o, e = .run (.handshake W₀) o
    · obtain ⟨W₀, o, rfl⟩ := hshake
      cases h with
      | handshake _ h =>
        cases h.moved with
        -- An accepted websocket is appended to the list, and this is another one.
        | accepted _ _ hreg =>
          have hWW : W ≠ W₀ := by
            rintro rfl
            exact hne o rfl
          rw [hreg]
          simp only [appendAgent, List.mem_append, List.mem_singleton, not_or]
          exact ⟨hW.2, hWW⟩
        | received _ _ _ hreg =>
          rw [hreg]
          exact hW.2
        | left _ _ _ hreg | evicts _ _ _ _ _ hreg => exact hshrinks hreg
        | opened r m n₀ _ _ hreg hopen =>
          rw [hopen]
          exact fun hmem => hW.2 (hreg.2.subset hmem)
    · by_cases hloop : ∃ W₀ o, e = .run (.msgLoop W₀) o
      · obtain ⟨W₀, o, rfl⟩ := hloop
        cases h with
        | msgLoop _ h => exact hshrinks h.moved.registry
      · rw [registry_frame h (fun W o he => hshake ⟨W, o, he⟩)
          fun W o he => hloop ⟨W, o, he⟩]
        exact hW.2

/-- It gets no new connections. -/
theorem active_of_unregistered (hO : Ownership s) (h : RelayRule cfg s e s') {W : AgentSocket}
    (hW : ∀ n, s.relay.registered_agent_connections n ≠ some W) {c : ConnectionId}
    (hc : c ∈ s'.relay.active_relayed_connections) (hbelongs : s'.relay.belongsTo W c = true) :
    c ∈ s.relay.active_relayed_connections ∧ s.relay.belongsTo W c = true := by
  rcases h.evolves.active c hc with hold | ⟨hnone, hsome⟩
  · rw [belongsTo_evolves h.evolves (hO.active c hold)] at hbelongs
    exact ⟨hold, hbelongs⟩
  · obtain ⟨connection, hconn⟩ := Option.isSome_iff_exists.mp hsome
    obtain ⟨⟨n, hreg, -⟩, -⟩ := connection_new h hnone hconn
    obtain rfl : connection.agent_connection = W := by simpa [belongsTo, hconn] using hbelongs
    exact absurd hreg (hW n)

/-- What is gone of a websocket stays gone. -/
theorem Gone.step (hO : Ownership s) (h : RelayRule cfg s e s')
    {W : AgentSocket} {n : AgentId} (hdone : s.handshake W = some (.finished (.ok (some n))))
    (hW : Gone s.relay W) : Gone s'.relay W where
  unlisted := hW.unlisted.step h hdone
  active c hc := by
    by_contra hbelongs
    rw [Bool.not_eq_false] at hbelongs
    obtain ⟨hold, hbelongs⟩ := active_of_unregistered hO h hW.unlisted.1 hc hbelongs
    rw [hW.active c hold] at hbelongs
    cases hbelongs

/-! ## Closes in progress -/

/-- The websocket whose registration is being closed is not registered any more, and its active
connections are still to be closed. -/
structure Closing (s : RelayState) (pc : EdgeAgentConnectionClose) : Prop where
  done : ∃ n, s.handshake pc.agent_connection = some (.finished (.ok (some n)))
  unlisted : Unlisted s.relay pc.agent_connection
  remaining : ∀ c ∈ s.relay.active_relayed_connections,
    s.relay.belongsTo pc.agent_connection c = true → c = pc.current ∨ c ∈ pc.rest

/-- A websocket whose registration is closed is not listed any more. -/
theorem unlisted_of_closed (hI : RegistryInv s) {n : AgentId} {W : AgentSocket}
    (hreg : s.relay.registered_agent_connections n = some W)
    (hregs : ∀ n' W', n' ≠ n → s'.relay.registered_agent_connections n' = some W' →
      s.relay.registered_agent_connections n' = some W')
    (hn : s'.relay.registered_agent_connections n ≠ some W)
    (hlist : s'.relay.agent_connections = s.relay.agent_connections.erase W) :
    Unlisted s'.relay W := by
  refine ⟨fun n' hn' => ?_, ?_⟩
  · -- The entry of `n` is removed, and a websocket is registered under one id only.
    by_cases hnn : n' = n
    · subst hnn
      exact hn hn'
    · have hdone := hI.registered n W hreg
      have hdone' := hI.registered n' W (hregs n' W hnn hn')
      rw [hdone] at hdone'
      simp only [Option.some.injEq, Handshake.finished.injEq, Except.ok.injEq] at hdone'
      exact hnn hdone'.symm
  · rw [hlist]
    exact hI.nodup.not_mem_erase

/-- Every close in progress goes on so. -/
theorem Closing.step (hI : RegistryInv s) (hO : Ownership s)
    (hC : ∀ t pc, s.tearing? t = some pc → Closing s pc) (h : RelayRule cfg s e s') {t : Task}
    {pc' : EdgeAgentConnectionClose} (hpc' : s'.tearing? t = some pc') : Closing s' pc' := by
  by_cases hrun : ∃ o, e = .run t o
  · obtain ⟨o, rfl⟩ := hrun
    cases teardown_of_run h (tearing_task hpc') with
    | outside _ hnone | idles _ _ _ hnone | raises _ _ hnone | returns _ _ _ hnone =>
      rw [hpc'] at hnone
      cases hnone
    -- At the call the registration goes, and the snapshot holds all that is left of the websocket.
    | starts n pc₁ _ hpc₁ _ hreg hsnap hregs hlist hactive =>
      obtain rfl := Option.some.inj (hpc₁.symm.trans hpc')
      refine ⟨⟨n, handshake_finished h (hI.registered n _ hreg)⟩, ?_, fun c hc hbelongs => ?_⟩
      · refine unlisted_of_closed hI hreg (fun n' W' hnn hn' => ?_) (by simp [hregs]) hlist
        simpa [hregs, hnn] using hn'
      · rw [hactive] at hc
        rw [belongsTo_evolves h.evolves (hO.active c hc)] at hbelongs
        have hmem := List.mem_filter.mpr ⟨hc, hbelongs⟩
        rw [hsnap] at hmem
        exact List.mem_cons.mp hmem
    -- The teardown's own step drops the current connection or goes on to the next one.
    | moves pc pc₁ hpc hpc₁ hstep =>
      obtain rfl := Option.some.inj (hpc₁.symm.trans hpc')
      obtain ⟨⟨n, hdone⟩, hunlisted, hremaining⟩ := hC t pc hpc
      rw [← hstep.parked.1] at hdone hunlisted hremaining
      refine ⟨⟨n, handshake_finished h hdone⟩, hunlisted.step h hdone, fun c hc hbelongs => ?_⟩
      obtain ⟨hold, hbelongs⟩ := active_of_unregistered hO h hunlisted.1 hc hbelongs
      exact hstep.remaining hc (hremaining c hold hbelongs)
  · -- Other tasks open no connection through an unregistered agent.
    rw [tearing_frame hI h fun o he => hrun ⟨o, he⟩] at hpc'
    obtain ⟨⟨n, hdone⟩, hunlisted, hremaining⟩ := hC t pc' hpc'
    refine ⟨⟨n, handshake_finished h hdone⟩, hunlisted.step h hdone, fun c hc hbelongs => ?_⟩
    obtain ⟨hold, hbelongs⟩ := active_of_unregistered hO h hunlisted.1 hc hbelongs
    exact hremaining c hold hbelongs

/-- What a close of a registration still has to do, in every run. -/
theorem closing_inv {ok : RelayState → RelayEvent → Prop} (h : Reaches (step cfg) ok {} s) :
    ∀ t pc, s.tearing? t = some pc → Closing s pc := by
  refine h.invariant (I := fun s => ∀ t pc, s.tearing? t = some pc → Closing s pc) ?_ ?_
  · intro t pc hpc
    cases t <;> cases hpc
  · intro s e s' hr _ hstep hC t pc' hpc'
    exact Closing.step (registryInv hr) (ownership hr) hC (step_rule hstep) hpc'

/-- A close that returns has left nothing of its websocket behind. -/
theorem gone_of_returned (hO : Ownership s) (hC : ∀ t pc, s.tearing? t = some pc → Closing s pc)
    {t : Task} {o : Outcome} (h : RelayRule cfg s (.run t o) s') {pc : EdgeAgentConnectionClose}
    (hpc : s.tearing? t = some pc) {r' : NetworkRelay}
    (hstep : TeardownStep s.relay pc o r' (.returned ()))
    (hactive : s'.relay.active_relayed_connections = r'.active_relayed_connections) :
    Gone s'.relay pc.agent_connection := by
  obtain ⟨⟨n, hdone⟩, hunlisted, hremaining⟩ := hC t pc hpc
  refine ⟨hunlisted.step h hdone, fun c hc => ?_⟩
  by_contra hbelongs
  rw [Bool.not_eq_false] at hbelongs
  obtain ⟨hold, hbelongs⟩ := active_of_unregistered hO h hunlisted.1 hc hbelongs
  obtain ⟨hrest, hdropped⟩ := hstep.returned
  -- What could be left is the current connection, which is dropped, or the rest, which is empty.
  rcases hremaining c hold hbelongs with rfl | hmem
  · rw [hactive] at hc
    exact hdropped hc
  · rw [hrest] at hmem
    cases hmem

/-! ## Message loops -/

/-- A message loop that has ended, or closes another registration than its own, has been closed. -/
structure LoopEnds (s : RelayState) : Prop where
  finished : ∀ W n result, s.msgLoop W = some ⟨n, .finished result⟩ → Gone s.relay W
  tearingDown : ∀ W n pc, s.msgLoop W = some ⟨n, .tearingDown pc⟩ →
    pc.agent_connection = W ∨ Gone s.relay W

/-- What the condition says of a disconnect. -/
theorem gone_of_disconnect (hI : RegistryInv s) {W : AgentSocket} {n : AgentId} {o : Outcome}
    (hpc : s.msgLoop W = some ⟨n, .receiving⟩)
    (ho : o = .disconnect ∨ o = .raised .webSocketDisconnect)
    (hok : OrderlyLoops cfg s (.run (.msgLoop W) o) = true) :
    s.relay.registered_agent_connections n = some W ∨ Gone s.relay W := by
  by_cases hreg : s.relay.registered_agent_connections n = some W
  · exact .inl hreg
  · -- The loop's websocket is not the registered one: by the condition nothing of it is left.
    have hclosed : W ∉ s.relay.agent_connections ∧
        ∀ c ∈ s.relay.active_relayed_connections, s.relay.belongsTo W c = false := by
      rcases ho with rfl | rfl <;> simpa [OrderlyLoops, hpc, hreg] using hok
    refine .inr ⟨⟨fun n' hn' => ?_, hclosed.1⟩, hclosed.2⟩
    have hdone := (hI.registered n' W hn').symm.trans (hI.msgLoop W _ hpc)
    simp only [Option.some.injEq, Handshake.finished.injEq, Except.ok.injEq] at hdone
    rw [hdone] at hn'
    exact hreg hn'

/-- What `LoopEnds` says of a message loop of `W` at a point. -/
structure MsgLoop.EndsGone (s : RelayState) (W : AgentSocket) (pc : MsgLoop) : Prop where
  finished : ∀ result, pc = .finished result → Gone s.relay W
  tearingDown : ∀ t, pc = .tearingDown t → t.agent_connection = W ∨ Gone s.relay W

namespace MsgLoop.EndsGone

/-- A loop that goes on. -/
theorem of_goes_on {W : AgentSocket} {pc : MsgLoop} (hfinished : ∀ result, pc ≠ .finished result)
    (htearing : ∀ t, pc ≠ .tearingDown t) : pc.EndsGone s W :=
  ⟨fun result hpc => absurd hpc (hfinished result), fun t hpc => absurd hpc (htearing t)⟩

/-- A message loop of a websocket that is gone may end. -/
theorem of_gone {W : AgentSocket} {pc : MsgLoop} (hW : Gone s.relay W) : pc.EndsGone s W :=
  ⟨fun _ _ => hW, fun _ _ => .inr hW⟩

end MsgLoop.EndsGone

/-- A registration without connections is gone as soon as it is removed. -/
theorem gone_of_idle (hI : RegistryInv s) {W : AgentSocket} {n : AgentId}
    (hreg : s.relay.registered_agent_connections n = some W)
    (hsnap : s.relay.active_relayed_connections.filter (s.relay.belongsTo W) = []) :
    Gone (s.tornDown W n (((s.relay.deregister n).removeAgent W).popLock W, .returned ())).relay
      W := by
  refine ⟨unlisted_of_closed hI hreg (fun n' W' hnn hn' => ?_) (by simp [tornDown]) rfl,
    fun c hc => ?_⟩
  · simpa [tornDown, hnn] using hn'
  · by_contra hbelongs
    rw [Bool.not_eq_false] at hbelongs
    -- The snapshot would have held such a connection, and it is empty.
    have hmem : c ∈ s.relay.active_relayed_connections.filter (s.relay.belongsTo W) :=
      List.mem_filter.mpr ⟨hc, hbelongs⟩
    rw [hsnap] at hmem
    cases hmem

/-- The disconnect of the agent: by the condition the loop closes its own registration, or there is
nothing left to close. -/
theorem ends_of_disconnect (hI : RegistryInv s) (hO : Ownership s) {W : AgentSocket} {n : AgentId}
    {o : Outcome} {r' : NetworkRelay} {res : Res EdgeAgentConnectionClose Unit Exc}
    (hok : OrderlyLoops cfg s (.run (.msgLoop W) o) = true)
    (h : RelayRule cfg s (.run (.msgLoop W) o) (s.tornDown W n (r', res)))
    (hpc : s.msgLoop W = some ⟨n, .receiving⟩)
    (ho : o = .disconnect ∨ o = .raised .webSocketDisconnect)
    (hstart : TeardownStart s.relay n r' res) {n' : AgentId} {pc' : MsgLoop}
    (hpc' : (s.tornDown W n (r', res)).msgLoop W = some ⟨n', pc'⟩) :
    pc'.EndsGone (s.tornDown W n (r', res)) W := by
  have hstep : Gone s.relay W → Gone (s.tornDown W n (r', res)).relay W :=
    fun hW => hW.step hO h (hI.msgLoop W _ hpc)
  -- The close is that of the loop's own registration, or the websocket is gone already.
  rcases gone_of_disconnect hI hpc ho hok with hreg | hW
  · cases hstart with
    | unregistered hnone =>
      rw [hnone] at hreg
      cases hreg
    | @idle ws hreg₀ hsnap =>
      obtain rfl := Option.some.inj (hreg₀.symm.trans hreg)
      exact .of_gone (gone_of_idle hI hreg hsnap)
    | @starts ws c rest r' send hreg₀ =>
      simp only [tornDown, setMsgLoop, withRelay, Function.update_self, Option.some.injEq,
        MsgLoopTask.mk.injEq] at hpc'
      obtain ⟨-, rfl⟩ := hpc'
      refine ⟨fun _ hres => (by cases hres), fun t ht => .inl ?_⟩
      cases ht
      exact Option.some.inj (hreg₀.symm.trans hreg)
  · exact .of_gone (hstep hW)

/-- The close of its registration goes on, returns or raises. -/
theorem LoopEnds.tearsDown (hL : LoopEnds s) (hI : RegistryInv s) (hO : Ownership s)
    (hC : ∀ t pc, s.tearing? t = some pc → Closing s pc) {W : AgentSocket} {n : AgentId}
    {o : Outcome} {pc : EdgeAgentConnectionClose} {r' : NetworkRelay}
    {res : Res EdgeAgentConnectionClose Unit Exc}
    (hok : OrderlyLoops cfg s (.run (.msgLoop W) o) = true)
    (h : RelayRule cfg s (.run (.msgLoop W) o) (s.tornDown W n (r', res)))
    (hpc : s.msgLoop W = some ⟨n, .tearingDown pc⟩) (hstep : TeardownStep s.relay pc o r' res)
    {n' : AgentId} {pc' : MsgLoop}
    (hpc' : (s.tornDown W n (r', res)).msgLoop W = some ⟨n', pc'⟩) :
    pc'.EndsGone (s.tornDown W n (r', res)) W := by
  have hcurrent : s.tearing? (.msgLoop W) = some pc := by simp [tearing?, hpc]
  have hgone : Gone s.relay W → Gone (s.tornDown W n (r', res)).relay W :=
    fun hW => hW.step hO h (hI.msgLoop W _ hpc)
  rcases hL.tearingDown W n pc hpc with hagent | hW
  · simp only [tornDown, setMsgLoop, withRelay, Function.update_self, Option.some.injEq,
      MsgLoopTask.mk.injEq] at hpc'
    obtain ⟨-, rfl⟩ := hpc'
    cases res with
    | parked pc₁ =>
      refine ⟨fun _ hres => (by cases hres), fun t ht => .inl ?_⟩
      cases ht
      exact hstep.parked.1.trans hagent
    | returned a =>
      have hclosed := gone_of_returned hO hC h hcurrent hstep rfl
      rw [hagent] at hclosed
      exact .of_gone hclosed
    -- By the condition the close does not raise.
    | raised e =>
      have hfine : pc.raises o = false := by simpa [OrderlyLoops, hpc] using hok
      rw [hstep.raises] at hfine
      cases hfine
  · exact .of_gone (hgone hW)

/-- A step of a message loop ends it in order. -/
theorem LoopEnds.own (hL : LoopEnds s) (hI : RegistryInv s) (hO : Ownership s)
    (hC : ∀ t pc, s.tearing? t = some pc → Closing s pc) {W : AgentSocket} {o : Outcome}
    (hok : OrderlyLoops cfg s (.run (.msgLoop W) o) = true)
    (h : RelayRule cfg s (.run (.msgLoop W) o) s') {n : AgentId} {pc' : MsgLoop}
    (hpc' : s'.msgLoop W = some ⟨n, pc'⟩) : pc'.EndsGone s' W := by
  -- The loop goes on, neither ended nor in a teardown.
  have hquiet : ∀ {s₁ : RelayState} {n₁ pc₁}, s'.msgLoop W = (s₁.setMsgLoop W ⟨n₁, pc₁⟩).msgLoop W →
      (∀ result, pc₁ ≠ .finished result) → (∀ t, pc₁ ≠ .tearingDown t) → pc'.EndsGone s' W := by
    intro s₁ n₁ pc₁ heq hfinished htearing
    rw [hpc'] at heq
    simp only [setMsgLoop, Function.update_self, Option.some.injEq, MsgLoopTask.mk.injEq] at heq
    obtain ⟨-, rfl⟩ := heq
    exact .of_goes_on hfinished htearing
  cases h with
  | @msgLoop _ n₀ pc _ _ hpc hrule =>
    have h : RelayRule cfg s (.run (.msgLoop W) o) s' := .msgLoop hpc hrule
    cases hrule with
    | disconnects ho hstart => exact ends_of_disconnect hI hO hok h hpc ho hstart hpc'
    -- The condition excludes a receive that fails otherwise than by the disconnect.
    | @receiveFails e he =>
      have hbad : OrderlyLoops cfg s (.run (.msgLoop W) (.raised e)) = false := by
        cases e with
        | webSocketDisconnect => exact absurd rfl he
        | _ => simp [OrderlyLoops, hpc]
      rw [hok] at hbad
      cases hbad
    | @receives frame rest _ hin hframe =>
      cases hframe with
      -- And a frame that ends the loop by an exception.
      | stops hbad =>
        have hgood : frame.malformed cfg = false := by simpa [OrderlyLoops, hpc, hin] using hok
        rw [hbad] at hgood
        cases hgood
      | ignores | fills | schedules | resets | answers | blocks | custom =>
        exact hquiet rfl (by simp) (by simp)
    | @resetting c pc connection _ r' res =>
      cases res with
      | parked _ | returned _ | raised _ => exact hquiet rfl (by simp) (by simp)
    | puts | customHandled => exact hquiet rfl (by simp) (by simp)
    | tearingDown hstep => exact hL.tearsDown hI hO hC hok h hpc hstep hpc'

/-- A message loop is created in its first `receive`, and moved by its own steps only. -/
theorem msgLoop_created (h : RelayRule cfg s e s') {W : AgentSocket} {task : MsgLoopTask}
    (hrun : ∀ o, e ≠ .run (.msgLoop W) o) (htask : s'.msgLoop W = some task) :
    s.msgLoop W = some task ∨ task.pc = .receiving := by
  by_cases hshake : ∃ o, e = .run (.handshake W) o
  · obtain ⟨o, rfl⟩ := hshake
    cases h with
    | handshake _ h =>
      cases h.moved with
      | accepted _ _ _ _ hloop | received _ _ _ _ _ hloop | left _ _ _ _ _ hloop
      | evicts _ _ _ _ _ _ _ hloop => exact .inl ((congrFun hloop W).symm.trans htask)
      | opened _ _ n _ _ _ _ _ hloop =>
        obtain rfl : ⟨n, .receiving⟩ = task := by simpa [hloop] using htask
        exact .inr rfl
  · exact .inl ((msgLoop_frame h (fun o he => hshake ⟨o, he⟩) hrun).symm.trans htask)

/-- A websocket whose handshake has led to a registration has a message loop. -/
theorem served {ok : RelayState → RelayEvent → Prop} (h : Reaches (step cfg) ok {} s) :
    ∀ W n, s.handshake W = some (.finished (.ok (some n))) → (s.msgLoop W).isSome = true := by
  refine h.invariant (I := fun s => ∀ W n, s.handshake W = some (.finished (.ok (some n))) →
    (s.msgLoop W).isSome = true) (fun _ _ h => by cases h) ?_
  intro s e s' hr _ hstep hI W n hdone
  have hrule := step_rule hstep
  by_cases hshake : ∃ o, e = .run (.handshake W) o
  · obtain ⟨o, rfl⟩ := hshake
    cases hrule with
    | handshake hpc hshake =>
      cases hshake.moved with
      -- The registration opens the message loop in the same step.
      | opened _ _ _ _ _ _ _ _ hloop => simp [hloop]
      -- No start message is granted as it is received.
      | received _ _ hpc' =>
        rw [hpc'] at hdone
        rcases startReceived_cases cfg _ with ⟨result, heq, hne⟩ | ⟨m, heq, -⟩
        · rw [heq] at hdone
          simp only [Option.some.injEq, Handshake.finished.injEq] at hdone
          exact absurd hdone (hne n)
        · rw [heq] at hdone
          cases hdone
      | left pc' hpc' hleft =>
        rw [hpc'] at hdone
        obtain rfl := Option.some.inj hdone
        rcases hleft with hleft | ⟨result, hleft, hne⟩
        · cases hleft
        · obtain rfl := Handshake.finished.inj hleft
          exact absurd rfl (hne n)
      | accepted _ hpc' | evicts _ _ _ _ hpc' =>
        rw [hpc'] at hdone
        cases hdone
  · have hrun : ∀ o, e ≠ .run (.handshake W) o := fun o he => hshake ⟨o, he⟩
    by_cases hconn : e = .agentConnects W
    · subst hconn
      cases hrule with
      | agentConnects => simp at hdone
    · rw [handshake_frame hrule hrun hconn] at hdone
      by_cases hloop : ∃ o, e = .run (.msgLoop W) o
      · obtain ⟨o, rfl⟩ := hloop
        cases hrule with
        | msgLoop _ hloop =>
          obtain ⟨pc', hpc'⟩ := hloop.moved.own
          rw [hpc']
          rfl
      · rw [msgLoop_frame hrule hrun fun o he => hloop ⟨o, he⟩]
        exact hI W n hdone

/-- A step that meets the condition keeps the ends of the message loops in order. -/
theorem LoopEnds.preserved (hL : LoopEnds s) (hI : RegistryInv s) (hO : Ownership s)
    (hC : ∀ t pc, s.tearing? t = some pc → Closing s pc) (hok : OrderlyLoops cfg s e = true)
    (h : RelayRule cfg s e s') : LoopEnds s' := by
  have hown : ∀ W n pc', s'.msgLoop W = some ⟨n, pc'⟩ → pc'.EndsGone s' W := by
    intro W n pc' hpc'
    by_cases hrun : ∃ o, e = .run (.msgLoop W) o
    · obtain ⟨o, rfl⟩ := hrun
      exact hL.own hI hO hC hok h hpc'
    · -- The loop has just been created, or it stays where it was and what is gone stays gone.
      rcases msgLoop_created h (fun o he => hrun ⟨o, he⟩) hpc' with hpc | hpc
      · have hdone := hI.msgLoop W _ hpc
        refine ⟨?_, ?_⟩
        · rintro result rfl
          exact (hL.finished W n result hpc).step hO h hdone
        · rintro t rfl
          exact (hL.tearingDown W n t hpc).imp_right fun hW => hW.step hO h hdone
      · dsimp only at hpc
        subst hpc
        exact .of_goes_on (by simp) (by simp)
  exact ⟨fun W n result hpc => (hown W n _ hpc).finished result rfl,
    fun W n pc hpc => (hown W n _ hpc).tearingDown pc rfl⟩

/-- In a run of orderly message loops, a session that has ended leaves nothing behind. -/
theorem sessions_end_closed (h : Reaches (step cfg) (OrderlyLoops cfg · ·) {} s) :
    ∀ W n result, s.msgLoop W = some ⟨n, .finished result⟩ → Gone s.relay W := by
  have hL : LoopEnds s := by
    refine h.invariant ⟨by simp, by simp⟩ fun s e s' hr hok hstep hL => ?_
    exact hL.preserved (registryInv hr) (ownership hr) (closing_inv hr) hok (step_rule hstep)
  exact hL.finished

/-- The agent of an open session disconnects. -/
def disconnectedAgent : RelayState :=
  (runWith (step plainConfig) (OrderlyLoops plainConfig · ·) {} (openSession ++
    [.run (.msgLoop ⟨0⟩) .disconnect, .run (.msgLoop ⟨0⟩) .ok, .run (.msgLoop ⟨0⟩) .ok])).get
    (by decide +kernel)

/-- The message loop has ended, and everything of the agent is gone. -/
theorem disconnectedAgent_gone :
    disconnectedAgent.msgLoop ⟨0⟩ = some ⟨"agent", .finished (.ok ())⟩ ∧
      Gone disconnectedAgent.relay ⟨0⟩ :=
  ⟨rfl, sessions_end_closed (Reaches.init.of_runWith (Option.some_get _).symm) ⟨0⟩ "agent" (.ok ())
    rfl⟩

/-- An agent sends a binary frame that is too short to hold a connection id. -/
def shortFrame : RelayState :=
  (run (step plainConfig) {} (registerAgent ⟨0⟩ "agent" true ++
    [.agentSends ⟨0⟩ (.bytes []), .run (.msgLoop ⟨0⟩) .next])).get (by decide +kernel)

/-- The message loop has ended, and its websocket is registered still. -/
theorem shortFrame_not_gone :
    ¬ ∀ cfg s, Reaches (step cfg) (fun _ _ => True) {} s →
      ∀ W n result, s.msgLoop W = some ⟨n, .finished result⟩ → Gone s.relay W := by
  intro h
  have hreach : Reaches (step plainConfig) (fun _ _ => True) {} shortFrame :=
    Reaches.init.of_run (fun _ _ _ => trivial) (Option.some_get _).symm
  obtain ⟨e, hpc⟩ : ∃ e, shortFrame.msgLoop ⟨0⟩ = some ⟨"agent", .finished (.error e)⟩ := ⟨_, rfl⟩
  exact (h _ _ hreach _ _ _ hpc).unlisted.1 "agent" rfl

end HttpNetworkRelay
