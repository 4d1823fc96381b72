import HttpNetworkRelay.Relay.Serial

/-!
# What a finished teardown has done

`teardown_complete_and_exact` follows one `edge_agent_connection_close` from its call to its end,
whatever runs in between. `DroppedWoken` is what holds of the readers of dropped connections in
every reachable state, and `Spares` what a stretch of the close leaves to the other websockets.
-/

namespace HttpNetworkRelay

open Asyncio Python RelayState NetworkRelay

variable {cfg : RelayConfig} {s s' : RelayState} {e : RelayEvent}

/-! ## The readers of dropped connections -/

/-- No task waits for the event of the object, and if it is a `TcpConnection`, whose readers are
threads, the event is set. -/
def TcpConnection.Woken (connection : TcpConnection) : Prop :=
  connection.event.waiters = [] ∧
    (connection.cls = .tcpConnection → connection.event.flag = true)

/-- The readers of every connection that is not active have been woken. -/
def DroppedWoken (r : NetworkRelay) : Prop :=
  ∀ c connection, r.connection c = some connection → c ∉ r.active_relayed_connections →
    connection.Woken

/-- An object whose event is set has its readers woken. -/
theorem TcpConnection.woken_set (connection : TcpConnection) (recv_buffer : Bytes) :
    TcpConnection.Woken { connection with recv_buffer, event := connection.event.set } :=
  ⟨rfl, fun _ => rfl⟩

namespace DroppedWoken

variable {r r' : NetworkRelay}

/-- The readers stay woken where the connections and the active ones are the same. -/
theorem of_eq (hr : DroppedWoken r) (hconnection : r'.connection = r.connection)
    (hactive : r'.active_relayed_connections = r.active_relayed_connections) :
    DroppedWoken r' := by
  intro c connection hc hnot
  rw [hconnection] at hc
  rw [hactive] at hnot
  exact hr c connection hc hnot

/-- The readers stay woken where only a send is begun. -/
theorem same (hr : DroppedWoken r) (same : r.SameButSends r') : DroppedWoken r' :=
  hr.of_eq same.connection same.active

/-- The readers stay woken where only the access client's side changes. -/
theorem sameButAccess {c : ConnectionId} (hr : DroppedWoken r) (same : SameButAccess c r r') :
    DroppedWoken r' :=
  hr.of_eq same.connection same.active

/-- A drop wakes the readers of its connection. -/
theorem drop (hr : DroppedWoken r) (c : ConnectionId) :
    DroppedWoken (r._drop_relayed_connection c) := by
  intro c' connection' hc' hnot
  rw [mem_drop] at hnot
  -- If `c'` was active it is the one that is dropped, and otherwise it was woken before.
  by_cases hact : c' ∈ r.active_relayed_connections
  · obtain rfl : c' = c := by
      by_contra hne
      exact hnot ⟨hact, hne⟩
    have hmap : (r.connection c').map TcpConnection.wake_readers = some connection' := by
      simpa [hact] using hc'
    obtain ⟨connection, -, rfl⟩ := Option.map_eq_some_iff.mp hmap
    exact connection.woken_set connection.recv_buffer
  · refine hr c' connection' ?_ hact
    by_cases hc : c ∈ r.active_relayed_connections
    · have hne : c' ≠ c := by
        rintro rfl
        exact hact hc
      simpa [hc, hne] using hc'
    · simpa [hc] using hc'

/-- A new connection is active. -/
theorem publish (hr : DroppedWoken r) (c : ConnectionId) (connection : TcpConnection) :
    DroppedWoken (r.publish c connection) := by
  intro c' connection' hc' hnot
  simp only [NetworkRelay.publish, List.mem_append, List.mem_singleton, not_or] at hnot
  exact hr c' connection' (by simpa [hnot.2] using hc') hnot.1

/-- The readers stay woken under a change of one object that keeps its own woken. -/
theorem modify (hr : DroppedWoken r) (c : ConnectionId) {f : TcpConnection → TcpConnection}
    (hf : ∀ connection, r.connection c = some connection → c ∉ r.active_relayed_connections →
      connection.Woken → (f connection).Woken) : DroppedWoken (r.modifyConnection c f) := by
  intro c' connection' hc' hnot
  by_cases hcc : c' = c
  · subst hcc
    have hmap : (r.connection c').map f = some connection' := by simpa using hc'
    obtain ⟨connection, hc, rfl⟩ := Option.map_eq_some_iff.mp hmap
    exact hf connection hc hnot (hr c' connection hc hnot)
  · exact hr c' connection' (by simpa [hcc] using hc') hnot

/-- A step of a close keeps the readers woken. -/
theorem closeStep {c : ConnectionId} {ws : AgentSocket} {pc : CloseRelayedConnection} {o : Outcome}
    {res : Res CloseRelayedConnection Unit Exc} (hr : DroppedWoken r)
    (h : CloseStep r c ws pc o r' res) : DroppedWoken r' := by
  cases h with
  | informs same | informingFails _ same => exact hr.same same
  | closesClient _ same => exact (hr.same same).of_eq rfl rfl
  | dropsUnattached _ same => exact (hr.same same).drop c
  | drops => exact hr.drop c
  | closingFails => exact hr

/-- A step of a teardown keeps the readers woken. -/
theorem teardownStep {pc : EdgeAgentConnectionClose} {o : Outcome}
    {res : Res EdgeAgentConnectionClose Unit Exc} (hr : DroppedWoken r)
    (h : TeardownStep r pc o r' res) : DroppedWoken r' := by
  cases h with
  | inside h | fails h => exact hr.closeStep h
  | next h _ same => exact (hr.closeStep h).same same
  | done h => exact (hr.closeStep h).of_eq rfl rfl

/-- The start of a teardown keeps the readers woken. -/
theorem teardownStart {n : AgentId} {res : Res EdgeAgentConnectionClose Unit Exc}
    (hr : DroppedWoken r) (h : TeardownStart r n r' res) : DroppedWoken r' := by
  cases h with
  | unregistered | idle => exact hr.of_eq rfl rfl
  | @starts ws _ _ _ _ _ _ same =>
    have hderegistered : DroppedWoken ((r.deregister n).removeAgent ws) := hr.of_eq rfl rfl
    exact hderegistered.same same

/-- A step of a handshake keeps the readers woken. -/
theorem handshake {W : AgentSocket} {pc : Handshake} {o : Outcome} (hr : DroppedWoken s.relay)
    (h : HandshakeRule cfg s W pc o s') : DroppedWoken s'.relay := by
  have hevicted : ∀ m n r' res, DroppedWoken r' →
      DroppedWoken (s.evicted W m n (r', res)).relay := by
    intro m n r' res hr'
    cases res with
    | parked pc => exact hr'
    | returned a => exact hr'.of_eq rfl rfl
    | raised e => exact hr'
  cases h with
  | @evicts m n _ _ _ _ _ _ _ h =>
    have hset : DroppedWoken (s.relay.setSupportsBinary n m.supports_binary) := hr.of_eq rfl rfl
    exact hevicted _ _ _ _ (hset.teardownStart h)
  | evicting h => exact hevicted _ _ _ _ (hr.teardownStep h)
  | accepts | receives | refuses | opens | duplicate | noAttribute | ends => exact hr.of_eq rfl rfl

/-- A step of a message loop keeps the readers woken. -/
theorem msgLoop {W : AgentSocket} {n : AgentId} {pc : MsgLoop} {o : Outcome}
    (hr : DroppedWoken s.relay) (h : MsgLoopRule cfg s W n pc o s') : DroppedWoken s'.relay := by
  cases h with
  | disconnects _ h => exact hr.teardownStart h
  | @receives _ rest _ _ h =>
    cases h with
    | fills _ hact =>
      -- The connection that is filled is active.
      have hinbox : DroppedWoken (s.relay.setInbox W rest) := hr.of_eq rfl rfl
      exact hinbox.modify _ fun connection _ _ _ => connection.woken_set _
    | resets _ _ _ _ same =>
      have hinbox : DroppedWoken (s.relay.setInbox W rest) := hr.of_eq rfl rfl
      exact hinbox.same same
    | stops | ignores | schedules | answers | blocks | custom => exact hr.of_eq rfl rfl
  | resetting _ h => exact hr.closeStep h
  | tearingDown h => exact hr.teardownStep h
  | receiveFails | puts | customHandled => exact hr.of_eq rfl rfl

/-- A step of a session keeps the readers woken. -/
theorem client {A : ClientSocket} {pc : Client} {o : Outcome} (hr : DroppedWoken s.relay)
    (h : ClientRule cfg s A pc o s') : DroppedWoken s'.relay := by
  cases h with
  | opens _ _ _ same => exact (hr.publish _ _).same same
  | @creating _ _ _ r' res h =>
    have hcreate : DroppedWoken r' := hr.of_eq h.frame.connection h.frame.active
    cases res with
    | parked _ | returned _ => exact hcreate
    | raised e => cases e <;> exact hcreate
  | @disconnects c _ _ _ _ _ _ same =>
    -- The drop wakes the readers, and the first stretch of the close leaves them so.
    have hclosed : DroppedWoken
        ((s.relay._drop_relayed_connection c).access_client_connection_close c) :=
      (hr.drop c).of_eq rfl rfl
    exact hclosed.same same
  | ignores => exact hr.sameButAccess (continueLoop_same s _ _ _)
  | forwards _ _ h | forwarding _ h => exact hr.sameButAccess (forwarded_same h.same _ _ _ _ _)
  | @closing _ _ _ _ r' res _ h =>
    have hclose : DroppedWoken r' := hr.closeStep h
    cases res <;> exact hclose
  | advances | refuses | unregistered | starts | startFails | receiveFails | malformed
  | clientClosed | closeFails | joined | cancels => exact hr.of_eq rfl rfl

/-- The reader of an access client reads from a `TcpConnectionAsync`. -/
theorem reader {c : ConnectionId} {connection : TcpConnection} {reader : Reader} {o : Outcome}
    (hr : DroppedWoken s.relay) (hc : s.relay.connection c = some connection)
    (hcls : connection.cls = .tcpConnectionAsync) (h : ReaderRule s c connection reader o s') :
    DroppedWoken s'.relay := by
  -- The object is a `TcpConnectionAsync`, whose readers wait for `event`.
  have hmodify : ∀ connection', connection'.cls = connection.cls →
      connection'.event.waiters ⊆ connection.event.waiters →
      DroppedWoken (s.relay.modifyConnection c fun _ => connection') := by
    intro connection' hcls' hevent
    refine hr.modify c fun connection₀ hc₀ _ hwoken => ⟨?_, fun hsync => ?_⟩
    · obtain rfl := Option.some.inj (hc.symm.trans hc₀)
      rw [hwoken.1] at hevent
      exact List.subset_nil.mp hevent
    · rw [hcls', hcls] at hsync
      cases hsync
  cases h with
  | sends _ _ _ _ hevent => exact hmodify _ rfl hevent
  | parks _ _ _ hact =>
    exact hr.modify c fun _ _ hnot => absurd hact hnot
  | @ends event _ _ _ hevent => exact (hmodify { connection with event } rfl hevent).drop c
  | dies => exact hr

/-- Every step keeps the readers of dropped connections woken. -/
theorem preserved (hO : Ownership s) (hr : DroppedWoken s.relay) (h : RelayRule cfg s e s') :
    DroppedWoken s'.relay := by
  -- The readers do not wait for the send buffer.
  have hsend_buffer : ∀ {c connection} (send_buffer : Bytes),
      s.relay.connection c = some connection →
      DroppedWoken (s.relay.modifyConnection c fun _ => { connection with send_buffer }) := by
    intro c connection send_buffer hc
    refine hr.modify c fun connection₀ hc₀ _ hwoken => ?_
    obtain rfl := Option.some.inj (hc.symm.trans hc₀)
    exact hwoken
  cases h with
  | create _ _ _ same => exact (hr.publish _ _).same same
  | send _ _ hc => exact hsend_buffer _ hc
  | handshake _ h => exact hr.handshake h
  | keepAlive _ h => exact hr.same h.same
  | msgLoop _ h => exact hr.msgLoop h
  | client _ h => exact hr.client h
  | reader hpc hc h =>
    obtain ⟨connection, hc', -, hcls⟩ := hO.reader _ _ hpc
    obtain rfl := Option.some.inj (hc.symm.trans hc')
    exact hr.reader hc hcls h
  | call _ h => exact hr.of_eq h.frame.connection h.frame.active
  | closes _ same => exact hr.same same
  | closing _ h => exact hr.closeStep h
  | sends _ hc h => exact (hsend_buffer _ hc).same h.same
  | sending _ _ h => exact hr.same h.same
  | agentConnects | agentSends | agentDies | clientConnects | createFails | close =>
    exact hr.of_eq rfl rfl

end DroppedWoken

/-- The readers of dropped connections are woken in every run. -/
theorem dropped_woken {ok : RelayState → RelayEvent → Prop} (h : Reaches (step cfg) ok {} s) :
    DroppedWoken s.relay := by
  refine h.invariant (I := fun s => DroppedWoken s.relay) ?_ ?_
  · intro c connection hc
    cases hc
  · intro s e s' hr _ hstep hwoken
    exact hwoken.preserved (ownership hr) (step_rule hstep)

/-! ## What a close leaves alone -/

/-- What belongs to other websockets than `W` is still there. -/
structure Spares (W : AgentSocket) (r r' : NetworkRelay) : Prop where
  registered : ∀ n W', W' ≠ W → r.registered_agent_connections n = some W' →
    r'.registered_agent_connections n = some W'
  listed : ∀ W', W' ≠ W → W' ∈ r.agent_connections → W' ∈ r'.agent_connections
  active : ∀ c ∈ r.active_relayed_connections, r.belongsTo W c = false →
    c ∈ r'.active_relayed_connections
  locks : ∀ W' l, W' ≠ W → r.agent_connection_locks W' = some l →
    r'.agent_connection_locks W' = some l

/-- Operations on the table of the send locks remove no other entries than they may. -/
theorem entry_of_ops {t : Task} {P : AgentSocket → Prop}
    {x y : LockTable AgentSocket Task × Option (LockUse AgentSocket)} (h : LockTable.Ops t P x y)
    {W : AgentSocket} {l : ℕ} (hW : ¬ P W) (hl : x.1.entry W = some l) : y.1.entry W = some l := by
  induction h with
  | refl => exact hl
  | tail _ hop ih =>
    cases hop with
    | takes T key | queues T key => exact LockTable.get_entry_of_some ih
    | passes T key l | releases T key l => exact ih
    | pops T u key hkey =>
      have hne : W ≠ key := by
        rintro rfl
        exact hW hkey
      simpa [LockTable.pop, hne] using ih

/-- The start of a teardown spares the others. -/
theorem edge_agent_connection_close_spares {r : NetworkRelay} (t : Task) {n : AgentId}
    {W : AgentSocket} (hreg : r.registered_agent_connections n = some W) :
    Spares W r (edge_agent_connection_close r t n).1 := by
  obtain ⟨hregs, hlist⟩ := edge_agent_connection_close_registry t hreg
  constructor
  · intro n' W' hne hn'
    rw [hregs]
    exact registered_update hreg hne hn' none
  · intro W' hne hmem
    rw [hlist]
    exact (List.mem_erase_of_ne hne).mpr hmem
  · intro c hc _
    rw [(edge_agent_connection_close_start r t n).active]
    exact hc
  · intro W' l hne hl
    have hops := edge_agent_connection_close_ops (r := r) (t := t) (P := (· = W)) n fun ws hws =>
      Option.some.inj (hws.symm.trans hreg)
    exact entry_of_ops hops hne hl

/-- A step of a teardown spares the others, where it closes a connection of its own. -/
theorem EdgeAgentConnectionClose.resume_spares {r : NetworkRelay} {t : Task}
    {pc : EdgeAgentConnectionClose} (hcurrent : r.belongsTo pc.agent_connection pc.current = true)
    {o : Outcome} {x : NetworkRelay × Res EdgeAgentConnectionClose Unit Exc}
    (h : pc.resume r t o = some x) : Spares pc.agent_connection r x.1 := by
  have hstep := EdgeAgentConnectionClose.resume_step h
  constructor
  · intro n W' _ hn
    rw [hstep.registry.1]
    exact hn
  · intro W' _ hmem
    rw [hstep.registry.1]
    exact hmem
  · intro c hc hbelongs
    obtain ⟨r₁, res₁, hclose, hactive, -⟩ := hstep.close
    by_contra hnot
    rw [hactive] at hnot
    -- What is lost is the current connection, which belongs to the torn down websocket.
    obtain ⟨rfl, -⟩ := hclose.lost hc hnot
    rw [hcurrent] at hbelongs
    cases hbelongs
  · intro W' l hne hl
    have hops := (EdgeAgentConnectionClose.resume_ops (P := (· = pc.agent_connection)) rfl h).ops
    exact entry_of_ops hops hne hl

/-- The connections that a close has still to close are those of its websocket. -/
def Snapshot (r : NetworkRelay) (pc : EdgeAgentConnectionClose) : Prop :=
  ∀ c, c = pc.current ∨ c ∈ pc.rest → r.belongsTo pc.agent_connection c = true

/-- A connection stays one of its websocket. -/
theorem belongsTo_step {r r' : NetworkRelay} (h : Evolves r r') {W : AgentSocket} {c : ConnectionId}
    (hc : r.belongsTo W c = true) : r'.belongsTo W c = true := by
  have hsome : (r.connection c).isSome = true := by
    unfold belongsTo at hc
    cases hconn : r.connection c with
    | none => simp [hconn] at hc
    | some connection => rfl
  rw [belongsTo_evolves h hsome]
  exact hc

/-- A step keeps the rest of every teardown to its websocket. -/
theorem Snapshot.step (hI : RegistryInv s)
    (hS : ∀ t pc, s.tearing? t = some pc → Snapshot s.relay pc)
    (h : RelayRule cfg s e s') {t : Task} {pc' : EdgeAgentConnectionClose}
    (hpc' : s'.tearing? t = some pc') : Snapshot s'.relay pc' := by
  by_cases hrun : ∃ o, e = .run t o
  · obtain ⟨o, rfl⟩ := hrun
    cases teardown_of_run h (tearing_task hpc') with
    | outside _ hnone | idles _ _ _ hnone | raises _ _ hnone | returns _ _ _ hnone =>
      rw [hpc'] at hnone
      cases hnone
    -- The list is taken from the connections of the websocket.
    | starts n pc₁ _ hpc₁ _ _ hsnap =>
      obtain rfl := Option.some.inj (hpc₁.symm.trans hpc')
      intro c hc
      apply belongsTo_step h.evolves
      rw [← List.mem_cons, ← hsnap] at hc
      exact (List.mem_filter.mp hc).2
    | moves pc pc₁ hpc hpc₁ hstep =>
      obtain rfl := Option.some.inj (hpc₁.symm.trans hpc')
      obtain ⟨hagent, hparked⟩ := hstep.parked
      intro c hc
      rw [hagent]
      apply belongsTo_step h.evolves
      apply hS t pc hpc
      rcases hparked with ⟨hcurrent, hrest, -⟩ | ⟨hrest, -⟩
      · rw [hcurrent, hrest] at hc
        exact hc
      · rw [hrest]
        exact .inr (List.mem_cons.mpr hc)
  · rw [tearing_frame hI h fun o he => hrun ⟨o, he⟩] at hpc'
    exact fun c hc => belongsTo_step h.evolves (hS t pc' hpc' c hc)

/-- The rest of every teardown is of its websocket, in every run. -/
theorem snapshots {ok : RelayState → RelayEvent → Prop} (h : Reaches (step cfg) ok {} s) :
    ∀ t pc, s.tearing? t = some pc → Snapshot s.relay pc := by
  refine h.invariant (I := fun s => ∀ t pc, s.tearing? t = some pc → Snapshot s.relay pc) ?_ ?_
  · intro t pc hpc
    cases t <;> cases hpc
  · intro s e s' hr _ hstep hS t pc' hpc'
    exact Snapshot.step (registryInv hr) hS (step_rule hstep) hpc'

/-! ## One close, from its call on -/

/-- The close that the task `t` is in raises nothing: its sends to the agent complete or find the
websocket gone, and the closes of access clients' websockets complete or find them closed. -/
def Tolerated (t : Task) (s : RelayState) : RelayEvent → Bool
  | .run t' o => t' ≠ t || (s.tearing? t).all fun pc => !pc.raises o
  | _ => true

/-- A task that calls a close is not in one. -/
theorem tearing_of_calls {t : Task} {o : Outcome} {n : AgentId} (h : Calls cfg s t o n) :
    s.tearing? t = none := by
  cases h with
  | disconnect hpc => simp [tearing?, hpc]
  | eviction hpc => simp [tearing?, hpc]

/-- Only handshakes and message loops call the teardown. -/
theorem Calls.task {t : Task} {o : Outcome} {n : AgentId} (h : Calls cfg s t o n) :
    (∃ W, t = .handshake W) ∨ ∃ W, t = .msgLoop W := by
  cases h with
  | disconnect => exact .inr ⟨_, rfl⟩
  | eviction => exact .inl ⟨_, rfl⟩

/-- The first stretch of a close has parked it, or has found nothing to close. -/
theorem close_called {ok : RelayState → RelayEvent → Prop} (hr : Reaches (step cfg) ok {} s)
    {t : Task} {o : Outcome} {n : AgentId} {W : AgentSocket} (hcalls : Calls cfg s t o n)
    (hreg : s.relay.registered_agent_connections n = some W)
    (hstep : step cfg s (.run t o) = some s') :
    (∃ pc, s'.tearing? t = some pc ∧ pc.agent_connection = W) ∨ Gone s'.relay W := by
  have hI := registryInv hr
  have h := step_rule hstep
  have hunlisted : Unlisted s'.relay W :=
    unlisted_of_popped hI (closing_inv hr) hstep
      (fun n hn => opened_id_ne hr W n (.inl (hI.registered n W hn))) (.inr ⟨n, hcalls, hreg⟩)
  have hnone := tearing_of_calls hcalls
  cases teardown_of_run h hcalls.task with
  | outside _ _ hkeeps => exact absurd (hkeeps n W hreg) (hunlisted.1 n)
  -- The snapshot was empty, so the websocket had no active connection.
  | idles n₀ W₀ _ _ _ _ hsnap _ hother hactive =>
    by_cases hW : W = W₀
    · subst hW
      refine .inr ⟨hunlisted, fun c hc => ?_⟩
      rw [hactive] at hc
      rw [belongsTo_evolves h.evolves ((ownership hr).active c hc)]
      by_contra hbelongs
      rw [Bool.not_eq_false] at hbelongs
      have hmem := List.mem_filter.mpr ⟨hc, hbelongs⟩
      rw [hsnap] at hmem
      cases hmem
    · exact absurd (hother n W hW hreg) (hunlisted.1 n)
  | starts n₀ pc' _ hpc' _ hreg₀ _ hregs =>
    by_cases hW : W = pc'.agent_connection
    · exact .inl ⟨pc', hpc', hW.symm⟩
    · have hkept := registered_update hreg₀ hW hreg none
      rw [← hregs] at hkept
      exact absurd hkept (hunlisted.1 n)
  | moves pc _ hpc | raises pc hpc | returns pc _ hpc =>
    rw [hnone] at hpc
    cases hpc

/-- A step out of a state in which the close is suspended, or over. -/
theorem close_goes_on {ok : RelayState → RelayEvent → Prop} (hr : Reaches (step cfg) ok {} s)
    {t : Task} {W : AgentSocket} (hdone : Opened s W) (hok : Tolerated t s e = true)
    (hstep : step cfg s e = some s')
    (hW : (∃ pc, s.tearing? t = some pc ∧ pc.agent_connection = W) ∨ Gone s.relay W) :
    (∃ pc, s'.tearing? t = some pc ∧ pc.agent_connection = W) ∨ Gone s'.relay W := by
  have h := step_rule hstep
  rcases hW with ⟨pc, hpc, rfl⟩ | hgone
  · by_cases hrun : ∃ o, e = .run t o
    · obtain ⟨o, rfl⟩ := hrun
      cases teardown_of_run h (tearing_task hpc) with
      | outside hnone | idles _ _ hnone | starts _ _ hnone =>
        rw [hpc] at hnone
        cases hnone
      | moves pc₀ pc' hpc₀ hpc' h =>
        obtain rfl := Option.some.inj (hpc₀.symm.trans hpc)
        exact .inl ⟨pc', hpc', h.parked.1⟩
      -- Which the condition excludes.
      | raises pc₀ hpc₀ _ hraises =>
        obtain rfl := Option.some.inj (hpc₀.symm.trans hpc)
        have hfine : pc₀.raises o = false := by simpa [Tolerated, hpc] using hok
        rw [hraises] at hfine
        cases hfine
      | returns pc₀ _ hpc₀ _ hreturned hactive =>
        obtain rfl := Option.some.inj (hpc₀.symm.trans hpc)
        exact .inr (gone_of_returned (ownership hr) (closing_inv hr) h hpc hreturned hactive)
    · exact .inl ⟨pc, (tearing_frame (registryInv hr) h fun o he => hrun ⟨o, he⟩).trans hpc, rfl⟩
  · obtain ⟨n, hn⟩ := hdone
    exact .inr (hgone.step (ownership hr) h hn)

/-- The close of the registration of `W`, called by the task `t`, in any state that comes later: it
is suspended still, or nothing is left of `W` and the readers of all its connections have been
woken. No stretch of it removes what belongs to another websocket. -/
theorem teardown_complete_and_exact {s₀ s₁ : RelayState} {t : Task} {o : Outcome} {n : AgentId}
    {W : AgentSocket} (h : Reaches (step cfg) (fun _ _ => True) {} s₀)
    (hcalls : Calls cfg s₀ t o n)
    (hreg : s₀.relay.registered_agent_connections n = some W)
    (hcall : step cfg s₀ (.run t o) = some s₁)
    (hrun : Reaches (step cfg) (Tolerated t · ·) s₁ s) :
    (∀ r : NetworkRelay, r.registered_agent_connections n = some W →
      Spares W r (edge_agent_connection_close r t n).1) ∧
    ((∃ pc, s.tearing? t = some pc ∧ pc.agent_connection = W ∧
        ∀ o x, pc.resume s.relay t o = some x → Spares W s.relay x.1) ∨
      (Gone s.relay W ∧ ∀ c connection, s.relay.connection c = some connection →
        connection.agent_connection = W → connection.Woken)) := by
  refine ⟨fun r hr => edge_agent_connection_close_spares t hr, ?_⟩
  have hr₁ : Reaches (step cfg) (fun _ _ => True) {} s₁ := h.step trivial hcall
  have hopened : Opened s₁ W :=
    Opened.step (step_rule hcall) ⟨n, (registryInv h).registered n W hreg⟩
  -- The induction is on the run from the call on; every state of it is reachable.
  have hinv : Reaches (step cfg) (fun _ _ => True) {} s ∧ Opened s W ∧
      ((∃ pc, s.tearing? t = some pc ∧ pc.agent_connection = W) ∨ Gone s.relay W) := by
    refine hrun.invariant (I := fun s => Reaches (step cfg) (fun _ _ => True) {} s ∧ Opened s W ∧
      ((∃ pc, s.tearing? t = some pc ∧ pc.agent_connection = W) ∨ Gone s.relay W))
      ⟨hr₁, hopened, close_called h hcalls hreg hcall⟩ ?_
    intro s e s' _ hok hstep ⟨hr, hW, hI⟩
    exact ⟨hr.step trivial hstep, hW.step (step_rule hstep), close_goes_on hr hW hok hstep hI⟩
  obtain ⟨hr, -, hclose⟩ := hinv
  rcases hclose with ⟨pc, hpc, rfl⟩ | hgone
  · refine .inl ⟨pc, hpc, rfl, fun o x hx => ?_⟩
    exact EdgeAgentConnectionClose.resume_spares (snapshots hr t pc hpc pc.current (.inl rfl)) hx
  · refine .inr ⟨hgone, fun c connection hc hagent => ?_⟩
    refine dropped_woken hr c connection hc fun hact => ?_
    have hbelongs := hgone.active c hact
    simp [belongsTo, hc, hagent] at hbelongs

/-- Its agent has disconnected. -/
def closingSession : RelayState :=
  (step plainConfig liveSession (.run (.msgLoop ⟨0⟩) .disconnect)).get (by decide +kernel)

/-- The agent is found gone, and the close of the access client's websocket completes. -/
def closedSession : RelayState :=
  (runWith (step plainConfig) (Tolerated (.msgLoop ⟨0⟩) · ·) closingSession
    [.run (.msgLoop ⟨0⟩) (.raised .webSocketDisconnect), .run (.msgLoop ⟨0⟩) .ok]).get
    (by decide +kernel)

/-- The teardown has ended, and everything of the agent is gone. -/
theorem closedSession_complete :
    closedSession.tearing? (.msgLoop ⟨0⟩) = none ∧ Gone closedSession.relay ⟨0⟩ := by
  have hreach : Reaches (step plainConfig) (fun _ _ => True) {} liveSession :=
    Reaches.init.of_run (fun _ _ _ => trivial) (Option.some_get _).symm
  have hnone : closedSession.tearing? (.msgLoop ⟨0⟩) = none := by decide +kernel
  have hcalls : Calls plainConfig liveSession (.msgLoop ⟨0⟩) .disconnect "agent" :=
    .disconnect rfl (.inl rfl)
  have hrun : Reaches (step plainConfig) (Tolerated (.msgLoop ⟨0⟩) · ·) closingSession
      closedSession := Reaches.init.of_runWith (Option.some_get _).symm
  obtain ⟨-, ⟨pc, hpc, -⟩ | ⟨hgone, -⟩⟩ :=
    teardown_complete_and_exact (W := ⟨0⟩) hreach hcalls rfl (Option.some_get _).symm hrun
  · rw [hnone] at hpc
    cases hpc
  · exact ⟨hnone, hgone⟩

end HttpNetworkRelay
