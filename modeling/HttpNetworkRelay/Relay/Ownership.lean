import HttpNetworkRelay.Asyncio.Machine
import HttpNetworkRelay.Relay.SessionFrames

/-!
# Whose connection it is

A connection that a session has created belongs to this session for good: `creator` says so, and no
other session, reader or dictionary entry refers to it. `Ownership` is this invariant, with what the
stages of a session mean for its entry in `active_access_client_connections` and for its reader;
`ownership` shows that it holds in every state that any run reaches.
-/

namespace HttpNetworkRelay

open Asyncio Python RelayState NetworkRelay

/-- The connection was created by the session of the access client `A`. -/
def Owned (r : NetworkRelay) (c : ConnectionId) (A : ClientSocket) : Prop :=
  ∃ connection, r.connection c = some connection ∧ connection.creator = .client A ∧
    connection.cls = .tcpConnectionAsync

namespace Owned

variable {r r' : NetworkRelay} {c : ConnectionId} {A B : ClientSocket}

/-- A connection has one access client. -/
theorem unique (h : Owned r c A) (h' : Owned r c B) : A = B := by
  obtain ⟨connection, hc, hA, -⟩ := h
  obtain ⟨connection', hc', hB, -⟩ := h'
  obtain rfl := Option.some.inj (hc.symm.trans hc')
  rw [hA] at hB
  exact Task.client.inj hB

/-- The access client of a connection stays the same. -/
theorem evolves (h : Owned r c A) (hev : Evolves r r') : Owned r' c A := by
  obtain ⟨connection, hc, hA, hcls⟩ := h
  obtain ⟨connection', hc', hid⟩ := hev.connection c connection hc
  simp only [TcpConnection.identity, Prod.mk.injEq] at hid
  exact ⟨connection', hc', hid.2.2.2.trans hA, hid.1.trans hcls⟩

end Owned

/-- A session that opens a connection has it. -/
theorem Client.connection_id?_of_opening {pc : Client} {c : ConnectionId}
    (h : pc.opening? = some c) : pc.connection_id? = some c := by
  cases pc <;> first | exact h | cases h

/-- A session in its loop has its connection. -/
theorem Client.connection_id?_of_connected {pc : Client} {c : ConnectionId}
    (h : pc.connected? = some c) : pc.connection_id? = some c := by
  cases pc <;> first | exact h | cases h

/-- A session that has left its loop has its connection. -/
theorem Client.connection_id?_of_leaving {pc : Client} {c : ConnectionId}
    (h : pc.leaving? = some c) : pc.connection_id? = some c := by
  cases pc <;> first | exact h | cases h

/-- A session that has not been given a connection has none. -/
theorem Client.unconnected_id {pc : Client} (h : pc.unconnected = true) :
    pc.connection_id? = none := by
  cases pc with
  | finished i result =>
    cases i with
    | none => rfl
    | some c => cases h
  | _ => first | rfl | cases h

/-- A session that has not been given a connection is at no stage of one. -/
theorem Client.unconnected_stages {pc : Client} (h : pc.unconnected = true) :
    pc.opening? = none ∧ pc.connected? = none ∧ pc.leaving? = none := by
  cases pc <;> first | exact ⟨rfl, rfl, rfl⟩ | cases h

/-- The points of a session whose create call has raised; it ends there as well if it never makes
one. -/
def Client.failed : Client → Bool
  | .reportingError => true
  | .finished none _ => true
  | _ => false

/-- A session whose create call has raised has no connection. -/
theorem Client.failed_id {pc : Client} (h : pc.failed = true) : pc.connection_id? = none := by
  cases pc with
  | finished i result =>
    cases i with
    | none => rfl
    | some c => cases h
  | _ => first | rfl | cases h

/-- Who refers to which connection. -/
structure Ownership (s : RelayState) : Prop where
  active : ∀ c ∈ s.relay.active_relayed_connections, (s.relay.connection c).isSome = true
  queues : ∀ c ∈ s.relay.initiate_connection_answer_queues, (s.relay.connection c).isSome = true
  client : ∀ A pc c, s.client A = some pc → pc.connection_id? = some c → Owned s.relay c A
  access : ∀ c A, s.relay.active_access_client_connections c = some A → Owned s.relay c A
  reader : ∀ c reader, s.reader c = some reader → Owned s.relay c reader.access_client_connection
  opening : ∀ A pc c, s.client A = some pc → pc.opening? = some c →
    s.relay.active_access_client_connections c = none ∧ s.reader c = none
  connected : ∀ A pc c, s.client A = some pc → pc.connected? = some c →
    s.relay.active_access_client_connections c = some A ∧
      ∃ reader, s.reader c = some reader ∧ reader.cancelled = false
  leaving : ∀ A pc c, s.client A = some pc → pc.leaving? = some c →
    s.relay.active_access_client_connections c = none ∧ ∃ reader, s.reader c = some reader

variable {cfg : RelayConfig} {s s' : RelayState} {e : RelayEvent}

/-- A create call returns the id that it has made. -/
theorem CreateStep.returned {r r' : NetworkRelay} {pc : CreateConnection} {o : Outcome}
    {c : ConnectionId} (h : CreateStep cfg r pc o r' (.returned c)) : c = pc.connection_id := by
  generalize hres : Res.returned c = res at h
  cases h with
  | @answers r₁ m rest =>
    unfold CreateConnection.answered at hres
    cases m <;> cases hres
    rfl
  | requests | waits | requestFails => cases hres

/-- A create call that waits is for the same connection. -/
theorem CreateStep.parked {r r' : NetworkRelay} {pc pc' : CreateConnection} {o : Outcome}
    (h : CreateStep cfg r pc o r' (.parked pc')) :
    pc'.request = pc.request ∧ pc'.connection_id = pc.connection_id ∧
      pc'.agent_connection = pc.agent_connection := by
  generalize hres : Res.parked pc' = res at h
  cases h with
  | @answers r₁ m rest =>
    unfold CreateConnection.answered at hres
    cases m <;> cases hres
  | requests | waits =>
    cases hres
    exact ⟨rfl, rfl, rfl⟩
  | requestFails => cases hres

/-- How a session's step changes its stage. -/
inductive Moved (s : RelayState) (A : ClientSocket) (pc : Client) (s' : RelayState) : Prop
  /-- There is no connection yet, or the session has ended. -/
  | ended (pc' : Client) (hpc' : s'.client A = some pc')
      (hid : pc'.connection_id? = pc.connection_id? ∨
        (∃ binary call, pc = .creating binary call) ∧ pc'.failed = true)
      (hopening : pc'.opening? = none) (hconnected : pc'.connected? = none)
      (hleaving : pc'.leaving? = none)
      (haccess : ∀ c, s'.relay.active_access_client_connections c =
        s.relay.active_access_client_connections c)
      (hreader : s'.reader = s.reader)
  /-- A connection is created. -/
  | created (binary : Bool) (pc' : CreateConnection)
      (hpc' : s'.client A = some (.creating binary pc'))
      (hid : pc.connection_id? = none) (hnew : s.relay.connection pc'.connection_id = none)
      (howned : Owned s'.relay pc'.connection_id A)
      (haccess : ∀ c, s'.relay.active_access_client_connections c =
        s.relay.active_access_client_connections c)
      (hreader : s'.reader = s.reader)
      (hactive : pc'.connection_id ∈ s'.relay.active_relayed_connections)
  /-- The session stays in its stage, or goes on from the create call to the start message. -/
  | stays (pc' : Client) (hpc' : s'.client A = some pc')
      (hid : pc'.connection_id? = pc.connection_id?)
      (hopening : pc'.opening? = pc.opening?) (hconnected : pc'.connected? = pc.connected?)
      (hleaving : pc'.leaving? = pc.leaving?)
      (haccess : ∀ c, s'.relay.active_access_client_connections c =
        s.relay.active_access_client_connections c)
      (hreader : ∀ c reader, s.reader c = some reader → ∃ reader', s'.reader c = some reader' ∧
        reader'.access_client_connection = reader.access_client_connection ∧
        (pc.leaving? = some c ∨ reader' = reader))
      (hnone : ∀ c, s.reader c = none → s'.reader c = none)
      (hactive : pc.leaving? = none →
        s'.relay.active_relayed_connections = s.relay.active_relayed_connections)
  /-- The session enters its loop. -/
  | entered {binary c} (hpc : pc = .sendingStartOK binary c)
      (hpc' : s'.client A = some (.receiving c))
      (haccess : s'.relay.active_access_client_connections =
        Function.update s.relay.active_access_client_connections c (some A))
      (hreader : s'.reader = Function.update s.reader c
        (some { access_client_connection := A, binary }))
      (hactive : s'.relay.active_relayed_connections = s.relay.active_relayed_connections)
  /-- The session leaves its loop. -/
  | left {c} (pc' : Client) (hpc : pc.connected? = some c) (hpc' : s'.client A = some pc')
      (hleaving : pc'.leaving? = some c) (hopening : pc'.opening? = none)
      (hconnected : pc'.connected? = none)
      (haccess : s'.relay.active_access_client_connections =
        Function.update s.relay.active_access_client_connections c none)
      (hreader : s'.reader = s.reader)

variable {A : ClientSocket} {pc : Client}

namespace Moved

/-- A session that stays in its stage and leaves the readers alone. -/
theorem of_stage (pc' : Client) (hpc' : s'.client A = some pc')
    (hid : pc'.connection_id? = pc.connection_id?) (hopening : pc'.opening? = pc.opening?)
    (hconnected : pc'.connected? = pc.connected?) (hleaving : pc'.leaving? = pc.leaving?)
    (haccess : s'.relay.active_access_client_connections =
      s.relay.active_access_client_connections)
    (hreader : s'.reader = s.reader)
    (hactive : pc.leaving? = none →
      s'.relay.active_relayed_connections = s.relay.active_relayed_connections) :
    Moved s A pc s' := by
  refine .stays pc' hpc' hid hopening hconnected hleaving (congrFun haccess)
    (fun c reader hr => ⟨reader, ?_, rfl, .inr rfl⟩) (fun c hr => ?_) hactive
  · rw [hreader]
    exact hr
  · rw [hreader]
    exact hr

/-- A session that ends, with a connection that it had. -/
theorem of_finished {c : ConnectionId} (hpc : pc.connection_id? = some c)
    (result : Except Exc Unit) : Moved s A pc (s.setClient A (.finished (some c) result)) :=
  .ended (.finished (some c) result) (by simp) (.inl hpc.symm) rfl rfl rfl (fun _ => rfl) rfl

/-- A session that is back at its loop's condition. -/
theorem of_continueLoop {c : ConnectionId} (s₁ : RelayState) (hpc : pc.connected? = some c)
    (hid : pc.connection_id? = some c) (hopening : pc.opening? = none)
    (hleaving : pc.leaving? = none)
    (haccess : s₁.relay.active_access_client_connections =
      s.relay.active_access_client_connections)
    (hactive : s₁.relay.active_relayed_connections = s.relay.active_relayed_connections)
    (hreader : s₁.reader = s.reader) (agent : AgentSocket) :
    Moved s A pc (s₁.continueLoop A c agent) := by
  -- The loop goes on if the connection is active, and the session leaves it otherwise.
  rcases continueLoop_cases s₁ A c agent with ⟨B, -, heq⟩ | ⟨-, r', send, heq, same, -⟩
  · rw [heq]
    exact .of_stage (.receiving c) (by simp) hid.symm hopening.symm hpc.symm hleaving.symm
      haccess hreader fun _ => hactive
  · rw [heq]
    refine .left (.closing c (.informing send)) hpc (by simp) rfl rfl rfl ?_ hreader
    rw [← haccess]
    exact same.access

/-- A session whose send of its access client's data has parked, returned or raised. -/
theorem of_forwarded {c : ConnectionId} {agent : AgentSocket} {message : Except Exc ToAgent}
    {r' : NetworkRelay} (res : Res LockedSend Unit Exc) (hpc : pc.connected? = some c)
    (hid : pc.connection_id? = some c) (hopening : pc.opening? = none)
    (hleaving : pc.leaving? = none) (same : s.relay.SameButSends r') :
    Moved s A pc (s.forwarded A c agent message (r', res)) := by
  cases res with
  | returned a =>
    exact .of_continueLoop (s.withRelay r') hpc hid hopening hleaving same.access same.active rfl
      agent
  | parked send =>
    exact .of_stage (.forwarding c message send) (by simp [forwarded]) hid.symm hopening.symm
      hpc.symm hleaving.symm same.access rfl fun _ => same.active
  | raised e =>
    exact .ended (.finished (some c) (.error e)) (by simp [forwarded]) (.inl hid.symm) rfl rfl rfl
      (congrFun same.access) rfl

/-- A session whose create call has run on. -/
theorem of_created {binary : Bool} {call : CreateConnection} {o : Outcome} {r' : NetworkRelay}
    {res : Res CreateConnection ConnectionId Exc} (h : CreateStep cfg s.relay call o r' res) :
    Moved s A (.creating binary call) (s.created A binary (r', res)) := by
  have haccess := h.frame.access
  cases res with
  | parked call' =>
    have hid := congrArg some h.parked.2.1
    exact .of_stage (.creating binary call') (by simp [RelayState.created]) hid hid rfl rfl haccess
      rfl
      fun _ => h.frame.active
  | returned c =>
    have hid := congrArg some h.returned
    exact .of_stage (.sendingStartOK binary c)
      (by simp [RelayState.created]) hid hid rfl rfl haccess
      rfl fun _ => h.frame.active
  | raised e =>
    cases e with
    -- The error is reported to the access client, and the session ends without a connection.
    | valueError text =>
      exact .ended .reportingError (by simp [RelayState.created])
        (.inr ⟨⟨_, _, rfl⟩, rfl⟩) rfl rfl rfl
        (congrFun haccess) rfl
    | _ =>
      exact .ended _ (Function.update_self _ _ _) (.inr ⟨⟨_, _, rfl⟩, rfl⟩) rfl rfl rfl
        (congrFun haccess) rfl

/-- A session whose close of its connection has run on. -/
theorem of_connectionClosed {c : ConnectionId} {close : CloseRelayedConnection}
    {r' : NetworkRelay} (res : Res CloseRelayedConnection Unit Exc)
    (haccess : r'.active_access_client_connections = s.relay.active_access_client_connections) :
    Moved s A (.closing c close) (s.connectionClosed A c (r', res)) := by
  cases res with
  | parked close' =>
    exact .of_stage (.closing c close') (by simp [connectionClosed]) rfl rfl rfl rfl haccess
      rfl fun hleaving => by cases hleaving
  | returned a =>
    exact .of_stage (.closingClient c) (by simp [connectionClosed]) rfl rfl rfl rfl haccess
      rfl fun hleaving => by cases hleaving
  | raised e =>
    exact .ended (.finished (some c) (.error e)) (by simp [connectionClosed]) (.inl rfl) rfl rfl rfl
      (congrFun haccess) rfl

/-- A session that cancels its reader. -/
theorem of_cancels {c : ConnectionId} {reader : Reader} (hr : s.reader c = some reader) :
    Moved s A (.joining c)
      ((s.setReader c { reader with cancelled := true }).setClient A (.cancelling c)) := by
  refine .stays (.cancelling c) (by simp) rfl rfl rfl rfl (fun _ => rfl) ?_ ?_ fun _ => rfl
  · intro c' reader' hr'
    -- Only the reader of the session's own connection is cancelled, and only by a leaving session.
    by_cases hcc : c' = c
    · subst hcc
      obtain rfl := Option.some.inj (hr.symm.trans hr')
      exact ⟨{ reader with cancelled := true }, by simp, rfl, .inl rfl⟩
    · exact ⟨reader', by simp [hcc, hr'], rfl, .inr rfl⟩
  · intro c' hr'
    have hcc : c' ≠ c := by
      rintro rfl
      rw [hr] at hr'
      cases hr'
    simp [hcc, hr']

end Moved

/-- Every step of a session moves it on or leaves it in its stage. -/
theorem ClientRule.moved {o : Outcome} (h : ClientRule cfg s A pc o s') : Moved s A pc s' := by
  cases h with
  | @advances _ _ pc' hun₀ hun =>
    obtain ⟨hopening, hconnected, hleaving⟩ := Client.unconnected_stages hun
    have hid := (Client.unconnected_id hun).trans (Client.unconnected_id hun₀).symm
    exact .ended pc' (by simp) (.inl hid) hopening hconnected hleaving (fun _ => rfl) rfl
  | refuses hpc =>
    refine .ended .refusing (by simp) (.inl ?_) rfl rfl rfl (fun _ => rfl) rfl
    rcases hpc with ⟨m, rfl⟩ | rfl <;> rfl
  | unregistered =>
    exact .ended .reportingUnregistered (by simp) (.inl rfl) rfl rfl rfl (fun _ => rfl) rfl
  | @opens m c r' send request agent hfresh hreg hcls same =>
    have hnone := Option.isNone_iff_eq_none.mp (Bool.and_eq_true_iff.mp hfresh).1
    have hconn : r'.connection c =
        some (newConnection s.relay (.client A) request agent) := by
      rw [same.connection]
      simp
    have hactive : c ∈ r'.active_relayed_connections := by
      rw [same.active]
      simp
    exact .created (decide (m.supports_binary = some true)) ⟨request, c, agent, .sending send⟩
      (by simp) rfl hnone ⟨_, hconn, rfl, hcls⟩ (congrFun same.access) rfl hactive
  | creating h => exact .of_created h
  | starts => exact .entered rfl (by simp [startReader]) rfl rfl rfl
  | @disconnects c _ _ r' send _ _ same =>
    exact .left (.closing c (.informing send)) rfl (by simp) rfl rfl rfl same.access rfl
  | ignores => exact .of_continueLoop s rfl rfl rfl rfl rfl rfl rfl _
  | forwards _ _ h | forwarding _ h => exact .of_forwarded _ rfl rfl rfl rfl h.same
  | closing _ h => exact .of_connectionClosed _ h.untouched.access
  | @clientClosed c =>
    exact .of_stage (.joining c) (by simp) rfl rfl rfl rfl rfl rfl fun _ => rfl
  | cancels hr => exact .of_cancels hr
  | startFails | receiveFails | malformed | closeFails => exact .of_finished rfl _
  | joined hpc =>
    refine .of_finished ?_ _
    rcases hpc with rfl | rfl <;> rfl

/-- A step of a reader moves its point only. -/
theorem ReaderRule.point {c : ConnectionId} {connection : TcpConnection} {reader : Reader}
    {o : Outcome} (h : ReaderRule s c connection reader o s') :
    ∃ point, s'.reader c = some { reader with point } := by
  cases h with
  | sends => exact ⟨.sending, by simp⟩
  | parks => exact ⟨.parked, by simp⟩
  | ends => exact ⟨.finished, by simp [readerEnds]⟩
  | dies => exact ⟨.finished, by simp⟩

/-- A step of a session, by what it does to the session. -/
theorem moved_of_run {A : ClientSocket} {o : Outcome}
    (h : RelayRule cfg s (.run (.client A) o) s') :
    ∃ pc, s.client A = some pc ∧ Moved s A pc s' := by
  cases h with
  | client hpc h => exact ⟨_, hpc, h.moved⟩

/-- A step of a reader, by what it does to the reader's slot. -/
theorem point_of_run {c : ConnectionId} {o : Outcome}
    (h : RelayRule cfg s (.run (.reader c) o) s') :
    ∃ reader point, s.reader c = some reader ∧ s'.reader c = some { reader with point } := by
  cases h with
  | reader hpc _ h =>
    obtain ⟨point, hpoint⟩ := h.point
    exact ⟨_, point, hpc, hpoint⟩

namespace Ownership

/-- The initial state has no connections. -/
theorem initial : Ownership {} where
  active := by simp
  queues := by simp
  client := by simp
  access := by simp
  reader := by simp
  opening := by simp
  connected := by simp
  leaving := by simp

/-- No other session has the connection of the session of `A`. -/
theorem not_other (hI : Ownership s) {A : ClientSocket} {c : ConnectionId} (hA : Owned s.relay c A)
    (hrun : ∀ o, e ≠ .run (.client A) o) : ∀ B o pc, e = .run (.client B) o →
      s.client B = some pc → pc.connection_id? ≠ some c := by
  intro B o pc he hpc hid
  have hB := hI.client B pc c hpc hid
  rw [hA.unique hB] at hrun
  exact hrun o he

/-- The slot of a session after a step of another task. -/
theorem client_other (h : RelayRule cfg s e s') {A : ClientSocket} {pc : Client}
    (hrun : ∀ o, e ≠ .run (.client A) o) (hpc : s'.client A = some pc)
    (hid : ∃ c, pc.connection_id? = some c) : s.client A = some pc := by
  have hconn : e ≠ .clientConnects A := by
    rintro rfl
    obtain ⟨c, hc⟩ := hid
    cases h with
    | clientConnects =>
      obtain rfl : Client.accepting = pc := by simpa using hpc
      cases hc
  rw [← client_frame h hrun hconn]
  exact hpc

/-- The connection of a session is that of its access client. -/
theorem client_step (hI : Ownership s) (h : RelayRule cfg s e s') {A : ClientSocket} {pc' : Client}
    {c : ConnectionId} (hpc' : s'.client A = some pc') (hid : pc'.connection_id? = some c) :
    Owned s'.relay c A := by
  by_cases hrun : ∃ o, e = .run (.client A) o
  · obtain ⟨o, rfl⟩ := hrun
    have hev := h.evolves
    obtain ⟨pc, hpc, hmoved⟩ := moved_of_run h
    -- Entries keep their identity, so that what was owned before the step still is.
    have hold : pc'.connection_id? = pc.connection_id? → Owned s'.relay c A := by
      intro heq
      rw [heq] at hid
      exact (hI.client A pc c hpc hid).evolves hev
    cases hmoved with
    | ended pc₁ hpc₁ hid₁ =>
      obtain rfl := Option.some.inj (hpc₁.symm.trans hpc')
      rcases hid₁ with heq | ⟨-, hfailed⟩
      · exact hold heq
      · rw [Client.failed_id hfailed] at hid
        cases hid
    -- The call is made in the name of this session.
    | created binary pc₁ hpc₁ _ _ howned =>
      obtain rfl := Option.some.inj (hpc₁.symm.trans hpc')
      obtain rfl := Option.some.inj hid
      exact howned
    | stays pc₁ hpc₁ hid₁ =>
      obtain rfl := Option.some.inj (hpc₁.symm.trans hpc')
      exact hold hid₁
    | entered hpc₀ hpc₁ =>
      obtain rfl := Option.some.inj (hpc₁.symm.trans hpc')
      subst hpc₀
      exact hold rfl
    | left pc₁ hpc₀ hpc₁ hleaving =>
      obtain rfl := Option.some.inj (hpc₁.symm.trans hpc')
      refine hold ?_
      rw [Client.connection_id?_of_leaving hleaving, Client.connection_id?_of_connected hpc₀]
  · have hrun : ∀ o, e ≠ .run (.client A) o := fun o he => hrun ⟨o, he⟩
    -- Another task runs, and the session stays where it is.
    have hpc := client_other h hrun hpc' ⟨c, hid⟩
    exact (hI.client A pc' c hpc hid).evolves h.evolves

/-- An entry was there before, or its session has just entered its loop. -/
theorem access_before (h : RelayRule cfg s e s') {A : ClientSocket} {c : ConnectionId}
    (hA : s'.relay.active_access_client_connections c = some A) :
    s.relay.active_access_client_connections c = some A ∨ s'.client A = some (.receiving c) := by
  by_cases hclient : ∃ B o pc, e = .run (.client B) o ∧ s.client B = some pc ∧
      pc.connection_id? = some c
  · obtain ⟨B, o, pc, rfl, hpc, hid⟩ := hclient
    obtain ⟨pc₀, hpc₀, hmoved⟩ := moved_of_run h
    obtain rfl := Option.some.inj (hpc.symm.trans hpc₀)
    cases hmoved with
    | ended _ _ _ _ _ _ haccess => exact .inl ((haccess c).symm.trans hA)
    | created _ _ _ _ _ _ haccess => exact .inl ((haccess c).symm.trans hA)
    | stays _ _ _ _ _ _ haccess => exact .inl ((haccess c).symm.trans hA)
    | @entered binary c₁ hpc₁ hpc' haccess =>
      rw [haccess] at hA
      -- Entering its loop, a session writes the entry of its own connection.
      by_cases hcc : c = c₁
      · subst hcc
        rw [Function.update_self] at hA
        obtain rfl := Option.some.inj hA
        exact .inr hpc'
      · rw [Function.update_of_ne hcc] at hA
        exact .inl hA
    | @left c₁ _ _ _ _ _ _ haccess =>
      rw [haccess] at hA
      -- Leaving it, the session removes this entry.
      by_cases hcc : c = c₁
      · subst hcc
        rw [Function.update_self] at hA
        cases hA
      · rw [Function.update_of_ne hcc] at hA
        exact .inl hA
  · rw [access_frame h fun B o pc he hpc hid => hclient ⟨B, o, pc, he, hpc, hid⟩] at hA
    exact .inl hA

/-- A registered access client is that of its connection. -/
theorem access_step (hI : Ownership s) (h : RelayRule cfg s e s') {A : ClientSocket}
    {c : ConnectionId} (hA : s'.relay.active_access_client_connections c = some A) :
    Owned s'.relay c A := by
  rcases access_before h hA with hA | hpc'
  · exact (hI.access c A hA).evolves h.evolves
  · exact hI.client_step h hpc' rfl

/-- A reader was there before, or its session has just entered its loop. -/
theorem reader_before (h : RelayRule cfg s e s') {c : ConnectionId} {reader' : Reader}
    (hr : s'.reader c = some reader') :
    (∃ reader, s.reader c = some reader ∧
        reader'.access_client_connection = reader.access_client_connection) ∨
      s'.client reader'.access_client_connection = some (.receiving c) := by
  by_cases hrun : ∃ o, e = .run (.reader c) o
  · obtain ⟨o, rfl⟩ := hrun
    obtain ⟨reader, point, hreader, hr'⟩ := point_of_run h
    obtain rfl := Option.some.inj (hr'.symm.trans hr)
    exact .inl ⟨reader, hreader, rfl⟩
  by_cases hclient : ∃ B o pc, e = .run (.client B) o ∧ s.client B = some pc ∧
      pc.connection_id? = some c
  · obtain ⟨B, o, pc, rfl, hpc, hid⟩ := hclient
    obtain ⟨pc₀, hpc₀, hmoved⟩ := moved_of_run h
    obtain rfl := Option.some.inj (hpc.symm.trans hpc₀)
    cases hmoved with
    | ended _ _ _ _ _ _ _ hreader => exact .inl ⟨_, (congrFun hreader c).symm.trans hr, rfl⟩
    | created _ _ _ _ _ _ _ hreader => exact .inl ⟨_, (congrFun hreader c).symm.trans hr, rfl⟩
    -- A session that stays may cancel its reader, but starts none.
    | stays _ _ _ _ _ _ _ hreader hnone =>
      cases hs : s.reader c with
      | none =>
        rw [hnone c hs] at hr
        cases hr
      | some reader =>
        obtain ⟨reader₁, hr₁, heq, -⟩ := hreader c reader hs
        obtain rfl := Option.some.inj (hr₁.symm.trans hr)
        exact .inl ⟨reader, rfl, heq⟩
    | @entered binary c₁ _ hpc' _ hreader =>
      rw [hreader] at hr
      -- The reader is created where the loop is entered.
      by_cases hcc : c = c₁
      · subst hcc
        rw [Function.update_self] at hr
        obtain rfl := Option.some.inj hr
        exact .inr hpc'
      · rw [Function.update_of_ne hcc] at hr
        exact .inl ⟨_, hr, rfl⟩
    | left _ _ _ _ _ _ _ hreader => exact .inl ⟨_, (congrFun hreader c).symm.trans hr, rfl⟩
  · have hframe := reader_frame h (fun o he => hrun ⟨o, he⟩)
      fun B o pc he hpc hid => hclient ⟨B, o, pc, he, hpc, hid⟩
    rw [hframe] at hr
    exact .inl ⟨_, hr, rfl⟩

/-- A reader forwards to the access client of its connection. -/
theorem reader_step (hI : Ownership s) (h : RelayRule cfg s e s') {c : ConnectionId}
    {reader' : Reader} (hr : s'.reader c = some reader') :
    Owned s'.relay c reader'.access_client_connection := by
  rcases reader_before h hr with ⟨reader, hreader, heq⟩ | hpc'
  · rw [heq]
    exact (hI.reader c reader hreader).evolves h.evolves
  · exact hI.client_step h hpc' rfl

/-- The entry and the reader of a session's connection after a step of another task. -/
theorem stage_other (hI : Ownership s) (h : RelayRule cfg s e s') {A : ClientSocket}
    {c : ConnectionId} (hA : Owned s.relay c A) (hrun : ∀ o, e ≠ .run (.client A) o) :
    s'.relay.active_access_client_connections c = s.relay.active_access_client_connections c ∧
      (s.reader c = none → s'.reader c = none) ∧
      ∀ reader, s.reader c = some reader → ∃ point, s'.reader c = some { reader with point } := by
  have hother := hI.not_other hA hrun
  refine ⟨access_frame h hother, ?_⟩
  -- The reader itself moves on and keeps what it was started with, and others leave it alone.
  by_cases hreader : ∃ o, e = .run (.reader c) o
  · obtain ⟨o, rfl⟩ := hreader
    obtain ⟨reader, point, hr, hr'⟩ := point_of_run h
    refine ⟨fun hnone => ?_, fun reader₁ hr₁ => ?_⟩
    · rw [hr] at hnone
      cases hnone
    · obtain rfl := Option.some.inj (hr.symm.trans hr₁)
      exact ⟨point, hr'⟩
  · have hframe := reader_frame h (fun o he => hreader ⟨o, he⟩) hother
    rw [hframe]
    exact ⟨id, fun reader hr => ⟨reader.point, hr⟩⟩

/-- A connection that is being opened has neither its access client nor its reader. -/
theorem opening_step (hI : Ownership s) (h : RelayRule cfg s e s') {A : ClientSocket} {pc' : Client}
    {c : ConnectionId} (hpc' : s'.client A = some pc') (hop : pc'.opening? = some c) :
    s'.relay.active_access_client_connections c = none ∧ s'.reader c = none := by
  by_cases hrun : ∃ o, e = .run (.client A) o
  · obtain ⟨o, rfl⟩ := hrun
    obtain ⟨pc, hpc, hmoved⟩ := moved_of_run h
    cases hmoved with
    | ended pc₁ hpc₁ _ hopening =>
      obtain rfl := Option.some.inj (hpc₁.symm.trans hpc')
      rw [hopening] at hop
      cases hop
    | created binary pc₁ hpc₁ _ hnew _ haccess hreader =>
      obtain rfl := Option.some.inj (hpc₁.symm.trans hpc')
      obtain rfl := Option.some.inj hop
      -- An entry or a reader would refer to a connection that does not exist yet.
      constructor
      · rw [haccess]
        cases hA : s.relay.active_access_client_connections pc₁.connection_id with
        | none => rfl
        | some B =>
          obtain ⟨connection, hc, -⟩ := hI.access _ _ hA
          rw [hnew] at hc
          cases hc
      · rw [hreader]
        cases hr : s.reader pc₁.connection_id with
        | none => rfl
        | some reader =>
          obtain ⟨connection, hc, -⟩ := hI.reader _ _ hr
          rw [hnew] at hc
          cases hc
    | stays pc₁ hpc₁ _ hopening _ _ haccess _ hnone =>
      obtain rfl := Option.some.inj (hpc₁.symm.trans hpc')
      obtain ⟨hA, hr⟩ := hI.opening A pc c hpc (hopening.symm.trans hop)
      exact ⟨(haccess c).trans hA, hnone c hr⟩
    | entered _ hpc₁ =>
      obtain rfl := Option.some.inj (hpc₁.symm.trans hpc')
      cases hop
    | left pc₁ _ hpc₁ _ hopening =>
      obtain rfl := Option.some.inj (hpc₁.symm.trans hpc')
      rw [hopening] at hop
      cases hop
  · have hrun : ∀ o, e ≠ .run (.client A) o := fun o he => hrun ⟨o, he⟩
    have hid := Client.connection_id?_of_opening hop
    have hpc := client_other h hrun hpc' ⟨c, hid⟩
    obtain ⟨hA, hr⟩ := hI.opening A pc' c hpc hop
    -- The connection has this session as its owner, and no other task makes an entry for it.
    obtain ⟨haccess, hnone, -⟩ := hI.stage_other h (hI.client A pc' c hpc hid) hrun
    exact ⟨haccess.trans hA, hnone hr⟩

/-- A connection in its loop has its access client and a reader that is not cancelled. -/
theorem connected_step (hI : Ownership s) (h : RelayRule cfg s e s') {A : ClientSocket}
    {pc' : Client} {c : ConnectionId} (hpc' : s'.client A = some pc')
    (hcon : pc'.connected? = some c) :
    s'.relay.active_access_client_connections c = some A ∧
      ∃ reader, s'.reader c = some reader ∧ reader.cancelled = false := by
  by_cases hrun : ∃ o, e = .run (.client A) o
  · obtain ⟨o, rfl⟩ := hrun
    obtain ⟨pc, hpc, hmoved⟩ := moved_of_run h
    cases hmoved with
    | ended pc₁ hpc₁ _ _ hconnected =>
      obtain rfl := Option.some.inj (hpc₁.symm.trans hpc')
      rw [hconnected] at hcon
      cases hcon
    | created binary pc₁ hpc₁ =>
      obtain rfl := Option.some.inj (hpc₁.symm.trans hpc')
      cases hcon
    | stays pc₁ hpc₁ _ _ hconnected _ haccess hreader =>
      obtain rfl := Option.some.inj (hpc₁.symm.trans hpc')
      rw [hconnected] at hcon
      obtain ⟨hA, reader, hr, hlive⟩ := hI.connected A pc c hpc hcon
      refine ⟨(haccess c).trans hA, ?_⟩
      -- A session cancels its reader only when it is leaving.
      obtain ⟨reader₁, hr₁, -, hleaving | rfl⟩ := hreader c reader hr
      · cases pc <;> first | cases hcon; done | cases hleaving
      · exact ⟨reader₁, hr₁, hlive⟩
    | @entered binary c₁ _ hpc₁ haccess hreader =>
      obtain rfl := Option.some.inj (hpc₁.symm.trans hpc')
      obtain rfl := Option.some.inj hcon
      rw [haccess, hreader]
      exact ⟨Function.update_self _ _ _, _, Function.update_self _ _ _, rfl⟩
    | left pc₁ _ hpc₁ _ _ hconnected =>
      obtain rfl := Option.some.inj (hpc₁.symm.trans hpc')
      rw [hconnected] at hcon
      cases hcon
  · have hrun : ∀ o, e ≠ .run (.client A) o := fun o he => hrun ⟨o, he⟩
    have hid := Client.connection_id?_of_connected hcon
    have hpc := client_other h hrun hpc' ⟨c, hid⟩
    obtain ⟨hA, reader, hr, hlive⟩ := hI.connected A pc' c hpc hcon
    obtain ⟨haccess, -, hreader⟩ := hI.stage_other h (hI.client A pc' c hpc hid) hrun
    obtain ⟨point, hr'⟩ := hreader reader hr
    exact ⟨haccess.trans hA, _, hr', hlive⟩

/-- A connection that has left the loop has its reader, and no access client any more. -/
theorem leaving_step (hI : Ownership s) (h : RelayRule cfg s e s') {A : ClientSocket}
    {pc' : Client} {c : ConnectionId} (hpc' : s'.client A = some pc')
    (hleave : pc'.leaving? = some c) :
    s'.relay.active_access_client_connections c = none ∧ ∃ reader, s'.reader c = some reader := by
  by_cases hrun : ∃ o, e = .run (.client A) o
  · obtain ⟨o, rfl⟩ := hrun
    obtain ⟨pc, hpc, hmoved⟩ := moved_of_run h
    cases hmoved with
    | ended pc₁ hpc₁ _ _ _ hleaving =>
      obtain rfl := Option.some.inj (hpc₁.symm.trans hpc')
      rw [hleaving] at hleave
      cases hleave
    | created binary pc₁ hpc₁ =>
      obtain rfl := Option.some.inj (hpc₁.symm.trans hpc')
      cases hleave
    | stays pc₁ hpc₁ _ _ _ hleaving haccess hreader =>
      obtain rfl := Option.some.inj (hpc₁.symm.trans hpc')
      obtain ⟨hA, reader, hr⟩ := hI.leaving A pc c hpc (hleaving.symm.trans hleave)
      obtain ⟨reader₁, hr₁, -⟩ := hreader c reader hr
      exact ⟨(haccess c).trans hA, reader₁, hr₁⟩
    | entered _ hpc₁ =>
      obtain rfl := Option.some.inj (hpc₁.symm.trans hpc')
      cases hleave
    | @left c₁ pc₁ hcon hpc₁ hleaving _ _ haccess hreader =>
      obtain rfl := Option.some.inj (hpc₁.symm.trans hpc')
      obtain rfl := Option.some.inj (hleaving.symm.trans hleave)
      -- The reader was running in the loop, and the drop leaves it to be awaited.
      obtain ⟨-, reader, hr, -⟩ := hI.connected A pc c₁ hpc hcon
      rw [haccess, hreader]
      exact ⟨Function.update_self _ _ _, reader, hr⟩
  · have hrun : ∀ o, e ≠ .run (.client A) o := fun o he => hrun ⟨o, he⟩
    have hid := Client.connection_id?_of_leaving hleave
    have hpc := client_other h hrun hpc' ⟨c, hid⟩
    obtain ⟨hA, reader, hr⟩ := hI.leaving A pc' c hpc hleave
    obtain ⟨haccess, -, hreader⟩ := hI.stage_other h (hI.client A pc' c hpc hid) hrun
    obtain ⟨point, hr'⟩ := hreader reader hr
    exact ⟨haccess.trans hA, _, hr'⟩

/-- Every step keeps the invariant. -/
theorem preserved (hI : Ownership s) (h : RelayRule cfg s e s') : Ownership s' where
  active c hc := by
    rcases h.evolves.active c hc with hold | ⟨-, hsome⟩
    · exact h.evolves.connection_isSome (hI.active c hold)
    · exact hsome
  queues c hc := by
    rcases h.evolves.queues c hc with hold | ⟨-, hsome⟩
    · exact h.evolves.connection_isSome (hI.queues c hold)
    · exact hsome
  client _ _ _ hpc hid := hI.client_step h hpc hid
  access _ _ hA := hI.access_step h hA
  reader _ _ hr := hI.reader_step h hr
  opening _ _ _ hpc hop := hI.opening_step h hpc hop
  connected _ _ _ hpc hcon := hI.connected_step h hpc hcon
  leaving _ _ _ hpc hleave := hI.leaving_step h hpc hleave

end Ownership

/-- Every reached state, whatever the assumption about the events. -/
theorem ownership {ok : RelayState → RelayEvent → Prop} (h : Reaches (step cfg) ok {} s) :
    Ownership s :=
  h.invariant .initial fun _ _ _ _ _ hstep hI => hI.preserved (step_rule hstep)

end HttpNetworkRelay
