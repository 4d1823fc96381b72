import HttpNetworkRelay.Relay.Ownership

/-!
# What a session leaves behind

`ws_for_access_clients` has one orderly exit, through the disconnect of its access client, on which
it removes its entry, informs the agent, drops the connection and waits for the reader. An exception
that leaves the handler anywhere else skips these steps. `OrderlyExit` says of an event that it
makes no session take such an exit, and `sessions_clean_up` that the sessions of a run of such
events leave nothing behind.
-/

namespace HttpNetworkRelay

open Asyncio Python RelayState NetworkRelay

/-- No exception leaves the handler of a session: the start message is sent, `receive` raises
`WebSocketDisconnect` only, every frame is well formed, forwarding succeeds, and the closes raise
only what they tolerate. -/
def OrderlyExit (s : RelayState) : RelayEvent → Bool
  | .run (.client A) o =>
    match s.client A, o with
    | some (.sendingStartOK _ _), .raised _ => false
    | some (.receiving _), .raised e => e = .webSocketDisconnect
    | some (.receiving _), .frame content => !content.malformed
    | some (.forwarding _ _ _), .raised _ => false
    | some (.closing _ (.informing _)), .raised e => e.isGone
    | some (.closingClient _), .raised e => e.isClosed
    | _, _ => true
  | _ => true

/-- The close message for a connection has been handed to the websocket of its agent. -/
def Informed (r : NetworkRelay) (c : ConnectionId) : Prop :=
  ∃ connection, r.connection c = some connection ∧
    closeMessage c ∈ r.to_agent connection.agent_connection

/-- A session that has finished has left nothing behind: neither dictionary has its connection, its
reader has finished, and its agent has been informed. -/
def CleanedUp (s : RelayState) : Prop :=
  ∀ A c result, s.client A = some (.finished (some c) result) →
    s.relay.active_access_client_connections c = none ∧
    c ∉ s.relay.active_relayed_connections ∧
    (∀ reader, s.reader c = some reader → reader.point = .finished) ∧
    Informed s.relay c

section

variable {r r' : NetworkRelay} {c : ConnectionId}

/-- An agent that has been informed stays so. -/
theorem Informed.evolves (h : Informed r c) (hev : Evolves r r') : Informed r' c := by
  obtain ⟨connection, hc, hsent⟩ := h
  obtain ⟨connection', hc', hid⟩ := hev.connection c connection hc
  have hagent : connection'.agent_connection = connection.agent_connection :=
    congrArg (fun identity => identity.2.1) hid
  refine ⟨connection', hc', ?_⟩
  rw [hagent]
  exact (hev.to_agent _).subset hsent

/-- An id that has had a connection object does not become active again. -/
theorem not_active_evolves (h : c ∉ r.active_relayed_connections) {connection : TcpConnection}
    (hc : r.connection c = some connection) (hev : Evolves r r') :
    c ∉ r'.active_relayed_connections := by
  intro hactive
  rcases hev.active c hactive with hold | ⟨hnone, -⟩
  · exact h hold
  · rw [hc] at hnone
    cases hnone

/-- Sending the close message informs the agent. -/
theorem Informed.of_sendToAgent {connection : TcpConnection}
    (hc : r.connection c = some connection) (hsame : r'.connection = r.connection)
    (out : r'.toAgentOutput =
      (r.sendToAgent connection.agent_connection (closeMessage c)).toAgentOutput) :
    Informed r' c := by
  refine ⟨connection, ?_, ?_⟩
  · rw [hsame]
    exact hc
  · rw [out]
    simp

end

variable {cfg : RelayConfig} {s s' : RelayState} {e : RelayEvent}

/-- What is known of a session at each of its suspension points, on its orderly exit. -/
def Client.Orderly (s : RelayState) : Client → Prop
  | .forwarding _ message _ => ∃ m, message = .ok m
  | .closing _ (.informing (.acquiring _)) => True
  | .closing c (.informing (.sending _)) => Informed s.relay c
  | .closing _ .closingClient => False
  | .closingClient c | .joining c | .cancelling c =>
    Informed s.relay c ∧ c ∉ s.relay.active_relayed_connections
  | .finished (some c) _ =>
    Informed s.relay c ∧ c ∉ s.relay.active_relayed_connections ∧
      s.relay.active_access_client_connections c = none ∧
      ∃ reader, s.reader c = some reader ∧ reader.point = .finished
  | _ => True

/-- The invariant of a run without disorderly exits. -/
structure OrderlySessions (s : RelayState) : Prop where
  canonical : ∀ c, (s.relay.connection c).isSome = true → canonical c = true
  client : ∀ A pc, s.client A = some pc → pc.Orderly s

/-- A reader that has finished stays so. -/
theorem reader_stays_finished (h : RelayRule cfg s e s') (hI : Ownership s) {A : ClientSocket}
    {c : ConnectionId} (hA : Owned s.relay c A) (hrun : ∀ o, e ≠ .run (.client A) o)
    {reader : Reader} (hr : s.reader c = some reader) (hpoint : reader.point = .finished) :
    s'.reader c = some reader := by
  -- A reader that has finished takes no step.
  have hreader : ∀ o, e ≠ .run (.reader c) o := by
    rintro o rfl
    cases h with
    | reader hpc _ h =>
      obtain rfl := Option.some.inj (hr.symm.trans hpc)
      cases h with
      | sends hne | parks hne | ends hne => exact hne hpoint
      | dies hready =>
        rw [hpoint] at hready
        cases hready
  rw [reader_frame h hreader (hI.not_other hA hrun)]
  exact hr

/-- What is known of a session stays true when another task makes a step. -/
theorem Client.Orderly.other {pc : Client} {A : ClientSocket} (hpc : pc.Orderly s)
    (hI : Ownership s) (h : RelayRule cfg s e s') (hclient : s.client A = some pc)
    (hrun : ∀ o, e ≠ .run (.client A) o) : pc.Orderly s' := by
  have hev := h.evolves
  -- What was sent stays sent, and a connection that was dropped is not active again.
  have hdropped : ∀ {c}, Informed s.relay c ∧ c ∉ s.relay.active_relayed_connections →
      Informed s'.relay c ∧ c ∉ s'.relay.active_relayed_connections := by
    intro c ⟨hinformed, hactive⟩
    have ⟨connection, hc, _⟩ := hinformed
    exact ⟨hinformed.evolves hev, not_active_evolves hactive hc hev⟩
  cases pc with
  | forwarding c message send => exact hpc
  | closing c pc =>
    cases pc with
    | informing send =>
      cases send with
      | acquiring l => trivial
      | sending l => exact Informed.evolves hpc hev
    | closingClient => exact hpc
  | closingClient c | joining c | cancelling c => exact hdropped hpc
  | finished i result =>
    cases i with
    | none => trivial
    | some c =>
      -- The session has ended: no other task makes an entry or a reader for its connection.
      obtain ⟨hinformed, hactive, haccess, reader, hr, hpoint⟩ := hpc
      have howned := hI.client A _ c hclient rfl
      obtain ⟨haccess', -⟩ := hI.stage_other h howned hrun
      have hr' := reader_stays_finished h hI howned hrun hr hpoint
      obtain ⟨hinformed', hactive'⟩ := hdropped ⟨hinformed, hactive⟩
      exact ⟨hinformed', hactive', haccess'.trans haccess, reader, hr', hpoint⟩
  | accepting | receivingStart | checking | refusing | reportingUnregistered | creating
  | sendingStartOK | reportingError | receiving => trivial

/-- The message that forwards a piece of data encodes, as the relay's own ids are canonical. -/
theorem dataMessage_ok (hI : OrderlySessions s) {c : ConnectionId} {connection : TcpConnection}
    (hc : s.relay.connection c = some connection) (data : Bytes) :
    ∃ m, connection.dataMessage c data = .ok m := by
  have hcanonical := hI.canonical c (by rw [hc]; rfl)
  obtain ⟨frame, hframe⟩ := encode_tcp_binary_frame_ok hcanonical data
  unfold TcpConnection.dataMessage
  split
  · rw [hframe]
    exact ⟨_, rfl⟩
  · exact ⟨_, rfl⟩

/-- The session of `A` is at a point of its orderly exit. -/
def RelayState.OrderlyAt (s : RelayState) (A : ClientSocket) : Prop :=
  ∃ pc, s.client A = some pc ∧ pc.Orderly s

/-- The points before there is a connection ask for nothing. -/
theorem Client.Orderly.of_unconnected {pc : Client} (h : pc.unconnected = true) : pc.Orderly s := by
  cases pc with
  | finished i result =>
    cases i with
    | none => trivial
    | some c => cases h
  | accepting | receivingStart | checking | refusing | reportingUnregistered | reportingError =>
    trivial
  | creating | sendingStartOK | receiving | forwarding | closing | closingClient | joining
  | cancelling => cases h

namespace RelayState.OrderlyAt

variable {A : ClientSocket} {pc : Client} {o : Outcome} {c : ConnectionId}

/-- The loop's condition holds, since the session's entry is there until the session removes it. -/
theorem of_continueLoop {s₁ : RelayState} {agent : AgentSocket}
    (hA : s₁.relay.active_access_client_connections c = some A) :
    (s₁.continueLoop A c agent).OrderlyAt A := by
  rcases continueLoop_cases s₁ A c agent with ⟨B, -, hloop⟩ | ⟨hnone, -⟩
  · rw [hloop]
    exact ⟨.receiving c, by simp, trivial⟩
  · rw [hnone] at hA
    cases hA

/-- A send that does not raise leads back to the condition. -/
theorem of_forwarded {r' : NetworkRelay} {res : Res LockedSend Unit Exc} {agent : AgentSocket}
    {m : ToAgent} (hA : s.relay.active_access_client_connections c = some A)
    (hres : ∀ e, res ≠ .raised e) (same : s.relay.SameButSends r') :
    (s.forwarded A c agent (.ok m) (r', res)).OrderlyAt A := by
  cases res with
  | parked send => exact ⟨.forwarding c (.ok m) send, by simp [forwarded], m, rfl⟩
  | returned a => exact of_continueLoop ((congrFun same.access c).trans hA)
  | raised e => exact absurd rfl (hres e)

/-- The disconnect of the access client: the close message is handed over, or waits for the lock. -/
theorem of_disconnect {connection : TcpConnection} {r' : NetworkRelay} {send : LockedSend}
    (hc : s.relay.connection c = some connection)
    (same : ((s.relay._drop_relayed_connection c).access_client_connection_close c).SameButSends r')
    (hsend : Sending ((s.relay._drop_relayed_connection c).access_client_connection_close c)
      connection.agent_connection (closeMessage c) r' send) :
    ((s.withRelay r').setClient A (.closing c (.informing send))).OrderlyAt A := by
  refine ⟨.closing c (.informing send), by simp, ?_⟩
  cases send with
  | acquiring l => trivial
  -- The lock was free, and the close message is on the agent's websocket.
  | sending l =>
    obtain ⟨connection', hc', hid⟩ := (Evolves.drop s.relay c).connection c connection hc
    have hagent : connection'.agent_connection = connection.agent_connection :=
      congrArg (fun identity => identity.2.1) hid
    have hsent : r'.toAgentOutput = _ := hsend
    rw [← hagent] at hsent
    exact Informed.of_sendToAgent hc' same.connection hsent

/-- The close after the loop finds no access client, since the session has removed its entry. -/
theorem of_closing {close : CloseRelayedConnection} {connection : TcpConnection}
    {r' : NetworkRelay} {res : Res CloseRelayedConnection Unit Exc}
    (hclient : s.client A = some (.closing c close)) (hpc : (Client.closing c close).Orderly s)
    (haccess : s.relay.active_access_client_connections c = none)
    (hc : s.relay.connection c = some connection)
    (h : CloseStep s.relay c connection.agent_connection close o r' res)
    (hok : OrderlyExit s (.run (.client A) o) = true) :
    (s.connectionClosed A c (r', res)).OrderlyAt A := by
  have hev := h.evolves
  cases h with
  | @informs _ l same out =>
    exact ⟨.closing c (.informing (.sending l)), by simp [connectionClosed],
      Informed.of_sendToAgent hc same.connection out⟩
  -- The entry of the access client was removed when the loop was left.
  | closesClient _ _ _ hA =>
    rw [haccess] at hA
    cases hA
  | @dropsUnattached _ r₁ l _ same out =>
    have hinformed : Informed s.relay c := hpc
    refine ⟨.closingClient c, by simp [connectionClosed],
      hinformed.evolves (hev.trans (.closeClient _ A)), ?_⟩
    simp [connectionClosed]
  | informingFails he =>
    simp only [OrderlyExit, hclient] at hok
    rw [hok] at he
    cases he
  | drops | closingFails => exact hpc.elim

end RelayState.OrderlyAt

/-- A session's own step keeps to its orderly exit. -/
theorem Client.Orderly.own {pc : Client} {A : ClientSocket} {o : Outcome} (hO : OrderlySessions s)
    (hI : Ownership s) (hclient : s.client A = some pc) (h : ClientRule cfg s A pc o s')
    (hok : OrderlyExit s (.run (.client A) o) = true) : s'.OrderlyAt A := by
  have hpc := hO.client A pc hclient
  -- In its loop the session is the access client of its connection.
  have hattached : ∀ c, pc.connected? = some c →
      s.relay.active_access_client_connections c = some A :=
    fun c hcon => (hI.connected A pc c hclient hcon).1
  cases h with
  | @advances _ _ pc₁ _ hun => exact ⟨pc₁, by simp, .of_unconnected hun⟩
  | refuses => exact ⟨.refusing, by simp, trivial⟩
  | unregistered => exact ⟨.reportingUnregistered, by simp, trivial⟩
  | opens => exact ⟨_, Function.update_self _ _ _, trivial⟩
  | @creating binary pc _ r' res h =>
    cases res with
    | parked pc₁ => exact ⟨.creating binary pc₁, by simp [created], trivial⟩
    | returned c => exact ⟨.sendingStartOK binary c, by simp [created], trivial⟩
    | raised e => cases e <;> exact ⟨_, Function.update_self _ _ _, trivial⟩
  | @starts _ c => exact ⟨.receiving c, by simp [startReader], trivial⟩
  | startFails => simp [OrderlyExit, hclient] at hok
  | disconnects _ hc same hsend => exact .of_disconnect hc same hsend
  | receiveFails he =>
    simp only [OrderlyExit, hclient, decide_eq_true_eq] at hok
    exact absurd hok he
  | malformed hbad => simp [OrderlyExit, hclient, hbad] at hok
  | ignores => exact .of_continueLoop (hattached _ rfl)
  -- The id is one of `uuid4`, so the data can be framed.
  | @forwards c _ data connection r' res hc _ h =>
    obtain ⟨m, hm⟩ := dataMessage_ok hO hc data
    rw [hm] at h ⊢
    refine .of_forwarded (hattached c rfl) ?_ h.same
    rintro e rfl
    cases h with
    | unencodable herr => cases herr
  | @forwarding c message send _ connection r' res _ h =>
    obtain ⟨m, rfl⟩ : ∃ m, message = .ok m := hpc
    refine .of_forwarded (hattached c rfl) ?_ h.same
    rintro e rfl
    cases h with
    | unencodable herr => cases herr
    | fails => simp [OrderlyExit, hclient] at hok
  | closing hc h =>
    obtain ⟨haccess, -⟩ := hI.leaving A _ _ hclient rfl
    exact .of_closing hclient hpc haccess hc h hok
  | @clientClosed c => exact ⟨.joining c, by simp, hpc⟩
  | closeFails he =>
    simp only [OrderlyExit, hclient] at hok
    rw [hok] at he
    cases he
  -- The reader has been awaited or cancelled, and the session ends with everything cleaned up.
  | @joined c pc hjoin hreader =>
    have hdropped : Informed s.relay c ∧ c ∉ s.relay.active_relayed_connections ∧
        pc.leaving? = some c := by
      rcases hjoin with rfl | rfl
      · exact ⟨hpc.1, hpc.2, rfl⟩
      · exact ⟨hpc.1, hpc.2, rfl⟩
    obtain ⟨hinformed, hactive, hleaving⟩ := hdropped
    obtain ⟨haccess, reader, hr⟩ := hI.leaving A pc c hclient hleaving
    refine ⟨.finished (some c) (.ok ()), by simp, hinformed, hactive, haccess, reader, hr, ?_⟩
    simpa [readerFinished, hr] using hreader
  | @cancels c => exact ⟨.cancelling c, by simp, hpc⟩

/-- An orderly step keeps the invariant. -/
theorem OrderlySessions.preserved (hO : OrderlySessions s) (hI : Ownership s)
    (hok : OrderlyExit s e = true) (h : RelayRule cfg s e s') : OrderlySessions s' where
  -- New ids come from `uuid4`, and the entries keep theirs.
  canonical c hsome := by
    cases hc : s.relay.connection c with
    | none => exact h.evolves.fresh c hc hsome
    | some connection => exact hO.canonical c (by rw [hc]; rfl)
  client A pc' hpc' := by
    by_cases hrun : ∃ o, e = .run (.client A) o
    · obtain ⟨o, rfl⟩ := hrun
      cases h with
      | client hpc h =>
        obtain ⟨pc, hpc₁, horderly⟩ := Client.Orderly.own hO hI hpc h hok
        rwa [← Option.some.inj (hpc₁.symm.trans hpc')]
    · have hrun : ∀ o, e ≠ .run (.client A) o := fun o he => hrun ⟨o, he⟩
      by_cases hconn : e = .clientConnects A
      · subst hconn
        cases h with
        | clientConnects =>
          obtain rfl : Client.accepting = pc' := by simpa using hpc'
          trivial
      · have hpc := (client_frame h hrun hconn).symm.trans hpc'
        exact (hO.client A pc' hpc).other hI h hpc hrun

/-- A session of a run without disorderly exits leaves nothing behind. -/
theorem sessions_clean_up (h : Reaches (step cfg) (OrderlyExit · ·) {} s) : CleanedUp s := by
  have hO : OrderlySessions s := by
    refine h.invariant ⟨by simp, by simp⟩ fun s e s' hr hok hstep hO => ?_
    exact hO.preserved (ownership hr) hok (step_rule hstep)
  intro A c result hpc
  obtain ⟨hinformed, hactive, haccess, reader, hr, hpoint⟩ := hO.client A _ hpc
  refine ⟨haccess, hactive, fun reader' hr' => ?_, hinformed⟩
  rw [← Option.some.inj (hr.symm.trans hr')]
  exact hpoint

/-- An open session whose access client disconnects. -/
def disconnectedSession : RelayState :=
  (runWith (step plainConfig) (OrderlyExit · ·) {} (openSession ++
    [.run (.client ⟨0⟩) .disconnect, .run (.client ⟨0⟩) .ok, .run (.client ⟨0⟩) .ok,
      .run (.reader someConnection) .ok, .run (.client ⟨0⟩) .ok])).get (by decide +kernel)

/-- The session has finished and left nothing behind. -/
theorem disconnectedSession_cleanedUp :
    disconnectedSession.client ⟨0⟩ = some (.finished (some someConnection) (.ok ())) ∧
      CleanedUp disconnectedSession :=
  ⟨rfl, sessions_clean_up (Reaches.init.of_runWith (Option.some_get _).symm)⟩

/-- An open session whose access client sends a text that is no message. -/
def invalidSession : RelayState :=
  (run (step plainConfig) {} (openSession ++ [.run (.client ⟨0⟩) (.frame (.text none))])).get
    (by decide +kernel)

/-- The session ends in a `ValidationError`, and its entry stays. -/
theorem invalidSession_not_cleanedUp :
    ¬ ∀ cfg s, Reaches (step cfg) (fun _ _ => True) {} s → CleanedUp s := by
  intro h
  have hreach : Reaches (step plainConfig) (fun _ _ => True) {} invalidSession :=
    Reaches.init.of_run (fun _ _ _ => trivial) (Option.some_get _).symm
  have hpc : invalidSession.client ⟨0⟩ =
      some (.finished (some someConnection) (.error .validationError)) := rfl
  obtain ⟨hnone, -⟩ := h _ _ hreach _ _ _ hpc
  exact absurd hnone (by decide +kernel)

end HttpNetworkRelay
