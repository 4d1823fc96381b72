import HttpNetworkRelay.Relay.Teardown

/-!
# Access clients attached to a dropped connection

`close_relayed_connection` closes the access client that it finds in
`active_access_client_connections`, and drops the connection in any case. A close that looks up the
access client of a connection whose session is still being opened finds none; the session then
registers its access client for a connection that is gone. A reader drops the connection without
closing anything when its send raises, and a close that raises leaves its access client open.

`KeepsAttached` excludes these steps where no other close of the connection is still to look for the
access client; `receiving_attached` shows that then no access client is left attached to a dropped
connection. Not excluded are a close that drops a connection whose session never comes to register
its access client, and a reader that cannot send because the relay has closed the websocket.
-/

namespace HttpNetworkRelay

open Asyncio Python RelayState NetworkRelay

/-- Whether the session that created the connection is in its loop, on a websocket that the relay
has not closed. -/
def RelayState.inLoop (s : RelayState) (c : ConnectionId) : Bool :=
  match s.relay.connection c with
  | some connection =>
    match connection.creator with
    | .client A => ((s.client A).bind Client.connected?) = some c && !s.relay.client_closed A
    | _ => false
  | none => false

/-- Another task than `t` is in a close of the connection that has yet to look for its access
client. -/
def OtherCloses (s : RelayState) (t : Task) (c : ConnectionId) : Prop :=
  ∃ t' send, t' ≠ t ∧ s.closing? t' = some (c, .informing send)

/-- The step registers no access client for a dropped connection and does not end what would have
closed the access client of a session in its loop, or another close is still to come. -/
structure KeepsAttached (s : RelayState) (e : RelayEvent) : Prop where
  /-- A session has told its access client that the connection is open, and registers it. -/
  registers : ∀ A binary c, e = .run (.client A) .ok →
    s.client A = some (.sendingStartOK binary c) →
      c ∈ s.relay.active_relayed_connections ∨ OtherCloses s (.client A) c
  /-- A close cannot tell the agent, and raises before it has looked for the access client. -/
  failure : ∀ t o c l, e = .run t o → s.closing? t = some (c, .informing (.sending l)) →
    o.passes = false → s.inLoop c = true →
      c ∈ s.relay.active_relayed_connections ∨ OtherCloses s t c
  /-- A reader cannot send to the access client, and drops the connection. -/
  reader : ∀ c error, e = .run (.reader c) (.raised error) → s.inLoop c = true →
    OtherCloses s (.reader c) c

/-- A session in `receive`, on a websocket that the relay has not closed, has an active connection,
or a close of it that has yet to look for the access client is running. -/
def Attached (s : RelayState) : Prop :=
  ∀ A c, s.client A = some (.receiving c) → s.relay.client_closed A = false →
    c ∈ s.relay.active_relayed_connections ∨
      ∃ t send, s.closing? t = some (c, .informing send)

variable {cfg : RelayConfig} {s s' : RelayState} {e : RelayEvent}
  {ok : RelayState → RelayEvent → Prop}

/-- The connection of a session in its loop is found by the test. -/
theorem inLoop_of_connected (hI : Ownership s) {A : ClientSocket} {pc : Client} {c : ConnectionId}
    (hpc : s.client A = some pc) (hcon : pc.connected? = some c)
    (hopen : s.relay.client_closed A = false) : s.inLoop c = true := by
  obtain ⟨connection, hc, hA, -⟩ := hI.client A pc c hpc (Client.connection_id?_of_connected hcon)
  simp [inLoop, hc, hA, hpc, hcon, hopen]

/-! ## Closes that are still to come -/

/-- The websocket of the session is closed, its connection is active, or a close that has yet to
look for the websocket is running. -/
def Covered (s : RelayState) (A : ClientSocket) (c : ConnectionId) : Prop :=
  s.relay.client_closed A = true ∨ c ∈ s.relay.active_relayed_connections ∨
    ∃ t send, s.closing? t = some (c, .informing send)

/-- A session whose websocket is closed stays covered. -/
theorem Covered.of_closed (h : RelayRule cfg s e s') {A : ClientSocket} {c : ConnectionId}
    (hshut : s.relay.client_closed A = true) : Covered s' A c :=
  .inl (h.evolves.client_closed A hshut)

/-- A close that has yet to look for the websocket covers the session. -/
theorem Covered.of_closing {t : Task} {send : LockedSend} {A : ClientSocket} {c : ConnectionId}
    (hclosing : s.closing? t = some (c, .informing send)) : Covered s A c :=
  .inr (.inr ⟨t, send, hclosing⟩)

/-- A close of another task than the one that runs is still to come. -/
theorem OtherCloses.covered (hr : Reaches (step cfg) ok {} s) {t : Task} {o : Outcome}
    {c : ConnectionId} (hlater : OtherCloses s t c) (h : RelayRule cfg s (.run t o) s')
    (A : ClientSocket) : Covered s' A c := by
  obtain ⟨t', send, hne, hclosing⟩ := hlater
  have hrun : ∀ o', RelayEvent.run t o ≠ .run t' o' := by
    rintro o' ⟨⟩
    exact hne rfl
  have hclosing' : s'.closing? t' = some (c, .informing send) := by
    rw [closing_frame hr h hrun, hclosing]
  exact .of_closing hclosing'

/-- What becomes of a close that has yet to look for the access client. -/
theorem CloseRun.informing {t : Task} {c : ConnectionId} {send : LockedSend} {o : Outcome}
    {ws : AgentSocket} {r' : NetworkRelay} {res : Res CloseRelayedConnection Unit Exc}
    (h : CloseRun s t c (.informing send) o s' ws r' res) :
    (∃ l, s'.closing? t = some (c, .informing (.sending l))) ∨
      ∃ l, send = .sending l ∧
        (o.passes = true ∧ (∀ A, s.relay.active_access_client_connections c = some A →
          s'.relay.client_closed A = true) ∨ o.passes = false) := by
  obtain ⟨hstep, hshut, hparked⟩ := h
  generalize hpc : CloseRelayedConnection.informing send = pc at hstep
  cases hstep with
  | informs => exact .inl ⟨_, hparked _ rfl⟩
  | @closesClient _ _ l B ho _ _ hB =>
    obtain rfl := CloseRelayedConnection.informing.inj hpc
    refine .inr ⟨l, rfl, .inl ⟨passes_of ho, fun A hA => ?_⟩⟩
    obtain rfl := Option.some.inj (hA.symm.trans hB)
    exact hshut A (by simp)
  | @dropsUnattached _ _ l ho _ _ hnone =>
    obtain rfl := CloseRelayedConnection.informing.inj hpc
    refine .inr ⟨l, rfl, .inl ⟨passes_of ho, fun A hA => ?_⟩⟩
    rw [hnone] at hA
    cases hA
  | @informingFails _ l error he =>
    obtain rfl := CloseRelayedConnection.informing.inj hpc
    exact .inr ⟨l, rfl, .inr he⟩
  | drops | closingFails => cases hpc

/-! ## The invariant -/

/-- The invariant: a session in its loop is covered, and a close that is closing the access client's
websocket has closed that of the session. -/
structure AttachInv (s : RelayState) : Prop where
  session : ∀ A pc c, s.client A = some pc → pc.connected? = some c → Covered s A c
  closing : ∀ t c, s.closing? t = some (c, .closingClient) →
    ∃ A, Owned s.relay c A ∧ s.relay.client_closed A = true

section

variable {A : ClientSocket} {pc : Client} {c : ConnectionId}

/-- A session in its loop is in no close. -/
theorem not_closing_of_connected (hpc : s.client A = some pc) (hcon : pc.connected? = some c) :
    s.closing? (.client A) = none := by
  cases pc with
  | closing c₁ pc₁ => cases hcon
  | _ => simp [closing?, hpc]

/-- A session enters its loop when its start message has been sent. -/
theorem ok_of_entered {binary : Bool} {o : Outcome} (h : RelayRule cfg s (.run (.client A) o) s')
    (hpc : s.client A = some (.sendingStartOK binary c))
    (hpc' : s'.client A = some (.receiving c)) : o = .ok := by
  cases h with
  | client hpc₀ hrule =>
    obtain rfl := Option.some.inj (hpc.symm.trans hpc₀)
    cases hrule with
    | starts => rfl
    | startFails => simp at hpc'
    | advances hun => cases hun
    | refuses hrefuse => simp at hrefuse
    | joined hjoin => simp at hjoin

section

variable (hA : AttachInv s) (hr : Reaches (step cfg) ok {} s) (hok : KeepsAttached s e)
  (h : RelayRule cfg s e s') (hpc : s.client A = some pc) (hcon : pc.connected? = some c)
  (hrun : ∀ o, e ≠ .run (.client A) o)
include hA hr hok h hpc hcon hrun

/-- An active connection of the session stays active, or the session is covered otherwise. -/
theorem AttachInv.active_step (hactive : c ∈ s.relay.active_relayed_connections) :
    Covered s' A c := by
  have hI := ownership hr
  have howned := hI.client A pc c hpc (Client.connection_id?_of_connected hcon)
  obtain ⟨haccess, reader', hreader', hlive⟩ := hI.connected A pc c hpc hcon
  by_cases hactive' : c ∈ s'.relay.active_relayed_connections
  · exact .inr (.inl hactive')
  cases lost_of_rule hactive h hactive' with
  | unattached hclosing ho hnone =>
    -- The session has registered its access client, and the close would have found it.
    rw [hnone] at haccess
    cases haccess
  | closed hclosing =>
    obtain ⟨B, hB, hshut⟩ := hA.closing _ _ hclosing
    rw [howned.unique hB]
    exact .of_closed h hshut
  | @disconnected B o hB =>
    have hBowned := hI.client B _ c hB rfl
    rw [howned.unique hBowned] at hrun
    exact absurd rfl (hrun o)
  | reader hreader why =>
    obtain rfl := Option.some.inj (hreader.symm.trans hreader')
    rcases why with hcancelled | ⟨error, rfl⟩
    · rw [hlive] at hcancelled
      cases hcancelled
    · -- The send of the reader has raised: because the websocket is closed, or a close will.
      cases hshut : s.relay.client_closed A with
      | true => exact .of_closed h hshut
      | false =>
        have hlater := hok.reader c error rfl (inLoop_of_connected hI hpc hcon hshut)
        exact hlater.covered hr h A

/-- A close that is still to look for the access client stays so, or finds it, or another one covers
the session. -/
theorem AttachInv.closing_step {t : Task} {send : LockedSend}
    (hclosing : s.closing? t = some (c, .informing send)) : Covered s' A c := by
  have hI := ownership hr
  by_cases ht : ∃ o, e = .run t o
  · obtain ⟨o, rfl⟩ := ht
    obtain ⟨ws, r', res, hclose⟩ := close_of_run h hclosing
    rcases hclose.informing with ⟨l, hclosing'⟩ | ⟨l, rfl, ⟨-, hfound⟩ | hfails⟩
    · exact .of_closing hclosing'
    · obtain ⟨haccess, -⟩ := hI.connected A pc c hpc hcon
      exact .inl (hfound A haccess)
    · cases hshut : s.relay.client_closed A with
      | true => exact .of_closed h hshut
      | false =>
        have hlive := inLoop_of_connected hI hpc hcon hshut
        rcases hok.failure t o c l rfl hclosing hfails hlive with hactive | hlater
        · exact hA.active_step hr hok h hpc hcon hrun hactive
        · exact hlater.covered hr h A
  · have hclosing' : s'.closing? t = some (c, .informing send) := by
      rw [closing_frame hr h fun o he => ht ⟨o, he⟩, hclosing]
    exact .of_closing hclosing'

/-- The step of another task leaves the session covered. -/
theorem AttachInv.other_step : Covered s' A c := by
  rcases hA.session A pc c hpc hcon with hshut | hactive | ⟨t, send, hclosing⟩
  · exact .of_closed h hshut
  · exact hA.active_step hr hok h hpc hcon hrun hactive
  · exact hA.closing_step hr hok h hpc hcon hrun hclosing

end

/-- A step of the session itself that leaves the list of active connections alone. -/
theorem AttachInv.own_step (hA : AttachInv s) (hr : Reaches (step cfg) ok {} s) {o : Outcome}
    (h : RelayRule cfg s (.run (.client A) o) s') (hpc : s.client A = some pc)
    (hcon : pc.connected? = some c)
    (hactive : s'.relay.active_relayed_connections = s.relay.active_relayed_connections) :
    Covered s' A c := by
  rcases hA.session A pc c hpc hcon with hshut | hin | ⟨t, send, hclosing⟩
  · exact .of_closed h hshut
  · exact .inr (.inl (by rwa [hactive]))
  · have hne : t ≠ .client A := by
      rintro rfl
      rw [not_closing_of_connected hpc hcon] at hclosing
      cases hclosing
    exact OtherCloses.covered hr ⟨t, send, hne, hclosing⟩ h A

end

/-- After a step that meets the condition a session in its loop is covered. -/
theorem AttachInv.session_step (hA : AttachInv s) (hr : Reaches (step cfg) ok {} s)
    (hok : KeepsAttached s e) (h : RelayRule cfg s e s') {A : ClientSocket} {pc' : Client}
    {c : ConnectionId} (hpc' : s'.client A = some pc') (hcon : pc'.connected? = some c) :
    Covered s' A c := by
  by_cases hrun : ∃ o, e = .run (.client A) o
  · obtain ⟨o, rfl⟩ := hrun
    obtain ⟨pc, hpc, hmoved⟩ := moved_of_run h
    cases hmoved with
    | ended pc₁ hpc₁ _ _ hconnected =>
      obtain rfl := Option.some.inj (hpc₁.symm.trans hpc')
      rw [hconnected] at hcon
      cases hcon
    | created binary pc₁ hpc₁ =>
      obtain rfl := Option.some.inj (hpc₁.symm.trans hpc')
      cases hcon
    | stays pc₁ hpc₁ _ _ hconnected _ _ _ _ hactive =>
      obtain rfl := Option.some.inj (hpc₁.symm.trans hpc')
      rw [hconnected] at hcon
      refine hA.own_step hr h hpc hcon (hactive ?_)
      cases pc <;> first | rfl | cases hcon
    | @entered binary c₁ hpc₀ hpc₁ _ _ hactive =>
      -- The access client is registered, by the condition not for a dropped connection.
      obtain rfl := Option.some.inj (hpc₁.symm.trans hpc')
      subst hpc₀
      obtain rfl := Option.some.inj hcon
      obtain rfl := ok_of_entered h hpc hpc₁
      rcases hok.registers A binary c₁ rfl hpc with hin | hlater
      · exact .inr (.inl (by rwa [hactive]))
      · exact hlater.covered hr h A
    | left pc₁ _ hpc₁ _ _ hconnected =>
      obtain rfl := Option.some.inj (hpc₁.symm.trans hpc')
      rw [hconnected] at hcon
      cases hcon
  · have hrun : ∀ o, e ≠ .run (.client A) o := fun o he => hrun ⟨o, he⟩
    have hid := Client.connection_id?_of_connected hcon
    have hpc := Ownership.client_other h hrun hpc' ⟨c, hid⟩
    exact hA.other_step hr hok h hpc hcon hrun

/-- A step that meets the condition keeps the invariant. -/
theorem AttachInv.preserved (hA : AttachInv s) (hr : Reaches (step cfg) ok {} s)
    (hok : KeepsAttached s e) (h : RelayRule cfg s e s') : AttachInv s' where
  session _ _ _ hpc hcon := hA.session_step hr hok h hpc hcon
  closing t c hclosing := by
    rcases closingClient_of_rule h hclosing with hold | ⟨A, haccess, hshut⟩
    · obtain ⟨A, howned, hshut⟩ := hA.closing t c hold
      exact ⟨A, howned.evolves h.evolves, h.evolves.client_closed A hshut⟩
    · exact ⟨A, ((ownership hr).access c A haccess).evolves h.evolves, hshut⟩

/-- In a run without such steps, no access client is left attached to a dropped connection. -/
theorem receiving_attached (h : Reaches (step cfg) KeepsAttached {} s) : Attached s := by
  have hA : AttachInv s := by
    refine h.invariant ⟨by simp, ?_⟩ fun s e s' hr hok hstep hA => ?_
    · intro t c hclosing
      cases t <;> cases hclosing
    · exact hA.preserved hr hok (step_rule hstep)
  intro A c hpc hopen
  rcases hA.session A _ c hpc rfl with hshut | hcovered
  · rw [hopen] at hshut
    cases hshut
  · exact hcovered

/-- A test for `OtherCloses` that looks at some tasks only. -/
def RelayState.otherCloses (tasks : List Task) (s : RelayState) (t : Task) (c : ConnectionId) :
    Bool :=
  tasks.any fun t' => t' ≠ t &&
    match s.closing? t' with
    | some (c', .informing _) => c' = c
    | _ => false

/-- A test for `KeepsAttached` that looks for other closes in some tasks only. -/
def RelayState.keepsAttached (tasks : List Task) (s : RelayState) : RelayEvent → Bool
  | .run t o =>
    (match t, o with
    | .client A, .ok =>
      match s.client A with
      | some (.sendingStartOK _ c) =>
        s.relay.active_relayed_connections.contains c || s.otherCloses tasks t c
      | _ => true
    | .reader c, .raised _ => !s.inLoop c || s.otherCloses tasks t c
    | _, _ => true) &&
    match s.closing? t with
    | some (c, .informing (.sending _)) =>
      o.passes || !s.inLoop c || s.relay.active_relayed_connections.contains c ||
        s.otherCloses tasks t c
    | _ => true
  | _ => true

/-- A close by another task that is found by the test is one. -/
theorem otherCloses_of_test {tasks : List Task} {t : Task} {c : ConnectionId}
    (h : s.otherCloses tasks t c = true) : OtherCloses s t c := by
  obtain ⟨t', -, h⟩ := List.any_eq_true.mp h
  obtain ⟨hne, hclosing⟩ := Bool.and_eq_true_iff.mp h
  refine ⟨t', ?_⟩
  split at hclosing
  · rename_i c' send heq
    obtain rfl : c' = c := by simpa using hclosing
    exact ⟨send, by simpa using hne, heq⟩
  · cases hclosing

/-- The condition can be tested. -/
theorem keepsAttached_of_test {tasks : List Task} (h : s.keepsAttached tasks e = true) :
    KeepsAttached s e where
  registers A binary c he hpc := by
    subst he
    obtain ⟨h, -⟩ := Bool.and_eq_true_iff.mp h
    simp only [hpc] at h
    rcases Bool.or_eq_true_iff.mp h with hactive | hlater
    · exact .inl (by simpa using hactive)
    · exact .inr (otherCloses_of_test hlater)
  failure t o c l he hclosing hfails hlive := by
    subst he
    obtain ⟨-, h⟩ := Bool.and_eq_true_iff.mp h
    rw [hclosing] at h
    simp only [hfails, hlive, Bool.not_true, Bool.false_or] at h
    rcases Bool.or_eq_true_iff.mp h with hactive | hlater
    · exact .inl (by simpa using hactive)
    · exact .inr (otherCloses_of_test hlater)
  reader c error he hin := by
    subst he
    obtain ⟨h, -⟩ := Bool.and_eq_true_iff.mp h
    simp only [hin, Bool.not_true, Bool.false_or] at h
    exact otherCloses_of_test h

/-- An open session whose reader is sending data when the agent resets the connection: the message
loop tells the agent first. -/
def resetWhileSending : List RelayEvent :=
  openSession ++
    [.agentSends ⟨0⟩ (.text { known := some (.tcpData someConnection "AQI=") }),
      .run (.msgLoop ⟨0⟩) .next, .run (.reader someConnection) .ok,
      .agentSends ⟨0⟩ (.text { known := some (.connectionReset "" someConnection) }),
      .run (.msgLoop ⟨0⟩) .next]

/-- The reader cannot send any more. -/
def readerRaises : List RelayEvent := [.run (.reader someConnection) (.raised .webSocketDisconnect)]

/-- The message loop goes on with the close. -/
def loopCloses : List RelayEvent := [.run (.msgLoop ⟨0⟩) .ok]

/-- The reader has dropped the connection, and the close has still to look for the access client. -/
def droppedSession : RelayState :=
  (runWith (step plainConfig) (·.keepsAttached [.msgLoop ⟨0⟩] ·) {}
    (resetWhileSending ++ readerRaises)).get (by decide +kernel)

/-- The message loop has closed the websocket and, after the reader, dropped the connection. -/
def loopClosed : RelayState :=
  (runWith (step plainConfig) (·.keepsAttached [.msgLoop ⟨0⟩] ·) {}
    (resetWhileSending ++ loopCloses ++ readerRaises ++ loopCloses)).get (by decide +kernel)

/-- The websocket of a dropped connection is closed by its close or by its reader, after which the
reader's send may raise. -/
theorem droppedSession_attached :
    (droppedSession.client ⟨0⟩ = some (.receiving someConnection) ∧
      droppedSession.relay.client_closed ⟨0⟩ = false ∧
      someConnection ∉ droppedSession.relay.active_relayed_connections ∧ Attached droppedSession) ∧
      loopClosed.client ⟨0⟩ = some (.receiving someConnection) ∧
      loopClosed.relay.client_closed ⟨0⟩ = true ∧
      someConnection ∉ loopClosed.relay.active_relayed_connections ∧ Attached loopClosed :=
  ⟨⟨rfl, rfl, by decide +kernel, receiving_attached <|
      (Reaches.init.of_runWith (Option.some_get _).symm).mono fun _ _ => keepsAttached_of_test⟩,
    rfl, rfl, by decide +kernel, receiving_attached <|
      (Reaches.init.of_runWith (Option.some_get _).symm).mono fun _ _ => keepsAttached_of_test⟩

/-- The agent resets the connection while the start message is being sent to the access client. -/
def resetWhileOpening : List RelayEvent :=
  registerAgent ⟨0⟩ "agent" false ++ requestConnection ⟨0⟩ "agent" someConnection ++
    answerOK ⟨0⟩ ⟨0⟩ someConnection ++
    [.agentSends ⟨0⟩ (.text { known := some (.connectionReset "" someConnection) }),
      .run (.msgLoop ⟨0⟩) .next, .run (.msgLoop ⟨0⟩) .ok, .run (.client ⟨0⟩) .ok]

/-- The session after its connection was reset while it opened. -/
def resetSession : RelayState :=
  (run (step plainConfig) {} resetWhileOpening).get (by decide +kernel)

/-- The session waits in `receive`, for a connection that is gone, and no task will close its
websocket. -/
theorem resetSession_not_attached :
    ¬ ∀ cfg s, Reaches (step cfg) (fun _ _ => True) {} s → Attached s := by
  intro h
  have hrun : run (step plainConfig) {} resetWhileOpening = some resetSession :=
    (Option.some_get _).symm
  have hreach : Reaches (step plainConfig) (fun _ _ => True) {} resetSession :=
    Reaches.init.of_run (fun _ _ _ => trivial) hrun
  have hpc : resetSession.client ⟨0⟩ = some (.receiving someConnection) := rfl
  rcases h _ _ hreach _ _ hpc rfl with hactive | ⟨t, send, hclosing⟩
  · exact absurd hactive (by decide +kernel)
  · -- Only the first agent and the first access client have tasks, and none of these is in a close.
    have hagent : ∀ W, W ≠ ⟨0⟩ →
        resetSession.handshake W = none ∧ resetSession.msgLoop W = none := by
      intro W hW
      refine agent_never_connected (Reaches.init.of_run (fun e he _ => ?_) hrun)
      rintro rfl
      simp [resetWhileOpening, registerAgent, requestConnection, answerOK, hW] at he
    have hclient : ∀ A, A ≠ ⟨0⟩ → resetSession.client A = none := by
      intro A hA
      refine client_never_connected (Reaches.init.of_run (fun e he _ => ?_) hrun)
      rintro rfl
      simp [resetWhileOpening, registerAgent, requestConnection, answerOK, hA] at he
    cases t with
    | handshake W =>
      by_cases hW : W = ⟨0⟩
      · subst hW
        cases hclosing
      · simp [closing?, (hagent W hW).1] at hclosing
    | msgLoop W =>
      by_cases hW : W = ⟨0⟩
      · subst hW
        cases hclosing
      · simp [closing?, (hagent W hW).2] at hclosing
    | client A =>
      by_cases hA : A = ⟨0⟩
      · subst hA
        cases hclosing
      · simp [closing?, hclient A hA] at hclosing
    | closer k =>
      have hnone := closer_never_created hreach k (Nat.zero_le k)
      simp [closing?, hnone] at hclosing
    | keepAlive _ | reader _ | call _ | sender _ => cases hclosing

end HttpNetworkRelay
