import HttpNetworkRelay.Relay.Effects

/-!
# Frame lemmas for the dictionaries of sessions

What a step leaves alone of `active_access_client_connections`, of the messages to access clients,
of the connection objects and of the answer queues, by the task that makes the step; and the cause
of each close of an access client's websocket.
-/

namespace HttpNetworkRelay

open Asyncio Python RelayState NetworkRelay

variable {cfg : RelayConfig} {s s' : RelayState} {e : RelayEvent}

/-! ## The agents' tasks -/

/-- A handshake touches no session. -/
theorem HandshakeRule.untouched {ws : AgentSocket} {pc : Handshake} {o : Outcome}
    (h : HandshakeRule cfg s ws pc o s') : Untouched s.relay s'.relay := by
  have hevicted : ∀ {r r' : NetworkRelay} {m n res}, Untouched s.relay r → Untouched r r' →
      Untouched s.relay (s.evicted ws m n (r', res)).relay := by
    intro r r' m n res hr h
    have hall := hr.trans h
    cases res with
    | parked _ | raised _ => exact hall
    | returned _ => exact hall.trans { __ := Untouched.refl _ }
  cases h with
  | @evicts m n _ _ _ _ _ _ _ h =>
    have hset : Untouched s.relay (s.relay.setSupportsBinary n m.supports_binary) :=
      { __ := Untouched.refl _ }
    exact hevicted hset h.untouched
  | evicting h => exact hevicted (.refl _) h.untouched
  | accepts | receives | refuses | opens | duplicate | noAttribute | ends =>
    exact { __ := Untouched.refl _ }

/-! ## Sessions -/

/-- What the steps of a session leave alone of a connection that is not its own. -/
structure OtherSession (c : ConnectionId) (r r' : NetworkRelay) : Prop where
  access : r'.active_access_client_connections c = r.active_access_client_connections c
  content : ∀ connection, r.connection c = some connection →
    ∃ connection', r'.connection c = some connection' ∧ connection'.content = connection.content

/-- A connection is left alone where no session is touched. -/
theorem OtherSession.of_untouched {c : ConnectionId} {r r' : NetworkRelay} (h : Untouched r r') :
    OtherSession c r r' where
  access := by rw [h.access]
  content _ hc := h.connection hc

/-- A connection is left alone where nothing changes. -/
theorem OtherSession.refl (c : ConnectionId) (r : NetworkRelay) : OtherSession c r r :=
  .of_untouched (.refl r)

/-- A connection that two steps leave alone is left alone by both. -/
theorem OtherSession.trans {c : ConnectionId} {r r' r'' : NetworkRelay} (h : OtherSession c r r')
    (h' : OtherSession c r' r'') : OtherSession c r r'' where
  access := h'.access.trans h.access
  content connection hc := by
    obtain ⟨connection', hc', hcontent⟩ := h.content connection hc
    obtain ⟨connection'', hc'', hcontent'⟩ := h'.content connection' hc'
    exact ⟨connection'', hc'', hcontent'.trans hcontent⟩

/-- A connection is left alone where the access client's side of another one changes. -/
theorem OtherSession.of_sameButAccess {c c₁ : ConnectionId} {r r' : NetworkRelay} (hne : c ≠ c₁)
    (same : SameButAccess c₁ r r') : OtherSession c r r' where
  access := same.access c hne
  content connection hc := ⟨connection, by rw [same.connection]; exact hc, rfl⟩

/-- A new connection object, whose id is fresh. -/
theorem OtherSession.publish {c c₁ : ConnectionId} {r : NetworkRelay} (hc₁ : r.connection c₁ = none)
    (connection : TcpConnection) : OtherSession c r (r.publish c₁ connection) where
  access := rfl
  content connection' hc := by
    have hne : c ≠ c₁ := by
      rintro rfl
      rw [hc₁] at hc
      cases hc
    exact ⟨connection', by simp [hne, hc], rfl⟩

/-- A session leaves the connections of others alone. -/
theorem ClientRule.other {ws : ClientSocket} {pc : Client} {o : Outcome}
    (h : ClientRule cfg s ws pc o s') {c : ConnectionId} (hne : pc.connection_id? ≠ some c) :
    OtherSession c s.relay s'.relay := by
  have hneq : ∀ {c₁}, pc.connection_id? = some c₁ → c ≠ c₁ := by
    rintro c₁ hc₁ rfl
    exact hne hc₁
  cases h with
  | opens hfresh _ _ same =>
    have hnone := (Bool.and_eq_true_iff.mp hfresh).1
    exact (OtherSession.publish (Option.isNone_iff_eq_none.mp hnone) _).trans
      (.of_untouched (.of_sameButSends same))
  | @creating binary pc _ r' res h =>
    have hcreate : OtherSession c s.relay r' := {
      access := by rw [h.frame.access]
      content := fun connection hc => ⟨connection, by rw [h.frame.connection]; exact hc, rfl⟩ }
    cases res with
    | parked pc => exact hcreate
    | returned c₁ => exact hcreate.trans { __ := OtherSession.refl c r' }
    | raised e =>
      cases e with
      | valueError text => exact hcreate.trans { __ := OtherSession.refl c r' }
      | _ => exact hcreate
  | @starts binary c₁ =>
    refine ⟨?_, fun connection hc => ⟨connection, hc, rfl⟩⟩
    simp [startReader, hneq rfl]
  | @disconnects c₁ _ _ _ _ _ _ same =>
    have hdrop : OtherSession c s.relay (s.relay._drop_relayed_connection c₁) :=
      .of_untouched (.drop _ _)
    have hclosed : OtherSession c (s.relay._drop_relayed_connection c₁)
        ((s.relay._drop_relayed_connection c₁).access_client_connection_close c₁) :=
      .of_sameButAccess (hneq rfl) (.access_close c₁ _)
    exact (hdrop.trans hclosed).trans (.of_untouched (.of_sameButSends same))
  | ignores => exact .of_sameButAccess (hneq rfl) (continueLoop_same s _ _ _)
  | forwards _ _ h | forwarding _ h =>
    exact .of_sameButAccess (hneq rfl) (forwarded_same h.same _ _ _ _ _)
  | @closing _ _ _ _ r' res _ h =>
    have hclose : OtherSession c s.relay r' := .of_untouched h.untouched
    cases res with
    | returned a => exact hclose.trans { __ := OtherSession.refl c r' }
    | parked _ | raised _ => exact hclose
  | advances | refuses | unregistered | startFails | receiveFails | malformed | clientClosed
  | closeFails | joined | cancels => exact { __ := OtherSession.refl c s.relay }

/-- What a step of another task leaves alone of a session's access client. -/
theorem access_frame (h : RelayRule cfg s e s') {c : ConnectionId}
    (hclient : ∀ A o pc, e = .run (.client A) o → s.client A = some pc →
      pc.connection_id? ≠ some c) :
    s'.relay.active_access_client_connections c = s.relay.active_access_client_connections c := by
  cases h with
  | create _ _ _ same =>
    exact congrFun same.access c
  | handshake _ h => exact congrFun h.untouched.access c
  | keepAlive _ h => exact congrFun h.same.access c
  | msgLoop _ h =>
    cases h with
    | disconnects _ h => exact congrFun h.untouched.access c
    | receives _ h =>
      cases h with
      | resets _ _ _ _ same => exact congrFun same.access c
      | _ => rfl
    | resetting _ h => exact congrFun h.untouched.access c
    | tearingDown h => exact congrFun h.untouched.access c
    | receiveFails | puts | customHandled => rfl
  | client hpc h => exact (h.other (hclient _ _ _ rfl hpc)).access
  | reader _ _ h =>
    cases h with
    | sends | parks | ends | dies => rfl
  | call _ h => exact congrFun h.frame.access c
  | closes _ same => exact congrFun same.access c
  | closing _ h => exact congrFun h.untouched.access c
  | sends _ _ h => exact congrFun h.same.access c
  | sending _ _ h => exact congrFun h.same.access c
  | agentConnects | agentSends | agentDies | clientConnects | createFails | close | send => rfl

/-! ## Messages to access clients -/

/-- Only its session sends to an access client, apart from a reader. -/
theorem ClientRule.to_client {ws : ClientSocket} {pc : Client} {o : Outcome}
    (h : ClientRule cfg s ws pc o s') {A : ClientSocket} (hne : A ≠ ws) :
    s'.relay.to_client A = s.relay.to_client A := by
  cases h with
  | unregistered => simp [hne]
  | opens _ _ _ same => exact congrFun (congrArg ClientOutput.to_client same.clients) A
  | @creating binary pc _ r' res h =>
    have hcreate : r'.to_client = s.relay.to_client :=
      congrArg ClientOutput.to_client h.frame.clients
    cases res with
    | parked pc => exact congrFun hcreate A
    | returned c => simp [created, hne, hcreate]
    | raised e => cases e <;> simp [created, hne, hcreate]
  | disconnects _ _ same => exact congrFun (congrArg ClientOutput.to_client same.clients) A
  | ignores =>
    exact congrFun (congrArg ClientOutput.to_client (continueLoop_same s _ _ _).clients) A
  | forwards _ _ h | forwarding _ h =>
    exact congrFun (congrArg ClientOutput.to_client (forwarded_same h.same _ _ _ _ _).clients) A
  | @closing _ _ _ _ r' res _ h =>
    have hclose : r'.to_client = s.relay.to_client := h.untouched.to_client
    cases res <;> simp [connectionClosed, hclose]
  | advances | refuses | starts | startFails | receiveFails | malformed | clientClosed
  | closeFails | joined | cancels => rfl

/-- Only its session and its readers send to an access client. -/
theorem to_client_frame (h : RelayRule cfg s e s') {A : ClientSocket}
    (hclient : ∀ o, e ≠ .run (.client A) o)
    (hreader : ∀ c o reader, e = .run (.reader c) o → s.reader c = some reader →
      reader.access_client_connection ≠ A) :
    s'.relay.to_client A = s.relay.to_client A := by
  cases h with
  | create _ _ _ same => exact congrFun (congrArg ClientOutput.to_client same.clients) A
  | handshake _ h => exact congrFun h.untouched.to_client A
  | keepAlive _ h => exact congrFun (congrArg ClientOutput.to_client h.same.clients) A
  | msgLoop _ h =>
    cases h with
    | disconnects _ h => exact congrFun h.untouched.to_client A
    | receives _ h =>
      cases h with
      | resets _ _ _ _ same => exact congrFun (congrArg ClientOutput.to_client same.clients) A
      | _ => rfl
    | resetting _ h => exact congrFun h.untouched.to_client A
    | tearingDown h => exact congrFun h.untouched.to_client A
    | receiveFails | puts | customHandled => rfl
  | @client ws _ o _ _ h =>
    have hne : A ≠ ws := by
      rintro rfl
      exact hclient o rfl
    exact h.to_client hne
  | reader hpc _ h =>
    have hne := hreader _ _ _ rfl hpc
    cases h with
    | sends => simp [hne.symm]
    | parks | ends | dies => rfl
  | call _ h => exact congrFun (congrArg ClientOutput.to_client h.frame.clients) A
  | closes _ same => exact congrFun (congrArg ClientOutput.to_client same.clients) A
  | closing _ h => exact congrFun h.untouched.to_client A
  | sends _ _ h => exact congrFun (congrArg ClientOutput.to_client h.same.clients) A
  | sending _ _ h => exact congrFun (congrArg ClientOutput.to_client h.same.clients) A
  | agentConnects | agentSends | agentDies | clientConnects | createFails | close | send => rfl

/-! ## The buffers of connection objects -/

/-- The event takes a frame with data for `c` from an agent's websocket. -/
def takesData (s : RelayState) (c : ConnectionId) (e : RelayEvent) : Prop :=
  ∃ W n frame rest data, e = .run (.msgLoop W) .next ∧ s.msgLoop W = some ⟨n, .receiving⟩ ∧
    s.relay.inbox W = frame :: rest ∧ frame.data? = some (c, data)

/-- A step that leaves the receive buffer of `c` alone. -/
def SameBuffer (c : ConnectionId) (r r' : NetworkRelay) : Prop :=
  ∀ connection, r.connection c = some connection →
    ∃ connection', r'.connection c = some connection' ∧
      connection'.recv_buffer = connection.recv_buffer

/-- A buffer stays where the connections do. -/
theorem SameBuffer.of_eq {c : ConnectionId} {r r' : NetworkRelay}
    (h : r'.connection = r.connection) : SameBuffer c r r' := by
  intro connection hc
  exact ⟨connection, by rw [h]; exact hc, rfl⟩

/-- A buffer stays where no session is touched. -/
theorem SameBuffer.of_untouched {c : ConnectionId} {r r' : NetworkRelay} (h : Untouched r r') :
    SameBuffer c r r' := by
  intro connection hc
  obtain ⟨connection', hc', hcontent⟩ := h.connection hc
  exact ⟨connection', hc', congrArg (fun content => content.2.1) hcontent⟩

/-- A buffer that stays, and stays again, has stayed. -/
theorem SameBuffer.trans {c : ConnectionId} {r r' r'' : NetworkRelay} (h : SameBuffer c r r')
    (h' : SameBuffer c r' r'') : SameBuffer c r r'' := by
  intro connection hc
  obtain ⟨connection', hc', hbuf⟩ := h connection hc
  obtain ⟨connection'', hc'', hbuf'⟩ := h' connection' hc'
  exact ⟨connection'', hc'', hbuf'.trans hbuf⟩

/-- A modification of an object that keeps its receive buffer, or is of another object. -/
theorem SameBuffer.modifyConnection {c c₁ : ConnectionId} {r : NetworkRelay}
    {f : TcpConnection → TcpConnection}
    (hf : c = c₁ → ∀ connection, r.connection c = some connection →
      (f connection).recv_buffer = connection.recv_buffer) :
    SameBuffer c r (r.modifyConnection c₁ f) := by
  intro connection hc
  by_cases hcc : c = c₁
  · refine ⟨f connection, ?_, hf hcc connection hc⟩
    subst hcc
    simp [hc]
  · exact ⟨connection, by simp [hcc, hc], rfl⟩

/-- A buffer stays where a new connection is published. -/
theorem SameBuffer.publish {c c₁ : ConnectionId} {r : NetworkRelay} (hc₁ : r.connection c₁ = none)
    (connection : TcpConnection) : SameBuffer c r (r.publish c₁ connection) := by
  intro connection' hc
  obtain ⟨connection'', hc'', hcontent⟩ :=
    (OtherSession.publish hc₁ connection).content connection' hc
  exact ⟨connection'', hc'', congrArg (fun content => content.2.1) hcontent⟩

/-- A step of a session leaves the receive buffers alone. -/
theorem ClientRule.buffer {ws : ClientSocket} {pc : Client} {o : Outcome}
    (h : ClientRule cfg s ws pc o s') (c : ConnectionId) : SameBuffer c s.relay s'.relay := by
  cases h with
  | opens hfresh _ _ same =>
    have hnone := (Bool.and_eq_true_iff.mp hfresh).1
    exact (SameBuffer.publish (Option.isNone_iff_eq_none.mp hnone) _).trans
      (.of_eq same.connection)
  | @creating binary pc _ r' res h =>
    have hcreate : SameBuffer c s.relay r' := .of_eq h.frame.connection
    cases res with
    | parked _ | returned _ => exact hcreate
    | raised e => cases e <;> exact hcreate
  | @disconnects c₁ _ _ _ _ _ _ same =>
    have hdrop : SameBuffer c s.relay (s.relay._drop_relayed_connection c₁) :=
      .of_untouched (.drop _ _)
    have hsame : SameBuffer c (s.relay._drop_relayed_connection c₁) _ := .of_eq same.connection
    exact hdrop.trans hsame
  | ignores => exact .of_eq (continueLoop_same s _ _ _).connection
  | forwards _ _ h | forwarding _ h => exact .of_eq (forwarded_same h.same _ _ _ _ _).connection
  | @closing _ _ _ _ r' res _ h =>
    have hclose : SameBuffer c s.relay r' := .of_untouched h.untouched
    cases res <;> exact hclose
  | advances | refuses | unregistered | starts | startFails | receiveFails | malformed
  | clientClosed | closeFails | joined | cancels => exact .of_eq rfl

/-- A receive buffer changes only by a frame with data for its connection and by its reader. -/
theorem buffer_frame (h : RelayRule cfg s e s') {c : ConnectionId}
    (hreader : ∀ o, e ≠ .run (.reader c) o) (hdata : ¬ takesData s c e) :
    SameBuffer c s.relay s'.relay := by
  have hsend_buffer : ∀ {c₁ connection} (send_buffer : Bytes),
      s.relay.connection c₁ = some connection → SameBuffer c s.relay
        (s.relay.modifyConnection c₁ fun _ => { connection with send_buffer }) := by
    intro c₁ connection send_buffer hc₁
    refine .modifyConnection fun hcc connection' hc => ?_
    subst hcc
    rw [← Option.some.inj (hc₁.symm.trans hc)]
  cases h with
  | create _ hfresh _ same =>
    have hnone := (Bool.and_eq_true_iff.mp hfresh).1
    exact (SameBuffer.publish (Option.isNone_iff_eq_none.mp hnone) _).trans
      (.of_eq same.connection)
  | send _ _ hc => exact hsend_buffer _ hc
  | handshake _ h => exact .of_untouched h.untouched
  | keepAlive _ h => exact .of_eq h.same.connection
  | @msgLoop W n pc o s' hpc h =>
    cases h with
    | disconnects _ h => exact .of_untouched h.untouched
    | @receives frame rest _ hin h =>
      cases h with
      | fills hframe =>
        refine .modifyConnection fun hcc connection hc => ?_
        subst hcc
        exact absurd ⟨W, n, frame, rest, _, rfl, hpc, hin, hframe⟩ hdata
      | resets _ _ _ _ same => exact .of_eq same.connection
      | stops | ignores | schedules | answers | blocks | custom => exact .of_eq rfl
    | resetting _ h => exact .of_untouched h.untouched
    | tearingDown h => exact .of_untouched h.untouched
    | receiveFails | puts | customHandled => exact .of_eq rfl
  | client _ h => exact h.buffer c
  | @reader c₁ _ connection o _ _ _ h =>
    have hne : c ≠ c₁ := by
      rintro rfl
      exact hreader o rfl
    cases h with
    | sends => exact .modifyConnection fun hcc => absurd hcc hne
    | parks => exact .modifyConnection fun hcc => absurd hcc hne
    | @ends event =>
      have hevent : SameBuffer c s.relay
          (s.relay.modifyConnection c₁ fun _ => { connection with event }) :=
        .modifyConnection fun hcc => absurd hcc hne
      exact hevent.trans (.of_untouched (.drop _ _))
    | dies => exact .of_eq rfl
  | call _ h => exact .of_eq h.frame.connection
  | closes _ same => exact .of_eq same.connection
  | closing _ h => exact .of_untouched h.untouched
  | sends _ hc h => exact (hsend_buffer _ hc).trans (.of_eq h.same.connection)
  | sending _ _ h => exact .of_eq h.same.connection
  | agentConnects | agentSends | agentDies | clientConnects | createFails | close =>
    exact .of_eq rfl

end HttpNetworkRelay
