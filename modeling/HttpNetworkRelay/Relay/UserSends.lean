import HttpNetworkRelay.Asyncio.LockOrder
import HttpNetworkRelay.Relay.Serial
import HttpNetworkRelay.Relay.Upstream

/-!
# From a user of the library to the websocket of its agent

A user of the library writes to its connection with `send`, from several threads or tasks if it
likes. `TcpConnection.send` puts the content into `send_buffer` and schedules `send_async`, which
takes whatever is there when it runs; `TcpConnectionAsync.send` takes its content along. Either then
waits for the send lock of the agent's websocket. `user_stream` is the law of this stream: as long
as the agent is registered, the contents that have been given to a connection are, in their order,
what has been sent for it, what waits at the lock, and what is in the buffer.

`send_buffer_lock` has no place here: it makes a call of `send`, or a `send_async` that starts, wait
for the `send_async` before it (`Relay.SendBuffer`), so a run with it is one of the runs here.
-/

namespace HttpNetworkRelay

open Asyncio Python RelayState NetworkRelay

variable {cfg : RelayConfig} {s s' : RelayState} {e : RelayEvent}
  {ok : RelayState → RelayEvent → Prop} {c : ConnectionId} {W : AgentSocket}

/-! ## What users give -/

/-- The content that is given to a connection in an event: in the call of `TcpConnection.send`, and
where `TcpConnectionAsync.send` begins to run. -/
def RelayState.gives (s : RelayState) : RelayEvent → List (ConnectionId × Bytes)
  | .send _ call content =>
    match s.returnedBy call with
    | some c =>
      if (s.relay.connection c).any (·.cls = .tcpConnection) then [(c, content)] else []
    | none => []
  | .run (.sender k) _ =>
    match s.sender k with
    | some ⟨c, .scheduled (some content)⟩ => [(c, content)]
    | _ => []
  | _ => []

/-- What has been given to a connection, in its order. -/
def givenTo (connection_id : ConnectionId) (l : List (ConnectionId × Bytes)) : Bytes :=
  l.flatMap fun (c, content) => if c = connection_id then content else []

/-- What a `send` that waits for the lock is going to send for the connection. -/
def RelayState.piece (s : RelayState) (connection_id : ConnectionId) : Task → Bytes
  | .sender k =>
    match s.sender k with
    | some ⟨_, .sending (.ok m) (.acquiring _)⟩ => m.received.dataFor connection_id
    | _ => []
  | _ => []

/-- What waits for the connection at the lock of the websocket, in the order of the line. -/
def RelayState.unsent (s : RelayState) (ws : AgentSocket) (connection_id : ConnectionId) : Bytes :=
  (s.relay.locks.line ws).flatMap (s.piece connection_id)

/-- What was given in two stretches follows each other. -/
@[simp] theorem givenTo_append (c : ConnectionId) (l l' : List (ConnectionId × Bytes)) :
    givenTo c (l ++ l') = givenTo c l ++ givenTo c l' :=
  List.flatMap_append

/-- A `send` that does not wait for the lock has no piece in hand. -/
theorem piece_nil {k : ℕ} (h : ∀ c₁ m l, s.sender k ≠ some ⟨c₁, .sending (.ok m) (.acquiring l)⟩) :
    s.piece c (.sender k) = [] := by
  unfold piece
  dsimp only
  split
  case h_1 heq => exact absurd heq (h _ _ _)
  case h_2 => rfl

/-- Only a `send` has something to send for a connection. -/
theorem sender_or_silent (t : Task) :
    (∃ k, t = .sender k) ∨ ∀ (s : RelayState) (c : ConnectionId), s.piece c t = [] := by
  cases t with
  | sender k => exact .inl ⟨k, rfl⟩
  | handshake | keepAlive | msgLoop | client | reader | call | closer => exact .inr fun _ _ => rfl

/-- A `send` on another connection has nothing for this one. -/
theorem piece_of_ne (hr : Reaches (step cfg) ok {} s) {k : ℕ}
    (h : ∀ sender, s.sender k = some sender → sender.connection_id ≠ c) :
    s.piece c (.sender k) = [] := by
  simp only [piece]
  split
  case h_1 c₁ m l heq =>
    obtain ⟨connection, content, hc₁, hm⟩ := (outgoing hr).sender k c₁ _ _ heq
    refine RelayFrame.dataFor_eq_nil fun data hdata => ?_
    have hcanonical := canonical_ids hr c₁ (by rw [hc₁]; rfl)
    exact h _ heq (about_data hcanonical hm.symm (.inr ⟨data, hdata⟩))
  case h_2 => rfl

/-! ## The line at the lock -/

/-- A locked send puts its task at the end of the line, and sends at once if there is none. -/
theorem locked_send_line {r : NetworkRelay} {use : Task → Option (LockUse AgentSocket)}
    (hE : LockTable.Exclusive r.locks use) (t : Task) (ws : AgentSocket) (m : ToAgent) :
    ∃ r' send, locked_send r t ws (.ok m) = (r', .parked send) ∧ r'.connection = r.connection ∧
      r'.locks.line ws = r.locks.line ws ++ [t] ∧
      ((∃ l, send = .sending l) ∧ r.locks.line ws = [] ∧
          r'.to_agent = (r.sendToAgent ws m).to_agent ∨
        (∃ l, send = .acquiring l) ∧ r'.to_agent = r.to_agent) := by
  obtain ⟨hl, hlocks⟩ := agent_send_lock_locks r ws
  have hsame := locked_send_step r t ws (.ok m) .ok
  -- Whether the lock is free or not, the task is last in the line for it.
  have hline : ((r._agent_send_lock ws).2.acquireLock (r._agent_send_lock ws).1 t).locks.line ws =
      r.locks.line ws ++ [t] := by
    have hacquire := LockTable.acquire_line hE ws t
    rw [← hlocks, ← hl] at hacquire
    exact hacquire
  have hout : (r._agent_send_lock ws).2.to_agent = r.to_agent := by
    unfold _agent_send_lock
    split <;> rfl
  unfold locked_send at hsame ⊢
  dsimp only at hsame ⊢
  split
  case isTrue hfree =>
    rw [if_pos hfree] at hsame
    -- A free lock has nobody in its line, so the message goes out before all others.
    have hnone : r.locks.line ws = [] := by
      refine LockTable.free_line hE ?_
      rw [← hlocks, ← hl]
      exact hfree
    refine ⟨_, _, rfl, hsame.same.connection, hline, .inl ⟨⟨_, rfl⟩, hnone, ?_⟩⟩
    simp [hout]
  case isFalse hbusy =>
    rw [if_neg hbusy] at hsame
    exact ⟨_, _, rfl, hsame.same.connection, hline, .inr ⟨⟨_, rfl⟩, hout⟩⟩

/-- What a `send` does when it is resumed. -/
inductive Writes (s : RelayState) (k : ℕ) (c : ConnectionId) (connection : TcpConnection)
    (s' : RelayState) : SenderPoint → Prop
  /-- It takes its content to the end of the line. -/
  | begins {kept m send}
      (hm : connection.dataMessage c (kept.getD connection.send_buffer) = .ok m)
      (hconn : s'.relay.connection = Function.update s.relay.connection c (some { connection with
        send_buffer := if kept.isNone then [] else connection.send_buffer }))
      (hpc' : s'.sender k = some ⟨c, .sending (.ok m) send⟩)
      (hline : s'.relay.locks.line connection.agent_connection =
        s.relay.locks.line connection.agent_connection ++ [.sender k])
      (hout : (∃ l, send = .sending l) ∧
          s.relay.locks.line connection.agent_connection = [] ∧
          s'.relay.to_agent = (s.relay.sendToAgent connection.agent_connection m).to_agent ∨
        (∃ l, send = .acquiring l) ∧ s'.relay.to_agent = s.relay.to_agent) :
      Writes s k c connection s' (.scheduled kept)
  /-- It has waited for the lock. -/
  | passes {m l} (hheld : (s.relay.lock l).holder = some (.sender k))
      (hpc' : s'.sender k = some ⟨c, .sending (.ok m) (.sending l)⟩)
      (hlocks : s'.relay.locks = s.relay.locks)
      (hconn : s'.relay.connection = s.relay.connection)
      (hout : s'.relay.to_agent = (s.relay.sendToAgent connection.agent_connection m).to_agent) :
      Writes s k c connection s' (.sending (.ok m) (.acquiring l))
  | ends {m l} (result : Except Exc Unit) (hpc' : s'.sender k = some ⟨c, .finished result⟩)
      (hconn : s'.relay.connection = s.relay.connection)
      (hout : s'.relay.to_agent = s.relay.to_agent) :
      Writes s k c connection s' (.sending (.ok m) (.sending l))

/-- What a step of a `send` writes. -/
theorem sender_writes (hr : Reaches (step cfg) ok {} s) {k : ℕ} {o : Outcome}
    (hstep : step cfg s (.run (.sender k) o) = some s') :
    ∃ c connection point, s.sender k = some ⟨c, point⟩ ∧ s.relay.connection c = some connection ∧
      Writes s k c connection s' point := by
  obtain ⟨⟨c, point⟩, hpc, hres⟩ := Option.bind_eq_some_iff.mp hstep
  obtain ⟨connection, hc, hres⟩ := Option.bind_eq_some_iff.mp hres
  have hcanonical := canonical_ids hr c (by rw [hc]; rfl)
  refine ⟨c, connection, point, hpc, hc, ?_⟩
  cases point with
  -- The task runs first: it takes the buffer, or the content it was given, and asks for the lock.
  | scheduled kept =>
    obtain ⟨m, hm⟩ := dataMessage_encodes connection (kept.getD connection.send_buffer) hcanonical
    dsimp only at hres
    rw [hm] at hres
    split_ifs at hres with ho
    obtain rfl := Option.some.inj hres
    cases kept with
    | none =>
      obtain ⟨r', send, heq, hconn, hline, hout⟩ := locked_send_line
        (r := s.relay.modifyConnection c ({ · with send_buffer := [] })) (takesTurns hr).exclusive
        (.sender k) connection.agent_connection m
      have hsent : locked_send (s.relay.modifyConnection c ({ · with send_buffer := [] }))
          (.sender k) connection.agent_connection (.ok m) = (r', .parked send) := heq
      dsimp only
      rw [hsent]
      refine .begins hm ?_ (by simp [senderReturned]) hline hout
      show r'.connection = _
      rw [hconn]
      simp [hc]
    | some content =>
      obtain ⟨r', send, heq, hconn, hline, hout⟩ := locked_send_line (takesTurns hr).exclusive
        (.sender k) connection.agent_connection m
      dsimp only
      rw [heq]
      refine .begins hm ?_ (by simp [senderReturned]) hline hout
      show r'.connection = _
      rw [hconn]
      exact (Function.update_eq_self_iff.mpr hc.symm).symm
  -- It was queued and is handed the lock, or its send is over.
  | sending message send =>
    obtain ⟨connection', content, hc', hframed⟩ := (outgoing hr).sender k c message send hpc
    obtain rfl := Option.some.inj (hc.symm.trans hc')
    obtain ⟨m, hm⟩ := dataMessage_encodes connection content hcanonical
    obtain rfl : message = .ok m := hframed.trans hm
    obtain ⟨x, hx, rfl⟩ := Option.map_eq_some_iff.mp hres
    unfold LockedSend.resume at hx
    split at hx
    case h_1 l =>
      split_ifs at hx with hheld
      obtain rfl := Option.some.inj hx
      exact .passes hheld (by simp [senderReturned, LockedSend.body]) rfl rfl rfl
    case h_2 =>
      obtain rfl := Option.some.inj hx
      exact .ends (.ok ()) (by simp [senderReturned]) rfl rfl
    case h_3 e _ =>
      obtain rfl := Option.some.inj hx
      exact .ends (.error (.ws e)) (by simp [senderReturned]) rfl rfl
    case h_4 => cases hx
  | finished result => cases hres

/-! ## What the others leave alone -/

/-- A step that leaves the send buffer of `c` alone. -/
def SameSendBuffer (c : ConnectionId) (r r' : NetworkRelay) : Prop :=
  ∀ connection, r.connection c = some connection →
    ∃ connection', r'.connection c = some connection' ∧
      connection'.send_buffer = connection.send_buffer

namespace SameSendBuffer

variable {r r' r'' : NetworkRelay}

/-- A send buffer stays where the connections do. -/
theorem of_eq (h : r'.connection = r.connection) : SameSendBuffer c r r' := by
  intro connection hc
  exact ⟨connection, by rw [h]; exact hc, rfl⟩

/-- A send buffer stays where no session is touched. -/
theorem of_untouched (h : Untouched r r') : SameSendBuffer c r r' := by
  intro connection hc
  obtain ⟨connection', hc', hcontent⟩ := h.connection hc
  exact ⟨connection', hc', congrArg (fun content => content.2.2) hcontent⟩

/-- A send buffer that stays, and stays again, has stayed. -/
theorem trans (h : SameSendBuffer c r r') (h' : SameSendBuffer c r' r'') :
    SameSendBuffer c r r'' := by
  intro connection hc
  obtain ⟨connection', hc', hbuffer⟩ := h connection hc
  obtain ⟨connection'', hc'', hbuffer'⟩ := h' connection' hc'
  exact ⟨connection'', hc'', hbuffer'.trans hbuffer⟩

/-- Another part of a connection object is changed. -/
theorem modifyConnection {c₁ : ConnectionId} {f : TcpConnection → TcpConnection}
    (hf : ∀ connection, r.connection c₁ = some connection →
      (f connection).send_buffer = connection.send_buffer) :
    SameSendBuffer c r (r.modifyConnection c₁ f) := by
  intro connection hc
  by_cases hcc : c = c₁
  · subst hcc
    exact ⟨f connection, by simp [hc], hf connection hc⟩
  · exact ⟨connection, by simp [hcc, hc], rfl⟩

/-- A send buffer stays where a new connection is published. -/
theorem publish {c₁ : ConnectionId} (hc₁ : r.connection c₁ = none) (connection : TcpConnection) :
    SameSendBuffer c r (r.publish c₁ connection) := by
  intro connection' hc
  obtain ⟨connection'', hc'', hcontent⟩ :=
    (OtherSession.publish hc₁ connection).content connection' hc
  exact ⟨connection'', hc'', congrArg (fun content => content.2.2) hcontent⟩

end SameSendBuffer

/-- A step of a session leaves the send buffers alone. -/
theorem ClientRule.send_buffer {A : ClientSocket} {pc : Client} {o : Outcome}
    (h : ClientRule cfg s A pc o s') : SameSendBuffer c s.relay s'.relay := by
  cases h with
  | opens hfresh _ _ same =>
    have hnone := (Bool.and_eq_true_iff.mp hfresh).1
    exact (SameSendBuffer.publish (Option.isNone_iff_eq_none.mp hnone) _).trans
      (.of_eq same.connection)
  | @creating binary pc _ r' res h =>
    -- The call makes its own connection and changes no other one.
    have hcreate : SameSendBuffer c s.relay r' := .of_eq h.frame.connection
    cases res with
    | parked _ | returned _ => exact hcreate
    | raised e => cases e <;> exact hcreate
  | @disconnects c₁ _ _ _ _ _ _ same =>
    have hdrop : SameSendBuffer c s.relay (s.relay._drop_relayed_connection c₁) :=
      .of_untouched (.drop _ _)
    exact hdrop.trans (.of_eq same.connection)
  | ignores => exact .of_eq (continueLoop_same s _ _ _).connection
  | forwards _ _ h | forwarding _ h => exact .of_eq (forwarded_same h.same _ _ _ _ _).connection
  | @closing _ _ _ _ r' res _ h =>
    -- A close wakes the readers of its connection and drops it.
    have hclose : SameSendBuffer c s.relay r' := .of_untouched h.untouched
    cases res <;> exact hclose
  | advances | refuses | unregistered | starts | startFails | receiveFails | malformed
  | clientClosed | closeFails | joined | cancels => exact .of_eq rfl

/-- A send buffer changes only by a `send`. -/
theorem send_buffer_frame (h : RelayRule cfg s e s')
    (hsend : ∀ k call content, e ≠ .send k call content)
    (hrun : ∀ k o, e ≠ .run (.sender k) o) : SameSendBuffer c s.relay s'.relay := by
  cases h with
  | create _ hfresh _ same =>
    have hnone := (Bool.and_eq_true_iff.mp hfresh).1
    exact (SameSendBuffer.publish (Option.isNone_iff_eq_none.mp hnone) _).trans
      (.of_eq same.connection)
  | handshake _ h => exact .of_untouched h.untouched
  | keepAlive _ h => exact .of_eq h.same.connection
  | msgLoop _ h =>
    cases h with
    | disconnects _ h | resetting _ h | tearingDown h => exact .of_untouched h.untouched
    | receives _ h =>
      cases h with
      | fills => exact .modifyConnection fun _ _ => rfl
      | resets _ _ _ _ same => exact .of_eq same.connection
      | stops | ignores | schedules | answers | blocks | custom => exact .of_eq rfl
    | receiveFails | puts | customHandled => exact .of_eq rfl
  | client _ h => exact h.send_buffer
  | @reader c₁ _ connection o _ _ hc₁ h =>
    -- A reader takes from `recv_buffer`, and not from `send_buffer`.
    have hevent : ∀ (recv_buffer : Bytes) (event : Event Task), SameSendBuffer c s.relay
        (s.relay.modifyConnection c₁ fun _ => { connection with recv_buffer, event }) := by
      intro recv_buffer event
      refine .modifyConnection fun connection' hc' => ?_
      rw [← Option.some.inj (hc₁.symm.trans hc')]
    cases h with
    | sends | parks => exact hevent _ _
    | ends => exact (hevent _ _).trans (.of_untouched (.drop _ _))
    | dies => exact .of_eq rfl
  | call _ h => exact .of_eq h.frame.connection
  | closes _ same => exact .of_eq same.connection
  | closing _ h => exact .of_untouched h.untouched
  | send => exact absurd rfl (hsend _ _ _)
  | sends | sending => exact absurd rfl (hrun _ _)
  | agentConnects | agentSends | agentDies | clientConnects | createFails | close =>
    exact .of_eq rfl

/-- The event is no `send` on the connection. -/
structure Foreign (s : RelayState) (e : RelayEvent) (c : ConnectionId) : Prop where
  send : ∀ k call content, e = .send k call content → s.returnedBy call ≠ some c
  sender : ∀ k o sender, e = .run (.sender k) o → s.sender k = some sender →
    sender.connection_id ≠ c

/-- What a call of `send` does. -/
theorem send_starts {k call : ℕ} {content : Bytes}
    (hstep : step cfg s (.send k call content) = some s') :
    ∃ c connection, s.returnedBy call = some c ∧ s.relay.connection c = some connection ∧
      s.sender k = none ∧
      (∃ kept, s'.sender = Function.update s.sender k (some ⟨c, .scheduled kept⟩) ∧
        ∀ x, kept = some x → connection.cls = .tcpConnectionAsync) ∧
      s'.relay.locks = s.relay.locks ∧ s'.relay.to_agent = s.relay.to_agent ∧
      s'.relay.connection = Function.update s.relay.connection c (some { connection with
        send_buffer := connection.send_buffer ++
          if connection.cls = .tcpConnection then content else [] }) := by
  obtain ⟨c, hcall, hstart⟩ := Option.bind_eq_some_iff.mp hstep
  unfold startSend at hstart
  split_ifs at hstart with hnew
  obtain ⟨connection, hc, rfl⟩ := Option.map_eq_some_iff.mp hstart
  refine ⟨c, connection, hcall, hc, Option.isNone_iff_eq_none.mp hnew, ?_⟩
  split
  case h_1 hcls =>
    refine ⟨⟨none, rfl, by simp⟩, rfl, rfl, ?_⟩
    simp [hc, hcls]
  case h_2 hcls =>
    refine ⟨⟨some content, rfl, fun _ _ => hcls⟩, rfl, rfl, ?_⟩
    rw [if_neg (by simp [hcls]), List.append_nil]
    exact (Function.update_eq_self_iff.mpr hc.symm).symm

namespace Foreign

variable (hF : Foreign s e c)
include hF

/-- Nothing is given to the connection. -/
theorem gives : givenTo c (s.gives e) = [] := by
  unfold givenTo
  rw [List.flatMap_eq_nil_iff]
  rintro ⟨c₁, content⟩ hgives
  -- Both a `send` and a `send_async` name the connection that they are for.
  have hne : c₁ ≠ c := by
    unfold RelayState.gives at hgives
    split at hgives
    case h_1 k call content' =>
      split at hgives
      case h_1 c₂ hcall =>
        split_ifs at hgives
        · obtain ⟨rfl, -⟩ := Prod.mk.inj (List.mem_singleton.mp hgives)
          rintro rfl
          exact hF.send _ _ _ rfl hcall
        · cases hgives
      case h_2 => cases hgives
    case h_2 k o =>
      split at hgives
      case h_1 c₂ content' hk =>
        obtain ⟨rfl, -⟩ := Prod.mk.inj (List.mem_singleton.mp hgives)
        exact hF.sender _ _ _ rfl hk
      case h_2 => cases hgives
    case h_3 => cases hgives
  exact if_neg hne

/-- A step that does not concern a connection leaves its send buffer alone. -/
theorem send_buffer (hr : Reaches (step cfg) ok {} s) (hstep : step cfg s e = some s') :
    SameSendBuffer c s.relay s'.relay := by
  -- A change of another connection's object.
  have hother : ∀ {c₁ connection₁}, c₁ ≠ c →
      s'.relay.connection = Function.update s.relay.connection c₁ (some connection₁) →
      SameSendBuffer c s.relay s'.relay := by
    intro c₁ connection₁ hne hconn connection hc
    exact ⟨connection, by rw [hconn, Function.update_of_ne hne.symm, hc], rfl⟩
  by_cases hsend : ∃ k call content, e = .send k call content
  · obtain ⟨k, call, content, rfl⟩ := hsend
    obtain ⟨c₁, connection₁, hcall, -, -, -, -, -, hconn⟩ := send_starts hstep
    refine hother ?_ hconn
    rintro rfl
    exact hF.send k call content rfl hcall
  by_cases hrun : ∃ k o, e = .run (.sender k) o
  · obtain ⟨k, o, rfl⟩ := hrun
    obtain ⟨c₁, connection₁, point, hk, -, hwrites⟩ := sender_writes hr hstep
    cases hwrites with
    | begins _ hconn => exact hother (hF.sender k o _ rfl hk) hconn
    | passes _ _ _ hconn | ends _ _ hconn => exact .of_eq hconn
  · refine send_buffer_frame (step_rule hstep) (fun k call content he => ?_) fun k o he => ?_
    · exact hsend ⟨k, call, content, he⟩
    · exact hrun ⟨k, o, he⟩

/-- No data of the connection is sent. -/
theorem carried (hr : Reaches (step cfg) ok {} s) (h : RelayRule cfg s e s')
    (hcreator : ∀ connection, s.relay.connection c = some connection →
      ∃ call, connection.creator = .call call) :
    carried c (s'.relay.frames W) = carried c (s.relay.frames W) := by
  refine (sends_of_rule h).carried ?_ W
  intro W m hm
  refine RelayFrame.dataFor_eq_nil fun data hdata => ?_
  -- A message that carries data for `c` was framed for `c`.
  have hid : ∀ {c₁ connection content}, s.relay.connection c₁ = some connection →
      connection.dataMessage c₁ content = .ok m → c₁ = c := by
    intro c₁ connection content hc hm
    exact about_data (canonical_ids hr c₁ (by rw [hc]; rfl)) hm (.inr ⟨data, hdata⟩)
  -- The connection was created by a call of the user, so no session has it.
  have hclient : ∀ {A pc}, s.client A = some pc → pc.connection_id? ≠ some c := by
    intro A pc hpc hid
    obtain ⟨connection, hc, hcreator', -⟩ := (ownership hr).client A pc c hpc hid
    obtain ⟨call, hcall⟩ := hcreator connection hc
    rw [hcreator'] at hcall
    cases hcall
  cases hm with
  | keepAlive | close | requests | opens => cases hdata
  | data hc hm hpc =>
    obtain rfl := hid hc hm
    obtain ⟨A, o, -, hpc⟩ | ⟨k, o, kept, he, hpc⟩ := hpc
    · exact hclient hpc rfl
    · exact hF.sender k o _ he hpc rfl
  | @forwards c₁ connection m l hc hpc =>
    obtain ⟨connection₁, content, hc₁, hm⟩ := waiting_data (outgoing hr) hpc
    obtain rfl := hid hc₁ hm
    obtain ⟨A, o, -, hpc⟩ | ⟨k, o, he, hpc⟩ := hpc
    · exact hclient hpc rfl
    · exact hF.sender k o _ he hpc rfl

/-- A step that does not concern a connection leaves its pieces alone. -/
theorem piece (hr : Reaches (step cfg) ok {} s) (hr' : Reaches (step cfg) ok {} s')
    (hstep : step cfg s e = some s') (t : Task) : s'.piece c t = s.piece c t := by
  obtain ⟨k, rfl⟩ | hsilent := sender_or_silent t
  · by_cases hrun : ∃ o, e = .run (.sender k) o
    · obtain ⟨o, rfl⟩ := hrun
      obtain ⟨c₁, connection₁, point, hk, -, hwrites⟩ := sender_writes hr hstep
      have hne := hF.sender k o _ rfl hk
      -- The task that runs is about another connection before and after its step.
      have hk' : ∀ sender, s'.sender k = some sender → sender.connection_id ≠ c := by
        intro sender hsender
        cases hwrites with
        | begins _ _ hpc' | passes _ hpc' | ends _ hpc' =>
          rw [← Option.some.inj (hpc'.symm.trans hsender)]
          exact hne
      have hk₀ : ∀ sender, s.sender k = some sender → sender.connection_id ≠ c := by
        intro sender hsender
        rw [← Option.some.inj (hk.symm.trans hsender)]
        exact hne
      rw [piece_of_ne hr' hk', piece_of_ne hr hk₀]
    · by_cases hsend : ∃ call content, e = .send k call content
      · obtain ⟨call, content, rfl⟩ := hsend
        obtain ⟨c₁, connection₁, -, -, hnone, ⟨kept, hk', -⟩, -⟩ := send_starts hstep
        rw [piece_nil (by simp [hk']), piece_nil (by simp [hnone])]
      · simp only [RelayState.piece]
        rw [sender_frame (step_rule hstep) (fun o he => hrun ⟨o, he⟩) fun call content he =>
          hsend ⟨call, content, he⟩]
  · rw [hsilent, hsilent]

end Foreign

/-- A step leaves the order of the other tasks at the lock of a registered websocket alone. -/
theorem line_order (hr : Reaches (step cfg) ok {} s) (hstep : step cfg s e = some s')
    {n : AgentId} (hreg : s'.relay.registered_agent_connections n = some W) :
    ∃ t, ((∀ k, t ≠ .sender k) ∨ ∃ o, e = .run t o) ∧
      (s'.relay.locks.line W).filter (· ≠ t) = (s.relay.locks.line W).filter (· ≠ t) := by
  have hE : ∀ t, LockTable.Exclusive s.relay.locks (Function.update s.use? t (s.use? t)) := by
    intro t
    rw [Function.update_eq_self]
    exact (takesTurns hr).exclusive
  cases e with
  | run t o =>
    refine ⟨t, .inr ⟨o, rfl⟩, (locks_of_run hstep).ops.order (hE t) fun hpop => ?_⟩
    -- A step that pops the entry of `W` leaves `W` unregistered, as no id is empty.
    have hid : ∀ n, s.relay.registered_agent_connections n = some W → n ≠ "" :=
      fun n hn => opened_id_ne hr W n (.inl ((registryInv hr).registered n W hn))
    exact (unlisted_of_popped (registryInv hr) (closing_inv hr) hstep hid hpop).1 n hreg
  | create k request c =>
    refine ⟨.call k, .inl (by simp), ?_⟩
    simp only [step, startCall] at hstep
    split_ifs at hstep with hcond
    obtain rfl := Option.some.inj hstep
    have hnew : s.call k = none := Option.isNone_iff_eq_none.mp (Bool.and_eq_true_iff.mp hcond).1
    -- The new task has not been in any line.
    have huse : s.use? (.call k) = none := by simp [use?, hnew]
    rw [(callReturned_locks _ _ _ _).1]
    have hE₀ := hE (.call k)
    rw [huse] at hE₀
    exact LockTable.Ops.order (P := fun _ => False) hE₀ id (_create_connection_ops cfg request c)
  | agentConnects | agentSends | agentDies | clientConnects | close | send =>
    refine ⟨.call 0, .inl (by simp), ?_⟩
    cases step_rule hstep
    rfl

/-- What waits at the lock is the same if the tasks say the same, and the task that is resumed has
nothing to say. -/
theorem unsent_of_piece (hr : Reaches (step cfg) ok {} s) (hstep : step cfg s e = some s')
    {n : AgentId} (hreg : s'.relay.registered_agent_connections n = some W)
    (hpiece : ∀ t, s'.piece c t = s.piece c t)
    (hown : ∀ k o, e = .run (.sender k) o → s.piece c (.sender k) = []) :
    s'.unsent W c = s.unsent W c := by
  obtain ⟨t, ht, horder⟩ := line_order hr hstep hreg
  have hnone : s.piece c t = [] := by
    obtain ⟨k, rfl⟩ | hsilent := sender_or_silent t
    · obtain hne | ⟨o, he⟩ := ht
      · exact absurd rfl (hne k)
      · exact hown k o he
    · exact hsilent s c
  exact flatMap_order horder hnone ((hpiece t).trans hnone) fun t' _ => hpiece t'

/-- A `send` on another connection does not change what waits for this one. -/
theorem Foreign.unsent (hF : Foreign s e c) (hr : Reaches (step cfg) ok {} s)
    (hr' : Reaches (step cfg) ok {} s') (hstep : step cfg s e = some s') {n : AgentId}
    (hreg : s'.relay.registered_agent_connections n = some W) : s'.unsent W c = s.unsent W c := by
  refine unsent_of_piece hr hstep hreg (hF.piece hr hr' hstep) fun k o he => ?_
  exact piece_of_ne hr fun sender hk => hF.sender k o sender he hk

/-- Nobody can send on a connection before it is there. -/
theorem Foreign.of_none (hr : Reaches (step cfg) ok {} s) (hstep : step cfg s e = some s')
    (hnone : s.relay.connection c = none) : Foreign s e c where
  send k call content _ hcall := by
    unfold returnedBy at hcall
    split at hcall
    case h_1 i c' hfinished =>
      obtain rfl := Option.some.inj hcall
      -- A call that has returned an id has made its connection.
      obtain ⟨connection, hc, -⟩ := returned_creator hr call i _ hfinished
      rw [hnone] at hc
      cases hc
    case h_2 => cases hcall
  sender k o sender he hk hid := by
    subst he
    obtain ⟨c₁, connection, point, hk₁, hc₁, -⟩ := sender_writes hr hstep
    obtain rfl := Option.some.inj (hk.symm.trans hk₁)
    obtain rfl : c₁ = c := hid
    rw [hnone] at hc₁
    cases hc₁

/-- What a step is to a connection. -/
inductive Concerns (s : RelayState) (e : RelayEvent) (s' : RelayState) (c : ConnectionId)
    (connection : TcpConnection) : Prop
  | foreign (hF : Foreign s e c)
  /-- `send` is called. -/
  | called {k call content kept} (he : e = .send k call content)
      (hcall : s.returnedBy call = some c) (hnone : s.sender k = none)
      (hsender : s'.sender = Function.update s.sender k (some ⟨c, .scheduled kept⟩))
      (hlocks : s'.relay.locks = s.relay.locks) (hout : s'.relay.to_agent = s.relay.to_agent)
      (hc' : s'.relay.connection c = some { connection with
        send_buffer := connection.send_buffer ++
          if connection.cls = .tcpConnection then content else [] })
  /-- A `send` is resumed. -/
  | resumed {k o point} (he : e = .run (.sender k) o) (hk : s.sender k = some ⟨c, point⟩)
      (hwrites : Writes s k c connection s' point)

/-- What a step is to a connection. -/
theorem concerns (hr : Reaches (step cfg) ok {} s) (hstep : step cfg s e = some s')
    {connection : TcpConnection} (hc : s.relay.connection c = some connection) :
    Concerns s e s' c connection := by
  by_cases hsend : ∃ k call content, e = .send k call content ∧ s.returnedBy call = some c
  · obtain ⟨k, call, content, rfl, hcall⟩ := hsend
    obtain ⟨c₁, connection₁, hcall₁, hc₁, hnone, ⟨kept, hsender, -⟩, hlocks, hout, hconn⟩ :=
      send_starts hstep
    obtain rfl := Option.some.inj (hcall.symm.trans hcall₁)
    obtain rfl := Option.some.inj (hc.symm.trans hc₁)
    exact .called rfl hcall hnone hsender hlocks hout (by rw [hconn, Function.update_self])
  · by_cases hrun : ∃ k o sender, e = .run (.sender k) o ∧ s.sender k = some sender ∧
        sender.connection_id = c
    · obtain ⟨k, o, sender, rfl, hk, rfl⟩ := hrun
      obtain ⟨c₁, connection₁, point, hk₁, hc₁, hwrites⟩ := sender_writes hr hstep
      obtain rfl := Option.some.inj (hk.symm.trans hk₁)
      obtain rfl := Option.some.inj (hc.symm.trans hc₁)
      exact .resumed rfl hk hwrites
    · -- Neither a `send` on the connection nor a step of one of its tasks.
      refine .foreign ⟨fun k call content he hcall => ?_, fun k o sender he hk hid => ?_⟩
      · exact hsend ⟨k, call, content, he, hcall⟩
      · exact hrun ⟨k, o, sender, he, hk, hid⟩

/-! ## The two classes -/

/-- Nothing has been written to a connection that is made in this step. -/
theorem new_send_buffer (hr : Reaches (step cfg) ok {} s) (h : RelayRule cfg s e s')
    {connection : TcpConnection} (hnone : s.relay.connection c = none)
    (hc : s'.relay.connection c = some connection) : connection.send_buffer = [] := by
  obtain ⟨-, call, hcall, hid⟩ := connection_new h hnone hc
  have hexists : ∀ {call₀}, s.pending? connection.creator = some call₀ →
      call₀.connection_id ≠ c := by
    rintro call₀ hcall₀ rfl
    obtain ⟨connection₀, hc₀, -⟩ := (outgoing hr).pending _ call₀ hcall₀
    rw [hnone] at hc₀
    cases hc₀
  cases pending_of_rule h hcall with
  | same _ hcall₀ => exact absurd hid (hexists hcall₀)
  | moved _ hcall₀ hcreate => exact absurd (hcreate.parked.2.1.symm.trans hid) (hexists hcall₀)
  | published _ hconn =>
    rw [hid, hc] at hconn
    rw [Option.some.inj hconn]
    rfl

/-- A `TcpConnectionAsync` does not use its send buffer, and a coroutine takes its content along
only for such a connection. -/
structure ByClass (s : RelayState) : Prop where
  kept : ∀ k c content connection, s.sender k = some ⟨c, .scheduled (some content)⟩ →
    s.relay.connection c = some connection → connection.cls = .tcpConnectionAsync
  unused : ∀ c connection, s.relay.connection c = some connection →
    connection.cls = .tcpConnectionAsync → connection.send_buffer = []

namespace ByClass

variable (hB : ByClass s) (hr : Reaches (step cfg) ok {} s) (hstep : step cfg s e = some s')
include hB hr hstep

/-- Only a `send_async` of a `TcpConnectionAsync` keeps its content. -/
theorem kept_step {k : ℕ} {content : Bytes} {connection : TcpConnection}
    (hk : s'.sender k = some ⟨c, .scheduled (some content)⟩)
    (hc : s'.relay.connection c = some connection) : connection.cls = .tcpConnectionAsync := by
  -- A connection keeps its class.
  have hcls : ∀ {connection₀}, s.relay.connection c = some connection₀ →
      connection.cls = connection₀.cls := by
    intro connection₀ hc₀
    obtain ⟨connection₁, hc₁, hid⟩ := (step_rule hstep).evolves.connection c connection₀ hc₀
    rw [← Option.some.inj (hc₁.symm.trans hc)]
    exact congrArg Prod.fst hid
  by_cases hsend : ∃ call content, e = .send k call content
  · obtain ⟨call, content', rfl⟩ := hsend
    obtain ⟨c₁, connection₀, -, hc₀, -, ⟨kept, hsender, hkept⟩, -⟩ := send_starts hstep
    rw [hsender, Function.update_self] at hk
    obtain ⟨rfl, hpoint⟩ := Sender.mk.inj (Option.some.inj hk)
    rw [hcls hc₀]
    exact hkept content (SenderPoint.scheduled.inj hpoint)
  · by_cases hrun : ∃ o, e = .run (.sender k) o
    · obtain ⟨o, rfl⟩ := hrun
      obtain ⟨c₁, connection₁, point, -, -, hwrites⟩ := sender_writes hr hstep
      cases hwrites with
      | begins _ _ hpc' | passes _ hpc' | ends _ hpc' => simp [hpc'] at hk
    · rw [sender_frame (step_rule hstep) (fun o he => hrun ⟨o, he⟩) fun call content he =>
        hsend ⟨call, content, he⟩] at hk
      obtain ⟨call, i, hcall⟩ := senders_called hr k _ hk
      obtain ⟨connection₀, hc₀, -⟩ := returned_creator hr call i c hcall
      rw [hcls hc₀]
      exact hB.kept k c content connection₀ hk hc₀

/-- The send buffer of a `TcpConnectionAsync` is empty. -/
theorem unused_step {connection : TcpConnection} (hc : s'.relay.connection c = some connection)
    (hcls : connection.cls = .tcpConnectionAsync) : connection.send_buffer = [] := by
  cases hc₀ : s.relay.connection c with
  | none => exact new_send_buffer hr (step_rule hstep) hc₀ hc
  | some connection₀ =>
    obtain ⟨connection₁, hc₁, hid⟩ := (step_rule hstep).evolves.connection c connection₀ hc₀
    obtain rfl := Option.some.inj (hc₁.symm.trans hc)
    have hcls₀ : connection₀.cls = .tcpConnectionAsync := (congrArg Prod.fst hid).symm.trans hcls
    have hempty := hB.unused c connection₀ hc₀ hcls₀
    cases concerns hr hstep hc₀ with
    | foreign hF =>
      obtain ⟨connection₂, hc₂, hbuffer⟩ := hF.send_buffer hr hstep connection₀ hc₀
      rw [Option.some.inj (hc₁.symm.trans hc₂), hbuffer, hempty]
    -- `TcpConnectionAsync.send` does not use the buffer.
    | called _ _ _ _ _ _ hc' =>
      rw [Option.some.inj (hc₁.symm.trans hc')]
      simp [hempty, hcls₀]
    | resumed _ _ hwrites =>
      cases hwrites with
      | begins _ hconn =>
        rw [hconn, Function.update_self] at hc₁
        rw [← Option.some.inj hc₁]
        simp [hempty]
      | passes _ _ _ hconn | ends _ _ hconn =>
        rw [hconn, hc₀] at hc₁
        rw [← Option.some.inj hc₁, hempty]

end ByClass

/-- The classes keep to their ways of sending, in every run. -/
theorem byClass (h : Reaches (step cfg) ok {} s) : ByClass s := by
  refine h.invariant ⟨by simp, by simp⟩ fun s e s' hr _ hstep hB => ?_
  exact ⟨fun k c content connection => hB.kept_step hr hstep,
    fun c connection => hB.unused_step hr hstep⟩

/-! ## The law of the stream -/

/-- A `send` that waits for the lock has its piece in hand. -/
theorem piece_waiting {k l : ℕ} {c₁ : ConnectionId} {m : ToAgent}
    (h : s.sender k = some ⟨c₁, .sending (.ok m) (.acquiring l)⟩) :
    s.piece c (.sender k) = m.received.dataFor c := by
  simp [RelayState.piece, h]

/-- A resumed `send` has no say in what the others are going to send. -/
theorem piece_frame (h : RelayRule cfg s e s') {k : ℕ} {o : Outcome} (he : e = .run (.sender k) o)
    {t : Task} (ht : t ≠ .sender k) : s'.piece c t = s.piece c t := by
  obtain ⟨k', rfl⟩ | hsilent := sender_or_silent t
  · simp only [RelayState.piece]
    rw [sender_frame h ?_ fun call content he' => by simp [he] at he']
    rintro o' rfl
    exact ht (RelayEvent.run.inj he).1
  · rw [hsilent, hsilent]

/-- A task that comes to the end of the line adds what it has to send. -/
theorem unsent_of_line {t : Task} (hline : s'.relay.locks.line W = s.relay.locks.line W ++ [t])
    (ht : t ∉ s.relay.locks.line W) (hframe : ∀ t', t' ≠ t → s'.piece c t' = s.piece c t') :
    s'.unsent W c = s.unsent W c ++ s'.piece c t := by
  unfold RelayState.unsent
  rw [hline, List.flatMap_append, List.flatMap_singleton]
  congr 1
  refine List.flatMap_congr fun t' ht' => hframe t' ?_
  rintro rfl
  exact ht ht'

/-- What the task at the head of the line has to send comes first. -/
theorem unsent_of_head {t : Task} {waiters : List Task}
    (hline : s.relay.locks.line W = t :: waiters) (hlocks : s'.relay.locks = s.relay.locks)
    (ht : t ∉ waiters) (hframe : ∀ t', t' ≠ t → s'.piece c t' = s.piece c t')
    (hnone : s'.piece c t = []) : s.unsent W c = s.piece c t ++ s'.unsent W c := by
  unfold RelayState.unsent
  rw [hlocks, hline, List.flatMap_cons, List.flatMap_cons, hnone, List.nil_append]
  congr 1
  refine List.flatMap_congr fun t' ht' => (hframe t' ?_).symm
  rintro rfl
  exact ht ht'

/-- One step of a `send`: its content is sent, or waits in the line. -/
theorem Writes.stream {k : ℕ} {o : Outcome} {point : SenderPoint} {n n' : AgentId}
    {connection connection' : TcpConnection} (h : Writes s k c connection s' point)
    (hr : Reaches (step cfg) ok {} s) (hstep : step cfg s (.run (.sender k) o) = some s')
    (hk : s.sender k = some ⟨c, point⟩) (hc : s.relay.connection c = some connection)
    (hc' : s'.relay.connection c = some connection')
    (hreg : s.relay.registered_agent_connections n = some connection.agent_connection)
    (hreg' : s'.relay.registered_agent_connections n' = some connection.agent_connection) :
    carried c (s'.relay.frames connection.agent_connection) ++
        s'.unsent connection.agent_connection c ++ connection'.send_buffer =
      carried c (s.relay.frames connection.agent_connection) ++
        s.unsent connection.agent_connection c ++ connection.send_buffer ++
        givenTo c (s.gives (.run (.sender k) o)) := by
  have hcanonical := canonical_ids hr c (by rw [hc]; rfl)
  have hT := takesTurns hr
  -- What other tasks wait with is the same.
  have hframe : ∀ t, t ≠ .sender k → s'.piece c t = s.piece c t := fun t ht =>
    piece_frame (step_rule hstep) rfl ht
  -- A message that is put on the websocket adds its data at the end.
  have hsent : ∀ {m : ToAgent}, s'.relay.to_agent =
        (s.relay.sendToAgent connection.agent_connection m).to_agent →
      carried c (s'.relay.frames connection.agent_connection) =
        carried c (s.relay.frames connection.agent_connection) ++ m.received.dataFor c := by
    intro m hto
    simp [NetworkRelay.frames, hto]
  have hkept : s'.relay.to_agent = s.relay.to_agent →
      carried c (s'.relay.frames connection.agent_connection) =
        carried c (s.relay.frames connection.agent_connection) := by
    intro hto
    rw [NetworkRelay.frames, NetworkRelay.frames, hto]
  cases h with
  | @begins kept m send hm hconn hpc' hline hout =>
    have hdata : m.received.dataFor c = kept.getD connection.send_buffer :=
      RelayFrame.dataFor_of_data? (dataMessage_data? hcanonical hm)
    -- The task joins the line in this step, behind all that wait.
    have hnot : .sender k ∉ s.relay.locks.line connection.agent_connection := by
      intro hmem
      obtain ⟨u, hu⟩ := LockTable.mem_line hT.exclusive hmem
      simp [use?, hk] at hu
    have hunsent := unsent_of_line (c := c) hline hnot hframe
    -- Where the content comes from.
    have hgiven : connection.send_buffer ++ givenTo c (s.gives (.run (.sender k) o)) =
        m.received.dataFor c ++ connection'.send_buffer := by
      rw [hconn, Function.update_self] at hc'
      rw [← Option.some.inj hc', hdata]
      cases kept with
      | none => simp [RelayState.gives, hk, givenTo]
      | some content =>
        have hcls := (byClass hr).kept k c content connection hk hc
        have hempty := (byClass hr).unused c connection hc hcls
        simp [RelayState.gives, hk, givenTo, hempty]
    obtain ⟨⟨l, rfl⟩, hnone, hto⟩ | ⟨⟨l, rfl⟩, hto⟩ := hout
    · have hbefore : s.unsent connection.agent_connection c = [] := by
        simp [RelayState.unsent, hnone]
      rw [hunsent, hbefore, piece_nil (by simp [hpc']), hsent hto]
      simp [hgiven]
    · rw [hunsent, piece_waiting hpc', hkept hto]
      simp [hgiven]
  | @passes m l hheld hpc' hlocks hconn hto =>
    have huse : s.use? (.sender k) = some ⟨connection.agent_connection, l, false⟩ := by
      simp [use?, hk, agentOf, hc, LockedSend.use]
    have hentry := hT.serves n connection.agent_connection hreg (.sender k) _ huse rfl
    have hline := LockTable.holder_line hentry hheld
    -- It was at the head of the line, and leaves it with its content sent.
    have hnodup : (s.relay.locks.line connection.agent_connection).Nodup :=
      LockTable.line_nodup hT.exclusive
    rw [hline, List.nodup_cons] at hnodup
    have hpiece := unsent_of_head (c := c) hline hlocks hnodup.1 hframe (piece_nil (by simp [hpc']))
    rw [piece_waiting hk] at hpiece
    rw [hconn, hc] at hc'
    rw [hsent hto, hpiece, ← Option.some.inj hc']
    simp [RelayState.gives, hk, givenTo]
  | ends result hpc' hconn hto =>
    have hbefore : s.piece c (.sender k) = [] := piece_nil (by simp [hk])
    have hunsent : s'.unsent connection.agent_connection c =
        s.unsent connection.agent_connection c := by
      refine unsent_of_piece hr hstep hreg' (fun t => ?_) fun k' o' he => ?_
      · by_cases ht : t = .sender k
        · rw [ht, hbefore, piece_nil (by simp [hpc'])]
        · exact hframe t ht
      · obtain rfl := Task.sender.inj (RelayEvent.run.inj he).1
        exact hbefore
    rw [hconn, hc] at hc'
    rw [hunsent, hkept hto, ← Option.some.inj hc']
    simp [RelayState.gives, hk, givenTo]

/-- What holds of the contents that users give to a connection in every reachable state. -/
structure UserStream (s : RelayState) (c : ConnectionId) (l : List (ConnectionId × Bytes)) :
    Prop where
  fresh : s.relay.connection c = none → givenTo c l = []
  /-- What has been given has been sent, or waits for the lock or in the buffer. -/
  stream : ∀ connection call n, s.relay.connection c = some connection →
    connection.creator = .call call →
    s.relay.registered_agent_connections n = some connection.agent_connection →
    carried c (s.relay.frames connection.agent_connection) ++
      s.unsent connection.agent_connection c ++ connection.send_buffer = givenTo c l

namespace UserStream

variable {l : List (ConnectionId × Bytes)}

/-- At the start nothing has been given. -/
theorem initial (c : ConnectionId) : UserStream {} c [] where
  fresh _ := rfl
  stream _ _ _ h := by simp at h

section

variable (hU : UserStream s c l) (hr : Reaches (step cfg) ok {} s) (hok : ok s e)
  (hstep : step cfg s e = some s')
include hU hr hok hstep

/-- A connection that is made in this step has been given nothing. -/
theorem new_step {connection : TcpConnection} {n : AgentId} (hnone : s.relay.connection c = none)
    (hc' : s'.relay.connection c = some connection)
    (hreg : s'.relay.registered_agent_connections n = some connection.agent_connection) :
    carried c (s'.relay.frames connection.agent_connection) ++
        s'.unsent connection.agent_connection c ++ connection.send_buffer =
      givenTo c (l ++ s.gives e) := by
  have hF : Foreign s e c := Foreign.of_none hr hstep hnone
  -- Nobody waits with data for an id that does not exist.
  have hunsent : s.unsent connection.agent_connection c = [] := by
    refine List.flatMap_eq_nil_iff.mpr fun t _ => ?_
    obtain ⟨k, rfl⟩ | hsilent := sender_or_silent t
    · refine piece_of_ne hr fun sender hk => ?_
      rintro rfl
      obtain ⟨call, i, hcall⟩ := senders_called hr k sender hk
      obtain ⟨connection₀, hc, -⟩ := returned_creator hr call i _ hcall
      rw [hnone] at hc
      cases hc
    · exact hsilent s c
  rw [carried_of_new hr (step_rule hstep) hnone, hF.unsent hr (hr.step hok hstep) hstep hreg,
    hunsent, new_send_buffer hr (step_rule hstep) hnone hc', givenTo_append, hU.fresh hnone,
    hF.gives]
  rfl

/-- After a step what was given has been sent, or is on its way. -/
theorem stream_step {connection' : TcpConnection} {call : ℕ} {n : AgentId}
    (hc' : s'.relay.connection c = some connection') (hcreator : connection'.creator = .call call)
    (hreg' : s'.relay.registered_agent_connections n = some connection'.agent_connection) :
    carried c (s'.relay.frames connection'.agent_connection) ++
        s'.unsent connection'.agent_connection c ++ connection'.send_buffer =
      givenTo c (l ++ s.gives e) := by
  have h := step_rule hstep
  cases hc : s.relay.connection c with
  | none => exact hU.new_step hr hok hstep hc hc' hreg'
  | some connection =>
    obtain ⟨hagent, hcreator'⟩ := same_connection h.evolves hc hc'
    rw [hagent] at hreg' ⊢
    -- The agent has been registered before.
    have hreg : ∃ n₀,
        s.relay.registered_agent_connections n₀ = some connection.agent_connection := by
      obtain hold | ⟨o, rfl⟩ := registered_before h hreg'
      · exact hold
      · exact absurd ((registryInv hr).connection c connection hc) (not_opened_of_run h)
    obtain ⟨n₀, hreg⟩ := hreg
    have hbefore := hU.stream connection call n₀ hc (hcreator'.symm.trans hcreator) hreg
    rw [givenTo_append, ← hbefore]
    have hr' := hr.step hok hstep
    cases concerns hr hstep hc with
    | foreign hF =>
      obtain ⟨connection₁, hc₁, hbuffer⟩ := hF.send_buffer hr hstep connection hc
      obtain rfl := Option.some.inj (hc₁.symm.trans hc')
      have hcarried := hF.carried (W := connection.agent_connection) hr h fun connection₀ hc₀ => by
        obtain rfl := Option.some.inj (hc.symm.trans hc₀)
        exact ⟨call, hcreator'.symm.trans hcreator⟩
      rw [hcarried, hF.unsent hr hr' hstep hreg', hbuffer, hF.gives, List.append_nil]
    | @called k call' content kept he hcall hnone hsender hlocks hout hc₁ =>
      obtain rfl := Option.some.inj (hc₁.symm.trans hc')
      subst he
      have hunsent : s'.unsent connection.agent_connection c =
          s.unsent connection.agent_connection c := by
        refine unsent_of_piece hr hstep hreg' (fun t => ?_) fun _ _ he => by cases he
        obtain ⟨k', rfl⟩ | hsilent := sender_or_silent t
        · simp only [RelayState.piece, hsender]
          by_cases hk : k' = k
          · simp [hk, hnone]
          · rw [Function.update_of_ne hk]
        · rw [hsilent, hsilent]
      have hgiven : givenTo c (s.gives (.send k call' content)) =
          if connection.cls = .tcpConnection then content else [] := by
        by_cases hcls : connection.cls = .tcpConnection
        · simp [RelayState.gives, hcall, hc, hcls, givenTo]
        · simp [RelayState.gives, hcall, hc, hcls, givenTo]
      rw [NetworkRelay.frames, hout, hunsent, hgiven]
      simp [NetworkRelay.frames]
    | resumed he hk hwrites =>
      subst he
      exact hwrites.stream hr hstep hk hc hc' hreg hreg'

/-- A step keeps the stream of the user. -/
theorem preserved : UserStream s' c (l ++ s.gives e) where
  fresh hnone := by
    have hc := (step_rule hstep).evolves.connection_none hnone
    rw [givenTo_append, hU.fresh hc, (Foreign.of_none hr hstep hc).gives]
    rfl
  stream _ _ _ := hU.stream_step hr hok hstep

end

end UserStream

/-- The law of the stream holds in every run of the relay. -/
theorem user_stream {l : List (ConnectionId × Bytes)}
    (h : Traced (step cfg) ok RelayState.gives {} s l) (c : ConnectionId) : UserStream s c l :=
  h.invariant (I := fun s l => UserStream s c l) (.initial c) fun _ _ _ _ ht hok hs hU =>
    hU.preserved ht.reaches hok hs

end HttpNetworkRelay
