import HttpNetworkRelay.Relay.Greeting
import HttpNetworkRelay.Relay.Targets

/-!
# The framing on the websocket of an access client

`supports_binary` of the start message decides how the reader of the session frames its data, and
the answer to the start message tells the access client what the agent's websocket can do. Between
them lie the create call, the answer and the start of the reader, over which `ClientFraming` is
kept.
-/

namespace HttpNetworkRelay

open Asyncio Python RelayState NetworkRelay

/-- `access_client_supports_binary`, as a start message sets it. -/
def AtRStartMessage.binary (m : AtRStartMessage) : Bool := m.supports_binary = some true

/-- `access_client_supports_binary` of a session that is creating its connection. -/
def Client.binary? : Client → Option Bool
  | .creating binary _ | .sendingStartOK binary _ => some binary
  | _ => none

/-- The session on `A`, with the start message `m`, uses the framing that has been negotiated. -/
structure ClientFraming (A : ClientSocket) (m : AtRStartMessage) (s : RelayState) : Prop where
  checking : ∀ m', s.client A = some (.checking m') → m' = m
  session : ∀ pc binary, s.client A = some pc → pc.binary? = some binary → binary = m.binary
  reader : ∀ c reader, s.reader c = some reader → reader.access_client_connection = A →
    reader.binary = m.binary
  data : ∀ message ∈ s.relay.to_client A, message.payload?.isSome = true →
    ∃ data, message = chunkMessage m.binary data
  answer : ∀ supports_binary, .text (.startOK supports_binary) ∈ s.relay.to_client A →
    ∃ c connection, s.relay.connection c = some connection ∧ connection.creator = .client A ∧
      connection.agent_supports_binary = supports_binary

variable {cfg : RelayConfig} {s s' : RelayState} {e : RelayEvent} {A : ClientSocket}
  {m : AtRStartMessage} {c : ConnectionId}

/-! ## What a step of the session does -/

/-- The next turn of a session's loop leaves the readers alone. -/
theorem continueLoop_reader (s : RelayState) (A : ClientSocket) (c : ConnectionId)
    (agent : AgentSocket) : (s.continueLoop A c agent).reader = s.reader := by
  rcases continueLoop_cases s A c agent with ⟨B, -, heq⟩ | ⟨-, r', send, heq, -⟩
  · rw [heq]
    rfl
  · rw [heq]
    rfl

/-- A session in its loop carries no framing. -/
theorem continueLoop_binary (s : RelayState) (A : ClientSocket) (c : ConnectionId)
    (agent : AgentSocket) : ((s.continueLoop A c agent).client A).bind Client.binary? = none := by
  rcases continueLoop_cases s A c agent with ⟨B, -, heq⟩ | ⟨-, r', send, heq, -⟩ <;>
    simp [heq, Client.binary?]

/-- The forwarding by a session leaves the readers alone. -/
theorem forwarded_reader (s : RelayState) (A : ClientSocket) (c : ConnectionId)
    (agent : AgentSocket) (message : Except Exc ToAgent)
    (x : NetworkRelay × Res LockedSend Unit Exc) :
    (s.forwarded A c agent message x).reader = s.reader := by
  obtain ⟨r', res⟩ := x
  cases res with
  | parked | raised => rfl
  | returned => exact continueLoop_reader (s.withRelay r') A c agent

/-- A session that has forwarded a message carries no framing. -/
theorem forwarded_binary (s : RelayState) (A : ClientSocket) (c : ConnectionId)
    (agent : AgentSocket) (message : Except Exc ToAgent)
    (x : NetworkRelay × Res LockedSend Unit Exc) :
    ((s.forwarded A c agent message x).client A).bind Client.binary? = none := by
  obtain ⟨r', res⟩ := x
  cases res with
  | parked | raised => simp [forwarded, Client.binary?]
  | returned => exact continueLoop_binary (s.withRelay r') A c agent

/-- A session that is not connected carries no framing. -/
theorem Client.binary?_of_unconnected {pc : Client} (h : pc.unconnected = true) :
    pc.binary? = none := by
  cases pc <;> first | rfl | cases h

/-- A session has its flag from the start message. -/
theorem ClientRule.binary {pc : Client} {o : Outcome} (h : ClientRule cfg s A pc o s')
    {binary : Bool} (hbinary : (s'.client A).bind Client.binary? = some binary) :
    pc.binary? = some binary ∨ ∃ m, pc = .checking m ∧ binary = m.binary := by
  cases h with
  | @advances _ _ pc' _ hpc' =>
    have hsome : pc'.binary? = some binary := by simpa using hbinary
    rw [Client.binary?_of_unconnected hpc'] at hsome
    cases hsome
  | @opens m =>
    have hsome : decide (m.supports_binary = some true) = binary := by
      simpa [Client.binary?] using hbinary
    exact .inr ⟨m, rfl, hsome.symm⟩
  | @creating binary₁ call _ r' res =>
    cases res with
    | parked | returned =>
      left
      simpa [created, Client.binary?] using hbinary
    | raised e => cases e <;> simp [created, Client.binary?] at hbinary
  | ignores =>
    rw [continueLoop_binary] at hbinary
    cases hbinary
  | forwards | forwarding =>
    rw [forwarded_binary] at hbinary
    cases hbinary
  | @closing _ _ _ _ r' res => cases res <;> simp [connectionClosed, Client.binary?] at hbinary
  | _ => simp [Client.binary?, startReader] at hbinary

/-- Where a reader of a session comes from. -/
theorem ClientRule.reader {pc : Client} {o : Outcome} (h : ClientRule cfg s A pc o s')
    {reader' : Reader} (hreader' : s'.reader c = some reader') :
    (∃ reader, s.reader c = some reader ∧ reader'.binary = reader.binary ∧
        reader'.access_client_connection = reader.access_client_connection) ∨
      pc = .sendingStartOK reader'.binary c ∧ reader'.access_client_connection = A := by
  have hsame : s'.reader = s.reader → (∃ reader, s.reader c = some reader ∧
      reader'.binary = reader.binary ∧
        reader'.access_client_connection = reader.access_client_connection) ∨
      pc = .sendingStartOK reader'.binary c ∧ reader'.access_client_connection = A := by
    intro hsame
    exact .inl ⟨reader', by rw [← hsame, hreader'], rfl, rfl⟩
  cases h with
  | @starts binary c₁ =>
    simp only [startReader, setClient, setReader] at hreader'
    rcases eq_or_ne c c₁ with rfl | hne
    · rw [Function.update_self] at hreader'
      obtain rfl := Option.some.inj hreader'
      exact .inr ⟨rfl, rfl⟩
    · rw [Function.update_of_ne hne] at hreader'
      exact .inl ⟨reader', hreader', rfl, rfl⟩
  | @cancels c₁ reader hr =>
    simp only [setClient, setReader] at hreader'
    rcases eq_or_ne c c₁ with rfl | hne
    · rw [Function.update_self] at hreader'
      obtain rfl := Option.some.inj hreader'
      exact .inl ⟨reader, hr, rfl, rfl⟩
    · rw [Function.update_of_ne hne] at hreader'
      exact .inl ⟨reader', hreader', rfl, rfl⟩
  | ignores => exact hsame (continueLoop_reader ..)
  | forwards | forwarding => exact hsame (forwarded_reader ..)
  | @creating _ _ _ r' res =>
    refine hsame ?_
    cases res with
    | parked | returned => rfl
    | raised e => cases e <;> rfl
  | @closing _ _ _ _ r' res =>
    refine hsame ?_
    cases res <;> rfl
  | _ => exact hsame rfl

/-- What a session tells its access client: nothing, an error, or what the agent's websocket can
do. -/
theorem ClientRule.says {pc : Client} {o : Outcome} (h : ClientRule cfg s A pc o s') :
    s'.relay.to_client A = s.relay.to_client A ∨
      (∃ text, s'.relay.to_client A = s.relay.to_client A ++ [.text (.error text)]) ∨
      ∃ binary call, pc = .creating binary call ∧ s'.relay.to_client A = s.relay.to_client A ++
        [.text (.startOK
          ((s'.relay.connection call.connection_id).any (·.agent_supports_binary)))] := by
  cases h with
  | unregistered => exact .inr (.inl ⟨"Agent not registered", by simp⟩)
  | @creating binary call _ r' res h =>
    have hcreate : r'.to_client = s.relay.to_client :=
      congrArg ClientOutput.to_client h.frame.clients
    cases res with
    | parked => exact .inl (congrFun hcreate A)
    | returned c =>
      obtain rfl := h.returned
      exact .inr (.inr ⟨binary, call, rfl, by simp [created, hcreate]⟩)
    | raised e =>
      cases e with
      | valueError text => exact .inr (.inl ⟨text, by simp [created, hcreate]⟩)
      | _ => exact .inl (congrFun hcreate A)
  | opens _ _ _ same | disconnects _ _ same =>
    exact .inl (congrFun (congrArg ClientOutput.to_client same.clients) A)
  | ignores =>
    exact .inl (congrFun (congrArg ClientOutput.to_client (continueLoop_same s _ _ _).clients) A)
  | forwards _ _ h | forwarding _ h =>
    exact .inl
      (congrFun (congrArg ClientOutput.to_client (forwarded_same h.same _ _ _ _ _).clients) A)
  | @closing _ _ _ _ r' res _ h =>
    have hclose : r'.to_client = s.relay.to_client := h.untouched.to_client
    left
    cases res <;> simp [connectionClosed, hclose]
  | advances | refuses | starts | startFails | receiveFails | malformed | clientClosed
  | closeFails | joined | cancels => exact .inl rfl

/-! ## The invariant -/

/-- Data of a chunk is not the answer to a start message. -/
theorem chunkMessage_ne {binary supports_binary : Bool} {data : Bytes} :
    chunkMessage binary data ≠ .text (.startOK supports_binary) := by
  cases binary <;> simp [chunkMessage]

namespace ClientFraming

/-- At the start nothing has been negotiated. -/
theorem initial : ClientFraming A m {} where
  checking _ h := by cases h
  session _ _ h := by cases h
  reader _ _ h := by cases h
  data _ h := by cases h
  answer _ h := by cases h

section
variable (hF : ClientFraming A m s) (hstep : step cfg s e = some s')
include hF hstep

/-- What a step of the session carries is the flag of its start message. -/
theorem session_step {pc' : Client} {binary : Bool} (hpc' : s'.client A = some pc')
    (hbinary : pc'.binary? = some binary) : binary = m.binary := by
  have h := step_rule hstep
  by_cases hrun : ∃ o, e = .run (.client A) o
  · obtain ⟨o, rfl⟩ := hrun
    cases h with
    | client hpc h =>
      rcases h.binary (by rw [hpc']; exact hbinary) with hbefore | ⟨m', rfl, rfl⟩
      · exact hF.session _ binary hpc hbefore
      · rw [hF.checking m' hpc]
  · by_cases hconn : e = .clientConnects A
    · subst hconn
      cases h
      obtain rfl : Client.accepting = pc' := by simpa using hpc'
      cases hbinary
    · rw [client_frame h (fun o he => hrun ⟨o, he⟩) hconn] at hpc'
      exact hF.session pc' binary hpc' hbinary

/-- A reader that a step leaves with the access client has the flag of the start message. -/
theorem reader_step {reader' : Reader} (hreader' : s'.reader c = some reader')
    (hA : reader'.access_client_connection = A) : reader'.binary = m.binary := by
  have h := step_rule hstep
  by_cases hrun : ∃ o, e = .run (.reader c) o
  · obtain ⟨o, rfl⟩ := hrun
    obtain ⟨reader, point, hreader, hr'⟩ := point_of_run h
    obtain rfl := Option.some.inj (hr'.symm.trans hreader')
    exact hF.reader c reader hreader hA
  · by_cases hclient : ∃ B o, e = .run (.client B) o
    · obtain ⟨B, o, rfl⟩ := hclient
      cases h with
      | client hpc h =>
        rcases h.reader hreader' with ⟨reader, hreader, hbinary, hsame⟩ | ⟨rfl, hB⟩
        · rw [hbinary]
          exact hF.reader c reader hreader (hsame.symm.trans hA)
        · obtain rfl := hB.symm.trans hA
          exact hF.session _ _ hpc rfl
    · have hframe := reader_frame h (fun o he => hrun ⟨o, he⟩)
        fun B o pc he _ _ => hclient ⟨B, o, he⟩
      exact hF.reader c reader' (hframe.symm.trans hreader') hA

/-- What the session or its reader has told the access client in the step. -/
theorem told (hO : Outgoing s) {message : ToClient} (hm : message ∈ s'.relay.to_client A) :
    message ∈ s.relay.to_client A ∨ (∃ text, message = .text (.error text)) ∨
      (∃ data, message = chunkMessage m.binary data) ∨
      ∃ c connection, s'.relay.connection c = some connection ∧ connection.creator = .client A ∧
        message = .text (.startOK connection.agent_supports_binary) := by
  have h := step_rule hstep
  by_cases hrun : ∃ o, e = .run (.client A) o
  · obtain ⟨o, rfl⟩ := hrun
    cases h with
    | client hpc h' =>
      rcases h'.says with hsame | ⟨text, hsaid⟩ | ⟨binary, call, rfl, hsaid⟩
      · rw [hsame] at hm
        exact .inl hm
      · rw [hsaid] at hm
        rcases List.mem_append.mp hm with hold | hnew
        · exact .inl hold
        · exact .inr (.inl ⟨text, List.mem_singleton.mp hnew⟩)
      · rw [hsaid] at hm
        rcases List.mem_append.mp hm with hold | hnew
        · exact .inl hold
        · have hpublished := (hO.pending (.client A) call (by simp [pending?, hpc])).evolves
            (step_evolves hstep)
          obtain ⟨connection, hc, -, hcreator⟩ := hpublished
          refine .inr (.inr (.inr ⟨_, connection, hc, hcreator, ?_⟩))
          rw [List.mem_singleton.mp hnew, hc]
          rfl
  · by_cases hreads : ∃ c₁ o reader, e = .run (.reader c₁) o ∧ s.reader c₁ = some reader ∧
        reader.access_client_connection = A
    · obtain ⟨c₁, o, reader, rfl, hreader, rfl⟩ := hreads
      cases h with
      | reader hreader' hc hrule =>
        obtain rfl := Option.some.inj (hreader'.symm.trans hreader)
        obtain ⟨connection', -, ⟨-, hsaid⟩ | ⟨-, hsame⟩⟩ := hrule.tells hc
        · rw [hsaid, hF.reader c₁ _ hreader rfl] at hm
          simp only [sendToClient, Function.update_self] at hm
          rcases List.mem_append.mp hm with hold | hnew
          · exact .inl hold
          · exact .inr (.inr (.inl ⟨_, List.mem_singleton.mp hnew⟩))
        · rw [hsame] at hm
          exact .inl hm
    · rw [to_client_frame h (fun o he => hrun ⟨o, he⟩)
        fun c₁ o reader he hreader hA => hreads ⟨c₁, o, reader, he, hreader, hA⟩] at hm
      exact .inl hm

/-- A step keeps the negotiated framing. -/
theorem preserved (hO : Outgoing s) (hstart : SessionStarts A m s e) : ClientFraming A m s' where
  checking _ hpc' := hstart.checking hstep hF.checking hpc'
  session _ _ hpc' hbinary := hF.session_step hstep hpc' hbinary
  reader _ _ hreader' hA := hF.reader_step hstep hreader' hA
  data message hm hdata := by
    rcases hF.told hstep hO hm with hold | ⟨text, rfl⟩ | hnew | ⟨c, connection, -, -, rfl⟩
    · exact hF.data message hold hdata
    · cases hdata
    · exact hnew
    · cases hdata
  answer supports_binary hm := by
    rcases hF.told hstep hO hm with hold | ⟨text, htext⟩ | ⟨data, hdata⟩ |
      ⟨c, connection, hc, hcreator, hsaid⟩
    · obtain ⟨c, connection, hc, hcreator, hflag⟩ := hF.answer supports_binary hold
      obtain ⟨connection', hc', hid⟩ := (step_evolves hstep).connection c connection hc
      simp only [TcpConnection.identity, Prod.mk.injEq] at hid
      exact ⟨c, connection', hc', hid.2.2.2.trans hcreator, hid.2.2.1.trans hflag⟩
    · cases htext
    · exact absurd hdata.symm chunkMessage_ne
    · simp only [ToClient.text.injEq, RelayToAccessClientMessage.startOK.injEq] at hsaid
      exact ⟨c, connection, hc, hcreator, hsaid.symm⟩

end

end ClientFraming

/-- The framing of a session is the negotiated one in every run. -/
theorem client_framing (h : Reaches (step cfg) (SessionStarts A m) {} s) : ClientFraming A m s := by
  refine h.invariant (I := ClientFraming A m) .initial fun s e s' hr hok hstep hF => ?_
  exact hF.preserved hstep (outgoing hr) hok

end HttpNetworkRelay
