import HttpNetworkRelay.Asyncio.Pipe
import HttpNetworkRelay.Relay.Sends

/-!
# The stream from an agent to an access client

The bytes that an agent sends for a connection pass through the websocket of the agent, the receive
buffer of the connection and the reader to the access client's websocket: a `Pipe` that is open as
long as the connection is active. `pipe_step` shows that every step of the relay is a step of the
pipe of each connection, so that the law of pipes carries over, and `streams_intact` says of every
run what the relay has sent to an access client.
-/

namespace HttpNetworkRelay

open Asyncio Python RelayState NetworkRelay

/-! ## Frames and messages as streams -/

/-- The connection that a frame names, where it names one. -/
def AgentFrame.named? (frame : AgentFrame) : Option ConnectionId :=
  (frame.data?.map Prod.fst).or (frame.reset?.or (frame.answer?.map Prod.fst))

/-- The bytes that a frame carries for a connection. -/
def AgentFrame.dataFor (connection_id : ConnectionId) (frame : AgentFrame) : Bytes :=
  match frame.data? with
  | some (c, data) => if c = connection_id then data else []
  | none => []

/-- The bytes that frames carry for a connection, in their order. -/
def dataFor (connection_id : ConnectionId) (frames : List AgentFrame) : Bytes :=
  frames.flatMap (·.dataFor connection_id)

/-- The bytes that a message carries to an access client, where it carries any. -/
def ToClient.payload? : ToClient → Option Bytes
  | .bytes data => some data
  | .text (.tcpData data_base64) => (b64decode data_base64).toOption
  | .text _ => none

/-- The bytes that messages carry to an access client, in their order. -/
def payload (messages : List ToClient) : Bytes :=
  messages.flatMap fun m => m.payload?.getD []

/-- The relay has asked the agent for a connection of this id. -/
def NetworkRelay.asked (r : NetworkRelay) (W : AgentSocket) (connection_id : ConnectionId) : Bool :=
  (r.to_agent W).any fun m =>
    match m with
    | .text (.initiateConnection _ _ _ c _) => c = connection_id
    | _ => false

/-- An agent names only ids that the relay has sent to it. -/
def NamesOwn (s : RelayState) : RelayEvent → Bool
  | .agentSends W frame => frame.named?.all (s.relay.asked W)
  | _ => true

/-- The messages are those of a stream: none, or the start message and then data whose payload is a
prefix of `data`. -/
def Streams (messages : List ToClient) (data : Bytes) : Prop :=
  messages = [] ∨ ∃ supports_binary chunks,
    messages = .text (.startOK supports_binary) :: chunks ∧
      (∀ m ∈ chunks, m.payload?.isSome = true) ∧ payload chunks <+: data

/-- What has been sent on the websocket of a session that has a connection streams what this
connection's own agent has sent for it. -/
def StreamsIntact (s : RelayState) : Prop :=
  ∀ A pc c, s.client A = some pc → pc.connection_id? = some c →
    ∃ connection, s.relay.connection c = some connection ∧
      Streams (s.relay.to_client A) (dataFor c (s.relay.agent_sent connection.agent_connection))

/-- No frame carries data. -/
@[simp] theorem dataFor_nil (c : ConnectionId) : dataFor c [] = [] := rfl

/-- The data of a frame comes before that of the later ones. -/
@[simp] theorem dataFor_cons (c : ConnectionId) (frame : AgentFrame) (frames : List AgentFrame) :
    dataFor c (frame :: frames) = frame.dataFor c ++ dataFor c frames := rfl

/-- The data of two stretches follows each other. -/
@[simp] theorem dataFor_append (c : ConnectionId) (frames frames' : List AgentFrame) :
    dataFor c (frames ++ frames') = dataFor c frames ++ dataFor c frames' := by
  simp [dataFor]

/-- No message carries data. -/
@[simp] theorem payload_nil : payload [] = [] := rfl

/-- The data of a message comes before that of the later ones. -/
@[simp] theorem payload_cons (m : ToClient) (messages : List ToClient) :
    payload (m :: messages) = m.payload?.getD [] ++ payload messages := rfl

/-- The data of two stretches of messages follows each other. -/
@[simp] theorem payload_append (messages messages' : List ToClient) :
    payload (messages ++ messages') = payload messages ++ payload messages' := by
  simp [payload]

/-- The reader's message carries its chunk, in either framing. -/
@[simp] theorem chunkMessage_payload (binary : Bool) (data : Bytes) :
    (chunkMessage binary data).payload? = some data := by
  unfold chunkMessage
  split
  · rfl
  · simp [ToClient.payload?, Except.toOption]

/-- The data of a frame for its connection. -/
theorem AgentFrame.dataFor_of_data? {frame : AgentFrame} {c : ConnectionId} {data : Bytes}
    (h : frame.data? = some (c, data)) : frame.dataFor c = data := by
  simp [dataFor, h]

/-- A frame that names another connection carries nothing for this one. -/
theorem AgentFrame.dataFor_of_ne {frame : AgentFrame} {c : ConnectionId}
    (h : frame.named? ≠ some c) : frame.dataFor c = [] := by
  unfold AgentFrame.dataFor
  split
  · rename_i c' data hdata
    apply if_neg
    rintro rfl
    exact h (by simp [named?, hdata])
  · rfl

/-- Frames that do not name the connection carry no data for it. -/
theorem dataFor_eq_nil {c : ConnectionId} {frames : List AgentFrame}
    (h : ∀ frame ∈ frames, frame.named? ≠ some c) : dataFor c frames = [] := by
  unfold dataFor
  rw [List.flatMap_eq_nil_iff]
  exact fun frame hframe => AgentFrame.dataFor_of_ne (h frame hframe)

variable {cfg : RelayConfig} {s s' : RelayState} {e : RelayEvent}
  {ok : RelayState → RelayEvent → Prop}

/-! ## Whose connection a frame names -/

/-- An agent is asked for its own connections only. -/
theorem Outgoing.asked (h : Outgoing s) {W : AgentSocket} {c : ConnectionId}
    (hasked : s.relay.asked W c = true) :
    ∃ connection, s.relay.connection c = some connection ∧ connection.agent_connection = W := by
  obtain ⟨m, hm, hc⟩ := List.any_eq_true.mp hasked
  split at hc
  · rename_i ip port protocol c' binary
    obtain rfl : c' = c := of_decide_eq_true hc
    generalize hmessage : ToAgent.text (.initiateConnection ip port protocol c' binary) = m at hm
    -- Of the messages that go to an agent, only the request is what `asked` looks for.
    cases h.sent W m hm with
    | keepAlive | close => cases hmessage
    | @request request c₁ connection hconn =>
      cases hmessage
      exact ⟨connection, hconn, rfl⟩
    | @data c₁ connection content _ hconn hdata =>
      -- The data of a connection is no request.
      subst hmessage
      unfold TcpConnection.dataMessage at hdata
      split at hdata
      · cases hframe : encode_tcp_binary_frame c₁ content <;> simp [hframe, Except.map] at hdata
      · cases hdata
  · cases hc

/-- Only the agents add to what they have sent. -/
theorem agent_sent_frame (h : RelayRule cfg s e s') (hsend : ∀ W frame, e ≠ .agentSends W frame) :
    s'.relay.agent_sent = s.relay.agent_sent := by
  cases agents_of_rule h with
  | same hagents => rw [hagents]
  | sends W frame he => exact absurd he (hsend W frame)
  | dies W he =>
    subst he
    cases h
    rfl
  | starts _ _ _ hagents | receives _ _ _ hagents =>
    rw [hagents]
    rfl

/-- Every frame that an agent has sent names a connection of this agent, if it names one. -/
def Named (s : RelayState) : Prop :=
  ∀ W, ∀ frame ∈ s.relay.agent_sent W, ∀ c, frame.named? = some c →
    ∃ connection, s.relay.connection c = some connection ∧ connection.agent_connection = W

/-- A step in which agents name their own connections keeps them named so. -/
theorem Named.step (hN : Named s) (hO : Outgoing s) (hok : NamesOwn s e = true)
    (h : RelayRule cfg s e s') : Named s' := by
  have hev := h.evolves
  intro W frame hframe c hc
  have hstays : (∃ connection, s.relay.connection c = some connection ∧
      connection.agent_connection = W) →
      ∃ connection, s'.relay.connection c = some connection ∧ connection.agent_connection = W := by
    rintro ⟨connection, hconn, hagent⟩
    obtain ⟨connection', hconn', hid⟩ := hev.connection c connection hconn
    simp only [TcpConnection.identity, Prod.mk.injEq] at hid
    exact ⟨connection', hconn', hid.2.1.trans hagent⟩
  -- An entry stays and keeps its agent, so it is enough to find it before the step.
  apply hstays
  by_cases hsend : ∃ W₀ frame₀, e = .agentSends W₀ frame₀
  · obtain ⟨W₀, frame₀, rfl⟩ := hsend
    cases h
    by_cases hWW : W = W₀
    · subst hWW
      simp only [withRelay, Function.update_self, List.mem_append, List.mem_singleton] at hframe
      rcases hframe with hold | rfl
      · exact hN W frame hold c hc
      · -- The new frame names an id that the relay has sent to this agent.
        simp only [NamesOwn, hc, Option.all_some] at hok
        exact hO.asked hok
    · simp only [withRelay, Function.update_of_ne hWW] at hframe
      exact hN W frame hframe c hc
  · rw [agent_sent_frame h fun W frame he => hsend ⟨W, frame, he⟩] at hframe
    exact hN W frame hframe c hc

/-- In such a run every frame names a connection of its agent. -/
theorem named (h : Reaches (step cfg) (NamesOwn · ·) {} s) : Named s := by
  refine h.invariant (I := Named) ?_ fun s e s' hr hok hstep hN => ?_
  · intro W frame hframe
    cases hframe
  · exact hN.step (outgoing hr) hok (step_rule hstep)

/-! ## What a frame with data does -/

/-- A malformed frame carries no data. -/
theorem AgentFrame.data?_of_malformed {frame : AgentFrame} (h : frame.malformed cfg = true) :
    frame.data? = none := by
  cases frame with
  | bytes binary =>
    have hshort : ¬ ∃ r, decode_tcp_binary_frame binary = .ok r := by
      rw [decode_tcp_binary_frame_isOk]
      simpa [malformed] using h
    cases hdec : decode_tcp_binary_frame binary with
    | error e => simp [data?, hdec, Except.toOption]
    | ok r => exact absurd ⟨r, hdec⟩ hshort
  | text content =>
    obtain ⟨known, custom⟩ := content
    cases known with
    | none => rfl
    | some message => cases h

/-- A reset carries no data. -/
theorem AgentFrame.data?_of_reset? {frame : AgentFrame} {c : ConnectionId}
    (h : frame.reset? = some c) : frame.data? = none := by
  unfold reset? at h
  split at h
  · rfl
  · cases h

/-- An answer carries no data. -/
theorem AgentFrame.data?_of_answer? {frame : AgentFrame}
    {x : ConnectionId × EdgeAgentToRelayMessage}
    (h : frame.answer? = some x) : frame.data? = none := by
  unfold answer? at h
  split at h
  · rfl
  · rfl
  · rfl
  · cases h

/-- A frame with data fills the buffer of its connection, or is ignored if the connection is not
active. -/
theorem FrameRule.data {W : AgentSocket} {n : AgentId} {frame : AgentFrame} {c : ConnectionId}
    {data : Bytes} (h : FrameRule cfg s W n frame s') (hdata : frame.data? = some (c, data)) :
    (c ∈ s.relay.active_relayed_connections ∧
      s'.relay = s.relay.modifyConnection c (·.fill_recv data)) ∨
    (c ∉ s.relay.active_relayed_connections ∧ s'.relay = s.relay) := by
  cases h with
  | stops hbad =>
    rw [AgentFrame.data?_of_malformed hbad] at hdata
    cases hdata
  | ignores _ hignored => exact .inr ⟨hignored c data hdata, rfl⟩
  | fills hdata' hact =>
    obtain ⟨rfl, rfl⟩ := Prod.mk.inj (Option.some.inj (hdata.symm.trans hdata'))
    exact .inl ⟨hact, rfl⟩
  | schedules hreset | resets hreset =>
    rw [AgentFrame.data?_of_reset? hreset] at hdata
    cases hdata
  | answers hans | blocks hans =>
    rw [AgentFrame.data?_of_answer? hans] at hdata
    cases hdata
  | custom _ hnone =>
    rw [hnone] at hdata
    cases hdata

/-! ## What a session and a reader tell the access client -/

/-- How a session's step changes its stage and what it has sent. -/
inductive SessionTells (s : RelayState) (A : ClientSocket) (pc : Client) (s' : RelayState) : Prop
  /-- Nothing has been sent yet. -/
  | waits (pc' : Client) (hpc' : s'.client A = some pc') (hsilent : pc.silent = true)
      (hsilent' : pc'.silent = true) (hsame : s'.relay.to_client A = s.relay.to_client A)
      (hclosed : s'.relay.client_closed = s.relay.client_closed)
  /-- The connection is open. -/
  | starts {binary call} (supports_binary : Bool) (hpc : pc = .creating binary call)
      (hpc' : s'.client A = some (.sendingStartOK binary call.connection_id))
      (hsaid : s'.relay.to_client A =
        s.relay.to_client A ++ [.text (.startOK supports_binary)])
  /-- There is no connection. -/
  | fails (pc' : Client) (text : String) (hpc' : s'.client A = some pc')
      (hsilent : pc'.silent = false) (hid : pc'.connection_id? = none)
      (hsaid : s'.relay.to_client A = s.relay.to_client A ++ [.text (.error text)])
  | goesOn (pc' : Client) (hpc' : s'.client A = some pc') (hsilent : pc'.silent = false)
      (hid : ∀ c, pc'.connection_id? = some c → pc.connection_id? = some c ∧ pc.silent = false)
      (hsame : s'.relay.to_client A = s.relay.to_client A)

/-- What a step of a session tells its access client. -/
theorem ClientRule.tells {A : ClientSocket} {pc : Client} {o : Outcome}
    (h : ClientRule cfg s A pc o s') : SessionTells s A pc s' := by
  -- The loop goes on or leaves: the session keeps its connection, and its websocket is left alone.
  have hloop : ∀ {c agent}, pc.connected? = some c → ∀ s₁ : RelayState,
      s₁.relay.to_client = s.relay.to_client → SessionTells s A pc (s₁.continueLoop A c agent) := by
    intro c agent hcon s₁ hsame
    have hsame' := congrArg ClientOutput.to_client (continueLoop_same s₁ A c agent).clients
    have hstage : pc.connection_id? = some c ∧ pc.silent = false := by
      refine ⟨Client.connection_id?_of_connected hcon, ?_⟩
      cases pc <;> first | rfl | cases hcon
    have hid : ∀ c', some c = some c' → pc.connection_id? = some c' ∧ pc.silent = false := by
      rintro c' ⟨⟩
      exact hstage
    rcases continueLoop_cases s₁ A c agent with ⟨B, -, heq⟩ | ⟨-, r', send, heq, -⟩
    · exact .goesOn (.receiving c) (by simp [heq]) rfl hid (congrFun (hsame'.trans hsame) A)
    · exact .goesOn (.closing c (.informing send)) (by simp [heq]) rfl hid
        (congrFun (hsame'.trans hsame) A)
  -- The same for a data message, which may first wait for the lock of the agent's websocket.
  have hforwarded : ∀ {c agent message r' res}, pc.connected? = some c →
      s.relay.SameButSends r' → SessionTells s A pc (s.forwarded A c agent message (r', res)) := by
    intro c agent message r' res hcon same
    have hsame : r'.to_client = s.relay.to_client := congrArg ClientOutput.to_client same.clients
    have hid : ∀ c', some c = some c' → pc.connection_id? = some c' ∧ pc.silent = false := by
      rintro c' ⟨⟩
      refine ⟨Client.connection_id?_of_connected hcon, ?_⟩
      cases pc <;> first | rfl | cases hcon
    cases res with
    | parked send =>
      exact .goesOn (.forwarding c message send) (by simp [forwarded]) rfl hid (congrFun hsame A)
    | returned a => exact hloop hcon (s.withRelay r') hsame
    | raised e =>
      exact .goesOn (.finished (some c) (.error e)) (by simp [forwarded]) rfl hid (congrFun hsame A)
  have hnone : ∀ {pc' : Client}, pc'.connection_id? = none → ∀ c, pc'.connection_id? = some c →
      pc.connection_id? = some c ∧ pc.silent = false := by
    intro pc' hid c hc
    rw [hid] at hc
    cases hc
  cases h with
  | @advances _ _ pc' _ hun _ _ _ _ hsilent =>
    cases hpc' : pc'.silent with
    | true => exact .waits pc' (by simp) (hsilent hpc') hpc' rfl rfl
    | false => exact .goesOn pc' (by simp) hpc' (hnone (Client.unconnected_id hun)) rfl
  | refuses => exact .goesOn .refusing (by simp) rfl (hnone rfl) rfl
  | unregistered =>
    exact .fails .reportingUnregistered "Agent not registered" (by simp) rfl rfl (by simp)
  | opens _ _ _ same =>
    exact .waits _ (Function.update_self _ _ _) rfl rfl
      (congrFun (congrArg ClientOutput.to_client same.clients) A)
      (congrArg ClientOutput.client_closed same.clients)
  -- The create call has its answer, and the step sends the start message or the text of the error.
  | @creating binary call _ r' res h =>
    have hsame : r'.to_client = s.relay.to_client := congrArg ClientOutput.to_client h.frame.clients
    cases res with
    | parked call' =>
      exact .waits (.creating binary call') (by simp [created]) rfl rfl (congrFun hsame A)
        (congrArg ClientOutput.client_closed h.frame.clients)
    | returned c =>
      obtain rfl := h.returned
      exact .starts ((r'.connection call.connection_id).any (·.agent_supports_binary)) rfl
        (by simp [created]) (by simp [created, hsame])
    | raised e =>
      -- Only a `ValueError` is reported, any other exception leaves the handler.
      cases e with
      | valueError text =>
        exact .fails .reportingError text (by simp [created]) rfl rfl (by simp [created, hsame])
      | _ => exact .goesOn _ (Function.update_self _ _ _) rfl (hnone rfl) (congrFun hsame A)
  | starts =>
    refine .goesOn _ (Function.update_self _ _ _) rfl ?_ rfl
    rintro c ⟨⟩
    exact ⟨rfl, rfl⟩
  | startFails | receiveFails | malformed | clientClosed | closeFails =>
    refine .goesOn _ (Function.update_self _ _ _) rfl ?_ rfl
    rintro c ⟨⟩
    exact ⟨rfl, rfl⟩
  | disconnects _ _ same =>
    refine .goesOn _ (Function.update_self _ _ _) rfl ?_
      (congrFun (congrArg ClientOutput.to_client same.clients) A)
    rintro c ⟨⟩
    exact ⟨rfl, rfl⟩
  | ignores => exact hloop rfl s rfl
  | forwards _ _ h | forwarding _ h => exact hforwarded rfl h.same
  | @closing c _ _ _ r' res _ h =>
    have hsame : r'.to_client = s.relay.to_client := h.untouched.to_client
    have hid : ∀ c', some c = some c' → some c = some c' ∧ false = false := fun c' hc' => ⟨hc', rfl⟩
    cases res with
    | parked _ | returned _ | raised _ =>
      exact .goesOn _ (Function.update_self _ _ _) rfl hid (congrFun hsame A)
  | @joined c _ hpc =>
    refine .goesOn _ (Function.update_self _ _ _) rfl ?_ rfl
    rintro c' ⟨⟩
    rcases hpc with rfl | rfl <;> exact ⟨rfl, rfl⟩
  | cancels =>
    refine .goesOn _ (Function.update_self _ _ _) rfl ?_ rfl
    rintro c ⟨⟩
    exact ⟨rfl, rfl⟩

/-- A reader delivers a chunk of the buffer, or leaves the buffer and the websocket alone. -/
theorem ReaderRule.tells {c : ConnectionId} {connection : TcpConnection} {reader : Reader}
    {o : Outcome} (hc : s.relay.connection c = some connection)
    (h : ReaderRule s c connection reader o s') :
    ∃ connection', s'.relay.connection c = some connection' ∧
      ((connection'.recv_buffer = connection.recv_buffer.drop READ_CHUNK_SIZE ∧
          s'.relay.to_client = (s.relay.sendToClient reader.access_client_connection
            (chunkMessage reader.binary
              (connection.recv_buffer.take READ_CHUNK_SIZE))).to_client) ∨
        (connection'.recv_buffer = connection.recv_buffer ∧
          s'.relay.to_client = s.relay.to_client)) := by
  cases h with
  | @sends event =>
    exact ⟨{ connection with recv_buffer := connection.recv_buffer.drop READ_CHUNK_SIZE, event },
      by simp [hc], .inl ⟨rfl, rfl⟩⟩
  | @parks event => exact ⟨{ connection with event }, by simp [hc], .inr ⟨rfl, rfl⟩⟩
  | @ends event =>
    have hmodified : (s.relay.modifyConnection c fun _ => { connection with event }).connection c =
        some { connection with event } := by
      simp [hc]
    -- The drop of a connection leaves its buffer to those that still hold the connection.
    obtain ⟨connection', hc', hcontent⟩ := (Untouched.drop
      (s.relay.modifyConnection c fun _ => { connection with event }) c).connection hmodified
    exact ⟨connection', hc', .inr ⟨congrArg (fun content => content.2.1) hcontent, rfl⟩⟩
  | dies => exact ⟨connection, hc, .inr ⟨rfl, rfl⟩⟩

/-! ## The conversation with an access client -/

/-- The start message, and then data. -/
def Begun (messages : List ToClient) : Prop :=
  ∃ supports_binary chunks, messages = .text (.startOK supports_binary) :: chunks ∧
    ∀ m ∈ chunks, m.payload?.isSome = true

/-- A chunk goes on with the data. -/
theorem Begun.chunk {messages : List ToClient} (h : Begun messages) (binary : Bool) (data : Bytes) :
    Begun (messages ++ [chunkMessage binary data]) := by
  obtain ⟨supports_binary, chunks, rfl, hdata⟩ := h
  refine ⟨supports_binary, chunks ++ [chunkMessage binary data], rfl, fun m hm => ?_⟩
  rcases List.mem_append.mp hm with hold | hnew
  · exact hdata m hold
  · rw [List.mem_singleton.mp hnew, chunkMessage_payload]
    rfl

/-- What an access client has been told at the stages of its session. -/
structure Conversation (s : RelayState) : Prop where
  silent : ∀ A, (∀ pc, s.client A = some pc → pc.silent = true) → s.relay.to_client A = []
  begun : ∀ A pc c, s.client A = some pc → pc.connection_id? = some c → pc.silent = false →
    Begun (s.relay.to_client A)

/-- A reader sends on the websocket of a session that has its connection, or whose create call has
failed. -/
theorem reader_stage (hr : Reaches (step cfg) ok {} s) {c : ConnectionId} {reader : Reader}
    (hreader : s.reader c = some reader) :
    ∃ pc, s.client reader.access_client_connection = some pc ∧ pc.silent = false ∧
      (pc.connection_id? = some c ∨ pc.failed = true) := by
  obtain ⟨connection, hc, hcreator, -⟩ := (ownership hr).reader c reader hreader
  have hmade := made hr c connection hc
  rw [hcreator] at hmade
  obtain ⟨pc, hpc, hstage⟩ := hmade
  refine ⟨pc, hpc, ?_, hstage⟩
  -- The session that made the connection has it, or its call has failed: it is past its opening.
  cases pc with
  | creating binary call =>
    -- A session that is still being opened has no reader.
    rcases hstage with hid | hfailed
    · obtain ⟨-, hnone⟩ := (ownership hr).opening _ _ c hpc hid
      rw [hreader] at hnone
      cases hnone
    · cases hfailed
  | accepting | receivingStart | checking => rcases hstage with h | h <;> cases h
  | _ => rfl

namespace Conversation

/-- An access client has been told nothing while its session opens the connection. -/
theorem silent_step (hI : Conversation s) (hr : Reaches (step cfg) ok {} s)
    (h : RelayRule cfg s e s') {A : ClientSocket}
    (hsilent : ∀ pc, s'.client A = some pc → pc.silent = true) : s'.relay.to_client A = [] := by
  by_cases hrun : ∃ o, e = .run (.client A) o
  · obtain ⟨o, rfl⟩ := hrun
    cases h with
    | @client _ pc _ _ hpc hrule =>
      cases hrule.tells with
      | waits pc' hpc' hpcsilent _ hsame =>
        rw [hsame]
        refine hI.silent A fun pc₁ hpc₁ => ?_
        rwa [← Option.some.inj (hpc.symm.trans hpc₁)]
      | starts _ _ hpc' => cases hsilent _ hpc'
      | fails pc' _ hpc' hlate | goesOn pc' hpc' hlate =>
        rw [hsilent pc' hpc'] at hlate
        cases hlate
  · have hrun : ∀ o, e ≠ .run (.client A) o := fun o he => hrun ⟨o, he⟩
    have hbefore : ∀ pc, s.client A = some pc → pc.silent = true := by
      intro pc hpc
      have hconn : e ≠ .clientConnects A := by
        rintro rfl
        cases h with
        | clientConnects hnone =>
          rw [hpc] at hnone
          cases hnone
      apply hsilent pc
      rw [client_frame h hrun hconn, hpc]
    rw [to_client_frame h hrun ?_]
    · exact hI.silent A hbefore
    · rintro c o reader - hreader rfl
      obtain ⟨pc, hpc, hlate, -⟩ := reader_stage hr hreader
      rw [hbefore pc hpc] at hlate
      cases hlate

/-- An access client has been told the start message and data once the connection is open. -/
theorem begun_step (hI : Conversation s) (h : RelayRule cfg s e s') {A : ClientSocket}
    {pc' : Client} {c : ConnectionId} (hpc' : s'.client A = some pc')
    (hid : pc'.connection_id? = some c) (hlate : pc'.silent = false) :
    Begun (s'.relay.to_client A) := by
  by_cases hrun : ∃ o, e = .run (.client A) o
  · obtain ⟨o, rfl⟩ := hrun
    cases h with
    | @client _ pc _ _ hpc hrule =>
      cases hrule.tells with
      -- The session has not sent anything yet, which the hypothesis on its stage excludes.
      | waits pc₁ hpc₁ _ hsilent =>
        obtain rfl := Option.some.inj (hpc₁.symm.trans hpc')
        rw [hsilent] at hlate
        cases hlate
      | @starts binary call supports_binary hcreating _ hsaid =>
        -- Nothing was sent before the start message.
        have hempty : s.relay.to_client A = [] := by
          refine hI.silent A fun pc₁ hpc₁ => ?_
          rw [← Option.some.inj (hpc.symm.trans hpc₁), hcreating]
          rfl
        rw [hsaid, hempty]
        exact ⟨supports_binary, [], rfl, by simp⟩
      -- The text of an error goes only to a session that is left without a connection.
      | fails pc₁ _ hpc₁ _ hnone =>
        obtain rfl := Option.some.inj (hpc₁.symm.trans hpc')
        rw [hid] at hnone
        cases hnone
      | goesOn pc₁ hpc₁ _ hstays hsame =>
        obtain rfl := Option.some.inj (hpc₁.symm.trans hpc')
        obtain ⟨hid₀, hlate₀⟩ := hstays c hid
        rw [hsame]
        exact hI.begun A pc c hpc hid₀ hlate₀
  · have hrun : ∀ o, e ≠ .run (.client A) o := fun o he => hrun ⟨o, he⟩
    -- Of the other tasks, only the reader of this session's connection sends on its websocket.
    have hpc := Ownership.client_other h hrun hpc' ⟨c, hid⟩
    have hbegun := hI.begun A pc' c hpc hid hlate
    by_cases hreader : ∃ c₁ o reader, e = .run (.reader c₁) o ∧ s.reader c₁ = some reader ∧
        reader.access_client_connection = A
    · obtain ⟨c₁, o, reader, rfl, hreader, rfl⟩ := hreader
      cases h with
      | reader hr hc hrule =>
        obtain rfl := Option.some.inj (hr.symm.trans hreader)
        obtain ⟨connection', -, ⟨-, hsaid⟩ | ⟨-, hsame⟩⟩ := hrule.tells hc
        · rw [hsaid]
          simp only [sendToClient, Function.update_self]
          exact hbegun.chunk _ _
        · rw [hsame]
          exact hbegun
    · rw [to_client_frame h hrun fun c₁ o reader he hr hA => hreader ⟨c₁, o, reader, he, hr, hA⟩]
      exact hbegun

end Conversation

/-- What an access client has been told, in every run. -/
theorem conversation (h : Reaches (step cfg) ok {} s) : Conversation s := by
  refine h.invariant (I := Conversation) ⟨fun _ _ => rfl, by simp⟩ fun s e s' hr _ hstep hI => ?_
  have hrule := step_rule hstep
  exact ⟨fun A => hI.silent_step hr hrule, fun A pc c hpc hid => hI.begun_step hrule hpc hid⟩

/-! ## The pipe of a connection -/

/-- The stream from the agent of a connection to an access client. -/
def NetworkRelay.pipe (r : NetworkRelay) (c : ConnectionId) (connection : TcpConnection)
    (A : ClientSocket) : Pipe UInt8 where
  sent := dataFor c (r.agent_sent connection.agent_connection)
  inFlight := dataFor c (r.inbox connection.agent_connection)
  buffered := connection.recv_buffer
  delivered := payload (r.to_client A)
  isOpen := c ∈ r.active_relayed_connections

/-- What is in flight changes by a send of the agent and by a frame with data only. -/
theorem inFlight_frame (hI : RegistryInv s) (h : RelayRule cfg s e s') {c : ConnectionId}
    {connection : TcpConnection} (hc : s.relay.connection c = some connection)
    (hsend : ∀ W frame, e ≠ .agentSends W frame) (hdata : ¬ takesData s c e) :
    dataFor c (s'.relay.inbox connection.agent_connection) =
      dataFor c (s.relay.inbox connection.agent_connection) := by
  cases agents_of_rule h with
  | same hagents => rw [hagents]
  | sends W frame he => exact absurd he (hsend W frame)
  | dies W he =>
    subst he
    cases h
    rfl
  | @starts W o frame rest _ hpc _ hagents =>
    -- The handshake of the connection's own agent is over.
    have hne : connection.agent_connection ≠ W := by
      rintro rfl
      obtain ⟨n, hdone⟩ := hI.connection c connection hc
      rw [hpc] at hdone
      cases hdone
    rw [hagents]
    simp [hne]
  | @receives W n frame rest he hpc hin hagents =>
    -- A frame with data for `c` would make the step one that takes data for `c`.
    have hempty : frame.dataFor c = [] := by
      unfold AgentFrame.dataFor
      split
      · rename_i c' data hframe
        apply if_neg
        rintro rfl
        exact hdata ⟨W, n, frame, rest, data, he, hpc, hin, hframe⟩
      · rfl
    rw [hagents]
    by_cases hW : connection.agent_connection = W
    · simp [hW, hin, hempty]
    · simp [hW]

/-- Of the session and the readers, only the reader of its connection sends data to an access
client. -/
theorem payload_frame (hr : Reaches (step cfg) ok {} s) (h : RelayRule cfg s e s')
    {c : ConnectionId} {connection : TcpConnection} {A : ClientSocket}
    (hc : s.relay.connection c = some connection) (hcreator : connection.creator = .client A)
    (hreader : ∀ o, e ≠ .run (.reader c) o) :
    payload (s'.relay.to_client A) = payload (s.relay.to_client A) := by
  by_cases hrun : ∃ o, e = .run (.client A) o
  · obtain ⟨o, rfl⟩ := hrun
    cases h with
    | client _ hrule =>
      cases hrule.tells with
      -- The start message and the text of an error carry no data.
      | waits _ _ _ _ hsame | goesOn _ _ _ _ hsame => rw [hsame]
      | starts _ _ _ hsaid | fails _ _ _ _ _ hsaid =>
        rw [hsaid]
        simp [ToClient.payload?]
  · rw [to_client_frame h fun o he => hrun ⟨o, he⟩]
    rintro c₁ o reader rfl hr₁ rfl
    -- A reader that sends on this websocket is that of the one connection of the session.
    obtain ⟨connection₁, hc₁, hcreator₁, -⟩ := (ownership hr).reader c₁ reader hr₁
    obtain rfl := sole_connection hr c₁ c connection₁ connection hc₁ hc
      (hcreator₁.trans hcreator.symm)
    exact hreader o rfl

/-- A frame with data for `c` is taken by the message loop of the agent of `c`. -/
theorem pipe_takes (hI : RegistryInv s) (hN : Named s) (h : RelayRule cfg s e s') {c : ConnectionId}
    {connection connection' : TcpConnection} {A : ClientSocket}
    (hc : s.relay.connection c = some connection) (hc' : s'.relay.connection c = some connection')
    (hagent : connection'.agent_connection = connection.agent_connection)
    (hdata : takesData s c e) :
    Pipe.Moves (s.relay.pipe c connection A) (s'.relay.pipe c connection' A) := by
  obtain ⟨W, n, frame, rest, data, rfl, hpc, hin, hframe⟩ := hdata
  have hsent : frame ∈ s.relay.agent_sent W := by
    apply (hI.inbox W).subset
    rw [hin]
    exact List.mem_cons_self
  -- The frame is of the agent of `c`, as agents name their own connections only.
  obtain ⟨connection₁, hc₁, rfl⟩ := hN W frame hsent c (by simp [AgentFrame.named?, hframe])
  obtain rfl := Option.some.inj (hc.symm.trans hc₁)
  have hflight :
      dataFor c (s.relay.inbox connection.agent_connection) = data ++ dataFor c rest := by
    rw [hin, dataFor_cons, AgentFrame.dataFor_of_data? hframe]
  cases h with
  | msgLoop hpc' hrule =>
    obtain ⟨rfl, rfl⟩ := MsgLoopTask.mk.inj (Option.some.inj (hpc.symm.trans hpc'))
    cases hrule with
    | disconnects ho => rcases ho with ho | ho <;> cases ho
    | receives hin' hrule =>
      obtain ⟨rfl, rfl⟩ := List.cons.inj (hin.symm.trans hin')
      rcases hrule.data hframe with ⟨hact, hrelay⟩ | ⟨hact, hrelay⟩
      · -- The connection is active, and its buffer is filled.
        have hact : c ∈ s.relay.active_relayed_connections := hact
        obtain rfl : connection.fill_recv data = connection' := by
          simpa [hrelay, hc] using hc'
        refine .arrives data hact ?_ ?_ rfl ?_ <;> simp [pipe, hrelay, hflight]
      · -- It has been dropped: the frame is ignored, and the pipe is no longer open.
        have hact : c ∉ s.relay.active_relayed_connections := hact
        obtain rfl : connection = connection' := by simpa [hrelay, hc] using hc'
        refine .misses data hact ?_ ?_ rfl ?_ <;> simp [pipe, hrelay, hflight]

/-- What a step of the relay does to the pipe of a connection. -/
theorem pipe_moves (hr : Reaches (step cfg) ok {} s) (hN : Named s) (h : RelayRule cfg s e s')
    {c : ConnectionId} {connection connection' : TcpConnection} {A : ClientSocket}
    (hc : s.relay.connection c = some connection) (hcreator : connection.creator = .client A)
    (hc' : s'.relay.connection c = some connection') :
    Pipe.Moves (s.relay.pipe c connection A) (s'.relay.pipe c connection' A) := by
  have hI := registryInv hr
  have hagent : connection'.agent_connection = connection.agent_connection := by
    obtain ⟨connection₁, hc₁, hid⟩ := h.evolves.connection c connection hc
    obtain rfl := Option.some.inj (hc₁.symm.trans hc')
    exact congrArg (fun identity => identity.2.1) hid
  by_cases hsend : ∃ W frame, e = .agentSends W frame
  · obtain ⟨W, frame, rfl⟩ := hsend
    cases h
    obtain rfl : connection = connection' := Option.some.inj (hc.symm.trans hc')
    by_cases hW : connection.agent_connection = W
    · refine .sends (frame.dataFor c) ?_ ?_ rfl rfl <;> simp [pipe, hW]
    · refine .nothing ?_ ?_ rfl rfl <;> simp [pipe, hW]
  have hsend : ∀ W frame, e ≠ .agentSends W frame := fun W frame he => hsend ⟨W, frame, he⟩
  by_cases hdata : takesData s c e
  · exact pipe_takes hI hN h hc hc' hagent hdata
  -- Neither end of the wire changes: what is left is the buffer and the access client.
  have hsent : (s'.relay.pipe c connection' A).sent = (s.relay.pipe c connection A).sent := by
    simp only [pipe, hagent, agent_sent_frame h hsend]
  have hflight : (s'.relay.pipe c connection' A).inFlight =
      (s.relay.pipe c connection A).inFlight := by
    simp only [pipe, hagent, inFlight_frame hI h hc hsend hdata]
  -- The reader of `c` takes a chunk and sends it; no other step touches either end.
  by_cases hreader : ∃ o, e = .run (.reader c) o
  · obtain ⟨o, rfl⟩ := hreader
    cases h with
    | @reader _ reader connection₁ _ _ hreader hc₁ hrule =>
      obtain rfl := Option.some.inj (hc.symm.trans hc₁)
      obtain ⟨connection₂, hc₂, htells⟩ := hrule.tells hc
      obtain rfl := Option.some.inj (hc₂.symm.trans hc')
      rcases htells with ⟨hbuf, hsaid⟩ | ⟨hbuf, hsame⟩
      · have hA : reader.access_client_connection = A := by
          obtain ⟨connection₃, hc₃, hcreator₃, -⟩ := (ownership hr).reader c reader hreader
          obtain rfl := Option.some.inj (hc.symm.trans hc₃)
          exact Task.client.inj (hcreator₃.symm.trans hcreator)
        refine .delivers READ_CHUNK_SIZE hsent hflight hbuf ?_
        simp [pipe, hsaid, hA]
      · exact .nothing hsent hflight hbuf (by simp only [pipe, hsame])
  · have hreader : ∀ o, e ≠ .run (.reader c) o := fun o he => hreader ⟨o, he⟩
    obtain ⟨connection₁, hc₁, hbuf⟩ := buffer_frame h hreader hdata connection hc
    obtain rfl := Option.some.inj (hc₁.symm.trans hc')
    exact .nothing hsent hflight hbuf (payload_frame hr h hc hcreator hreader)

/-- Every step of the relay is a step of the pipe. -/
theorem pipe_step (hr : Reaches (step cfg) ok {} s) (hN : Named s) (h : RelayRule cfg s e s')
    {c : ConnectionId} {connection connection' : TcpConnection} {A : ClientSocket}
    (hc : s.relay.connection c = some connection) (hcreator : connection.creator = .client A)
    (hc' : s'.relay.connection c = some connection') :
    Pipe.Step (s.relay.pipe c connection A) (s'.relay.pipe c connection' A) where
  moves := pipe_moves hr hN h hc hcreator hc'
  isOpen hact := by
    rcases h.evolves.active c hact with hold | ⟨hnone, -⟩
    · exact hold
    · rw [hc] at hnone
      cases hnone

/-- The pipe of a new connection is fresh. -/
theorem pipe_fresh (hr : Reaches (step cfg) ok {} s) (hr' : Reaches (step cfg) ok {} s')
    (hN : Named s) (h : RelayRule cfg s e s') {c : ConnectionId} {connection : TcpConnection}
    {A : ClientSocket} (hnone : s.relay.connection c = none)
    (hc : s'.relay.connection c = some connection) (hcreator : connection.creator = .client A) :
    (s'.relay.pipe c connection A).Fresh := by
  obtain ⟨-, call, hcall, hid⟩ := connection_new h hnone hc
  -- The session is still in its create call, so it has sent nothing.
  have hempty : s'.relay.to_client A = [] := by
    refine (conversation hr').silent A fun pc hpc => ?_
    rw [hcreator] at hcall
    simp only [pending?, hpc] at hcall
    split at hcall
    · rename_i heq
      obtain rfl := Option.some.inj heq
      rfl
    · cases hcall
  -- The entry is new, and `TcpConnection` starts with an empty buffer.
  have hbuf : connection.recv_buffer = [] := by
    have hexists : ∀ {call₀}, s.pending? connection.creator = some call₀ →
        call₀.connection_id ≠ c := by
      rintro call₀ hcall₀ rfl
      obtain ⟨connection₀, hc₀, -⟩ := (outgoing hr).pending _ call₀ hcall₀
      rw [hnone] at hc₀
      cases hc₀
    cases pending_of_rule h hcall with
    | same _ hcall₀ => exact absurd hid (hexists hcall₀)
    | moved _ hcall₀ hcreate => exact absurd (hcreate.parked.2.1.symm.trans hid) (hexists hcall₀)
    | published _ hconn =>
      rw [hid, hc] at hconn
      rw [Option.some.inj hconn]
      rfl
  -- No agent can have named the id before it existed.
  have hsent : ∀ W, ∀ frame ∈ s'.relay.agent_sent W, frame.named? ≠ some c := by
    intro W frame hframe hnamed
    have hsend : ∀ W frame, e ≠ .agentSends W frame := by
      rintro W frame rfl
      cases h
      rw [show s.relay.connection c = some connection from hc] at hnone
      cases hnone
    rw [agent_sent_frame h hsend] at hframe
    obtain ⟨connection₀, hc₀, -⟩ := hN W frame hframe c hnamed
    rw [hnone] at hc₀
    cases hc₀
  exact {
    sent := dataFor_eq_nil (hsent connection.agent_connection)
    inFlight := dataFor_eq_nil fun frame hframe =>
      hsent _ frame (((registryInv hr').inbox _).subset hframe)
    buffered := hbuf
    delivered := by simp [pipe, hempty] }

/-- The pipe of every connection of a session is intact. -/
theorem pipes_intact (hnamed : ∀ s, Reaches (step cfg) ok {} s → Named s)
    (h : Reaches (step cfg) ok {} s) :
    ∀ c connection A, s.relay.connection c = some connection → connection.creator = .client A →
      (s.relay.pipe c connection A).Intact := by
  refine h.invariant (I := fun s => ∀ c connection A, s.relay.connection c = some connection →
    connection.creator = .client A → (s.relay.pipe c connection A).Intact) (by simp) ?_
  intro s e s' hr hok hstep hI c connection A hc hcreator
  have hrule := step_rule hstep
  cases hold : s.relay.connection c with
  | none => exact (pipe_fresh hr (hr.step hok hstep) (hnamed s hr) hrule hold hc hcreator).intact
  -- The entry was there: it is the same connection, which has only moved on.
  | some connection₀ =>
    obtain ⟨connection₁, hc₁, hid⟩ := hrule.evolves.connection c connection₀ hold
    obtain rfl := Option.some.inj (hc₁.symm.trans hc)
    simp only [TcpConnection.identity, Prod.mk.injEq] at hid
    have hcreator₀ : connection₀.creator = .client A := hid.2.2.2.symm.trans hcreator
    exact (hI c connection₀ A hold hcreator₀).step
      (pipe_step hr (hnamed s hr) hrule hold hcreator₀ hc)

/-- In every run in which agents name their own connections only, what an access client is sent
streams what its connection's agent has sent for it. -/
theorem streams_intact (h : Reaches (step cfg) (NamesOwn · ·) {} s) : StreamsIntact s := by
  intro A pc c hpc hid
  obtain ⟨connection, hc, hcreator, -⟩ := (ownership h).client A pc c hpc hid
  refine ⟨connection, hc, ?_⟩
  have hintact := pipes_intact (fun _ hr => named hr) h c connection A hc hcreator
  have hconv := conversation h
  cases hsilent : pc.silent with
  | true =>
    left
    refine hconv.silent A fun pc₁ hpc₁ => ?_
    rwa [← Option.some.inj (hpc.symm.trans hpc₁)]
  | false =>
    right
    obtain ⟨supports_binary, chunks, hmessages, hdata⟩ := hconv.begun A pc c hpc hid hsilent
    refine ⟨supports_binary, chunks, hmessages, hdata, ?_⟩
    -- The start message carries no data, so the law of the pipe is about the chunks.
    have hprefix : payload (s.relay.to_client A) <+:
        dataFor c (s.relay.agent_sent connection.agent_connection) := hintact.delivered_prefix
    rw [hmessages] at hprefix
    exact hprefix

/-- An open session whose agent has sent two bytes, of which the reader forwards both, and then a
third, which is in flight. -/
def forwardedSession : RelayState :=
  (runWith (step plainConfig) (NamesOwn · ·) {} (openSession ++
    [.agentSends ⟨0⟩ (.text { known := some (.tcpData someConnection "AQI=") }),
      .run (.msgLoop ⟨0⟩) .next, .run (.reader someConnection) .ok,
      .agentSends ⟨0⟩ (.text { known := some (.tcpData someConnection "Aw==") })])).get
    (by decide +kernel)

/-- The access client has been sent the first piece, and the second one is in the buffer. -/
theorem forwardedSession_streams :
    forwardedSession.relay.to_client ⟨0⟩ =
        [.text (.startOK false), .text (.tcpData "AQI=")] ∧
      dataFor someConnection (forwardedSession.relay.agent_sent ⟨0⟩) = [1, 2, 3] ∧
      StreamsIntact forwardedSession :=
  ⟨by decide +kernel, by decide +kernel,
    streams_intact (Reaches.init.of_runWith (Option.some_get _).symm)⟩

end HttpNetworkRelay
