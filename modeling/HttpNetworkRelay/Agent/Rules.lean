import HttpNetworkRelay.Agent.EdgeAgent

/-!
# What a step of the edge agent can do

One inversion lemma for the step function of the agent. `ReceiveRule` lists what the receive loop
does with a frame, by what the frame carries: data for a connection, a request, a close, or nothing
of these. `MainRule` and `ReadRule` list the resumptions of `async_main` and of
`read_from_tcp_and_send`, and `agentStep_rule` shows that every step is one of these, so that no
later proof unfolds the functions of `EdgeAgent.lean`.
-/

namespace HttpNetworkRelay

open Python AgentState

/-! ## What a frame carries -/

namespace RelayFrame

/-- The data that a frame carries for a connection, in either framing. -/
def data? : RelayFrame → Option (ConnectionId × Bytes)
  | .bytes data => (decode_tcp_binary_frame data).toOption
  | .text (some (.tcpData connection_id data_base64)) _ =>
    (b64decode data_base64).toOption.map fun data => (connection_id, data)
  | .text _ _ => none

/-- The request that a frame carries, with its protocol. -/
def request? : RelayFrame → Option (String × OpenRequest)
  | .text (some (.initiateConnection target_ip target_port protocol connection_id
      supports_binary)) _ =>
    some (protocol, { target_ip, target_port, connection_id, supports_binary })
  | _ => none

/-- The connection that a frame closes. -/
def close? : RelayFrame → Option ConnectionId
  | .text (some (.connectionClose _ connection_id)) _ => some connection_id
  | _ => none

/-- The connection that a frame asks for. -/
def asks? (frame : RelayFrame) : Option ConnectionId :=
  frame.request?.map fun p => p.2.connection_id

/-- The bytes that a frame carries for a connection. -/
def dataFor (connection_id : ConnectionId) (frame : RelayFrame) : Bytes :=
  match frame.data? with
  | some (c, data) => if c = connection_id then data else []
  | none => []

/-- A frame asks for a connection or carries data for it. -/
def About (connection_id : ConnectionId) (frame : RelayFrame) : Prop :=
  frame.asks? = some connection_id ∨ ∃ data, frame.data? = some (connection_id, data)

/-- Whether the receive loop raises on the frame. -/
def malformed (cfg : AgentConfig) : RelayFrame → Bool
  | .bytes data => !(decode_tcp_binary_frame data).toOption.isSome
  | .text (some (.tcpData _ data_base64)) _ => !(b64decode data_base64).toOption.isSome
  | .text (some _) _ => false
  | .text none _ => !cfg.CustomRelayToAgentMessage

/-- The bytes that a frame carries for the connection that it names. -/
theorem dataFor_of_data? {frame : RelayFrame} {c : ConnectionId} {data : Bytes}
    (h : frame.data? = some (c, data)) : frame.dataFor c = data := by
  simp [dataFor, h]

/-- A frame without data for a connection carries no bytes for it. -/
theorem dataFor_eq_nil {frame : RelayFrame} {c : ConnectionId}
    (h : ∀ data, frame.data? ≠ some (c, data)) : frame.dataFor c = [] := by
  unfold dataFor
  split
  case h_1 c' data hdata =>
    have hne : c' ≠ c := by
      rintro rfl
      exact h data hdata
    rw [if_neg hne]
  case h_2 => rfl

/-- A frame that carries data is no request, and no close. -/
theorem of_data? {frame : RelayFrame} {x : ConnectionId × Bytes} (h : frame.data? = some x) :
    frame.request? = none ∧ frame.close? = none := by
  match frame with
  | .bytes _ => exact ⟨rfl, rfl⟩
  | .text (some (.tcpData _ _)) _ => exact ⟨rfl, rfl⟩
  | .text (some (.initiateConnection ..)) _ | .text (some (.connectionClose ..)) _
  | .text (some .keepAlive) _ | .text none _ => simp [data?] at h

/-- A frame with data decodes. -/
theorem malformed_of_data? {cfg : AgentConfig} {frame : RelayFrame} {x : ConnectionId × Bytes}
    (h : frame.data? = some x) : frame.malformed cfg = false := by
  match frame with
  | .bytes _ =>
    have hsome := congrArg Option.isSome h
    simp only [data?, Option.isSome_some] at hsome
    simp [malformed, hsome]
  | .text (some (.tcpData _ _)) _ =>
    have hsome := congrArg Option.isSome h
    simp only [data?, Option.isSome_map, Option.isSome_some] at hsome
    simp [malformed, hsome]
  | .text (some (.initiateConnection ..)) _ | .text (some (.connectionClose ..)) _
  | .text (some .keepAlive) _ | .text none _ => simp [data?] at h

end RelayFrame

/-- The bytes that frames carry for a connection, in their order. -/
def carried (connection_id : ConnectionId) (frames : List RelayFrame) : Bytes :=
  frames.flatMap (·.dataFor connection_id)

/-- No frames carry no bytes. -/
@[simp] theorem carried_nil (c : ConnectionId) : carried c [] = [] := rfl

/-- The bytes of two runs of frames are those of the first and then those of the second. -/
@[simp] theorem carried_append (c : ConnectionId) (frames frames' : List RelayFrame) :
    carried c (frames ++ frames') = carried c frames ++ carried c frames' :=
  List.flatMap_append

/-- The bytes of a single frame. -/
@[simp] theorem carried_singleton (c : ConnectionId) (frame : RelayFrame) :
    carried c [frame] = frame.dataFor c := by
  simp [carried]

/-- Frames that are not about a connection carry no bytes for it. -/
theorem carried_eq_nil {c : ConnectionId} {frames : List RelayFrame}
    (h : ∀ frame ∈ frames, ¬ frame.About c) : carried c frames = [] := by
  unfold carried
  rw [List.flatMap_eq_nil_iff]
  exact fun frame hframe => RelayFrame.dataFor_eq_nil fun data hdata =>
    h frame hframe (.inr ⟨data, hdata⟩)

/-- Nothing about a connection comes before the request for it. -/
def AskedFirst (frames : List RelayFrame) : Prop :=
  ∀ l₁ frame l₂ c, frames = l₁ ++ frame :: l₂ → frame.asks? = some c → ∀ f ∈ l₁, ¬ f.About c

/-- The condition is inherited by the frames received so far. -/
theorem AskedFirst.of_append {frames frames' : List RelayFrame}
    (h : AskedFirst (frames ++ frames')) :
    AskedFirst frames := by
  rintro l₁ frame l₂ c rfl
  exact h l₁ frame (l₂ ++ frames') c (by simp)

/-! ## The rules -/

/-- What the receive loop does with a frame. -/
inductive ReceiveRule (cfg : AgentConfig) (s : AgentState) : RelayFrame → AgentState → Prop
  /-- Data for a connection of the agent. -/
  | writes {frame c data n} (hdata : frame.data? = some (c, data))
      (hn : s.agent.active_connections.lookup c = some n) :
      ReceiveRule cfg s frame ((s.withAgent (s.agent.write n data)).setMain (.draining c n))
  | opens {frame request} (hrequest : frame.request? = some ("tcp", request)) :
      ReceiveRule cfg s frame (s.setMain (.opening request))
  | unsupported {frame protocol request} (hrequest : frame.request? = some (protocol, request))
      (hprotocol : protocol ≠ "tcp") :
      ReceiveRule cfg s frame
        (s.initiationFailed request.connection_id ("Unsupported protocol: " ++ protocol))
  /-- A close of a connection of the agent. -/
  | closes {frame c n} (hclose : frame.close? = some c)
      (hn : s.agent.active_connections.lookup c = some n) :
      ReceiveRule cfg s frame ((s.withAgent ((s.agent.close n).remove c)).setMain .receiving)
  /-- The frame raises. -/
  | rejects {frame e} (hframe : frame.malformed cfg = true) :
      ReceiveRule cfg s frame (s.setMain (.leaving (some (.code e))))
  /-- A keep-alive, a custom message, or data or a close for an id that the agent does not have. -/
  | ignores {frame main} (hframe : frame.malformed cfg = false) (hrequest : frame.request? = none)
      (hdata : ∀ c data, frame.data? = some (c, data) →
        s.agent.active_connections.lookup c = none)
      (hclose : ∀ c, frame.close? = some c → s.agent.active_connections.lookup c = none)
      (hmain : main = .receiving ∨ main = .handlingCustom) :
      ReceiveRule cfg s frame (s.setMain main)

/-- A resumption of `async_main`. -/
inductive MainRule (cfg : AgentConfig) (s : AgentState) :
    AgentMain → AgentOutcome → AgentState → Prop
  | connects : MainRule cfg s .connecting .ok (s.setMain .creatingStart)
  | refused {e text} : MainRule cfg s .connecting (.raised e text) s.disconnected
  | starts {message} : MainRule cfg s .creatingStart (.start message)
      (s.sendAndPark (.start { message with supports_binary := true }) .sendingStart)
  | unstarted {main e text} (hmain : main = .creatingStart ∨ main = .sendingStart) :
      MainRule cfg s main (.raised e text) (s.setMain (.leaving (some e)))
  | connected : MainRule cfg s .sendingStart .ok s.connected
  | receives {content s'} (h : ReceiveRule cfg s content s') :
      MainRule cfg s .receiving (.frame content) s'
  /-- The websocket is lost. -/
  | lost {e error text} (herror : error = none ∨ error = some e) :
      MainRule cfg s .receiving (.raised e text) (s.setMain (.leaving error))
  | opened {request} : MainRule cfg s (.opening request) .ok (s.connectionOpened request)
  | unopened {request e text} : MainRule cfg s (.opening request) (.raised e text)
      (s.initiationFailed request.connection_id text)
  | answered {request n} : MainRule cfg s (.sendingOK request n) .ok
      ((s.setReader n { request, session := s.session }).setMain .receiving)
  | unanswered {request n e text} : MainRule cfg s (.sendingOK request n) (.raised e text)
      (s.initiationFailed request.connection_id text)
  /-- A send, a drain or the handling of a custom message is over. -/
  | goesOn {main o} (hmain : main = .sendingError ∧ o = .ok ∨ main = .sendingReset ∧ o = .ok ∨
        (∃ c n, main = .draining c n ∧ o = .ok) ∨ main = .handlingCustom) :
      MainRule cfg s main o (s.setMain .receiving)
  /-- The send of an answer or of a reset raises. -/
  | unsent {main e text} (hmain : main = .sendingError ∨ main = .sendingReset) :
      MainRule cfg s main (.raised e text) (s.setMain (.leaving (some e)))
  | reset {c n text} (hc : c ∈ s.agent.active_connections) :
      MainRule cfg s (.draining c n) (.raised .connectionResetError text)
        ((s.withAgent ((s.agent.close n).remove c)).sendAndPark
          (.connectionReset "Connection reset while writing data" c) .sendingReset)
  /-- The entry of the connection has gone while its writer was being drained. -/
  | missing {c n text} (hc : c ∉ s.agent.active_connections) :
      MainRule cfg s (.draining c n) (.raised .connectionResetError text)
        ((s.withAgent (s.agent.close n)).setMain (.leaving (some (.code .keyError))))
  | undrained {c n e text} (he : e ≠ .connectionResetError) :
      MainRule cfg s (.draining c n) (.raised e text) (s.setMain (.leaving (some e)))
  | leaves {error o} : MainRule cfg s (.leaving error) o s.disconnected
  | disconnects : MainRule cfg s .closingWebsocket .ok
      ((s.withAgent { s.agent with websocket := none, signal_connected := false }).setMain .closed)
  | restarts : MainRule cfg s .closed .ok
      { s.setMain .connecting with session := s.session + 1 }
  | fails {main e text} (hmain : main = .closingWebsocket ∨ main = .closed) :
      MainRule cfg s main (.raised e text) (s.setMain .failed)

/-- A resumption of `read_from_tcp_and_send` for the socket `n`. -/
inductive ReadRule (s : AgentState) (n : ℕ) (task : ReadTask) : AgentOutcome → AgentState → Prop
  | sends {data frame} (hpoint : task.point = .reading) (hdata : data ≠ [])
      (hframe : chunkFrame task.request data = .ok frame) :
      ReadRule s n task (.data data) ((s.withAgent (s.agent.send task.session frame)).setReader n
        { task with point := .sending })
  | sent (hpoint : task.point = .sending) :
      ReadRule s n task .ok (s.setReader n { task with point := .reading })
  /-- The loop ends, by the end of the stream or by an exception. -/
  | ends {o} (hpoint : task.point = .reading ∨ task.point = .sending) (ho : o ≠ .ok) :
      ReadRule s n task o (s.readEnds n task)
  | finishes {o} (hpoint : task.point = .resetting) :
      ReadRule s n task o (s.setReader n { task with point := .finished })

/-- A step of the agent. -/
inductive AgentRule (cfg : AgentConfig) (s : AgentState) : AgentEvent → AgentState → Prop
  | main {o s'} (h : MainRule cfg s s.main o s') : AgentRule cfg s (.main o) s'
  | keepAlive {session o point point'} (hpoint : s.keepAlive session = some point) :
      AgentRule cfg s (.keepAlive session o) (s.setKeepAlive session point')
  | keepsAlive {session o point} (hpoint : s.keepAlive session = some point)
      (hsession : s.agent.websocket = some session) :
      AgentRule cfg s (.keepAlive session o)
        ((s.withAgent (s.agent.sendMessage session .keepAlive)).setKeepAlive session .sending)
  | reader {n o task s'} (htask : s.reader n = some task) (h : ReadRule s n task o s') :
      AgentRule cfg s (.reader n o) s'

/-! ## Every step is one of them -/

variable {cfg : AgentConfig} {s s' : AgentState} {e : AgentEvent} {o : AgentOutcome}

/-- Data that is written is one of the rules of a received frame. -/
theorem write_to_connection_rule {frame : RelayFrame} {c : ConnectionId} {data : Bytes}
    (hdata : frame.data? = some (c, data)) (hframe : frame.malformed cfg = false)
    (hrequest : frame.request? = none) (hclose : frame.close? = none) :
    ReceiveRule cfg s frame (s.write_to_connection c data) := by
  unfold write_to_connection
  cases hn : s.agent.active_connections.lookup c with
  | some n => exact .writes hdata hn
  | none =>
    refine .ignores hframe hrequest ?_ ?_ (.inl rfl)
    · intro c' data' hdata'
      rw [hdata] at hdata'
      obtain ⟨rfl, rfl⟩ := Prod.mk.inj (Option.some.inj hdata')
      exact hn
    · intro c' hclose'
      rw [hclose] at hclose'
      cases hclose'

/-- A close message is another one. -/
theorem closeReceived_rule {frame : RelayFrame} {c : ConnectionId} (hclose : frame.close? = some c)
    (hframe : frame.malformed cfg = false) (hrequest : frame.request? = none)
    (hdata : frame.data? = none) : ReceiveRule cfg s frame (s.closeReceived c) := by
  unfold closeReceived
  cases hn : s.agent.active_connections.lookup c with
  | some n => exact .closes hclose hn
  | none =>
    refine .ignores hframe hrequest ?_ ?_ (.inl rfl)
    · intro c' data' hdata'
      rw [hdata] at hdata'
      cases hdata'
    · intro c' hclose'
      obtain rfl : c = c' := Option.some.inj (hclose.symm.trans hclose')
      exact hn

/-- Every received frame goes by one of the rules. -/
theorem frameReceived_rule (frame : RelayFrame) :
    ReceiveRule cfg s frame (s.frameReceived cfg frame) := by
  unfold frameReceived
  match frame with
  | .bytes data =>
    rcases hdata : decode_tcp_binary_frame data with e | ⟨c, payload⟩
    · simp only [hdata]
      exact .rejects (by simp [RelayFrame.malformed, hdata, Except.toOption])
    · simp only [hdata]
      exact write_to_connection_rule (by simp [RelayFrame.data?, hdata, Except.toOption])
        (by simp [RelayFrame.malformed, hdata, Except.toOption]) rfl rfl
  | .text (some message) custom =>
    show ReceiveRule cfg s _ (s.messageReceived message)
    unfold messageReceived
    match message with
    | .initiateConnection target_ip target_port protocol connection_id supports_binary =>
      show ReceiveRule cfg s _ (s.initiate_connection protocol _)
      unfold initiate_connection
      split_ifs with hprotocol
      · subst hprotocol
        exact .opens rfl
      · exact .unsupported rfl hprotocol
    | .tcpData connection_id data_base64 =>
      rcases hdata : b64decode data_base64 with e | data
      · simp only [hdata]
        exact .rejects (by simp [RelayFrame.malformed, hdata, Except.toOption])
      · simp only [hdata]
        exact write_to_connection_rule (by simp [RelayFrame.data?, hdata, Except.toOption])
          (by simp [RelayFrame.malformed, hdata, Except.toOption]) rfl rfl
    | .connectionClose _ connection_id => exact closeReceived_rule rfl rfl rfl rfl
    | .keepAlive =>
      exact .ignores rfl rfl (fun _ _ h => nomatch h) (fun _ h => nomatch h) (.inl rfl)
  | .text none custom =>
    dsimp only
    split_ifs with hcustom hknown
    · exact .ignores (by simp [RelayFrame.malformed, hcustom]) rfl (fun _ _ h => nomatch h)
        (fun _ h => nomatch h) (.inr rfl)
    · exact .ignores (by simp [RelayFrame.malformed, hcustom]) rfl (fun _ _ h => nomatch h)
        (fun _ h => nomatch h) (.inl rfl)
    · exact .rejects (by simp [RelayFrame.malformed, hcustom])

/-- A write that fails with a `ConnectionResetError` goes by a rule of the main task. -/
theorem writeReset_rule {c : ConnectionId} {n : ℕ} {text : String} :
    MainRule cfg s (.draining c n) (.raised .connectionResetError text) (s.writeReset c n) := by
  unfold writeReset
  dsimp only
  split_ifs with hc
  · exact .reset hc
  · exact .missing hc

/-- Every step of the main task goes by one of the rules. -/
theorem resumeMain_rule (h : s.resumeMain cfg o = some s') : MainRule cfg s s.main o s' := by
  unfold resumeMain at h
  split at h
  all_goals cases h
  all_goals simp only [*]
  · exact .connects
  · exact .refused
  · exact .starts
  · exact .unstarted (.inl rfl)
  · exact .connected
  · exact .unstarted (.inr rfl)
  · exact .receives (frameReceived_rule _)
  · exact .lost (.inl rfl)
  · exact .lost (.inr rfl)
  · exact .opened
  · exact .unopened
  · exact .answered
  · exact .unanswered
  · exact .goesOn (.inl ⟨rfl, rfl⟩)
  · exact .unsent (.inl rfl)
  · exact .goesOn (.inr (.inr (.inl ⟨_, _, rfl, rfl⟩)))
  · exact writeReset_rule
  · exact .undrained ‹_›
  · exact .goesOn (.inr (.inl ⟨rfl, rfl⟩))
  · exact .unsent (.inr rfl)
  · exact .goesOn (.inr (.inr (.inr rfl)))
  · exact .goesOn (.inr (.inr (.inr rfl)))
  · exact .leaves
  · exact .leaves
  · exact .disconnects
  · exact .fails (.inl rfl)
  · exact .restarts
  · exact .fails (.inr rfl)

/-- Every step of a keep-alive task goes by one of the rules. -/
theorem agentKeepAlive_rule {session : ℕ} {point : AgentKeepAlive}
    (hpoint : s.keepAlive session = some point)
    (h : s.resumeKeepAlive session point o = some s') :
    AgentRule cfg s (.keepAlive session o) s' := by
  unfold resumeKeepAlive at h
  split at h
  · split_ifs at h with hsignal
    obtain rfl := Option.some.inj h
    exact .keepAlive hpoint
  · split_ifs at h with hsession
    · obtain rfl := Option.some.inj h
      exact .keepsAlive hpoint hsession
    · obtain rfl := Option.some.inj h
      exact .keepAlive hpoint
  · obtain rfl := Option.some.inj h
    exact .keepAlive hpoint
  · obtain rfl := Option.some.inj h
    exact .keepAlive hpoint
  · cases h

/-- Every step of a reading task goes by one of the rules. -/
theorem agentReader_rule {n : ℕ} {task : ReadTask} (h : s.resumeReader n task o = some s') :
    ReadRule s n task o s' := by
  unfold resumeReader at h
  split at h
  case h_1 data hpoint =>
    split_ifs at h with hdata
    · obtain rfl := Option.some.inj h
      exact .ends (.inl hpoint) (by simp)
    · split at h
      case h_1 frame hframe =>
        obtain rfl := Option.some.inj h
        exact .sends hpoint hdata hframe
      case h_2 =>
        obtain rfl := Option.some.inj h
        exact .ends (.inl hpoint) (by simp)
  case h_2 hpoint =>
    obtain rfl := Option.some.inj h
    exact .ends (.inl hpoint) (by simp)
  case h_3 hpoint =>
    obtain rfl := Option.some.inj h
    exact .sent hpoint
  case h_4 hpoint =>
    obtain rfl := Option.some.inj h
    exact .ends (.inr hpoint) (by simp)
  case h_5 hpoint | h_6 hpoint =>
    obtain rfl := Option.some.inj h
    exact .finishes hpoint
  case h_7 => cases h

/-- Every step of the agent goes by one of the rules. -/
theorem agentStep_rule (h : agentStep cfg s e = some s') : AgentRule cfg s e s' := by
  match e with
  | .main o => exact .main (resumeMain_rule h)
  | .keepAlive session o =>
    obtain ⟨point, hpoint, h⟩ := Option.bind_eq_some_iff.mp h
    exact agentKeepAlive_rule hpoint h
  | .reader n o =>
    obtain ⟨task, htask, h⟩ := Option.bind_eq_some_iff.mp h
    exact .reader htask (agentReader_rule h)

/-- What a resumption of a task other than the main one leaves alone. -/
theorem AgentRule.main_same (h : AgentRule cfg s e s') (he : ∀ o, e ≠ .main o) :
    s'.main = s.main ∧ s'.session = s.session := by
  cases h with
  | main => exact absurd rfl (he _)
  | keepAlive | keepsAlive => exact ⟨rfl, rfl⟩
  | reader _ h => cases h <;> exact ⟨rfl, rfl⟩

/-- A socket is being opened because of a frame that asks for it. -/
theorem MainRule.opening {main : AgentMain} {o : AgentOutcome} (h : MainRule cfg s main o s')
    {request : OpenRequest} (hmain : s'.main = .opening request) :
    ∃ frame, o = .frame frame ∧ frame.request? = some ("tcp", request) ∧ s'.agent = s.agent := by
  cases h with
  | @receives frame _ h =>
    cases h with
    | opens hrequest =>
      obtain rfl := AgentMain.opening.inj hmain
      exact ⟨frame, rfl, hrequest, rfl⟩
    | ignores _ _ _ _ hmain' =>
      obtain rfl | rfl := hmain' <;> cases hmain
    | _ => cases hmain
  | refused | leaves =>
    simp only [AgentState.disconnected, setMain] at hmain
    split_ifs at hmain
  | _ => cases hmain

end HttpNetworkRelay
