import HttpNetworkRelay.Agent.Rules

/-!
# What the agent sends

A step of the agent sends at most one frame, and `AgentSends` says which one, on the websocket of
which session and at which suspension point. `AgentRule.sent` is all that later proofs need to know
about `to_relay`.
-/

namespace HttpNetworkRelay

open Python AgentState

variable {cfg : AgentConfig} {s s' : AgentState} {e : AgentEvent}

/-- The agent sends the frame in an event, on the websocket of the session. -/
inductive AgentSends (s : AgentState) : AgentEvent → ℕ → AgentFrame → Prop
  | start {message} (hmain : s.main = .creatingStart) :
      AgentSends s (.main (.start message)) s.session
        (.text { known := some (.start { message with supports_binary := true }) })
  | unsupported {frame protocol request} (hmain : s.main = .receiving)
      (hrequest : frame.request? = some (protocol, request)) :
      AgentSends s (.main (.frame frame)) s.session
        (.text { known := some (.initiateConnectionError ("Unsupported protocol: " ++ protocol)
          request.connection_id) })
  | unopened {request error text} (hmain : s.main = .opening request) :
      AgentSends s (.main (.raised error text)) s.session
        (.text { known := some (.initiateConnectionError text request.connection_id) })
  | opened {request} (hmain : s.main = .opening request) :
      AgentSends s (.main .ok) s.session
        (.text { known := some (.initiateConnectionOK request.connection_id) })
  | unanswered {request n error text} (hmain : s.main = .sendingOK request n) :
      AgentSends s (.main (.raised error text)) s.session
        (.text { known := some (.initiateConnectionError text request.connection_id) })
  | reset {c n text} (hmain : s.main = .draining c n) (hc : c ∈ s.agent.active_connections) :
      AgentSends s (.main (.raised .connectionResetError text)) s.session
        (.text { known := some (.connectionReset "Connection reset while writing data" c) })
  | keepAlive {session o} (hpoint : (s.keepAlive session).isSome = true) :
      AgentSends s (.keepAlive session o) session (.text { known := some .keepAlive })
  | chunk {n task data frame} (htask : s.reader n = some task) (hpoint : task.point = .reading)
      (hdata : data ≠ []) (hframe : chunkFrame task.request data = .ok frame) :
      AgentSends s (.reader n (.data data)) task.session frame
  | closed {n task o} (htask : s.reader n = some task)
      (hpoint : task.point = .reading ∨ task.point = .sending) :
      AgentSends s (.reader n o) task.session
        (.text { known := some (.connectionReset "Connection closed by target"
          task.request.connection_id) })

/-- A step sends nothing, or what `AgentSends` says. -/
theorem AgentRule.sent (h : AgentRule cfg s e s') :
    s'.agent.to_relay = s.agent.to_relay ∨ ∃ session frame, AgentSends s e session frame ∧
      s'.agent.to_relay =
        Function.update s.agent.to_relay session (s.agent.to_relay session ++ [frame]) := by
  cases h with
  | @main o _ h =>
    generalize hmain : s.main = main at h
    cases h with
    | starts => exact .inr ⟨_, _, .start hmain, rfl⟩
    | unopened => exact .inr ⟨_, _, .unopened hmain, rfl⟩
    | opened => exact .inr ⟨_, _, .opened hmain, rfl⟩
    | unanswered => exact .inr ⟨_, _, .unanswered hmain, rfl⟩
    | reset hc => exact .inr ⟨_, _, .reset hmain hc, rfl⟩
    | receives h =>
      cases h with
      | unsupported hrequest => exact .inr ⟨_, _, .unsupported hmain hrequest, rfl⟩
      | writes | opens | closes | rejects | ignores => exact .inl rfl
    | _ => exact .inl rfl
  | keepAlive => exact .inl rfl
  | keepsAlive hpoint => exact .inr ⟨_, _, .keepAlive (by rw [hpoint]; rfl), rfl⟩
  | reader htask h =>
    cases h with
    | sends hpoint hdata hframe => exact .inr ⟨_, _, .chunk htask hpoint hdata hframe, rfl⟩
    | sent | finishes => exact .inl rfl
    | ends hpoint => exact .inr ⟨_, _, .closed htask hpoint, rfl⟩

/-- What a step sends on the websocket of one session. -/
theorem AgentRule.sent_in (h : AgentRule cfg s e s') (session : ℕ) :
    s'.agent.to_relay session = s.agent.to_relay session ∨ ∃ frame, AgentSends s e session frame ∧
      s'.agent.to_relay session = s.agent.to_relay session ++ [frame] := by
  rcases h.sent with hsame | ⟨session', frame, hsends, hto⟩
  · exact .inl (congrFun hsame session)
  · rcases eq_or_ne session session' with rfl | hne
    · exact .inr ⟨frame, hsends, by rw [hto, Function.update_self]⟩
    · exact .inl (by rw [hto, Function.update_of_ne hne])

/-! ## The other parts of a step -/

/-- The only new task of a step is the one of a connection whose answer has been sent. -/
theorem AgentRule.reader_of (h : AgentRule cfg s e s') {n : ℕ} {task' : ReadTask}
    (htask' : s'.reader n = some task') :
    (∃ task, s.reader n = some task ∧ task'.request = task.request ∧
      task'.session = task.session ∧
      (task'.point = .reading ∨ task'.point = .sending →
        task.point = .reading ∨ task.point = .sending)) ∨
    s.main = .sendingOK task'.request n ∧ task'.session = s.session ∧ s'.agent = s.agent ∧
      s'.main = .receiving := by
  have hsame : s'.reader = s.reader → ∃ task, s.reader n = some task ∧
      task'.request = task.request ∧ task'.session = task.session ∧
      (task'.point = .reading ∨ task'.point = .sending →
        task.point = .reading ∨ task.point = .sending) :=
    fun hreader => ⟨task', by rw [← hreader, htask'], rfl, rfl, id⟩
  cases h with
  | @main o _ h =>
    generalize hmain : s.main = main at h
    cases h with
    | receives h => cases h <;> exact .inl (hsame rfl)
    | @answered request m =>
      rcases eq_or_ne n m with rfl | hne
      · right
        obtain rfl : ({ request, session := s.session } : ReadTask) = task' := by
          simpa using htask'
        exact ⟨rfl, rfl, rfl, rfl⟩
      · exact .inl ⟨task', by simpa [hne] using htask', rfl, rfl, id⟩
    | _ => exact .inl (hsame rfl)
  | keepAlive | keepsAlive => exact .inl (hsame rfl)
  | @reader m _ task _ htask h =>
    left
    rcases eq_or_ne n m with rfl | hne
    · refine ⟨task, htask, ?_⟩
      cases h with
      | sends hpoint | sent hpoint =>
        obtain rfl : _ = task' := by simpa using htask'
        exact ⟨rfl, rfl, fun _ => by simp [hpoint]⟩
      | ends | finishes =>
        obtain rfl : _ = task' := by simpa [readEnds] using htask'
        exact ⟨rfl, rfl, fun hpoint => by simp at hpoint⟩
    · refine ⟨task', ?_, rfl, rfl, id⟩
      cases h with
      | sends | sent | ends | finishes => simpa [readEnds, hne] using htask'

/-- The only new `keep_alive` of a step is that of a session whose start message has been sent. -/
theorem AgentRule.keepAlive_of (h : AgentRule cfg s e s') (session : ℕ) :
    s'.keepAlive session = s.keepAlive session ∨ (s.keepAlive session).isSome = true ∨
      s.main = .sendingStart ∧ session = s.session := by
  cases h with
  | @main o _ h =>
    generalize hmain : s.main = main at h
    cases h with
    | receives h => cases h <;> exact .inl rfl
    | connected =>
      rcases eq_or_ne session s.session with rfl | hne
      · exact .inr (.inr ⟨rfl, rfl⟩)
      · exact .inl (Function.update_of_ne hne _ _)
    | _ => exact .inl rfl
  | @keepAlive session' _ _ _ hpoint | @keepsAlive session' _ _ hpoint =>
    rcases eq_or_ne session session' with rfl | hne
    · exact .inr (.inl (by rw [hpoint]; rfl))
    · exact .inl (Function.update_of_ne hne _ _)
  | reader _ h => cases h <;> exact .inl rfl

/-- A new session begins where nothing else happens. -/
theorem AgentRule.session_of (h : AgentRule cfg s e s') :
    s'.session = s.session ∨ s.main = .closed ∧ s'.main = .connecting ∧
      s'.session = s.session + 1 ∧ s'.agent = s.agent ∧ s'.keepAlive = s.keepAlive ∧
      s'.reader = s.reader := by
  cases h with
  | @main o _ h =>
    generalize hmain : s.main = main at h
    cases h with
    | receives h => cases h <;> exact .inl rfl
    | restarts => exact .inr ⟨rfl, rfl, rfl, rfl, rfl, rfl⟩
    | _ => exact .inl rfl
  | keepAlive | keepsAlive => exact .inl rfl
  | reader _ h => cases h <;> exact .inl rfl

/-- A socket is being opened since a request for it has been received. -/
theorem AgentRule.opening_of (h : AgentRule cfg s e s') {request : OpenRequest}
    (hmain' : s'.main = .opening request) :
    s.main = .opening request ∨
      ∃ frame, e = .main (.frame frame) ∧ frame.request? = some ("tcp", request) := by
  cases h with
  | main h =>
    generalize s.main = main at h ⊢
    cases h with
    | receives h =>
      cases h with
      | opens hrequest =>
        obtain rfl := AgentMain.opening.inj hmain'
        exact .inr ⟨_, rfl, hrequest⟩
      | ignores _ _ _ _ hmain => rcases hmain with rfl | rfl <;> cases hmain'
      | _ => cases hmain'
    | refused | leaves =>
      simp only [disconnected, setMain, withAgent] at hmain'
      split_ifs at hmain'
    | _ => cases hmain'
  | keepAlive | keepsAlive => exact .inl hmain'
  | reader _ h => cases h <;> exact .inl hmain'

/-- An answer is being sent since a socket has been opened. -/
theorem AgentRule.answering_of (h : AgentRule cfg s e s') {request : OpenRequest} {n : ℕ}
    (hmain' : s'.main = .sendingOK request n) :
    s.main = .sendingOK request n ∨
      s.main = .opening request ∧ n = s.agent.writers_opened ∧ s' = s.connectionOpened request := by
  cases h with
  | main h =>
    generalize s.main = main at h ⊢
    cases h with
    | receives h =>
      cases h with
      | ignores _ _ _ _ hmain => rcases hmain with rfl | rfl <;> cases hmain'
      | _ => cases hmain'
    | refused | leaves =>
      simp only [disconnected, setMain, withAgent] at hmain'
      split_ifs at hmain'
    | opened =>
      obtain ⟨rfl, rfl⟩ := AgentMain.sendingOK.inj hmain'
      exact .inr ⟨rfl, rfl, rfl⟩
    | _ => cases hmain'
  | keepAlive | keepsAlive => exact .inl hmain'
  | reader _ h => cases h <;> exact .inl hmain'

end HttpNetworkRelay
