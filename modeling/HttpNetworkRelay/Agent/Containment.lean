import HttpNetworkRelay.Agent.Sockets

/-!
# A failing target and the session

While its websocket works, the receive loop of a session should survive whatever happens to a target
socket: the failed connection is removed with its writer closed, and the others are left alone.
`Contained` says that of one resumption of the main task. `write_to_connection` falls short of it in
two ways. It catches no `OSError` but `ConnectionResetError`, and its `except` clause deletes an
entry that the `finally` of `read_from_tcp_and_send` may have removed while the writer was being
drained. `failures_contained` shows that there are no others: a resumption is contained if and only
if a drain that fails does so with a `ConnectionResetError` and still finds its entry, and a session
all of whose drains do is not ended by a target.
-/

namespace HttpNetworkRelay

open Asyncio Python AgentState

/-- The main task is in the receive loop of a session. -/
def AgentMain.inLoop : AgentMain → Bool
  | .receiving | .opening _ | .sendingOK _ _ | .sendingError | .draining _ _ | .sendingReset
  | .handlingCustom => true
  | _ => false

/-- The connection that a frame is about. -/
def RelayFrame.connection_id? (frame : RelayFrame) : Option ConnectionId :=
  (frame.data?.map Prod.fst).or ((frame.request?.map fun p => p.2.connection_id).or frame.close?)

/-- The connection that a resumption of the main task is about. -/
def AgentState.subject (s : AgentState) (o : AgentOutcome) : Option ConnectionId :=
  match s.main, o with
  | .receiving, .frame frame => frame.connection_id?
  | .opening request, _ | .sendingOK request _, _ => some request.connection_id
  | .draining connection_id _, _ => some connection_id
  | _, _ => none

/-- The main task's operations on the websocket do not raise, and the relay sends well-formed
messages. -/
def RelayWorks (cfg : AgentConfig) (s : AgentState) : AgentEvent → Bool
  | .main o =>
    match s.main, o with
    | .receiving, .frame frame => !frame.malformed cfg
    | .receiving, _ => false
    | .sendingStart, .raised _ _ | .sendingOK _ _, .raised _ _ | .sendingError, .raised _ _
    | .sendingReset, .raised _ _ => false
    | _, _ => true
  | _ => true

/-- A drain that fails raises a `ConnectionResetError`, and the entry of its connection is still
there. -/
def DrainCaught (s : AgentState) : AgentEvent → Bool
  | .main (.raised e _) =>
    match s.main with
    | .draining connection_id _ =>
      e = .connectionResetError && decide (connection_id ∈ s.agent.active_connections)
    | _ => true
  | _ => true

/-- A resumption of the main task inside the receive loop stays inside it, a connection whose drain
has failed is removed and its writer closed, a connection that could not be opened leaves no entry,
and the entries of the others are unchanged. -/
structure Contained (s : AgentState) (o : AgentOutcome) (s' : AgentState) : Prop where
  inLoop : s'.main.inLoop = true
  session : s'.session = s.session
  failed : ∀ c n e text, s.main = .draining c n → o = .raised e text →
    c ∉ s'.agent.active_connections ∧ (s'.agent.writer n).any (·.closed) = true
  unopened : ∀ request e text, s.main = .opening request → o = .raised e text →
    s'.agent.active_connections = s.agent.active_connections
  others : ∀ c, s.subject o ≠ some c →
    s'.agent.active_connections.lookup c = s.agent.active_connections.lookup c

variable {cfg : AgentConfig} {s s' : AgentState} {e : AgentEvent} {o : AgentOutcome}

/-! ## One resumption -/

/-- A frame that the agent can decode leaves it in its loop, in the same session. -/
theorem ReceiveRule.inLoop {frame : RelayFrame} (h : ReceiveRule cfg s frame s')
    (hframe : frame.malformed cfg = false) : s'.main.inLoop = true ∧ s'.session = s.session := by
  cases h with
  | rejects hbad =>
    rw [hframe] at hbad
    cases hbad
  | ignores _ _ _ _ hmain => obtain rfl | rfl := hmain <;> exact ⟨rfl, rfl⟩
  | _ => exact ⟨rfl, rfl⟩

/-- A frame changes the entry of no connection but the one that it closes. -/
theorem ReceiveRule.others {frame : RelayFrame} (h : ReceiveRule cfg s frame s')
    {c : ConnectionId} (hc : frame.close? ≠ some c) :
    s'.agent.active_connections.lookup c = s.agent.active_connections.lookup c := by
  cases h with
  | @closes c' _ hclose =>
    have hne : c ≠ c' := by
      rintro rfl
      exact hc hclose
    exact AList.lookup_erase_ne hne
  | _ => rfl

/-- The main task stays in the loop unless a websocket operation, a frame or a drain raises. -/
theorem MainRule.inLoop {main : AgentMain} (h : MainRule cfg s main o s') (hmain : s.main = main)
    (hin : main.inLoop = true) (hworks : RelayWorks cfg s (.main o) = true)
    (hcaught : DrainCaught s (.main o) = true) :
    s'.main.inLoop = true ∧ s'.session = s.session := by
  cases h with
  | receives h =>
    refine h.inLoop ?_
    simpa [RelayWorks, hmain] using hworks
  | lost => simp [RelayWorks, hmain] at hworks
  | unstarted hm => obtain rfl | rfl := hm <;> cases hin
  | unsent hm => obtain rfl | rfl := hm <;> simp [RelayWorks, hmain] at hworks
  | missing hc => simp [DrainCaught, hmain, hc] at hcaught
  | undrained he => simp [DrainCaught, hmain, he] at hcaught
  | fails hm => obtain rfl | rfl := hm <;> cases hin
  | opened | unopened | answered | unanswered | goesOn | reset => exact ⟨rfl, rfl⟩
  | _ => cases hin

/-- A frame that closes a connection names it. -/
theorem mem_connection_id? {frame : RelayFrame} {c : ConnectionId} (h : frame.close? = some c) :
    frame.connection_id? = some c := by
  unfold RelayFrame.close? at h
  split at h
  · exact h
  · cases h

/-- A step of the loop changes the entry of no connection but the one that it is about. -/
theorem MainRule.others {main : AgentMain} (h : MainRule cfg s main o s') (hmain : s.main = main)
    (hin : main.inLoop = true) {c : ConnectionId} (hc : s.subject o ≠ some c) :
    s'.agent.active_connections.lookup c = s.agent.active_connections.lookup c := by
  cases h with
  | receives h =>
    refine h.others fun hclose => hc ?_
    simp [AgentState.subject, hmain, mem_connection_id? hclose]
  | @opened request =>
    have hne : c ≠ request.connection_id := by
      rintro rfl
      simp [AgentState.subject, hmain] at hc
    simp [AgentState.connectionOpened, AList.lookup_insert_ne hne]
  | @reset c' =>
    have hne : c ≠ c' := by
      rintro rfl
      simp [AgentState.subject, hmain] at hc
    exact AList.lookup_erase_ne hne
  | refused | leaves => cases hin
  | _ => rfl

/-- A drain that is caught removes its connection and closes its writer. -/
theorem MainRule.drainFailed (hS : Sockets s) {c : ConnectionId} {n : ℕ} {error : AgentExc}
    {text : String} (h : MainRule cfg s (.draining c n) (.raised error text) s')
    (hmain : s.main = .draining c n)
    (hcaught : DrainCaught s (.main (.raised error text)) = true) :
    c ∉ s'.agent.active_connections ∧ (s'.agent.writer n).any (·.closed) = true := by
  obtain ⟨request, ⟨w, hw, -⟩, -⟩ := hS.draining c n hmain
  cases h with
  | reset => exact ⟨by simp, by simp [hw]⟩
  | missing hc => simp [DrainCaught, hmain, hc] at hcaught
  | undrained he => simp [DrainCaught, hmain, he] at hcaught
  | goesOn hm => simp at hm
  | unstarted hm | unsent hm | fails hm => simp at hm

/-- Where the caught failures are the only ones, the step is contained. -/
theorem contained_of_caught (hS : Sockets s) (h : MainRule cfg s s.main o s')
    (hin : s.main.inLoop = true) (hworks : RelayWorks cfg s (.main o) = true)
    (hcaught : DrainCaught s (.main o) = true) : Contained s o s' where
  inLoop := (h.inLoop rfl hin hworks hcaught).1
  session := (h.inLoop rfl hin hworks hcaught).2
  failed c n error text hmain ho := by
    subst ho
    rw [hmain] at h
    exact h.drainFailed hS hmain hcaught
  unopened request error text hmain ho := by
    subst ho
    rw [hmain] at h
    cases h with
    | unopened => rfl
    | goesOn hm | unstarted hm | unsent hm | fails hm => simp at hm
  others c hc := h.others rfl hin hc

/-- A drain that is not caught takes the main task out of the loop. -/
theorem caught_of_contained (h : MainRule cfg s s.main o s') (hcontained : Contained s o s') :
    DrainCaught s (.main o) = true := by
  have hin := hcontained.inLoop
  cases o with
  | raised error text =>
    simp only [DrainCaught]
    split
    case h_1 c n hmain =>
      rw [hmain] at h
      cases h with
      | reset hc => simp [hc]
      | missing | undrained => cases hin
      | goesOn hm | unstarted hm | unsent hm | fails hm => simp at hm
    case h_2 => rfl
  | _ => rfl

/-! ## Runs -/

/-- A session of the agent whose websocket works goes on as long as each drain that fails raises a
`ConnectionResetError` and finds its entry; and a resumption of its main task is contained exactly
then. -/
theorem failures_contained (cfg : AgentConfig) (s : AgentState)
    (h : Reaches (agentStep cfg) (fun _ _ => True) {} s) (hin : s.main.inLoop = true) :
    (∀ s', Reaches (agentStep cfg) (fun s e => RelayWorks cfg s e ∧ DrainCaught s e) s s' →
      s'.main.inLoop = true ∧ s'.session = s.session) ∧
    ∀ o s', RelayWorks cfg s (.main o) = true → agentStep cfg s (.main o) = some s' →
      (Contained s o s' ↔ DrainCaught s (.main o) = true) := by
  constructor
  · intro s' hrun
    refine hrun.invariant (I := fun s' => s'.main.inLoop = true ∧ s'.session = s.session)
      ⟨hin, rfl⟩ ?_
    rintro s₁ e s₂ - ⟨hworks, hcaught⟩ hs ⟨hin₁, hsession⟩
    have hrule := agentStep_rule hs
    by_cases he : ∃ o, e = .main o
    · obtain ⟨o, rfl⟩ := he
      cases hrule with
      | main hrule =>
        obtain ⟨hin₂, hsame⟩ := hrule.inLoop rfl hin₁ hworks hcaught
        exact ⟨hin₂, hsame.trans hsession⟩
    · obtain ⟨hmain, hsame⟩ := hrule.main_same fun o ho => he ⟨o, ho⟩
      exact ⟨hmain ▸ hin₁, hsame.trans hsession⟩
  · intro o s' hworks hs
    cases agentStep_rule hs with
    | main hrule =>
      exact ⟨caught_of_contained hrule, contained_of_caught (sockets h) hrule hin hworks⟩

/-- Two connections are open, and the agent has written to the first, whose transport is full. -/
def twoTargets : List AgentEvent :=
  startAgent ++ openSocket (someTarget "a") ++ openSocket (someTarget "b") ++
    [.main (.frame (.text (some (.tcpData "a" "")) false))]

/-- The state in which the write is being drained. -/
def drainingTarget : AgentState :=
  (run (agentStep plainAgent) {} twoTargets).get (by decide +kernel)

/-- The target resets the connection: its entry goes, and the session goes on. -/
theorem drainingTarget_contained :
    ∃ s', agentStep plainAgent drainingTarget (.main (.raised .connectionResetError "")) = some s' ∧
      Contained drainingTarget (.raised .connectionResetError "") s' := by
  have hreach : Reaches (agentStep plainAgent) (fun _ _ => True) {} drainingTarget :=
    Reaches.init.of_run (fun _ _ _ => trivial) (Option.some_get _).symm
  obtain ⟨-, hsteps⟩ := failures_contained plainAgent drainingTarget hreach (by decide +kernel)
  obtain ⟨s', hs'⟩ : ∃ s', agentStep plainAgent drainingTarget
      (.main (.raised .connectionResetError "")) = some s' :=
    Option.isSome_iff_exists.mp (by decide +kernel)
  exact ⟨s', hs', (hsteps _ s' (by decide +kernel) hs').mpr (by decide +kernel)⟩

/-- While the write is being drained, the target ends its stream, and the reader removes the
entry. -/
def removedTarget : AgentState :=
  (run (agentStep plainAgent) {} (twoTargets ++ [.reader 0 (.data [])])).get (by decide +kernel)

/-- The drain then raises a `ConnectionResetError`, the `del` a `KeyError`, and the session of the
other connection ends. -/
theorem removedTarget_not_contained :
    ¬ ∀ cfg s o s', Reaches (agentStep cfg) (fun _ _ => True) {} s → s.main.inLoop = true →
      RelayWorks cfg s (.main o) = true → agentStep cfg s (.main o) = some s' →
        Contained s o s' := by
  intro h
  have hreach : Reaches (agentStep plainAgent) (fun _ _ => True) {} removedTarget :=
    Reaches.init.of_run (fun _ _ _ => trivial) (Option.some_get _).symm
  obtain ⟨s', hs'⟩ : ∃ s', agentStep plainAgent removedTarget
      (.main (.raised .connectionResetError "")) = some s' :=
    Option.isSome_iff_exists.mp (by decide +kernel)
  have hcontained := h plainAgent removedTarget (.raised .connectionResetError "") s' hreach
    (by decide +kernel) (by decide +kernel) hs'
  cases agentStep_rule hs' with
  | main hrule => exact absurd (caught_of_contained hrule hcontained) (by decide +kernel)

end HttpNetworkRelay
