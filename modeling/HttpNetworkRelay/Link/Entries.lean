import HttpNetworkRelay.Agent.Containment
import HttpNetworkRelay.Link.Flow

/-!
# The entries of the agent

What becomes of the entry of a connection that the agent has answered. It stays in
`active_connections` until the agent has sent its reset, has received its close message, or has left
the session (`Entries`). Where no close message comes before the request for its connection, none
is outlived by the entry (`not_entered`).
-/

namespace HttpNetworkRelay

open Asyncio Python AgentState

variable {cfg : RelayConfig} {acfg : AgentConfig} {s s' : AgentState} {e : AgentEvent}
  {a a' : EdgeAgent} {c : ConnectionId} {frame : AgentFrame} {l : List AgentShown}

/-! ## What the agent sends -/

/-- The answer that a connection is open. -/
abbrev okFrame (connection_id : ConnectionId) : AgentFrame :=
  .text { known := some (.initiateConnectionOK connection_id) }

/-- The open connection that a message of the agent is about. -/
def EdgeAgentToRelayMessage.subject? : EdgeAgentToRelayMessage → Option ConnectionId
  | .initiateConnectionOK c | .tcpData c _ | .connectionReset _ c => some c
  | _ => none

/-- A socket was opened for the connection. -/
def EdgeAgent.Served (a : EdgeAgent) (c : ConnectionId) : Prop :=
  ∃ n request, a.Opened n request ∧ request.connection_id = c

/-- A frame that the agent can have sent: data of a socket, or a message that is about an open
connection if it is about any. -/
inductive FromAgent (a : EdgeAgent) : AgentFrame → Prop
  | text {message} (hserved : ∀ c, message.subject? = some c → a.Served c) :
      FromAgent a (.text { known := some message })
  | chunk {c payload data} (hserved : a.Served c)
      (hframe : encode_tcp_binary_frame c payload = .ok data) : FromAgent a (.bytes data)

/-- A connection that has been served stays served. -/
theorem EdgeAgent.Served.keeps (h : a.Served c) (hkeeps : Keeps a a') : a'.Served c := by
  obtain ⟨n, request, hopened, hid⟩ := h
  exact ⟨n, request, hopened.keeps hkeeps, hid⟩

namespace FromAgent

/-- What the agent can have sent it can still have sent after a step. -/
theorem keeps (h : FromAgent a frame) (hkeeps : Keeps a a') : FromAgent a' frame := by
  cases h with
  | text hserved => exact .text fun c hc => (hserved c hc).keeps hkeeps
  | chunk hserved hframe => exact .chunk (hserved.keeps hkeeps) hframe

/-- A reset that the agent has sent is of a connection it has served. -/
theorem of_reset (h : FromAgent a frame) (hreset : frame.reset? = some c) : a.Served c := by
  cases h with
  | @text message hserved =>
    cases message with
    | connectionReset text c' =>
      obtain rfl : c' = c := Option.some.inj hreset
      exact hserved c' rfl
    | _ => cases hreset
  | chunk => cases hreset

/-- An answer that the agent has sent is of a connection it has served. -/
theorem of_ok (h : FromAgent a (okFrame c)) : a.Served c := by
  cases h with
  | text hserved => exact hserved c rfl

/-- The relay does not stumble over what an agent sends for ids as `uuid4` makes them. -/
theorem not_malformed (h : FromAgent a frame) (hcanonical : ∀ c, a.Served c → canonical c = true) :
    frame.malformed cfg = false := by
  cases h with
  | text => rfl
  | @chunk c payload data hserved hframe =>
    have hdecode := decode_of_encode (hcanonical c hserved) hframe
    unfold decode_tcp_binary_frame at hdecode
    split_ifs at hdecode with hlength
    simpa [AgentFrame.malformed] using hlength

end FromAgent

/-- A step sends at most one frame in the first session. Where it is the answer that a connection is
open, the connection has just been entered. -/
def SendsOne (s s' : AgentState) : Prop :=
  s'.agent.to_relay 0 = s.agent.to_relay 0 ∨
    ∃ frame, FromAgent s'.agent frame ∧
      (∀ c, frame = okFrame c → c ∈ s'.agent.active_connections) ∧
      s'.agent.to_relay 0 = s.agent.to_relay 0 ++ [frame]

/-- The step is a `send` of the frame. -/
theorem SendsOne.send {session : ℕ} (hto : a.to_relay = s.agent.to_relay)
    (hs' : s'.agent = a.send session frame) (hframe : FromAgent s'.agent frame)
    (hok : ∀ c, frame = okFrame c → c ∈ s'.agent.active_connections) : SendsOne s s' := by
  rcases eq_or_ne session 0 with rfl | hsession
  · refine .inr ⟨frame, hframe, hok, ?_⟩
    rw [hs']
    simp [hto]
  · refine .inl ?_
    rw [hs']
    simp [hto, hsession.symm]

/-- A socket that was opened serves the connection it was requested for. -/
theorem EdgeAgent.Opened.served {n : ℕ} {request : OpenRequest} (h : a.Opened n request) :
    a.Served request.connection_id :=
  ⟨n, request, h, rfl⟩

/-- A message about no open connection can always be sent. -/
theorem FromAgent.of_none {message : EdgeAgentToRelayMessage} (h : message.subject? = none) :
    FromAgent a (.text { known := some message }) :=
  .text fun c hc => by rw [h] at hc; cases hc

/-- A step of `async_main` sends at most one frame, which is one that the agent can send. -/
theorem MainRule.sends_one (hS : Sockets s) {o : AgentOutcome} (h : MainRule acfg s s.main o s') :
    SendsOne s s' := by
  -- An error answer, the start message and the like name no answered connection.
  have hplain : ∀ {main : AgentMain} {message : EdgeAgentToRelayMessage},
      message.subject? = none → SendsOne s (s.sendAndPark message main) := by
    intro main message hnone
    refine .send (a := s.agent) rfl rfl (.of_none hnone) ?_
    rintro c heq
    obtain rfl : message = .initiateConnectionOK c := by simpa using heq
    cases hnone
  generalize hmain : s.main = main at h
  cases h with
  | starts => exact hplain rfl
  | unopened | unanswered => exact hplain rfl
  | receives h =>
    cases h with
    | unsupported => exact hplain rfl
    | _ => exact .inl rfl
  -- The entry is made in the step that answers the request.
  | @opened request =>
    refine .send (a := s.agent.opened request) rfl rfl (.text fun c hc => ?_) ?_
    · obtain rfl : request.connection_id = c := Option.some.inj hc
      exact EdgeAgent.Opened.served (Sockets.of_opened request)
    · intro c heq
      obtain rfl : request.connection_id = c := by simpa using heq
      simp [AgentState.connectionOpened]
  -- The socket that failed was opened for a request.
  | @reset c n text =>
    refine .send (a := (s.agent.close n).remove c) rfl rfl (.text fun c' hc => ?_)
      (fun c' heq => by simp at heq)
    obtain rfl : c = c' := Option.some.inj hc
    obtain ⟨request, hopened, hid⟩ := hS.draining c n hmain
    exact EdgeAgent.Served.keeps ⟨n, request, hopened, hid⟩
      ((Keeps.close _ _).trans (.of_eq rfl rfl))
  | _ => exact .inl rfl

/-- A step of a reader sends at most one frame, which is one that the agent can send. -/
theorem ReadRule.sends_one (hS : Sockets s) {n : ℕ} {task : ReadTask} {o : AgentOutcome}
    (htask : s.reader n = some task) (h : ReadRule s n task o s') : SendsOne s s' := by
  -- A reader reads from a socket that was opened for a request.
  have hserved : s.agent.Served task.request.connection_id := (hS.reader n task htask).served
  cases h with
  | @sends data frame hpoint hdata hframe =>
    refine .send (a := s.agent) rfl rfl ?_ ?_
    · unfold chunkFrame at hframe
      split_ifs at hframe
      · cases hencode : encode_tcp_binary_frame task.request.connection_id data with
        | ok bytes =>
          rw [hencode] at hframe
          obtain rfl := Except.ok.inj hframe
          exact .chunk (EdgeAgent.Served.keeps hserved (.of_eq rfl rfl)) hencode
        | error error =>
          rw [hencode] at hframe
          cases hframe
      · obtain rfl := Except.ok.inj hframe
        refine .text fun c hc => ?_
        obtain rfl : task.request.connection_id = c := Option.some.inj hc
        exact EdgeAgent.Served.keeps hserved (.of_eq rfl rfl)
    · rintro c rfl
      unfold chunkFrame at hframe
      split_ifs at hframe
      · cases hencode : encode_tcp_binary_frame task.request.connection_id data with
        | ok bytes =>
          rw [hencode] at hframe
          cases hframe
        | error error =>
          rw [hencode] at hframe
          cases hframe
      · simp at hframe
  | sent | finishes => exact .inl rfl
  | ends =>
    refine .send (a := (s.agent.close n).remove task.request.connection_id) rfl rfl
      (.text fun c hc => ?_) (fun c heq => by simp at heq)
    obtain rfl : task.request.connection_id = c := Option.some.inj hc
    exact EdgeAgent.Served.keeps hserved ((Keeps.close _ _).trans (.of_eq rfl rfl))

/-- A step of the agent sends at most one frame, which is one that it can send. -/
theorem AgentRule.sends_one (hS : Sockets s) (h : AgentRule acfg s e s') : SendsOne s s' := by
  cases h with
  | main h => exact h.sends_one hS
  | keepAlive => exact .inl rfl
  | keepsAlive =>
    exact .send (a := s.agent) rfl rfl (.of_none rfl) (fun c heq => by simp at heq)
  | reader htask h => exact h.sends_one hS htask

/-- What was sent in the first session has been sent. -/
theorem SendsOne.grows (h : SendsOne s s') : s.agent.to_relay 0 <+: s'.agent.to_relay 0 := by
  rcases h with heq | ⟨frame, -, -, heq⟩
  · rw [heq]
  · rw [heq]
    exact List.prefix_append _ _

/-! ## An answered connection -/

/-- No close message comes before the request for its connection. -/
def ClosedAfter (frames : List RelayFrame) : Prop :=
  ∀ l₁ frame l₂ c, frames = l₁ ++ frame :: l₂ → frame.asks? = some c → ∀ f ∈ l₁, f.close? ≠ some c

/-- Where close messages come after their requests, they do so in an initial part too. -/
theorem ClosedAfter.of_append {frames frames' : List RelayFrame}
    (h : ClosedAfter (frames ++ frames')) : ClosedAfter frames := by
  rintro l₁ frame l₂ c rfl
  exact h l₁ frame (l₂ ++ frames') c (by simp)

/-- The agent has ended the connection, or has been told to. -/
def Released (s : AgentState) (l : List AgentShown) (c : ConnectionId) : Prop :=
  (∃ frame ∈ s.agent.to_relay 0, frame.reset? = some c) ∨
    (∃ frame ∈ framesOf l, frame.close? = some c) ∨ s.gone = true

/-- What is known of the entries in the first session. -/
structure Entries (s : AgentState) (l : List AgentShown) : Prop where
  first : FirstSession s
  readers : ∀ n task, s.reader n = some task → task.session = 0
  sent : ∀ frame ∈ s.agent.to_relay 0, FromAgent s.agent frame
  answered : ∀ c, okFrame c ∈ s.agent.to_relay 0 →
    c ∈ s.agent.active_connections ∨ Released s l c
  left : s.main.inLoop = false → (∀ error, s.main ≠ .leaving error) →
    s.agent.active_connections = ∅

/-- What has released an entry stays so as the run goes on. -/
theorem Released.later {shown : List AgentShown} (h : Released s l c)
    (hto : s.agent.to_relay 0 <+: s'.agent.to_relay 0) (hgone : s.gone = true → s'.gone = true) :
    Released s' (l ++ shown) c := by
  rcases h with ⟨frame, hframe, hreset⟩ | ⟨frame, hframe, hclose⟩ | hs
  · exact .inl ⟨frame, hto.subset hframe, hreset⟩
  · refine .inr (.inl ⟨frame, ?_, hclose⟩)
    rw [framesOf_append]
    exact List.mem_append_left _ hframe
  · exact .inr (.inr (hgone hs))

namespace Entries

/-- At the start no connection is answered. -/
theorem initial : Entries {} [] where
  first h := absurd rfl h
  readers _ _ h := by cases h
  sent _ h := by cases h
  answered _ h := by cases h
  left _ _ := rfl

section
variable (hE : Entries s l) (hS : Sockets s) (hown : OwnEvent s e)
  (hstep : agentStep acfg s e = some s')
include hE hS hown hstep

omit hS in
/-- The main task runs in the first session. -/
theorem main_session {o : AgentOutcome} (he : e = .main o) : s.session = 0 := by
  subst he
  by_contra hne
  have hmain := hE.first hne
  rcases hown with hown | ⟨frame, hframe⟩
  · cases o <;> simp [AgentEvent.own, hne] at hown
  · obtain rfl : o = .frame frame := by simpa using hframe
    cases agentStep_rule hstep with
    | main h =>
      rw [hmain] at h
      cases h with
      | goesOn h => simp at h

omit hS in
/-- The readers are those of the first session. -/
theorem readers_step {n : ℕ} {task' : ReadTask} (htask' : s'.reader n = some task') :
    task'.session = 0 := by
  cases agentStep_rule hstep with
  | main h =>
    have hsession := hE.main_session hown hstep rfl
    generalize s.main = main at h
    cases h with
    | receives h => cases h <;> exact hE.readers n task' htask'
    -- The reader is started by the session that has answered.
    | @answered request m =>
      rcases eq_or_ne n m with rfl | hn
      · obtain rfl : ({ request, session := s.session } : ReadTask) = task' := by
          simpa using htask'
        exact hsession
      · exact hE.readers n task' (by simpa [hn] using htask')
    | _ => exact hE.readers n task' htask'
  | keepAlive | keepsAlive => exact hE.readers n task' htask'
  | @reader m _ task _ htask h =>
    rcases eq_or_ne n m with rfl | hn
    · have hsession := hE.readers n task htask
      cases h with
      | sends | sent | ends | finishes =>
        obtain rfl : _ = task' := by simpa [AgentState.readEnds] using htask'
        exact hsession
    · refine hE.readers n task' ?_
      cases h <;> simpa [AgentState.readEnds, hn] using htask'

omit hS in
/-- An entry that goes is released. -/
theorem removed_step (hc : c ∈ s.agent.active_connections)
    (hc' : c ∉ s'.agent.active_connections) : Released s' (l ++ s.shows acfg e) c := by
  -- Removing one id leaves all others.
  have herase : ∀ {c' : ConnectionId} {a : EdgeAgent},
      a.active_connections = s.agent.active_connections →
      c ∉ (a.remove c').active_connections → c = c' := by
    intro c' a ha hnot
    by_contra hne
    exact hnot (by simpa [hne, ha] using hc)
  by_cases hframe : ∃ frame, e = .main (.frame frame)
  · obtain ⟨frame, rfl⟩ := hframe
    obtain ⟨n, hn⟩ := Option.isSome_iff_exists.mp (AList.lookup_isSome.mpr hc)
    have hclose := (receive_of_frame hstep).closed hn hc'
    refine .inr (.inl ⟨frame, ?_, hclose⟩)
    rw [framesOf_append, framesOf_frame]
    simp
  · -- Without a frame, it goes with a reset of the agent or at the end of the session.
    cases agentStep_rule hstep with
    | main h =>
      have hsession := hE.main_session hown hstep rfl
      generalize hmain : s.main = main at h
      cases h with
      | receives => exact absurd ⟨_, rfl⟩ hframe
      | opened =>
        refine absurd ?_ hc'
        simp [AgentState.connectionOpened, hc]
      | @reset c₁ n text =>
        obtain rfl : c = c₁ := herase (a := s.agent.close n) rfl hc'
        refine .inl ⟨.text { known := some (.connectionReset
          "Connection reset while writing data" c) }, ?_, rfl⟩
        simp [hsession]
      | refused | leaves =>
        refine .inr (.inr ?_)
        unfold AgentState.gone AgentState.disconnected
        cases s.agent.websocket <;> rfl
      | _ => exact absurd hc hc'
    | keepAlive | keepsAlive => exact absurd hc hc'
    | @reader n _ task _ htask h =>
      have hsession := hE.readers n task htask
      cases h with
      | ends =>
        obtain rfl : c = task.request.connection_id := herase (a := s.agent.close n) rfl hc'
        refine .inl ⟨.text { known := some (.connectionReset "Connection closed by target"
          task.request.connection_id) }, ?_, rfl⟩
        simp [AgentState.readEnds, hsession]
      | _ => exact absurd hc hc'

/-- An answered connection keeps its entry until it is released. -/
theorem answered_step (hc : okFrame c ∈ s'.agent.to_relay 0) :
    c ∈ s'.agent.active_connections ∨ Released s' (l ++ s.shows acfg e) c := by
  have hsends := (agentStep_rule hstep).sends_one hS
  -- An answer that was sent before keeps its entry, or the step releases it.
  have hkept : okFrame c ∈ s.agent.to_relay 0 →
      c ∈ s'.agent.active_connections ∨ Released s' (l ++ s.shows acfg e) c := by
    intro hold
    rcases hE.answered c hold with hin | hreleased
    · by_cases hin' : c ∈ s'.agent.active_connections
      · exact .inl hin'
      · exact .inr (hE.removed_step hown hstep hin hin')
    · exact .inr (hreleased.later hsends.grows (hE.first.step hown hstep).2)
  rcases hsends with heq | ⟨frame, -, hok, heq⟩
  · rw [heq] at hc
    exact hkept hc
  · rw [heq, List.mem_append, List.mem_singleton] at hc
    rcases hc with hold | rfl
    · exact hkept hold
    · exact .inl (hok c rfl)

omit hown in
/-- A step sends what the agent can send. -/
theorem sent_step (hframe : frame ∈ s'.agent.to_relay 0) : FromAgent s'.agent frame := by
  have hrule := agentStep_rule hstep
  have hkept : frame ∈ s.agent.to_relay 0 → FromAgent s'.agent frame := fun hold =>
    (hE.sent frame hold).keeps (hrule.keeps hS.unopened)
  rcases hrule.sends_one hS with heq | ⟨new, hnew, -, heq⟩
  · rw [heq] at hframe
    exact hkept hframe
  · rw [heq, List.mem_append, List.mem_singleton] at hframe
    rcases hframe with hold | rfl
    · exact hkept hold
    · exact hnew

omit hS hown in
/-- An agent that has left its receive loop, and is not on the way out of it, has no entries. -/
theorem left_step (hout : s'.main.inLoop = false) (hleft : ∀ error, s'.main ≠ .leaving error) :
    s'.agent.active_connections = ∅ := by
  cases agentStep_rule hstep with
  | main h =>
    -- On the way out `closeAll` has emptied the table, and nothing enters it outside of the loop.
    have hbefore := hE.left
    generalize s.main = main at h hbefore
    cases h with
    | refused | leaves => simp [AgentState.disconnected]
    | receives h =>
      cases h with
      | rejects => exact absurd rfl (hleft _)
      | ignores _ _ _ _ hmain => rcases hmain with rfl | rfl <;> cases hout
      | _ => cases hout
    | connects | starts => exact hbefore rfl (by simp)
    | disconnects | restarts => exact hbefore rfl (by simp)
    | fails hmain => rcases hmain with rfl | rfl <;> exact hbefore rfl (by simp)
    | unstarted | lost | unsent | missing | undrained => exact absurd rfl (hleft _)
    | _ => cases hout
  | keepAlive | keepsAlive => exact hE.left hout hleft
  | @reader n _ task _ htask h =>
    have hmain : s'.main = s.main := by cases h <;> rfl
    rw [hmain] at hout hleft
    have hempty := hE.left hout hleft
    cases h with
    | ends =>
      show s.agent.active_connections.erase task.request.connection_id = ∅
      rw [hempty]
      exact AList.ext rfl
    | _ => exact hempty

/-- A step keeps what the entries are. -/
theorem preserved : Entries s' (l ++ s.shows acfg e) where
  first := (hE.first.step hown hstep).1
  readers _ _ := hE.readers_step hown hstep
  sent _ := hE.sent_step hS hstep
  answered _ := hE.answered_step hS hown hstep
  left := hE.left_step hstep

end

end Entries

/-- What the entries are in every run of the first session. -/
theorem entries (h : Traced (agentStep acfg) OwnEvent (AgentState.shows acfg) {} s l) :
    Entries s l :=
  h.invariant .initial fun _ _ _ _ ht hown hstep hE =>
    hE.preserved (sockets ht.reaches) hown hstep

/-! ## An entry and its close message -/

/-- A close is no request, and the agent does not stumble over it. -/
theorem RelayFrame.of_close? (acfg : AgentConfig) {frame : RelayFrame}
    (h : frame.close? = some c) : frame.request? = none ∧ frame.malformed acfg = false := by
  match frame with
  | .text (some (.connectionClose _ _)) _ => exact ⟨rfl, rfl⟩
  | .bytes _ | .text (some (.tcpData _ _)) _ | .text (some (.initiateConnection ..)) _
  | .text (some .keepAlive) _ | .text none _ => cases h

/-- A connection whose close message has been received is not entered, and no socket is being opened
for it. -/
theorem not_entered (h : Traced (agentStep acfg) OwnEvent (AgentState.shows acfg) {} s l)
    (hafter : ClosedAfter (framesOf l)) :
    ∀ frame ∈ framesOf l, ∀ c, frame.close? = some c → c ∉ s.agent.active_connections ∧
      ∀ request, s.main = .opening request → request.connection_id ≠ c := by
  refine h.invariant (I := fun s l => ClosedAfter (framesOf l) → ∀ frame ∈ framesOf l, ∀ c,
    frame.close? = some c → c ∉ s.agent.active_connections ∧
      ∀ request, s.main = .opening request → request.connection_id ≠ c)
    (fun _ _ hmem => by cases hmem) ?_ hafter
  intro s e s' l ht hown hstep hI hafter frame hframe c hclose
  have hrule := agentStep_rule hstep
  rw [framesOf_append] at hafter hframe
  have hI := hI hafter.of_append
  -- A close message that was received before: no request for its connection comes after it.
  have hold : frame ∈ framesOf l → c ∉ s'.agent.active_connections ∧
      ∀ request, s'.main = .opening request → request.connection_id ≠ c := by
    intro hmem
    obtain ⟨hnot, hopening⟩ := hI frame hmem c hclose
    constructor
    · intro hin
      obtain ⟨n, hn⟩ := Option.isSome_iff_exists.mp (AList.lookup_isSome.mpr hin)
      rcases hrule.lookup hn with hn | ⟨request, -, hmain, hid, -⟩
      · exact hnot (AList.lookup_isSome.mp (by rw [hn]; rfl))
      · exact hopening request hmain hid
    · rintro request hmain rfl
      by_cases hrun : ∃ o, e = .main o
      · obtain ⟨o, rfl⟩ := hrun
        cases hrule with
        | main h =>
          -- The request comes after the close message.
          obtain ⟨asking, rfl, hrequest, -⟩ := h.opening hmain
          rw [framesOf_frame] at hafter
          have hasks : asking.asks? = some request.connection_id := by
            simp [RelayFrame.asks?, hrequest]
          exact hafter _ _ [] _ rfl hasks frame hmem hclose
      · rw [(hrule.main_same fun o ho => hrun ⟨o, ho⟩).1] at hmain
        exact hopening request hmain rfl
  rw [List.mem_append] at hframe
  rcases hframe with hmem | hnew
  · exact hold hmem
  · by_cases hreceived : ∃ frame, e = .main (.frame frame)
    · obtain ⟨frame, rfl⟩ := hreceived
      rw [framesOf_frame, List.mem_singleton] at hnew
      subst hnew
      cases receive_of_frame hstep with
      -- The message takes the entry away.
      | @closes c' n hclose' hn =>
        obtain rfl : c' = c := Option.some.inj (hclose'.symm.trans hclose)
        exact ⟨by simp, by simp⟩
      -- There was no entry to take away.
      | ignores _ _ _ hnone hmain =>
        refine ⟨fun hin => ?_, ?_⟩
        · have hin : c ∈ s.agent.active_connections := hin
          rw [← AList.lookup_isSome, hnone c hclose] at hin
          cases hin
        · rcases hmain with rfl | rfl <;> simp
      | writes hdata =>
        rw [(RelayFrame.of_data? hdata).2] at hclose
        cases hclose
      | opens hrequest | unsupported hrequest =>
        rw [(RelayFrame.of_close? acfg hclose).1] at hrequest
        cases hrequest
      | rejects hbad =>
        rw [(RelayFrame.of_close? acfg hclose).2] at hbad
        cases hbad
    · rw [framesOf_other fun frame he => hreceived ⟨frame, he⟩] at hnew
      cases hnew

end HttpNetworkRelay
