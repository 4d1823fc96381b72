import HttpNetworkRelay.Agent.Sent
import HttpNetworkRelay.Link.Entries
import HttpNetworkRelay.Relay.Stream

/-!
# What an agent says in a session

The messages that an agent sends on one websocket follow a grammar: the start message comes first
and only first, the data and the reset of a connection come after the answer that it is open, and
when the target has closed it, the reset is the last word about it. `agent_grammatical` proves this
of every session of every run, although the tasks that send are started in earlier sessions too and
outlive theirs.
-/

namespace HttpNetworkRelay

open Asyncio Python AgentState

variable {acfg : AgentConfig} {s s' : AgentState} {e : AgentEvent} {c : ConnectionId}
  {frame : AgentFrame} {frames : List AgentFrame} {l : List AgentShown}
  {ok : AgentState → AgentEvent → Prop}

/-! ## The grammar -/

/-- The frame is a start message. -/
def AgentFrame.isStart : AgentFrame → Bool
  | .text ⟨some (.start _), _⟩ => true
  | _ => false

/-- The open connection whose data or reset the frame is. -/
def AgentFrame.about? (frame : AgentFrame) : Option ConnectionId :=
  (frame.data?.map Prod.fst).or frame.reset?

/-- The reset of a connection whose stream from the target has ended. -/
abbrev closedFrame (connection_id : ConnectionId) : AgentFrame :=
  .text { known := some (.connectionReset "Connection closed by target" connection_id) }

/-- The frames of one session. -/
structure Grammatical (frames : List AgentFrame) : Prop where
  first : ∀ frame ∈ frames.head?, frame.isStart = true
  only : ∀ frame ∈ frames.tail, frame.isStart = false
  opened : ∀ l₁ frame l₂ c, frames = l₁ ++ frame :: l₂ → frame.about? = some c → okFrame c ∈ l₁
  last : ∀ l₁ l₂ c, frames = l₁ ++ closedFrame c :: l₂ → ∀ frame ∈ l₂, frame.named? ≠ some c

namespace Grammatical

/-- A session that has said nothing is grammatical. -/
theorem nil : Grammatical [] where
  first _ h := by cases h
  only _ h := by cases h
  opened l₁ frame l₂ c h := by simp at h
  last l₁ l₂ c h := by simp at h

/-- A session that has said its start message is grammatical. -/
theorem start (message : EtRStartMessage) :
    Grammatical [.text { known := some (.start message) }] where
  first frame h := by
    obtain rfl := Option.some.inj h
    rfl
  only _ h := by cases h
  opened l₁ frame l₂ c h hc := by
    obtain ⟨rfl, rfl, rfl⟩ :
        l₁ = [] ∧ frame = .text { known := some (.start message) } ∧ l₂ = [] := by
      simpa [List.singleton_eq_append_iff, and_assoc] using h
    cases hc
  last l₁ l₂ c h := by
    simp [List.singleton_eq_append_iff] at h

/-- What may come next. -/
theorem snoc (h : Grammatical frames) (hbegun : frames ≠ []) (hstart : frame.isStart = false)
    (hopened : ∀ c, frame.about? = some c → okFrame c ∈ frames)
    (hlast : ∀ c, closedFrame c ∈ frames → frame.named? ≠ some c) :
    Grammatical (frames ++ [frame]) where
  first first hfirst := by
    rw [List.head?_append_of_ne_nil _ hbegun] at hfirst
    exact h.first first hfirst
  only other hother := by
    rw [List.tail_append_of_ne_nil hbegun] at hother
    rcases List.mem_append.mp hother with hother | hother
    · exact h.only other hother
    · obtain rfl := List.mem_singleton.mp hother
      exact hstart
  opened l₁ other l₂ c hsplit hc := by
    -- Either the frame in question is the new last one, or it was there before.
    rcases split_concat hsplit with ⟨rfl, rfl, rfl⟩ | ⟨l₃, rfl, hframes⟩
    · exact hopened c hc
    · exact h.opened l₁ other l₃ c hframes hc
  last l₁ l₂ c hsplit other hother := by
    rcases split_concat hsplit with ⟨rfl, -, rfl⟩ | ⟨l₃, rfl, hframes⟩
    · cases hother
    · rcases List.mem_append.mp hother with hother | hother
      · exact h.last l₁ l₃ c hframes other hother
      · obtain rfl := List.mem_singleton.mp hother
        exact hlast c (by rw [hframes]; simp)

end Grammatical

/-! ## Chunks -/

/-- A chunk for a connection of the relay is sent, in a frame that carries it. -/
theorem chunkFrame_data? {request : OpenRequest} (h : canonical request.connection_id = true)
    (data : Bytes) : ∃ frame, chunkFrame request data = .ok frame ∧
      frame.data? = some (request.connection_id, data) := by
  unfold chunkFrame
  split_ifs with hbinary
  · obtain ⟨bytes, hbytes⟩ := encode_tcp_binary_frame_ok h data
    refine ⟨.bytes bytes, by rw [hbytes]; rfl, ?_⟩
    simp [AgentFrame.data?, decode_of_encode h hbytes, Except.toOption]
  · exact ⟨_, rfl, by simp [AgentFrame.data?, Except.toOption]⟩

/-- A chunk is sent as data. -/
theorem chunkFrame_shape {request : OpenRequest} {data : Bytes}
    (h : chunkFrame request data = .ok frame) :
    (∃ bytes, frame = .bytes bytes) ∨
      ∃ data_base64,
        frame = .text { known := some (.tcpData request.connection_id data_base64) } := by
  unfold chunkFrame at h
  split_ifs at h with hbinary
  · cases hbytes : encode_tcp_binary_frame request.connection_id data with
    | error e =>
      rw [hbytes] at h
      cases h
    | ok bytes =>
      rw [hbytes] at h
      exact .inl ⟨bytes, (Except.ok.inj h).symm⟩
  · exact .inr ⟨_, (Except.ok.inj h).symm⟩

/-- Data of a target is not a start message. -/
theorem chunkFrame_isStart {request : OpenRequest} {data : Bytes}
    (h : chunkFrame request data = .ok frame) : frame.isStart = false := by
  rcases chunkFrame_shape h with ⟨bytes, rfl⟩ | ⟨data_base64, rfl⟩ <;> rfl

/-! ## The sessions -/

/-- Nothing has happened in the session. -/
structure Idle (s : AgentState) (session : ℕ) : Prop where
  sent : s.agent.to_relay session = []
  keepAlive : s.keepAlive session = none
  reader : ∀ n task, s.reader n = some task → task.session ≠ session

/-- The subclass has made the start message. -/
def AgentEvent.isStart : AgentEvent → Bool
  | .main (.start _) => true
  | _ => false

/-- The suspension points at which the start message has been sent. -/
def AgentMain.started (main : AgentMain) : Bool := main = .sendingStart || main.inLoop

/-- The suspension points outside of a session. -/
def AgentMain.outside : AgentMain → Bool
  | .connecting | .creatingStart | .sendingStart | .closingWebsocket | .closed => true
  | _ => false

/-- A session that is yet to start is a new one, or was so before the step. -/
theorem unstarted_of (h : AgentRule acfg s e s')
    (hmain' : s'.main = .connecting ∨ s'.main = .creatingStart) :
    s'.session = s.session + 1 ∨
      (s.main = .connecting ∨ s.main = .creatingStart) ∧ e.isStart = false := by
  cases h with
  | main h =>
    generalize s.main = main at h ⊢
    cases h with
    | connects => exact .inr ⟨.inl rfl, rfl⟩
    | restarts => exact .inl rfl
    -- A frame is received in a session that has started.
    | receives h =>
      cases h with
      | ignores _ _ _ _ hmain => rcases hmain with rfl | rfl <;> simp at hmain'
      | _ => rcases hmain' with hmain | hmain <;> cases hmain
    | refused | leaves =>
      simp only [disconnected, setMain, withAgent] at hmain'
      split_ifs at hmain' <;> simp at hmain'
    | _ => rcases hmain' with hmain | hmain <;> cases hmain
  | keepAlive | keepsAlive => exact .inr ⟨hmain', rfl⟩
  | reader _ h => cases h <;> exact .inr ⟨hmain', rfl⟩

/-- A session that has started did so before the step, or has said its start message now. -/
theorem started_of (h : AgentRule acfg s e s') (hmain' : s'.main.started = true) :
    s.main.started = true ∨ s'.agent.to_relay s.session ≠ [] := by
  cases h with
  | main h =>
    generalize s.main = main at h ⊢
    cases h with
    | starts => exact .inr (by simp)
    | refused | leaves =>
      simp only [disconnected, setMain, withAgent] at hmain'
      split_ifs at hmain' <;> cases hmain'
    | goesOn hmain =>
      rcases hmain with ⟨rfl, -⟩ | ⟨rfl, -⟩ | ⟨c, n, rfl, -⟩ | rfl <;> exact .inl rfl
    | connected | receives | opened | unopened | answered | unanswered | reset => exact .inl rfl
    | _ => cases hmain'
  | keepAlive | keepsAlive => exact .inl hmain'
  | reader _ h => cases h <;> exact .inl hmain'

/-- Where the sessions are: those to come are idle, and the others have begun with their start
message, if they have begun. -/
structure Sessions (s : AgentState) : Prop where
  future : ∀ session, s.session < session → Idle s session
  unstarted : s.main = .connecting ∨ s.main = .creatingStart → Idle s s.session
  begun : ∀ session, Idle s session ∨ s.agent.to_relay session ≠ []
  started : s.main.started = true → s.agent.to_relay s.session ≠ []

namespace Sessions

/-- At the start every session is to come. -/
theorem initial : Sessions {} where
  future _ _ := ⟨rfl, rfl, fun _ _ h => by cases h⟩
  unstarted _ := ⟨rfl, rfl, fun _ _ h => by cases h⟩
  begun _ := .inl ⟨rfl, rfl, fun _ _ h => by cases h⟩
  started h := by cases h

section
variable (hS : Sessions s)
include hS

/-- A session in which something has happened has said its start message. -/
theorem begun_of_not_idle {session : ℕ} (h : ¬ Idle s session) : s.agent.to_relay session ≠ [] :=
  (hS.begun session).resolve_left h

/-- The start message is sent in an idle session, and all others in one that has begun. -/
theorem sends_begun {session : ℕ} (hsends : AgentSends s e session frame) :
    (∃ message, frame = .text { known := some (.start message) } ∧ e.isStart = true ∧
      s.main = .creatingStart ∧ session = s.session ∧ Idle s session) ∨
    frame.isStart = false ∧ s.agent.to_relay session ≠ [] := by
  cases hsends with
  | start hmain => exact .inl ⟨_, rfl, rfl, hmain, rfl, hS.unstarted (.inr hmain)⟩
  | unsupported hmain | unopened hmain | opened hmain | unanswered hmain | reset hmain =>
    exact .inr ⟨rfl, hS.started (by rw [hmain]; rfl)⟩
  | keepAlive hpoint =>
    refine .inr ⟨rfl, hS.begun_of_not_idle fun hidle => ?_⟩
    rw [hidle.keepAlive] at hpoint
    cases hpoint
  | chunk htask _ _ hframe =>
    exact .inr ⟨chunkFrame_isStart hframe,
      hS.begun_of_not_idle fun hidle => hidle.reader _ _ htask rfl⟩
  | closed htask =>
    exact .inr ⟨rfl, hS.begun_of_not_idle fun hidle => hidle.reader _ _ htask rfl⟩

/-- A session in which nothing is sent stays idle. -/
theorem idle_step (hrule : AgentRule acfg s e s') {session : ℕ} (hidle : Idle s session)
    (hsame : s'.agent.to_relay session = s.agent.to_relay session) : Idle s' session where
  sent := hsame.trans hidle.sent
  keepAlive := by
    rcases hrule.keepAlive_of session with hkept | hsome | ⟨hmain, rfl⟩
    · exact hkept.trans hidle.keepAlive
    · rw [hidle.keepAlive] at hsome
      cases hsome
    · exact absurd hidle.sent (hS.started (by rw [hmain]; rfl))
  reader n task' htask' := by
    rcases hrule.reader_of htask' with ⟨task, htask, -, hsession, -⟩ | ⟨hmain, hsession, -⟩
    · rw [hsession]
      exact hidle.reader n task htask
    · rw [hsession]
      rintro rfl
      exact absurd hidle.sent (hS.started (by rw [hmain]; rfl))

omit hS in
/-- A session that has begun has begun. -/
theorem begun_step (hrule : AgentRule acfg s e s') {session : ℕ}
    (hbegun : s.agent.to_relay session ≠ []) : s'.agent.to_relay session ≠ [] := by
  rcases hrule.sent_in session with hsame | ⟨frame, -, hto⟩
  · rwa [hsame]
  · rw [hto]
    exact List.append_ne_nil_of_right_ne_nil _ (List.cons_ne_nil _ _)

/-- The sessions to come stay idle. -/
theorem future_step (hrule : AgentRule acfg s e s') {session : ℕ} (hlt : s.session < session) :
    Idle s' session := by
  have hidle := hS.future session hlt
  rcases hrule.sent_in session with hsame | ⟨frame, hsends, -⟩
  · exact hS.idle_step hrule hidle hsame
  · rcases hS.sends_begun hsends with ⟨_, -, -, -, rfl, -⟩ | ⟨-, hbegun⟩
    · exact absurd hlt (lt_irrefl _)
    · exact absurd hidle.sent hbegun

/-- A step keeps where the sessions are. -/
theorem preserved (hrule : AgentRule acfg s e s') : Sessions s' where
  future session hlt := by
    refine hS.future_step hrule ?_
    rcases hrule.session_of with hsame | ⟨-, -, hnext, -⟩
    · rwa [← hsame]
    · rw [hnext] at hlt
      omega
  unstarted hmain' := by
    rcases hrule.session_of with hsame | ⟨-, -, hnext, -⟩
    · rw [hsame]
      rcases unstarted_of hrule hmain' with hnext | ⟨hmain, hstart⟩
      · rw [hsame] at hnext
        exact absurd hnext (Nat.succ_ne_self _).symm
      · have hidle := hS.unstarted hmain
        rcases hrule.sent_in s.session with hkept | ⟨frame, hsends, -⟩
        · exact hS.idle_step hrule hidle hkept
        · rcases hS.sends_begun hsends with ⟨_, -, hstart', -⟩ | ⟨-, hbegun⟩
          · rw [hstart] at hstart'
            cases hstart'
          · exact absurd hidle.sent hbegun
    · rw [hnext]
      exact hS.future_step hrule (Nat.lt_succ_self _)
  begun session := by
    rcases hS.begun session with hidle | hbegun
    · rcases hrule.sent_in session with hsame | ⟨frame, -, hto⟩
      · exact .inl (hS.idle_step hrule hidle hsame)
      · right
        rw [hto]
        exact List.append_ne_nil_of_right_ne_nil _ (List.cons_ne_nil _ _)
    · exact .inr (begun_step hrule hbegun)
  started hmain' := by
    rcases hrule.session_of with hsame | ⟨-, hmain, -⟩
    · rw [hsame]
      rcases started_of hrule hmain' with hmain | hbegun
      · exact begun_step hrule (hS.started hmain)
      · exact hbegun
    · rw [hmain] at hmain'
      cases hmain'

end

end Sessions

/-- Where the sessions are in every run of the agent. -/
theorem agent_sessions (h : Reaches (agentStep acfg) ok {} s) : Sessions s :=
  h.invariant .initial fun _ _ _ _ _ hstep hS => hS.preserved (agentStep_rule hstep)

/-! ## Connections that have ended -/

/-- The reader of the connection has sent its reset. -/
structure TargetEnded (s : AgentState) (l : List AgentShown) (c : ConnectionId) : Prop where
  asked : ∃ frame ∈ framesOf l, frame.asks? = some c
  gone : c ∉ s.agent.active_connections
  reader : ∀ n task, s.reader n = some task → task.request.connection_id = c →
    ¬ (task.point = .reading ∨ task.point = .sending)
  opening : ∀ request, s.main = .opening request → request.connection_id ≠ c
  answering : ∀ request n, s.main = .sendingOK request n → request.connection_id ≠ c

namespace TargetEnded

/-- The connection is not asked for again. -/
theorem not_asked (hE : TargetEnded s l c) {frame : RelayFrame}
    (hfirst : AskedFirst (framesOf (l ++ s.shows acfg (.main (.frame frame))))) :
    frame.asks? ≠ some c := by
  intro hasks
  obtain ⟨before, hbefore, hasked⟩ := hE.asked
  rw [framesOf_append, framesOf_frame] at hfirst
  exact hfirst (framesOf l) frame [] c rfl hasks before hbefore (.inl hasked)

/-- A connection that has ended stays ended. -/
theorem preserved (hE : TargetEnded s l c) (hrule : AgentRule acfg s e s')
    (hfirst : AskedFirst (framesOf (l ++ s.shows acfg e))) :
    TargetEnded s' (l ++ s.shows acfg e) c where
  asked := by
    obtain ⟨frame, hframe, hasks⟩ := hE.asked
    exact ⟨frame, Delivered.mem_frames hframe, hasks⟩
  gone hc := by
    obtain ⟨n, hn⟩ := Option.isSome_iff_exists.mp (AList.lookup_isSome.mpr hc)
    rcases hrule.lookup hn with hbefore | ⟨request, -, hmain, hid, -⟩
    · refine hE.gone ?_
      rw [← AList.lookup_isSome, hbefore]
      rfl
    · exact hE.opening request hmain hid
  reader n task' htask' hid := by
    rcases hrule.reader_of htask' with ⟨task, htask, hrequest, -, hpoint⟩ | ⟨hmain, -⟩
    · have hnot := hE.reader n task htask (by rw [← hrequest, hid])
      exact fun hpoint' => hnot (hpoint hpoint')
    · exact absurd hid (hE.answering _ n hmain)
  opening request hmain' hid := by
    rcases hrule.opening_of hmain' with hmain | ⟨frame, rfl, hrequest⟩
    · exact hE.opening request hmain hid
    · refine hE.not_asked hfirst ?_
      rw [RelayFrame.asks?, hrequest, ← hid]
      rfl
  answering request n hmain' hid := by
    rcases hrule.answering_of hmain' with hmain | ⟨hmain, -⟩
    · exact hE.answering request n hmain hid
    · exact hE.opening request hmain hid

/-- Nothing more is said about it. -/
theorem silent (hE : TargetEnded s l c) {session : ℕ} (hsends : AgentSends s e session frame)
    (hfirst : AskedFirst (framesOf (l ++ s.shows acfg e))) (hstart : frame.isStart = false)
    (hcanonical : ∀ n task, s.reader n = some task →
      canonical task.request.connection_id = true) : frame.named? ≠ some c := by
  intro hnamed
  cases hsends with
  | start => cases hstart
  | @unsupported frame protocol request hmain hrequest =>
    obtain rfl : request.connection_id = c := Option.some.inj hnamed
    refine hE.not_asked hfirst ?_
    rw [RelayFrame.asks?, hrequest]
    rfl
  | unopened hmain | opened hmain =>
    exact hE.opening _ hmain (Option.some.inj hnamed)
  | unanswered hmain => exact hE.answering _ _ hmain (Option.some.inj hnamed)
  | reset hmain hc =>
    obtain rfl := Option.some.inj hnamed
    exact hE.gone hc
  | keepAlive => cases hnamed
  | @chunk n task data _ htask hpoint _ hframe =>
    obtain ⟨frame', hframe', hdata⟩ := chunkFrame_data? (hcanonical n task htask) data
    obtain rfl := Except.ok.inj (hframe'.symm.trans hframe)
    have hid : task.request.connection_id = c := by simpa [AgentFrame.named?, hdata] using hnamed
    exact hE.reader n task htask hid (.inl hpoint)
  | closed htask hpoint => exact hE.reader _ _ htask (Option.some.inj hnamed) hpoint

end TargetEnded

/-! ## What is said -/

/-- What a session has said is grammatical, and what the agent knows of its connections has been
said. -/
structure Spoken (s : AgentState) (l : List AgentShown) : Prop where
  outside : s.main.outside = true → s.agent.active_connections = ∅
  entered : ∀ c ∈ s.agent.active_connections, okFrame c ∈ s.agent.to_relay s.session
  answering : ∀ request n, s.main = .sendingOK request n →
    okFrame request.connection_id ∈ s.agent.to_relay s.session ∧ s.reader n = none
  reading : ∀ n task, s.reader n = some task →
    okFrame task.request.connection_id ∈ s.agent.to_relay task.session
  ended : ∀ session c, closedFrame c ∈ s.agent.to_relay session → TargetEnded s l c
  grammar : ∀ session, Grammatical (s.agent.to_relay session)

namespace Spoken

/-- At the start nothing has been said. -/
theorem initial : Spoken {} [] where
  outside _ := rfl
  entered c h := by cases h
  answering _ _ h := by cases h
  reading _ _ h := by cases h
  ended _ _ h := by cases h
  grammar _ := .nil

/-- What has been said stays said. -/
theorem said_step (hrule : AgentRule acfg s e s') {session : ℕ}
    (hframe : frame ∈ s.agent.to_relay session) : frame ∈ s'.agent.to_relay session := by
  rcases hrule.sent_in session with hsame | ⟨next, -, hto⟩
  · rwa [hsame]
  · rw [hto]
    exact List.mem_append_left _ hframe

/-- The opening of a socket says so. -/
theorem said_opened (request : OpenRequest) :
    okFrame request.connection_id ∈
      (s.connectionOpened request).agent.to_relay (s.connectionOpened request).session := by
  simp [connectionOpened]

section
variable (hP : Spoken s l) (hS : Sockets s) (hrule : AgentRule acfg s e s')
include hP hrule

/-- Outside of a session the agent has no connections. -/
theorem outside_step (houtside : s'.main.outside = true) : s'.agent.active_connections = ∅ := by
  cases hrule with
  | main h =>
    have hbefore := hP.outside
    generalize s.main = main at h hbefore
    cases h with
    | connects | starts => exact hbefore rfl
    | refused | leaves => rfl
    | disconnects | restarts => exact hbefore rfl
    | receives h =>
      cases h with
      | ignores _ _ _ _ hmain => rcases hmain with rfl | rfl <;> cases houtside
      | _ => cases houtside
    | _ => cases houtside
  | keepAlive | keepsAlive => exact hP.outside houtside
  | reader _ h =>
    cases h with
    | ends =>
      show s.agent.active_connections.erase _ = ∅
      rw [hP.outside houtside]
      rfl
    | _ => exact hP.outside houtside

/-- A connection that is entered has been answered in the session. -/
theorem entered_step (hstep : agentStep acfg s e = some s')
    (hc : c ∈ s'.agent.active_connections) : okFrame c ∈ s'.agent.to_relay s'.session := by
  obtain ⟨n, hn⟩ := Option.isSome_iff_exists.mp (AList.lookup_isSome.mpr hc)
  rcases hrule.lookup hn with hbefore | ⟨request, rfl, hmain, rfl, -⟩
  · have hc₀ : c ∈ s.agent.active_connections := by
      rw [← AList.lookup_isSome, hbefore]
      rfl
    rcases hrule.session_of with hsame | ⟨hmain, -, -⟩
    · rw [hsame]
      exact said_step hrule (hP.entered c hc₀)
    · rw [hP.outside (by rw [hmain]; rfl)] at hc₀
      cases hc₀
  · have hnext : agentStep acfg s (.main .ok) = some (s.connectionOpened request) := by
      simp [agentStep, resumeMain, hmain]
    obtain rfl := Option.some.inj (hnext.symm.trans hstep)
    exact said_opened request

include hS in
/-- An answer that is being sent is in the session, and its reader does not run yet. -/
theorem answering_step {request : OpenRequest} {n : ℕ} (hmain' : s'.main = .sendingOK request n) :
    okFrame request.connection_id ∈ s'.agent.to_relay s'.session ∧ s'.reader n = none := by
  rcases hrule.answering_of hmain' with hmain | ⟨hmain, rfl, rfl⟩
  · obtain ⟨hsaid, hnone⟩ := hP.answering request n hmain
    have hsession : s'.session = s.session := by
      rcases hrule.session_of with hsame | ⟨hclosed, -⟩
      · exact hsame
      · rw [hmain] at hclosed
        cases hclosed
    rw [hsession]
    refine ⟨said_step hrule hsaid, ?_⟩
    by_contra hsome
    obtain ⟨task, htask⟩ := Option.ne_none_iff_exists'.mp hsome
    rcases hrule.reader_of htask with ⟨task₀, htask₀, -⟩ | ⟨-, -, -, hreceiving⟩
    · rw [hnone] at htask₀
      cases htask₀
    · rw [hmain'] at hreceiving
      cases hreceiving
  · refine ⟨said_opened request, ?_⟩
    -- A socket that is being opened has no reader.
    by_contra hsome
    obtain ⟨task, htask⟩ := Option.ne_none_iff_exists'.mp hsome
    obtain ⟨w, hw, -⟩ := hS.reader _ task htask
    rw [hS.unopened _ le_rfl] at hw
    cases hw

/-- A reader reads for a connection that its session has answered. -/
theorem reading_step {n : ℕ} {task' : ReadTask} (htask' : s'.reader n = some task') :
    okFrame task'.request.connection_id ∈ s'.agent.to_relay task'.session := by
  rcases hrule.reader_of htask' with ⟨task, htask, hrequest, hsession, -⟩ | ⟨hmain, hsession, -⟩
  · rw [hrequest, hsession]
    exact said_step hrule (hP.reading n task htask)
  · rw [hsession]
    exact said_step hrule (hP.answering _ n hmain).1

end

/-- A reset on behalf of the target is sent by a reader. -/
theorem reader_of_closed {session : ℕ} (hsends : AgentSends s e session (closedFrame c)) :
    ∃ n o task, e = .reader n o ∧ s.reader n = some task ∧
      task.request.connection_id = c ∧ task.session = session := by
  generalize hframe : closedFrame c = frame at hsends
  cases hsends with
  | chunk _ _ _ hchunk =>
    rcases chunkFrame_shape hchunk with ⟨bytes, rfl⟩ | ⟨data_base64, rfl⟩ <;> cases hframe
  | closed htask =>
    refine ⟨_, _, _, rfl, htask, ?_, rfl⟩
    simpa using hframe.symm
  | _ => simp at hframe

/-- A reset on behalf of the target is sent where a reader ends. -/
theorem ends_of_closed (hrule : AgentRule acfg s e s') {session : ℕ}
    (hsends : AgentSends s e session (closedFrame c))
    (hto : s'.agent.to_relay session = s.agent.to_relay session ++ [closedFrame c]) :
    ∃ n o task, e = .reader n o ∧ s.reader n = some task ∧ s' = s.readEnds n task ∧
      task.request.connection_id = c := by
  obtain ⟨n, o, task, rfl, htask, hid, rfl⟩ := reader_of_closed hsends
  refine ⟨n, o, task, rfl, htask, ?_, hid⟩
  cases hrule with
  | reader htask' h =>
    obtain rfl := Option.some.inj (htask.symm.trans htask')
    cases h with
    | @sends data frame _ _ hchunk =>
      have hframe : frame = closedFrame c := by simpa using hto
      rcases chunkFrame_shape hchunk with ⟨bytes, rfl⟩ | ⟨data_base64, rfl⟩ <;> cases hframe
    | sent | finishes => simp at hto
    | ends => rfl

section
variable (hP : Spoken s l) (hS : Sockets s) (hD : Delivered s l)
include hP hS hD

/-- A reader is at its end. -/
theorem ends_step {n : ℕ} {task : ReadTask} {o : AgentOutcome} (he : e = .reader n o)
    (htask : s.reader n = some task) (hs' : s' = s.readEnds n task) :
    TargetEnded s' (l ++ s.shows acfg e) task.request.connection_id := by
  obtain ⟨w, hw, hrequest⟩ := hS.reader n task htask
  have hmain : s'.main = s.main := by rw [hs']; rfl
  refine ⟨?_, ?_, fun m task' htask' hid => ?_, fun request hopening hid => ?_,
    fun request m hanswering hid => ?_⟩
  · obtain ⟨frame, hframe, hasks⟩ := hD.asked n w hw
    exact ⟨frame, Delivered.mem_frames hframe, by rw [hasks, hrequest]⟩
  · rw [hs']
    exact AList.mem_erase.not.mpr fun h => h.1 rfl
  · -- The connection has no other socket.
    rcases eq_or_ne m n with rfl | hne
    · rw [hs'] at htask'
      obtain rfl : _ = task' := by simpa [readEnds] using htask'
      simp
    · rw [hs'] at htask'
      have hother : s.reader m = some task' := by simpa [readEnds, hne] using htask'
      obtain ⟨w', hw', hrequest'⟩ := hS.reader m task' hother
      exact absurd (hD.sole m n w' w hw' hw (by rw [hrequest', hrequest, hid])) hne
  · rw [hmain] at hopening
    exact (hD.opening request hopening).1 n w hw (by rw [hrequest, hid])
  · rw [hmain] at hanswering
    obtain ⟨w', hw', hrequest'⟩ := hS.answering request m hanswering
    obtain rfl := hD.sole m n w' w hw' hw (by rw [hrequest', hrequest, hid])
    rw [(hP.answering request m hanswering).2] at htask
    cases htask

/-- A connection whose reset the step sends has ended. -/
theorem ended_step (hrule : AgentRule acfg s e s')
    (hfirst : AskedFirst (framesOf (l ++ s.shows acfg e))) {session : ℕ}
    (hclosed : closedFrame c ∈ s'.agent.to_relay session) :
    TargetEnded s' (l ++ s.shows acfg e) c := by
  rcases hrule.sent_in session with hsame | ⟨frame, hsends, hto⟩
  · rw [hsame] at hclosed
    exact (hP.ended session c hclosed).preserved hrule hfirst
  · rw [hto] at hclosed
    rcases List.mem_append.mp hclosed with hclosed | hclosed
    · exact (hP.ended session c hclosed).preserved hrule hfirst
    · obtain rfl := List.mem_singleton.mp hclosed
      obtain ⟨n, o, task, he, htask, hs', rfl⟩ := ends_of_closed hrule hsends hto
      exact hP.ends_step hS hD he htask hs'

end

/-- Data and resets are for connections whose answer has been sent. -/
theorem about_said (hP : Spoken s l) {session : ℕ} (hsends : AgentSends s e session frame)
    (hstart : frame.isStart = false)
    (hcanonical : ∀ n task, s.reader n = some task →
      canonical task.request.connection_id = true) (habout : frame.about? = some c) :
    okFrame c ∈ s.agent.to_relay session := by
  cases hsends with
  | start | unsupported | unopened | opened | unanswered | keepAlive => cases habout
  | reset hmain hc =>
    obtain rfl := Option.some.inj habout
    exact hP.entered _ hc
  | @chunk n task data _ htask hpoint _ hframe =>
    obtain ⟨frame', hframe', hdata⟩ := chunkFrame_data? (hcanonical n task htask) data
    obtain rfl := Except.ok.inj (hframe'.symm.trans hframe)
    have hid : task.request.connection_id = c := by simpa [AgentFrame.about?, hdata] using habout
    rw [← hid]
    exact hP.reading n task htask
  | closed htask =>
    obtain rfl := Option.some.inj habout
    exact hP.reading _ _ htask

/-- A step keeps what is said. -/
theorem preserved (hP : Spoken s l) (hI : Sessions s) (hS : Sockets s) (hD : Delivered s l)
    (hstep : agentStep acfg s e = some s') (hfirst : AskedFirst (framesOf (l ++ s.shows acfg e)))
    (hcanonical : ∀ frame ∈ framesOf l, ∀ c, frame.asks? = some c → canonical c = true) :
    Spoken s' (l ++ s.shows acfg e) where
  outside := hP.outside_step (agentStep_rule hstep)
  entered _ := hP.entered_step (agentStep_rule hstep) hstep
  answering _ _ := hP.answering_step hS (agentStep_rule hstep)
  reading _ _ := hP.reading_step (agentStep_rule hstep)
  ended _ _ := hP.ended_step hS hD (agentStep_rule hstep) hfirst
  grammar session := by
    have hcanonical' : ∀ n task, s.reader n = some task →
        canonical task.request.connection_id = true := by
      intro n task htask
      obtain ⟨w, hw, hrequest⟩ := hS.reader n task htask
      obtain ⟨frame, hframe, hasks⟩ := hD.asked n w hw
      rw [← hrequest]
      exact hcanonical frame hframe _ hasks
    rcases (agentStep_rule hstep).sent_in session with hsame | ⟨frame, hsends, hto⟩
    · rw [hsame]
      exact hP.grammar session
    · rw [hto]
      rcases hI.sends_begun hsends with ⟨message, rfl, -, -, -, hidle⟩ | ⟨hstart, hbegun⟩
      · rw [hidle.sent]
        exact .start message
      · exact (hP.grammar session).snoc hbegun hstart
          (fun c => hP.about_said hsends hstart hcanonical')
          fun c hclosed => (hP.ended session c hclosed).silent hsends hfirst hstart hcanonical'

end Spoken

/-- What has been said in every run in which each connection is asked for first. -/
theorem agent_spoken (h : Traced (agentStep acfg) ok (AgentState.shows acfg) {} s l)
    (hfirst : AskedFirst (framesOf l))
    (hcanonical : ∀ frame ∈ framesOf l, ∀ c, frame.asks? = some c → canonical c = true) :
    Spoken s l := by
  refine h.invariant (I := fun s l => AskedFirst (framesOf l) →
    (∀ frame ∈ framesOf l, ∀ c, frame.asks? = some c → canonical c = true) → Spoken s l)
    (fun _ _ => .initial) ?_ hfirst hcanonical
  intro s e s' l ht _ hstep hI hfirst hcanonical
  have hfirst₀ : AskedFirst (framesOf l) := by
    rw [framesOf_append] at hfirst
    exact hfirst.of_append
  have hcanonical₀ : ∀ frame ∈ framesOf l, ∀ c, frame.asks? = some c → canonical c = true :=
    fun frame hframe => hcanonical frame (Delivered.mem_frames hframe)
  exact (hI hfirst₀ hcanonical₀).preserved (agent_sessions ht.reaches) (sockets ht.reaches)
    (delivered ht hfirst₀) hstep hfirst hcanonical₀

/-- If the relay asks for ids as `uuid4` makes them, and for each before all else that it says of
it, the agent is grammatical in every one of its sessions. -/
theorem agent_grammatical (acfg : AgentConfig) (s : AgentState) (l : List AgentShown)
    (h : Traced (agentStep acfg) (fun _ _ => True) (AgentState.shows acfg) {} s l)
    (hfirst : AskedFirst (framesOf l))
    (hcanonical : ∀ frame ∈ framesOf l, ∀ c, frame.asks? = some c → canonical c = true)
    (session : ℕ) : Grammatical (s.agent.to_relay session) :=
  (agent_spoken h hfirst hcanonical).grammar session

/-- A reader that outlives its session: the websocket is lost, the agent connects again, and then
the stream from the target ends. -/
def outlivedSession : List AgentEvent :=
  startAgent ++ openSocket (someTarget someConnection) ++
    [.reader 0 (.data [1, 2]), .reader 0 .ok, .main (.raised .connectionClosed ""), .main .ok,
      .main .ok, .main .ok, .main .ok, .main (.start {}), .main .ok, .reader 0 (.data [])]

/-- The state after the reader has sent into its own session. -/
def outlived : AgentState :=
  (run (agentStep plainAgent) {} outlivedSession).get (by decide +kernel)

/-- What the relay has shown of that run. -/
def outlivedShown : List AgentShown :=
  observe (agentStep plainAgent) (AgentState.shows plainAgent) {} outlivedSession

/-- The second session has nothing but its start message, and the first is grammatical. -/
theorem outlived_grammatical :
    outlived.session = 1 ∧ (outlived.agent.to_relay 0).length = 4 ∧
      closedFrame someConnection ∈ outlived.agent.to_relay 0 ∧
      (outlived.agent.to_relay 1).length = 1 ∧ Grammatical (outlived.agent.to_relay 0) := by
  refine ⟨by decide +kernel, by decide +kernel, by decide +kernel, by decide +kernel, ?_⟩
  have hframes : framesOf outlivedShown =
      [.text (some (.initiateConnection "127.0.0.1" 22 "tcp" someConnection false)) false] := by
    decide +kernel
  have hinit :
      Traced (agentStep plainAgent) (fun _ _ => True) (AgentState.shows plainAgent) {} {} [] :=
    .init
  have hrun : run (agentStep plainAgent) {} outlivedSession = some outlived :=
    (Option.some_get _).symm
  have htraced := hinit.of_run (fun _ _ _ => trivial) hrun
  refine agent_grammatical plainAgent outlived outlivedShown htraced ?_ ?_ 0
  · rw [hframes]
    intro l₁ frame l₂ c hsplit hasks f hf
    obtain ⟨rfl, -⟩ := List.singleton_eq_append_iff.mp hsplit |>.resolve_right (by simp)
    cases hf
  · rw [hframes]
    intro frame hframe c hasks
    obtain rfl := List.mem_singleton.mp hframe
    obtain rfl : someConnection = c := Option.some.inj hasks
    decide +kernel

end HttpNetworkRelay
