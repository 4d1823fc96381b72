import HttpNetworkRelay.Agent.Sockets

/-!
# No socket of the edge agent is lost

Each writer that `open_connection` has returned is stored under the id of its connection or has been
closed (`Held`), if the relay does not ask for one id twice. `SocketRule` says what a step does to
the writers and their entries: it opens one, closes one and removes its entry, or closes them all.
Between two sessions there is no entry, and every writer is closed.
-/

namespace HttpNetworkRelay

open Asyncio Python AgentState

variable {cfg : AgentConfig} {s s' : AgentState} {e : AgentEvent} {a a' : EdgeAgent}

/-! ## The condition -/

/-- No socket has been opened for a connection that the relay asks for. -/
def FreshRequest (s : AgentState) : AgentEvent → Bool
  | .main (.frame frame) => frame.asks?.all fun c =>
    (List.range s.agent.writers_opened).all fun n =>
      (s.agent.writer n).all fun w => w.request.connection_id ≠ c
  | _ => true

/-- No socket has been opened for the connection. -/
def EdgeAgent.Unasked (a : EdgeAgent) (c : ConnectionId) : Prop :=
  ∀ n w, a.writer n = some w → w.request.connection_id ≠ c

/-- A fresh request asks for an id that no socket has been opened for. -/
theorem FreshRequest.unasked (hU : Unopened s.agent) {frame : RelayFrame} {c : ConnectionId}
    (h : FreshRequest s (.main (.frame frame)) = true) (hc : frame.asks? = some c) :
    s.agent.Unasked c := by
  intro n w hw
  have hn : n < s.agent.writers_opened := by
    by_contra hge
    rw [hU n (by omega)] at hw
    cases hw
  have hall : (List.range s.agent.writers_opened).all (fun n =>
      (s.agent.writer n).all fun w => w.request.connection_id ≠ c) = true := by
    simpa [FreshRequest, hc] using h
  have hone := List.all_eq_true.mp hall n (List.mem_range.mpr hn)
  simpa [hw] using hone

/-! ## What a step does to the writers -/

/-- The writers are the same but for what has been written, and closed ones stay closed. -/
def EdgeAgent.SameWriters (a a' : EdgeAgent) : Prop :=
  ∀ n w', a'.writer n = some w' →
    ∃ w, a.writer n = some w ∧ w.request = w'.request ∧ (w.closed = true → w'.closed = true)

/-- What a step does to the writers and their entries. -/
inductive SocketRule (a a' : EdgeAgent) (main : AgentMain) : Prop
  | opens {request} (hmain : main = .opening request)
      (hactive : a'.active_connections =
        a.active_connections.insert request.connection_id a.writers_opened)
      (hwriter : a'.writer = Function.update a.writer a.writers_opened (some { request }))
  | keeps (hactive : a'.active_connections = a.active_connections) (hwriter : a.SameWriters a')
  /-- A writer is closed, and the entry of its connection removed. -/
  | closes {n request} (hopened : a.Opened n request)
      (hactive : a'.active_connections = a.active_connections.erase request.connection_id)
      (hwriter : a'.writer = (a.close n).writer)
  | closesAll (hactive : a'.active_connections = ∅) (hwriter : a'.writer = a.closeAll.writer)

/-- Writers that a step leaves alone are the same. -/
theorem EdgeAgent.SameWriters.of_eq (hwriter : a'.writer = a.writer) : a.SameWriters a' := by
  intro n w' hw'
  rw [hwriter] at hw'
  exact ⟨w', hw', rfl, id⟩

/-- A change of one writer that keeps its request, and keeps it closed if it was, loses nothing. -/
theorem EdgeAgent.SameWriters.modifyWriter (a : EdgeAgent) (n : ℕ) {f : StreamWriter → StreamWriter}
    (hf : ∀ w, (f w).request = w.request ∧ (w.closed = true → (f w).closed = true))
    (hwriter : a'.writer = (a.modifyWriter n f).writer) : a.SameWriters a' := by
  intro m w' hw'
  rw [hwriter] at hw'
  obtain rfl | hm := eq_or_ne m n
  · simp only [EdgeAgent.modifyWriter, Function.update_self, Option.map_eq_some_iff] at hw'
    obtain ⟨w, hw, rfl⟩ := hw'
    exact ⟨w, hw, (hf w).1.symm, (hf w).2⟩
  · exact ⟨w', by simpa [hm] using hw', rfl, id⟩

/-- A write keeps every writer as it was, but for its bytes. -/
theorem EdgeAgent.SameWriters.write (n : ℕ) (data : Bytes)
    (hwriter : a'.writer = (a.write n data).writer) : a.SameWriters a' :=
  .modifyWriter a n (f := fun w => { w with written := w.written ++ [data] })
    (fun _ => ⟨rfl, id⟩) hwriter

/-- A close keeps every writer as it was, but for its being closed. -/
theorem EdgeAgent.SameWriters.close (n : ℕ) (hwriter : a'.writer = (a.close n).writer) :
    a.SameWriters a' :=
  .modifyWriter a n (f := fun w => { w with closed := true }) (fun _ => ⟨rfl, fun _ => rfl⟩) hwriter

/-- What a received frame does to the sockets. -/
theorem ReceiveRule.sockets (hS : Sockets s) {frame : RelayFrame} (h : ReceiveRule cfg s frame s')
    (main : AgentMain) : SocketRule s.agent s'.agent main := by
  cases h with
  | writes => exact .keeps rfl (.write _ _ rfl)
  | closes _ hn =>
    obtain ⟨request, hopened, rfl⟩ := hS.stored _ _ hn
    exact .closes hopened rfl rfl
  | opens | unsupported | rejects | ignores => exact .keeps rfl (.of_eq rfl)

/-- What a step of the main task does to the sockets. -/
theorem MainRule.sockets (hS : Sockets s) {o : AgentOutcome} (h : MainRule cfg s s.main o s') :
    SocketRule s.agent s'.agent s.main := by
  generalize hmain : s.main = main at h
  cases h with
  | receives h => exact h.sockets hS _
  | opened => exact .opens rfl rfl rfl
  | reset =>
    obtain ⟨request, hopened, rfl⟩ := hS.draining _ _ hmain
    exact .closes hopened rfl rfl
  | missing => exact .keeps rfl (.close _ rfl)
  | refused | leaves => exact .closesAll rfl rfl
  | _ => exact .keeps rfl (.of_eq rfl)

/-- What a step of the agent does to the sockets. -/
theorem AgentRule.sockets (hS : Sockets s) (h : AgentRule cfg s e s') :
    SocketRule s.agent s'.agent s.main := by
  cases h with
  | main h => exact h.sockets hS
  | keepAlive | keepsAlive => exact .keeps rfl (.of_eq rfl)
  | reader htask h =>
    cases h with
    | ends => exact .closes (hS.reader _ _ htask) rfl rfl
    | _ => exact .keeps rfl (.of_eq rfl)

/-! ## Every open writer has its entry -/

/-- An open writer is stored under the id of its connection. -/
def EdgeAgent.Held (a : EdgeAgent) : Prop :=
  ∀ n w, a.writer n = some w →
    a.active_connections.lookup w.request.connection_id = some n ∨ w.closed = true

/-- No two sockets are opened for one connection. -/
def EdgeAgent.Unshared (a : EdgeAgent) : Prop :=
  ∀ n w n' w', a.writer n = some w → a.writer n' = some w' →
    w.request.connection_id = w'.request.connection_id → n = n'

/-- There is no entry, and every writer is closed. -/
def EdgeAgent.AllClosed (a : EdgeAgent) : Prop :=
  a.active_connections = ∅ ∧ ∀ n w, a.writer n = some w → w.closed = true

/-- `async_main` is between two sessions, from the cleanup of one to the connection of the next. -/
def AgentMain.offline : AgentMain → Bool
  | .connecting | .closingWebsocket | .closed | .failed => true
  | _ => false

namespace SocketRule

variable {main : AgentMain}

/-- No two writers get the same id, if the id of the socket that is opened is new. -/
theorem unshared (h : SocketRule a a' main)
    (hasked : ∀ request, main = .opening request → a.Unasked request.connection_id)
    (hU : a.Unshared) : a'.Unshared := by
  have hback : a.SameWriters a' → a'.Unshared := by
    intro hsame n w n' w' hw hw' hid
    obtain ⟨w₀, hw₀, hrequest, -⟩ := hsame n w hw
    obtain ⟨w₁, hw₁, hrequest', -⟩ := hsame n' w' hw'
    exact hU n w₀ n' w₁ hw₀ hw₁ (by rw [hrequest, hrequest', hid])
  cases h with
  | @opens request hmain _ hwriter =>
    have hnew := hasked request hmain
    intro n w n' w' hw hw' hid
    rw [hwriter] at hw hw'
    obtain rfl | hn := eq_or_ne n a.writers_opened
    · obtain rfl | hn' := eq_or_ne n' a.writers_opened
      · rfl
      · obtain rfl : { request } = w := by simpa using hw
        exact absurd hid.symm (hnew n' w' (by simpa [hn'] using hw'))
    · obtain rfl | hn' := eq_or_ne n' a.writers_opened
      · obtain rfl : { request } = w' := by simpa using hw'
        exact absurd hid (hnew n w (by simpa [hn] using hw))
      · exact hU n w n' w' (by simpa [hn] using hw) (by simpa [hn'] using hw') hid
  | keeps _ hwriter => exact hback hwriter
  | closes _ _ hwriter => exact hback (.close _ hwriter)
  | closesAll _ hwriter =>
    refine hback fun n w' hw' => ?_
    rw [hwriter] at hw'
    simp only [EdgeAgent.closeAll] at hw'
    split_ifs at hw'
    · obtain ⟨w, hw, rfl⟩ := Option.map_eq_some_iff.mp hw'
      exact ⟨w, hw, rfl, fun _ => rfl⟩
    · exact ⟨w', hw', rfl, id⟩

/-- The cleanup closes every writer. -/
theorem allClosed_of_closesAll (hH : a.Held) (hactive : a'.active_connections = ∅)
    (hwriter : a'.writer = a.closeAll.writer) : a'.AllClosed := by
  refine ⟨hactive, fun n w hw => ?_⟩
  rw [hwriter] at hw
  simp only [EdgeAgent.closeAll] at hw
  split_ifs at hw with hentry
  · obtain ⟨w₀, -, rfl⟩ := Option.map_eq_some_iff.mp hw
    rfl
  · refine (hH n w hw).resolve_left fun hlookup => hentry ?_
    exact List.mem_map.mpr ⟨_, AList.mem_lookup_iff.mp hlookup, rfl⟩

/-- An open writer stays stored, if the id of the socket that is opened is new. -/
theorem held (h : SocketRule a a' main)
    (hasked : ∀ request, main = .opening request → a.Unasked request.connection_id)
    (hU : a.Unshared) (hH : a.Held) : a'.Held := by
  intro n w hw
  cases h with
  | @opens request hmain hactive hwriter =>
    rw [hwriter] at hw
    rw [hactive]
    obtain rfl | hn := eq_or_ne n a.writers_opened
    · obtain rfl : { request } = w := by simpa using hw
      exact .inl (AList.lookup_insert _)
    · have hw : a.writer n = some w := by simpa [hn] using hw
      have hne := hasked request hmain n w hw
      rw [AList.lookup_insert_ne hne]
      exact hH n w hw
  | keeps hactive hwriter =>
    obtain ⟨w₀, hw₀, hrequest, hclosed⟩ := hwriter n w hw
    rw [hactive, ← hrequest]
    exact (hH n w₀ hw₀).imp_right hclosed
  | @closes n₀ request hopened hactive hwriter =>
    rw [hwriter] at hw
    rw [hactive]
    obtain rfl | hn := eq_or_ne n n₀
    · right
      simp only [EdgeAgent.modifyWriter, Function.update_self, Option.map_eq_some_iff] at hw
      obtain ⟨w₀, -, rfl⟩ := hw
      rfl
    · -- Another writer is that of another connection, whose entry stays.
      have hw : a.writer n = some w := by simpa [hn] using hw
      obtain ⟨w₀, hw₀, rfl⟩ := hopened
      have hne : w.request.connection_id ≠ w₀.request.connection_id :=
        fun hid => hn (hU n w n₀ w₀ hw hw₀ hid)
      rw [AList.lookup_erase_ne hne]
      exact hH n w hw
  | closesAll hactive hwriter => exact .inr ((allClosed_of_closesAll hH hactive hwriter).2 n w hw)

end SocketRule

/-! ## Every run -/

/-- The invariant of the open sockets. -/
structure OpenSockets (s : AgentState) : Prop where
  sockets : Sockets s
  asked : ∀ request, s.main = .opening request → s.agent.Unasked request.connection_id
  unshared : s.agent.Unshared
  held : s.agent.Held
  offline : s.main.offline = true → s.agent.AllClosed

/-- The agent is offline after the cleanup of a session, or was so before. -/
theorem MainRule.offline {main : AgentMain} {o : AgentOutcome} (h : MainRule cfg s main o s')
    (hoffline : s'.main.offline = true) :
    s' = s.disconnected ∨ main.offline = true ∧
      s'.agent.active_connections = s.agent.active_connections ∧
        s'.agent.writer = s.agent.writer := by
  cases h with
  | refused | leaves => exact .inl rfl
  | disconnects | restarts => exact .inr ⟨rfl, rfl, rfl⟩
  | fails hmain => exact .inr ⟨by rcases hmain with rfl | rfl <;> rfl, rfl, rfl⟩
  | receives h =>
    cases h with
    | ignores _ _ _ _ hmain' => rcases hmain' with rfl | rfl <;> cases hoffline
    | _ => cases hoffline
  | _ => cases hoffline

/-- While the agent is offline nothing is opened. -/
theorem SocketRule.allClosed {main : AgentMain} (h : SocketRule a a' main)
    (hmain : ∀ request, main ≠ .opening request) (hA : a.AllClosed) : a'.AllClosed := by
  obtain ⟨hactive₀, hclosed₀⟩ := hA
  cases h with
  | opens hopening => exact absurd hopening (hmain _)
  | keeps hactive hwriter =>
    refine ⟨hactive.trans hactive₀, fun n w hw => ?_⟩
    obtain ⟨w₀, hw₀, -, hclosed⟩ := hwriter n w hw
    exact hclosed (hclosed₀ n w₀ hw₀)
  | closes _ hactive hwriter =>
    refine ⟨?_, fun n w hw => ?_⟩
    · rw [hactive, hactive₀]
      rfl
    · obtain ⟨w₀, hw₀, -, hclosed⟩ := EdgeAgent.SameWriters.close _ hwriter n w hw
      exact hclosed (hclosed₀ n w₀ hw₀)
  | closesAll hactive hwriter =>
    exact allClosed_of_closesAll (fun n w hw => .inr (hclosed₀ n w hw)) hactive hwriter

namespace OpenSockets

/-- No socket has been opened. -/
theorem initial : OpenSockets {} where
  sockets := .initial
  asked _ h := nomatch h
  unshared _ _ _ _ h := nomatch h
  held _ _ h := nomatch h
  offline _ := ⟨rfl, fun _ _ h => nomatch h⟩

/-- The id that is being opened has not been asked for before. -/
theorem asked_step (hO : OpenSockets s) (hok : FreshRequest s e = true) (h : AgentRule cfg s e s')
    {request : OpenRequest} (hmain : s'.main = .opening request) :
    s'.agent.Unasked request.connection_id := by
  have hback : s.main = .opening request → (∀ o, e ≠ .main o) →
      s'.agent.Unasked request.connection_id := by
    intro hopening he n w hw
    have hkeeps : s.agent.SameWriters s'.agent := by
      cases h with
      | main => exact absurd rfl (he _)
      | keepAlive | keepsAlive => exact .of_eq rfl
      | reader _ h =>
        cases h with
        | ends => exact .close _ rfl
        | _ => exact .of_eq rfl
    obtain ⟨w₀, hw₀, hrequest, -⟩ := hkeeps n w hw
    rw [← hrequest]
    exact hO.asked request hopening n w₀ hw₀
  cases e with
  | main o =>
    obtain ⟨h⟩ := h
    obtain ⟨frame, rfl, hrequest, hagent⟩ := h.opening hmain
    have hasks : frame.asks? = some request.connection_id := by simp [RelayFrame.asks?, hrequest]
    rw [hagent]
    exact FreshRequest.unasked hO.sockets.unopened hok hasks
  | keepAlive | reader =>
    refine hback ?_ (by simp)
    rw [← (h.main_same (by simp)).1, hmain]

/-- An agent that has left its session has closed all its sockets. -/
theorem offline_step (hO : OpenSockets s) (h : AgentRule cfg s e s')
    (hoffline : s'.main.offline = true) : s'.agent.AllClosed := by
  have hnot : s.main.offline = true → ∀ request, s.main ≠ .opening request := by
    intro hbefore request hopening
    rw [hopening] at hbefore
    cases hbefore
  have hsockets := h.sockets hO.sockets
  cases e with
  | main o =>
    obtain ⟨h⟩ := h
    rcases h.offline hoffline with rfl | ⟨hbefore, -, -⟩
    · exact SocketRule.allClosed_of_closesAll hO.held rfl rfl
    · exact hsockets.allClosed (hnot hbefore) (hO.offline hbefore)
  | keepAlive | reader =>
    have hbefore : s.main.offline = true := by
      rw [← (h.main_same (by simp)).1]
      exact hoffline
    exact hsockets.allClosed (hnot hbefore) (hO.offline hbefore)

/-- Each step keeps the invariant, if what is asked for is fresh. -/
theorem preserved (hO : OpenSockets s) (hok : FreshRequest s e = true) (h : AgentRule cfg s e s') :
    OpenSockets s' where
  sockets := hO.sockets.preserved h
  asked _ hmain := hO.asked_step hok h hmain
  unshared := (h.sockets hO.sockets).unshared hO.asked hO.unshared
  held := (h.sockets hO.sockets).held hO.asked hO.unshared hO.held
  offline hoffline := hO.offline_step h hoffline

end OpenSockets

/-- In every run in which the relay asks for no id a second time, each writer is stored under its id
or closed, and from the cleanup of a session to the connection of the next there is no entry and
every writer is closed. -/
theorem no_socket_lost (h : Reaches (agentStep cfg) (fun s e => FreshRequest s e = true) {} s) :
    s.agent.Held ∧ (s.main.offline = true → s.agent.AllClosed) := by
  have hO : OpenSockets s :=
    h.invariant .initial fun s e s' _ hok hs hO => hO.preserved hok (agentStep_rule hs)
  exact ⟨hO.held, hO.offline⟩

/-- Two sockets are opened; the target of the first ends its stream while a write to it is being
drained, the drain fails, and the `del` of the missing entry ends the session. -/
def cleanedAgent : AgentState :=
  (runWith (agentStep plainAgent) (fun s e => FreshRequest s e = true) {}
    (startAgent ++ openSocket (someTarget "a") ++ openSocket (someTarget "b") ++
      [.main (.frame (.text (some (.tcpData "a" "")) false)), .reader 0 (.data []),
        .main (.raised .connectionResetError ""), .main .ok])).get (by decide +kernel)

/-- The condition is met by a run with two sockets that ends in the cleanup. -/
theorem cleanedAgent_closed :
    (cleanedAgent.agent.writers_opened = 2 ∧ cleanedAgent.main = .closingWebsocket) ∧
      cleanedAgent.agent.Held ∧ (cleanedAgent.main.offline = true → cleanedAgent.agent.AllClosed) :=
  ⟨by decide +kernel, no_socket_lost (Reaches.init.of_runWith (Option.some_get _).symm)⟩

end HttpNetworkRelay
