import HttpNetworkRelay.Agent.Rules
import HttpNetworkRelay.Asyncio.Machine

/-!
# The sockets of the edge agent

A writer that `open_connection` has returned stays what it is: its request does not change, and it
is not reopened (`Keeps`). `Sockets` is the invariant that follows: an entry of
`active_connections`, the drain in progress, the answer being sent and each
`read_from_tcp_and_send` task refer to a writer that was opened for their own connection.
-/

namespace HttpNetworkRelay

open Asyncio Python AgentState

variable {cfg : AgentConfig} {s s' : AgentState} {e : AgentEvent}

/-! ## Writers stay -/

/-- The writers of `a` are still there in `a'`, with their requests; closed ones are closed, and the
numbers that are still to be given out in `a'` are unused. -/
structure Keeps (a a' : EdgeAgent) : Prop where
  writer : ∀ n w, a.writer n = some w → ∃ w', a'.writer n = some w' ∧ w'.request = w.request ∧
    w.written <+: w'.written ∧ (w.closed = true → w'.closed = true)
  opened : a.writers_opened ≤ a'.writers_opened
  unused : ∀ n, a'.writers_opened ≤ n → a.writer n = none → a'.writer n = none

namespace Keeps

variable {a a' a'' : EdgeAgent}

/-- A step that does nothing keeps the sockets. -/
theorem refl (a : EdgeAgent) : Keeps a a where
  writer _ w h := ⟨w, h, rfl, List.prefix_rfl, id⟩
  opened := le_rfl
  unused _ _ h := h

/-- Two steps that keep the sockets keep them together. -/
theorem trans (h : Keeps a a') (h' : Keeps a' a'') : Keeps a a'' where
  writer n w hw := by
    obtain ⟨w', hw', hrequest, hwritten, hclosed⟩ := h.writer n w hw
    obtain ⟨w'', hw'', hrequest', hwritten', hclosed'⟩ := h'.writer n w' hw'
    exact ⟨w'', hw'', hrequest'.trans hrequest, hwritten.trans hwritten', hclosed' ∘ hclosed⟩
  opened := h.opened.trans h'.opened
  unused n hn hw := h'.unused n hn (h.unused n (h'.opened.trans hn) hw)

/-- A step that leaves the writers alone keeps the sockets. -/
theorem of_eq (hwriter : a'.writer = a.writer) (hopened : a'.writers_opened = a.writers_opened) :
    Keeps a a' where
  writer n w hw := ⟨w, by rw [hwriter, hw], rfl, List.prefix_rfl, id⟩
  opened := hopened.ge
  unused n _ hw := by rw [hwriter, hw]

/-- A change of one writer that only adds to it keeps the sockets. -/
theorem modifyWriter (a : EdgeAgent) (n : ℕ) {f : StreamWriter → StreamWriter}
    (hf : ∀ w, (f w).request = w.request ∧ w.written <+: (f w).written ∧
      (w.closed = true → (f w).closed = true)) : Keeps a (a.modifyWriter n f) where
  writer m w hw := by
    obtain rfl | hm := eq_or_ne m n
    · exact ⟨f w, by simp [hw], hf w⟩
    · exact ⟨w, by simp [hm, hw], rfl, List.prefix_rfl, id⟩
  opened := le_rfl
  unused m _ hw := by
    obtain rfl | hm := eq_or_ne m n <;> simp [*]

/-- A write keeps the sockets. -/
theorem write (a : EdgeAgent) (n : ℕ) (data : Bytes) : Keeps a (a.write n data) :=
  modifyWriter a n fun _ => ⟨rfl, List.prefix_append _ _, id⟩

/-- A close keeps the sockets. -/
theorem close (a : EdgeAgent) (n : ℕ) : Keeps a (a.close n) :=
  modifyWriter a n fun _ => ⟨rfl, List.prefix_rfl, fun _ => rfl⟩

/-- A new socket takes the next number, which no writer has. -/
theorem connectionOpened (a : EdgeAgent) (request : OpenRequest)
    (hfresh : a.writer a.writers_opened = none) : Keeps a (a.opened request) where
  writer n w hw := by
    have hn : n ≠ a.writers_opened := by
      rintro rfl
      rw [hfresh] at hw
      cases hw
    exact ⟨w, by simp [hn, hw], rfl, List.prefix_rfl, id⟩
  opened := Nat.le_succ _
  unused n hn hw := by
    have hlt : a.writers_opened + 1 ≤ n := hn
    have hne : n ≠ a.writers_opened := by omega
    simp [hne, hw]

/-- Closing all sockets keeps them, closed. -/
theorem closeAll (a : EdgeAgent) : Keeps a a.closeAll where
  writer n w hw := by
    unfold EdgeAgent.closeAll
    dsimp only
    split_ifs
    · exact ⟨{ w with closed := true }, by rw [hw]; rfl, rfl, List.prefix_rfl, fun _ => rfl⟩
    · exact ⟨w, hw, rfl, List.prefix_rfl, id⟩
  opened := le_rfl
  unused n _ hw := by simp [hw]

end Keeps

/-- No writer has a number that is still to be given out. -/
def Unopened (a : EdgeAgent) : Prop := ∀ n, a.writers_opened ≤ n → a.writer n = none

/-- A received frame keeps the sockets. -/
theorem ReceiveRule.keeps {frame : RelayFrame} (h : ReceiveRule cfg s frame s') :
    Keeps s.agent s'.agent := by
  cases h with
  | writes => exact .write _ _ _
  | closes => exact (Keeps.close _ _).trans (.of_eq rfl rfl)
  | opens | unsupported | rejects | ignores => exact .of_eq rfl rfl

/-- A step of the main task keeps the sockets. -/
theorem MainRule.keeps (hU : Unopened s.agent) {main : AgentMain} {o : AgentOutcome}
    (h : MainRule cfg s main o s') : Keeps s.agent s'.agent := by
  cases h with
  | receives h => exact h.keeps
  | opened =>
    have hfresh := hU _ le_rfl
    exact (Keeps.connectionOpened s.agent _ hfresh).trans (.of_eq rfl rfl)
  | reset | missing => exact (Keeps.close _ _).trans (.of_eq rfl rfl)
  | refused | leaves => exact .closeAll _
  | _ => exact .of_eq rfl rfl

/-- A step of a reading task keeps the sockets. -/
theorem ReadRule.keeps {n : ℕ} {task : ReadTask} {o : AgentOutcome} (h : ReadRule s n task o s') :
    Keeps s.agent s'.agent := by
  cases h with
  | ends => exact (Keeps.close _ _).trans (.of_eq rfl rfl)
  | _ => exact .of_eq rfl rfl

/-- Every step of the agent keeps the sockets. -/
theorem AgentRule.keeps (hU : Unopened s.agent) (h : AgentRule cfg s e s') :
    Keeps s.agent s'.agent := by
  cases h with
  | main h => exact h.keeps hU
  | reader _ h => exact h.keeps
  | keepAlive | keepsAlive => exact .of_eq rfl rfl

/-! ## Entries and their writers -/

/-- What is still stored after a removal was stored before. -/
theorem lookup_remove {a : EdgeAgent} {c c' : ConnectionId} {n : ℕ}
    (h : (a.remove c').active_connections.lookup c = some n) :
    a.active_connections.lookup c = some n := by
  obtain rfl | hc := eq_or_ne c c'
  · simp at h
  · simpa [hc] using h

/-- A received frame stores nothing. -/
theorem ReceiveRule.lookup {frame : RelayFrame} (h : ReceiveRule cfg s frame s') {c : ConnectionId}
    {n : ℕ} (hn : s'.agent.active_connections.lookup c = some n) :
    s.agent.active_connections.lookup c = some n := by
  cases h with
  | closes => exact lookup_remove hn
  | _ => exact hn

/-- The main task stores a socket only when it has opened it. -/
theorem MainRule.lookup {main : AgentMain} {o : AgentOutcome} (h : MainRule cfg s main o s')
    {c : ConnectionId} {n : ℕ} (hn : s'.agent.active_connections.lookup c = some n) :
    s.agent.active_connections.lookup c = some n ∨
      ∃ request, o = .ok ∧ main = .opening request ∧ request.connection_id = c ∧
        n = s.agent.writers_opened := by
  cases h with
  | receives h => exact .inl (h.lookup hn)
  | @opened request =>
    obtain rfl | hc := eq_or_ne c request.connection_id
    · have hnew : some s.agent.writers_opened = some n := by
        simpa [AgentState.connectionOpened] using hn
      exact .inr ⟨request, rfl, rfl, rfl, (Option.some.inj hnew).symm⟩
    · exact .inl (by simpa [AgentState.connectionOpened, AList.lookup_insert_ne hc] using hn)
  | reset => exact .inl (lookup_remove hn)
  | refused | leaves => simp [AgentState.disconnected] at hn
  | _ => exact .inl hn

/-- An entry was there before, or its socket has just been opened. -/
theorem AgentRule.lookup (h : AgentRule cfg s e s') {c : ConnectionId} {n : ℕ}
    (hn : s'.agent.active_connections.lookup c = some n) :
    s.agent.active_connections.lookup c = some n ∨
      ∃ request, e = .main .ok ∧ s.main = .opening request ∧ request.connection_id = c ∧
        n = s.agent.writers_opened := by
  cases h with
  | main h =>
    obtain hold | ⟨request, rfl, hmain, hc, hn'⟩ := h.lookup hn
    · exact .inl hold
    · exact .inr ⟨request, rfl, hmain, hc, hn'⟩
  | keepAlive | keepsAlive => exact .inl hn
  | reader _ h =>
    cases h with
    | ends => exact .inl (lookup_remove hn)
    | _ => exact .inl hn

/-- The writer with the number `n` was opened for the request. -/
def EdgeAgent.Opened (a : EdgeAgent) (n : ℕ) (request : OpenRequest) : Prop :=
  ∃ w, a.writer n = some w ∧ w.request = request

/-- A socket that has been opened for a request stays so. -/
theorem EdgeAgent.Opened.keeps {a a' : EdgeAgent} {n : ℕ} {request : OpenRequest}
    (h : a.Opened n request) (hkeeps : Keeps a a') : a'.Opened n request := by
  obtain ⟨w, hw, hrequest⟩ := h
  obtain ⟨w', hw', hsame, -⟩ := hkeeps.writer n w hw
  exact ⟨w', hw', hsame.trans hrequest⟩

/-! ## Where the tasks come from -/

/-- The main task drains a socket that is stored. -/
theorem MainRule.draining {main : AgentMain} {o : AgentOutcome} (h : MainRule cfg s main o s')
    {c : ConnectionId} {n : ℕ} (hmain : s'.main = .draining c n) :
    s.agent.active_connections.lookup c = some n := by
  cases h with
  | receives h =>
    cases h with
    | writes _ hn =>
      obtain ⟨rfl, rfl⟩ := AgentMain.draining.inj hmain
      exact hn
    | ignores _ _ _ _ hmain' =>
      obtain rfl | rfl := hmain' <;> cases hmain
    | _ => cases hmain
  | refused | leaves =>
    simp only [AgentState.disconnected, setMain] at hmain
    split_ifs at hmain
  | _ => cases hmain

/-- The main task answers a request with the socket that it has just opened. -/
theorem MainRule.answering {main : AgentMain} {o : AgentOutcome} (h : MainRule cfg s main o s')
    {request : OpenRequest} {n : ℕ} (hmain : s'.main = .sendingOK request n) :
    n = s.agent.writers_opened ∧ s' = s.connectionOpened request := by
  cases h with
  | receives h =>
    cases h with
    | ignores _ _ _ _ hmain' =>
      obtain rfl | rfl := hmain' <;> cases hmain
    | _ => cases hmain
  | opened =>
    obtain ⟨rfl, rfl⟩ := AgentMain.sendingOK.inj hmain
    exact ⟨rfl, rfl⟩
  | refused | leaves =>
    simp only [AgentState.disconnected, setMain] at hmain
    split_ifs at hmain
  | _ => cases hmain

/-- A reading task starts after the answer to its request. -/
theorem MainRule.reader {main : AgentMain} {o : AgentOutcome} (h : MainRule cfg s main o s')
    {n : ℕ} {task : ReadTask} (htask : s'.reader n = some task) :
    s.reader n = some task ∨ main = .sendingOK task.request n := by
  cases h with
  | receives h => cases h <;> exact .inl htask
  | @answered request m =>
    obtain rfl | hn := eq_or_ne n m
    · have hnew : some { request, session := s.session } = some task := by simpa using htask
      obtain rfl := Option.some.inj hnew
      exact .inr rfl
    · exact .inl (by simpa [hn] using htask)
  | _ => exact .inl htask

/-- A reading task keeps its request. -/
theorem ReadRule.reader {n m : ℕ} {task task' : ReadTask} {o : AgentOutcome}
    (h : ReadRule s n task o s') (htask : s.reader n = some task)
    (htask' : s'.reader m = some task') :
    ∃ task, s.reader m = some task ∧ task.request = task'.request := by
  obtain rfl | hm := eq_or_ne m n
  · refine ⟨task, htask, ?_⟩
    cases h with
    | sends | sent | ends | finishes =>
      obtain rfl : _ = task' := by simpa [AgentState.readEnds] using htask'
      rfl
  · refine ⟨task', ?_, rfl⟩
    cases h <;> simpa [AgentState.readEnds, hm] using htask'

/-- What refers to a writer refers to one that was opened for its own connection. -/
structure Sockets (s : AgentState) : Prop where
  unopened : Unopened s.agent
  stored : ∀ c n, s.agent.active_connections.lookup c = some n →
    ∃ request, s.agent.Opened n request ∧ request.connection_id = c
  draining : ∀ c n, s.main = .draining c n →
    ∃ request, s.agent.Opened n request ∧ request.connection_id = c
  answering : ∀ request n, s.main = .sendingOK request n → s.agent.Opened n request
  reader : ∀ n task, s.reader n = some task → s.agent.Opened n task.request

namespace Sockets

/-- No socket has been opened. -/
theorem initial : Sockets {} where
  unopened _ _ := rfl
  stored _ _ h := by simp at h
  draining _ _ h := nomatch h
  answering _ _ h := nomatch h
  reader _ _ h := nomatch h

/-- The socket that is opened is one for the request. -/
theorem of_opened {a : EdgeAgent} (request : OpenRequest) :
    (a.opened request).Opened a.writers_opened request := by
  exact ⟨{ request }, by simp, rfl⟩

/-- What is stored under an id is a socket that has been opened for it. -/
theorem stored_step (hS : Sockets s) (h : AgentRule cfg s e s') {c : ConnectionId} {n : ℕ}
    (hn : s'.agent.active_connections.lookup c = some n) :
    ∃ request, s'.agent.Opened n request ∧ request.connection_id = c := by
  have hkeeps := h.keeps hS.unopened
  obtain hold | ⟨request, rfl, hmain, hc, rfl⟩ := h.lookup hn
  · obtain ⟨request, hopened, hc⟩ := hS.stored c n hold
    exact ⟨request, hopened.keeps hkeeps, hc⟩
  · refine ⟨request, ?_, hc⟩
    cases h with
    | main h =>
      rw [hmain] at h
      cases h with
      | opened => exact of_opened request
      | goesOn hmain => simp at hmain

/-- Every step keeps the invariant. -/
theorem preserved (hS : Sockets s) (h : AgentRule cfg s e s') : Sockets s' where
  unopened := by
    have hkeeps := h.keeps hS.unopened
    exact fun n hn => hkeeps.unused n hn (hS.unopened n (hkeeps.opened.trans hn))
  stored _ _ hn := hS.stored_step h hn
  draining c n hmain := by
    have hkeeps := h.keeps hS.unopened
    have hbefore : s.agent.active_connections.lookup c = some n ∨ s.main = .draining c n := by
      cases h with
      | main h => exact .inl (h.draining hmain)
      | keepAlive | keepsAlive => exact .inr hmain
      | reader _ h => cases h <;> exact .inr hmain
    obtain ⟨request, hopened, hc⟩ := hbefore.elim (hS.stored c n) (hS.draining c n)
    exact ⟨request, hopened.keeps hkeeps, hc⟩
  answering request n hmain := by
    have hkeeps := h.keeps hS.unopened
    cases h with
    | main h =>
      obtain ⟨rfl, rfl⟩ := h.answering hmain
      exact of_opened request
    | keepAlive | keepsAlive => exact (hS.answering request n hmain).keeps hkeeps
    | reader _ h =>
      refine EdgeAgent.Opened.keeps (hS.answering request n ?_) hkeeps
      cases h <;> exact hmain
  reader n task htask := by
    have hkeeps := h.keeps hS.unopened
    cases h with
    | main h =>
      obtain hold | hanswer := h.reader htask
      · exact (hS.reader n task hold).keeps hkeeps
      · exact (hS.answering _ n hanswer).keeps hkeeps
    | keepAlive | keepsAlive => exact (hS.reader n task htask).keeps hkeeps
    | reader htask₀ h =>
      obtain ⟨task₀, hbefore, hrequest⟩ := h.reader htask₀ htask
      exact hrequest ▸ (hS.reader n task₀ hbefore).keeps hkeeps

end Sockets

/-- The invariant holds in every reachable state. -/
theorem sockets {ok : AgentState → AgentEvent → Prop} (h : Reaches (agentStep cfg) ok {} s) :
    Sockets s :=
  h.invariant .initial fun _ _ _ _ _ hs hS => hS.preserved (agentStep_rule hs)

end HttpNetworkRelay
