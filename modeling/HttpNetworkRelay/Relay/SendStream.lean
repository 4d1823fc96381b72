import HttpNetworkRelay.Relay.SendRules

/-!
# The byte stream of TcpConnection.send

What the agent's websocket carries of what worker threads send. The contents of a connection are a
pipe in the order in which their threads acquire `send_buffer_lock`: a content is on the way until
it is appended to the buffer, and what is in the buffer or in the hands of a `send_async` is yet to
be put on the websocket. A buffer with something in it has a `send_async` that is yet to take it, or
a thread about to schedule one.
-/

namespace HttpNetworkRelay

open Asyncio Python SendState NetworkRelay

variable {s s' : SendState} {e : SendEvent} {k : ℕ} {c : ConnectionId}

/-! ## The bytes -/

namespace SendState

/-- The lock of a connection and those who hold it are as they were. -/
structure Keeps (s s' : SendState) (c : ConnectionId) : Prop where
  lock : s'.send_buffer_lock c = s.send_buffer_lock c
  coroutines : ∀ k, s.send_buffer_lock c = some (.coroutine k) → s'.coroutine k = s.coroutine k
  threads : ∀ w, s.send_buffer_lock c = some (.thread w) → s'.call w = s.call w

/-- The payload in the hands of a `send_async` stays. -/
theorem Keeps.sending (h : Keeps s s' c) : s'.sending c = s.sending c := by
  unfold SendState.sending
  rw [h.lock]
  match hlock : s.send_buffer_lock c with
  | none | some (.thread _) => rfl
  | some (.coroutine k) => simp [h.coroutines k hlock]

/-- The content that a thread is about to append stays. -/
theorem Keeps.appending (h : Keeps s s' c) : s'.appending c = s.appending c := by
  unfold SendState.appending
  rw [h.lock]
  match hlock : s.send_buffer_lock c with
  | none | some (.coroutine _) => rfl
  | some (.thread w) => simp [h.threads w hlock]

/-- A step that leaves the bytes of a connection alone. -/
theorem Keeps.pipe (h : Keeps s s' c) (hput : s'.relay.putBytes c = s.relay.putBytes c)
    (hbuffer : s'.send_buffer c = s.send_buffer c) {relay : NetworkRelay}
    {l l' : List (ConnectionId × Bytes)} (hshown : contents c l' = []) :
    Pipe.Moves (s.pipe relay l c) (s'.pipe relay (l ++ l') c) := by
  refine .nothing ?_ h.appending ?_ hput
  · simp [hshown]
  · simp only [SendState.pipe]
    rw [h.sending, hbuffer]

/-- The connection object is the only one that has changed. -/
theorem modifyConnection_keeps_put (r : NetworkRelay) (c c' : ConnectionId)
    {f : TcpConnection → TcpConnection} (hf : ∀ x, (f x).agent_connection = x.agent_connection) :
    (r.modifyConnection c f).putBytes c' = r.putBytes c' := by
  refine putBytes_congr ?_ rfl
  by_cases hc : c' = c
  · subst hc
    simp [Function.comp_def, hf]
  · simp [hc]

/-- A drop leaves the send buffers as they are. -/
theorem drop_send_buffer (s : SendState) (c c' : ConnectionId) :
    (s.withRelay (s.relay._drop_relayed_connection c)).send_buffer c' = s.send_buffer c' := by
  simp only [send_buffer, withRelay, _drop_relayed_connection]
  split_ifs
  · by_cases hc : c' = c
    · subst hc
      cases s.relay.connection c' <;> simp [TcpConnection.wake_readers]
    · simp [hc]
  · rfl

/-- A drop leaves what has been put on the websocket as it is. -/
theorem drop_putBytes (r : NetworkRelay) (c c' : ConnectionId) :
    (r._drop_relayed_connection c).putBytes c' = r.putBytes c' := by
  refine putBytes_congr ?_ rfl
  simp only [_drop_relayed_connection]
  split_ifs
  · by_cases hc : c' = c
    · subst hc
      simp [Function.comp_def, TcpConnection.wake_readers]
    · simp [hc]
  · rfl

end SendState

namespace SendsLocked

variable {w : ℕ} {c' : ConnectionId} {content : Bytes} {relay : NetworkRelay}
  {l : List (ConnectionId × Bytes)}

/-- A thread that is not in its append keeps all locks. -/
theorem call_keeps (hL : SendsLocked s) {call : Option SendCall}
    (hcall : s'.call = Function.update s.call w call)
    (h : ∀ c content, s.call w ≠ some ⟨c, content, .extending⟩)
    (hlock : s'.send_buffer_lock c' = s.send_buffer_lock c')
    (hcoroutine : ∀ k, (∃ task, s.coroutine k = some task) → s'.coroutine k = s.coroutine k) :
    s.Keeps s' c' where
  lock := hlock
  coroutines k hk := by
    obtain ⟨point, hpoint, -⟩ := (hL.coroutines c' k).mp hk
    exact hcoroutine k ⟨_, hpoint⟩
  threads w' hw := by
    have hne : w' ≠ w := by
      rintro rfl
      exact hL.not_holder h c' hw
    rw [hcall, Function.update_of_ne hne]

/-- A thread acquires the lock: its content is on the way. -/
theorem acquires_pipe (hL : SendsLocked s) (hcall : s.call w = some ⟨c, content, .acquiring⟩)
    (hfree : s.send_buffer_lock c = none) (c' : ConnectionId) :
    Pipe.Moves (s.pipe relay l c')
      (((s.setLock c (some (.thread w))).setCall w ⟨c, content, .extending⟩).pipe relay
        (l ++ s.shows (.thread w)) c') := by
  have hshows : s.shows (.thread w) = [(c, content)] := by simp [SendState.shows, hcall]
  rw [hshows]
  by_cases hc : c' = c
  · subst hc
    refine .sends content ?_ ?_ ?_ rfl
    · simp [contents]
    · simp [SendState.appending, hfree]
    · simp [SendState.sending, SendState.send_buffer, hfree]
  · have hkeeps :
        s.Keeps ((s.setLock c (some (.thread w))).setCall w ⟨c, content, .extending⟩) c' :=
      hL.call_keeps (w := w) rfl (by simp [hcall]) (by simp [hc]) fun _ _ => rfl
    exact hkeeps.pipe rfl rfl (by simp [contents, Ne.symm hc])

/-- A thread appends its content and releases the lock. -/
theorem extends_pipe (hL : SendsLocked s) (hcall : s.call w = some ⟨c, content, .extending⟩)
    (hmade : (s.relay.connection c).isSome = true) (c' : ConnectionId) :
    Pipe.Moves (s.pipe relay l c')
      ((((s.withRelay (s.relay.modifyConnection c fun connection =>
        { connection with send_buffer := connection.send_buffer ++ content })).setLock c
          none).setCall w ⟨c, content, .scheduling⟩).pipe relay (l ++ s.shows (.thread w)) c') := by
  have hshows : s.shows (.thread w) = [] := by simp [SendState.shows, hcall]
  have hlock : s.send_buffer_lock c = some (.thread w) := (hL.threads c w).mpr ⟨content, hcall⟩
  have hput := modifyConnection_keeps_put s.relay c c' (f := fun connection =>
    { connection with send_buffer := connection.send_buffer ++ content }) fun _ => rfl
  rw [hshows]
  by_cases hc : c' = c
  · subst hc
    obtain ⟨connection, hconnection⟩ := Option.isSome_iff_exists.mp hmade
    -- The content moves from the hands of the thread to the end of the buffer.
    refine .arrives content trivial ?_ ?_ ?_ hput
    · simp
    · simp [SendState.appending, hlock, hcall]
    · simp [SendState.sending, SendState.send_buffer, hlock, hconnection]
  · have hkeeps : s.Keeps (((s.withRelay (s.relay.modifyConnection c fun connection =>
        { connection with send_buffer := connection.send_buffer ++ content })).setLock c
          none).setCall w ⟨c, content, .scheduling⟩) c' := {
      lock := by simp [hc]
      coroutines := fun _ _ => rfl
      threads := fun w' hw => by
        -- The lock of the other connection is held by another thread, if by any.
        have hne : w' ≠ w := by
          rintro rfl
          obtain ⟨content', hcall'⟩ := (hL.threads c' w').mp hw
          simp [hcall, Ne.symm hc] at hcall'
        simp [hne] }
    refine hkeeps.pipe hput ?_ rfl
    simp [SendState.send_buffer, hc]

/-- A stretch of a `send_async` does not touch the lock of another connection. -/
theorem moves_keeps (hL : SendsLocked s) {point point' : SendAsyncPoint}
    (hmoves : CoroutineMoves s s' k c point point') (hc : c' ≠ c) : s.Keeps s' c' where
  lock := by rw [hmoves.lock, Function.update_of_ne hc]
  coroutines k' hk' := by
    obtain ⟨point'', hpoint, -⟩ := (hL.coroutines c' k').mp hk'
    have hne : k' ≠ k := by
      rintro rfl
      rw [hmoves.before] at hpoint
      simp [Ne.symm hc] at hpoint
    rw [hmoves.coroutine, Function.update_of_ne hne]
  threads w _ := by rw [hmoves.call]

/-- What the `send_async` has in its hands, before and after. -/
theorem moves_sending {point point' : SendAsyncPoint}
    (hmoves : CoroutineMoves s s' k c point point') :
    s.sending c = SendAsync.payload ⟨c, point⟩ ∧ s'.sending c = SendAsync.payload ⟨c, point'⟩ := by
  -- Only a `send_async` that waits for the agent's lock has bytes in its hands.
  have hnone : ∀ point : SendAsyncPoint, point.suspended = false →
      SendAsync.payload ⟨c, point⟩ = [] := by
    intro point hpoint
    cases point with
    | acquiring => cases hpoint
    | _ => rfl
  constructor
  · unfold SendState.sending
    rcases hmoves.own with ⟨hpoint, hlock⟩ | ⟨-, hlock⟩
    · rw [hlock, hnone point hpoint]
      rfl
    · simp [hlock, hmoves.before]
  · unfold SendState.sending
    rw [hmoves.lock, Function.update_self, hmoves.coroutine]
    split_ifs with hpoint
    · simp
    · rw [hnone point' (by simpa using hpoint)]
      rfl

/-- No thread is about to append while a `send_async` moves. -/
theorem moves_appending {point point' : SendAsyncPoint}
    (hmoves : CoroutineMoves s s' k c point point') : s.appending c = [] ∧ s'.appending c = [] := by
  constructor
  · unfold SendState.appending
    rcases hmoves.own with ⟨-, hlock⟩ | ⟨-, hlock⟩ <;> simp [hlock]
  · unfold SendState.appending
    rw [hmoves.lock, Function.update_self]
    split_ifs <;> rfl

/-- What a stretch of a `send_async` does to the bytes of its connection. -/
theorem moves_pipe_own {point point' : SendAsyncPoint}
    (hmoves : CoroutineMoves s s' k c point point') (hbytes : BytesRule s s' c point point') :
    Pipe.Moves (s.pipe relay l c) (s'.pipe relay l c) := by
  obtain ⟨hsending, hsending'⟩ := moves_sending hmoves
  obtain ⟨happending, happending'⟩ := moves_appending hmoves
  have hflight : s'.appending c = s.appending c := happending'.trans happending.symm
  -- Past the agent's lock its hands are empty, and so they are before it takes the buffer.
  have hgone : (∀ message, point' ≠ .acquiring message) → s'.sending c = [] := by
    intro hpoint'
    rw [hsending']
    cases point' with
    | acquiring message => exact absurd rfl (hpoint' message)
    | _ => rfl
  have hidle : point.suspended = false → s.sending c = [] := by
    intro hpoint
    rw [hsending]
    cases point with
    | acquiring => cases hpoint
    | _ => rfl
  have htaken : ∀ r : NetworkRelay,
      (r.modifyConnection c ({ · with send_buffer := [] })).putBytes c = r.putBytes c :=
    fun r => modifyConnection_keeps_put r c c fun _ => rfl
  cases hbytes with
  -- What was in the buffer is in its hands.
  | @takes m hm hpoint hpoint' hrelay =>
    have hbuffer : s'.send_buffer c = [] := by
      unfold SendState.send_buffer
      rw [hrelay]
      cases h : s.relay.connection c <;> simp [h]
    refine .nothing rfl hflight ?_ ?_
    · simp only [SendState.pipe]
      rw [hsending', hidle hpoint, hbuffer, hpoint']
      simp [SendAsync.payload, RelayFrame.dataFor_of_data? hm]
    · simp only [SendState.pipe]
      rw [hrelay, htaken]
  -- What was in the buffer is on the websocket.
  | @flushes connection m hc hm hpoint hpoint' hrelay =>
    have hbuffer : s'.send_buffer c = [] := by
      unfold SendState.send_buffer
      rw [hrelay]
      simp [hc]
    refine .delivers (s.send_buffer c).length rfl hflight ?_ ?_
    · simp only [SendState.pipe]
      rw [hgone hpoint', hidle hpoint, hbuffer]
      simp
    · simp only [SendState.pipe]
      rw [hrelay, hidle hpoint]
      have hc' : (s.relay.modifyConnection c ({ · with send_buffer := [] })).connection c =
          some { connection with send_buffer := [] } := by simp [hc]
      have hput := putBytes_sendToAgent hc' hm
      rw [htaken] at hput
      simpa using hput
  -- What was in its hands is on the websocket, and the buffer may have grown since.
  | @puts connection m payload hc hpoint hm hpoint' hrelay =>
    have hpayload : s.sending c = payload := by
      rw [hsending, hpoint]
      exact RelayFrame.dataFor_of_data? hm
    have hbuffer : s'.send_buffer c = s.send_buffer c := by
      unfold SendState.send_buffer
      rw [hrelay]
      rfl
    refine .delivers payload.length rfl hflight ?_ ?_
    · simp only [SendState.pipe]
      rw [hgone hpoint', hpayload, hbuffer]
      simp
    · simp only [SendState.pipe]
      rw [hrelay, hpayload, putBytes_sendToAgent hc hm]
      simp
  | nothing hpoint hpoint' hrelay =>
    have hbuffer : s'.send_buffer c = s.send_buffer c := by
      unfold SendState.send_buffer
      rw [hrelay]
    refine .nothing rfl hflight ?_ ?_
    · simp only [SendState.pipe]
      rw [hgone hpoint', hsending, hbuffer, hpoint]
      rfl
    · simp only [SendState.pipe]
      rw [hrelay]

/-- It leaves the bytes of the other connections alone. -/
theorem moves_pipe_other (hL : SendsLocked s) {point point' : SendAsyncPoint}
    (hmoves : CoroutineMoves s s' k c point point') (hbytes : BytesRule s s' c point point')
    (hc : c' ≠ c) : Pipe.Moves (s.pipe relay l c') (s'.pipe relay (l ++ []) c') := by
  -- Taking the buffer of `c` puts nothing on a websocket.
  have htaken : (s.relay.modifyConnection c ({ · with send_buffer := [] })).putBytes c' =
      s.relay.putBytes c' := modifyConnection_keeps_put s.relay c c' fun _ => rfl
  refine (hL.moves_keeps hmoves hc).pipe ?_ ?_ rfl
  · cases hbytes with
    | takes _ _ _ hrelay => rw [hrelay, htaken]
    | flushes _ hm _ _ hrelay => rw [hrelay, putBytes_sendToAgent_of_ne (Ne.symm hc) hm, htaken]
    | puts _ _ hm _ hrelay => rw [hrelay, putBytes_sendToAgent_of_ne (Ne.symm hc) hm]
    | nothing _ _ hrelay => rw [hrelay]
  · unfold SendState.send_buffer
    cases hbytes with
    | takes _ _ _ hrelay | flushes _ _ _ _ hrelay =>
      rw [hrelay]
      simp [hc]
    | puts _ _ _ _ hrelay =>
      rw [hrelay]
      rfl
    | nothing _ _ hrelay => rw [hrelay]

/-- What a step does to the bytes of a connection. -/
theorem pipe_moves (hL : SendsLocked s) (h : SendRule s e s') (c' : ConnectionId)
    (hmade : ∀ w c content, s.call w = some ⟨c, content, .extending⟩ →
      (s.relay.connection c).isSome = true) :
    Pipe.Moves (s.pipe relay l c') (s'.pipe relay (l ++ s.shows e) c') := by
  have hsame : ∀ s' : SendState, s'.send_buffer_lock = s.send_buffer_lock → s'.call = s.call →
      (∀ k, s.send_buffer_lock c' = some (.coroutine k) → s'.coroutine k = s.coroutine k) →
      s.Keeps s' c' := fun s' hlock hcall hcoroutine => {
    lock := by rw [hlock]
    coroutines := hcoroutine
    threads := fun w _ => by rw [hcall] }
  cases e with
  | calls w c content =>
    obtain ⟨hover, -⟩ := h
    have hkeeps : s.Keeps (s.setCall w { connection_id := c, content }) c' := by
      refine hL.call_keeps (w := w) rfl (fun c content hcall => ?_) rfl fun _ _ => rfl
      rw [hcall] at hover
      cases hover
    exact hkeeps.pipe rfl rfl rfl
  | thread w =>
    -- A thread past the acquire that does not append moves no bytes.
    have hnothing : ∀ {point c content}, s.call w = some ⟨c, content, point⟩ → point ≠ .acquiring →
        s.shows (.thread w) = [] := by
      intro point c content hcall hpoint
      simp [SendState.shows, hcall, hpoint]
    cases h with
    | acquires hcall hfree => exact hL.acquires_pipe hcall hfree c'
    | «extends» hcall => exact hL.extends_pipe hcall (hmade w _ _ hcall) c'
    -- The new coroutine has taken nothing yet.
    | @schedules _ c content hcall =>
      rw [hnothing hcall (by simp)]
      have hkeeps : s.Keeps ((s.scheduleSend c).setCall w ⟨c, content, .checking⟩) c' := by
        refine hL.call_keeps (w := w) rfl (by simp [hcall]) rfl ?_
        rintro k ⟨task, hk⟩
        have hne : k ≠ s.coroutines_created := by
          rintro rfl
          simp [hL.fresh _ (Nat.le_refl _)] at hk
        simp [hne]
      exact hkeeps.pipe rfl rfl rfl
    | @checks _ c content result hcall =>
      rw [hnothing hcall (by simp)]
      have hkeeps : s.Keeps (s.setCall w ⟨c, content, .finished result⟩) c' :=
        hL.call_keeps (w := w) rfl (by simp [hcall]) rfl fun _ _ => rfl
      exact hkeeps.pipe rfl rfl rfl
  | loop a =>
    show Pipe.Moves _ (s'.pipe relay (l ++ []) c')
    cases hL.loop_rule h with
    | queue hs' =>
      subst hs'
      exact (hsame { s with ready := _, blocked := none } rfl rfl fun _ _ => rfl).pipe rfl rfl rfl
    | @blocks k c rest _ _ hk hs' =>
      subst hs'
      refine (hsame { (s.setReady rest).setCoroutine k ⟨c, .blocked⟩ with blocked := some k }
        rfl rfl fun k' hk' => ?_).pipe rfl rfl rfl
      obtain ⟨point, hpoint, hsuspended⟩ := (hL.coroutines c' k').mp hk'
      -- The coroutine that blocks is not the one that holds the lock.
      have hne : k' ≠ k := by
        rintro rfl
        rw [hk] at hpoint
        obtain ⟨rfl, rfl⟩ : c = c' ∧ SendAsyncPoint.scheduled = point := by simpa using hpoint
        cases hsuspended
      simp [hne]
    | @moves k c _ _ hmoves hbytes =>
      by_cases hc : c' = c
      · subst hc
        rw [List.append_nil]
        exact moves_pipe_own hmoves hbytes
      · exact hL.moves_pipe_other hmoves hbytes hc
  | wakes k =>
    cases h
    exact (hsame (s.setReady (s.ready ++ [.resume k])) rfl rfl fun _ _ => rfl).pipe rfl rfl rfl
  | drops c =>
    cases h
    exact (hsame (s.withRelay (s.relay._drop_relayed_connection c)) rfl rfl fun _ _ => rfl).pipe
      (drop_putBytes s.relay c c') (drop_send_buffer s c c') rfl

end SendsLocked

/-! ## Every buffer is flushed -/

namespace SendState

/-- A `send_async` that is yet to take the buffer is on its way: it has a handle in the queue, or
the thread of the event loop waits in it for the lock. -/
def Scheduled (s : SendState) (c : ConnectionId) (k : ℕ) : Prop :=
  s.coroutine k = some ⟨c, .scheduled⟩ ∧ (.create k ∈ s.ready ∨ .start k ∈ s.ready) ∨
    s.coroutine k = some ⟨c, .blocked⟩ ∧ s.blocked = some k

/-- A buffer with something in it is about to be flushed. -/
def Flushed (s : SendState) (c : ConnectionId) : Prop :=
  s.send_buffer c ≠ [] →
    (∃ w content, s.call w = some ⟨c, content, .scheduling⟩) ∨ ∃ k, s.Scheduled c k

/-- A change of one connection leaves it known which there are. -/
theorem modifyConnection_isSome (r : NetworkRelay) (c c' : ConnectionId)
    (f : TcpConnection → TcpConnection) :
    ((r.modifyConnection c f).connection c').isSome = (r.connection c').isSome := by
  by_cases hc : c' = c
  · subst hc
    simp
  · simp [hc]

end SendState

variable {w : ℕ} {c' : ConnectionId} {content : Bytes} {point point' : SendAsyncPoint}

/-- A thread that is not about to schedule a `send_async` goes on. -/
theorem SendState.Flushed.call_moves (hF : s.Flushed c) {call : SendCall}
    (hbuffer : s'.send_buffer c = s.send_buffer c)
    (hcall : s'.call = Function.update s.call w (some call))
    (h : ∀ c content, s.call w ≠ some ⟨c, content, .scheduling⟩)
    (hrest : ∀ k, s.Scheduled c k → s'.Scheduled c k) : s'.Flushed c := by
  intro hne
  rw [hbuffer] at hne
  rcases hF hne with ⟨w', content, hw'⟩ | ⟨k, hk⟩
  · have hw : w' ≠ w := by
      rintro rfl
      exact h c content hw'
    exact .inl ⟨w', content, by rw [hcall, Function.update_of_ne hw, hw']⟩
  · exact .inr ⟨k, hrest k hk⟩

/-- The threads stay where they are. -/
theorem SendState.Flushed.stays (hF : s.Flushed c) (hbuffer : s'.send_buffer c = s.send_buffer c)
    (hcall : s'.call = s.call) (hrest : ∀ k, s.Scheduled c k → s'.Scheduled c k) :
    s'.Flushed c := by
  intro hne
  rw [hbuffer] at hne
  rw [hcall]
  exact (hF hne).imp_right fun ⟨k, hk⟩ => ⟨k, hrest k hk⟩

/-- The other coroutines keep their handles. -/
theorem CoroutineMoves.scheduled (hmoves : CoroutineMoves s s' k c point point') {k' : ℕ}
    (hne : k' ≠ k) (h : s.Scheduled c' k') : s'.Scheduled c' k' := by
  have hcoroutine : s'.coroutine k' = s.coroutine k' := by
    rw [hmoves.coroutine, Function.update_of_ne hne]
  -- A coroutine that waits to run is in the queue, or the thread of the loop is blocked in it.
  rcases h with ⟨hk', hhandle⟩ | ⟨-, hblocked⟩
  · refine .inl ⟨hcoroutine.trans hk', ?_⟩
    cases hmoves.runs with
    | started _ hready | resumed _ hready =>
      rw [hready] at hhandle
      simpa [hne] using hhandle
    | unblocked _ hready => rwa [hready] at hhandle
  · -- The thread of the event loop is in `k`.
    cases hmoves.runs with
    | started hnone | resumed hnone =>
      rw [hnone] at hblocked
      cases hblocked
    | unblocked hk =>
      rw [hk] at hblocked
      exact absurd (Option.some.inj hblocked).symm hne

namespace SendsLocked

/-- A `send_async` that moves leaves the buffers about to be flushed. -/
theorem moves_flushed (hmoves : CoroutineMoves s s' k c point point')
    (hbytes : BytesRule s s' c point point') (hF : s.Flushed c') : s'.Flushed c' := by
  -- The one that moves was not about to take this buffer, so those that are still will.
  have hrest : c' ≠ c ∨ point.suspended = true → ∀ k', s.Scheduled c' k' → s'.Scheduled c' k' := by
    intro hother k' hk'
    refine hmoves.scheduled ?_ hk'
    rintro rfl
    have hbefore := hmoves.before
    rcases hk' with ⟨hk', -⟩ | ⟨hk', -⟩ <;>
    · rw [hbefore] at hk'
      obtain ⟨rfl, rfl⟩ := SendAsync.mk.inj (Option.some.inj hk')
      rcases hother with hne | hsuspended
      · exact hne rfl
      · cases hsuspended
  by_cases hc : c' = c
  · subst hc
    cases hbytes with
    | takes _ _ _ hrelay | flushes _ _ _ _ hrelay =>
      -- The buffer has just been taken.
      intro hne
      refine absurd ?_ hne
      unfold SendState.send_buffer
      rw [hrelay]
      cases h : s.relay.connection c' <;> simp [h]
    | puts _ hpoint _ _ hrelay =>
      refine hF.stays ?_ hmoves.call (hrest (.inr (by rw [hpoint]; rfl)))
      unfold SendState.send_buffer
      rw [hrelay]
      rfl
    | nothing hpoint _ hrelay =>
      refine hF.stays ?_ hmoves.call (hrest (.inr (by rw [hpoint]; rfl)))
      unfold SendState.send_buffer
      rw [hrelay]
  · refine hF.stays ?_ hmoves.call (hrest (.inl hc))
    unfold SendState.send_buffer
    cases hbytes with
    | takes _ _ _ hrelay | flushes _ _ _ _ hrelay =>
      rw [hrelay]
      simp [hc]
    | puts _ _ _ _ hrelay =>
      rw [hrelay]
      rfl
    | nothing _ _ hrelay => rw [hrelay]

/-- A step of a thread. -/
theorem thread_flushed (hL : SendsLocked s) (h : SendRule s (.thread w) s') (hF : s.Flushed c') :
    s'.Flushed c' := by
  cases h with
  | acquires hcall | checks hcall =>
    exact hF.call_moves (w := w) rfl rfl (by simp [hcall]) fun _ hk => hk
  -- The thread that has appended is about to schedule a flush.
  | @«extends» _ c content hcall =>
    by_cases hc : c' = c
    · subst hc
      exact fun _ => .inl ⟨w, content, by simp⟩
    · refine hF.call_moves (w := w) ?_ rfl (by simp [hcall]) fun _ hk => hk
      simp [SendState.send_buffer, hc]
  | @schedules _ c content hcall =>
    by_cases hc : c' = c
    · subst hc
      exact fun _ => .inr ⟨s.coroutines_created, .inl ⟨by simp, .inl (by simp)⟩⟩
    · intro hne
      -- The flush of another connection is with another thread, or with an older coroutine.
      rcases hF hne with ⟨w', content', hw'⟩ | ⟨k, hk⟩
      · have hw : w' ≠ w := by
          rintro rfl
          simp [hcall, Ne.symm hc] at hw'
        exact .inl ⟨w', content', by simpa [hw] using hw'⟩
      · have hne : k ≠ s.coroutines_created := by
          rintro rfl
          rcases hk with ⟨hk, -⟩ | ⟨hk, -⟩ <;> simp [hL.fresh _ (Nat.le_refl _)] at hk
        rcases hk with ⟨hk, hhandle⟩ | ⟨hk, hblocked⟩
        · have hhandle' := hhandle.imp (List.mem_append_left [.create s.coroutines_created])
            (List.mem_append_left [.create s.coroutines_created])
          exact .inr ⟨k, .inl ⟨by simpa [hne] using hk, hhandle'⟩⟩
        · exact .inr ⟨k, .inr ⟨by simpa [hne] using hk, hblocked⟩⟩

/-- A step of the event loop. -/
theorem loop_flushed (h : LoopRule s s') (hF : s.Flushed c') : s'.Flushed c' := by
  cases h with
  | queue hs' hblocked hready =>
    subst hs'
    refine hF.stays rfl rfl fun k hk => ?_
    rcases hk with ⟨hk, hhandle⟩ | ⟨-, hk⟩
    · exact .inl ⟨hk, hready k c' hk hhandle⟩
    · rw [hblocked] at hk
      cases hk
  | @blocks k c rest hblocked hready hk hs' =>
    subst hs'
    refine hF.stays rfl rfl fun k' hk' => ?_
    rcases hk' with ⟨hk', hhandle⟩ | ⟨-, hk'⟩
    · by_cases hne : k' = k
      · -- Its handle has been taken out of the queue, and the thread waits in it.
        subst hne
        rw [hk] at hk'
        obtain ⟨rfl, -⟩ := SendAsync.mk.inj (Option.some.inj hk')
        exact .inr ⟨by simp, rfl⟩
      · rw [hready] at hhandle
        exact .inl ⟨by simpa [hne] using hk', by simpa [hne] using hhandle⟩
    · rw [hblocked] at hk'
      cases hk'
  | moves hmoves hbytes => exact moves_flushed hmoves hbytes hF

/-- A step leaves the buffers about to be flushed. -/
theorem flushed_step (hL : SendsLocked s) (h : SendRule s e s') (hF : s.Flushed c') :
    s'.Flushed c' := by
  cases e with
  | calls w c content =>
    obtain ⟨hover, -⟩ := h
    refine hF.call_moves (w := w) rfl rfl (fun c content hcall => ?_) fun _ hk => hk
    rw [hcall] at hover
    cases hover
  | thread w => exact hL.thread_flushed h hF
  | loop a => exact loop_flushed (hL.loop_rule h) hF
  | wakes k =>
    cases h
    refine hF.stays rfl rfl fun k' hk' => hk'.imp_left fun ⟨hk', hhandle⟩ => ⟨hk', ?_⟩
    exact hhandle.imp (List.mem_append_left _) (List.mem_append_left _)
  | drops c =>
    cases h
    exact hF.stays (drop_send_buffer s c c') rfl fun _ hk => hk

end SendsLocked

/-! ## Every run -/

/-- The sends on an agent's websocket do not raise. -/
def SendsSucceed : SendEvent → Bool
  | .loop (.raises _) => false
  | _ => true

/-- The bytes of each connection are conserved: what has been put on the websocket, what the
`send_async` that holds the lock is about to put there, the buffer, and what the thread that holds
the lock is about to append are the contents in the order in which the lock was acquired. And unless
a thread is about to schedule one, a buffer with something in it has a `send_async`. -/
structure SendState.Conserves (s : SendState) (relay : NetworkRelay)
    (l : List (ConnectionId × Bytes)) : Prop where
  whole : ∀ c, s.relay.putBytes c ++ (s.sending c ++ s.send_buffer c) ++ s.appending c =
    relay.putBytes c ++ (contents c l).flatten
  flushed : ∀ c, s.send_buffer c ≠ [] →
    (∀ w content, s.call w ≠ some ⟨c, content, .scheduling⟩) → ∃ k, s.Scheduled c k

/-- The invariant of the record. -/
structure SendState.Accounted (s : SendState) (relay : NetworkRelay)
    (l : List (ConnectionId × Bytes)) : Prop where
  locked : SendsLocked s
  made : ∀ w call, s.call w = some call → (s.relay.connection call.connection_id).isSome = true
  intact : ∀ c, (s.pipe relay l c).Intact
  flushed : ∀ c, s.Flushed c

/-- Connection objects stay. -/
theorem SendRule.connection_isSome (hL : SendsLocked s) (h : SendRule s e s')
    (hc : (s.relay.connection c).isSome = true) : (s'.relay.connection c).isSome = true := by
  cases e with
  | calls | wakes =>
    cases h
    exact hc
  | thread w =>
    cases h with
    | acquires | schedules | checks => exact hc
    | «extends» => rwa [← modifyConnection_isSome] at hc
  | loop a =>
    cases hL.loop_rule h with
    | queue hs' | blocks _ _ _ hs' =>
      subst hs'
      exact hc
    | moves _ hbytes =>
      cases hbytes with
      | takes _ _ _ hrelay | flushes _ _ _ _ hrelay =>
        rw [hrelay]
        rwa [← modifyConnection_isSome] at hc
      | puts _ _ _ _ hrelay =>
        rw [hrelay]
        exact hc
      | nothing _ _ hrelay => rwa [hrelay]
  | drops c' =>
    cases h
    simp only [SendState.withRelay, _drop_relayed_connection]
    split_ifs
    · exact (modifyConnection_isSome s.relay c' c TcpConnection.wake_readers).trans hc
    · exact hc

namespace SendState.Accounted

variable {relay : NetworkRelay} {l : List (ConnectionId × Bytes)}

/-- At the start nothing has been given. -/
theorem initial (hids : ∀ c, (relay.connection c).isSome = true → canonical c = true)
    (hempty : ∀ c connection, relay.connection c = some connection → connection.send_buffer = []) :
    Accounted { relay } relay [] := by
  have hbuffer : ∀ c, SendState.send_buffer { relay } c = [] := by
    intro c
    unfold SendState.send_buffer
    cases hc : relay.connection c with
    | none => rfl
    | some connection => exact hempty c connection hc
  exact {
    locked := .initial hids
    made := by simp
    intact := fun c => {
      whole := fun _ => by simp [hbuffer, SendState.sending, SendState.appending, contents]
      part := by simp [hbuffer, SendState.sending, contents] }
    flushed := fun c hne => absurd (hbuffer c) hne }

/-- A `send` is for a connection that exists. -/
theorem made_step (hA : Accounted s relay l) (h : SendRule s e s') {w : ℕ} {call : SendCall}
    (hcall : s'.call w = some call) : (s'.relay.connection call.connection_id).isSome = true := by
  refine h.connection_isSome hA.locked ?_
  -- A call keeps its connection from one point to the next.
  have hold : ∀ {w₀ : ℕ} {c : ConnectionId} {content : Bytes} {point point' : SendPoint},
      s.call w₀ = some ⟨c, content, point⟩ →
      s'.call = Function.update s.call w₀ (some ⟨c, content, point'⟩) →
        (s.relay.connection call.connection_id).isSome = true := by
    intro w₀ c content point point' hw₀ hs'
    rw [hs'] at hcall
    by_cases hw : w = w₀
    · subst hw
      rw [Function.update_self] at hcall
      obtain rfl := Option.some.inj hcall
      have hmade := hA.made w _ hw₀
      exact hmade
    · rw [Function.update_of_ne hw] at hcall
      exact hA.made w call hcall
  cases e with
  | calls w₀ c content =>
    obtain ⟨-, hmade⟩ := h
    by_cases hw : w = w₀
    · subst hw
      obtain rfl : _ = call := by simpa using hcall
      exact hmade
    · exact hA.made w call (by simpa [hw] using hcall)
  | thread w₀ =>
    cases h with
    | acquires hw₀ | «extends» hw₀ | schedules hw₀ | checks hw₀ => exact hold hw₀ rfl
  | loop a =>
    refine hA.made w call ?_
    cases hA.locked.loop_rule h with
    | queue hs' | blocks _ _ _ hs' =>
      subst hs'
      exact hcall
    | moves hmoves _ => rwa [hmoves.call] at hcall
  | wakes | drops =>
    cases h
    exact hA.made w call hcall

/-- A step keeps the account of the bytes. -/
theorem preserved (hA : Accounted s relay l) (h : SendRule s e s') :
    Accounted s' relay (l ++ s.shows e) where
  locked := hA.locked.preserved h
  made _ _ hcall := hA.made_step h hcall
  intact c := by
    have hmoves : Pipe.Moves (s.pipe relay l c) (s'.pipe relay (l ++ s.shows e) c) :=
      hA.locked.pipe_moves h c fun w c content hcall => hA.made w _ hcall
    exact (hA.intact c).step ⟨hmoves, fun _ => trivial⟩
  flushed c := hA.locked.flushed_step h (hA.flushed c)

/-- An account of the bytes conserves them. -/
theorem conserves (hA : Accounted s relay l) : s.Conserves relay l where
  whole c := (hA.intact c).whole trivial
  flushed c hne hidle := by
    rcases hA.flushed c hne with ⟨w, content, hw⟩ | hk
    · exact absurd hw (hidle w content)
    · exact hk

end SendState.Accounted

/-- In every run from a relay whose connections have nothing to send, the bytes sent are conserved
and every buffer is flushed. -/
theorem send_conserves {relay : NetworkRelay}
    (hids : ∀ c, (relay.connection c).isSome = true → canonical c = true)
    (hempty : ∀ c connection, relay.connection c = some connection → connection.send_buffer = [])
    {l : List (ConnectionId × Bytes)}
    (h : Traced sendStep (fun _ e => SendsSucceed e = true) SendState.shows { relay } s l) :
    s.Conserves relay l := by
  have hA : s.Accounted relay l :=
    h.invariant (I := fun s l => s.Accounted relay l) (.initial hids hempty)
      fun s e s' l _ _ hstep hA => hA.preserved (sendStep_rule hstep)
  exact hA.conserves

/-- A relay with one connection, through an agent at websocket 0. -/
def openedRelay : NetworkRelay :=
  ({} : NetworkRelay).publish someConnection (newConnection {} (.call 0) {
      agent_connection_id := "agent"
      target_ip := "10.0.0.1"
      target_port := 22
      protocol := "tcp"
      connection_class := .tcpConnection } ⟨0⟩)

/-- The connection that has been opened has an id as `uuid4` makes them. -/
theorem openedRelay_connection (c : ConnectionId) :
    (openedRelay.connection c).isSome = true → canonical c = true := by
  by_cases hc : c = someConnection
  · subst hc
    exact fun _ => by decide +kernel
  · simp [openedRelay, hc]

/-- The connection that has been opened has an empty buffer. -/
theorem openedRelay_send_buffer (c : ConnectionId) (connection : TcpConnection)
    (h : openedRelay.connection c = some connection) : connection.send_buffer = [] := by
  by_cases hc : c = someConnection
  · subst hc
    obtain rfl : newConnection {} _ _ _ = connection := by simpa [openedRelay] using h
    rfl
  · simp [openedRelay, hc] at h

/-- Two threads append before the first `send_async` runs, which takes both contents and suspends.
-/
def twoSends : List SendEvent :=
  [.calls 0 someConnection [1], .calls 1 someConnection [2, 3], .thread 1, .thread 1, .thread 1,
    .thread 0, .thread 0, .thread 0, .loop .completes, .loop .completes, .loop .lockSuspends]

/-- The contents of two threads are taken in the order of the lock. -/
theorem twoSends_conserve :
    ∃ s, runWith sendStep (fun _ e => SendsSucceed e = true) { relay := openedRelay }
        twoSends = some s ∧
      s.sending someConnection = [2, 3, 1] ∧
        s.Conserves openedRelay
          (observe sendStep SendState.shows { relay := openedRelay } twoSends) := by
  obtain ⟨s, hs⟩ : ∃ s, runWith sendStep (fun _ e => SendsSucceed e = true)
      { relay := openedRelay } twoSends = some s := Option.isSome_iff_exists.mp (by decide +kernel)
  have hsending : ((runWith sendStep (fun _ e => SendsSucceed e = true) { relay := openedRelay }
      twoSends).map fun s => s.sending someConnection) = some [2, 3, 1] := by
    decide +kernel
  rw [hs] at hsending
  refine ⟨s, hs, Option.some.inj hsending, ?_⟩
  exact send_conserves openedRelay_connection openedRelay_send_buffer (Traced.init.of_runWith hs)

end HttpNetworkRelay
