import HttpNetworkRelay.Agent.Sockets
import HttpNetworkRelay.Asyncio.Trace

/-!
# From the websocket to the targets

What `write_to_connection` does with the data that the receive loop has received. `Delivered` says
that a writer that is entered in `active_connections` has been given all the data for its connection
so far, and that one whose entry has gone has been given a prefix of it: all that came before the
close message, unless its entry was removed for another reason. It rests on the order in which the
relay sends (`AskedFirst`): as an id is asked for once and before its data, it has one writer, and
no data is dropped before the writer is there.
-/

namespace HttpNetworkRelay

open Asyncio Python AgentState

variable {cfg : AgentConfig} {s s' : AgentState} {e : AgentEvent} {c : ConnectionId}

/-! ## What a run shows -/

/-- What a run of the agent shows. -/
inductive AgentShown
  /-- The receive loop has received a frame. -/
  | frame (content : RelayFrame)
  /-- The entry of a connection has been removed, and not on a close message. -/
  | dropped (connection_id : ConnectionId)
  deriving DecidableEq, Repr

/-- What an event shows. -/
def AgentState.shows (cfg : AgentConfig) (s : AgentState) (e : AgentEvent) : List AgentShown :=
  match e, agentStep cfg s e with
  | .main (.frame content), _ => [.frame content]
  | _, some s' =>
    (s.agent.active_connections.keys.filter (· ∉ s'.agent.active_connections)).map .dropped
  | _, none => []

/-- The frames that the receive loop has received. -/
def framesOf (l : List AgentShown) : List RelayFrame :=
  l.filterMap fun
    | .frame content => some content
    | .dropped _ => none

/-- Nothing has been received. -/
@[simp] theorem framesOf_nil : framesOf [] = [] := rfl

/-- What has been received in two stretches. -/
@[simp] theorem framesOf_append (l l' : List AgentShown) :
    framesOf (l ++ l') = framesOf l ++ framesOf l' :=
  List.filterMap_append

/-- A received frame is shown. -/
theorem framesOf_frame (frame : RelayFrame) :
    framesOf (s.shows cfg (.main (.frame frame))) = [frame] := rfl

/-- Nothing else shows a frame. -/
theorem framesOf_other (he : ∀ frame, e ≠ .main (.frame frame)) :
    framesOf (s.shows cfg e) = [] := by
  unfold AgentState.shows
  split
  case h_1 => exact absurd rfl (he _)
  -- Only drops of connections are shown, and no frame.
  case h_2 =>
    unfold framesOf
    rw [List.filterMap_eq_nil_iff]
    intro shown hshown
    obtain ⟨c, -, rfl⟩ := List.mem_map.mp hshown
    rfl
  case h_3 => rfl

/-- An entry that goes without a frame is dropped. -/
theorem dropped_shown (hstep : agentStep cfg s e = some s')
    (he : ∀ frame, e ≠ .main (.frame frame)) (hc : c ∈ s.agent.active_connections)
    (hc' : c ∉ s'.agent.active_connections) : .dropped c ∈ s.shows cfg e := by
  unfold AgentState.shows
  split
  case h_1 => exact absurd rfl (he _)
  case h_2 heq =>
    obtain rfl := Option.some.inj (hstep.symm.trans heq)
    refine List.mem_map_of_mem (List.mem_filter.mpr ⟨AList.mem_keys.mp hc, ?_⟩)
    simpa using hc'
  case h_3 heq =>
    rw [hstep] at heq
    cases heq

/-- The receive loop receives a frame where it waits for one. -/
theorem receive_of_frame {frame : RelayFrame}
    (hstep : agentStep cfg s (.main (.frame frame)) = some s') : ReceiveRule cfg s frame s' := by
  have hresume : s.resumeMain cfg (.frame frame) = some s' := hstep
  unfold AgentState.resumeMain at hresume
  split at hresume
  case h_7 heq =>
    obtain rfl := AgentOutcome.frame.inj heq
    obtain rfl := Option.some.inj hresume
    exact frameReceived_rule _
  all_goals simp_all

/-! ## What a step does to a writer -/

/-- Where a writer comes from in a step. -/
inductive WriterMoved (s : AgentState) (e : AgentEvent) (s' : AgentState) (n : ℕ)
    (w' : StreamWriter) : Prop
  | same (hw : s.agent.writer n = some w')
      (hnone : ∀ frame c data, e = .main (.frame frame) → frame.data? = some (c, data) →
        s.agent.active_connections.lookup c ≠ some n)
  /-- Its socket has just been opened. -/
  | opened (he : e = .main .ok) (hmain : s.main = .opening w'.request)
      (hn : n = s.agent.writers_opened) (hw' : w' = { request := w'.request })
      (hlookup : s'.agent.active_connections.lookup w'.request.connection_id = some n)
  | wrote {frame c data w} (he : e = .main (.frame frame)) (hdata : frame.data? = some (c, data))
      (hlookup : s.agent.active_connections.lookup c = some n) (hw : s.agent.writer n = some w)
      (hw' : w' = { w with written := w.written ++ [data] })
  | closed {w} (hw : s.agent.writer n = some w) (hw' : w' = { w with closed := true })
      (hgone : s'.agent.active_connections.lookup w.request.connection_id ≠ some n)
      (hnone : ∀ frame c data, e = .main (.frame frame) → frame.data? ≠ some (c, data))

/-- The writer of this step was there before, or its socket has just been opened. -/
theorem WriterMoved.before {n : ℕ} {w' : StreamWriter} (h : WriterMoved s e s' n w') :
    (∃ w, s.agent.writer n = some w ∧ w.request = w'.request) ∨
      s.main = .opening w'.request ∧ n = s.agent.writers_opened := by
  cases h with
  | same hw => exact .inl ⟨w', hw, rfl⟩
  | opened _ hmain hn => exact .inr ⟨hmain, hn⟩
  | wrote _ _ _ hw hw' => exact .inl ⟨_, hw, by rw [hw']⟩
  | closed hw hw' => exact .inl ⟨_, hw, by rw [hw']⟩

/-- A writer after a change is one of the others, or the changed one. -/
theorem modifyWriter_cases {a : EdgeAgent} {n m : ℕ} {f : StreamWriter → StreamWriter}
    {w' : StreamWriter} (h : (a.modifyWriter n f).writer m = some w') :
    (m ≠ n ∧ a.writer m = some w') ∨ m = n ∧ ∃ w, a.writer n = some w ∧ w' = f w := by
  obtain rfl | hm := eq_or_ne m n
  · obtain ⟨w, hw, rfl⟩ := Option.map_eq_some_iff.mp (by simpa using h)
    exact .inr ⟨rfl, w, hw, rfl⟩
  · exact .inl ⟨hm, by simpa [hm] using h⟩

/-- An entry refers to a writer that was opened for its id. -/
theorem Sockets.entry (hS : Sockets s) {n : ℕ} {w : StreamWriter}
    (hn : s.agent.active_connections.lookup c = some n) (hw : s.agent.writer n = some w) :
    w.request.connection_id = c := by
  obtain ⟨request, ⟨w', hw', rfl⟩, hc⟩ := hS.stored c n hn
  obtain rfl := Option.some.inj (hw.symm.trans hw')
  exact hc

/-- What has been removed is not stored. -/
theorem lookup_removed {a : EdgeAgent} {n : ℕ} :
    (a.remove c).active_connections.lookup c ≠ some n := by
  simp

/-- What a received frame does to a writer. -/
theorem ReceiveRule.writer (hS : Sockets s) {frame : RelayFrame}
    (h : ReceiveRule cfg s frame s') {n : ℕ} {w' : StreamWriter}
    (hw' : s'.agent.writer n = some w') : WriterMoved s (.main (.frame frame)) s' n w' := by
  -- A writer is left alone only by a frame that has no data for it.
  have hsame : s.agent.writer n = some w' →
      (∀ c data, frame.data? = some (c, data) → s.agent.active_connections.lookup c ≠ some n) →
      WriterMoved s (.main (.frame frame)) s' n w' := by
    intro hw hnone
    refine .same hw ?_
    rintro frame' c data ⟨⟩
    exact hnone c data
  cases h with
  -- The data is for this writer or for another one, as each id has one entry.
  | @writes c data m hdata hn =>
    obtain ⟨hm, hw⟩ | ⟨rfl, w, hw, rfl⟩ := modifyWriter_cases hw'
    · refine hsame hw fun c' data' hdata' hn' => hm ?_
      rw [hdata] at hdata'
      obtain ⟨rfl, rfl⟩ := Prod.mk.inj (Option.some.inj hdata')
      exact Option.some.inj (hn'.symm.trans hn)
    · exact .wrote rfl hdata hn hw rfl
  | @closes c m hclose hn =>
    -- A message that closes carries no data.
    have hnodata : ∀ c data, frame.data? ≠ some (c, data) := by
      intro c data hdata
      rw [(RelayFrame.of_data? hdata).2] at hclose
      cases hclose
    obtain ⟨hm, hw⟩ | ⟨rfl, w, hw, rfl⟩ := modifyWriter_cases hw'
    · exact hsame hw fun c data hdata => absurd hdata (hnodata c data)
    · refine .closed hw rfl ?_ ?_
      · rw [hS.entry hn hw]
        exact lookup_removed
      · rintro frame' c data ⟨⟩
        exact hnodata c data
  | opens hrequest =>
    refine hsame hw' fun c data hdata => ?_
    rw [(RelayFrame.of_data? hdata).1] at hrequest
    cases hrequest
  | unsupported hrequest =>
    refine hsame hw' fun c data hdata => ?_
    rw [(RelayFrame.of_data? hdata).1] at hrequest
    cases hrequest
  | rejects hframe =>
    refine hsame hw' fun c data hdata => ?_
    rw [RelayFrame.malformed_of_data? hdata] at hframe
    cases hframe
  | ignores _ _ hdata =>
    refine hsame hw' fun c data hdata' => ?_
    simp [hdata c data hdata']

/-- A writer that `closeAll` has touched or not, as no entry is left. -/
theorem closeAll_writer {n : ℕ} {w' : StreamWriter}
    (hw' : s.agent.closeAll.writer n = some w') (hs' : s'.agent = s.agent.closeAll)
    (he : ∀ frame, e ≠ .main (.frame frame)) : WriterMoved s e s' n w' := by
  have hnone : s'.agent.active_connections = ∅ := by rw [hs']; rfl
  simp only [EdgeAgent.closeAll] at hw'
  split_ifs at hw'
  · obtain ⟨w, hw, rfl⟩ := Option.map_eq_some_iff.mp hw'
    exact .closed hw rfl (by simp [hnone]) fun frame _ _ h => absurd h (he frame)
  · exact .same hw' fun frame _ _ h => absurd h (he frame)

/-- What another step of the main task does to a writer. -/
theorem MainRule.writer (hS : Sockets s) {o : AgentOutcome} (ho : ∀ frame, o ≠ .frame frame)
    (h : MainRule cfg s s.main o s') {n : ℕ} {w' : StreamWriter}
    (hw' : s'.agent.writer n = some w') : WriterMoved s (.main o) s' n w' := by
  have he : ∀ frame, AgentEvent.main o ≠ .main (.frame frame) := by
    rintro frame ⟨⟩
    exact ho frame rfl
  have hsame : s.agent.writer n = some w' → WriterMoved s (.main o) s' n w' := by
    intro hw
    exact .same hw fun frame _ _ h => absurd h (he frame)
  generalize hmain : s.main = main at h
  cases h with
  | receives => exact absurd rfl (ho _)
  -- The new writer is that of the request, every other writer keeps its number.
  | @opened request =>
    obtain rfl | hn := eq_or_ne n s.agent.writers_opened
    · obtain rfl : ({ request } : StreamWriter) = w' := by
        simpa [AgentState.connectionOpened] using hw'
      exact .opened rfl hmain rfl rfl (by simp [AgentState.connectionOpened])
    · exact hsame (by simpa [AgentState.connectionOpened, hn] using hw')
  -- The drain raised ConnectionResetError: the writer is closed and the entry removed.
  | @reset c m text hc =>
    obtain ⟨hm, hw⟩ | ⟨rfl, w, hw, rfl⟩ := modifyWriter_cases hw'
    · exact hsame hw
    · obtain ⟨request, ⟨w₀, hw₀, rfl⟩, hid⟩ := hS.draining c n hmain
      obtain rfl := Option.some.inj (hw.symm.trans hw₀)
      exact .closed hw rfl (hid ▸ lookup_removed) fun frame _ _ h => absurd h (he frame)
  -- The entry had already gone, and the writer is closed all the same.
  | @missing c m text hc =>
    obtain ⟨hm, hw⟩ | ⟨rfl, w, hw, rfl⟩ := modifyWriter_cases hw'
    · exact hsame hw
    · obtain ⟨request, ⟨w₀, hw₀, rfl⟩, hid⟩ := hS.draining c n hmain
      obtain rfl := Option.some.inj (hw.symm.trans hw₀)
      have hgone : s.agent.active_connections.lookup w.request.connection_id = none := by
        rw [hid]
        exact AList.lookup_eq_none.mpr hc
      exact .closed hw rfl (by simp [hgone]) fun frame _ _ h => absurd h (he frame)
  | refused | leaves => exact closeAll_writer hw' rfl he
  | _ => exact hsame hw'

/-- What a step of a reading task does to a writer. -/
theorem ReadRule.writer (hS : Sockets s) {m : ℕ} {task : ReadTask} {o : AgentOutcome}
    (htask : s.reader m = some task) (h : ReadRule s m task o s') {n : ℕ} {w' : StreamWriter}
    (hw' : s'.agent.writer n = some w') : WriterMoved s (.reader m o) s' n w' := by
  have hnone : ∀ frame, AgentEvent.reader m o ≠ .main (.frame frame) := fun _ h => nomatch h
  cases h with
  -- The end of the loop closes the writer of the connection that it reads and removes the entry.
  | ends =>
    obtain ⟨hm, hw⟩ | ⟨rfl, w, hw, rfl⟩ := modifyWriter_cases hw'
    · exact .same hw fun frame _ _ h => absurd h (hnone frame)
    · obtain ⟨w₀, hw₀, hid⟩ := hS.reader n task htask
      obtain rfl := Option.some.inj (hw.symm.trans hw₀)
      exact .closed hw rfl (hid ▸ lookup_removed) fun frame _ _ h => absurd h (hnone frame)
  | _ => exact .same hw' fun frame _ _ h => absurd h (hnone frame)

/-- What a step does to a writer. -/
theorem writer_of_step (hS : Sockets s) (hstep : agentStep cfg s e = some s') {n : ℕ}
    {w' : StreamWriter} (hw' : s'.agent.writer n = some w') : WriterMoved s e s' n w' := by
  by_cases hframe : ∃ frame, e = .main (.frame frame)
  · obtain ⟨frame, rfl⟩ := hframe
    exact (receive_of_frame hstep).writer hS hw'
  · cases agentStep_rule hstep with
    | main h =>
      refine h.writer hS ?_ hw'
      rintro frame rfl
      exact hframe ⟨frame, rfl⟩
    | keepAlive | keepsAlive => exact .same hw' fun _ _ _ h => nomatch h
    | reader htask h => exact h.writer hS htask hw'

/-! ## What a step does to an entry -/

/-- An entry stays, or goes, or a socket has just been opened for its id. -/
theorem entry_of_rule (h : AgentRule cfg s e s') {n : ℕ}
    (hn : s.agent.active_connections.lookup c = some n) :
    s'.agent.active_connections.lookup c = some n ∨ c ∉ s'.agent.active_connections ∨
      ∃ request, s.main = .opening request ∧ request.connection_id = c := by
  -- Removing the entry of one id leaves the others.
  have hremove : ∀ (a : EdgeAgent) c', a.active_connections = s.agent.active_connections →
      (a.remove c').active_connections.lookup c = some n ∨
        c ∉ (a.remove c').active_connections := by
    intro a c' ha
    obtain rfl | hc := eq_or_ne c c'
    · exact .inr (by simp)
    · exact .inl (by simp [hc, ha, hn])
  cases h with
  | main h =>
    generalize hmain : s.main = main at h
    cases h with
    | receives h =>
      cases h with
      | closes => exact (hremove _ _ rfl).imp_right .inl
      | _ => exact .inl hn
    -- The new entry may take the place of an older one with its id.
    | @opened request =>
      obtain rfl | hc := eq_or_ne c request.connection_id
      · exact .inr (.inr ⟨request, rfl, rfl⟩)
      · exact .inl (by simpa [AgentState.connectionOpened, AList.lookup_insert_ne hc] using hn)
    | reset => exact (hremove _ _ rfl).imp_right .inl
    | refused | leaves => exact .inr (.inl (by simp [AgentState.disconnected]))
    | _ => exact .inl hn
  | keepAlive | keepsAlive => exact .inl hn
  | reader _ h =>
    cases h with
    | ends => exact (hremove _ _ rfl).imp_right .inl
    | _ => exact .inl hn

/-- A frame that takes an entry away is the close of its connection. -/
theorem ReceiveRule.closed {frame : RelayFrame} (h : ReceiveRule cfg s frame s') {n : ℕ}
    (hn : s.agent.active_connections.lookup c = some n)
    (hgone : c ∉ s'.agent.active_connections) : frame.close? = some c := by
  have hmem : c ∈ s.agent.active_connections := by
    rw [← AList.lookup_isSome, hn]
    rfl
  cases h with
  | @closes c' m hclose =>
    obtain rfl | hc := eq_or_ne c c'
    · exact hclose
    · exact absurd (by simpa [hc] using hmem) hgone
  | _ => exact absurd hmem hgone

/-! ## What the writers have been given -/

/-- The data of the connections, as far as it has been received and written. -/
structure Delivered (s : AgentState) (l : List AgentShown) : Prop where
  asked : ∀ n w, s.agent.writer n = some w →
    ∃ frame ∈ framesOf l, frame.asks? = some w.request.connection_id
  sole : ∀ n n' w w', s.agent.writer n = some w → s.agent.writer n' = some w' →
    w.request.connection_id = w'.request.connection_id → n = n'
  opening : ∀ request, s.main = .opening request →
    (∀ n w, s.agent.writer n = some w → w.request.connection_id ≠ request.connection_id) ∧
      (∃ frame ∈ framesOf l, frame.asks? = some request.connection_id) ∧
      carried request.connection_id (framesOf l) = []
  /-- A writer that is entered has been given everything. -/
  entered : ∀ c n w, s.agent.active_connections.lookup c = some n → s.agent.writer n = some w →
    w.closed = false ∧ w.written.flatten = carried c (framesOf l)
  written : ∀ n w, s.agent.writer n = some w →
    w.written.flatten <+: carried w.request.connection_id (framesOf l)
  /-- One that is not has been given all that came before the close message. -/
  closed : ∀ n w, s.agent.writer n = some w →
    s.agent.active_connections.lookup w.request.connection_id ≠ some n →
    .dropped w.request.connection_id ∈ l ∨ ∃ l₁ frame l₂, framesOf l = l₁ ++ frame :: l₂ ∧
      frame.close? = some w.request.connection_id ∧
      w.written.flatten = carried w.request.connection_id l₁

namespace Delivered

variable {l : List AgentShown}

/-- Nothing has been received or opened. -/
theorem initial : Delivered {} [] where
  asked _ _ h := nomatch h
  sole _ _ _ _ h := nomatch h
  opening _ h := nomatch h
  entered _ _ _ h := by simp at h
  written _ _ h := nomatch h
  closed _ _ h := nomatch h

/-- A frame that has been received stays in the record. -/
theorem mem_frames {frame : RelayFrame} (h : frame ∈ framesOf l) :
    frame ∈ framesOf (l ++ s.shows cfg e) := by
  rw [framesOf_append]
  exact List.mem_append_left _ h

section
variable (hD : Delivered s l) (hS : Sockets s) (hstep : agentStep cfg s e = some s')
include hD hS hstep

/-- Each writer has been asked for. -/
theorem asked_step {n : ℕ} {w' : StreamWriter} (hw' : s'.agent.writer n = some w') :
    ∃ frame ∈ framesOf (l ++ s.shows cfg e), frame.asks? = some w'.request.connection_id := by
  obtain ⟨w, hw, hrequest⟩ | ⟨hmain, -⟩ := (writer_of_step hS hstep hw').before
  · obtain ⟨frame, hmem, hasks⟩ := hD.asked n w hw
    exact ⟨frame, mem_frames hmem, hrequest ▸ hasks⟩
  · obtain ⟨-, ⟨frame, hmem, hasks⟩, -⟩ := hD.opening _ hmain
    exact ⟨frame, mem_frames hmem, hasks⟩

/-- No two writers have the same id. -/
theorem sole_step {n m : ℕ} {w' v' : StreamWriter} (hw' : s'.agent.writer n = some w')
    (hv' : s'.agent.writer m = some v')
    (hid : w'.request.connection_id = v'.request.connection_id) : n = m := by
  -- Each of the two is an older writer, or the one that the step has opened.
  obtain ⟨w, hw, hrequest⟩ | ⟨hmain, rfl⟩ := (writer_of_step hS hstep hw').before <;>
    obtain ⟨v, hv, hrequest'⟩ | ⟨hmain', rfl⟩ := (writer_of_step hS hstep hv').before
  · rw [← hrequest, ← hrequest'] at hid
    exact hD.sole n m w v hw hv hid
  · rw [← hrequest] at hid
    exact absurd hid ((hD.opening _ hmain').1 n w hw)
  · rw [← hrequest'] at hid
    exact absurd hid.symm ((hD.opening _ hmain).1 m v hv)
  · rfl

/-- A request that is being opened is the first frame about its id. -/
theorem opening_step (hfirst : AskedFirst (framesOf (l ++ s.shows cfg e))) {request : OpenRequest}
    (hmain' : s'.main = .opening request) :
    (∀ n w, s'.agent.writer n = some w → w.request.connection_id ≠ request.connection_id) ∧
      (∃ frame ∈ framesOf (l ++ s.shows cfg e), frame.asks? = some request.connection_id) ∧
      carried request.connection_id (framesOf (l ++ s.shows cfg e)) = [] := by
  by_cases hmain : ∃ o, e = .main o
  · obtain ⟨o, rfl⟩ := hmain
    cases agentStep_rule hstep with
    | main h =>
      obtain ⟨frame, rfl, hrequest, hagent⟩ := h.opening hmain'
      have hasks : frame.asks? = some request.connection_id := by
        simp [RelayFrame.asks?, hrequest]
      rw [framesOf_append, framesOf_frame] at hfirst ⊢
      -- As the relay asks first, no earlier frame is about the id.
      have hbefore := hfirst (framesOf l) frame [] request.connection_id rfl hasks
      refine ⟨?_, ⟨frame, by simp, hasks⟩, ?_⟩
      · intro n w hw hid
        rw [hagent] at hw
        obtain ⟨frame', hmem, hasks'⟩ := hD.asked n w hw
        exact hbefore frame' hmem (.inl (hid ▸ hasks'))
      · rw [carried_append, carried_eq_nil hbefore, carried_singleton, List.nil_append]
        refine RelayFrame.dataFor_eq_nil fun data hdata => ?_
        rw [(RelayFrame.of_data? hdata).1] at hrequest
        cases hrequest
  · have hother : ∀ frame, e ≠ .main (.frame frame) := fun frame he => hmain ⟨_, he⟩
    -- The socket is still being opened: no other task changes the stage of the main one.
    have hsame : s.main = .opening request := by
      cases agentStep_rule hstep with
      | main => exact absurd ⟨_, rfl⟩ hmain
      | keepAlive | keepsAlive => exact hmain'
      | reader _ h => cases h <;> exact hmain'
    obtain ⟨hnone, ⟨frame, hmem, hasks⟩, hempty⟩ := hD.opening request hsame
    refine ⟨?_, ⟨frame, mem_frames hmem, hasks⟩, ?_⟩
    · intro n w' hw'
      obtain ⟨w, hw, hrequest⟩ | ⟨-, rfl⟩ := (writer_of_step hS hstep hw').before
      · rw [← hrequest]
        exact hnone n w hw
      · cases writer_of_step hS hstep hw' with
        | opened he => exact absurd ⟨_, he⟩ hmain
        | same hw | wrote _ _ _ hw | closed hw =>
          rw [hS.unopened _ le_rfl] at hw
          cases hw
    · rw [framesOf_append, framesOf_other hother, List.append_nil, hempty]

/-- A stored writer is open and has all the bytes for its connection. -/
theorem entered_step {n : ℕ} {w' : StreamWriter}
    (hn' : s'.agent.active_connections.lookup c = some n) (hw' : s'.agent.writer n = some w') :
    w'.closed = false ∧ w'.written.flatten = carried c (framesOf (l ++ s.shows cfg e)) := by
  rw [framesOf_append]
  obtain hn | ⟨request, rfl, hmain, hid, hnew⟩ := (agentStep_rule hstep).lookup hn'
  · cases writer_of_step hS hstep hw' with
    -- The frame of the step, if there is one, carries nothing for this connection.
    | same hw hnone =>
      obtain ⟨hopen, hwritten⟩ := hD.entered c n w' hn hw
      refine ⟨hopen, ?_⟩
      by_cases hframe : ∃ frame, e = .main (.frame frame)
      · obtain ⟨frame, rfl⟩ := hframe
        have hnodata : frame.dataFor c = [] :=
          RelayFrame.dataFor_eq_nil fun data hdata => hnone frame c data rfl hdata hn
        rw [framesOf_frame, carried_append, carried_singleton, hnodata, List.append_nil, hwritten]
      · rw [framesOf_other fun frame he => hframe ⟨frame, he⟩, List.append_nil, hwritten]
    | @opened _ _ hnew =>
      obtain ⟨request, ⟨w, hw, -⟩, -⟩ := hS.stored c n hn
      rw [hnew, hS.unopened _ le_rfl] at hw
      cases hw
    -- The data of the frame is appended to what the writer has.
    | @wrote frame c' data w he hdata hlookup hw hw' =>
      subst he hw'
      obtain ⟨hopen, hwritten⟩ := hD.entered c n w hn hw
      obtain rfl : c' = c := (hS.entry hlookup hw).symm.trans (hS.entry hn hw)
      refine ⟨hopen, ?_⟩
      rw [framesOf_frame, carried_append, carried_singleton, RelayFrame.dataFor_of_data? hdata,
        ← hwritten]
      simp
    | closed hw hw' hgone =>
      rw [hS.entry hn hw] at hgone
      exact absurd hn' hgone
  · -- The socket has just been opened: nothing has been written, and no frame had data for it.
    obtain ⟨-, -, hempty⟩ := hD.opening request hmain
    cases writer_of_step hS hstep hw' with
    | opened _ hmain' _ hw' =>
      have hother : ∀ frame, AgentEvent.main .ok ≠ .main (.frame frame) := by simp
      rw [framesOf_other hother, List.append_nil, ← hid, hempty, hw']
      exact ⟨rfl, rfl⟩
    | same hw | wrote _ _ _ hw | closed hw =>
      rw [hnew, hS.unopened _ le_rfl] at hw
      cases hw

/-- A writer has a prefix of the bytes for its connection. -/
theorem written_step {n : ℕ} {w' : StreamWriter} (hw' : s'.agent.writer n = some w') :
    w'.written.flatten <+: carried w'.request.connection_id (framesOf (l ++ s.shows cfg e)) := by
  rw [framesOf_append, carried_append]
  cases writer_of_step hS hstep hw' with
  | same hw => exact (hD.written n w' hw).trans (List.prefix_append _ _)
  | opened _ _ _ hw' =>
    rw [hw']
    exact List.nil_prefix
  | @wrote frame c' data w he hdata hlookup hw hw' =>
    subst he hw'
    have hid := hS.entry hlookup hw
    rw [framesOf_frame, carried_singleton, hid, RelayFrame.dataFor_of_data? hdata,
      ← (hD.entered c' n w hlookup hw).2]
    simp
  -- A closed writer keeps what it has, and the frames may go on.
  | closed hw hw' =>
    rw [hw']
    exact (hD.written n _ hw).trans (List.prefix_append _ _)

/-- An entry that goes in this step is dropped, or closed by a message after all its data. -/
theorem leaves_step {n : ℕ} {w w' : StreamWriter} (hw : s.agent.writer n = some w)
    (hw' : s'.agent.writer n = some w')
    (hn : s.agent.active_connections.lookup w.request.connection_id = some n)
    (hgone : s'.agent.active_connections.lookup w.request.connection_id ≠ some n) :
    .dropped w.request.connection_id ∈ s.shows cfg e ∨
      ∃ frame, framesOf (s.shows cfg e) = [frame] ∧
        frame.close? = some w.request.connection_id ∧
        w'.written.flatten = carried w.request.connection_id (framesOf l) := by
  have hmem : w.request.connection_id ∈ s.agent.active_connections := by
    rw [← AList.lookup_isSome, hn]
    rfl
  obtain hstays | hgone' | ⟨request, hmain, hid⟩ := entry_of_rule (agentStep_rule hstep) hn
  · exact absurd hstays hgone
  · by_cases hframe : ∃ frame, e = .main (.frame frame)
    · obtain ⟨frame, rfl⟩ := hframe
      -- A frame takes the entry: it is the close of the connection, which comes after all its data.
      have hclose := (receive_of_frame hstep).closed hn hgone'
      have hwritten := (hD.entered _ n w hn hw).2
      refine .inr ⟨frame, framesOf_frame frame, hclose, ?_⟩
      cases writer_of_step hS hstep hw' with
      | same hw₁ =>
        obtain rfl := Option.some.inj (hw.symm.trans hw₁)
        exact hwritten
      | opened he => cases he
      | wrote he hdata =>
        obtain rfl := AgentOutcome.frame.inj (AgentEvent.main.inj he)
        rw [(RelayFrame.of_data? hdata).2] at hclose
        cases hclose
      | closed hw₁ hw₂ =>
        obtain rfl := Option.some.inj (hw.symm.trans hw₁)
        rw [hw₂]
        exact hwritten
    · exact .inl (dropped_shown hstep (fun frame he => hframe ⟨frame, he⟩) hmem hgone')
  · -- A request for the same id would need the relay to ask twice.
    exact absurd hid.symm ((hD.opening request hmain).1 n w hw)

/-- A writer that is no longer stored has been dropped or closed by a frame, with all bytes before
it. -/
theorem closed_step {n : ℕ} {w' : StreamWriter} (hw' : s'.agent.writer n = some w')
    (hgone : s'.agent.active_connections.lookup w'.request.connection_id ≠ some n) :
    .dropped w'.request.connection_id ∈ l ++ s.shows cfg e ∨
      ∃ l₁ frame l₂, framesOf (l ++ s.shows cfg e) = l₁ ++ frame :: l₂ ∧
        frame.close? = some w'.request.connection_id ∧
        w'.written.flatten = carried w'.request.connection_id l₁ := by
  have hmoved := writer_of_step hS hstep hw'
  obtain ⟨w, hw, hrequest⟩ | ⟨hmain, rfl⟩ := hmoved.before
  · rw [← hrequest] at hgone ⊢
    -- The entry goes in this step, or it has already gone and the frames before it are the same.
    by_cases hn : s.agent.active_connections.lookup w.request.connection_id = some n
    · obtain hdropped | ⟨frame, hframe, hclose, hwritten⟩ := hD.leaves_step hS hstep hw hw' hn hgone
      · exact .inl (List.mem_append_right _ hdropped)
      · exact .inr ⟨framesOf l, frame, [], by rw [framesOf_append, hframe], hclose, hwritten⟩
    · obtain hdropped | ⟨l₁, frame, l₂, hl, hclose, hwritten⟩ := hD.closed n w hw hn
      · exact .inl (List.mem_append_left _ hdropped)
      · have hsame : w'.written = w.written := by
          cases hmoved with
          | same hw₁ => rw [Option.some.inj (hw.symm.trans hw₁)]
          | opened _ _ hnew =>
            rw [hnew, hS.unopened _ le_rfl] at hw
            cases hw
          | wrote _ _ hlookup hw₁ =>
            obtain rfl := Option.some.inj (hw.symm.trans hw₁)
            rw [hS.entry hlookup hw] at hn
            exact absurd hlookup hn
          | closed hw₁ hw₂ =>
            obtain rfl := Option.some.inj (hw.symm.trans hw₁)
            rw [hw₂]
        refine .inr ⟨l₁, frame, l₂ ++ framesOf (s.shows cfg e), ?_, hclose, hsame ▸ hwritten⟩
        rw [framesOf_append, hl, List.append_assoc, List.cons_append]
  · cases hmoved with
    | opened _ _ _ _ hlookup => exact absurd hlookup hgone
    | same hw | wrote _ _ _ hw | closed hw =>
      rw [hS.unopened _ le_rfl] at hw
      cases hw

/-- Each step keeps the invariant. -/
theorem preserved (hfirst : AskedFirst (framesOf (l ++ s.shows cfg e))) :
    Delivered s' (l ++ s.shows cfg e) where
  asked _ _ := hD.asked_step hS hstep
  sole _ _ _ _ := hD.sole_step hS hstep
  opening _ := hD.opening_step hS hstep hfirst
  entered _ _ _ := hD.entered_step hS hstep
  written _ _ := hD.written_step hS hstep
  closed _ _ := hD.closed_step hS hstep

end

end Delivered

/-- In every run in which the relay asks for connections before it sends their data, the writers
have been given what `Delivered` says. -/
theorem delivered {ok : AgentState → AgentEvent → Prop} {l : List AgentShown}
    (h : Traced (agentStep cfg) ok (AgentState.shows cfg) {} s l)
    (hfirst : AskedFirst (framesOf l)) : Delivered s l := by
  refine h.invariant (I := fun s l => AskedFirst (framesOf l) → Delivered s l)
    (fun _ => .initial) (fun s e s' l ht _ hstep hI hfirst => ?_) hfirst
  have hbefore : AskedFirst (framesOf l) := by
    rw [framesOf_append] at hfirst
    exact hfirst.of_append
  exact (hI hbefore).preserved (sockets ht.reaches) hstep hfirst

end HttpNetworkRelay
