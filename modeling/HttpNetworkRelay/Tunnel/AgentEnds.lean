import HttpNetworkRelay.Link.Grammar
import HttpNetworkRelay.Tunnel.Ends

/-!
# The targets' ends

What a step of the agent shows at the sockets of the targets, and how this is related to what the
agent has received and sent: `Written` for the bytes that go to a target, `sent_step` for those that
come from it.
-/

namespace HttpNetworkRelay

open Asyncio Python AgentState

variable {acfg : AgentConfig} {s s' : AgentState} {e : AgentEvent} {c : ConnectionId}
  {l : List TunnelEnd}

/-- What an event shows at the sockets of the targets. -/
def AgentState.ends (s : AgentState) : AgentEvent → List TunnelEnd
  | .reader n (.data data) =>
    match s.reader n with
    | some task =>
      if task.point = .reading then [.target task.request.connection_id data] else []
    | none => []
  | .main (.frame frame) =>
    match frame.data? with
    | some (c, data) => if c ∈ s.agent.active_connections then [.wrote c data] else []
    | none => []
  | _ => []

/-! ## To the targets -/

/-- What an event shows to be written for a connection. -/
theorem handed_ends (s : AgentState) (e : AgentEvent) (c : ConnectionId) :
    handedOf ((s.ends e).filterMap (upstreamEnd c)) = [] ∨
      ∃ frame data, e = .main (.frame frame) ∧ frame.data? = some (c, data) ∧
        c ∈ s.agent.active_connections ∧
        handedOf ((s.ends e).filterMap (upstreamEnd c)) = data := by
  match e with
  | .main (.frame frame) =>
    cases hdata : frame.data? with
    | none =>
      left
      simp [AgentState.ends, hdata]
    | some x =>
      obtain ⟨c', data⟩ := x
      by_cases hc : c' ∈ s.agent.active_connections
      · rcases eq_or_ne c' c with rfl | hne
        · refine .inr ⟨frame, data, rfl, hdata, hc, ?_⟩
          simp [AgentState.ends, hdata, hc, upstreamEnd]
        · left
          simp [AgentState.ends, hdata, hc, upstreamEnd, hne]
      · left
        simp [AgentState.ends, hdata, hc]
  | .reader n (.data data) =>
    left
    cases htask : s.reader n with
    | none => simp [AgentState.ends, htask]
    | some task =>
      by_cases hpoint : task.point = .reading
      · simp only [AgentState.ends, htask, hpoint, if_true]
        rfl
      · simp only [AgentState.ends, htask, hpoint, if_false]
        rfl
  | .main .ok | .main (.raised _ _) | .main (.start _) | .main (.data _) | .keepAlive _ _
  | .reader _ .ok | .reader _ (.raised _ _) | .reader _ (.start _) | .reader _ (.frame _) =>
    exact .inl rfl

/-- What has been shown to be written has been passed to the writers. -/
structure Written (s : AgentState) (l : List TunnelEnd) : Prop where
  writer : ∀ n w, s.agent.writer n = some w →
    w.written.flatten = handedOf (l.filterMap (upstreamEnd w.request.connection_id))
  unopened : ∀ c, (∀ n w, s.agent.writer n = some w → w.request.connection_id ≠ c) →
    handedOf (l.filterMap (upstreamEnd c)) = []

namespace Written

/-- At the start nothing has been written. -/
theorem initial : Written {} [] where
  writer _ _ h := by cases h
  unopened _ _ := rfl

/-- The writers of `s'` are for different connections. -/
theorem preserved (hW : Written s l) (hS : Sockets s) (hstep : agentStep acfg s e = some s')
    (hsole : ∀ n n' w w', s'.agent.writer n = some w → s'.agent.writer n' = some w' →
      w.request.connection_id = w'.request.connection_id → n = n') :
    Written s' (l ++ s.ends e) := by
  have hkeeps := (agentStep_rule hstep).keeps hS.unopened
  -- A connection for which something is written has a writer.
  have hentered : ∀ c, c ∈ s.agent.active_connections →
      ∃ m w, s.agent.active_connections.lookup c = some m ∧ s.agent.writer m = some w ∧
        w.request.connection_id = c := by
    intro c hc
    obtain ⟨m, hm⟩ := Option.isSome_iff_exists.mp (AList.lookup_isSome.mpr hc)
    obtain ⟨request, ⟨w, hw, rfl⟩, hid⟩ := hS.stored c m hm
    exact ⟨m, w, hm, hw, hid⟩
  refine ⟨fun n w' hw' => ?_, fun c hnone => ?_⟩
  · simp only [List.filterMap_append, handedOf_append]
    cases writer_of_step hS hstep hw' with
    | same hw hother =>
      rw [hW.writer n w' hw]
      rcases handed_ends s e w'.request.connection_id with hnil | ⟨frame, data, he, hdata, hc, -⟩
      · rw [hnil, List.append_nil]
      · -- It would have been written to this writer, the only one of the connection.
        obtain ⟨m, w, hm, hw₁, hid⟩ := hentered _ hc
        obtain ⟨w₁', hw₁', hrequest, -⟩ := hkeeps.writer m w hw₁
        obtain rfl := hsole n m w' w₁' hw' hw₁' (by rw [hrequest, hid])
        exact absurd hm (hother frame _ data he hdata)
    | opened he hmain hn hnew hlookup =>
      subst he
      have hunopened : handedOf (l.filterMap (upstreamEnd w'.request.connection_id)) = [] := by
        refine hW.unopened _ fun m w hw hid => ?_
        obtain ⟨w₁', hw₁', hrequest, -⟩ := hkeeps.writer m w hw
        obtain rfl := hsole n m w' w₁' hw' hw₁' (by rw [hrequest, hid])
        rw [hn, hS.unopened _ le_rfl] at hw
        cases hw
      rw [hunopened, hnew]
      rfl
    | @wrote frame c data w he hdata hlookup hw hnew =>
      subst he
      obtain rfl : w.request.connection_id = c := hS.entry hlookup hw
      have hc : w.request.connection_id ∈ s.agent.active_connections := by
        rw [← AList.lookup_isSome, hlookup]
        rfl
      rw [hnew]
      simp [AgentState.ends, hdata, hc, upstreamEnd, hW.writer n w hw]
    | @closed w hw hnew hgone hother =>
      rw [hnew]
      show w.written.flatten = _
      rw [hW.writer n w hw]
      rcases handed_ends s e w.request.connection_id with hnil | ⟨frame, data, he, hdata, -, -⟩
      · rw [hnil, List.append_nil]
      · exact absurd hdata (hother frame _ data he)
  · have hbefore : ∀ n w, s.agent.writer n = some w → w.request.connection_id ≠ c := by
      intro n w hw
      obtain ⟨w', hw', hrequest, -⟩ := hkeeps.writer n w hw
      rw [← hrequest]
      exact hnone n w' hw'
    simp only [List.filterMap_append, handedOf_append]
    rw [hW.unopened c hbefore]
    rcases handed_ends s e c with hnil | ⟨frame, data, -, -, hc, -⟩
    · exact hnil
    · obtain ⟨m, w, -, hw, hid⟩ := hentered c hc
      exact absurd hid (hbefore m w hw)

end Written

/-! ## From the targets -/

/-- What an event shows to be read for a connection. -/
theorem given_ends (s : AgentState) (e : AgentEvent) (c : ConnectionId) :
    givenOf ((s.ends e).filterMap (downstreamEnd c)) = [] ∨
      ∃ n task data, e = .reader n (.data data) ∧ s.reader n = some task ∧
        task.point = .reading ∧ data ≠ [] := by
  match e with
  | .reader n (.data data) =>
    cases htask : s.reader n with
    | none =>
      left
      simp [AgentState.ends, htask]
    | some task =>
      by_cases hpoint : task.point = .reading
      · by_cases hdata : data = []
        · left
          by_cases hc : task.request.connection_id = c
          · simp [AgentState.ends, htask, hpoint, downstreamEnd, hc, hdata]
          · simp [AgentState.ends, htask, hpoint, downstreamEnd, hc]
        · exact .inr ⟨n, task, data, rfl, htask, hpoint, hdata⟩
      · left
        simp [AgentState.ends, htask, hpoint]
  | .main (.frame frame) =>
    left
    cases hdata : frame.data? with
    | none => simp [AgentState.ends, hdata]
    | some x =>
      by_cases hc : x.1 ∈ s.agent.active_connections
      · simp only [AgentState.ends, hdata, hc, if_true]
        rfl
      · simp only [AgentState.ends, hdata, hc, if_false]
        rfl
  | .main .ok | .main (.raised _ _) | .main (.start _) | .main (.data _) | .keepAlive _ _
  | .reader _ .ok | .reader _ (.raised _ _) | .reader _ (.start _) | .reader _ (.frame _) =>
    exact .inl rfl

/-- A step in which no chunk is read sends no data. -/
theorem AgentRule.sends_no_data (h : AgentRule acfg s e s')
    (hread : ∀ n task data, e = .reader n (.data data) → s.reader n = some task →
      task.point = .reading → data = []) :
    dataFor c (s'.agent.to_relay 0) = dataFor c (s.agent.to_relay 0) := by
  rcases h.sent_in 0 with hsame | ⟨frame, hsends, hto⟩
  · rw [hsame]
  · rw [hto, dataFor_append]
    have hframe : frame.dataFor c = [] := by
      generalize 0 = session at hsends
      cases hsends with
      | chunk htask hpoint hdata => exact absurd (hread _ _ _ rfl htask hpoint) hdata
      | _ => rfl
    rw [dataFor_cons, hframe]
    simp

/-- What is read from a target is sent to the relay. -/
theorem sent_step (hreaders : ∀ n task, s.reader n = some task →
      task.session = 0 ∧ canonical task.request.connection_id = true)
    (hstep : agentStep acfg s e = some s') (c : ConnectionId) :
    dataFor c (s'.agent.to_relay 0) =
      dataFor c (s.agent.to_relay 0) ++ givenOf ((s.ends e).filterMap (downstreamEnd c)) := by
  by_cases hread : ∃ n task data, e = .reader n (.data data) ∧ s.reader n = some task ∧
      task.point = .reading ∧ data ≠ []
  · obtain ⟨n, task, data, rfl, htask, hpoint, hdata⟩ := hread
    obtain ⟨hsession, hcanonical⟩ := hreaders n task htask
    obtain ⟨frame, hframe, hcarried⟩ := chunkFrame_data? hcanonical data
    obtain ⟨task', htask', hresume⟩ := Option.bind_eq_some_iff.mp hstep
    obtain rfl := Option.some.inj (htask.symm.trans htask')
    have hnext : s.resumeReader n task (.data data) =
        some ((s.withAgent (s.agent.send task.session frame)).setReader n
          { task with point := .sending }) := by
      simp only [resumeReader, hpoint, hdata, if_false, hframe]
    obtain rfl := Option.some.inj (hnext.symm.trans hresume)
    by_cases hc : task.request.connection_id = c
    · simp [hsession, AgentFrame.dataFor, hcarried, hc, AgentState.ends, htask, hpoint,
        downstreamEnd]
    · simp [hsession, AgentFrame.dataFor, hcarried, hc, AgentState.ends, htask, hpoint,
        downstreamEnd]
  · have hnone : ∀ n task data, e = .reader n (.data data) → s.reader n = some task →
        task.point = .reading → data = [] := by
      intro n task data he htask hpoint
      by_contra hdata
      exact hread ⟨n, task, data, he, htask, hpoint, hdata⟩
    rw [(agentStep_rule hstep).sends_no_data hnone]
    rcases given_ends s e c with hnil | hgiven
    · rw [hnil, List.append_nil]
    · exact absurd hgiven hread

end HttpNetworkRelay
