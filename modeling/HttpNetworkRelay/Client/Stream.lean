import HttpNetworkRelay.Client.Rules
import HttpNetworkRelay.Tunnel.Ends

/-!
# The streams of the access client

What a step of the access client shows at stdin and stdout, and how this is related to what it sends
and has received: `stdin_step` and `stdout_step`. `ClientFrames` is the form of what it sends, which
the relay never stumbles over: the start message, and then data.
-/

namespace HttpNetworkRelay

open Asyncio Python AccessClientState

variable {cfg : AccessClientConfig} {s s' : AccessClientState} {e : AccessClientEvent}

/-- What an event shows at stdin and stdout. -/
def AccessClientState.ends (s : AccessClientState) : AccessClientEvent → List TunnelEnd
  | .stdin (.data data) =>
    match s.read_stdin_and_send with
    | some task => if task.point = .reading ∧ task.cancelled = false then [.stdin data] else []
    | none => []
  | .main (.frame frame) =>
    if s.main = .receiving then frame.payload?.toList.map .stdout else []
  | _ => []

/-- What an event of the main task shows. -/
theorem ends_main (o : AccessClientOutcome) :
    s.ends (.main o) = [] ∨ ∃ frame data, o = .frame frame ∧ s.main = .receiving ∧
      frame.payload? = some data ∧ s.ends (.main o) = [.stdout data] := by
  cases o with
  | frame frame =>
    by_cases hmain : s.main = .receiving
    · cases hpayload : frame.payload? with
      | none =>
        left
        simp [AccessClientState.ends, hpayload]
      | some data =>
        refine .inr ⟨frame, data, rfl, hmain, hpayload, ?_⟩
        simp [AccessClientState.ends, hmain, hpayload]
    · left
      simp only [AccessClientState.ends, hmain, if_false]
  | ok | raised | data => exact .inl rfl

/-- What an event of the other task shows. -/
theorem ends_stdin (o : AccessClientOutcome) :
    s.ends (.stdin o) = [] ∨ ∃ task data, o = .data data ∧ s.read_stdin_and_send = some task ∧
      task.point = .reading ∧ task.cancelled = false ∧ s.ends (.stdin o) = [.stdin data] := by
  cases o with
  | data data =>
    cases htask : s.read_stdin_and_send with
    | none =>
      left
      simp [AccessClientState.ends, htask]
    | some task =>
      by_cases hlive : task.point = .reading ∧ task.cancelled = false
      · refine .inr ⟨task, data, rfl, rfl, hlive.1, hlive.2, ?_⟩
        simp [AccessClientState.ends, htask, hlive]
      · left
        simp only [AccessClientState.ends, htask, hlive, if_false]
  | ok | raised | frame => exact .inl rfl

/-- What has been read from stdin is what the frames carry. -/
theorem stdin_step (hstep : accessClientStep cfg s e = some s') (c : ConnectionId) :
    clientData s'.to_relay =
      clientData s.to_relay ++ givenOf ((s.ends e).filterMap (upstreamEnd c)) := by
  have hmain : ∀ o, givenOf ((s.ends (.main o)).filterMap (upstreamEnd c)) = [] := by
    intro o
    rcases ends_main (s := s) o with hnil | ⟨frame, data, -, -, -, hshown⟩
    · rw [hnil]
      rfl
    · rw [hshown]
      rfl
  cases accessClientStep_rule hstep with
  | opens =>
    rw [hmain]
    simp [clientData_singleton, ClientFrame.content?]
  | begins | opened | answered | writes | ignores | ends =>
    rw [hmain]
    exact (List.append_nil _).symm
  | @sends task data htask hpoint hcancelled =>
    simp [AccessClientState.ends, htask, hpoint, hcancelled, clientData_singleton, upstreamEnd]
  | @moves task o point htask hdata =>
    rcases ends_stdin (s := s) o with hnil | ⟨task', data, ho, htask', hpoint, hlive, hshown⟩
    · rw [hnil]
      exact (List.append_nil _).symm
    · obtain rfl := Option.some.inj (htask.symm.trans htask')
      rw [hshown, hdata data ho hpoint hlive]
      exact (List.append_nil _).symm

/-- What is shown at stdout has been written there. -/
theorem stdout_step (hstep : accessClientStep cfg s e = some s') (c : ConnectionId) :
    s'.stdout = s.stdout ++ handedOf ((s.ends e).filterMap (downstreamEnd c)) := by
  have hnone : ∀ o, (∀ frame, o = .frame frame → s.main = .receiving → frame.payload? = none) →
      handedOf ((s.ends (.main o)).filterMap (downstreamEnd c)) = [] := by
    intro o hpayload
    rcases ends_main (s := s) o with hnil | ⟨frame, data, ho, hmain, hdata, -⟩
    · rw [hnil]
      rfl
    · rw [hpayload frame ho hmain] at hdata
      cases hdata
  have hother : ∀ o, handedOf ((s.ends (.stdin o)).filterMap (downstreamEnd c)) = [] := by
    intro o
    rcases ends_stdin (s := s) o with hnil | ⟨task, data, -, -, -, -, hshown⟩
    · rw [hnil]
      rfl
    · rw [hshown]
      rfl
  cases accessClientStep_rule hstep with
  | @writes frame data hmain hpayload =>
    simp [AccessClientState.ends, hmain, hpayload, downstreamEnd]
  | begins | opens | opened =>
    rw [hnone _ fun frame ho => AccessClientOutcome.noConfusion ho]
    exact (List.append_nil _).symm
  | answered hmain =>
    have hnot : s.main ≠ .receiving := by simp [hmain]
    rw [hnone _ fun frame _ hreceiving => absurd hreceiving hnot]
    exact (List.append_nil _).symm
  | @ignores frame hmain hpayload =>
    rw [hnone _ fun frame' ho _ => AccessClientOutcome.frame.inj ho ▸ hpayload]
    exact (List.append_nil _).symm
  | ends _ hpayload =>
    rw [hnone _ hpayload]
    exact (List.append_nil _).symm
  | sends | moves =>
    rw [hother]
    exact (List.append_nil _).symm

/-! ## What the access client sends -/

/-- The start message, and then data. -/
def StartedWith (cfg : AccessClientConfig) (frames : List ClientFrame) : Prop :=
  ∃ secret chunks, cfg.secret = some secret ∧
    frames = .text (some (.start (startMessage cfg secret))) :: chunks ∧
    ∀ frame ∈ chunks, frame.content?.isSome = true

/-- A chunk of stdin may follow. -/
theorem StartedWith.chunk {frames : List ClientFrame} (h : StartedWith cfg frames) (binary : Bool)
    (data : Bytes) : StartedWith cfg (frames ++ [stdinFrame binary data]) := by
  obtain ⟨secret, chunks, hsecret, rfl, hchunks⟩ := h
  refine ⟨secret, chunks ++ [stdinFrame binary data], hsecret, rfl, fun frame hframe => ?_⟩
  rcases List.mem_append.mp hframe with hold | hnew
  · exact hchunks frame hold
  · rw [List.mem_singleton.mp hnew, stdinFrame_content]
    rfl

/-- What the access client has sent at the stages of `async_main`. -/
structure ClientFrames (cfg : AccessClientConfig) (s : AccessClientState) : Prop where
  silent : s.main = .ready ∨ s.main = .connecting →
    s.to_relay = [] ∧ s.read_stdin_and_send = none
  started : s.main = .sendingStart ∨ s.main = .receivingAnswer ∨ s.main = .receiving ∨
    s.read_stdin_and_send.isSome = true → StartedWith cfg s.to_relay
  frames : s.to_relay = [] ∨ StartedWith cfg s.to_relay

namespace ClientFrames

/-- Nothing has been sent. -/
theorem initial : ClientFrames cfg {} where
  silent _ := ⟨rfl, rfl⟩
  started h := by simp at h
  frames := .inl rfl

/-- Every step keeps the invariant. -/
theorem preserved (hF : ClientFrames cfg s) (hstep : accessClientStep cfg s e = some s') :
    ClientFrames cfg s' := by
  cases accessClientStep_rule hstep with
  | begins hmain =>
    obtain ⟨hto, htask⟩ := hF.silent (.inl hmain)
    exact ⟨fun _ => ⟨hto, htask⟩, fun h => by simp [htask] at h, .inl hto⟩
  | @opens secret hmain hsecret =>
    obtain ⟨hto, htask⟩ := hF.silent (.inr hmain)
    have hstarted : StartedWith cfg (s.to_relay ++
        [.text (some (.start (startMessage cfg secret)))]) :=
      ⟨secret, [], hsecret, by rw [hto]; rfl, fun frame hframe => by cases hframe⟩
    exact ⟨fun h => by simp at h, fun _ => hstarted, .inr hstarted⟩
  | opened hmain =>
    have hstarted := hF.started (.inl hmain)
    exact ⟨fun h => by simp at h, fun _ => hstarted, .inr hstarted⟩
  | answered hmain =>
    have hstarted := hF.started (.inr (.inl hmain))
    exact ⟨fun h => by simp at h, fun _ => hstarted, .inr hstarted⟩
  | writes hmain =>
    have hstarted := hF.started (.inr (.inr (.inl hmain)))
    exact ⟨fun h => by simp [hmain] at h, fun _ => hstarted, .inr hstarted⟩
  | ignores => exact hF
  | @ends o main task? hmain hpayload htask =>
    refine ⟨?_, ?_, hF.frames⟩
    · rcases hmain with ⟨error, rfl⟩ | ⟨result, rfl⟩ <;> simp
    · rintro (h | h | h | h)
      · rcases hmain with ⟨error, rfl⟩ | ⟨result, rfl⟩ <;> cases h
      · rcases hmain with ⟨error, rfl⟩ | ⟨result, rfl⟩ <;> cases h
      · rcases hmain with ⟨error, rfl⟩ | ⟨result, rfl⟩ <;> cases h
      · exact hF.started (.inr (.inr (.inr (htask.symm.trans h))))
  | @sends task data htask =>
    have hstarted := (hF.started (.inr (.inr (.inr (by rw [htask]; rfl))))).chunk
      s.relay_supports_binary data
    refine ⟨fun h => ?_, fun _ => hstarted, .inr hstarted⟩
    obtain ⟨-, hnone⟩ := hF.silent h
    rw [htask] at hnone
    cases hnone
  | @moves task o point htask =>
    have hstarted := hF.started (.inr (.inr (.inr (by rw [htask]; rfl))))
    refine ⟨fun h => ?_, fun _ => hstarted, .inr hstarted⟩
    obtain ⟨-, hnone⟩ := hF.silent h
    rw [htask] at hnone
    cases hnone

/-- There is no data in the start message. -/
theorem first_frame (hF : ClientFrames cfg s) (n : ℕ) :
    ∀ frame ∈ (s.to_relay.take n).head?, frame.content? = none := by
  intro frame hframe
  rcases hF.frames with hnil | ⟨secret, chunks, -, hto, -⟩
  · rw [hnil] at hframe
    simp at hframe
  · match n with
    | 0 => cases hframe
    | n + 1 =>
      rw [hto] at hframe
      obtain rfl : .text (some (.start (startMessage cfg secret))) = frame := by
        simpa using hframe
      rfl

end ClientFrames

end HttpNetworkRelay
