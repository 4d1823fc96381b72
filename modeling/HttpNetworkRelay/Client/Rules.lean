import HttpNetworkRelay.Client.AccessClient
import HttpNetworkRelay.Relay.SessionRules

/-!
# The rules of the access client

What a step of the access client can do (`AccessClientRule`), and what follows for its two streams:
`stdin_step` for the bytes that go from stdin to the relay, `stdout_step` for those that come from
the relay. `ClientFrames` is the form of what it sends: the start message, and then data.
-/

namespace HttpNetworkRelay

open Asyncio Python AccessClientState

/-! ## Frames and messages -/

/-- The bytes that a frame carries to the access client, where it carries any. -/
def ToClientFrame.payload? : ToClientFrame → Option Bytes
  | .bytes data => some data
  | .text (some (.tcpData data_base64)) => (b64decode data_base64).toOption
  | .text _ => none

/-- The bytes that frames of the access client carry, in their order. -/
def clientData (frames : List ClientFrame) : Bytes :=
  frames.flatMap fun frame => frame.content?.getD []

/-- No frames carry no bytes. -/
@[simp] theorem clientData_nil : clientData [] = [] := rfl

/-- The bytes of two runs of frames are those of the first and then those of the second. -/
@[simp] theorem clientData_append (frames frames' : List ClientFrame) :
    clientData (frames ++ frames') = clientData frames ++ clientData frames' :=
  List.flatMap_append

/-- The bytes of a single frame. -/
theorem clientData_singleton (frame : ClientFrame) :
    clientData [frame] = frame.content?.getD [] := by
  simp [clientData]

/-- A chunk of stdin is carried by its frame, in either framing. -/
@[simp] theorem stdinFrame_content (relay_supports_binary : Bool) (data : Bytes) :
    (stdinFrame relay_supports_binary data).content? = some data := by
  unfold stdinFrame
  split
  · rfl
  · simp [ClientFrame.content?, Except.toOption]

/-! ## The rules -/

/-- A step of the access client. -/
inductive AccessClientRule (cfg : AccessClientConfig) (s : AccessClientState) :
    AccessClientEvent → AccessClientState → Prop
  | begins (hmain : s.main = .ready) : AccessClientRule cfg s (.main .ok) (s.setMain .connecting)
  | opens {secret} (hmain : s.main = .connecting) (hsecret : cfg.secret = some secret) :
      AccessClientRule cfg s (.main .ok)
        ((s.send (.text (some (.start (startMessage cfg secret))))).setMain .sendingStart)
  | opened (hmain : s.main = .sendingStart) :
      AccessClientRule cfg s (.main .ok) (s.setMain .receivingAnswer)
  | answered {frame relay_supports_binary} (hmain : s.main = .receivingAnswer)
      (hframe : validate cfg frame = some (.startOK relay_supports_binary)) :
      AccessClientRule cfg s (.main (.frame frame))
        { s with relay_supports_binary, read_stdin_and_send := some {}, main := .receiving }
  | writes {frame data} (hmain : s.main = .receiving) (hpayload : frame.payload? = some data) :
      AccessClientRule cfg s (.main (.frame frame)) (s.writeStdout data)
  /-- A second answer, or an error. -/
  | ignores {frame} (hmain : s.main = .receiving) (hpayload : frame.payload? = none) :
      AccessClientRule cfg s (.main (.frame frame)) s
  /-- `async_main` ends, and the task that is left may be cancelled. -/
  | ends {o main task?}
      (hmain : (∃ error, main = .leaving error) ∨ ∃ result, main = .finished result)
      (hpayload : ∀ frame, o = .frame frame → s.main = .receiving → frame.payload? = none)
      (htask : task?.isSome = s.read_stdin_and_send.isSome) :
      AccessClientRule cfg s (.main o) { s with main, read_stdin_and_send := task? }
  | sends {task data} (htask : s.read_stdin_and_send = some task) (hpoint : task.point = .reading)
      (hcancelled : task.cancelled = false) :
      AccessClientRule cfg s (.stdin (.data data))
        ((s.send (stdinFrame s.relay_supports_binary data)).setStdin
          { task with point := .sending })
  /-- The task moves without data, or ends. -/
  | moves {task o point} (htask : s.read_stdin_and_send = some task)
      (hdata : ∀ data, o = .data data → task.point = .reading → task.cancelled = false →
        data = []) :
      AccessClientRule cfg s (.stdin o) (s.setStdin { task with point })

variable {cfg : AccessClientConfig} {s s' : AccessClientState} {e : AccessClientEvent}

/-- The call of the access client goes by one of the rules. -/
theorem start_rule (hmain : s.main = .ready) :
    AccessClientRule cfg s (.main .ok) (s.start cfg) := by
  have hends : ∀ e, AccessClientRule cfg s (.main .ok) (s.setMain (.finished (.error e))) := by
    intro e
    exact .ends (.inr ⟨_, rfl⟩) (fun frame ho => nomatch ho) rfl
  unfold start
  split
  · exact hends _
  · exact hends _
  · exact .begins hmain

/-- The first frame, which should be the answer, goes by one of the rules. -/
theorem answerReceived_rule {frame : ToClientFrame} (hmain : s.main = .receivingAnswer) :
    AccessClientRule cfg s (.main (.frame frame)) (s.answerReceived cfg frame) := by
  have hends : ∀ error, AccessClientRule cfg s (.main (.frame frame))
      (s.setMain (.leaving error)) := by
    intro error
    refine .ends (.inl ⟨_, rfl⟩) (fun frame _ hreceiving => ?_) rfl
    rw [hmain] at hreceiving
    cases hreceiving
  unfold answerReceived
  split
  case h_1 => exact hends _
  case h_2 supports_binary hframe => exact .answered hmain hframe
  case h_3 => exact hends _

/-- Every later frame goes by one of the rules. -/
theorem frameReceived_rule_client {frame : ToClientFrame} (hmain : s.main = .receiving) :
    AccessClientRule cfg s (.main (.frame frame)) (s.frameReceived frame) := by
  have hends : ∀ error, frame.payload? = none →
      AccessClientRule cfg s (.main (.frame frame)) (s.setMain (.leaving error)) := by
    intro error hpayload
    refine .ends (.inl ⟨_, rfl⟩) (fun frame' ho _ => ?_) rfl
    obtain rfl := AccessClientOutcome.frame.inj ho
    exact hpayload
  unfold frameReceived
  split
  case h_1 data => exact .writes hmain rfl
  case h_2 => exact hends _ rfl
  case h_3 data_base64 =>
    split
    case h_1 data hdata =>
      exact .writes hmain (by simp [ToClientFrame.payload?, hdata, Except.toOption])
    case h_2 error hdata => exact hends _ (by simp [ToClientFrame.payload?, hdata, Except.toOption])
  case h_4 known hknown =>
    refine .ignores hmain ?_
    cases known with
    | tcpData data_base64 => exact absurd rfl (hknown data_base64)
    | error | startOK => rfl

/-- Every step of the main task goes by one of the rules. -/
theorem resumeMain_rule_client {o : AccessClientOutcome} (h : s.resumeMain cfg o = some s') :
    AccessClientRule cfg s (.main o) s' := by
  have hleaves : ∀ {o : AccessClientOutcome} {error : Option AgentExc},
    (∀ frame, o ≠ .frame frame) →
      AccessClientRule cfg s (.main o) (s.setMain (.leaving error)) := by
    intro o error ho
    exact .ends (.inl ⟨_, rfl⟩) (fun frame heq => absurd heq (ho frame)) rfl
  have hcancels : ∀ {o : AccessClientOutcome} {main : AccessClientMain},
      ((∃ error, main = .leaving error) ∨ ∃ result, main = .finished result) →
      (∀ frame, o ≠ .frame frame) →
      AccessClientRule cfg s (.main o) (s.cancelStdin.setMain main) := by
    intro o main hmain ho
    exact .ends hmain (fun frame heq => absurd heq (ho frame)) (Option.isSome_map)
  unfold resumeMain at h
  split at h
  case h_1 hmain =>
    obtain rfl := Option.some.inj h
    exact start_rule hmain
  case h_2 hmain =>
    obtain ⟨secret, hsecret, rfl⟩ := Option.map_eq_some_iff.mp h
    exact .opens hmain hsecret
  case h_4 hmain =>
    obtain rfl := Option.some.inj h
    exact .opened hmain
  case h_6 hmain =>
    obtain rfl := Option.some.inj h
    exact answerReceived_rule hmain
  case h_8 hmain =>
    obtain rfl := Option.some.inj h
    exact frameReceived_rule_client hmain
  case h_5 | h_7 | h_10 =>
    obtain rfl := Option.some.inj h
    exact hleaves (fun frame ho => nomatch ho)
  case h_3 | h_11 | h_12 | h_13 =>
    obtain rfl := Option.some.inj h
    exact hcancels (.inr ⟨_, rfl⟩) (fun frame ho => nomatch ho)
  case h_9 =>
    obtain rfl := Option.some.inj h
    exact hcancels (.inl ⟨_, rfl⟩) (fun frame ho => nomatch ho)
  case h_14 => cases h

/-- Every step of the task that reads stdin goes by one of the rules. -/
theorem resumeStdin_rule {task : StdinTask} {o : AccessClientOutcome}
    (htask : s.read_stdin_and_send = some task) (h : s.resumeStdin task o = some s') :
    AccessClientRule cfg s (.stdin o) s' := by
  unfold resumeStdin at h
  split_ifs at h with hcancelled hpoint
  · obtain rfl := Option.some.inj h
    exact .moves htask fun data _ _ hlive => absurd hcancelled (by simp [hlive])
  · split at h
    case h_2 data hpoint =>
      split_ifs at h with hdata
      · obtain rfl := Option.some.inj h
        refine .moves htask fun data' ho _ _ => ?_
        obtain rfl := AccessClientOutcome.data.inj ho
        exact hdata
      · obtain rfl := Option.some.inj h
        exact .sends htask hpoint (by simpa using hcancelled)
    case h_7 => cases h
    all_goals
      obtain rfl := Option.some.inj h
      exact .moves htask fun data ho => nomatch ho

/-- Every step of the access client goes by one of the rules. -/
theorem accessClientStep_rule (h : accessClientStep cfg s e = some s') :
    AccessClientRule cfg s e s' := by
  cases e with
  | main o => exact resumeMain_rule_client h
  | stdin o =>
    obtain ⟨task, htask, h⟩ := Option.bind_eq_some_iff.mp h
    exact resumeStdin_rule htask h

/-- What has been sent is not taken back. -/
theorem AccessClientRule.sends_more (h : AccessClientRule cfg s e s') :
    s.to_relay <+: s'.to_relay := by
  cases h with
  | opens => exact List.prefix_append _ _
  | sends => exact List.prefix_append _ _
  | _ => exact List.prefix_rfl

/-- Frames are received where `async_main` waits for one. -/
theorem frame_point {frame : ToClientFrame} (h : s.resumeMain cfg (.frame frame) = some s') :
    s.main = .receivingAnswer ∨ s.main = .receiving := by
  unfold resumeMain at h
  split at h
  case h_6 hmain _ => exact .inl hmain
  case h_8 hmain _ => exact .inr hmain
  all_goals simp_all

/-- The suspension points before the answer. -/
def AccessClientMain.waiting : AccessClientMain → Bool
  | .ready | .connecting | .sendingStart | .receivingAnswer => true
  | _ => false

/-- `async_main` comes to the answer without a frame. -/
theorem AccessClientRule.waiting (h : AccessClientRule cfg s e s')
    (hwaiting : s'.main.waiting = true) :
    s.main.waiting = true ∧ ∀ frame, e ≠ .main (.frame frame) := by
  cases h with
  | begins hmain | opens hmain | opened hmain =>
    refine ⟨by rw [hmain]; rfl, fun frame he => ?_⟩
    cases he
  | answered => cases hwaiting
  | writes hmain | ignores hmain =>
    have hnot : s.main.waiting = true := hwaiting
    rw [hmain] at hnot
    cases hnot
  | ends hmain =>
    rcases hmain with ⟨error, rfl⟩ | ⟨result, rfl⟩
    · cases hwaiting
    · cases hwaiting
  | sends | moves =>
    refine ⟨hwaiting, fun frame he => ?_⟩
    cases he

end HttpNetworkRelay
