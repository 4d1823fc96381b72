import HttpNetworkRelay.Client.Rules
import HttpNetworkRelay.Relay.AccessClients
import HttpNetworkRelay.Relay.Upstream

/-!
# What a session receives

A session receives one frame before it has a connection, the start message, and all others in its
loop. So what has been received for its connection is what is in the frames, if there is nothing in
the first one: `Received` relates the frames that a session has received to `payloads`.
-/

namespace HttpNetworkRelay

open Asyncio Python RelayState NetworkRelay

variable {cfg : RelayConfig} {s s' : RelayState} {e : RelayEvent} {A : ClientSocket}
  {c : ConnectionId} {ok : RelayState → RelayEvent → Prop}

/-- The suspension points before the start message. -/
def Client.early : Client → Bool
  | .accepting | .receivingStart => true
  | _ => false

/-- Frames are received where the session waits for one. -/
theorem frame_stage {pc : Client} {frame : ClientFrame}
    (h : s.resumeClient cfg A pc (.frame frame) = some s') :
    pc = .receivingStart ∨ ∃ c, pc = .receiving c := by
  have hsend : ∀ (r : NetworkRelay) (t : Task) (ws : AgentSocket) (m : Except Exc ToAgent)
      (send : LockedSend), send.resume r t ws m (.frame frame) = none := by
    intro r t ws m send
    cases send <;> rfl
  have hclose : ∀ (r : NetworkRelay) (t : Task) (c : ConnectionId) (ws : AgentSocket)
      (pc : CloseRelayedConnection), pc.resume r t c ws (.frame frame) = none := by
    intro r t c ws pc
    cases pc with
    | informing send => simp [CloseRelayedConnection.resume, hsend]
    | closingClient => rfl
  cases pc with
  | receivingStart => exact .inl rfl
  | receiving c => exact .inr ⟨c, rfl⟩
  | accepting | checking | refusing | reportingUnregistered | sendingStartOK | reportingError
  | finished => cases h
  | creating binary call =>
    obtain ⟨r, hr, -⟩ := Option.map_eq_some_iff.mp h
    obtain ⟨request, c, ws, point⟩ := call
    cases point with
    | sending send => simp [CreateConnection.resume, hsend] at hr
    | waiting => cases hr
  | forwarding c message send =>
    obtain ⟨connection, -, hnext⟩ := Option.bind_eq_some_iff.mp h
    simp [resumeSession, hsend] at hnext
  | closing c pc =>
    obtain ⟨connection, -, hnext⟩ := Option.bind_eq_some_iff.mp h
    simp [resumeSession, hclose] at hnext
  | closingClient c | joining c | cancelling c =>
    obtain ⟨connection, -, hnext⟩ := Option.bind_eq_some_iff.mp h
    simp [resumeSession] at hnext

/-- A session that has not got its start message has received nothing. -/
theorem early_of_resume {pc pc' : Client} {o : Outcome} (hpc : s.client A = some pc)
    (h : s.resumeClient cfg A pc o = some s') (hpc' : s'.client A = some pc')
    (hearly : pc'.early = true) : pc.early = true ∧ ∀ frame, o ≠ .frame frame := by
  have hrule := resumeClient_rule h
  have hid' : pc'.connection_id? = none := by
    cases pc' <;> first | rfl | cases hearly
  have hnone : pc.connection_id? = none := by
    have hsame : ∀ {pc₁}, s'.client A = some pc₁ → pc₁ = pc' := fun hpc₁ =>
      Option.some.inj (hpc₁.symm.trans hpc')
    cases hrule.moved with
    | ended pc₁ hpc₁ hid =>
      obtain rfl := hsame hpc₁
      rcases hid with hid | ⟨-, hfailed⟩
      · exact hid.symm.trans hid'
      · have hnot : pc₁.failed = false := by
          cases pc₁ <;> first | rfl | cases hearly
        rw [hnot] at hfailed
        cases hfailed
    | created binary pc₁ hpc₁ =>
      obtain rfl := hsame hpc₁
      cases hearly
    | stays pc₁ hpc₁ hid =>
      obtain rfl := hsame hpc₁
      exact hid.symm.trans hid'
    | entered _ hpc₁ =>
      obtain rfl := hsame hpc₁
      cases hearly
    | left pc₁ _ hpc₁ hleaving =>
      obtain rfl := hsame hpc₁
      rw [Client.connection_id?_of_leaving hleaving] at hid'
      cases hid'
  -- What comes after the start message is not before it.
  have hlate : ∀ {pc₁}, s'.client A = some pc₁ → pc₁.early = false → False := by
    intro pc₁ hpc₁ hfalse
    obtain rfl := Option.some.inj (hpc₁.symm.trans hpc')
    rw [hearly] at hfalse
    cases hfalse
  cases pc with
  | accepting =>
    refine ⟨rfl, ?_⟩
    rintro frame rfl
    cases h
  | receivingStart =>
    refine ⟨rfl, ?_⟩
    rintro frame rfl
    simp only [resumeClient] at h
    split at h <;> cases h <;> exact (hlate (by simp; rfl) rfl).elim
  | checking m =>
    simp only [resumeClient] at h
    split at h
    · rcases NetworkRelayForAccessClients.startSession_cases h with hpc₁ | ⟨binary, pc, hpc₁, -⟩
      · exact (hlate hpc₁ rfl).elim
      · exact (hlate hpc₁ rfl).elim
    · cases h
      exact (hlate (by simp; rfl) rfl).elim
    · cases h
      exact (hlate (by simp; rfl) rfl).elim
    · cases h
  | refusing | reportingUnregistered | reportingError =>
    simp only [resumeClient] at h
    split at h <;> cases h <;> exact (hlate (by simp; rfl) rfl).elim
  | finished i result => cases h
  | _ => cases hnone

/-- The suspension points after the start message, as long as the session can have a connection. -/
def Client.begun : Client → Bool
  | .checking _ => true
  | pc => pc.connection_id?.isSome

/-- A session comes by its start message through a frame. -/
theorem begun_of_resume {pc pc' : Client} {o : Outcome} (h : s.resumeClient cfg A pc o = some s')
    (hpc' : s'.client A = some pc') (hbegun : pc'.begun = true) :
    pc.begun = true ∨ ∃ frame, o = .frame frame := by
  -- Elsewhere the session goes to a point that is not after the start message.
  have hnot : ∀ {pc₁}, s'.client A = some pc₁ → pc₁.begun = false → False := by
    intro pc₁ hpc₁ hfalse
    obtain rfl := Option.some.inj (hpc₁.symm.trans hpc')
    rw [hbegun] at hfalse
    cases hfalse
  cases pc with
  | accepting | refusing | reportingUnregistered | reportingError =>
    simp only [resumeClient] at h
    split at h <;> cases h <;> exact (hnot (by simp; rfl) rfl).elim
  | receivingStart =>
    simp only [resumeClient] at h
    split at h
    case h_1 | h_2 | h_3 | h_4 => exact .inr ⟨_, rfl⟩
    case h_5 =>
      cases h
      exact (hnot (by simp; rfl) rfl).elim
    case h_6 => cases h
  | finished c result => cases h
  | _ => exact .inl rfl

/-- A session that has been resumed is still there. -/
theorem client_of_resume {pc : Client} {o : Outcome} (h : s.resumeClient cfg A pc o = some s') :
    ∃ pc', s'.client A = some pc' := by
  cases (resumeClient_rule h).moved with
  | ended pc' hpc' => exact ⟨pc', hpc'⟩
  | created binary pc' hpc' => exact ⟨_, hpc'⟩
  | stays pc' hpc' => exact ⟨pc', hpc'⟩
  | entered _ hpc' => exact ⟨_, hpc'⟩
  | left pc' _ hpc' => exact ⟨pc', hpc'⟩

/-- `frames` are what the session on `A` has received in the run that has shown `l`. -/
structure Received (A : ClientSocket) (s : RelayState) (frames : List ClientFrame)
    (l : List Shown) : Prop where
  early : (∀ pc, s.client A = some pc → pc.early = true) → frames = []
  unmade : (∀ c connection, s.relay.connection c = some connection →
    connection.creator ≠ .client A) → frames.length ≤ 1
  stream : ∀ c connection, s.relay.connection c = some connection →
    connection.creator = .client A → payloads c l = clientData frames

namespace Received

variable {frames : List ClientFrame} {l : List Shown}

/-- At the start nothing has been received. -/
theorem initial (A : ClientSocket) : Received A {} [] [] where
  early _ := rfl
  unmade _ := Nat.zero_le 1
  stream c connection hc := by cases hc

/-- There is no data in the start message. -/
theorem clientData_start (hfirst : ∀ frame ∈ frames.head?, frame.content? = none)
    (hlen : frames.length ≤ 1) : clientData frames = [] := by
  match frames, hlen with
  | [], _ => rfl
  | [frame], _ => rw [clientData_singleton, hfirst frame rfl]; rfl

section
variable (hR : Received A s frames l) (hr : Reaches (step cfg) ok {} s)
  (hfresh : ∀ c, s.relay.connection c = none → payloads c l = [])
include hR hr hfresh

/-- The session takes no frame in the step. -/
theorem other (hstep : step cfg s e = some s')
    (hnot : ∀ frame, e ≠ .run (.client A) (.frame frame))
    (hfirst : ∀ frame ∈ frames.head?, frame.content? = none) :
    Received A s' frames (l ++ s.shows e) := by
  have hrule := step_rule hstep
  have hr' : Reaches (step cfg) (fun _ _ => True) {} s' :=
    (hr.mono fun _ _ _ => trivial).step trivial hstep
  refine ⟨fun hearly => hR.early fun pc hpc => ?_,
    fun hunmade => hR.unmade fun c connection hc => ?_,
    fun c connection' hc' hcreator => ?_⟩
  · by_cases hrun : ∃ o, e = .run (.client A) o
    · obtain ⟨o, rfl⟩ := hrun
      obtain ⟨pc₁, hpc₁, hresume⟩ := Option.bind_eq_some_iff.mp hstep
      obtain rfl := Option.some.inj (hpc.symm.trans hpc₁)
      obtain ⟨pc', hpc'⟩ := client_of_resume hresume
      exact (early_of_resume hpc hresume hpc' (hearly pc' hpc')).1
    · by_cases hconn : e = .clientConnects A
      · subst hconn
        cases hrule with
        | clientConnects hnone =>
          rw [hnone] at hpc
          cases hpc
      · have hsame := client_frame hrule (fun o he => hrun ⟨o, he⟩) hconn
        exact hearly pc (by rw [hsame, hpc])
  · obtain ⟨connection', hc', hid⟩ := (step_evolves hstep).connection c connection hc
    rw [← (same_connection (step_evolves hstep) hc hc').2]
    exact hunmade c connection' hc'
  · have hnone : payloads c (s.shows e) = [] := by
      refine payloads_of_other fun B frame he hpc => ?_
      obtain ⟨connection₁, hc₁, hcreator₁, -⟩ :=
        (ownership hr).client B (.receiving c) c hpc rfl
      have hB := (same_connection (step_evolves hstep) hc₁ hc').2
      rw [hcreator, hcreator₁] at hB
      obtain rfl : A = B := by simpa using hB
      exact hnot frame he
    rw [payloads_append, hnone, List.append_nil]
    cases hc : s.relay.connection c with
    | some connection =>
      refine hR.stream c connection hc ?_
      rw [← (same_connection (step_evolves hstep) hc hc').2, hcreator]
    | none =>
      -- The connection has just been made, and it is the only one of the session.
      have hlen : frames.length ≤ 1 := by
        refine hR.unmade fun c₁ connection₁ hc₁ hcreator₁ => ?_
        obtain ⟨connection₁', hc₁', -⟩ := (step_evolves hstep).connection c₁ connection₁ hc₁
        have hcreator₁' := (same_connection (step_evolves hstep) hc₁ hc₁').2
        have heq := sole_connection hr' c₁ c connection₁' connection' hc₁' hc'
          (by rw [hcreator₁', hcreator₁, hcreator])
        rw [heq, hc] at hc₁
        cases hc₁
      rw [hfresh c hc, clientData_start hfirst hlen]

/-- The session takes a frame. -/
theorem receives {frame : ClientFrame}
    (hstep : step cfg s (.run (.client A) (.frame frame)) = some s')
    (hfirst : ∀ first ∈ (frames ++ [frame]).head?, first.content? = none) :
    Received A s' (frames ++ [frame]) (l ++ s.shows (.run (.client A) (.frame frame))) := by
  obtain ⟨pc, hpc, hresume⟩ := Option.bind_eq_some_iff.mp hstep
  have hlate : ¬ ∀ pc', s'.client A = some pc' → pc'.early = true := by
    intro hearly
    obtain ⟨pc', hpc'⟩ := client_of_resume hresume
    exact (early_of_resume hpc hresume hpc' (hearly pc' hpc')).2 frame rfl
  rcases frame_stage hresume with rfl | ⟨c₀, rfl⟩
  · -- The start message is the first frame.
    obtain rfl : frames = [] := by
      refine hR.early fun pc hpc' => ?_
      obtain rfl := Option.some.inj (hpc.symm.trans hpc')
      rfl
    refine ⟨fun hearly => absurd hearly hlate, fun _ => le_rfl,
      fun c connection' hc' hcreator => ?_⟩
    have hnone : payloads c (s.shows (.run (.client A) (.frame frame))) = [] := by
      refine payloads_of_other fun B frame' he hpc' => ?_
      obtain ⟨rfl, -⟩ : A = B ∧ frame = frame' := by simpa using he
      rw [hpc] at hpc'
      cases hpc'
    have hbefore : payloads c l = [] := by
      cases hc : s.relay.connection c with
      | none => exact hfresh c hc
      | some connection =>
        refine hR.stream c connection hc ?_
        rw [← (same_connection (step_evolves hstep) hc hc').2, hcreator]
    rw [payloads_append, hbefore, hnone, List.nil_append, clientData_start hfirst le_rfl]
  · obtain ⟨connection, hc, hcreator, -⟩ := (ownership hr).client A (.receiving c₀) c₀ hpc rfl
    obtain ⟨connection', hc', -⟩ := (step_evolves hstep).connection c₀ connection hc
    have hcreator' := (same_connection (step_evolves hstep) hc hc').2.trans hcreator
    refine ⟨fun hearly => absurd hearly hlate, fun hunmade => absurd hcreator' (hunmade c₀ _ hc'),
      fun c connection₁ hc₁ hcreator₁ => ?_⟩
    have hr' : Reaches (step cfg) (fun _ _ => True) {} s' :=
      (hr.mono fun _ _ _ => trivial).step trivial hstep
    obtain rfl := sole_connection hr' c c₀ connection₁ connection' hc₁ hc'
      (by rw [hcreator₁, hcreator'])
    rw [payloads_append, hR.stream c connection hc hcreator, clientData_append,
      clientData_singleton]
    congr 1
    cases hcontent : frame.content? with
    | none =>
      refine payloads_eq_nil fun data hdata => ?_
      obtain ⟨B, frame', he, -, hcontent'⟩ := received_shows hdata
      obtain ⟨-, rfl⟩ : A = B ∧ frame = frame' := by simpa using he
      rw [hcontent] at hcontent'
      cases hcontent'
    | some data => exact payloads_received hpc hcontent

end

/-- What has been received stays, where neither the session nor the connections change. -/
theorem of_same (hR : Received A s frames l) (hclient : s'.client = s.client)
    (hconnection : s'.relay.connection = s.relay.connection) : Received A s' frames l where
  early h := hR.early (by rwa [hclient] at h)
  unmade h := hR.unmade (by rwa [hconnection] at h)
  stream c connection hc := hR.stream c connection (by rwa [hconnection] at hc)

end Received

end HttpNetworkRelay
