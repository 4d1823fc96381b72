import HttpNetworkRelay.Tunnel.Downward

/-!
# The parties understand each other

Each receiver of the tunnel has frames that it does not survive: the handshake and the session one
that is no start message, the session in its loop one without data, the agent and its message loop
one that they cannot decode, the access client one that is no answer or no data.
`parties_compatible` says that in no run does one party send such a frame to another, however the
steps are interleaved: a receiver that is left is left for another reason.
-/

namespace HttpNetworkRelay

open Asyncio Python RelayState NetworkRelay

variable {cfg : RelayConfig} {acfg : AgentConfig} {ccfg : AccessClientConfig} {W : AgentSocket}
  {A : ClientSocket} {s s' : TunnelState} {c : ConnectionId}
  {ok : TunnelState → TunnelEvent → Prop} {l : List TunnelShown}

/-! ## What is sent to the agent -/

/-- What the relay sends is no surprise to the agent. -/
theorem Addressed.good {r : NetworkRelay} (acfg : AgentConfig)
    (hcanonical : ∀ c, (r.connection c).isSome = true → canonical c = true) {m : ToAgent}
    (h : Addressed r W m) : m.received.malformed acfg = false := by
  cases h with
  | keepAlive | close | request => rfl
  | @data c connection content _ hc hm =>
    unfold TcpConnection.dataMessage at hm
    split_ifs at hm with hbinary
    · have hid := hcanonical c (by rw [hc]; rfl)
      obtain ⟨bytes, hbytes⟩ := encode_tcp_binary_frame_ok hid content
      rw [hbytes] at hm
      obtain rfl := Except.ok.inj hm
      simp [ToAgent.received, RelayFrame.malformed, decode_of_encode hid hbytes, Except.toOption]
    · obtain rfl := Except.ok.inj hm
      simp [ToAgent.received, RelayFrame.malformed, Except.toOption]

/-! ## What is sent to the relay -/

section
variable {s s' : RelayState}

/-- The message loop goes on after a frame that it understands. -/
theorem FrameRule.goes_on {n : AgentId} {frame : AgentFrame} (h : FrameRule cfg s W n frame s')
    (hgood : frame.malformed cfg = false) :
    ∃ pc, s'.msgLoop W = some ⟨n, pc⟩ ∧ pc.ended = false := by
  cases h with
  | stops hbad =>
    rw [hgood] at hbad
    cases hbad
  | ignores | fills | schedules | resets | answers | blocks | custom =>
    exact ⟨_, Function.update_self .., rfl⟩

/-- What the session waits for at its suspension point: the start message, and in its loop a frame
with data that can be decoded. -/
def Client.expects : Client → ClientFrame → Bool
  | .receivingStart, .text (some (.start _)) => true
  | .receiving _, frame => frame.content?.isSome
  | _, _ => false

/-- The session goes on after a frame that it waits for. -/
theorem session_goes_on {pc : Client} {frame : ClientFrame}
    (hr : Reaches (step cfg) (fun _ _ => True) {} s) (hpc : s.client A = some pc)
    (h : s.resumeClient cfg A pc (.frame frame) = some s') (hexpects : pc.expects frame = true) :
    ∀ i result, s'.client A ≠ some (.finished i result) := by
  unfold Client.expects at hexpects
  split at hexpects
  case h_1 m =>
    obtain rfl := Option.some.inj h
    simp
  case h_2 c =>
    obtain ⟨data, hdata⟩ := Option.isSome_iff_exists.mp hexpects
    cases resumeClient_rule h with
    | advances hunconnected => cases hunconnected
    | refuses hpc => simp at hpc
    | disconnects ho => simp at ho
    | malformed hbad =>
      rw [content?_of_malformed hbad] at hdata
      cases hdata
    | ignores _ hnone =>
      rw [hdata] at hnone
      cases hnone
    | @forwards _ _ data connection r' res hc hcontent hsend =>
      have hid := canonical_ids hr c (by rw [hc]; rfl)
      cases hsend with
      | queues | sends => simp [forwarded]
      | unencodable hm =>
        obtain ⟨bytes, hbytes⟩ := encode_tcp_binary_frame_ok hid data
        unfold TcpConnection.dataMessage at hm
        rw [hbytes] at hm
        split_ifs at hm
        cases hm
  case h_3 => cases hexpects

end

/-! ## What is sent to the session -/

section
variable (h : Traced (tunnelStep cfg acfg ccfg W A) ok (TunnelState.shows acfg W A) {} s l)
include h

/-- The relay of the tunnel runs as the relay does. -/
theorem tunnel_relay : Reaches (step cfg) (fun _ _ => True) {} s.link.relay :=
  (relay_trace (tunnel_link h)).reaches

/-- A session that has its start message has received a frame. -/
theorem begun_received {pc : Client} (hpc : s.link.relay.client A = some pc)
    (hbegun : pc.begun = true) : s.received ≠ 0 := by
  have hI : ∀ pc, s.link.relay.client A = some pc → pc.begun = true → s.received ≠ 0 := by
    refine h.invariant (I := fun s _ => ∀ pc, s.link.relay.client A = some pc → pc.begun = true →
      s.received ≠ 0) (fun pc hpc => by cases hpc) fun s e s' l ht _ hstep hI pc' hpc' hbegun => ?_
    cases tunnelStep_rule hstep with
    | @link e link he hlink =>
      cases linkStep_rule hlink with
      | @relay e relay _ hrelay =>
        by_cases hrun : ∃ o, e = .run (.client A) o
        · obtain ⟨o, rfl⟩ := hrun
          obtain ⟨pc, hpc, hresume⟩ := Option.bind_eq_some_iff.mp hrelay
          rcases begun_of_resume hresume hpc' hbegun with hbefore | ⟨frame, rfl⟩
          · exact hI pc hpc hbefore
          · simp [LinkEvent.receivesFrom] at he
        · have hrule := step_rule hrelay
          by_cases hconn : e = .clientConnects A
          · subst hconn
            cases hrule
            obtain rfl : Client.accepting = pc' := by simpa using hpc'
            cases hbegun
          · have hsame := client_frame hrule (fun o he => hrun ⟨o, he⟩) hconn
            exact hI pc' (hsame.symm.trans hpc') hbegun
      | agent | receive => exact hI pc' hpc' hbegun
    | client | down => exact hI pc' hpc' hbegun
    | up => exact Nat.succ_ne_zero _
  exact hI pc hpc hbegun

/-- The session waits for the frame that comes next. -/
theorem session_expects {pc : Client} {frame : ClientFrame} {relay : RelayState}
    (hpc : s.link.relay.client A = some pc)
    (hframe : s.client.to_relay[s.received]? = some frame)
    (hresume : s.link.relay.resumeClient cfg A pc (.frame frame) = some relay) :
    pc.expects frame = true := by
  rcases frame_stage hresume with rfl | ⟨c, rfl⟩
  · obtain ⟨secret, -, rfl⟩ := start_received h hpc hframe
    rfl
  · have hreceived := begun_received h hpc rfl
    obtain ⟨n, hn⟩ := Nat.exists_eq_succ_of_ne_zero hreceived
    have hsome : s.client.to_relay ≠ [] := by
      intro hnil
      rw [hnil] at hframe
      cases hframe
    obtain ⟨secret, chunks, -, hto, hchunks⟩ := (tunnel_frames h).frames.resolve_left hsome
    rw [hto, hn] at hframe
    exact hchunks frame (List.mem_of_getElem? hframe)

/-! ## What is sent to the message loop -/

/-- The message loop goes on after every frame of the agent. -/
theorem loop_goes_on {n : AgentId} {relay : RelayState}
    (hresume : s.link.relay.resumeMsgLoop cfg W ⟨n, .receiving⟩ .next = some relay) :
    ∃ pc, relay.msgLoop W = some ⟨n, pc⟩ ∧ pc.ended = false := by
  cases resumeMsgLoop_rule hresume with
  | disconnects ho => simp at ho
  | @receives frame rest _ hin hframe =>
    have hsent : frame ∈ s.link.agent.agent.to_relay 0 := by
      rw [← link_arrived (tunnel_link h)]
      exact ((registryInv (tunnel_relay h)).inbox W).subset (by rw [hin]; exact List.mem_cons_self)
    exact hframe.goes_on (sent_good (tunnel_link h) hsent)

/-! ## What is sent to the handshake -/

/-- The handshake ends in an error only if the start message does not validate. -/
theorem handshake_goes_on {relay : RelayState}
    (hmain : s.link.relay.handshake W = some .receivingStart)
    (hresume : s.link.relay.resumeHandshake cfg W .receivingStart .next = some relay) :
    ∃ message custom,
      (s.link.agent.agent.to_relay 0).head? = some (.text ⟨some (.start message), custom⟩) ∧
      relay.handshake W = some (if cfg.start_message_valid message then .checking message
        else .finished (.error .validationError)) := by
  have hsent : s.link.relay.relay.inbox W = s.link.agent.agent.to_relay 0 := by
    rw [← link_arrived (tunnel_link h)]
    exact (registryInv (tunnel_relay h)).unread W (.inr (.inr hmain))
  have hfirst := ((link_spoken (tunnel_link h)).grammar 0).first
  rw [← hsent] at hfirst ⊢
  unfold resumeHandshake at hresume
  cases hinbox : s.link.relay.relay.inbox W with
  | nil =>
    rw [hinbox] at hresume
    cases hresume
  | cons frame rest =>
    rw [hinbox] at hresume hfirst
    obtain rfl := Option.some.inj hresume
    have hstart := hfirst frame rfl
    match frame with
    | .text ⟨some (.start message), custom⟩ =>
      exact ⟨message, custom, rfl, by simp [startReceived]⟩

/-! ## What is sent to the access client -/

/-- The access client goes on after every message of the relay. -/
theorem client_goes_on {m : ToClient} {client : AccessClientState}
    (hm : (s.link.relay.relay.to_client A)[s.delivered]? = some m)
    (hclient : accessClientStep ccfg s.client (.main (.frame m.received)) = some client) :
    ∀ error, client.main ≠ .leaving (some error) := by
  have hgreeted := greeted (tunnel_relay h) A
  rcases frame_point hclient with hmain | hmain
  · -- The first message is an answer.
    have hanswer := answer_first h (by rw [hmain]; rfl) hm
    have hnext : client = s.client.answerReceived ccfg m.received := by
      unfold accessClientStep AccessClientState.resumeMain at hclient
      rw [hmain] at hclient
      exact (Option.some.inj hclient).symm
    subst hnext
    match m, hanswer with
    | .text (.startOK _), _ | .text (.error _), _ =>
      simp [ToClient.received, AccessClientState.answerReceived, AccessClientState.validate]
  · have hnext : client = s.client.frameReceived m.received := by
      unfold accessClientStep AccessClientState.resumeMain at hclient
      rw [hmain] at hclient
      exact (Option.some.inj hclient).symm
    subst hnext
    have hknown := hgreeted.all m (List.mem_of_getElem? hm)
    match m with
    | .bytes _ | .text (.startOK _) | .text (.error _) =>
      simp [ToClient.received, AccessClientState.frameReceived, hmain]
    | .text (.tcpData data_base64) =>
      have hsome : (b64decode data_base64).toOption.isSome = true := by
        simpa [ToClient.isAnswer, ToClient.payload?] using hknown
      cases hdecoded : b64decode data_base64 with
      | ok data => simp [ToClient.received, AccessClientState.frameReceived, hdecoded, hmain]
      | error e =>
        rw [hdecoded] at hsome
        cases hsome

end

/-! ## All parties -/

/-- No party ends because of what the next frame from another party is, unless the start message of
the agent does not validate; and the session receives what it waits for. -/
structure Compatible (cfg : RelayConfig) (acfg : AgentConfig) (ccfg : AccessClientConfig)
    (W : AgentSocket) (A : ClientSocket) (s : TunnelState) : Prop where
  handshake : ∀ s', s.link.relay.handshake W = some .receivingStart →
    tunnelStep cfg acfg ccfg W A s (.link (.relay (.run (.handshake W) .next))) = some s' →
    ∃ message custom,
      (s.link.agent.agent.to_relay 0).head? = some (.text ⟨some (.start message), custom⟩) ∧
      s'.link.relay.handshake W = some (if cfg.start_message_valid message then .checking message
        else .finished (.error .validationError))
  session : ∀ s', tunnelStep cfg acfg ccfg W A s .up = some s' →
    ∃ pc frame, s.link.relay.client A = some pc ∧ s.nextFrame? = some frame ∧
      pc.expects frame = true ∧ ∀ i result, s'.link.relay.client A ≠ some (.finished i result)
  agent : ∀ s', tunnelStep cfg acfg ccfg W A s (.link .receive) = some s' →
    s'.link.agent.main.inLoop = true
  msgLoop : ∀ n s', s.link.relay.msgLoop W = some ⟨n, .receiving⟩ →
    tunnelStep cfg acfg ccfg W A s (.link (.relay (.run (.msgLoop W) .next))) = some s' →
    ∃ pc, s'.link.relay.msgLoop W = some ⟨n, pc⟩ ∧ pc.ended = false
  client : ∀ s', tunnelStep cfg acfg ccfg W A s .down = some s' →
    ∀ error, s'.client.main ≠ .leaving (some error)

/-- In every run, every party understands what the others send to it. -/
theorem parties_compatible (cfg : RelayConfig) (acfg : AgentConfig) (ccfg : AccessClientConfig)
    (W : AgentSocket) (A : ClientSocket) (s : TunnelState)
    (h : Reaches (tunnelStep cfg acfg ccfg W A) (fun _ _ => True) {} s) :
    Compatible cfg acfg ccfg W A s := by
  obtain ⟨l, ht⟩ := h.traced (TunnelState.shows acfg W A)
  have hr := tunnel_relay ht
  refine ⟨fun s' hwaiting hstep => ?_, fun s' hstep => ?_, fun s' hstep => ?_,
    fun n s' hreceiving hstep => ?_, fun s' hstep => ?_⟩
  · cases tunnelStep_rule hstep with
    | link _ hlink =>
      cases linkStep_rule hlink with
      | relay _ hrelay =>
        obtain ⟨pc, hpc, hresume⟩ := Option.bind_eq_some_iff.mp hrelay
        obtain rfl := Option.some.inj (hwaiting.symm.trans hpc)
        exact handshake_goes_on ht hwaiting hresume
  · cases tunnelStep_rule hstep with
    | up hframe hlink =>
      cases linkStep_rule hlink with
      | relay _ hrelay =>
        obtain ⟨pc, hpc, hresume⟩ := Option.bind_eq_some_iff.mp hrelay
        have hexpects := session_expects ht hpc hframe hresume
        exact ⟨pc, _, hpc, hframe, hexpects, session_goes_on hr hpc hresume hexpects⟩
  · cases tunnelStep_rule hstep with
    | link _ hlink =>
      cases linkStep_rule hlink with
      | receive hm hagent =>
        have haddressed := (outgoing hr).sent W _ (List.mem_of_getElem? hm)
        exact ((receive_of_frame hagent).inLoop (haddressed.good acfg (canonical_ids hr))).1
  · cases tunnelStep_rule hstep with
    | link _ hlink =>
      cases linkStep_rule hlink with
      | relay _ hrelay =>
        obtain ⟨task, htask, hresume⟩ := Option.bind_eq_some_iff.mp hrelay
        obtain rfl := Option.some.inj (hreceiving.symm.trans htask)
        exact loop_goes_on ht hresume
  · cases tunnelStep_rule hstep with
    | down hm hclient => exact client_goes_on ht hm hclient

/-- A chunk is on its way in each direction. -/
theorem halfWay_compatible :
    (tunnelStep plainConfig plainAgent plainClient ⟨0⟩ ⟨0⟩ halfWay .up).isSome = true ∧
      (tunnelStep plainConfig plainAgent plainClient ⟨0⟩ ⟨0⟩ halfWay
        (.link (.relay (.run (.msgLoop ⟨0⟩) .next)))).isSome = true ∧
      Compatible plainConfig plainAgent plainClient ⟨0⟩ ⟨0⟩ halfWay :=
  ⟨by decide +kernel, by decide +kernel,
    parties_compatible plainConfig plainAgent plainClient ⟨0⟩ ⟨0⟩ halfWay
      (halfWay_traced.reaches.mono fun _ _ _ => trivial)⟩

end HttpNetworkRelay
