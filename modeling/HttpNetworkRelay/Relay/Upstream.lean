import HttpNetworkRelay.Relay.Requests

/-!
# From an access client to the websocket of its agent

What `ws_for_access_clients` does with the data of its client. `Upstream` is the law of the stream:
the bytes that a session has received are those that have been sent on the agent's websocket for its
connection, in the same order, followed by the piece that waits for the send lock; and if the client
disconnects before the agent or the target has ended the connection, all of them have been sent when
the close message is. `upstream` proves it of every run of the relay.
-/

namespace HttpNetworkRelay

open Asyncio Python RelayState NetworkRelay

variable {cfg : RelayConfig} {s s' : RelayState} {e : RelayEvent}
  {ok : RelayState → RelayEvent → Prop} {c : ConnectionId}

/-! ## What a run shows -/

/-- What a run of the relay shows of a connection. -/
inductive Shown
  /-- Its session has received data. -/
  | received (connection_id : ConnectionId) (data : Bytes)
  /-- Its session has learned that the access client is disconnected. -/
  | disconnected (connection_id : ConnectionId)
  /-- A reset of it has arrived, or its agent is disconnected. -/
  | ended (connection_id : ConnectionId)
  deriving DecidableEq, Repr

/-- The connections whose end an event reports: by a reset, or by the loss of the agent. -/
def RelayState.endedBy (s : RelayState) : RelayEvent → List ConnectionId
  | .run (.msgLoop W) o =>
    match s.msgLoop W, o with
    | some ⟨_, .receiving⟩, .next => ((s.relay.inbox W).head?.bind AgentFrame.reset?).toList
    | some ⟨n, .receiving⟩, .disconnect | some ⟨n, .receiving⟩, .raised .webSocketDisconnect =>
      match s.relay.registered_agent_connections n with
      | some ws => s.relay.active_relayed_connections.filter (s.relay.belongsTo ws)
      | none => []
    | _, _ => []
  | .run (.handshake W) (.permit (some n)) =>
    match s.handshake W, s.relay.registered_agent_connections n with
    | some (.checking _), some ws =>
      if s.relay.agent_dead ws then
        s.relay.active_relayed_connections.filter (s.relay.belongsTo ws)
      else []
    | _, _ => []
  | _ => []

/-- What an event shows. -/
def RelayState.shows (s : RelayState) (e : RelayEvent) : List Shown :=
  match e with
  | .run (.client A) o =>
    match s.client A, o with
    | some (.receiving c), .frame content => (content.content?.map (.received c)).toList
    | some (.receiving c), .disconnect | some (.receiving c), .raised .webSocketDisconnect =>
      [.disconnected c]
    | _, _ => []
  | e => (s.endedBy e).map .ended

/-- The data that the session of a connection has received, in its order. -/
def payloads (connection_id : ConnectionId) (l : List Shown) : Bytes :=
  l.flatMap fun
    | .received c data => if c = connection_id then data else []
    | _ => []

/-- The access client has disconnected before the agent or the target ended the connection. -/
def DisconnectedFirst (connection_id : ConnectionId) (l : List Shown) : Prop :=
  ∃ l₁ l₂, l = l₁ ++ .disconnected connection_id :: l₂ ∧ .ended connection_id ∉ l₁

/-- Nothing has been received. -/
@[simp] theorem payloads_nil (c : ConnectionId) : payloads c [] = [] := rfl

/-- What has been received in two stretches follows each other. -/
@[simp] theorem payloads_append (c : ConnectionId) (l l' : List Shown) :
    payloads c (l ++ l') = payloads c l ++ payloads c l' :=
  List.flatMap_append

/-- Data that is shown is received by the session of its connection. -/
theorem received_shows {data : Bytes} (h : .received c data ∈ s.shows e) :
    ∃ A frame, e = .run (.client A) (.frame frame) ∧ s.client A = some (.receiving c) ∧
      frame.content? = some data := by
  unfold RelayState.shows at h
  split at h
  case h_1 A o =>
    split at h
    case h_1 c' frame hpc =>
      obtain ⟨data', hdata, heq⟩ := Option.map_eq_some_iff.mp (Option.mem_toList.mp h)
      obtain ⟨rfl, rfl⟩ := Shown.received.inj heq
      exact ⟨A, frame, rfl, hpc, hdata⟩
    case h_2 | h_3 => simp at h
    case h_4 => cases h
  case h_2 =>
    obtain ⟨c', -, heq⟩ := List.mem_map.mp h
    cases heq

/-- A disconnect that is shown is that of the session of its connection. -/
theorem disconnected_shows (h : .disconnected c ∈ s.shows e) :
    ∃ A o, e = .run (.client A) o ∧ s.client A = some (.receiving c) ∧
      (o = .disconnect ∨ o = .raised .webSocketDisconnect) ∧ s.shows e = [.disconnected c] := by
  unfold RelayState.shows at h ⊢
  split at h
  case h_1 A o =>
    split at h
    case h_1 => simp at h
    case h_2 c' hpc =>
      obtain rfl := Shown.disconnected.inj (List.mem_singleton.mp h)
      exact ⟨A, _, rfl, hpc, .inl rfl, by simp⟩
    case h_3 c' hpc =>
      obtain rfl := Shown.disconnected.inj (List.mem_singleton.mp h)
      exact ⟨A, _, rfl, hpc, .inr rfl, by simp⟩
    case h_4 => cases h
  -- All other events show ends of connections, and no disconnect.
  case h_2 =>
    obtain ⟨c', -, heq⟩ := List.mem_map.mp h
    cases heq

/-- A session that finds its client gone shows the disconnect. -/
theorem disconnect_shown {A : ClientSocket} {o : Outcome} (hpc : s.client A = some (.receiving c))
    (ho : o = .disconnect ∨ o = .raised .webSocketDisconnect) :
    s.shows (.run (.client A) o) = [.disconnected c] := by
  obtain rfl | rfl := ho <;> simp [RelayState.shows, hpc]

/-- A connection that ends in a step is shown to do so. -/
theorem ended_shown (h : c ∈ s.endedBy e) : .ended c ∈ s.shows e := by
  unfold RelayState.shows
  split
  case h_1 => cases h
  case h_2 => exact List.mem_map_of_mem h

/-- Where no data is shown, nothing has been received. -/
theorem payloads_eq_nil {l : List Shown} (h : ∀ data, .received c data ∉ l) :
    payloads c l = [] := by
  unfold payloads
  rw [List.flatMap_eq_nil_iff]
  intro shown hshown
  split
  case h_1 c' data =>
    have hne : c' ≠ c := by
      rintro rfl
      exact h data hshown
    rw [if_neg hne]
  case h_2 => rfl

/-- Only the session of a connection receives data for it. -/
theorem payloads_of_other (h : ∀ A frame, e = .run (.client A) (.frame frame) →
    s.client A ≠ some (.receiving c)) : payloads c (s.shows e) = [] := by
  refine payloads_eq_nil fun data hdata => ?_
  obtain ⟨A, frame, he, hpc, -⟩ := received_shows hdata
  exact h A frame he hpc

/-- A session that receives data shows it. -/
theorem payloads_received {A : ClientSocket} {frame : ClientFrame} {data : Bytes}
    (hpc : s.client A = some (.receiving c)) (hdata : frame.content? = some data) :
    payloads c (s.shows (.run (.client A) (.frame frame))) = data := by
  simp [RelayState.shows, hpc, hdata, payloads]

/-! ## The end of a connection -/

/-- The connections of a teardown that is called now are ended by this event. -/
theorem Calls.ended {t : Task} {o : Outcome} {n : AgentId} {W : AgentSocket}
    (h : Calls cfg s t o n) (hreg : s.relay.registered_agent_connections n = some W)
    (hc : c ∈ s.relay.active_relayed_connections.filter (s.relay.belongsTo W)) :
    c ∈ s.endedBy (.run t o) := by
  cases h with
  | disconnect hpc ho =>
    obtain rfl | rfl := ho <;> simpa [RelayState.endedBy, hpc, hreg] using hc
  | @eviction _ _ _ other hpc _ hreg' hdead =>
    obtain rfl := Option.some.inj (hreg.symm.trans hreg')
    simpa [RelayState.endedBy, hpc, hreg, hdead] using hc

/-- A close of a connection is called because the connection is ended, by a teardown that goes on,
by its session, or by a task for it. -/
theorem Started.ended {t : Task} {o : Outcome} (h : Started s c t o) :
    c ∈ s.endedBy (.run t o) ∨ (∃ pc, s.tearing? t = some pc ∧ c ∈ pc.rest) ∨
      (∃ A pc, t = .client A ∧ s.client A = some pc ∧ pc.connected? = some c) ∨
      ∃ k closer, s.closer k = some closer ∧ closer.connection_id = c := by
  cases h with
  | reset hpc hin hreset =>
    exact .inl (by simp [RelayState.endedBy, hpc, hin, hreset])
  | teardown hpc ho hreg hact hws =>
    have hmem := List.mem_filter.mpr ⟨hact, hws⟩
    refine .inl ?_
    obtain rfl | rfl := ho <;> simpa [RelayState.endedBy, hpc, hreg] using hmem
  | eviction hpc hreg hdead hact hws =>
    have hmem := List.mem_filter.mpr ⟨hact, hws⟩
    exact .inl (by simpa [RelayState.endedBy, hpc, hreg, hdead] using hmem)
  | next hpc hrest => exact .inr (.inl ⟨_, hpc, by simp [hrest]⟩)
  | left hpc hcon => exact .inr (.inr (.inl ⟨_, _, rfl, hpc, hcon⟩))
  | scheduled hpc => exact .inr (.inr (.inr ⟨_, _, hpc, rfl⟩))

/-- A session that is in a close is at the point of it. -/
theorem closing_client {A : ClientSocket} {pc : CloseRelayedConnection}
    (h : s.closing? (.client A) = some (c, pc)) : s.client A = some (.closing c pc) := by
  simp only [RelayState.closing?] at h
  split at h
  case h_1 heq =>
    obtain ⟨rfl, rfl⟩ := Prod.mk.inj (Option.some.inj h)
    exact heq
  case h_2 => cases h

/-- A close message is that of a close in progress. -/
theorem Emits.closing (hr : Reaches (step cfg) ok {} s) {W : AgentSocket}
    (h : Emits s e s' W (closeMessage c)) :
    ∃ t send, s'.closing? t = some (c, .informing send) := by
  -- A data message is no close message.
  have hnodata : ∀ {c' connection content}, s.relay.connection c' = some connection →
      connection.dataMessage c' content ≠ .ok (closeMessage c) := by
    intro c' connection content hc hm
    have hdata := dataMessage_data? (canonical_ids hr _ (by rw [hc]; rfl)) hm
    cases hdata
  generalize hm : closeMessage c = m at h hnodata
  cases h with
  | keepAlive | requests | opens => cases hm
  | @close _ t _ c' send _ hclosing =>
    obtain rfl : c = c' := by simpa [closeMessage] using hm
    exact ⟨t, send, hclosing⟩
  | data hc hdata => exact absurd hdata (hnodata hc)
  | forwards hc hpc =>
    obtain ⟨connection, content, hc', hdata⟩ := waiting_data (outgoing hr) hpc
    exact absurd hdata (hnodata hc')

/-- No close of the connection has been sent or is under way. -/
structure Unclosed (s : RelayState) (c : ConnectionId) : Prop where
  sent : ∀ W, closeMessage c ∉ s.relay.to_agent W
  closing : ∀ t pc, s.closing? t ≠ some (c, pc)
  tearing : ∀ t pc, s.tearing? t = some pc → c ∉ pc.rest

namespace Unclosed

/-- At the start no connection is closed. -/
theorem initial (c : ConnectionId) : Unclosed {} c where
  sent _ h := by simp at h
  closing t _ h := by cases t <;> cases h
  tearing t _ h := by cases t <;> cases h

section
variable (hU : Unclosed s c) (hr : Reaches (step cfg) ok {} s) (h : RelayRule cfg s e s')
  (hdisconnected : .disconnected c ∉ s.shows e) (hended : .ended c ∉ s.shows e)
  (hattached : ¬ Unattached s.relay c)
include hU hr h hdisconnected hended hattached

/-- No close of the connection comes to be under way. -/
theorem closing_step (t : Task) (pc' : CloseRelayedConnection) :
    s'.closing? t ≠ some (c, pc') := by
  intro hclosing
  cases closing_of_rule h hclosing with
  | same hpc => exact hU.closing t pc' hpc
  | moved _ hpc => exact hU.closing t _ hpc
  | started he hpc' hstarted =>
    subst he
    -- A close is called by a reset, a teardown, the session itself or a user.
    obtain hnow | ⟨pc, hpc, hrest⟩ | ⟨A, pc, rfl, hpc, hcon⟩ | ⟨k, closer, hk, rfl⟩ :=
      hstarted.ended
    · exact hended (ended_shown hnow)
    · exact hU.tearing t pc hpc hrest
    · -- The session leaves its loop when its client has disconnected.
      cases h with
      | client hpc₀ hrule =>
        obtain rfl := Option.some.inj (hpc.symm.trans hpc₀)
        have hpc'' := closing_client hclosing
        have hnot : pc.leaving? ≠ some c := by
          intro hleaving
          cases pc <;> simp [Client.connected?, Client.leaving?] at hcon hleaving
        obtain ⟨rfl, ho⟩ := hrule.leaves (ownership hr) hpc hpc'' rfl hnot
        exact hdisconnected (by simp [disconnect_shown hpc ho])
    · exact hattached (closers_unattached hr k closer hk)

omit hattached in
/-- No teardown comes to have the connection in its list. -/
theorem tearing_step (t : Task) (pc' : EdgeAgentConnectionClose) (hpc' : s'.tearing? t = some pc') :
    c ∉ pc'.rest := by
  by_cases hrun : ∃ o, e = .run t o
  · obtain ⟨o, rfl⟩ := hrun
    cases teardown_of_run h (tearing_task hpc') with
    | outside _ hnone | idles _ _ _ hnone | raises _ _ hnone | returns _ _ _ hnone =>
      rw [hpc'] at hnone
      cases hnone
    -- A teardown that begins shows the ends of all that it has in its list.
    | starts n pc₁ _ hpc₁ hcalls hreg hsnap =>
      obtain rfl := Option.some.inj (hpc₁.symm.trans hpc')
      intro hc
      exact hended (ended_shown (hcalls.ended hreg (by simp [hsnap, hc])))
    | moves pc pc₁ hpc hpc₁ hstep =>
      obtain rfl := Option.some.inj (hpc₁.symm.trans hpc')
      obtain ⟨-, ⟨-, hrest, -⟩ | ⟨hrest, -⟩⟩ := hstep.parked
      · rw [hrest]
        exact hU.tearing t pc hpc
      · intro hc
        exact hU.tearing t pc hpc (by simp [hrest, hc])
  · rw [tearing_frame (registryInv hr) h fun o he => hrun ⟨o, he⟩] at hpc'
    exact hU.tearing t pc' hpc'

/-- A connection that neither disconnects nor ends stays unclosed. -/
theorem preserved : Unclosed s' c where
  sent W hm := by
    obtain hold | hnew := (sends_of_rule h).mem hm
    · exact hU.sent W hold
    · obtain ⟨t, send, hclosing⟩ := hnew.closing hr
      exact hU.closing_step hr h hdisconnected hended hattached t _ hclosing
  closing := hU.closing_step hr h hdisconnected hended hattached
  tearing := hU.tearing_step hr h hdisconnected hended

end

end Unclosed

/-! ## The session sends what it receives -/

/-- What a resumption of a session does with the data of its client. -/
inductive Conveys (s : RelayState) (A : ClientSocket) (o : Outcome) (s' : RelayState) :
    Client → Prop
  /-- A piece is received, and is sent or waits for the lock. -/
  | takes {c connection frame data m send} (ho : o = .frame frame)
      (hdata : frame.content? = some data) (hc : s.relay.connection c = some connection)
      (hm : connection.dataMessage c data = .ok m)
      (hpc' : s'.client A = some (.forwarding c (.ok m) send))
      (hsend : Sending s.relay connection.agent_connection m s'.relay send) :
      Conveys s A o s' (.receiving c)
  /-- A piece that has waited for the lock is sent. -/
  | passes {c connection m l l'} (hc : s.relay.connection c = some connection)
      (hpc' : s'.client A = some (.forwarding c (.ok m) (.sending l')))
      (hto : s'.relay.to_agent = (s.relay.sendToAgent connection.agent_connection m).to_agent) :
      Conveys s A o s' (.forwarding c (.ok m) (.acquiring l))
  | quiet {pc} (hsends : Sends (fun _ m => m.received.data? = none) s.relay s'.relay)
      (hpc : ∀ c m l, pc ≠ .forwarding c m (.acquiring l))
      (hpc' : ∀ c m l, s'.client A ≠ some (.forwarding c m (.acquiring l)))
      (hframe : ∀ c frame, pc = .receiving c → o = .frame frame → frame.content? = none) :
      Conveys s A o s' pc

/-- A malformed frame has no data. -/
theorem content?_of_malformed {content : ClientFrame} (h : content.malformed = true) :
    content.content? = none := by
  match content with
  | .bytes _ => cases h
  | .text none => rfl
  | .text (some (.tcpData data_base64)) =>
    simpa [ClientFrame.malformed, ClientFrame.content?] using h
  | .text (some (.start _)) => cases h

/-- The condition of the loop, evaluated: nothing of the stream is sent. -/
theorem continueLoop_quiet (s : RelayState) (A : ClientSocket) (c : ConnectionId)
    (agent : AgentSocket) :
    Sends (fun _ m => m.received.data? = none) s.relay (s.continueLoop A c agent).relay ∧
      ∀ c' m l, (s.continueLoop A c agent).client A ≠ some (.forwarding c' m (.acquiring l)) := by
  constructor
  · refine (continueLoop_sends s A c agent).mono ?_
    rintro W m ⟨-, rfl, -⟩
    rfl
  · intro c' m l hpc
    obtain ⟨B, -, heq⟩ | ⟨-, r', send, heq, -, -⟩ := continueLoop_cases s A c agent <;>
      simp [heq] at hpc

/-- A session whose message waits forwards it. -/
theorem forwarded_parked (s : RelayState) (A : ClientSocket) (c : ConnectionId)
    (agent : AgentSocket) (message : Except Exc ToAgent) (r' : NetworkRelay) (send : LockedSend) :
    (s.forwarded A c agent message (r', .parked send)).client A =
      some (.forwarding c message send) := by
  simp [forwarded]

/-- A session sends the data that it receives, or keeps it. -/
theorem ClientRule.conveys (hr : Reaches (step cfg) ok {} s) {A : ClientSocket} {pc : Client}
    {o : Outcome} (hpc : s.client A = some pc) (h : ClientRule cfg s A pc o s') :
    Conveys s A o s' pc := by
  -- Ids come from `uuid4`, so that all data can be framed.
  have hencodes : ∀ {c connection} content, s.relay.connection c = some connection →
      ∃ m, connection.dataMessage c content = .ok m := by
    intro c connection content hc
    exact dataMessage_encodes connection content (canonical_ids hr c (by rw [hc]; rfl))
  cases h with
  -- The data is sent at once, or waits with the session for the lock.
  | @forwards c content data connection r' res hc hdata h =>
    obtain ⟨m, hm⟩ := hencodes data hc
    rw [hm] at h ⊢
    cases h with
    | queues _ out => exact .takes rfl hdata hc hm (forwarded_parked ..) out
    | sends _ hm' _ out =>
      obtain rfl := Except.ok.inj hm'
      exact .takes rfl hdata hc hm (forwarded_parked ..) out
    | unencodable hm' => cases hm'
  -- What has waited is sent, or its send is over and the loop goes on.
  | @forwarding c message send _ connection r' res hc h =>
    obtain ⟨connection', content, hc', hframed⟩ := (outgoing hr).forwarding A c message send hpc
    obtain ⟨m, hm⟩ := hencodes content hc'
    obtain rfl : message = .ok m := hframed.trans hm
    cases h with
    | sends start hm' _ out =>
      obtain rfl := Except.ok.inj hm'
      obtain hnone | ⟨hsome, rfl⟩ := start
      · cases hnone
      · obtain rfl := Option.some.inj hsome
        exact .passes hc (forwarded_parked ..) (congrArg AgentOutput.to_agent out)
    | unencodable hm' => cases hm'
    | completes _ out =>
      obtain ⟨hsends, hpc'⟩ := continueLoop_quiet (s.withRelay r') A c connection.agent_connection
      refine .quiet (hsends.congr (congrArg AgentOutput.to_agent out)) (by simp) hpc' (by simp)
    | fails _ out =>
      exact .quiet (.of_eq (congrArg AgentOutput.to_agent out)) (by simp)
        (by simp [forwarded]) (by simp)
  | ignores hc hnone =>
    obtain ⟨hsends, hpc'⟩ := continueLoop_quiet s A _ _
    refine .quiet hsends (by simp) hpc' ?_
    rintro c' frame - ⟨⟩
    exact hnone
  | malformed hbad =>
    refine .quiet (.of_eq rfl) (by simp) (by simp) ?_
    rintro c' frame - ⟨⟩
    exact content?_of_malformed hbad
  | @opens _ _ r' send _ _ _ _ _ same hsend =>
    refine .quiet ((hsend.emits.mono ?_).congr rfl) (by simp) (by simp) (by simp)
    rintro W m ⟨-, rfl, -⟩
    rfl
  | @creating binary pc _ r' res h =>
    have hsends : Sends (fun _ m => m.received.data? = none) s.relay r' := by
      refine h.emits.mono ?_
      rintro W m ⟨-, rfl, -⟩
      rfl
    cases res with
    | parked _ | returned _ => exact .quiet hsends (by simp) (by simp [created]) (by simp)
    | raised e =>
      cases e <;> exact .quiet hsends (by simp) (by simp [created]) (by simp)
  -- Requests and close messages carry no data.
  | disconnects ho _ _ hsend =>
    refine .quiet ((hsend.emits.mono ?_).congr rfl) (by simp) (by simp) ?_
    · rintro W m ⟨-, rfl, -⟩
      rfl
    · rintro c' frame - rfl
      obtain ho | ho := ho <;> cases ho
  | @closing c _ _ _ r' res _ h =>
    have hsends : Sends (fun _ m => m.received.data? = none) s.relay r' := by
      refine h.emits.mono ?_
      rintro W m ⟨-, rfl, -⟩
      rfl
    cases res <;> exact .quiet hsends (by simp) (by simp [connectionClosed]) (by simp)
  | advances hpc₀ hpc₁ =>
    refine .quiet (.of_eq rfl) ?_ ?_ ?_
    · rintro c m l rfl
      cases hpc₀
    · rintro c m l hpc'
      obtain rfl := by simpa using hpc'
      cases hpc₁
    · rintro c frame rfl
      cases hpc₀
  | refuses hpc₀ =>
    obtain ⟨m, rfl⟩ | rfl := hpc₀ <;> exact .quiet (.of_eq rfl) (by simp) (by simp) (by simp)
  | joined hpc₀ =>
    obtain rfl | rfl := hpc₀ <;> exact .quiet (.of_eq rfl) (by simp) (by simp) (by simp)
  | unregistered | starts | startFails | receiveFails | clientClosed | closeFails | cancels =>
    exact .quiet (.of_eq rfl) (by simp) (by simp) (by simp)

/-! ## The stream -/

/-- A step sends at most one message, on one websocket. -/
theorem Sends.to_agent {P : AgentSocket → ToAgent → Prop} {r r' : NetworkRelay} (h : Sends P r r')
    (W : AgentSocket) : r'.to_agent W = r.to_agent W ∨
      ∃ m, P W m ∧ r'.to_agent W = r.to_agent W ++ [m] := by
  obtain heq | ⟨W₀, m, hm, heq⟩ := h
  · exact .inl (by rw [heq])
  · obtain rfl | hW := eq_or_ne W W₀
    · exact .inr ⟨m, hm, by simp [heq]⟩
    · exact .inl (by simp [heq, hW])

/-- A step that sends no data for a connection leaves what has been carried for it. -/
theorem Sends.carried {P : AgentSocket → ToAgent → Prop} {r r' : NetworkRelay} (h : Sends P r r')
    (hP : ∀ W m, P W m → m.received.dataFor c = []) (W : AgentSocket) :
    carried c (r'.frames W) = carried c (r.frames W) := by
  unfold NetworkRelay.frames
  obtain heq | ⟨m, hm, heq⟩ := h.to_agent W
  · rw [heq]
  · rw [heq, List.map_append, carried_append, List.map_singleton, carried_singleton, hP W m hm,
      List.append_nil]

/-- The piece of a connection's stream that waits in a session for the lock. -/
def RelayState.queued (s : RelayState) (A : ClientSocket) (c : ConnectionId) : Bytes :=
  match s.client A with
  | some (.forwarding _ (.ok m) (.acquiring _)) => m.received.dataFor c
  | _ => []

/-- A session that waits for the lock has its piece queued. -/
theorem queued_waiting {A : ClientSocket} {c₁ : ConnectionId} {m : ToAgent} {l : ℕ}
    (h : s.client A = some (.forwarding c₁ (.ok m) (.acquiring l))) :
    s.queued A c = m.received.dataFor c := by
  simp [RelayState.queued, h]

/-- A session that does not wait for the lock has nothing queued. -/
theorem queued_nil {A : ClientSocket}
    (h : ∀ c m l, s.client A ≠ some (.forwarding c m (.acquiring l))) : s.queued A c = [] := by
  unfold RelayState.queued
  split
  case h_1 heq => exact absurd heq (h _ _ _)
  case h_2 => rfl

section
variable {connection : TcpConnection} {A : ClientSocket} (hr : Reaches (step cfg) ok {} s)
  (h : RelayRule cfg s e s')
include hr h

/-- Other tasks than the session do not send data for its connection. -/
theorem carried_of_other (hc : s.relay.connection c = some connection)
    (hcreator : connection.creator = .client A) (hrun : ∀ o, e ≠ .run (.client A) o)
    (W : AgentSocket) : carried c (s'.relay.frames W) = carried c (s.relay.frames W) := by
  refine (sends_of_rule h).carried ?_ W
  intro W m hm
  refine RelayFrame.dataFor_eq_nil fun data hdata => ?_
  obtain ⟨-, ⟨B, o, pc, he, hpc, hid⟩ | ⟨k, sender, hk, rfl⟩⟩ := hm.carries hr hdata
  · obtain ⟨connection', hc', hcreator', -⟩ := (ownership hr).client B pc c hpc hid
    obtain rfl := Option.some.inj (hc.symm.trans hc')
    obtain rfl : A = B := Task.client.inj (hcreator.symm.trans hcreator')
    exact hrun o he
  · obtain ⟨call, i, hcall⟩ := senders_called hr k sender hk
    obtain ⟨connection', hc', hcreator'⟩ := returned_creator hr call i _ hcall
    obtain rfl := Option.some.inj (hc.symm.trans hc')
    rw [hcreator] at hcreator'
    cases hcreator'

/-- A connection that is made in this step has no data yet. -/
theorem carried_of_new (hnone : s.relay.connection c = none) (W : AgentSocket) :
    carried c (s'.relay.frames W) = [] := by
  have hold : carried c (s.relay.frames W) = [] := by
    refine carried_eq_nil fun frame hframe => ?_
    obtain ⟨m, hm, rfl⟩ := List.mem_map.mp hframe
    exact not_about_of_none hr hnone m hm
  rw [← hold]
  refine (sends_of_rule h).carried ?_ W
  intro W m hm
  refine RelayFrame.dataFor_eq_nil fun data hdata => ?_
  have hsome := (hm.carries hr hdata).1
  rw [hnone] at hsome
  cases hsome

omit hr in
/-- Only the session itself queues its data. -/
theorem queued_of_other (hrun : ∀ o, e ≠ .run (.client A) o) : s'.queued A c = s.queued A c := by
  by_cases hconn : e = .clientConnects A
  · subst hconn
    cases h with
    | clientConnects hnew => simp [RelayState.queued, hnew]
  · unfold RelayState.queued
    rw [client_frame h hrun hconn]

/-- A session has no piece of a connection that is made in this step. -/
theorem queued_of_new (hnone : s.relay.connection c = none) : s'.queued A c = [] := by
  -- A session waits with data of a connection that it has.
  have hwaits : ∀ {c₁ m l}, s.client A = some (.forwarding c₁ (.ok m) (.acquiring l)) →
      m.received.dataFor c = [] := by
    intro c₁ m l hpc
    obtain ⟨connection, content, hc₁, hm⟩ := (outgoing hr).forwarding A c₁ _ _ hpc
    refine RelayFrame.dataFor_eq_nil fun data hdata => ?_
    obtain rfl := about_data (canonical_ids hr c₁ (by rw [hc₁]; rfl)) hm.symm (.inr ⟨data, hdata⟩)
    rw [hnone] at hc₁
    cases hc₁
  by_cases hrun : ∃ o, e = .run (.client A) o
  · obtain ⟨o, rfl⟩ := hrun
    cases h with
    | client hpc hrule =>
      cases hrule.conveys hr hpc with
      | @takes c₁ connection frame data m send _ _ hc₁ hm hpc' =>
        unfold RelayState.queued
        rw [hpc']
        split
        case h_1 heq =>
          obtain ⟨rfl, hok, -⟩ := Client.forwarding.inj (Option.some.inj heq)
          obtain rfl := Except.ok.inj hok
          refine RelayFrame.dataFor_eq_nil fun data hdata => ?_
          have hcanonical := canonical_ids hr c₁ (by rw [hc₁]; rfl)
          obtain rfl := about_data hcanonical hm (.inr ⟨data, hdata⟩)
          rw [hnone] at hc₁
          cases hc₁
        case h_2 => rfl
      | passes _ hpc' => simp [RelayState.queued, hpc']
      | quiet _ _ hpc' => exact queued_nil hpc'
  · rw [queued_of_other h fun o he => hrun ⟨o, he⟩]
    unfold RelayState.queued
    split
    case h_1 heq => exact hwaits heq
    case h_2 => rfl

/-- One step of the session: what it has received of the connection has been sent, or waits. -/
theorem stream_own {o : Outcome} (he : e = .run (.client A) o)
    (hc : s.relay.connection c = some connection) (hcreator : connection.creator = .client A) :
    carried c (s'.relay.frames connection.agent_connection) ++ s'.queued A c =
      carried c (s.relay.frames connection.agent_connection) ++ s.queued A c ++
        payloads c (s.shows e) := by
  subst he
  -- A session has one connection.
  have hmine : ∀ {c₁ pc}, s.client A = some pc → pc.connection_id? = some c₁ → c₁ = c := by
    intro c₁ pc hpc hid
    obtain ⟨connection₁, hc₁, hcreator₁, -⟩ := (ownership hr).client A pc c₁ hpc hid
    exact sole_connection hr c₁ c connection₁ connection hc₁ hc (hcreator₁.trans hcreator.symm)
  -- What is put on the websocket is added at the end.
  have hsent : ∀ {m : ToAgent}, s'.relay.to_agent =
        (s.relay.sendToAgent connection.agent_connection m).to_agent →
      s'.relay.frames connection.agent_connection =
        s.relay.frames connection.agent_connection ++ [m.received] := by
    intro m hto
    simp [NetworkRelay.frames, hto]
  cases h with
  | client hpc hrule =>
    cases hrule.conveys hr hpc with
    | @takes c₁ connection₁ frame data m send ho hdata hc₁ hm hpc' hsend =>
      obtain rfl := hmine hpc rfl
      obtain rfl := Option.some.inj (hc.symm.trans hc₁)
      subst ho
      have hcanonical := canonical_ids hr c₁ (by rw [hc]; rfl)
      have hpiece : m.received.dataFor c₁ = data :=
        RelayFrame.dataFor_of_data? (dataMessage_data? hcanonical hm)
      have hbefore : s.queued A c₁ = [] := queued_nil (by simp [hpc])
      rw [hbefore, payloads_received hpc hdata, List.append_nil]
      cases send with
      | acquiring l =>
        have hto : s'.relay.to_agent = s.relay.to_agent := congrArg AgentOutput.to_agent hsend
        rw [queued_waiting hpc', hpiece, NetworkRelay.frames, NetworkRelay.frames, hto]
      | sending l =>
        have hafter : s'.queued A c₁ = [] := queued_nil (by simp [hpc'])
        rw [hafter, hsent (congrArg AgentOutput.to_agent hsend)]
        simp [hpiece]
    | @passes c₁ connection₁ m l l' hc₁ hpc' hto =>
      obtain rfl := hmine hpc rfl
      obtain rfl := Option.some.inj (hc.symm.trans hc₁)
      have hafter : s'.queued A c₁ = [] := queued_nil (by simp [hpc'])
      have hpayloads : payloads c₁ (s.shows (.run (.client A) o)) = [] := by
        refine payloads_of_other fun B frame he => ?_
        obtain rfl : A = B := Task.client.inj (RelayEvent.run.inj he).1
        simp [hpc]
      rw [queued_waiting hpc, hafter, hsent hto, hpayloads]
      simp
    | quiet hsends hwaits hwaits' hframe =>
      have hpayloads : payloads c (s.shows (.run (.client A) o)) = [] := by
        refine payloads_eq_nil fun data hdata => ?_
        obtain ⟨B, frame, he, hpc₁, hcontent⟩ := received_shows hdata
        obtain ⟨ht, rfl⟩ := RelayEvent.run.inj he
        obtain rfl := Task.client.inj ht
        obtain rfl := Option.some.inj (hpc.symm.trans hpc₁)
        rw [hframe c frame rfl rfl] at hcontent
        cases hcontent
      have hnodata : ∀ (_ : AgentSocket) (m : ToAgent), m.received.data? = none →
          m.received.dataFor c = [] := by
        intro W m hm
        exact RelayFrame.dataFor_eq_nil fun data hdata => by simp [hm] at hdata
      have hbefore : s.queued A c = [] := by
        refine queued_nil fun c₁ m l hpc₁ => ?_
        exact hwaits c₁ m l (Option.some.inj (hpc.symm.trans hpc₁))
      rw [hpayloads, queued_nil hwaits', hbefore, hsends.carried hnodata, List.append_nil,
        List.append_nil]

end

/-! ## The law of the stream -/

/-- The session has left its loop, or has ended. -/
def RelayState.HasLeft (s : RelayState) (c : ConnectionId) : Prop :=
  ∃ A pc, s.client A = some pc ∧ pc.connection_id? = some c ∧ pc.opening? = none ∧
    pc.connected? = none

/-- What holds of the data of an access client's connection in every reachable state. -/
structure Upstream (s : RelayState) (c : ConnectionId) (l : List Shown) : Prop where
  fresh : s.relay.connection c = none → payloads c l = []
  /-- What the session has received has been sent, or waits for the lock. -/
  stream : ∀ connection A, s.relay.connection c = some connection →
    connection.creator = .client A →
    carried c (s.relay.frames connection.agent_connection) ++ s.queued A c = payloads c l
  left : .disconnected c ∈ l → s.HasLeft c
  unclosed : .disconnected c ∉ l → .ended c ∉ l → ¬ Unattached s.relay c → Unclosed s c
  /-- All of it has been sent before the close message. -/
  ordered : DisconnectedFirst c l → ∀ connection A, s.relay.connection c = some connection →
    connection.creator = .client A → ∀ l₁ l₂,
    s.relay.to_agent connection.agent_connection = l₁ ++ closeMessage c :: l₂ →
    carried c (l₁.map ToAgent.received) = payloads c l

namespace RelayState.HasLeft

/-- A session that has left its loop does not come back to it. -/
theorem preserved (hl : s.HasLeft c) (h : RelayRule cfg s e s') : s'.HasLeft c := by
  obtain ⟨A, pc, hpc, hid, hopening, hconnected⟩ := hl
  by_cases hrun : ∃ o, e = .run (.client A) o
  · obtain ⟨o, rfl⟩ := hrun
    obtain ⟨pc₁, hpc₁, hmoved⟩ := moved_of_run h
    obtain rfl := Option.some.inj (hpc.symm.trans hpc₁)
    cases hmoved with
    | ended pc' hpc' hid' hopening' hconnected' =>
      obtain hsame | ⟨⟨binary, call, rfl⟩, -⟩ := hid'
      · exact ⟨A, pc', hpc', hsame.trans hid, hopening', hconnected'⟩
      · cases hopening
    -- It has a connection, so it neither creates one nor enters its loop.
    | created binary pc' hpc' hnone =>
      rw [hid] at hnone
      cases hnone
    | stays pc' hpc' hid' hopening' hconnected' =>
      exact ⟨A, pc', hpc', hid'.trans hid, hopening'.trans hopening,
        hconnected'.trans hconnected⟩
    | entered hpc₂ =>
      subst hpc₂
      cases hopening
    | left pc' hcon =>
      rw [hconnected] at hcon
      cases hcon
  · refine ⟨A, pc, ?_, hid, hopening, hconnected⟩
    rw [client_frame h (fun o he => hrun ⟨o, he⟩) ?_, hpc]
    rintro rfl
    cases h with
    | clientConnects hnew =>
      rw [hpc] at hnew
      cases hnew

/-- It receives nothing any more. -/
theorem not_receiving (hl : s.HasLeft c) (hr : Reaches (step cfg) ok {} s) (A : ClientSocket) :
    s.client A ≠ some (.receiving c) := by
  intro hpc
  obtain ⟨B, pc, hpc', hid, -, hconnected⟩ := hl
  obtain rfl := ((ownership hr).client A _ c hpc rfl).unique ((ownership hr).client B pc c hpc' hid)
  obtain rfl := Option.some.inj (hpc.symm.trans hpc')
  cases hconnected

/-- Nothing waits for the lock. -/
theorem queued (hl : s.HasLeft c) {connection : TcpConnection} {A : ClientSocket}
    (hr : Reaches (step cfg) ok {} s) (hc : s.relay.connection c = some connection)
    (hcreator : connection.creator = .client A) : s.queued A c = [] := by
  obtain ⟨B, pc, hpc, hid, -, hconnected⟩ := hl
  obtain ⟨connection', hc', hcreator', -⟩ := (ownership hr).client B pc c hpc hid
  obtain rfl := Option.some.inj (hc.symm.trans hc')
  obtain rfl : A = B := Task.client.inj (hcreator.symm.trans hcreator')
  refine queued_nil fun c₁ m l hpc' => ?_
  obtain rfl := Option.some.inj (hpc.symm.trans hpc')
  cases hconnected

end RelayState.HasLeft

/-- A connection that has disconnected before it ended has disconnected. -/
theorem disconnected_of_first {l : List Shown} (h : DisconnectedFirst c l) :
    .disconnected c ∈ l := by
  obtain ⟨l₁, l₂, rfl, -⟩ := h
  simp

/-- What is first in a record is first in the part of it that has it. -/
theorem DisconnectedFirst.of_append {l l' : List Shown} (h : DisconnectedFirst c (l ++ l'))
    (hl : .disconnected c ∈ l) : DisconnectedFirst c l := by
  obtain ⟨l₁, l₂, hsplit, hended⟩ := h
  obtain ⟨l₃, rfl, hl₃⟩ | ⟨l₃, rfl, hl₃⟩ := List.append_eq_append_iff.mp hsplit
  · obtain ⟨l₄, l₅, rfl⟩ := List.append_of_mem hl
    refine ⟨l₄, l₅, rfl, fun hmem => hended ?_⟩
    simp [hmem]
  · cases l₃ with
    | nil =>
      rw [List.append_nil] at hl ⊢
      obtain ⟨l₄, l₅, rfl⟩ := List.append_of_mem hl
      refine ⟨l₄, l₅, rfl, fun hmem => hended ?_⟩
      simp [hmem]
    | cons shown l₄ =>
      obtain rfl := (List.cons.inj hl₃).1
      exact ⟨l₁, l₄, rfl, hended⟩

/-- A connection object keeps its agent and its creator. -/
theorem same_connection {r r' : NetworkRelay} (h : Evolves r r')
    {connection connection' : TcpConnection}
    (hc : r.connection c = some connection) (hc' : r'.connection c = some connection') :
    connection'.agent_connection = connection.agent_connection ∧
      connection'.creator = connection.creator := by
  obtain ⟨connection₁, hc₁, hid⟩ := h.connection c connection hc
  obtain rfl := Option.some.inj (hc'.symm.trans hc₁)
  simp only [TcpConnection.identity, Prod.mk.injEq] at hid
  exact ⟨hid.2.1, hid.2.2.2⟩

/-- A disconnect takes the session out of its loop. -/
theorem left_of_disconnect {A : ClientSocket} {o : Outcome}
    (h : RelayRule cfg s (.run (.client A) o) s') (hpc : s.client A = some (.receiving c))
    (ho : o = .disconnect ∨ o = .raised .webSocketDisconnect) : s'.HasLeft c := by
  -- The receive has come back with the disconnect, not with a frame.
  have hloop : ∀ {frame}, o ≠ .frame frame := by
    rintro frame rfl
    obtain ho | ho := ho <;> cases ho
  cases h with
  | client hpc₁ hrule =>
    obtain rfl := Option.some.inj (hpc.symm.trans hpc₁)
    cases hrule with
    | @disconnects _ _ _ r' send => exact ⟨A, .closing c (.informing send), by simp, rfl, rfl, rfl⟩
    | receiveFails he =>
      obtain ho | ho := ho
      · cases ho
      · exact absurd (Outcome.raised.inj ho) he
    | malformed | ignores | forwards => exact absurd rfl hloop
    | advances hun => cases hun
    | refuses hpc₂ => simp at hpc₂
    | joined hpc₂ => simp at hpc₂

namespace Upstream

variable {l : List Shown}

/-- At the start nothing has been received for a connection. -/
theorem initial (c : ConnectionId) : Upstream {} c [] where
  fresh _ := rfl
  stream _ _ h _ := by simp at h
  left h := by simp at h
  unclosed _ _ _ := .initial c
  ordered _ _ _ h _ := by simp at h

section
variable (hU : Upstream s c l) (hr : Reaches (step cfg) ok {} s) (h : RelayRule cfg s e s')
include hU hr h

/-- After a step what was received has been sent, or waits for the lock. -/
theorem stream_step {connection : TcpConnection} {A : ClientSocket}
    (hc' : s'.relay.connection c = some connection) (hcreator : connection.creator = .client A) :
    carried c (s'.relay.frames connection.agent_connection) ++ s'.queued A c =
      payloads c (l ++ s.shows e) := by
  rw [payloads_append]
  cases hc : s.relay.connection c with
  -- The connection is new: no session has received anything for it.
  | none =>
    have hpayloads : payloads c (s.shows e) = [] := by
      refine payloads_of_other fun B frame _ hpc => ?_
      obtain ⟨connection', hconnection, -⟩ := (ownership hr).client B _ c hpc rfl
      rw [hc] at hconnection
      cases hconnection
    rw [carried_of_new hr h hc, queued_of_new hr h hc, hU.fresh hc, hpayloads]
  | some connection₀ =>
    obtain ⟨hagent, hcreator'⟩ := same_connection h.evolves hc hc'
    have hcreator₀ : connection₀.creator = .client A := hcreator'.symm.trans hcreator
    rw [hagent, ← hU.stream connection₀ A hc hcreator₀]
    by_cases hrun : ∃ o, e = .run (.client A) o
    · obtain ⟨o, he⟩ := hrun
      exact stream_own hr h he hc hcreator₀
    · have hrun : ∀ o, e ≠ .run (.client A) o := fun o he => hrun ⟨o, he⟩
      -- Only the session of the connection receives data for it.
      have hpayloads : payloads c (s.shows e) = [] := by
        refine payloads_of_other fun B frame he hpc => ?_
        obtain ⟨connection', hconnection, hcreator₂, -⟩ := (ownership hr).client B _ c hpc rfl
        obtain rfl := Option.some.inj (hc.symm.trans hconnection)
        obtain rfl : A = B := Task.client.inj (hcreator₀.symm.trans hcreator₂)
        exact hrun _ he
      rw [carried_of_other hr h hc hcreator₀ hrun, queued_of_other h hrun, hpayloads,
        List.append_nil]

omit hr in
/-- After a disconnect the session has left its loop. -/
theorem left_step (hmem : .disconnected c ∈ l ++ s.shows e) : s'.HasLeft c := by
  obtain hold | hnew := List.mem_append.mp hmem
  · exact (hU.left hold).preserved h
  · obtain ⟨A, o, rfl, hpc, ho, -⟩ := disconnected_shows hnew
    exact left_of_disconnect h hpc ho

/-- While nothing has been disconnected or ended, no close is sent. -/
theorem unclosed_step (hdisconnected : .disconnected c ∉ l ++ s.shows e)
    (hended : .ended c ∉ l ++ s.shows e) (hattached : ¬ Unattached s'.relay c) :
    Unclosed s' c := by
  rw [List.mem_append, not_or] at hdisconnected hended
  have hattached₀ : ¬ Unattached s.relay c := fun hold => hattached (hold.evolves h.evolves)
  exact (hU.unclosed hdisconnected.1 hended.1 hattached₀).preserved hr h hdisconnected.2 hended.2
    hattached₀

omit hr h in
/-- When the session leaves its loop, and from then on, its data has been sent. -/
theorem sent_all {connection : TcpConnection} {A : ClientSocket}
    (hc : s.relay.connection c = some connection) (hcreator : connection.creator = .client A)
    (hqueued : s.queued A c = []) :
    carried c (s.relay.frames connection.agent_connection) = payloads c l := by
  rw [← hU.stream connection A hc hcreator, hqueued, List.append_nil]

/-- The close message comes after the data that was received. -/
theorem ordered_step (hfirst : DisconnectedFirst c (l ++ s.shows e)) {connection : TcpConnection}
    {A : ClientSocket} (hc' : s'.relay.connection c = some connection)
    (hcreator : connection.creator = .client A) {l₁ l₂ : List ToAgent}
    (hsplit : s'.relay.to_agent connection.agent_connection = l₁ ++ closeMessage c :: l₂) :
    carried c (l₁.map ToAgent.received) = payloads c (l ++ s.shows e) := by
  -- Before the step the data has been sent, and it grows no more.
  have hbefore : (∀ l₁ l₂, s.relay.to_agent connection.agent_connection =
        l₁ ++ closeMessage c :: l₂ → carried c (l₁.map ToAgent.received) = payloads c l) ∧
      carried c (s.relay.frames connection.agent_connection) = payloads c l ∧
      payloads c (s.shows e) = [] := by
    by_cases hold : .disconnected c ∈ l
    · have hleft := hU.left hold
      obtain ⟨B, pc, hpc, hid, -⟩ := id hleft
      obtain ⟨connection₀, hc, -⟩ := (ownership hr).client B pc c hpc hid
      obtain ⟨hagent, hcreator'⟩ := same_connection h.evolves hc hc'
      rw [hcreator] at hcreator'
      rw [hagent]
      refine ⟨hU.ordered (hfirst.of_append hold) connection₀ A hc hcreator'.symm,
        hU.sent_all hc hcreator'.symm (hleft.queued hr hc hcreator'.symm), ?_⟩
      exact payloads_of_other fun B frame _ => hleft.not_receiving hr B
    · have hnew := (List.mem_append.mp (disconnected_of_first hfirst)).resolve_left hold
      obtain ⟨B, o, rfl, hpc, ho, hshows⟩ := disconnected_shows hnew
      have howned := (ownership hr).client B _ c hpc rfl
      obtain ⟨connection₀, hc, hcreator₀, -⟩ := id howned
      obtain ⟨hagent, hcreator'⟩ := same_connection h.evolves hc hc'
      have hended : .ended c ∉ l := by
        obtain ⟨l₃, l₄, hl, hended⟩ := hfirst
        rw [hshows] at hl
        obtain ⟨rfl, -, -⟩ | ⟨l₅, -, rfl⟩ := split_concat hl
        · exact hended
        · simp at hold
      have hclosed := hU.unclosed hold hended fun hun => hun.not_owned howned
      rw [hagent, hshows]
      refine ⟨fun l₁ l₂ hl => ?_, hU.sent_all hc hcreator₀ (queued_nil (by simp [hpc])), rfl⟩
      exact absurd (by simp [hl]) (hclosed.sent connection₀.agent_connection)
  obtain ⟨hclosed, hsent, hnone⟩ := hbefore
  rw [payloads_append, hnone, List.append_nil]
  obtain heq | ⟨m, -, heq⟩ := (sends_of_rule h).to_agent connection.agent_connection
  · exact hclosed l₁ l₂ (heq ▸ hsplit)
  · obtain ⟨rfl, -, -⟩ | ⟨l₃, -, hold⟩ := split_concat (heq ▸ hsplit)
    · exact hsent
    · exact hclosed l₁ l₃ hold

/-- A step keeps what holds of the data. -/
theorem preserved : Upstream s' c (l ++ s.shows e) where
  fresh hnone := by
    have hc := h.evolves.connection_none hnone
    rw [payloads_append, hU.fresh hc, payloads_of_other fun B frame _ hpc => ?_]
    · rfl
    · obtain ⟨connection, hconnection, -⟩ := (ownership hr).client B _ c hpc rfl
      rw [hc] at hconnection
      cases hconnection
  stream _ _ := hU.stream_step hr h
  left := hU.left_step h
  unclosed := hU.unclosed_step hr h
  ordered hfirst _ _ hc' hcreator _ _ := hU.ordered_step hr h hfirst hc' hcreator

end

end Upstream

/-- The law of the stream holds in every run of the relay. -/
theorem upstream {l : List Shown} (h : Traced (step cfg) ok RelayState.shows {} s l)
    (c : ConnectionId) : Upstream s c l :=
  h.invariant (I := fun s l => Upstream s c l) (.initial c) fun _ _ _ _ ht _ hs hU =>
    hU.preserved ht.reaches (step_rule hs)

end HttpNetworkRelay
