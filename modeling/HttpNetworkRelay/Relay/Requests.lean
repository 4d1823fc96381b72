import HttpNetworkRelay.Agent.Rules
import HttpNetworkRelay.Relay.Correlated
import HttpNetworkRelay.Relay.Drain

/-!
# What is said first about a connection

`Emits` says which messages a step sends; here they are read as the agent reads them. Data for a
connection comes from its session or from a user that it was returned to (`Emits.carries`), and on
the websocket nothing about a connection comes before the request for it (`asked_first`): its id is
new, and whoever sends on it waits for the create call, which has sent the request by then.
-/

namespace HttpNetworkRelay

open Asyncio Python RelayState NetworkRelay

/-! ## What a message carries -/

/-- The frames that the messages to an agent arrive as. -/
def NetworkRelay.frames (r : NetworkRelay) (edge_agent_connection : AgentSocket) :
    List RelayFrame :=
  (r.to_agent edge_agent_connection).map ToAgent.received

/-- The message with which a piece of a connection's stream is sent carries that piece. -/
theorem dataMessage_data? {connection : TcpConnection} {c : ConnectionId} {content : Bytes}
    {m : ToAgent} (hcanonical : canonical c = true)
    (h : connection.dataMessage c content = .ok m) : m.received.data? = some (c, content) := by
  unfold TcpConnection.dataMessage at h
  split_ifs at h
  · cases hframe : encode_tcp_binary_frame c content with
    | ok frame =>
      rw [hframe] at h
      obtain rfl := Except.ok.inj h
      simp [ToAgent.received, RelayFrame.data?, decode_of_encode hcanonical hframe,
        Except.toOption]
    | error e =>
      rw [hframe] at h
      cases h
  · obtain rfl := Except.ok.inj h
    simp [ToAgent.received, RelayFrame.data?, Except.toOption]

/-- A piece of a stream can always be sent. -/
theorem dataMessage_encodes (connection : TcpConnection) {c : ConnectionId} (content : Bytes)
    (hcanonical : canonical c = true) : ∃ m, connection.dataMessage c content = .ok m := by
  unfold TcpConnection.dataMessage
  split_ifs
  · obtain ⟨frame, hframe⟩ := encode_tcp_binary_frame_ok hcanonical content
    exact ⟨.bytes frame, by rw [hframe]; rfl⟩
  · exact ⟨_, rfl⟩

/-- A keep-alive message is neither a request nor data of a connection. -/
theorem not_about_keepAlive (c : ConnectionId) :
    ¬ (ToAgent.text .keepAlive).received.About c := by
  simp [RelayFrame.About, RelayFrame.asks?, RelayFrame.request?, RelayFrame.data?,
    ToAgent.received]

/-- Neither is a close message. -/
theorem not_about_close (c c' : ConnectionId) : ¬ (closeMessage c').received.About c := by
  simp [RelayFrame.About, RelayFrame.asks?, RelayFrame.request?, RelayFrame.data?,
    ToAgent.received, closeMessage]

/-- A request is about its own connection. -/
theorem about_request {request : ConnectionRequest} {c c' : ConnectionId}
    (h : (request.message c').received.About c) : c' = c := by
  simpa [RelayFrame.About, RelayFrame.asks?, RelayFrame.request?, RelayFrame.data?,
    ToAgent.received, ConnectionRequest.message] using h

/-- Data is no request. -/
theorem asks?_of_data? {frame : RelayFrame} {x : ConnectionId × Bytes}
    (h : frame.data? = some x) : frame.asks? = none := by
  simp [RelayFrame.asks?, (RelayFrame.of_data? h).1]

/-- Data is about its own connection. -/
theorem about_data {connection : TcpConnection} {c c' : ConnectionId} {content : Bytes}
    {m : ToAgent} (hcanonical : canonical c' = true)
    (hm : connection.dataMessage c' content = .ok m) (h : m.received.About c) : c' = c := by
  have hdata := dataMessage_data? hcanonical hm
  obtain hasks | ⟨data, hdata'⟩ := h
  · rw [asks?_of_data? hdata] at hasks
    cases hasks
  · rw [hdata] at hdata'
    exact (Prod.mk.inj (Option.some.inj hdata')).1

/-! ## Who sends what about a connection -/

variable {cfg : RelayConfig} {s s' : RelayState} {e : RelayEvent}
  {ok : RelayState → RelayEvent → Prop} {c : ConnectionId}

/-- The ids of connection objects have the form that `uuid4` gives them. -/
theorem canonical_ids (h : Reaches (step cfg) ok {} s) :
    ∀ c, (s.relay.connection c).isSome = true → canonical c = true := by
  refine h.invariant (I := fun s => ∀ c, (s.relay.connection c).isSome = true →
    canonical c = true) (by simp) fun s e s' _ _ hstep hI c hc => ?_
  cases hold : s.relay.connection c with
  | some connection => exact hI c (by rw [hold]; rfl)
  | none => exact (step_evolves hstep).fresh c hold hc

/-- A user sends on a connection that a create call has returned. -/
theorem senders_called (h : Reaches (step cfg) ok {} s) :
    ∀ k sender, s.sender k = some sender →
      ∃ call i, s.call call = some (.finished i (.ok sender.connection_id)) := by
  refine h.invariant (I := fun s => ∀ k sender, s.sender k = some sender →
    ∃ call i, s.call call = some (.finished i (.ok sender.connection_id))) (by simp)
    fun s e s' _ _ hstep hI k sender hk => ?_
  have hrule := step_rule hstep
  -- A call that has returned is not resumed, and its number is not given to another one.
  have hstays : ∀ call i c, s.call call = some (.finished i (.ok c)) →
      s'.call call = some (.finished i (.ok c)) := by
    intro call i c hcall
    rw [call_frame hrule ?_ ?_, hcall]
    · rintro o rfl
      cases hrule with
      | call hpc => simp [hcall] at hpc
    · rintro request c' rfl
      cases hrule with
      | createFails hnew | create hnew => simp [hcall] at hnew
  have hkept : ∀ sender', s.sender k = some sender' →
      sender'.connection_id = sender.connection_id →
      ∃ call i, s'.call call = some (.finished i (.ok sender.connection_id)) := by
    intro sender' hk' hid
    obtain ⟨call, i, hcall⟩ := hI k sender' hk'
    exact ⟨call, i, hid ▸ hstays call i _ hcall⟩
  by_cases hrun : ∃ o, e = .run (.sender k) o
  · obtain ⟨o, rfl⟩ := hrun
    cases hrule with
    | sends hpc | sending hpc =>
      refine hkept _ hpc ?_
      obtain rfl : _ = sender := by simpa [senderReturned] using hk
      rfl
  · by_cases hnew : ∃ call content, e = .send k call content
    · obtain ⟨call, content, rfl⟩ := hnew
      cases hrule with
      | @send _ _ _ c _ _ kept hcall =>
        obtain rfl : (⟨c, .scheduled kept⟩ : Sender) = sender := by simpa using hk
        unfold returnedBy at hcall
        split at hcall
        case h_1 i c' hfinished =>
          obtain rfl := Option.some.inj hcall
          exact ⟨call, i, hstays _ _ _ hfinished⟩
        case h_2 => cases hcall
    · rw [sender_frame hrule (fun o he => hrun ⟨o, he⟩) fun call content he =>
        hnew ⟨call, content, he⟩] at hk
      exact hkept sender hk rfl

/-- The tasks that can send a request or data for a connection. -/
inductive Speaks (s : RelayState) (e : RelayEvent) (c : ConnectionId) : Prop
  /-- Its create call, which has waited for the lock. -/
  | asks {t o pc l} (he : e = .run t o) (hpc : s.pending? t = some pc)
      (hpoint : pc.point = .sending (.acquiring l)) (hid : pc.connection_id = c)
  /-- The call that publishes it. -/
  | publishes (hnone : s.relay.connection c = none)
  /-- Its session, in the loop. -/
  | session {A o pc} (he : e = .run (.client A) o) (hpc : s.client A = some pc)
      (hloop : pc = .receiving c ∨ ∃ message l, pc = .forwarding c message (.acquiring l))
  /-- A user's `send`. -/
  | sender {k o point} (he : e = .run (.sender k) o) (hpc : s.sender k = some ⟨c, point⟩)

/-- What waits for the lock is data of its connection. -/
theorem waiting_data (hO : Outgoing s) {m : ToAgent} {l : ℕ}
    (hpc : (∃ A o, e = .run (.client A) o ∧
        s.client A = some (.forwarding c (.ok m) (.acquiring l))) ∨
      ∃ k o, e = .run (.sender k) o ∧ s.sender k = some ⟨c, .sending (.ok m) (.acquiring l)⟩) :
    ∃ connection content, s.relay.connection c = some connection ∧
      connection.dataMessage c content = .ok m := by
  have hframed : Framed s.relay c (.ok m) := by
    obtain ⟨A, o, -, hpc⟩ | ⟨k, o, -, hpc⟩ := hpc
    · exact hO.forwarding A c _ _ hpc
    · exact hO.sender k c _ _ hpc
  obtain ⟨connection, content, hc, hdata⟩ := hframed
  exact ⟨connection, content, hc, hdata.symm⟩

/-- What a step sends about a connection is said by somebody who may speak of it. -/
theorem Emits.speaks (hr : Reaches (step cfg) ok {} s) {W : AgentSocket} {m : ToAgent}
    (hm : Emits s e s' W m) (habout : m.received.About c) :
    Speaks s e c := by
  have hcanonical : ∀ {c' connection}, s.relay.connection c' = some connection →
      canonical c' = true := fun hc => canonical_ids hr _ (by rw [hc]; rfl)
  cases hm with
  | keepAlive => exact absurd habout (not_about_keepAlive c)
  | close => exact absurd habout (not_about_close c _)
  | requests he hpc hpoint => exact .asks he hpc hpoint (about_request habout)
  | opens _ _ hnone => exact .publishes (about_request habout ▸ hnone)
  | data hc hm hpc =>
    obtain rfl := about_data (hcanonical hc) hm habout
    obtain ⟨A, o, he, hpc⟩ | ⟨k, o, kept, he, hpc⟩ := hpc
    · exact .session he hpc (.inl rfl)
    · exact .sender he hpc
  | forwards hc hpc =>
    obtain ⟨connection, content, hc', hdata⟩ := waiting_data (outgoing hr) hpc
    obtain rfl := about_data (hcanonical hc') hdata habout
    obtain ⟨A, o, he, hpc⟩ | ⟨k, o, he, hpc⟩ := hpc
    · exact .session he hpc (.inr ⟨_, _, rfl⟩)
    · exact .sender he hpc

/-- Data for a connection is sent by its session, or by a user that it was returned to. -/
theorem Emits.carries (hr : Reaches (step cfg) ok {} s) {W : AgentSocket} {m : ToAgent}
    (h : Emits s e s' W m) {data : Bytes} (hdata : m.received.data? = some (c, data)) :
    (s.relay.connection c).isSome = true ∧
      ((∃ A o pc, e = .run (.client A) o ∧ s.client A = some pc ∧ pc.connection_id? = some c) ∨
        ∃ k sender, s.sender k = some sender ∧ sender.connection_id = c) := by
  have hid : ∀ {c' connection content}, s.relay.connection c' = some connection →
      connection.dataMessage c' content = .ok m → c' = c := by
    intro c' connection content hc hm
    have hcanonical := canonical_ids hr c' (by rw [hc]; rfl)
    exact about_data hcanonical hm (.inr ⟨data, hdata⟩)
  cases h with
  | keepAlive | close | requests | opens => cases hdata
  | data hc hm hpc =>
    obtain rfl := hid hc hm
    refine ⟨by rw [hc]; rfl, ?_⟩
    obtain ⟨A, o, he, hpc⟩ | ⟨k, o, kept, -, hpc⟩ := hpc
    · exact .inl ⟨A, o, _, he, hpc, rfl⟩
    · exact .inr ⟨k, _, hpc, rfl⟩
  | forwards hc hpc =>
    obtain ⟨connection, content, hc', hm⟩ := waiting_data (outgoing hr) hpc
    obtain rfl := hid hc' hm
    refine ⟨by rw [hc]; rfl, ?_⟩
    obtain ⟨A, o, he, hpc⟩ | ⟨k, o, -, hpc⟩ := hpc
    · exact .inl ⟨A, o, _, he, hpc, rfl⟩
    · exact .inr ⟨k, _, hpc, rfl⟩

/-- Nothing has been sent about a connection that does not exist. -/
theorem not_about_of_none (hr : Reaches (step cfg) ok {} s) (hnone : s.relay.connection c = none)
    {W : AgentSocket} : ∀ m ∈ s.relay.to_agent W, ¬ m.received.About c := by
  intro m hm habout
  cases (outgoing hr).sent W m hm with
  | keepAlive => exact not_about_keepAlive c habout
  | close => exact not_about_close c _ habout
  | request hc =>
    rw [about_request habout, hnone] at hc
    cases hc
  | data hc hm =>
    obtain rfl := about_data (canonical_ids hr _ (by rw [hc]; rfl)) hm habout
    rw [hnone] at hc
    cases hc

/-! ## The request comes first -/

/-- A list that ends in `x`, split somewhere. -/
theorem split_concat {α : Type*} {l l₁ l₂ : List α} {x y : α} (h : l ++ [x] = l₁ ++ y :: l₂) :
    (l₁ = l ∧ y = x ∧ l₂ = []) ∨ ∃ l₃, l₂ = l₃ ++ [x] ∧ l = l₁ ++ y :: l₃ := by
  obtain rfl | ⟨l₃, z, rfl⟩ := List.eq_nil_or_concat l₂
  · obtain ⟨hl, hx⟩ := List.append_inj' h rfl
    exact .inl ⟨hl.symm, (List.cons.inj hx).1.symm, rfl⟩
  · have h' : l ++ [x] = (l₁ ++ y :: l₃) ++ [z] := by simpa using h
    obtain ⟨hl, hx⟩ := List.append_inj' h' rfl
    obtain rfl := (List.cons.inj hx).1
    exact .inr ⟨l₃, by simp, hl⟩

/-- A call that has been resumed does not wait for the lock any more. -/
theorem CreateStep.not_acquiring {r r' : NetworkRelay} {pc pc' : CreateConnection} {o : Outcome}
    (h : CreateStep cfg r pc o r' (.parked pc')) (l : ℕ) :
    pc'.point ≠ .sending (.acquiring l) := by
  generalize hres : Res.parked pc' = res at h
  cases h with
  | @answers _ m _ => cases m <;> cases hres
  | requests | waits =>
    cases hres
    simp
  | requestFails => cases hres

/-- The request for the connection waits for the lock. -/
def Unrequested (s : RelayState) (c : ConnectionId) : Prop :=
  ∃ t pc l, s.pending? t = some pc ∧ pc.point = .sending (.acquiring l) ∧ pc.connection_id = c

/-- A request is sent by a call that has waited for the lock, or by one that has just published the
connection. -/
theorem Emits.asks (hr : Reaches (step cfg) ok {} s) {W : AgentSocket} {m : ToAgent}
    (h : Emits s e s' W m) (hasks : m.received.asks? = some c) :
    Unrequested s c ∨ s.relay.connection c = none := by
  have hnodata : ∀ {c' connection content}, s.relay.connection c' = some connection →
      connection.dataMessage c' content ≠ .ok m := by
    intro c' connection content hc hdata
    have hcanonical := canonical_ids hr c' (by rw [hc]; rfl)
    rw [asks?_of_data? (dataMessage_data? hcanonical hdata)] at hasks
    cases hasks
  cases h with
  | requests _ hpc hpoint => exact .inl ⟨_, _, _, hpc, hpoint, about_request (.inl hasks)⟩
  | opens _ _ hnone =>
    obtain rfl := about_request (.inl hasks)
    exact .inr hnone
  | keepAlive | close => cases hasks
  | data hc hdata => exact absurd hdata (hnodata hc)
  | forwards hc hpc =>
    obtain ⟨connection, content, hc', hdata⟩ := waiting_data (outgoing hr) hpc
    exact absurd hdata (hnodata hc')

/-- On an agent's websocket nothing about a connection comes before the request for it. -/
structure RequestsFirst (s : RelayState) : Prop where
  first : ∀ W l₁ m l₂ c, s.relay.to_agent W = l₁ ++ m :: l₂ →
    m.received.asks? = some c → ∀ m' ∈ l₁, ¬ m'.received.About c
  unasked : ∀ t pc l, s.pending? t = some pc → pc.point = .sending (.acquiring l) →
    ∀ W, ∀ m ∈ s.relay.to_agent W, ¬ m.received.About pc.connection_id

namespace RequestsFirst

/-- At the start nothing has been sent. -/
theorem initial : RequestsFirst {} where
  first _ l₁ _ _ _ h _ := by simp at h
  unasked _ _ _ _ _ _ _ hm := by simp at hm

/-- A task other than the create call has nothing to say about its connection yet. -/
theorem speaks_pending (hr : Reaches (step cfg) ok {} s) {t : Task} {pc : CreateConnection}
    (hpc : s.pending? t = some pc) (hspeaks : Speaks s e pc.connection_id) : ∃ o, e = .run t o := by
  obtain ⟨connection, hc, -, hcreator⟩ := (outgoing hr).pending t pc hpc
  cases hspeaks with
  | @asks _ o _ _ he hpc' _ hid =>
    obtain rfl := awaits_unique (outgoing hr) hpc hpc' hid.symm
    exact ⟨o, he⟩
  | publishes hnone =>
    rw [hnone] at hc
    cases hc
  | @session A _ pc₁ _ hpc₁ hloop =>
    have hid : pc₁.connection_id? = some pc.connection_id := by
      obtain rfl | ⟨message, l, rfl⟩ := hloop <;> rfl
    obtain ⟨connection', hc', hcreator', -⟩ := (ownership hr).client A pc₁ _ hpc₁ hid
    obtain rfl := Option.some.inj (hc.symm.trans hc')
    rw [hcreator] at hcreator'
    subst hcreator'
    obtain rfl | ⟨message, l, rfl⟩ := hloop <;> simp [pending?, hpc₁] at hpc
  | sender _ hsender =>
    obtain ⟨call, i, hcall⟩ := senders_called hr _ _ hsender
    obtain ⟨connection', hc', hcreator'⟩ := returned_creator hr call i _ hcall
    obtain rfl := Option.some.inj (hc.symm.trans hc')
    rw [hcreator] at hcreator'
    subst hcreator'
    simp [pending?, hcall] at hpc

/-- Nothing is said about a connection while its request waits for the lock. -/
theorem unasked_step (hF : RequestsFirst s) (hr : Reaches (step cfg) ok {} s)
    (h : RelayRule cfg s e s') {t : Task} {pc' : CreateConnection} {l : ℕ}
    (hpc' : s'.pending? t = some pc') (hpoint : pc'.point = .sending (.acquiring l))
    (W : AgentSocket) : ∀ m ∈ s'.relay.to_agent W, ¬ m.received.About pc'.connection_id := by
  intro m hm habout
  cases pending_of_rule h hpc' with
  | same hrun hpc =>
    obtain hold | hnew := (sends_of_rule h).mem hm
    · exact hF.unasked t pc' l hpc hpoint W m hold habout
    · obtain ⟨o, he⟩ := speaks_pending hr hpc (hnew.speaks hr habout)
      exact hrun o he
  | moved _ _ hstep => exact hstep.not_acquiring l hpoint
  | published hnone hconn =>
    obtain hold | hnew := (sends_of_rule h).mem hm
    · exact not_about_of_none hr hnone m hold habout
    · have hsome : ∀ {c' connection}, s.relay.connection c' = some connection →
          c' ≠ pc'.connection_id := by
        rintro c' connection hc rfl
        rw [hnone] at hc
        cases hc
      have hcanonical : ∀ {c' connection}, s.relay.connection c' = some connection →
          canonical c' = true := fun hc => canonical_ids hr _ (by rw [hc]; rfl)
      cases hnew with
      | keepAlive => exact not_about_keepAlive _ habout
      | close => exact not_about_close _ _ habout
      | requests _ hpc =>
        obtain ⟨connection, hc, -⟩ := (outgoing hr).pending _ _ hpc
        exact hsome hc (about_request habout)
      | opens hpc hpoint' =>
        -- It is the call itself, which does not wait for the lock if it has sent its request.
        have hO := (outgoing hr).preserved h
        obtain rfl := awaits_unique hO hpc' hpc (about_request habout).symm
        obtain rfl := Option.some.inj (hpc'.symm.trans hpc)
        rw [hpoint] at hpoint'
        cases hpoint'
      | data hc hm => exact hsome hc (about_data (hcanonical hc) hm habout)
      | forwards hc hpc =>
        obtain ⟨connection, content, hc', hdata⟩ := waiting_data (outgoing hr) hpc
        exact hsome hc' (about_data (hcanonical hc') hdata habout)

/-- Nothing has been said about a connection whose request has not been sent. -/
theorem not_about (hF : RequestsFirst s) (hr : Reaches (step cfg) ok {} s)
    (hun : Unrequested s c ∨ s.relay.connection c = none) (W : AgentSocket) :
    ∀ m ∈ s.relay.to_agent W, ¬ m.received.About c := by
  rcases hun with ⟨t, pc, l, hpc, hpoint, rfl⟩ | hnone
  · exact hF.unasked t pc l hpc hpoint W
  · exact fun m hm => not_about_of_none hr hnone m hm

/-- Nothing is said about a connection before its request. -/
theorem first_step (hF : RequestsFirst s) (hr : Reaches (step cfg) ok {} s)
    (h : RelayRule cfg s e s') {W : AgentSocket} {l₁ l₂ : List ToAgent} {m : ToAgent}
    (hsplit : s'.relay.to_agent W = l₁ ++ m :: l₂) (hm : m.received.asks? = some c) :
    ∀ m' ∈ l₁, ¬ m'.received.About c := by
  obtain heq | ⟨W₀, m₀, hm₀, heq⟩ := sends_of_rule h
  · rw [heq] at hsplit
    exact hF.first W l₁ m l₂ c hsplit hm
  · obtain rfl | hW := eq_or_ne W W₀
    · have hconcat : s.relay.to_agent W ++ [m₀] = l₁ ++ m :: l₂ := by
        rw [← hsplit, heq]
        simp
      obtain ⟨rfl, rfl, -⟩ | ⟨l₃, -, hold⟩ := split_concat hconcat
      · exact hF.not_about hr (hm₀.asks hr hm) W
      · exact hF.first W l₁ m l₃ c hold hm
    · have hsame : s'.relay.to_agent W = s.relay.to_agent W := by
        rw [heq]
        simp [hW]
      rw [hsame] at hsplit
      exact hF.first W l₁ m l₂ c hsplit hm

end RequestsFirst

/-- The requests come first in every run. -/
theorem requestsFirst (h : Reaches (step cfg) ok {} s) : RequestsFirst s :=
  h.invariant .initial fun _ _ _ hr _ hs hF =>
    { first := fun _ _ _ _ _ => hF.first_step hr (step_rule hs)
      unasked := fun _ _ _ hpc hpoint W => hF.unasked_step hr (step_rule hs) hpc hpoint W }

/-- The frames on a websocket ask for each connection before they are about it. -/
theorem asked_first (h : Reaches (step cfg) ok {} s) (W : AgentSocket) :
    AskedFirst (s.relay.frames W) := by
  intro l₁ frame l₂ c hsplit hasks f hf
  unfold NetworkRelay.frames at hsplit
  obtain ⟨m₁, m₂, hm, rfl, htail⟩ := List.map_eq_append_iff.mp hsplit
  obtain ⟨m, m₃, rfl, rfl, rfl⟩ := List.map_eq_cons_iff.mp htail
  obtain ⟨m', hm', rfl⟩ := List.mem_map.mp hf
  exact (requestsFirst h).first W m₁ m m₃ c hm hasks m' hm'

end HttpNetworkRelay
