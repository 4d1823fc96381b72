import HttpNetworkRelay.Python.Hex

/-!
# The messages and the binary frames

The pydantic models of `pydantic_models.py` and `access_client.py`, and the binary framing of the
relay-to-agent websocket. A text frame is represented by what `model_validate_json` makes of it:
the message it parses to, or nothing where validation raises. A binary frame is its bytes.

`Exc` lists the exceptions that the modelled functions meet, with the data that an `except` clause
reads: `is_closed_error` reads the argument of a `RuntimeError`.
-/

namespace HttpNetworkRelay

open Python

/-- A relayed connection's id, `str(uuid.uuid4())`, or what a peer sent in its place. -/
abbrev ConnectionId := String

/-- The id under which an edge agent is registered. -/
abbrev AgentId := String

/-- The relay's websocket to an edge agent. -/
structure AgentSocket where
  fd : ℕ
  deriving DecidableEq, Repr

/-- The relay's websocket to an access client. -/
structure ClientSocket where
  fd : ℕ
  deriving DecidableEq, Repr

/-! ## Exceptions -/

/-- What a websocket operation of Starlette raises: a `RuntimeError` with its argument, a
`WebSocketDisconnect`, or anything else that comes out of the server below it. -/
inductive WsError
  | runtimeError (arg : String)
  | webSocketDisconnect
  | other
  deriving DecidableEq, Repr

/-- The exceptions that leave a modelled function. -/
inductive Exc
  /-- Raised by a websocket operation. -/
  | ws (error : WsError)
  /-- A `ValueError` that the code itself raises, with its text. -/
  | valueError (text : String)
  /-- Raised by pydantic's validation. -/
  | validationError
  /-- Raised by `base64.b64decode`. -/
  | base64 (error : Base64Error)
  | keyError
  | attributeError
  | unboundLocalError
  /-- Raised by a method that a subclass supplies. -/
  | hook
  deriving DecidableEq, Repr

/-- `NetworkRelay.is_closed_error`, on the argument of the `RuntimeError`. -/
def is_closed_error (str_e : String) : Bool :=
  (isIn "Unexpected ASGI message" str_e && isIn "after sending 'websocket.close'" str_e) ||
    str_e == "Cannot call \"send\" once a close message has been sent."

/-- Whether the error is a `RuntimeError` that `is_closed_error` accepts. -/
def WsError.isClosed : WsError → Bool
  | .runtimeError arg => is_closed_error arg
  | _ => false

/-- Whether the first `try` of `close_relayed_connection` swallows the error: a `RuntimeError` that
`is_closed_error` accepts, or a `WebSocketDisconnect`. -/
def WsError.isGone : WsError → Bool
  | .webSocketDisconnect => true
  | e => e.isClosed

/-! ## Edge agent to relay -/

/-- A value that `extra="allow"` keeps on a start message: a string, or some other JSON value. -/
inductive ExtraValue
  | str (value : String)
  | other
  deriving DecidableEq, Repr

/-- `EtRStartMessage`, with the extra attributes it was sent with. -/
structure EtRStartMessage where
  last_error : Option String := none
  supports_binary : Bool := false
  extra : List (String × ExtraValue) := []
  deriving DecidableEq, Repr

/-- The union inside `EdgeAgentToRelayMessage`. -/
inductive EdgeAgentToRelayMessage
  | start (message : EtRStartMessage)
  | initiateConnectionError (message : String) (connection_id : ConnectionId)
  | initiateConnectionOK (connection_id : ConnectionId)
  | tcpData (connection_id : ConnectionId) (data_base64 : String)
  | connectionReset (message : String) (connection_id : ConnectionId)
  | keepAlive
  deriving DecidableEq, Repr

/-- The attribute `connection_id` of a message, where it has one that is a string. A start message
has it if it was sent as an extra attribute. -/
def EdgeAgentToRelayMessage.connection_id? : EdgeAgentToRelayMessage → Option ConnectionId
  | .start m =>
    match m.extra.lookup "connection_id" with
    | some (.str c) => some c
    | _ => none
  | .initiateConnectionError _ c => some c
  | .initiateConnectionOK c => some c
  | .tcpData c _ => some c
  | .connectionReset _ c => some c
  | .keepAlive => none

/-- A text frame from an agent: what `EdgeAgentToRelayMessage.model_validate_json` makes of it, and
whether the relay's `CustomAgentToRelayMessage` would accept it. -/
structure AgentText where
  known : Option EdgeAgentToRelayMessage
  custom : Bool := false
  deriving DecidableEq, Repr

/-- A websocket message from an agent. -/
inductive AgentFrame
  | bytes (data : Bytes)
  | text (content : AgentText)
  deriving DecidableEq, Repr

/-! ## Relay to edge agent -/

/-- The union inside `RelayToEdgeAgentMessage`. -/
inductive RelayToEdgeAgentMessage
  | initiateConnection (target_ip : String) (target_port : ℤ) (protocol : String)
      (connection_id : ConnectionId) (supports_binary : Bool)
  | tcpData (connection_id : ConnectionId) (data_base64 : String)
  | connectionClose (message : String) (connection_id : ConnectionId)
  | keepAlive
  deriving DecidableEq, Repr

/-- A websocket message to an agent. -/
inductive ToAgent
  | bytes (data : Bytes)
  | text (message : RelayToEdgeAgentMessage)
  deriving DecidableEq, Repr

/-! ## Access client and relay -/

/-- `AtRStartMessage`. -/
structure AtRStartMessage where
  connection_target : String
  target_ip : String
  target_port : ℤ
  protocol : String
  secret : String
  supports_binary : Option Bool := some false
  deriving DecidableEq, Repr

/-- The union inside `AccessClientToRelayMessage`. -/
inductive AccessClientToRelayMessage
  | start (message : AtRStartMessage)
  | tcpData (data_base64 : String)
  deriving DecidableEq, Repr

/-- A websocket message from an access client; a text is what
`AccessClientToRelayMessage.model_validate_json` makes of it. -/
inductive ClientFrame
  | bytes (data : Bytes)
  | text (content : Option AccessClientToRelayMessage)
  deriving DecidableEq, Repr

/-- The union inside `RelayToAccessClientMessage`. -/
inductive RelayToAccessClientMessage
  | error (message : String)
  | startOK (supports_binary : Bool)
  | tcpData (data_base64 : String)
  deriving DecidableEq, Repr

/-- A websocket message to an access client. -/
inductive ToClient
  | bytes (data : Bytes)
  | text (message : RelayToAccessClientMessage)
  deriving DecidableEq, Repr

/-! ## Binary frames -/

/-- `READ_CHUNK_SIZE`. -/
def READ_CHUNK_SIZE : ℕ := 128 * 1024

/-- `encode_tcp_binary_frame`: the 16 bytes of the connection id, then the payload. -/
def encode_tcp_binary_frame (connection_id : ConnectionId) (payload : Bytes) : Except Exc Bytes :=
  match fromhex (connection_id.toList.filter (· ≠ '-')) with
  | some h => .ok (h ++ payload)
  | none => .error (.valueError "non-hexadecimal number found in fromhex() arg")

/-- `decode_tcp_binary_frame`: the connection id rebuilt from the first 16 bytes, and the rest. -/
def decode_tcp_binary_frame (frame : Bytes) : Except Exc (ConnectionId × Bytes) :=
  if frame.length < 16 then
    .error (.valueError ("frame too short to contain a connection id: " ++
      toString frame.length ++ " bytes"))
  else
    let h := hex (frame.take 16)
    .ok (String.ofList (slice h 0 8 ++ '-' :: slice h 8 12 ++ '-' :: slice h 12 16 ++ '-' ::
      slice h 16 20 ++ '-' :: slice h 20 32), frame.drop 16)

/-- A lower-case hexadecimal digit. -/
def isLowerHex (ch : Char) : Bool := ('0' ≤ ch && ch ≤ '9') || ('a' ≤ ch && ch ≤ 'f')

/-- The form of `str(uuid.uuid4())`: 8-4-4-4-12 lower-case hexadecimal digits. -/
def canonical (connection_id : ConnectionId) : Bool :=
  connection_id.toList.length = 36 &&
    connection_id.toList.zipIdx.all fun p =>
      if p.2 ∈ [8, 13, 18, 23] then p.1 = '-' else isLowerHex p.1

/-- A frame decodes exactly when it is long enough for a connection id. -/
theorem decode_tcp_binary_frame_isOk (frame : Bytes) :
    (∃ r, decode_tcp_binary_frame frame = .ok r) ↔ 16 ≤ frame.length := by
  unfold decode_tcp_binary_frame
  split_ifs with h
  · simp only [exists_false, false_iff]
    omega
  · simp only [Except.ok.injEq, exists_eq', true_iff]
    omega

/-- The digits of a canonical id are hexadecimal. -/
theorem hexValue?_of_isLowerHex {ch : Char} (h : isLowerHex ch = true) :
    (hexValue? ch).isSome = true := by
  simp only [isLowerHex, Bool.or_eq_true, Bool.and_eq_true, decide_eq_true_eq] at h
  unfold hexValue?
  rcases h with h | h
  · rw [if_pos h]
    rfl
  · split_ifs <;> rfl

/-- A canonical id has 32 hexadecimal digits beside its dashes. -/
theorem canonical_digits {connection_id : ConnectionId} (h : canonical connection_id = true) :
    (connection_id.toList.filter (· ≠ '-')).length = 32 ∧
      ∀ ch ∈ connection_id.toList.filter (· ≠ '-'), (hexValue? ch).isSome = true := by
  simp only [canonical, Bool.and_eq_true, decide_eq_true_eq, List.all_eq_true] at h
  obtain ⟨hlen, hall⟩ := h
  constructor
  · -- The dashes stand at four known positions, so the digits can be counted by position.
    have hdash : ∀ p ∈ connection_id.toList.zipIdx, (p.1 ≠ '-') = (p.2 ∉ [8, 13, 18, 23]) := by
      intro p hp
      have hform := hall p hp
      split_ifs at hform with hpos
      · have hch : p.1 = '-' := by simpa using hform
        simp only [ne_eq, hch, not_true_eq_false, hpos]
      · have hne : p.1 ≠ '-' := by
          intro hch
          rw [hch] at hform
          exact absurd hform (by decide)
        simp only [ne_eq, hne, not_false_eq_true, hpos]
    have hmap : connection_id.toList = connection_id.toList.zipIdx.map Prod.fst := by simp
    rw [hmap, List.filter_map, List.length_map]
    have hcongr : connection_id.toList.zipIdx.filter ((fun ch => decide (ch ≠ '-')) ∘ Prod.fst) =
        connection_id.toList.zipIdx.filter
          ((fun i => decide (i ∉ [8, 13, 18, 23])) ∘ Prod.snd) := by
      refine List.filter_congr fun p hp => ?_
      simp only [Function.comp_apply, hdash p hp]
    rw [hcongr, ← List.length_map (f := Prod.snd), ← List.filter_map, List.zipIdx_map_snd, hlen]
    decide
  · intro ch hch
    obtain ⟨hmem, hne⟩ := List.mem_filter.mp hch
    obtain ⟨i, hi, rfl⟩ := List.getElem_of_mem hmem
    have hp : (connection_id.toList[i], i) ∈ connection_id.toList.zipIdx := by
      rw [List.mem_zipIdx_iff_getElem?]
      simp [hi]
    have hform := hall _ hp
    split_ifs at hform with hpos
    · simp only [decide_eq_true_eq] at hform hne
      exact absurd hform hne
    · exact hexValue?_of_isLowerHex hform

/-- The id of a connection that the relay created can be put into a frame. -/
theorem encode_tcp_binary_frame_ok {connection_id : ConnectionId}
    (h : canonical connection_id = true) (payload : Bytes) :
    ∃ frame, encode_tcp_binary_frame connection_id payload = .ok frame := by
  obtain ⟨hlen, hall⟩ := canonical_digits h
  obtain ⟨bytes, hbytes, -⟩ := fromhex_length hall (by rw [hlen])
  exact ⟨bytes ++ payload, by rw [encode_tcp_binary_frame, hbytes]⟩

/-- A canonical id, cut at its dashes. -/
theorem canonical_groups {connection_id : ConnectionId} (h : canonical connection_id = true) :
    ∃ g₁ g₂ g₃ g₄ g₅ : List Char,
      connection_id.toList = g₁ ++ '-' :: (g₂ ++ '-' :: (g₃ ++ '-' :: (g₄ ++ '-' :: g₅))) ∧
      g₁.length = 8 ∧ g₂.length = 4 ∧ g₃.length = 4 ∧ g₄.length = 4 ∧ g₅.length = 12 ∧
      ∀ ch ∈ g₁ ++ g₂ ++ g₃ ++ g₄ ++ g₅, isLowerHex ch = true := by
  simp only [canonical, Bool.and_eq_true, decide_eq_true_eq, List.all_eq_true] at h
  obtain ⟨hlen, hall⟩ := h
  generalize connection_id.toList = l at hlen hall
  have hat : ∀ i (hi : i < l.length),
      if i ∈ [8, 13, 18, 23] then l[i] = '-' else isLowerHex l[i] = true := by
    intro i hi
    have hmem : (l[i], i) ∈ l.zipIdx := by
      rw [List.mem_zipIdx_iff_getElem?]
      simp [hi]
    have hform := hall _ hmem
    dsimp only at hform
    split_ifs at hform ⊢ <;> simpa using hform
  have hgroup : ∀ i n, (∀ k, i ≤ k → k < i + n → k ∉ [8, 13, 18, 23]) →
      ∀ ch ∈ (l.drop i).take n, isLowerHex ch = true := by
    intro i n hk ch hch
    obtain ⟨j, hj, rfl⟩ := List.getElem_of_mem hch
    simp only [List.length_take, List.length_drop, lt_min_iff] at hj
    have hform := hat (i + j) (by omega)
    rw [if_neg (hk (i + j) (by omega) (by omega))] at hform
    simpa using hform
  have hdash : ∀ i, i ∈ [8, 13, 18, 23] → l.drop i = '-' :: l.drop (i + 1) := by
    intro i hi
    have hlt : i < l.length := by
      simp only [List.mem_cons, List.not_mem_nil, or_false] at hi
      omega
    have hform := hat i hlt
    rw [if_pos hi] at hform
    rw [List.drop_eq_getElem_cons hlt, hform]
  have hcut : ∀ i n, i + n ∈ [8, 13, 18, 23] →
      l.drop i = (l.drop i).take n ++ '-' :: l.drop (i + n + 1) := by
    intro i n hin
    rw [← hdash (i + n) hin, ← List.drop_drop, List.take_append_drop]
  refine ⟨l.take 8, (l.drop 9).take 4, (l.drop 14).take 4, (l.drop 19).take 4, l.drop 24, ?_, ?_⟩
  · calc l = l.take 8 ++ '-' :: l.drop 9 := hcut 0 8 (by simp)
      _ = l.take 8 ++ '-' :: ((l.drop 9).take 4 ++ '-' :: l.drop 14) := by
        rw [← hcut 9 4 (by simp)]
      _ = l.take 8 ++ '-' :: ((l.drop 9).take 4 ++ '-' :: ((l.drop 14).take 4 ++ '-' ::
          l.drop 19)) := by rw [← hcut 14 4 (by simp)]
      _ = _ := by rw [← hcut 19 4 (by simp)]
  · refine ⟨by simp [hlen], by simp [hlen], by simp [hlen], by simp [hlen], by simp [hlen], ?_⟩
    simp only [List.mem_append]
    rintro ch ((((hch | hch) | hch) | hch) | hch)
    · exact hgroup 0 8 (by simp; omega) ch hch
    · exact hgroup 9 4 (by simp; omega) ch hch
    · exact hgroup 14 4 (by simp; omega) ch hch
    · exact hgroup 19 4 (by simp; omega) ch hch
    · refine hgroup 24 12 (by simp; omega) ch ?_
      rwa [List.take_of_length_le (by simp [hlen])]

/-- What was put into a frame under a canonical id is read from it. -/
theorem decode_of_encode {connection_id : ConnectionId} (h : canonical connection_id = true)
    {payload frame : Bytes} (hframe : encode_tcp_binary_frame connection_id payload = .ok frame) :
    decode_tcp_binary_frame frame = .ok (connection_id, payload) := by
  obtain ⟨g₁, g₂, g₃, g₄, g₅, hid, h₁, h₂, h₃, h₄, h₅, hall⟩ := canonical_groups h
  have hne : ∀ ch, isLowerHex ch = true → ch ≠ '-' := by
    rintro ch hch rfl
    exact absurd hch (by decide)
  have hfilter : ∀ g : List Char, (∀ ch ∈ g, isLowerHex ch = true) → g.filter (· ≠ '-') = g := by
    intro g hg
    exact List.filter_eq_self.mpr fun ch hch => by simpa using hne ch (hg ch hch)
  have hdigits : connection_id.toList.filter (· ≠ '-') = g₁ ++ (g₂ ++ (g₃ ++ (g₄ ++ g₅))) := by
    simp only [List.forall_mem_append] at hall
    obtain ⟨⟨⟨⟨hg₁, hg₂⟩, hg₃⟩, hg₄⟩, hg₅⟩ := hall
    rw [hid]
    simp only [List.filter_append, List.filter_cons, decide_not, decide_true, Bool.not_true,
      Bool.false_eq_true, if_false, ne_eq] at hfilter ⊢
    rw [hfilter g₁ hg₁, hfilter g₂ hg₂, hfilter g₃ hg₃, hfilter g₄ hg₄, hfilter g₅ hg₅]
  rw [encode_tcp_binary_frame, hdigits] at hframe
  set digits := g₁ ++ (g₂ ++ (g₃ ++ (g₄ ++ g₅))) with hdef
  have hlen : digits.length = 32 := by simp [*]
  have hlower : ∀ ch ∈ digits, ('0' ≤ ch ∧ ch ≤ '9') ∨ ('a' ≤ ch ∧ ch ≤ 'f') := by
    intro ch hch
    have hch' := hall ch (by simpa [hdef] using hch)
    simpa [isLowerHex] using hch'
  split at hframe
  case h_1 bytes hbytes =>
    obtain rfl := Except.ok.inj hframe
    have hhex : hex bytes = digits := hex_fromhex hlower (by rw [hlen]) hbytes
    have hcount : bytes.length = 16 := by
      have hdouble : (hex bytes).length = 2 * bytes.length := by
        unfold hex
        rw [List.length_flatMap]
        simp
        omega
      rw [hhex, hlen] at hdouble
      omega
    have htake : (bytes ++ payload).take 16 = bytes := List.take_left' hcount
    have hdrop : (bytes ++ payload).drop 16 = payload := List.drop_left' hcount
    rw [decode_tcp_binary_frame, if_neg (by simp [hcount])]
    have hd₂ : digits.drop 8 = g₂ ++ (g₃ ++ (g₄ ++ g₅)) := List.drop_left' h₁
    have hd₃ : digits.drop 12 = g₃ ++ (g₄ ++ g₅) := by
      rw [show 12 = 8 + 4 from rfl, ← List.drop_drop, hd₂]
      exact List.drop_left' h₂
    have hd₄ : digits.drop 16 = g₄ ++ g₅ := by
      rw [show 16 = 12 + 4 from rfl, ← List.drop_drop, hd₃]
      exact List.drop_left' h₃
    have hd₅ : digits.drop 20 = g₅ := by
      rw [show 20 = 16 + 4 from rfl, ← List.drop_drop, hd₄]
      exact List.drop_left' h₄
    have hs₁ : slice digits 0 8 = g₁ := List.take_left' h₁
    have hs₂ : slice digits 8 12 = g₂ := by
      rw [slice, hd₂]
      exact List.take_left' h₂
    have hs₃ : slice digits 12 16 = g₃ := by
      rw [slice, hd₃]
      exact List.take_left' h₃
    have hs₄ : slice digits 16 20 = g₄ := by
      rw [slice, hd₄]
      exact List.take_left' h₄
    have hs₅ : slice digits 20 32 = g₅ := by
      rw [slice, hd₅]
      exact List.take_of_length_le h₅.le
    have htext : g₁ ++ '-' :: g₂ ++ '-' :: g₃ ++ '-' :: g₄ ++ '-' :: g₅ =
        connection_id.toList := by
      rw [hid]
      simp
    simp only [htake, hdrop, hhex, hs₁, hs₂, hs₃, hs₄, hs₅]
    rw [← String.ofList_toList (s := connection_id), ← htext]
  case h_2 => cases hframe

end HttpNetworkRelay
