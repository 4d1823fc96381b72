import HttpNetworkRelay.Messages
import Mathlib.Data.List.Nodup

/-!
# The texts at the relay's two endpoints

What text a message is dumped to and what a receiver reads in a text is up to pydantic, which is not
part of the repository. `Texts` leaves both open, for the messages of agents and of access clients,
and `Texts.Documented` says what the endpoints rely on: which fields a dump has, that a field
without a default must be there, and that `extra="allow"` keeps the entries that are not declared.

`plainTexts` is one way to do it, in which a text is its JSON object and no scalar is converted.
-/

namespace HttpNetworkRelay

open Python

/-! ## The classes of the messages -/

/-- The fields that `EtRStartMessage` declares. -/
def EtRStartMessage.declared : List String := ["kind", "last_error", "supports_binary"]

/-- The fields of a message of an agent, in their order; a start message has its extra attributes
as well. -/
def EdgeAgentToRelayMessage.fields : EdgeAgentToRelayMessage → List String
  | .start m => EtRStartMessage.declared ++ m.extra.map Prod.fst
  | .initiateConnectionError _ _ => ["kind", "message", "connection_id"]
  | .initiateConnectionOK _ => ["kind", "connection_id"]
  | .tcpData _ _ => ["kind", "connection_id", "data_base64"]
  | .connectionReset _ _ => ["kind", "message", "connection_id"]
  | .keepAlive => ["kind"]

/-- The fields of `AtRStartMessage` without a default. -/
def AtRStartMessage.required : List String :=
  ["connection_target", "target_ip", "target_port", "protocol", "secret"]

/-- The fields of a message of an access client, in their order. -/
def AccessClientToRelayMessage.fields : AccessClientToRelayMessage → List String
  | .start _ => ["kind"] ++ AtRStartMessage.required ++ ["supports_binary"]
  | .tcpData _ => ["kind", "data_base64"]

/-! ## Dumps and validation -/

/-- `model_dump_json` of the two senders' messages, and `model_validate_json` of the two endpoints.
A message has no dump if the model leaves out one of its values (`.other`). -/
structure Texts where
  Text : Type
  /-- The keys of the object `inner`. -/
  keys : Text → List String
  dump_edge_agent : EdgeAgentToRelayMessage → Option Text
  dump_access_client : AccessClientToRelayMessage → Option Text
  validate_edge_agent : Text → Option EdgeAgentToRelayMessage
  validate_access_client : Text → Option AccessClientToRelayMessage

/-- What pydantic documents of them, as far as the endpoints rely on it. -/
structure Texts.Documented (T : Texts) : Prop where
  /-- A dump has the fields of the message. -/
  keys_edge_agent : ∀ m j, T.dump_edge_agent m = some j → T.keys j = m.fields
  keys_access_client : ∀ m j, T.dump_access_client m = some j → T.keys j = m.fields
  /-- A field without a default must be there. -/
  required : ∀ j m, T.validate_access_client j = some (.start m) →
    ∀ name ∈ AtRStartMessage.required, name ∈ T.keys j
  /-- `extra="allow"` keeps the entries that are not declared. -/
  extra : ∀ j m, T.validate_edge_agent j = some (.start m) →
    ∀ name, name ∈ m.extra.map Prod.fst ↔ name ∈ T.keys j ∧ name ∉ EtRStartMessage.declared

/-! ## JSON objects -/

/-- A JSON value. What is no string, integer, Boolean or `null` is not told apart. -/
inductive JsonValue
  | null
  | bool (value : Bool)
  | int (value : ℤ)
  | str (value : String)
  | other
  deriving DecidableEq, Repr

/-- A JSON object, whose keys are different. -/
structure JsonObject where
  entries : List (String × JsonValue)
  nodup : (entries.map Prod.fst).Nodup

namespace JsonObject

variable (o : JsonObject)

/-- The keys of the object. -/
def keys : List String := o.entries.map Prod.fst

/-- The object with these entries, if their keys are different. -/
def of? (entries : List (String × JsonValue)) : Option JsonObject :=
  if nodup : (entries.map Prod.fst).Nodup then some ⟨entries, nodup⟩ else none

/-- The value of a key. -/
def get? (name : String) : Option JsonValue := o.entries.lookup name

/-- A field of type `str`. -/
def str? (name : String) : Option String :=
  match o.get? name with
  | some (.str value) => some value
  | _ => none

/-- A field of type `int`. -/
def int? (name : String) : Option ℤ :=
  match o.get? name with
  | some (.int value) => some value
  | _ => none

/-- A field of type `bool`, with its default. -/
def bool? (name : String) : Option Bool :=
  match o.get? name with
  | none => some false
  | some (.bool value) => some value
  | _ => none

/-- A field of type `bool | None`, with its default. -/
def optionalBool? (name : String) : Option (Option Bool) :=
  match o.get? name with
  | none => some (some false)
  | some .null => some none
  | some (.bool value) => some (some value)
  | _ => none

/-- A field of type `Optional[str]`, which is `None` by default. -/
def optionalStr? (name : String) : Option (Option String) :=
  match o.get? name with
  | none | some .null => some none
  | some (.str value) => some (some value)
  | _ => none

variable {o}

/-- The keys of an object are those of its entries. -/
theorem keys_of? {entries : List (String × JsonValue)} (h : of? entries = some o) :
    o.keys = entries.map Prod.fst := by
  unfold of? at h
  split_ifs at h
  obtain rfl := Option.some.inj h
  rfl

/-- A name with a value is a key. -/
theorem mem_keys_of_get? {name : String} {value : JsonValue} (h : o.get? name = some value) :
    name ∈ o.keys := by
  by_contra hnot
  have hnone : o.entries.lookup name = none := by
    refine List.lookup_eq_none_iff.mpr fun entry hentry => ?_
    have hne : name ≠ entry.1 := by
      rintro rfl
      exact hnot (List.mem_map_of_mem hentry)
    simpa using hne
  rw [get?, hnone] at h
  cases h

/-- A name with a string value is a key. -/
theorem mem_keys_of_str? {name value : String} (h : o.str? name = some value) : name ∈ o.keys := by
  unfold str? at h
  split at h
  next heq => exact mem_keys_of_get? heq
  next => cases h

/-- A name with an integer value is a key. -/
theorem mem_keys_of_int? {name : String} {value : ℤ} (h : o.int? name = some value) :
    name ∈ o.keys := by
  unfold int? at h
  split at h
  next heq => exact mem_keys_of_get? heq
  next => cases h

end JsonObject

/-! ## Without conversions -/

namespace EtRStartMessage

/-- The value of an extra attribute. -/
def extraValue : JsonValue → ExtraValue
  | .str value => .str value
  | _ => .other

/-- The extra attributes that an object gives to a start message. -/
def extraOf (o : JsonObject) : List (String × ExtraValue) :=
  (o.entries.filter fun entry => entry.1 ∉ declared).map fun entry =>
    (entry.1, extraValue entry.2)

/-- The start message of an object. -/
def ofObject (o : JsonObject) : Option EtRStartMessage := do
  let last_error ← o.optionalStr? "last_error"
  let supports_binary ← o.bool? "supports_binary"
  return { last_error, supports_binary, extra := extraOf o }

/-- The entry of an extra attribute that is a string. -/
def extraEntry : String × ExtraValue → Option (String × JsonValue)
  | (name, .str value) => some (name, .str value)
  | (_, .other) => none

/-- The entries of a start message whose extra attributes are strings. -/
def entries (m : EtRStartMessage) : Option (List (String × JsonValue)) :=
  (m.extra.mapM extraEntry).map fun extra =>
    [("kind", .str "start"), ("last_error", m.last_error.elim .null .str),
      ("supports_binary", .bool m.supports_binary)] ++ extra

/-- The extra entries are those of the keys that are not declared. -/
theorem mem_extraOf {o : JsonObject} {name : String} :
    name ∈ (extraOf o).map Prod.fst ↔ name ∈ o.keys ∧ name ∉ declared := by
  constructor
  · intro hmem
    obtain ⟨extra, hextra, rfl⟩ := List.mem_map.mp hmem
    obtain ⟨entry, hentry, rfl⟩ := List.mem_map.mp hextra
    obtain ⟨hentry, hnot⟩ := List.mem_filter.mp hentry
    exact ⟨List.mem_map_of_mem hentry, by simpa using hnot⟩
  · rintro ⟨hmem, hnot⟩
    obtain ⟨entry, hentry, rfl⟩ := List.mem_map.mp hmem
    have hkept : entry ∈ o.entries.filter fun entry => entry.1 ∉ declared :=
      List.mem_filter.mpr ⟨hentry, by simpa using hnot⟩
    exact List.mem_map.mpr ⟨(entry.1, extraValue entry.2), List.mem_map_of_mem hkept, rfl⟩

/-- Dumping the extra entries keeps their names. -/
theorem keys_extraEntries {extra : List (String × ExtraValue)} {es : List (String × JsonValue)}
    (h : extra.mapM extraEntry = some es) : es.map Prod.fst = extra.map Prod.fst := by
  induction extra generalizing es with
  | nil =>
    obtain rfl : [] = es := by simpa using h
    rfl
  | cons first extra ih =>
    obtain ⟨name, value⟩ := first
    simp only [List.mapM_cons, Option.bind_eq_bind, Option.bind_eq_some_iff, Option.pure_def,
      Option.some.injEq] at h
    obtain ⟨entry, hentry, rest, hrest, rfl⟩ := h
    cases value with
    | str value =>
      obtain rfl := Option.some.inj hentry
      exact congrArg (name :: ·) (ih hrest)
    | other => cases hentry

end EtRStartMessage

namespace EdgeAgentToRelayMessage

/-- The object `inner` of a message of an agent. -/
def toObject : EdgeAgentToRelayMessage → Option JsonObject
  | .start m => m.entries.bind JsonObject.of?
  | .initiateConnectionError message connection_id =>
    JsonObject.of? [("kind", .str "initiate_connection_error"), ("message", .str message),
      ("connection_id", .str connection_id)]
  | .initiateConnectionOK connection_id =>
    JsonObject.of? [("kind", .str "initiate_connection_ok"), ("connection_id", .str connection_id)]
  | .tcpData connection_id data_base64 =>
    JsonObject.of? [("kind", .str "tcp_data"), ("connection_id", .str connection_id),
      ("data_base64", .str data_base64)]
  | .connectionReset message connection_id =>
    JsonObject.of? [("kind", .str "connection_reset"), ("message", .str message),
      ("connection_id", .str connection_id)]
  | .keepAlive => JsonObject.of? [("kind", .str "keep_alive")]

/-- The message of an agent with the object `inner`. -/
def ofObject (o : JsonObject) : Option EdgeAgentToRelayMessage := do
  match ← o.str? "kind" with
  | "start" => (EtRStartMessage.ofObject o).map .start
  | "initiate_connection_error" =>
    return .initiateConnectionError (← o.str? "message") (← o.str? "connection_id")
  | "initiate_connection_ok" => return .initiateConnectionOK (← o.str? "connection_id")
  | "tcp_data" => return .tcpData (← o.str? "connection_id") (← o.str? "data_base64")
  | "connection_reset" =>
    return .connectionReset (← o.str? "message") (← o.str? "connection_id")
  | "keep_alive" => return .keepAlive
  | _ => none

/-- The dump of an agent's message has the declared keys. -/
theorem keys_toObject {m : EdgeAgentToRelayMessage} {o : JsonObject} (h : m.toObject = some o) :
    o.keys = m.fields := by
  cases m with
  | start m =>
    obtain ⟨entries, hentries, ho⟩ := Option.bind_eq_some_iff.mp h
    obtain ⟨extra, hextra, rfl⟩ := Option.map_eq_some_iff.mp hentries
    rw [JsonObject.keys_of? ho, List.map_append, EtRStartMessage.keys_extraEntries hextra]
    rfl
  | _ => exact JsonObject.keys_of? h

/-- A start message keeps the undeclared keys. -/
theorem extra_ofObject {o : JsonObject} {m : EtRStartMessage} (h : ofObject o = some (.start m)) :
    m.extra = EtRStartMessage.extraOf o := by
  obtain ⟨kind, -, h⟩ := Option.bind_eq_some_iff.mp h
  split at h
  case h_1 =>
    obtain ⟨m', hm', heq⟩ := Option.map_eq_some_iff.mp h
    obtain rfl := start.inj heq
    simp only [EtRStartMessage.ofObject, Option.bind_eq_bind, Option.bind_eq_some_iff,
      Option.pure_def, Option.some.injEq] at hm'
    obtain ⟨last_error, -, supports_binary, -, rfl⟩ := hm'
    rfl
  all_goals simp [Option.bind_eq_some_iff] at h

end EdgeAgentToRelayMessage

namespace AccessClientToRelayMessage

/-- The object `inner` of a message of an access client. -/
def toObject : AccessClientToRelayMessage → Option JsonObject
  | .start m =>
    JsonObject.of? [("kind", .str "start"), ("connection_target", .str m.connection_target),
      ("target_ip", .str m.target_ip), ("target_port", .int m.target_port),
      ("protocol", .str m.protocol), ("secret", .str m.secret),
      ("supports_binary", m.supports_binary.elim .null .bool)]
  | .tcpData data_base64 =>
    JsonObject.of? [("kind", .str "tcp_data"), ("data_base64", .str data_base64)]

/-- The message of an access client with the object `inner`. -/
def ofObject (o : JsonObject) : Option AccessClientToRelayMessage := do
  match ← o.str? "kind" with
  | "start" =>
    return .start {
      connection_target := ← o.str? "connection_target"
      target_ip := ← o.str? "target_ip"
      target_port := ← o.int? "target_port"
      protocol := ← o.str? "protocol"
      secret := ← o.str? "secret"
      supports_binary := ← o.optionalBool? "supports_binary" }
  | "tcp_data" => return .tcpData (← o.str? "data_base64")
  | _ => none

/-- The dump of an access client's message has the declared keys. -/
theorem keys_toObject {m : AccessClientToRelayMessage} {o : JsonObject} (h : m.toObject = some o) :
    o.keys = m.fields := by
  cases m with
  | start m => exact JsonObject.keys_of? h
  | tcpData data_base64 => exact JsonObject.keys_of? h

/-- A start message that validates has the required keys. -/
theorem required_ofObject {o : JsonObject} {m : AtRStartMessage}
    (h : ofObject o = some (.start m)) :
    ∀ name ∈ AtRStartMessage.required, name ∈ o.keys := by
  obtain ⟨kind, -, h⟩ := Option.bind_eq_some_iff.mp h
  split at h
  case h_1 =>
    simp only [Option.bind_eq_bind, Option.bind_eq_some_iff] at h
    obtain ⟨_, htarget, _, hip, _, hport, _, hprotocol, _, hsecret, -⟩ := h
    simp only [AtRStartMessage.required, List.forall_mem_cons]
    exact ⟨JsonObject.mem_keys_of_str? htarget, JsonObject.mem_keys_of_str? hip,
      JsonObject.mem_keys_of_int? hport, JsonObject.mem_keys_of_str? hprotocol,
      JsonObject.mem_keys_of_str? hsecret, fun _ hname => absurd hname List.not_mem_nil⟩
  all_goals simp [Option.bind_eq_some_iff] at h

end AccessClientToRelayMessage

/-- A text is its JSON object. -/
def plainTexts : Texts where
  Text := JsonObject
  keys := JsonObject.keys
  dump_edge_agent := EdgeAgentToRelayMessage.toObject
  dump_access_client := AccessClientToRelayMessage.toObject
  validate_edge_agent := EdgeAgentToRelayMessage.ofObject
  validate_access_client := AccessClientToRelayMessage.ofObject

/-- The plain texts behave as pydantic's do. -/
theorem plainTexts_documented : plainTexts.Documented where
  keys_edge_agent _ _ h := EdgeAgentToRelayMessage.keys_toObject h
  keys_access_client _ _ h := AccessClientToRelayMessage.keys_toObject h
  required _ _ h := AccessClientToRelayMessage.required_ofObject h
  extra o m h name := by
    have hextra : m.extra = EtRStartMessage.extraOf o := EdgeAgentToRelayMessage.extra_ofObject h
    rw [hextra]
    exact EtRStartMessage.mem_extraOf

end HttpNetworkRelay
