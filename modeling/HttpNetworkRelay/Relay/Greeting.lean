import HttpNetworkRelay.Relay.Stream

/-!
# The answer to an access client

The first message to an access client is the answer to its start message: that the connection is
open, or an error. Data comes after it, since the reader whose data it is belongs to a session that
has been told so (`reader_session`).
-/

namespace HttpNetworkRelay

open Asyncio Python RelayState NetworkRelay

variable {cfg : RelayConfig} {s s' : RelayState} {e : RelayEvent}
  {ok : RelayState → RelayEvent → Prop} {A : ClientSocket} {c : ConnectionId}

/-- The message is an answer to a start message. -/
def ToClient.isAnswer : ToClient → Bool
  | .text (.startOK _) | .text (.error _) => true
  | _ => false

/-- The first message is an answer, and the others are answers or data. -/
structure Greeted (messages : List ToClient) : Prop where
  head : ∀ m ∈ messages.head?, m.isAnswer = true
  all : ∀ m ∈ messages, m.isAnswer = true ∨ m.payload?.isSome = true

/-- An answer carries no data. -/
theorem ToClient.payload?_of_isAnswer {m : ToClient} (h : m.isAnswer = true) :
    m.payload? = none := by
  match m with
  | .text (.startOK _) | .text (.error _) => rfl
  | .bytes _ | .text (.tcpData _) => cases h

namespace Greeted

variable {messages : List ToClient}

/-- Nothing has been said yet. -/
theorem nil : Greeted [] := ⟨fun _ h => (nomatch h), fun _ h => (nomatch h)⟩

/-- An answer may follow at any time. -/
theorem answer (h : Greeted messages) {m : ToClient} (hm : m.isAnswer = true) :
    Greeted (messages ++ [m]) := by
  refine ⟨fun m' hm' => ?_, fun m' hm' => ?_⟩
  · cases messages with
    | nil =>
      obtain rfl := Option.some.inj hm'
      exact hm
    | cons m₁ rest => exact h.head m' hm'
  · rcases List.mem_append.mp hm' with hold | hnew
    · exact h.all m' hold
    · rw [List.mem_singleton.mp hnew]
      exact .inl hm

/-- Data may follow an answer. -/
theorem data (h : Greeted messages) (hbegun : messages ≠ []) {m : ToClient}
    (hm : m.payload?.isSome = true) : Greeted (messages ++ [m]) := by
  refine ⟨fun m' hm' => ?_, fun m' hm' => ?_⟩
  · rw [List.head?_append_of_ne_nil _ hbegun] at hm'
    exact h.head m' hm'
  · rcases List.mem_append.mp hm' with hold | hnew
    · exact h.all m' hold
    · rw [List.mem_singleton.mp hnew]
      exact .inr hm

end Greeted

/-- The session of a reader has its connection. -/
theorem reader_session (h : Reaches (step cfg) ok {} s) :
    ∀ c reader, s.reader c = some reader →
      ∃ pc, s.client reader.access_client_connection = some pc ∧ pc.connection_id? = some c := by
  refine h.invariant (I := fun s => ∀ c reader, s.reader c = some reader →
    ∃ pc, s.client reader.access_client_connection = some pc ∧ pc.connection_id? = some c)
    (by simp) ?_
  intro s e s' hr _ hstep hI c reader' hreader'
  have hrule := step_rule hstep
  rcases Ownership.reader_before hrule hreader' with ⟨reader, hreader, hA⟩ | hpc
  · obtain ⟨pc, hpc, hid⟩ := hI c reader hreader
    rw [hA]
    by_cases hrun : ∃ o, e = .run (.client reader.access_client_connection) o
    · obtain ⟨o, rfl⟩ := hrun
      obtain ⟨pc₁, hpc₁, hmoved⟩ := moved_of_run hrule
      obtain rfl := Option.some.inj (hpc.symm.trans hpc₁)
      cases hmoved with
      | ended pc' hpc' hid' =>
        rcases hid' with hsame | ⟨⟨binary, call, rfl⟩, -⟩
        · exact ⟨pc', hpc', hsame.trans hid⟩
        · -- A session that is still being opened has no reader.
          obtain ⟨-, hnone⟩ := (ownership hr).opening _ _ c hpc hid
          rw [hreader] at hnone
          cases hnone
      | created _ _ _ hnone =>
        rw [hid] at hnone
        cases hnone
      | stays pc' hpc' hsame => exact ⟨pc', hpc', hsame.trans hid⟩
      | entered hstart hpc' =>
        subst hstart
        exact ⟨_, hpc', hid⟩
      | left pc' hcon hpc' hleaving =>
        have hsame : some _ = some c := (Client.connection_id?_of_connected hcon).symm.trans hid
        exact ⟨pc', hpc', (Client.connection_id?_of_leaving hleaving).trans hsame⟩
    · have hconn : e ≠ .clientConnects reader.access_client_connection := by
        rintro rfl
        cases hrule with
        | clientConnects hnone =>
          rw [hpc] at hnone
          cases hnone
      refine ⟨pc, ?_, hid⟩
      rw [client_frame hrule (fun o he => hrun ⟨o, he⟩) hconn, hpc]
  · exact ⟨.receiving c, hpc, rfl⟩

/-- The first message to an access client is an answer. -/
theorem greeted (h : Reaches (step cfg) ok {} s) (A : ClientSocket) :
    Greeted (s.relay.to_client A) := by
  refine h.invariant (I := fun s => Greeted (s.relay.to_client A)) .nil ?_
  intro s e s' hr _ hstep hI
  have hrule := step_rule hstep
  by_cases hrun : ∃ o, e = .run (.client A) o
  · obtain ⟨o, rfl⟩ := hrun
    cases hrule with
    | client _ hrule =>
      cases hrule.tells with
      | waits _ _ _ _ hsame | goesOn _ _ _ _ hsame =>
        rw [hsame]
        exact hI
      | starts _ _ _ hsaid | fails _ _ _ _ _ hsaid =>
        rw [hsaid]
        exact hI.answer rfl
  · by_cases hreads : ∃ c₁ o reader, e = .run (.reader c₁) o ∧ s.reader c₁ = some reader ∧
        reader.access_client_connection = A
    · obtain ⟨c₁, o, reader, rfl, hreader, rfl⟩ := hreads
      cases hrule with
      | reader hreader' hc hrule =>
        obtain rfl := Option.some.inj (hreader'.symm.trans hreader)
        obtain ⟨connection', -, ⟨-, hsaid⟩ | ⟨-, hsame⟩⟩ := hrule.tells hc
        · obtain ⟨pc, hpc, hid⟩ := reader_session hr c₁ _ hreader
          obtain ⟨pc₁, hpc₁, hlate, -⟩ := reader_stage hr hreader
          obtain rfl := Option.some.inj (hpc.symm.trans hpc₁)
          obtain ⟨binary, chunks, hmessages, -⟩ := (conversation hr).begun _ pc c₁ hpc hid hlate
          rw [hsaid]
          simp only [sendToClient, Function.update_self]
          exact hI.data (by rw [hmessages]; simp) (by simp)
        · rw [hsame]
          exact hI
    · rw [to_client_frame hrule (fun o he => hrun ⟨o, he⟩)
        fun c₁ o reader he hreader hA => hreads ⟨c₁, o, reader, he, hreader, hA⟩]
      exact hI

/-- Without a connection there is no data for an access client. -/
theorem no_payload (h : Reaches (step cfg) ok {} s) (A : ClientSocket) :
    (∀ c connection, s.relay.connection c = some connection → connection.creator ≠ .client A) →
      payload (s.relay.to_client A) = [] := by
  refine h.invariant (I := fun s => (∀ c connection, s.relay.connection c = some connection →
    connection.creator ≠ .client A) → payload (s.relay.to_client A) = []) (fun _ => rfl) ?_
  intro s e s' hr _ hstep hI hunmade'
  have hrule := step_rule hstep
  have hunmade : ∀ c connection, s.relay.connection c = some connection →
      connection.creator ≠ .client A := by
    intro c connection hc
    obtain ⟨connection', hc', hid⟩ := (step_evolves hstep).connection c connection hc
    simp only [TcpConnection.identity, Prod.mk.injEq] at hid
    rw [← hid.2.2.2]
    exact hunmade' c connection' hc'
  by_cases hrun : ∃ o, e = .run (.client A) o
  · obtain ⟨o, rfl⟩ := hrun
    cases hrule with
    | client _ hrule =>
      cases hrule.tells with
      | waits _ _ _ _ hsame | goesOn _ _ _ _ hsame =>
        rw [hsame]
        exact hI hunmade
      | starts _ _ _ hsaid | fails _ _ _ _ _ hsaid =>
        rw [hsaid, payload_append, hI hunmade]
        rfl
  · have hsame := to_client_frame hrule (A := A) (fun o he => hrun ⟨o, he⟩) ?_
    exact (congrArg payload hsame).trans (hI hunmade)
    intro c o reader he hreader hA
    obtain ⟨connection, hc, hcreator, -⟩ := (ownership hr).reader c reader hreader
    exact hunmade c connection hc (by rw [hcreator, hA])

end HttpNetworkRelay
