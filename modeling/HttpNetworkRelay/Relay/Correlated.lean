import HttpNetworkRelay.Asyncio.Trace
import HttpNetworkRelay.Relay.Answers
import HttpNetworkRelay.Relay.SessionEnd

/-!
# Answers and the requests they are for

An answer queue has one place. It is filled by the message loops, which may do so before the caller
waits, and it is emptied by the caller, which then takes the queue out of the table. `Correlated`
says of a state and of the answers seen so far that each call ends with the first answer for its own
id, that nobody else takes an answer, and that a loop that finds the place taken is waiting for a
call that will take it. The first two hold in every run. The last fails where a queue outlives its
call: where the send of a request raises, and where two loops wait for one place. `AnswersFit` is
the condition, and `answers_correlated` shows that it is exact.
-/

namespace HttpNetworkRelay

open Asyncio Python RelayState NetworkRelay

/-! ## The property -/

/-- The answer that a message loop takes from its websocket in this event. -/
def RelayState.arriving (s : RelayState) :
    RelayEvent → Option (ConnectionId × EdgeAgentToRelayMessage)
  | .run (.msgLoop W) .next =>
    match s.msgLoop W, s.relay.inbox W with
    | some ⟨_, .receiving⟩, frame :: _ => frame.answer?
    | _, _ => none
  | _ => none

/-- The answer that arrives, where its id is one that a create call has drawn. -/
def RelayState.answerSeen (s : RelayState) (e : RelayEvent) :
    List (ConnectionId × EdgeAgentToRelayMessage) :=
  ((s.arriving e).filter fun answer => (s.relay.connection answer.1).isSome).toList

/-- How an answer ends the create call that takes it. -/
def Decides (c : ConnectionId) (m : EdgeAgentToRelayMessage)
    (res : Res CreateConnection ConnectionId Exc) : Prop :=
  match m with
  | .initiateConnectionOK _ => res = .returned c
  | .initiateConnectionError text _ =>
    res = .raised (.valueError ("Error initiating connection: " ++ text))
  | _ => ∃ text, res = .raised (.valueError text)

/-- A create call for `c` has not ended. -/
def RelayState.Awaits (s : RelayState) (c : ConnectionId) : Prop :=
  ∃ t pc, s.pending? t = some pc ∧ pc.connection_id = c

/-- The message loop of `W` is suspended in `response_queue.put` for `c`. -/
def RelayState.Puts (s : RelayState) (W : AgentSocket) (c : ConnectionId) : Prop :=
  ∃ n m, s.msgLoop W = some ⟨n, .putting c m⟩

/-- A message loop that finds a queue full waits for a call that will empty it. -/
def RelayState.Unblocked (s : RelayState) : Prop :=
  ∀ W c, s.Puts W c → s.relay.answers c ≠ [] → s.Awaits c

/-- The answers `seen` have decided the calls that they are for, and no others. -/
structure Correlated (cfg : RelayConfig) (s : RelayState)
    (seen : List (ConnectionId × EdgeAgentToRelayMessage)) : Prop where
  /-- A call that goes on waits; one whose request was sent ends with the first answer for its id,
  which it takes out of its queue. -/
  decided : ∀ t pc o r' res, s.pending? t = some pc → pc.resume cfg s.relay t o = some (r', res) →
    (∃ pc', res = .parked pc') ∨ (∃ e, o = .raised e ∧ res = .raised (.ws e)) ∨
      ∃ m, seen.lookup pc.connection_id = some m ∧ Decides pc.connection_id m res ∧
        s.relay.answers pc.connection_id = [m] ∧ r'.answers pc.connection_id = []
  /-- An answer is taken only by its own call, which ends. -/
  taken : ∀ e s' c, step cfg s e = some s' → s.relay.answers c <+: s'.relay.answers c ∨
    ∃ t o pc, e = .run t o ∧ s.pending? t = some pc ∧ pc.connection_id = c ∧ s'.pending? t = none
  unblocked : s.Unblocked

/-- A message loop waits for a place only while the call that will empty the queue has not ended:
when it finds the place taken, when the call's request cannot be sent, and when another loop takes
the place. -/
def AnswersFit (s : RelayState) : RelayEvent → Prop
  | .run (.msgLoop W) .next => ∀ c m, s.arriving (.run (.msgLoop W) .next) = some (c, m) →
      c ∈ s.relay.initiate_connection_answer_queues → s.relay.answers c ≠ [] → s.Awaits c
  | .run (.msgLoop W) .ok => ∀ c, s.Puts W c → (∃ W', W' ≠ W ∧ s.Puts W' c) → s.Awaits c
  | .run t (.raised _) => ∀ pc, s.pending? t = some pc → (∃ W, s.Puts W pc.connection_id) →
      s.relay.answers pc.connection_id = []
  | _ => True

variable {cfg : RelayConfig} {s s' : RelayState} {e : RelayEvent}
  {seen : List (ConnectionId × EdgeAgentToRelayMessage)}

/-! ## The answers seen -/

/-- Answers arrive at message loops only. -/
theorem arriving_eq_none (h : ∀ W, e ≠ .run (.msgLoop W) .next) : s.arriving e = none := by
  unfold arriving
  split
  · rename_i W
    exact absurd rfl (h W)
  · rfl

/-- The answer that arrives is that of the first frame in the inbox. -/
theorem arriving_of_receiving {W : AgentSocket} {n : AgentId} {frame : AgentFrame}
    {rest : List AgentFrame} (hpc : s.msgLoop W = some ⟨n, .receiving⟩)
    (hin : s.relay.inbox W = frame :: rest) :
    s.arriving (.run (.msgLoop W) .next) = frame.answer? := by
  simp [arriving, hpc, hin]

/-- An answer for another id, or one that is not the first, changes nothing. -/
theorem seen_same {c : ConnectionId}
    (h : (∀ m, s.arriving e ≠ some (c, m)) ∨ s.relay.connection c = none ∨
      seen.lookup c ≠ none) :
    (seen ++ s.answerSeen e).lookup c = seen.lookup c := by
  rw [List.lookup_append]
  cases hseen : seen.lookup c with
  | some m => rfl
  | none =>
    unfold answerSeen
    cases harr : s.arriving e with
    | none => rfl
    | some answer =>
      obtain ⟨c₁, m₁⟩ := answer
      by_cases hcc : c = c₁
      · subst hcc
        rcases h with h | h | h
        · exact absurd harr (h m₁)
        · simp [h]
        · exact absurd hseen h
      · cases hconn : s.relay.connection c₁ <;> simp [hconn, hcc]

/-- The first answer for an id that has been drawn. -/
theorem seen_first {c : ConnectionId} {m : EdgeAgentToRelayMessage}
    (harr : s.arriving e = some (c, m)) (hconn : (s.relay.connection c).isSome = true)
    (hseen : seen.lookup c = none) : (seen ++ s.answerSeen e).lookup c = some m := by
  have hshown : s.answerSeen e = [(c, m)] := by simp [answerSeen, harr, Option.filter, hconn]
  rw [List.lookup_append, hseen, hshown]
  simp

/-! ## What a step does to the queues -/

/-- What an event does to the contents of the answer queues. -/
inductive AnswersMoved (s : RelayState) (e : RelayEvent) (s' : RelayState) : Prop
  /-- Nothing; an answer that arrives is for no queue, or for one that is full. -/
  | same (hanswers : s'.relay.answers = s.relay.answers)
      (harr : ∀ c m, s.arriving e = some (c, m) →
        c ∉ s.relay.initiate_connection_answer_queues ∨ s.relay.answers c ≠ [])
  | published {c} (hnone : s.relay.connection c = none) (harr : s.arriving e = none)
      (hanswers : s'.relay.answers = Function.update s.relay.answers c [])
  | received {c m} (harr : s.arriving e = some (c, m))
      (hq : c ∈ s.relay.initiate_connection_answer_queues) (hempty : s.relay.answers c = [])
      (hanswers : s'.relay.answers = Function.update s.relay.answers c [m])
  | put {W n c m} (he : e = .run (.msgLoop W) .ok) (hpc : s.msgLoop W = some ⟨n, .putting c m⟩)
      (hpc' : s'.msgLoop W = some ⟨n, .receiving⟩) (hempty : s.relay.answers c = [])
      (hanswers : s'.relay.answers = Function.update s.relay.answers c [m])
  | taken {t pc m rest} (he : e = .run t .ok) (hpc : s.pending? t = some pc)
      (hpc' : s'.pending? t = none) (hm : s.relay.answers pc.connection_id = m :: rest)
      (hanswers : s'.relay.answers = Function.update s.relay.answers pc.connection_id rest)

/-- The queues stay where no message loop receives a frame. -/
theorem AnswersMoved.of_eq (he : ∀ W, e ≠ .run (.msgLoop W) .next)
    (hanswers : s'.relay.answers = s.relay.answers) : AnswersMoved s e s' := by
  refine .same hanswers fun c m harr => ?_
  rw [arriving_eq_none he] at harr
  cases harr

/-- Data is no answer. -/
theorem AgentFrame.answer?_of_data? {frame : AgentFrame} {c : ConnectionId} {data : Bytes}
    (h : frame.data? = some (c, data)) : frame.answer? = none := by
  unfold AgentFrame.data? at h
  split at h <;> first | rfl | cases h

/-- A reset is no answer. -/
theorem AgentFrame.answer?_of_reset? {frame : AgentFrame} {c : ConnectionId}
    (h : frame.reset? = some c) : frame.answer? = none := by
  unfold AgentFrame.reset? at h
  split at h
  · rfl
  · cases h

/-- A malformed frame is no answer. -/
theorem AgentFrame.answer?_of_malformed {frame : AgentFrame} (h : frame.malformed cfg = true) :
    frame.answer? = none := by
  cases frame with
  | bytes binary => rfl
  | text content =>
    obtain ⟨known, custom⟩ := content
    cases known with
    | none => rfl
    | some m => cases h

/-- What the handling of a frame does to the queues. -/
theorem answers_of_frame {W : AgentSocket} {n : AgentId} {frame : AgentFrame}
    {rest : List AgentFrame} (hpc : s.msgLoop W = some ⟨n, .receiving⟩)
    (hin : s.relay.inbox W = frame :: rest)
    (h : FrameRule cfg (s.withRelay (s.relay.setInbox W rest)) W n frame s') :
    AnswersMoved s (.run (.msgLoop W) .next) s' := by
  have harr := arriving_of_receiving hpc hin
  have hother : frame.answer? = none → s'.relay.answers = s.relay.answers →
      AnswersMoved s (.run (.msgLoop W) .next) s' := by
    refine fun hnone hanswers => .same hanswers fun c m h => ?_
    rw [harr, hnone] at h
    cases h
  cases h with
  | stops hbad => exact hother (AgentFrame.answer?_of_malformed hbad) rfl
  | ignores _ _ _ hans =>
    exact .same rfl fun c m h => .inl (hans c m (harr.symm.trans h))
  | fills h => exact hother (AgentFrame.answer?_of_data? h) rfl
  | schedules h => exact hother (AgentFrame.answer?_of_reset? h) rfl
  | resets h _ _ _ same => exact hother (AgentFrame.answer?_of_reset? h) same.answers
  | answers hans hq hempty => exact .received (harr.trans hans) hq hempty rfl
  | blocks hans hq hfull =>
    refine .same rfl fun c m h => .inr ?_
    rw [harr, hans] at h
    obtain ⟨rfl, -⟩ := Prod.mk.inj (Option.some.inj h)
    exact hfull
  | custom _ _ _ hans => exact hother hans rfl

/-- A create call that takes its answer has ended. -/
theorem answered_ends {r : NetworkRelay} {c : ConnectionId} {m : EdgeAgentToRelayMessage}
    {rest : List EdgeAgentToRelayMessage} : ∀ pc,
      (CreateConnection.answered cfg r c m rest).2 ≠ .parked pc := by
  intro pc
  cases m <;> simp [CreateConnection.answered]

/-- What a step of a creation does to the queues. -/
theorem answers_of_create {t : Task} {o : Outcome} {pc : CreateConnection} {r' : NetworkRelay}
    {res : Res CreateConnection ConnectionId Exc} (ht : ∀ W, t ≠ .msgLoop W)
    (hpc : s.pending? t = some pc) (h : CreateStep cfg s.relay pc o r' res)
    (hanswers : s'.relay.answers = r'.answers)
    (hends : (∀ pc', res ≠ .parked pc') → s'.pending? t = none) :
    AnswersMoved s (.run t o) s' := by
  have hloop : ∀ W, RelayEvent.run t o ≠ .run (.msgLoop W) .next := by
    intro W he
    exact ht W (RelayEvent.run.inj he).1
  cases h with
  | requests _ same | waits _ same | requestFails _ same =>
    exact .of_eq hloop (hanswers.trans same.answers)
  | answers _ same _ hm =>
    refine .taken rfl hpc (hends answered_ends) hm (hanswers.trans ?_)
    simp [CreateConnection.answered, same.answers]

/-- What any step does to the queues. -/
theorem answers_of_rule (h : RelayRule cfg s e s') : AnswersMoved s e s' := by
  have hpublished : ∀ {c : ConnectionId} {connection : TcpConnection}
      {r' : NetworkRelay}, (∀ W, e ≠ .run (.msgLoop W) .next) → s.freshId c = true →
      (s.relay.publish c connection).SameButSends r' → s'.relay = r' → AnswersMoved s e s' := by
    intro c connection r' he hfresh same hs'
    refine .published (Option.isNone_iff_eq_none.mp (Bool.and_eq_true_iff.mp hfresh).1)
      (arriving_eq_none he) ?_
    rw [hs', same.answers]
    rfl
  cases h with
  | create _ hfresh _ same => exact hpublished (by simp) hfresh same rfl
  | handshake _ h => exact .of_eq (by simp) h.untouched.answers
  | keepAlive _ h => exact .of_eq (by simp) h.same.answers
  | @msgLoop W n pc o _ hpc h =>
    have hother : ∀ {o}, o ≠ .next →
        ∀ W', RelayEvent.run (.msgLoop W) o ≠ .run (.msgLoop W') .next := by
      intro o ho W' he
      exact ho (RelayEvent.run.inj he).2
    cases h with
    | disconnects ho h =>
      refine .of_eq (hother ?_) h.untouched.answers
      rcases ho with rfl | rfl <;> simp
    | receiveFails => exact .of_eq (hother (by simp)) rfl
    | receives hin h => exact answers_of_frame hpc hin h
    | resetting _ h =>
      refine .same h.untouched.answers fun c m harr => ?_
      cases o <;> simp [arriving, hpc] at harr
    | puts hempty => exact .put rfl hpc (by simp) hempty rfl
    | customHandled =>
      refine .same rfl fun c m harr => ?_
      cases o <;> simp [arriving, hpc] at harr
    | tearingDown h =>
      refine .same h.untouched.answers fun c m harr => ?_
      cases o <;> simp [arriving, hpc] at harr
  | @client A pc o _ hpc h =>
    cases h with
    | opens hfresh _ _ same => exact hpublished (by simp) hfresh same rfl
    | @creating _ _ _ r' res h =>
      refine answers_of_create (by simp) (by simp [pending?, hpc]) h ?_ ?_
      · cases res with
        | parked _ | returned _ => rfl
        | raised e => cases e <;> rfl
      · intro hends
        cases res with
        | parked pc' => exact absurd rfl (hends pc')
        | returned _ => simp [pending?, created]
        | raised e => cases e <;> simp [pending?, created]
    | disconnects _ _ same => exact .of_eq (by simp) same.answers
    | ignores => exact .of_eq (by simp) (continueLoop_same s _ _ _).answers
    | forwards _ _ h | forwarding _ h =>
      exact .of_eq (by simp) (forwarded_same h.same _ _ _ _ _).answers
    | @closing _ _ _ _ r' res _ h =>
      refine .of_eq (by simp) (Eq.trans ?_ h.untouched.answers)
      cases res <;> rfl
    | advances | refuses | unregistered | starts | startFails | receiveFails | malformed
    | clientClosed | closeFails | joined | cancels => exact .of_eq (by simp) rfl
  | reader _ _ h => cases h <;> exact .of_eq (by simp) rfl
  | @call k pc o r' res hpc h =>
    refine answers_of_create (by simp) (by simp [pending?, hpc]) h rfl fun hends => ?_
    cases res with
    | parked pc' => exact absurd rfl (hends pc')
    | returned _ | raised _ => simp [pending?, callReturned]
  | closes _ same => exact .of_eq (by simp) same.answers
  | closing _ h => exact .of_eq (by simp) h.untouched.answers
  | sends _ _ h => exact .of_eq (by simp) h.same.answers
  | sending _ _ h => exact .of_eq (by simp) h.same.answers
  | agentConnects | agentSends | agentDies | clientConnects | createFails | close | send =>
    exact .of_eq (by simp) rfl

/-- Where a loop that is suspended in a put has come from. -/
theorem puts_of_rule (h : RelayRule cfg s e s') {W : AgentSocket} {c : ConnectionId}
    (hputs : s'.Puts W c) :
    (s.Puts W c ∧ ∀ o, e ≠ .run (.msgLoop W) o) ∨
      ∃ m, e = .run (.msgLoop W) .next ∧ s.arriving e = some (c, m) ∧
        c ∈ s.relay.initiate_connection_answer_queues ∧ s.relay.answers c ≠ [] := by
  obtain ⟨n, m, hpc'⟩ := hputs
  by_cases hloop : ∃ o, e = .run (.msgLoop W) o
  · obtain ⟨o, rfl⟩ := hloop
    cases h with
    | @msgLoop _ _ _ _ _ hpc h =>
      cases h with
      | @disconnects o r' res => cases res <;> simp [tornDown] at hpc'
      | receiveFails | puts | customHandled => simp at hpc'
      | receives hin h =>
        have harr := arriving_of_receiving hpc hin
        cases h with
        | blocks hans hq hfull =>
          simp only [setMsgLoop, Function.update_self, Option.some.injEq, MsgLoopTask.mk.injEq,
            MsgLoop.putting.injEq] at hpc'
          obtain ⟨-, rfl, rfl⟩ := hpc'
          exact .inr ⟨_, rfl, harr.trans hans, hq, hfull⟩
        | stops | ignores | fills | schedules | resets | answers | custom => simp at hpc'
      | @resetting _ _ _ _ r' res => cases res <;> simp [resetHandled] at hpc'
      | @tearingDown _ _ r' res => cases res <;> simp [tornDown] at hpc'
  · have hloop : ∀ o, e ≠ .run (.msgLoop W) o := fun o he => hloop ⟨o, he⟩
    rcases msgLoop_created h hloop hpc' with hpc | hpc
    · exact .inl ⟨⟨n, m, hpc⟩, hloop⟩
    · cases hpc

/-- A loop that is not resumed stays in its put. -/
theorem puts_goes_on (hI : RegistryInv s) (h : RelayRule cfg s e s') {W : AgentSocket}
    {c : ConnectionId} (hputs : s.Puts W c) (hloop : ∀ o, e ≠ .run (.msgLoop W) o) :
    s'.Puts W c := by
  obtain ⟨n, m, hpc⟩ := hputs
  refine ⟨n, m, ?_⟩
  rw [msgLoop_frame h ?_ hloop]
  · exact hpc
  · rintro o rfl
    exact not_finished_of_run h _ (hI.msgLoop W _ hpc)

/-- A create call that is not resumed goes on. -/
theorem awaits_goes_on (h : RelayRule cfg s e s') {t : Task} {pc : CreateConnection}
    (hpc : s.pending? t = some pc) (hrun : ∀ o, e ≠ .run t o) : s'.pending? t = some pc := by
  cases t with
  | client A =>
    rw [pending?] at hpc ⊢
    rw [client_frame h hrun ?_]
    · exact hpc
    · rintro rfl
      cases h with
      | clientConnects hnew => simp [hnew] at hpc
  | call k =>
    rw [pending?] at hpc ⊢
    rw [call_frame h hrun ?_]
    · exact hpc
    · rintro request c rfl
      cases h with
      | createFails hnew | create hnew => simp [hnew] at hpc
  | _ => cases hpc

/-- Only one task calls for an id. -/
theorem awaits_unique (hO : Outgoing s) {t t' : Task} {pc pc' : CreateConnection}
    (hpc : s.pending? t = some pc) (hpc' : s.pending? t' = some pc')
    (hid : pc.connection_id = pc'.connection_id) : t = t' := by
  obtain ⟨connection, hc, -, rfl⟩ := hO.pending t pc hpc
  obtain ⟨connection', hc', -, rfl⟩ := hO.pending t' pc' hpc'
  rw [hid, hc'] at hc
  rw [Option.some.inj hc]

/-! ## The invariant -/

/-- The queue of a call that has not ended holds the first answer for its id, if there has been one;
and a queue for which a loop waits is full as long as it is in the table. -/
structure AnswerQueues (s : RelayState) (seen : List (ConnectionId × EdgeAgentToRelayMessage)) :
    Prop where
  unknown : ∀ c, s.relay.connection c = none → s.relay.answers c = [] ∧ seen.lookup c = none
  pending : ∀ t pc, s.pending? t = some pc →
    s.relay.answers pc.connection_id = (seen.lookup pc.connection_id).toList
  putting : ∀ W c, s.Puts W c → (s.relay.connection c).isSome = true
  full : ∀ W c, s.Puts W c → c ∈ s.relay.initiate_connection_answer_queues →
    s.relay.answers c ≠ []

namespace AnswerQueues

/-- At the start there are no queues. -/
theorem initial : AnswerQueues {} [] where
  unknown c _ := ⟨rfl, rfl⟩
  pending t pc hpc := by cases t <;> cases hpc
  putting W c hputs := by
    obtain ⟨n, m, hpc⟩ := hputs
    cases hpc
  full W c hputs := by
    obtain ⟨n, m, hpc⟩ := hputs
    cases hpc

/-- An id that has not been drawn before the step has no answers after it. -/
theorem unknown_step (hA : AnswerQueues s seen) (hS : Ownership s) (hO : Outgoing s)
    (h : RelayRule cfg s e s') {c : ConnectionId} (hc : s.relay.connection c = none) :
    s'.relay.answers c = [] ∧ (seen ++ s.answerSeen e).lookup c = none := by
  obtain ⟨hempty, hseen⟩ := hA.unknown c hc
  refine ⟨?_, (seen_same (.inr (.inl hc))).trans hseen⟩
  have hother : ∀ {c₁}, (s.relay.connection c₁).isSome = true → c ≠ c₁ := by
    rintro c₁ hsome rfl
    rw [hc] at hsome
    cases hsome
  cases answers_of_rule h with
  | same hanswers => rw [hanswers, hempty]
  | @published c₁ _ _ hanswers =>
    rw [hanswers]
    by_cases hcc : c = c₁
    · subst hcc
      simp
    · rw [Function.update_of_ne hcc, hempty]
  | received _ hq _ hanswers =>
    rw [hanswers, Function.update_of_ne (hother (hS.queues _ hq)), hempty]
  | put _ hpc _ _ hanswers =>
    rw [hanswers, Function.update_of_ne (hother (hA.putting _ _ ⟨_, _, hpc⟩)), hempty]
  | @taken t pc _ _ _ hpc _ _ hanswers =>
    obtain ⟨connection, hconn, -⟩ := hO.pending t pc hpc
    rw [hanswers, Function.update_of_ne (hother (by rw [hconn]; rfl)), hempty]

/-- The queue of a call that goes on. -/
theorem pending_step (hA : AnswerQueues s seen) (hO : Outgoing s) (h : RelayRule cfg s e s')
    {t : Task} {pc pc' : CreateConnection} (hpc : s.pending? t = some pc)
    (hq : pc.connection_id ∈ s.relay.initiate_connection_answer_queues)
    (hpc' : s'.pending? t = some pc') :
    s'.relay.answers pc.connection_id =
      ((seen ++ s.answerSeen e).lookup pc.connection_id).toList := by
  obtain ⟨connection, hconn, -⟩ := hO.pending t pc hpc
  have hA' := hA.pending t pc hpc
  have hsame : (∀ m, s.arriving e ≠ some (pc.connection_id, m)) →
      s'.relay.answers pc.connection_id = s.relay.answers pc.connection_id →
      s'.relay.answers pc.connection_id =
        ((seen ++ s.answerSeen e).lookup pc.connection_id).toList := by
    intro harr hanswers
    rw [hanswers, hA', seen_same (.inl harr)]
  cases answers_of_rule h with
  | same hanswers harr =>
    by_cases hthis : ∃ m, s.arriving e = some (pc.connection_id, m)
    · obtain ⟨m, hm⟩ := hthis
      -- It is not the first one: the place is taken.
      have hseen : seen.lookup pc.connection_id ≠ none := by
        intro hnone
        rw [hnone] at hA'
        exact (harr _ m hm).elim (absurd hq) (absurd hA')
      rw [hanswers, hA', seen_same (.inr (.inr hseen))]
    · exact hsame (fun m hm => hthis ⟨m, hm⟩) (by rw [hanswers])
  | published hnone harr hanswers =>
    refine hsame (by simp [harr]) ?_
    rw [hanswers, Function.update_of_ne]
    rintro rfl
    rw [hconn] at hnone
    cases hnone
  | @received c m harr _ hempty hanswers =>
    by_cases hcc : pc.connection_id = c
    · subst hcc
      have hseen : seen.lookup pc.connection_id = none := by
        rw [hempty] at hA'
        simpa using hA'.symm
      rw [hanswers, seen_first harr (by rw [hconn]; rfl) hseen]
      simp
    · refine hsame (fun m' hm' => ?_) (by rw [hanswers, Function.update_of_ne hcc])
      rw [harr] at hm'
      exact hcc (Prod.mk.inj (Option.some.inj hm')).1.symm
  | @put W n c m he hloop _ hempty hanswers =>
    subst he
    refine hsame (by simp [arriving_eq_none]) ?_
    rw [hanswers, Function.update_of_ne]
    rintro rfl
    exact hA.full W _ ⟨n, m, hloop⟩ hq hempty
  | @taken t₁ pc₁ _ _ he hpc₁ hpc₁' _ hanswers =>
    have hid : pc.connection_id ≠ pc₁.connection_id := by
      intro hid
      obtain rfl := awaits_unique hO hpc hpc₁ hid
      rw [hpc'] at hpc₁'
      cases hpc₁'
    subst he
    refine hsame ?_ (by rw [hanswers, Function.update_of_ne hid])
    rw [arriving_eq_none (by simp)]
    simp

/-- A step keeps what the queues hold. -/
theorem preserved (hA : AnswerQueues s seen) (hS : Ownership s) (hO : Outgoing s)
    (hqueue : ∀ t pc, s.pending? t = some pc →
      pc.connection_id ∈ s.relay.initiate_connection_answer_queues)
    (h : RelayRule cfg s e s') : AnswerQueues s' (seen ++ s.answerSeen e) := by
  have hev := h.evolves
  have hknown : ∀ {c}, (s.relay.connection c).isSome = true →
      (s'.relay.connection c).isSome = true := by
    intro c hsome
    obtain ⟨connection, hc⟩ := Option.isSome_iff_exists.mp hsome
    obtain ⟨connection', hc', -⟩ := hev.connection c connection hc
    rw [hc']
    rfl
  constructor
  · intro c hc'
    refine hA.unknown_step hS hO h ?_
    by_contra hsome
    have hsome' := hknown (Option.isSome_iff_ne_none.mpr hsome)
    rw [hc'] at hsome'
    cases hsome'
  · intro t pc' hpc'
    cases pending_of_rule h hpc' with
    | same _ hpc => exact hA.pending_step hO h hpc (hqueue t pc' hpc) hpc'
    | moved _ hpc hcreate =>
      rw [hcreate.parked.2.1]
      exact hA.pending_step hO h hpc (hqueue t _ hpc) hpc'
    | published hnone =>
      obtain ⟨hempty, hseen⟩ := hA.unknown_step hS hO h hnone
      rw [hempty, hseen]
      rfl
  · intro W c hputs
    rcases puts_of_rule h hputs with ⟨hputs, -⟩ | ⟨m, -, -, hq, -⟩
    · exact hknown (hA.putting W c hputs)
    · exact hknown (hS.queues c hq)
  · intro W c hputs hq'
    rcases puts_of_rule h hputs with ⟨hputs, -⟩ | ⟨m, -, -, hq, hfull⟩
    · have hsome := hA.putting W c hputs
      refine answer_kept h hsome hq' (hA.full W c hputs ?_)
      rcases hev.queues c hq' with hq | ⟨hnone, -⟩
      · exact hq
      · rw [hnone] at hsome
        cases hsome
    · exact answer_kept h (hS.queues c hq) hq' hfull

end AnswerQueues

/-- What the queues hold in every run. -/
theorem answerQueues {ok : RelayState → RelayEvent → Prop}
    (h : Traced (step cfg) ok answerSeen {} s seen) : AnswerQueues s seen :=
  h.invariant .initial fun _ _ _ _ ht _ hstep hA =>
    hA.preserved (ownership ht.reaches) (outgoing ht.reaches) (pending_queue ht.reaches)
      (step_rule hstep)

/-! ## Decided by the first answer -/

/-- An answer decides the call that takes it. -/
theorem answered_decides (r : NetworkRelay) (c : ConnectionId) (m : EdgeAgentToRelayMessage)
    (rest : List EdgeAgentToRelayMessage) :
    Decides c m (CreateConnection.answered cfg r c m rest).2 := by
  cases m with
  | initiateConnectionOK => rfl
  | initiateConnectionError => rfl
  | _ => exact ⟨_, rfl⟩

/-- A creation that ends does so by an error of its send or by the first answer. -/
theorem AnswerQueues.decided (hA : AnswerQueues s seen) {t : Task} {pc : CreateConnection}
    {o : Outcome} {r' : NetworkRelay} {res : Res CreateConnection ConnectionId Exc}
    (hpc : s.pending? t = some pc) (h : CreateStep cfg s.relay pc o r' res) :
    (∃ pc', res = .parked pc') ∨ (∃ e, o = .raised e ∧ res = .raised (.ws e)) ∨
      ∃ m, seen.lookup pc.connection_id = some m ∧ Decides pc.connection_id m res ∧
        s.relay.answers pc.connection_id = [m] ∧ r'.answers pc.connection_id = [] := by
  cases h with
  | requests | waits => exact .inl ⟨_, rfl⟩
  | requestFails => exact .inr (.inl ⟨_, rfl, rfl⟩)
  | @answers r₁ m rest _ _ _ hm =>
    have hfirst := (hA.pending t pc hpc).symm.trans hm
    cases hseen : seen.lookup pc.connection_id with
    | none =>
      rw [hseen] at hfirst
      cases hfirst
    | some m₁ =>
      rw [hseen, Option.toList_some, List.cons.injEq] at hfirst
      obtain ⟨rfl, rfl⟩ := hfirst
      exact .inr (.inr ⟨_, rfl, answered_decides _ _ _ _, hm, by simp [CreateConnection.answered]⟩)

/-- Only the call of a queue takes an answer from it, and ends. -/
theorem AnswerQueues.taken (hA : AnswerQueues s seen) (h : RelayRule cfg s e s')
    (c : ConnectionId) : s.relay.answers c <+: s'.relay.answers c ∨
      ∃ t o pc, e = .run t o ∧ s.pending? t = some pc ∧ pc.connection_id = c ∧
        s'.pending? t = none := by
  have hkept : ∀ {c₁ ms}, s.relay.answers c₁ = [] →
      s'.relay.answers = Function.update s.relay.answers c₁ ms →
      s.relay.answers c <+: s'.relay.answers c := by
    intro c₁ ms hempty hanswers
    rw [hanswers]
    by_cases hcc : c = c₁
    · subst hcc
      rw [hempty]
      exact List.nil_prefix
    · rw [Function.update_of_ne hcc]
  cases answers_of_rule h with
  | same hanswers => exact .inl (by rw [hanswers])
  | published hnone _ hanswers => exact .inl (hkept (hA.unknown _ hnone).1 hanswers)
  | received _ _ hempty hanswers => exact .inl (hkept hempty hanswers)
  | put _ _ _ hempty hanswers => exact .inl (hkept hempty hanswers)
  | @taken t pc _ _ he hpc hpc' _ hanswers =>
    by_cases hcc : pc.connection_id = c
    · exact .inr ⟨t, .ok, pc, he, hpc, hcc, hpc'⟩
    · exact .inl (by rw [hanswers, Function.update_of_ne (Ne.symm hcc)])

/-! ## Loops that wait -/

/-- A call that ends without an answer has failed to send its request. -/
theorem ends_unanswered {t : Task} {o : Outcome} {pc : CreateConnection}
    (h : RelayRule cfg s (.run t o) s') (hpc : s.pending? t = some pc)
    (hpc' : s'.pending? t = none) :
    (∃ err, o = .raised err ∧ s'.relay.answers = s.relay.answers) ∨
      ∃ m rest, s.relay.answers pc.connection_id = m :: rest ∧
        s'.relay.answers pc.connection_id = rest := by
  obtain ⟨r', res, hcreate, htables, hnext⟩ := create_of_run h hpc
  have hanswers : s'.relay.answers = r'.answers := congrArg ConnectionTables.answers htables
  have hparked : ∀ pc₁, res ≠ .parked pc₁ := by
    rintro pc₁ rfl
    rcases hnext with ⟨A, binary, rfl, -, rfl⟩ | ⟨k, rfl, rfl⟩ <;>
      simp [pending?, created, callReturned] at hpc'
  cases hcreate with
  | requests | waits => exact absurd rfl (hparked _)
  | requestFails _ same => exact .inl ⟨_, rfl, hanswers.trans same.answers⟩
  | @answers _ m rest _ _ _ hm =>
    exact .inr ⟨m, rest, hm, by simp [hanswers, CreateConnection.answered]⟩

/-- A creation is moved by its own task only. -/
theorem pending_frame (h : RelayRule cfg s e s') {t : Task} (hrun : ∀ o, e ≠ .run t o)
    (hcreate : ∀ k request c, e ≠ .create k request c) (hconn : ∀ A, e ≠ .clientConnects A) :
    s'.pending? t = s.pending? t := by
  cases t with
  | client A => simp only [pending?, client_frame h hrun (hconn A)]
  | call k => simp only [pending?, call_frame h hrun (hcreate k)]
  | _ => rfl

/-- A call goes on or ends in its own step. -/
theorem awaits_step (h : RelayRule cfg s e s') {c : ConnectionId} (hc : s.Awaits c) :
    s'.Awaits c ∨ ∃ t o pc, e = .run t o ∧ s.pending? t = some pc ∧ pc.connection_id = c ∧
      s'.pending? t = none := by
  obtain ⟨t, pc, hpc, rfl⟩ := hc
  by_cases hrun : ∃ o, e = .run t o
  · obtain ⟨o, rfl⟩ := hrun
    cases hpc' : s'.pending? t with
    | none => exact .inr ⟨t, o, pc, rfl, hpc, rfl, hpc'⟩
    | some pc' =>
      refine .inl ⟨t, pc', hpc', ?_⟩
      cases pending_of_rule h hpc' with
      | same hrun => exact absurd rfl (hrun o)
      | moved _ hpc₁ hcreate =>
        obtain rfl := Option.some.inj (hpc.symm.trans hpc₁)
        exact hcreate.parked.2.1
      | published _ _ hfree =>
        rcases hfree with ⟨A, m, rfl, hA⟩ | ⟨k, rfl, hk⟩
        · simp [pending?, hA] at hpc
        · simp [pending?, hk] at hpc
  · exact .inl ⟨t, pc, awaits_goes_on h hpc fun o he => hrun ⟨o, he⟩, rfl⟩

/-- A step of a message loop changes no call. -/
theorem awaits_of_loop {W : AgentSocket} {o : Outcome}
    (h : RelayRule cfg s (.run (.msgLoop W) o) s') {c : ConnectionId} :
    s'.Awaits c ↔ s.Awaits c := by
  unfold Awaits
  refine exists_congr fun t => exists_congr fun pc => ?_
  cases t with
  | msgLoop _ => rfl
  | _ => rw [pending_frame h (by simp) (by simp) (by simp)]

/-- A step that meets the condition leaves no loop blocked. -/
theorem unblocked_step (hA : AnswerQueues s seen) (hU : s.Unblocked) (hok : AnswersFit s e)
    (h : RelayRule cfg s e s') : s'.Unblocked := by
  intro W c hputs' hfull'
  rcases puts_of_rule h hputs' with ⟨hputs, hloop⟩ | ⟨m, rfl, harr, hq, hfull⟩
  · by_cases hc : s.Awaits c
    · rcases awaits_step h hc with hc' | ⟨t, o, pc, rfl, hpc, rfl, hends⟩
      · exact hc'
      · -- A call that takes its answer leaves the queue empty.
        exfalso
        apply hfull'
        rcases ends_unanswered h hpc hends with ⟨err, rfl, hanswers⟩ | ⟨m, rest, hm, hrest⟩
        · rw [hanswers]
          cases t with
          | client _ | call _ => exact hok pc hpc ⟨W, hputs⟩
          | _ => cases hpc
        · have hfirst := (hA.pending t pc hpc).symm.trans hm
          rw [hrest]
          cases hseen : seen.lookup pc.connection_id with
          | none =>
            rw [hseen] at hfirst
            cases hfirst
          | some m₁ =>
            rw [hseen, Option.toList_some, List.cons.injEq] at hfirst
            exact hfirst.2.symm
    · -- The queue is empty, and nobody fills it.
      exfalso
      have hempty : s.relay.answers c = [] := by
        by_contra hfull
        exact hc (hU W c hputs hfull)
      apply hfull'
      cases answers_of_rule h with
      | same hanswers => rw [hanswers, hempty]
      | @published c₁ _ _ hanswers =>
        rw [hanswers]
        by_cases hcc : c = c₁
        · subst hcc
          simp
        · rw [Function.update_of_ne hcc, hempty]
      | @received c₁ m _ hq _ hanswers =>
        rw [hanswers, Function.update_of_ne, hempty]
        rintro rfl
        exact hA.full W c hputs hq hempty
      | @put W₁ n c₁ m he hpc _ _ hanswers =>
        rw [hanswers, Function.update_of_ne, hempty]
        rintro rfl
        subst he
        refine hc (hok c ⟨n, m, hpc⟩ ⟨W, ?_, hputs⟩)
        rintro rfl
        exact hloop _ rfl
      | @taken t pc _ _ _ hpc _ _ hanswers =>
        rw [hanswers, Function.update_of_ne, hempty]
        rintro rfl
        exact hc ⟨t, pc, hpc, rfl⟩
  · exact (awaits_of_loop h).mpr (hok c m harr hq hfull)

/-- A loop that receives an answer for a full queue is suspended. -/
theorem puts_of_full {W : AgentSocket} (h : RelayRule cfg s (.run (.msgLoop W) .next) s')
    {c : ConnectionId} {m : EdgeAgentToRelayMessage}
    (harr : s.arriving (.run (.msgLoop W) .next) = some (c, m))
    (hq : c ∈ s.relay.initiate_connection_answer_queues) (hfull : s.relay.answers c ≠ []) :
    s'.Puts W c ∧ s'.relay.answers = s.relay.answers := by
  cases h with
  | @msgLoop _ n pc _ _ hpc h =>
    cases h with
    | disconnects ho => rcases ho with ho | ho <;> cases ho
    | receives hin h =>
      have hans := (arriving_of_receiving hpc hin).symm.trans harr
      have hnot : ∀ {P : Prop} {frame : AgentFrame}, frame.answer? = some (c, m) →
          frame.answer? = none → P := by
        intro P frame h₁ h₂
        rw [h₁] at h₂
        cases h₂
      cases h with
      | stops hbad => exact hnot hans (AgentFrame.answer?_of_malformed hbad)
      | ignores _ _ _ hignored => exact absurd hq (hignored c m hans)
      | fills h => exact hnot hans (AgentFrame.answer?_of_data? h)
      | schedules h | resets h => exact hnot hans (AgentFrame.answer?_of_reset? h)
      | answers hans' _ hempty =>
        rw [hans] at hans'
        obtain ⟨rfl, rfl⟩ := Prod.mk.inj (Option.some.inj hans')
        exact absurd hempty hfull
      | blocks hans' =>
        rw [hans] at hans'
        obtain ⟨rfl, rfl⟩ := Prod.mk.inj (Option.some.inj hans')
        exact ⟨⟨n, m, by simp⟩, rfl⟩
      | custom _ _ _ hnone => exact hnot hans hnone
    | resetting | customHandled | tearingDown => simp [arriving, hpc] at harr

/-- A step that leaves no loop blocked meets the condition. -/
theorem fit_of_unblocked (hI : RegistryInv s) (hO : Outgoing s) (h : RelayRule cfg s e s')
    (hU' : s'.Unblocked) : AnswersFit s e := by
  unfold AnswersFit
  split
  · rename_i W
    intro c m harr hq hfull
    obtain ⟨hputs, hanswers⟩ := puts_of_full h harr hq hfull
    exact (awaits_of_loop h).mp (hU' W c hputs (by rwa [hanswers]))
  · rename_i W
    rintro c ⟨n, m, hpc⟩ ⟨W', hne, hputs⟩
    have hputs' : s'.Puts W' c := by
      refine puts_goes_on hI h hputs fun o he => hne ?_
      exact (Task.msgLoop.inj (RelayEvent.run.inj he).1).symm
    refine (awaits_of_loop h).mp (hU' W' c hputs' ?_)
    cases h with
    | msgLoop hpc₁ h =>
      obtain ⟨rfl, rfl⟩ := MsgLoopTask.mk.inj (Option.some.inj (hpc.symm.trans hpc₁))
      cases h with
      | puts => simp
  · rename_i t err
    rintro pc hpc ⟨W, hputs⟩
    by_contra hfull
    have hloop : ∀ o, RelayEvent.run t (.raised err) ≠ .run (.msgLoop W) o := by
      intro o he
      rw [(RelayEvent.run.inj he).1] at hpc
      cases hpc
    obtain ⟨r', res, hcreate, htables, hnext⟩ := create_of_run h hpc
    cases hcreate with
    | requestFails _ same =>
      have hends : s'.pending? t = none := by
        rcases hnext with ⟨A, binary, rfl, -, rfl⟩ | ⟨k, rfl, rfl⟩ <;>
          simp [pending?, created, callReturned]
      have hanswers : s'.relay.answers = s.relay.answers :=
        (congrArg ConnectionTables.answers htables).trans same.answers
      obtain ⟨t', pc', hpc', hid⟩ :=
        hU' W _ (puts_goes_on hI h hputs hloop) (by rwa [hanswers])
      -- It is another call, and it has the same id.
      have hne : t' ≠ t := by
        rintro rfl
        rw [hpc'] at hends
        cases hends
      have hold : s.pending? t' = some pc' := by
        rw [← pending_frame h (fun o he => hne (RelayEvent.run.inj he).1.symm) (by simp) (by simp)]
        exact hpc'
      exact hne (awaits_unique hO hold hpc hid)
  · trivial

/-! ## Correlated answers -/

/-- In a run whose loops wait for calls only, answers and calls are correlated; and of the next
steps exactly those that meet the condition leave no loop blocked for good. -/
theorem answers_correlated (h : Traced (step cfg) AnswersFit answerSeen {} s seen) :
    Correlated cfg s seen ∧ ∀ e s', step cfg s e = some s' → (s'.Unblocked ↔ AnswersFit s e) := by
  have hA : AnswerQueues s seen := answerQueues h
  have hU : s.Unblocked := by
    have hfree : RelayState.Unblocked {} := by
      rintro W c ⟨n, m, hpc⟩
      cases hpc
    refine h.invariant (I := fun s _ => s.Unblocked) hfree fun s e s' seen ht hok hstep hU => ?_
    exact unblocked_step (answerQueues ht) hU hok (step_rule hstep)
  refine ⟨⟨fun t pc o r' res hpc hres => ?_, fun e s' c hstep => ?_, hU⟩, fun e s' hstep => ?_⟩
  · exact hA.decided hpc (CreateConnection.resume_step hres)
  · exact hA.taken (step_rule hstep) c
  · constructor
    · exact fit_of_unblocked (registryInv h.reaches) (outgoing h.reaches) (step_rule hstep)
    · exact fun hok => unblocked_step hA hU hok (step_rule hstep)

/-- The task that created the connection of an id is waiting for its answer. -/
def RelayState.awaited (s : RelayState) (c : ConnectionId) : Bool :=
  (s.relay.connection c).any fun connection =>
    (s.pending? connection.creator).any (·.connection_id = c)

/-- Every answer that arrives is awaited, no put completes and no send raises. -/
def AnswersAwaited (s : RelayState) (e : RelayEvent) : Bool :=
  match e with
  | .run (.msgLoop _) .next => (s.arriving e).all fun answer => s.awaited answer.1
  | .run (.msgLoop _) .ok => false
  | .run _ (.raised _) => false
  | _ => true

/-- Where the answers are awaited, the condition holds. -/
theorem fit_of_awaited (h : AnswersAwaited s e = true) : AnswersFit s e := by
  unfold AnswersFit
  split
  · intro c m harr _ _
    have hawaited : s.awaited c = true := by simpa [AnswersAwaited, harr] using h
    unfold RelayState.awaited at hawaited
    cases hconn : s.relay.connection c with
    | none => simp [hconn] at hawaited
    | some connection =>
      cases hpc : s.pending? connection.creator with
      | none => simp [hconn, hpc] at hawaited
      | some pc => exact ⟨_, pc, hpc, by simpa [hconn, hpc] using hawaited⟩
  · simp [AnswersAwaited] at h
  · simp [AnswersAwaited] at h
  · trivial

/-- The answer of an agent that the request succeeded. -/
def someOK (ws : AgentSocket) : RelayEvent :=
  .agentSends ws (.text { known := some (.initiateConnectionOK someConnection) })

/-- The agent answers twice before the caller goes on: the loop waits for the caller. -/
def answeredTwice : List RelayEvent :=
  waitingForAnswer ++
    [someOK ⟨0⟩, .run (.msgLoop ⟨0⟩) .next, someOK ⟨0⟩, .run (.msgLoop ⟨0⟩) .next]

/-- The state in which a loop waits with the second answer. -/
def twiceAnswered : RelayState :=
  (runWith (step plainConfig) (AnswersAwaited · ·) {} answeredTwice).get (by decide +kernel)

/-- The loop waits for the caller, and the answers are correlated. -/
theorem twiceAnswered_correlated :
    twiceAnswered.Puts ⟨0⟩ someConnection ∧
      Correlated plainConfig twiceAnswered
        (observe (step plainConfig) answerSeen {} answeredTwice) := by
  have ht : Traced (step plainConfig) (AnswersAwaited · ·) answerSeen {} twiceAnswered
      ([] ++ observe (step plainConfig) answerSeen {} answeredTwice) :=
    Traced.init.of_runWith (Option.some_get _).symm
  exact ⟨⟨_, _, rfl⟩, (answers_correlated (ht.mono fun _ _ => fit_of_awaited)).1⟩

/-- The agent answers twice, and then a second agent answers for the id, too: both loops wait for
the place of the caller, and the one that came first is woken first. -/
def answeredByTwo : List RelayEvent :=
  registerAgent ⟨0⟩ "agent" false ++ registerAgent ⟨1⟩ "other" false ++
    requestConnection ⟨0⟩ "agent" someConnection ++
    [someOK ⟨0⟩, .run (.msgLoop ⟨0⟩) .next, someOK ⟨0⟩, .run (.msgLoop ⟨0⟩) .next,
      someOK ⟨1⟩, .run (.msgLoop ⟨1⟩) .next, .run (.client ⟨0⟩) .ok, .run (.msgLoop ⟨0⟩) .ok]

/-- The state in which a loop waits for a queue that nobody will empty. -/
def blockedLoop : RelayState :=
  (run (step plainConfig) {} answeredByTwo).get (by decide +kernel)

/-- The call has taken its answer, one loop has filled the place again, and the other waits for
good. -/
theorem blockedLoop_not_correlated :
    ¬ ∀ cfg s seen, Traced (step cfg) (fun _ _ => True) answerSeen {} s seen →
      Correlated cfg s seen := by
  intro h
  have ht : Traced (step plainConfig) (fun _ _ => True) answerSeen {} blockedLoop
      ([] ++ observe (step plainConfig) answerSeen {} answeredByTwo) :=
    Traced.init.of_run (fun _ _ _ => trivial) (Option.some_get _).symm
  have hputs : blockedLoop.Puts ⟨1⟩ someConnection := ⟨_, _, rfl⟩
  have hfull : blockedLoop.relay.answers someConnection ≠ [] := by
    show [EdgeAgentToRelayMessage.initiateConnectionOK someConnection] ≠ []
    exact List.cons_ne_nil _ _
  obtain ⟨t, pc, hpc, -⟩ := (h _ _ _ ht).unblocked _ _ hputs hfull
  -- No queue is left in the table.
  have hqueue := pending_queue ht.reaches t pc hpc
  have hnone : blockedLoop.relay.initiate_connection_answer_queues = [] := rfl
  rw [hnone] at hqueue
  cases hqueue

end HttpNetworkRelay
