import HttpNetworkRelay.Relay.Sends
import HttpNetworkRelay.Relay.Teardown

/-!
# Calls that wait for an answer

The close of an agent's registration goes through `active_relayed_connections` and not through
`initiate_connection_answer_queues`: a create call that is waiting for the agent's answer is left
waiting. `KeepsCalls` asks that the answer queues of an agent hold their answers when its
registration is closed, and that these have been taken when the close ends; `calls_answerable` shows
that then no call waits for an answer that cannot come.
-/

namespace HttpNetworkRelay

open Asyncio Python RelayState NetworkRelay

/-! ## Answer queues -/

/-- The queue of `c` stays, and an answer in it too. -/
structure KeepsQueue (c : ConnectionId) (r r' : NetworkRelay) : Prop where
  mem : c ∈ r.initiate_connection_answer_queues → c ∈ r'.initiate_connection_answer_queues
  answers : r.answers c ≠ [] → r'.answers c ≠ []

namespace KeepsQueue

variable {c c₁ : ConnectionId} {r r' r'' : NetworkRelay}

/-- A queue stays if the tables of the queues do. -/
theorem of_eq (hqueues : r'.initiate_connection_answer_queues = r.initiate_connection_answer_queues)
    (hanswers : r'.answers = r.answers) : KeepsQueue c r r' where
  mem h := by rwa [hqueues]
  answers h := by rwa [hanswers]

/-- A queue stays under what closes, teardowns and locked sends do. -/
theorem of_untouched (h : Untouched r r') : KeepsQueue c r r' := .of_eq h.queues h.answers

/-- A queue stays if only a send is begun. -/
theorem of_same (same : r.SameButSends r') : KeepsQueue c r r' := .of_eq same.queues same.answers

/-- A queue stays if only the access client's side changes. -/
theorem of_sameButAccess (same : SameButAccess c₁ r r') : KeepsQueue c r r' :=
  .of_eq same.queues same.answers

/-- A queue that stays, and stays again, has stayed. -/
theorem trans (h : KeepsQueue c r r') (h' : KeepsQueue c r' r'') : KeepsQueue c r r'' where
  mem hc := h'.mem (h.mem hc)
  answers hc := h'.answers (h.answers hc)

/-- A queue stays if a connection with another id is published. -/
theorem publish (hc : (r.connection c).isSome = true) (hc₁ : r.connection c₁ = none)
    (connection : TcpConnection) : KeepsQueue c r (r.publish c₁ connection) where
  mem h := List.mem_append_left _ h
  answers h := by
    have hne : c ≠ c₁ := by
      rintro rfl
      rw [hc₁] at hc
      cases hc
    simpa [hne] using h

/-- A queue stays if an answer is put, be it into this queue. -/
theorem setAnswers (m : EdgeAgentToRelayMessage) : KeepsQueue c r (r.setAnswers c₁ [m]) where
  mem h := h
  answers h := by
    by_cases hcc : c = c₁
    · subst hcc
      simp
    · simpa [hcc] using h

/-- A queue stays if the call for another connection goes on. -/
theorem of_created {cfg : RelayConfig} {pc : CreateConnection} {o : Outcome}
    {res : Res CreateConnection ConnectionId Exc} (h : CreateStep cfg r pc o r' res)
    (hne : c ≠ pc.connection_id) : KeepsQueue c r r' where
  mem hc := (h.frame.queues c hne).mpr hc
  answers hc := by rwa [h.frame.answers c hne]

end KeepsQueue

variable {cfg : RelayConfig} {s s' : RelayState} {e : RelayEvent}

/-- A session touches no other queue than that of its own call. -/
theorem ClientRule.queue {A : ClientSocket} {pc : Client} {o : Outcome}
    (h : ClientRule cfg s A pc o s') {c : ConnectionId}
    (hc : (s.relay.connection c).isSome = true)
    (hne : ∀ binary call, pc = .creating binary call → c ≠ call.connection_id) :
    KeepsQueue c s.relay s'.relay := by
  cases h with
  | opens hfresh _ _ same =>
    have hnone := Option.isNone_iff_eq_none.mp (Bool.and_eq_true_iff.mp hfresh).1
    exact (KeepsQueue.publish hc hnone _).trans (.of_same same)
  | @creating binary pc _ r' res h =>
    have hcreate : KeepsQueue c s.relay r' := .of_created h (hne _ _ rfl)
    refine hcreate.trans ?_
    cases res with
    | parked _ | returned _ => exact .of_eq rfl rfl
    | raised e => cases e <;> exact .of_eq rfl rfl
  | disconnects _ _ same => exact .of_eq same.queues same.answers
  | ignores => exact .of_sameButAccess (continueLoop_same s _ _ _)
  | forwards _ _ h | forwarding _ h => exact .of_sameButAccess (forwarded_same h.same _ _ _ _ _)
  | @closing _ _ _ _ r' res _ h =>
    have hclose : KeepsQueue c s.relay r' := .of_untouched h.untouched
    refine hclose.trans ?_
    cases res <;> exact .of_eq rfl rfl
  | advances | refuses | unregistered | starts | startFails | receiveFails | malformed
  | clientClosed | closeFails | joined | cancels => exact .of_eq rfl rfl

/-- Only the call that waits for it takes an answer and removes its queue. -/
theorem queue_of_rule (h : RelayRule cfg s e s') {c : ConnectionId}
    (hc : (s.relay.connection c).isSome = true)
    (hne : ∀ t o pc, e = .run t o → s.pending? t = some pc → c ≠ pc.connection_id) :
    KeepsQueue c s.relay s'.relay := by
  cases h with
  | create _ hfresh _ same =>
    have hnone := Option.isNone_iff_eq_none.mp (Bool.and_eq_true_iff.mp hfresh).1
    exact (KeepsQueue.publish hc hnone _).trans (.of_same same)
  | handshake _ h => exact .of_untouched h.untouched
  | keepAlive _ h => exact .of_same h.same
  | @msgLoop W _ _ _ _ _ h =>
    cases h with
    | disconnects _ h => exact .of_untouched h.untouched
    | @receives _ rest _ _ h =>
      have hinbox : KeepsQueue c s.relay (s.relay.setInbox W rest) := .of_eq rfl rfl
      cases h with
      | resets _ _ _ _ same => exact .of_eq same.queues same.answers
      | @answers _ m => exact hinbox.trans (.setAnswers m)
      | stops | ignores | fills | schedules | blocks | custom => exact .of_eq rfl rfl
    | resetting _ h => exact .of_untouched h.untouched
    | puts => exact .setAnswers _
    | tearingDown h => exact .of_untouched h.untouched
    | receiveFails | customHandled => exact .of_eq rfl rfl
  | @client A pc o _ hpc h =>
    refine h.queue hc ?_
    rintro binary call rfl
    exact hne (.client A) o call rfl (by simp [pending?, hpc])
  | reader _ _ h => cases h <;> exact .of_eq rfl rfl
  | @call k pc o r' res hpc h =>
    exact .of_created h (hne (.call k) o pc rfl (by simp [pending?, hpc]))
  | closes _ same => exact .of_same same
  | closing _ h => exact .of_untouched h.untouched
  | sends _ _ h => exact .of_eq h.same.queues h.same.answers
  | sending _ _ h => exact .of_same h.same
  | agentConnects | agentSends | agentDies | clientConnects | createFails | close | send =>
    exact .of_eq rfl rfl

/-- An answer in a queue that is not removed stays. -/
theorem answer_kept (h : RelayRule cfg s e s') {c : ConnectionId}
    (hc : (s.relay.connection c).isSome = true)
    (hc' : c ∈ s'.relay.initiate_connection_answer_queues) (hans : s.relay.answers c ≠ []) :
    s'.relay.answers c ≠ [] := by
  by_cases htakes : ∃ t o pc, e = .run t o ∧ s.pending? t = some pc ∧ c = pc.connection_id
  · obtain ⟨t, o, pc, rfl, hpc, rfl⟩ := htakes
    obtain ⟨r', res, hcreate, htables, -⟩ := create_of_run h hpc
    rw [htables] at hc' ⊢
    cases hcreate with
    | requests _ same | waits _ same | requestFails _ same => rwa [same.answers]
    | answers => simp [CreateConnection.answered] at hc'
  · refine (queue_of_rule h hc ?_).answers hans
    rintro t o pc rfl hpc rfl
    exact htakes ⟨t, o, pc, rfl, hpc, rfl⟩

/-- A call that goes on waiting leaves the queues in their table. -/
theorem CreateStep.parked_queues {r r' : NetworkRelay} {pc pc' : CreateConnection} {o : Outcome}
    (h : CreateStep cfg r pc o r' (.parked pc')) :
    r'.initiate_connection_answer_queues = r.initiate_connection_answer_queues := by
  generalize hres : Res.parked pc' = res at h
  cases h with
  | requests _ same | waits _ same => exact same.queues
  | requestFails => cases hres
  | @answers _ m =>
    unfold CreateConnection.answered at hres
    cases m <;> cases hres

/-- The queue of a call that is not finished. -/
theorem pending_queue {ok : RelayState → RelayEvent → Prop} (h : Reaches (step cfg) ok {} s) :
    ∀ t pc, s.pending? t = some pc →
      pc.connection_id ∈ s.relay.initiate_connection_answer_queues := by
  refine h.invariant (I := fun s => ∀ t pc, s.pending? t = some pc →
    pc.connection_id ∈ s.relay.initiate_connection_answer_queues) ?_ ?_
  · intro t pc hpc
    cases t <;> cases hpc
  · intro s e s' hr _ hstep hI t pc' hpc'
    have hrule := step_rule hstep
    have hO := outgoing hr
    cases pending_of_rule hrule hpc' with
    | same hrun hpc =>
      obtain ⟨connection, hc, -, hcreator⟩ := hO.pending t pc' hpc
      refine (queue_of_rule hrule (by rw [hc]; rfl) ?_).mem (hI t pc' hpc)
      -- Another task has created another connection.
      rintro t₁ o pc₁ rfl hpc₁ heq
      obtain ⟨connection₁, hc₁, -, hcreator₁⟩ := hO.pending t₁ pc₁ hpc₁
      rw [← heq, hc] at hc₁
      obtain rfl := Option.some.inj hc₁
      rw [hcreator] at hcreator₁
      subst hcreator₁
      exact hrun o rfl
    | moved _ hpc hcreate =>
      obtain ⟨-, hid, -⟩ := hcreate.parked
      rw [hcreate.parked_queues, hid]
      exact hI t _ hpc
    | published _ _ _ hqueues =>
      rw [hqueues]
      exact List.mem_append_right _ (List.mem_singleton.mpr rfl)

/-! ## The condition -/

/-- The ids with an answer queue that belong to an agent's websocket: those of the calls to it that
are pending, and those that a call has left behind when the send of its request raised. -/
def NetworkRelay.awaited (r : NetworkRelay) (W : AgentSocket) : List ConnectionId :=
  r.initiate_connection_answer_queues.filter (r.belongsTo W)

/-- Every answer queue of the agent holds an answer. -/
def NetworkRelay.allAnswered (r : NetworkRelay) (W : AgentSocket) : Bool :=
  (r.awaited W).all fun c => r.answers c ≠ []

/-- No answer queue of the agent holds an answer that has not been taken. -/
def NetworkRelay.allTaken (r : NetworkRelay) (W : AgentSocket) : Bool :=
  (r.awaited W).all fun c => r.answers c = []

/-- The answer queues of the agent hold their answers when `edge_agent_connection_close` is called,
and the answers have been taken if it has nothing to close. -/
def NetworkRelay.closeKeepsCalls (r : NetworkRelay) (n : AgentId) : Bool :=
  match r.registered_agent_connections n with
  | none => true
  | some W =>
    r.allAnswered W && (r.active_relayed_connections.any (r.belongsTo W) || r.allTaken W)

/-- The answer queues of an agent hold their answers when its registration is removed, by a close or
by another websocket that takes its place, and the answers have been taken when no close of it is
running any more. A queue that a call has left behind when the send of its request raised counts
too, though nobody will take an answer from it: it stays in the table. -/
def KeepsCalls (cfg : RelayConfig) (s : RelayState) : RelayEvent → Bool
  | .run (.msgLoop W) o =>
    match s.msgLoop W with
    | some ⟨n, .receiving⟩ =>
      !(o = .disconnect ∨ o = .raised .webSocketDisconnect) || s.relay.closeKeepsCalls n
    | some ⟨_, .tearingDown pc⟩ =>
      !(pc.completes s.relay o || pc.raises o) || s.relay.allTaken pc.agent_connection
    | _ => true
  | .run (.handshake W) o =>
    match s.handshake W, o with
    | some (.checking _), .permit (some n) =>
      !(cfg.closed_attribute && (s.relay.registered_agent_connections n).any s.relay.agent_dead) ||
        s.relay.closeKeepsCalls n
    | some (.evicting _ n pc), o =>
      (!(pc.completes s.relay o || pc.raises o) || s.relay.allTaken pc.agent_connection) &&
        (!pc.completes s.relay o || (s.relay.registered_agent_connections n).all fun W =>
          s.relay.allAnswered W && s.relay.allTaken W)
    | _, _ => true
  | _ => true

/-- The agent's websocket is registered, or its registration is being closed. -/
def RelayState.Serves (s : RelayState) (W : AgentSocket) : Prop :=
  (∃ n, s.relay.registered_agent_connections n = some W) ∨
    ∃ t pc, s.tearing? t = some pc ∧ pc.agent_connection = W

/-- A call that waits for an answer has it, or its agent can still send it or its registration is
being closed; and when an agent is gone, no call to it is pending and no queue is left of it. -/
structure CallsAnswerable (s : RelayState) : Prop where
  waiting : ∀ t pc, s.pending? t = some pc → pc.point = .waiting →
    s.relay.answers pc.connection_id ≠ [] ∨ s.Serves pc.agent_connection
  gone : ∀ W, ¬ s.Serves W → (∀ t pc, s.pending? t = some pc → pc.agent_connection ≠ W) ∧
    ∀ c ∈ s.relay.initiate_connection_answer_queues, s.relay.belongsTo W c = false

/-! ## The invariant -/

/-- The agent of every queue is registered, or its registration is being closed and the queue holds
the answer. -/
def CallsServed (s : RelayState) : Prop :=
  ∀ c ∈ s.relay.initiate_connection_answer_queues, ∀ connection,
    s.relay.connection c = some connection →
      (∃ n, s.relay.registered_agent_connections n = some connection.agent_connection) ∨
        s.relay.answers c ≠ [] ∧ ∃ t pc, s.tearing? t = some pc ∧
          pc.agent_connection = connection.agent_connection

/-- A queue is one of those that the agent of its connection is to answer. -/
theorem mem_awaited {c : ConnectionId} {connection : TcpConnection}
    (hc : c ∈ s.relay.initiate_connection_answer_queues)
    (hconn : s.relay.connection c = some connection) :
    c ∈ s.relay.awaited connection.agent_connection :=
  List.mem_filter.mpr ⟨hc, by simp [belongsTo, hconn]⟩

/-- Where all queues of an agent are answered, each of them is. -/
theorem answered_of_all {W : AgentSocket} {c : ConnectionId} (hc : c ∈ s.relay.awaited W)
    (h : s.relay.allAnswered W = true) : s.relay.answers c ≠ [] := by
  simpa using List.all_eq_true.mp h c hc

/-- Where all answers of an agent are taken, each of its queues is empty. -/
theorem taken_of_all {W : AgentSocket} {c : ConnectionId} (hc : c ∈ s.relay.awaited W)
    (h : s.relay.allTaken W = true) : s.relay.answers c = [] := by
  simpa using List.all_eq_true.mp h c hc

/-- What the condition says of a call of `edge_agent_connection_close`. -/
theorem closeKeepsCalls_of_calls {t : Task} {o : Outcome} {n : AgentId}
    (hok : KeepsCalls cfg s (.run t o) = true) (hcalls : Calls cfg s t o n) :
    s.relay.closeKeepsCalls n = true := by
  cases hcalls with
  | disconnect hpc ho =>
    rcases ho with rfl | rfl <;> simpa [KeepsCalls, hpc] using hok
  | eviction hpc hattr hreg hdead => simpa [KeepsCalls, hpc, hattr, hreg, hdead] using hok

/-- What the condition says of the end of a close. -/
theorem allTaken_of_ends {t : Task} {o : Outcome} {pc : EdgeAgentConnectionClose}
    (hok : KeepsCalls cfg s (.run t o) = true) (hpc : s.tearing? t = some pc)
    (hends : pc.completes s.relay o = true ∨ pc.raises o = true) :
    s.relay.allTaken pc.agent_connection = true := by
  have hends : (pc.completes s.relay o || pc.raises o) = true := by simpa using hends
  cases t with
  | handshake W =>
    simp only [tearing?] at hpc
    split at hpc
    · rename_i m n pc' hW
      obtain rfl := Option.some.inj hpc
      have hparts := (Bool.and_eq_true_iff.mp (by simpa only [KeepsCalls, hW] using hok)).1
      simpa [hends] using hparts
    · cases hpc
  | msgLoop W =>
    simp only [tearing?] at hpc
    split at hpc
    · rename_i n pc' hW
      obtain rfl := Option.some.inj hpc
      simpa [KeepsCalls, hW, hends] using hok
    · cases hpc
  | _ => cases hpc

/-- A step that meets the condition keeps the calls served. -/
theorem CallsServed.preserved (hC : CallsServed s) (hI : RegistryInv s)
    (hok : KeepsCalls cfg s e = true) (h : RelayRule cfg s e s') : CallsServed s' := by
  intro c hc' connection' hconn'
  have hev := h.evolves
  cases hconn : s.relay.connection c with
  | none =>
    obtain ⟨⟨n, hreg, -⟩, -⟩ := connection_new h hconn hconn'
    have hsame := registry_of_new h hconn hconn'
    exact .inl ⟨n, by rw [hsame]; exact hreg⟩
  | some connection =>
    obtain ⟨connection₁, hc₁, hid⟩ := hev.connection c connection hconn
    obtain rfl := Option.some.inj (hc₁.symm.trans hconn')
    simp only [TcpConnection.identity, Prod.mk.injEq] at hid
    rw [hid.2.1]
    have hc : c ∈ s.relay.initiate_connection_answer_queues := by
      rcases hev.queues c hc' with hc | ⟨hnone, -⟩
      · exact hc
      · rw [hconn] at hnone
        cases hnone
    have hawaited := mem_awaited hc hconn
    -- The queue is still there, so its call has not taken the answer.
    have hkept : s.relay.answers c ≠ [] → s'.relay.answers c ≠ [] :=
      answer_kept h (by rw [hconn]; rfl) hc'
    rcases hC c hc connection hconn with ⟨n, hreg⟩ | ⟨hans, t, pc, hpc, hagent⟩
    · rcases registered_goes_on h hreg with hreg' | ⟨t, o, n₀, rfl, hcalls, hreg₀, hgo⟩ |
        ⟨W₀, o, m, n₀, pc, rfl, hpc, hcompletes, hreg₀⟩
      · exact .inl hreg'
      · have hclose := closeKeepsCalls_of_calls hok hcalls
        simp only [closeKeepsCalls, hreg₀, Bool.and_eq_true] at hclose
        have hans := answered_of_all hawaited hclose.1
        rcases hgo with ⟨pc', hpc', hagent⟩ | hsnap
        · exact .inr ⟨hkept hans, t, pc', hpc', hagent⟩
        · have hany : s.relay.active_relayed_connections.any
              (s.relay.belongsTo connection.agent_connection) = false := by
            rw [List.any_eq_false]
            intro c₁ hc₁ hbelongs
            have hmem := List.mem_filter.mpr ⟨hc₁, hbelongs⟩
            rw [hsnap] at hmem
            cases hmem
          rw [hany, Bool.false_or] at hclose
          exact absurd (taken_of_all hawaited hclose.2) hans
      · have hparts := (Bool.and_eq_true_iff.mp (by simpa only [KeepsCalls, hpc] using hok)).2
        simp only [hcompletes, hreg₀, Bool.not_true, Bool.false_or, Option.all_some,
          Bool.and_eq_true] at hparts
        exact absurd (taken_of_all hawaited hparts.2) (answered_of_all hawaited hparts.1)
    · rcases tearing_goes_on hI h hpc with ⟨pc', hpc', hagent'⟩ | ⟨o, rfl, hends⟩
      · exact .inr ⟨hkept hans, t, pc', hpc', hagent'.trans hagent⟩
      · have htaken := allTaken_of_ends hok hpc hends
        rw [hagent] at htaken
        exact absurd (taken_of_all hawaited htaken) hans

/-- In a run that keeps the calls, no call waits for an answer that cannot come any more. -/
theorem calls_answerable (h : Reaches (step cfg) (KeepsCalls cfg · ·) {} s) :
    CallsAnswerable s := by
  have hserved : CallsServed s := by
    refine h.invariant (I := CallsServed) (fun c hc => by cases hc) fun s e s' hr hok hstep hC => ?_
    exact hC.preserved (registryInv hr) hok (step_rule hstep)
  have hqueue : ∀ c ∈ s.relay.initiate_connection_answer_queues, ∀ connection,
      s.relay.connection c = some connection → s.Serves connection.agent_connection := by
    intro c hc connection hconn
    exact (hserved c hc connection hconn).imp_right And.right
  have hpending : ∀ t pc, s.pending? t = some pc → s.Serves pc.agent_connection := by
    intro t pc hpc
    obtain ⟨connection, hconn, hagent, -⟩ := (outgoing h).pending t pc hpc
    rw [← hagent]
    exact hqueue _ (pending_queue h t pc hpc) connection hconn
  refine ⟨fun t pc hpc _ => .inr (hpending t pc hpc), fun W hW => ⟨?_, fun c hc => ?_⟩⟩
  · rintro t pc hpc rfl
    exact hW (hpending t pc hpc)
  · cases hconn : s.relay.connection c with
    | none => simp [belongsTo, hconn]
    | some connection =>
      have hne : connection.agent_connection ≠ W := by
        rintro rfl
        exact hW (hqueue c hc connection hconn)
      simp [belongsTo, hconn, hne]

/-- A session whose request has been sent to its agent. -/
def waitingForAnswer : List RelayEvent :=
  registerAgent ⟨0⟩ "agent" false ++ requestConnection ⟨0⟩ "agent" someConnection

/-- The agent answers and disconnects: the answer is in the queue when the close of the registration
is called. -/
def disconnectAfterAnswer : List RelayEvent :=
  waitingForAnswer ++
    [.agentSends ⟨0⟩ (.text { known := some (.initiateConnectionOK someConnection) }),
      .run (.msgLoop ⟨0⟩) .next, .run (.msgLoop ⟨0⟩) .disconnect]

/-- The call waits, its answer is in its queue, and the registration is being closed. -/
def waitingCall : RelayState :=
  (runWith (step plainConfig) (KeepsCalls plainConfig · ·) {} disconnectAfterAnswer).get
    (by decide +kernel)

/-- The call has taken its answer, and then the close has ended. -/
def answeredCall : RelayState :=
  (runWith (step plainConfig) (KeepsCalls plainConfig · ·) {}
    (disconnectAfterAnswer ++ [.run (.client ⟨0⟩) .ok, .run (.msgLoop ⟨0⟩) .ok])).get
      (by decide +kernel)

/-- A call waits while its agent's registration is closed, having been answered before, and takes
the answer. -/
theorem waitingCall_answerable :
    ((waitingCall.pending? (.client ⟨0⟩)).map (·.point) = some .waiting ∧
      waitingCall.relay.registered_agent_connections "agent" = none ∧
      CallsAnswerable waitingCall) ∧
      answeredCall.msgLoop ⟨0⟩ = some ⟨"agent", .finished (.ok ())⟩ ∧
      answeredCall.relay.initiate_connection_answer_queues = [] ∧ CallsAnswerable answeredCall :=
  ⟨⟨rfl, rfl, calls_answerable (Reaches.init.of_runWith (Option.some_get _).symm)⟩, rfl,
    by decide +kernel, calls_answerable (Reaches.init.of_runWith (Option.some_get _).symm)⟩

/-- The agent disconnects before it has answered, and the close of its registration completes. -/
def disconnectBeforeAnswer : List RelayEvent :=
  waitingForAnswer ++ [.run (.msgLoop ⟨0⟩) .disconnect, .run (.msgLoop ⟨0⟩) .ok]

/-- The state in which a call waits for an agent that is gone. -/
def orphanedCall : RelayState :=
  (run (step plainConfig) {} disconnectBeforeAnswer).get (by decide +kernel)

/-- The call waits, its queue is empty, and the agent is gone. -/
theorem orphanedCall_not_answerable :
    ¬ ∀ cfg s, Reaches (step cfg) (fun _ _ => True) {} s → CallsAnswerable s := by
  intro h
  have hrun : run (step plainConfig) {} disconnectBeforeAnswer = some orphanedCall :=
    (Option.some_get _).symm
  have hreach : Reaches (step plainConfig) (fun _ _ => True) {} orphanedCall :=
    Reaches.init.of_run (fun _ _ _ => trivial) hrun
  obtain ⟨pc, hpc, hpoint, hagent, hempty⟩ : ∃ pc,
      orphanedCall.pending? (.client ⟨0⟩) = some pc ∧ pc.point = .waiting ∧
        pc.agent_connection = ⟨0⟩ ∧ orphanedCall.relay.answers pc.connection_id = [] :=
    ⟨_, rfl, rfl, rfl, rfl⟩
  have hserves : orphanedCall.Serves ⟨0⟩ := by
    rcases (h _ _ hreach).waiting _ pc hpc hpoint with hans | hserves
    · exact absurd hempty hans
    · rwa [hagent] at hserves
  rcases hserves with ⟨n, hreg⟩ | ⟨t, pc, htearing, -⟩
  · have hdone := (registryInv hreach).registered n _ hreg
    have hshake : orphanedCall.handshake ⟨0⟩ = some (.finished (.ok (some "agent"))) := rfl
    obtain rfl : "agent" = n := by simpa [hshake] using hdone
    have hnone : orphanedCall.relay.registered_agent_connections "agent" = none := rfl
    rw [hnone] at hreg
    cases hreg
  · -- Only the first agent has tasks, and these are not in a close.
    have hother : ∀ W, W ≠ ⟨0⟩ →
        orphanedCall.handshake W = none ∧ orphanedCall.msgLoop W = none := by
      intro W hW
      refine agent_never_connected (Reaches.init.of_run (fun e he _ => ?_) hrun)
      rintro rfl
      simp [disconnectBeforeAnswer, waitingForAnswer, registerAgent, requestConnection, hW] at he
    cases t with
    | handshake W =>
      by_cases hW : W = ⟨0⟩
      · subst hW
        cases htearing
      · simp [tearing?, (hother W hW).1] at htearing
    | msgLoop W =>
      by_cases hW : W = ⟨0⟩
      · subst hW
        cases htearing
      · simp [tearing?, (hother W hW).2] at htearing
    | keepAlive _ | client _ | reader _ | call _ | closer _ | sender _ => cases htearing

end HttpNetworkRelay
