import HttpNetworkRelay.Asyncio.Fairness
import HttpNetworkRelay.Asyncio.Trace
import HttpNetworkRelay.Relay.CompleteTeardown

/-!
# Concurrent closes

Any number of calls of `close_relayed_connection` on one relay, in any interleaving with each other
and with other tasks that use the agents' send locks. The relay that they start on is any one whose
locks are used as asyncio's locks are; every reachable state of the relay gives one
(`RelayState.locked`).

`close_drops_unless_disconnected` says in which of these runs every call drops its connection.
-/

namespace HttpNetworkRelay

open Asyncio Python NetworkRelay

/-- What a task is doing: it is in a call of `close_relayed_connection`, such a call has ended, or
it uses a send lock otherwise. -/
inductive CloseTask
  | closing (connection_id : ConnectionId) (agent_connection : AgentSocket)
      (pc : CloseRelayedConnection)
  | closed (connection_id : ConnectionId) (result : Except Exc Unit)
  | other (use : LockUse AgentSocket)

/-- The relay and the tasks. -/
structure ClosePool where
  relay : NetworkRelay
  task : Task → Option CloseTask

/-- The steps of the tasks that call `close_relayed_connection`, and of the others that use the
locks. -/
inductive CloseEvent
  /-- The task `t` calls `close_relayed_connection`. -/
  | calls (t : Task) (connection_id : ConnectionId) (agent_connection : AgentSocket)
  /-- A task that is in such a call is resumed. -/
  | resumes (t : Task) (o : Outcome)
  /-- The task `t` calls `acquire` on the send lock of a websocket. -/
  | acquires (t : Task) (agent_connection : AgentSocket)
  /-- A task that uses a lock otherwise is resumed: it takes its lock, or releases it. -/
  | moves (t : Task)
  deriving DecidableEq

/-- The task of an event. -/
def CloseEvent.actor : CloseEvent → Task
  | .calls t _ _ | .resumes t _ | .acquires t _ | .moves t => t

/-- The task that an event resumes. -/
def CloseEvent.resumed? : CloseEvent → Option Task
  | .resumes t _ | .moves t => some t
  | .calls .. | .acquires .. => none

namespace ClosePool

/-- The task `t` is in `task` from now on. -/
@[simp] def setTask (s : ClosePool) (t : Task) (task : Option CloseTask) : ClosePool :=
  { s with task := Function.update s.task t task }

/-- A stretch of the call of the task `t` has come back. -/
def returned (s : ClosePool) (t : Task) (c : ConnectionId) (ws : AgentSocket)
    (x : NetworkRelay × Res CloseRelayedConnection Unit Exc) : ClosePool :=
  { relay := x.1
    task := Function.update s.task t <| some <|
      match x.2 with
      | .parked pc => .closing c ws pc
      | .returned () => .closed c (.ok ())
      | .raised e => .closed c (.error e) }

/-- The steps of the tasks. -/
def step (s : ClosePool) : CloseEvent → Option ClosePool
  | .calls t c ws =>
    if (s.task t).isNone then some (s.returned t c ws (close_relayed_connection s.relay t c ws))
    else none
  | .resumes t o =>
    match s.task t with
    | some (.closing c ws pc) => (pc.resume s.relay t c ws o).map (s.returned t c ws)
    | _ => none
  | .acquires t ws =>
    if (s.task t).isNone then
      let (l, r) := s.relay._agent_send_lock ws
      some { relay := r.acquireLock l t
             task := Function.update s.task t (some (.other ⟨ws, l, (r.lock l).free⟩)) }
    else none
  | .moves t =>
    match s.task t with
    | some (.other ⟨ws, l, false⟩) =>
      if (s.relay.lock l).holder = some t then some (s.setTask t (some (.other ⟨ws, l, true⟩)))
      else none
    | some (.other ⟨_, l, true⟩) =>
      some { relay := s.relay.releaseLock l, task := Function.update s.task t none }
    | _ => none

/-- The use that a task makes of a send lock. -/
def use? (s : ClosePool) (t : Task) : Option (LockUse AgentSocket) :=
  match s.task t with
  | some (.closing _ ws pc) => pc.use? ws
  | some (.other use) => some use
  | _ => none

/-- A websocket operation completes, or raises one of the exceptions that say that the peer is
gone. -/
def Foreseen (_ : ClosePool) : CloseEvent → Prop
  | .resumes _ o => o.passes = true
  | _ => True

/-- The condition can be computed. -/
instance (s : ClosePool) : ∀ e, Decidable (Foreseen s e)
  | .resumes _ o => inferInstanceAs (Decidable (o.passes = true))
  | .calls .. | .acquires .. | .moves _ => isTrue trivial

/-- The task whose close of an access client's websocket raises `WebSocketDisconnect`. -/
def disconnected (s : ClosePool) : CloseEvent → List Task
  | .resumes t o =>
    match s.task t with
    | some (.closing _ _ .closingClient) => if o = .raised .webSocketDisconnect then [t] else []
    | _ => []
  | _ => []

end ClosePool

/-- A relay, and the uses that its tasks make of the send locks. -/
structure LockedRelay where
  relay : NetworkRelay
  use : Task → Option (LockUse AgentSocket)
  exclusive : LockTable.Exclusive relay.locks use

/-- The relay before any call. -/
def LockedRelay.pool (x : LockedRelay) : ClosePool :=
  ⟨x.relay, fun t => (x.use t).map .other⟩

/-- The entry of `c` in `active_relayed_connections`, and its connection object, are the same. -/
def NetworkRelay.SameEntry (c : ConnectionId) (r r' : NetworkRelay) : Prop :=
  (c ∈ r'.active_relayed_connections ↔ c ∈ r.active_relayed_connections) ∧
    r'.connection c = r.connection c

namespace ClosePool

/-- Every call drops its connection, in the state `s` of a run that started on the relay `r`. -/
structure Drops (r : NetworkRelay) (s : ClosePool) : Prop where
  /-- No call ends with an exception. -/
  quiet : ∀ t c result, s.task t = some (.closed c result) → result = .ok ()
  /-- The connection of a call that has ended is not active. -/
  dropped : ∀ t c result, s.task t = some (.closed c result) →
    c ∉ s.relay.active_relayed_connections
  /-- The readers of a connection that has been removed have been woken. -/
  woken : ∀ c ∈ r.active_relayed_connections, c ∉ s.relay.active_relayed_connections →
    ∀ connection, s.relay.connection c = some connection → connection.Woken
  /-- A step of a task leaves the entries of all ids but that of its call as they are. -/
  others : ∀ e s', s.step e = some s' →
    ∀ c, (∀ ws pc, s.task e.actor ≠ some (.closing c ws pc)) → SameEntry c s.relay s'.relay
  /-- Every call ends if the tasks are resumed. -/
  finishes : ∀ t c ws pc, s.task t = some (.closing c ws pc) →
    ∀ run : Endless step Foreseen s, run.Fair CloseEvent.resumed? →
      ∃ n result, (run.state n).task t = some (.closed c result)

end ClosePool

/-! ## What a step does -/

/-- A foreseen error that `is_closed_error` does not accept. -/
theorem WsError.eq_of_isGone {e : WsError} (hgone : e.isGone = true) (he : e.isClosed = false) :
    e = .webSocketDisconnect := by
  cases e with
  | webSocketDisconnect => rfl
  | runtimeError arg => cases he.symm.trans hgone
  | other => cases hgone

section

variable {r r' : NetworkRelay} {c : ConnectionId} {ws : AgentSocket} {pc : CloseRelayedConnection}
  {o : Outcome}

/-- A call that returns has dropped its connection. -/
theorem CloseStep.returned_dropped (h : CloseStep r c ws pc o r' (.returned ())) :
    c ∉ r'.active_relayed_connections := by
  cases h with
  | dropsUnattached => simp
  | drops => simp

/-- A call that meets only foreseen outcomes raises just if the close of the access client's
websocket has raised `WebSocketDisconnect`. -/
theorem CloseStep.raises_iff {res : Res CloseRelayedConnection Unit Exc}
    (h : CloseStep r c ws pc o r' res) (ho : o.passes = true) :
    (∃ e, res = .raised e) ↔ pc = .closingClient ∧ o = .raised .webSocketDisconnect := by
  cases h with
  | informs | closesClient | dropsUnattached => simp
  | informingFails he =>
    have hgone : (_ : WsError).isGone = true := ho
    rw [he] at hgone
    cases hgone
  | drops ho' =>
    rcases ho' with rfl | ⟨e, rfl, he⟩
    · simp
    · have hne : e ≠ .webSocketDisconnect := by
        rintro rfl
        cases he
      simp [hne]
  | closingFails he =>
    obtain rfl := WsError.eq_of_isGone ho he
    simp

end

namespace ClosePool

variable {s s' : ClosePool} {e : CloseEvent}

/-- The ways in which a step can go. -/
inductive Rule (s : ClosePool) : CloseEvent → ClosePool → Prop
  | calls {t c ws r' send} (hnone : s.task t = none) (same : s.relay.SameButSends r') :
      Rule s (.calls t c ws)
        ⟨r', Function.update s.task t (some (.closing c ws (.informing send)))⟩
  | parks {t o c ws pc r' pc'} (hpc : s.task t = some (.closing c ws pc))
      (h : CloseStep s.relay c ws pc o r' (.parked pc')) :
      Rule s (.resumes t o) ⟨r', Function.update s.task t (some (.closing c ws pc'))⟩
  | returns {t o c ws pc r'} (hpc : s.task t = some (.closing c ws pc))
      (h : CloseStep s.relay c ws pc o r' (.returned ())) :
      Rule s (.resumes t o) ⟨r', Function.update s.task t (some (.closed c (.ok ())))⟩
  | raises {t o c ws pc r' e} (hpc : s.task t = some (.closing c ws pc))
      (h : CloseStep s.relay c ws pc o r' (.raised e)) :
      Rule s (.resumes t o) ⟨r', Function.update s.task t (some (.closed c (.error e)))⟩
  /-- A task that is in no call. -/
  | uses {e r'} {u v : Option (LockUse AgentSocket)}
      (hpc : s.task e.actor = u.map .other) (same : s.relay.SameButSends r') :
      Rule s e ⟨r', Function.update s.task e.actor (v.map .other)⟩

/-- What a step of the pool can be. -/
theorem step_rule (h : s.step e = some s') : Rule s e s' := by
  cases e with
  | calls t c ws =>
    simp only [step] at h
    split at h
    case isTrue hnone =>
      obtain ⟨r', send, heq, same, -⟩ := close_relayed_connection_ok s.relay t c ws
      obtain rfl := Option.some.inj h
      rw [returned, heq]
      exact .calls (Option.isNone_iff_eq_none.mp hnone) same
    case isFalse => cases h
  -- The call goes on by the specification of `close_relayed_connection`, whatever the lock does.
  | resumes t o =>
    simp only [step] at h
    split at h
    · rename_i c ws pc hpc
      obtain ⟨⟨r', res⟩, hresume, rfl⟩ := Option.map_eq_some_iff.mp h
      have hclose := CloseRelayedConnection.resume_step hresume
      cases res with
      | parked pc' => exact .parks hpc hclose
      | returned a => exact .returns hpc hclose
      | raised e => exact .raises hpc hclose
    · cases h
  | acquires t ws =>
    simp only [step] at h
    split at h
    case isTrue hnone =>
      obtain rfl := Option.some.inj h
      have same := (s.relay.sameButSends_agentSendLock ws).1.trans
        (sameButSends_acquireLock _ (s.relay._agent_send_lock ws).1 t)
      -- Creating the lock of the agent and queueing for it touch nothing but the locks.
      exact .uses (e := .acquires t ws) (u := none) (v := some _)
        (Option.isNone_iff_eq_none.mp hnone) same
    case isFalse => cases h
  | moves t =>
    simp only [step] at h
    split at h
    · split at h
      · obtain rfl := Option.some.inj h
        exact .uses (e := .moves t) (u := some _) (v := some _) ‹_› (.refl _)
      · cases h
    · obtain rfl := Option.some.inj h
      exact .uses (e := .moves t) (u := some _) (v := none) ‹_› (sameButSends_releaseLock _ _)
    · cases h

/-- What a step does to the locks, and that it is one of its actor. -/
theorem step_locks (h : s.step e = some s') :
    LockTable.Resumes e.actor (fun _ => False) s.relay.locks (s.use? e.actor)
        (s'.relay.locks, s'.use? e.actor) ∧
      ∀ t, t ≠ e.actor → s'.task t = s.task t := by
  -- A call uses the lock as its place says, and none once it has ended.
  have hreturned : ∀ t c ws x, (s.returned t c ws x).use? t =
      useOf (CloseRelayedConnection.use? ws) x.2 := by
    intro t c ws x
    obtain ⟨r', res⟩ := x
    cases res <;> simp [use?, returned, useOf]
  cases e with
  | calls t c ws =>
    simp only [step] at h
    split at h
    case isTrue hnone =>
      obtain rfl := Option.some.inj h
      have huse : s.use? t = none := by simp [use?, Option.isNone_iff_eq_none.mp hnone]
      refine ⟨?_, fun t' ht => Function.update_of_ne ht _ _⟩
      simp only [CloseEvent.actor, huse, hreturned]
      exact close_relayed_connection_ops s.relay t c ws
    case isFalse => cases h
  | resumes t o =>
    simp only [step] at h
    split at h
    · rename_i c ws pc hpc
      obtain ⟨x, hresume, rfl⟩ := Option.map_eq_some_iff.mp h
      have huse : s.use? t = pc.use? ws := by simp [use?, hpc]
      refine ⟨?_, fun t' ht => Function.update_of_ne ht _ _⟩
      simp only [CloseEvent.actor, huse, hreturned]
      exact CloseRelayedConnection.resume_ops hresume
    · cases h
  | acquires t ws =>
    simp only [step] at h
    split at h
    case isTrue hnone =>
      obtain rfl := Option.some.inj h
      obtain ⟨hl, hlocks⟩ := agent_send_lock_locks s.relay ws
      have huse : s.use? t = none := by simp [use?, Option.isNone_iff_eq_none.mp hnone]
      refine ⟨?_, fun t' ht => Function.update_of_ne ht _ _⟩
      simp only [CloseEvent.actor, huse]
      simp only [use?, Function.update_self]
      have hlock : (s.relay._agent_send_lock ws).2.lock = (s.relay.locks.get ws).2.lock := by
        rw [← hlocks]
        rfl
      have hacquire : ((s.relay._agent_send_lock ws).2.acquireLock
          (s.relay._agent_send_lock ws).1 t).locks =
            (s.relay.locks.get ws).2.acquire (s.relay.locks.get ws).1 t := by
        rw [← hlocks, ← hl]
        rfl
      rw [hacquire, hl, hlock]
      -- Either the lock is free and taken, or the task is queued behind its holder.
      cases hfree : ((s.relay.locks.get ws).2.lock (s.relay.locks.get ws).1).free with
      | true => exact .single (.takes s.relay.locks ws hfree)
      | false => exact .single (.queues s.relay.locks ws hfree)
    case isFalse => cases h
  | moves t =>
    simp only [step] at h
    split at h
    · rename_i ws l hpc
      split at h
      case isTrue hheld =>
        obtain rfl := Option.some.inj h
        refine ⟨?_, fun t' ht => Function.update_of_ne ht _ _⟩
        simp only [CloseEvent.actor, use?, hpc, setTask, Function.update_self]
        exact ⟨hheld, .refl⟩
      case isFalse => cases h
    · rename_i ws l hpc
      obtain rfl := Option.some.inj h
      refine ⟨?_, fun t' ht => Function.update_of_ne ht _ _⟩
      simp only [CloseEvent.actor, use?, hpc, Function.update_self]
      exact .refl
    · cases h

/-- The tasks of the relay use its locks as asyncio's locks are used. -/
def Exclusive (s : ClosePool) : Prop := LockTable.Exclusive s.relay.locks s.use?

/-- A step changes the use of a lock by its own task only. -/
theorem use_update (h : s.step e = some s') :
    s'.use? = Function.update s.use? e.actor (s'.use? e.actor) := by
  obtain ⟨-, hother⟩ := step_locks h
  funext t
  by_cases ht : t = e.actor
  · rw [ht, Function.update_self]
  · rw [Function.update_of_ne ht, use?, hother t ht]
    rfl

/-- A step uses the locks as asyncio's locks are used. -/
theorem Exclusive.preserved (hE : s.Exclusive) (h : s.step e = some s') : s'.Exclusive := by
  obtain ⟨hlocks, -⟩ := step_locks h
  rw [Exclusive, use_update h]
  refine LockTable.Exclusive.ops (x := (s.relay.locks, s.use? e.actor)) ?_ hlocks.ops
  rwa [Function.update_eq_self]

/-! ## The end of a call -/

/-- How far the call of the task `t` is from its end. -/
def rank (t : Task) (s : ClosePool) : ℕ :=
  match s.task t with
  | some (.closing _ _ (.informing (.acquiring l))) => 3 + s.relay.locks.turn s.use? l t
  | some (.closing _ _ (.informing (.sending _))) => 2
  | some (.closing _ _ .closingClient) => 1
  | _ => 0

/-- The task that the call of the task `t` waits for: the holder of the lock for which it is queued,
or the operation that it is in. -/
def helper (t : Task) (s : ClosePool) : Task :=
  match s.task t with
  | some (.closing _ _ (.informing (.acquiring l))) => (s.relay.lock l).holder.getD t
  | _ => t

/-- The task `t` is in a call for the connection `c`, or such a call has ended. -/
def InCall (t : Task) (c : ConnectionId) (s : ClosePool) : Prop :=
  (∃ ws pc, s.task t = some (.closing c ws pc)) ∨ ∃ result, s.task t = some (.closed c result)

variable {t : Task} {c : ConnectionId}

/-- A task that is in a call, or has ended it, stays there. -/
theorem InCall.preserved (hcall : s.InCall t c) (h : s.step e = some s') : s'.InCall t c := by
  by_cases ht : t = e.actor
  · subst ht
    -- The task is in a call, so it is neither idle nor a user of a lock outside of calls.
    have hsome : ∀ use : Option (LockUse AgentSocket), s.task e.actor ≠ use.map .other := by
      intro use hpc
      rcases hcall with ⟨ws, pc, hcall⟩ | ⟨result, hcall⟩ <;>
        cases use <;> simp [hpc] at hcall
    have hclosing : ∀ {c' ws pc}, s.task e.actor = some (.closing c' ws pc) → c' = c := by
      intro c' ws pc hpc
      rcases hcall with ⟨ws', pc', hcall⟩ | ⟨result, hcall⟩
      · simp only [hpc, Option.some.injEq, CloseTask.closing.injEq] at hcall
        exact hcall.1
      · simp [hpc] at hcall
    cases step_rule h with
    -- A call in progress is not started again.
    | calls hnone => exact absurd hnone (hsome none)
    | @parks _ _ _ ws _ _ pc' hpc =>
      obtain rfl := hclosing hpc
      exact .inl ⟨ws, pc', Function.update_self _ _ _⟩
    | returns hpc | raises hpc =>
      obtain rfl := hclosing hpc
      exact .inr ⟨_, Function.update_self _ _ _⟩
    | uses hpc => exact absurd hpc (hsome _)
  · obtain ⟨-, hother⟩ := step_locks h
    have hsame := hother t ht
    unfold InCall
    rwa [hsame]

/-- A task that holds a lock, or has been handed it, can be resumed. -/
theorem Exclusive.ready_holder (hE : s.Exclusive) {l : ℕ}
    (hheld : (s.relay.lock l).holder = some t) :
    Endless.Ready step Foreseen CloseEvent.resumed? s t := by
  obtain ⟨u, hu, rfl⟩ := (hE.queue l t).mp (Lock.mem_queue_of_holder hheld)
  unfold use? at hu
  split at hu
  · rename_i c ws pc hpc
    cases pc with
    | informing send =>
      obtain rfl := Option.some.inj hu
      -- The holder is about to be handed the lock, or it is in the send that the lock guards.
      cases send with
      | acquiring l =>
        have hheld : (s.relay.lock l).holder = some t := hheld
        exact ⟨.resumes t .ok, _, rfl, rfl, by
          simp only [step, hpc, CloseRelayedConnection.resume, LockedSend.resume, hheld, if_pos]
          rfl⟩
      | sending l =>
        exact ⟨.resumes t .ok, _, rfl, rfl, by
          simp only [step, hpc, CloseRelayedConnection.resume, LockedSend.resume]
          rfl⟩
    | closingClient => cases hu
  · rename_i u' hpc
    obtain rfl := Option.some.inj hu
    obtain ⟨ws, l, holds⟩ := u'
    have hheld : (s.relay.lock l).holder = some t := hheld
    -- The same for a task that uses the lock outside of calls.
    cases holds with
    | false =>
      exact ⟨.moves t, _, rfl, trivial, by
        simp only [step, hpc, hheld, if_pos]
        rfl⟩
    | true =>
      exact ⟨.moves t, _, rfl, trivial, by
        simp only [step, hpc]
        rfl⟩
  · cases hu

/-- The helper of a call that has not ended can be resumed. -/
theorem Exclusive.ready (hE : s.Exclusive) (hrank : rank t s ≠ 0) :
    Endless.Ready step Foreseen CloseEvent.resumed? s (helper t s) := by
  unfold rank at hrank
  split at hrank
  · rename_i c ws l hpc
    have hmem : t ∈ (s.relay.locks.lock l).queue :=
      (hE.queue l t).mpr ⟨⟨ws, l, false⟩, by simp [use?, hpc, CloseRelayedConnection.use?,
        LockedSend.use], rfl⟩
    -- A lock with a queue has a holder, and it is the holder that can be resumed.
    obtain ⟨h, hheld⟩ := LockTable.Exclusive.holder_of_mem hE hmem
    have hhelper : helper t s = h := by
      have hheld : (s.relay.lock l).holder = some h := hheld
      simp [helper, hpc, hheld]
    rw [hhelper]
    exact hE.ready_holder hheld
  · rename_i c ws l hpc
    exact ⟨.resumes t .ok, _, by simp [helper, hpc, CloseEvent.resumed?], rfl, by
      simp only [step, hpc, CloseRelayedConnection.resume, LockedSend.resume]
      rfl⟩
  · rename_i c ws hpc
    exact ⟨.resumes t .ok, _, by simp [helper, hpc, CloseEvent.resumed?], rfl, by
      simp only [step, hpc, CloseRelayedConnection.resume]
      rfl⟩
  · exact absurd rfl hrank

/-- A step of the call itself brings it nearer to its end. -/
theorem rank_own (h : s.step e = some s') (ht : e.actor = t) (hrank : rank t s ≠ 0) :
    rank t s' < rank t s := by
  -- A call that has ended has rank 0.
  have hended : ∀ r' c result,
      rank t ⟨r', Function.update s.task t (some (.closed c result))⟩ < rank t s := by
    intro r' c result
    have hzero : rank t ⟨r', Function.update s.task t (some (.closed c result))⟩ = 0 := by
      simp [rank]
    omega
  cases step_rule h with
  | @calls t' _ _ _ _ hnone =>
    obtain rfl : t' = t := ht
    simp [rank, hnone] at hrank
  | @parks t' _ _ _ _ _ _ hpc hclose =>
    obtain rfl : t' = t := ht
    cases hclose with
    | informs =>
      simp only [rank, hpc, Function.update_self]
      omega
    | closesClient => simp [rank, hpc]
  | @returns t' =>
    obtain rfl : t' = t := ht
    exact hended _ _ _
  | @raises t' =>
    obtain rfl : t' = t := ht
    exact hended _ _ _
  | @uses _ _ use _ hpc =>
    rw [ht] at hpc
    cases use <;> simp [rank, hpc] at hrank

/-- A step of another task does not take the call away from its end, and one of its helper brings it
nearer. -/
theorem Exclusive.rank_other (hE : s.Exclusive) (h : s.step e = some s') (ht : e.actor ≠ t) :
    rank t s' < rank t s ∨
      (rank t s' = rank t s ∧ helper t s' = helper t s ∧
        (rank t s ≠ 0 → e.resumed? ≠ some (helper t s))) := by
  obtain ⟨hlocks, hother⟩ := step_locks h
  have hsame := hother t (Ne.symm ht)
  have hresumed : ∀ t', e.resumed? = some t' → t' = e.actor := by
    intro t' ht'
    cases e <;> simp_all [CloseEvent.resumed?, CloseEvent.actor]
  cases hpc : s.task t with
  | none => exact .inr (by simp [rank, helper, hsame, hpc])
  | some task =>
    cases task with
    | closed c result => exact .inr (by simp [rank, helper, hsame, hpc])
    | other use => exact .inr (by simp [rank, helper, hsame, hpc])
    | closing c ws pc =>
      -- A call that waits for no lock is its own helper, and its helper does not step here.
      have hown : helper t s = t → e.resumed? ≠ some (helper t s) := by
        intro hself hres
        exact ht (hself ▸ (hresumed _ hres)).symm
      cases pc with
      | closingClient =>
        refine .inr ⟨?_, ?_, fun _ => hown ?_⟩ <;> simp [rank, helper, hsame, hpc]
      | informing send =>
        cases send with
        | sending l =>
          refine .inr ⟨?_, ?_, fun _ => hown ?_⟩ <;> simp [rank, helper, hsame, hpc]
        | acquiring l =>
          have hqueued : ∃ u, s.use? t = some u ∧ u.lock = l :=
            ⟨⟨ws, l, false⟩, by simp [use?, hpc, CloseRelayedConnection.use?, LockedSend.use], rfl⟩
          -- The turn in the queue does not go up, and it goes down when the holder steps.
          have hsooner := LockTable.Exclusive.resumes_sooner hE (Ne.symm ht) hqueued hlocks
          rw [← use_update h] at hsooner
          dsimp only at hsooner
          have hrank : rank t s = 3 + s.relay.locks.turn s.use? l t := by simp [rank, hpc]
          have hrank' : rank t s' = 3 + s'.relay.locks.turn s'.use? l t := by
            simp [rank, hsame, hpc]
          obtain ⟨h, hheld⟩ := LockTable.Exclusive.holder_of_mem hE ((hE.queue l t).mpr hqueued)
          have hhelper : helper t s = h := by
            have hheld : (s.relay.lock l).holder = some h := hheld
            simp [helper, hpc, hheld]
          rcases hsooner with hlt | ⟨hturn, hholder, hne⟩
          · exact .inl (by omega)
          · refine .inr ⟨by omega, ?_, fun _ hres => ?_⟩
            · have hheld' : (s'.relay.lock l).holder = some h := hholder.trans hheld
              rw [hhelper]
              simp [helper, hsame, hpc, hheld']
            · rw [hhelper] at hres
              rw [hheld, hresumed h hres] at hne
              exact hne rfl

/-- The steps of the helper of a call bring it to its end. -/
theorem helped (t : Task) (c : ConnectionId) :
    Endless.Helped step Foreseen CloseEvent.resumed? (fun s => s.Exclusive ∧ s.InCall t c)
      (rank t) (helper t) where
  kept _ _ _ hI _ h := ⟨hI.1.preserved h, hI.2.preserved h⟩
  ready _ hI hrank := hI.1.ready hrank
  lowers s e s' hI hrank _ h := by
    by_cases ht : e.actor = t
    · exact .inl (rank_own h ht hrank)
    · rcases hI.1.rank_other h ht with hlt | ⟨heq, hhelper, hne⟩
      · exact .inl hlt
      · exact .inr ⟨heq, hhelper, hne hrank⟩

/-- In a run in which every task is resumed, a call ends. -/
theorem Exclusive.finishes (hE : s.Exclusive) {ws : AgentSocket} {pc : CloseRelayedConnection}
    (hpc : s.task t = some (.closing c ws pc)) (run : Endless step Foreseen s)
    (hfair : run.Fair CloseEvent.resumed?) :
    ∃ n result, (run.state n).task t = some (.closed c result) := by
  have hcall : s.InCall t c := .inl ⟨ws, pc, hpc⟩
  obtain ⟨n, hzero⟩ := hfair.finishes (helped t c) ⟨hE, hcall⟩
  obtain ⟨-, hcall'⟩ := run.always (I := fun s => s.Exclusive ∧ s.InCall t c) ⟨hE, hcall⟩
    (helped t c).kept n
  rcases hcall' with ⟨ws', pc', hpc'⟩ | hclosed
  · rcases pc' with (l | l) | _ <;> simp [rank, hpc'] at hzero
  · exact ⟨n, hclosed⟩

/-! ## The connections -/

/-- A step leaves the entry of a connection as it is, or it is one of a call for it, which drops
it. -/
theorem step_entry (c : ConnectionId) (h : s.step e = some s') :
    SameEntry c s.relay s'.relay ∨
      ((∃ ws pc, s.task e.actor = some (.closing c ws pc)) ∧
        c ∉ s'.relay.active_relayed_connections ∧
        s'.relay.connection c = (s.relay.connection c).map TcpConnection.wake_readers) := by
  have hsame : ∀ {r'}, s.relay.SameButSends r' → SameEntry c s.relay r' := by
    intro r' same
    unfold SameEntry
    rw [same.active, same.connection]
    exact ⟨Iff.rfl, rfl⟩
  -- A drop touches the entry of its own connection, and that one only if it is active.
  have hdrop : ∀ {t o c' ws pc r'}, e = .resumes t o → s.task t = some (.closing c' ws pc) →
      s.relay.SameButSends r' →
      SameEntry c s.relay (r'._drop_relayed_connection c') ∨
        ((∃ ws pc, s.task e.actor = some (.closing c ws pc)) ∧
          c ∉ (r'._drop_relayed_connection c').active_relayed_connections ∧
          (r'._drop_relayed_connection c').connection c =
            (s.relay.connection c).map TcpConnection.wake_readers) := by
    rintro t o c' ws pc r' rfl hpc same
    rw [SameEntry, mem_drop, same.active, ← same.connection]
    by_cases hc : c = c'
    · subst hc
      by_cases hact : c ∈ r'.active_relayed_connections
      · exact .inr ⟨⟨ws, pc, hpc⟩, by simp, by simp [hact]⟩
      · refine .inl ⟨?_, by simp [hact]⟩
        rw [← same.active]
        simp [hact]
    · refine .inl ⟨and_iff_left hc, ?_⟩
      by_cases hact : c' ∈ r'.active_relayed_connections <;> simp [hact, hc]
  cases step_rule h with
  | calls _ same | uses _ same => exact .inl (hsame same)
  | parks hpc hclose =>
    cases hclose with
    | informs same => exact .inl (hsame same)
    | closesClient _ same =>
      have hentry := hsame same
      exact .inl hentry
  | returns hpc hclose =>
    cases hclose with
    | dropsUnattached _ same => exact hdrop rfl hpc same
    | drops => exact hdrop rfl hpc (.refl _)
  | raises hpc hclose =>
    cases hclose with
    | informingFails _ same => exact .inl (hsame same)
    | closingFails => exact .inl (hsame (.refl _))

/-- A task whose call has ended takes no step. -/
theorem not_closed (h : s.step e = some s') (c : ConnectionId) (result : Except Exc Unit) :
    s.task e.actor ≠ some (.closed c result) := by
  intro hpc
  cases step_rule h with
  | calls hnone => cases hnone.symm.trans hpc
  | parks hpc' | returns hpc' | raises hpc' => cases hpc'.symm.trans hpc
  | @uses _ _ use _ hpc' => cases use <;> cases hpc'.symm.trans hpc

/-- The exception is that of the task that steps. -/
theorem actor_of_disconnected (h : t ∈ s.disconnected e) : t = e.actor := by
  cases e with
  | resumes t' o =>
    simp only [disconnected] at h
    split at h
    · split at h
      · exact List.mem_singleton.mp h
      · cases h
    · cases h
  | calls | acquires | moves => cases h

/-- A call that returns has dropped its connection. -/
theorem ended_dropped (h : s.step e = some s')
    (hpc : s'.task e.actor = some (.closed c (.ok ()))) :
    c ∉ s'.relay.active_relayed_connections := by
  cases step_rule h with
  | returns hpc' hclose =>
    simp only [CloseEvent.actor, Function.update_self, Option.some.injEq,
      CloseTask.closed.injEq, and_true] at hpc
    obtain rfl := hpc
    exact hclose.returned_dropped
  | calls | parks | raises => simp [CloseEvent.actor] at hpc
  | @uses _ _ _ use' => cases use' <;> simp at hpc

/-- The exception is one of the access client's websocket. -/
theorem mem_disconnected {ws : AgentSocket} {pc : CloseRelayedConnection} (o : Outcome)
    (hpc : s.task t = some (.closing c ws pc)) :
    t ∈ s.disconnected (.resumes t o) ↔
      pc = .closingClient ∧ o = .raised .webSocketDisconnect := by
  cases pc with
  | informing => simp [disconnected, hpc]
  | closingClient => by_cases ho : o = .raised .webSocketDisconnect <;> simp [disconnected, hpc, ho]

/-- A step leaves its task in a call that has raised just if its close of the access client's
websocket has raised `WebSocketDisconnect`. -/
theorem raises_iff (hok : Foreseen s e) (h : s.step e = some s') :
    (∃ c error, s'.task e.actor = some (.closed c (.error error))) ↔
      e.actor ∈ s.disconnected e := by
  cases step_rule h with
  | calls => simp [CloseEvent.actor, disconnected]
  | parks hpc hclose | returns hpc hclose | raises hpc hclose =>
    rw [CloseEvent.actor, mem_disconnected _ hpc, ← hclose.raises_iff hok]
    simp
  | @uses _ _ use use' hpc =>
    -- A task outside of calls closes no access client's websocket.
    have hnone : e.actor ∉ s.disconnected e := by
      cases e with
      | resumes t o =>
        have hpc : s.task t = use.map .other := hpc
        cases use <;> simp [disconnected, hpc]
      | calls | acquires | moves => exact List.not_mem_nil
    cases use' <;> simp [hnone]

/-- What is known of the calls in a run that started on the relay `r`, in which the close of the
access client's websocket has raised `WebSocketDisconnect` for the tasks `l`. -/
structure Accounted (r : NetworkRelay) (s : ClosePool) (l : List Task) : Prop where
  exclusive : s.Exclusive
  escaped : ∀ t, t ∈ l ↔ ∃ c e, s.task t = some (.closed c (.error e))
  dropped : ∀ t c, s.task t = some (.closed c (.ok ())) → c ∉ s.relay.active_relayed_connections
  woken : ∀ c ∈ r.active_relayed_connections, c ∉ s.relay.active_relayed_connections →
    ∀ connection, s.relay.connection c = some connection → connection.Woken

namespace Accounted

variable {r : NetworkRelay} {l : List Task}

/-- At the start no call has been made. -/
theorem start (x : LockedRelay) : Accounted x.relay x.pool [] where
  exclusive := by
    -- The tasks that use the locks at the start are those of the relay.
    have huse : x.pool.use? = x.use := by
      funext t
      cases hu : x.use t <;> simp [use?, LockedRelay.pool, hu]
    rw [Exclusive, huse]
    exact x.exclusive
  escaped t := by cases hu : x.use t <;> simp [LockedRelay.pool, hu]
  dropped t c := by cases hu : x.use t <;> simp [LockedRelay.pool, hu]
  woken c hc hnot := absurd hc hnot

/-- A foreseen step keeps what is known of the calls. -/
theorem preserved (hA : Accounted r s l) (hok : Foreseen s e) (h : s.step e = some s') :
    Accounted r s' (l ++ s.disconnected e) where
  exclusive := hA.exclusive.preserved h
  escaped t := by
    rw [List.mem_append, hA.escaped]
    by_cases ht : t = e.actor
    · subst ht
      -- The call of the task that steps had not ended before.
      have hfresh : ¬ ∃ c error, s.task e.actor = some (.closed c (.error error)) := by
        rintro ⟨c, error, hpc⟩
        exact not_closed h c _ hpc
      rw [or_iff_right hfresh]
      exact (raises_iff hok h).symm
    · -- Another task's call is where it was.
      have hsame := (step_locks h).2 t ht
      have hnot : t ∉ s.disconnected e := fun hmem => ht (actor_of_disconnected hmem)
      rw [hsame, or_iff_left hnot]
  dropped t c hpc := by
    by_cases ht : t = e.actor
    · subst ht
      exact ended_dropped h hpc
    · rw [(step_locks h).2 t ht] at hpc
      rcases step_entry c h with ⟨hactive, -⟩ | ⟨-, hnot, -⟩
      · rw [hactive]
        exact hA.dropped t c hpc
      · exact hnot
  woken c hc hnot connection hconnection := by
    rcases step_entry c h with ⟨hactive, hsame⟩ | ⟨-, -, hwake⟩
    · rw [hactive] at hnot
      rw [hsame] at hconnection
      exact hA.woken c hc hnot connection hconnection
    · rw [hwake] at hconnection
      obtain ⟨connection, -, rfl⟩ := Option.map_eq_some_iff.mp hconnection
      exact connection.woken_set connection.recv_buffer

/-- The calls of a run drop their connections, if none of them has raised. -/
theorem drops (hA : Accounted r s []) : s.Drops r := by
  -- A call that has raised is in the list, which is empty.
  have hquiet : ∀ t c result, s.task t = some (.closed c result) → result = .ok () := by
    intro t c result hpc
    cases result with
    | ok => rfl
    | error e => exact absurd ((hA.escaped t).mpr ⟨c, e, hpc⟩) List.not_mem_nil
  constructor
  case quiet => exact hquiet
  case dropped =>
    intro t c result hpc
    obtain rfl := hquiet t c result hpc
    exact hA.dropped t c hpc
  case woken => exact hA.woken
  case others =>
    intro e s' h c hcall
    rcases step_entry c h with hsame | ⟨⟨ws, pc, hpc⟩, -⟩
    · exact hsame
    · exact absurd hpc (hcall ws pc)
  case finishes =>
    intro t c ws pc hpc run hfair
    exact hA.exclusive.finishes hpc run hfair

end Accounted

end ClosePool

/-- Every reachable state of the relay is one that the calls can start on. -/
def RelayState.locked (s : RelayState) (h : TakesTurns s) : LockedRelay :=
  ⟨s.relay, s.use?, h.exclusive⟩

/-- Every call drops its connection in just those runs in which no close of an access client's
websocket raises `WebSocketDisconnect`. -/
theorem close_drops_unless_disconnected {x : LockedRelay} {s : ClosePool} {l : List Task}
    (h : Traced ClosePool.step ClosePool.Foreseen ClosePool.disconnected x.pool s l) :
    s.Drops x.relay ↔ l = [] := by
  have hA : ClosePool.Accounted x.relay s l :=
    h.invariant (I := ClosePool.Accounted x.relay) (.start x)
      fun s e s' l _ hok hstep hA => hA.preserved hok hstep
  constructor
  · intro hD
    refine List.eq_nil_iff_forall_not_mem.mpr fun t ht => ?_
    -- A task in the list has raised, so its call has not dropped its connection.
    obtain ⟨c, e, hpc⟩ := (hA.escaped t).mp ht
    cases hD.quiet t c _ hpc
  · rintro rfl
    exact hA.drops

/-- An open session whose reader waits for data. -/
def readingSession : RelayState :=
  (run (step plainConfig) {} (openSession ++ [.run (.reader someConnection) .ok])).get
    (by decide +kernel)

/-- The session that reads is reached. -/
theorem readingSession_reached :
    Reaches (step plainConfig) (fun _ _ => True) {} readingSession :=
  Reaches.init.of_run (fun _ _ _ => trivial) (Option.some_get _).symm

/-- The relay with its session open. -/
def readingRelay : LockedRelay := readingSession.locked (takesTurns readingSession_reached)

/-- Two closes of one connection: the second one queues for the lock, and finds the agent gone. -/
def twoCloses : List CloseEvent :=
  [.calls (.closer 0) someConnection ⟨0⟩, .calls (.closer 1) someConnection ⟨0⟩,
    .resumes (.closer 0) .ok, .resumes (.closer 1) .ok, .resumes (.closer 0) .ok,
    .resumes (.closer 1) (.raised .webSocketDisconnect), .resumes (.closer 1) .ok]

/-- The pool after two closes of one connection. -/
def bothClosed : ClosePool :=
  (runWith ClosePool.step ClosePool.Foreseen readingRelay.pool twoCloses).get (by decide +kernel)

/-- Both calls return, and the connection is dropped. -/
theorem bothClosed_drops :
    bothClosed.task (.closer 0) = some (.closed someConnection (.ok ())) ∧
      bothClosed.task (.closer 1) = some (.closed someConnection (.ok ())) ∧
      bothClosed.Drops readingSession.relay := by
  have hrun : runWith ClosePool.step ClosePool.Foreseen readingRelay.pool twoCloses =
      some bothClosed := (Option.some_get _).symm
  have hnone : observe ClosePool.step ClosePool.disconnected readingRelay.pool twoCloses = [] := by
    decide +kernel
  have htraced : Traced ClosePool.step ClosePool.Foreseen ClosePool.disconnected readingRelay.pool
      bothClosed
        ([] ++ observe ClosePool.step ClosePool.disconnected readingRelay.pool twoCloses) :=
    Traced.init.of_runWith hrun
  rw [hnone] at htraced
  exact ⟨rfl, rfl, (close_drops_unless_disconnected (x := readingRelay) htraced).mpr rfl⟩

/-- The access client is gone, and the close of its websocket says so. -/
def goneClient : List CloseEvent :=
  [.calls (.closer 0) someConnection ⟨0⟩, .resumes (.closer 0) .ok,
    .resumes (.closer 0) (.raised .webSocketDisconnect)]

/-- The call raises, its connection is active still, and the session's reader waits for it. -/
theorem goneClient_not_dropped :
    ∃ s, Reaches ClosePool.step ClosePool.Foreseen readingRelay.pool s ∧
      someConnection ∈ s.relay.active_relayed_connections ∧
      (s.relay.connection someConnection).map (·.event.waiters) = some [.reader someConnection] ∧
      ¬ s.Drops readingRelay.relay := by
  obtain ⟨s, hs⟩ : ∃ s, runWith ClosePool.step ClosePool.Foreseen readingRelay.pool goneClient =
      some s := Option.isSome_iff_exists.mp (by decide +kernel)
  have hstate : (runWith ClosePool.step ClosePool.Foreseen readingRelay.pool goneClient).map
    (fun s =>
      (decide (someConnection ∈ s.relay.active_relayed_connections),
        (s.relay.connection someConnection).map (·.event.waiters))) =
        some (true, some [.reader someConnection]) := by
    decide +kernel
  have htask : (runWith ClosePool.step ClosePool.Foreseen readingRelay.pool goneClient).bind
    (fun s =>
      s.task (.closer 0)) = some (.closed someConnection (.error (.ws .webSocketDisconnect))) := rfl
  rw [hs] at hstate htask
  simp only [Option.map_some, Option.some.injEq, Prod.mk.injEq, decide_eq_true_eq] at hstate
  refine ⟨s, Reaches.init.of_runWith hs, hstate.1, hstate.2, fun hD => ?_⟩
  cases hD.quiet (.closer 0) someConnection _ htask

end HttpNetworkRelay
