import HttpNetworkRelay.Link.Peers
import HttpNetworkRelay.Relay.CompleteTeardown

/-!
# What a departure leads to

When a peer has gone, the connections that it takes with it are still in the dictionaries for a
while: until the agent has been told, or the session of the access client has left its loop. `Told`
and `Departing` name what is under way then, and `Departures` says that a connection which is not
active has been told to the agent, and that one which the agent has been told of is about to be
dropped. Each of its parts has a step lemma, and `Departures.preserved` puts them together.
-/

namespace HttpNetworkRelay

open Asyncio Python RelayState NetworkRelay

/-- The close message has been sent, unless the close still waits for the lock. -/
def CloseRelayedConnection.Said (r : NetworkRelay) (W : AgentSocket) (c : ConnectionId) :
    CloseRelayedConnection → Prop
  | .informing (.acquiring _) => True
  | _ => closeMessage c ∈ r.to_agent W

/-- The session of an access client is in its loop. -/
def RelayState.InLoop (s : RelayState) (A : ClientSocket) (c : ConnectionId) : Prop :=
  ∃ pc, s.client A = some pc ∧ pc.connected? = some c

/-- The access client has gone, and its session is still in its loop. -/
def Leaving (gone : Peer → Bool) (s : RelayState) (c : ConnectionId) : Prop :=
  ∃ A, gone (.client A) = true ∧ s.InLoop A c

/-- The close message has been sent, or a close waits to send it, or the agent has gone. -/
def Told (W : AgentSocket) (gone : Peer → Bool) (s : RelayState) (c : ConnectionId) : Prop :=
  closeMessage c ∈ s.relay.to_agent W ∨
    (∃ t l, s.closing? t = some (c, .informing (.acquiring l))) ∨ gone .agent = true

/-- The connection is not active, or something is under way that makes it so. -/
def Departing (gone : Peer → Bool) (s : RelayState) (c : ConnectionId) : Prop :=
  c ∉ s.relay.active_relayed_connections ∨ (∃ t pc, s.closing? t = some (c, pc)) ∨
    Leaving gone s c ∨ gone .agent = true

variable {cfg : RelayConfig} {W : AgentSocket} {gone : Peer → Bool} {s s' : RelayState}
  {e : RelayEvent} {t : Task} {o : Outcome} {c : ConnectionId}
  {ok : RelayState → RelayEvent → Prop}

/-! ## The close message -/

section
variable {r r' : NetworkRelay}

/-- What a close has said stays said as the state of the relay evolves. -/
theorem CloseRelayedConnection.Said.evolves {pc : CloseRelayedConnection} (h : pc.Said r W c)
    (hev : Evolves r r') : pc.Said r' W c := by
  match pc, h with
  | .informing (.acquiring _), _ => trivial
  | .informing (.sending _), h => exact (hev.to_agent W).subset h
  | .closingClient, h => exact (hev.to_agent W).subset h

/-- A close that begins to send its message says so, or waits for the lock. -/
theorem Sending.said {send : LockedSend} (h : Sending r W (closeMessage c) r' send) :
    (CloseRelayedConnection.informing send).Said r' W c := by
  cases send with
  | acquiring l => trivial
  | sending l =>
    have hto : r'.to_agent = (r.sendToAgent W (closeMessage c)).to_agent :=
      congrArg AgentOutput.to_agent h
    show closeMessage c ∈ r'.to_agent W
    simp [hto]

/-- A step of a close that goes on keeps to what it has said. -/
theorem CloseStep.said {pc pc' : CloseRelayedConnection}
    (h : CloseStep r c W pc o r' (.parked pc')) (hpc : pc.Said r W c) : pc'.Said r' W c := by
  have hev := h.evolves
  cases h with
  | @informs _ l _ out =>
    have hsend : Sending r W (closeMessage c) r' (.sending l) := out
    exact hsend.said
  | closesClient => exact (hev.to_agent W).subset hpc

/-- A step of a teardown keeps to what its close has said. -/
theorem TeardownStep.said {pc pc' : EdgeAgentConnectionClose}
    (h : TeardownStep r pc o r' (.parked pc')) (hagent : pc.agent_connection = W)
    (hpc : pc.pc.Said r W pc.current) : pc'.pc.Said r' W pc'.current := by
  subst hagent
  cases h with
  | inside h => exact h.said hpc
  | next _ _ _ hsend => exact hsend.said

/-- A teardown that begins with a close is one that says so. -/
theorem TeardownStart.said {n : AgentId} {pc : EdgeAgentConnectionClose}
    (h : TeardownStart r n r' (.parked pc)) (hreg : r.registered_agent_connections n = some W) :
    pc.pc.Said r' W pc.current := by
  cases h with
  | @starts ws _ _ _ _ hws _ _ hsend =>
    obtain rfl := Option.some.inj (hreg.symm.trans hws)
    exact hsend.said

end

namespace SoleAgent

section
variable (hS : SoleAgent W s) (hr : Reaches (step cfg) ok {} s)
include hS hr

/-- A teardown is that of the agent. -/
theorem tearing_agent {pc : EdgeAgentConnectionClose} (hpc : s.tearing? t = some pc) :
    pc.agent_connection = W := by
  obtain ⟨n, hdone⟩ := (closing_inv hr t pc hpc).done
  by_contra hne
  rw [hS.handshake _ hne] at hdone
  cases hdone

/-- The connection of a close exists. -/
theorem closing_connection {pc : CloseRelayedConnection} (hpc : s.closing? t = some (c, pc)) :
    (s.relay.connection c).isSome = true := by
  rcases hS.closing_cases (registryInv hr) hpc with ⟨rfl, n, hloop⟩ | ⟨rfl, n, td, hloop, rfl, -⟩ |
    ⟨A, rfl, hA⟩
  · exact (sendTargets hr).resetting W n c pc hloop
  · have htearing : s.tearing? (.msgLoop W) = some td := by simp [tearing?, hloop]
    have hbelongs := snapshots hr _ _ htearing td.current (.inl rfl)
    unfold belongsTo at hbelongs
    cases hc : s.relay.connection td.current with
    | some connection => rfl
    | none =>
      rw [hc] at hbelongs
      cases hbelongs
  · obtain ⟨connection, hc, -⟩ := (ownership hr).client A _ c hA rfl
    rw [hc]
    rfl

end

end SoleAgent

/-- The condition of the loop, evaluated: a close that is called then has sent its message, or waits
for the lock. -/
theorem said_of_continueLoop (s : RelayState) (A : ClientSocket) (c : ConnectionId)
    {c' : ConnectionId} {pc' : CloseRelayedConnection}
    (hpc' : (s.continueLoop A c W).closing? (.client A) = some (c', pc')) :
    pc'.Said (s.continueLoop A c W).relay W c' := by
  rcases continueLoop_cases s A c W with ⟨B, -, heq⟩ | ⟨-, r', send, heq, -, hsend⟩
  · rw [heq, closing_setClient] at hpc'
    cases hpc'
  · rw [heq, closing_setClient] at hpc'
    rw [heq]
    obtain ⟨rfl, rfl⟩ := Prod.mk.inj (Option.some.inj hpc')
    exact hsend.said

/-- A close that follows on a forwarded message has said what it has sent. -/
theorem said_of_forwarded {A : ClientSocket} {c c' : ConnectionId} {message : Except Exc ToAgent}
    {r' : NetworkRelay} {res : Res LockedSend Unit Exc} {pc' : CloseRelayedConnection}
    (hpc' : (s.forwarded A c W message (r', res)).closing? (.client A) = some (c', pc')) :
    pc'.Said (s.forwarded A c W message (r', res)).relay W c' := by
  cases res with
  | returned a => exact said_of_continueLoop (s.withRelay r') A c hpc'
  | parked send | raised e =>
    rw [forwarded, closing_setClient] at hpc'
    cases hpc'

/-- A step of a session whose close says what it has sent is one of which this holds again. -/
theorem SoleAgent.said_client (hS : SoleAgent W s) {A : ClientSocket} {pc : Client}
    (hsaid : ∀ c pc, s.closing? (.client A) = some (c, pc) → pc.Said s.relay W c)
    (hpc : s.client A = some pc) (h : ClientRule cfg s A pc o s') {pc' : CloseRelayedConnection}
    (hpc' : s'.closing? (.client A) = some (c, pc')) : pc'.Said s'.relay W c := by
  have hagent : ∀ {c connection}, s.relay.connection c = some connection →
      connection.agent_connection = W := fun hc => (hS.connection _ _ hc).1
  cases h with
  | @disconnects c₁ _ connection r' send _ hc _ hsend =>
    rw [closing_setClient] at hpc'
    obtain ⟨rfl, rfl⟩ := Prod.mk.inj (Option.some.inj hpc')
    rw [hagent hc] at hsend
    exact hsend.said
  | ignores hc =>
    rw [hagent hc] at hpc' ⊢
    exact said_of_continueLoop _ _ _ hpc'
  | forwards hc | forwarding hc =>
    rw [hagent hc] at hpc' ⊢
    exact said_of_forwarded hpc'
  | @closing c₁ pc₁ _ connection r' res hc hstep =>
    rw [hagent hc] at hstep
    cases res with
    | parked pc₂ =>
      rw [connectionClosed, closing_setClient] at hpc'
      obtain ⟨rfl, rfl⟩ := Prod.mk.inj (Option.some.inj hpc')
      exact hstep.said (hsaid c₁ pc₁ (by simp [closing?, hpc]))
    | returned _ | raised _ =>
      rw [connectionClosed, closing_setClient] at hpc'
      cases hpc'
  | @advances _ _ pc₁ _ hun =>
    rw [closing_setClient] at hpc'
    split at hpc'
    · cases hun
    · cases hpc'
  | @creating _ _ _ _ res =>
    cases res with
    | parked _ | returned _ =>
      rw [created, closing_setClient] at hpc'
      cases hpc'
    | raised e =>
      cases e <;> cases hpc'.symm.trans (closing_setClient _ _ _)
  | refuses | unregistered | opens | starts | startFails | receiveFails | malformed | clientClosed
  | closeFails | joined | cancels =>
    rw [closing_setClient] at hpc'
    cases hpc'

/-- The same of the message loop, whose closes are those of resets and of its teardown. -/
theorem SoleAgent.said_msgLoop (hS : SoleAgent W s) (hr : Reaches (step cfg) ok {} s) {n : AgentId}
    {pc : MsgLoop}
    (hsaid : ∀ c pc, s.closing? (.msgLoop W) = some (c, pc) → pc.Said s.relay W c)
    (hpc : s.msgLoop W = some ⟨n, pc⟩) (h : MsgLoopRule cfg s W n pc o s')
    {pc' : CloseRelayedConnection} (hpc' : s'.closing? (.msgLoop W) = some (c, pc')) :
    pc'.Said s'.relay W c := by
  cases h with
  | @disconnects _ r' res _ hstart =>
    rw [tornDown, closing_setMsgLoop] at hpc'
    cases res with
    | parked td =>
      obtain ⟨rfl, rfl⟩ := Prod.mk.inj (Option.some.inj hpc')
      exact hstart.said (hS.registered n _ hpc rfl)
    | returned _ | raised _ => cases hpc'
  | @tearingDown td _ r' res hstep =>
    rw [tornDown, closing_setMsgLoop] at hpc'
    cases res with
    | parked td' =>
      obtain ⟨rfl, rfl⟩ := Prod.mk.inj (Option.some.inj hpc')
      have htearing : s.tearing? (.msgLoop W) = some td := by simp [tearing?, hpc]
      exact hstep.said (hS.tearing_agent hr htearing) (hsaid _ _ (by simp [closing?, hpc]))
    | returned _ | raised _ => cases hpc'
  | @resetting c₁ pc₁ connection _ r' res hc hstep =>
    rw [(hS.connection _ _ hc).1] at hstep
    rw [resetHandled, closing_setMsgLoop] at hpc'
    cases res with
    | parked pc₂ =>
      obtain ⟨rfl, rfl⟩ := Prod.mk.inj (Option.some.inj hpc')
      exact hstep.said (hsaid c₁ pc₁ (by simp [closing?, hpc]))
    | returned _ | raised _ => cases hpc'
  | receives _ hframe =>
    cases hframe with
    | @resets c₁ connection r' send _ _ hc _ _ hsend =>
      have hagent : connection.agent_connection = W := (hS.connection c₁ connection hc).1
      rw [hagent] at hsend
      rw [closing_setMsgLoop] at hpc'
      obtain ⟨rfl, rfl⟩ := Prod.mk.inj (Option.some.inj hpc')
      exact hsend.said
    | _ =>
      rw [closing_setMsgLoop] at hpc'
      cases hpc'
  | receiveFails | puts | customHandled =>
    rw [closing_setMsgLoop] at hpc'
    cases hpc'

/-- A close that is under way has sent its message, or waits for the lock. -/
theorem SoleAgent.said_step (hS : SoleAgent W s) (hr : Reaches (step cfg) ok {} s)
    (hS' : SoleAgent W s') (hr' : RegistryInv s')
    (hsaid : ∀ t c pc, s.closing? t = some (c, pc) → pc.Said s.relay W c)
    (h : RelayRule cfg s e s') {pc' : CloseRelayedConnection}
    (hpc' : s'.closing? t = some (c, pc')) : pc'.Said s'.relay W c := by
  by_cases hrun : ∃ o, e = .run t o
  · obtain ⟨o, rfl⟩ := hrun
    rcases hS'.closing_cases hr' hpc' with ⟨rfl, -⟩ | ⟨rfl, -⟩ | ⟨A, rfl, -⟩
    · cases h with
      | msgLoop hpc hrule => exact hS.said_msgLoop hr (hsaid _) hpc hrule hpc'
    · cases h with
      | msgLoop hpc hrule => exact hS.said_msgLoop hr (hsaid _) hpc hrule hpc'
    · cases h with
      | client hpc hrule => exact hS.said_client (hsaid _) hpc hrule hpc'
  · cases closing_of_rule h hpc' with
    | same hpc => exact (hsaid t c pc' hpc).evolves h.evolves
    | moved he => exact absurd ⟨_, he⟩ hrun
    | started he => exact absurd ⟨_, he⟩ hrun

/-! ## A step of a close -/

/-- What the resumption of a close leads to. -/
inductive CloseMoved (s : RelayState) (t : Task) (o : Outcome) (s' : RelayState)
    (c : ConnectionId) :
    CloseRelayedConnection → Prop
  | informs {l l'} (hpc' : s'.closing? t = some (c, .informing (.sending l'))) :
      CloseMoved s t o s' c (.informing (.acquiring l))
  | closesClient {l} (hpc' : s'.closing? t = some (c, .closingClient)) :
      CloseMoved s t o s' c (.informing (.sending l))
  | drops {pc} (hpc : ∀ l, pc ≠ .informing (.acquiring l))
      (hnot : c ∉ s'.relay.active_relayed_connections) : CloseMoved s t o s' c pc
  | raises {pc error} (hpc : ∀ l, pc ≠ .informing (.acquiring l)) (ho : o = .raised error)
      (htearing : ∀ td, s.tearing? t = some td → td.raises o = true) : CloseMoved s t o s' c pc

/-- Where the step of a close leads, from what the resumption does with its result. -/
theorem CloseMoved.of_step {r' : NetworkRelay} {pc : CloseRelayedConnection}
    {res : Res CloseRelayedConnection Unit Exc}
    (h : CloseStep s.relay c W pc o r' res)
    (hparked : ∀ pc', res = .parked pc' → s'.closing? t = some (c, pc'))
    (hreturned : res = .returned () →
      s'.relay.active_relayed_connections = r'.active_relayed_connections)
    (hraised : ∀ e, res = .raised e → ∀ td, s.tearing? t = some td → td.raises o = true) :
    CloseMoved s t o s' c pc := by
  cases h with
  | informs => exact .informs (hparked _ rfl)
  | closesClient => exact .closesClient (hparked _ rfl)
  | dropsUnattached | drops =>
    refine .drops (by simp) ?_
    rw [hreturned rfl]
    simp
  | informingFails | closingFails => exact .raises (by simp) rfl (hraised _ rfl)

/-- What the resumption of the close of a task leads to, whichever task it is. -/
theorem SoleAgent.close_moved (hS : SoleAgent W s) (hr : Reaches (step cfg) ok {} s)
    {pc : CloseRelayedConnection} (hpc : s.closing? t = some (c, pc))
    (h : RelayRule cfg s (.run t o) s') : CloseMoved s t o s' c pc := by
  rcases hS.closing_cases (registryInv hr) hpc with ⟨rfl, n, hloop⟩ |
    ⟨rfl, n, td, hloop, rfl, rfl⟩ | ⟨A, rfl, hA⟩
  · have houtside : s.tearing? (.msgLoop W) = none := by simp [tearing?, hloop]
    cases h with
    | msgLoop hpc₀ hrule =>
      obtain ⟨rfl, rfl⟩ := MsgLoopTask.mk.inj (Option.some.inj (hloop.symm.trans hpc₀))
      cases hrule with
      | resetting _ hstep =>
        refine .of_step hstep ?_ (fun _ => rfl) fun _ _ td htd => ?_
        · rintro pc' rfl
          rw [resetHandled, closing_setMsgLoop]
        · rw [houtside] at htd
          cases htd
  · have htearing : s.tearing? (.msgLoop W) = some td := by simp [tearing?, hloop]
    cases h with
    | msgLoop hpc₀ hrule =>
      obtain ⟨rfl, rfl⟩ := MsgLoopTask.mk.inj (Option.some.inj (hloop.symm.trans hpc₀))
      cases hrule with
      | tearingDown hteardown =>
        cases hteardown with
        | inside hstep =>
          refine .of_step hstep ?_ (fun hres => by cases hres) fun _ hres => by cases hres
          rintro pc' ⟨⟩
          rw [tornDown, closing_setMsgLoop]
        | next hstep _ same =>
          exact .of_step hstep (fun _ hres => by cases hres) (fun _ => same.active)
            fun _ hres => by cases hres
        | done hstep =>
          exact .of_step hstep (fun _ hres => by cases hres) (fun _ => rfl)
            fun _ hres => by cases hres
        | fails hstep =>
          have hraises := (TeardownStep.fails hstep).raises
          refine .of_step hstep (fun _ hres => by cases hres) (fun hres => by cases hres)
            fun _ _ td' htd' => ?_
          obtain rfl := Option.some.inj (htearing.symm.trans htd')
          exact hraises
  · cases h with
    | client hpc₀ hrule =>
      obtain rfl := Option.some.inj (hA.symm.trans hpc₀)
      cases hrule with
      | closing _ hstep =>
        refine .of_step hstep ?_ ?_ fun _ _ td htd => by cases htd
        · rintro pc' rfl
          rw [connectionClosed, closing_setClient]
        · rintro rfl
          rfl
      | advances hun => cases hun
      | refuses hrefuse => simp at hrefuse
      | joined hjoin => simp at hjoin

/-! ## A session in its loop -/

/-- What it forwards can be encoded. -/
theorem framed_ok (hr : Reaches (step cfg) ok {} s) {message : Except Exc ToAgent}
    (h : Framed s.relay c message) : ∃ m, message = .ok m := by
  obtain ⟨connection, content, hc, rfl⟩ := h
  exact dataMessage_encodes connection content (canonical_ids hr c (by rw [hc]; rfl))

/-- The condition of the loop, evaluated: the session stays in its loop, as its access client is
entered. -/
theorem inLoop_of_continueLoop (s : RelayState) {A B : ClientSocket}
    (haccess : s.relay.active_access_client_connections c = some B) (agent : AgentSocket) :
    (s.continueLoop A c agent).InLoop A c := by
  rcases continueLoop_cases s A c agent with ⟨B', -, heq⟩ | ⟨hnone, -⟩
  · rw [heq]
    exact ⟨.receiving c, by simp, rfl⟩
  · rw [hnone] at haccess
    cases haccess

/-- What becomes of a session in its loop: it stays there until its access client disconnects, or a
send fails as the agent has gone. -/
inductive LoopMoved (gone : Peer → Bool) (s' : RelayState) (A : ClientSocket) (c : ConnectionId) :
    Prop
  | stays (hin : s'.InLoop A c)
  | leaves {send} (hpc' : s'.client A = some (.closing c (.informing send)))
      (hnot : c ∉ s'.relay.active_relayed_connections)
  | fails (hagent : gone .agent = true) (hpc' : ∀ pc, s'.client A ≠ some (.closing c pc))

/-- What a step makes of a session in its loop. -/
theorem loop_moved (hr : Reaches (step cfg) ok {} s) (hok : s.permits W gone e = true)
    (h : RelayRule cfg s e s') {A : ClientSocket} (hin : s.InLoop A c) : LoopMoved gone s' A c := by
  obtain ⟨pc, hpc, hcon⟩ := hin
  obtain ⟨haccess, -⟩ := (ownership hr).connected A pc c hpc hcon
  by_cases hrun : ∃ o, e = .run (.client A) o
  · obtain ⟨o, rfl⟩ := hrun
    obtain ⟨hpeer, hvalid⟩ := permits_run hok
    have hencodes : ∀ {message error}, Framed s.relay c message → message ≠ .error error := by
      rintro message error hframed rfl
      obtain ⟨m, hm⟩ := framed_ok hr hframed
      cases hm
    cases h with
    | client hpc₀ hrule =>
      obtain rfl := Option.some.inj (hpc.symm.trans hpc₀)
      cases hrule with
      | disconnects _ _ same =>
        obtain rfl := (Option.some.inj hcon).symm
        refine .leaves (Function.update_self _ _ _) ?_
        rw [show (_ : RelayState).relay.active_relayed_connections = _ from same.active]
        simp
      | receiveFails he =>
        simp [RelayState.valid, hpc, he] at hvalid
      | malformed hbad =>
        simp [RelayState.valid, hbad] at hvalid
      | ignores =>
        obtain rfl := (Option.some.inj hcon).symm
        exact .stays (inLoop_of_continueLoop s haccess _)
      | forwards hc _ hsend =>
        obtain rfl := (Option.some.inj hcon).symm
        cases hsend with
        | queues | sends => exact .stays ⟨_, Function.update_self _ _ _, rfl⟩
        | unencodable hm => exact absurd hm (hencodes ⟨_, _, hc, rfl⟩)
      | forwarding _ hsend =>
        obtain rfl := (Option.some.inj hcon).symm
        cases hsend with
        | sends => exact .stays ⟨_, Function.update_self _ _ _, rfl⟩
        | unencodable hm =>
          exact absurd hm (hencodes ((outgoing hr).forwarding A c _ _ hpc))
        | completes same =>
          exact .stays (inLoop_of_continueLoop (s.withRelay _)
            ((congrFun same.access c).trans haccess) _)
        | fails =>
          have hgone := hpeer rfl
          simp only [RelayState.peer?, hpc, Option.all_some] at hgone
          exact .fails hgone (by simp [forwarded])
      | advances hun => cases pc <;> first | cases hcon; done | cases hun
      | refuses hrefuse => rcases hrefuse with ⟨m, rfl⟩ | rfl <;> cases hcon
      | joined hjoin => rcases hjoin with rfl | rfl <;> cases hcon
      | _ => cases hcon
  · refine .stays ⟨pc, ?_, hcon⟩
    rw [client_frame h (fun o he => hrun ⟨o, he⟩) ?_, hpc]
    rintro rfl
    cases h with
    | clientConnects hnone =>
      rw [hpc] at hnone
      cases hnone

/-- The close in the teardown of a session is a close of the task. -/
theorem closing?_client {A : ClientSocket} {pc : CloseRelayedConnection}
    (h : s.client A = some (.closing c pc)) : s.closing? (.client A) = some (c, pc) := by
  simp [closing?, h]

/-- A close that is under way tells the agent. -/
theorem CloseRelayedConnection.Said.told {pc : CloseRelayedConnection} (hsaid : pc.Said s.relay W c)
    (hpc : s.closing? t = some (c, pc)) : Told W gone s c := by
  match pc, hsaid with
  | .informing (.acquiring l), _ => exact .inr (.inl ⟨t, l, hpc⟩)
  | .informing (.sending _), hsent => exact .inl hsent
  | .closingClient, hsent => exact .inl hsent

/-! ## A reset -/

/-- A reset that the relay takes ends its connection, unless it has ended before. -/
theorem SoleAgent.reset_step (hS : SoleAgent W s) (hr : Reaches (step cfg) ok {} s)
    (h : RelayRule cfg s e s') (hother : e.sentOn W = false)
    (hgood : ∀ frame ∈ s.relay.inbox W, frame.malformed cfg = false)
    {frame : AgentFrame}
    (hsome : (s.relay.connection c).isSome = true) (hframe : frame ∈ s.relay.inbox W)
    (hreset : frame.reset? = some c) : frame ∈ s'.relay.inbox W ∨ Departing gone s' c := by
  have hI := registryInv hr
  cases agents_of_rule h with
  | same hagents =>
    rw [show s'.relay.inbox = s.relay.inbox from congrArg AgentSide.inbox hagents]
    exact .inl hframe
  | sends W' frame' he =>
    subst he
    have hne : W ≠ W' := by
      rintro rfl
      simp [RelayEvent.sentOn] at hother
    cases h with
    | agentSends => exact .inl (by simpa [hne] using hframe)
  | dies W' he =>
    subst he
    cases h with
    | agentDies => exact .inl hframe
  | @starts W' o first rest _ hpc =>
    -- The handshake takes frames only before there is a connection.
    obtain ⟨connection, hc⟩ := Option.isSome_iff_exists.mp hsome
    obtain ⟨hW, -⟩ := hS.connection c connection hc
    obtain ⟨n, hdone⟩ := hI.connection c connection hc
    rw [hW] at hdone
    rcases eq_or_ne W' W with rfl | hne
    · rw [hpc] at hdone
      cases hdone
    · rw [hS.handshake W' hne] at hpc
      cases hpc
  | @receives W' n first rest he hpc hin hagents =>
    obtain rfl := hS.msgLoop hI hpc
    rw [hin, List.mem_cons] at hframe
    rcases hframe with rfl | hframe
    · refine .inr ?_
      subst he
      cases h with
      | msgLoop hpc₀ hrule =>
        obtain ⟨rfl, rfl⟩ := MsgLoopTask.mk.inj (Option.some.inj (hpc.symm.trans hpc₀))
        cases hrule with
        | receives hin' hrule =>
          obtain ⟨rfl, rfl⟩ := List.cons.inj (hin.symm.trans hin')
          cases hrule with
          | stops hbad =>
            rw [hgood frame (by rw [hin]; exact List.mem_cons_self)] at hbad
            cases hbad
          | ignores _ _ hunknown =>
            refine .inl fun hact => ?_
            have hnone : s.relay.connection c = none := hunknown c hreset hact
            rw [hnone] at hsome
            cases hsome
          | fills hdata =>
            rw [AgentFrame.data?_of_reset? hreset] at hdata
            cases hdata
          | schedules hreset' _ hc hcls =>
            -- The connections of access clients are of the other class.
            obtain rfl := Option.some.inj (hreset'.symm.trans hreset)
            obtain ⟨-, A, connection, hc', -, hcls'⟩ := hS.connection _ _ hc
            have hc : s.relay.connection _ = some _ := hc
            obtain rfl := Option.some.inj (hc.symm.trans hc')
            rw [hcls] at hcls'
            cases hcls'
          | resets hreset' =>
            obtain rfl := Option.some.inj (hreset'.symm.trans hreset)
            exact .inr (.inl ⟨.msgLoop W', _, by simp [closing?]; rfl⟩)
          | answers hans | blocks hans =>
            rw [AgentFrame.answer?_of_reset? hreset] at hans
            cases hans
          | custom _ _ hnone =>
            rw [hnone] at hreset
            cases hreset
        | disconnects ho => simp at ho
    · refine .inl ?_
      rw [show s'.relay.inbox W' = (s.relay.setInbox W' rest).inbox W' from
        congrFun (congrArg AgentSide.inbox hagents) W']
      simpa using hframe

/-! ## The invariant -/

/-- What is under way for the connections that a departure concerns. -/
structure Departures (W : AgentSocket) (gone : Peer → Bool) (s : RelayState) : Prop where
  said : ∀ t c pc, s.closing? t = some (c, pc) → pc.Said s.relay W c
  closed : ∀ A c pc, s.client A = some (.closing c pc) → c ∉ s.relay.active_relayed_connections
  access : ∀ c A, s.relay.active_access_client_connections c = some A →
    s.InLoop A c ∨ gone .agent = true
  closingClient : ∀ t c, s.closing? t = some (c, .closingClient) →
    c ∉ s.relay.active_relayed_connections ∨ (∃ A, s.InLoop A c) ∨ gone .agent = true
  reader : ∀ c reader, s.reader c = some reader →
    Told W gone s c ∨ s.InLoop reader.access_client_connection c
  dropped : ∀ c, (s.relay.connection c).isSome = true → c ∉ s.relay.active_relayed_connections →
    Told W gone s c ∨ Leaving gone s c
  told : ∀ c, closeMessage c ∈ s.relay.to_agent W →
    (s.relay.connection c).isSome = true ∧ Departing gone s c
  tearing : ∀ n pc, s.msgLoop W = some ⟨n, pc⟩ → pc.ended = true → gone .agent = true

namespace Departures

/-- At the start nothing departs. -/
theorem initial (W : AgentSocket) (gone : Peer → Bool) : Departures W gone {} where
  said t _ _ h := by cases t <;> cases h
  closed _ _ _ h := by cases h
  access _ _ h := by cases h
  closingClient t _ h := by cases t <;> cases h
  reader _ _ h := by cases h
  dropped _ h := by cases h
  told _ h := by cases h
  tearing _ _ h := by cases h

/-- More peers have gone, and frames have arrived. -/
theorem mono (hD : Departures W gone s) {gone' : Peer → Bool}
    (hgone : ∀ p, gone p = true → gone' p = true) (frames : List AgentFrame) :
    Departures W gone' (s.arrive W frames) where
  said := hD.said
  closed := hD.closed
  access c A hA := (hD.access c A hA).imp_right (hgone _)
  closingClient t c hpc := (hD.closingClient t c hpc).imp_right (Or.imp_right (hgone _))
  reader c reader hr := (hD.reader c reader hr).imp_left (Or.imp_right (Or.imp_right (hgone _)))
  dropped c hc hnot := by
    rcases hD.dropped c hc hnot with htold | ⟨A, hA, hin⟩
    · exact .inl (htold.imp_right (Or.imp_right (hgone _)))
    · exact .inr ⟨A, hgone _ hA, hin⟩
  told c hc := by
    obtain ⟨hsome, hnot | hclosing | ⟨A, hA, hin⟩ | hagent⟩ := hD.told c hc
    · exact ⟨hsome, .inl hnot⟩
    · exact ⟨hsome, .inr (.inl hclosing)⟩
    · exact ⟨hsome, .inr (.inr (.inl ⟨A, hgone _ hA, hin⟩))⟩
    · exact ⟨hsome, .inr (.inr (.inr (hgone _ hagent)))⟩
  tearing n pc hpc hended := hgone _ (hD.tearing n pc hpc hended)

section
variable (hD : Departures W gone s) (hS : SoleAgent W s) (hr : Reaches (step cfg) ok {} s)
  (hS' : SoleAgent W s') (hr' : Reaches (step cfg) ok {} s')
  (hok : s.permits W gone e = true) (h : RelayRule cfg s e s')
include hD hS hr hS' hr' h

/-- A close that says what it has sent tells the agent. -/
theorem told_of_closing {pc : CloseRelayedConnection} (hpc : s'.closing? t = some (c, pc)) :
    Told W gone s' c :=
  (hS.said_step hr hS' (registryInv hr') hD.said h hpc).told hpc

/-- What the agent has been told it stays told. -/
theorem told_step (htold : Told W gone s c) : Told W gone s' c := by
  rcases htold with hsent | ⟨t, l, hpc⟩ | hagent
  · exact .inl ((h.evolves.to_agent W).subset hsent)
  · by_cases hrun : ∃ o, e = .run t o
    · obtain ⟨o, rfl⟩ := hrun
      cases hS.close_moved hr hpc h with
      | informs hpc' => exact hD.told_of_closing hS hr hS' hr' h hpc'
      | drops hne | raises hne => exact absurd rfl (hne l)
    · have hpc' := (closing_frame hr h fun o he => hrun ⟨o, he⟩).trans hpc
      exact .inr (.inl ⟨t, l, hpc'⟩)
  · exact .inr (.inr hagent)

include hok

/-- A session that leaves its loop tells the agent. -/
theorem loop_step {A : ClientSocket} (hin : s.InLoop A c) :
    s'.InLoop A c ∨ Told W gone s' c := by
  cases loop_moved hr hok h hin with
  | stays hin' => exact .inl hin'
  | leaves hpc' => exact .inr (hD.told_of_closing hS hr hS' hr' h (closing?_client hpc'))
  | fails hagent => exact .inr (.inr (.inr hagent))

/-- A session whose client has gone stays in its loop or tells the agent. -/
theorem leaving_step (hleaving : Leaving gone s c) : Told W gone s' c ∨ Leaving gone s' c := by
  obtain ⟨A, hA, hin⟩ := hleaving
  exact (hD.loop_step hS hr hS' hr' hok h hin).symm.imp_right fun hin' => ⟨A, hA, hin'⟩

omit hS hS' hr' in
/-- The connection that the teardown of a session closes is not active. -/
theorem closed_step {A : ClientSocket} {pc : CloseRelayedConnection}
    (hpc' : s'.client A = some (.closing c pc)) : c ∉ s'.relay.active_relayed_connections := by
  have hkept : ∀ {pc}, s.closing? (.client A) = some (c, pc) →
      c ∉ s'.relay.active_relayed_connections := by
    intro pc hpc
    have hclient := closing_client hpc
    obtain ⟨connection, hc, -⟩ := (ownership hr).client A _ c hclient rfl
    exact not_active_evolves (hD.closed A c pc hclient) hc h.evolves
  cases closing_of_rule h (closing?_client hpc') with
  | same hpc => exact hkept hpc
  | moved _ hpc => exact hkept hpc
  | started he _ hstarted =>
    cases hstarted with
    | left hpc hcon =>
      cases loop_moved hr hok h ⟨_, hpc, hcon⟩ with
      | stays hin =>
        obtain ⟨pc₁, hpc₁, hcon₁⟩ := hin
        obtain rfl := Option.some.inj (hpc₁.symm.trans hpc')
        cases hcon₁
      | leaves _ hnot => exact hnot
      | fails _ hne => exact absurd hpc' (hne pc)
    | next hpc => cases hpc

omit hD hS hS' hr' in
/-- What holds of the connection of a session in its loop after the next step. -/
theorem served_step {A : ClientSocket} (hin : s.InLoop A c) :
    c ∉ s'.relay.active_relayed_connections ∨ (∃ A, s'.InLoop A c) ∨ gone .agent = true := by
  cases loop_moved hr hok h hin with
  | stays hin' => exact .inr (.inl ⟨A, hin'⟩)
  | leaves _ hnot => exact .inl hnot
  | fails hagent => exact .inr (.inr hagent)

omit hS hS' in
/-- The access client of a connection has its session in the loop. -/
theorem access_step {A : ClientSocket}
    (hA' : s'.relay.active_access_client_connections c = some A) :
    s'.InLoop A c ∨ gone .agent = true := by
  rcases Ownership.access_before h hA' with hA | hpc'
  · rcases hD.access c A hA with hin | hagent
    · cases loop_moved hr hok h hin with
      | stays hin' => exact .inl hin'
      | leaves hpc' =>
        obtain ⟨hnone, -⟩ := (ownership hr').leaving A _ c hpc' rfl
        rw [hnone] at hA'
        cases hA'
      | fails hagent => exact .inr hagent
    · exact .inr hagent
  · exact .inl ⟨_, hpc', rfl⟩

omit hS' hr' in
/-- A close that waits for the access client to be closed has its session in the loop, or its
connection is not active. -/
theorem closingClient_step (hpc' : s'.closing? t = some (c, .closingClient)) :
    c ∉ s'.relay.active_relayed_connections ∨ (∃ A, s'.InLoop A c) ∨ gone .agent = true := by
  rcases closingClient_of_rule h hpc' with hpc | ⟨A, hA, -⟩
  · rcases hD.closingClient t c hpc with hnot | ⟨A, hin⟩ | hagent
    · obtain ⟨connection, hc⟩ := Option.isSome_iff_exists.mp (hS.closing_connection hr hpc)
      exact .inl (not_active_evolves hnot hc h.evolves)
    · exact served_step hr hok h hin
    · exact .inr (.inr hagent)
  · rcases hD.access c A hA with hin | hagent
    · exact served_step hr hok h hin
    · exact .inr (.inr hagent)

/-- The reader of a connection has its session in the loop, or the agent is told. -/
theorem reader_step {reader' : Reader} (hreader' : s'.reader c = some reader') :
    Told W gone s' c ∨ s'.InLoop reader'.access_client_connection c := by
  rcases Ownership.reader_before h hreader' with ⟨reader, hreader, heq⟩ | hpc'
  · rw [heq]
    rcases hD.reader c reader hreader with htold | hin
    · exact .inl (hD.told_step hS hr hS' hr' h htold)
    · exact (hD.loop_step hS hr hS' hr' hok h hin).symm
  · exact .inr ⟨_, hpc', rfl⟩

omit hS' hr' in
/-- A close that fails does so because of a peer that has gone. -/
theorem failing_step (hquiet : s.tearsQuietly e = true) {pc : CloseRelayedConnection}
    {error : WsError} (hpc : s.closing? t = some (c, pc)) (he : e = .run t (.raised error))
    (htearing : ∀ td, s.tearing? t = some td → td.raises (.raised error) = true) :
    Departing gone s' c := by
  subst he
  obtain ⟨connection, hc⟩ := Option.isSome_iff_exists.mp (hS.closing_connection hr hpc)
  have hgone := (permits_run hok).1 rfl
  rcases hS.closing_cases (registryInv hr) hpc with ⟨rfl, n, hloop⟩ |
    ⟨rfl, n, td, hloop, rfl, rfl⟩ | ⟨A, rfl, hA⟩
  · simp only [RelayState.peer?, hloop] at hgone
    match pc, hpc with
    | .informing send, _ => exact .inr (.inr (.inr (by simpa [closePeer?] using hgone)))
    | .closingClient, hpc =>
      rcases hD.closingClient _ c hpc with hnot | ⟨A, hin⟩ | hagent
      · exact .inl (not_active_evolves hnot hc h.evolves)
      · obtain ⟨pc, hA, hcon⟩ := hin
        obtain ⟨connection', hc', hcreator, -⟩ :=
          (ownership hr).client A pc c hA (Client.connection_id?_of_connected hcon)
        have hpeer : s.clientOf c = some A := by simp [clientOf, hc', hcreator]
        simp only [closePeer?, hpeer, Option.map_some, Option.all_some] at hgone
        cases loop_moved hr hok h ⟨pc, hA, hcon⟩ with
        | stays hin' => exact .inr (.inr (.inl ⟨A, hgone, hin'⟩))
        | leaves _ hnot => exact .inl hnot
        | fails hagent => exact .inr (.inr (.inr hagent))
      · exact .inr (.inr (.inr hagent))
  · -- This is the close that must not fail.
    have htd : s.tearing? (.msgLoop W) = some td := by simp [tearing?, hloop]
    have hraises := htearing td htd
    simp only [RelayState.tearsQuietly, htd, Option.all_some, hraises] at hquiet
    cases hquiet
  · exact .inl (not_active_evolves (hD.closed A c pc hA) hc h.evolves)

omit hS' hr' in
/-- A connection that departs goes on departing. -/
theorem departing_step (hquiet : s.tearsQuietly e = true)
    (hsome : (s.relay.connection c).isSome = true) (hdeparting : Departing gone s c) :
    Departing gone s' c := by
  obtain ⟨connection, hc⟩ := Option.isSome_iff_exists.mp hsome
  rcases hdeparting with hnot | ⟨t, pc, hpc⟩ | ⟨A, hA, hin⟩ | hagent
  · exact .inl (not_active_evolves hnot hc h.evolves)
  · by_cases hrun : ∃ o, e = .run t o
    · obtain ⟨o, rfl⟩ := hrun
      cases hS.close_moved hr hpc h with
      | informs hpc' | closesClient hpc' => exact .inr (.inl ⟨t, _, hpc'⟩)
      | drops _ hnot => exact .inl hnot
      | raises _ ho htearing =>
        subst ho
        exact hD.failing_step hS hr hok h hquiet hpc rfl htearing
    · exact .inr (.inl ⟨t, pc, (closing_frame hr h fun o he => hrun ⟨o, he⟩).trans hpc⟩)
  · cases loop_moved hr hok h hin with
    | stays hin' => exact .inr (.inr (.inl ⟨A, hA, hin'⟩))
    | leaves _ hnot => exact .inl hnot
    | fails hagent => exact .inr (.inr (.inr hagent))
  · exact .inr (.inr (.inr hagent))

/-- A connection that is dropped: the agent has been told, or the session is on its way out. -/
theorem lost_step (hlost : Lost s c e) : Told W gone s' c ∨ Leaving gone s' c := by
  cases hlost with
  | unattached hpc | closed hpc =>
    have htold : Told W gone s c := (hD.said _ _ _ hpc).told hpc
    exact .inl (hD.told_step hS hr hS' hr' h htold)
  | @disconnected A o hpc ho =>
    cases h with
    | client hpc₀ hrule =>
      obtain rfl := Option.some.inj (hpc.symm.trans hpc₀)
      have h : RelayRule cfg s (.run (.client A) o) s' := .client hpc₀ hrule
      cases hrule with
      | disconnects =>
        exact .inl (hD.told_of_closing hS hr hS' hr' h
          (closing?_client (Function.update_self _ _ _)))
      | receiveFails he => rcases ho with ho | ho <;> simp_all
      | malformed | ignores | forwards => simp at ho
      | refuses hrefuse => simp at hrefuse
      | advances hun => cases hun
      | joined hjoin => simp at hjoin
  | @reader reader o hreader why =>
    rcases hD.reader c reader hreader with htold | hin
    · exact .inl (hD.told_step hS hr hS' hr' h htold)
    · obtain ⟨pc, hpc, hcon⟩ := hin
      obtain ⟨-, reader', hreader', hnot⟩ := (ownership hr).connected _ pc c hpc hcon
      obtain rfl := Option.some.inj (hreader.symm.trans hreader')
      rcases why with hcancelled | ⟨error, rfl⟩
      · rw [hnot] at hcancelled
        cases hcancelled
      · have hgone := (permits_run hok).1 rfl
        simp only [RelayState.peer?, hreader, Option.map_some, Option.all_some] at hgone
        exact hD.leaving_step hS hr hS' hr' hok h ⟨_, hgone, pc, hpc, hcon⟩

/-- A connection that the step drops is told, or its client leaves. -/
theorem dropped_step (hsome' : (s'.relay.connection c).isSome = true)
    (hnot' : c ∉ s'.relay.active_relayed_connections) : Told W gone s' c ∨ Leaving gone s' c := by
  cases hc : s.relay.connection c with
  | none =>
    -- The step has created the connection, which is active then.
    obtain ⟨connection', hc'⟩ := Option.isSome_iff_exists.mp hsome'
    obtain ⟨-, pc, hpending, rfl⟩ := connection_new h hc hc'
    have hpublished : ∀ {t pc₀}, s.pending? t = some pc₀ →
        s.relay.connection pc₀.connection_id ≠ none := by
      intro t pc₀ hpc₀ hnone
      obtain ⟨connection, hconn, -⟩ := (outgoing hr).pending t pc₀ hpc₀
      rw [hnone] at hconn
      cases hconn
    cases pending_of_rule h hpending with
    | same _ hpc => exact absurd hc (hpublished hpc)
    | moved _ hpc hstep =>
      obtain ⟨-, hid, -⟩ := hstep.parked
      rw [hid] at hc
      exact absurd hc (hpublished hpc)
    | published _ _ _ _ hactive => exact absurd hactive hnot'
  | some connection =>
    by_cases hact : c ∈ s.relay.active_relayed_connections
    · exact hD.lost_step hS hr hS' hr' hok h (lost_of_rule hact h hnot')
    · rcases hD.dropped c (by rw [hc]; rfl) hact with htold | hleaving
      · exact .inl (hD.told_step hS hr hS' hr' h htold)
      · exact hD.leaving_step hS hr hS' hr' hok h hleaving

/-- A connection whose close message the step sends departs. -/
theorem sent_step (hquiet : s.tearsQuietly e = true)
    (hsent' : closeMessage c ∈ s'.relay.to_agent W) :
    (s'.relay.connection c).isSome = true ∧ Departing gone s' c := by
  rcases (sends_of_rule h).mem hsent' with hsent | hnew
  · obtain ⟨hsome, hdeparting⟩ := hD.told c hsent
    refine ⟨?_, hD.departing_step hS hr hok h hquiet hsome hdeparting⟩
    obtain ⟨connection, hc⟩ := Option.isSome_iff_exists.mp hsome
    obtain ⟨connection', hc', -⟩ := h.evolves.connection c connection hc
    rw [hc']
    rfl
  · obtain ⟨t, send, hpc'⟩ := hnew.closing hr
    exact ⟨hS'.closing_connection hr' hpc', .inr (.inl ⟨t, _, hpc'⟩)⟩

omit hS hr hS' hr' in
/-- The message loop ends by a departure of the agent, as no frame stops it. -/
theorem tearing_step
    (hgood : ∀ frame ∈ s.relay.inbox W, frame.malformed cfg = false) {n : AgentId} {pc' : MsgLoop}
    (hpc' : s'.msgLoop W = some ⟨n, pc'⟩) (hended : pc'.ended = true) : gone .agent = true := by
  by_cases hrun : ∃ o, e = .run (.msgLoop W) o
  · obtain ⟨o, rfl⟩ := hrun
    obtain ⟨hpeer, -⟩ := permits_run hok
    cases h with
    | @msgLoop _ n₀ pc₀ _ _ hpc hrule =>
      have hnot : ∀ {s₁ : RelayState} {pc₁ : MsgLoop}, pc₁.ended = false →
          (s₁.setMsgLoop W ⟨n₀, pc₁⟩).msgLoop W ≠ some ⟨n, pc'⟩ := by
        intro s₁ pc₁ hopen heq
        obtain ⟨-, rfl⟩ : n₀ = n ∧ pc₁ = pc' := by simpa using heq
        rw [hopen] at hended
        cases hended
      cases hrule with
      | disconnects ho =>
        have hlost : o.lost = true := by rcases ho with rfl | rfl <;> rfl
        simpa [RelayState.peer?, hpc] using hpeer hlost
      | receiveFails => simpa [RelayState.peer?, hpc] using hpeer rfl
      | receives hin hframe =>
        cases hframe with
        | stops hbad =>
          rw [hgood _ (by rw [hin]; exact List.mem_cons_self)] at hbad
          cases hbad
        | _ => exact absurd hpc' (hnot rfl)
      | @resetting _ _ _ _ r' res => cases res <;> exact absurd hpc' (hnot rfl)
      | puts | customHandled => exact absurd hpc' (hnot rfl)
      | tearingDown => exact hD.tearing n₀ _ hpc rfl
  · rcases msgLoop_created h (fun o he => hrun ⟨o, he⟩) hpc' with hpc | rfl
    · exact hD.tearing n pc' hpc hended
    · cases hended

/-- A step that tears down quietly keeps what is under way. -/
theorem preserved (hquiet : s.tearsQuietly e = true)
    (hgood : ∀ frame ∈ s.relay.inbox W, frame.malformed cfg = false) : Departures W gone s' where
  said _ _ _ := hS.said_step hr hS' (registryInv hr') hD.said h
  closed _ _ _ := hD.closed_step hr hok h
  access _ _ := hD.access_step hr hr' hok h
  closingClient _ _ := hD.closingClient_step hS hr hok h
  reader _ _ := hD.reader_step hS hr hS' hr' hok h
  dropped _ := hD.dropped_step hS hr hS' hr' hok h
  told _ := hD.sent_step hS hr hS' hr' hok h hquiet
  tearing _ _ := hD.tearing_step hok h hgood

end

end Departures

end HttpNetworkRelay
