import HttpNetworkRelay.Link.Departures

/-!
# A close comes after the request

On the websocket of the agent the close message of a connection does not come before the request for
it, as long as the agent is there. A request that waits for the lock is that of a create call, and
nobody closes the connection of a create call but a teardown: its session is not in its loop yet,
and the agent does not reset what it has not been asked for.
-/

namespace HttpNetworkRelay

open Asyncio Python RelayState NetworkRelay

/-- While the agent is there, a close comes after the request for its connection. -/
structure ClosesLater (W : AgentSocket) (gone : Peer → Bool) (s : RelayState) : Prop where
  unrequested : ∀ c, Unrequested s c → gone .agent = true ∨
    closeMessage c ∉ s.relay.to_agent W ∧ ∀ t pc, s.closing? t ≠ some (c, pc)
  ordered : gone .agent = true ∨ ∀ l₁ m l₂ c, s.relay.to_agent W = l₁ ++ m :: l₂ →
    m.received.asks? = some c → closeMessage c ∉ l₁

variable {cfg : RelayConfig} {W : AgentSocket} {gone : Peer → Bool} {s s' : RelayState}
  {e : RelayEvent} {t : Task} {o : Outcome} {c : ConnectionId}
  {ok : RelayState → RelayEvent → Prop}

/-- A connection whose request waits for the lock did so before the step, or is new. -/
theorem unrequested_before (h : RelayRule cfg s e s') (hun : Unrequested s' c) :
    Unrequested s c ∨ s.relay.connection c = none := by
  obtain ⟨t, pc, l, hpc, hpoint, rfl⟩ := hun
  cases pending_of_rule h hpc with
  | same _ hpc => exact .inl ⟨t, pc, l, hpc, hpoint, rfl⟩
  | moved _ _ hstep => exact absurd hpoint (hstep.not_acquiring l)
  | published hnone => exact .inr hnone

/-- Where there is a teardown, the agent has gone. -/
theorem Departures.tearing_gone (hD : Departures W gone s) (hS : SoleAgent W s)
    (hI : RegistryInv s) {pc : EdgeAgentConnectionClose} (hpc : s.tearing? t = some pc) :
    gone .agent = true := by
  unfold tearing? at hpc
  split at hpc
  case h_1 ws =>
    split at hpc
    case h_1 m n pc' heq =>
      rcases eq_or_ne ws W with rfl | hne
      · exact absurd heq (hS.evicting m n pc')
      · rw [hS.handshake ws hne] at heq
        cases heq
    case h_2 => cases hpc
  case h_2 ws =>
    split at hpc
    case h_1 n pc' heq =>
      obtain rfl := hS.msgLoop hI heq
      exact hD.tearing n _ heq rfl
    case h_2 => cases hpc
  case h_3 => cases hpc

namespace ClosesLater

/-- At the start nothing has been closed. -/
theorem initial (W : AgentSocket) (gone : Peer → Bool) : ClosesLater W gone {} where
  unrequested _ h := by
    obtain ⟨t, _, _, hpc, -⟩ := h
    cases t <;> cases hpc
  ordered := .inr fun l₁ _ _ _ h => by simp at h

/-- The order is kept as more peers go and frames arrive. -/
theorem mono (hL : ClosesLater W gone s) {gone' : Peer → Bool}
    (hgone : ∀ p, gone p = true → gone' p = true) (frames : List AgentFrame) :
    ClosesLater W gone' (s.arrive W frames) where
  unrequested c hun := (hL.unrequested c hun).imp_left (hgone _)
  ordered := hL.ordered.imp_left (hgone _)

section
variable (hL : ClosesLater W gone s) (hS : SoleAgent W s) (hD : Departures W gone s)
  (hr : Reaches (step cfg) ok {} s) (hok : s.permits W gone e = true)
  (hresets : ∀ frame ∈ s.relay.inbox W, ∀ c, frame.reset? = some c →
    ∃ m ∈ s.relay.to_agent W, m.received.About c) (h : RelayRule cfg s e s')
include hS hD hr hok hresets

/-- A close of a connection that the agent has not been asked for starts as the agent has gone. -/
theorem started_gone (hun : Unrequested s c ∨ s.relay.connection c = none) (he : e = .run t o)
    (hstarted : Started s c t o) : gone .agent = true := by
  subst he
  have hI := registryInv hr
  have hunasked := (requestsFirst hr).not_about hr hun W
  cases hstarted with
  | reset hpc hin hreset =>
    obtain rfl := hS.msgLoop hI hpc
    obtain ⟨m, hm, habout⟩ := hresets _ (by rw [hin]; exact List.mem_cons_self) c hreset
    exact absurd habout (hunasked m hm)
  | teardown hpc ho =>
    obtain rfl := hS.msgLoop hI hpc
    have hlost : o.lost = true := by rcases ho with rfl | rfl <;> rfl
    simpa [RelayState.peer?, hpc] using (permits_run hok).1 hlost
  | @eviction W' m n ws hpc hreg =>
    -- Only the websocket that is registered has a handshake, and it is over.
    have hdone := hI.registered n ws hreg
    obtain rfl := hS.registered_eq hI hreg
    rcases eq_or_ne W' ws with rfl | hne
    · rw [hpc] at hdone
      cases hdone
    · rw [hS.handshake W' hne] at hpc
      cases hpc
  | next hpc => exact hD.tearing_gone hS hI hpc
  | @left A _ pc hpc hcon =>
    obtain ⟨connection, hc, hcreator, -⟩ :=
      (ownership hr).client A pc c hpc (Client.connection_id?_of_connected hcon)
    rcases hun with ⟨t', pc', l, hpc', -, rfl⟩ | hnone
    · obtain ⟨connection', hc', -, hcreator'⟩ := (outgoing hr).pending t' pc' hpc'
      obtain rfl := Option.some.inj (hc.symm.trans hc')
      rw [hcreator] at hcreator'
      subst hcreator'
      cases pc with
      | creating => cases hcon
      | _ => simp [pending?, hpc] at hpc'
    · rw [hnone] at hc
      cases hc
  | @scheduled k _ hpc =>
    rw [hS.closer k] at hpc
    cases hpc

include hL h

/-- A close of a connection that was not requested before the step is under way only if the agent
has gone. -/
theorem closing_step (hun : Unrequested s c ∨ s.relay.connection c = none)
    {pc' : CloseRelayedConnection} (hpc' : s'.closing? t = some (c, pc')) : gone .agent = true := by
  have hclosing : ∀ {pc}, s.closing? t = some (c, pc) → gone .agent = true := by
    intro pc hpc
    rcases hun with hun | hnone
    · rcases hL.unrequested c hun with hagent | ⟨-, hnot⟩
      · exact hagent
      · exact absurd hpc (hnot t pc)
    · have hsome := hS.closing_connection hr hpc
      rw [hnone] at hsome
      cases hsome
  cases closing_of_rule h hpc' with
  | same hpc => exact hclosing hpc
  | moved _ hpc => exact hclosing hpc
  | started he _ hstarted => exact started_gone hS hD hr hok hresets hun he hstarted

/-- The close message of such a connection is sent only if the agent has gone. -/
theorem unsent_step (hun : Unrequested s c ∨ s.relay.connection c = none)
    (hsent' : closeMessage c ∈ s'.relay.to_agent W) : gone .agent = true := by
  rcases (sends_of_rule h).mem hsent' with hsent | hnew
  · rcases hun with hun | hnone
    · rcases hL.unrequested c hun with hagent | ⟨hnot, -⟩
      · exact hagent
      · exact absurd hsent hnot
    · obtain ⟨hsome, -⟩ := hD.told c hsent
      rw [hnone] at hsome
      cases hsome
  · obtain ⟨t, send, hpc'⟩ := hnew.closing hr
    exact hL.closing_step hS hD hr hok hresets h hun hpc'

/-- While the agent is there, the messages after the step have no close before the request. -/
theorem ordered_step (hthere : gone .agent = false) {l₁ l₂ : List ToAgent} {m : ToAgent}
    (hsplit : s'.relay.to_agent W = l₁ ++ m :: l₂) (hasks : m.received.asks? = some c) :
    closeMessage c ∉ l₁ := by
  have hbefore : ∀ {l₁ m l₂ c}, s.relay.to_agent W = l₁ ++ m :: l₂ →
      m.received.asks? = some c → closeMessage c ∉ l₁ := by
    intro l₁ m l₂ c
    rcases hL.ordered with hagent | hordered
    · rw [hthere] at hagent
      cases hagent
    · exact hordered l₁ m l₂ c
  have hunsent : Unrequested s c ∨ s.relay.connection c = none →
      closeMessage c ∉ s'.relay.to_agent W := by
    intro hun hsent
    rw [hL.unsent_step hS hD hr hok hresets h hun hsent] at hthere
    cases hthere
  rcases sends_of_rule h with heq | ⟨W₀, m₀, hm₀, heq⟩
  · rw [heq] at hsplit
    exact hbefore hsplit hasks
  · rcases eq_or_ne W W₀ with rfl | hW
    · have hconcat : s.relay.to_agent W ++ [m₀] = l₁ ++ m :: l₂ := by
        rw [← hsplit, heq]
        simp
      rcases split_concat hconcat with ⟨-, rfl, -⟩ | ⟨l₃, -, hold⟩
      · -- The request has just been sent.
        intro hmem
        exact hunsent (hm₀.asks hr hasks) (by rw [hsplit]; exact List.mem_append_left _ hmem)
      · exact hbefore hold hasks
    · have hsame : s'.relay.to_agent W = s.relay.to_agent W := by
        rw [heq]
        simp [hW]
      rw [hsame] at hsplit
      exact hbefore hsplit hasks

/-- A step keeps the order. -/
theorem preserved : ClosesLater W gone s' where
  unrequested c hun := by
    have hbefore := unrequested_before h hun
    by_cases hagent : gone .agent = true
    · exact .inl hagent
    · refine .inr ⟨fun hsent => ?_, fun t pc hpc => ?_⟩
      · exact hagent (hL.unsent_step hS hD hr hok hresets h hbefore hsent)
      · exact hagent (hL.closing_step hS hD hr hok hresets h hbefore hpc)
  ordered := by
    cases hagent : gone .agent with
    | true => exact .inl rfl
    | false =>
      exact .inr fun _ _ _ _ => hL.ordered_step hS hD hr hok hresets h hagent

end

end ClosesLater

end HttpNetworkRelay
