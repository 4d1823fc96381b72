import Mathlib.Tactic.Linarith
import Mathlib.Data.Rat.Cast.Order
import HttpNetworkRelay.Agent.Rules
import HttpNetworkRelay.Asyncio.Backoff
import HttpNetworkRelay.Asyncio.Trace

/-!
# The agent and its clock

`async_main` with the variables that decide when it connects again, and with a clock, which does not
go back. `time.sleep` blocks the event loop: nothing else happens in the meantime. What happens
between two sleeps are steps of the agent, which take no time, and waiting. `agent_run` says of the
part about the agent that it is a run as before.

`reconnects_backed_off` is the policy that the variables implement. Connections that do not last a
minute are followed by a truncated exponential backoff, and one that does starts it again.
-/

namespace HttpNetworkRelay

open Asyncio Python

/-- The text of the exception that a step of the main task runs into: the one that it was resumed
with, or one that the code raises itself, whose text is `own`. -/
def AgentOutcome.textOf (o : AgentOutcome) (own : String) (error : AgentExc) : String :=
  match o with
  | .raised e text => if e = error then text else own
  | _ => own

/-- `async_main` with its variables. `raising` is the text of the exception that is about to leave
`connect_to_server`. -/
structure ReconnectingAgent where
  agent : AgentState := {}
  now : ℚ := 0
  connection_delay : ℕ := 1
  last_connection_attempt_time : ℚ := 0
  last_error : Option String := none
  raising : Option String := none

/-- What can happen to the agent and its clock. -/
inductive ReconnectEvent
  /-- A task of the agent is resumed; `text` is that of an exception that the code then raises
  itself. -/
  | agent (e : AgentEvent) (text : String := "")
  | wait (time : ℚ)
  /-- `on_connection_closed` has returned, and `time.sleep` takes so long. -/
  | sleep (time : ℚ)
  deriving DecidableEq, Repr

/-- A connection has come to its end: when it was attempted, which is `0` for the first, when the
end has been dealt with, and the delay for which `time.sleep` is called then. -/
structure Reconnect where
  attempted : ℚ
  closed : ℚ
  connection_delay : ℕ
  deriving DecidableEq, Repr

/-- The connection has been stable. -/
def Reconnect.stable (r : Reconnect) : Bool := 60 ≤ r.closed - r.attempted

namespace ReconnectingAgent

variable (cfg : AgentConfig) (s : ReconnectingAgent)

/-- `connection_delay`, as it is when `time.sleep` is called. -/
def delay : ℕ := if s.now - s.last_connection_attempt_time ≥ 60 then 1 else s.connection_delay

/-- `raising`, after the main task has been resumed. -/
def raisedBy (o : AgentOutcome) (text : String) : AgentMain → Option String
  | .leaving (some error) => some (o.textOf text error)
  | _ => none

/-- `last_error`, after the main task has been resumed. -/
def errorAfter (o : AgentOutcome) : Option String :=
  match s.agent.main, o with
  | .connecting, .raised _ text => some text
  | .leaving _, .raised _ text => some text
  | .leaving _, _ => s.raising.or s.last_error
  | _, _ => s.last_error

/-- The main task has been resumed. -/
def afterMain (o : AgentOutcome) (text : String) (agent : AgentState) : ReconnectingAgent :=
  { s with agent, last_error := s.errorAfter o, raising := raisedBy o text agent.main }

/-- `time.sleep` has taken so long, and a new connection is attempted. -/
def slept (time : ℚ) (agent : AgentState) : ReconnectingAgent :=
  { s with
    agent
    now := s.now + time
    connection_delay := min (2 * s.delay) 60
    last_connection_attempt_time := s.now + time }

/-- The connection that has come to its end. -/
def reconnect : Reconnect where
  attempted := s.last_connection_attempt_time
  closed := s.now
  connection_delay := s.delay

/-- What an event shows. -/
def shows : ReconnectEvent → List Reconnect
  | .sleep _ => [s.reconnect]
  | _ => []

/-- The state after an event, if it can happen. -/
def step : ReconnectEvent → Option ReconnectingAgent
  | .agent (.main o) text =>
    if s.agent.main = .closed ∧ o = .ok then none
    else (agentStep cfg s.agent (.main o)).map (s.afterMain o text)
  | .agent e _ => (agentStep cfg s.agent e).map fun agent => { s with agent }
  | .wait time => if 0 ≤ time then some { s with now := s.now + time } else none
  | .sleep time =>
    if s.agent.main = .closed ∧ s.delay ≤ time then
      (agentStep cfg s.agent (.main .ok)).map (s.slept time)
    else none

end ReconnectingAgent

/-! ## Every step is one of these -/

/-- What a step does to the clock and to the variables about it. -/
inductive ClockRule (s : ReconnectingAgent) : ReconnectEvent → ReconnectingAgent → Prop
  | agent {e text s'} (hnow : s'.now = s.now) (hdelay : s'.connection_delay = s.connection_delay)
      (hlast : s'.last_connection_attempt_time = s.last_connection_attempt_time) :
      ClockRule s (.agent e text) s'
  | wait {time} (htime : 0 ≤ time) : ClockRule s (.wait time) { s with now := s.now + time }
  | sleep {time : ℚ} {agent} (hclosed : s.agent.main = .closed) (htime : s.delay ≤ time) :
      ClockRule s (.sleep time) (s.slept time agent)

variable {cfg : AgentConfig} {s s' : ReconnectingAgent} {e : ReconnectEvent}
  {ok : ReconnectingAgent → ReconnectEvent → Prop} {l : List Reconnect}

/-- Every step goes by one of the rules. -/
theorem clock_rule (h : s.step cfg e = some s') : ClockRule s e s' := by
  unfold ReconnectingAgent.step at h
  split at h
  case h_1 o text =>
    split_ifs at h
    obtain ⟨agent, -, rfl⟩ := Option.map_eq_some_iff.mp h
    exact .agent rfl rfl rfl
  case h_2 e text _ =>
    obtain ⟨agent, -, rfl⟩ := Option.map_eq_some_iff.mp h
    exact .agent rfl rfl rfl
  case h_3 time =>
    split_ifs at h with htime
    obtain rfl := Option.some.inj h
    exact .wait htime
  case h_4 time =>
    split_ifs at h with hsleep
    obtain ⟨agent, -, rfl⟩ := Option.map_eq_some_iff.mp h
    exact .sleep hsleep.1 hsleep.2

/-- The agent takes a step of its own, or none. -/
theorem agent_moves (h : s.step cfg e = some s') :
    s'.agent = s.agent ∨ ∃ e', agentStep cfg s.agent e' = some s'.agent := by
  unfold ReconnectingAgent.step at h
  split at h
  case h_1 o text =>
    split_ifs at h
    obtain ⟨agent, hagent, rfl⟩ := Option.map_eq_some_iff.mp h
    exact .inr ⟨_, hagent⟩
  case h_2 e text _ =>
    obtain ⟨agent, hagent, rfl⟩ := Option.map_eq_some_iff.mp h
    exact .inr ⟨_, hagent⟩
  case h_3 time =>
    split_ifs at h
    obtain rfl := Option.some.inj h
    exact .inl rfl
  case h_4 time =>
    split_ifs at h
    obtain ⟨agent, hagent, rfl⟩ := Option.map_eq_some_iff.mp h
    exact .inr ⟨_, hagent⟩

/-- The agent's part of a run is a run of the agent. -/
theorem agent_run (h : Reaches (ReconnectingAgent.step cfg) ok {} s) :
    Reaches (agentStep cfg) (fun _ _ => True) {} s.agent := by
  refine h.invariant (I := fun s => Reaches (agentStep cfg) (fun _ _ => True) {} s.agent) .init
    fun s e s' _ _ hstep hI => ?_
  rcases agent_moves hstep with hsame | ⟨e', hagent⟩
  · rw [hsame]
    exact hI
  · exact hI.step trivial hagent

/-! ## The policy -/

/-- The number of connections since the last stable one, or since the beginning. -/
def series (l : List Reconnect) : ℕ := l.foldl (fun n r => (if r.stable then 0 else n) + 1) 0

/-- One more connection continues the series, or begins a new one after a stable one. -/
theorem series_append (l : List Reconnect) (r : Reconnect) :
    series (l ++ [r]) = (if r.stable then 0 else series l) + 1 := by
  simp [series, List.foldl_append]

/-- A series of connections that do not last is as long as they are many. -/
theorem le_series (l rest : List Reconnect) (h : ∀ r ∈ rest, r.stable = false) :
    rest.length + series l ≤ series (l ++ rest) := by
  induction rest using List.reverseRecOn with
  | nil => simp
  | append_singleton rest r ih =>
    have hr := h r (by simp)
    have hrest := ih fun r hr => h r (List.mem_append_left _ hr)
    rw [← List.append_assoc, series_append, hr, List.length_append, List.length_singleton]
    show rest.length + 1 + series l ≤ series (l ++ rest) + 1
    omega

/-- What the agent's policy says of the connections that have come to their end. -/
structure BackedOff (l : List Reconnect) : Prop where
  /-- The delay after a connection. -/
  delay : ∀ l₁ r l₂, l = l₁ ++ r :: l₂ →
    r.connection_delay = backoff 1 60 (if r.stable then 0 else series l₁)
  /-- The delay has passed before the next connection is attempted. -/
  apart : ∀ l₁ (r r' : Reconnect) l₂, l = l₁ ++ r :: r' :: l₂ →
    r.closed + r.connection_delay ≤ r'.attempted ∧ r'.attempted ≤ r'.closed

/-- The variables and the clock, in the run that has shown `l`. -/
structure Paced (s : ReconnectingAgent) (l : List Reconnect) : Prop where
  connection_delay : s.connection_delay = backoff 1 60 (series l)
  elapsed : s.last_connection_attempt_time ≤ s.now
  slept : ∀ r ∈ l.getLast?, r.closed + r.connection_delay ≤ s.last_connection_attempt_time
  backedOff : BackedOff l

/-- The delay that is slept. -/
theorem Paced.delay (hP : Paced s l) :
    s.delay = backoff 1 60 (if s.reconnect.stable then 0 else series l) := by
  unfold ReconnectingAgent.delay
  by_cases hstable : s.now - s.last_connection_attempt_time ≥ 60
  · have hsome : s.reconnect.stable = true := decide_eq_true hstable
    rw [if_pos hstable, hsome]
    rfl
  · have hnone : s.reconnect.stable = false := decide_eq_false hstable
    rw [if_neg hstable, hnone]
    exact hP.connection_delay

/-- Each step keeps the pace. -/
theorem Paced.preserved (hP : Paced s l) (hstep : s.step cfg e = some s') :
    Paced s' (l ++ s.shows e) := by
  cases clock_rule hstep with
  | agent hnow hdelay hlast =>
    show Paced s' (l ++ [])
    rw [List.append_nil]
    refine ⟨hdelay.trans hP.connection_delay, ?_, ?_, hP.backedOff⟩
    · rw [hnow, hlast]
      exact hP.elapsed
    · rw [hlast]
      exact hP.slept
  | @wait time htime =>
    show Paced _ (l ++ [])
    rw [List.append_nil]
    have helapsed := hP.elapsed
    exact ⟨hP.connection_delay, by show _ ≤ s.now + time; linarith, hP.slept, hP.backedOff⟩
  | @sleep time agent _ htime =>
    show Paced (s.slept time agent) (l ++ [s.reconnect])
    have hdelay := hP.delay
    refine ⟨?_, le_rfl, ?_, ?_, ?_⟩
    · -- The delay is doubled, as the next element of the backoff is.
      show min (2 * s.delay) 60 = _
      rw [series_append, hdelay]
      rfl
    · intro r hr
      obtain rfl : s.reconnect = r := by simpa using hr
      show s.now + s.delay ≤ s.now + time
      linarith
    · exact each_concat hP.backedOff.delay hdelay
    · intro l₁ r r' l₂ heq
      rcases List.eq_nil_or_concat l₂ with rfl | ⟨l₂', r₂, rfl⟩
      · have heq' : l ++ [s.reconnect] = (l₁ ++ [r]) ++ [r'] := by simpa using heq
        obtain ⟨hl, hr⟩ := List.append_inj' heq' rfl
        obtain rfl : s.reconnect = r' := by simpa using hr
        refine ⟨hP.slept r ?_, hP.elapsed⟩
        rw [hl]
        simp
      · have hl : l = l₁ ++ r :: r' :: l₂' := by
          have heq' : l ++ [s.reconnect] = (l₁ ++ r :: r' :: l₂') ++ [r₂] := by simpa using heq
          exact (List.append_inj' heq' rfl).1
        exact hP.backedOff.apart l₁ r r' l₂' hl

/-- The pace is kept in every run. -/
theorem paced (h : Traced (ReconnectingAgent.step cfg) ok ReconnectingAgent.shows {} s l) :
    Paced s l := by
  refine h.invariant (I := Paced) ?_ fun s e s' l _ _ hstep hP => hP.preserved hstep
  refine ⟨rfl, le_rfl, fun r hr => (nomatch hr), ?_, ?_⟩
  · intro l₁ r l₂ heq
    simp at heq
  · intro l₁ r r' l₂ heq
    simp at heq

/-- Connections in a row that do not last are as far apart as their delays. -/
theorem BackedOff.spread (hB : BackedOff l) {l₁ rest : List Reconnect} {first : Reconnect}
    (hrest : ∀ r ∈ rest, r.stable = false) : ∀ last l₂, l = l₁ ++ first :: (rest ++ last :: l₂) →
      first.closed + ((∑ i ∈ Finset.range (rest.length + 1), backoff 1 60 i : ℕ) : ℚ) ≤
        last.closed := by
  induction rest using List.reverseRecOn with
  | nil =>
    intro last l₂ heq
    obtain ⟨hslept, hlater⟩ := hB.apart l₁ first last l₂ heq
    have hone : 1 ≤ first.connection_delay := by
      rw [hB.delay l₁ first (last :: l₂) heq]
      exact backoff_pos Nat.one_pos (by norm_num) _
    have hcast : (1 : ℚ) ≤ first.connection_delay := by exact_mod_cast hone
    have hsum : ∑ i ∈ Finset.range 1, backoff 1 60 i = 1 := rfl
    show first.closed + ((∑ i ∈ Finset.range 1, backoff 1 60 i : ℕ) : ℚ) ≤ last.closed
    rw [hsum]
    push_cast
    linarith
  | append_singleton rest r ih =>
    intro last l₂ heq
    have hbefore := ih (fun r hr => hrest r (List.mem_append_left _ hr)) r (last :: l₂)
      (by simpa using heq)
    have heq' : l = (l₁ ++ first :: rest) ++ r :: last :: l₂ := by simpa using heq
    obtain ⟨hslept, hlater⟩ := hB.apart _ r last l₂ heq'
    -- The series is longer than `rest`, to which `first` belongs.
    have hseries : rest.length + 1 ≤ series (l₁ ++ first :: rest) := by
      have hmore := le_series (l₁ ++ [first]) rest fun r hr => hrest r (List.mem_append_left _ hr)
      rw [series_append, List.append_assoc] at hmore
      exact le_trans (by omega) hmore
    have hdelay : backoff 1 60 (rest.length + 1) ≤ r.connection_delay := by
      rw [hB.delay _ r _ heq', hrest r (by simp)]
      exact backoff_mono (by norm_num) hseries
    have hcast : (backoff 1 60 (rest.length + 1) : ℚ) ≤ r.connection_delay := by
      exact_mod_cast hdelay
    rw [List.length_append, List.length_singleton, Finset.sum_range_succ]
    push_cast at hbefore ⊢
    linarith

/-- In every run the agent backs off from a relay that does not keep its connections: the delays
double up to a minute, and in a row of connections that do not last all but six are a minute apart.
-/
theorem reconnects_backed_off (cfg : AgentConfig) (s : ReconnectingAgent)
    (l : List Reconnect)
    (h : Traced (ReconnectingAgent.step cfg) (fun _ _ => True) ReconnectingAgent.shows {} s l) :
    BackedOff l ∧ ∀ l₁ (first : Reconnect) rest (last : Reconnect) l₂,
      l = l₁ ++ first :: (rest ++ last :: l₂) → (∀ r ∈ rest, r.stable = false) →
      first.closed + (((rest.length + 1 - 6) * 60 : ℕ) : ℚ) ≤ last.closed := by
  have hB := (paced h).backedOff
  refine ⟨hB, fun l₁ first rest last l₂ heq hrest => ?_⟩
  have hspread := hB.spread hrest last l₂ heq
  have hsum := sum_backoff_ge (by norm_num : 1 ≤ 60) (by norm_num : 60 ≤ 2^6 * 1)
    (rest.length + 1)
  have hcast : (((rest.length + 1 - 6) * 60 : ℕ) : ℚ) ≤
      ((∑ i ∈ Finset.range (rest.length + 1), backoff 1 60 i : ℕ) : ℚ) := by
    exact_mod_cast hsum
  linarith

/-- The relay refuses three connections, keeps one for two minutes, and refuses another. -/
def flaky : List ReconnectEvent :=
  let refused : ReconnectEvent := .agent (.main (.raised .osError "refused"))
  [.wait 1000, refused, .sleep 1, refused, .sleep 2, refused, .sleep 4, .agent (.main .ok),
    .wait 120, .agent (.main (.raised .other "no start message")), .agent (.main .ok), .sleep 1,
    refused, .sleep 2]

/-- The agent after these events. -/
def flakyAgent : ReconnectingAgent :=
  (run (ReconnectingAgent.step plainAgent) {} flaky).get (by decide +kernel)

/-- The connections of this run. -/
def flakyShown : List Reconnect :=
  observe (ReconnectingAgent.step plainAgent) ReconnectingAgent.shows {} flaky

/-- The policy at a run with failures, a stable connection and failures again. -/
theorem flaky_backed_off :
    flakyShown.map (·.connection_delay) = [1, 2, 4, 1, 2] ∧
      flakyAgent.last_error = some "refused" ∧ BackedOff flakyShown := by
  refine ⟨by decide +kernel, by decide +kernel, ?_⟩
  have hinit : Traced (ReconnectingAgent.step plainAgent) (fun _ _ => True)
      ReconnectingAgent.shows {} {} [] := .init
  have hrun : run (ReconnectingAgent.step plainAgent) {} flaky = some flakyAgent :=
    (Option.some_get _).symm
  have htraced := hinit.of_run (fun _ _ _ => trivial) hrun
  exact (reconnects_backed_off plainAgent flakyAgent flakyShown htraced).1

end HttpNetworkRelay
