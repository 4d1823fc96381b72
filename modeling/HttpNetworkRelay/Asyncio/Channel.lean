import HttpNetworkRelay.Asyncio.Trace

/-!
# Channels

What a component that carries items from one end to the other is for. A `Channel` is given items at
one end and hands them out at the other in the same order, each once; it may keep what it has been
given for as long as it likes, and so also for ever.

A machine carries the items of a channel if the passages that it shows at the two ends are a run of
`Channel.step`. `Traced.channel` proves this from a property of the states that it reaches: what has
been handed out is a prefix of what has been given.
-/

namespace Asyncio

variable {α : Type*}

/-- What happens at the two ends of a channel. -/
inductive Passage (α : Type*)
  /-- Items are given to the channel. -/
  | given (items : List α)
  /-- The channel hands items out. -/
  | handed (items : List α)
  deriving DecidableEq, Repr

/-- The items given in a passage. -/
def Passage.givenItems : Passage α → List α
  | .given items => items
  | .handed _ => []

/-- The items handed out in a passage. -/
def Passage.handedItems : Passage α → List α
  | .given _ => []
  | .handed items => items

/-- The items given in a list of passages. -/
def givenOf (l : List (Passage α)) : List α := l.flatMap Passage.givenItems

/-- The items handed out in a list of passages. -/
def handedOf (l : List (Passage α)) : List α := l.flatMap Passage.handedItems

/-- Nothing has been given yet. -/
@[simp] theorem givenOf_nil : givenOf ([] : List (Passage α)) = [] := rfl

/-- Nothing has been handed over yet. -/
@[simp] theorem handedOf_nil : handedOf ([] : List (Passage α)) = [] := rfl

/-- What is given in two stretches. -/
@[simp] theorem givenOf_append (l l' : List (Passage α)) :
    givenOf (l ++ l') = givenOf l ++ givenOf l' :=
  List.flatMap_append

/-- What is handed over in two stretches. -/
@[simp] theorem handedOf_append (l l' : List (Passage α)) :
    handedOf (l ++ l') = handedOf l ++ handedOf l' :=
  List.flatMap_append

/-- What one passage gives. -/
@[simp] theorem givenOf_given (items : List α) : givenOf [.given items] = items := by
  simp [givenOf, Passage.givenItems]

/-- A passage that hands over gives nothing. -/
@[simp] theorem givenOf_handed (items : List α) : givenOf [.handed items] = [] := by
  simp [givenOf, Passage.givenItems]

/-- A passage that gives hands nothing over. -/
@[simp] theorem handedOf_given (items : List α) : handedOf [.given items] = [] := by
  simp [handedOf, Passage.handedItems]

/-- What one passage hands over. -/
@[simp] theorem handedOf_handed (items : List α) : handedOf [.handed items] = items := by
  simp [handedOf, Passage.handedItems]

/-- What has been given to a channel, and what it has handed out of that. -/
structure Channel (α : Type*) where
  given : List α
  handed : List α
  inOrder : handed <+: given

namespace Channel

/-- The channel to which nothing has been given. -/
def empty : Channel α := ⟨[], [], List.prefix_rfl⟩

/-- The step function of a channel: it hands out only what comes next. -/
def step [DecidableEq α] (ch : Channel α) : Passage α → Option (Channel α)
  | .given items =>
    some ⟨ch.given ++ items, ch.handed, ch.inOrder.trans (List.prefix_append _ _)⟩
  | .handed items =>
    if h : ch.handed ++ items <+: ch.given then some ⟨ch.given, ch.handed ++ items, h⟩ else none

end Channel

/-- A run goes through the first events and then through the others. -/
theorem run_append {σ ε : Type*} (step : σ → ε → Option σ) (s : σ) (es es' : List ε) :
    run step s (es ++ es') = (run step s es).bind fun s' => run step s' es' := by
  induction es generalizing s with
  | nil => rfl
  | cons e es ih => simp only [List.cons_append, run, ih, Option.bind_assoc]

variable [DecidableEq α]

/-- The passages are a run of a channel. -/
def Carries (l : List (Passage α)) : Prop :=
  ∃ ch : Channel α, run Channel.step Channel.empty l = some ch ∧ ch.given = givenOf l ∧
    ch.handed = handedOf l

/-- A channel carries nothing to begin with. -/
theorem Carries.nil : Carries ([] : List (Passage α)) := ⟨Channel.empty, rfl, rfl, rfl⟩

/-- A channel goes on with a passage after which no more has been handed out than given. -/
theorem Carries.snoc {l : List (Passage α)} (h : Carries l) (passage : Passage α)
    (hordered : handedOf (l ++ [passage]) <+: givenOf (l ++ [passage])) :
    Carries (l ++ [passage]) := by
  obtain ⟨ch, hrun, hgiven, hhanded⟩ := h
  cases passage with
  | given items =>
    have hnext : ch.handed <+: ch.given ++ items := ch.inOrder.trans (List.prefix_append _ _)
    refine ⟨⟨ch.given ++ items, ch.handed, hnext⟩, ?_, ?_, ?_⟩
    · rw [run_append, hrun]
      rfl
    · simp [hgiven]
    · simp [hhanded]
  | handed items =>
    have hnext : ch.handed ++ items <+: ch.given := by simpa [hgiven, hhanded] using hordered
    refine ⟨⟨ch.given, ch.handed ++ items, hnext⟩, ?_, ?_, ?_⟩
    · rw [run_append, hrun]
      simp [run, Channel.step, hnext]
    · simp [hgiven]
    · simp [hhanded]

/-- A machine carries the items of a channel if in every state that it reaches, no more has been
handed out than given. `P` is what is known of the channel's ends; it holds before a step after
which it holds. -/
theorem Traced.channel {σ ε β : Type*} {step : σ → ε → Option σ} {ok : σ → ε → Prop}
    {obs : σ → ε → List β} {init s : σ} {l : List β} (ends : β → Option (Passage α)) {P : σ → Prop}
    (hback : ∀ s e s', step s e = some s' → P s' → P s)
    (hone : ∀ s e s', step s e = some s' → ((obs s e).filterMap ends).length ≤ 1)
    (hordered : ∀ s l, Traced step ok obs init s l → P s →
      handedOf (l.filterMap ends) <+: givenOf (l.filterMap ends))
    (h : Traced step ok obs init s l) (hP : P s) : Carries (l.filterMap ends) := by
  induction h with
  | init => exact .nil
  | @step s s' e l ht hok hs ih =>
    have hcarries := ih (hback s e s' hs hP)
    have hall := hordered s' _ (ht.step hok hs) hP
    rw [List.filterMap_append] at hall ⊢
    match hshown : (obs s e).filterMap ends, hone s e s' hs with
    | [], _ => rwa [List.append_nil]
    | [passage], _ =>
      rw [hshown] at hall
      exact hcarries.snoc passage hall

end Asyncio
