import HttpNetworkRelay.Asyncio.Machine

/-!
# Runs with a record

What a run has shown is often not in the state it has reached. `Traced step ok obs init s l` says
that some allowed run leads from `init` to `s` and has shown `l` on its way, where `obs s e` is what
the event `e` shows in the state `s`. The record is a function of the events and not of the machine:
`Traced.reaches` forgets it, and every reached state has one.
-/

namespace Asyncio

variable {σ ε α : Type*}

/-- The states reached from `init` by events that meet `ok`, with what the run has shown. -/
inductive Traced (step : σ → ε → Option σ) (ok : σ → ε → Prop) (obs : σ → ε → List α) (init : σ) :
    σ → List α → Prop
  | init : Traced step ok obs init init []
  | step {s s' : σ} {e : ε} {l : List α} :
      Traced step ok obs init s l → ok s e → step s e = some s' →
        Traced step ok obs init s' (l ++ obs s e)

/-- What a list of events shows, as far as they can happen. -/
def observe (step : σ → ε → Option σ) (obs : σ → ε → List α) : σ → List ε → List α
  | _, [] => []
  | s, e :: es =>
    match step s e with
    | some s' => obs s e ++ observe step obs s' es
    | none => []

namespace Traced

variable {step : σ → ε → Option σ} {ok ok' : σ → ε → Prop} {obs : σ → ε → List α} {init s : σ}
  {l : List α}

/-- The run without its record. -/
theorem reaches (h : Traced step ok obs init s l) : Reaches step ok init s := by
  induction h with
  | init => exact .init
  | step _ hok hs ih => exact .step ih hok hs

/-- The invariant rule, for a property of the state and the record. -/
theorem invariant {I : σ → List α → Prop} (h : Traced step ok obs init s l) (h0 : I init [])
    (hstep : ∀ s e s' l, Traced step ok obs init s l → ok s e → step s e = some s' → I s l →
      I s' (l ++ obs s e)) :
    I s l := by
  induction h with
  | init => exact h0
  | step ht hok hs ih => exact hstep _ _ _ _ ht hok hs ih

/-- A weaker assumption about the events allows more runs. -/
theorem mono (hok : ∀ s e, ok s e → ok' s e) (h : Traced step ok obs init s l) :
    Traced step ok' obs init s l := by
  induction h with
  | init => exact .init
  | step _ ho hs ih => exact .step ih (hok _ _ ho) hs

/-- A run of allowed events goes on with the record of its events. -/
theorem of_runWith [∀ s e, Decidable (ok s e)] {es : List ε} {s' : σ}
    (h : Traced step ok obs init s l) (hrun : runWith step ok s es = some s') :
    Traced step ok obs init s' (l ++ observe step obs s es) := by
  induction es generalizing s l with
  | nil =>
    obtain rfl : s = s' := by simpa [runWith] using hrun
    simpa [observe] using h
  | cons e es ih =>
    simp only [runWith] at hrun
    split at hrun
    case isTrue hok =>
      obtain ⟨s₁, hs₁, hrest⟩ := Option.bind_eq_some_iff.mp hrun
      have hnext := ih (.step h hok hs₁) hrest
      simpa [observe, hs₁, List.append_assoc] using hnext
    case isFalse => cases hrun

/-- A run whose events are allowed in every state goes on with the record of its events. -/
theorem of_run {es : List ε} {s' : σ} (hall : ∀ e ∈ es, ∀ s, ok s e)
    (h : Traced step ok obs init s l) (hrun : run step s es = some s') :
    Traced step ok obs init s' (l ++ observe step obs s es) := by
  induction es generalizing s l with
  | nil =>
    obtain rfl : s = s' := by simpa [run] using hrun
    simpa [observe] using h
  | cons e es ih =>
    obtain ⟨s₁, hs₁, hrest⟩ := Option.bind_eq_some_iff.mp hrun
    have hfirst : ok s e := hall e List.mem_cons_self s
    have hnext := ih (fun e he => hall e (List.mem_cons_of_mem _ he)) (.step h hfirst hs₁) hrest
    simpa [observe, hs₁, List.append_assoc] using hnext

/-- A component of a machine, with its part of the record: if every step of the machine takes the
component on by steps of its own, a run of the machine is one of the component. -/
theorem project {σ' ε' β : Type*} {step' : σ' → ε' → Option σ'} {ok' : σ' → ε' → Prop}
    {obs' : σ' → ε' → List β} {init' : σ'} (f : σ → σ') (g : α → Option β) (h0 : f init = init')
    (hstep : ∀ s e s' l', ok s e → step s e = some s' → Traced step' ok' obs' init' (f s) l' →
      Traced step' ok' obs' init' (f s') (l' ++ (obs s e).filterMap g))
    (h : Traced step ok obs init s l) :
    Traced step' ok' obs' init' (f s) (l.filterMap g) := by
  induction h with
  | init =>
    rw [h0]
    exact .init
  | step _ hok hs ih =>
    rw [List.filterMap_append]
    exact hstep _ _ _ _ hok hs ih

end Traced

/-- Every reached state has a record. -/
theorem Reaches.traced {step : σ → ε → Option σ} {ok : σ → ε → Prop} {init s : σ}
    (h : Reaches step ok init s) (obs : σ → ε → List α) : ∃ l, Traced step ok obs init s l := by
  induction h with
  | init => exact ⟨[], .init⟩
  | step _ hok hs ih =>
    obtain ⟨l, ht⟩ := ih
    exact ⟨l ++ obs _ _, .step ht hok hs⟩

/-- What holds of each item of a record, given those before it, holds with a new item. -/
theorem each_concat {P : List α → α → Prop} {l : List α} {x : α}
    (h : ∀ l₁ y l₂, l = l₁ ++ y :: l₂ → P l₁ y) (hx : P l x) :
    ∀ l₁ y l₂, l ++ [x] = l₁ ++ y :: l₂ → P l₁ y := by
  intro l₁ y l₂ heq
  rcases List.eq_nil_or_concat l₂ with rfl | ⟨l₂', z, rfl⟩
  · obtain ⟨rfl, hy⟩ := List.append_inj' heq rfl
    obtain rfl := List.singleton_inj.mp hy
    exact hx
  · have heq' : l ++ [x] = (l₁ ++ y :: l₂') ++ [z] := by simpa using heq
    exact h l₁ y l₂' (List.append_inj' heq' rfl).1

end Asyncio
