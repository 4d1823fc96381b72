import Mathlib.Logic.Basic

/-!
# Machines and their runs

A cooperative program under a scheduler is a partial step function: `step s e = some s'` when the
event `e` can happen in the state `s`, and `none` when it cannot. An event names the task that is
resumed and what the operation it awaited came back with, so a list of events is one interleaving.

`Reaches step ok init s` says that some run leads from `init` to `s` all of whose events meet `ok`
in the state they happen in; `ok` is where an assumption about the environment goes. Its two rules
are `Reaches.invariant`, which proves a property of every reached state from what one step
preserves, and `Reaches.of_run`, which reaches a state by computing a run.
-/

namespace Asyncio

variable {σ ε : Type*}

/-- The state that a list of events leads to, if each of them can happen in its turn. -/
def run (step : σ → ε → Option σ) : σ → List ε → Option σ
  | s, [] => some s
  | s, e :: es => (step s e).bind fun s' => run step s' es

/-- `run`, stopping at an event that does not meet `ok`. -/
def runWith (step : σ → ε → Option σ) (ok : σ → ε → Prop) [∀ s e, Decidable (ok s e)] :
    σ → List ε → Option σ
  | s, [] => some s
  | s, e :: es => if ok s e then (step s e).bind fun s' => runWith step ok s' es else none

/-- A run whose steps meet a condition is a run. -/
theorem run_of_runWith {step : σ → ε → Option σ} {ok : σ → ε → Prop} [∀ s e, Decidable (ok s e)]
    {es : List ε} {s s' : σ} (h : runWith step ok s es = some s') : run step s es = some s' := by
  induction es generalizing s with
  | nil => exact h
  | cons e es ih =>
    unfold runWith at h
    split at h
    case isTrue =>
      obtain ⟨s₁, hs₁, hrest⟩ := Option.bind_eq_some_iff.mp h
      exact Option.bind_eq_some_iff.mpr ⟨s₁, hs₁, ih hrest⟩
    case isFalse => cases h

/-- The states reached from `init` by events that meet `ok`. -/
inductive Reaches (step : σ → ε → Option σ) (ok : σ → ε → Prop) (init : σ) : σ → Prop
  | init : Reaches step ok init init
  | step {s s' : σ} {e : ε} :
      Reaches step ok init s → ok s e → step s e = some s' → Reaches step ok init s'

namespace Reaches

variable {step : σ → ε → Option σ} {ok ok' : σ → ε → Prop} {init s : σ}

/-- The invariant rule: what holds initially and is preserved by every allowed step out of a
reached state holds of every reached state. -/
theorem invariant {I : σ → Prop} (h : Reaches step ok init s) (h0 : I init)
    (hstep : ∀ s e s', Reaches step ok init s → ok s e → step s e = some s' → I s → I s') :
    I s := by
  induction h with
  | init => exact h0
  | step hr hok hs ih => exact hstep _ _ _ hr hok hs ih

/-- A weaker assumption about the events allows more runs. -/
theorem mono (hok : ∀ s e, ok s e → ok' s e) (h : Reaches step ok init s) :
    Reaches step ok' init s := by
  induction h with
  | init => exact .init
  | step _ ho hs ih => exact .step ih (hok _ _ ho) hs

/-- A run of allowed events that starts in a reached state ends in one. -/
theorem of_runWith [∀ s e, Decidable (ok s e)] {es : List ε} {s' : σ}
    (h : Reaches step ok init s) (hrun : runWith step ok s es = some s') :
    Reaches step ok init s' := by
  induction es generalizing s with
  | nil =>
    obtain rfl : s = s' := by simpa [runWith] using hrun
    exact h
  | cons e es ih =>
    simp only [runWith] at hrun
    split at hrun
    case isTrue hok =>
      obtain ⟨s₁, hs₁, hrest⟩ := Option.bind_eq_some_iff.mp hrun
      exact ih (.step h hok hs₁) hrest
    case isFalse => cases hrun

/-- A run whose events are allowed in every state, from a reached state, ends in one. -/
theorem of_run {es : List ε} {s' : σ} (hall : ∀ e ∈ es, ∀ s, ok s e) (h : Reaches step ok init s)
    (hrun : run step s es = some s') : Reaches step ok init s' := by
  induction es generalizing s with
  | nil =>
    obtain rfl : s = s' := by simpa [run] using hrun
    exact h
  | cons e es ih =>
    obtain ⟨s₁, hs₁, hrest⟩ := Option.bind_eq_some_iff.mp hrun
    have hfirst : ok s e := hall e List.mem_cons_self s
    exact ih (fun e he => hall e (List.mem_cons_of_mem _ he)) (.step h hfirst hs₁) hrest

end Reaches

end Asyncio
