import Mathlib.Data.List.Basic

/-!
# The order of a queue

An event loop takes its handles from a first-in first-out queue. `Ahead a b queue` says that `a` is
taken before `b`: nothing that is appended later changes that.
-/

namespace Asyncio

variable {α : Type*} {a b x : α} {queue : List α}

/-- Every `b` in the queue has an `a` ahead of it. -/
def Ahead (a b : α) : List α → Prop
  | [] => True
  | x :: queue => x ≠ b ∧ (x = a ∨ Ahead a b queue)

namespace Ahead

/-- Nothing has to be ahead of what is not in the queue. -/
theorem of_not_mem (h : b ∉ queue) : Ahead a b queue := by
  induction queue with
  | nil => trivial
  | cons x queue ih =>
    rw [List.mem_cons, not_or] at h
    exact ⟨Ne.symm h.1, .inr (ih h.2)⟩

/-- What is first in the queue has nothing ahead of it. -/
theorem head_ne (h : Ahead a b (x :: queue)) : x ≠ b := h.1

/-- Something else is taken from the queue. -/
theorem tail (h : Ahead a b (x :: queue)) (hx : x ≠ a) : Ahead a b queue :=
  h.2.resolve_left hx

/-- Something else is appended. -/
theorem append (h : Ahead a b queue) (hx : x ≠ b) : Ahead a b (queue ++ [x]) := by
  induction queue with
  | nil => exact ⟨hx, .inr trivial⟩
  | cons y queue ih => exact ⟨h.1, h.2.imp_right ih⟩

/-- A `b` is appended behind an `a`. -/
theorem append_self (h : Ahead a b queue) (ha : a ∈ queue) : Ahead a b (queue ++ [b]) := by
  induction queue with
  | nil => cases ha
  | cons y queue ih =>
    refine ⟨h.1, ?_⟩
    by_cases hy : y = a
    · exact .inl hy
    · have hmem : a ∈ queue := (List.mem_cons.mp ha).resolve_left (Ne.symm hy)
      exact .inr (ih (h.tail hy) hmem)

end Ahead

end Asyncio
