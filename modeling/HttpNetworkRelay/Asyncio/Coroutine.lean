import Mathlib.Logic.Basic

/-!
# Coroutines as resumable state machines

A coroutine runs without interruption from one `await` that suspends to the next. Between two of
them it is a pure function from the shared state to a new shared state and a `Res`: the coroutine
is parked at a suspension point, has returned, or has raised. A program point is a constructor of
the coroutine's own inductive type, with the local variables that are live there.

`await` is the caller's side: it runs a piece of a callee, parks the caller around a parked
callee, and goes on in the same uninterrupted stretch when the callee has returned or raised.
-/

namespace Asyncio

variable {σ π π' α β ε : Type*}

/-- Where an uninterrupted stretch of a coroutine leaves it. -/
inductive Res (π α ε : Type*)
  /-- Suspended at the program point `pc`. -/
  | parked (pc : π)
  /-- Finished with a value. -/
  | returned (value : α)
  /-- Ended by an exception. -/
  | raised (error : ε)
  deriving DecidableEq, Repr

/-- The caller of a coroutine that has just run: it parks where the callee parks, continues with
`ok` when it has returned, and enters its handler `err` when it has raised. -/
def await (x : σ × Res π α ε) (park : π → π') (ok : σ → α → σ × Res π' β ε)
    (err : σ → ε → σ × Res π' β ε) : σ × Res π' β ε :=
  match x with
  | (s, .parked pc) => (s, .parked (park pc))
  | (s, .returned a) => ok s a
  | (s, .raised e) => err s e

variable {park : π → π'} {ok : σ → α → σ × Res π' β ε} {err : σ → ε → σ × Res π' β ε}

/-- A callee that has parked parks its caller. -/
@[simp] theorem await_parked (s : σ) (pc : π) :
    await (s, .parked pc) park ok err = (s, .parked (park pc)) := rfl

/-- A callee that has returned lets its caller go on with the value. -/
@[simp] theorem await_returned (s : σ) (a : α) :
    await (s, .returned a) park ok err = ok s a := rfl

/-- A callee that has raised lets its caller go on with the exception. -/
@[simp] theorem await_raised (s : σ) (e : ε) : await (s, .raised e) park ok err = err s e := rfl

end Asyncio
