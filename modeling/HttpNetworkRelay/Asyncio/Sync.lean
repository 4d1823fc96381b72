import Mathlib.Data.List.Basic

/-!
# The synchronization primitives of asyncio

`Lock` is `asyncio.Lock`: a first-in first-out mutual exclusion lock. A release hands the lock to
the first waiter, which takes it when it is resumed; in between, a task that asks for the lock
queues behind the others, as `asyncio.Lock.acquire` does while a waiter is pending.

`Event` is `asyncio.Event`: a flag with waiters. `set` resolves every waiter that is parked; a
resolved waiter resumes later, even if the flag has been cleared again in between.
-/

namespace Asyncio

variable {τ : Type*}

/-- A first-in first-out lock: the task that holds it and the tasks queued for it. -/
structure Lock (τ : Type*) where
  holder : Option τ := none
  waiters : List τ := []
  deriving DecidableEq, Repr

namespace Lock

/-- Whether `acquire` returns without suspending. -/
def free (l : Lock τ) : Bool := l.holder.isNone && l.waiters.isEmpty

/-- The lock after the task `t` has called `acquire`: held by `t` if it was free, else with `t`
queued. -/
def acquire (l : Lock τ) (t : τ) : Lock τ :=
  if l.free then { l with holder := some t } else { l with waiters := l.waiters ++ [t] }

/-- The lock after its holder has called `release`: handed to the first waiter, if there is one. -/
def release (l : Lock τ) : Lock τ :=
  match l.waiters with
  | [] => { holder := none, waiters := [] }
  | t :: ts => { holder := some t, waiters := ts }

end Lock

/-- A flag with the tasks parked on it and the tasks whose wait has been resolved. -/
structure Event (τ : Type*) where
  flag : Bool := false
  waiters : List τ := []
  resolved : List τ := []
  deriving DecidableEq, Repr

namespace Event

/-- `Event.set`: raises the flag and resolves every parked waiter. -/
def set (e : Event τ) : Event τ :=
  { flag := true, waiters := [], resolved := e.resolved ++ e.waiters }

/-- `Event.clear`: lowers the flag. -/
def clear (e : Event τ) : Event τ := { e with flag := false }

/-- The task `t` parks in `wait`, which it does only while the flag is down. -/
def park (e : Event τ) (t : τ) : Event τ := { e with waiters := e.waiters ++ [t] }

/-- The waiter `t` leaves `wait`: resumed after it was resolved, or cancelled. -/
def leave [DecidableEq τ] (e : Event τ) (t : τ) : Event τ :=
  { e with waiters := e.waiters.erase t, resolved := e.resolved.erase t }

end Event

end Asyncio
