import Mathlib.Data.List.Nodup
import Mathlib.Logic.Function.Basic
import Mathlib.Logic.Relation
import HttpNetworkRelay.Asyncio.Sync

/-!
# Locks that are made on demand

A table gives each key the number of its lock object, which is made when the key is first looked up;
the entry of a key can be removed while tasks still hold its lock or wait for it. `LockUse` is where
a task is with such a lock. `Op` lists what a task can do, and `Exclusive` is the invariant: the
queue of a lock, with its holder at the head, is the tasks that use it, each of them once. What
holds of a single key is `Serves`: as long as its entry is not removed, all tasks use the lock in
its entry.
-/

namespace Asyncio

variable {κ τ : Type*}

namespace Lock

/-- The holder of a lock and the tasks queued for it. -/
def queue (l : Lock τ) : List τ := l.holder.toList ++ l.waiters

/-- Nobody waits for a lock that nobody holds. -/
def Tight (l : Lock τ) : Prop := l.holder = none → l.waiters = []

/-- A new lock is tight. -/
theorem Tight.empty : Tight ({} : Lock τ) := fun _ => rfl

/-- The holder is in the queue. -/
theorem mem_queue_of_holder {l : Lock τ} {t : τ} (h : l.holder = some t) : t ∈ l.queue := by
  simp [queue, h]

/-- A lock is free if it has no holder and no waiters. -/
theorem free_iff {l : Lock τ} : l.free = true ↔ l.holder = none ∧ l.waiters = [] := by
  simp [free]

/-- A task that acquires goes to the end of the queue. -/
theorem acquire_queue (l : Lock τ) (t : τ) : (l.acquire t).queue = l.queue ++ [t] := by
  unfold acquire
  split
  case isTrue hfree =>
    obtain ⟨hholder, hwaiters⟩ := free_iff.mp hfree
    simp [queue, hholder, hwaiters]
  case isFalse => simp [queue]

/-- A tight lock stays tight when it is acquired. -/
theorem acquire_tight {l : Lock τ} (hl : l.Tight) (t : τ) : (l.acquire t).Tight := by
  unfold acquire
  split
  case isTrue => exact fun h => by cases h
  case isFalse hbusy =>
    intro hholder
    have hholder : l.holder = none := hholder
    exact absurd (free_iff.mpr ⟨hholder, hl hholder⟩) hbusy

/-- Acquiring a lock that is held does not change its holder. -/
theorem acquire_holder {l : Lock τ} {t t' : τ} (h : l.holder = some t') :
    (l.acquire t).holder = some t' := by
  unfold acquire
  split
  case isTrue hfree =>
    rw [(free_iff.mp hfree).1] at h
    cases h
  case isFalse => exact h

/-- A release takes the head off the queue. -/
theorem release_queue (l : Lock τ) : l.release.queue = l.waiters := by
  unfold release
  split <;> simp [queue, *]

/-- A released lock is tight. -/
theorem release_tight (l : Lock τ) : l.release.Tight := by
  unfold release
  split
  · exact fun _ => rfl
  · exact fun h => by cases h

/-- A release passes the lock to the first waiter. -/
theorem release_holder (l : Lock τ) : l.release.holder = l.waiters.head? := by
  unfold release
  split <;> simp [*]

end Lock

/-- The lock objects, and the entries of the table that refer to them. -/
structure LockTable (κ τ : Type*) where
  entry : κ → Option ℕ
  lock : ℕ → Lock τ
  created : ℕ

/-- The use that a task makes of the lock of a key: it has called `acquire`, and holds the lock from
the moment at which `acquire` returned. -/
structure LockUse (κ : Type*) where
  key : κ
  lock : ℕ
  holds : Bool
  deriving DecidableEq

namespace LockTable

/-- A task calls `acquire` on a lock. -/
def acquire (T : LockTable κ τ) (l : ℕ) (t : τ) : LockTable κ τ :=
  { T with lock := Function.update T.lock l ((T.lock l).acquire t) }

/-- A task calls `release` on a lock. -/
def release (T : LockTable κ τ) (l : ℕ) : LockTable κ τ :=
  { T with lock := Function.update T.lock l (T.lock l).release }

/-! ## Mutual exclusion -/

/-- The queue of each lock is the tasks that use it, and a task that holds a lock is at its head. -/
structure Exclusive (T : LockTable κ τ) (use : τ → Option (LockUse κ)) : Prop where
  entered : ∀ key l, T.entry key = some l → l < T.created
  made : ∀ t u, use t = some u → u.lock < T.created
  queue : ∀ l t, t ∈ (T.lock l).queue ↔ ∃ u, use t = some u ∧ u.lock = l
  nodup : ∀ l, (T.lock l).queue.Nodup
  tight : ∀ l, (T.lock l).Tight
  holder : ∀ t u, use t = some u → u.holds = true → (T.lock u.lock).holder = some t

variable {t : τ} {T : LockTable κ τ} {use : τ → Option (LockUse κ)}

/-- A number that has not been given out has an empty queue. -/
theorem Exclusive.queue_created (hE : Exclusive T use) :
    (T.lock T.created).queue = [] := by
  refine List.eq_nil_iff_forall_not_mem.mpr fun t ht => ?_
  obtain ⟨u, hu, hlock⟩ := (hE.queue _ t).mp ht
  have hlt := hE.made t u hu
  omega

/-- Every task that uses a lock of the key uses the one in its entry. -/
def Serves (T : LockTable κ τ) (use : τ → Option (LockUse κ)) (key : κ) : Prop :=
  ∀ t u, use t = some u → u.key = key → T.entry key = some u.lock

/-- Two tasks that hold the lock of a key that is served are one. -/
theorem Exclusive.sole (hE : Exclusive T use) {key : κ} (hS : Serves T use key) {t' : τ}
    {u u' : LockUse κ} (hu : use t = some u) (hu' : use t' = some u') (hkey : u.key = key)
    (hkey' : u'.key = key) (hholds : u.holds = true) (hholds' : u'.holds = true) : t = t' := by
  have hlock : u.lock = u'.lock :=
    Option.some.inj ((hS t u hu hkey).symm.trans (hS t' u' hu' hkey'))
  have hheld := hE.holder t u hu hholds
  rw [hlock, hE.holder t' u' hu' hholds'] at hheld
  exact (Option.some.inj hheld).symm

section

variable [DecidableEq τ]

/-- A task that uses no lock may acquire one, which it holds at once only if the lock is free. -/
theorem Exclusive.acquire (hE : Exclusive T use) {l : ℕ} (hl : l < T.created) (hnone : use t = none)
    {key : κ} {holds : Bool} (hfree : holds = true → (T.lock l).free = true) :
    Exclusive (T.acquire l t) (Function.update use t (some ⟨key, l, holds⟩)) where
  entered := hE.entered
  made t' u hu := by
    by_cases ht : t' = t
    · obtain rfl : ⟨key, l, holds⟩ = u := by simpa [ht] using hu
      exact hl
    · exact hE.made t' u (by simpa [ht] using hu)
  queue l' t' := by
    -- The task is in no queue, as it uses no lock.
    have hnot : ∀ l, t ∉ (T.lock l).queue := by
      intro l hmem
      obtain ⟨u, hu, -⟩ := (hE.queue l t).mp hmem
      rw [hnone] at hu
      cases hu
    by_cases hl' : l' = l
    · subst hl'
      simp only [LockTable.acquire, Function.update_self, Lock.acquire_queue, List.mem_append,
        List.mem_singleton]
      by_cases ht : t' = t
      · simp [ht]
      · simpa [ht] using hE.queue l' t'
    · simp only [LockTable.acquire, Function.update_of_ne hl']
      by_cases ht : t' = t
      · subst ht
        simpa [Ne.symm hl'] using hnot l'
      · simpa [ht] using hE.queue l' t'
  nodup l' := by
    by_cases hl' : l' = l
    · subst hl'
      have hnot : t ∉ (T.lock l').queue := by
        intro hmem
        obtain ⟨u, hu, -⟩ := (hE.queue l' t).mp hmem
        rw [hnone] at hu
        cases hu
      simp only [LockTable.acquire, Function.update_self, Lock.acquire_queue]
      exact (hE.nodup l').append (List.nodup_singleton t) (by simpa using hnot)
    · simpa [LockTable.acquire, hl'] using hE.nodup l'
  tight l' := by
    by_cases hl' : l' = l
    · subst hl'
      simpa [LockTable.acquire] using Lock.acquire_tight (hE.tight l') t
    · simpa [LockTable.acquire, hl'] using hE.tight l'
  holder t' u hu hholds := by
    by_cases ht : t' = t
    · obtain rfl : ⟨key, l, holds⟩ = u := by simpa [ht] using hu
      simp [LockTable.acquire, ht, Lock.acquire, hfree hholds]
    · have hheld := hE.holder t' u (by simpa [ht] using hu) hholds
      by_cases hl' : u.lock = l
      · rw [hl'] at hheld
        simp only [LockTable.acquire, hl', Function.update_self]
        exact Lock.acquire_holder hheld
      · simpa [LockTable.acquire, hl'] using hheld

/-- A task that holds a lock may release it. -/
theorem Exclusive.release (hE : Exclusive T use) {key : κ} {l : ℕ}
    (hu : use t = some ⟨key, l, true⟩) :
    Exclusive (T.release l) (Function.update use t none) := by
  have hheld : (T.lock l).holder = some t := hE.holder t _ hu rfl
  have hqueue : (T.lock l).queue = t :: (T.lock l).waiters := by simp [Lock.queue, hheld]
  have hnodup := hE.nodup l
  rw [hqueue, List.nodup_cons] at hnodup
  -- A task uses one lock at a time.
  have hother : ∀ l', l' ≠ l → t ∉ (T.lock l').queue := by
    intro l' hl' hmem
    obtain ⟨u, hu', hlock⟩ := (hE.queue l' t).mp hmem
    obtain rfl := Option.some.inj (hu.symm.trans hu')
    exact hl' hlock.symm
  constructor
  · exact hE.entered
  · intro t' u hu'
    by_cases ht : t' = t
    · simp [ht] at hu'
    · exact hE.made t' u (by simpa [ht] using hu')
  · intro l' t'
    by_cases ht : t' = t
    · subst ht
      simp only [Function.update_self, reduceCtorEq, false_and, exists_false, iff_false]
      by_cases hl' : l' = l
      · simpa [LockTable.release, hl', Lock.release_queue] using hnodup.1
      · simpa [LockTable.release, hl'] using hother l' hl'
    · rw [Function.update_of_ne ht, ← hE.queue]
      by_cases hl' : l' = l
      · simp [LockTable.release, hl', Lock.release_queue, hqueue, ht]
      · simp [LockTable.release, hl']
  · intro l'
    by_cases hl' : l' = l
    · simpa [LockTable.release, hl', Lock.release_queue] using hnodup.2
    · simpa [LockTable.release, hl'] using hE.nodup l'
  · intro l'
    by_cases hl' : l' = l
    · simpa [LockTable.release, hl'] using Lock.release_tight (T.lock l)
    · simpa [LockTable.release, hl'] using hE.tight l'
  · intro t' u hu' hholds
    have ht : t' ≠ t := by
      rintro rfl
      simp at hu'
    have hheld' := hE.holder t' u (by simpa [ht] using hu') hholds
    have hl' : u.lock ≠ l := by
      intro hl'
      rw [hl', hheld] at hheld'
      exact ht (Option.some.inj hheld').symm
    simpa [LockTable.release, hl'] using hheld'

/-- A task to which a lock has been passed may take note of it. -/
theorem Exclusive.pass (hE : Exclusive T use) {key : κ} {l : ℕ}
    (hu : use t = some ⟨key, l, false⟩) (hheld : (T.lock l).holder = some t) :
    Exclusive T (Function.update use t (some ⟨key, l, true⟩)) where
  entered := hE.entered
  made t' u hu' := by
    by_cases ht : t' = t
    · obtain rfl : ⟨key, l, true⟩ = u := by simpa [ht] using hu'
      exact hE.made t ⟨key, l, false⟩ hu
    · exact hE.made t' u (by simpa [ht] using hu')
  queue l' t' := by
    rw [hE.queue]
    by_cases ht : t' = t
    · simp [ht, hu]
    · simp [ht]
  nodup := hE.nodup
  tight := hE.tight
  holder t' u hu' hholds := by
    by_cases ht : t' = t
    · obtain rfl : ⟨key, l, true⟩ = u := by simpa [ht] using hu'
      rw [ht]
      exact hheld
    · exact hE.holder t' u (by simpa [ht] using hu') hholds

end

/-! ## The table -/

variable [DecidableEq κ]

/-- The lock of a key, made and entered if there is none. -/
def get (T : LockTable κ τ) (key : κ) : ℕ × LockTable κ τ :=
  match T.entry key with
  | some l => (l, T)
  | none =>
    (T.created,
      { entry := Function.update T.entry key (some T.created)
        lock := Function.update T.lock T.created {}
        created := T.created + 1 })

/-- The entry of a key is removed. -/
def pop (T : LockTable κ τ) (key : κ) : LockTable κ τ :=
  { T with entry := Function.update T.entry key none }

/-- A key has an entry after it has been looked up. -/
theorem get_entry (T : LockTable κ τ) (key : κ) :
    (T.get key).2.entry key = some (T.get key).1 := by
  unfold get
  split
  · assumption
  · simp

/-- A lookup leaves the entries of other keys alone. -/
theorem get_entry_of_ne (T : LockTable κ τ) {key key' : κ} (h : key' ≠ key) :
    (T.get key).2.entry key' = T.entry key' := by
  unfold get
  split
  · rfl
  · simp [h]

/-- A lookup does not change an entry that is there. -/
theorem get_entry_of_some {T : LockTable κ τ} {key key' : κ} {l : ℕ} (h : T.entry key' = some l) :
    (T.get key).2.entry key' = some l := by
  by_cases hkey : key' = key
  · subst hkey
    simp [get, h]
  · rw [get_entry_of_ne T hkey, h]

/-- A lookup creates a lock that no task uses, or none. -/
theorem Exclusive.get (hE : Exclusive T use) (key : κ) :
    Exclusive (T.get key).2 use ∧ (T.get key).1 < (T.get key).2.created := by
  unfold LockTable.get
  split
  case h_1 l hl => exact ⟨hE, hE.entered key l hl⟩
  case h_2 =>
    -- The lock of a new entry is the only one that differs.
    have hnew : ∀ l, Function.update T.lock T.created {} l ≠ T.lock l → l = T.created := by
      intro l hl
      by_contra hne
      simp [hne] at hl
    -- Nobody was queued for a number that had not been given out.
    have hqueue : ∀ l, (Function.update T.lock T.created {} l).queue = (T.lock l).queue := by
      intro l
      by_cases hl : l = T.created
      · rw [hl, hE.queue_created]
        simp [Lock.queue]
      · simp [hl]
    refine ⟨⟨?_, ?_, ?_, ?_, ?_, ?_⟩, Nat.lt_succ_self _⟩
    · intro key' l hl
      by_cases hkey : key' = key
      · obtain rfl : T.created = l := by simpa [hkey] using hl
        exact Nat.lt_succ_self _
      · exact Nat.lt_succ_of_lt (hE.entered key' l (by simpa [hkey] using hl))
    · exact fun t u hu => Nat.lt_succ_of_lt (hE.made t u hu)
    · intro l t
      rw [hqueue]
      exact hE.queue l t
    · intro l
      rw [hqueue]
      exact hE.nodup l
    · intro l
      by_cases hl : l = T.created
      · simp [hl, Lock.Tight.empty]
      · simpa [hl] using hE.tight l
    · intro t u hu hholds
      have hlt := hE.made t u hu
      have hne : u.lock ≠ T.created := by omega
      simpa [hne] using hE.holder t u hu hholds

/-- An entry may be removed at any time. -/
theorem Exclusive.pop (hE : Exclusive T use) (key : κ) : Exclusive (T.pop key) use where
  entered key' l hl := by
    have hkey : key' ≠ key := by
      rintro rfl
      simp [LockTable.pop] at hl
    exact hE.entered key' l (by simpa [LockTable.pop, hkey] using hl)
  made := hE.made
  queue := hE.queue
  nodup := hE.nodup
  tight := hE.tight
  holder := hE.holder

/-! ## What a task can do -/

/-- An operation of the task `t`, with its use of a lock before and after. Only entries of keys that
meet `P` are removed. -/
inductive Op (t : τ) (P : κ → Prop) :
    LockTable κ τ × Option (LockUse κ) → LockTable κ τ × Option (LockUse κ) → Prop
  /-- `acquire` returns at once. -/
  | takes (T : LockTable κ τ) (key : κ)
      (hfree : ((T.get key).2.lock (T.get key).1).free = true) :
      Op t P (T, none) ((T.get key).2.acquire (T.get key).1 t, some ⟨key, (T.get key).1, true⟩)
  /-- `acquire` suspends. -/
  | queues (T : LockTable κ τ) (key : κ)
      (hbusy : ((T.get key).2.lock (T.get key).1).free = false) :
      Op t P (T, none) ((T.get key).2.acquire (T.get key).1 t, some ⟨key, (T.get key).1, false⟩)
  /-- A suspended `acquire` returns. -/
  | passes (T : LockTable κ τ) (key : κ) (l : ℕ) (hheld : (T.lock l).holder = some t) :
      Op t P (T, some ⟨key, l, false⟩) (T, some ⟨key, l, true⟩)
  | releases (T : LockTable κ τ) (key : κ) (l : ℕ) :
      Op t P (T, some ⟨key, l, true⟩) (T.release l, none)
  | pops (T : LockTable κ τ) (u : Option (LockUse κ)) (key : κ) (hkey : P key) :
      Op t P (T, u) (T.pop key, u)

/-- Any number of operations of the task `t`. -/
def Ops (t : τ) (P : κ → Prop) :
    LockTable κ τ × Option (LockUse κ) → LockTable κ τ × Option (LockUse κ) → Prop :=
  Relation.ReflTransGen (Op t P)

/-- What the task `t` does when it is resumed: a suspended `acquire` returns, or the lock that it
holds is released, and any operations follow. -/
def Resumes (t : τ) (P : κ → Prop) (T : LockTable κ τ) (u : Option (LockUse κ))
    (x : LockTable κ τ × Option (LockUse κ)) : Prop :=
  match u with
  | none => Ops t P (T, none) x
  | some ⟨key, l, false⟩ => (T.lock l).holder = some t ∧ Ops t P (T, some ⟨key, l, true⟩) x
  | some ⟨_, l, true⟩ => Ops t P (T.release l, none) x

variable {P : κ → Prop} {u : Option (LockUse κ)}

/-- Resuming a task that waits is a sequence of operations. -/
theorem Resumes.ops {x : LockTable κ τ × Option (LockUse κ)} (h : Resumes t P T u x) :
    Ops t P (T, u) x := by
  unfold Resumes at h
  split at h
  · exact h
  · exact .head (.passes T _ _ h.1) h.2
  · exact .head (.releases T _ _) h

/-- More operations may follow after a resumption. -/
theorem Resumes.trans {x y : LockTable κ τ × Option (LockUse κ)} (h : Resumes t P T u x)
    (h' : Ops t P x y) : Resumes t P T u y := by
  unfold Resumes at h ⊢
  split at h
  · exact Relation.ReflTransGen.trans h h'
  · exact ⟨h.1, Relation.ReflTransGen.trans h.2 h'⟩
  · exact Relation.ReflTransGen.trans h h'

/-- A sequence of operations on some keys is one on more keys. -/
theorem Ops.mono {Q : κ → Prop} (hPQ : ∀ key, P key → Q key)
    {x y : LockTable κ τ × Option (LockUse κ)} (h : Ops t P x y) : Ops t Q x y := by
  refine Relation.ReflTransGen.mono (fun a b hab => ?_) _ _ h
  cases hab with
  | takes T key hfree => exact .takes T key hfree
  | queues T key hbusy => exact .queues T key hbusy
  | passes T key l hheld => exact .passes T key l hheld
  | releases T key l => exact .releases T key l
  | pops T u key hkey => exact .pops T u key (hPQ key hkey)

variable [DecidableEq τ]

/-- An operation keeps the mutual exclusion. -/
theorem Exclusive.op {x y : LockTable κ τ × Option (LockUse κ)}
    (hE : Exclusive x.1 (Function.update use t x.2)) (h : Op t P x y) :
    Exclusive y.1 (Function.update use t y.2) := by
  -- An operation is about the one task, whose use is replaced as a whole.
  have hidem : ∀ u u' : Option (LockUse κ), Function.update (Function.update use t u) t u' =
      Function.update use t u' := fun u u' => Function.update_idem _ _ _
  cases h with
  | takes T key hfree =>
    obtain ⟨hE', hlt⟩ := hE.get key
    rw [← hidem none]
    exact hE'.acquire hlt (by simp) fun _ => hfree
  | queues T key =>
    obtain ⟨hE', hlt⟩ := hE.get key
    rw [← hidem none]
    exact hE'.acquire hlt (by simp) fun hholds => by cases hholds
  | passes T key l hheld =>
    rw [← hidem (some ⟨key, l, false⟩)]
    exact hE.pass (by simp) hheld
  | releases T key l =>
    rw [← hidem (some ⟨key, l, true⟩)]
    have hu : Function.update use t (some ⟨key, l, true⟩) t = some ⟨key, l, true⟩ :=
      Function.update_self _ _ _
    exact hE.release hu
  | pops T u key => exact hE.pop key

/-- Exclusive use is kept by any sequence of operations. -/
theorem Exclusive.ops {x y : LockTable κ τ × Option (LockUse κ)}
    (hE : Exclusive x.1 (Function.update use t x.2)) (h : Ops t P x y) :
    Exclusive y.1 (Function.update use t y.2) := by
  induction h with
  | refl => exact hE
  | tail _ hop ih => exact ih.op hop

/-! ## The entry of a key -/

/-- A key is served as before by an operation that does not remove its entry. -/
theorem Serves.op {key : κ} (hkey : ¬ P key) {x y : LockTable κ τ × Option (LockUse κ)}
    (hS : Serves x.1 (Function.update use t x.2) key) (h : Op t P x y) :
    Serves y.1 (Function.update use t y.2) key := by
  intro t' u hu hk
  -- The lookup before an acquire keeps every entry that is there.
  have hacquire : ∀ (T : LockTable κ τ) key₁ holds,
      Serves T (Function.update use t none) key →
      Function.update use t (some ⟨key₁, (T.get key₁).1, holds⟩) t' = some u →
      (T.get key₁).2.entry key = some u.lock := by
    intro T key₁ holds hS hu
    by_cases ht : t' = t
    · obtain rfl : ⟨key₁, (T.get key₁).1, holds⟩ = u := by simpa [ht] using hu
      rw [← hk]
      exact get_entry T key₁
    · exact get_entry_of_some (hS t' u (by simpa [ht] using hu) hk)
  cases h with
  | takes T key₁ => exact hacquire T key₁ true hS hu
  | queues T key₁ => exact hacquire T key₁ false hS hu
  | passes T key₁ l =>
    by_cases ht : t' = t
    · obtain rfl : ⟨key₁, l, true⟩ = u := by simpa [ht] using hu
      exact hS t ⟨key₁, l, false⟩ (by simp) hk
    · exact hS t' u (by simpa [ht] using hu) hk
  | releases T key₁ l =>
    by_cases ht : t' = t
    · simp [ht] at hu
    · exact hS t' u (by simpa [ht] using hu) hk
  -- An entry is removed only for the keys of `P`.
  | pops T u₁ key₁ hkey₁ =>
    have hne : key ≠ key₁ := by
      rintro rfl
      exact hkey hkey₁
    simpa [LockTable.pop, hne] using hS t' u hu hk

/-- A key is served as before by a sequence of operations that do not remove its entry. -/
theorem Serves.ops {key : κ} (hkey : ¬ P key) {x y : LockTable κ τ × Option (LockUse κ)}
    (hS : Serves x.1 (Function.update use t x.2) key) (h : Ops t P x y) :
    Serves y.1 (Function.update use t y.2) key := by
  induction h with
  | refl => exact hS
  | tail _ hop ih => exact ih.op hkey hop

/-! ## Releases -/

/-- A lock that another task holds stays with it. -/
theorem Op.holder_other {x y : LockTable κ τ × Option (LockUse κ)} (h : Op t P x y)
    (hE : Exclusive x.1 (Function.update use t x.2)) {l : ℕ} {t' : τ} (ht : t' ≠ t)
    (hheld : (x.1.lock l).holder = some t') : (y.1.lock l).holder = some t' := by
  -- A lookup puts a free lock at a new number, and this one is held.
  have hget : ∀ (T : LockTable κ τ) key, Exclusive T (Function.update use t none) →
      (T.lock l).holder = some t' → ((T.get key).2.lock l).holder = some t' := by
    intro T key hE hheld
    unfold LockTable.get
    split
    · exact hheld
    · have hne : l ≠ T.created := by
        rintro rfl
        have hmem := Lock.mem_queue_of_holder hheld
        rw [hE.queue_created] at hmem
        cases hmem
      simpa [hne] using hheld
  -- An acquire of a held lock joins its queue.
  have hacquire : ∀ (T : LockTable κ τ) l₁, (T.lock l).holder = some t' →
      ((T.acquire l₁ t).lock l).holder = some t' := by
    intro T l₁ hheld
    by_cases hl : l = l₁
    · subst hl
      simpa [LockTable.acquire] using Lock.acquire_holder hheld
    · simpa [LockTable.acquire, hl] using hheld
  cases h with
  | takes T key | queues T key => exact hacquire _ _ (hget T key hE hheld)
  | passes | pops => exact hheld
  | releases T key l₁ =>
    have hl : l ≠ l₁ := by
      rintro rfl
      have hown := hE.holder t ⟨key, l, true⟩ (by simp) rfl
      rw [hown] at hheld
      exact ht (Option.some.inj hheld).symm
    simpa [LockTable.release, hl] using hheld

/-- A lock that the task `t` has released is held by the first waiter afterwards, or by nobody,
unless `t` has called `acquire` on it again. -/
theorem Ops.released {l : ℕ} {key : κ} {y : LockTable κ τ × Option (LockUse κ)}
    (hE : Exclusive T use) (hu : use t = some ⟨key, l, true⟩)
    (h : Ops t P (T.release l, none) y) :
    (y.1.lock l).holder = (T.lock l).waiters.head? ∨
      (T.lock l).waiters = [] ∧ ∃ u, y.2 = some u ∧ u.lock = l := by
  have hE₁ : Exclusive (T.release l) (Function.update use t none) := hE.release hu
  have hholder₁ : ((T.release l).lock l).holder = (T.lock l).waiters.head? := by
    simp [LockTable.release, Lock.release_holder]
  cases hwaiters : (T.lock l).waiters with
  | cons t' ts =>
    have hheld : (T.lock l).holder = some t := hE.holder t _ hu rfl
    have hne : t' ≠ t := by
      rintro rfl
      have hnodup := hE.nodup l
      simp [Lock.queue, hheld, hwaiters] at hnodup
    rw [hwaiters] at hholder₁
    -- The first waiter has the lock from the release on, whatever this task does next.
    have hrun : (y.1.lock l).holder = some t' ∧ Exclusive y.1 (Function.update use t y.2) := by
      induction h with
      | refl => exact ⟨hholder₁, hE₁⟩
      | tail _ hop ih => exact ⟨hop.holder_other ih.2 hne ih.1, ih.2.op hop⟩
    exact .inl hrun.1
  -- Nobody waited: a new holder can only be this task itself.
  | nil =>
    have hE' := hE₁.ops (x := (T.release l, none)) h
    cases hholder : (y.1.lock l).holder with
    | none => exact .inl rfl
    | some t' =>
      obtain ⟨u, hu', hlock⟩ := (hE'.queue l t').mp (Lock.mem_queue_of_holder hholder)
      by_cases ht : t' = t
      · rw [ht, Function.update_self] at hu'
        exact .inr ⟨rfl, u, hu', hlock⟩
      · have hmem : t' ∈ ((T.release l).lock l).queue :=
          (hE₁.queue l t').mpr ⟨u, by simpa [ht] using hu', hlock⟩
        simp [LockTable.release, Lock.release_queue, hwaiters] at hmem

end LockTable

end Asyncio
