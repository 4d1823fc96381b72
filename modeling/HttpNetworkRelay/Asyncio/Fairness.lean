import HttpNetworkRelay.Asyncio.LockTable
import HttpNetworkRelay.Asyncio.Machine

/-!
# Runs that resume every task

`Endless` is an infinite run of a machine, and `Endless.Fair` says of it that a task that could be
resumed is resumed sooner or later. The rule for what happens in every such run is
`Endless.Fair.finishes`: a rank that no step raises, and in each state whose rank is positive a
task, the helper, that can be resumed and lowers the rank when it is.

For a task that queues for a lock the rank is its `LockTable.turn`, and the helper is the holder.
-/

namespace Asyncio

variable {σ ε τ : Type*}

/-- An infinite run, at some moments of which nothing happens. -/
structure Endless (step : σ → ε → Option σ) (ok : σ → ε → Prop) (s : σ) where
  state : ℕ → σ
  event : ℕ → Option ε
  start : state 0 = s
  idle : ∀ n, event n = none → state (n + 1) = state n
  moves : ∀ n e, event n = some e → ok (state n) e ∧ step (state n) e = some (state (n + 1))

namespace Endless

variable {step : σ → ε → Option σ} {ok : σ → ε → Prop} {task : ε → Option τ} {s : σ}

/-- The task `t` can be resumed. -/
def Ready (step : σ → ε → Option σ) (ok : σ → ε → Prop) (task : ε → Option τ) (s : σ) (t : τ) :
    Prop :=
  ∃ e s', task e = some t ∧ ok s e ∧ step s e = some s'

/-- A task that can be resumed is resumed sooner or later. -/
def Fair (r : Endless step ok s) (task : ε → Option τ) : Prop :=
  ∀ n t, Ready step ok task (r.state n) t → ∃ m, n ≤ m ∧ ∃ e, r.event m = some e ∧ task e = some t

/-- A rank, with the task that lowers it, for the states that meet `I`. -/
structure Helped (step : σ → ε → Option σ) (ok : σ → ε → Prop) (task : ε → Option τ) (I : σ → Prop)
    (rank : σ → ℕ) (helper : σ → τ) : Prop where
  kept : ∀ s e s', I s → ok s e → step s e = some s' → I s'
  ready : ∀ s, I s → rank s ≠ 0 → Ready step ok task s (helper s)
  /-- A step lowers the rank, or keeps it and the helper, which then has not been resumed. -/
  lowers : ∀ s e s', I s → rank s ≠ 0 → ok s e → step s e = some s' →
    rank s' < rank s ∨ (rank s' = rank s ∧ helper s' = helper s ∧ task e ≠ some (helper s))

variable {I : σ → Prop} {rank : σ → ℕ} {helper : σ → τ}

/-- An invariant of the steps holds at all times. -/
theorem always (r : Endless step ok s) (hI : I s)
    (hkept : ∀ s e s', I s → ok s e → step s e = some s' → I s') (n : ℕ) : I (r.state n) := by
  induction n with
  | zero => rwa [r.start]
  | succ n ih =>
    cases he : r.event n with
    | none => rwa [r.idle n he]
    | some e =>
      obtain ⟨hok, hs⟩ := r.moves n e he
      exact hkept _ e _ ih hok hs

/-- From a state with a positive rank on, the rank gets lower, or it stays with its helper. -/
theorem lower_or_same (r : Endless step ok s) (hH : Helped step ok task I rank helper)
    (hI : ∀ n, I (r.state n)) {n : ℕ} (hpos : rank (r.state n) ≠ 0) (d : ℕ) :
    (∃ m, rank (r.state m) < rank (r.state n)) ∨
      (rank (r.state (n + d)) = rank (r.state n) ∧
        helper (r.state (n + d)) = helper (r.state n)) := by
  induction d with
  | zero => exact .inr ⟨rfl, rfl⟩
  | succ d ih =>
    rcases ih with hlower | ⟨hrank, hhelper⟩
    · exact .inl hlower
    · cases he : r.event (n + d) with
      | none =>
        have hsame : r.state (n + (d + 1)) = r.state (n + d) := r.idle _ he
        rw [hsame]
        exact .inr ⟨hrank, hhelper⟩
      | some e =>
        obtain ⟨hok, hs⟩ := r.moves _ e he
        have hpos' : rank (r.state (n + d)) ≠ 0 := by rwa [hrank]
        rcases hH.lowers _ e _ (hI _) hpos' hok hs with hlt | ⟨hrank', hhelper', -⟩
        · exact .inl ⟨n + d + 1, by omega⟩
        · exact .inr ⟨hrank'.trans hrank, hhelper'.trans hhelper⟩

/-- In a fair run a positive rank gets lower. -/
theorem Fair.lower {r : Endless step ok s} (hfair : r.Fair task)
    (hH : Helped step ok task I rank helper) (hI : ∀ n, I (r.state n)) {n : ℕ}
    (hpos : rank (r.state n) ≠ 0) : ∃ m, rank (r.state m) < rank (r.state n) := by
  obtain ⟨m, hm, e, he, htask⟩ := hfair n _ (hH.ready _ (hI n) hpos)
  obtain ⟨d, rfl⟩ := Nat.exists_eq_add_of_le hm
  rcases r.lower_or_same hH hI hpos d with hlower | ⟨hrank, hhelper⟩
  · exact hlower
  · -- The helper is resumed with the rank still the same, and lowers it.
    obtain ⟨hok, hs⟩ := r.moves _ e he
    have hpos' : rank (r.state (n + d)) ≠ 0 := by rwa [hrank]
    rcases hH.lowers _ e _ (hI _) hpos' hok hs with hlt | ⟨-, -, hother⟩
    · exact ⟨n + d + 1, by omega⟩
    · rw [hhelper] at hother
      exact absurd htask hother

/-- In a fair run the rank gets to zero. -/
theorem Fair.finishes {r : Endless step ok s} (hfair : r.Fair task)
    (hH : Helped step ok task I rank helper) (hI : I s) : ∃ n, rank (r.state n) = 0 := by
  have hall := r.always hI hH.kept
  suffices h : ∀ k n, rank (r.state n) = k → ∃ m, rank (r.state m) = 0 from h _ 0 rfl
  intro k
  induction k using Nat.strongRecOn with
  | ind k ih =>
    intro n hk
    by_cases hzero : rank (r.state n) = 0
    · exact ⟨n, hzero⟩
    · obtain ⟨m, hm⟩ := hfair.lower hH hall hzero
      exact ih _ (by omega) m rfl

end Endless

/-! ## The queue of a lock -/

namespace LockTable

variable {κ : Type*} {T : LockTable κ τ} {use : τ → Option (LockUse κ)} {l : ℕ} {t t' : τ}

/-- Whether the holder of the lock `l` has been resumed since the lock was handed to it. -/
def taken (T : LockTable κ τ) (use : τ → Option (LockUse κ)) (l : ℕ) : Bool :=
  ((T.lock l).holder.bind use).any (·.holds)

/-- A task that uses another lock, or none, does not hold this one. -/
theorem Exclusive.holder_ne (hE : Exclusive T use) (hother : ∀ u, use t' = some u → u.lock ≠ l) :
    (T.lock l).holder ≠ some t' := by
  intro hheld
  obtain ⟨u, hu, hlock⟩ := (hE.queue l t').mp (Lock.mem_queue_of_holder hheld)
  exact hother u hu hlock

/-- A lock in which a task is queued has a holder. -/
theorem Exclusive.holder_of_mem (hE : Exclusive T use) (ht : t ∈ (T.lock l).queue) :
    ∃ h, (T.lock l).holder = some h := by
  cases hheld : (T.lock l).holder with
  | none => simp [Lock.queue, hheld, hE.tight l hheld] at ht
  | some h => exact ⟨h, rfl⟩

section

variable [DecidableEq τ]

/-- How many steps of the holders of the lock `l` come before those of the queued task `t`. -/
def turn (T : LockTable κ τ) (use : τ → Option (LockUse κ)) (l : ℕ) (t : τ) : ℕ :=
  2 * (T.lock l).queue.idxOf t + if T.taken use l then 0 else 1

/-- What the task `t'` does does not delay the task `t`, which is in the queue of the lock `l`. -/
def Sooner (use : τ → Option (LockUse κ)) (l : ℕ) (t t' : τ)
    (x y : LockTable κ τ × Option (LockUse κ)) : Prop :=
  y.1.turn (Function.update use t' y.2) l t < x.1.turn (Function.update use t' x.2) l t ∨
    (y.1.turn (Function.update use t' y.2) l t = x.1.turn (Function.update use t' x.2) l t ∧
      (y.1.lock l).holder = (x.1.lock l).holder)

/-- What comes sooner in two steps comes sooner. -/
theorem Sooner.trans {x y z : LockTable κ τ × Option (LockUse κ)} (h : Sooner use l t t' x y)
    (h' : Sooner use l t t' y z) : Sooner use l t t' x z := by
  rcases h with h | ⟨h, hholder⟩ <;> rcases h' with h' | ⟨h', hholder'⟩
  · exact .inl (by omega)
  · exact .inl (by omega)
  · exact .inl (by omega)
  · exact .inr ⟨h'.trans h, hholder'.trans hholder⟩

/-- The turn of a task depends on the queue and on the use of the holder. -/
theorem turn_congr {T' : LockTable κ τ} {use' : τ → Option (LockUse κ)}
    (hidx : (T'.lock l).queue.idxOf t = (T.lock l).queue.idxOf t)
    (hholder : (T'.lock l).holder = (T.lock l).holder)
    (huse : ∀ h, (T.lock l).holder = some h → use' h = use h) :
    T'.turn use' l t = T.turn use l t := by
  have htaken : T'.taken use' l = T.taken use l := by
    unfold taken
    rw [hholder]
    cases hheld : (T.lock l).holder with
    | none => rfl
    | some h => simp [huse h hheld]
  rw [turn, turn, hidx, htaken]

/-- Only the queue of the lock `l` has changed, behind the task `t`, and `t'` does not hold it. -/
theorem Sooner.of_queue {x y : LockTable κ τ × Option (LockUse κ)}
    (hidx : (y.1.lock l).queue.idxOf t = (x.1.lock l).queue.idxOf t)
    (hholder : (y.1.lock l).holder = (x.1.lock l).holder)
    (hne : (x.1.lock l).holder ≠ some t') : Sooner use l t t' x y := by
  refine .inr ⟨turn_congr hidx hholder fun h hheld => ?_, hholder⟩
  have hother : h ≠ t' := by
    rintro rfl
    exact hne hheld
  simp [hother]

end

variable [DecidableEq κ]

/-- A lock that is not looked up for the first time stays as it is. -/
theorem get_lock (T : LockTable κ τ) (key : κ) (hl : l ≠ T.created) :
    (T.get key).2.lock l = T.lock l := by
  unfold LockTable.get
  split
  · rfl
  · simp [hl]

variable [DecidableEq τ]

/-- A task that queues for a lock queues behind those that are there. -/
theorem Exclusive.get_acquire (hE : Exclusive T use) (ht : t ∈ (T.lock l).queue) (key : κ)
    (t' : τ) :
    (((T.get key).2.acquire (T.get key).1 t').lock l).queue.idxOf t =
        (T.lock l).queue.idxOf t ∧
      (((T.get key).2.acquire (T.get key).1 t').lock l).holder = (T.lock l).holder := by
  have hcreated : l ≠ T.created := by
    rintro rfl
    rw [hE.queue_created] at ht
    cases ht
  have hlock := T.get_lock key hcreated
  obtain ⟨h, hheld⟩ := hE.holder_of_mem ht
  by_cases hl : l = (T.get key).1
  · have hacquire : ((T.get key).2.acquire (T.get key).1 t').lock l = (T.lock l).acquire t' := by
      rw [← hlock, LockTable.acquire, hl]
      exact Function.update_self _ _ _
    rw [hacquire, Lock.acquire_queue, List.idxOf_append_of_mem ht, hheld]
    exact ⟨rfl, Lock.acquire_holder hheld⟩
  · have hacquire : ((T.get key).2.acquire (T.get key).1 t').lock l = T.lock l := by
      rw [← hlock, LockTable.acquire]
      exact Function.update_of_ne hl _ _
    rw [hacquire]
    exact ⟨rfl, rfl⟩

/-- An operation of another task does not delay a queued one, and one of the holder brings it
forward. No entries are removed. -/
theorem Exclusive.op_sooner {x y : LockTable κ τ × Option (LockUse κ)}
    (hE : Exclusive x.1 (Function.update use t' x.2)) (hne : t ≠ t')
    (ht : t ∈ (x.1.lock l).queue) (h : Op t' (fun _ => False) x y) :
    Sooner use l t t' x y ∧
      ((x.1.lock l).holder = some t' →
        y.1.turn (Function.update use t' y.2) l t <
          x.1.turn (Function.update use t' x.2) l t) := by
  cases h with
  | takes T key | queues T key =>
    have hother : (T.lock l).holder ≠ some t' := hE.holder_ne fun u hu => by simp at hu
    obtain ⟨hidx, hholder⟩ := hE.get_acquire ht key t'
    exact ⟨.of_queue hidx hholder hother, fun hheld => absurd hheld hother⟩
  | passes T key l' hheld =>
    by_cases hl : l' = l
    · subst hl
      have hlt : T.turn (Function.update use t' (some ⟨key, l', true⟩)) l' t <
          T.turn (Function.update use t' (some ⟨key, l', false⟩)) l' t := by
        simp [turn, taken, hheld]
      exact ⟨.inl hlt, fun _ => hlt⟩
    · have hother : (T.lock l).holder ≠ some t' := hE.holder_ne fun u hu => by
        obtain rfl : ⟨key, l', false⟩ = u := by simpa using hu
        exact hl
      exact ⟨.of_queue rfl rfl hother, fun hheld => absurd hheld hother⟩
  | releases T key l' =>
    by_cases hl : l' = l
    · subst hl
      have hheld : (T.lock l').holder = some t' :=
        hE.holder t' ⟨key, l', true⟩ (Function.update_self _ _ _) rfl
      have hqueue : (T.lock l').queue = t' :: (T.lock l').waiters := by simp [Lock.queue, hheld]
      have hqueue' : ((T.release l').lock l').queue = (T.lock l').waiters := by
        simp [LockTable.release, Lock.release_queue]
      have hlt : (T.release l').turn (Function.update use t' none) l' t <
          T.turn (Function.update use t' (some ⟨key, l', true⟩)) l' t := by
        have htaken : T.taken (Function.update use t' (some ⟨key, l', true⟩)) l' = true := by
          simp [taken, hheld]
        rw [turn, turn, hqueue, hqueue', htaken, List.idxOf_cons_ne _ (Ne.symm hne)]
        split
        · simp
        · simp
          omega
      exact ⟨.inl hlt, fun _ => hlt⟩
    · have hother : (T.lock l).holder ≠ some t' := hE.holder_ne fun u hu => by
        obtain rfl : ⟨key, l', true⟩ = u := by simpa using hu
        exact hl
      have hlock : (T.release l').lock l = T.lock l := Function.update_of_ne (Ne.symm hl) _ _
      exact ⟨.of_queue (by rw [hlock]) (by rw [hlock]) hother, fun hheld => absurd hheld hother⟩
  | pops _ _ _ hkey => exact hkey.elim

/-- A task that is queued stays in the queue while another task runs. -/
theorem Exclusive.ops_sooner {x y : LockTable κ τ × Option (LockUse κ)}
    (hE : Exclusive x.1 (Function.update use t' x.2)) (hne : t ≠ t')
    (ht : ∃ u, use t = some u ∧ u.lock = l) (h : Ops t' (fun _ => False) x y) :
    Sooner use l t t' x y := by
  induction h with
  | refl => exact .inr ⟨rfl, rfl⟩
  | tail hops hop ih =>
    have hE' := hE.ops hops
    have hmem := (hE'.queue l t).mpr (by simpa [hne] using ht)
    exact ih.trans (hE'.op_sooner hne hmem hop).1

/-- A resumption of another task does not delay a queued one, and one of the holder brings it
forward. -/
theorem Exclusive.resumes_sooner {y : LockTable κ τ × Option (LockUse κ)} (hE : Exclusive T use)
    (hne : t ≠ t') (ht : ∃ u, use t = some u ∧ u.lock = l)
    (h : Resumes t' (fun _ => False) T (use t') y) :
    y.1.turn (Function.update use t' y.2) l t < T.turn use l t ∨
      (y.1.turn (Function.update use t' y.2) l t = T.turn use l t ∧
        (y.1.lock l).holder = (T.lock l).holder ∧ (T.lock l).holder ≠ some t') := by
  have hE' : Exclusive T (Function.update use t' (use t')) := by rwa [Function.update_eq_self]
  have hmem := (hE.queue l t).mpr ht
  -- The first operation of a task that is resumed at a lock is the one that matters.
  have hfirst : ∀ z, Op t' (fun _ => False) (T, use t') z → Ops t' (fun _ => False) z y →
      y.1.turn (Function.update use t' y.2) l t < T.turn use l t ∨
        (y.1.turn (Function.update use t' y.2) l t = T.turn use l t ∧
          (y.1.lock l).holder = (T.lock l).holder ∧ (T.lock l).holder ≠ some t') := by
    intro z hop hops
    obtain ⟨hz, hheld⟩ := Exclusive.op_sooner (x := (T, use t')) hE' hne hmem hop
    have hy := (hE'.op (x := (T, use t')) hop).ops_sooner hne ht hops
    simp only [Sooner, Function.update_eq_self] at hz hheld hy
    by_cases hheld' : (T.lock l).holder = some t'
    · have hlt := hheld hheld'
      rcases hy with hy | ⟨hy, -⟩
      · exact .inl (by omega)
      · exact .inl (by omega)
    · rcases hz with hz | ⟨hz, hholder⟩ <;> rcases hy with hy | ⟨hy, hholder'⟩
      · exact .inl (by omega)
      · exact .inl (by omega)
      · exact .inl (by omega)
      · exact .inr ⟨hy.trans hz, hholder'.trans hholder, hheld'⟩
  cases hu : use t' with
  | none =>
    have hself : Function.update use t' none = use := by rw [← hu, Function.update_eq_self]
    rw [hu] at h hE'
    have hops := hE'.ops_sooner (x := (T, none)) hne ht h
    simp only [Sooner, hself] at hops
    rcases hops with hlt | ⟨heq, hholder⟩
    · exact .inl hlt
    · exact .inr ⟨heq, hholder, hE.holder_ne fun u hu' => by simp [hu] at hu'⟩
  | some u =>
    obtain ⟨key, l', holds⟩ := u
    rw [hu] at h hfirst
    cases holds with
    | false => exact hfirst _ (.passes T key l' h.1) h.2
    | true => exact hfirst _ (.releases T key l') h

end LockTable

end Asyncio
