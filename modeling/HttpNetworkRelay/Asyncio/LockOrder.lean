import HttpNetworkRelay.Asyncio.LockTable

/-!
# The order at a lock

`line` is the queue of the lock that is entered for a key. A task that calls `acquire` comes to its
end, and nothing else that a task does there changes the order of the others (`Ops.order`). What the
tasks in the line have to say, one after the other, is therefore said in the order of their calls:
`flatMap_order` and `acquire_line` are the rules for a stream through a lock.
-/

namespace Asyncio

variable {κ τ β : Type*}

/-- If the others keep their order and their contents, and `t` has none, the contents are the
same. -/
theorem flatMap_order [DecidableEq τ] {t : τ} {line line' : List τ} {content content' : τ → List β}
    (horder : line'.filter (· ≠ t) = line.filter (· ≠ t)) (hnone : content t = [])
    (hnone' : content' t = []) (hother : ∀ t', t' ≠ t → content' t' = content t') :
    line'.flatMap content' = line.flatMap content := by
  have hskip : ∀ (content : τ → List β), content t = [] → ∀ line : List τ,
      line.flatMap content = (line.filter (· ≠ t)).flatMap content := by
    intro content hnone line
    induction line with
    | nil => rfl
    | cons t' line ih =>
      by_cases ht : t' = t
      · simpa [ht, hnone] using ih
      · simpa [ht] using ih
  calc line'.flatMap content'
      = (line'.filter (· ≠ t)).flatMap content' := hskip content' hnone' line'
    _ = (line.filter (· ≠ t)).flatMap content' := by rw [horder]
    _ = (line.filter (· ≠ t)).flatMap content := by
        refine List.flatMap_congr fun t' ht' => hother t' ?_
        simpa using (List.mem_filter.mp ht').2
    _ = line.flatMap content := (hskip content hnone line).symm

namespace LockTable

variable {use : τ → Option (LockUse κ)} {t : τ} {T : LockTable κ τ} {P : κ → Prop} {key : κ}

/-- The holder of the lock of a key and the tasks that wait for it. -/
def line (T : LockTable κ τ) (key : κ) : List τ := (T.entry key).elim [] fun l => (T.lock l).queue

/-- The line of a key is the queue of the lock that is stored for it. -/
theorem line_of_entry {l : ℕ} (h : T.entry key = some l) : T.line key = (T.lock l).queue := by
  unfold line
  rw [h]
  rfl

/-- A task in a line uses a lock. -/
theorem mem_line (hE : Exclusive T use) (h : t ∈ T.line key) : ∃ u, use t = some u := by
  unfold line at h
  cases hentry : T.entry key with
  | none =>
    rw [hentry] at h
    cases h
  | some l =>
    rw [hentry] at h
    obtain ⟨u, hu, -⟩ := (hE.queue l t).mp h
    exact ⟨u, hu⟩

/-- A task is in the line of the lock that it uses, once. -/
theorem line_nodup (hE : Exclusive T use) : (T.line key).Nodup := by
  unfold line
  cases T.entry key with
  | none => exact List.nodup_nil
  | some l => exact hE.nodup l

/-- The holder is at the head of the line. -/
theorem holder_line {l : ℕ} (hentry : T.entry key = some l) (hheld : (T.lock l).holder = some t) :
    T.line key = t :: (T.lock l).waiters := by
  rw [line_of_entry hentry]
  simp [Lock.queue, hheld]

variable [DecidableEq κ]

/-- A lock that has just been made has an empty line. -/
theorem get_line (hE : Exclusive T use) (key key' : κ) : (T.get key).2.line key' = T.line key' := by
  unfold LockTable.get
  split
  · rfl
  next hnone =>
    by_cases hkey : key' = key
    · subst hkey
      simp [line, hnone, Lock.queue]
    · unfold line
      simp only [Function.update_of_ne hkey]
      cases hentry : T.entry key' with
      | none => rfl
      | some l =>
        have hlt := hE.entered key' l hentry
        have hne : l ≠ T.created := by omega
        simp [hne]

/-- A task that calls `acquire` comes to the end of the line. -/
theorem acquire_line [DecidableEq τ] (hE : Exclusive T use) (key : κ) (t : τ) :
    ((T.get key).2.acquire (T.get key).1 t).line key = T.line key ++ [t] := by
  have hentry := get_entry T key
  calc ((T.get key).2.acquire (T.get key).1 t).line key
      = (((T.get key).2.lock (T.get key).1).acquire t).queue := by
        rw [line_of_entry (T := (T.get key).2.acquire (T.get key).1 t) hentry]
        simp [LockTable.acquire]
    _ = (T.get key).2.line key ++ [t] := by rw [Lock.acquire_queue, line_of_entry hentry]
    _ = T.line key ++ [t] := by rw [get_line hE]

/-- At a free lock, there is no line. -/
theorem free_line (hE : Exclusive T use)
    (hfree : ((T.get key).2.lock (T.get key).1).free = true) : T.line key = [] := by
  rw [← get_line hE key, line_of_entry (get_entry T key)]
  obtain ⟨hholder, hwaiters⟩ := Lock.free_iff.mp hfree
  simp [Lock.queue, hholder, hwaiters]

variable [DecidableEq τ]

/-- What a task does at a lock does not change the order of the others. -/
theorem Op.order {x y : LockTable κ τ × Option (LockUse κ)}
    (hE : Exclusive x.1 (Function.update use t x.2)) (hkey : ¬ P key) (h : Op t P x y) :
    (y.1.line key).filter (· ≠ t) = (x.1.line key).filter (· ≠ t) := by
  have hacquire : ∀ (T : LockTable κ τ) (l : ℕ),
      ((T.acquire l t).line key).filter (· ≠ t) = (T.line key).filter (· ≠ t) := by
    intro T l
    unfold line
    cases hentry : T.entry key with
    | none => simp [LockTable.acquire, hentry]
    | some l' =>
      by_cases hl : l' = l
      · simp [LockTable.acquire, hentry, hl, Lock.acquire_queue]
      · simp [LockTable.acquire, hentry, hl]
  cases h with
  | takes T key₁ | queues T key₁ =>
    show (((T.get key₁).2.acquire (T.get key₁).1 t).line key).filter (· ≠ t) = _
    rw [hacquire, get_line hE]
  | passes => rfl
  | releases T key₁ l =>
    -- The task is at the head of the line.
    have hheld : (T.lock l).holder = some t := hE.holder t ⟨key₁, l, true⟩ (by simp) rfl
    have hqueue : (T.lock l).queue = t :: (T.lock l).waiters := by simp [Lock.queue, hheld]
    show ((T.release l).line key).filter (· ≠ t) = _
    unfold line
    cases hentry : T.entry key with
    | none => simp [LockTable.release, hentry]
    | some l' =>
      by_cases hl : l' = l
      · simp [LockTable.release, hentry, hl, Lock.release_queue, hqueue]
      · simp [LockTable.release, hentry, hl]
  | pops T u key₁ hkey₁ =>
    have hne : key ≠ key₁ := by
      rintro rfl
      exact hkey hkey₁
    simp [line, LockTable.pop, hne]

/-- No sequence of operations of a task changes the order of the others in a line. -/
theorem Ops.order {x y : LockTable κ τ × Option (LockUse κ)}
    (hE : Exclusive x.1 (Function.update use t x.2)) (hkey : ¬ P key) (h : Ops t P x y) :
    (y.1.line key).filter (· ≠ t) = (x.1.line key).filter (· ≠ t) := by
  induction h with
  | refl => rfl
  | tail hops hop ih =>
    have hE' := hE.ops hops
    exact (hop.order hE' hkey).trans ih

end LockTable

end Asyncio
