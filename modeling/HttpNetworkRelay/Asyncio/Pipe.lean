import Mathlib.Data.List.Basic

/-!
# A stream through a receive buffer

A sender writes items to a first-in first-out channel. While the pipe is open, what arrives is
appended to a buffer, from which a reader delivers it in chunks; once it is closed, what arrives is
lost. `Intact` is the conservation law of such a pipe: while it is open nothing is missing, and at
any time what has left the channel for the reader is a prefix of what was sent. `Done` says that
everything sent has been delivered, which no later step undoes unless more is sent.
-/

namespace Asyncio

variable {α : Type*}

/-- Where the items of a stream are. -/
structure Pipe (α : Type*) where
  sent : List α
  inFlight : List α
  buffered : List α
  delivered : List α
  isOpen : Prop

namespace Pipe

/-- What one step can do to a pipe, apart from closing it. -/
inductive Moves (p p' : Pipe α) : Prop
  | nothing (hsent : p'.sent = p.sent) (hflight : p'.inFlight = p.inFlight)
      (hbuf : p'.buffered = p.buffered) (hdone : p'.delivered = p.delivered)
  | sends (items : List α) (hsent : p'.sent = p.sent ++ items)
      (hflight : p'.inFlight = p.inFlight ++ items) (hbuf : p'.buffered = p.buffered)
      (hdone : p'.delivered = p.delivered)
  /-- Items arrive while the pipe is open. -/
  | arrives (items : List α) (hopen : p.isOpen) (hsent : p'.sent = p.sent)
      (hflight : p.inFlight = items ++ p'.inFlight) (hbuf : p'.buffered = p.buffered ++ items)
      (hdone : p'.delivered = p.delivered)
  /-- Items arrive after it was closed. -/
  | misses (items : List α) (hclosed : ¬ p.isOpen) (hsent : p'.sent = p.sent)
      (hflight : p.inFlight = items ++ p'.inFlight) (hbuf : p'.buffered = p.buffered)
      (hdone : p'.delivered = p.delivered)
  /-- The reader delivers a chunk of the buffer. -/
  | delivers (n : ℕ) (hsent : p'.sent = p.sent) (hflight : p'.inFlight = p.inFlight)
      (hbuf : p'.buffered = p.buffered.drop n)
      (hdone : p'.delivered = p.delivered ++ p.buffered.take n)

/-- A step of a pipe: a closed one is not opened again. -/
structure Step (p p' : Pipe α) : Prop where
  moves : Moves p p'
  isOpen : p'.isOpen → p.isOpen

/-- Nothing has been sent. -/
structure Fresh (p : Pipe α) : Prop where
  sent : p.sent = []
  inFlight : p.inFlight = []
  buffered : p.buffered = []
  delivered : p.delivered = []

/-- The conservation law. -/
structure Intact (p : Pipe α) : Prop where
  whole : p.isOpen → p.delivered ++ p.buffered ++ p.inFlight = p.sent
  part : p.delivered ++ p.buffered <+: p.sent

/-- Everything that was sent has been delivered. -/
structure Done (p : Pipe α) : Prop where
  delivered : p.delivered = p.sent
  buffered : p.buffered = []
  inFlight : p.inFlight = []

variable {p p' : Pipe α}

/-- A new pipe has lost nothing. -/
theorem Fresh.intact (h : p.Fresh) : p.Intact where
  whole _ := by rw [h.sent, h.inFlight, h.buffered, h.delivered]; rfl
  part := by
    rw [h.sent, h.buffered, h.delivered]
    exact List.prefix_rfl

/-- No step of a pipe loses anything. -/
theorem Intact.step (hI : p.Intact) (h : Step p p') : p'.Intact := by
  obtain ⟨hmoves, hopen⟩ := h
  have hpart := hI.part
  constructor
  · intro hp'
    have hwhole := hI.whole (hopen hp')
    cases hmoves with
    | nothing hsent hflight hbuf hdone => rw [hsent, hflight, hbuf, hdone, hwhole]
    | sends items hsent hflight hbuf hdone =>
      rw [hsent, hflight, hbuf, hdone, ← hwhole]
      simp only [List.append_assoc]
    | arrives items _ hsent hflight hbuf hdone =>
      rw [hflight] at hwhole
      rw [hsent, hbuf, hdone, ← hwhole]
      simp only [List.append_assoc]
    | misses items hclosed => exact absurd (hopen hp') hclosed
    | delivers n hsent hflight hbuf hdone =>
      rw [hsent, hflight, hbuf, hdone, List.append_assoc _ (List.take n _), List.take_append_drop,
        hwhole]
  · cases hmoves with
    | nothing hsent _ hbuf hdone => rwa [hsent, hbuf, hdone]
    | sends items hsent _ hbuf hdone =>
      rw [hsent, hbuf, hdone]
      exact hpart.trans (List.prefix_append _ _)
    | arrives items hopen hsent hflight hbuf hdone =>
      -- The pipe is open, so what arrives is what comes next of what was sent.
      rw [hsent, hbuf, hdone, ← hI.whole hopen, hflight]
      refine ⟨p'.inFlight, ?_⟩
      simp only [List.append_assoc]
    | misses items _ hsent _ hbuf hdone => rwa [hsent, hbuf, hdone]
    | delivers n hsent _ hbuf hdone =>
      rw [hsent, hbuf, hdone, List.append_assoc, List.take_append_drop]
      exact hpart

/-- What has been delivered is a prefix of what was sent. -/
theorem Intact.delivered_prefix (hI : p.Intact) : p.delivered <+: p.sent :=
  (List.prefix_append _ _).trans hI.part

/-- An open pipe with nothing on the way has delivered everything. -/
theorem Intact.done (hI : p.Intact) (hopen : p.isOpen) (hbuf : p.buffered = [])
    (hflight : p.inFlight = []) : p.Done where
  delivered := by
    have hwhole := hI.whole hopen
    rwa [hbuf, hflight, List.append_nil, List.append_nil] at hwhole
  buffered := hbuf
  inFlight := hflight

/-- Nothing gets on the way while nothing is sent. -/
theorem Moves.inFlight_nil (h : Moves p p') (hsame : p'.sent = p.sent) (hp : p.inFlight = []) :
    p'.inFlight = [] := by
  cases h with
  | nothing _ hflight | delivers _ _ hflight => rw [hflight, hp]
  | sends items hsent hflight =>
    obtain rfl : items = [] := by simpa [hsent] using hsame
    rw [hflight, hp]
    rfl
  | arrives items _ _ hflight | misses items _ _ hflight =>
    rw [hp] at hflight
    exact (List.append_eq_nil_iff.mp hflight.symm).2

/-- A pipe that is done stays so while nothing is sent. -/
theorem Done.step (hD : p.Done) (h : Moves p p') (hsame : p'.sent = p.sent) : p'.Done := by
  obtain ⟨hdelivered, hbuffered, hinFlight⟩ := hD
  have hflight' := h.inFlight_nil hsame hinFlight
  cases h with
  | nothing _ _ hbuf hdone | sends _ _ _ hbuf hdone | misses _ _ _ _ hbuf hdone =>
    exact ⟨by rw [hsame, hdone, hdelivered], by rw [hbuf, hbuffered], hflight'⟩
  | arrives items _ _ hflight hbuf hdone =>
    rw [hinFlight] at hflight
    obtain ⟨rfl, -⟩ := List.append_eq_nil_iff.mp hflight.symm
    exact ⟨by rw [hsame, hdone, hdelivered], by simp [hbuf, hbuffered], hflight'⟩
  | delivers n _ _ hbuf hdone =>
    rw [hbuffered] at hbuf hdone
    exact ⟨by simp [hsame, hdone, hdelivered], by simpa using hbuf, hflight'⟩

end Pipe

end Asyncio
