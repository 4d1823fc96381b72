import HttpNetworkRelay.Messages

/-!
# The binary frames as a code

`encode_tcp_binary_frame` and `decode_tcp_binary_frame` are inverse to each other between the pairs
of a canonical id and a payload, and the byte strings of at least 16 bytes
(`binary_frames_bijective`). `decode_of_encode` is one direction; the other one rests on
`fromhex_hex`.
-/

namespace Python

/-- The digit of a number below 16 has this number as its value. -/
theorem hexDigit_value : ∀ n < 16, hexValue? (hexDigit n) = some n := by
  decide

/-- The two digits of a byte stand before those of the bytes after it. -/
theorem hex_cons (b : UInt8) (data : Bytes) :
    hex (b :: data) = hexDigit (b.toNat / 16) :: hexDigit (b.toNat % 16) :: hex data := rfl

/-- A byte has two digits. -/
theorem hex_length (data : Bytes) : (hex data).length = 2 * data.length := by
  induction data with
  | nil => rfl
  | cons b data ih =>
    rw [hex_cons, List.length_cons, List.length_cons, List.length_cons]
    omega

/-- What is written by `hex` is read back by `fromhex`. -/
theorem fromhex_hex (data : Bytes) : fromhex (hex data) = some data := by
  induction data with
  | nil => rfl
  | cons b data ih =>
    have hlt : b.toNat < 256 := b.toNat_lt
    have hhi : hexValue? (hexDigit (b.toNat / 16)) = some (b.toNat / 16) :=
      hexDigit_value _ (by omega)
    have hlo : hexValue? (hexDigit (b.toNat % 16)) = some (b.toNat % 16) :=
      hexDigit_value _ (by omega)
    have hbyte : UInt8.ofNat (b.toNat / 16 * 16 + b.toNat % 16) = b := by
      rw [show b.toNat / 16 * 16 + b.toNat % 16 = b.toNat by omega]
      exact UInt8.ofNat_toNat
    rw [hex_cons, fromhex, if_neg (by simp [not_isSpace_of_hexValue? hhi])]
    simp only [hhi, hlo, ih, Option.bind_eq_bind, Option.bind_some, hbyte]

end Python

namespace HttpNetworkRelay

open Python

/-- The digits are lower case. -/
theorem hexDigit_isLowerHex : ∀ n < 16, isLowerHex (hexDigit n) = true := by
  decide

/-- So are the digits of a string of bytes. -/
theorem hex_isLowerHex (data : Bytes) : ∀ ch ∈ hex data, isLowerHex ch = true := by
  unfold hex
  rw [List.forall_mem_flatMap]
  intro b _
  have hlt : b.toNat < 256 := b.toNat_lt
  simp only [List.forall_mem_cons, List.not_mem_nil, false_implies, implies_true, and_true]
  exact ⟨hexDigit_isLowerHex _ (by omega), hexDigit_isLowerHex _ (by omega)⟩

/-- A group of digits of an id, where no dash is due. -/
theorem zipIdx_digits {g : List Char} {k : ℕ} (hg : ∀ ch ∈ g, isLowerHex ch = true)
    (hk : ∀ i, k ≤ i → i < k + g.length → i ∉ [8, 13, 18, 23]) :
    (g.zipIdx k).all (fun p => if p.2 ∈ [8, 13, 18, 23] then p.1 = '-' else isLowerHex p.1) =
      true := by
  rw [List.all_eq_true]
  rintro ⟨ch, i⟩ hp
  obtain ⟨hle, hlt, hch⟩ := List.mem_zipIdx hp
  rw [if_neg (hk i hle (by omega))]
  apply hg
  rw [hch]
  exact List.getElem_mem _

/-- Five groups of digits, joined by dashes, are a canonical id. -/
theorem canonical_of_groups {connection_id : ConnectionId} {g₁ g₂ g₃ g₄ g₅ : List Char}
    (hid : connection_id.toList = g₁ ++ '-' :: (g₂ ++ '-' :: (g₃ ++ '-' :: (g₄ ++ '-' :: g₅))))
    (h₁ : g₁.length = 8) (h₂ : g₂.length = 4) (h₃ : g₃.length = 4) (h₄ : g₄.length = 4)
    (h₅ : g₅.length = 12) (hall : ∀ ch ∈ g₁ ++ g₂ ++ g₃ ++ g₄ ++ g₅, isLowerHex ch = true) :
    canonical connection_id = true := by
  simp only [List.forall_mem_append] at hall
  obtain ⟨⟨⟨⟨hg₁, hg₂⟩, hg₃⟩, hg₄⟩, hg₅⟩ := hall
  unfold canonical
  rw [hid]
  simp only [List.zipIdx_append, List.zipIdx_cons, List.all_append, List.all_cons, h₁, h₂, h₃, h₄]
  rw [zipIdx_digits hg₁ (by simp; omega), zipIdx_digits hg₂ (by simp; omega),
    zipIdx_digits hg₃ (by simp; omega), zipIdx_digits hg₄ (by simp; omega),
    zipIdx_digits hg₅ (by simp; omega)]
  simp [h₁, h₂, h₃, h₄, h₅]

/-- What is read from a frame is a canonical id and a payload, which make up the frame. -/
theorem encode_of_decode {connection_id : ConnectionId} {frame payload : Bytes}
    (h : decode_tcp_binary_frame frame = .ok (connection_id, payload)) :
    canonical connection_id = true ∧ encode_tcp_binary_frame connection_id payload = .ok frame := by
  unfold decode_tcp_binary_frame at h
  split_ifs at h with hlen
  obtain ⟨hid, rfl⟩ := Prod.mk.inj (Except.ok.inj h)
  set digits := hex (frame.take 16) with hdigits
  have hcount : digits.length = 32 := by
    rw [hdigits, hex_length, List.length_take]
    omega
  have hlower : ∀ ch ∈ digits, isLowerHex ch = true := hex_isLowerHex _
  have hslice : ∀ i j, ∀ ch ∈ slice digits i j, isLowerHex ch = true := fun i j ch hch =>
    hlower ch (List.mem_of_mem_drop (List.mem_of_mem_take hch))
  have hlength : ∀ i j, j ≤ 32 → (slice digits i j).length = j - i := by
    intro i j hj
    unfold slice
    rw [List.length_take, List.length_drop]
    omega
  have htext : connection_id.toList = slice digits 0 8 ++ '-' :: (slice digits 8 12 ++ '-' ::
      (slice digits 12 16 ++ '-' :: (slice digits 16 20 ++ '-' :: slice digits 20 32))) := by
    rw [← hid]
    simp
  constructor
  · apply canonical_of_groups htext
    · exact hlength 0 8 (by omega)
    · exact hlength 8 12 (by omega)
    · exact hlength 12 16 (by omega)
    · exact hlength 16 20 (by omega)
    · exact hlength 20 32 (by omega)
    · simp only [List.forall_mem_append]
      exact ⟨⟨⟨⟨hslice _ _, hslice _ _⟩, hslice _ _⟩, hslice _ _⟩, hslice _ _⟩
  · -- Without its dashes, the id is the digits again.
    have hkeep : ∀ i j, (slice digits i j).filter (· ≠ '-') = slice digits i j := by
      intro i j
      refine List.filter_eq_self.mpr fun ch hch => ?_
      have hne : ch ≠ '-' := by
        rintro rfl
        exact absurd (hslice i j _ hch) (by decide)
      simpa using hne
    have hjoin : ∀ i j k, i ≤ j → j ≤ k →
        slice digits i j ++ slice digits j k = slice digits i k := by
      intro i j k hij hjk
      unfold slice
      rw [show k - i = (j - i) + (k - j) by omega, List.take_add, List.drop_drop,
        show i + (j - i) = j by omega]
    have hfilter : connection_id.toList.filter (· ≠ '-') = digits := by
      rw [htext]
      simp only [List.filter_append, List.filter_cons, hkeep, ne_eq, not_true_eq_false,
        decide_false, Bool.false_eq_true, if_false]
      rw [hjoin 16 20 32 (by omega) (by omega), hjoin 12 16 32 (by omega) (by omega),
        hjoin 8 12 32 (by omega) (by omega), hjoin 0 8 32 (by omega) (by omega)]
      exact List.take_of_length_le hcount.le
    rw [encode_tcp_binary_frame, hfilter, hdigits, fromhex_hex]
    simp

/-- The frames of canonical ids and payloads are the byte strings of at least 16 bytes, one for each
id and payload; nothing shorter is read as a frame. -/
theorem binary_frames_bijective :
    (∀ c payload, canonical c = true → ∃ frame, encode_tcp_binary_frame c payload = .ok frame ∧
      16 ≤ frame.length ∧ decode_tcp_binary_frame frame = .ok (c, payload)) ∧
    (∀ frame, 16 ≤ frame.length → ∃ c payload,
      decode_tcp_binary_frame frame = .ok (c, payload) ∧ canonical c = true ∧
      encode_tcp_binary_frame c payload = .ok frame) ∧
    (∀ frame, frame.length < 16 →
      ∃ text, decode_tcp_binary_frame frame = .error (.valueError text)) ∧
    ∀ c c' payload payload' frame, canonical c = true → canonical c' = true →
      encode_tcp_binary_frame c payload = .ok frame →
      encode_tcp_binary_frame c' payload' = .ok frame → c = c' ∧ payload = payload' := by
  refine ⟨?_, ?_, ?_, ?_⟩
  · intro c payload hc
    obtain ⟨frame, hframe⟩ := encode_tcp_binary_frame_ok hc payload
    have hdecode := decode_of_encode hc hframe
    exact ⟨frame, hframe, (decode_tcp_binary_frame_isOk frame).mp ⟨_, hdecode⟩, hdecode⟩
  · intro frame hlen
    obtain ⟨⟨c, payload⟩, hdecode⟩ := (decode_tcp_binary_frame_isOk frame).mpr hlen
    exact ⟨c, payload, hdecode, encode_of_decode hdecode⟩
  · intro frame hlen
    unfold decode_tcp_binary_frame
    rw [if_pos hlen]
    exact ⟨_, rfl⟩
  · intro c c' payload payload' frame hc hc' hframe hframe'
    have hsame := (decode_of_encode hc hframe).symm.trans (decode_of_encode hc' hframe')
    exact Prod.mk.inj (Except.ok.inj hsame)

/-- The frame of two bytes for an id of the form of `uuid4`, a frame with an empty payload, and a
frame that is a byte too short. -/
theorem someFrames_bijective :
    (encode_tcp_binary_frame "00010203-0405-4607-8809-0a0b0c0d0e0f" [1, 2] =
        .ok [0, 1, 2, 3, 4, 5, 70, 7, 136, 9, 10, 11, 12, 13, 14, 15, 1, 2] ∧
      ∃ frame, encode_tcp_binary_frame "00010203-0405-4607-8809-0a0b0c0d0e0f" [1, 2] = .ok frame ∧
        16 ≤ frame.length ∧
        decode_tcp_binary_frame frame = .ok ("00010203-0405-4607-8809-0a0b0c0d0e0f", [1, 2])) ∧
      (∃ c payload, decode_tcp_binary_frame (List.replicate 16 7) = .ok (c, payload) ∧
        canonical c = true ∧ encode_tcp_binary_frame c payload = .ok (List.replicate 16 7)) ∧
      ∃ text, decode_tcp_binary_frame (List.replicate 15 7) = .error (.valueError text) :=
  ⟨⟨by decide +kernel, binary_frames_bijective.1 _ _ (by decide +kernel)⟩,
    binary_frames_bijective.2.1 _ (by decide), binary_frames_bijective.2.2.1 _ (by decide)⟩

end HttpNetworkRelay
