import Mathlib.Data.Nat.Notation
import Mathlib.Data.UInt

/-!
# Python's base64 module

`b64encode` and `b64decode` as the standard library has them. The decoder is the loop of
`binascii.a2b_base64` outside strict mode: it skips every character that is not in the alphabet,
stops at a complete pad sequence without reading on, and fails when the data characters do not
fill a quad. `b64decode_b64encode` is the round trip.
-/

namespace Python

/-- A Python `bytes` value. -/
abbrev Bytes := List UInt8

/-- Why `b64decode` raises: `ValueError` for a character outside ASCII, and the two messages of
`binascii.Error`. -/
inductive Base64Error
  | nonAscii
  | oneMoreThanMultipleOfFour
  | incorrectPadding
  deriving DecidableEq, Repr

namespace Base64

/-- The 64 characters, in the order of their values. -/
def alphabet : List Char :=
  "ABCDEFGHIJKLMNOPQRSTUVWXYZabcdefghijklmnopqrstuvwxyz0123456789+/".toList

/-- The character of a value. -/
def symbol (n : ℕ) : Char := alphabet.getD n 'A'

/-- The value of a character of the alphabet. -/
def value? (ch : Char) : Option ℕ :=
  if 'A' ≤ ch ∧ ch ≤ 'Z' then some (ch.toNat - 65)
  else if 'a' ≤ ch ∧ ch ≤ 'z' then some (ch.toNat - 71)
  else if '0' ≤ ch ∧ ch ≤ '9' then some (ch.toNat + 4)
  else if ch = '+' then some 62
  else if ch = '/' then some 63
  else none

/-- The encoder's output, three bytes at a time. -/
def encodeChars : Bytes → List Char
  | [] => []
  | [a] => [symbol (a.toNat / 4), symbol (a.toNat % 4 * 16), '=', '=']
  | [a, b] =>
    [symbol (a.toNat / 4), symbol (a.toNat % 4 * 16 + b.toNat / 16), symbol (b.toNat % 16 * 4), '=']
  | a :: b :: c :: rest =>
    symbol (a.toNat / 4) :: symbol (a.toNat % 4 * 16 + b.toNat / 16) ::
      symbol (b.toNat % 16 * 4 + c.toNat / 64) :: symbol (c.toNat % 64) :: encodeChars rest

/-- The decoder's loop. `quad` is the position in the current group of four, `left` holds the bits
of the last character that no byte has taken yet, and `pads` counts the pad characters seen since
the last data character. -/
def decodeChars : ℕ → ℕ → ℕ → List Char → Except Base64Error Bytes
  | 0, _, _, [] => .ok []
  | 1, _, _, [] => .error .oneMoreThanMultipleOfFour
  | _, _, _, [] => .error .incorrectPadding
  | quad, left, pads, ch :: chs =>
    if ch = '=' then
      if 2 ≤ quad ∧ 4 ≤ quad + (pads + 1) then .ok []
      else decodeChars quad left (if 2 ≤ quad then pads + 1 else pads) chs
    else
      match value? ch with
      | none => decodeChars quad left pads chs
      | some v =>
        match quad with
        | 0 => decodeChars 1 v 0 chs
        | 1 => (decodeChars 2 (v % 16) 0 chs).map (UInt8.ofNat (left * 4 + v / 16) :: ·)
        | 2 => (decodeChars 3 (v % 4) 0 chs).map (UInt8.ofNat (left * 16 + v / 4) :: ·)
        | _ => (decodeChars 0 0 0 chs).map (UInt8.ofNat (left * 64 + v) :: ·)

/-- The decoder's table inverts the alphabet, and no character of the alphabet is the pad. -/
theorem value?_symbol {n : ℕ} (h : n < 64) :
    value? (symbol n) = some n ∧ symbol n ≠ '=' ∧ (symbol n).toNat < 128 := by
  have all : ∀ n : Fin 64, value? (symbol n) = some n.val ∧ symbol n ≠ '=' ∧
      (symbol n).toNat < 128 := by decide +kernel
  exact all ⟨n, h⟩

/-- A data character at the start of a group. -/
theorem decodeChars_zero {v left pads : ℕ} (hv : v < 64) (chs : List Char) :
    decodeChars 0 left pads (symbol v :: chs) = decodeChars 1 v 0 chs := by
  obtain ⟨hval, hpad, -⟩ := value?_symbol hv
  simp [decodeChars, hval, hpad]

/-- The second data character of a group completes a byte. -/
theorem decodeChars_one {v left pads : ℕ} (hv : v < 64) (chs : List Char) :
    decodeChars 1 left pads (symbol v :: chs) =
      (decodeChars 2 (v % 16) 0 chs).map (UInt8.ofNat (left * 4 + v / 16) :: ·) := by
  obtain ⟨hval, hpad, -⟩ := value?_symbol hv
  simp [decodeChars, hval, hpad]

/-- The third data character of a group completes a byte. -/
theorem decodeChars_two {v left pads : ℕ} (hv : v < 64) (chs : List Char) :
    decodeChars 2 left pads (symbol v :: chs) =
      (decodeChars 3 (v % 4) 0 chs).map (UInt8.ofNat (left * 16 + v / 4) :: ·) := by
  obtain ⟨hval, hpad, -⟩ := value?_symbol hv
  simp [decodeChars, hval, hpad]

/-- The last data character of a group completes a byte and the group. -/
theorem decodeChars_three {v left pads : ℕ} (hv : v < 64) (chs : List Char) :
    decodeChars 3 left pads (symbol v :: chs) =
      (decodeChars 0 0 0 chs).map (UInt8.ofNat (left * 64 + v) :: ·) := by
  obtain ⟨hval, hpad, -⟩ := value?_symbol hv
  simp [decodeChars, hval, hpad]

/-- A byte is the byte of any number that equals its value. -/
theorem ofNat_eq {a : UInt8} {n : ℕ} (h : n = a.toNat) : UInt8.ofNat n = a := by
  rw [h, UInt8.ofNat_toNat]

/-- Decoding the encoder's characters gives the bytes back. -/
theorem decodeChars_encodeChars (data : Bytes) :
    decodeChars 0 0 0 (encodeChars data) = .ok data := by
  induction data using encodeChars.induct with
  | case1 => rfl
  | case2 a =>
    have ha := a.toNat_lt
    have e : UInt8.ofNat (a.toNat / 4 * 4 + a.toNat % 4 * 16 / 16) = a := ofNat_eq (by omega)
    rw [encodeChars, decodeChars_zero (by omega), decodeChars_one (by omega), e]
    simp [decodeChars, Except.map]
  | case3 a b =>
    have ha := a.toNat_lt
    have hb := b.toNat_lt
    have e1 : UInt8.ofNat (a.toNat / 4 * 4 + (a.toNat % 4 * 16 + b.toNat / 16) / 16) = a :=
      ofNat_eq (by omega)
    have e2 :
        UInt8.ofNat ((a.toNat % 4 * 16 + b.toNat / 16) % 16 * 16 + b.toNat % 16 * 4 / 4) = b :=
      ofNat_eq (by omega)
    rw [encodeChars, decodeChars_zero (by omega), decodeChars_one (by omega),
      decodeChars_two (by omega), e1, e2]
    simp [decodeChars, Except.map]
  | case4 a b c rest ih =>
    have ha := a.toNat_lt
    have hb := b.toNat_lt
    have hc := c.toNat_lt
    have e1 : UInt8.ofNat (a.toNat / 4 * 4 + (a.toNat % 4 * 16 + b.toNat / 16) / 16) = a :=
      ofNat_eq (by omega)
    have e2 : UInt8.ofNat ((a.toNat % 4 * 16 + b.toNat / 16) % 16 * 16 +
        (b.toNat % 16 * 4 + c.toNat / 64) / 4) = b := ofNat_eq (by omega)
    have e3 : UInt8.ofNat ((b.toNat % 16 * 4 + c.toNat / 64) % 4 * 64 + c.toNat % 64) = c :=
      ofNat_eq (by omega)
    rw [encodeChars, decodeChars_zero (by omega), decodeChars_one (by omega),
      decodeChars_two (by omega), decodeChars_three (by omega), e1, e2, e3, ih]
    rfl

/-- The encoder writes ASCII characters only. -/
theorem encodeChars_ascii (data : Bytes) : ∀ ch ∈ encodeChars data, ch.toNat < 128 := by
  have hsym : ∀ n, n < 64 → (symbol n).toNat < 128 := fun n h => (value?_symbol h).2.2
  have hpad : ('=' : Char).toNat < 128 := by decide
  induction data using encodeChars.induct with
  | case1 => simp [encodeChars]
  | case2 a =>
    have ha := a.toNat_lt
    simp only [encodeChars, List.forall_mem_cons]
    exact ⟨hsym _ (by omega), hsym _ (by omega), hpad, hpad, by simp⟩
  | case3 a b =>
    have ha := a.toNat_lt
    have hb := b.toNat_lt
    simp only [encodeChars, List.forall_mem_cons]
    exact ⟨hsym _ (by omega), hsym _ (by omega), hsym _ (by omega), hpad, by simp⟩
  | case4 a b c rest ih =>
    have ha := a.toNat_lt
    have hb := b.toNat_lt
    have hc := c.toNat_lt
    simp only [encodeChars, List.forall_mem_cons]
    exact ⟨hsym _ (by omega), hsym _ (by omega), hsym _ (by omega), hsym _ (by omega), ih⟩

end Base64

/-- `base64.b64encode(data).decode()`. -/
def b64encode (data : Bytes) : String := String.ofList (Base64.encodeChars data)

/-- `base64.b64decode(text)` for a `str`, which must be ASCII. -/
def b64decode (text : String) : Except Base64Error Bytes :=
  if text.toList.all (·.toNat < 128) then Base64.decodeChars 0 0 0 text.toList
  else .error .nonAscii

/-- What `b64encode` writes, `b64decode` reads back. -/
@[simp] theorem b64decode_b64encode (data : Bytes) : b64decode (b64encode data) = .ok data := by
  have hascii : (b64encode data).toList.all (·.toNat < 128) = true := by
    rw [List.all_eq_true]
    intro ch hch
    simpa using Base64.encodeChars_ascii data ch (by simpa [b64encode] using hch)
  rw [b64decode, if_pos hascii]
  simpa [b64encode] using Base64.decodeChars_encodeChars data

end Python
