import Mathlib.Tactic.IntervalCases
import HttpNetworkRelay.Python.Base64

/-!
# Python's hexadecimal methods of bytes

`hex` and `fromhex` as `bytes.hex` and `bytes.fromhex` have them: `hex` writes two lower-case
digits a byte, and `fromhex` reads pairs of digits of either case, with ASCII whitespace allowed
between two pairs but not within one.
-/

namespace Python

/-- The lower-case digit of a value below 16. -/
def hexDigit (n : ℕ) : Char := "0123456789abcdef".toList.getD n '0'

/-- The value of a digit, of either case. -/
def hexValue? (ch : Char) : Option ℕ :=
  if '0' ≤ ch ∧ ch ≤ '9' then some (ch.toNat - 48)
  else if 'a' ≤ ch ∧ ch ≤ 'f' then some (ch.toNat - 87)
  else if 'A' ≤ ch ∧ ch ≤ 'F' then some (ch.toNat - 55)
  else none

/-- The characters that C's `isspace` accepts. -/
def isSpace (ch : Char) : Bool := ch = ' ' || (9 ≤ ch.toNat && ch.toNat ≤ 13)

/-- `data.hex()`. -/
def hex (data : Bytes) : List Char :=
  data.flatMap fun b => [hexDigit (b.toNat / 16), hexDigit (b.toNat % 16)]

/-- `bytes.fromhex(text)`, or `none` where it raises `ValueError`. -/
def fromhex : List Char → Option Bytes
  | [] => some []
  | ch :: chs =>
    if isSpace ch then fromhex chs
    else
      match chs with
      | [] => none
      | ch' :: rest => do
        let hi ← hexValue? ch
        let lo ← hexValue? ch'
        let bytes ← fromhex rest
        some (UInt8.ofNat (hi * 16 + lo) :: bytes)

/-- The text between two positions, as the slice `text[i:j]`. -/
def slice (text : List Char) (i j : ℕ) : List Char := (text.drop i).take (j - i)

/-- Whether `needle in text` holds of two strings. -/
def isIn (needle text : String) : Bool :=
  text.toList.tails.any (needle.toList.isPrefixOf ·)

/-- A hexadecimal digit is no whitespace. -/
theorem not_isSpace_of_hexValue? {ch : Char} {n : ℕ} (h : hexValue? ch = some n) :
    isSpace ch = false := by
  have hge : 48 ≤ ch.toNat := by
    unfold hexValue? at h
    split_ifs at h with h1 h2 h3
    · exact h1.1
    · exact le_trans (by decide) h2.1
    · exact le_trans (by decide) h3.1
  have hne : ch ≠ ' ' := by
    rintro rfl
    exact absurd hge (by decide)
  simp only [isSpace, hne, decide_false, Bool.false_or, Bool.and_eq_false_iff,
    decide_eq_false_iff_not]
  omega

/-- Digits two by two, all of them hexadecimal, read back as half as many bytes. -/
theorem fromhex_length : ∀ {text : List Char}, (∀ ch ∈ text, (hexValue? ch).isSome) →
    text.length % 2 = 0 → ∃ bytes, fromhex text = some bytes ∧ bytes.length = text.length / 2
  | [], _, _ => ⟨[], rfl, rfl⟩
  | [_], _, h => by simp at h
  | ch :: ch' :: rest, hall, hlen => by
    simp only [List.forall_mem_cons] at hall
    obtain ⟨hi, hhi⟩ := Option.isSome_iff_exists.mp hall.1
    obtain ⟨lo, hlo⟩ := Option.isSome_iff_exists.mp hall.2.1
    simp only [List.length_cons] at hlen
    obtain ⟨bytes, hbytes, hblen⟩ := fromhex_length hall.2.2 (by omega)
    refine ⟨UInt8.ofNat (hi * 16 + lo) :: bytes, ?_, ?_⟩
    · simp [fromhex, not_isSpace_of_hexValue? hhi, hhi, hlo, hbytes]
    · simp only [List.length_cons, hblen]
      omega

/-- A lower-case digit is the digit of its value. -/
theorem hexDigit_of_lower {ch : Char} (h : ('0' ≤ ch ∧ ch ≤ '9') ∨ ('a' ≤ ch ∧ ch ≤ 'f')) :
    ∃ n, n < 16 ∧ hexValue? ch = some n ∧ hexDigit n = ch := by
  have hof := Char.ofNat_toNat ch
  have hrange : (48 ≤ ch.toNat ∧ ch.toNat ≤ 57) ∨ (97 ≤ ch.toNat ∧ ch.toNat ≤ 102) := h
  generalize ch.toNat = k at hof hrange
  subst hof
  obtain ⟨hlo, hhi⟩ | ⟨hlo, hhi⟩ := hrange
  · interval_cases k <;> exact ⟨_, by decide, rfl, rfl⟩
  · interval_cases k <;> exact ⟨_, by decide, rfl, rfl⟩

/-- The bytes read from lower-case digits are written as the same digits. -/
theorem hex_fromhex : ∀ {text : List Char} {bytes : Bytes},
    (∀ ch ∈ text, ('0' ≤ ch ∧ ch ≤ '9') ∨ ('a' ≤ ch ∧ ch ≤ 'f')) → text.length % 2 = 0 →
      fromhex text = some bytes → hex bytes = text
  | [], _, _, _, h => by
    obtain rfl : [] = _ := Option.some.inj h
    rfl
  | [_], _, _, hlen, _ => by simp at hlen
  | ch :: ch' :: rest, bytes, hall, hlen, h => by
    simp only [List.forall_mem_cons] at hall
    obtain ⟨hi, hhi, hvalue, hdigit⟩ := hexDigit_of_lower hall.1
    obtain ⟨lo, hlo, hvalue', hdigit'⟩ := hexDigit_of_lower hall.2.1
    have hspace := not_isSpace_of_hexValue? hvalue
    have hrest : ∃ tail, fromhex rest = some tail ∧ UInt8.ofNat (hi * 16 + lo) :: tail = bytes := by
      simpa [fromhex, hspace, hvalue, hvalue', Option.bind_eq_some_iff] using h
    obtain ⟨tail, htail, rfl⟩ := hrest
    simp only [List.length_cons] at hlen
    have ih := hex_fromhex hall.2.2 (by omega) htail
    have hbyte : (UInt8.ofNat (hi * 16 + lo)).toNat = hi * 16 + lo := by
      rw [UInt8.toNat_ofNat']
      omega
    have hdiv : (hi * 16 + lo) / 16 = hi := by omega
    have hmod : (hi * 16 + lo) % 16 = lo := by omega
    unfold hex at ih ⊢
    simp only [List.flatMap_cons, ih, hbyte, hdiv, hmod, hdigit, hdigit', List.cons_append,
      List.nil_append]

end Python
