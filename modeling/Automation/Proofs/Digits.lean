import Automation.Json.Reader
import Automation.Json.Writer

/-!
Digits that are written are read back. A natural number is written in decimal digits whose values make
the number again, and with no more of them than it needs; a unit of sixteen bits is written in four
hexadecimal digits, and a character as one unit or as the two halves of one.
-/
namespace Automation

namespace Number

theorem digits_of_lt {n : Nat} (h : n < 10) : digits n = [digitChar n] := by
  rw [digits, digitsOnto, if_pos h]

/-- What holds of one digit, and of a number if it holds of all its digits but the last. -/
theorem digits_induction {P : Nat → Prop} (single : ∀ n < 10, P n)
    (more : ∀ n, 10 ≤ n → P (n / 10) → P n) (n : Nat) : P n := by
  induction n using Nat.strongRecOn with
  | ind n ih =>
    by_cases h : n < 10
    · exact single n h
    · exact more n (by omega) (ih (n / 10) (by omega))

theorem digitsOnto_eq (n : Nat) (rest : List Char) : digitsOnto n rest = digits n ++ rest := by
  induction n using digits_induction generalizing rest with
  | single n h =>
    rw [digits_of_lt h, digitsOnto, if_pos h]
    rfl
  | more n h ih =>
    have step : ∀ rest, digitsOnto n rest = digits (n / 10) ++ digitChar (n % 10) :: rest := by
      intro rest
      rw [digitsOnto, if_neg (by omega), ih]
    rw [digits, step, step, List.append_assoc]
    rfl

theorem digits_of_ge {n : Nat} (h : 10 ≤ n) : digits n = digits (n / 10) ++ [digitChar (n % 10)] := by
  rw [digits, digitsOnto, if_neg (by omega), digitsOnto_eq]

theorem isAsciiDigit_digitChar : ∀ d < 10, Text.isAsciiDigit (digitChar d) = true := by decide

theorem toNat_digitChar : ∀ d < 10, (digitChar d).toNat = d + 48 := by decide

theorem digits_ne_nil (n : Nat) : digits n ≠ [] := by
  induction n using digits_induction with
  | single n h => simp [digits_of_lt h]
  | more n h ih => simp [digits_of_ge h]

theorem isAsciiDigit_of_mem_digits (n : Nat) : ∀ c ∈ digits n, Text.isAsciiDigit c = true := by
  induction n using digits_induction with
  | single n h => simp [digits_of_lt h, isAsciiDigit_digitChar n h]
  | more n h ih =>
    have last := isAsciiDigit_digitChar (n % 10) (by omega)
    simp only [digits_of_ge h, List.mem_append, List.mem_singleton]
    rintro c (hc | rfl)
    · exact ih c hc
    · exact last

/-- Only zero is written with a zero in front. -/
theorem eq_zero_of_digits {n : Nat} {cs : List Char} (h : digits n = '0' :: cs) : n = 0 := by
  induction n using digits_induction generalizing cs with
  | single n hn =>
    rw [digits_of_lt hn] at h
    have zero : digitChar n = '0' := (List.cons.inj h).1
    have value := toNat_digitChar n hn
    rw [zero] at value
    simpa using value
  | more n hn ih =>
    rw [digits_of_ge hn] at h
    cases hd : digits (n / 10) with
    | nil => exact absurd hd (digits_ne_nil _)
    | cons d ds =>
      rw [hd] at h
      obtain rfl : d = '0' := (List.cons.inj h).1
      have := ih hd
      omega

/-- The values of digits. -/
def values (cs : List Char) : List Nat := cs.map fun c => c.toNat - 48

/-- The digits of a number make the number. -/
theorem valueFrom_values (n : Nat) : valueFrom 0 (values (digits n)) = n := by
  induction n using digits_induction with
  | single n h => simp [digits_of_lt h, values, valueFrom, toNat_digitChar n h]
  | more n h ih =>
    have last := toNat_digitChar (n % 10) (by omega)
    simp only [values, valueFrom] at ih
    simp [digits_of_ge h, values, valueFrom, last, ih]
    omega

theorem lt_pow_length_digits (n : Nat) : n < Nat.pow 10 (digits n).length := by
  induction n using digits_induction with
  | single n h => simpa [digits_of_lt h] using h
  | more n h ih =>
    have longer : (digits n).length = (digits (n / 10)).length + 1 := by simp [digits_of_ge h]
    calc n < Nat.pow 10 (digits (n / 10)).length * 10 := by omega
      _ = Nat.pow 10 (digits n).length := by rw [longer]; rfl

theorem lt_pow_of_length_digits {n k : Nat} (h : (digits n).length ≤ k) : n < Nat.pow 10 k :=
  calc n < Nat.pow 10 (digits n).length := lt_pow_length_digits n
    _ ≤ Nat.pow 10 k := Nat.pow_le_pow_right (by decide) h

/-- An integer of no more digits than may be written can be written. -/
theorem isWritable_of_digitCount {n : Int} (h : digitCount n ≤ maxDigits) : isWritable n = true :=
  decide_eq_true (lt_pow_of_length_digits h)

end Number

namespace Json

theorem hexValue?_hexDigit : ∀ d < 16, hexValue? (Text.hexDigit d) = some d := by decide

theorem hexDigits_four (n : Nat) : Text.hexDigits 4 n =
    [Text.hexDigit (n / 16 / 16 / 16 % 16), Text.hexDigit (n / 16 / 16 % 16), Text.hexDigit (n / 16 % 16),
      Text.hexDigit (n % 16)] := rfl

/-- Four hexadecimal digits are read as the unit that they were written for. -/
theorem unit?_hexDigits {n : Nat} (h : n < 0x10000) : unit? (Text.hexDigits 4 n) = some n := by
  have digit : ∀ m, hexValue? (Text.hexDigit (m % 16)) = some (m % 16) :=
    fun m => hexValue?_hexDigit (m % 16) (Nat.mod_lt m (by decide))
  simp only [hexDigits_four, unit?, digit, Option.bind_eq_bind, Option.bind_some]
  congr 1
  omega

/-- A character is no half of another. -/
theorem not_half (c : Char) : isHighHalf c.toNat = false ∧ isLowHalf c.toNat = false := by
  have valid := c.valid
  have value : c.val.toNat = c.toNat := rfl
  simp only [UInt32.isValidChar, Nat.isValidChar, value] at valid
  simp only [isHighHalf, isLowHalf, Bool.and_eq_false_iff, decide_eq_false_iff_not]
  omega

theorem unitChar_toNat (c : Char) : unitChar c.toNat = c := by
  simp [unitChar, not_half c]

/-- The two halves of a character beyond the basic plane are halves, and join to it. -/
theorem joinHalves_halves {c : Char} (h : 0x10000 ≤ c.toNat) :
    let high := 0xD800 + (c.toNat - 0x10000) / 0x400
    let low := 0xDC00 + (c.toNat - 0x10000) % 0x400
    isHighHalf high = true ∧ isLowHalf low = true ∧ high < 0x10000 ∧ low < 0x10000 ∧
      joinHalves high low = c := by
  intro high low
  have valid := c.valid
  have value : c.val.toNat = c.toNat := rfl
  simp only [UInt32.isValidChar, Nat.isValidChar, value] at valid
  have joined : 0x10000 + (high - 0xD800) * 0x400 + (low - 0xDC00) = c.toNat := by omega
  have char : joinHalves high low = c := by
    rw [joinHalves, joined, Char.ofNat_toNat]
  simp only [isHighHalf, isLowHalf, Bool.and_eq_true, decide_eq_true_eq]
  refine ⟨⟨?_, ?_⟩, ⟨?_, ?_⟩, ?_, ?_, char⟩ <;> omega

end Json
end Automation
