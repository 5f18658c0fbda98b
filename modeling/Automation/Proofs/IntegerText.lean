import Automation.Proofs.Digits
import Automation.Proofs.Naming
import Automation.Proofs.Nearest
import Automation.Proofs.Operands

/-!
Integers as texts. What a placeholder leaves of an integer is its decimal text, and this text is a numeral:
it is read as the double that the integer itself is rounded to. So a condition does not tell an integer
that a setting holds from one that reached the setting through an output.
-/
namespace Automation

open Number Text

namespace Number

/-- The ten digits that are written are digits, and have the values with which they were written. -/
theorem digitValue?_of_isAsciiDigit {c : Char} (ascii : isAsciiDigit c = true) :
    digitValue? c = some (c.toNat - 48) := by
  have low : 48 ≤ c.toNat ∧ c.toNat ≤ 57 := by
    simp only [isAsciiDigit, Bool.and_eq_true, decide_eq_true_eq, Char.le_def,
      UInt32.le_iff_toNat_le] at ascii
    exact ascii
  have first : zeros.find? (fun z => z ≤ c.toNat && c.toNat < z + 10) = some 48 := by
    refine List.find?_cons_of_pos ?_
    simp only [Bool.and_eq_true, decide_eq_true_eq]
    omega
  rw [digitValue?, first]
  rfl

theorem isDigit_of_isAsciiDigit {c : Char} (ascii : isAsciiDigit c = true) : isDigit c = true := by
  rw [isDigit, digitValue?_of_isAsciiDigit ascii]
  rfl

theorem isDigit_of_mem_digits (n : Nat) : ∀ c ∈ digits n, isDigit c = true :=
  fun c there => isDigit_of_isAsciiDigit (isAsciiDigit_of_mem_digits n c there)

/-- The digits of a number are read as their values. -/
theorem takeDigits_digits (n : Nat) : takeDigits (digits n) = (values (digits n), []) := by
  have all := isDigit_of_mem_digits n
  rw [takeDigits_eq, List.takeWhile_eq_self_iff.mpr all, List.dropWhile_eq_nil_iff.mpr all, values]
  refine congrArg (·, []) (List.map_congr_left fun c there => ?_)
  rw [digitValue?_of_isAsciiDigit (isAsciiDigit_of_mem_digits n c there), Option.getD_some]

/-- A number without a sign is read without one. -/
theorem takeSign_digits (n : Nat) : takeSign (digits n) = (false, digits n) := by
  have digit := isDigit_of_mem_digits n
  unfold takeSign
  split
  · next is =>
    exact absurd (digit '-' (is ▸ List.mem_cons_self)) (by decide)
  · next is =>
    exact absurd (digit '+' (is ▸ List.mem_cons_self)) (by decide)
  · rfl

/-- The digits of an integer are read as its sign and its digits, without a point and a power of ten. -/
theorem read?_integerDigits (n : Int) : Numeral.read? (integerDigits n) =
    some ⟨decide (n < 0), values (digits n.natAbs), [], 0⟩ := by
  have signed : takeSign (integerDigits n) = (decide (n < 0), digits n.natAbs) := by
    unfold integerDigits
    split
    · next negative =>
      simp only [negative, decide_true]
      rfl
    · next notNegative =>
      simp only [notNegative, decide_false]
      exact takeSign_digits n.natAbs
  have some : values (digits n.natAbs) ≠ [] := by
    simpa [values] using digits_ne_nil n.natAbs
  simp only [Numeral.read?, signed, takeDigits_digits, takeFraction, exponent?, Option.map_some]
  rw [if_neg (by simpa using some)]

theorem spells_integerDigits (n : Int) : SpellsNumeral (integerDigits n) :=
  read?_isSome_iff.mp (by rw [read?_integerDigits]; rfl)

/-- Digits without a power of ten are rounded as the integer that they make. -/
theorem rankOfDecimal_whole (n count : Nat) : Double.rankOfDecimal n count 0 = Double.rankOfRatio n 1 := by
  by_cases zero : n = 0
  · simp [Double.rankOfDecimal, Double.rankOfRatio, zero]
  · simp [Double.rankOfDecimal, zero]

theorem toDouble_integer (negative : Bool) (n : Nat) :
    Numeral.toDouble ⟨negative, values (digits n), [], 0⟩ = .number negative (Double.rankOfRatio n 1) := by
  simp only [Numeral.toDouble, List.append_nil, valueFrom_values, List.length_nil, Nat.cast_zero,
    Int.sub_zero, rankOfDecimal_whole]

/-- The text of an integer is a numeral, which is read as the double nearest to the integer. -/
theorem readDouble?_integerText (n : Int) : IsNumeral (integerText n).toList ∧
    readDouble? (integerText n) = some (.number (decide (n < 0)) (Double.rankOfRatio n.natAbs 1)) := by
  have spelt := spells_integerDigits n
  have solid : ∀ c ∈ integerDigits n, isBlank c = false := fun c there => (spelt.chars c there).not_isBlank
  have stripped : strip isBlank (integerDigits n) = integerDigits n := by
    have nothing : ∀ c ∈ ([] : List Char), isBlank c = true := by simp
    simpa using strip_eq nothing nothing (fun c first => solid c (List.mem_of_mem_head? first))
      fun c last => solid c (List.mem_of_getLast? last)
  have numeral : IsNumeral (integerText n).toList := by
    have nothing : ∀ c ∈ ([] : List Char), isBlank c = true := by simp
    simpa [integerText] using IsNumeral.padded nothing nothing spelt
  have unseparated : ∀ c ∈ (integerText n).toList, isSeparator c = false := by
    intro c there
    rw [integerText, String.toList_ofList] at there
    by_contra separator
    have blank := isBlank_of_isSeparator (by simpa using separator)
    simp [solid c there] at blank
  obtain ⟨m, read, double⟩ := readDouble?_of_isNumeral numeral unseparated
  rw [integerText, String.toList_ofList, stripped, read?_integerDigits, Option.some.injEq] at read
  rw [double, ← read, toDouble_integer]
  exact ⟨numeral, rfl⟩

end Number

open Condition

/-- An integer within the doubles is short enough to be written. -/
theorem isWritable_of_lt_overflow {n : Int} (finite : n.natAbs < Double.overflow) :
    (Value.int n).isWritable = true := by
  have within : ∀ k, 1024 ≤ k → n.natAbs < Nat.pow 10 k := fun k large =>
    calc n.natAbs < Double.overflow := finite
      _ ≤ 2 ^ 1024 := Nat.sub_le _ _
      _ ≤ 2 ^ k := pow_le_pow_right₀ (by decide) large
      _ ≤ Nat.pow 10 k := Nat.pow_le_pow_left (by decide) k
  rw [Value.isWritable]
  exact decide_eq_true (within maxDigits (by decide))

/-- Conditions compare operands only as they are coerced. -/
theorem evaluate_congr {v w : Value} (same : coerce v = coerce w) (operator : Option Operator)
    (other : Value) :
    evaluate v operator other = evaluate w operator other ∧
      evaluate other operator v = evaluate other operator w := by
  simp only [evaluate, same, and_self]

/-- An integer whose nearest double is finite compares alike as a number and as the text that a placeholder
leaves of it: both are coerced to the nearest double, so no operator tells them apart on either side, and
every setting that is a placeholder for an entry with the integer becomes this text. -/
theorem integer_compares_alike_as_text {n : Int} (finite : n.natAbs < Double.overflow) :
    (∃ x, Double.IsNearest x n ∧ coerce (.int n) = .ok (.float x) ∧
      coerce (.str (integerText n)) = .ok (.float x)) ∧
    (∀ operator other,
      evaluate (.str (integerText n)) operator other = evaluate (.int n) operator other ∧
      evaluate other operator (.str (integerText n)) = evaluate other operator (.int n)) ∧
    ∀ (outputs : Outputs) (p : Placeholder) (setting : String), Placeholder.Spells p setting.toList →
      outputs.lookup (String.ofList p.node) (String.ofList p.key) = .int n →
      outputs.resolve Stack.setting (.str setting) = .ok (.str (integerText n)) := by
  obtain ⟨x, rounded⟩ : ∃ x, Double.ofInt? n = some x := by
    by_contra none
    have beyond := Double.ofInt?_eq_none_iff.mp (by simpa [Option.eq_none_iff_forall_ne_some] using none)
    omega
  have native : coerce (.int n) = .ok (.float x) := by simp only [coerce, rounded]
  have textual : coerce (.str (integerText n)) = .ok (.float x) := by
    obtain ⟨numeral, read⟩ := readDouble?_integerText n
    have is : .number (decide (n < 0)) (Double.rankOfRatio n.natAbs 1) = x := by
      simpa [Double.ofInt?] using (Option.ite_none_right_eq_some.mp rounded).2
    simp only [coerce, isNumeric_iff.mpr numeral, if_true, read, is]
  refine ⟨⟨x, Double.isNearest_of_ofInt? rounded, native, textual⟩,
    fun operator other => evaluate_congr (textual.trans native.symm) operator other, ?_⟩
  intro outputs p setting spelt held
  have fits : (Value.int n).fits Stack.shown = true :=
    (show (Value.int n).Within Stack.shown from ⟨isWritable_of_lt_overflow finite, Nat.zero_le _⟩).fits
  have written : (Value.int n).inserted Stack.setting = .ok (integerText n) := Value.text?_of_fits fits
  rw [Outputs.resolve, Outputs.resolveText_of_spells spelt (by rw [held, written])]

/-- The least integer that is no double equals the one before it, through an output as well. -/
theorem integer_compares_alike_as_text_rounded :
    let n : Int := 9007199254740993
    let outputs : Outputs := [("a", .dict [("k", .int n)])]
    n.natAbs < Double.overflow ∧
    ∃ v, outputs.resolve Stack.setting (.str (reference "a" "k")) = .ok v ∧ v = .str "9007199254740993" ∧
      evaluate v (some .eq) (.int 9007199254740992) = .ok true := by
  intro n outputs
  have finite : n.natAbs < Double.overflow := by decide +kernel
  obtain ⟨-, alike, resolved⟩ := integer_compares_alike_as_text finite
  have one : Double.ofInt? n = some (.number false 4845873199050653696) := by decide +kernel
  have other : Double.ofInt? 9007199254740992 = some (.number false 4845873199050653696) := by decide +kernel
  refine ⟨finite, _, resolved outputs _ _ spells_plain_reference rfl, ?_, ?_⟩
  · exact congrArg Value.str (by decide +kernel)
  · rw [(alike _ _).1]
    simp only [evaluate, coerce, one, other]
    rfl

end Automation
