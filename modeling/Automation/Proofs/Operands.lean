import Automation.Proofs.Numerals
import Automation.Proofs.Rounding
import Automation.Run.Handler

/-!
Operands of conditions. Two kinds of data are refused: integers beyond the doubles, and numerals with an
information separator among the blanks around them, which are numerals by the pattern of conditions and yet
are not read as numbers. A condition node with one of them fails; every other condition node succeeds with a
truth value.
-/
namespace Automation

open Number Text

namespace Condition

/-- The operands that no condition compares, and the failure that says so. -/
inductive Refused : Value → Failure → Prop
  | large {n : Int} (beyond : Double.overflow ≤ n.natAbs) : Refused (.int n) .integerTooLarge
  | separated {s : String} {c : Char} (numeral : IsNumeral s.toList) (there : c ∈ s.toList)
      (separator : isSeparator c = true) : Refused (.str s) (.notNumber s)

/-- A numeral is compared as the number that it denotes. -/
theorem coerce_numeral {s : String} (numeral : IsNumeral s.toList)
    (none : ∀ c ∈ s.toList, isSeparator c = false) :
    ∃ n, Numeral.read? (strip isBlank s.toList) = some n ∧ coerce (.str s) = .ok (.float n.toDouble) := by
  obtain ⟨n, read, double⟩ := readDouble?_of_isNumeral numeral none
  exact ⟨n, read, by simp only [coerce, isNumeric_iff.mpr numeral, if_true, double]⟩

/-- A text that is no numeral is compared as it is. -/
theorem coerce_text {s : String} (plain : ¬IsNumeral s.toList) : coerce (.str s) = .ok (.str s) := by
  rw [coerce, if_neg (mt isNumeric_iff.mp plain)]

theorem coerce_refused {v : Value} {f : Failure} (refused : Refused v f) : coerce v = .error f := by
  cases refused with
  | large beyond => simp only [coerce, Double.ofInt?_eq_none_iff.mpr beyond]
  | separated numeral there separator =>
    simp only [coerce, isNumeric_iff.mpr numeral, if_true, readDouble?_of_isSeparator there separator]

/-- A text is compared as it is, as a number, or not at all. -/
theorem coerce_text_cases (s : String) :
    ¬IsNumeral s.toList ∧ coerce (.str s) = .ok (.str s) ∨
    (IsNumeral s.toList ∧ ∀ c ∈ s.toList, isSeparator c = false) ∧
      (∃ n, Numeral.read? (strip isBlank s.toList) = some n ∧ coerce (.str s) = .ok (.float n.toDouble)) ∨
    (IsNumeral s.toList ∧ ∃ c ∈ s.toList, isSeparator c = true) ∧ coerce (.str s) = .error (.notNumber s) := by
  by_cases numeral : IsNumeral s.toList
  · by_cases none : ∀ c ∈ s.toList, isSeparator c = false
    · exact .inr (.inl ⟨⟨numeral, none⟩, coerce_numeral numeral none⟩)
    · obtain ⟨c, there, separator⟩ : ∃ c ∈ s.toList, isSeparator c = true := by simpa using none
      exact .inr (.inr ⟨⟨numeral, c, there, separator⟩, coerce_refused (.separated numeral there separator)⟩)
  · exact .inl ⟨numeral, coerce_text numeral⟩

/-- Every operand is compared, or refused. -/
theorem coerce_cases (v : Value) : (∃ w, coerce v = .ok w) ∨ ∃ f, Refused v f := by
  cases v with
  | int n =>
    cases rounded : Double.ofInt? n with
    | some x => exact .inl ⟨.float x, by simp only [coerce, rounded]⟩
    | none => exact .inr ⟨_, .large (Double.ofInt?_eq_none_iff.mp rounded)⟩
  | str s =>
    rcases coerce_text_cases s with ⟨-, kept⟩ | ⟨-, n, -, number⟩ | ⟨⟨numeral, c, there, separator⟩, -⟩
    · exact .inl ⟨_, kept⟩
    · exact .inl ⟨_, number⟩
    · exact .inr ⟨_, .separated numeral there separator⟩
  | _ => exact .inl ⟨_, rfl⟩

theorem coerce_error_iff {v : Value} {f : Failure} : coerce v = .error f ↔ Refused v f := by
  refine ⟨fun failed => ?_, coerce_refused⟩
  rcases coerce_cases v with ⟨w, ok⟩ | ⟨g, refused⟩
  · rw [ok] at failed
    cases failed
  · rw [coerce_refused refused] at failed
    cases failed
    exact refused

end Condition

open Condition

/-- A text is compared as it is just where it is no numeral with blanks around it. A numeral becomes the
number that it denotes just where none of the blanks is a separator. With a separator it is refused, and so
no numeral is ever compared as a text. -/
theorem text_kept_iff_no_numeral (s : String) :
    (coerce (.str s) = .ok (.str s) ↔ ¬IsNumeral s.toList) ∧
    ((∃ n, Numeral.read? (strip isBlank s.toList) = some n ∧ coerce (.str s) = .ok (.float n.toDouble)) ↔
      IsNumeral s.toList ∧ ∀ c ∈ s.toList, isSeparator c = false) ∧
    ∀ f, coerce (.str s) = .error f ↔
      f = .notNumber s ∧ IsNumeral s.toList ∧ ∃ c ∈ s.toList, isSeparator c = true := by
  rcases coerce_text_cases s with ⟨plain, is⟩ | ⟨⟨numeral, none⟩, n, read, is⟩ | ⟨⟨numeral, separated⟩, is⟩
  · refine ⟨by simp [is, plain], by simp [is, plain], by simp [is, plain]⟩
  · have unseparated : ¬∃ c ∈ s.toList, isSeparator c = true := by simpa using none
    refine ⟨by simp [is, numeral], ⟨fun _ => ⟨numeral, none⟩, fun _ => ⟨n, read, is⟩⟩, ?_⟩
    simp only [is, reduceCtorEq, unseparated, and_false, implies_true]
  · have unread : ¬∀ c ∈ s.toList, isSeparator c = false := by simpa using separated
    refine ⟨by simp [is, numeral], by simp [is, unread], fun f => ?_⟩
    rw [is, Except.error.injEq]
    exact ⟨fun same => ⟨same.symm, numeral, separated⟩, fun h => h.1.symm⟩

/-- A numeral in front of a separator is no number. -/
theorem numeral_before_separator_refused :
    IsNumeral "2.5e1\x1f".toList ∧ coerce (.str "2.5e1\x1f") = .error (.notNumber "2.5e1\x1f") :=
  ⟨isNumeric_iff.mp (by decide), rfl⟩

/-- An incomplete power of ten, a point alone and a lone sign make no numeral. -/
example : ["1e", "1e+", ".", "+", "1_0", "1.", ".5", "١\n"].map isNumeric =
    [false, false, false, false, false, true, true, true] := by
  decide

end Automation
