import Automation.Text.Blank
import Mathlib.Data.List.DropRight

/-!
Stripping a text of a class of characters. What is taken off at the ends is of the class, what is left
begins and ends with something else, and that alone says what is left.
-/
namespace Automation.Text

variable {p : Char → Bool} {cs front core back : List Char}

/-- What is stripped off a text is of the class, and neither end of the rest is. -/
theorem strip_parts (p : Char → Bool) (cs : List Char) : ∃ front back,
    cs = front ++ strip p cs ++ back ∧ (∀ c ∈ front, p c = true) ∧ (∀ c ∈ back, p c = true) ∧
      (∀ c ∈ (strip p cs).head?, p c = false) ∧ ∀ c ∈ (strip p cs).getLast?, p c = false := by
  have stripped : strip p cs = (cs.dropWhile p).rdropWhile p := rfl
  have whole : strip p cs ++ (cs.dropWhile p).rtakeWhile p = cs.dropWhile p :=
    List.rdropWhile_append_rtakeWhile
  refine ⟨cs.takeWhile p, (cs.dropWhile p).rtakeWhile p, ?_, ?_, ?_, ?_, ?_⟩
  · rw [List.append_assoc, whole, List.takeWhile_append_dropWhile]
  · exact fun c there => List.mem_takeWhile_imp there
  · exact fun c there => List.mem_rtakeWhile_imp there
  · intro c first
    obtain ⟨rest, is⟩ := List.head?_eq_some_iff.mp first
    have solid := List.head?_dropWhile_not p cs
    rw [← whole, is] at solid
    simpa using solid
  · intro c last
    have some : strip p cs ≠ [] := by
      intro none
      rw [none] at last
      cases last
    rw [List.getLast?_eq_some_getLast some] at last
    cases last
    exact Bool.eq_false_iff.mpr (List.rdropWhile_last_not _ _ some)

/-- A part between characters of the class that begins and ends with something else is what is left. -/
theorem strip_eq (before : ∀ c ∈ front, p c = true) (behind : ∀ c ∈ back, p c = true)
    (first : ∀ c ∈ core.head?, p c = false) (last : ∀ c ∈ core.getLast?, p c = false) :
    strip p (front ++ core ++ back) = core := by
  have backOff : (core ++ back).rdropWhile p = core := by
    rw [List.rdropWhile, List.reverse_append, List.dropWhile_append_of_pos (by simpa using behind),
      ← List.rdropWhile, List.rdropWhile_eq_self_iff]
    intro some
    simpa using last _ (List.getLast?_eq_some_getLast some)
  rw [strip, dropStart, List.append_assoc, List.dropWhile_append_of_pos before]
  cases core with
  | nil =>
    rw [List.nil_append, List.dropWhile_eq_nil_iff.mpr behind]
    rfl
  | cons c rest =>
    rw [List.cons_append, List.dropWhile_cons_of_neg (by simpa using first c rfl)]
    exact backOff

/-- What is stripped has nothing left to be stripped. -/
theorem strip_strip (p : Char → Bool) (cs : List Char) : strip p (strip p cs) = strip p cs := by
  obtain ⟨front, back, -, -, -, first, last⟩ := strip_parts p cs
  have none : ∀ c ∈ ([] : List Char), p c = true := by simp
  simpa using strip_eq none none first last

theorem trim_trim (s : String) : trim (trim s) = trim s := by
  rw [trim, trim, String.toList_ofList, strip_strip]

end Automation.Text
