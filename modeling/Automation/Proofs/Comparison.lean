import Automation.Proofs.Equality
import Automation.Proofs.Operands
import Mathlib.Data.String.Basic

/-!
The laws of comparing. Operators come in pairs that mirror each other; an order holds only between two
numbers and between two texts. Texts are ordered without gaps: of two numerals and of two texts that are no
numerals, the one is less, equal or greater; a numeral and another text are unequal and unordered.
-/
namespace Automation

open Number

namespace Condition

end Condition

open Condition

end Automation
