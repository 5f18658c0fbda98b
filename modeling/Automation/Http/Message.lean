import Automation.Value.Basic

/-!
The requests that http nodes make and the responses that they get.
-/
namespace Automation.Http

structure Request where
  method : String
  url : Value
  headers : Fields Value
  body : Value
  deriving Inhabited

/-- A response, its body decoded where it is JSON. -/
structure Response where
  status : Int
  body : Value := .null
  headers : Fields Value := []
  deriving Inhabited

end Automation.Http
