import Automation.Proofs.Procedure

/-!
Contracts between a procedure and those who answer it. A contract is about something that both of them
see, such as the record of an execution: which calls the procedure may make as it stands, and what an
answer may be and how it stands then. A procedure is under contract if it makes only such calls as long
as it is answered so, whoever else is at work in between.
-/
namespace Automation

/-- A contract about something of a type: the calls that may be made as it stands, and the answers that
may be given, with how it stands before and after them. -/
structure Contract (ρ : Type) where
  admits : ρ → Call → Prop
  allows : ρ → Exchange → ρ → Prop

namespace Proc

variable {ρ α β : Type} {contract : Contract ρ} {r r' : ρ}

/-- The procedure keeps its part of the contract, and at its end what is said of its result holds. -/
def Under (contract : Contract ρ) : Proc α → ρ → (α → ρ → Prop) → Prop
  | .done a, r, post => post a r
  | .call c next, r, post =>
    contract.admits r c ∧ ∀ a r', contract.allows r ⟨c, a⟩ r' → (next a).Under contract r' post

/-- A call that is made and answered leaves the rest of the procedure under contract. -/
theorem Under.answered {c : Call} {next : c.Answer → Proc α} {post : α → ρ → Prop}
    (h : (Proc.call c next).Under contract r post) {a : c.Answer}
    (answer : contract.allows r ⟨c, a⟩ r') : (next a).Under contract r' post :=
  h.2 a r' answer

theorem Under.mono {p : Proc α} {post post' : α → ρ → Prop} (h : p.Under contract r post)
    (implies : ∀ a r, post a r → post' a r) : p.Under contract r post' := by
  induction p generalizing r with
  | done a => exact implies a r h
  | call c next ih => exact ⟨h.1, fun a r' allowed => ih a (h.2 a r' allowed)⟩

theorem Under.bind {p : Proc α} {f : α → Proc β} {mid : α → ρ → Prop} {post : β → ρ → Prop}
    (h : p.Under contract r mid) (next : ∀ a r, mid a r → (f a).Under contract r post) :
    (p.bind f).Under contract r post := by
  induction p generalizing r with
  | done a => exact next a r h
  | call c rest ih => exact ⟨h.1, fun a r' allowed => ih a (h.2 a r' allowed)⟩

theorem Under.ask {c : Call} {f : c.Answer → Proc α} {post : α → ρ → Prop}
    (admitted : contract.admits r c)
    (next : ∀ a r', contract.allows r ⟨c, a⟩ r' → (f a).Under contract r' post) :
    ((ask c).bind f).Under contract r post :=
  ⟨admitted, next⟩

/-- A procedure of calls that are always admitted, and whose answers change nothing, leaves everything
as it is. -/
theorem Only.under {P : Call → Prop} {p : Proc α} (h : p.Only P)
    (admitted : ∀ c, P c → contract.admits r c)
    (kept : ∀ c a r', P c → contract.allows r ⟨c, a⟩ r' → r' = r) :
    p.Under contract r fun _ r' => r' = r := by
  induction p with
  | done a => exact rfl
  | call c next ih =>
    refine ⟨admitted c h.1, ?_⟩
    intro a r' allowed
    obtain rfl := kept c a r' h.1 allowed
    exact ih a (h.2 a)

end Proc
end Automation
