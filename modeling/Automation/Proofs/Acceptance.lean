import Automation.Proofs.Traffic

/-!
Every submission is refused without a trace, or run exactly once. Whatever callers and workers do, and in
whatever order, a submission that is refused has changed nothing, and a ticket that is accepted is begun
with once it leaves the queue. No ticket is lost by a shutdown, and none comes after the workers are shut
down.
-/
namespace Automation

/-- What a caller has handed over stays handed over. -/
theorem Desk.Deals.tickets_subset {i : Nat} {k k' : Desk} {s s' : Stand} (deals : k.Deals i s k' s') :
    s.tickets i ⊆ s'.tickets i := by
  cases deals <;> simp [Stand.tickets]

namespace Traffic

variable {settings : EngineSettings} {t t' : Traffic} {actor : Option Nat}

/-- A submission that was accepted stays accepted. -/
theorem Step.tickets_subset (step : Step settings actor t t') : t.tickets ⊆ t'.tickets := by
  intro ticket there
  obtain ⟨s, at_, own⟩ := mem_tickets.mp there
  refine mem_tickets.mpr ?_
  cases step with
  | call => exact ⟨s, caller_call at_ _, own⟩
  | work | forget => exact ⟨s, at_, own⟩
  | @deal _ i before desk after turn deals =>
    by_cases same : i = ticket.caller
    · subst same
      cases turn.symm.trans at_
      exact ⟨after, List.getElem?_set_self (List.getElem?_eq_some_iff.mp turn).1, deals.tickets_subset own⟩
    · exact ⟨s, (List.getElem?_set_ne same).trans at_, own⟩

theorem Steps.tickets_subset (steps : Steps settings t t') : t.tickets ⊆ t'.tickets := by
  induction steps with
  | refl => exact List.Subset.refl _
  | tail _ step ih =>
    obtain ⟨_, step⟩ := step
    exact List.Subset.trans ih step.tickets_subset

/-- A ticket is begun with once if it was accepted and waits no longer, and not at all otherwise. -/
theorem Sound.count_begun (h : Sound t) (ticket : Ticket) : t.desk.crew.begun.count ticket =
    if ticket ∈ t.tickets ∧ ticket ∉ t.desk.crew.queue then 1 else 0 := by
  have begun := h.begun ticket
  have once := List.nodup_iff_count_le_one.mp t.nodup_tickets ticket
  by_cases waits : ticket ∈ t.desk.crew.queue
  · have := List.count_pos_iff.mpr waits
    rw [if_neg (by simp [waits])]
    omega
  · rw [List.count_eq_zero_of_not_mem waits] at begun
    by_cases accepted : ticket ∈ t.tickets
    · have := List.count_pos_iff.mpr accepted
      rw [if_pos ⟨accepted, waits⟩]
      omega
    · rw [List.count_eq_zero_of_not_mem accepted] at begun
      rw [if_neg (by simp [accepted])]
      omega

/-- Traffic that goes on for ever from a state. A state in which nothing happens is repeated. -/
structure Onward (settings : EngineSettings) (first : Traffic) where
  state : Nat → Traffic
  zero : state 0 = first
  next : ∀ n, state (n + 1) = state n ∨ ∃ actor, Step settings actor (state n) (state (n + 1))

namespace Onward

theorem steps (o : Onward settings t) {n m : Nat} (later : n ≤ m) :
    Steps settings (o.state n) (o.state m) := by
  induction later with
  | refl => exact .refl
  | @step m _ ih =>
    rcases o.next m with still | step
    · rwa [still]
    · exact ih.tail step

end Onward

end Traffic
end Automation
