import Automation.Proofs.Fields
import Automation.Value.Equality
import Mathlib.Data.List.Perm.Subperm

/-!
Equality of data is symmetric. Between numbers that is so because integers and doubles are compared
exactly in both directions, and between mappings because two of the same length without a repeated key
have the same keys as soon as one has those of the other.
-/
namespace Automation

theorem Double.equal_comm (x y : Double) : x.equal y = y.equal x := by
  simp only [Double.equal]
  cases x.key? <;> cases y.key? <;> simp [Bool.beq_comm]

theorem Numeric.equal_comm (m n : Numeric) : m.equal n = n.equal m := by
  cases m with
  | exact m =>
    cases n with
    | exact n => simp only [equal, Bool.beq_comm]
    | rounded y => rfl
  | rounded x =>
    cases n with
    | exact n => rfl
    | rounded y => exact Double.equal_comm x y

namespace Value

/-- Data as a program has it: no mapping in it has a key twice. -/
inductive WellFormed : Value → Prop
  | null : WellFormed .null
  | bool (b : Bool) : WellFormed (.bool b)
  | int (n : Int) : WellFormed (.int n)
  | float (x : Double) : WellFormed (.float x)
  | str (s : String) : WellFormed (.str s)
  | list {items : List Value} (formed : ∀ v ∈ items, WellFormed v) : WellFormed (.list items)
  | dict {fields : Fields Value} (distinct : fields.keys.Nodup) (formed : ∀ p ∈ fields, WellFormed p.2) :
      WellFormed (.dict fields)

theorem equal_str {s t : String} : (str s).equal (.str t) = true ↔ s = t := by
  rw [equal, beq_iff_eq]

/-- A number equals what is an equal number, and nothing else. -/
theorem equal_of_numeric {v : Value} {m : Numeric} (number : v.numeric? = some m) (w : Value) :
    v.equal w = true ↔ ∃ n, w.numeric? = some n ∧ m.equal n = true := by
  cases v <;> cases number <;> rw [equal] <;> cases w.numeric? <;> simp

theorem equal_symm_of_numeric {v w : Value} {m : Numeric} (number : v.numeric? = some m)
    (same : v.equal w = true) : w.equal v = true := by
  obtain ⟨n, other, equal⟩ := (equal_of_numeric number w).mp same
  exact (equal_of_numeric other v).mpr ⟨m, number, by rw [Numeric.equal_comm, equal]⟩

/-- Lists are equal in both directions where their items are. -/
theorem equalItems_symm {xs ys : List Value}
    (back : ∀ x ∈ xs, ∀ y ∈ ys, x.equal y = true → y.equal x = true) (same : equalItems xs ys = true) :
    equalItems ys xs = true := by
  induction xs generalizing ys with
  | nil =>
    cases ys with
    | nil => rfl
    | cons y ys => cases same
  | cons x xs ih =>
    cases ys with
    | nil => cases same
    | cons y ys =>
      rw [equalItems, Bool.and_eq_true] at same ⊢
      exact ⟨back x List.mem_cons_self y List.mem_cons_self same.1, ih (fun x' hx y' hy =>
        back x' (List.mem_cons_of_mem x hx) y' (List.mem_cons_of_mem y hy)) same.2⟩

theorem equalFields_iff {fs gs : Fields Value} :
    equalFields fs gs = true ↔ ∀ p ∈ fs, ∃ w, gs.get? p.1 = some w ∧ p.2.equal w = true := by
  induction fs with
  | nil => simp [equalFields]
  | cons p fs ih =>
    obtain ⟨k, v⟩ := p
    rw [equalFields, Bool.and_eq_true, ih, List.forall_mem_cons]
    refine and_congr_left fun _ => ?_
    simp only [Fields.get?]
    cases List.lookup k gs <;> simp

/-- A mapping that has as many fields as another one and all of its keys has no further key. -/
theorem keys_subset_of_equalFields {fs gs : Fields Value} (first : fs.keys.Nodup)
    (second : gs.keys.Nodup) (size : fs.length = gs.length) (same : equalFields fs gs = true) :
    gs.keys ⊆ fs.keys := by
  have keys : fs.keys ⊆ gs.keys := by
    intro k there
    obtain ⟨p, field, rfl⟩ := List.mem_map.mp there
    obtain ⟨w, found, -⟩ := equalFields_iff.mp same p field
    exact List.mem_map.mpr ⟨_, (Fields.get?_eq_some_iff second).mp found, rfl⟩
  have perm : fs.keys.Perm gs.keys :=
    (List.subperm_of_subset first keys).perm_of_length_le (by simp [Fields.keys, size])
  exact perm.symm.subset

/-- Mappings of one size are equal in both directions where their values are. -/
theorem equalFields_symm {fs gs : Fields Value} (first : fs.keys.Nodup) (second : gs.keys.Nodup)
    (size : fs.length = gs.length)
    (back : ∀ p ∈ fs, ∀ q ∈ gs, p.2.equal q.2 = true → q.2.equal p.2 = true)
    (same : equalFields fs gs = true) : equalFields gs fs = true := by
  refine equalFields_iff.mpr fun q there => ?_
  have key := keys_subset_of_equalFields first second size same (List.mem_map_of_mem there)
  obtain ⟨p, field, is⟩ := List.mem_map.mp key
  obtain ⟨w, found, equal⟩ := equalFields_iff.mp same p field
  have other : Fields.get? gs q.1 = some q.2 := (Fields.get?_eq_some_iff second).mpr there
  rw [is, other, Option.some.injEq] at found
  subst found
  exact ⟨p.2, (Fields.get?_eq_some_iff first).mpr (is ▸ field), back p field q there equal⟩

theorem WellFormed.equal_symm {v w : Value} (hv : v.WellFormed) (hw : w.WellFormed)
    (same : v.equal w = true) : w.equal v = true := by
  induction hv generalizing w with
  | null => cases w <;> simp [equal] at same ⊢
  | bool b => exact equal_symm_of_numeric rfl same
  | int n => exact equal_symm_of_numeric rfl same
  | float x => exact equal_symm_of_numeric rfl same
  | str s =>
    cases w with
    | str t => exact equal_str.mpr (equal_str.mp same).symm
    | _ => simp [equal] at same
  | list formed ih =>
    cases hw with
    | list formed' =>
      rw [equal] at same ⊢
      exact equalItems_symm (fun x hx y hy => ih x hx (formed' y hy)) same
    | _ => simp [equal] at same
  | dict distinct formed ih =>
    cases hw with
    | dict distinct' formed' =>
      rw [equal, Bool.and_eq_true, beq_iff_eq] at same ⊢
      exact ⟨same.1.symm, equalFields_symm distinct distinct' same.1
        (fun p hp q hq => ih p hp (formed' q hq)) same.2⟩
    | _ => simp [equal] at same

/-- Equality of data is symmetric. -/
theorem WellFormed.equal_comm {v w : Value} (hv : v.WellFormed) (hw : w.WellFormed) :
    v.equal w = w.equal v :=
  Bool.eq_iff_iff.mpr ⟨hv.equal_symm hw, hw.equal_symm hv⟩

end Value
end Automation
