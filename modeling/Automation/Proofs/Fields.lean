import Automation.Value.Basic
import Mathlib.Data.List.Nodup

/-!
Fields by name. Setting a field changes that field alone and brings in no other key and no other value;
where no key is repeated, looking a field up is finding it, and setting the fields one after the other
gives them back.
-/
namespace Automation.Fields

variable {α : Type}

@[simp] theorem get?_nil (key : String) : get? ([] : Fields α) key = none := rfl

theorem get?_cons (k key : String) (v : α) (rest : Fields α) :
    get? ((k, v) :: rest) key = if key = k then some v else get? rest key := by
  by_cases h : key = k
  · simp [get?, h]
  · have hne : (key == k) = false := by simpa using h
    simp only [get?, List.lookup_cons, hne, if_neg h]

theorem get?_append (a b : Fields α) (key : String) : get? (a ++ b) key = (a.get? key).or (b.get? key) :=
  List.lookup_append

/-- Where no key is repeated, looking a field up is finding it. -/
theorem get?_eq_some_iff {fields : Fields α} (distinct : fields.keys.Nodup) {key : String}
    {value : α} : fields.get? key = some value ↔ (key, value) ∈ fields := by
  induction fields with
  | nil => simp
  | cons field fields ih =>
    obtain ⟨k, v⟩ := field
    obtain ⟨new, distinct⟩ := List.nodup_cons.mp distinct
    rw [get?_cons, List.mem_cons, Prod.mk.injEq]
    by_cases here : key = k
    · subst here
      have elsewhere : (key, value) ∉ fields := fun there => new (List.mem_map.mpr ⟨_, there, rfl⟩)
      simp [elsewhere, eq_comm]
    · simp [here, ih distinct]

theorem get?_eq_none_iff {fields : Fields α} {key : String} : fields.get? key = none ↔ key ∉ fields.keys := by
  induction fields with
  | nil => simp [keys]
  | cons field fields ih =>
    obtain ⟨k, v⟩ := field
    rw [get?_cons, keys, List.map_cons, List.mem_cons]
    by_cases here : key = k
    · simp only [here, if_true, reduceCtorEq, true_or, not_true]
    · simp only [here, if_false, false_or]
      exact ih

theorem get?_map {β : Type} (f : α → β) (fields : Fields α) (key : String) :
    get? (fields.map fun (k, v) => (k, f v)) key = (fields.get? key).map f := by
  induction fields with
  | nil => rfl
  | cons field fields ih =>
    obtain ⟨k, v⟩ := field
    rw [List.map_cons, get?_cons, get?_cons]
    split
    · rfl
    · exact ih

/-- Setting a field changes that field alone. -/
theorem get?_insert (key other : String) (value : α) (fields : Fields α) :
    get? (insert key value fields) other = if other = key then some value else get? fields other := by
  induction fields with
  | nil => rw [insert, get?_cons]
  | cons field rest ih =>
    obtain ⟨k, v⟩ := field
    by_cases hk : k = key
    · rw [insert, if_pos hk, get?_cons, get?_cons, hk]
      by_cases h : other = key <;> simp [h]
    · rw [insert, if_neg hk, get?_cons, get?_cons, ih]
      by_cases h : other = k
      · simp [h, hk]
      · simp [h]

/-- Setting a field brings in no other key. -/
theorem mem_keys_insert {key other : String} {value : α} {fields : Fields α} :
    other ∈ (insert key value fields).keys ↔ other ∈ fields.keys ∨ other = key := by
  induction fields with
  | nil => simp [insert, keys]
  | cons field rest ih =>
    obtain ⟨k, v⟩ := field
    by_cases h : k = key
    · simp only [insert, keys, List.map_cons, List.mem_cons, h]
      grind
    · simp only [insert, if_neg h, keys, List.map_cons, List.mem_cons, or_assoc] at ih ⊢
      rw [ih]

theorem nodup_keys_insert (key : String) (value : α) {fields : Fields α} (distinct : fields.keys.Nodup) :
    (insert key value fields).keys.Nodup := by
  induction fields with
  | nil => exact List.nodup_singleton key
  | cons field rest ih =>
    obtain ⟨k, v⟩ := field
    obtain ⟨new, distinct⟩ := List.nodup_cons.mp distinct
    by_cases h : k = key
    · subst h
      rw [insert, if_pos rfl]
      exact List.nodup_cons.mpr ⟨new, distinct⟩
    · rw [insert, if_neg h]
      refine List.nodup_cons.mpr ⟨fun there => ?_, ih distinct⟩
      rcases mem_keys_insert.mp there with there | same
      · exact new there
      · exact h same

/-- Where each of some items sets a field of its own, the fields are those of the items, none twice. -/
theorem keys_foldl {β : Type} (put : Fields α → β → Fields α) (key : β → String)
    (mem : ∀ fields b other, other ∈ (put fields b).keys ↔ other ∈ fields.keys ∨ other = key b)
    (once : ∀ fields b, fields.keys.Nodup → (put fields b).keys.Nodup) (items : List β)
    (fields : Fields α) (distinct : fields.keys.Nodup) :
    (items.foldl put fields).keys.Nodup ∧
      ∀ other, other ∈ (items.foldl put fields).keys ↔ other ∈ fields.keys ∨ other ∈ items.map key := by
  induction items generalizing fields with
  | nil => simpa using distinct
  | cons b rest ih =>
    obtain ⟨unique, all⟩ := ih _ (once fields b distinct)
    refine ⟨unique, fun other => (all other).trans ?_⟩
    rw [mem, List.map_cons, List.mem_cons, or_assoc]

/-- Setting a field brings in no other value. -/
theorem mem_insert {key : String} {value : α} {fields : Fields α} {p : String × α}
    (h : p ∈ insert key value fields) : p.2 = value ∨ p ∈ fields := by
  induction fields with
  | nil =>
    rw [insert, List.mem_singleton] at h
    exact .inl (by rw [h])
  | cons field rest ih =>
    obtain ⟨k, v⟩ := field
    unfold insert at h
    split at h
    · rcases List.mem_cons.mp h with rfl | h
      · exact .inl rfl
      · exact .inr (List.mem_cons_of_mem _ h)
    · rcases List.mem_cons.mp h with rfl | h
      · exact .inr List.mem_cons_self
      · exact (ih h).imp_right (List.mem_cons_of_mem _)

theorem insert_of_notMem {key : String} {value : α} {fields : Fields α} (new : key ∉ fields.keys) :
    insert key value fields = fields ++ [(key, value)] := by
  induction fields with
  | nil => rfl
  | cons p fields ih =>
    obtain ⟨k, v⟩ := p
    simp only [keys, List.map_cons, List.mem_cons, not_or] at new
    rw [insert, if_neg (Ne.symm new.1), ih new.2]
    rfl

theorem update_of_nodup (fields changes : Fields α) (distinct : (fields ++ changes).keys.Nodup) :
    fields.update changes = fields ++ changes := by
  induction changes generalizing fields with
  | nil => simp [update]
  | cons p changes ih =>
    obtain ⟨k, v⟩ := p
    have new : k ∉ fields.keys := by
      simp only [keys, List.map_append, List.map_cons, List.nodup_append] at distinct
      intro there
      exact distinct.2.2 k there k List.mem_cons_self rfl
    have step := ih (fields ++ [(k, v)]) (by simpa using distinct)
    calc fields.update ((k, v) :: changes) = (insert k v fields).update changes := rfl
      _ = fields ++ (k, v) :: changes := by rw [insert_of_notMem new, step, List.append_assoc]; rfl

/-- Fields without a repeated key are kept as they are. -/
theorem ofPairs_of_nodup {fields : Fields α} (distinct : fields.keys.Nodup) :
    ofPairs fields = fields :=
  update_of_nodup [] fields distinct

end Automation.Fields
