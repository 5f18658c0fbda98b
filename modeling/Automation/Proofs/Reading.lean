import Automation.Http.Client
import Automation.Proofs.RoundTrip
import Automation.Proofs.Writable

/-!
What is read from a document can be written again where there is as much room as it was read with: its
integers are no longer than those that are written, and it is nested no deeper. The client reads with more
room than is left where outputs are written into settings, so there are replies that are read and cannot be
written there.
-/
namespace Automation

open Number

theorem takeAsciiDigits_lt (cs : List Char) : ∀ d ∈ (Json.takeAsciiDigits cs).1, d < 10 := by
  induction cs with
  | nil =>
    intro d hd
    cases hd
  | cons c rest ih =>
    unfold Json.takeAsciiDigits
    by_cases hc : Text.isAsciiDigit c = true
    · rw [if_pos hc]
      intro d hd
      rcases List.mem_cons.mp hd with rfl | hd
      · simp only [Text.isAsciiDigit, Bool.and_eq_true, decide_eq_true_eq, Char.le_def,
          UInt32.le_iff_toNat_le] at hc
        have h0 : '0'.val.toNat = 48 := rfl
        have h9 : '9'.val.toNat = 57 := rfl
        have hz : '0'.toNat = 48 := rfl
        have hn : c.toNat = c.val.toNat := rfl
        omega
      · exact ih d hd
    · rw [if_neg hc]
      intro d hd
      cases hd

theorem takeWhole_lt (cs : List Char) : ∀ d ∈ (Json.takeWhole cs).1, d < 10 := by
  unfold Json.takeWhole
  split
  · intro d hd
    rw [List.mem_singleton.mp hd]
    decide
  · exact takeAsciiDigits_lt _

/-- Digits make a number below the power of ten with as many zeros. -/
theorem valueFrom_lt {ds : List Nat} (h : ∀ d ∈ ds, d < 10) (start : Nat) :
    valueFrom start ds < (start + 1) * Nat.pow 10 ds.length := by
  induction ds generalizing start with
  | nil =>
    change start < (start + 1) * 1
    omega
  | cons d rest ih =>
    have hd : d < 10 := h d List.mem_cons_self
    have hrest := ih (fun d' hd' => h d' (List.mem_cons_of_mem _ hd')) (10 * start + d)
    calc valueFrom (10 * start + d) rest
        < (10 * start + d + 1) * Nat.pow 10 rest.length := hrest
      _ ≤ ((start + 1) * 10) * Nat.pow 10 rest.length := Nat.mul_le_mul_right _ (by omega)
      _ = (start + 1) * (Nat.pow 10 rest.length * 10) := by
        rw [Nat.mul_assoc, Nat.mul_comm 10]

theorem valueFrom_lt_pow {ds : List Nat} (h : ∀ d ∈ ds, d < 10) {n : Nat} (short : ds.length ≤ n) :
    valueFrom 0 ds < Nat.pow 10 n :=
  calc valueFrom 0 ds < (0 + 1) * Nat.pow 10 ds.length := valueFrom_lt h 0
    _ = Nat.pow 10 ds.length := Nat.one_mul _
    _ ≤ Nat.pow 10 n := Nat.pow_le_pow_right (by decide) short

theorem isWritable_signed (negative : Bool) {ds : List Nat} (h : ∀ d ∈ ds, d < 10)
    (short : ds.length ≤ maxDigits) : isWritable (signed negative (valueFrom 0 ds)) = true := by
  have size : (signed negative (valueFrom 0 ds)).natAbs = valueFrom 0 ds := by
    unfold signed
    split <;> omega
  rw [isWritable, size]
  exact decide_eq_true (valueFrom_lt_pow h short)

namespace Value

variable {depth : Nat}

theorem within_items {items : List Value} (h : ∀ v ∈ items, v.Within depth) :
    areWritable items = true ∧ depthOfItems items ≤ depth := by
  induction items with
  | nil => exact ⟨rfl, Nat.zero_le _⟩
  | cons v rest ih =>
    obtain ⟨writable, shallow⟩ := h v List.mem_cons_self
    obtain ⟨writables, shallows⟩ := ih fun v' hv' => h v' (List.mem_cons_of_mem _ hv')
    exact ⟨by rw [areWritable, writable, writables]; rfl, Nat.max_le.mpr ⟨shallow, shallows⟩⟩

theorem within_fields {fields : List (String × Value)} (h : ∀ p ∈ fields, p.2.Within depth) :
    fieldsAreWritable fields = true ∧ depthOfFields fields ≤ depth := by
  induction fields with
  | nil => exact ⟨rfl, Nat.zero_le _⟩
  | cons p rest ih =>
    obtain ⟨k, v⟩ := p
    obtain ⟨writable, shallow⟩ := h (k, v) List.mem_cons_self
    obtain ⟨writables, shallows⟩ := ih fun p' hp' => h p' (List.mem_cons_of_mem _ hp')
    exact ⟨by rw [fieldsAreWritable, writable, writables]; rfl, Nat.max_le.mpr ⟨shallow, shallows⟩⟩

theorem within_list {items : List Value} (h : ∀ v ∈ items, v.Within depth) :
    (list items).Within (depth + 1) :=
  ⟨(within_items h).1, Nat.succ_le_succ (within_items h).2⟩

theorem within_dict {fields : List (String × Value)} (h : ∀ p ∈ fields, p.2.Within depth) :
    (dict fields).Within (depth + 1) :=
  ⟨(within_fields h).1, Nat.succ_le_succ (within_fields h).2⟩

end Value

namespace Fields

variable {α : Type}

/-- Fields that are set one after the other bring in no other values, whichever fields they replace. -/
theorem forall_foldl {set : Fields α → String × α → Fields α}
    (brings : ∀ fields p q, q ∈ set fields p → q.2 = p.2 ∨ q ∈ fields) {P : α → Prop}
    {fields changes : Fields α} (hf : ∀ p ∈ fields, P p.2) (hc : ∀ p ∈ changes, P p.2) :
    ∀ p ∈ changes.foldl set fields, P p.2 := by
  induction changes generalizing fields with
  | nil => exact hf
  | cons change rest ih =>
    refine ih ?_ fun p hp => hc p (List.mem_cons_of_mem _ hp)
    intro p hp
    rcases brings fields change p hp with hv | hp
    · rw [hv]
      exact hc change List.mem_cons_self
    · exact hf p hp

end Fields

namespace Json

theorem number_within {r r' : Rest} {v : Value} (h : number r = .ok (v, r')) (depth : Nat) :
    v.Within depth := by
  unfold number at h
  simp only at h
  split at h
  · cases h
  · next whole after hwhole digits =>
    split at h
    · split at h
      · cases h
      · next short =>
        cases h
        refine ⟨isWritable_signed _ ?_ (Nat.le_of_not_lt short), Nat.zero_le _⟩
        have small : ∀ d ∈ (whole, after).1, d < 10 := digits ▸ takeWhole_lt _
        exact small
    · cases h
      exact ⟨rfl, Nat.zero_le _⟩

theorem scalar_within {r r' : Rest} {v : Value} (h : scalar r = .ok (v, r')) (depth : Nat) :
    v.Within depth := by
  unfold scalar at h
  iterate 6
    split at h
    · cases h
      exact ⟨rfl, Nat.zero_le _⟩
  exact number_within h depth

/-- What the three readers read with so much fuel: a value is nested no deeper than is left, a list and a
mapping no deeper than their items. -/
structure ReadWithin (fuel : Nat) : Prop where
  ofValue : ∀ {depth r v r'}, value fuel depth r = .ok (v, r') → v.Within depth
  ofItems : ∀ {depth done r v r'}, (∀ x ∈ done, x.Within depth) →
    items fuel depth done r = .ok (v, r') → v.Within (depth + 1)
  ofFields : ∀ {depth done r v r'}, (∀ p ∈ done, p.2.Within depth) →
    fields fuel depth done r = .ok (v, r') → v.Within (depth + 1)

section

variable {fuel depth : Nat} {r r' : Rest} {v : Value}

theorem string_within (h : (string r).map (fun (s, r) => (Value.str s, r)) = .ok (v, r')) :
    v.Within depth := by
  cases read : string r with
  | error e =>
    rw [read] at h
    cases h
  | ok found =>
    rw [read] at h
    cases h
    exact ⟨rfl, Nat.zero_le _⟩

theorem ReadWithin.value_succ (ih : ReadWithin fuel) (h : value (fuel + 1) depth r = .ok (v, r')) :
    v.Within depth := by
  rw [value] at h
  split at h
  · exact string_within h
  · split at h
    · cases h
    · simp only at h
      split at h
      · cases h
        exact Value.within_list (List.forall_mem_nil _)
      · exact ih.ofItems (List.forall_mem_nil _) h
  · split at h
    · cases h
    · simp only at h
      split at h
      · cases h
        exact Value.within_dict (List.forall_mem_nil _)
      · exact ih.ofFields (List.forall_mem_nil _) h
  · exact scalar_within h depth

theorem ReadWithin.items_succ (ih : ReadWithin fuel) {done : List Value} (before : ∀ x ∈ done, x.Within depth)
    (h : items (fuel + 1) depth done r = .ok (v, r')) : v.Within (depth + 1) := by
  rw [items] at h
  split at h
  · cases h
  · next x after read =>
    have all : ∀ y ∈ x :: done, y.Within depth := List.forall_mem_cons.mpr ⟨ih.ofValue read, before⟩
    simp only at h
    split at h
    · cases h
      exact Value.within_list fun y hy => all y (List.mem_reverse.mp hy)
    · exact ih.ofItems all h
    · cases h

theorem ReadWithin.fields_succ (ih : ReadWithin fuel) {done : List (String × Value)}
    (before : ∀ p ∈ done, p.2.Within depth) (h : fields (fuel + 1) depth done r = .ok (v, r')) :
    v.Within (depth + 1) := by
  rw [fields] at h
  split at h
  · split at h
    · cases h
    · simp only at h
      split at h
      · split at h
        · cases h
        · rename_i key _ _ _ _ _ _ x after read
          have all : ∀ p ∈ (key, x) :: done, p.2.Within depth :=
            List.forall_mem_cons.mpr ⟨ih.ofValue read, before⟩
          split at h
          · cases h
            refine Value.within_dict (Fields.forall_foldl (fun _ _ _ => Fields.mem_insert)
              (List.forall_mem_nil _) ?_)
            exact fun p hp => all p (List.mem_reverse.mp hp)
          · exact ih.ofFields all h
          · cases h
      · cases h
  · cases h

end

theorem readWithin (fuel : Nat) : ReadWithin fuel := by
  induction fuel with
  | zero =>
    refine ⟨fun h => ?_, fun _ h => ?_, fun _ h => ?_⟩
    · rw [value] at h
      cases h
    · rw [items] at h
      cases h
    · rw [fields] at h
      cases h
  | succ fuel ih => exact ⟨ih.value_succ, ih.items_succ, ih.fields_succ⟩

/-- What is read from a document can be written with the room it was read with. -/
theorem within_of_read {room : Nat} {s : String} {v : Value} (h : read room s = .ok v) : v.Within room := by
  unfold read at h
  simp only at h
  split at h
  · cases h
  · cases hv : value (2 * s.toList.length + 2) room (Rest.mk s.toList 0).skipBlanks with
    | error e =>
      rw [hv] at h
      cases h
    | ok found =>
      obtain ⟨v', r⟩ := found
      rw [hv] at h
      simp only [bind, Except.bind] at h
      split at h
      · cases h
        exact (readWithin _).ofValue hv
      · cases h

end Json

namespace Http

theorem responseBody_within {text : String} {v : Value} (h : responseBody text = .ok v) :
    v.Within Stack.reply := by
  unfold responseBody at h
  split at h
  · next read =>
    cases h
    exact Json.within_of_read read
  · cases h
  · cases h
  · cases h
    exact ⟨rfl, Nat.zero_le _⟩

theorem mem_insertHeader {name : String} {value : Value} {headers : Fields Value} {p : String × Value}
    (h : p ∈ insertHeader name value headers) : p.2 = value ∨ p ∈ headers := by
  induction headers with
  | nil =>
    rw [insertHeader, List.mem_singleton] at h
    exact .inl (by rw [h])
  | cons field rest ih =>
    obtain ⟨k, v⟩ := field
    unfold insertHeader at h
    split at h
    · rcases List.mem_cons.mp h with rfl | h
      · exact .inl rfl
      · exact .inr (List.mem_cons_of_mem _ h)
    · rcases List.mem_cons.mp h with rfl | h
      · exact .inr List.mem_cons_self
      · exact (ih h).imp_right (List.mem_cons_of_mem _)

theorem canBeWritten_of_texts {fields : Fields Value} (h : ∀ p ∈ fields, ∃ s, p.2 = .str s) :
    (Value.dict fields).CanBeWritten := by
  have texts : ∀ p ∈ fields, p.2.Within 0 := by
    intro p hp
    obtain ⟨s, hs⟩ := h p hp
    rw [hs]
    exact ⟨rfl, Nat.le_refl 0⟩
  obtain ⟨writable, shallow⟩ := Value.within_dict texts
  exact ⟨writable, Nat.le_trans shallow (by decide)⟩

/-- The status of a response is a number of ordinary size, and its headers are texts. -/
structure RawResponse.Plain (raw : RawResponse) : Prop where
  status : (Value.int raw.status).CanBeWritten
  headers : ∀ p ∈ raw.headers, ∃ s, p.2 = .str s

theorem decodeResponse_within {raw : RawResponse} {response : Response}
    (h : decodeResponse raw = .ok response) (plain : raw.Plain) :
    response.body.Within Stack.reply ∧ (response.CanBeWritten ↔ response.body.depth ≤ Stack.setting) := by
  unfold decodeResponse at h
  cases hb : responseBody raw.text with
  | error e =>
    rw [hb] at h
    cases h
  | ok body =>
    rw [hb] at h
    cases h
    have within : body.Within Stack.reply := responseBody_within hb
    refine ⟨within, fun written => written.body.2, fun shallow => ?_⟩
    refine ⟨plain.status, ⟨within.1, shallow⟩, canBeWritten_of_texts ?_⟩
    exact Fields.forall_foldl (P := fun v => ∃ s, v = .str s) (fun _ _ _ => mem_insertHeader)
      (List.forall_mem_nil _) plain.headers

/-- Whatever text the network sends, the client answers with data within its own room. The answer can be
written into a setting just where its body is nested no deeper than there is room for in a setting. -/
theorem exchange_answer_within {timeout : Value} {send : SessionCall → Except Failure RawResponse}
    (plain : ∀ call raw, send call = .ok raw → raw.Plain) {request : Request} {response : Response}
    (h : (exchange timeout send request).answer = .ok response) :
    response.body.Within Stack.reply ∧ (response.CanBeWritten ↔ response.body.depth ≤ Stack.setting) := by
  unfold exchange exchangeOver at h
  split at h
  · cases h
  · next call _ =>
    unfold conclude at h
    split at h
    · split at h <;> cases h
    · cases h
    · next raw answered =>
      split at h
      · cases h
      · cases h
      · next decoded _ =>
        cases h
        exact decodeResponse_within decoded (plain call raw answered)

end Http

/-- Lists one inside the other, one more than the number says. -/
def Value.nested : Nat → Value
  | 0 => .list []
  | n + 1 => .list [nested n]

namespace Value

@[simp] theorem depth_nested (n : Nat) : (nested n).depth = n + 1 := by
  induction n with
  | zero => rfl
  | succ n ih => simp [nested, depth, depthOfItems, ih]

theorem exact_nested (n : Nat) : (nested n).Exact := by
  induction n with
  | zero => exact .list (List.forall_mem_nil _)
  | succ n ih => exact .list (List.forall_mem_singleton.mpr ih)

/-- Opening brackets and as many closing brackets are lists one inside the other. -/
theorem write_nested (n : Nat) : Json.write Json.compact (nested n) =
    String.ofList (List.replicate (n + 1) '[' ++ List.replicate (n + 1) ']') := by
  refine congrArg String.ofList ?_
  induction n with
  | zero => rfl
  | succ n ih =>
    rw [List.replicate_succ, List.replicate_succ' (n := n + 1), List.cons_append, ← List.append_assoc, ← ih]
    simp [nested, Json.chars, Json.itemChars]

/-- Lists that are nested too deep for a place are not written there. -/
theorem inserted_nested {room n : Nat} (deep : room ≤ n) :
    (nested n).inserted room = .error .writtenTooDeep := by
  have tooDeep : room < (nested n).depth := by
    rw [depth_nested]
    omega
  cases n <;> exact if_pos tooDeep

end Value

namespace Http

/-- A reply that is nested one level deeper than what can be written into a setting. -/
def deepReply : RawResponse where
  status := 200
  text := String.ofList (List.replicate (Stack.setting + 1) '[' ++ List.replicate (Stack.setting + 1) ']')

/-- There is room to read a reply that cannot be written into a setting. -/
theorem decodeResponse_deepReply : decodeResponse deepReply = .ok ⟨200, .nested Stack.setting, []⟩ := by
  have fits : (Value.nested Stack.setting).depth ≤ Stack.reply := by
    rw [Value.depth_nested]
    decide
  have read : Json.read Stack.reply deepReply.text = .ok (.nested Stack.setting) := by
    rw [deepReply, ← Value.write_nested]
    exact Json.read_write Json.compact_readable (Value.exact_nested _) fits
  rw [decodeResponse, responseBody, read]
  rfl

end Http
end Automation
