import Automation.Http.Setting
import Mathlib.Data.List.Basic

/-!
How deep a text is nested. A document is refused for its nesting only if it opens more lists and mappings
than may stand inside one another; and a text of opening brackets alone is refused so as soon as there is
one more of them. Settings and responses are decoded from texts that are JSON; of the others only those that
are nested too deep are failures.
-/
namespace Automation

namespace Json

open Number

/-- The characters that open a list or a mapping. -/
def isOpening (c : Char) : Bool := c == '[' || c == '\x7b'

/-- How many lists and mappings a text can open. -/
def openings (cs : List Char) : Nat := cs.countP isOpening

/-- What comes of reading at the start of a text: something is read off it and the rest is an end of the
text, or it is refused, for its nesting only if it opens more than so many lists and mappings. -/
inductive Takes {α : Type} (depth : Nat) (cs : List Char) : Except ReadError (α × Rest) → Prop
  | read {a : α} {r : Rest} (left : r.chars <:+ cs) : Takes depth cs (.ok (a, r))
  | malformed (offset : Nat) : Takes depth cs (.error (.malformed offset))
  | tooManyDigits (count : Nat) : Takes depth cs (.error (.tooManyDigits count))
  | tooDeep (opening : Nesting) (more : depth < openings cs) : Takes depth cs (.error (.tooDeep opening))

namespace Takes

variable {α β : Type} {depth : Nat} {c : Char} {cs ds : List Char} {x : Except ReadError (α × Rest)}

theorem within (h : Takes depth cs x) (suffix : cs <:+ ds) : Takes depth ds x := by
  cases h with
  | read left => exact .read (left.trans suffix)
  | malformed => exact .malformed _
  | tooManyDigits => exact .tooManyDigits _
  | tooDeep opening more => exact .tooDeep opening (Nat.lt_of_lt_of_le more suffix.sublist.countP_le)

theorem opened (h : Takes depth cs x) (opens : isOpening c = true) : Takes (depth + 1) (c :: cs) x := by
  cases h with
  | read left => exact .read (left.trans (List.suffix_cons c cs))
  | malformed => exact .malformed _
  | tooManyDigits => exact .tooManyDigits _
  | tooDeep opening more =>
    refine .tooDeep opening ?_
    rw [openings, List.countP_cons_of_pos opens]
    exact Nat.succ_lt_succ more

theorem error {e : ReadError} (h : Takes depth cs (.error e : Except ReadError (α × Rest))) :
    Takes depth cs (.error e : Except ReadError (β × Rest)) := by
  cases h with
  | malformed => exact .malformed _
  | tooManyDigits => exact .tooManyDigits _
  | tooDeep opening more => exact .tooDeep opening more

theorem left {a : α} {r : Rest} (h : Takes depth cs (.ok (a, r))) : r.chars <:+ cs := by
  cases h with
  | read left => exact left

end Takes

section Readers

variable (depth : Nat)

theorem skipBlanks_suffix (r : Rest) : r.skipBlanks.chars <:+ r.chars := List.drop_suffix _ _

theorem skip_suffix (r : Rest) (n : Nat) : (r.skip n).chars <:+ r.chars := List.drop_suffix _ _

theorem suffix_of_eq_cons {c : Char} {cs rest : List Char} (is : cs = c :: rest) : rest <:+ cs :=
  is ▸ List.suffix_cons c rest

theorem skipBlanks_suffix_of_eq_cons {c : Char} {cs rest : List Char} (is : cs = c :: rest) (offset : Nat) :
    (Rest.mk rest offset).skipBlanks.chars <:+ cs :=
  (skipBlanks_suffix _).trans (suffix_of_eq_cons is)

theorem readString_takes (start fuel : Nat) (done : List Char) (r : Rest) :
    Takes depth r.chars (readString start fuel done r) := by
  fun_induction readString start fuel done r with
  | case1 | case2 | case4 | case5 | case7 | case10 | case12 | case13 => exact .malformed _
  | case3 _ _ r rest is =>
    rw [is]
    exact .read (List.suffix_cons _ _)
  | case6 _ _ r _ _ _ _ _ _ _ _ _ _ _ _ ih => exact ih.within (skip_suffix r 12)
  | case8 _ _ r _ _ _ _ _ _ _ _ _ _ _ ih => exact ih.within (skip_suffix r 6)
  | case9 _ _ r _ _ _ _ _ _ _ _ _ _ ih => exact ih.within (skip_suffix r 6)
  | case11 _ _ r c after _ d _ is ih =>
    rw [is]
    exact ih.within ((List.suffix_cons _ _).trans (List.suffix_cons _ _))
  | case14 _ _ r c rest _ _ is _ ih =>
    rw [is]
    exact ih.within (List.suffix_cons _ _)

theorem string_takes (r : Rest) : Takes depth r.chars (string r) := readString_takes ..

theorem takeAsciiDigits_suffix (cs : List Char) : (takeAsciiDigits cs).2 <:+ cs := by
  induction cs with
  | nil => exact List.suffix_rfl
  | cons c rest ih =>
    unfold takeAsciiDigits
    split
    · exact ih.trans (List.suffix_cons c rest)
    · exact List.suffix_rfl

theorem takeWhole_suffix (cs : List Char) : (takeWhole cs).2 <:+ cs := by
  unfold takeWhole
  split
  · exact List.suffix_cons _ _
  · exact takeAsciiDigits_suffix _

theorem takePoint_suffix (cs : List Char) : (takePoint cs).2 <:+ cs := by
  unfold takePoint
  split
  · next rest =>
    split
    · exact List.suffix_rfl
    · next ds left _ read =>
      have := takeAsciiDigits_suffix rest
      rw [read] at this
      exact this.trans (List.suffix_cons _ _)
  · exact List.suffix_rfl

theorem takeSign_suffix (cs : List Char) : (takeSign cs).2 <:+ cs := by
  unfold takeSign
  split
  · exact List.suffix_cons _ _
  · exact List.suffix_cons _ _
  · exact List.suffix_rfl

theorem takePower_suffix (cs : List Char) : (takePower cs).2 <:+ cs := by
  unfold takePower
  split
  · next c rest =>
    split
    · simp only
      split
      · exact List.suffix_rfl
      · next ds left _ read =>
        have := takeAsciiDigits_suffix (takeSign rest).2
        rw [read] at this
        exact (this.trans (takeSign_suffix rest)).trans (List.suffix_cons _ _)
    · exact List.suffix_rfl
  · exact List.suffix_rfl

theorem number_takes (r : Rest) : Takes depth r.chars (number r) := by
  unfold number
  simp only
  split
  · exact .malformed _
  · next whole after _ digits =>
    have behind : (whole, after).2 <:+ _ := digits ▸ takeWhole_suffix _
    have left : (takePower (takePoint after).2).2 <:+ r.chars := by
      refine (((takePower_suffix _).trans (takePoint_suffix _)).trans behind).trans ?_
      -- what is left behind an optional minus
      split
      · next is => exact suffix_of_eq_cons is
      · exact List.suffix_rfl
    split
    · split
      · exact .tooManyDigits _
      · exact .read left
    · exact .read left

theorem scalar_takes (r : Rest) : Takes depth r.chars (scalar r) := by
  unfold scalar
  iterate 6
    split
    · exact .read (skip_suffix r _)
  exact number_takes depth r

/-- What the three readers take off a text, with so many levels left to open. -/
structure ReadersTake (fuel : Nat) : Prop where
  ofValue : ∀ depth r, Takes depth r.chars (value fuel depth r)
  ofItems : ∀ depth done r, Takes depth r.chars (items fuel depth done r)
  ofFields : ∀ depth done r, Takes depth r.chars (fields fuel depth done r)

namespace ReadersTake

variable {fuel : Nat}

theorem value_succ (ih : ReadersTake fuel) (depth : Nat) (r : Rest) :
    Takes depth r.chars (value (fuel + 1) depth r) := by
  rw [value]
  split
  · next rest is =>
    have taken := (string_takes depth ⟨rest, r.offset + 1⟩).within (suffix_of_eq_cons is)
    cases read : string ⟨rest, r.offset + 1⟩ with
    | error e => exact (read ▸ taken).error
    | ok found => exact .read (read ▸ taken).left
  · next rest is =>
    rw [is]
    split
    · exact .tooDeep .array (by simp [openings, isOpening])
    · simp only
      split
      · next closed =>
        exact .read ((suffix_of_eq_cons closed).trans (skipBlanks_suffix_of_eq_cons rfl _))
      · refine Takes.opened ?_ (by decide)
        exact (ih.ofItems _ _ _).within (skipBlanks_suffix _)
  · next rest is =>
    rw [is]
    split
    · exact .tooDeep .object (by simp [openings, isOpening])
    · simp only
      split
      · next closed =>
        exact .read ((suffix_of_eq_cons closed).trans (skipBlanks_suffix_of_eq_cons rfl _))
      · refine Takes.opened ?_ (by decide)
        exact (ih.ofFields _ _ _).within (skipBlanks_suffix _)
  · exact scalar_takes depth r

theorem items_succ (ih : ReadersTake fuel) (depth : Nat) (done : List Value) (r : Rest) :
    Takes depth r.chars (items (fuel + 1) depth done r) := by
  rw [items]
  have first := ih.ofValue depth r
  split
  · next e read => exact (read ▸ first).error
  · next v after read =>
    have left := (skipBlanks_suffix after).trans (read ▸ first).left
    simp only
    split
    · next closed => exact .read ((suffix_of_eq_cons closed).trans left)
    · next more => exact (ih.ofItems _ _ _).within ((skipBlanks_suffix_of_eq_cons more _).trans left)
    · exact .malformed _

theorem fields_succ (ih : ReadersTake fuel) (depth : Nat) (done : List (String × Value)) (r : Rest) :
    Takes depth r.chars (fields (fuel + 1) depth done r) := by
  rw [fields]
  split
  · next rest is =>
    have named := (string_takes depth ⟨rest, r.offset + 1⟩).within (suffix_of_eq_cons is)
    split
    · next e read => exact (read ▸ named).error
    · next key after read =>
      have behindKey := (skipBlanks_suffix after).trans (read ▸ named).left
      simp only
      split
      · next rest colon =>
        have held := (ih.ofValue depth (Rest.mk rest (after.skipBlanks.offset + 1)).skipBlanks).within
          ((skipBlanks_suffix_of_eq_cons colon _).trans behindKey)
        split
        · next e read => exact (read ▸ held).error
        · next v after read =>
          have left := (skipBlanks_suffix after).trans (read ▸ held).left
          split
          · next closed => exact .read ((suffix_of_eq_cons closed).trans left)
          · next more => exact (ih.ofFields _ _ _).within ((skipBlanks_suffix_of_eq_cons more _).trans left)
          · exact .malformed _
      · exact .malformed _
  · exact .malformed _

end ReadersTake

theorem readersTake (fuel : Nat) : ReadersTake fuel := by
  induction fuel with
  | zero =>
    refine ⟨fun depth r => ?_, fun depth done r => ?_, fun depth done r => ?_⟩
    · rw [value]
      exact .malformed _
    · rw [items]
      exact .malformed _
    · rw [fields]
      exact .malformed _
  | succ fuel ih => exact ⟨ih.value_succ, ih.items_succ, ih.fields_succ⟩

end Readers

/-- A document that is refused for its nesting opens more lists and mappings than may be nested. -/
theorem openings_of_tooDeep {room : Nat} {s : String} {opening : Nesting}
    (refused : read room s = .error (.tooDeep opening)) : room < openings s.toList := by
  unfold read at refused
  simp only at refused
  split at refused
  · cases refused
  · have taken := (readersTake (2 * s.toList.length + 2)).ofValue room (Rest.mk s.toList 0).skipBlanks
    cases found : value (2 * s.toList.length + 2) room (Rest.mk s.toList 0).skipBlanks with
    | error e =>
      rw [found] at refused taken
      cases refused
      cases taken with
      | tooDeep opening more => exact Nat.lt_of_lt_of_le more (skipBlanks_suffix _).sublist.countP_le
    | ok pair =>
      rw [found] at refused
      simp only [bind, Except.bind] at refused
      split at refused <;> cases refused

theorem skipBlanks_bracket (cs : List Char) (offset : Nat) :
    (Rest.mk ('[' :: cs) offset).skipBlanks = ⟨'[' :: cs, offset⟩ := rfl

/-- Brackets that are opened one inside the other are refused at the first one behind the last level. -/
theorem value_brackets (depth more fuel offset : Nat) (enough : 2 * depth < fuel) :
    value fuel depth ⟨List.replicate (depth + more + 1) '[', offset⟩ = .error (.tooDeep .array) := by
  induction depth generalizing fuel offset with
  | zero =>
    obtain ⟨fuel, rfl⟩ := Nat.exists_eq_add_of_lt enough
    rw [value]
    rfl
  | succ depth ih =>
    obtain ⟨fuel, rfl⟩ : ∃ f, fuel = f + 2 := ⟨fuel - 2, by omega⟩
    have next := ih fuel (offset + 1) (by omega)
    have longer : depth + 1 + more + 1 = depth + more + 1 + 1 := by omega
    rw [value, longer, List.replicate_succ]
    simp only
    rw [List.replicate_succ] at next ⊢
    rw [skipBlanks_bracket]
    simp only
    rw [items, next]
    rfl

/-- A text of opening brackets alone is refused for its nesting as soon as it has one too many. -/
theorem read_brackets {room n : Nat} (many : room < n) :
    read room (String.ofList (List.replicate n '[')) = .error (.tooDeep .array) := by
  obtain ⟨more, rfl⟩ := Nat.exists_eq_add_of_lt many
  have refused := value_brackets room more (2 * (room + more + 1) + 2) 0 (by omega)
  rw [List.replicate_succ] at refused
  rw [read, String.toList_ofList, List.length_replicate, List.replicate_succ]
  simp only
  rw [skipBlanks_bracket, refused]
  rfl

end Json

namespace Http

open Json (Nesting)

/-- What is decoded from a text. -/
inductive Decodes (s : String) : Except Failure (Option Value) → Prop
  | json {v : Value} (read : Json.read Stack.settingText s = .ok v) : Decodes s (.ok (some v))
  | tooDeep {opening : Nesting} (deep : Json.read Stack.settingText s = .error (.tooDeep opening)) :
      Decodes s (.error (.nestedTooDeep (nestingName opening)))
  | none (noJson : ∀ v, Json.read Stack.settingText s ≠ .ok v)
      (shallow : ∀ opening, Json.read Stack.settingText s ≠ .error (.tooDeep opening)) : Decodes s (.ok none)

theorem decode?_decodes (s : String) : Decodes s (decode? s) := by
  unfold decode?
  cases read : Json.read Stack.settingText s with
  | ok v => exact .json read
  | error e =>
    cases e with
    | tooDeep opening => exact .tooDeep read
    | malformed | tooManyDigits => exact .none (by simp [read]) (by simp [read])

theorem decode?_of_tooDeep {s : String} {opening : Nesting}
    (deep : Json.read Stack.settingText s = .error (.tooDeep opening)) :
    decode? s = .error (.nestedTooDeep (nestingName opening)) := by
  rw [decode?, deep]

theorem decodeBody_of_tooDeep {s : String} {opening : Nesting}
    (deep : Json.read Stack.settingText s = .error (.tooDeep opening)) :
    decodeBody (.str s) = .error (.nestedTooDeep (nestingName opening)) := by
  simp only [decodeBody, decode?_of_tooDeep deep]

theorem headerTemplates_of_tooDeep {s : String} {opening : Nesting}
    (deep : Json.read Stack.settingText s = .error (.tooDeep opening)) :
    headerTemplates (.str s) = .error (.nestedTooDeep (nestingName opening)) := by
  have some : s ≠ "" := by
    rintro rfl
    exact absurd (Json.openings_of_tooDeep deep) (by decide)
  simp only [headerTemplates, if_neg some, decode?_of_tooDeep deep]

/-- A body that is no JSON is an empty mapping, unless it is nested too deep. -/
theorem decodeBody_cases (s : String) :
    (∃ opening, Json.read Stack.settingText s = .error (.tooDeep opening) ∧
      decodeBody (.str s) = .error (.nestedTooDeep (nestingName opening))) ∨
    ∃ body, decodeBody (.str s) = .ok body ∧ ((∀ v, Json.read Stack.settingText s ≠ .ok v) → body = .dict []) := by
  have decodes := decode?_decodes s
  unfold decodeBody
  simp only
  generalize decode? s = decoded at decodes
  cases decodes with
  | json read =>
    refine .inr ?_
    split
    · contradiction
    all_goals exact ⟨_, rfl, fun none => absurd read (none _)⟩
  | tooDeep deep => exact .inl ⟨_, deep, rfl⟩
  | none => exact .inr ⟨_, rfl, fun _ => rfl⟩

/-- Headers that are no JSON are no headers, unless they are nested too deep. -/
theorem headerTemplates_cases (s : String) :
    (∃ opening, Json.read Stack.settingText s = .error (.tooDeep opening) ∧
      headerTemplates (.str s) = .error (.nestedTooDeep (nestingName opening))) ∨
    ∃ templates, headerTemplates (.str s) = .ok templates ∧
      ((∀ v, Json.read Stack.settingText s ≠ .ok v) → templates = []) := by
  have decodes := decode?_decodes s
  unfold headerTemplates
  simp only
  split
  · exact .inr ⟨_, rfl, fun _ => rfl⟩
  · generalize decode? s = decoded at decodes
    cases decodes with
    | json read =>
      refine .inr ?_
      split
      · contradiction
      all_goals exact ⟨_, rfl, fun none => absurd read (none _)⟩
    | tooDeep deep => exact .inl ⟨_, deep, rfl⟩
    | none => exact .inr ⟨_, rfl, fun _ => rfl⟩

end Http
end Automation
