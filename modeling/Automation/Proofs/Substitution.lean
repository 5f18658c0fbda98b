import Automation.Expression.Resolver

/-!
Substitution in texts. A placeholder has a grammar, and a text is cut at the leftmost places where one
begins, each behind the one before; substitution puts the text of what each refers to in its place and
keeps everything between them. Every text is cut in one way only, and reading a placeholder off a text
is the grammar exactly.
-/
namespace Automation

open Text

namespace Placeholder

/-- The key in a run of characters: the run without the blanks at its end, or its first character if
it is all blank. -/
inductive KeyIn : List Char → List Char → Prop
  | trimmed {front last blanks} (solid : isBlank last = false) (blank : ∀ c ∈ blanks, isBlank c = true) :
      KeyIn (front ++ [last] ++ blanks) (front ++ [last])
  | blank {first blanks} (blank : ∀ c ∈ first :: blanks, isBlank c = true) :
      KeyIn (first :: blanks) [first]

/-- The texts that a placeholder can be written as. -/
inductive Spells : Placeholder → List Char → Prop
  | spelt {blanks node run key} (blank : ∀ c ∈ blanks, isBlank c = true) (named : node ≠ [])
      (name : ∀ c ∈ node, c ≠ '.' ∧ c ≠ '\x7d' ∧ isBlank c = false)
      (within : ∀ c ∈ run, c ≠ '\x7d') (keyed : KeyIn run key) :
      Spells ⟨node, key⟩ (['\x7b', '\x7b'] ++ blanks ++ "context.outputs.".toList ++ node ++ ['.'] ++
        run ++ ['\x7d', '\x7d'])

/-- A placeholder begins where the text begins. -/
def Begins (cs : List Char) : Prop := ∃ p text rest, Spells p text ∧ cs = text ++ rest

/-- A placeholder begins somewhere in the text and ends in it. -/
def Occurs (cs : List Char) : Prop := ∃ a b, cs = a ++ b ∧ Begins b

theorem isIdChar_iff {c : Char} : isIdChar c = true ↔ c ≠ '.' ∧ c ≠ '\x7d' ∧ isBlank c = false := by
  simp only [isIdChar, Bool.and_eq_true, bne_iff_ne, Bool.not_eq_true', and_assoc]

theorem isKeyChar_iff {c : Char} : isKeyChar c = true ↔ c ≠ '\x7d' := by
  simp only [isKeyChar, bne_iff_ne]

theorem after?_eq_some_iff {start cs rest : List Char} :
    after? start cs = some rest ↔ cs = start ++ rest := by
  induction start generalizing cs with
  | nil => simp [after?]
  | cons c start ih =>
    cases cs with
    | nil => simp [after?]
    | cons d cs =>
      by_cases h : c = d
      · simp [after?, h, ih]
      · simp [after?, h, Ne.symm h]

theorem takeWhile_stop {p : Char → Bool} {run : List Char} {stop : Char} (h : ∀ c ∈ run, p c = true)
    (hs : p stop = false) (rest : List Char) :
    (run ++ stop :: rest).takeWhile p = run ∧ (run ++ stop :: rest).dropWhile p = stop :: rest := by
  rw [List.takeWhile_append_of_pos h, List.dropWhile_append_of_pos h]
  simp [hs]

theorem of_mem_takeWhile (p : Char → Bool) (cs : List Char) : ∀ c ∈ cs.takeWhile p, p c = true :=
  List.all_eq_true.mp List.all_takeWhile

theorem dropEnd_solid (front : List Char) {last : Char} {blanks : List Char}
    (solid : isBlank last = false) (blank : ∀ c ∈ blanks, isBlank c = true) :
    dropEnd isBlank (front ++ [last] ++ blanks) = front ++ [last] := by
  have hb : ∀ c ∈ blanks.reverse, isBlank c = true := fun c hc => blank c (List.mem_reverse.mp hc)
  simp [dropEnd, List.dropWhile_append_of_pos hb, solid]

theorem dropEnd_blank {run : List Char} (blank : ∀ c ∈ run, isBlank c = true) :
    dropEnd isBlank run = [] := by
  have hb : ∀ c ∈ run.reverse, isBlank c = true := fun c hc => blank c (List.mem_reverse.mp hc)
  have nothing : (run.reverse ++ []).dropWhile isBlank = [] := List.dropWhile_append_of_pos hb
  simpa [dropEnd] using nothing

/-- A run ends with blanks behind a character that is none, or it is all blank. -/
theorem blank_or_solid (run : List Char) : (∀ c ∈ run, isBlank c = true) ∨
    ∃ front last blanks, run = front ++ [last] ++ blanks ∧ isBlank last = false ∧
      ∀ c ∈ blanks, isBlank c = true := by
  induction run with
  | nil => simp
  | cons c run ih =>
    rcases ih with all | ⟨front, last, blanks, rfl, solid, blank⟩
    · by_cases hc : isBlank c = true
      · left
        simpa [hc] using all
      · exact .inr ⟨[], c, run, rfl, by simpa using hc, all⟩
    · exact .inr ⟨c :: front, last, blanks, by simp, solid, blank⟩

/-- The key that is read is the one in the run. -/
theorem keyOf_iff {first : Char} {run key : List Char} :
    keyOf first (first :: run) = key ↔ KeyIn (first :: run) key := by
  have solid_key : ∀ {front : List Char} {last : Char} {blanks : List Char}, isBlank last = false →
      (∀ c ∈ blanks, isBlank c = true) → first :: run = front ++ [last] ++ blanks →
      keyOf first (first :: run) = front ++ [last] := by
    intro front last blanks solid blank whole
    rw [keyOf, whole, dropEnd_solid front solid blank]
    simp
  have blank_key : (∀ c ∈ first :: run, isBlank c = true) → keyOf first (first :: run) = [first] := by
    intro blank
    simp [keyOf, dropEnd_blank blank]
  constructor
  · rintro rfl
    rcases blank_or_solid (first :: run) with blank | ⟨front, last, blanks, whole, solid, blank⟩
    · rw [blank_key blank]
      exact .blank blank
    · rw [solid_key solid blank whole, whole]
      exact .trimmed solid blank
  · intro h
    generalize whole : first :: run = all at h
    cases h with
    | trimmed solid blank => rw [← whole]; exact solid_key solid blank whole
    | blank blank =>
      cases whole
      exact blank_key blank

theorem KeyIn.ne_nil {run key : List Char} (h : KeyIn run key) : run ≠ [] := by
  cases h <;> simp

/-- What is read behind the path of a placeholder. -/
theorem reference?_eq_some_iff {cs rest : List Char} {p : Placeholder} :
    reference? cs = some (p, rest) ↔
      ∃ run, p.node ≠ [] ∧ (∀ c ∈ p.node, isIdChar c = true) ∧ (∀ c ∈ run, isKeyChar c = true) ∧
        KeyIn run p.key ∧ cs = p.node ++ '.' :: (run ++ '\x7d' :: '\x7d' :: rest) := by
  constructor
  · intro h
    unfold reference? at h
    simp only at h
    split at h
    · cases h
    · next named =>
      split at h
      · next afterDot hdot =>
        split at h
        · next first run rest' hrun hrest =>
          cases h
          refine ⟨first :: run, by simpa using named, of_mem_takeWhile _ _, ?_,
            keyOf_iff.mp rfl, ?_⟩
          · rw [← hrun]
            exact of_mem_takeWhile _ _
          · rw [← hrun, ← hrest, List.takeWhile_append_dropWhile, ← hdot,
              List.takeWhile_append_dropWhile]
        · cases h
      · cases h
  · rintro ⟨run, named, name, open_, key, rfl⟩
    obtain ⟨node, key'⟩ := p
    obtain ⟨hn, hd⟩ := takeWhile_stop name (by decide : isIdChar '.' = false)
      (run ++ '\x7d' :: '\x7d' :: rest)
    obtain ⟨hr, hc⟩ := takeWhile_stop open_ (by decide : isKeyChar '\x7d' = false) ('\x7d' :: rest)
    cases run with
    | nil => exact absurd rfl key.ne_nil
    | cons first run =>
      simp only [reference?, hn, hd, hr, hc, keyOf_iff.mpr key]
      simpa using named

theorem spelling_append (blanks node run rest : List Char) :
    ['\x7b', '\x7b'] ++ blanks ++ "context.outputs.".toList ++ node ++ ['.'] ++ run ++
      ['\x7d', '\x7d'] ++ rest =
    opening ++ (blanks ++ (root ++ (node ++ '.' :: (run ++ '\x7d' :: '\x7d' :: rest)))) := by
  change opening ++ blanks ++ root ++ node ++ ['.'] ++ run ++ ['\x7d', '\x7d'] ++ rest = _
  simp only [List.append_assoc, List.cons_append, List.nil_append]

/-- Behind the opening braces, blanks and the path, the rest of a placeholder is read. -/
theorem read?_opened {blanks : List Char} (blank : ∀ c ∈ blanks, isBlank c = true) (tail : List Char) :
    read? (opening ++ (blanks ++ (root ++ tail))) = reference? tail := by
  have opened : after? opening (opening ++ (blanks ++ (root ++ tail))) = some (blanks ++ (root ++ tail)) :=
    after?_eq_some_iff.mpr rfl
  have unblanked : dropStart isBlank (blanks ++ (root ++ tail)) = root ++ tail := by
    have hroot : root = 'c' :: "ontext.outputs.".toList := by decide
    rw [hroot, List.cons_append]
    exact (takeWhile_stop blank (by decide) _).2
  have rooted : after? root (root ++ tail) = some tail := after?_eq_some_iff.mpr rfl
  simp only [read?, opened, unblanked, rooted]

/-- A placeholder is read off a text if and only if the text begins with one of its spellings. -/
theorem read?_eq_some_iff {cs rest : List Char} {p : Placeholder} :
    read? cs = some (p, rest) ↔ ∃ text, Spells p text ∧ cs = text ++ rest := by
  constructor
  · intro h
    unfold read? at h
    split at h
    · cases h
    · next afterOpening opened =>
      split at h
      · cases h
      · next afterRoot rooted =>
        obtain ⟨run, named, name, within, keyed, rfl⟩ := reference?_eq_some_iff.mp h
        rw [after?_eq_some_iff] at opened rooted
        have blank : ∀ c ∈ afterOpening.takeWhile isBlank, isBlank c = true :=
          of_mem_takeWhile _ _
        refine ⟨_, .spelt blank named (fun c hc => isIdChar_iff.mp (name c hc))
          (fun c hc => isKeyChar_iff.mp (within c hc)) keyed, ?_⟩
        rw [spelling_append, ← rooted, dropStart, List.takeWhile_append_dropWhile]
        exact opened
  · rintro ⟨text, spells, rfl⟩
    cases spells with
    | @spelt blanks node run key blank named name within keyed =>
      have referred : reference? (node ++ '.' :: (run ++ '\x7d' :: '\x7d' :: rest)) =
          some (⟨node, key⟩, rest) :=
        reference?_eq_some_iff.mpr ⟨run, named, fun c hc => isIdChar_iff.mpr (name c hc),
          fun c hc => isKeyChar_iff.mpr (within c hc), keyed, rfl⟩
      rw [spelling_append, read?_opened blank, referred]

theorem Spells.ne_nil {p : Placeholder} {text : List Char} (h : Spells p text) : text ≠ [] := by
  cases h
  simp

/-- What a text begins with is spelt in one way. -/
theorem Spells.unique {p p' : Placeholder} {text text' rest rest' : List Char} (h : Spells p text)
    (h' : Spells p' text') (same : text ++ rest = text' ++ rest') : p' = p ∧ rest' = rest := by
  have found : read? (text ++ rest) = some (p, rest) := read?_eq_some_iff.mpr ⟨text, h, rfl⟩
  have found' : read? (text' ++ rest') = some (p', rest') := read?_eq_some_iff.mpr ⟨text', h', rfl⟩
  rw [← same, found] at found'
  cases found'
  exact ⟨rfl, rfl⟩

theorem begins_iff {cs : List Char} : Begins cs ↔ ∃ found, read? cs = some found := by
  constructor
  · rintro ⟨p, text, rest, spells, whole⟩
    exact ⟨(p, rest), read?_eq_some_iff.mpr ⟨text, spells, whole⟩⟩
  · rintro ⟨⟨p, rest⟩, found⟩
    obtain ⟨text, spells, whole⟩ := read?_eq_some_iff.mp found
    exact ⟨p, text, rest, spells, whole⟩

theorem not_begins_iff {cs : List Char} : ¬Begins cs ↔ read? cs = none := by
  rw [begins_iff, Option.eq_none_iff_forall_ne_some]
  simp

theorem not_begins_nil : ¬Begins [] := by
  rintro ⟨p, text, rest, spells, whole⟩
  exact spells.ne_nil (List.append_eq_nil_iff.mp whole.symm).1

/-- What begins a text begins the text with more behind it. -/
theorem Begins.append {cs : List Char} (h : Begins cs) (more : List Char) : Begins (cs ++ more) := by
  obtain ⟨p, text, rest, spells, rfl⟩ := h
  exact ⟨p, text, rest ++ more, spells, List.append_assoc ..⟩

end Placeholder

open Placeholder (Spells Begins Occurs read? read?_eq_some_iff not_begins_iff not_begins_nil)

/-- A placeholder in a text, and what stands between it and the one before. -/
structure Hole where
  before : List Char
  reference : Placeholder

/-- How a text is cut: each placeholder is at the leftmost place behind the one before where any begins,
and behind the last none does. -/
inductive Cut : List Char → List Hole → List Char → Prop
  | plain {cs} (none : ∀ a b, cs = a ++ b → ¬Begins b) : Cut cs [] cs
  | hole {cs before text rest p holes last} (whole : cs = before ++ text ++ rest) (spells : Spells p text)
      (leftmost : ∀ a b, cs = a ++ b → a.length < before.length → ¬Begins b)
      (behind : Cut rest holes last) : Cut cs (⟨before, p⟩ :: holes) last

/-- The text with values in the place of its placeholders. The first value that there is not is the
failure of the whole. -/
def weave (value : Placeholder → Except Failure (List Char)) :
    List Hole → List Char → Except Failure (List Char)
  | [], last => .ok last
  | hole :: holes, last =>
    match value hole.reference with
    | .error e => .error e
    | .ok inserted => (weave value holes last).map fun tail => hole.before ++ inserted ++ tail

namespace Cut

variable {cs last : List Char} {holes : List Hole}

/-- A placeholder that is the leftmost of a text is the one that is read there. -/
theorem leftmost_unique {before before' text text' rest rest' : List Char} {p p' : Placeholder}
    (whole : cs = before ++ text ++ rest) (spells : Spells p text)
    (leftmost : ∀ a b, cs = a ++ b → a.length < before.length → ¬Begins b)
    (whole' : cs = before' ++ text' ++ rest') (spells' : Spells p' text')
    (leftmost' : ∀ a b, cs = a ++ b → a.length < before'.length → ¬Begins b) :
    before' = before ∧ p' = p ∧ rest' = rest := by
  rw [List.append_assoc] at whole whole'
  have notBefore : ¬before.length < before'.length := fun h =>
    leftmost' before _ whole h ⟨p, text, rest, spells, rfl⟩
  have notBehind : ¬before'.length < before.length := fun h =>
    leftmost before' _ whole' h ⟨p', text', rest', spells', rfl⟩
  obtain ⟨rfl, same⟩ := List.append_inj (whole.symm.trans whole') (by omega)
  exact ⟨rfl, spells.unique spells' same⟩

/-- A text is cut in one way only. -/
theorem unique (h : Cut cs holes last) {holes' : List Hole} {last' : List Char}
    (h' : Cut cs holes' last') : holes' = holes ∧ last' = last := by
  induction h generalizing holes' last' with
  | plain none =>
    cases h' with
    | plain => exact ⟨rfl, rfl⟩
    | hole whole spells =>
      rw [List.append_assoc] at whole
      exact absurd ⟨_, _, _, spells, rfl⟩ (none _ _ whole)
  | hole whole spells leftmost behind ih =>
    cases h' with
    | plain none =>
      rw [List.append_assoc] at whole
      exact absurd ⟨_, _, _, spells, rfl⟩ (none _ _ whole)
    | hole whole' spells' leftmost' behind' =>
      obtain ⟨rfl, rfl, rfl⟩ := leftmost_unique whole spells leftmost whole' spells' leftmost'
      obtain ⟨rfl, rfl⟩ := ih behind'
      exact ⟨rfl, rfl⟩

/-- No placeholder occurs between the placeholders of a text or behind them. -/
theorem not_occurs (h : Cut cs holes last) :
    (∀ hole ∈ holes, ¬Occurs hole.before) ∧ ¬Occurs last := by
  induction h with
  | plain none =>
    refine ⟨by simp, ?_⟩
    rintro ⟨a, b, whole, begins⟩
    exact none a b whole begins
  | @hole cs before text rest p holes last whole spells leftmost behind ih =>
    refine ⟨?_, ih.2⟩
    intro hole there
    rcases List.mem_cons.mp there with rfl | there
    · rintro ⟨a, b, split, begins⟩
      have nonempty : b ≠ [] := by
        rintro rfl
        exact not_begins_nil begins
      have shorter : a.length < before.length := by
        have := List.length_pos_iff.mpr nonempty
        simp only at split
        simp [split]
        omega
      refine leftmost a (b ++ (text ++ rest)) ?_ shorter (begins.append _)
      simp only at split
      simp [whole, split]
    · exact ih.1 hole there

/-- A character in front at which no placeholder begins stands before the first placeholder. -/
theorem cons {c : Char} (none : ¬Begins (c :: cs)) (h : Cut cs holes last) :
    (∃ before p rest, holes = ⟨before, p⟩ :: rest ∧ Cut (c :: cs) (⟨c :: before, p⟩ :: rest) last) ∨
      holes = [] ∧ Cut (c :: cs) [] (c :: last) := by
  have further : ∀ {n : Nat} {a b : List Char}, c :: cs = a ++ b → a.length < n + 1 →
      (∀ a b, cs = a ++ b → a.length < n → ¬Begins b) → ¬Begins b := by
    intro n a b whole short before
    cases a with
    | nil => rwa [← (by simpa using whole : c :: cs = b)]
    | cons d a =>
      simp only [List.cons_append, List.cons.injEq] at whole
      exact before a b whole.2 (by simpa using short)
  cases h with
  | plain nowhere =>
    refine .inr ⟨rfl, .plain ?_⟩
    intro a b whole
    exact further whole (Nat.lt_succ_self _) fun a b whole _ => nowhere a b whole
  | hole whole spells leftmost behind =>
    refine .inl ⟨_, _, _, rfl, .hole (by rw [whole]; rfl) spells ?_ behind⟩
    intro a b whole short
    exact further whole (by simpa using short) leftmost

end Cut

theorem pieces_of_read {c : Char} {cs after : List Char} {p : Placeholder}
    (found : read? (c :: cs) = some (p, after)) : pieces (c :: cs) = .hole p :: pieces after := by
  rw [pieces]
  split
  · next found' =>
    rw [found] at found'
    cases found'
    rfl
  · next missing =>
    rw [found] at missing
    cases missing

theorem pieces_of_not_begins {c : Char} {cs : List Char} (none : ¬Begins (c :: cs)) :
    pieces (c :: cs) = .char c :: pieces cs := by
  rw [pieces]
  split
  · next found =>
    rw [not_begins_iff.mp none] at found
    cases found
  · rfl

theorem fill_char (value : Placeholder → Except Failure (List Char)) (c : Char) (ps : List Piece) :
    fill value (.char c :: ps) = (fill value ps).map (c :: ·) := by
  rw [fill]
  cases fill value ps <;> rfl

theorem weave_cons (value : Placeholder → Except Failure (List Char)) (c : Char) (before : List Char)
    (p : Placeholder) (holes : List Hole) (last : List Char) :
    weave value (⟨c :: before, p⟩ :: holes) last =
      (weave value (⟨before, p⟩ :: holes) last).map (c :: ·) := by
  simp only [weave]
  cases value p with
  | error e => rfl
  | ok inserted => cases weave value holes last <;> rfl

/-- Every text can be cut, and its pieces are filled as the cut is woven. -/
theorem exists_cut (cs : List Char) :
    ∃ holes last, Cut cs holes last ∧ ∀ value, fill value (pieces cs) = weave value holes last := by
  induction cs using pieces.induct with
  | case1 =>
    refine ⟨[], [], .plain ?_, fun value => by simp [pieces, fill, weave]⟩
    intro a b whole
    rw [(List.append_eq_nil_iff.mp whole.symm).2]
    exact not_begins_nil
  | case2 c cs p after found ih =>
    obtain ⟨holes, last, cut, filled⟩ := ih
    obtain ⟨text, spells, whole⟩ := read?_eq_some_iff.mp found
    refine ⟨⟨[], p⟩ :: holes, last, .hole whole spells (by simp) cut, ?_⟩
    intro value
    rw [pieces_of_read found, fill, filled, weave]
    cases value p with
    | error e => rfl
    | ok inserted => cases weave value holes last <;> rfl
  | case3 c cs missing ih =>
    obtain ⟨holes, last, cut, filled⟩ := ih
    have none : ¬Begins (c :: cs) := not_begins_iff.mpr missing
    rcases cut.cons none with ⟨before, p, rest, rfl, cut'⟩ | ⟨rfl, cut'⟩
    · refine ⟨_, _, cut', fun value => ?_⟩
      rw [pieces_of_not_begins none, fill_char, filled, weave_cons]
    · refine ⟨_, _, cut', fun value => ?_⟩
      rw [pieces_of_not_begins none, fill_char, filled]
      rfl

/-- What a placeholder stands for: the text of the entry that it refers to, and nothing where the node
has no mapping for its output or the mapping has no such key. -/
inductive StandsFor (outputs : Outputs) (room : Nat) (p : Placeholder) : Except Failure (List Char) → Prop
  | entry {fields value} (mapping : outputs.get? (String.ofList p.node) = some (.dict fields))
      (there : Fields.get? fields (String.ofList p.key) = some value) :
      StandsFor outputs room p ((value.inserted room).map String.toList)
  | keyless {fields} (mapping : outputs.get? (String.ofList p.node) = some (.dict fields))
      (missing : Fields.get? fields (String.ofList p.key) = none) : StandsFor outputs room p (.ok [])
  | unmapped (unmapped : ∀ fields, outputs.get? (String.ofList p.node) ≠ some (.dict fields)) :
      StandsFor outputs room p (.ok [])

theorem inserted_standsFor (outputs : Outputs) (room : Nat) (p : Placeholder) :
    StandsFor outputs room p (outputs.inserted room p) := by
  have nothing : Value.inserted room .null = .ok "" := rfl
  by_cases mapped : ∃ fields, outputs.get? (String.ofList p.node) = some (.dict fields)
  · obtain ⟨fields, mapping⟩ := mapped
    cases there : Fields.get? fields (String.ofList p.key) with
    | none =>
      simp only [Outputs.inserted, Outputs.lookup, mapping, there, Option.getD_none, nothing]
      exact .keyless mapping there
    | some value =>
      have same : outputs.inserted room p = (value.inserted room).map String.toList := by
        simp only [Outputs.inserted, Outputs.lookup, mapping, there, Option.getD_some]
        cases value.inserted room <;> rfl
      rw [same]
      exact .entry mapping there
  · have unmapped : ∀ fields, outputs.get? (String.ofList p.node) ≠ some (.dict fields) :=
      fun fields mapping => mapped ⟨fields, mapping⟩
    have null : outputs.lookup (String.ofList p.node) (String.ofList p.key) = .null := by
      unfold Outputs.lookup
      split
      · next fields mapping => exact absurd mapping (unmapped fields)
      · rfl
    simp only [Outputs.inserted, null, nothing]
    exact .unmapped unmapped

/-- Substitution in a text, whatever the text and the outputs: the text is cut at its placeholders, which
can be done in one way only, and neither between them nor behind the last does a placeholder occur. In
the place of each stands what it refers to, as it is, and the rest of the text is kept; if one of these
values cannot be written, the first that cannot is the failure of the whole. -/
theorem resolve_replaces_placeholders (outputs : Outputs) (room : Nat) (s : String) :
    ∃ holes last, Cut s.toList holes last ∧
      (∀ holes' last', Cut s.toList holes' last' → holes' = holes ∧ last' = last) ∧
      (∀ hole ∈ holes, ¬Occurs hole.before) ∧ ¬Occurs last ∧
      (∀ p, StandsFor outputs room p (outputs.inserted room p)) ∧
      outputs.resolve room (.str s) =
        (weave (outputs.inserted room) holes last).map fun cs => .str (String.ofList cs) := by
  obtain ⟨holes, last, cut, filled⟩ := exists_cut s.toList
  refine ⟨holes, last, cut, fun _ _ => cut.unique, cut.not_occurs.1, cut.not_occurs.2,
    inserted_standsFor outputs room, ?_⟩
  rw [Outputs.resolve, Outputs.resolveText, filled]
  cases weave (outputs.inserted room) holes last <;> rfl

end Automation
