import Automation.Proofs.Digits
import Automation.Proofs.Fields
import Automation.Value.Text

/-!
JSON that is written is read back. Text in quotes, integers, lists and mappings are read as what they
were written for, whatever stands behind them; so data without doubles comes back as it was, with the
order of lists and fields and every character.
-/
namespace Automation

open Number

/-- Data that JSON holds exactly: no doubles, no integer too long to be written, and no key twice in a
mapping. -/
inductive Value.Exact : Value → Prop
  | null : Exact .null
  | bool (b : Bool) : Exact (.bool b)
  | int {n : Int} (short : digitCount n ≤ maxDigits) : Exact (.int n)
  | str (s : String) : Exact (.str s)
  | list {items : List Value} (exact : ∀ v ∈ items, Exact v) : Exact (.list items)
  | dict {fields : Fields Value} (distinct : fields.keys.Nodup) (exact : ∀ p ∈ fields, Exact p.2) :
      Exact (.dict fields)

namespace Json

section Text

variable (start fuel : Nat) (done : List Char) (offset : Nat) {tail : List Char} {c : Char}

/-- The reader of a text goes on behind what it has read, with a character more. -/
def Advances (start fuel : Nat) (done : List Char) (r : Rest) (c : Char) (tail : List Char) : Prop :=
  ∃ offset, readString start (fuel + 1) done r = readString start fuel (c :: done) ⟨tail, offset⟩

theorem advances_short {letter : Char} (h : shortEscape? letter = some c) :
    Advances start fuel done ⟨'\\' :: letter :: tail, offset⟩ c tail := by
  have notUnit : letter ≠ 'u' := by
    rintro rfl
    cases h
  refine ⟨offset + 2, ?_⟩
  rw [readString]
  simp [h]

theorem advances_plain (notQuote : c ≠ '"') (notMark : c ≠ '\\') (h : 0x20 ≤ c.toNat) :
    Advances start fuel done ⟨c :: tail, offset⟩ c tail := by
  refine ⟨offset + 1, ?_⟩
  rw [readString]
  simp
  omega

/-- A unit that is no half of a character. -/
theorem advances_unit {n : Nat} (small : n < 0x10000) (whole : isHighHalf n = false)
    (behind : tail ≠ []) :
    Advances start fuel done ⟨unit n ++ tail, offset⟩ (unitChar n) tail := by
  obtain ⟨e, after, rfl⟩ := List.exists_cons_of_ne_nil behind
  have read : unit? _ = some n := unit?_hexDigits small
  refine ⟨offset + 6, ?_⟩
  rw [readString]
  rw [hexDigits_four] at read
  simp only [unit, hexDigits_four, List.cons_append, List.nil_append, read, whole]
  rfl

/-- The two halves of a character. -/
theorem advances_halves {high low : Nat} (isHigh : isHighHalf high = true) (isLow : isLowHalf low = true)
    (small : high < 0x10000) (small' : low < 0x10000) (behind : tail ≠ []) :
    Advances start fuel done ⟨unit high ++ unit low ++ tail, offset⟩ (joinHalves high low) tail := by
  obtain ⟨e, after, rfl⟩ := List.exists_cons_of_ne_nil behind
  have read : unit? _ = some high := unit?_hexDigits small
  have read' : unit? _ = some low := unit?_hexDigits small'
  refine ⟨offset + 12, ?_⟩
  rw [readString]
  rw [hexDigits_four] at read read'
  simp only [unit, hexDigits_four, List.cons_append, List.nil_append, read, isHigh, secondHalf, read',
    isLow, if_true]
  rfl

/-- What is written for a character is read as the character. -/
theorem advances_stringChar (c : Char) (behind : tail ≠ []) :
    Advances start fuel done ⟨stringChar c ++ tail, offset⟩ c tail := by
  have same : ∀ {n : Nat}, c.toNat = n → Char.ofNat n = c := by
    rintro n rfl
    exact Char.ofNat_toNat c
  unfold stringChar
  iterate 5
    split
    · next h => exact advances_short start fuel done offset (by rw [beq_iff_eq.mp h]; rfl)
  iterate 2
    split
    · next h => exact advances_short start fuel done offset (by rw [← same h]; rfl)
  split
  · next notQuote notMark _ _ _ _ _ plain =>
    simp only [beq_iff_eq, Bool.and_eq_true, decide_eq_true_eq] at notQuote notMark plain
    exact advances_plain start fuel done offset notQuote notMark plain.1
  · unfold escape
    simp only
    split
    · next small =>
      have advances := advances_unit start fuel done offset small (not_half c).1 behind
      rwa [unitChar_toNat] at advances
    · next large =>
      obtain ⟨isHigh, isLow, small, small', joined⟩ := joinHalves_halves (Nat.le_of_not_lt large)
      have advances := advances_halves start fuel done offset isHigh isLow small small' behind
      rwa [joined] at advances

/-- Text in quotes is read as the text. -/
theorem readString_stringChars (cs : List Char) (rest : List Char) (enough : cs.length < fuel) :
    ∃ after, readString start fuel done ⟨cs.flatMap stringChar ++ '"' :: rest, offset⟩ =
      .ok (String.ofList (done.reverse ++ cs), ⟨rest, after⟩) := by
  induction cs generalizing fuel done offset with
  | nil =>
    obtain ⟨fuel, rfl⟩ := Nat.exists_eq_add_one_of_ne_zero (by omega : fuel ≠ 0)
    exact ⟨offset + 1, by simp [readString]⟩
  | cons c cs ih =>
    obtain ⟨fuel, rfl⟩ := Nat.exists_eq_add_one_of_ne_zero (by omega : fuel ≠ 0)
    have behind : cs.flatMap stringChar ++ '"' :: rest ≠ [] := by simp
    obtain ⟨offset', step⟩ := advances_stringChar start fuel done offset c behind
    obtain ⟨after, read⟩ := ih fuel (c :: done) offset' (by simpa using enough)
    refine ⟨after, ?_⟩
    rw [List.flatMap_cons, List.append_assoc, step, read]
    simp

theorem escape_ne_nil (c : Char) : escape c ≠ [] := by
  unfold escape
  simp only
  split <;> simp [unit]

theorem stringChar_ne_nil (c : Char) : stringChar c ≠ [] := by
  unfold stringChar
  repeat' split
  all_goals simp [escape_ne_nil]

theorem length_le_flatMap (cs : List Char) : cs.length ≤ (cs.flatMap stringChar).length := by
  induction cs with
  | nil => simp
  | cons c cs ih =>
    have := List.length_pos_iff.mpr (stringChar_ne_nil c)
    rw [List.flatMap_cons, List.length_append, List.length_cons]
    omega

/-- A text that stands in quotes behind its opening quote. -/
theorem string_stringChars (s : String) (rest : List Char) :
    ∃ after, string ⟨s.toList.flatMap stringChar ++ '"' :: rest, offset⟩ = .ok (s, ⟨rest, after⟩) := by
  have enough : s.toList.length <
      (s.toList.flatMap stringChar ++ '"' :: rest).length + 1 := by
    have := length_le_flatMap s.toList
    simp only [List.length_append, List.length_cons]
    omega
  obtain ⟨after, read⟩ := readString_stringChars (offset - 1) _ [] offset s.toList rest enough
  refine ⟨after, ?_⟩
  rw [string, read]
  simp

end Text

/-- A text with which no number goes on. -/
def Stops (rest : List Char) : Prop :=
  ∀ c tail, rest = c :: tail → Text.isAsciiDigit c = false ∧ c ≠ '.' ∧ c ≠ 'e' ∧ c ≠ 'E'

section Numbers

variable {rest : List Char} {offset : Nat}

theorem takeAsciiDigits_append {cs : List Char} (digits : ∀ c ∈ cs, Text.isAsciiDigit c = true)
    (stops : Stops rest) : takeAsciiDigits (cs ++ rest) = (values cs, rest) := by
  induction cs with
  | nil =>
    cases rest with
    | nil => rfl
    | cons c tail => simp [takeAsciiDigits, (stops c tail rfl).1, values]
  | cons c cs ih =>
    have digit := digits c List.mem_cons_self
    have others := ih fun d hd => digits d (List.mem_cons_of_mem _ hd)
    simp [takeAsciiDigits, digit, others, values]

theorem takeWhole_digits (n : Nat) (stops : Stops rest) :
    takeWhole (digits n ++ rest) = (values (digits n), rest) := by
  have taken := takeAsciiDigits_append (isAsciiDigit_of_mem_digits n) stops
  cases hd : digits n with
  | nil => exact absurd hd (digits_ne_nil n)
  | cons c cs =>
    rw [hd] at taken
    by_cases zero : c = '0'
    · subst zero
      obtain rfl := eq_zero_of_digits hd
      rw [digits_of_lt (by decide : 0 < 10)] at hd
      obtain rfl : cs = [] := (List.cons.inj hd).2.symm
      rfl
    · rw [← taken]
      simp [takeWhole, zero]

theorem takePoint_stops (stops : Stops rest) : takePoint rest = (none, rest) := by
  cases rest with
  | nil => rfl
  | cons c tail =>
    have notPoint := (stops c tail rfl).2.1
    simp [takePoint, notPoint]

theorem takePower_stops (stops : Stops rest) : takePower rest = (none, rest) := by
  cases rest with
  | nil => rfl
  | cons c tail =>
    obtain ⟨-, -, notLower, notUpper⟩ := stops c tail rfl
    simp [takePower, notLower, notUpper]

theorem digits_cons (n : Nat) : ∃ c cs, digits n = c :: cs ∧ Text.isAsciiDigit c = true := by
  obtain ⟨c, cs, h⟩ := List.exists_cons_of_ne_nil (digits_ne_nil n)
  exact ⟨c, cs, h, isAsciiDigit_of_mem_digits n c (by rw [h]; exact List.mem_cons_self)⟩

theorem ne_of_isAsciiDigit {c d : Char} (digit : Text.isAsciiDigit c = true)
    (other : Text.isAsciiDigit d = false) : c ≠ d := by
  rintro rfl
  rw [digit] at other
  cases other

theorem integerDigits_cons (n : Int) :
    ∃ c cs, integerDigits n = c :: cs ∧ (c = '-' ∨ Text.isAsciiDigit c = true) := by
  obtain ⟨c, cs, front, digit⟩ := digits_cons n.natAbs
  rw [integerDigits, front]
  split
  · exact ⟨'-', _, rfl, .inl rfl⟩
  · exact ⟨c, cs, rfl, .inr digit⟩

/-- An integer is read as what it was written for. -/
theorem number_integerDigits (offset : Nat) {n : Int} (short : digitCount n ≤ maxDigits)
    (stops : Stops rest) : ∃ after,
    number ⟨integerDigits n ++ rest, offset⟩ = .ok (.int n, ⟨rest, after⟩) := by
  have whole := takeWhole_digits n.natAbs stops
  have value := valueFrom_values n.natAbs
  have few : (values (digits n.natAbs)).length ≤ maxDigits := by
    simpa [values, digitCount] using short
  obtain ⟨c, cs, front, digit⟩ := digits_cons n.natAbs
  obtain ⟨d, ds, valued⟩ : ∃ d ds, values (digits n.natAbs) = d :: ds := by
    rw [front]
    exact ⟨_, _, rfl⟩
  rw [valued] at whole value few
  have fewer : ds.length + 1 ≤ maxDigits := few
  refine ⟨offset + ((integerDigits n ++ rest).length - rest.length), ?_⟩
  unfold integerDigits
  split
  · next negative =>
    have signs : signed true n.natAbs = n := by
      simp only [signed, if_true]
      omega
    simp [number, whole, takePoint_stops stops, takePower_stops stops, value, signs]
    omega
  · next positive =>
    have signs : signed false n.natAbs = n := by
      simp only [signed, Bool.false_eq_true, if_false]
      omega
    have notMinus : c ≠ '-' := ne_of_isAsciiDigit digit (by decide)
    rw [front, List.cons_append] at whole
    simp [number, front, notMinus, whole, takePoint_stops stops, takePower_stops stops, value, signs]
    omega

end Numbers

section Scalars

variable {rest : List Char} {offset : Nat}

theorem startsWith_cons (c w : Char) (cs ws : List Char) :
    startsWith ⟨c :: cs, offset⟩ (w :: ws) = (w == c && startsWith ⟨cs, offset⟩ ws) := rfl

theorem startsWith_append (word : List Char) : startsWith ⟨word ++ rest, offset⟩ word = true := by
  simp [startsWith]

/-- The letters of the names that a document may hold. -/
theorem names : "null".toList = ['n', 'u', 'l', 'l'] ∧ "true".toList = ['t', 'r', 'u', 'e'] ∧
    "false".toList = ['f', 'a', 'l', 's', 'e'] ∧ "NaN".toList = ['N', 'a', 'N'] ∧
    "Infinity".toList = 'I' :: "nfinity".toList ∧ "-Infinity".toList = '-' :: 'I' :: "nfinity".toList := by
  decide

theorem scalar_null : scalar ⟨"null".toList ++ rest, offset⟩ = .ok (.null, ⟨rest, offset + 4⟩) := by
  rw [scalar, startsWith_append, if_pos rfl, names.1]
  rfl

theorem scalar_bool (b : Bool) : ∃ after,
    scalar ⟨(if b then "true" else "false").toList ++ rest, offset⟩ = .ok (.bool b, ⟨rest, after⟩) := by
  obtain ⟨null, true_, false_, -⟩ := names
  cases b with
  | true =>
    refine ⟨offset + 4, ?_⟩
    simp only [scalar, if_true, startsWith_append, null]
    simp only [true_, List.cons_append, startsWith_cons]
    rfl
  | false =>
    refine ⟨offset + 5, ?_⟩
    simp only [scalar, Bool.false_eq_true, if_false, startsWith_append, null, true_]
    simp only [false_, List.cons_append, startsWith_cons]
    rfl

/-- An integer is not taken for a name. -/
theorem scalar_integerDigits {n : Int} (short : digitCount n ≤ maxDigits) (stops : Stops rest) :
    ∃ after, scalar ⟨integerDigits n ++ rest, offset⟩ = .ok (.int n, ⟨rest, after⟩) := by
  obtain ⟨after, read⟩ := number_integerDigits offset short stops
  obtain ⟨c, cs, front, digit⟩ := digits_cons n.natAbs
  refine ⟨after, ?_⟩
  rw [← read]
  have other : ∀ d, Text.isAsciiDigit d = false → (d == c) = false := by
    intro d notDigit
    exact beq_eq_false_iff_ne.mpr (ne_of_isAsciiDigit digit notDigit).symm
  obtain ⟨null, true_, false_, nan, infinity, negative⟩ := names
  unfold integerDigits
  rw [front]
  split <;>
  simp only [scalar, null, true_, false_, nan, infinity, negative, List.cons_append, startsWith_cons,
    other 'n' (by decide), other 't' (by decide), other 'f' (by decide), other 'N' (by decide),
    other 'I' (by decide), other '-' (by decide), Bool.false_and, Bool.and_false, Bool.false_eq_true,
    if_false, Char.reduceBEq]

end Scalars

/-- Separators with which a document can be read: a comma and a colon, and blanks behind them. -/
structure Separators.Readable (sep : Separators) : Prop where
  item : ∃ blanks, sep.item = ',' :: blanks ∧ ∀ c ∈ blanks, isBlank c = true
  key : ∃ blanks, sep.key = ':' :: blanks ∧ ∀ c ∈ blanks, isBlank c = true

theorem compact_readable : compact.Readable := ⟨⟨[], rfl, by simp⟩, ⟨[], rfl, by simp⟩⟩

theorem spaced_readable : spaced.Readable :=
  ⟨⟨[' '], rfl, by simp [isBlank]⟩, ⟨[' '], rfl, by simp [isBlank]⟩⟩

section Containers

variable {sep : Separators} {rest : List Char} {offset : Nat}

/-- The blanks in front of what is none are skipped. -/
theorem skipBlanks_append {blanks : List Char} {c : Char} (blank : ∀ c ∈ blanks, isBlank c = true)
    (solid : isBlank c = false) (cs : List Char) :
    Rest.skipBlanks ⟨blanks ++ c :: cs, offset⟩ = ⟨c :: cs, offset + blanks.length⟩ := by
  have taken : (blanks ++ c :: cs).takeWhile isBlank = blanks := by
    rw [List.takeWhile_append_of_pos blank]
    simp [solid]
  simp [Rest.skipBlanks, taken]

theorem skipBlanks_cons {c : Char} (solid : isBlank c = false) (cs : List Char) :
    Rest.skipBlanks ⟨c :: cs, offset⟩ = ⟨c :: cs, offset⟩ :=
  skipBlanks_append (by simp : ∀ c ∈ ([] : List Char), isBlank c = true) solid cs

/-- A character that can be the first of a value. -/
def Opens (c : Char) : Prop := isBlank c = false ∧ c ≠ ']' ∧ c ≠ '\x7d' ∧ c ≠ '\uFEFF'

instance (c : Char) : Decidable (Opens c) := inferInstanceAs (Decidable (_ ∧ _))

theorem opens_digit {c : Char} (digit : Text.isAsciiDigit c = true) : Opens c := by
  refine ⟨?_, ne_of_isAsciiDigit digit (by decide), ne_of_isAsciiDigit digit (by decide),
    ne_of_isAsciiDigit digit (by decide)⟩
  simp [isBlank, ne_of_isAsciiDigit digit (d := ' ') (by decide),
    ne_of_isAsciiDigit digit (d := '\t') (by decide), ne_of_isAsciiDigit digit (d := '\n') (by decide),
    ne_of_isAsciiDigit digit (d := '\r') (by decide)]

theorem chars_opens (sep : Separators) {v : Value} (exact : v.Exact) :
    ∃ c cs, chars sep v = c :: cs ∧ Opens c := by
  cases exact with
  | null => exact ⟨'n', _, names.1, by decide⟩
  | bool b =>
    cases b with
    | true => exact ⟨'t', _, names.2.1, by decide⟩
    | false => exact ⟨'f', _, names.2.2.1, by decide⟩
  | @int n short =>
    obtain ⟨c, cs, front, minus | digit⟩ := integerDigits_cons n
    · exact ⟨c, cs, front, by rw [minus]; decide⟩
    · exact ⟨c, cs, front, opens_digit digit⟩
  | str s => exact ⟨'"', _, by rw [chars]; rfl, by decide⟩
  | list exact => exact ⟨'[', _, by rw [chars], by decide⟩
  | dict distinct exact => exact ⟨'\x7b', _, by rw [chars], by decide⟩

theorem stops_cons (c : Char) (tail : List Char)
    (h : Text.isAsciiDigit c = false ∧ c ≠ '.' ∧ c ≠ 'e' ∧ c ≠ 'E') : Stops (c :: tail) := by
  rintro c' tail' ⟨⟩
  exact h

/-- A value that is written is read back, whatever stands behind it. -/
def ReadsBack (sep : Separators) (v : Value) : Prop :=
  ∀ (fuel depth : Nat) (rest : List Char) (offset : Nat), v.depth ≤ depth →
    2 * (chars sep v).length ≤ fuel → Stops rest →
    ∃ after, value fuel depth ⟨chars sep v ++ rest, offset⟩ = .ok (v, ⟨rest, after⟩)

/-- What begins with no quote and no bracket is a name or a number. -/
theorem readsBack_of_scalar {v : Value} {c : Char} {cs : List Char} (front : chars sep v = c :: cs)
    (scalar : c ≠ '"' ∧ c ≠ '[' ∧ c ≠ '\x7b')
    (reads : ∀ (rest : List Char) (offset : Nat), Stops rest →
      ∃ after, Json.scalar ⟨chars sep v ++ rest, offset⟩ = .ok (v, ⟨rest, after⟩)) :
    ReadsBack sep v := by
  intro fuel depth rest offset _ enough stops
  obtain ⟨after, read⟩ := reads rest offset stops
  rw [front] at read enough ⊢
  obtain ⟨fuel, rfl⟩ := Nat.exists_eq_add_one_of_ne_zero (by simp at enough; omega : fuel ≠ 0)
  refine ⟨after, ?_⟩
  rw [value, ← read]
  simp [scalar]

theorem readsBack_str (s : String) : ReadsBack sep (.str s) := by
  intro fuel depth rest offset _ enough _
  obtain ⟨fuel, rfl⟩ := Nat.exists_eq_add_one_of_ne_zero
    (by simp [chars, stringChars] at enough; omega : fuel ≠ 0)
  obtain ⟨after, read⟩ := string_stringChars (offset + 1) s rest
  refine ⟨after, ?_⟩
  rw [chars, stringChars, value]
  simp [read]
  rfl

theorem itemChars_opens {vs : List Value} (some : vs ≠ []) (exact : ∀ v ∈ vs, v.Exact) :
    ∃ c cs, itemChars sep vs = c :: cs ∧ Opens c := by
  obtain ⟨v, vs, rfl⟩ := List.exists_cons_of_ne_nil some
  obtain ⟨c, cs, front, opens⟩ := chars_opens sep (exact v List.mem_cons_self)
  exact ⟨c, _, by rw [itemChars, front, List.cons_append], opens⟩

/-- The items of a list, up to its closing bracket. -/
theorem items_itemChars (readable : sep.Readable) {vs : List Value} (some : vs ≠ [])
    (exact : ∀ v ∈ vs, v.Exact) (reads : ∀ v ∈ vs, ReadsBack sep v) (rest : List Char)
    (fuel depth offset : Nat) (done : List Value) (shallow : Value.depthOfItems vs ≤ depth)
    (enough : 2 * (itemChars sep vs).length + 1 ≤ fuel) :
    ∃ after, items fuel depth done ⟨itemChars sep vs ++ ']' :: rest, offset⟩ =
      .ok (.list (done.reverse ++ vs), ⟨rest, after⟩) := by
  induction vs generalizing fuel offset done with
  | nil => exact absurd rfl some
  | cons v vs ih =>
    obtain ⟨fuel, rfl⟩ := Nat.exists_eq_add_one_of_ne_zero (by omega : fuel ≠ 0)
    simp only [Value.depthOfItems, Nat.max_le] at shallow
    have first := reads v List.mem_cons_self fuel depth
    cases vs with
    | nil =>
      simp only [itemChars, List.isEmpty_nil, if_true, List.append_nil] at enough ⊢
      obtain ⟨after, read⟩ := first _ offset shallow.1 (by omega) (stops_cons ']' rest (by decide))
      refine ⟨after + 1, ?_⟩
      rw [items, read]
      simp [skipBlanks_cons (by decide : isBlank ']' = false)]
    | cons w vs =>
      obtain ⟨blanks, item, blank⟩ := readable.item
      have exact' : ∀ v ∈ w :: vs, v.Exact := fun v hv => exact v (List.mem_cons_of_mem _ hv)
      have reads' : ∀ v ∈ w :: vs, ReadsBack sep v := fun v hv => reads v (List.mem_cons_of_mem _ hv)
      obtain ⟨c, cs, front, solid, -⟩ := itemChars_opens (by simp) exact'
      rw [itemChars, List.isEmpty_cons, if_neg (by simp), item] at enough ⊢
      simp only [List.length_append, List.length_cons, List.append_assoc, List.cons_append] at enough ⊢
      obtain ⟨after, read⟩ := first _ offset shallow.1 (by omega) (stops_cons ',' _ (by decide))
      obtain ⟨after', others⟩ := ih (by simp) exact' reads' fuel (after + 1 + blanks.length) (v :: done)
        shallow.2 (by omega)
      refine ⟨after', ?_⟩
      rw [front, List.cons_append] at others ⊢
      rw [items, read]
      simp only [skipBlanks_cons (by decide : isBlank ',' = false)]
      rw [skipBlanks_append blank solid, others]
      simp

theorem fieldChars_cons (sep : Separators) (p : String × Value) (ps : Fields Value) :
    ∃ cs, fieldChars sep (p :: ps) = '"' :: cs := by
  rw [fieldChars, stringChars, List.cons_append, List.cons_append, List.cons_append]
  exact ⟨_, rfl⟩

/-- One field is read, and the mark behind it decides how the mapping goes on. -/
theorem fields_field (readable : sep.Readable) (key : String) {v : Value} (exact : v.Exact)
    (reads : ReadsBack sep v) (fuel depth offset : Nat) (done : List (String × Value)) (mark : Char)
    (tail : List Char) (shallow : v.depth ≤ depth) (enough : 2 * (chars sep v).length ≤ fuel)
    (ends : mark = '\x7d' ∨ mark = ',') :
    let field := stringChars key ++ (sep.key ++ (chars sep v ++ mark :: tail))
    ∃ after, (mark = '\x7d' → fields (fuel + 1) depth done ⟨field, offset⟩ =
        .ok (.dict (Fields.ofPairs ((key, v) :: done).reverse), ⟨tail, after + 1⟩)) ∧
      (mark = ',' → fields (fuel + 1) depth done ⟨field, offset⟩ =
        fields fuel depth ((key, v) :: done) (Rest.mk tail (after + 1)).skipBlanks) := by
  intro field
  obtain ⟨blanks, colon, blank⟩ := readable.key
  obtain ⟨c, cs, front, solid, -⟩ := chars_opens sep exact
  have stops : Stops (mark :: tail) := by
    rcases ends with rfl | rfl <;> exact stops_cons _ tail (by decide)
  have notBlank : isBlank mark = false := by
    rcases ends with rfl | rfl <;> decide
  obtain ⟨before, keyed⟩ := string_stringChars (offset + 1) key
    (':' :: (blanks ++ (chars sep v ++ mark :: tail)))
  obtain ⟨after, read⟩ := reads fuel depth (mark :: tail) (before + 1 + blanks.length) shallow enough stops
  have whole : field = '"' :: (key.toList.flatMap stringChar ++
      '"' :: ':' :: (blanks ++ (chars sep v ++ mark :: tail))) := by
    simp only [field, stringChars, colon, List.append_assoc, List.cons_append, List.nil_append]
  rw [front, List.cons_append] at keyed read whole
  refine ⟨after, ?_, ?_⟩ <;> rintro rfl <;> rw [whole, fields] <;>
    simp only [keyed, skipBlanks_cons (by decide : isBlank ':' = false), skipBlanks_append blank solid,
      read, skipBlanks_cons notBlank]

/-- The fields of a mapping, up to its closing brace. -/
theorem fields_fieldChars (readable : sep.Readable) {ps : Fields Value} (some : ps ≠ [])
    (exact : ∀ p ∈ ps, p.2.Exact) (reads : ∀ p ∈ ps, ReadsBack sep p.2) (rest : List Char)
    (fuel depth offset : Nat) (done : List (String × Value))
    (shallow : Value.depthOfFields ps ≤ depth) (enough : 2 * (fieldChars sep ps).length + 1 ≤ fuel) :
    ∃ after, fields fuel depth done ⟨fieldChars sep ps ++ '\x7d' :: rest, offset⟩ =
      .ok (.dict (Fields.ofPairs (done.reverse ++ ps)), ⟨rest, after⟩) := by
  induction ps generalizing fuel offset done with
  | nil => exact absurd rfl some
  | cons p ps ih =>
    obtain ⟨key, v⟩ := p
    obtain ⟨fuel, rfl⟩ := Nat.exists_eq_add_one_of_ne_zero (by omega : fuel ≠ 0)
    simp only [Value.depthOfFields, Nat.max_le] at shallow
    have held : v.Exact := exact (key, v) List.mem_cons_self
    have back : ReadsBack sep v := reads (key, v) List.mem_cons_self
    have first := fields_field readable key held back fuel depth offset done
    cases ps with
    | nil =>
      simp only [fieldChars, List.isEmpty_nil, if_true, List.append_nil, List.length_append,
        List.append_assoc] at enough ⊢
      obtain ⟨after, read, -⟩ := first '\x7d' rest shallow.1 (by omega) (.inl rfl)
      exact ⟨after + 1, by rw [read rfl, List.reverse_cons]⟩
    | cons q ps =>
      obtain ⟨blanks, item, blank⟩ := readable.item
      obtain ⟨cs, front⟩ := fieldChars_cons sep q ps
      rw [fieldChars, List.isEmpty_cons, if_neg (by simp), item] at enough ⊢
      simp only [List.length_append, List.length_cons, List.append_assoc, List.cons_append] at enough ⊢
      obtain ⟨after, -, read⟩ := first ',' _ shallow.1 (by omega) (.inr rfl)
      obtain ⟨after', others⟩ := ih (by simp) (fun p hp => exact p (List.mem_cons_of_mem _ hp))
        (fun p hp => reads p (List.mem_cons_of_mem _ hp)) fuel (after + 1 + blanks.length)
        ((key, v) :: done) shallow.2 (by omega)
      refine ⟨after', ?_⟩
      rw [front, List.cons_append] at others ⊢
      rw [read rfl, skipBlanks_append blank (by decide : isBlank '"' = false), others, List.reverse_cons,
        List.append_assoc, List.singleton_append]

theorem readsBack_list (readable : sep.Readable) {vs : List Value}
    (exact : ∀ v ∈ vs, v.Exact) (reads : ∀ v ∈ vs, ReadsBack sep v) : ReadsBack sep (.list vs) := by
  intro fuel depth rest offset shallow enough _
  simp only [Value.depth] at shallow
  simp only [chars, List.length_cons, List.length_append, List.length_nil] at enough
  obtain ⟨fuel, rfl⟩ := Nat.exists_eq_add_one_of_ne_zero (by omega : fuel ≠ 0)
  obtain ⟨depth, rfl⟩ := Nat.exists_eq_add_one_of_ne_zero (by omega : depth ≠ 0)
  by_cases some : vs = []
  · subst some
    refine ⟨offset + 1 + 1, ?_⟩
    rw [chars, itemChars, value]
    simp [skipBlanks_cons (by decide : isBlank ']' = false)]
  · obtain ⟨after, read⟩ := items_itemChars readable some exact reads rest fuel depth (offset + 1) []
      (Nat.le_of_succ_le_succ shallow) (by omega)
    obtain ⟨c, cs, front, solid, notEnd, -⟩ := itemChars_opens some exact
    refine ⟨after, ?_⟩
    rw [chars, value]
    simp only [List.cons_append, List.append_assoc, List.nil_append]
    rw [front, List.cons_append] at read ⊢
    simp [skipBlanks_cons solid, notEnd, read]

theorem readsBack_dict (readable : sep.Readable) {ps : Fields Value} (distinct : ps.keys.Nodup)
    (exact : ∀ p ∈ ps, p.2.Exact) (reads : ∀ p ∈ ps, ReadsBack sep p.2) : ReadsBack sep (.dict ps) := by
  intro fuel depth rest offset shallow enough _
  simp only [Value.depth] at shallow
  simp only [chars, List.length_cons, List.length_append, List.length_nil] at enough
  obtain ⟨fuel, rfl⟩ := Nat.exists_eq_add_one_of_ne_zero (by omega : fuel ≠ 0)
  obtain ⟨depth, rfl⟩ := Nat.exists_eq_add_one_of_ne_zero (by omega : depth ≠ 0)
  cases ps with
  | nil =>
    refine ⟨offset + 1 + 1, ?_⟩
    rw [chars, fieldChars, value]
    simp [skipBlanks_cons (by decide : isBlank '\x7d' = false)]
  | cons p ps =>
    obtain ⟨after, read⟩ := fields_fieldChars readable (by simp) exact reads rest fuel depth
      (offset + 1) [] (Nat.le_of_succ_le_succ shallow) (by omega)
    obtain ⟨cs, front⟩ := fieldChars_cons sep p ps
    refine ⟨after, ?_⟩
    rw [List.reverse_nil, List.nil_append, Fields.ofPairs_of_nodup distinct] at read
    rw [chars, value]
    simp only [List.cons_append, List.append_assoc, List.nil_append]
    rw [front, List.cons_append] at read ⊢
    simp [skipBlanks_cons (by decide : isBlank '"' = false), read]

/-- Whatever JSON holds exactly is read back. -/
theorem readsBack (readable : sep.Readable) {v : Value} (exact : v.Exact) : ReadsBack sep v := by
  induction exact with
  | null =>
    refine readsBack_of_scalar names.1 (by decide) fun _ _ _ => ?_
    rw [chars]
    exact ⟨_, scalar_null⟩
  | bool b =>
    have reads : ∀ rest offset, Stops rest → ∃ after,
        scalar ⟨chars sep (.bool b) ++ rest, offset⟩ = .ok (.bool b, ⟨rest, after⟩) := by
      intro rest offset _
      rw [chars]
      exact scalar_bool b
    cases b with
    | true => exact readsBack_of_scalar names.2.1 (by decide) reads
    | false => exact readsBack_of_scalar names.2.2.1 (by decide) reads
  | @int n short =>
    obtain ⟨c, cs, front, first⟩ := integerDigits_cons n
    have other : ∀ d, Text.isAsciiDigit d = false → d ≠ '-' → c ≠ d := by
      intro d notDigit notMinus
      rcases first with rfl | digit
      · exact notMinus.symm
      · exact ne_of_isAsciiDigit digit notDigit
    refine readsBack_of_scalar front ⟨other _ (by decide) (by decide), other _ (by decide) (by decide),
      other _ (by decide) (by decide)⟩ fun _ _ stops => ?_
    rw [chars]
    exact scalar_integerDigits short stops
  | str s => exact readsBack_str s
  | list exact ih => exact readsBack_list readable exact ih
  | dict distinct exact ih => exact readsBack_dict readable distinct exact ih

end Containers

/-- A document that is written is read back as the data that it was written for, where there is room for it. -/
theorem read_write {room : Nat} {sep : Separators} (readable : sep.Readable) {v : Value} (exact : v.Exact)
    (shallow : v.depth ≤ room) : read room (write sep v) = .ok v := by
  obtain ⟨c, cs, front, solid, -, -, notMark⟩ := chars_opens sep exact
  obtain ⟨after, read⟩ := readsBack readable exact (2 * (chars sep v).length + 2) room [] 0 shallow
    (by omega) (by simp [Stops])
  rw [Json.read, write, String.toList_ofList]
  rw [List.append_nil] at read
  rw [front] at read ⊢
  simp only [skipBlanks_cons solid]
  split
  · next h => exact absurd (List.cons.inj h).1 notMark
  · simp only [read]
    rfl

end Json

theorem Value.areWritable_iff {items : List Value} :
    areWritable items = true ↔ ∀ v ∈ items, v.isWritable = true := by
  induction items with
  | nil => simp [areWritable]
  | cons v rest ih => simp [areWritable, ih]

theorem Value.fieldsAreWritable_iff {fields : Fields Value} :
    fieldsAreWritable fields = true ↔ ∀ p ∈ fields, p.2.isWritable = true := by
  induction fields with
  | nil => simp [fieldsAreWritable]
  | cons p rest ih =>
    obtain ⟨k, v⟩ := p
    simp [fieldsAreWritable, ih]

/-- Data that JSON holds exactly can be written. -/
theorem Value.Exact.isWritable {v : Value} (exact : v.Exact) : v.isWritable = true := by
  induction exact with
  | null | bool _ | str _ => rfl
  | int short => exact Number.isWritable_of_digitCount short
  | list exact ih => exact areWritable_iff.mpr ih
  | dict distinct exact ih => exact fieldsAreWritable_iff.mpr ih

end Automation
