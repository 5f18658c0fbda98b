import Automation.Number.Numeral
import Automation.Proofs.Trimming

/-!
How numerals are spelled: a sign, digits with a point, a power of ten, and blanks around it all. A text of
this form is read as a double, and never as one of the values that have names instead of digits; but an
information separator among its blanks, which is no white space of numerals, keeps it from being read.
-/
namespace Automation.Number

open Text

/-- An optional sign. -/
inductive SpellsSign : List Char → Prop
  | none : SpellsSign []
  | plus : SpellsSign ['+']
  | minus : SpellsSign ['-']

/-- Some digits, of any script. -/
structure SpellsDigits (cs : List Char) : Prop where
  some : cs ≠ []
  digits : ∀ c ∈ cs, isDigit c = true

/-- Digits, or a point with digits on one side at least. -/
inductive SpellsMantissa : List Char → Prop
  | whole {ds} (digits : SpellsDigits ds) : SpellsMantissa ds
  | pointed {ds fs} (digits : SpellsDigits ds) (fraction : ∀ c ∈ fs, isDigit c = true) :
      SpellsMantissa (ds ++ '.' :: fs)
  | fraction {fs} (digits : SpellsDigits fs) : SpellsMantissa ('.' :: fs)

/-- An optional power of ten. -/
inductive SpellsPower : List Char → Prop
  | none : SpellsPower []
  | some {mark sign ds} (marked : mark = 'e' ∨ mark = 'E') (signed : SpellsSign sign)
      (digits : SpellsDigits ds) : SpellsPower (mark :: (sign ++ ds))

/-- The form of a numeral. -/
inductive SpellsNumeral : List Char → Prop
  | parts {sign mantissa power} (signed : SpellsSign sign) (digits : SpellsMantissa mantissa)
      (scaled : SpellsPower power) : SpellsNumeral (sign ++ (mantissa ++ power))

/-- A text that is a numeral with blanks around it. -/
inductive IsNumeral : List Char → Prop
  | padded {front cs back} (before : ∀ c ∈ front, isBlank c = true) (behind : ∀ c ∈ back, isBlank c = true)
      (spelt : SpellsNumeral cs) : IsNumeral (front ++ cs ++ back)

/-- The characters that numerals are made of. -/
def IsNumeralChar (c : Char) : Prop := isDigit c = true ∨ c ∈ ['+', '-', '.', 'e', 'E']

section Characters

theorem isDigit_cases {c : Char} (h : isDigit c = true) : ∃ z ∈ zeros, ∃ k < 10, c.toNat = z + k := by
  rw [isDigit, digitValue?, Option.isSome_map, List.find?_isSome] at h
  obtain ⟨z, there, within⟩ := h
  simp only [Bool.and_eq_true, decide_eq_true_eq] at within
  exact ⟨z, there, c.toNat - z, by omega, by omega⟩

/-- No digit of any script is a blank. -/
theorem not_isBlank_of_isDigit {c : Char} (h : isDigit c = true) : isBlank c = false := by
  obtain ⟨z, there, k, small, is⟩ := isDigit_cases h
  have apart : ∀ z ∈ zeros, ∀ k < 10, (let n := z + k
      (9 ≤ n && n ≤ 13) || (0x1C ≤ n && n ≤ 0x20) || n == 0x85 || n == 0xA0 || n == 0x1680 ||
        (0x2000 ≤ n && n ≤ 0x200A) || n == 0x2028 || n == 0x2029 || n == 0x202F || n == 0x205F ||
        n == 0x3000) = false := by decide +kernel
  rw [isBlank, is]
  exact apart z there k small

/-- The letters of the Latin alphabet stand apart from the digits of all scripts. -/
theorem not_letter_of_isDigit {c : Char} (h : isDigit c = true) : ¬(65 ≤ c.toNat ∧ c.toNat ≤ 122) := by
  obtain ⟨z, there, k, small, is⟩ := isDigit_cases h
  have apart : ∀ z ∈ zeros, ∀ k < 10, ¬(65 ≤ z + k ∧ z + k ≤ 122) := by decide +kernel
  rw [is]
  exact apart z there k small

theorem IsNumeralChar.not_isBlank {c : Char} (h : IsNumeralChar c) : isBlank c = false := by
  rcases h with digit | other
  · exact not_isBlank_of_isDigit digit
  · simp only [List.mem_cons, List.not_mem_nil, or_false] at other
    rcases other with rfl | rfl | rfl | rfl | rfl <;> rfl

theorem isBlank_of_isSeparator {c : Char} (h : isSeparator c = true) : isBlank c = true := by
  simp only [isSeparator, isBlank, Bool.and_eq_true, Bool.or_eq_true, decide_eq_true_eq] at h ⊢
  omega

theorem not_isNumeralChar_underscore : ¬IsNumeralChar '_' := by
  rintro (digit | other)
  · exact absurd digit (by decide)
  · exact absurd other (by decide)

theorem SpellsSign.chars {cs : List Char} (h : SpellsSign cs) : ∀ c ∈ cs, IsNumeralChar c := by
  intro c there
  cases h with
  | none => cases there
  | plus => exact .inr (by simp_all)
  | minus => exact .inr (by simp_all)

theorem SpellsDigits.chars {cs : List Char} (h : SpellsDigits cs) : ∀ c ∈ cs, IsNumeralChar c :=
  fun c there => .inl (h.digits c there)

theorem SpellsMantissa.chars {cs : List Char} (h : SpellsMantissa cs) : ∀ c ∈ cs, IsNumeralChar c := by
  intro c there
  cases h with
  | whole digits => exact digits.chars c there
  | pointed digits fraction =>
    rcases List.mem_append.mp there with inside | inside
    · exact digits.chars c inside
    · rcases List.mem_cons.mp inside with rfl | inside
      · exact .inr (by decide)
      · exact .inl (fraction c inside)
  | fraction digits =>
    rcases List.mem_cons.mp there with rfl | inside
    · exact .inr (by decide)
    · exact digits.chars c inside

theorem SpellsPower.chars {cs : List Char} (h : SpellsPower cs) : ∀ c ∈ cs, IsNumeralChar c := by
  intro c there
  cases h with
  | none => cases there
  | some marked signed digits =>
    rcases List.mem_cons.mp there with rfl | inside
    · rcases marked with rfl | rfl <;> exact .inr (by decide)
    · rcases List.mem_append.mp inside with inside | inside
      · exact signed.chars c inside
      · exact digits.chars c inside

theorem SpellsNumeral.chars {cs : List Char} (h : SpellsNumeral cs) : ∀ c ∈ cs, IsNumeralChar c := by
  intro c there
  obtain ⟨signed, digits, scaled⟩ := h
  simp only [List.mem_append] at there
  rcases there with inside | inside | inside
  · exact signed.chars c inside
  · exact digits.chars c inside
  · exact scaled.chars c inside

end Characters

section Reading

variable {sign mantissa power rest cs : List Char}

theorem takeDigits_eq (cs : List Char) : takeDigits cs =
    ((cs.takeWhile isDigit).map fun c => (digitValue? c).getD 0, cs.dropWhile isDigit) := by
  induction cs with
  | nil => rfl
  | cons c rest ih =>
    cases value : digitValue? c <;>
      simp [takeDigits, value, ih, isDigit]

/-- Digits are taken up to what is no digit. -/
theorem takeDigits_append {ds : List Char} (digits : ∀ c ∈ ds, isDigit c = true)
    (stop : ∀ c ∈ rest.head?, isDigit c = false) :
    ((takeDigits (ds ++ rest)).1 = [] ↔ ds = []) ∧ (takeDigits (ds ++ rest)).2 = rest := by
  have none : rest.takeWhile isDigit = [] ∧ rest.dropWhile isDigit = rest := by
    cases rest with
    | nil => exact ⟨rfl, rfl⟩
    | cons c rest => simp [stop c rfl]
  rw [takeDigits_eq, List.takeWhile_append_of_pos digits, List.dropWhile_append_of_pos digits, none.1,
    none.2]
  simp

theorem takeDigits_parts (cs : List Char) : ∃ ds, cs = ds ++ (takeDigits cs).2 ∧
    (∀ c ∈ ds, isDigit c = true) ∧ ((takeDigits cs).1 = [] ↔ ds = []) := by
  refine ⟨cs.takeWhile isDigit, ?_, fun c there => List.mem_takeWhile_imp there, ?_⟩
  · rw [takeDigits_eq, List.takeWhile_append_dropWhile]
  · rw [takeDigits_eq, List.map_eq_nil_iff]

theorem takeSign_parts (cs : List Char) : ∃ sign, SpellsSign sign ∧ cs = sign ++ (takeSign cs).2 := by
  unfold takeSign
  split
  · exact ⟨['-'], .minus, rfl⟩
  · exact ⟨['+'], .plus, rfl⟩
  · exact ⟨[], .none, rfl⟩

theorem takeSign_append (signed : SpellsSign sign) (unsigned : ∀ c ∈ rest.head?, c ≠ '-' ∧ c ≠ '+') :
    (takeSign (sign ++ rest)).2 = rest := by
  cases signed with
  | plus | minus => rfl
  | none =>
    rw [List.nil_append]
    unfold takeSign
    split
    · exact absurd rfl (unsigned _ rfl).1
    · exact absurd rfl (unsigned _ rfl).2
    · rfl

theorem SpellsMantissa.ne_nil (spelt : SpellsMantissa mantissa) : mantissa ≠ [] := by
  cases spelt with
  | whole digits => exact digits.some
  | pointed | fraction => simp

theorem SpellsMantissa.head (spelt : SpellsMantissa mantissa) (rest : List Char) :
    ∀ c ∈ (mantissa ++ rest).head?, isDigit c = true ∨ c = '.' := by
  have ofDigits : ∀ {ds : List Char} (rest : List Char), SpellsDigits ds →
      ∀ c ∈ (ds ++ rest).head?, isDigit c = true := by
    intro ds rest digits c first
    rw [List.head?_append_of_ne_nil _ digits.some] at first
    exact digits.digits c (List.mem_of_mem_head? first)
  intro c first
  cases spelt with
  | whole digits => exact .inl (ofDigits _ digits c first)
  | pointed digits fraction =>
    rw [List.append_assoc] at first
    exact .inl (ofDigits _ digits c first)
  | fraction digits =>
    cases first
    exact .inr rfl

theorem not_isDigit_of_head_power (scaled : SpellsPower power) :
    ∀ c ∈ power.head?, isDigit c = false ∧ c ≠ '.' := by
  intro c first
  cases scaled with
  | none => cases first
  | some marked =>
    cases first
    rcases marked with rfl | rfl <;> decide

/-- A power of ten is read just where there is one. -/
theorem exponent?_isSome_iff : (exponent? cs).isSome ↔ SpellsPower cs := by
  constructor
  · intro read
    unfold exponent? at read
    split at read
    · exact .none
    · next c rest =>
      split at read
      · next marked =>
        obtain ⟨sign, signed, is⟩ := takeSign_parts rest
        obtain ⟨ds, whole, digits, empty⟩ := takeDigits_parts (takeSign rest).2
        simp only at read
        split at read
        · next d ds' taken =>
          rw [taken] at whole empty
          rw [is, whole, List.append_nil]
          refine .some (by simpa using marked) signed ⟨fun none => ?_, digits⟩
          cases empty.mpr none
        · cases read
      · cases read
  · intro scaled
    cases scaled with
    | none => rfl
    | @some mark sign ds marked signed digits =>
      have body : (takeSign (sign ++ ds)).2 = ds := by
        refine takeSign_append signed fun c first => ?_
        have digit := digits.digits c (List.mem_of_mem_head? first)
        constructor <;> rintro rfl <;> exact absurd digit (by decide)
      have stop : ∀ c ∈ ([] : List Char).head?, isDigit c = false := by simp
      have taken := takeDigits_append digits.digits stop
      rw [List.append_nil] at taken
      have here : (mark == 'e' || mark == 'E') = true := by simpa using marked
      simp only [exponent?, here, if_true, body]
      obtain ⟨d, vs, is⟩ := List.exists_cons_of_ne_nil (mt taken.1.mp digits.some)
      rw [show takeDigits ds = (d :: vs, []) from Prod.ext is taken.2]
      rfl

/-- The digits of a numeral are read up to its power of ten. -/
theorem takeFraction_append (spelt : SpellsMantissa mantissa) (scaled : SpellsPower power) :
    let whole := takeDigits (mantissa ++ power)
    let fraction := takeFraction whole.2
    ¬(whole.1 = [] ∧ fraction.1 = []) ∧ fraction.2 = power := by
  have stop := not_isDigit_of_head_power scaled
  have pointStops : ∀ fs : List Char, ∀ c ∈ ('.' :: fs).head?, isDigit c = false := by
    intro fs c first
    cases first
    decide
  cases spelt with
  | whole digits =>
    obtain ⟨some, left⟩ := takeDigits_append digits.digits fun c first => (stop c first).1
    intro whole fraction
    have none : takeFraction power = ([], power) := by
      unfold takeFraction
      split
      · exact absurd rfl (stop _ rfl).2
      · rfl
    have : fraction = ([], power) := by rw [← none, ← left]
    rw [this]
    exact ⟨fun empty => digits.some (some.mp empty.1), rfl⟩
  | @pointed ds fs digits behind =>
    rw [List.append_assoc, List.cons_append]
    obtain ⟨some, left⟩ := takeDigits_append digits.digits (pointStops (fs ++ power))
    obtain ⟨-, left'⟩ := takeDigits_append behind fun c first => (stop c first).1
    refine ⟨fun empty => digits.some (some.mp empty.1), ?_⟩
    rw [left]
    exact left'
  | @fraction fs digits =>
    rw [List.cons_append]
    have nothing : ∀ c ∈ ([] : List Char), isDigit c = true := by simp
    obtain ⟨-, left⟩ := takeDigits_append nothing (pointStops (fs ++ power))
    obtain ⟨some, left'⟩ := takeDigits_append digits.digits fun c first => (stop c first).1
    rw [List.nil_append] at left
    refine ⟨fun empty => digits.some (some.mp ?_), ?_⟩
    · have none := empty.2
      rwa [left] at none
    · rw [left]
      exact left'

theorem takeFraction_parts (body : List Char)
    (some : ¬((takeDigits body).1 = [] ∧ (takeFraction (takeDigits body).2).1 = [])) :
    ∃ mantissa, SpellsMantissa mantissa ∧ body = mantissa ++ (takeFraction (takeDigits body).2).2 := by
  obtain ⟨ds, whole, digits, none⟩ := takeDigits_parts body
  rw [none] at some
  generalize (takeDigits body).2 = after at whole some
  unfold takeFraction at some ⊢
  split at some
  · next rest =>
    obtain ⟨fs, fraction, digits', none'⟩ := takeDigits_parts rest
    rw [none'] at some
    by_cases empty : ds = []
    · refine ⟨'.' :: fs, .fraction ⟨fun empty' => some ⟨empty, empty'⟩, digits'⟩, ?_⟩
      rw [whole, empty, List.cons_append, ← fraction]
      rfl
    · refine ⟨ds ++ '.' :: fs, .pointed ⟨empty, digits⟩ digits', ?_⟩
      rw [whole, List.append_assoc, List.cons_append, ← fraction]
  · exact ⟨ds, .whole ⟨fun empty => some ⟨empty, rfl⟩, digits⟩, whole⟩

/-- Behind the sign of a numeral comes a digit or a point. -/
theorem takeSign_of_mantissa (signed : SpellsSign sign) (digits : SpellsMantissa mantissa) (rest : List Char) :
    (takeSign (sign ++ (mantissa ++ rest))).2 = mantissa ++ rest := by
  refine takeSign_append signed fun c first => ?_
  rcases digits.head rest c first with digit | rfl
  · constructor <;> rintro rfl <;> exact absurd digit (by decide)
  · decide

/-- A text is read as a numeral just where it has the form of one. -/
theorem read?_isSome_iff : (Numeral.read? cs).isSome ↔ SpellsNumeral cs := by
  have sides : (Numeral.read? cs).isSome ↔
      ¬((takeDigits (takeSign cs).2).1 = [] ∧ (takeFraction (takeDigits (takeSign cs).2).2).1 = []) ∧
        (exponent? (takeFraction (takeDigits (takeSign cs).2).2).2).isSome := by
    simp only [Numeral.read?]
    split
    · next empty => simp_all
    · next some => simp_all
  rw [sides, exponent?_isSome_iff]
  constructor
  · rintro ⟨some, scaled⟩
    obtain ⟨sign, signed, is⟩ := takeSign_parts cs
    obtain ⟨mantissa, digits, whole⟩ := takeFraction_parts _ some
    rw [is, whole]
    exact .parts signed digits scaled
  · rintro ⟨signed, digits, scaled⟩
    rename_i sign mantissa power
    obtain ⟨some, left⟩ := takeFraction_append digits scaled
    rw [takeSign_of_mantissa signed digits, left]
    exact ⟨some, scaled⟩

end Reading

/-- The pattern of conditions accepts the numerals with blanks around them, and nothing else. -/
theorem isNumeric_iff {s : String} : isNumeric s = true ↔ IsNumeral s.toList := by
  rw [isNumeric, read?_isSome_iff]
  constructor
  · intro spelt
    obtain ⟨front, back, whole, before, behind, -, -⟩ := strip_parts isBlank s.toList
    rw [whole]
    exact .padded before behind spelt
  · intro numeral
    generalize s.toList = cs at numeral
    obtain ⟨before, behind, spelt⟩ := numeral
    have solid := fun c there => (spelt.chars c there).not_isBlank
    rw [strip_eq before behind (fun c first => solid c (List.mem_of_mem_head? first))
      fun c last => solid c (List.mem_of_getLast? last)]
    exact spelt

section Doubles

variable {cs ds : List Char} {c : Char}

/-- White space of numerals is stripped from between separators only. -/
theorem mem_strip_of_isSeparator (there : c ∈ cs) (separator : isSeparator c = true) :
    c ∈ strip isSpace cs := by
  obtain ⟨front, back, whole, before, behind, -, -⟩ := strip_parts isSpace cs
  have solid : isSpace c = false := by simp [isSpace, separator]
  rw [whole, List.mem_append, List.mem_append] at there
  rcases there with (inside | inside) | inside
  · exact absurd (before c inside) (by simp [solid])
  · exact inside
  · exact absurd (behind c inside) (by simp [solid])

/-- Without separators the white space of numerals is all that is blank. -/
theorem strip_isSpace_eq (none : ∀ c ∈ cs, isSeparator c = false) : strip isSpace cs = strip isBlank cs := by
  obtain ⟨front, back, whole, before, behind, first, last⟩ := strip_parts isSpace cs
  have blank : ∀ c, isSpace c = true → isBlank c = true := by
    intro c space
    simp only [isSpace, Bool.and_eq_true] at space
    exact space.1
  have solid : ∀ c ∈ strip isSpace cs, isSpace c = false → isBlank c = false := by
    intro c there noSpace
    have inside : c ∈ cs := by
      rw [whole]
      simp [there]
    simpa [isSpace, none c inside] using noSpace
  conv_rhs => rw [whole]
  exact (strip_eq (fun c there => blank c (before c there)) (fun c there => blank c (behind c there))
    (fun c there => solid c (List.mem_of_mem_head? there) (first c there))
    fun c there => solid c (List.mem_of_getLast? there) (last c there)).symm

theorem dropUnderscores_of_notMem (none : '_' ∉ cs) (afterDigit : Bool) :
    dropUnderscores afterDigit cs = some cs := by
  fun_induction dropUnderscores afterDigit cs with
  | case1 => rfl
  | case2 | case3 | case4 => simp at none
  | case5 _ c rest _ ih => simp [ih fun there => none (List.mem_cons_of_mem _ there)]

/-- Nothing but underscores is dropped. -/
theorem mem_of_dropUnderscores {afterDigit : Bool} (kept : dropUnderscores afterDigit cs = some ds)
    (there : c ∈ cs) (other : c ≠ '_') : c ∈ ds := by
  fun_induction dropUnderscores afterDigit cs generalizing ds with
  | case1 => cases there
  | case2 _ next behind ok ih =>
    rcases List.mem_cons.mp there with rfl | there
    · exact absurd rfl other
    · exact ih kept there
  | case3 | case4 => cases kept
  | case5 _ d rest _ ih =>
    obtain ⟨ds', rest_kept, rfl⟩ := Option.map_eq_some_iff.mp kept
    rcases List.mem_cons.mp there with rfl | there
    · exact List.mem_cons_self
    · exact List.mem_cons_of_mem _ (ih rest_kept there)

/-- The names of values without digits are made of letters. -/
theorem letters_of_namedRank? (named : namedRank? (String.ofList (cs.map Char.toLower)) ≠ none) :
    ∀ c ∈ cs, 65 ≤ c.toNat ∧ c.toNat ≤ 122 := by
  intro c there
  have small : c.toLower ∈ cs.map Char.toLower := List.mem_map_of_mem there
  have letters : ∀ d ∈ "inf".toList ++ "infinity".toList ++ "nan".toList, 97 ≤ d.toNat ∧ d.toNat ≤ 122 := by
    simp
  have lower : 97 ≤ c.toLower.toNat ∧ c.toLower.toNat ≤ 122 := by
    generalize cs.map Char.toLower = name at small named
    refine letters _ ?_
    have names : String.ofList name = "inf" ∨ String.ofList name = "infinity" ∨
        String.ofList name = "nan" := by
      by_contra other
      simp only [not_or] at other
      exact named (by simp [namedRank?, other])
    have is : ∀ {t : String}, String.ofList name = t → name = t.toList := by
      rintro t rfl
      rw [String.toList_ofList]
    rw [List.mem_append, List.mem_append]
    rcases names with h | h | h
    · exact .inl (.inl (is h ▸ small))
    · exact .inl (.inr (is h ▸ small))
    · exact .inr (is h ▸ small)
  unfold Char.toLower at lower
  split at lower
  · next upper =>
    have upTo : c.toNat ≤ 90 := upper.2
    exact ⟨upper.1, by omega⟩
  · omega

/-- A text with a separator is no double. -/
theorem readDouble?_of_isSeparator {s : String} (there : c ∈ s.toList) (separator : isSeparator c = true) :
    readDouble? s = none := by
  have low : c.toNat < 65 := by
    simp only [isSeparator, Bool.and_eq_true, decide_eq_true_eq] at separator
    omega
  have notChar : ¬IsNumeralChar c := fun char =>
    absurd (isBlank_of_isSeparator separator) (by simp [char.not_isBlank])
  have notUnderscore : c ≠ '_' := by
    rintro rfl
    exact absurd low (by decide)
  unfold readDouble?
  cases kept : dropUnderscores false (strip isSpace s.toList) with
  | none => rfl
  | some cs =>
    have inside : c ∈ cs :=
      mem_of_dropUnderscores kept (mem_strip_of_isSeparator there separator) notUnderscore
    obtain ⟨sign, signed, whole⟩ := takeSign_parts cs
    have inBody : c ∈ (takeSign cs).2 := by
      rw [whole, List.mem_append] at inside
      exact inside.resolve_left fun ofSign => notChar (signed.chars c ofSign)
    have unnamed : namedRank? (String.ofList ((takeSign cs).2.map Char.toLower)) = none := by
      by_contra named
      have := letters_of_namedRank? named c inBody
      omega
    have unread : Numeral.read? cs = none := by
      rw [← Option.not_isSome_iff_eq_none, read?_isSome_iff]
      exact fun spelt => notChar (spelt.chars c inside)
    simp only [Option.bind_eq_bind, Option.bind_some, unnamed, unread, Option.map_none]

/-- A numeral without a separator is read as the number that it denotes. -/
theorem readDouble?_of_isNumeral {s : String} (numeral : IsNumeral s.toList)
    (none : ∀ c ∈ s.toList, isSeparator c = false) :
    ∃ n : Numeral, Numeral.read? (strip isBlank s.toList) = some n ∧ readDouble? s = some n.toDouble := by
  have spelt := isNumeric_iff.mpr numeral
  rw [isNumeric] at spelt
  obtain ⟨n, read⟩ := Option.isSome_iff_exists.mp spelt
  have form := read?_isSome_iff.mp spelt
  refine ⟨n, read, ?_⟩
  rw [← strip_isSpace_eq none] at read form
  generalize core : strip isSpace s.toList = cs at read form
  have kept : dropUnderscores false cs = some cs :=
    dropUnderscores_of_notMem (fun there => not_isNumeralChar_underscore (form.chars _ there)) false
  have unnamed : namedRank? (String.ofList ((takeSign cs).2.map Char.toLower)) = Option.none := by
    by_contra named
    obtain ⟨signed, digits, -⟩ := form
    rename_i sign mantissa power
    rw [takeSign_of_mantissa signed digits] at named
    obtain ⟨c, rest, is⟩ := List.exists_cons_of_ne_nil digits.ne_nil
    have letter := letters_of_namedRank? named c (by simp [is])
    rcases digits.head power c (by simp [is]) with digit | rfl
    · exact not_letter_of_isDigit digit letter
    · exact absurd letter (by decide)
  rw [readDouble?, core]
  simp only [Option.bind_eq_bind, Option.bind_some, kept, unnamed, read, Option.map_some]

end Doubles

end Automation.Number
