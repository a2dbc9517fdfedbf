import QueryDepth.Document.Grammar

/-! Which way the lines of a text end makes no difference to the document that it holds. A line end
stands inside no token but a block string, whose lines it parts, so every part of the lexer comes to
the same, and leaves what it has not read with its line ends made alike. -/
namespace QueryDepth

theorem unifyLineEndsFrom_eq (done text : List Char) :
    unifyLineEndsFrom done text = done.reverse ++ unifyLineEnds text := by
  have collected : ∀ text earlier later, unifyLineEndsFrom (later ++ earlier) text =
      earlier.reverse ++ unifyLineEndsFrom later text := by
    intro text earlier later
    fun_induction unifyLineEndsFrom later text with
    | case1 later => simp [unifyLineEndsFrom]
    | case2 later rest ih => exact ih
    | case3 later c rest alone ih =>
      rw [unifyLineEndsFrom]
      · exact ih
      · exact alone
  exact collected text done []

@[simp] theorem unifyLineEnds_nil : unifyLineEnds [] = [] := rfl

@[simp] theorem unifyLineEnds_pair (rest : List Char) :
    unifyLineEnds ('\r' :: '\n' :: rest) = '\n' :: unifyLineEnds rest := by
  rw [unifyLineEnds, unifyLineEndsFrom, unifyLineEndsFrom_eq]
  rfl

theorem unifyLineEnds_cons {c : Char} {rest : List Char}
    (alone : ∀ others, c = '\r' → rest = '\n' :: others → False) :
    unifyLineEnds (c :: rest) = (if c = '\r' then '\n' else c) :: unifyLineEnds rest := by
  rw [unifyLineEnds, unifyLineEndsFrom, unifyLineEndsFrom_eq]
  · rfl
  · exact alone

theorem not_pair_of_plain {c : Char} (plain : isLineEnd c = false) {rest : List Char} :
    ∀ others, c = '\r' → rest = '\n' :: others → False := by
  rintro others rfl
  cases plain

@[simp] theorem unifyLineEnds_plain {c : Char} (plain : isLineEnd c = false) (rest : List Char) :
    unifyLineEnds (c :: rest) = c :: unifyLineEnds rest := by
  have returns : c ≠ '\r' := by
    rintro rfl
    cases plain
  rw [unifyLineEnds_cons (not_pair_of_plain plain), if_neg returns]

theorem eq_of_isLineEnd {c : Char} (ends : isLineEnd c = true) : c = '\n' ∨ c = '\r' := by
  rcases Bool.or_eq_true_iff.mp ends with feed | returns
  · exact .inl (eq_of_beq feed)
  · exact .inr (eq_of_beq returns)

theorem unifyLineEnds_end {c : Char} {rest : List Char} (ends : isLineEnd c = true)
    (alone : ∀ others, c = '\r' → rest = '\n' :: others → False) :
    unifyLineEnds (c :: rest) = '\n' :: unifyLineEnds rest := by
  rw [unifyLineEnds_cons alone]
  rcases eq_of_isLineEnd ends with rfl | rfl <;> rfl

/-- A text is empty, or its first line ends at once, or it begins with something else. -/
theorem front_cases (text : List Char) :
    text = [] ∨
    (∃ c others rest, isLineEnd c = true ∧ text = c :: others ∧
      unifyLineEnds text = '\n' :: unifyLineEnds rest) ∨
    ∃ c rest, isLineEnd c = false ∧ text = c :: rest ∧
      unifyLineEnds text = c :: unifyLineEnds rest := by
  rcases text with _ | ⟨c, rest⟩
  · exact .inl rfl
  · by_cases ends : isLineEnd c = true
    · refine .inr (.inl ?_)
      by_cases pair : ∃ others, c = '\r' ∧ rest = '\n' :: others
      · obtain ⟨others, rfl, rfl⟩ := pair
        exact ⟨_, _, others, ends, rfl, unifyLineEnds_pair others⟩
      · refine ⟨c, rest, rest, ends, rfl, unifyLineEnds_end ends ?_⟩
        intro others same begins
        exact pair ⟨others, same, begins⟩
    · have plain : isLineEnd c = false := by simpa using ends
      exact .inr (.inr ⟨c, rest, plain, rfl, unifyLineEnds_plain plain rest⟩)

/-- A text begins with a character that ends no line just if it does when its line ends are alike.
-/
theorem unifyLineEnds_eq_cons {c : Char} (plain : isLineEnd c = false) {text after : List Char} :
    unifyLineEnds text = c :: after ↔ ∃ rest, text = c :: rest ∧ unifyLineEnds rest = after := by
  constructor
  · intro begins
    rcases front_cases text with rfl | ⟨other, others, rest, ends, rfl, unified⟩ |
      ⟨other, rest, plain', rfl, unified⟩
    · cases begins
    · cases unified.symm.trans begins
      cases plain
    · cases unified.symm.trans begins
      exact ⟨rest, rfl, rfl⟩
  · rintro ⟨rest, rfl, rfl⟩
    exact unifyLineEnds_plain plain rest

theorem two_of_unifyLineEnds {first second : Char} (plain : isLineEnd first = false)
    (plainToo : isLineEnd second = false) {text after : List Char}
    (begins : unifyLineEnds text = first :: second :: after) :
    ∃ rest, text = first :: second :: rest ∧ unifyLineEnds rest = after := by
  obtain ⟨later, rfl, goesOn⟩ := (unifyLineEnds_eq_cons plain).mp begins
  obtain ⟨rest, rfl, unified⟩ := (unifyLineEnds_eq_cons plainToo).mp goesOn
  exact ⟨rest, rfl, unified⟩

/-- What is read up to a line end at most is the same. -/
theorem takeWhile_unifyLineEnds {wanted : Char → Bool}
    (stops : ∀ c, isLineEnd c = true → wanted c = false) (text : List Char) :
    (unifyLineEnds text).takeWhile wanted = text.takeWhile wanted := by
  induction text with
  | nil => rfl
  | cons c rest ih =>
    rcases front_cases (c :: rest) with nothing | ⟨c, others, after, ends, same, unified⟩ |
      ⟨c, after, plain, same, unified⟩
    · cases nothing
    · rw [unified, same]
      simp [stops c ends, stops '\n' rfl]
    · cases same
      rw [unified, List.takeWhile_cons, List.takeWhile_cons, ih]

theorem dropWhile_unifyLineEnds {wanted : Char → Bool}
    (stops : ∀ c, isLineEnd c = true → wanted c = false) (text : List Char) :
    (unifyLineEnds text).dropWhile wanted = unifyLineEnds (text.dropWhile wanted) := by
  induction text with
  | nil => rfl
  | cons c rest ih =>
    rcases front_cases (c :: rest) with nothing | ⟨c, others, after, ends, same, unified⟩ |
      ⟨c, after, plain, same, unified⟩
    · cases nothing
    · have kept : (c :: others).dropWhile wanted = c :: others := by simp [stops c ends]
      rw [same] at unified ⊢
      rw [kept, unified]
      simp [stops '\n' rfl]
    · cases same
      rw [unified, List.dropWhile_cons, List.dropWhile_cons, ih]
      split
      · rfl
      · rw [unified]

/-- No line ends within so many characters. -/
def Unbroken (count : Nat) (text : List Char) : Prop :=
  ∀ c ∈ text.take count, isLineEnd c = false

theorem Unbroken.drop {count : Nat} {text : List Char} (unbroken : Unbroken count text) :
    (unifyLineEnds text).drop count = unifyLineEnds (text.drop count) := by
  induction count generalizing text with
  | zero => rfl
  | succ count ih =>
    cases text with
    | nil => rfl
    | cons c rest =>
      have plain : isLineEnd c = false := unbroken c (by simp)
      rw [unifyLineEnds_plain plain, List.drop_succ_cons, List.drop_succ_cons]
      apply ih
      intro other listed
      exact unbroken other (by simp [listed])

theorem Unbroken.cons {count : Nat} {c : Char} {text : List Char} (plain : isLineEnd c = false)
    (unbroken : Unbroken count text) : Unbroken (count + 1) (c :: text) := by
  intro other listed
  rw [List.take_succ_cons] at listed
  rcases List.mem_cons.mp listed with rfl | later
  · exact plain
  · exact unbroken other later

theorem Unbroken.append {count further : Nat} {text : List Char} (unbroken : Unbroken count text)
    (onwards : Unbroken further (text.drop count)) : Unbroken (count + further) text := by
  intro c listed
  rw [List.take_add] at listed
  rcases List.mem_append.mp listed with early | late
  · exact unbroken c early
  · exact onwards c late

namespace Lexer

theorem hexDigit_of_lineEnd {c : Char} (ends : isLineEnd c = true) : hexDigit? c = none := by
  rcases eq_of_isLineEnd ends with rfl | rfl <;> rfl

theorem not_lineEnd_of_hexDigit {c : Char} {value : Nat} (digit : hexDigit? c = some value) :
    isLineEnd c = false := by
  cases ends : isLineEnd c with
  | false => rfl
  | true => cases (hexDigit_of_lineEnd ends).symm.trans digit

theorem unbroken_of_hexDigits {value count found : Nat} {text : List Char}
    (read : hexDigits? value count text = some found) : Unbroken count text := by
  fun_induction hexDigits? value count text with
  | case1 => simp [Unbroken]
  | case2 => cases read
  | case3 value count c rest digit reads ih =>
    exact .cons (not_lineEnd_of_hexDigit reads) (ih read)
  | case4 => cases read

theorem hexDigits_unifyLineEnds (value count : Nat) (text : List Char) :
    hexDigits? value count (unifyLineEnds text) = hexDigits? value count text := by
  induction count generalizing value text with
  | zero => simp [hexDigits?]
  | succ count ih =>
    rcases front_cases text with rfl | ⟨c, others, after, ends, rfl, unified⟩ |
      ⟨c, rest, plain, rfl, unified⟩
    · rfl
    · rw [unified]
      simp [hexDigits?, hexDigit_of_lineEnd ends, hexDigit_of_lineEnd (c := '\n') rfl]
    · rw [unified]
      simp only [hexDigits?, ih]

/-- What is left of a text after a lexeme, with its line ends made alike. -/
def Scanned.unified (found : Scanned) : Scanned :=
  { found with rest := unifyLineEnds found.rest }

/-- What is read of a number and what follows it, with the line ends made alike there. -/
def readUnified (read : List Char × List Char) : List Char × List Char :=
  (read.1, unifyLineEnds read.2)

theorem isDigit_of_lineEnd (c : Char) (ends : isLineEnd c = true) : c.isDigit = false := by
  rcases eq_of_isLineEnd ends with rfl | rfl <;> rfl

theorem digits_unifyLineEnds (place : Location) (text : List Char) :
    digits place (unifyLineEnds text) = (digits place text).map readUnified := by
  rcases front_cases text with rfl | ⟨c, others, after, ends, rfl, unified⟩ |
    ⟨c, rest, plain, rfl, unified⟩
  · rfl
  · rw [unified]
    simp [digits, isDigit_of_lineEnd c ends, Except.map]
  · have taken := takeWhile_unifyLineEnds isDigit_of_lineEnd (c :: rest)
    have dropped := dropWhile_unifyLineEnds isDigit_of_lineEnd (c :: rest)
    rw [unified] at taken dropped ⊢
    unfold digits
    by_cases digit : c.isDigit = true
    · simp only [digit, ↓reduceIte, taken, dropped]
      rfl
    · simp [digit, Except.map]

theorem wholePart_unifyLineEnds (place : Location) (text : List Char) :
    wholePart place (unifyLineEnds text) = (wholePart place text).map readUnified := by
  by_cases zero : ∃ rest, text = '0' :: rest
  · obtain ⟨rest, rfl⟩ := zero
    rw [unifyLineEnds_plain rfl]
    rcases front_cases rest with rfl | ⟨c, others, after, ends, rfl, unified⟩ |
      ⟨c, after, plain, rfl, unified⟩
    · rfl
    · simp only [wholePart, unified]
      simp [isDigit_of_lineEnd c ends, Except.map, readUnified, unified]
    · simp only [wholePart, unified]
      split <;> simp [Except.map, readUnified, unified]
  · have digitsOnly : ∀ text : List Char, (¬ ∃ rest, text = '0' :: rest) →
        wholePart place text = digits place text := by
      intro text other
      unfold wholePart
      split
      · exact absurd ⟨_, rfl⟩ other
      · rfl
    rw [digitsOnly text zero, ← digits_unifyLineEnds]
    apply digitsOnly
    rintro ⟨after, begins⟩
    obtain ⟨rest, same, -⟩ := (unifyLineEnds_eq_cons rfl).mp begins
    exact zero ⟨rest, same⟩

theorem fractionPart_unifyLineEnds (place : Location) (text : List Char) :
    fractionPart place (unifyLineEnds text) = (fractionPart place text).map readUnified := by
  by_cases point : ∃ rest, text = '.' :: rest
  · obtain ⟨rest, rfl⟩ := point
    rw [unifyLineEnds_plain rfl]
    simp only [fractionPart, digits_unifyLineEnds]
    cases digits (place.right 1) rest <;> rfl
  · have nothing : ∀ text : List Char, (¬ ∃ rest, text = '.' :: rest) →
        fractionPart place text = .ok ([], text) := by
      intro text other
      unfold fractionPart
      split
      · exact absurd ⟨_, rfl⟩ other
      · rfl
    rw [nothing text point, nothing]
    · rfl
    · rintro ⟨after, begins⟩
      obtain ⟨rest, same, -⟩ := (unifyLineEnds_eq_cons rfl).mp begins
      exact point ⟨rest, same⟩

theorem signPart_unifyLineEnds {signs : List Char} (plain : ∀ c ∈ signs, isLineEnd c = false)
    (text : List Char) :
    signPart signs (unifyLineEnds text) = readUnified (signPart signs text) := by
  have unsigned : ∀ c, isLineEnd c = true → signs.contains c = false := by
    intro c ends
    rw [List.contains_eq_mem, decide_eq_false_iff_not]
    intro listed
    cases (plain c listed).symm.trans ends
  rcases front_cases text with rfl | ⟨c, others, after, ends, rfl, unified⟩ |
    ⟨c, rest, plain, rfl, unified⟩
  · rfl
  · rw [unified]
    simp only [signPart, unsigned c ends, unsigned '\n' rfl, Bool.false_eq_true, ↓reduceIte,
      readUnified, unified]
  · rw [unified]
    simp only [signPart]
    split <;> simp [readUnified, unified]

theorem exponentPart_unifyLineEnds (place : Location) (text : List Char) :
    exponentPart place (unifyLineEnds text) = (exponentPart place text).map readUnified := by
  rcases front_cases text with rfl | ⟨c, others, after, ends, rfl, unified⟩ |
    ⟨mark, rest, plain, rfl, unified⟩
  · rfl
  · have unmarked : (c == 'e' || c == 'E') = false := by
      rcases eq_of_isLineEnd ends with rfl | rfl <;> rfl
    rw [unified]
    simp [exponentPart, unmarked, Except.map, readUnified, unified]
  · rw [unified]
    unfold exponentPart
    by_cases marks : (mark == 'e' || mark == 'E') = true
    · have signed : signPart ['+', '-'] (unifyLineEnds rest) =
          readUnified (signPart ['+', '-'] rest) := by
        apply signPart_unifyLineEnds
        simp [isLineEnd]
      simp only [marks, ↓reduceIte, signed, readUnified, digits_unifyLineEnds]
      cases digits (place.right (1 + (signPart ['+', '-'] rest).1.length))
        (signPart ['+', '-'] rest).2 <;> rfl
    · simp [marks, Except.map, readUnified, unified]

theorem runsOn_unifyLineEnds (text : List Char) : runsOn (unifyLineEnds text) = runsOn text := by
  rcases front_cases text with rfl | ⟨c, others, after, ends, rfl, unified⟩ |
    ⟨c, rest, plain, rfl, unified⟩
  · rfl
  · rw [unified]
    rcases eq_of_isLineEnd ends with rfl | rfl <;> rfl
  · rw [unified]
    rfl

theorem number_unifyLineEnds (place : Location) (text : List Char) :
    number place (unifyLineEnds text) = (number place text).map Scanned.unified := by
  have signed : signPart ['-'] (unifyLineEnds text) = readUnified (signPart ['-'] text) := by
    apply signPart_unifyLineEnds
    simp [isLineEnd]
  simp only [number, signed, readUnified, wholePart_unifyLineEnds]
  rcases wholePart (place.right (signPart ['-'] text).1.length) (signPart ['-'] text).2 with
    problem | whole
  · rfl
  · simp only [Except.map, bind, Except.bind, readUnified, fractionPart_unifyLineEnds]
    rcases fractionPart (place.right ((signPart ['-'] text).1 ++ whole.1).length) whole.2 with
      problem | fraction
    · rfl
    · simp only [Except.map, readUnified, exponentPart_unifyLineEnds]
      rcases exponentPart (place.right ((signPart ['-'] text).1 ++ whole.1 ++ fraction.1).length)
        fraction.2 with problem | exponent
      · rfl
      · simp only [runsOn_unifyLineEnds]
        split <;> rfl

theorem bracedEscape_unifyLineEnds (point size room : Nat) (text : List Char) :
    bracedEscape point size room (unifyLineEnds text) = bracedEscape point size room text := by
  induction room generalizing point size text with
  | zero => simp [bracedEscape]
  | succ room ih =>
    rcases front_cases text with rfl | ⟨c, others, after, ends, rfl, unified⟩ |
      ⟨c, rest, plain, rfl, unified⟩
    · rfl
    · have opened : c ≠ '\x7d' := by
        rintro rfl
        cases ends
      rw [unified]
      simp [bracedEscape, opened, hexDigit_of_lineEnd ends, hexDigit_of_lineEnd (c := '\n') rfl]
    · rw [unified]
      simp only [bracedEscape, ih]

theorem unbroken_of_bracedEscape {point size room found : Nat} {text : List Char} {denoted : Char}
    (read : bracedEscape point size room text = .ok (denoted, found)) :
    size ≤ found ∧ Unbroken (found - size) text := by
  fun_induction bracedEscape point size room text with
  | case1 => cases read
  | case2 => cases read
  | case3 => cases read
  | case4 point size room rest value =>
    cases read
    refine ⟨by omega, ?_⟩
    rw [Nat.add_sub_cancel_left]
    exact .cons rfl (by simp [Unbroken])
  | case5 => cases read
  | case6 point size room c rest closes digit reads ih =>
    obtain ⟨less, unbroken⟩ := ih read
    refine ⟨by omega, ?_⟩
    have more : found - size = found - (size + 1) + 1 := by omega
    rw [more]
    exact .cons (not_lineEnd_of_hexDigit reads) unbroken
  | case7 => cases read

/-- A surrogate pair goes on with another escape just if it does when line ends are alike. -/
theorem fixedEscape_unifyLineEnds (text : List Char) :
    fixedEscape (unifyLineEnds text) = fixedEscape text := by
  unfold fixedEscape
  rw [hexDigits_unifyLineEnds]
  cases read : hexDigits? 0 4 text with
  | none => rfl
  | some code =>
    dsimp only
    cases scalar? code with
    | some value => rfl
    | none =>
      dsimp only
      -- Half of a pair: it counts whether another escape follows directly.
      rw [(unbroken_of_hexDigits read).drop]
      by_cases second : ∃ trailing, text.drop 4 = '\\' :: 'u' :: trailing
      · obtain ⟨trailing, same⟩ := second
        rw [same, unifyLineEnds_plain rfl, unifyLineEnds_plain rfl]
        simp only [hexDigits_unifyLineEnds]
      · have other : ¬ ∃ trailing, unifyLineEnds (text.drop 4) = '\\' :: 'u' :: trailing := by
          rintro ⟨after, begins⟩
          obtain ⟨trailing, same, -⟩ := two_of_unifyLineEnds rfl rfl begins
          exact second ⟨trailing, same⟩
        split
        · rename_i trailing same
          exact absurd ⟨trailing, same⟩ other
        · split
          · rename_i trailing same
            exact absurd ⟨trailing, same⟩ second
          · rfl

theorem unbroken_of_fixedEscape {text : List Char} {denoted : Char} {size : Nat}
    (read : fixedEscape text = .ok (denoted, size)) : 2 ≤ size ∧ Unbroken (size - 2) text := by
  unfold fixedEscape at read
  cases first : hexDigits? 0 4 text with
  | none => simp [first] at read
  | some code =>
    have four := unbroken_of_hexDigits first
    simp only [first] at read
    split at read
    · cases read
      exact ⟨by decide, four⟩
    · split at read
      · rename_i trailing same
        split at read
        · rename_i low second
          have further : Unbroken (4 + 2) (text.drop 4) := by
            rw [same]
            exact .cons rfl (.cons rfl (unbroken_of_hexDigits second))
          split at read
          · split at read
            · cases read
              exact ⟨by decide, four.append further⟩
            · cases read
          · cases read
        · cases read
      · cases read

/-- An escape is read alike, and no line ends in it. -/
theorem escape_unifyLineEnds (text : List Char) : escape (unifyLineEnds text) = escape text := by
  rcases front_cases text with rfl | ⟨c, others, after, ends, rfl, unified⟩ |
    ⟨c, rest, plain, rfl, unified⟩
  · rfl
  · have refused : escape (c :: others) = .error .characterEscape := by
      rcases eq_of_isLineEnd ends with rfl | rfl <;> rfl
    rw [unified, refused]
    rfl
  · rw [unified]
    by_cases point : c = 'u'
    · subst point
      by_cases braced : ∃ inner, rest = '\x7b' :: inner
      · obtain ⟨inner, rfl⟩ := braced
        rw [unifyLineEnds_plain rfl]
        simp only [escape, bracedEscape_unifyLineEnds]
      · have fixed : ∀ rest : List Char, (¬ ∃ inner, rest = '\x7b' :: inner) →
            escape ('u' :: rest) = fixedEscape rest := by
          intro rest other
          unfold escape
          split
          · rename_i inner same
            cases same
            exact absurd ⟨_, rfl⟩ other
          all_goals simp_all
        rw [fixed rest braced, fixed, fixedEscape_unifyLineEnds]
        rintro ⟨after, begins⟩
        obtain ⟨inner, same, -⟩ := (unifyLineEnds_eq_cons rfl).mp begins
        exact braced ⟨inner, same⟩
    · unfold escape
      split <;> simp_all

theorem unbroken_of_escape {text : List Char} {denoted : Char} {size : Nat}
    (read : escape text = .ok (denoted, size)) : Unbroken (size - 1) text := by
  have single : ∀ {c : Char} (rest : List Char), isLineEnd c = false → Unbroken 1 (c :: rest) :=
    fun rest plain => .cons plain (by simp [Unbroken])
  unfold escape at read
  split at read
  · rename_i rest
    split at read
    · rename_i found inner
      cases read
      obtain ⟨least, unbroken⟩ := unbroken_of_bracedEscape inner
      have more : size - 1 = size - 3 + 1 + 1 := by omega
      rw [more]
      exact .cons rfl (.cons rfl unbroken)
    · cases read
  · rename_i rest _
    obtain ⟨least, unbroken⟩ := unbroken_of_fixedEscape read
    have more : size - 1 = size - 2 + 1 := by omega
    rw [more]
    exact .cons rfl unbroken
  all_goals
    cases read
  all_goals exact single _ rfl

theorem stringBody_unifyLineEnds (place : Location) (value text : List Char) :
    stringBody place value (unifyLineEnds text) =
      (stringBody place value text).map Scanned.unified := by
  fun_induction stringBody place value text with
  | case1 place value => simp [stringBody, Except.map]
  | case2 place value rest =>
    rw [unifyLineEnds_plain rfl, stringBody, if_pos rfl]
    rfl
  | case3 place value c rest opens ends =>
    rcases front_cases (c :: rest) with nothing | ⟨c, others, after, ends, same, unified⟩ |
      ⟨c, after, plain, same, unified⟩
    · cases nothing
    · rw [unified, stringBody, if_neg (by decide), if_pos (by decide)]
      rfl
    · cases same
      cases plain.symm.trans ends
  | case4 place value rest complaint refused opens ends =>
    rw [unifyLineEnds_plain rfl, stringBody, if_neg (by decide), if_neg (by decide), if_pos rfl,
      escape_unifyLineEnds, refused]
    rfl
  | case5 place value rest denoted size read opens ends ih =>
    rw [unifyLineEnds_plain rfl, stringBody, if_neg (by decide), if_neg (by decide), if_pos rfl,
      escape_unifyLineEnds, read]
    dsimp only
    rw [(unbroken_of_escape read).drop, ih]
  | case6 place value c rest closes ends opens ih =>
    have plain : isLineEnd c = false := by simpa using ends
    rw [unifyLineEnds_plain plain, stringBody, if_neg closes, if_neg ends, if_neg opens, ih]

theorem blockBody_unifyLineEnds (place : Location) (line : List Char) (lines : List (List Char))
    (text : List Char) : blockBody place line lines (unifyLineEnds text) =
      (blockBody place line lines text).map Scanned.unified := by
  have feed : ∀ place line lines rest, blockBody place line lines ('\n' :: rest) =
      blockBody place.nextLine [] (line.reverse :: lines) rest := by
    intro place line lines rest
    simp [blockBody, isLineEnd]
  fun_induction blockBody place line lines text with
  | case1 place line lines rest value =>
    simp [unifyLineEnds_plain, isLineEnd, blockBody, Except.map, Scanned.unified, value]
  | case2 place line lines rest ih =>
    simp only [unifyLineEnds_plain (c := '\\') rfl, unifyLineEnds_plain (c := '\x22') rfl,
      blockBody, ih]
  | case3 place line lines rest ih => rw [unifyLineEnds_pair, feed, ih]
  | case4 place line lines c rest closes goesOn alone ends ih =>
    rw [unifyLineEnds_end ends alone, feed, ih]
  | case5 place line lines c rest closes goesOn alone ends ih =>
    have plain : isLineEnd c = false := by simpa using ends
    rw [unifyLineEnds_plain plain, blockBody, if_neg ends, ih]
    · rintro after rfl begins
      obtain ⟨others, rfl, -⟩ := two_of_unifyLineEnds rfl rfl begins
      exact closes others rfl rfl
    · rintro after rfl begins
      obtain ⟨second, rfl, ends⟩ := (unifyLineEnds_eq_cons rfl).mp begins
      obtain ⟨others, rfl, -⟩ := two_of_unifyLineEnds rfl rfl ends
      exact goesOn others rfl rfl
    · exact not_pair_of_plain plain
  | case6 => rfl

theorem lexeme_unifyLineEnds {c : Char} (plain : isLineEnd c = false) (place : Location)
    (rest : List Char) :
    lexeme place c (unifyLineEnds rest) = (lexeme place c rest).map Scanned.unified := by
  have named : ∀ c, isLineEnd c = true → isNameContinue c = false := by
    intro c ends
    rcases eq_of_isLineEnd ends with rfl | rfl <;> rfl
  unfold lexeme
  cases Punctuator.ofChar? c with
  | some mark => rfl
  | none =>
    dsimp only
    rw [takeWhile_unifyLineEnds named, dropWhile_unifyLineEnds named, ← unifyLineEnds_plain plain,
      number_unifyLineEnds]
    split
    · rfl
    · split
      · rfl
      · split
        -- Whether a block string begins goes by the next two quotes.
        · split
          · rename_i body begins
            obtain ⟨others, rfl, rfl⟩ := two_of_unifyLineEnds rfl rfl begins
            exact blockBody_unifyLineEnds _ _ _ others
          · rename_i single
            split
            · rename_i body
              refine (single (unifyLineEnds body) ?_).elim
              rw [unifyLineEnds_plain rfl, unifyLineEnds_plain rfl]
            · exact stringBody_unifyLineEnds _ _ rest
        · split
          · rfl
          · split
            · rename_i body begins _ _ _ _
              obtain ⟨others, rfl, rfl⟩ := two_of_unifyLineEnds rfl rfl begins
              rfl
            · rename_i single
              split
              · rename_i body _ _ _ _
                refine (single (unifyLineEnds body) rfl ?_).elim
                rw [unifyLineEnds_plain rfl, unifyLineEnds_plain rfl]
              · rfl

end Lexer

namespace Tokens

theorem scan_feed (place : Location) (done : List Token) (rest : List Char) :
    scan place done ('\n' :: rest) = scan place.nextLine done rest := by
  rw [scan, if_pos (by decide)]
  rintro after ⟨⟩

theorem scan_lexeme {c : Char} (plain : isLineEnd c = false) (meant : ¬ Lexer.isIgnored c = true)
    (spoken : c ≠ '#') (place : Location) (done : List Token) (rest : List Char) :
    scan place done (c :: rest) =
      match Lexer.lexeme place c rest with
      | .ok found => scan found.place (⟨found.lexeme, place⟩ :: done) found.rest
      | .error problem => ⟨done.reverse, some problem⟩ := by
  have goesOn : ¬ isLineEnd c = true := by simp [plain]
  rw [scan, if_neg goesOn, if_neg meant, if_neg spoken]
  · split
    · rename_i read
      rw [read]
    · rename_i refused
      rw [refused]
  · exact not_pair_of_plain plain

/-- The tokens of a text are those of the text with its line ends made alike, wherever reading
starts: each step reads the same and goes on with a text whose line ends are made alike in turn. -/
theorem scan_unifyLineEnds (place : Location) (done : List Token) (text : List Char) :
    scan place done (unifyLineEnds text) = scan place done text := by
  fun_induction scan place done text with
  | case1 place done => simp [scan]
  | case2 place done rest ih => rw [unifyLineEnds_pair, scan_feed, ih]
  | case3 place done c rest alone ends ih => rw [unifyLineEnds_end ends alone, scan_feed, ih]
  | case4 place done c rest alone ends ignored ih =>
    have plain : isLineEnd c = false := by simpa using ends
    rw [unifyLineEnds_plain plain, scan, if_neg ends, if_pos ignored, ih]
    exact not_pair_of_plain plain
  | case5 place done rest comment alone ends meant ih =>
    have within : ∀ c, isLineEnd c = true → (!isLineEnd c) = false := by
      intro c ends
      rw [ends]
      rfl
    rw [unifyLineEnds_plain rfl, scan, if_neg ends, if_neg meant, if_pos rfl,
      takeWhile_unifyLineEnds within, dropWhile_unifyLineEnds within, ih]
    exact not_pair_of_plain rfl
  | case6 place done c rest alone ends meant spoken found scanned ih =>
    have plain : isLineEnd c = false := by simpa using ends
    rw [unifyLineEnds_plain plain, scan_lexeme plain meant spoken,
      Lexer.lexeme_unifyLineEnds plain, scanned]
    exact ih
  | case7 place done c rest alone ends meant spoken problem scanned =>
    have plain : isLineEnd c = false := by simpa using ends
    rw [unifyLineEnds_plain plain, scan_lexeme plain meant spoken,
      Lexer.lexeme_unifyLineEnds plain, scanned]
    rfl

end Tokens

/-- Which way the lines of a text end makes no difference to the document that it holds. -/
theorem Document.parse_unifyLineEnds (text : String) :
    Document.parse (String.ofList (unifyLineEnds text.toList)) = Document.parse text := by
  simp only [Document.parse, Tokens.ofText, String.toList_ofList, Tokens.scan_unifyLineEnds]

end QueryDepth
