import QueryDepth.Document.SyntaxError

/-! From text to tokens. Lines may end in any of the three ways. Reading stops at the first thing
that is no token, and whoever asks for a token beyond that point gets the complaint. -/
namespace QueryDepth

namespace Lexer

/-- Characters that separate tokens on a line and mean nothing else. -/
def isIgnored (c : Char) : Bool := c == ' ' || c == '\t' || c == ',' || c == '\ufeff'

def isNameStart (c : Char) : Bool := c.isAlpha || c == '_'

def isNameContinue (c : Char) : Bool := c.isAlphanum || c == '_'

def hexDigit? (c : Char) : Option Nat :=
  if '0' ≤ c ∧ c ≤ '9' then some (c.toNat - '0'.toNat)
  else if 'A' ≤ c ∧ c ≤ 'F' then some (c.toNat - 'A'.toNat + 10)
  else if 'a' ≤ c ∧ c ≤ 'f' then some (c.toNat - 'a'.toNat + 10)
  else none

/-- The character of a code point. The halves of surrogate pairs are no characters. -/
def scalar? (code : Nat) : Option Char :=
  if h : code.isValidChar then some (Char.ofNatAux code h) else none

/-- A lexeme, the text after it, and the place where that text starts. -/
structure Scanned where
  lexeme : Lexeme
  rest : List Char
  place : Location

/-- One or more digits at a place, and what follows them. -/
def digits (place : Location) (text : List Char) : Except SyntaxError (List Char × List Char) :=
  match text with
  | [] => .error ⟨.digitExpected, place⟩
  | c :: _ =>
    if c.isDigit then .ok (text.takeWhile Char.isDigit, text.dropWhile Char.isDigit)
    else .error ⟨.digitExpected, place⟩

/-- The digits in front of the point. A zero stands alone. -/
def wholePart (place : Location) (text : List Char) :
    Except SyntaxError (List Char × List Char) :=
  match text with
  | '0' :: rest =>
    match rest with
    | c :: _ => if c.isDigit then .error ⟨.digitAfterZero c, place.right 1⟩ else .ok (['0'], rest)
    | [] => .ok (['0'], [])
  | _ => digits place text

/-- The point and the digits after it, if there is a point. -/
def fractionPart (place : Location) (text : List Char) :
    Except SyntaxError (List Char × List Char) :=
  match text with
  | '.' :: rest => do
    let (decimals, rest) ← digits (place.right 1) rest
    return ('.' :: decimals, rest)
  | _ => .ok ([], text)

/-- The sign at the front of a text, if it is one of those that may stand there. -/
def signPart (signs : List Char) : List Char → List Char × List Char
  | [] => ([], [])
  | c :: rest => if signs.contains c then ([c], rest) else ([], c :: rest)

/-- The exponent with its mark and sign, if there is one. -/
def exponentPart (place : Location) (text : List Char) :
    Except SyntaxError (List Char × List Char) :=
  match text with
  | [] => .ok ([], [])
  | mark :: rest =>
    if mark == 'e' || mark == 'E' then do
      let sign := signPart ['+', '-'] rest
      let (power, after) ← digits (place.right (1 + sign.1.length)) sign.2
      return (mark :: sign.1 ++ power, after)
    else .ok ([], text)

/-- Whether a number is followed by a character that may not follow it directly. -/
def runsOn (rest : List Char) : Bool := rest.head?.any fun c => c == '.' || isNameStart c

/-- A number. Neither a point nor a name may follow it directly. -/
def number (place : Location) (text : List Char) : Except SyntaxError Scanned := do
  let sign := signPart ['-'] text
  let whole ← wholePart (place.right sign.1.length) sign.2
  let integral := sign.1 ++ whole.1
  let fraction ← fractionPart (place.right integral.length) whole.2
  let decimal := integral ++ fraction.1
  let exponent ← exponentPart (place.right decimal.length) fraction.2
  let written := decimal ++ exponent.1
  let after := place.right written.length
  let shown := String.ofList written
  if runsOn exponent.2 then .error ⟨.digitExpected, after⟩
  else
    .ok ⟨if fraction.1.isEmpty && exponent.1.isEmpty then .int shown else .float shown,
      exponent.2, after⟩

/-- The value of so many hexadecimal digits at the front of a text, given that of the digits before
them. -/
def hexDigits? (value : Nat) : Nat → List Char → Option Nat
  | 0, _ => some value
  | _ + 1, [] => none
  | count + 1, c :: rest =>
    match hexDigit? c with
    | some digit => hexDigits? (value * 16 + digit) count rest
    | none => none

/-- The character of a braced escape, and how many characters write it. `point` and `size` count
what has been read, and `room` says how much there may be. A failure tells how far reading got. -/
def bracedEscape (point size : Nat) : (room : Nat) → List Char → Except Nat (Char × Nat)
  | 0, _ => .error size
  | _ + 1, [] => .error size
  | room + 1, c :: rest =>
    if c = '\x7d' then
      match scalar? point with
      | some value => if size < 4 then .error (size + 1) else .ok (value, size + 1)
      | none => .error (size + 1)
    else match hexDigit? c with
      | some digit => bracedEscape (point * 16 + digit) (size + 1) room rest
      | none => .error (size + 1)

/-- The character of an escape by four digits, or of a surrogate pair of two such escapes. The text
starts after the letter that opens the escape. -/
def fixedEscape (text : List Char) : Except Complaint (Char × Nat) :=
  match hexDigits? 0 4 text with
  | none => .error (.unicodeEscape 6)
  | some code =>
    match scalar? code with
    | some value => .ok (value, 6)
    | none =>
      match text.drop 4 with
      | '\\' :: 'u' :: trailing =>
        match hexDigits? 0 4 trailing with
        | some low =>
          if code < 0xDC00 ∧ 0xDC00 ≤ low ∧ low ≤ 0xDFFF then
            match scalar? (0x10000 + (code - 0xD800) * 0x400 + (low - 0xDC00)) with
            | some value => .ok (value, 12)
            | none => .error (.unicodeEscape 6)
          else .error (.unicodeEscape 6)
        | none => .error (.unicodeEscape 6)
      | _ => .error (.unicodeEscape 6)

/-- The character that an escape denotes and how many characters write it, the backslash included.
The text starts after the backslash. A braced escape has at most twelve characters in all. -/
def escape : List Char → Except Complaint (Char × Nat)
  | 'u' :: '\x7b' :: rest =>
    match bracedEscape 0 3 9 rest with
    | .ok found => .ok found
    | .error size => .error (.unicodeEscape size)
  | 'u' :: rest => fixedEscape rest
  | '\x22' :: _ => .ok ('\x22', 2)
  | '\\' :: _ => .ok ('\\', 2)
  | '/' :: _ => .ok ('/', 2)
  | 'b' :: _ => .ok ('\x08', 2)
  | 'f' :: _ => .ok ('\x0c', 2)
  | 'n' :: _ => .ok ('\n', 2)
  | 'r' :: _ => .ok ('\r', 2)
  | 't' :: _ => .ok ('\t', 2)
  | _ => .error .characterEscape

/-- The rest of a string whose opening quote has been read. It ends on the line it starts on. -/
def stringBody (place : Location) (value : List Char) (text : List Char) :
    Except SyntaxError Scanned :=
  match text with
  | [] => .error ⟨.unterminatedString, place⟩
  | c :: rest =>
    if c = '\x22' then .ok ⟨.string (String.ofList value.reverse), rest, place.right 1⟩
    else if isLineEnd c then .error ⟨.unterminatedString, place⟩
    else if c = '\\' then
      match escape rest with
      | .error complaint => .error ⟨complaint, place⟩
      | .ok (denoted, size) =>
        stringBody (place.right size) (denoted :: value) (rest.drop (size - 1))
    else stringBody (place.right 1) (c :: value) rest
termination_by text.length

def indentation (line : List Char) : Nat :=
  (line.takeWhile fun c => c == ' ' || c == '\t').length

def isBlankLine (line : List Char) : Bool := indentation line == line.length

/-- The lines of a block string without the indentation that all but the first share, and without
blank lines at either end. -/
def dedent (lines : List (List Char)) : List (List Char) :=
  let indents := ((lines.drop 1).filter fun line => !isBlankLine line).map indentation
  let common := indents.min?.getD 0
  let shifted := match lines with
    | [] => []
    | first :: others => first :: others.map (List.drop common)
  ((shifted.dropWhile isBlankLine).reverse.dropWhile isBlankLine).reverse

/-- The rest of a block string whose opening quotes have been read. `line` and `lines` hold what has
been read, latest first. -/
def blockBody (place : Location) (line : List Char) (lines : List (List Char)) :
    List Char → Except SyntaxError Scanned
  | '\x22' :: '\x22' :: '\x22' :: rest =>
    let value := ['\n'].intercalate (dedent (line.reverse :: lines).reverse)
    .ok ⟨.blockString (String.ofList value), rest, place.right 3⟩
  | '\\' :: '\x22' :: '\x22' :: '\x22' :: rest =>
    blockBody (place.right 4) ('\x22' :: '\x22' :: '\x22' :: line) lines rest
  | '\r' :: '\n' :: rest => blockBody place.nextLine [] (line.reverse :: lines) rest
  | c :: rest =>
    if isLineEnd c then blockBody place.nextLine [] (line.reverse :: lines) rest
    else blockBody (place.right 1) (c :: line) lines rest
  | [] => .error ⟨.unterminatedString, place⟩

/-- The lexeme at the front of a text that starts with `c`. -/
def lexeme (place : Location) (c : Char) (rest : List Char) : Except SyntaxError Scanned :=
  match Punctuator.ofChar? c with
  | some mark => .ok ⟨.punctuator mark, rest, place.right 1⟩
  | none =>
    if isNameStart c then
      let name := c :: rest.takeWhile isNameContinue
      .ok ⟨.name (String.ofList name), rest.dropWhile isNameContinue, place.right name.length⟩
    else if c.isDigit || c == '-' then number place (c :: rest)
    else if c = '\x22' then
      match rest with
      | '\x22' :: '\x22' :: body => blockBody (place.right 3) [] [] body
      | _ => stringBody (place.right 1) [] rest
    else if c = '\'' then .error ⟨.singleQuote, place⟩
    else
      match c, rest with
      | '.', '.' :: '.' :: rest => .ok ⟨.punctuator .ellipsis, rest, place.right 3⟩
      | _, _ => .error ⟨.character c, place⟩

private theorem digits_shorten {place : Location} {text found rest : List Char}
    (read : digits place text = .ok (found, rest)) : rest.length < text.length := by
  cases text with
  | nil => simp [digits] at read
  | cons c others =>
    simp only [digits] at read
    split at read
    next digit =>
      simp only [Except.ok.injEq, Prod.mk.injEq] at read
      rw [← read.2, List.dropWhile_cons_of_pos digit]
      exact Nat.lt_succ_of_le (List.dropWhile_suffix _).length_le
    next => cases read

private theorem whole_part_shortens {place : Location} {text found rest : List Char}
    (read : wholePart place text = .ok (found, rest)) : rest.length < text.length := by
  unfold wholePart at read
  split at read
  next zeros =>
    split at read
    · split at read
      · cases read
      · simp only [Except.ok.injEq, Prod.mk.injEq] at read
        simp [← read.2]
    · simp only [Except.ok.injEq, Prod.mk.injEq] at read
      simp [← read.2]
  next => exact digits_shorten read

private theorem fraction_part_shortens {place : Location} {text found rest : List Char}
    (read : fractionPart place text = .ok (found, rest)) : rest.length ≤ text.length := by
  unfold fractionPart at read
  split at read
  next decimals =>
    cases inner : digits (place.right 1) decimals with
    | error problem => simp [inner, bind, Except.bind] at read
    | ok pair =>
      obtain ⟨found', rest'⟩ := pair
      simp only [inner, bind, Except.bind, pure, Except.pure, Except.ok.injEq,
        Prod.mk.injEq] at read
      have := digits_shorten inner
      simp [← read.2]
      omega
  next =>
    simp only [Except.ok.injEq, Prod.mk.injEq] at read
    simp [read.2]

private theorem sign_part_shortens (signs text : List Char) :
    (signPart signs text).2.length ≤ text.length := by
  unfold signPart
  split
  · exact Nat.le_refl _
  · split <;> simp

private theorem exponent_part_shortens {place : Location} {text found rest : List Char}
    (read : exponentPart place text = .ok (found, rest)) : rest.length ≤ text.length := by
  unfold exponentPart at read
  split at read
  next => cases read; simp
  next mark others =>
    split at read
    · have signed := sign_part_shortens ['+', '-'] others
      rcases inner : digits (place.right (1 + (signPart ['+', '-'] others).1.length))
        (signPart ['+', '-'] others).2 with problem | ⟨power, after⟩
      · simp [inner, bind, Except.bind] at read
      · simp only [inner, bind, Except.bind, pure, Except.pure, Except.ok.injEq,
          Prod.mk.injEq] at read
        have shorter := digits_shorten inner
        rw [← read.2, List.length_cons]
        omega
    · simp only [Except.ok.injEq, Prod.mk.injEq] at read
      simp [← read.2]

private theorem number_shortens {place : Location} {text : List Char} {found : Scanned}
    (read : number place text = .ok found) : found.rest.length < text.length := by
  have signed := sign_part_shortens ['-'] text
  simp only [number, bind, Except.bind] at read
  split at read
  · cases read
  next wholeRead =>
    split at read
    · cases read
    next fractionRead =>
      split at read
      · cases read
      next exponentRead =>
        have first := whole_part_shortens wholeRead
        have second := fraction_part_shortens fractionRead
        have third := exponent_part_shortens exponentRead
        split at read
        · cases read
        · cases read
          simp only
          omega

private theorem string_body_shortens (text : List Char) :
    ∀ {place : Location} {value : List Char} {found : Scanned},
      stringBody place value text = .ok found → found.rest.length < text.length := by
  intro place value found read
  fun_induction stringBody place value text with
  | case1 => cases read
  | case2 => cases read; simp
  | case3 => cases read
  | case4 => cases read
  | case5 _ _ _ _ _ _ _ _ ih =>
    have := ih read
    simp only [List.length_drop] at this
    simp only [List.length_cons]
    omega
  | case6 _ _ _ _ _ _ _ ih =>
    have := ih read
    simp only [List.length_cons]
    omega

private theorem block_body_shortens (text : List Char) :
    ∀ {place : Location} {line : List Char} {lines : List (List Char)} {found : Scanned},
      blockBody place line lines text = .ok found → found.rest.length < text.length := by
  intro place line lines found read
  fun_induction blockBody place line lines text with
  | case1 => cases read; simp; omega
  | case2 _ _ _ _ ih => have := ih read; simp only [List.length_cons]; omega
  | case3 _ _ _ _ ih => have := ih read; simp only [List.length_cons]; omega
  | case4 _ _ _ _ _ _ _ _ _ ih => have := ih read; simp only [List.length_cons]; omega
  | case5 _ _ _ _ _ _ _ _ _ ih => have := ih read; simp only [List.length_cons]; omega
  | case6 => cases read

/-- Reading a lexeme uses at least its first character. -/
theorem lexeme_shortens {place : Location} {c : Char} {rest : List Char} {found : Scanned}
    (read : lexeme place c rest = .ok found) : found.rest.length ≤ rest.length := by
  unfold lexeme at read
  split at read
  · cases read; simp
  · split at read
    · cases read
      exact (List.dropWhile_suffix _).length_le
    · split at read
      · have := number_shortens read
        simp only [List.length_cons] at this
        omega
      · split at read
        · split at read
          · have := block_body_shortens _ read
            simp only [List.length_cons]
            omega
          · have := string_body_shortens _ read
            omega
        · split at read
          · cases read
          · split at read
            · cases read; simp; omega
            · cases read

end Lexer

/-- The tokens of a text as far as it could be read. Where reading stopped early, `stop` tells
why. -/
structure Tokens where
  read : List Token
  stop : Option SyntaxError

/-- The tokens of a text from a place on. `done` holds those already read, latest first. A text that
is read to its end closes with the token for the end of input. -/
def Tokens.scan (place : Location) (done : List Token) (text : List Char) : Tokens :=
  match text with
  | [] => ⟨(⟨.endOfInput, place⟩ :: done).reverse, none⟩
  | '\r' :: '\n' :: rest => Tokens.scan place.nextLine done rest
  | c :: rest =>
    if isLineEnd c then Tokens.scan place.nextLine done rest
    else if Lexer.isIgnored c then Tokens.scan (place.right 1) done rest
    else if c = '#' then
      let comment := rest.takeWhile (!isLineEnd ·)
      Tokens.scan (place.right (comment.length + 1)) done (rest.dropWhile (!isLineEnd ·))
    else
      match _scanned : Lexer.lexeme place c rest with
      | .ok found => Tokens.scan found.place (⟨found.lexeme, place⟩ :: done) found.rest
      | .error problem => ⟨done.reverse, some problem⟩
termination_by text.length
decreasing_by
  · simp only [List.length_cons]
    omega
  · simp
  · simp
  · have := (List.dropWhile_suffix (l := rest) (!isLineEnd ·)).length_le
    simp only [List.length_cons]
    omega
  · have := Lexer.lexeme_shortens _scanned
    simp only [List.length_cons]
    omega

def Tokens.ofText (text : List Char) : Tokens := Tokens.scan .start [] text

end QueryDepth
