import QueryDepth.CommandLine.Program
import QueryDepth.Proofs.LineEnds

/-! What a file holds. Reading the bytes of a text as UTF-8 gives the text but for its line ends,
and those make no difference to the document that it holds. -/
namespace QueryDepth

namespace Utf8

variable {position : Nat} {done : List Char} {rest : List Nat}

theorem read_ascii {byte : Nat} (small : byte < 0x80) :
    read position none done (byte :: rest) =
      read (position + 1) none (Char.ofNat byte :: done) rest := by
  rw [read, if_pos small]

/-- A byte that is no character by itself begins one. -/
theorem read_begin {byte : Nat} {begun : Partial} (large : 0x80 ≤ byte)
    (begins : first? byte = some begun) :
    read position none done (byte :: rest) = read (position + 1) (some begun) done rest := by
  rw [read, if_neg (Nat.not_lt.mpr large), begins]

/-- A byte goes on with a character that owes more than this one. -/
theorem read_extend {known : Partial} {byte : Nat} (owes : 1 < known.owed)
    (low : known.low ≤ byte) (high : byte ≤ known.high) :
    read position (some known) done (byte :: rest) =
      read (position + 1) (some (known.extend byte)) done rest := by
  have remains : (known.extend byte).owed ≠ 0 := by
    simp only [Partial.extend]
    omega
  rw [read, if_pos ⟨low, high⟩]
  exact if_neg remains

/-- The last byte that a character owes completes it. -/
theorem read_complete {known : Partial} {byte : Nat} (owes : known.owed = 1)
    (low : known.low ≤ byte) (high : byte ≤ known.high) :
    read position (some known) done (byte :: rest) =
      read (position + 1) none (Char.ofNat (known.value * 64 + (byte - 0x80)) :: done) rest := by
  have complete : (known.extend byte).owed = 0 := by simp [Partial.extend, owes]
  rw [read, if_pos ⟨low, high⟩]
  exact if_pos complete

/-- Two bytes are read as the character that they stand for. -/
theorem read_two {a b : Nat} (least : 2 ≤ a) (most : a < 32) (tail : b < 64) :
    read position none done ((a + 0xc0) :: (b + 0x80) :: rest) =
      read (position + 2) none (Char.ofNat (a * 64 + b) :: done) rest := by
  have begins : first? (a + 0xc0) = some ⟨a + 0xc0, 1, 1, 0x80, 0xbf, a⟩ := by
    rw [first?, if_pos (by omega), Nat.add_sub_cancel]
  rw [read_begin (by omega) begins, read_complete rfl (by dsimp only; omega) (by dsimp only; omega),
    Nat.add_sub_cancel]

/-- So are three, where no character is written longer than it has to be, and none is half of a
surrogate pair. -/
theorem read_three {a b c : Nat} (most : a < 16) (middle : b < 64) (tail : c < 64)
    (shortest : a = 0 → 32 ≤ b) (whole : a = 13 → b < 32) :
    read position none done ((a + 0xe0) :: (b + 0x80) :: (c + 0x80) :: rest) =
      read (position + 3) none (Char.ofNat ((a * 64 + b) * 64 + c) :: done) rest := by
  have begins : first? (a + 0xe0) =
      some ⟨a + 0xe0, 1, 2, if a = 0 then 0xa0 else 0x80, if a = 13 then 0x9f else 0xbf, a⟩ := by
    rw [first?, if_neg (by omega), if_pos (by omega), Nat.add_sub_cancel]
    simp
  have low : (if a = 0 then 0xa0 else 0x80) ≤ b + 0x80 := by split <;> omega
  have high : b + 0x80 ≤ if a = 13 then 0x9f else 0xbf := by split <;> omega
  rw [read_begin (by omega) begins, read_extend (by simp) low high]
  simp only [Partial.extend]
  rw [read_complete rfl (by dsimp only; omega) (by dsimp only; omega)]
  simp only [Nat.add_sub_cancel]

/-- So are four, where no code point is too large. -/
theorem read_four {a b c d : Nat} (most : a < 5) (first : b < 64) (second : c < 64) (tail : d < 64)
    (shortest : a = 0 → 16 ≤ b) (known : a = 4 → b < 16) :
    read position none done ((a + 0xf0) :: (b + 0x80) :: (c + 0x80) :: (d + 0x80) :: rest) =
      read (position + 4) none (Char.ofNat (((a * 64 + b) * 64 + c) * 64 + d) :: done) rest := by
  have begins : first? (a + 0xf0) =
      some ⟨a + 0xf0, 1, 3, if a = 0 then 0x90 else 0x80, if a = 4 then 0x8f else 0xbf, a⟩ := by
    rw [first?, if_neg (by omega), if_neg (by omega), if_pos (by omega), Nat.add_sub_cancel]
    simp
  have low : (if a = 0 then 0x90 else 0x80) ≤ b + 0x80 := by split <;> omega
  have high : b + 0x80 ≤ if a = 4 then 0x8f else 0xbf := by split <;> omega
  rw [read_begin (by omega) begins, read_extend (by simp) low high]
  simp only [Partial.extend]
  rw [read_extend (by simp) (by dsimp only; omega) (by dsimp only; omega)]
  simp only [Partial.extend]
  rw [read_complete rfl (by dsimp only; omega) (by dsimp only; omega)]
  simp only [Nat.add_sub_cancel]

/-- The bytes of a character are read as that character. -/
theorem read_encoded (c : Char) (position : Nat) (done : List Char) (rest : List Nat) :
    ∃ next, read position none done ((String.utf8EncodeChar c).map UInt8.toNat ++ rest) =
      read next none (c :: done) rest := by
  have valid : c.toNat < 0xd800 ∨ 0xdfff < c.toNat ∧ c.toNat < 0x110000 := c.valid
  have same : Char.ofNat c.toNat = c := Char.ofNat_toNat c
  simp only [String.utf8EncodeChar, show c.val.toNat = c.toNat from rfl]
  generalize c.toNat = code at valid same ⊢
  subst same
  split
  · refine ⟨position + 1, ?_⟩
    simp (disch := omega) only [List.map_cons, List.map_nil, List.cons_append, List.nil_append,
      UInt8.toNat_ofNat', Nat.mod_eq_of_lt]
    exact read_ascii (by omega)
  · split
    · have value : code / 64 * 64 + code % 64 = code := by omega
      refine ⟨position + 2, ?_⟩
      simp (disch := omega) only [List.map_cons, List.map_nil, List.cons_append, List.nil_append,
        UInt8.toNat_ofNat', Nat.mod_eq_of_lt]
      rw [read_two (by omega) (by omega) (by omega), value]
    · split
      · have value : (code / 4096 * 64 + code / 64 % 64) * 64 + code % 64 = code := by omega
        refine ⟨position + 3, ?_⟩
        simp (disch := omega) only [List.map_cons, List.map_nil, List.cons_append, List.nil_append,
          UInt8.toNat_ofNat', Nat.mod_eq_of_lt]
        rw [read_three (by omega) (by omega) (by omega) (by omega) (by omega), value]
      · have value : ((code / 262144 * 64 + code / 4096 % 64) * 64 + code / 64 % 64) * 64 +
            code % 64 = code := by omega
        refine ⟨position + 4, ?_⟩
        simp (disch := omega) only [List.map_cons, List.map_nil, List.cons_append, List.nil_append,
          UInt8.toNat_ofNat', Nat.mod_eq_of_lt]
        rw [read_four (by omega) (by omega) (by omega) (by omega) (by omega) (by omega), value]

theorem read_text (text : List Char) (position : Nat) (done : List Char) :
    read position none done ((text.flatMap String.utf8EncodeChar).map UInt8.toNat) =
      .ok (done.reverse ++ text) := by
  induction text generalizing position done with
  | nil => simp [read]
  | cons c rest ih =>
    obtain ⟨next, reads⟩ := read_encoded c position done
      ((rest.flatMap String.utf8EncodeChar).map UInt8.toNat)
    rw [List.flatMap_cons, List.map_append, reads, ih]
    simp

/-- Reading the bytes of a text gives the text. -/
theorem decode_toUTF8 (text : String) : decode text.toUTF8.data.toList = .ok text := by
  have bytes : text.toUTF8.data.toList = text.toList.flatMap String.utf8EncodeChar := by
    rw [String.toUTF8_eq_toByteArray, ← String.utf8Encode_toList, List.utf8Encode,
      List.toList_data_toByteArray]
  rw [decode, bytes, read_text]
  simp [Except.map]

end Utf8

/-- A file that holds the bytes of a text holds the same document. -/
theorem CommandLine.exists_textOf {files : Files} {path : Path} {text : String}
    (holds : files path = .ok text.toUTF8.data.toList) :
    ∃ found, textOf files path = .ok found ∧ Document.parse found = Document.parse text := by
  simp only [textOf, holds, Utf8.decode_toUTF8]
  exact ⟨_, rfl, Document.parse_unifyLineEnds text⟩

end QueryDepth
