/-! Reading bytes as UTF-8. A character is a first byte and up to three more, and for each of them
it is known which bytes may follow. Bytes that no character has are refused together with what
came before them of the same character. -/
namespace QueryDepth

namespace Utf8

/-- What is wrong with bytes that stand for no character. -/
inductive Reason where
  | invalidStart
  | invalidContinuation
  | unexpectedEnd
  deriving DecidableEq, Repr

def Reason.text : Reason → String
  | invalidStart => "invalid start byte"
  | invalidContinuation => "invalid continuation byte"
  | unexpectedEnd => "unexpected end of data"

/-- Bytes that stand for no character: the first of them, how many stand before it, how many they
are, and what is wrong. -/
structure Fault where
  byte : Nat
  position : Nat
  count : Nat
  reason : Reason
  deriving DecidableEq, Repr

def Fault.message (fault : Fault) : String :=
  let which :=
    if fault.count = 1 then
      s!"byte 0x{String.ofList (Nat.toDigits 16 fault.byte)} in position {fault.position}"
    else s!"bytes in position {fault.position}-{fault.position + fault.count - 1}"
  s!"'utf-8' codec can't decode {which}: {fault.reason.text}"

/-- A character that is not complete. `owed` bytes have still to come, the next of them between
`low` and `high`, and `value` is the code point as far as it is known. -/
structure Partial where
  byte : Nat
  count : Nat
  owed : Nat
  low : Nat
  high : Nat
  value : Nat
  deriving DecidableEq, Repr

/-- What a byte begins that is no character by itself. -/
def first? (byte : Nat) : Option Partial :=
  if 0xc2 ≤ byte ∧ byte ≤ 0xdf then some ⟨byte, 1, 1, 0x80, 0xbf, byte - 0xc0⟩
  else if 0xe0 ≤ byte ∧ byte ≤ 0xef then
    some ⟨byte, 1, 2, if byte = 0xe0 then 0xa0 else 0x80, if byte = 0xed then 0x9f else 0xbf,
      byte - 0xe0⟩
  else if 0xf0 ≤ byte ∧ byte ≤ 0xf4 then
    some ⟨byte, 1, 3, if byte = 0xf0 then 0x90 else 0x80, if byte = 0xf4 then 0x8f else 0xbf,
      byte - 0xf0⟩
  else none

/-- What a character has become after one more byte. -/
def Partial.extend (known : Partial) (byte : Nat) : Partial :=
  ⟨known.byte, known.count + 1, known.owed - 1, 0x80, 0xbf, known.value * 64 + (byte - 0x80)⟩

/-- Reads bytes of which the first stands at `position`, after the beginning of a character if
there is one. `done` holds the characters read before, latest first. -/
def read (position : Nat) (known : Option Partial) (done : List Char) :
    List Nat → Except Fault (List Char)
  | [] =>
    match known with
    | none => .ok done.reverse
    | some known =>
      .error ⟨known.byte, position - known.count, known.count, .unexpectedEnd⟩
  | byte :: rest =>
    match known with
    | none =>
      if byte < 0x80 then read (position + 1) none (Char.ofNat byte :: done) rest
      else match first? byte with
        | some begun => read (position + 1) (some begun) done rest
        | none => .error ⟨byte, position, 1, .invalidStart⟩
    | some known =>
      if known.low ≤ byte ∧ byte ≤ known.high then
        let more := known.extend byte
        if more.owed = 0 then read (position + 1) none (Char.ofNat more.value :: done) rest
        else read (position + 1) (some more) done rest
      else .error ⟨known.byte, position - known.count, known.count, .invalidContinuation⟩

/-- The text that bytes stand for. -/
def decode (bytes : List UInt8) : Except Fault String :=
  (read 0 none [] (bytes.map UInt8.toNat)).map String.ofList

end Utf8

end QueryDepth
