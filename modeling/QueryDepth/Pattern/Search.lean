import QueryDepth.Pattern.Compiled

/-! Searching a text for a pattern. Ways to match are tried one after the other, and each is
followed by what has still to be matched afterwards. Groups keep where they began and ended, and
what a way to match has kept is forgotten when the next way is tried. -/
namespace QueryDepth.Pattern

/-- A place in a text and what the groups have kept on the way to it. A mark is where a group
began or ended, the latest mark first. -/
structure Spot where
  position : Nat
  marks : List (Nat × Nat)
  deriving DecidableEq, Repr

namespace Spot

def openGroup (spot : Spot) (index : Nat) : Spot :=
  ⟨spot.position, (2 * index, spot.position) :: spot.marks⟩

def closeGroup (spot : Spot) (index : Nat) : Spot :=
  ⟨spot.position, (2 * index + 1, spot.position) :: spot.marks⟩

/-- Where the text begins and ends that a group has kept. -/
def kept? (spot : Spot) (index : Nat) : Option (Nat × Nat) := do
  let first ← spot.marks.lookup (2 * index)
  let last ← spot.marks.lookup (2 * index + 1)
  if first ≤ last then some (first, last) else none

/-- The place some characters further on. -/
def forward (spot : Spot) (count : Nat) : Spot := ⟨spot.position + count, spot.marks⟩

end Spot

/-- The code points of a text. -/
abbrev Subject := Array Nat

/-- What has still to be matched after a pattern. -/
abbrev Continuation := Spot → Option Spot

def lineFeed : Nat := 0xa

namespace Anchor

/-- Whether an anchor holds at a place. -/
def holds (subject : Subject) (position : Nat) : Anchor → Bool
  | beginning lines =>
    position == 0 || (lines && subject[position - 1]? == some lineFeed)
  | ending lines =>
    position == subject.size ||
      ((lines || position + 1 == subject.size) && subject[position]? == some lineFeed)
  | textBeginning => position == 0
  | textEnding => position == subject.size
  | wordEdge inside ascii =>
    let isWord := fun (code : Option Nat) => code.any (Category.word.holds ascii ·)
    let before := position != 0 && isWord subject[position - 1]?
    !subject.isEmpty && (before != isWord subject[position]?) != inside

end Anchor

namespace Repetition

/-- Whether more repetitions are allowed after some. -/
def allows (most : Option Nat) (count : Nat) : Bool :=
  match most with
  | some most => count < most
  | none => true

/-- Whether another repetition is tried at a place: it has to be allowed, and the one before it must
have moved on. -/
def goesOn (most : Option Nat) (count : Nat) (last : Option Nat) (spot : Spot) : Bool :=
  allows most count && last != some spot.position

/-- As many repetitions as possible first. `last` is where the repetition before began, once there
are as many as there have to be. -/
def greedy (body : Continuation → Continuation) (least : Nat) (most : Option Nat)
    (next : Continuation) (fuel count : Nat) (last : Option Nat) (spot : Spot) : Option Spot :=
  match fuel with
  | 0 => none
  | fuel + 1 =>
    if count < least then body (greedy body least most next fuel (count + 1) last) spot
    else
      let further :=
        if goesOn most count last spot then
          body (greedy body least most next fuel (count + 1) (some spot.position)) spot
        else none
      match further with
      | some found => some found
      | none => next spot

/-- As few repetitions as possible first. -/
def lazy (body : Continuation → Continuation) (least : Nat) (most : Option Nat)
    (next : Continuation) (fuel count : Nat) (last : Option Nat) (spot : Spot) : Option Spot :=
  match fuel with
  | 0 => none
  | fuel + 1 =>
    if count < least then body (lazy body least most next fuel (count + 1) last) spot
    else match next spot with
      | some found => some found
      | none =>
        if goesOn most count last spot then
          body (lazy body least most next fuel (count + 1) (some spot.position)) spot
        else none

/-- As many repetitions as possible, each in the first way in which it matches. -/
def possessive (body : Continuation → Continuation) (least : Nat) (most : Option Nat)
    (next : Continuation) (fuel count : Nat) (last : Option Nat) (spot : Spot) : Option Spot :=
  match fuel with
  | 0 => none
  | fuel + 1 =>
    if count < least then
      match body some spot with
      | some after => possessive body least most next fuel (count + 1) last after
      | none => none
    else if goesOn most count last spot then
      match body some spot with
      | some after =>
        possessive body least most next fuel (count + 1) (some spot.position) after
      | none => next spot
    else next spot

/-- Repetitions in the order of a mode. Once there are as many as there have to be, each one moves
on, which bounds their number. -/
def run (mode : Mode) (body : Continuation → Continuation) (least : Nat) (most : Option Nat)
    (size : Nat) (next : Continuation) : Continuation :=
  let fuel := least + size + 2
  match mode with
  | .greedy => greedy body least most next fuel 0 none
  | .lazy => lazy body least most next fuel 0 none
  | .possessive => possessive body least most next fuel 0 none

end Repetition

/-- Matches one character that satisfies a condition. -/
def one (subject : Subject) (condition : Nat → Bool) (next : Continuation) : Continuation :=
  fun spot =>
    match subject[spot.position]? with
    | some code => if condition code then next (spot.forward 1) else none
    | none => none

/-- Whether the text at a place is the same as the text between two others. -/
def repeats (subject : Subject) (casing : Casing) (first last position : Nat) : Bool :=
  (List.range (last - first)).all fun offset =>
    match subject[first + offset]?, subject[position + offset]? with
    | some kept, some found => casing.lower kept == casing.lower found
    | _, _ => false

/-- Matches a pattern at a place, and then what has still to be matched. -/
def run (subject : Subject) (next : Continuation) : Pattern → Continuation
  | empty => next
  | literal code casing => one subject (casing.same code) next
  | otherThan code casing => one subject (fun character => !casing.same code character) next
  | any lineFeeds => one subject (fun character => lineFeeds || character != lineFeed) next
  | oneOf members => one subject members.holds next
  | anchor place => fun spot => if place.holds subject spot.position then next spot else none
  | seq first rest => first.run subject (rest.run subject next)
  | alt first rest => fun spot =>
    match first.run subject next spot with
    | some found => some found
    | none => rest.run subject next spot
  | group none body => body.run subject next
  | group (some index) body => fun spot =>
    body.run subject (fun spot => next (spot.closeGroup index)) (spot.openGroup index)
  | repetition mode least most body =>
    Repetition.run mode (fun next => body.run subject next) least most subject.size next
  | atomic body => fun spot =>
    match body.run subject some spot with
    | some after => next after
    | none => none
  | look behind negated body => fun spot =>
    let back := (behind.map Width.least).getD 0
    let found :=
      if back ≤ spot.position then body.run subject some ⟨spot.position - back, spot.marks⟩
      else none
    match found, negated with
    | some after, false => next ⟨spot.position, after.marks⟩
    | none, true => next spot
    | _, _ => none
  | reference index casing => fun spot =>
    match spot.kept? index with
    | some (first, last) =>
      if repeats subject casing first last spot.position then next (spot.forward (last - first))
      else none
    | none => none
  | conditional index present absent => fun spot =>
    if (spot.kept? index).isSome then present.run subject next spot
    else absent.run subject next spot

namespace Compiled

/-- Whether a match may begin at a place. -/
def mayBegin (compiled : Compiled) (subject : Subject) (position : Nat) : Bool :=
  match compiled.beginning with
  | some members => subject[position]?.any members.holds
  | none => true

def search (compiled : Compiled) (text : String) : Bool :=
  let subject : Subject := (text.toList.map Char.toNat).toArray
  (List.range (subject.size + 1)).any fun position =>
    compiled.mayBegin subject position && (compiled.body.run subject some ⟨position, []⟩).isSome

end Compiled

end QueryDepth.Pattern
