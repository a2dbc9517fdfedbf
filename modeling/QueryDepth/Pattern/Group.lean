import QueryDepth.Pattern.Escape
import QueryDepth.Text.Identifier
import QueryDepth.Text.Integer

/-! Groups: what an opening parenthesis begins, and what a closing one makes of what stands
between. -/
namespace QueryDepth.Pattern

namespace Parse

def openGroup (kind : GroupKind) (start : Nat) (flags : Flags) : Parse Unit :=
  modify fun reading =>
    { reading with
      current := ⟨kind, start, flags, [], []⟩
      outer := reading.current :: reading.outer }

/-- Begins a group that keeps what it matches, perhaps under a name. -/
def openCapture (start : Nat) (name : Option String) : Parse Unit := do
  let reading ← get
  let index := reading.groups.length + 1
  if let some name := name then
    if let some earlier := reading.names.lookup name then
      fail (.redefinedGroup name index earlier) (name.length + 1)
    set { reading with names := (name, index) :: reading.names }
  modify fun reading => { reading with groups := reading.groups ++ [none] }
  openGroup (.capture index) start reading.current.flags

/-- Reads a name of a group up to a character that ends it. -/
def groupName (terminator : Char) : Parse String := do
  let name ← nameUntil terminator "group name"
  if !isIdentifier name.toList then fail (.badGroupName name) (name.length + 1)
  return name

/-- Reads a reference to a group by its name. -/
def namedReference : Parse Unit := do
  let name ← groupName ')'
  let reading ← get
  let some index := reading.names.lookup name | fail (.unknownGroupName name) (name.length + 1)
  if (reading.groups[index - 1]?).join.isNone then fail .openGroup (name.length + 1)
  checkLookbehind index
  add (.single (.reference index (← flags).casing))

/-- What follows a question mark and a `P`. -/
def openNamed (start : Nat) : Parse Unit := do
  if ← skip '<' then openCapture start (some (← groupName '>'))
  else if ← skip '=' then namedReference
  else match ← take? with
    | none => fail .unexpectedEnd 0
    | some token => fail (.unknownExtension ("?P" ++ token.text)) (token.length + 2)

def comment (start : Nat) : Parse Unit :=
  loop (fun _ => do
    match ← take? with
    | none => failAt start .unterminatedComment
    | some token => return if token = .plain ')' then .inr () else .inl ()) ()

def openLook (start : Nat) (behind negated : Bool) : Parse Unit := do
  let reading ← get
  openGroup (.look behind negated reading.referenceBound) start reading.current.flags
  if behind && reading.referenceBound.isNone then
    modify fun reading => { reading with referenceBound := some reading.groups.length }

/-- Begins a group that looks behind, or refuses another extension that begins alike. -/
def openLookbehind (start : Nat) : Parse Unit := do
  match ← take? with
  | none => fail .unexpectedEnd 0
  | some (.plain '=') => openLook start true false
  | some (.plain '!') => openLook start true true
  | some token => fail (.unknownExtension ("?<" ++ token.text)) (token.length + 2)

/-- Groups are numbered below this bound. -/
def groupBound : Nat := 1073741823

/-- Reads which group a conditional depends on. -/
def condition : Parse Nat := do
  let name ← nameUntil ')' "group name"
  let back := name.length + 1
  let reading ← get
  if isIdentifier name.toList then
    match reading.names.lookup name with
    | some index => return index
    | none => fail (.unknownGroupName name) back
  else
    let some number := Integer.ofText? name.toList | fail (.badGroupName name) back
    if number < 0 then fail (.badGroupName name) back
    let index := number.toNat
    if index = 0 then fail .badGroupNumber back
    if groupBound ≤ index then fail (.invalidReference index) back
    if (reading.pending.lookup index).isNone then
      set { reading with pending := reading.pending ++ [(index, reading.position - back)] }
    return index

/-- Begins a group that chooses by whether another group has matched. -/
def openConditional (start : Nat) : Parse Unit := do
  let index ← condition
  checkLookbehind index
  openGroup (.conditional index) start (← flags)

/-- The flag that a token stands for, which is refused for a given problem if it is neither a flag
nor a letter. -/
def flagOf (token : Token) (otherwise : Problem) : Parse Flag := do
  match token with
  | .plain c =>
    match Flag.ofLetter? c with
    | some flag => return flag
    | none => fail (if isLetter c.toNat then .unknownFlag else otherwise) token.length
  | .escaped _ => fail otherwise token.length

/-- Reads flags that are turned on, beginning with a given one. The result has the character that
ends them. -/
def flagsOn (first : Flag) : Parse (Flags × Char) :=
  loop (fun ((flag, added) : Flag × Flags) => do
    if flag = .locale then fail .localeFlag 0
    let added := added ++ [flag]
    if flag.isType && added.any (fun other => other.isType && other != flag) then
      fail .incompatibleFlags 0
    match ← take? with
    | none => fail .missingAfterFlag 0
    | some (.plain ')') => return .inr (added, ')')
    | some (.plain '-') => return .inr (added, '-')
    | some (.plain ':') => return .inr (added, ':')
    | some token => return .inl (← flagOf token .missingAfterFlag, added)) (first, [])

/-- Reads flags that are turned off, up to and including a colon. -/
def flagsOff : Parse Flags := do
  match ← take? with
  | none => fail .missingFlag 0
  | some token =>
    loop (fun ((flag, removed) : Flag × Flags) => do
      if flag.isType then fail .typeFlagOff 0
      let removed := removed ++ [flag]
      match ← take? with
      | none => fail .missingColon 0
      | some (.plain ':') => return .inr removed
      | some token => return .inl (← flagOf token .missingColon, removed))
      (← flagOf token .missingFlag, [])

/-- Turns flags on for the whole pattern, which is possible at its beginning only. -/
def setGlobalFlags (start : Nat) (added : Flags) : Parse Unit := do
  let reading ← get
  let group := reading.current
  if group.kind != .whole || !group.branches.isEmpty || !group.parts.isEmpty then
    failAt start .lateGlobalFlags
  set { reading with current := { group with flags := group.flags ++ added } }

/-- Begins a group with other flags, given those that are turned on and the character that ends
them. -/
def openFlagged (start : Nat) (added : Flags) (stop : Char) : Parse Unit := do
  if stop = ')' then setGlobalFlags start added
  else
    if added.contains .template then fail .globalFlagOn 1
    let removed ← if stop = '-' then flagsOff else pure []
    if removed.contains .template then fail .globalFlagOff 1
    if added.any removed.contains then fail .flagOnAndOff 1
    openGroup .flagged start ((← flags).change added removed)

/-- What follows a parenthesis and a question mark. -/
def openExtension (start : Nat) : Parse Unit := do
  match ← take? with
  | none => fail .unexpectedEnd 0
  | some (.escaped c) => fail (.unknownExtension ("?" ++ (Token.escaped c).text)) 3
  | some (.plain c) =>
    match c with
    | 'P' => openNamed start
    | ':' => openGroup .plain start (← flags)
    | '#' => comment start
    | '=' => openLook start false false
    | '!' => openLook start false true
    | '<' => openLookbehind start
    | '(' => openConditional start
    | '>' => openGroup .atomic start (← flags)
    | '-' => openFlagged start [] '-'
    | _ =>
      match Flag.ofLetter? c with
      | some flag =>
        let (added, stop) ← flagsOn flag
        openFlagged start added stop
      | none => fail (.unknownExtension ("?" ++ c.toString)) 2

/-- What follows an opening parenthesis. -/
def openParenthesis (start : Nat) : Parse Unit := do
  if ← skip '?' then openExtension start else openCapture start none

end Parse

/-- Whether a pattern is so plain that it can be moved in front of the alternatives that begin
with it. -/
def isPlain : Pattern → Bool
  | literal .. | otherThan .. | any _ | oneOf _ | anchor _ | reference .. => true
  | empty | seq .. | alt .. | group .. | repetition ..
  | atomic _ | look .. | conditional .. => false

/-- How many plain patterns alternatives have in common at their beginning. -/
def sharedLead : List Pattern → List (List Pattern) → Nat
  | [], _ => 0
  | pattern :: rest, others =>
    if isPlain pattern && others.all fun other => other.head? == some pattern then
      sharedLead rest (others.map List.tail) + 1
    else 0

/-- The items of the class that matches what one of the given alternatives matches, if all of them
match a single character of a literal or a class. -/
def classOfBranches? : List (List Pattern) → Option (List ClassItem)
  | [] => some []
  | [.literal code _] :: rest => (classOfBranches? rest).map (.single code :: ·)
  | [.oneOf members] :: rest =>
    if members.negated then none else (classOfBranches? rest).map (members.items ++ ·)
  | _ => none

/-- The patterns for alternatives. What all alternatives begin with is taken out of them, and if
characters are left to choose from, they become a class. -/
def ofAlternatives (flags : Flags) (branches : List (List Pattern)) : List Pattern :=
  match branches with
  | [] => []
  | [only] => only
  | first :: others =>
    let count := sharedLead first others
    let rest := branches.map (·.drop count)
    let choice := match classOfBranches? rest with
      | some items => oneOf ⟨items.eraseDups, false, flags.casing, flags.isAscii⟩
      | none => ofBranches (rest.map ofList)
    first.take count ++ [choice]

/-- The alternatives of a group that is being closed, in order. -/
def OpenGroup.alternatives (opened : OpenGroup) : List (List Pattern) :=
  (opened.parts.reverse.flatMap Part.patterns :: opened.branches).reverse

/-- What a group that is being closed holds. -/
def OpenGroup.contents (opened : OpenGroup) : List Pattern :=
  ofAlternatives opened.flags opened.alternatives

namespace Parse

/-- The part that a group becomes when it is closed. -/
def closed (opened : OpenGroup) : Parse Part := do
  let body := ofList opened.contents
  match opened.kind with
  | .whole | .plain => return .held opened.contents
  | .flagged => return .single (.group none body)
  | .atomic => return .single (.atomic body)
  | .capture index =>
    modify fun reading =>
      { reading with groups := reading.groups.set (index - 1) (some (body.width reading.groups)) }
    return .single (.group (some index) body)
  | .look behind negated outerBound =>
    let reading ← get
    set { reading with referenceBound := outerBound }
    let width := if behind then some (body.width reading.groups) else none
    return .single (.look width negated body)
  | .conditional index =>
    match opened.alternatives with
    | [present, absent] => return .single (.conditional index (ofList present) (ofList absent))
    | alternatives => return .single (.conditional index (ofList alternatives.flatten) .empty)

def closeGroup : Parse Unit := do
  let reading ← get
  match reading.outer with
  | [] => fail .unbalanced 0
  | next :: outer =>
    let part ← closed reading.current
    modify fun reading =>
      { reading with current := { next with parts := part :: next.parts }, outer }

/-- Begins the next alternative, the bar in front of it being next. A conditional has no more than
two. -/
def nextBranch : Parse Unit := do
  let reading ← get
  let group := reading.current
  if let .conditional _ := group.kind then
    if !group.branches.isEmpty then fail .tooManyBranches 0
  advance
  let reading ← get
  set { reading with current := { group with
    branches := group.parts.reverse.flatMap Part.patterns :: group.branches
    parts := [] } }

end Parse

end QueryDepth.Pattern
