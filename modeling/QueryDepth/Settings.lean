import QueryDepth.Exclusion
import QueryDepth.Text.Integer
import QueryDepth.Text.LetterCase

/-! Settings, read from arguments and from variables of the environment. An argument counts more
than a variable, and what neither sets has a default. Everything that is wrong is reported, field
by field. -/
namespace QueryDepth

/-- A value that is given for a setting. -/
inductive GivenValue where
  | null
  | boolean (value : Bool)
  | integer (value : Int)
  /-- The number `mantissa` divided by ten to the power of `places`. -/
  | decimal (mantissa : Int) (places : Nat)
  | text (value : String)
  /-- A list or an object. -/
  | compound
  deriving DecidableEq, Repr

/-- What can be wrong with a setting. -/
inductive SettingProblem where
  | noInteger
  | unreadableInteger
  | oversizedInteger
  | fraction
  | negative
  | noText
  | unknownField
  | twoExclusions
  deriving DecidableEq, Repr

namespace SettingProblem

def kind : SettingProblem → String
  | noInteger => "int_type"
  | unreadableInteger => "int_parsing"
  | oversizedInteger => "int_parsing_size"
  | fraction => "int_from_float"
  | negative => "greater_than_equal"
  | noText => "string_type"
  | unknownField => "extra_forbidden"
  | twoExclusions => "value_error"

def message : SettingProblem → String
  | noInteger => "Input should be a valid integer"
  | unreadableInteger =>
    "Input should be a valid integer, unable to parse string as an integer"
  | oversizedInteger => "Unable to parse input string as an integer, exceeded maximum size"
  | fraction => "Input should be a valid integer, got a number with a fractional part"
  | negative => "Input should be greater than or equal to 0"
  | noText => "Input should be a valid string"
  | unknownField => "Extra inputs are not permitted"
  | twoExclusions => "Value error, Set only one of ignore_exact and ignore_pattern"

end SettingProblem

/-- A problem and the field that has it. Without a field it concerns the settings as a whole. -/
structure SettingFault where
  field : Option String
  problem : SettingProblem
  deriving DecidableEq, Repr

/-- All that can be set. -/
structure Settings where
  maxDepth : Nat
  ignoreExact : Option String
  ignorePattern : Option String
  logLevel : String
  deriving DecidableEq, Repr

namespace Settings

/-- The fields that can be set, in the order in which they are reported. -/
def fields : List String := ["max_depth", "ignore_exact", "ignore_pattern", "log_level"]

/-- What stands in front of the name of a field in the name of its variable. -/
def variableLead : String := "depth_limit_"

/-- A name without regard to the case of the letters of ASCII. -/
def fold (name : String) : String :=
  String.ofList (name.toList.map fun c => Char.ofNat (asciiLowerCase c.toNat))

def defaultMaxDepth : Nat := 5

def defaultLogLevel : String := "INFO"

/-- The longest text, in bytes, that is read as an integer. -/
def longestInteger : Nat := 4300

/-- Whether a character is trimmed around an integer. -/
def isTrimmed (c : Char) : Bool := isBlank c.toNat && !(0x1c ≤ c.toNat && c.toNat ≤ 0x1f)

/-- A number without a fraction of zeros, if it has a fraction. -/
def withoutFraction? (text : List Char) : Option (List Char) :=
  let whole := text.takeWhile (· != '.')
  match text.dropWhile (· != '.') with
  | [] => some whole
  | _ :: fraction => if !fraction.isEmpty && fraction.all (· == '0') then some whole else none

def integerOfText (text : String) : Except SettingProblem Int :=
  if longestInteger < text.utf8ByteSize then .error .oversizedInteger
  else
    let (negative, rest) := Integer.splitSign (Integer.trim isTrimmed text.toList)
    match withoutFraction? rest >>= Integer.digits? false with
    | some digits => .ok (Integer.signed negative (Integer.ofDigits digits))
    | none => .error .unreadableInteger

/-- Numbers that are not written as integers have to lie below this bound. -/
def decimalBound : Nat := Nat.pow 2 63

def integerOf : GivenValue → Except SettingProblem Int
  | .null | .compound => .error .noInteger
  | .boolean value => .ok (if value then 1 else 0)
  | .integer value => .ok value
  | .decimal mantissa places =>
    let unit : Int := Nat.pow 10 places
    if mantissa % unit ≠ 0 then .error .fraction
    else
      let value := mantissa / unit
      if decimalBound ≤ value.natAbs then .error .oversizedInteger else .ok value
  | .text value => integerOfText value

def limitOf (value : GivenValue) : Except SettingProblem Nat := do
  match ← integerOf value with
  | .ofNat limit => return limit
  | .negSucc _ => throw .negative

def textOf : GivenValue → Except SettingProblem String
  | .text value => .ok value
  | _ => .error .noText

def optionalTextOf : GivenValue → Except SettingProblem (Option String)
  | .null => .ok none
  | value => (textOf value).map some

/-- The value that is given last under a name. -/
def lastNamed? {α : Type} (name : String) (given : List (String × α)) : Option α :=
  (given.filter fun entry => fold entry.1 = name).getLast?.map Prod.snd

/-- The value that is given for a field. -/
def given? (environment : List (String × String)) (arguments : List (String × GivenValue))
    (field : String) : Option GivenValue :=
  (lastNamed? field arguments).or
    ((lastNamed? (variableLead ++ field) environment).map .text)

/-- Reads the value that is given for a field. What is wrong with it is added to the faults. -/
def readField {α : Type} (given : Option GivenValue) (field : String) (default : α)
    (read : GivenValue → Except SettingProblem α) : StateM (List SettingFault) α := do
  match given.map read with
  | none => return default
  | some (.ok value) => return value
  | some (.error problem) =>
    modify (· ++ [⟨some field, problem⟩])
    return default

def readFields (given : String → Option GivenValue) : StateM (List SettingFault) Settings := do
  let read := fun {α : Type} (field : String) (default : α) reader =>
    readField (given field) field default reader
  return {
    maxDepth := ← read "max_depth" defaultMaxDepth limitOf
    ignoreExact := ← read "ignore_exact" none optionalTextOf
    ignorePattern := ← read "ignore_pattern" none optionalTextOf
    logLevel := ← read "log_level" defaultLogLevel textOf }

/-- Reads the settings. Arguments that name no field are refused, and at most one exclusion may be
set. -/
def read (environment : List (String × String)) (arguments : List (String × GivenValue)) :
    Except (List SettingFault) Settings :=
  let (settings, faults) := (readFields (given? environment arguments)).run []
  let unknown := arguments.filter fun entry => !fields.contains (fold entry.1)
  match faults ++ unknown.map fun entry => ⟨some entry.1, .unknownField⟩ with
  | [] =>
    if settings.ignoreExact.isSome && settings.ignorePattern.isSome then
      .error [⟨none, .twoExclusions⟩]
    else .ok settings
  | faults => .error faults

def exclusion (settings : Settings) : Exclusion :=
  match settings.ignoreExact, settings.ignorePattern with
  | some name, _ => .exact name
  | none, some pattern => .pattern pattern
  | none, none => .nothing

end Settings

end QueryDepth
