import QueryDepth.Document.Stream

/-! The grammar of documents: operations and fragments with everything they select, and the
definitions and extensions of a type system, of which only the place is kept. Selection sets, lists,
objects and list types may be open at most two hundred deep, which also bounds the recursion. -/
namespace QueryDepth

namespace Grammar

open Reader

/-- How many selection sets, lists, objects and list types may be open at once. -/
def maximalNesting : Nat := 200

/-- A value that is neither a list nor an object. -/
def plainValue (constant : Bool) : Reader Unit := do
  let token ← current
  match token.lexeme with
  | .int _ | .float _ | .string _ | .blockString _ | .name _ => advance
  | .punctuator .dollar =>
    advance
    if constant then
      match (← current).lexeme with
      | .name word => refuseAt token.location (.variableInConstant word)
      | _ => refuseAt token.location (.unexpected token.lexeme)
    else discard name
  | _ => unexpected

/-- A value with at most `depth` further lists and objects open. -/
def value (constant : Bool) : Nat → Reader Unit
  | 0 => do
    if (← sees .bracketLeft) || (← sees .braceLeft) then refuse .nestedTooDeeply
    plainValue constant
  | depth + 1 => do
    if ← sees .bracketLeft then discard (any .bracketLeft (value constant depth) .bracketRight)
    else if ← sees .braceLeft then
      let entry : Reader Unit := do
        discard name
        require .colon
        value constant depth
      discard (any .braceLeft entry .braceRight)
    else plainValue constant

/-- Arguments in parentheses, if there are any. -/
def arguments (constant : Bool) (depth : Nat) : Reader Unit := do
  let argument : Reader Unit := do
    discard name
    require .colon
    value constant depth
  discard (optionalMany .parenLeft argument .parenRight)

/-- The directives in view, each with its arguments, and whether there are any. -/
def directivesFrom (constant : Bool) (depth : Nat) (found : Bool) (stream : Stream) :
    Except SyntaxError (Bool × Stream) :=
  match skip .atSign stream with
  | .error problem => .error problem
  | .ok (false, next) => .ok (found, next)
  | .ok (true, next) =>
    match (do discard name; arguments constant depth : Reader Unit) next with
    | .error problem => .error problem
    | .ok ((), next) =>
      if next.left < stream.left then directivesFrom constant depth true next
      else .error ⟨.unexpected next.current.lexeme, next.current.location⟩
termination_by stream.left

/-- Any number of directives, and whether there are any. -/
def directives (constant : Bool) (depth : Nat) : Reader Bool :=
  directivesFrom constant depth false

/-- A type reference with at most `depth` further list types open. -/
def typeReference : Nat → Reader Unit
  | 0 => do
    if ← sees .bracketLeft then refuse .nestedTooDeeply
    discard name
    discard (skip .bang)
  | depth + 1 => do
    if ← skip .bracketLeft then
      typeReference depth
      require .bracketRight
    else discard name
    discard (skip .bang)

def description : Reader Unit := do
  match (← current).lexeme with
  | .string _ | .blockString _ => advance
  | _ => pure ()

/-- The name of a fragment, which may not be the word that introduces its type. -/
def fragmentName : Reader String := do
  if (← current).lexeme == .name "on" then unexpected
  name

/-- A field, where `selections` reads a selection set and `depth` more may be open. -/
def field (selections : Reader (List Node)) (depth : Nat) : Reader Node := do
  let place := (← current).location
  let first ← name
  let second ← if ← skip .colon then some <$> name else pure none
  arguments false depth
  discard (directives false depth)
  let selected ← if ← sees .braceLeft then some <$> selections else pure none
  let kind := match second with
    | some own => NodeKind.field (some first) own
    | none => .field none first
  return ⟨kind, selected, some place⟩

def fragment (selections : Reader (List Node)) (depth : Nat) : Reader Node := do
  let place := (← current).location
  require .ellipsis
  let conditional ← skipKeyword "on"
  if !conditional && (← seesName) then
    let name ← fragmentName
    discard (directives false depth)
    return ⟨.fragmentSpread name, none, some place⟩
  let condition ← if conditional then some <$> name else pure none
  discard (directives false depth)
  return ⟨.inlineFragment condition, some (← selections), some place⟩

/-- A selection set with at most `depth` selection sets open, itself included. -/
def selectionSet : Nat → Reader (List Node)
  | 0 => refuse .nestedTooDeeply
  | depth + 1 =>
    let selection : Reader Node := do
      if ← sees .ellipsis then fragment (selectionSet depth) depth
      else field (selectionSet depth) depth
    many .braceLeft selection .braceRight

def definitionSelections : Reader (List Node) := selectionSet maximalNesting

def operationType : Reader OperationType := do
  let token ← current
  let word ← name
  match OperationType.ofKeyword? word with
  | some type => return type
  | none => refuseAt token.location (.unexpected token.lexeme)

/-- One variable with its type, default value and directives. -/
def variableDefinition : Reader Unit := do
  description
  require .dollar
  discard name
  require .colon
  typeReference maximalNesting
  if ← skip .equals then value true maximalNesting
  discard (directives true maximalNesting)

/-- An operation that is more than a bare selection set. -/
def operation : Reader Node := do
  let place := (← current).location
  description
  let type ← operationType
  let name ← if ← seesName then some <$> name else pure none
  discard (optionalMany .parenLeft variableDefinition .parenRight)
  discard (directives false maximalNesting)
  return ⟨.operation type name, some (← definitionSelections), some place⟩

def fragmentDefinition : Reader Node := do
  let place := (← current).location
  description
  requireKeyword "fragment"
  let named ← fragmentName
  requireKeyword "on"
  let condition ← name
  discard (directives false maximalNesting)
  return ⟨.fragmentDefinition named condition, some (← definitionSelections), some place⟩

/-- Directives with constant arguments, and whether there are any. -/
def constantDirectives : Reader Bool := directives true maximalNesting

/-- The operation types that a schema supports: their keywords and object types. -/
def rootOperation : Reader Unit := do
  discard operationType
  require .colon
  discard name

/-- An argument or input field with its type, default value and directives. -/
def inputValue : Reader Unit := do
  description
  discard name
  require .colon
  typeReference maximalNesting
  if ← skip .equals then value true maximalNesting
  discard constantDirectives

/-- The arguments that a field or directive takes. -/
def argumentDefinitions : Reader Unit :=
  discard (optionalMany .parenLeft inputValue .parenRight)

def fieldDefinition : Reader Unit := do
  description
  discard name
  argumentDefinitions
  require .colon
  typeReference maximalNesting
  discard constantDirectives

/-- The fields of an object or interface type, and whether there are any. -/
def fieldsDefinition : Reader Bool := do
  return !(← optionalMany .braceLeft fieldDefinition .braceRight).isEmpty

/-- The interfaces that a type implements, and whether there are any. -/
def implementedInterfaces : Reader Bool := do
  if ← skipKeyword "implements" then
    discard (separated .ampersand name)
    return true
  return false

/-- The members of a union, and whether there are any. -/
def unionMembers : Reader Bool := do
  if ← skip .equals then
    discard (separated .pipe name)
    return true
  return false

/-- One value of an enum, which may not be spelled like a literal. -/
def enumValue : Reader Unit := do
  description
  let token ← current
  if token.lexeme.value?.any (["true", "false", "null"].contains ·) then
    refuse (.reservedEnumValue token.lexeme)
  discard name
  discard constantDirectives

/-- The values of an enum, and whether there are any. -/
def enumValues : Reader Bool := do
  return !(← optionalMany .braceLeft enumValue .braceRight).isEmpty

def inputFields : Reader Bool := do
  return !(← optionalMany .braceLeft inputValue .braceRight).isEmpty

/-- The places where a directive may be used. -/
def directiveLocations : List String :=
  ["QUERY", "MUTATION", "SUBSCRIPTION", "FIELD", "FRAGMENT_DEFINITION", "FRAGMENT_SPREAD",
    "INLINE_FRAGMENT", "VARIABLE_DEFINITION", "SCHEMA", "SCALAR", "OBJECT", "FIELD_DEFINITION",
    "ARGUMENT_DEFINITION", "INTERFACE", "UNION", "ENUM", "ENUM_VALUE", "INPUT_OBJECT",
    "INPUT_FIELD_DEFINITION"]

def directiveLocation : Reader Unit := do
  let token ← current
  let word ← name
  if !directiveLocations.contains word then refuseAt token.location (.unexpected token.lexeme)

/-- What follows the keyword of a type system definition, given that keyword; nothing where the word
opens no such definition. -/
def typeSystemBody? (keyword : String) : Option (Reader Unit) :=
  match keyword with
  | "schema" => some do
    discard constantDirectives
    discard (many .braceLeft rootOperation .braceRight)
  | "scalar" => some do
    discard name
    discard constantDirectives
  | "type" | "interface" => some do
    discard name
    discard implementedInterfaces
    discard constantDirectives
    discard fieldsDefinition
  | "union" => some do
    discard name
    discard constantDirectives
    discard unionMembers
  | "enum" => some do
    discard name
    discard constantDirectives
    discard enumValues
  | "input" => some do
    discard name
    discard constantDirectives
    discard inputFields
  | "directive" => some do
    require .atSign
    discard name
    argumentDefinitions
    discard (skipKeyword "repeatable")
    requireKeyword "on"
    discard (separated .pipe directiveLocation)
  | _ => none

/-- What follows the keyword of a type system extension, and whether it extends anything. -/
def extensionBody? (keyword : String) : Option (Reader Bool) :=
  match keyword with
  | "schema" => some do
    let directed ← constantDirectives
    let roots ← optionalMany .braceLeft rootOperation .braceRight
    return directed || !roots.isEmpty
  | "scalar" => some do
    discard name
    constantDirectives
  | "type" | "interface" => some do
    discard name
    let implemented ← implementedInterfaces
    let directed ← constantDirectives
    let fields ← fieldsDefinition
    return implemented || directed || fields
  | "union" => some do
    discard name
    let directed ← constantDirectives
    let members ← unionMembers
    return directed || members
  | "enum" => some do
    discard name
    let directed ← constantDirectives
    let values ← enumValues
    return directed || values
  | "input" => some do
    discard name
    let directed ← constantDirectives
    let fields ← inputFields
    return directed || fields
  | _ => none

/-- A type system extension. An extension that adds nothing is refused where it ends. -/
def typeSystemExtension : Reader Node := do
  let place := (← current).location
  let token ← lookahead
  let body := match token.lexeme with
    | .name keyword => extensionBody? keyword
    | _ => none
  match body with
  | none => refuseAt token.location (.unexpected token.lexeme)
  | some body =>
    advance
    advance
    if !(← body) then unexpected
    return ⟨.typeSystem, none, some place⟩

/-- A type system definition, whose keyword may have a description in front of it. -/
def typeSystemDefinition (body : Reader Unit) : Reader Node := do
  let place := (← current).location
  description
  advance
  body
  return ⟨.typeSystem, none, some place⟩

/-- A definition. A description may stand in front of any definition that has a keyword, apart from
extensions. -/
def definition : Reader Node := do
  let token ← current
  if token.lexeme == .punctuator .braceLeft then
    return ⟨.operation .query none, some (← definitionSelections), some token.location⟩
  let described := match token.lexeme with
    | .string _ | .blockString _ => true
    | _ => false
  let opening ← if described then lookahead else pure token
  match opening.lexeme with
  | .name keyword =>
    match typeSystemBody? keyword with
    | some body => typeSystemDefinition body
    | none =>
      if (OperationType.ofKeyword? keyword).isSome then operation
      else if keyword == "fragment" then fragmentDefinition
      else if described then refuse .strayDescription
      else if keyword == "extend" then typeSystemExtension
      else unexpected
  | lexeme =>
    if described && lexeme == .punctuator .braceLeft then refuse .describedShorthand
    refuseAt opening.location (.unexpected lexeme)

/-- The definitions up to the end of input. `done` holds those already read, latest first. -/
def definitions (done : List Node) (stream : Stream) : Except SyntaxError (List Node) :=
  match definition stream with
  | .error problem => .error problem
  | .ok (found, next) =>
    if next.current.lexeme = .endOfInput then .ok (found :: done).reverse
    else if next.left < stream.left then definitions (found :: done) next
    else .error ⟨.unexpected next.current.lexeme, next.current.location⟩
termination_by stream.left

end Grammar

namespace Document

/-- The document that a text holds. -/
def parse (source : String) : Except SyntaxError Document :=
  match Tokens.ofText source.toList with
  | ⟨[], some problem⟩ => .error problem
  | ⟨[], none⟩ => .error ⟨.unexpected .endOfInput, .start⟩
  | ⟨token :: later, stop⟩ =>
    match Grammar.definitions [] ⟨token, later, later.length, stop⟩ with
    | .ok definitions => .ok ⟨definitions⟩
    | .error problem => .error problem

end Document

end QueryDepth
