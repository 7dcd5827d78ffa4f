import SelectGraph.GraphQL.Document
import SelectGraph.GraphQL.Token

/-!
# Reading documents

A reader takes tokens from the front of a list and looks at no more than one token ahead, or
two where a description may precede a definition. A fault of scanning is reported when the
reader moves onto it. Every repetition takes at least one token per round, so the number of
tokens bounds all rounds.
-/

namespace SelectGraph.GraphQL

/-- What is left to read: the token at hand and what scanning found after it. -/
structure Cursor where
  token : Token
  rest : List Lexeme

abbrev Reader := StateT Cursor (Except SyntaxFault)

namespace Reader

def token : Reader Token := do
  return (← get).token

def fail {α : Type} (position : Nat) (description : String) : Reader α :=
  throw ⟨position, description⟩

/-- Move to the next token. At the end of the document the token at hand stays. -/
def advance : Reader Unit := do
  match (← get).rest with
  | [] => return ()
  | .fault fault :: _ => throw fault
  | .token next :: rest => set { token := next, rest : Cursor }

def lookahead : Reader Token := do
  match (← get).rest with
  | [] => token
  | .fault fault :: _ => throw fault
  | .token next :: _ => return next

def peek (kind : TokenKind) : Reader Bool := do
  return decide ((← token).kind = kind)

def skip (kind : TokenKind) : Reader Bool := do
  if ← peek kind then
    advance
    return true
  else return false

def expect (kind : TokenKind) : Reader Token := do
  let found ← token
  if found.kind = kind then
    advance
    return found
  else fail found.start ("Expected " ++ kind.word ++ ", found " ++ found.describe)

def expectWord (word : String) : Reader Unit := do
  let found ← token
  if found.kind = .name ∧ found.value = word then advance
  else fail found.start ("Expected \"" ++ word ++ "\", found " ++ found.describe)

def unexpected {α : Type} (found : Token) : Reader α :=
  fail found.start ("Unexpected " ++ found.describe)

def name : Reader Name := do
  let found ← expect .name
  return ⟨found.value, found.start⟩

/-- Read items up to a closing token; the count bounds their number. -/
def itemsUntil {α : Type} (close : TokenKind) (item : Reader α) : (count : Nat) → Reader (List α)
  | 0 => return []
  | count + 1 => do
      if ← skip close then return []
      else
        let first ← item
        let others ← itemsUntil close item count
        return first :: others

def between {α : Type} (count : Nat) (opening close : TokenKind) (item : Reader α) :
    Reader (List α) := do
  let _ ← expect opening
  itemsUntil close item count

def someBetween {α : Type} (count : Nat) (opening close : TokenKind) (item : Reader α) :
    Reader (List α) := do
  let first ← expect opening
  let items ← itemsUntil close item count
  if items.isEmpty then fail first.start ("Unexpected empty IN " ++ opening.word ++ close.word)
  else return items

def separated {α : Type} (separator : TokenKind) (item : Reader α) : (count : Nat) → Reader (List α)
  | 0 => return []
  | count + 1 => do
      let first ← item
      if ← skip separator then
        let others ← separated separator item count
        return first :: others
      else return [first]

def variableUse : Reader Value := do
  let start := (← token).start
  let _ ← expect .dollar
  return .variable (← name) start

/-- Read a value. Inside constants no variable is allowed. The count bounds nesting and items. -/
def value (constant : Bool) : (count : Nat) → Reader Value
  | 0 => do unexpected (← token)
  | count + 1 => do
      let found ← token
      match found.kind with
      | .bracketOpen =>
        return .list (← between count .bracketOpen .bracketClose (value constant count)) found.start
      | .braceOpen =>
        let field : Reader (Name × Value) := do
          let key ← name
          let _ ← expect .colon
          return (key, ← value constant count)
        return .object (← between count .braceOpen .braceClose field) found.start
      | .int => advance; return .int found.value found.start
      | .float => advance; return .float found.value found.start
      | .string => advance; return .string found.value found.start
      | .blockString => advance; return .string found.value found.start
      | .name =>
        if found.value = "true" ∨ found.value = "false" then
          advance
          return .boolean (decide (found.value = "true")) found.start
        else if found.value = "null" then unexpected found
        else
          advance
          return .enum found.value found.start
      | .dollar => if constant then unexpected found else variableUse
      | _ => unexpected found

/-- Read a reference to a type. A list takes whatever token follows its item as its end, and where
nothing begins a type, none is read. -/
def typeRef : (count : Nat) → Reader TypeRef
  | 0 => return .missing
  | count + 1 => do
      let found ← token
      let type : TypeRef ← match found.kind with
        | .bracketOpen => do
            advance
            let item ← typeRef count
            advance
            pure (.list item found.start)
        | .bracketClose => do
            advance
            pure (.list .missing found.start)
        | .name => do pure (.named (← name))
        | _ => pure .missing
      if ← skip .bang then return .nonNull type found.start else return type

def arguments (constant : Bool) (count : Nat) : Reader (List Argument) := do
  if ← peek .parenOpen then
    someBetween count .parenOpen .parenClose do
      let key ← name
      let _ ← expect .colon
      return ⟨key, ← value constant count⟩
  else return []

def directives (bound : Nat) : (count : Nat) → Reader (List Directive)
  | 0 => return []
  | count + 1 => do
      if ← peek .at then
        let start := (← token).start
        let _ ← expect .at
        let key ← name
        let given ← arguments false bound
        let others ← directives bound count
        return ⟨key, given, start⟩ :: others
      else return []

def fragmentName : Reader Name := do
  let found ← token
  if found.value = "on" then unexpected found else name

def selection : (count : Nat) → Reader Selection
  | 0 => do unexpected (← token)
  | count + 1 => do
      let start := (← token).start
      let sels := someBetween count .braceOpen .braceClose (selection count)
      if ← skip .spread then
        let found ← token
        if found.kind = .name ∧ found.value ≠ "on" then
          let key ← fragmentName
          return .spread key (← directives count count) start
        else
          let condition? ←
            if found.value = "on" then do
              advance
              pure (some (← name))
            else pure none
          let given ← directives count count
          let setStart := (← token).start
          return .inline condition? given (← sels) start setStart
      else
        let first ← name
        let (responseName?, key) ←
          if ← skip .colon then do pure (some first, ← name) else pure (none, first)
        let given ← arguments false count
        let attached ← directives count count
        let setStart := (← token).start
        let inner ← if ← peek .braceOpen then sels else pure []
        return .field responseName? key given attached inner start setStart

def selectionSet (count : Nat) : Reader (List Selection) :=
  someBetween count .braceOpen .braceClose (selection count)

def operationKind : Reader OperationKind := do
  let found ← expect .name
  match found.value with
  | "query" => return .query
  | "mutation" => return .mutation
  | "subscription" => return .subscription
  | _ => unexpected found

def variableDefinition (count : Nat) : Reader VariableDefinition := do
  let start := (← token).start
  let _ ← expect .dollar
  let key ← name
  let _ ← expect .colon
  let type ← typeRef count
  let default? ← if ← skip .equals then do pure (some (← value true count)) else pure none
  return ⟨key, type, default?, start⟩

/-- Read an operation; one without a keyword is a query. -/
def operation (count : Nat) : Reader Operation := do
  let start := (← token).start
  if ← peek .braceOpen then
    let sels ← selectionSet count
    return ⟨.query, none, [], [], sels, start, start⟩
  else
    let kind ← operationKind
    let name? ← if ← peek .name then do pure (some (← name)) else pure none
    let declared ←
      if ← peek .parenOpen then someBetween count .parenOpen .parenClose (variableDefinition count)
      else pure []
    let attached ← directives count count
    let setStart := (← token).start
    let sels ← selectionSet count
    return ⟨kind, name?, declared, attached, sels, start, setStart⟩

def fragment (count : Nat) : Reader Fragment := do
  let start := (← token).start
  expectWord "fragment"
  let key ← fragmentName
  expectWord "on"
  let condition ← name
  let attached ← directives count count
  let setStart := (← token).start
  let sels ← selectionSet count
  return ⟨key, condition, attached, sels, start, setStart⟩

def description : Reader Unit := do
  if (← peek .string) || (← peek .blockString) then advance

/-- Read an argument of a field of a type, or a field of an input type. -/
def inputDefinition (count : Nat) : Reader InputDefinition := do
  description
  let key ← name
  let _ ← expect .colon
  let type ← typeRef count
  let default? ← if ← skip .equals then do pure (some (← value true count)) else pure none
  let marks ← directives count count
  return ⟨key, type, default?, marks⟩

def argumentDefinitions (count : Nat) : Reader (List InputDefinition) := do
  if ← peek .parenOpen then someBetween count .parenOpen .parenClose (inputDefinition count)
  else return []

def fieldDefinition (count : Nat) : Reader FieldDefinition := do
  description
  let key ← name
  let given ← argumentDefinitions count
  let _ ← expect .colon
  let type ← typeRef count
  let marks ← directives count count
  return ⟨key, given, type, marks⟩

def interfaces (count : Nat) : Reader (List Name) := do
  if (← token).value = "implements" then
    advance
    let _ ← skip .amp
    separated .amp name count
  else return []

def objectDefinition (count : Nat) : Reader ObjectDefinition := do
  description
  expectWord "type"
  let key ← name
  let implemented ← interfaces count
  let marks ← directives count count
  let fields ← between count .braceOpen .braceClose (fieldDefinition count)
  return ⟨key, implemented, marks, fields⟩

/-- Read a definition that begins with a keyword, or with a description before its keyword. -/
def keywordDefinition (count : Nat) (word : Token) : Reader Definition := do
  match word.kind, word.value with
  | .name, "query" | .name, "mutation" | .name, "subscription" =>
    return .operation (← operation count)
  | .name, "fragment" => return .fragment (← fragment count)
  | .name, "schema" =>
    expectWord "schema"
    let marks ← directives count count
    let types ← someBetween count .braceOpen .braceClose do
      let kind ← operationKind
      let _ ← expect .colon
      return (kind, ← name)
    return .schema marks types
  | .name, "scalar" =>
    description
    expectWord "scalar"
    let key ← name
    return .scalar key (← directives count count)
  | .name, "type" => return .object (← objectDefinition count)
  | .name, "interface" =>
    description
    expectWord "interface"
    let key ← name
    let marks ← directives count count
    return .interface
      ⟨key, [], marks, ← between count .braceOpen .braceClose (fieldDefinition count)⟩
  | .name, "union" =>
    description
    expectWord "union"
    let key ← name
    let marks ← directives count count
    let _ ← expect .equals
    let _ ← separated .pipe name count
    return .union key marks
  | .name, "enum" =>
    description
    expectWord "enum"
    let key ← name
    let marks ← directives count count
    let values ← between count .braceOpen .braceClose do
      description
      let member ← name
      return EnumValue.mk member (← directives count count)
    return .enum key marks values
  | .name, "input" =>
    description
    expectWord "input"
    let key ← name
    let marks ← directives count count
    return .input key marks (← between count .braceOpen .braceClose (inputDefinition count))
  | .name, "extend" =>
    expectWord "extend"
    return .extension (← objectDefinition count)
  | .name, "directive" =>
    description
    expectWord "directive"
    let _ ← expect .at
    let key ← name
    let given ← argumentDefinitions count
    expectWord "on"
    let _ ← separated .pipe name count
    return .directive key given
  | _, _ => unexpected word

def definition (count : Nat) : Reader Definition := do
  let found ← token
  match found.kind with
  | .braceOpen => return .operation (← operation count)
  | .name => keywordDefinition count found
  | .string | .blockString => keywordDefinition count (← lookahead)
  | _ => unexpected found

def definitions (bound : Nat) : (count : Nat) → Reader (List Definition)
  | 0 => return []
  | count + 1 => do
      if ← peek .endOfInput then return []
      else
        let first ← definition bound
        let others ← definitions bound count
        return first :: others

end Reader

def Document.ofLexemes (lexemes : List Lexeme) : Except SyntaxFault Document :=
  match lexemes with
  | [] => .ok ⟨[]⟩
  | .fault fault :: _ => .error fault
  | .token first :: rest =>
    let bound := rest.length + 1
    ((Reader.definitions bound (bound + 1)).run { token := first, rest }).map fun (found, _) => ⟨found⟩

def Source.document (source : Source) : Except SyntaxFault Document :=
  Document.ofLexemes source.lexemes

end SelectGraph.GraphQL
