import SelectGraph.Json.Token

/-!
# Reading JSON values

A reader is a machine that takes one token at a time and keeps the open arrays and
objects on a stack. What the values are is left to an `Algebra`, so that numbers can be
converted, and refused, at the place where they stand.
-/

namespace SelectGraph.Json

/-- How the values of a reader are made. -/
structure Algebra (α ε : Type) where
  null : α
  bool : Bool → α
  text : String → α
  number : String → Except ε α
  list : List α → α
  object : List (String × α) → α
  syntaxError : ε

/-- An array or an object whose end has not been read; its parts stand in reverse. -/
inductive Frame (α : Type) where
  | list (items : List α)
  | object (fields : List (String × α)) (key : String)

/-- What may come next. -/
inductive Expected where
  | value
  | firstItem
  | itemEnd
  | firstKey
  | key
  | colon
  | fieldEnd
  | nothing
  deriving DecidableEq

/-- The state of a reader: the open frames, what may come next, and the value once read. -/
structure State (α : Type) where
  frames : List (Frame α)
  expected : Expected
  result : Option α

def State.initial {α : Type} : State α := ⟨[], .value, none⟩

def Expected.admitsValue : Expected → Bool
  | .value | .firstItem => true
  | _ => false

def State.finish {α : Type} (frames : List (Frame α)) (value : α) : State α :=
  match frames with
  | [] => ⟨[], .nothing, some value⟩
  | .list items :: outer => ⟨.list (value :: items) :: outer, .itemEnd, none⟩
  | .object fields key :: outer => ⟨.object ((key, value) :: fields) key :: outer, .fieldEnd, none⟩

variable {α ε : Type}

def State.scalar (algebra : Algebra α ε) (state : State α) (value : α) : Except ε (State α) :=
  if state.expected.admitsValue then .ok (State.finish state.frames value)
  else .error algebra.syntaxError

def State.step (algebra : Algebra α ε) (state : State α) (token : Token) : Except ε (State α) :=
  match token with
  | .null => state.scalar algebra algebra.null
  | .bool value => state.scalar algebra (algebra.bool value)
  | .number digits =>
    if state.expected.admitsValue then do
      let value ← algebra.number digits
      return State.finish state.frames value
    else .error algebra.syntaxError
  | .text value =>
    if state.expected = .firstKey ∨ state.expected = .key then
      match state.frames with
      | .object fields _ :: outer => .ok ⟨.object fields value :: outer, .colon, none⟩
      | _ => .error algebra.syntaxError
    else state.scalar algebra (algebra.text value)
  | .openBracket =>
    if state.expected.admitsValue then .ok ⟨.list [] :: state.frames, .firstItem, none⟩
    else .error algebra.syntaxError
  | .openBrace =>
    if state.expected.admitsValue then .ok ⟨.object [] "" :: state.frames, .firstKey, none⟩
    else .error algebra.syntaxError
  | .closeBracket =>
    if state.expected = .firstItem ∨ state.expected = .itemEnd then
      match state.frames with
      | .list items :: outer => .ok (State.finish outer (algebra.list items.reverse))
      | _ => .error algebra.syntaxError
    else .error algebra.syntaxError
  | .closeBrace =>
    if state.expected = .firstKey ∨ state.expected = .fieldEnd then
      match state.frames with
      | .object fields _ :: outer => .ok (State.finish outer (algebra.object fields.reverse))
      | _ => .error algebra.syntaxError
    else .error algebra.syntaxError
  | .colon =>
    if state.expected = .colon then .ok { state with expected := .value }
    else .error algebra.syntaxError
  | .comma =>
    if state.expected = .itemEnd then .ok { state with expected := .value }
    else if state.expected = .fieldEnd then .ok { state with expected := .key }
    else .error algebra.syntaxError
  | .malformed => .error algebra.syntaxError

/-- Take tokens until a value is complete; the value and the tokens after it. -/
def State.run (algebra : Algebra α ε) (state : State α) :
    List Token → Except ε (α × List Token)
  | [] =>
    match state.result with
    | some value => .ok (value, [])
    | none => .error algebra.syntaxError
  | token :: rest =>
    match state.result with
    | some value => .ok (value, token :: rest)
    | none => do
        let next ← state.step algebra token
        next.run algebra rest

def readValue (algebra : Algebra α ε) (source : List Token) : Except ε (α × List Token) :=
  State.initial.run algebra source

end SelectGraph.Json
