import SelectGraph.Json.Token
import SelectGraph.Text.Quoted

/-!
# Faults in JSON texts

A machine that takes one character at a time says where a text stops being JSON, and what was
expected there.
-/

namespace SelectGraph.Json

inductive Place where
  | value
  | key
  | afterKey
  | afterMember
  | afterItem
  | afterAll
  | string
  | escape (found : List Char)
  | number
  | literal (word : String) (expected : Char)
  deriving DecidableEq

inductive Fault where
  | unfinished
  | empty
  | unexpected (found : Char) (place : Place)
  | nesting
  deriving DecidableEq

def quoteChar (c : Char) : String :=
  let inner := if c = '"' then "\"" else if c = '\'' then "\\'" else
    String.ofList (((Text.quote (String.singleton c)).toList.drop 1).dropLast)
  "'" ++ inner ++ "'"

def Fault.message : Fault → String
  | .unfinished => "unexpected end of JSON input"
  | .empty => "EOF"
  | .nesting => "exceeded max depth"
  | .unexpected _ (.escape found) =>
    "invalid escape sequence " ++ Text.quote (String.ofList found) ++ " in string"
  | .unexpected found place =>
    "invalid character " ++ quoteChar found ++ " " ++ match place with
      | .value => "looking for beginning of value"
      | .key => "looking for beginning of object key string"
      | .afterKey => "after object key"
      | .afterMember => "after object key:value pair"
      | .afterItem => "after array element"
      | .afterAll => "after top-level value"
      | .string => "in string"
      | .number => "in numeric literal"
      | .literal word expected => "in literal " ++ word ++ " (expecting " ++ quoteChar expected ++ ")"
      | .escape _ => ""

/-- What stands open around the place of a machine. -/
inductive Opened where
  | key
  | member
  | item
  deriving DecidableEq

/-- What a machine is reading. -/
inductive Phase where
  | value
  | valueOrEnd
  | key
  | keyOrEnd
  | ended
  | string
  | escape
  | hex (read : List Char) (left : Nat)
  | negative
  | zero
  | digits
  | point
  | fraction
  | exponent
  | exponentSign
  | exponentDigits
  | literal (word : String) (left : List Char)
  deriving DecidableEq

structure Machine where
  phase : Phase := .value
  opened : List Opened := []
  deriving DecidableEq

namespace Machine

def resume (machine : Machine) (phase : Phase) : Except Fault Machine :=
  .ok { machine with phase }

/-- Open an array or an object, at most ten thousand deep. -/
def enter (machine : Machine) (opened : Opened) (phase : Phase) : Except Fault Machine :=
  if machine.opened.length < 10000 then .ok ⟨phase, opened :: machine.opened⟩
  else .error .nesting

def begin (machine : Machine) (c : Char) : Except Fault Machine :=
  match c with
  | '{' => machine.enter .key .keyOrEnd
  | '[' => machine.enter .item .valueOrEnd
  | '"' => machine.resume .string
  | '-' => machine.resume .negative
  | '0' => machine.resume .zero
  | 't' => machine.resume (.literal "true" ['r', 'u', 'e'])
  | 'f' => machine.resume (.literal "false" ['a', 'l', 's', 'e'])
  | 'n' => machine.resume (.literal "null" ['u', 'l', 'l'])
  | _ => if Text.isDigit c then machine.resume .digits else .error (.unexpected c .value)

def after (machine : Machine) (c : Char) : Except Fault Machine :=
  if isBlank c then machine.resume .ended
  else
    match machine.opened with
    | [] => .error (.unexpected c .afterAll)
    | .key :: outer =>
      if c = ':' then .ok ⟨.value, .member :: outer⟩ else .error (.unexpected c .afterKey)
    | .member :: outer =>
      if c = ',' then .ok ⟨.key, .key :: outer⟩
      else if c = '}' then .ok ⟨.ended, outer⟩
      else .error (.unexpected c .afterMember)
    | .item :: outer =>
      if c = ',' then .ok ⟨.value, .item :: outer⟩
      else if c = ']' then .ok ⟨.ended, outer⟩
      else .error (.unexpected c .afterItem)

def beginKey (machine : Machine) (c : Char) : Except Fault Machine :=
  if isBlank c then .ok machine
  else if c = '"' then machine.resume .string
  else .error (.unexpected c .key)

def digit (machine : Machine) (c : Char) (next : Phase) : Except Fault Machine :=
  if Text.isDigit c then machine.resume next else .error (.unexpected c .number)

def afterWhole (machine : Machine) (c : Char) : Except Fault Machine :=
  if c = '.' then machine.resume .point
  else if c = 'e' ∨ c = 'E' then machine.resume .exponent
  else machine.after c

def step (machine : Machine) (c : Char) : Except Fault Machine :=
  match machine.phase with
  | .value => if isBlank c then .ok machine else machine.begin c
  | .valueOrEnd =>
    if isBlank c then .ok machine
    else if c = ']' then .ok ⟨.ended, machine.opened.tail⟩
    else machine.begin c
  | .key => machine.beginKey c
  | .keyOrEnd =>
    if c = '}' then .ok ⟨.ended, machine.opened.tail⟩ else machine.beginKey c
  | .ended => machine.after c
  | .string =>
    if c = '"' then machine.resume .ended
    else if c = '\\' then machine.resume .escape
    else if c.toNat < 0x20 then .error (.unexpected c .string)
    else .ok machine
  | .escape =>
    if c = 'u' then machine.resume (.hex ['\\', 'u'] 4)
    else if (shortEscape? c).isSome then machine.resume .string
    else .error (.unexpected c (.escape ['\\', c]))
  | .hex read left =>
    if (Text.hexValue? c).isSome then
      if left ≤ 1 then machine.resume .string else machine.resume (.hex (read ++ [c]) (left - 1))
    else .error (.unexpected c (.escape (read ++ [c])))
  | .negative =>
    if c = '0' then machine.resume .zero else machine.digit c .digits
  | .zero => machine.afterWhole c
  | .digits => if Text.isDigit c then .ok machine else machine.afterWhole c
  | .point => machine.digit c .fraction
  | .fraction =>
    if Text.isDigit c then .ok machine
    else if c = 'e' ∨ c = 'E' then machine.resume .exponent
    else machine.after c
  | .exponent =>
    if c = '+' ∨ c = '-' then machine.resume .exponentSign else machine.digit c .exponentDigits
  | .exponentSign => machine.digit c .exponentDigits
  | .exponentDigits => if Text.isDigit c then .ok machine else machine.after c
  | .literal word left =>
    match left with
    | expected :: rest =>
      if c = expected then
        if rest.isEmpty then machine.resume .ended else machine.resume (.literal word rest)
      else .error (.unexpected c (.literal word expected))
    | [] => machine.after c

def isDone (machine : Machine) : Bool :=
  machine.opened.isEmpty && match machine.phase with
    | .ended | .zero | .digits | .fraction | .exponentDigits => true
    | _ => false

def run (machine : Machine) : List Char → Option Fault
  | [] => if machine.isDone then none else some .unfinished
  | c :: rest =>
    match machine.step c with
    | .ok next => next.run rest
    | .error fault => some fault

end Machine

def fault? (source : String) : Option Fault :=
  if source.toList.all isBlank then some .empty else Machine.run {} source.toList

/-- The first fault of a text, given that there is one. -/
def faultOf (source : String) : Fault :=
  (fault? source).getD .unfinished

end SelectGraph.Json
