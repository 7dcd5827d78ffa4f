import SelectGraph.Number.Written
import SelectGraph.Time.Duration

/-!
# Flags

Arguments of a command are flags and operands in any order. A flag has a long name after two
hyphens and perhaps a letter after one; its value follows an equals sign or is the next argument.
Two hyphens alone end the flags.
-/

namespace SelectGraph.Text

/-! ## Comma separated values

One record of fields with commas between them. A field may stand in quotes, in which a quote is
written twice. -/

/-- The rest of a quoted field: its content and what follows the closing quote. -/
def quotedField? : List Char → Option (List Char × List Char)
  | [] => none
  | '"' :: '"' :: rest => (quotedField? rest).map fun (field, rest) => ('"' :: field, rest)
  | c :: rest =>
    if c = '"' then some ([], rest)
    else (quotedField? rest).map fun (field, rest) => (c :: field, rest)

/-- The fields of a record. The count bounds how many there are. -/
def csvFields? : (count : Nat) → List Char → Option (List String)
  | 0, _ => none
  | count + 1, chars =>
    let finish (field : List Char) (rest : List Char) : Option (List String) :=
      match rest with
      | [] => some [String.ofList field]
      | c :: rest =>
        if c = ',' then (csvFields? count rest).map (String.ofList field :: ·)
        else if c = '\n' then some [String.ofList field]
        else none
    match chars with
    | '"' :: rest =>
      match quotedField? rest with
      | some (field, rest) => finish field rest
      | none => none
    | _ =>
      let field := chars.takeWhile fun c => c != ',' && c != '\n'
      if field.contains '"' then none else finish field (chars.drop field.length)

/-- The fields of the first record of a text; empty lines before it are skipped. -/
def csvRecord? (text : String) : Option (List String) :=
  match text.toList.dropWhile (· == '\n') with
  | [] => none
  | chars => csvFields? (chars.length + 1) chars

end SelectGraph.Text

namespace SelectGraph.CommandLine

inductive FlagKind where
  | text
  | switch
  | integer
  | double
  | duration
  | texts
  | pairs
  deriving DecidableEq

structure Flag where
  name : String
  kind : FlagKind
  letter? : Option Char := none
  deriving DecidableEq

inductive FlagValue where
  | text (value : String)
  | switch (value : Bool)
  | integer (value : Int)
  | double (value : Double)
  | duration (value : Duration)
  | texts (values : List String)
  | pairs (values : List (String × String))

inductive FlagFault where
  | help
  | syntaxFault (arg : String)
  | unknown (name : String)
  | missingValue (name : String)
  | badValue (name value : String)
  deriving DecidableEq

/-- The flags that were given, each once with its last value, and the operands. -/
structure Parsed where
  values : List (String × FlagValue) := []
  operands : List String := []

def setPair {α : Type} (name : String) (value : α) (pairs : List (String × α)) :
    List (String × α) :=
  if pairs.any (·.1 == name) then
    pairs.map fun entry => if entry.1 == name then (name, value) else entry
  else pairs ++ [(name, value)]

def dropQuotes (text : String) : String :=
  String.ofList (Text.trimChars (· == '"') text.toList)

def pairsOf? (value : String) : Option (List (String × String)) := do
  let marks := (value.toList.filter (· == '=')).length
  let items ←
    if marks = 0 then none
    else if marks = 1 then some [dropQuotes value]
    else Text.csvRecord? value
  items.mapM fun item => Text.cut? item "="

def readValue? (kind : FlagKind) (old? : Option FlagValue) (value : String) : Option FlagValue :=
  match kind with
  | .text => some (.text value)
  | .switch => (Written.bool? value).map .switch
  | .integer => (Written.int? value).map .integer
  | .double => (Written.double? value).map .double
  | .duration => (Duration.read value).toOption.map .duration
  | .texts =>
    let items? := if value = "" then some [] else Text.csvRecord? value
    match old? with
    | some (.texts old) => items?.map fun items => .texts (old ++ items)
    | _ => items?.map .texts
  | .pairs =>
    match old? with
    | some (.pairs old) => (pairsOf? value).map fun pairs =>
      .pairs (pairs.foldl (fun found (name, text) => setPair name text found) old)
    | _ => (pairsOf? value).map fun pairs =>
      .pairs (pairs.foldl (fun found (name, text) => setPair name text found) [])

def Parsed.set (parsed : Parsed) (flag : Flag) (value : String) : Except FlagFault Parsed :=
  match readValue? flag.kind (parsed.values.lookup flag.name) value with
  | some found => .ok { parsed with values := setPair flag.name found parsed.values }
  | none => .error (.badValue flag.name value)

/-- The value of a flag without one in its argument: a switch is on, any other flag takes the next
argument. -/
def valueAfter (flag : Flag) : List String → Except FlagFault (String × List String)
  | rest =>
    if flag.kind = .switch then .ok ("true", rest)
    else
      match rest with
      | value :: rest => .ok (value, rest)
      | [] => .error (.missingValue flag.name)

def takeLong (flags : List Flag) (body : String) (rest : List String) (parsed : Parsed) :
    Except FlagFault (Parsed × List String) := do
  if body = "" ∨ Text.startsWith body "-" ∨ Text.startsWith body "=" then
    throw (FlagFault.syntaxFault ("--" ++ body))
  let (name, value?) := match Text.cut? body "=" with
    | some (name, value) => (name, some value)
    | none => (body, none)
  match flags.find? fun flag => flag.name == name with
  | none => throw (if name = "help" then FlagFault.help else FlagFault.unknown name)
  | some flag =>
    let (value, rest) ← match value? with
      | some value => pure (value, rest)
      | none => valueAfter flag rest
    return (← parsed.set flag value, rest)

def takeLetters (flags : List Flag) (rest : List String) :
    (letters : List Char) → Parsed → Except FlagFault (Parsed × List String)
  | [], parsed => .ok (parsed, rest)
  | letter :: letters, parsed => do
      match flags.find? fun flag => flag.letter? == some letter with
      | none =>
        throw (if letter = 'h' then FlagFault.help else FlagFault.unknown (String.singleton letter))
      | some flag =>
        match letters with
        | '=' :: value :: more =>
          return (← parsed.set flag (String.ofList (value :: more)), rest)
        | _ =>
          if flag.kind = .switch then
            takeLetters flags rest letters (← parsed.set flag "true")
          else if letters.isEmpty then
            let (value, rest) ← valueAfter flag rest
            return (← parsed.set flag value, rest)
          else return (← parsed.set flag (String.ofList letters), rest)

/-- Read arguments. The count bounds how many there are. -/
def readWithin (flags : List Flag) :
    (count : Nat) → List String → Parsed → Except FlagFault Parsed
  | 0, _, parsed => .ok parsed
  | _ + 1, [], parsed => .ok parsed
  | count + 1, arg :: rest, parsed => do
      match arg.toList with
      | ['-', '-'] => return { parsed with operands := parsed.operands ++ rest }
      | '-' :: '-' :: body =>
        let (parsed, rest) ← takeLong flags (String.ofList body) rest parsed
        readWithin flags count rest parsed
      | '-' :: letter :: letters =>
        let (parsed, rest) ← takeLetters flags rest (letter :: letters) parsed
        readWithin flags count rest parsed
      | _ => readWithin flags count rest { parsed with operands := parsed.operands ++ [arg] }

def readFlags (flags : List Flag) (args : List String) : Except FlagFault Parsed :=
  readWithin flags (args.length + 1) args {}

namespace Parsed

def textOf (parsed : Parsed) (name : String) (default : String) : String :=
  match parsed.values.lookup name with
  | some (.text value) => value
  | _ => default

def switchOf (parsed : Parsed) (name : String) (default : Bool) : Bool :=
  match parsed.values.lookup name with
  | some (.switch value) => value
  | _ => default

def pairsOf (parsed : Parsed) (name : String) : List (String × String) :=
  match parsed.values.lookup name with
  | some (.pairs values) => values
  | _ => []

end Parsed

end SelectGraph.CommandLine
