import SelectGraph.CommandLine.Flags
import SelectGraph.Config.Value

/-!
# Layers of settings

A setting is looked for on the command line, then in the environment, then in the file. A setting
that is found nowhere keeps its standard value. A setting that the file names and nobody asks for is
unknown.
-/

namespace SelectGraph.Config

/-- Where settings are looked for. -/
structure Layers where
  given : List (String × Value) := []
  environment : List (String × String) := []
  file : Value := .group []

/-- The outcome of looking for a setting. A setting is hidden when the environment holds a value for
the group that it belongs to. -/
inductive Found where
  | value (value : Value)
  | standard
  | hidden

namespace Layers

def ofFlag : CommandLine.FlagValue → Value
  | .text value => .text value
  | .switch value => .bool value
  | .integer value => .integer value
  | .double value => .double value
  | .duration value => .integer value.nanoseconds
  | .texts values => .list (values.map .text)
  | .pairs values => .group (values.map fun (name, value) => (name, .text value))

/-- The variable of the environment that holds a setting. -/
def variableName (path : List String) : String :=
  "GQL2SQL_" ++ String.ofList ((Text.join "_" path).toList.map fun c =>
    if c == '.' || c == '-' then '_' else Text.upperAscii c)

/-- The value of a setting in the environment; an empty one does not count. -/
def inEnvironment? (layers : Layers) (path : List String) : Option String :=
  (layers.environment.lookup (variableName path)).filter fun value => !value.isEmpty

def groups (path : List String) : List (List String) :=
  (List.range (path.length - 1)).map fun index => path.take (index + 1)

/-- Look for a setting. Below a group that the file leaves empty, the environment is not asked. -/
def find (layers : Layers) (path : List String) : Found :=
  match layers.given.lookup (Text.join "." path) with
  | some value => .value value
  | none =>
    let isBlank := (groups path).any fun group => (layers.file.at? group).any Value.isNull
    match if isBlank then none else layers.inEnvironment? path with
    | some text => .value (.text text)
    | none =>
      if (groups path).any fun group => (layers.inEnvironment? group).isSome then .hidden
      else
        match layers.file.at? path with
        | none | some .null => .standard
        | some value => .value value

def value? (layers : Layers) (path : List String) : Option Value :=
  match layers.find path with
  | .value value => some value
  | .standard | .hidden => none

end Layers

/-- A setting that was asked for; below a map every key is known. -/
structure Asked where
  path : List String
  isMap : Bool
  deriving DecidableEq

/-- Whether a path is known once a setting has been asked for. -/
def Asked.covers (asked : Asked) (path : List String) : Bool :=
  path == asked.path || (asked.isMap && asked.path.isPrefixOf path)

/-- Reading settings from layers, remembering what was asked for. It fails when a value does not fit
its setting. -/
abbrev Reading := ReaderT Layers (StateT (List Asked) Option)

namespace Reading

def fit {α : Type} : Option α → Reading α
  | some value => return value
  | none => failure

def setting {α : Type} [Inhabited α] (read? : Value → Option α) (name : String) (standard : α) :
    Reading α := do
  let path := Text.split name '.'
  modify (⟨path, false⟩ :: ·)
  match (← read).find path with
  | .value value => fit (read? value)
  | .standard => return standard
  | .hidden => return default

def text (name : String) (standard : String) : Reading String :=
  setting Value.asText? name standard

def integer (name : String) (standard : Int) : Reading Int :=
  setting Value.asInt? name standard

def switch (name : String) (standard : Bool) : Reading Bool :=
  setting Value.asBool? name standard

def double (name : String) (standard : Double) : Reading Double :=
  setting Value.asDouble? name standard

def duration (name : String) (standard : Duration) : Reading Duration :=
  setting Value.asDuration? name standard

def texts (name : String) (standard : List String) : Reading (List String) :=
  setting Value.asTexts? name standard

/-- Read a map of texts; each of its values may also stand in the environment. -/
def textMap (name : String) : Reading (List (String × String)) := do
  let path := Text.split name '.'
  modify (⟨path, true⟩ :: ·)
  let layers ← read
  match layers.find path with
  | .value (.group entries) =>
    let found := entries.map fun (key, value) =>
      (key, (layers.value? (path ++ Text.split key '.')).getD value)
    fit (Value.group found).asTextMap?
  | .value value => fit value.asTextMap?
  | .standard | .hidden => return []

/-- Whether the file names a setting below a path, and a value for it is found. -/
def mentions (path : List String) : Reading Bool := do
  let layers ← read
  return (layers.file.leaves []).any fun (leaf, _) =>
    path.isPrefixOf leaf && path != leaf && (layers.value? leaf).isSome

/-- Read something of which nothing but the file knows: the other layers count only for settings
that the file names. -/
def withinFile {α : Type} (action : Reading α) : Reading α := do
  let layers ← read
  let named := (layers.file.leaves []).filterMap fun (leaf, _) =>
    (layers.inEnvironment? leaf).map fun value => (Layers.variableName leaf, value)
  withReader (fun layers => { layers with environment := named }) action

/-- Read settings from layers, all of which must be known in the end. -/
def run {α : Type} (action : Reading α) (layers : Layers) : Option α := do
  let (result, asked) ← (ReaderT.run action layers).run []
  let isKnown := (layers.file.leaves []).all fun (leaf, _) =>
    asked.any (·.covers leaf) || (layers.value? leaf).isNone
  if isKnown then some result else none

end Reading

end SelectGraph.Config
