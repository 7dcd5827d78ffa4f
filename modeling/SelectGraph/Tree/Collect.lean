import SelectGraph.Literal.Value
import SelectGraph.Schema.Basic

/-!
# Collecting fields

The fields of a selection set, with fragments expanded and skipped selections left out. Fields
under one response name become one field that selects what they select together.
-/

namespace SelectGraph.Tree

open GraphQL (Argument Directive Document Selection)

/-- Why a request has no selection tree. A `resolution` error is reported to the client; `value` is
a directive argument that cannot be read. `unfinished` is met only when fragments lead back to
themselves through fields of recurring types. -/
inductive BuildError where
  | resolution (error : ResolutionError)
  | value (error : Literal.ValueError)
  | unfinished
  deriving DecidableEq

def BuildError.unresolved (message : String) : BuildError :=
  .resolution ⟨message⟩

def BuildError.message : BuildError → String
  | .resolution error => error.message
  | .value error => error.message
  | .unfinished => "fragments lead back to themselves"

/-- A field after collection. -/
structure Field where
  responseName : String
  name : String
  arguments : List Argument
  selections : List Selection

def condition (env : Environment) (directive : Directive) : Except BuildError Bool :=
  match directive.arguments.find? fun arg => arg.name.value == "if" with
  | none => .error (.unresolved ("@" ++ directive.name.value ++ " requires an if argument"))
  | some arg =>
    match Literal.ofValue env arg.value with
    | .error error => .error (.value error)
    | .ok (some (.bool value)) => .ok value
    | .ok _ => .error (.unresolved ("@" ++ directive.name.value ++ " requires a boolean if argument"))

def included (env : Environment) : List Directive → Except BuildError Bool
  | [] => .ok true
  | directive :: dirs =>
    let name := directive.name.value
    if name = "skip" ∨ name = "include" then do
      let value ← condition env directive
      if value = decide (name = "skip") then return false
      else included env dirs
    else included env dirs

/-- Add a field: one with a new response name comes last, another is merged into the first. -/
def addField (field : Field) : List Field → List Field
  | [] => [field]
  | known :: fields =>
    if known.responseName = field.responseName then
      { known with selections := known.selections ++ field.selections } :: fields
    else known :: addField field fields

mutual

def collectOne (env : Environment) (spread : String → List Field → Except BuildError (List Field)) :
    Selection → List Field → Except BuildError (List Field)
  | .field responseName? name args dirs sels _ _, fields => do
      if ← included env dirs then
        let responseName := match responseName? with
          | some given => given.value
          | none => name.value
        return addField ⟨responseName, name.value, args, sels⟩ fields
      else return fields
  | .spread name dirs _, fields => do
      if ← included env dirs then spread name.value fields else return fields
  | .inline _ dirs sels _ _, fields => do
      if ← included env dirs then collectAll env spread sels fields
      else return fields

def collectAll (env : Environment) (spread : String → List Field → Except BuildError (List Field)) :
    List Selection → List Field → Except BuildError (List Field)
  | [], fields => .ok fields
  | sel :: sels, fields => do
      let fields ← collectOne env spread sel fields
      collectAll env spread sels fields

end

/-- Collect a fragment, knowing the fragments it is spread in. The budget bounds how deeply fragments
nest; a fragment is not spread inside itself, so their number is enough. -/
def collectFragment (doc : Document) (env : Environment) :
    (budget : Nat) → (visiting : List String) → String → List Field → Except BuildError (List Field)
  | 0, _, _, _ => .error .unfinished
  | budget + 1, visiting, name, fields =>
    match doc.fragment? name with
    | none => .error (.unresolved ("unknown fragment " ++ name))
    | some frag =>
      if name ∈ visiting then .error (.unresolved ("fragment " ++ name ++ " spreads itself"))
      else
        collectAll env (collectFragment doc env budget (name :: visiting))
          frag.selections fields

def collect (doc : Document) (env : Environment) (sels : List Selection) :
    Except BuildError (List Field) :=
  collectAll env
    (collectFragment doc env (doc.fragments.length + 1) []) sels []

end SelectGraph.Tree
