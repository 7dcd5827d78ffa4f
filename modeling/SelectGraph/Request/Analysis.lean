import SelectGraph.GraphQL.Extent
import SelectGraph.GraphQL.Parser
import SelectGraph.GraphQL.Printer
import SelectGraph.Hash.Sha256
import SelectGraph.Literal.Json
import SelectGraph.Literal.Value

/-!
# Analysis of a request

A request is read step by step: its transport form, the document, the operation to run and the
variables. The first step that fails ends the analysis; what was found before is kept.
-/

namespace SelectGraph.Request

/-! ## Variables of a request

Variables arrive as the text of a JSON object. A name that is given twice keeps its last
value. -/

inductive VariablesError where
  | json (cause : Literal.JsonError)
  | notObject (found : Literal)

def VariablesError.message : VariablesError → String
  | .json cause => "invalid variables: " ++ cause.message
  | .notObject found => "variables must be a JSON object, got " ++ found.describe

/-- The last entry of every name. -/
def lastOfEach {α : Type} : List (String × α) → List (String × α)
  | [] => []
  | (name, value) :: rest =>
    if rest.any fun entry => entry.1 == name then lastOfEach rest
    else (name, value) :: lastOfEach rest

def variablesOf (text? : Option String) : Except VariablesError Environment :=
  match text? with
  | none | some "" => .ok []
  | some text =>
    match Literal.ofJson text with
    | .error cause => .error (.json cause)
    | .ok .null => .ok []
    | .ok (.object fields) => .ok (lastOfEach fields)
    | .ok found => .error (.notObject found)

/-! ## Analysis of a request -/

open GraphQL (Document Operation SyntaxFault)

/-- A request without its transport. `variables?` is the text of the variables, absent for none. -/
structure Envelope where
  method : String
  contentType : String
  query : String
  operationName : String
  variables? : Option String
  size : Nat
  deriving DecidableEq, Inhabited

inductive DecodeError where
  | noRequest
  | method
  | unreadable (cause : String)
  | body (cause : String)
  deriving DecidableEq

def DecodeError.message : DecodeError → String
  | .noRequest => "request is nil"
  | .method => "GraphQL requests must use GET or POST"
  | .unreadable cause => "failed to read request body: " ++ cause
  | .body cause => "invalid JSON request body: " ++ cause

inductive SelectionError where
  | unknown (name : String)
  | noOperation
  | ambiguous
  deriving DecidableEq

def SelectionError.message : SelectionError → String
  | .unknown name => "unknown operation named " ++ Text.quote name
  | .noOperation => "request does not include an operation"
  | .ambiguous => "operationName is required when request has multiple operations"

inductive Failure where
  | decode (error : DecodeError)
  | parse (fault : SyntaxFault)
  | selection (error : SelectionError)
  | badVariables (error : VariablesError)

/-- The name under which documents of requests appear in messages. -/
def sourceName : String := "GraphQL request"

def Envelope.source (envelope : Envelope) : GraphQL.Source :=
  .ofText sourceName envelope.query

/-- What is known of the operation to run. -/
structure Selected where
  operation : Operation
  name : String
  kind : String
  fields : Nat
  depth : Nat
  variableCount : Nat
  hash? : Option String

structure Analysis where
  envelope : Envelope
  document? : Option Document := none
  selected? : Option Selected := none
  variables? : Option Environment := none
  failure? : Option Failure := none

def Analysis.isEmpty (analysis : Analysis) : Bool :=
  Text.trim analysis.envelope.query == ""

def selectOperation (doc : Document) (name : String) : Except SelectionError Operation :=
  if name ≠ "" then
    match doc.operations.find? fun op => op.name?.any (·.value == name) with
    | some op => .ok op
    | none => .error (.unknown name)
  else
    match doc.operations with
    | [] => .error .noOperation
    | [op] => .ok op
    | _ => .error .ambiguous

def effectiveName (op : Operation) : String :=
  match op.name? with
  | some name => name.value
  | none => "<anonymous>"

/-- The fragments an operation reaches, sorted by name; `none` if one of them is not defined. -/
def reachedFragments? (doc : Document) (op : Operation) :
    Option (List GraphQL.Fragment) :=
  let names := (doc.reachable op.selections).mergeSort fun a b => decide (a ≤ b)
  names.mapM doc.fragment?

/-- The hash of an operation: of its text with the fragments it reaches, and of its name. Blanks,
comments and other operations do not change it. -/
def operationHash? (doc : Document) (op : Operation) : Option String :=
  (reachedFragments? doc op).map fun fragments =>
    let parts := [GraphQL.printRequest op fragments, effectiveName op]
    Hash.framedDigest (parts.map fun part => part.toUTF8.toList)

def selectedOf (doc : Document) (operation : Operation) : Selected :=
  let extent := doc.extent operation
  { operation
    name := effectiveName operation
    kind := operation.kind.word
    fields := extent.fields
    depth := extent.depth
    variableCount := operation.variableDefinitions.length
    hash? := operationHash? doc operation }

/-- Read the document of an envelope, choose the operation and read the variables. -/
def analyze (envelope : Envelope) : Analysis :=
  let start : Analysis := { envelope }
  if start.isEmpty then start
  else
    match envelope.source.document with
    | .error fault => { start with failure? := some (.parse fault) }
    | .ok doc =>
      let parsed := { start with document? := some doc }
      match selectOperation doc envelope.operationName with
      | .error error => { parsed with failure? := some (.selection error) }
      | .ok op =>
        let chosen := { parsed with selected? := some (selectedOf doc op) }
        match variablesOf envelope.variables? with
        | .error error => { chosen with failure? := some (.badVariables error) }
        | .ok found => { chosen with variables? := some found }

def Failure.message (envelope : Envelope) : Failure → String
  | .decode error => error.message
  | .parse fault => fault.message envelope.source
  | .selection error => error.message
  | .badVariables error => error.message

end SelectGraph.Request
