/-!
# Documents

The definitions of a document: the operations and fragments of a request, and the types of
a schema. Every part that a message can point at keeps the position where it begins.
-/

namespace SelectGraph.GraphQL

structure Name where
  value : String
  start : Nat
  deriving DecidableEq

/-- A value as written, with the position where it begins. Numbers keep their digits. -/
inductive Value where
  | variable (name : Name) (start : Nat)
  | int (digits : String) (start : Nat)
  | float (digits : String) (start : Nat)
  | string (content : String) (start : Nat)
  | boolean (value : Bool) (start : Nat)
  | enum (name : String) (start : Nat)
  | list (items : List Value) (start : Nat)
  | object (fields : List (Name × Value)) (start : Nat)

def Value.start : Value → Nat
  | .variable _ start | .int _ start | .float _ start | .string _ start | .boolean _ start
  | .enum _ start | .list _ start | .object _ start => start

/-- A reference to a type. `missing` stands where a type was expected and nothing that begins one
was found. -/
inductive TypeRef where
  | missing
  | named (name : Name)
  | list (item : TypeRef) (start : Nat)
  | nonNull (item : TypeRef) (start : Nat)
  deriving DecidableEq

structure Argument where
  name : Name
  value : Value

structure Directive where
  name : Name
  arguments : List Argument
  start : Nat

/-- A selection. A field without subfields has no selections; `setStart` is where the braces of its
subfields begin. -/
inductive Selection where
  | field (responseName? : Option Name) (name : Name) (args : List Argument)
      (dirs : List Directive) (sels : List Selection) (start setStart : Nat)
  | spread (name : Name) (dirs : List Directive) (start : Nat)
  | inline (condition? : Option Name) (dirs : List Directive) (sels : List Selection)
      (start setStart : Nat)

mutual

/-- The number of selections in a selection, itself included. -/
def Selection.count : Selection → Nat
  | .field _ _ _ _ sels _ _ => 1 + Selection.countAll sels
  | .inline _ _ sels _ _ => 1 + Selection.countAll sels
  | .spread _ _ _ => 1

def Selection.countAll : List Selection → Nat
  | [] => 0
  | sel :: sels => Selection.count sel + Selection.countAll sels

end

inductive OperationKind where
  | query
  | mutation
  | subscription
  deriving DecidableEq

def OperationKind.word : OperationKind → String
  | .query => "query"
  | .mutation => "mutation"
  | .subscription => "subscription"

structure VariableDefinition where
  name : Name
  type : TypeRef
  default? : Option Value
  start : Nat

structure Operation where
  kind : OperationKind
  name? : Option Name
  variableDefinitions : List VariableDefinition
  directives : List Directive
  selections : List Selection
  start : Nat
  setStart : Nat

structure Fragment where
  name : Name
  condition : Name
  directives : List Directive
  selections : List Selection
  start : Nat
  setStart : Nat

/-- An argument of a field of a type, or a field of an input type. -/
structure InputDefinition where
  name : Name
  type : TypeRef
  default? : Option Value
  directives : List Directive

structure FieldDefinition where
  name : Name
  arguments : List InputDefinition
  type : TypeRef
  directives : List Directive

/-- An object type or, with another keyword, an interface or an extension of an object type. -/
structure ObjectDefinition where
  name : Name
  interfaces : List Name
  directives : List Directive
  fields : List FieldDefinition

structure EnumValue where
  name : Name
  directives : List Directive

inductive Definition where
  | operation (op : Operation)
  | fragment (frag : Fragment)
  | schema (dirs : List Directive) (operationTypes : List (OperationKind × Name))
  | scalar (name : Name) (dirs : List Directive)
  | object (type : ObjectDefinition)
  | interface (type : ObjectDefinition)
  | union (name : Name) (dirs : List Directive)
  | enum (name : Name) (dirs : List Directive) (values : List EnumValue)
  | input (name : Name) (dirs : List Directive) (fields : List InputDefinition)
  | extension (type : ObjectDefinition)
  | directive (name : Name) (args : List InputDefinition)

/-- The definitions of a document in the order of the text. -/
structure Document where
  definitions : List Definition

namespace Document

def operations (doc : Document) : List Operation :=
  doc.definitions.filterMap fun
    | .operation op => some op
    | _ => none

def fragments (doc : Document) : List Fragment :=
  doc.definitions.filterMap fun
    | .fragment frag => some frag
    | _ => none

def fragment? (doc : Document) (name : String) : Option Fragment :=
  doc.fragments.reverse.find? fun frag => frag.name.value == name

def selectionCount (doc : Document) : Nat :=
  let written := doc.operations.map (fun op => Selection.countAll op.selections) ++
    doc.fragments.map fun frag => Selection.countAll frag.selections
  written.foldl (· + ·) 0

end Document

end SelectGraph.GraphQL
