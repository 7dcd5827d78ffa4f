import SelectGraph.Validation.Rules

/-!
# Validation of a request

Whether a request that is well formed can be answered with a schema. The faults stand in the order
of the text; those about a definition as a whole follow its parts, and those about the document
come last.
-/

namespace SelectGraph.Validation

open GraphQL (Definition Document Fragment InputDefinition Name ObjectDefinition Operation
  OperationKind)

def operationLocation : OperationKind → String
  | .query => "QUERY"
  | .mutation => "MUTATION"
  | .subscription => "SUBSCRIPTION"

/-- The name of an operation and where messages point for it. -/
def operationMark (op : Operation) : Name :=
  op.name?.getD ⟨"", op.start⟩

def operationNameFaults (alone : Bool) (seen : List Name) (op : Operation) : List Fault :=
  let ofAnonymous := if op.name?.isNone && !alone then
    [⟨.anonymousNotAlone, [op.start]⟩] else []
  let mark := operationMark op
  let ofName := match seen.find? fun earlier => earlier.value == mark.value with
    | some earlier => [⟨.repeatedOperation mark.value, [earlier.start, mark.start]⟩]
    | none => []
  ofAnonymous ++ ofName

def operationFaults (schema : Schema) (doc : Document) (op : Operation) :
    Comparison (List Fault) := do
  let before := variableFaults schema [] op.variableDefinitions ++
    directivesFaults schema none (operationLocation op.kind) op.directives
  let scope : Scope := ⟨some (.named (rootType schema op.kind)), none⟩
  let below ← selectionSetFaults schema doc scope op.setStart op.selections
  return before ++ below ++ usageFaults schema doc op

def fragmentFaults (schema : Schema) (doc : Document) (frag : Fragment) :
    Comparison (List Fault) := do
  let before := unknownTypeFaults schema frag.condition ++
    directivesFaults schema none "FRAGMENT_DEFINITION" frag.directives
  let scope : Scope := ⟨named? schema frag.condition.value, none⟩
  let below ← selectionSetFaults schema doc scope frag.setStart frag.selections
  return before ++ below

def conditionFaults (schema : Schema) (frag : Fragment) : List Fault :=
  match named? schema frag.condition.value with
  | some type =>
    if isComposite schema type.base then []
    else [⟨.fragmentCondition frag.name.value frag.condition.value,
      [frag.condition.start]⟩]
  | none => []

/-- The faults of inputs that a definition declares; `checked` says that their types are looked
up. -/
def inputFaults (schema : Schema) (location : String) (checked : Bool)
    (inputs : List InputDefinition) : List Fault :=
  inputs.flatMap fun input =>
    (if checked then referenceFaults schema input.type else []) ++
      input.default?.toList.flatMap repeatedInputFields ++
      directivesFaults schema none location input.directives

/-- The faults of the fields of a type that a request declares. -/
def objectFaults (schema : Schema) (location : String) (type : ObjectDefinition) : List Fault :=
  directivesFaults schema none location type.directives ++
    type.fields.flatMap fun field =>
      inputFaults schema "ARGUMENT_DEFINITION" false field.arguments ++
        directivesFaults schema none "FIELD_DEFINITION" field.directives

def typeFaults (schema : Schema) : Definition → List Fault
  | .operation _ | .fragment _ => []
  | .schema dirs types =>
    directivesFaults schema none "SCHEMA" dirs ++
      types.flatMap fun entry => unknownTypeFaults schema entry.2
  | .scalar _ dirs => directivesFaults schema none "SCALAR" dirs
  | .object type | .extension type => objectFaults schema "OBJECT" type
  | .interface type => objectFaults schema "INTERFACE" type
  | .union _ dirs => directivesFaults schema none "UNION" dirs
  | .enum _ dirs values =>
    directivesFaults schema none "ENUM" dirs ++
      values.flatMap fun value => directivesFaults schema none "ENUM_VALUE" value.directives
  | .input _ dirs fields =>
    directivesFaults schema none "INPUT_OBJECT" dirs ++
      inputFaults schema "INPUT_FIELD_DEFINITION" false fields
  | .directive _ args => inputFaults schema "ARGUMENT_DEFINITION" true args

structure Met where
  operations : List Name := []
  fragments : List Name := []

def definitionsFaults (schema : Schema) (doc : Document) (alone : Bool) (met : Met) :
    List Definition → Comparison (List Fault)
  | [] => return []
  | decl :: decls => do
      match decl with
      | .operation op =>
        let ofName := operationNameFaults alone met.operations op
        let own ← operationFaults schema doc op
        let next := { met with operations := met.operations ++ [operationMark op] }
        let others ← definitionsFaults schema doc alone next decls
        return ofName ++ own ++ others
      | .fragment frag =>
        let name := frag.name
        let ofName := match met.fragments.find? fun earlier => earlier.value == name.value with
          | some earlier => [⟨.repeatedFragment name.value, [earlier.start, name.start]⟩]
          | none => []
        let own ← fragmentFaults schema doc frag
        let next := { met with fragments := met.fragments ++ [name] }
        let others ← definitionsFaults schema doc alone next decls
        return conditionFaults schema frag ++ ofName ++ own ++ others
      | other =>
        let others ← definitionsFaults schema doc alone met decls
        return typeFaults schema other ++ others

def unusedFragmentFaults (doc : Document) : List Fault :=
  let reached := (doc.operations.flatMap (reachedFragments doc)).map (·.name.value)
  (doc.fragments.filter fun frag => !(reached.contains frag.name.value)).map
    fun frag => ⟨.unusedFragment frag.name.value, [frag.start]⟩

def faults (schema : Schema) (doc : Document) : List Fault :=
  let alone := doc.operations.length ≤ 1
  let (found, _) := (definitionsFaults schema doc alone {} doc.definitions).run {}
  found ++ unusedFragmentFaults doc

end SelectGraph.Validation
