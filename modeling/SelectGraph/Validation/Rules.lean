import SelectGraph.Validation.Overlap

/-!
# Rules for the parts of a request

The faults of values, arguments, directives, selections and variables, each in the order in which
a reader of the text meets the parts.
-/

namespace SelectGraph.Validation

open GraphQL (Argument Directive Document Name Operation Selection TypeRef Value VariableDefinition)

/-- Names that repeat an earlier one, each with the first of them. -/
def repeated (seen : List Name) : List Name → List (Name × Name)
  | [] => []
  | name :: names =>
    match seen.find? fun earlier => earlier.value == name.value with
    | some earlier => (earlier, name) :: repeated seen names
    | none => repeated (seen ++ [name]) names

def repeatedFaults (problem : String → Problem) (names : List Name) : List Fault :=
  (repeated [] names).map fun (earlier, name) => ⟨problem name.value, [earlier.start, name.start]⟩

mutual

/-- The repeated names in an object, or in the objects of a list. -/
def repeatedInputFields : Value → List Fault
  | .object fields _ => repeatedFaults .repeatedInputField (fields.map Prod.fst)
  | .list items _ => repeatedInputFieldsIn items
  | _ => []

def repeatedInputFieldsIn : List Value → List Fault
  | [] => []
  | item :: items => repeatedInputFields item ++ repeatedInputFieldsIn items

end

def unknownTypeFaults (schema : Schema) (name : Name) : List Fault :=
  match schema.shape? name.value with
  | some _ => []
  | none =>
    [⟨.unknownType name.value (suggestions name.value (schema.types.map NamedType.name)),
      [name.start]⟩]

def referenceFaults (schema : Schema) : TypeRef → List Fault
  | .missing => []
  | .named name => unknownTypeFaults schema name
  | .list item _ => referenceFaults schema item
  | .nonNull item _ => referenceFaults schema item

/-- What arguments belong to: the arguments their types are taken from, and the problem of an
argument that is unknown, if that is checked. -/
structure ArgumentOwner where
  expected : List InputField
  unknown? : Option (String → Problem)

def argumentFaults (schema : Schema) (owner : ArgumentOwner) (arg : Argument) : List Fault :=
  let name := arg.name.value
  let ofValue := match argument? owner.expected name with
    | none => []
    | some expected =>
      let found := mismatches schema expected.type arg.value
      if found.isEmpty then []
      else [⟨.argumentValue name arg.value.print found, [arg.value.start]⟩]
  let ofName := match owner.unknown?, argument? owner.expected name with
    | some problem, none => [⟨problem name, [arg.name.start]⟩]
    | _, _ => []
  ofValue ++ ofName

/-- The faults of arguments, those before being known by name. -/
def argumentsFaults (schema : Schema) (owner : ArgumentOwner) (seen : List Name) :
    List Argument → List Fault
  | [] => []
  | arg :: args =>
    let own := argumentFaults schema owner arg
    let inValue := repeatedInputFields arg.value
    match seen.find? fun earlier => earlier.value == arg.name.value with
    | some earlier =>
      own ++ [⟨.repeatedArgument earlier.value, [earlier.start, arg.name.start]⟩] ++
        inValue ++ argumentsFaults schema owner seen args
    | none =>
      own ++ inValue ++ argumentsFaults schema owner (seen ++ [arg.name]) args

def missingArguments (expected : List InputField) (given : List Argument) : List InputField :=
  expected.filter fun field =>
    field.type.isNonNull && !(given.any fun arg => arg.name.value == field.name)

def directiveFaults (schema : Schema) (enclosing? : Option ObjectField) (location : String)
    (directive : Directive) : List Fault :=
  let name := directive.name.value
  let expected := directiveArguments enclosing? name
  match directive? name with
  | none =>
    ⟨.unknownDirective name, [directive.start]⟩ ::
      argumentsFaults schema ⟨expected, none⟩ [] directive.arguments
  | some known =>
    let ofPlace := if known.locations.contains location then []
      else [⟨.misplacedDirective name location, [directive.start]⟩]
    let unknown (arg : String) : Problem :=
      .unknownDirectiveArgument arg name (suggestions arg (expected.map InputField.name))
    let missing := (missingArguments expected directive.arguments).map fun field =>
      ⟨.missingDirectiveArgument name field.name (shown field.type), [directive.start]⟩
    ofPlace ++ argumentsFaults schema ⟨expected, some unknown⟩ [] directive.arguments ++ missing

def directivesFaults (schema : Schema) (enclosing? : Option ObjectField) (location : String)
    (dirs : List Directive) : List Fault :=
  dirs.flatMap (directiveFaults schema enclosing? location)

def unknownFieldFaults (schema : Schema) (scope : Scope) (name : Name) (start : Nat) :
    List Fault :=
  match scope.parent? schema, scope.select? schema name.value with
  | some parent, none =>
    if parent = unserved then []
    else
      let known := ((schema.objectFields? parent).getD []).map ObjectField.name
      [⟨.unknownField name.value parent (suggestions name.value known), [start]⟩]
  | _, _ => []

/-- The fault of a field that lacks subfields or must not have any. -/
def leafFaults (schema : Schema) (field? : Option ObjectField) (name : Name)
    (sels : List Selection) (start setStart : Nat) : List Fault :=
  match field? with
  | none => []
  | some field =>
    if isLeaf schema field.type.base then
      if sels.isEmpty then []
      else [⟨.leafSelection name.value (shown field.type), [setStart]⟩]
    else if sels.isEmpty then [⟨.noSelection name.value (shown field.type), [start]⟩]
    else []

def fieldOwner (schema : Schema) (scope : Scope) (field? : Option ObjectField) : ArgumentOwner :=
  match field? with
  | none => ⟨[], none⟩
  | some field =>
    let parent := (scope.parent? schema).getD ""
    ⟨field.arguments, some fun arg =>
      .unknownArgument arg field.name parent
        (suggestions arg (field.arguments.map InputField.name))⟩

def missingArgumentFaults (field? : Option ObjectField) (name : Name) (args : List Argument)
    (start : Nat) : List Fault :=
  match field? with
  | none => []
  | some field => (missingArguments field.arguments args).map fun expected =>
    ⟨.missingArgument name.value expected.name (shown expected.type), [start]⟩

def spreadFaults (schema : Schema) (doc : Document) (scope : Scope) (name : Name)
    (start : Nat) : List Fault :=
  match doc.fragment? name.value with
  | none => [⟨.unknownFragment name.value, [name.start]⟩]
  | some frag =>
    match scope.parent? schema, named? schema frag.condition.value with
    | some parent, some type =>
      if type = .named parent then []
      else [⟨.spreadMismatch name.value parent (shown type), [start]⟩]
    | _, _ => []

/-- The faults of an inline fragment itself; `inner` is the scope inside it. -/
def inlineFaults (schema : Schema) (scope inner : Scope) (condition? : Option Name) (start : Nat) :
    List Fault :=
  let ofCondition := match condition?, inner.type? with
    | some condition, some type =>
      if isComposite schema type.base then []
      else [⟨.inlineCondition (shown type), [condition.start]⟩]
    | _, _ => []
  let ofPlace := match scope.parent? schema, inner.type? with
    | some parent, some type =>
      if type = .named parent then [] else [⟨.inlineMismatch parent (shown type), [start]⟩]
    | _, _ => []
  ofCondition ++ ofPlace

mutual

def selectionFaults (schema : Schema) (doc : Document) (scope : Scope) :
    Selection → Comparison (List Fault)
  | .field _ name args dirs sels start setStart => do
      let field? := scope.select? schema name.value
      let before := unknownFieldFaults schema scope name start ++
        leafFaults schema field? name sels start setStart ++
        argumentsFaults schema (fieldOwner schema scope field?) [] args ++
        directivesFaults schema field? "FIELD" dirs
      let own := missingArgumentFaults field? name args start
      if sels.isEmpty then return before ++ own
      let inner := Scope.below field?
      let conflicts ← conflictsIn schema doc (inner.parent? schema) setStart sels
      let below ← selectionsFaults schema doc inner sels
      return before ++ conflicts.map Conflict.fault ++ below ++ own
  | .spread name dirs start =>
    return spreadFaults schema doc scope name start ++
      directivesFaults schema scope.field? "FRAGMENT_SPREAD" dirs
  | .inline condition? dirs sels start setStart => do
      let inner := scope.narrow schema condition?
      let before := inlineFaults schema scope inner condition? start ++
        condition?.toList.flatMap (unknownTypeFaults schema) ++
        directivesFaults schema scope.field? "INLINE_FRAGMENT" dirs
      let conflicts ← conflictsIn schema doc (inner.parent? schema) setStart sels
      let below ← selectionsFaults schema doc inner sels
      return before ++ conflicts.map Conflict.fault ++ below

def selectionsFaults (schema : Schema) (doc : Document) (scope : Scope) :
    List Selection → Comparison (List Fault)
  | [] => return []
  | sel :: sels => do
      let first ← selectionFaults schema doc scope sel
      let others ← selectionsFaults schema doc scope sels
      return first ++ others

end

def selectionSetFaults (schema : Schema) (doc : Document) (scope : Scope) (setStart : Nat)
    (sels : List Selection) : Comparison (List Fault) := do
  let conflicts ← conflictsIn schema doc (scope.parent? schema) setStart sels
  let below ← selectionsFaults schema doc scope sels
  return conflicts.map Conflict.fault ++ below

def referenceStart : TypeRef → Nat
  | .missing => 0
  | .named name => name.start
  | .list _ start | .nonNull _ start => start

def defaultFaults (schema : Schema) (decl : VariableDefinition) : List Fault :=
  match decl.default?, resolve? schema decl.type with
  | some value, some type =>
    let name := decl.name.value
    let ofMark := match type with
      | .nonNull item =>
        let inner := if item = .named "" then "<nil>" else shown item
        [⟨.defaultOfRequired name (shown type) inner, [value.start]⟩]
      | _ => []
    let found := mismatches schema type value
    let ofValue := if found.isEmpty then []
      else [⟨.defaultValue name value.print found, [value.start]⟩]
    ofMark ++ ofValue
  | _, _ => []

/-- The fault of a variable whose type cannot be written. -/
def outputVariableFaults (schema : Schema) (decl : VariableDefinition) : List Fault :=
  match resolve? schema decl.type with
  | some type =>
    if isInput schema type.base then []
    else [⟨.outputVariable decl.name.value decl.type.print,
      [referenceStart decl.type]⟩]
  | none => []

/-- The faults of the variables of an operation, those before being known by name. -/
def variableFaults (schema : Schema) (seen : List Name) : List VariableDefinition → List Fault
  | [] => []
  | decl :: decls =>
    let name := decl.name
    let earlier? := seen.find? fun earlier => earlier.value == name.value
    let ofName := earlier?.toList.map fun earlier =>
      ⟨.repeatedVariable name.value, [earlier.start, name.start]⟩
    let known := if earlier?.isSome then seen else seen ++ [name]
    defaultFaults schema decl ++ ofName ++ outputVariableFaults schema decl ++
      referenceFaults schema decl.type ++
      decl.default?.toList.flatMap repeatedInputFields ++
      variableFaults schema known decls

/-- The type of a variable where it is used: a default takes the place of null. -/
def effectiveType (type : TypeExpr) (decl : VariableDefinition) : TypeExpr :=
  if decl.default?.isSome && !type.isNonNull then .nonNull type else type

/-- The fault of a variable that stands where another type is expected. -/
def positionFaults (schema : Schema) (op : Operation) (usage : Usage) : List Fault :=
  match op.variableDefinitions.reverse.find? fun decl => decl.name.value == usage.name with
  | none => []
  | some decl =>
    match resolve? schema decl.type, usage.type? with
    | some type, some expected =>
      if isSubtype (effectiveType type decl) expected then []
      else [⟨.variablePosition usage.name (shown type) (shown expected),
        [decl.start, usage.start]⟩]
    | _, _ => []

def usageFaults (schema : Schema) (doc : Document) (op : Operation) : List Fault :=
  let usages := operationUsages schema doc op
  let operationName := (op.name?.map Name.value).getD ""
  let undefined := (usages.filter fun usage =>
      !(op.variableDefinitions.any fun decl => decl.name.value == usage.name)).map
    fun usage => ⟨.undefinedVariable usage.name operationName, [usage.start, op.start]⟩
  let unused := (op.variableDefinitions.filter fun decl =>
      !(usages.any fun usage => usage.name == decl.name.value)).map
    fun decl => ⟨.unusedVariable decl.name.value operationName, [decl.start]⟩
  undefined ++ unused ++ usages.flatMap (positionFaults schema op)

end SelectGraph.Validation
