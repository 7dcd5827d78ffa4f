import SelectGraph.GraphQL.Parser
import SelectGraph.Literal.Value
import SelectGraph.Schema.Meta

/-!
# Schemas from documents

A schema is built from the type definitions of a document. First all definitions are checked: their
kinds, their names and every reference between them. Then the types that can be reached are
gathered, beginning with the query type.
-/

namespace SelectGraph.Schema

open GraphQL (Definition Document FieldDefinition InputDefinition TypeRef)

inductive ReferenceError where
  | unknown (type : String)
  | objectAsInput (type : String)
  | inputAsOutput (type : String)
  | missing
  deriving DecidableEq

def ReferenceError.message : ReferenceError → String
  | .unknown type => "unknown type " ++ type
  | .objectAsInput type => "object type " ++ type ++ " used as an input"
  | .inputAsOutput type => "input type " ++ type ++ " used as an output"
  | .missing => "unsupported type reference <nil>"

/-- What a type is used as. -/
inductive Role where
  | query
  | input
  | output
  deriving DecidableEq

/-- Why a document is no schema. `stopped` is no answer: a type that has been accepted is not what it
is used as, and the program ends. -/
inductive SchemaError where
  | parse (message : String)
  | typeInterfaces (type : String)
  | interface (name : String)
  | union (name : String)
  | unsupported (kind : String)
  | repeated (type : String)
  | noQuery (type : String)
  | reference (place : String) (cause : ReferenceError)
  | default (place : String) (cause : Literal.ValueError)
  | stopped (role : Role) (type : String)
  | noFields (type : String)
  | noValues (type : String)
  | clash (type : String)
  deriving DecidableEq

def SchemaError.message : SchemaError → String
  | .parse message => "failed to parse schema: " ++ message
  | .typeInterfaces type => "type " ++ type ++ ": interfaces are not supported"
  | .interface name => "interface " ++ name ++ ": interfaces are not supported"
  | .union name => "union " ++ name ++ ": unions are not supported"
  | .unsupported kind => "unsupported schema definition " ++ kind
  | .repeated type => "type " ++ type ++ " is defined more than once"
  | .noQuery type => "query type " ++ type ++ " is not defined as an object type"
  | .reference place cause => place ++ ": " ++ cause.message
  | .default place cause => place ++ ": " ++ cause.message
  | .stopped _ type => "interface conversion: " ++ type
  | .noFields type => "failed to build schema: " ++ type ++
      " fields must be an object with field names as keys or a function which return such an object."
  | .noValues type => "failed to build schema: " ++ type ++
      " values must be an object with value names as keys."
  | .clash type => "failed to build schema: Schema must contain unique named types but contains " ++
      "multiple types named \"" ++ type ++ "\"."

structure TypeDefinition where
  name : String
  definition : Definition

/-- The name of a definition of a type, if it is one that can be used. -/
def definedName : Definition → Except SchemaError (Option String)
  | .schema _ _ => .ok none
  | .scalar name _ => .ok (some name.value)
  | .object type =>
    if type.interfaces.isEmpty then .ok (some type.name.value)
    else .error (.typeInterfaces type.name.value)
  | .enum name _ _ => .ok (some name.value)
  | .input name _ _ => .ok (some name.value)
  | .interface type => .error (.interface type.name.value)
  | .union name _ => .error (.union name.value)
  | .operation _ => .error (.unsupported "OperationDefinition")
  | .fragment _ => .error (.unsupported "FragmentDefinition")
  | .extension _ => .error (.unsupported "TypeExtensionDefinition")
  | .directive _ _ => .error (.unsupported "DirectiveDefinition")

/-- The definitions of types, in order; the names before them are given. -/
def collectTypes (seen : List String) :
    List Definition → Except SchemaError (List TypeDefinition)
  | [] => .ok []
  | decl :: decls => do
      match ← definedName decl with
      | none => collectTypes seen decls
      | some name =>
        if name ∈ seen then throw (.repeated name)
        let others ← collectTypes (name :: seen) decls
        return ⟨name, decl⟩ :: others

/-- The name of the query type: the last one a schema definition gives, or the usual one. -/
def queryTypeName (doc : Document) : String :=
  let given := doc.definitions.flatMap fun
    | .schema _ types => (types.filter fun entry => entry.1 = .query).map fun entry => entry.2.value
    | _ => []
  given.getLast?.getD "Query"

def definition? (types : List TypeDefinition) (name : String) : Option Definition :=
  (types.find? fun type => type.name == name).map TypeDefinition.definition

def checkReference (types : List TypeDefinition) (isInput : Bool) :
    TypeRef → Except ReferenceError Unit
  | .missing => .error .missing
  | .list item _ => checkReference types isInput item
  | .nonNull item _ => checkReference types isInput item
  | .named name =>
    if builtinScalars.contains name.value then .ok ()
    else
      match definition? types name.value with
      | none => .error (.unknown name.value)
      | some (.object _) => if isInput then .error (.objectAsInput name.value) else .ok ()
      | some (.input _ _ _) => if isInput then .ok () else .error (.inputAsOutput name.value)
      | some _ => .ok ()

def atPlace {α : Type} (place : String) : Except ReferenceError α → Except SchemaError α
  | .ok value => .ok value
  | .error cause => .error (.reference place cause)

def argumentPlace (type field arg : String) : String :=
  type ++ "." ++ field ++ "(" ++ arg ++ ")"

def checkField (types : List TypeDefinition) (type : String) (field : FieldDefinition) :
    Except SchemaError Unit := do
  atPlace (type ++ "." ++ field.name.value) (checkReference types false field.type)
  field.arguments.forM fun arg =>
    atPlace (argumentPlace type field.name.value arg.name.value)
      (checkReference types true arg.type)

def checkType (types : List TypeDefinition) (type : TypeDefinition) : Except SchemaError Unit :=
  match type.definition with
  | .object object => object.fields.forM (checkField types type.name)
  | .input _ _ fields => fields.forM fun field =>
    atPlace (type.name ++ "." ++ field.name.value) (checkReference types true field.type)
  | _ => .ok ()

def typeExpr : TypeRef → TypeExpr
  | .missing => .named ""
  | .named name => .named name.value
  | .list item _ => .list (typeExpr item)
  | .nonNull item _ => .nonNull (typeExpr item)

def lastNamed {α : Type} (name : α → String) : List α → List α
  | [] => []
  | value :: values =>
    if values.any fun other => name other == name value then lastNamed name values
    else value :: lastNamed name values

def inputField (decl : InputDefinition) : InputField :=
  { name := decl.name.value
    type := typeExpr decl.type
    default? := decl.default?.bind fun value =>
      match Literal.ofValue [] value with
      | .ok found => found
      | .error _ => none }

def objectField (decl : FieldDefinition) : ObjectField :=
  { name := decl.name.value
    arguments := lastNamed InputField.name (decl.arguments.map inputField)
    type := typeExpr decl.type }

def shapeOf : Definition → TypeShape
  | .object object => .object (lastNamed ObjectField.name (object.fields.map objectField))
  | .input _ _ fields => .input (lastNamed InputField.name
      (fields.map fun field => { inputField field with default? := none }))
  | .enum _ _ values => .enum (values.map fun value => value.name.value).eraseDups
  | _ => .scalar

/-- A named type of the document; the scalars that need no definition keep their meaning. -/
def namedType? (types : List TypeDefinition) (name : String) : Option NamedType :=
  if builtinScalars.contains name then some ⟨name, .scalar⟩
  else (definition? types name).map fun decl => ⟨name, shapeOf decl⟩

def fieldDefaults (type : String) (field : FieldDefinition) :
    Except SchemaError (List (String × Literal)) := do
  let given ← field.arguments.mapM fun arg =>
    match arg.default? with
    | none => pure none
    | some value =>
      match Literal.ofValue [] value with
      | .ok found => pure (some (arg.name.value, found.getD .null))
      | .error cause =>
        throw (.default (argumentPlace type field.name.value arg.name.value) cause)
  return given.filterMap id

/-- The defaults of the arguments of all fields; of a field that is defined twice the last ones. -/
def allDefaults (types : List TypeDefinition) :
    Except SchemaError (List (String × String × List (String × Literal))) := do
  let found ← types.mapM fun type =>
    match type.definition with
    | .object object => object.fields.mapM fun field => do
        return (type.name, field.name.value, ← fieldDefaults type.name field)
    | _ => pure []
  return (found.flatten.filter fun entry => !entry.2.2.isEmpty).reverse

def isHollowEnum (types : List TypeDefinition) (type : TypeExpr) : Bool :=
  match type with
  | .named name =>
    match namedType? types name with
    | some ⟨_, .enum []⟩ => true
    | _ => false
  | _ => false

def Role.admits : Role → TypeShape → Bool
  | .query, .object _ => true
  | .query, _ => false
  | .input, .object _ => false
  | .output, .input _ => false
  | _, _ => true

/-- Use a type of the document. Nothing is reported here, so all uses must have been checked. -/
def use (types : List TypeDefinition) (role : Role) (name : String) : Except SchemaError NamedType :=
  match namedType? types name with
  | some type => if role.admits type.shape then .ok type else .error (.stopped role name)
  | none => .error (.stopped role name)

/-- Use the types of the fields of a type. -/
def useFields (types : List TypeDefinition) : TypeShape → Except SchemaError Unit
  | .object fields => fields.forM fun field => do
      field.arguments.forM fun arg => discard (use types .input arg.type.base)
      discard (use types .output field.type.base)
  | .input fields => fields.forM fun field => discard (use types .input field.type.base)
  | .scalar | .enum _ => .ok ()

def mentioned : TypeShape → List String
  | .object fields => fields.flatMap fun field =>
    field.arguments.map (·.type.base) ++ [field.type.base]
  | .input fields => fields.map (·.type.base)
  | .scalar | .enum _ => []

def checkShape (types : List TypeDefinition) (type : NamedType) : Except SchemaError Unit :=
  match type.shape with
  | .object [] | .input [] => .error (.noFields type.name)
  | .object fields =>
    match fields.find? fun field => isHollowEnum types field.type with
    | some field => .error (.noValues field.type.base)
    | none => .ok ()
  | _ => .ok ()

/-- Gather a type and all it mentions that has not been gathered. The fuel bounds the depth; each
level adds a type. -/
def gather (types : List TypeDefinition) :
    (fuel : Nat) → List NamedType → String → Except SchemaError (List NamedType)
  | 0, found, _ => .ok found
  | fuel + 1, found, name =>
    if found.any fun type => type.name == name then .ok found
    else
      match namedType? types name with
      | none => .ok found
      | some type => do
          useFields types type.shape
          checkShape types type
          (mentioned type.shape).foldlM (gather types fuel) (found ++ [type])

def addMeta (found : List NamedType) : Except SchemaError (List NamedType) :=
  match metaTypes.find? fun type =>
      !builtinScalars.contains type.name && found.any fun known => known.name == type.name with
  | some type => .error (.clash type.name)
  | none => .ok (found ++ metaTypes.filter fun type => !(found.any fun known => known.name == type.name))

def gatherDefined (types : List TypeDefinition) (fuel : Nat) (found : List NamedType)
    (name : String) : Except SchemaError (List NamedType) :=
  if isHollowEnum types (.named name) then .error (.noValues name)
  else if metaTypes.any fun type => type.name == name && !builtinScalars.contains name then
    .error (.clash name)
  else gather types fuel found name

def checkQuery (types : List TypeDefinition) (name : String) : Except SchemaError Unit :=
  match definition? types name with
  | some (.object _) => .ok ()
  | _ => .error (.noQuery name)

/-- The types that a document defines, if they can be made a schema. -/
def accept (doc : Document) : Except SchemaError (List TypeDefinition) := do
  let types ← collectTypes [] doc.definitions
  checkQuery types (queryTypeName doc)
  types.forM (checkType types)
  return types

/-- The schema of types that have been accepted. -/
def build (types : List TypeDefinition) (queryType : String) : Except SchemaError Schema := do
  let defaults ← allDefaults types
  let _ ← use types .query queryType
  let fuel := types.length + builtinScalars.length + 1
  let found ← gather types fuel [] queryType
  let found ← addMeta found
  let found ← types.foldlM (fun found type => gatherDefined types fuel found type.name) found
  return { queryType, types := found, defaults }

def ofDocument (doc : Document) : Except SchemaError Schema := do
  let types ← accept doc
  build types (queryTypeName doc)

/-- The name under which schema documents appear in messages. -/
def sourceName : String := "schema"

def parse (text : String) : Except SchemaError Schema :=
  let source := GraphQL.Source.ofText sourceName text
  match source.document with
  | .error fault => .error (.parse (fault.message source))
  | .ok doc => ofDocument doc

end SelectGraph.Schema
