import SelectGraph.GraphQL.Printer
import SelectGraph.Json.Value
import SelectGraph.Literal.Value
import SelectGraph.Schema.Meta

/-!
# Questions about a schema

Requests may ask a schema about itself. The types, fields, arguments, enum values and directives
it consists of are the objects such a request selects from. Fields come sorted by name, all other
lists in the order of the schema.
-/

namespace SelectGraph.Schema

open GraphQL (Argument Directive Document Selection)

inductive Subject where
  | root
  | schema
  | type (type : TypeExpr)
  | field (field : ObjectField)
  | input (input : InputField)
  | enumValue (name : String)
  | directive (directive : DirectiveType)

inductive Answer where
  | leaf (value : Json)
  | none
  | one (subject : Subject)
  | many (subjects : List Subject)

def Subject.typeName (schema : Schema) : Subject → String
  | .root => schema.queryType
  | .schema => "__Schema"
  | .type _ => "__Type"
  | .field _ => "__Field"
  | .input _ => "__InputValue"
  | .enumValue _ => "__EnumValue"
  | .directive _ => "__Directive"

def kindOf (schema : Schema) : TypeExpr → String
  | .list _ => "LIST"
  | .nonNull _ => "NON_NULL"
  | .named name =>
    match schema.shape? name with
    | some (.object _) => "OBJECT"
    | some (.enum _) => "ENUM"
    | some (.input _) => "INPUT_OBJECT"
    | some .scalar | none => "SCALAR"

/-- A default as text, if it is one that questions show: a number, a truth value or a text, to
which enum values count. -/
def defaultText? (literal : Literal) : Option String :=
  match literal with
  | .int value => some (toString value)
  | .float value => some value.toText
  | .bool value => some (if value then "true" else "false")
  | .text value | .enum value => some (GraphQL.Value.string value 0).print
  | _ => none

def textAnswer : Option String → Answer
  | some value => .leaf (.text value)
  | none => .leaf .null

def namedShape? (schema : Schema) : TypeExpr → Option TypeShape
  | .named name => schema.shape? name
  | _ => none

/-- The value of a field of a type; `deprecated` asks for deprecated parts, too. -/
def typeAnswer (schema : Schema) (type : TypeExpr) (field : String) (deprecated : Bool) : Answer :=
  match field with
  | "kind" => .leaf (.text (kindOf schema type))
  | "name" =>
    match type with
    | .named name => .leaf (.text name)
    | _ => .leaf .null
  | "description" =>
    match type with
    | .named _ => .leaf (.text "")
    | _ => .leaf .null
  | "fields" =>
    match namedShape? schema type with
    | some (.object fields) =>
      let kept := fields.filter fun field => deprecated || field.deprecation?.isNone
      .many ((kept.mergeSort fun a b => decide (a.name ≤ b.name)).map Subject.field)
    | _ => .none
  | "interfaces" =>
    match namedShape? schema type with
    | some (.object _) => .many []
    | _ => .none
  | "enumValues" =>
    match namedShape? schema type with
    | some (.enum values) => .many (values.map Subject.enumValue)
    | _ => .none
  | "inputFields" =>
    match namedShape? schema type with
    | some (.input fields) => .many (fields.map Subject.input)
    | _ => .none
  | "ofType" =>
    match type with
    | .list item | .nonNull item => .one (.type item)
    | .named _ => .none
  | _ => .none

def DirectiveType.standsAt (directive : DirectiveType) (places : List String) : Answer :=
  .leaf (.bool (directive.locations.any fun place => places.contains place))

def Subject.answer (schema : Schema) (subject : Subject) (field : String)
    (arguments : List (String × Literal)) : Answer :=
  if field = "__typename" then .leaf (.text (subject.typeName schema))
  else
    match subject with
    | .root =>
      match field, arguments.lookup "name" with
      | "__schema", _ => .one .schema
      | "__type", some (.text name) =>
        match schema.shape? name with
        | some _ => .one (.type (.named name))
        | none => .none
      | _, _ => .none
    | .schema =>
      match field with
      | "types" => .many (schema.types.map fun type => .type (.named type.name))
      | "queryType" => .one (.type (.named schema.queryType))
      | "directives" => .many (directives.map Subject.directive)
      | _ => .none
    | .type described =>
      let deprecated := match arguments.lookup "includeDeprecated" with
        | some (.bool value) => value
        | _ => false
      typeAnswer schema described field deprecated
    | .field definition =>
      match field with
      | "name" => .leaf (.text definition.name)
      | "description" => .leaf (.text "")
      | "args" => .many (definition.arguments.map Subject.input)
      | "type" => .one (.type definition.type)
      | "isDeprecated" => .leaf (.bool definition.deprecation?.isSome)
      | "deprecationReason" => textAnswer definition.deprecation?
      | _ => .none
    | .input definition =>
      match field with
      | "name" => .leaf (.text definition.name)
      | "description" => .leaf (.text "")
      | "type" => .one (.type definition.type)
      | "defaultValue" => textAnswer (definition.default?.bind defaultText?)
      | _ => .none
    | .enumValue name =>
      match field with
      | "name" => .leaf (.text name)
      | "description" => .leaf (.text "")
      | "isDeprecated" => .leaf (.bool false)
      | _ => .none
    | .directive known =>
      match field with
      | "name" => .leaf (.text known.name)
      | "description" => .leaf (.text "")
      | "locations" => .leaf (.list (known.locations.map Json.text))
      | "args" => .many (known.arguments.map Subject.input)
      | "onOperation" => known.standsAt ["QUERY", "MUTATION", "SUBSCRIPTION"]
      | "onFragment" =>
        known.standsAt ["FRAGMENT_SPREAD", "INLINE_FRAGMENT", "FRAGMENT_DEFINITION"]
      | "onField" => known.standsAt ["FIELD"]
      | _ => .none

structure Question where
  responseName : String
  name : String
  arguments : List Argument
  selections : List Selection
  positions : List Nat

/-- Fields collected so far and the fragments that have been spread. -/
structure Questions where
  fields : List Question := []
  spread : List String := []

/-- Add a field: one with a new response name comes last, another is merged into the first. -/
def addQuestion (question : Question) : List Question → List Question
  | [] => [question]
  | known :: questions =>
    if known.responseName = question.responseName then
      { known with
        selections := known.selections ++ question.selections
        positions := known.positions ++ question.positions } :: questions
    else known :: addQuestion question questions

def lastCondition? (env : Environment) (name : String) (dirs : List Directive) :
    Option Bool :=
  match dirs.reverse.find? fun directive => directive.name.value == name with
  | none => none
  | some directive =>
    match directive.arguments.reverse.find? fun arg => arg.name.value == "if" with
    | none => none
    | some arg =>
      match Literal.ofValue env arg.value with
      | .ok (some (.bool value)) => some value
      | _ => none

def isKept (env : Environment) (dirs : List Directive) : Bool :=
  lastCondition? env "skip" dirs != some true &&
    lastCondition? env "include" dirs != some false

mutual

/-- Collect one selection; `spread` collects fragments. -/
def askOne (environment : Environment) (spread : String → Questions → Questions) :
    Selection → Questions → Questions
  | .field responseName? name arguments directives selections start _, questions =>
    if isKept environment directives then
      let question : Question :=
        { responseName := (responseName?.getD name).value, name := name.value, arguments,
          selections, positions := [start] }
      { questions with fields := addQuestion question questions.fields }
    else questions
  | .inline _ directives selections _ _, questions =>
    if isKept environment directives then ask environment spread selections questions
    else questions
  | .spread name directives _, questions =>
    if name.value ∈ questions.spread || !isKept environment directives then questions
    else spread name.value { questions with spread := name.value :: questions.spread }

def ask (env : Environment) (spread : String → Questions → Questions) :
    List Selection → Questions → Questions
  | [], questions => questions
  | sel :: sels, questions =>
    ask env spread sels (askOne env spread sel questions)

end

/-- Collect a fragment. The budget bounds how deeply fragments are followed; each step spreads a
fragment that has not been spread before. -/
def askFragment (env : Environment) (doc : Document) :
    (budget : Nat) → String → Questions → Questions
  | 0, _, questions => questions
  | budget + 1, name, questions =>
    match doc.fragment? name with
    | none => questions
    | some frag => ask env (askFragment env doc budget) frag.selections questions

def questionsOf (env : Environment) (doc : Document) (sels : List Selection) :
    List Question :=
  (ask env (askFragment env doc doc.fragments.length) sels {}).fields

def argumentValues (env : Environment) (args : List Argument) :
    List (String × Literal) :=
  (args.filterMap fun arg =>
    match Literal.ofValue env arg.value with
    | .ok (some .null) | .ok none | .error _ => none
    | .ok (some value) => some (arg.name.value, value)).reverse

def sortMembers (members : List (String × Json)) : List (String × Json) :=
  members.mergeSort fun a b => decide (a.1 ≤ b.1)

/-- The answer to what selections ask of an object. The budget bounds how deeply selections nest. -/
def answerWithin (schema : Schema) (env : Environment) (doc : Document) :
    (budget : Nat) → Subject → List Selection → Json
  | 0, _, _ => .null
  | budget + 1, subject, sels =>
    let below (question : Question) (inner : Subject) : Json :=
      answerWithin schema env doc budget inner question.selections
    let member (question : Question) : String × Json :=
      let found := subject.answer schema question.name
        (argumentValues env question.arguments)
      (question.responseName,
        match found with
        | .leaf value => value
        | .none => .null
        | .one inner => below question inner
        | .many inner => .list (inner.map (below question)))
    .object (sortMembers ((questionsOf env doc sels).map member))

/-- The data that answers an operation which only asks about the schema. -/
def answer (schema : Schema) (env : Environment) (doc : Document)
    (sels : List Selection) : Json :=
  answerWithin schema env doc (doc.selectionCount + 1) .root sels

end SelectGraph.Schema
