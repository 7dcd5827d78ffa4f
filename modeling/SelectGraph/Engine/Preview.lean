import SelectGraph.Engine.Prepare
import SelectGraph.Engine.Supplied

/-!
# The answer of the schema alone

What a query gives when nothing stands behind the schema: every root field is null, questions about
the schema are answered. A root field that must not be null is an error, and then there is no data.
-/

namespace SelectGraph.Engine

open GraphQL (Document Operation Source)

structure PreviewError where
  message : String
  locations : List (Int × Int) := []
  path : List String := []

def PreviewError.toJson (error : PreviewError) : Json :=
  let place (location : Int × Int) : Json :=
    .object [("line", .ofInt location.1), ("column", .ofInt location.2)]
  .object ([("message", .text error.message), ("locations", .list (error.locations.map place))] ++
    if error.path.isEmpty then [] else [("path", .list (error.path.map Json.text))])

def previewOperation (doc : Document) (name : String) : Except PreviewError Operation :=
  if name ≠ "" then
    match doc.operations.find? fun op => op.name?.any (·.value == name) with
    | some op => .ok op
    | none => .error { message := "Unknown operation named \"" ++ name ++ "\"." }
  else
    match doc.operations with
    | [] => .error { message := "Must provide an operation." }
    | [op] => .ok op
    | _ => .error
        { message := "Must provide operation name if query contains multiple operations." }

def nullErrors (model : Model) (source : Source) (questions : List Schema.Question) :
    List PreviewError :=
  let fields := (model.schema.objectFields? model.schema.queryType).getD []
  questions.filterMap fun question =>
    match fields.find? fun decl => decl.name == question.name with
    | some { type := .nonNull _, .. } => some
        { message := "Cannot return null for non-nullable field " ++ model.schema.queryType ++ "." ++
            question.name ++ "."
          locations := locations source question.positions
          path := [question.responseName] }
    | _ => none

def environmentOf (supplied : List (String × Json)) : Environment :=
  (Request.variablesOf (some (Json.object supplied).compact)).toOption.getD []

def previewData (model : Model) (source : Source) (doc : Document) (op : Operation)
    (supplied : List (String × Json)) : Except PreviewError Json := do
  for decl in op.variableDefinitions do
    if let some message := variableComplaint? model.schema supplied decl then
      throw { message, locations := locations source [decl.start] }
  if op.kind ≠ .query then
    throw
      { message := "Schema is not configured for " ++ op.kind.word ++ "s"
        locations := locations source [op.start] }
  let env := questionEnvironment op (environmentOf supplied)
  match nullErrors model source (Schema.questionsOf env doc op.selections) with
  | error :: _ => throw error
  | [] => return model.schema.answer env doc op.selections

/-- The answer of the schema to a query; supplied values are normalized. -/
def preview (model : Model) (query operationName : String) (supplied : List (String × Json)) : Json :=
  let failed (errors : List PreviewError) : Json :=
    .object [("data", .null), ("errors", .list (errors.map PreviewError.toJson))]
  let source := Source.ofText Request.sourceName query
  match source.document with
  | .error fault =>
    failed [{ message := fault.message source, locations := locations source [fault.position] }]
  | .ok doc =>
    match Validation.faults model.schema doc with
    | [] =>
      match previewOperation doc operationName >>= fun op =>
        previewData model source doc op supplied with
      | .error error => failed [error]
      | .ok data => .object [("data", data)]
    | faults => failed (faults.map fun fault =>
      { message := fault.problem.message, locations := locations source fault.positions })

end SelectGraph.Engine
