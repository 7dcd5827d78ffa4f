import SelectGraph.Engine.Failure
import SelectGraph.Request.Analysis
import SelectGraph.Schema.Answer
import SelectGraph.Validation.Document

/-!
# Preparing a request

From the analysis of a request to its statements. Every step can refuse the request, and the first
refusal counts. A request that only asks about the schema needs no statements.
-/

namespace SelectGraph.Engine

open GraphQL (Document Operation Selection Source)
open Request (Analysis DecodeError)
open Response (Code Entry)

/-- The schema and the tables an engine serves. -/
structure Model where
  schema : Schema
  sources : Plan.Sources

/-- What the root of an operation selects: fields about the schema, fields of tables, and the
fragments that have been followed. -/
structure RootKinds where
  hasMeta : Bool := false
  hasData : Bool := false
  seen : List String := []
  deriving DecidableEq

/-- Whether a name belongs to the fields about the schema. -/
def isMetaName (name : String) : Bool :=
  Text.startsWith name "__"

def RootKinds.add (kinds : RootKinds) (name : String) : RootKinds :=
  if isMetaName name then { kinds with hasMeta := true } else { kinds with hasData := true }

mutual

/-- Note what a selection holds; `spread` looks into fragments. -/
def kindsOfOne (spread : String → RootKinds → RootKinds) : Selection → RootKinds → RootKinds
  | .field _ name _ _ _ _ _, kinds => kinds.add name.value
  | .inline _ _ sels _ _, kinds => kindsOfAll spread sels kinds
  | .spread name _ _, kinds => spread name.value kinds

def kindsOfAll (spread : String → RootKinds → RootKinds) : List Selection → RootKinds → RootKinds
  | [], kinds => kinds
  | sel :: sels, kinds => kindsOfAll spread sels (kindsOfOne spread sel kinds)

end

/-- Note what a fragment holds, unless it has been followed. The budget bounds how deeply fragments
are followed; each step follows a new one. -/
def kindsOfFragment (doc : Document) : (budget : Nat) → String → RootKinds → RootKinds
  | 0, _, kinds => kinds
  | budget + 1, name, kinds =>
    if name ∈ kinds.seen then kinds
    else
      let met := { kinds with seen := name :: kinds.seen }
      match doc.fragment? name with
      | none => met
      | some frag => kindsOfAll (kindsOfFragment doc budget) frag.selections met

/-- What the root of an operation selects, directives ignored. -/
def rootKinds (doc : Document) (sels : List Selection) : RootKinds :=
  kindsOfAll (kindsOfFragment doc (doc.fragments.length + 1)) sels {}

/-- The first variable of a required type that has no value. -/
def missingVariable? (op : Operation) (supplied : Environment) :
    Option GraphQL.VariableDefinition :=
  op.variableDefinitions.find? fun decl =>
    match decl.type, decl.default? with
    | .nonNull _ _, none =>
      match supplied.lookup decl.name.value with
      | none | some .null => true
      | some _ => false
    | _, _ => false

def locations (source : Source) (positions : List Nat) : List (Int × Int) :=
  positions.map fun position =>
    let location := source.location position
    ((location.line : Int), (location.column : Int))

def faultEntries (source : Source) (faults : List Validation.Fault) : List Entry :=
  faults.map fun fault =>
    { message := fault.problem.message, locations := locations source fault.positions,
      code := Code.validationFailed.name }

/-- The refusal of a request that could not be taken from its transport. -/
def decodeRejection (error : DecodeError) : Rejection :=
  .bad error.message (match error with | .method => 405 | _ => 400)

/-- The refusal of a request whose document is not well formed. -/
def parseRejection (source : Source) (fault : GraphQL.SyntaxFault) : Rejection :=
  { code := .parseFailed
    entries := [{ message := fault.message source, locations := locations source [fault.position],
                  code := Code.parseFailed.name }] }

/-- Check a request whose operation is known: its kind, its document, its variables and what its root
selects. -/
def check (model : Model) (analysis : Analysis) (doc : Document) (op : Operation) :
    Except Rejection Environment := do
  if op.kind ≠ .query then
    throw (.bad (op.kind.word ++ " operations are not supported"))
  let faults := Validation.faults model.schema doc
  if !faults.isEmpty then
    throw { code := .validationFailed, entries := faultEntries analysis.envelope.source faults }
  if let some (.badVariables error) := analysis.failure? then
    throw (.bad error.message)
  let supplied := analysis.variables?.getD []
  if let some decl := missingVariable? op supplied then
    throw (.bad ("variable $" ++ decl.name.value ++ " of required type " ++
      decl.type.print ++ " was not provided"))
  return supplied

/-- A request that is ready to be answered. -/
inductive Prepared where
  | question (doc : Document) (op : Operation) (supplied : Environment)
  | statements (stmts : List Plan.Statement)

def Prepared.statementList : Prepared → List Plan.Statement
  | .question _ _ _ => []
  | .statements compiled => compiled

/-- Whether a prepared request only asks about the schema. -/
def Prepared.isQuestion : Prepared → Bool
  | .question _ _ _ => true
  | .statements _ => false

def compileOperation (model : Model) (document : Document) (operation : Operation)
    (supplied : Environment) : Except Failure (List Plan.Statement) := do
  let environment ← (Tree.completeVariables operation supplied).mapError
    fun error => Failure.build (.resolution error)
  let roots ← (Tree.build { schema := model.schema, document, environment }
    operation.selections).mapError Failure.build
  (roots.mapM (Plan.compile model.sources)).mapError Failure.plan

def prepare (model : Model) (analysis : Analysis) : Except Failure Prepared := do
  match analysis.failure? with
  | some (.decode error) => throw (.rejected (decodeRejection error))
  | _ => pure ()
  if analysis.isEmpty then throw (.rejected (.bad "must provide query string" 400))
  match analysis.failure? with
  | some (.parse fault) => throw (.rejected (parseRejection analysis.envelope.source fault))
  | some (.selection error) => throw (.rejected (.bad error.message))
  | _ => pure ()
  match analysis.document?, analysis.selected? with
  | some doc, some selected =>
    let op := selected.operation
    let supplied ← (check model analysis doc op).mapError Failure.rejected
    let kinds := rootKinds doc op.selections
    if kinds.hasMeta && kinds.hasData then
      throw (.rejected
        (.bad "introspection fields cannot be selected together with table fields"))
    if kinds.hasMeta then return .question doc op supplied
    return .statements (← compileOperation model doc op supplied)
  | _, _ => throw (.rejected (.bad "must provide query string" 400))

/-- Whether a JSON value holds only numbers that a double can approximate. -/
def fitsDoubles (text? : Option String) : Bool :=
  match text? with
  | none => true
  | some text => (Json.tokens text).all fun
      | .number digits =>
        match Double.read digits with
        | .ok _ => true
        | .error _ => false
      | _ => true

/-- A variable's value where a question expects a type: texts and truth values are made from
whatever was supplied. -/
def coerce (type : String) (value : Literal) : Literal :=
  match type, value with
  | "Boolean", .bool given => .bool given
  | "Boolean", .text given => .bool (given != "" && given != "false")
  | "Boolean", .int given => .bool (given != 0)
  | "Boolean", .uint _ => .bool true
  | "Boolean", .float given => .bool (given.magnitude.1 != 0)
  | "Boolean", _ => .bool false
  | "String", .text given => .text given
  | "String", other => .text other.describe
  | _, other => other

def referenceName : GraphQL.TypeRef → String
  | .missing => ""
  | .named name => name.value
  | .list item _ | .nonNull item _ => referenceName item

/-- The variables of a question: what was supplied, or the default where nothing or null was. -/
def questionEnvironment (op : Operation) (supplied : Environment) : Environment :=
  op.variableDefinitions.filterMap fun decl =>
    let name := decl.name.value
    let type := referenceName decl.type
    let fallback := decl.default?.bind fun value =>
      match Literal.ofValue [] value with
      | .ok found => found
      | .error _ => none
    match supplied.lookup name with
    | none | some .null => fallback.map fun value => (name, value)
    | some value => some (name, coerce type value)

def answerQuestion (model : Model) (analysis : Analysis) (doc : Document)
    (op : Operation) (supplied : Environment) : Except Failure String :=
  if fitsDoubles analysis.envelope.variables? then
    let data := model.schema.answer (questionEnvironment op supplied) doc
      op.selections
    .ok (Json.object [("data", data)]).compact
  else .error (.rejected (.bad "invalid variables: number out of range"))

end SelectGraph.Engine
