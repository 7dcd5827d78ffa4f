import SelectGraph.Database.Basic
import SelectGraph.Literal.Tagged
import SelectGraph.Log.Basic
import SelectGraph.Request.Analysis

/-!
# What a run leaves behind

Running the service leaves log records, measurements, spans and database events. They are kept in
one journal, each kind in the order in which it arose; spans in the order in which they ended.
-/

namespace SelectGraph.Telemetry

/-! ## Attributes of requests

The attributes a trace carries for an analysed request, in the order in which they are set, and
the fields a log record carries for it. -/

inductive AttributeValue where
  | text (value : String)
  | int (value : Int)
  | bool (value : Bool)
  deriving DecidableEq

def AttributeValue.render : AttributeValue → String
  | .text value => value
  | .int value => toString value
  | .bool value => if value then "true" else "false"

/-- A named value. -/
structure Attribute where
  key : String
  value : AttributeValue
  deriving DecidableEq

def textAttribute (key value : String) : List Attribute :=
  if value = "" then [] else [⟨key, .text value⟩]

def spanAttributes (analysis : Request.Analysis) : List Attribute :=
  let op : List Attribute := match analysis.selected? with
    | none => []
    | some selected =>
      textAttribute "graphql.operation.name" selected.name ++
        textAttribute "graphql.operation.type" selected.kind ++
        textAttribute "graphql.operation.hash" (selected.hash?.getD "")
  let size : List Attribute :=
    if analysis.envelope.size > 0 then
      [⟨"graphql.document.size_bytes", .int analysis.envelope.size⟩]
    else []
  let counts : List Attribute := match analysis.selected? with
    | none => []
    | some selected =>
      [⟨"graphql.query.field_count", .int selected.fields⟩,
        ⟨"graphql.query.depth", .int selected.depth⟩,
        ⟨"graphql.query.variable_count", .int selected.variableCount⟩]
  textAttribute "graphql.operation.requested_name" analysis.envelope.operationName ++
    op ++ size ++ counts

def logFields (analysis : Request.Analysis) : List (String × String) :=
  match analysis.selected? with
  | none => []
  | some selected =>
    [("operation_name", selected.name), ("operation_type", selected.kind)] ++
      match selected.hash? with
      | some hash => [("operation_hash", hash)]
      | none => []

/-! ## What a run leaves behind -/

/-- How the measurements of an instrument add up. -/
inductive Gauge where
  | total
  | level
  | sizes
  | durations
  deriving DecidableEq

/-- What is measured. The unit, when there is one, is milliseconds for durations and bytes for
sizes. -/
structure Instrument where
  name : String
  gauge : Gauge
  countsBytes : Bool := false
  deriving DecidableEq

/-- One measurement. The amount of a duration is not kept. -/
structure Measurement where
  instrument : Instrument
  attributes : List Attribute := []
  amount : Int := 0
  deriving DecidableEq

inductive SpanStatus where
  | unset
  | failed
  deriving DecidableEq

structure Span where
  name : String
  attributes : List Attribute := []
  status : SpanStatus := .unset
  deriving DecidableEq

/-- What a run has left behind so far. -/
structure Journal where
  records : List Log.Record := []
  measurements : List Measurement := []
  spans : List Span := []
  events : List Database.Event := []

abbrev Observed := StateM Journal

namespace Observed

def measure (instrument : Instrument) (attributes : List Attribute := []) (amount : Int := 0) :
    Observed Unit :=
  modify fun journal =>
    { journal with measurements := journal.measurements ++ [⟨instrument, attributes, amount⟩] }

def endSpan (span : Span) : Observed Unit :=
  modify fun journal => { journal with spans := journal.spans ++ [span] }

def log (logger : Log.Logger) (level : Log.Level) (message : String) (fields : Log.Fields := []) :
    Observed Unit :=
  if logger.admits level then
    modify fun journal =>
      { journal with records := journal.records ++ [logger.record level message fields] }
  else pure ()

def session {α : Type} (session : Database.Session α) : Observed α :=
  modifyGet fun journal =>
    let (result, events) := session.run journal.events
    (result, { journal with events })

end Observed

/-! ## Analyses as JSON -/

/-- The member that reports why an analysis ended early. -/
def failureMember (envelope : Request.Envelope) (failure : Request.Failure) : String × Json :=
  let stage := match failure with
    | .decode _ => "decode_error"
    | .parse _ => "parse_error"
    | .selection _ => "selection_error"
    | .badVariables _ => "variables_error"
  (stage, .text (failure.message envelope))

def selectedMembers (selected : Request.Selected) : List (String × Json) :=
  [("name", .text selected.name), ("type", .text selected.kind), ("fields", .ofNat selected.fields),
   ("depth", .ofNat selected.depth), ("variable_count", .ofNat selected.variableCount),
   ("hash", .text (selected.hash?.getD ""))]

def analysisJson (envelope : Request.Envelope) (analysis : Request.Analysis) : Json :=
  let attributes := (spanAttributes analysis).map fun entry =>
    Json.list [.text entry.key, .text entry.value.render]
  let assigned := analysis.variables?.map fun found =>
    ("variables", Json.object (found.map fun (name, value) => (name, value.toTagged)))
  .object ([("empty", .bool analysis.isEmpty), ("span", .list attributes),
      ("log", .ofNat (logFields analysis).length)] ++
    (analysis.failure?.map (failureMember envelope)).toList ++
    analysis.selected?.elim [] selectedMembers ++ assigned.toList)

end SelectGraph.Telemetry
