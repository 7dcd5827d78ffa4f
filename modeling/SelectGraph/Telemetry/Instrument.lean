import SelectGraph.Telemetry.Journal

/-!
# Measurements of requests

The instruments of the service, and the lines in which a report sums up what they measured.
-/

namespace SelectGraph.Telemetry

def requestDuration : Instrument := ⟨"graphql.request.duration", .durations, false⟩

def requestTotal : Instrument := ⟨"graphql.requests.total", .total, false⟩

def errorTotal : Instrument := ⟨"graphql.errors.total", .total, false⟩

def activeRequests : Instrument := ⟨"graphql.requests.active", .level, false⟩

def queryDepth : Instrument := ⟨"graphql.query.depth", .sizes, false⟩

def compileDuration : Instrument := ⟨"graphql.compile.duration", .durations, false⟩

def compileRoots : Instrument := ⟨"graphql.compile.root_fields", .sizes, false⟩

def statementDuration : Instrument := ⟨"graphql.statement.duration", .durations, false⟩

def responseSize : Instrument := ⟨"graphql.response.size", .sizes, true⟩

def authAttempts : Instrument := ⟨"security.auth.attempts.total", .total, false⟩

def authFailures : Instrument := ⟨"security.auth.failures.total", .total, false⟩

/-- The attributes of a measurement, sorted by name, as one text. -/
def Measurement.label (measurement : Measurement) : String :=
  let sorted := measurement.attributes.mergeSort fun a b => decide (a.key ≤ b.key)
  measurement.instrument.name ++ "\x7b" ++
    Text.join "," (sorted.map fun entry => entry.key ++ "=" ++ entry.value.render) ++ "\x7d"

def summary (label : String) (measurements : List Measurement) : String :=
  let sum := (measurements.map (·.amount)).foldl (· + ·) 0
  let count := "count=" ++ toString measurements.length
  match (measurements.head?.map Measurement.instrument).map Instrument.gauge with
  | some .sizes => label ++ " " ++ count ++ " sum=" ++ toString sum
  | some .durations => label ++ " " ++ count
  | _ => label ++ " " ++ toString sum

def sortedOnce (texts : List String) : List String :=
  texts.eraseDups.mergeSort fun a b => decide (a ≤ b)

/-- The report about measurements: one line for each label, sorted. -/
def report (measurements : List Measurement) : List String :=
  let lines := (measurements.map Measurement.label).eraseDups.map fun label =>
    summary label (measurements.filter fun measurement => measurement.label == label)
  sortedOnce lines

/-- The name and kind under which a page for scraping lists an instrument. -/
def Instrument.exposition (instrument : Instrument) : String :=
  let base := Text.replaceChar instrument.name '.' "_"
  let unit := match instrument.gauge with
    | .durations => "_milliseconds"
    | _ => if instrument.countsBytes then "_bytes" else ""
  match instrument.gauge with
  | .total => ((Text.before? base "_total").getD base) ++ unit ++ "_total counter"
  | .level => base ++ unit ++ " gauge"
  | .sizes | .durations => base ++ unit ++ " histogram"

/-- The instruments that have measured something, as a page for scraping lists them. -/
def expositions (measurements : List Measurement) : List String :=
  sortedOnce (measurements.map fun measurement => measurement.instrument.exposition)

/-- The attributes of a span, each as one text, sorted. -/
def Span.lines (span : Span) : List String :=
  (span.attributes.map fun entry => entry.key ++ "=" ++ entry.value.render).mergeSort
    fun a b => decide (a ≤ b)

def SpanStatus.name : SpanStatus → String
  | .unset => "Unset"
  | .failed => "Error"

def Span.toJson (span : Span) : Json :=
  .object [("name", .text span.name), ("attributes", .list (span.lines.map Json.text)),
    ("status", .text span.status.name)]

end SelectGraph.Telemetry
