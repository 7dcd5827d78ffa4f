import SelectGraph.CommandLine.Flags
import SelectGraph.Engine.Serve
import SelectGraph.Setup.Sources

/-!
# The compile command

The command reads a schema, a catalog and a query, and prints the statements the query needs.
-/

namespace SelectGraph.CommandLine

open Setup (SourceSettings)

def compileFlags : List Flag :=
  [⟨"schema", .text, none⟩, ⟨"catalog", .text, none⟩, ⟨"relationships", .text, none⟩,
    ⟨"derive", .switch, none⟩, ⟨"type-table", .pairs, none⟩, ⟨"query", .text, some 'q'⟩,
    ⟨"variables", .text, none⟩, ⟨"operation", .text, none⟩, ⟨"format", .text, none⟩,
    ⟨"log-level", .text, none⟩]

structure CompileOptions where
  sources : SourceSettings
  query : String
  variablesText : String
  operation : String
  asJson : Bool
  logLevel : Log.Level

inductive CompileError where
  | flags (fault : FlagFault)
  | noSchema
  | noCatalog
  | format (name : String)
  | query (cause : FileError)
  | variablesFile (cause : FileError)
  | sources (cause : Setup.SourceError)
  | request (cause : Engine.Failure)

def CompileError.message : CompileError → String
  | .flags _ => "bad flags"
  | .noSchema => "--schema is required"
  | .noCatalog => "--catalog is required"
  | .format name => "unknown --format " ++ Text.quote name
  | .query cause => "failed to read query: " ++ cause.message
  | .variablesFile cause => "failed to read variables: " ++ cause.message
  | .sources cause => cause.message
  | .request cause =>
    if cause.code = .internal then cause.message
    else cause.code.name ++ ": " ++ Text.join "; " (cause.entries.map (·.message))

def CompileOptions.read (arguments : List String) : Except CompileError CompileOptions := do
  let parsed ← (readFlags compileFlags arguments).mapError CompileError.flags
  let sources : SourceSettings :=
    { sdlFile := parsed.textOf "schema" ""
      catalogFile := parsed.textOf "catalog" ""
      relationsFile := parsed.textOf "relationships" ""
      derives := parsed.switchOf "derive" true
      typeTables := parsed.pairsOf "type-table" }
  let format := parsed.textOf "format" "text"
  if sources.sdlFile = "" then throw CompileError.noSchema
  if sources.catalogFile = "" then throw CompileError.noCatalog
  if format ≠ "text" ∧ format ≠ "json" then throw (CompileError.format format)
  return {
    sources
    query := parsed.textOf "query" "-"
    variablesText := parsed.textOf "variables" ""
    operation := parsed.textOf "operation" ""
    asJson := format == "json"
    logLevel := .ofName (parsed.textOf "log-level" "warn") }

def CompileOptions.variablesFile? (options : CompileOptions) : Option String :=
  Text.after? options.variablesText "@"

def CompileOptions.fileNames (options : CompileOptions) : List String :=
  [options.sources.sdlFile, options.sources.catalogFile, options.sources.relationsFile,
    options.query] ++ options.variablesFile?.toList

/-- The content of a file; a hyphen stands for standard input. -/
def readSource (files : Files) (stdin name : String) : Except FileError String :=
  if name = "-" then .ok stdin else files.read name

/-- The request the command compiles. Standard input can be read once. -/
def CompileOptions.envelope (options : CompileOptions) (files : Files) (stdin : String) :
    Except CompileError Request.Envelope := do
  let query ← (readSource files stdin options.query).mapError CompileError.query
  let left := if options.query = "-" then "" else stdin
  let variables? ←
    if options.variablesText = "" then pure none
    else match options.variablesFile? with
      | none => pure (some options.variablesText)
      | some file => some <$> (readSource files left file).mapError CompileError.variablesFile
  return { method := "POST", contentType := "application/json", query,
           operationName := options.operation, variables?, size := Text.byteLength query }

def argumentJson : Literal → Json
  | .int value => .ofInt value
  | .uint value => .ofNat value
  | .float value => .ofDouble value
  | .bool value => .bool value
  | .text value | .enum value => .text value
  | _ => .null

def statementJson (stmt : Plan.Statement) : Json :=
  let rendered := stmt.rendered
  .object [("root", .text stmt.responseName), ("sqlAlias", .text stmt.aliasName),
    ("singleton", .bool stmt.isSingle), ("sql", .text rendered.sql),
    ("args", .list (rendered.arguments.map argumentJson))]

def statementText (stmt : Plan.Statement) : String :=
  let rendered := stmt.rendered
  "-- " ++ stmt.responseName ++ "\n" ++ rendered.sql ++ ";\n-- args: " ++
    (Json.list (rendered.arguments.map argumentJson)).compact ++ "\n"

def printed (asJson : Bool) : Engine.Prepared → String
  | .question _ _ _ => "-- introspection only, no SQL\n"
  | .statements compiled =>
    if asJson then (Json.list (compiled.map statementJson)).pretty "  " 0 ++ "\n"
    else Text.join "\n" (compiled.map statementText)

/-- Run the command on what was read from its arguments. -/
def CompileOptions.run (options : CompileOptions) (files : Files) (stdin : String) :
    Except CompileError String := do
  let envelope ← options.envelope files stdin
  let logger : Log.Logger := { threshold := options.logLevel }
  let model ← ((Setup.loadSources options.sources files logger none).run.run {}).1.mapError
    CompileError.sources
  let prepared ← (Engine.prepare model (Request.analyze envelope)).mapError CompileError.request
  return printed options.asJson prepared

def compile (args : List String) (files : Files) (stdin : String) :
    Except CompileError String := do
  let options ← CompileOptions.read args
  options.run files stdin

end SelectGraph.CommandLine
