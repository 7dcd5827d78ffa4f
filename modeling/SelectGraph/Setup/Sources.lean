import SelectGraph.Catalog.Document
import SelectGraph.Catalog.Introspection
import SelectGraph.Engine.Prepare
import SelectGraph.Files
import SelectGraph.Relation.Derive
import SelectGraph.Relation.Document
import SelectGraph.Schema.Build
import SelectGraph.Telemetry.Journal

/-!
# Sources of the compiler

The compiler is set up from a schema, a catalog and relations. The catalog is read from a file, or
from the database when no file is named. Tables that the settings give to types replace those that
the catalog gives to them.
-/

namespace SelectGraph.Setup

open Telemetry (Observed)

structure SourceSettings where
  sdlFile : String := ""
  catalogFile : String := ""
  relationsFile : String := ""
  derives : Bool := false
  typeTables : List (String × String) := []
  naming : Naming := ⟨[], []⟩

inductive SourceError where
  | schemaFile (cause : FileError)
  | schema (cause : Schema.SchemaError)
  | catalogFile (cause : FileError)
  | catalog (cause : Catalog.CatalogError)
  | noCatalog
  | introspection (database : String) (cause : Catalog.IntrospectionError)
  | relationsFile (cause : FileError)
  | relations (cause : Relation.DocumentError)
  | registry (cause : Relation.Invalid)

def SourceError.message : SourceError → String
  | .schemaFile cause => "failed to read schema file: " ++ cause.message
  | .schema cause => cause.message
  | .catalogFile cause => "failed to read catalog file: " ++ cause.message
  | .catalog cause => cause.message
  | .noCatalog => "no catalog file configured and no database to introspect"
  | .introspection database cause =>
    "failed to introspect database " ++ database ++ ": " ++ cause.message
  | .relationsFile cause => "failed to read relationships file: " ++ cause.message
  | .relations cause => cause.message
  | .registry cause => "failed to build relationship registry: " ++ cause.message

structure Described where
  backend : Database.Backend
  name : String

abbrev Loading := ExceptT SourceError Observed

def given {α ε : Type} (outcome : Except ε α) (wrap : ε → SourceError) : Loading α :=
  ExceptT.mk (pure (outcome.mapError wrap))

/-- The catalog: of the file that is named, or else of the database. -/
def loadCatalog (cfg : SourceSettings) (files : Files) (database? : Option Described) :
    Loading Catalog := do
  if cfg.catalogFile ≠ "" then
    let text ← given (files.read cfg.catalogFile) SourceError.catalogFile
    given (Catalog.parse text) SourceError.catalog
  else
    match database? with
    | none => throw SourceError.noCatalog
    | some database => ExceptT.mk do
        let outcome ← Observed.session (Catalog.introspect database.backend database.name).run
        return outcome.mapError (SourceError.introspection database.name)

def loadSources (cfg : SourceSettings) (files : Files) (logger : Log.Logger)
    (database? : Option Described) : Loading Engine.Model := do
  let sdl ← given (files.read cfg.sdlFile) SourceError.schemaFile
  let schema ← given (Schema.parse sdl) SourceError.schema
  let read ← loadCatalog cfg files database?
  let catalog := cfg.typeTables.foldl
    (fun found (type, table) => found.mapType type table) read
  let declared ←
    if cfg.relationsFile = "" then pure []
    else do
      let text ← given (files.read cfg.relationsFile) SourceError.relationsFile
      given (Relation.parseAll text) SourceError.relations
  let registry ← given (Registry.build catalog cfg.naming cfg.derives declared)
    SourceError.registry
  let fields : Log.Fields :=
    [("sdl_file", .text cfg.sdlFile), ("tables", .integer catalog.tables.length),
      ("type_mappings", .integer catalog.typeTables.length),
      ("relationships", .integer registry.relations.length),
      ("derived_relationships", .boolean cfg.derives)]
  Observed.log logger .info "compiler sources loaded" fields
  return ⟨schema, ⟨catalog, registry⟩⟩

end SelectGraph.Setup
