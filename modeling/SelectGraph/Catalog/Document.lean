import SelectGraph.Catalog.Basic
import SelectGraph.Yaml.Decode

/-!
# Catalog documents

A catalog as it is written in a file. Fields it does not know are passed over.
-/

namespace SelectGraph.Catalog

open Yaml

def readColumn (node : Node) : Except Fault (Option Column) := do
  match ← node.asFields? ["name", "type", "nullable"] false with
  | none => return none
  | some fields => return some {
      name := ← fields.read "name" Node.asText? ""
      type := ← fields.read "type" Node.asText? ""
      nullable := ← fields.read "nullable" Node.asBool? false }

def readIndex (node : Node) : Except Fault (Option TableIndex) := do
  match ← node.asFields? ["name", "unique", "columns"] false with
  | none => return none
  | some fields => return some {
      name := ← fields.read "name" Node.asText? ""
      unique := ← fields.read "unique" Node.asBool? false
      columns := ← fields.readList "columns" Node.asText? }

def readForeignKey (node : Node) : Except Fault (Option ForeignKey) := do
  match ← node.asFields? ["column", "references", "referenced_column", "constraint", "position"] false with
  | none => return none
  | some fields => return some {
      column := ← fields.read "column" Node.asText? ""
      table := ← fields.read "references" Node.asText? ""
      referenced := ← fields.read "referenced_column" Node.asText? ""
      constraint := ← fields.read "constraint" Node.asText? ""
      position := ← fields.read "position" Node.asInt? 0 }

def readTable (node : Node) : Except Fault (Option Table) := do
  match ← node.asFields? ["name", "columns", "primary_key", "foreign_keys", "indexes"] false with
  | none => return none
  | some fields => return some {
      name := ← fields.read "name" Node.asText? ""
      columns := ← fields.readList "columns" readColumn
      primaryKey := ← fields.readList "primary_key" Node.asText?
      foreignKeys := ← fields.readList "foreign_keys" readForeignKey
      indexes := ← fields.readList "indexes" readIndex }

def readDocument (text : String) : Except Fault Catalog := do
  match ← Yaml.parse text with
  | none => return ⟨[], []⟩
  | some root =>
    match ← root.asFields? ["tables", "type_tables"] false with
    | none => return ⟨[], []⟩
    | some fields =>
      let typeTables ← match fields.lookup "type_tables" with
        | none => pure []
        | some node => node.asTextMap
      return ⟨← fields.readList "tables" readTable, typeTables⟩

def parse (text : String) : Except CatalogError Catalog :=
  match readDocument text with
  | .error _ => .error .malformed
  | .ok catalog => (check catalog).map fun _ => catalog

end SelectGraph.Catalog
