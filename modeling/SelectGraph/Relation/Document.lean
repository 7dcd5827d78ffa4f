import SelectGraph.Relation.Basic
import SelectGraph.Yaml.Decode

/-!
# Relation documents

Declared relations as they are written in a file. Unlike in catalogs, unknown fields are refused.
A strategy that is left out follows from the rest.
-/

namespace SelectGraph.Relation

open Yaml

inductive DocumentError where
  | malformed
  | invalid (position : Nat) (cause : Invalid)
  deriving DecidableEq

def DocumentError.message : DocumentError → String
  | .malformed => "failed to parse relationships: malformed document"
  | .invalid position cause =>
    "relationships[" ++ toString position ++ "]: " ++ cause.message

def readPair (first second : String) (node : Node) : Except Fault (Option (String × String)) := do
  match ← node.asFields? [first, second] true with
  | none => return none
  | some fields =>
    return some (← fields.read first Node.asText? "", ← fields.read second Node.asText? "")

def readThrough (node : Node) : Except Fault (Option (Option Through)) := do
  match ← node.asFields? ["table", "left", "right"] true with
  | none => return some none
  | some fields => return some (some {
      table := ← fields.read "table" Node.asText? ""
      left := ← fields.readList "left" (readPair "column" "junction")
      right := ← fields.readList "right" (readPair "column" "junction") })

def impliedStrategy (rel : Relation) : Strategy :=
  if rel.through?.isSome then .junction
  else if rel.left = rel.right then .self
  else .direct

def readRelation (node : Node) : Except Fault (Option Relation) := do
  match ← node.asFields? ["name", "left", "right", "strategy", "on", "through"] true with
  | none => return none
  | some fields =>
    let written : Relation := {
      name := ← fields.read "name" Node.asText? ""
      left := ← fields.read "left" Node.asText? ""
      right := ← fields.read "right" Node.asText? ""
      strategy := .ofWord (← fields.read "strategy" Node.asText? "")
      pairs := ← fields.readList "on" (readPair "left" "right")
      through? := ← fields.read "through" readThrough none }
    return some { written with
      strategy := if written.strategy = .other "" then impliedStrategy written else written.strategy }

def readDocument (text : String) : Except Fault (List Relation) := do
  match ← Yaml.parse text with
  | none => return []
  | some root =>
    match ← root.asFields? ["relationships"] true with
    | none => return []
    | some fields => fields.readList "relationships" readRelation

def firstInvalid? (rels : List Relation) : Option (Nat × Invalid) :=
  rels.zipIdx.findSome? fun (rel, position) =>
    match rel.validate with
    | .ok _ => none
    | .error cause => some (position, cause)

def parseAll (text : String) : Except DocumentError (List Relation) :=
  match readDocument text with
  | .error _ => .error .malformed
  | .ok rels =>
    match firstInvalid? rels with
    | some (position, cause) => .error (.invalid position cause)
    | none => .ok rels

end SelectGraph.Relation
