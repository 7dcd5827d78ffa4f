import SelectGraph.Yaml.Mapping

/-!
# Reading typed values from YAML

A null leaves what it is read into as it was, so readers of single values give `none` for it.
-/

namespace SelectGraph.Yaml.Node

open SelectGraph.Yaml

/-- Read a truth value; some words count as truth values here. -/
def asBool? (node : Node) : Except Fault (Option Bool) := do
  match ← node.asScalar with
  | .null => return none
  | .bool value => return some value
  | .text word =>
    if ["y", "Y", "yes", "Yes", "YES", "on", "On", "ON"].contains word then return some true
    else if ["n", "N", "no", "No", "NO", "off", "Off", "OFF"].contains word then return some false
    else throw .malformed
  | _ => throw .malformed

/-- The integer of 64 bits that a float stands for. It loses its decimals; one beyond the range, of which
only those up to its upper end are taken, is the least integer. -/
def integerOf? (value : Double) : Option Int :=
  if value.isNaN || (Double.ofInt Word.signedLimit).less value then none
  else
    match value.truncate? with
    | some number => some (if Word.fitsSigned number then number else -Word.signedLimit)
    | none => some (-Word.signedLimit)

def asInt? (node : Node) : Except Fault (Option Int) := do
  match ← node.asScalar with
  | .null => return none
  | .int value => if value < Word.signedLimit then return some value else throw .malformed
  | .float value =>
    match integerOf? value with
    | some number => return some number
    | none => throw .malformed
  | _ => throw .malformed

def isNull (node : Node) : Except Fault Bool :=
  match node.target with
  | .scalar tag? plain text => (resolve tag? plain text).map (· == .null)
  | _ => .ok false

def asItems? (node : Node) : Except Fault (Option (List Node)) := do
  if ← node.isNull then return none
  match node.target with
  | .sequence items => return some items
  | _ => throw .malformed

/-- Read each item of a sequence; items that are null are dropped. -/
def asList {α : Type} (item : Node → Except Fault (Option α)) (node : Node) :
    Except Fault (List α) := do
  match ← node.asItems? with
  | none => return []
  | some items => return (← items.mapM item).filterMap id

/-- The fields of a record by name. -/
abbrev Fields := List (String × Node)

def fieldsOnce (known : List String) : List String → Bool
  | [] => true
  | name :: names => !(known.contains name && names.contains name) && fieldsOnce known names

/-- Read the fields of a record, of which `known` are its own; a strict reader refuses others. -/
def asFields? (known : List String) (strict : Bool) (node : Node) : Except Fault (Option Fields) := do
  if ← node.isNull then return none
  match node.target with
  | .mapping found =>
    let (written, more) ← Keys.texts.entries found
    if !fieldsOnce known (written.map Prod.fst) then throw .malformed
    let all := written ++ more
    if strict && !(all.all fun entry => known.contains entry.1) then throw .malformed
    return some all
  | _ => throw .malformed

def Fields.read {α : Type} (fields : Fields) (name : String) (reader : Node → Except Fault (Option α))
    (default : α) : Except Fault α := do
  match fields.lookup name with
  | none => return default
  | some node => return (← reader node).getD default

def Fields.readList {α : Type} (fields : Fields) (name : String)
    (item : Node → Except Fault (Option α)) : Except Fault (List α) := do
  match fields.lookup name with
  | none => return []
  | some node => asList item node

def setText (texts : List (String × String)) (name value : String) : List (String × String) :=
  texts.filter (·.1 != name) ++ [(name, value)]

/-- Read a mapping of texts to texts. A null value is the empty text, but does not replace a text when
it is merged. -/
def asTextMap (node : Node) : Except Fault (List (String × String)) := do
  if ← node.isNull then return []
  match node.target with
  | .mapping found =>
    let (written, more) ← Keys.texts.entries found
    let texts ← written.foldlM (fun texts (name, value) => do
      return setText texts name ((← value.asText?).getD "")) []
    more.foldlM (fun texts (name, value) => do
      match ← value.asText? with
      | some text => return setText texts name text
      | none => return if texts.any (·.1 == name) then texts else setText texts name "") texts
  | _ => throw .malformed

end SelectGraph.Yaml.Node
