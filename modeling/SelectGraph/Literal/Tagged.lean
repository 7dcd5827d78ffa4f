import SelectGraph.Json.Access

/-!
# Tagged literals

A notation for literals in which every value carries its kind, so that kinds JSON does not tell apart
stay distinct. Doubles are written as the 16 hexadecimal digits of their bits.
-/

namespace SelectGraph.Literal

def tag (kind : String) (value : Json) : Json :=
  .object [("t", .text kind), ("v", value)]

mutual

def toTagged : Literal → Json
  | .null => .object [("t", .text "null")]
  | .int value => tag "int" (.text (toString value))
  | .uint value => tag "uint" (.text (toString value))
  | .float value => tag "float" (.text (String.ofList (Text.hexDigits 16 value.bits.toNat)))
  | .bool value => tag "bool" (.bool value)
  | .text value => tag "string" (.text value)
  | .enum name => tag "enum" (.text name)
  | .list items => tag "list" (.list (toTaggedItems items))
  | .object fields => tag "object" (.list (toTaggedFields fields))

def toTaggedItems : List Literal → List Json
  | [] => []
  | item :: items => item.toTagged :: toTaggedItems items

def toTaggedFields : List (String × Literal) → List Json
  | [] => []
  | (name, value) :: fields => .list [.text name, value.toTagged] :: toTaggedFields fields

end

def hexNumber (digits : String) : Nat :=
  digits.toList.foldl (fun value c => 16 * value + (Text.hexValue? c).getD 0) 0

/-- The literal of a tagged notation; the fuel bounds how deeply values nest. -/
def ofTaggedWithin : (fuel : Nat) → Json → Literal
  | 0, _ => .null
  | fuel + 1, input =>
    let value := input.objectAt "v"
    match input.textAt "t" with
    | "int" => .int ((signed? value.asText).getD 0)
    | "uint" => .uint ((unsigned? value.asText).getD 0)
    | "float" => .float ⟨UInt64.ofNat (hexNumber value.asText)⟩
    | "bool" => .bool (input.boolAt "v")
    | "string" => .text value.asText
    | "enum" => .enum value.asText
    | "list" => .list (value.asItems.map (ofTaggedWithin fuel))
    | "object" => .object (value.asItems.map fun
        | .list [name, inner] => (name.asText, ofTaggedWithin fuel inner)
        | _ => ("", .null))
    | _ => .null

def ofTagged (input : Json) : Literal :=
  ofTaggedWithin 1000 input

def taggedPairs (pairs : List (String × Literal)) : Json :=
  .list (toTaggedFields pairs)

/-! ## Inspecting literals -/

def describeJson (literal : Literal) : List (String × Json) :=
  [("value", literal.toTagged), ("describe", .text literal.describe), ("scalar", .bool literal.isScalar)]

def fieldJson (fields : List (String × Literal)) (name : String) : Json :=
  match get? fields name with
  | some value => .list [.bool true, value.toTagged]
  | none => .list [.bool false, toTagged .null]

/-- A literal with its description, its value in statements and some of its fields. -/
def inspect (literal : Literal) (names : List String) : Json :=
  let found := match literal with
    | .object fields => [("get", Json.list (names.map (fieldJson fields)))]
    | _ => []
  .object ([("describe", .text literal.describe), ("scalar", .bool literal.isScalar),
    ("sql", literal.sqlValue.toTagged)] ++ found)

end SelectGraph.Literal
