import SelectGraph.Number.Written
import SelectGraph.Request.Analysis
import SelectGraph.Schema.Answer
import SelectGraph.Validation.Values

/-!
# Supplied values

The values of variables as a page supplies them, and what is wrong with one where its type is declared.
Numbers count as doubles. Texts, identifiers and truth values are made from any value, and a number
may be written as a text.
-/

namespace SelectGraph.Engine

open Validation (Mismatch)

/-- Numbers written as doubles, and members sorted; a number out of range is null. The budget bounds
how deeply values nest. -/
def normalized : (budget : Nat) → Json → Json
  | 0, value => value
  | budget + 1, .list items => .list (items.map (normalized budget))
  | budget + 1, .object members =>
    .object (Schema.sortMembers ((Request.lastOfEach members).map fun (key, value) =>
      (key, normalized budget value)))
  | _ + 1, .number digits =>
    match Double.read digits with
    | .ok value => .ofDouble value
    | .error _ => .null
  | _ + 1, value => value

mutual

/-- A supplied value as messages about its type show it. -/
def shownValue : Json → String
  | .null => "<nil>"
  | .bool value => if value then "true" else "false"
  | .number digits => (Double.read digits).toOption.elim digits Double.toText
  | .text value => value
  | .list items => "[" ++ Text.join " " (shownItems items) ++ "]"
  | .object members => "map[" ++ Text.join " " (shownMembers members) ++ "]"

def shownItems : List Json → List String
  | [] => []
  | item :: items => shownValue item :: shownItems items

/-- The members of a supplied object as messages show them. -/
def shownMembers : List (String × Json) → List String
  | [] => []
  | (key, value) :: members => (key ++ ":" ++ shownValue value) :: shownMembers members

end

/-- Whether a double can be made into an integer of 32 bits. -/
def isSmall (value : Double) : Bool :=
  !value.less (Double.ofInt (-2147483648)) && !(Double.ofInt 2147483647).less value

def fitsScalar (type : String) (value : Json) : Bool :=
  match type, value with
  | "Int", .bool _ => true
  | "Int", .number digits => (Double.read digits).toOption.any isSmall
  | "Int", .text written => (Written.double? written).any isSmall
  | "Int", _ => false
  | "Float", .bool _ | "Float", .number _ => true
  | "Float", .text written => (Written.double? written).any fun found => !found.isNaN
  | "Float", _ => false
  | _, _ => true

def fitsEnum (values : List String) : Json → Bool
  | .text name => values.contains name
  | _ => false

/-- What is wrong with a supplied value for a type that does not look inside values. -/
def plainMismatches (schema : Schema) (type : String) (value : Json) : List Mismatch :=
  let wrong : List Mismatch := [.wrongType type ("\"" ++ shownValue value ++ "\"")]
  match schema.shape? type with
  | some .scalar => if fitsScalar type value then [] else wrong
  | some (.enum values) => if fitsEnum values value then [] else wrong
  | some (.input _) => [.notObject type]
  | some (.object _) | none => []

/-- What is wrong with the members of an object, given the mismatches of each: first the names that are
no fields, then the fields, both by name. -/
def memberMismatches (expected : List InputField) (given : List (String × List Mismatch)) :
    List Mismatch :=
  let sorted := expected.mergeSort fun left right => decide (left.name ≤ right.name)
  Validation.unknownFields expected given ++ Validation.fieldMismatches sorted given

mutual

/-- What is wrong with a supplied value where a type is declared; its members are sorted. -/
def suppliedMismatches (schema : Schema) (type : TypeExpr) : Json → List Mismatch
  | .null => Validation.absent type
  | .list items =>
    match Validation.itemType? type with
    | some item => suppliedItems schema item items
    | none => plainMismatches schema type.base (.list items)
  | .object members =>
    match schema.shape? type.base with
    | some (.input expected) => memberMismatches expected (suppliedMembers schema expected members)
    | _ => plainMismatches schema type.base (.object members)
  | value => plainMismatches schema type.base value

def suppliedItems (schema : Schema) (type : TypeExpr) : List Json → List Mismatch
  | [] => []
  | item :: items =>
    Validation.inElements (suppliedMismatches schema type item) ++ suppliedItems schema type items

def suppliedMembers (schema : Schema) (expected : List InputField) :
    List (String × Json) → List (String × List Mismatch)
  | [] => []
  | (name, value) :: members =>
    let found := match expected.find? fun field => field.name == name with
      | some field => suppliedMismatches schema field.type value
      | none => []
    (name, found) :: suppliedMembers schema expected members

end

/-- The complaint about what is supplied for a variable, if it does not fit the type declared. -/
def variableComplaint? (schema : Schema) (supplied : List (String × Json))
    (decl : GraphQL.VariableDefinition) : Option String :=
  let name := decl.name.value
  let value := (supplied.lookup name).getD .null
  match Validation.resolve? schema decl.type with
  | none => none
  | some type =>
    match suppliedMismatches schema type value, value with
    | [], _ => none
    | _, .null => some ("Variable \"$" ++ name ++ "\" of required type \"" ++ decl.type.print ++
        "\" was not provided.")
    | found, _ => some ("Variable \"$" ++ name ++ "\" got invalid value " ++ value.compact ++ "." ++
        Validation.mismatchLines found)

end SelectGraph.Engine
