import SelectGraph.Literal.Value
import SelectGraph.Validation.Fault
import SelectGraph.Validation.Types

/-!
# Written values and their types

What is wrong with a value where a type is expected. Variables fit everywhere, for their own type
is checked elsewhere, and a single value fits where a list is expected.
-/

namespace SelectGraph.Validation

open GraphQL (Name Value)

/-- The name of the type inside a non-null mark, as the message about a missing value shows it. -/
def innerName : TypeExpr → String
  | .named name => name
  | .list item => shown item
  | .nonNull item => shown item ++ "!"

/-- What is wrong when a value is absent where a type is expected. -/
def absent : TypeExpr → List Mismatch
  | .nonNull item => [.missing (innerName item)]
  | _ => []

/-- Whether an integer fits into a signed word of 64 bits. -/
def fitsWord (value : Int) : Bool :=
  Word.fitsSigned value

def integerOf (digits : String) : Int :=
  match digits.toList with
  | '-' :: rest => -(Text.digitsValue rest : Int)
  | all => (Text.digitsValue all : Int)

def isFiniteNumber (digits : String) : Bool :=
  match Double.read digits with
  | .ok _ => true
  | .error _ => false

/-- Whether a value is one of a scalar type; scalars that a schema defines take every value. -/
def fitsScalar (type : String) (value : Value) : Bool :=
  match type, value with
  | _, .variable _ _ => true
  | "Int", .int digits _ => fitsWord (integerOf digits)
  | "Int", _ => false
  | "Float", .int digits _ | "Float", .float digits _ => isFiniteNumber digits
  | "Float", _ => false
  | "String", .string _ _ => true
  | "String", _ => false
  | "Boolean", .boolean _ _ => true
  | "Boolean", _ => false
  | "ID", .int _ _ | "ID", .string _ _ => true
  | "ID", _ => false
  | _, value =>
    match Literal.ofValue [] value with
    | .ok (some .null) | .ok none | .error _ => false
    | .ok (some _) => true

def fitsEnum (values : List String) : Value → Bool
  | .variable _ _ => true
  | .enum name _ => values.contains name
  | _ => false

/-- What is wrong with a value that is neither an object nor a list, or for a type that does not
look inside values. -/
def plainMismatches (schema : Schema) (type : String) (value : Value) : List Mismatch :=
  match schema.shape? type with
  | some .scalar => if fitsScalar type value then [] else [.wrongType type value.print]
  | some (.enum values) => if fitsEnum values value then [] else [.wrongType type value.print]
  | some (.input _) =>
    match value with
    | .variable _ _ => []
    | _ => [.notObject type]
  | some (.object _) | none => []

/-- The type of the items where a list is written, if lists are expected there. -/
def itemType? (type : TypeExpr) : Option TypeExpr :=
  match type.nullable with
  | .list item => some item
  | _ => none

/-- The mismatches of an item, numbered from one. -/
def inElements (mismatches : List Mismatch) : List Mismatch :=
  mismatches.zipIdx.map fun (mismatch, index) => .inElement (index + 1) mismatch

/-- The mismatches of the fields an input type has: those of the last value given for each. -/
def fieldMismatches (fields : List InputField) (given : List (String × List Mismatch)) :
    List Mismatch :=
  fields.flatMap fun field =>
    let found := match given.reverse.lookup field.name with
      | some mismatches => mismatches
      | none => absent field.type
    found.map (Mismatch.inField field.name)

def unknownFields (fields : List InputField) (given : List (String × List Mismatch)) :
    List Mismatch :=
  (given.filter fun entry => !(fields.any fun field => field.name == entry.1)).map
    fun entry => .unknownField entry.1

mutual

/-- What is wrong with a value where a type is expected. -/
def mismatches (schema : Schema) (type : TypeExpr) : Value → List Mismatch
  | .list items start =>
    match itemType? type with
    | some item => mismatchesOfItems schema item items
    | none => plainMismatches schema type.base (.list items start)
  | .object fields start =>
    match schema.shape? type.base with
    | some (.input expected) =>
      let given := mismatchesOfFields schema expected fields
      unknownFields expected given ++ fieldMismatches expected given
    | _ => plainMismatches schema type.base (.object fields start)
  | value => plainMismatches schema type.base value

def mismatchesOfItems (schema : Schema) (type : TypeExpr) : List Value → List Mismatch
  | [] => []
  | item :: items => inElements (mismatches schema type item) ++ mismatchesOfItems schema type items

def mismatchesOfFields (schema : Schema) (expected : List InputField) :
    List (Name × Value) → List (String × List Mismatch)
  | [] => []
  | (name, value) :: fields =>
    let found := match expected.find? fun field => field.name == name.value with
      | some field => mismatches schema field.type value
      | none => []
    (name.value, found) :: mismatchesOfFields schema expected fields

end

end SelectGraph.Validation
