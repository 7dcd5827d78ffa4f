import SelectGraph.Json.Value
import SelectGraph.Literal.Basic

/-!
# Reading JSON objects

Members of objects by key, where a missing member, null and a value of another kind all give the
empty value of the expected kind.
-/

namespace SelectGraph.Json

/-- A member of an object; null counts as missing. -/
def at? (input : Json) (key : String) : Option Json :=
  match input.member? key with
  | some .null => none
  | found => found

def asText? : Json → Option String
  | .text value => some value
  | _ => none

def asText (input : Json) : String :=
  input.asText?.getD ""

/-- An integer, or zero. -/
def asInt : Json → Int
  | .number digits => (Literal.signed? digits).getD 0
  | _ => 0

def asItems : Json → List Json
  | .list items => items
  | _ => []

def asMembers : Json → List (String × Json)
  | .object members => members
  | _ => []

def textAt? (input : Json) (key : String) : Option String :=
  (input.at? key).bind asText?

def textAt (input : Json) (key : String) : String :=
  (input.textAt? key).getD ""

def boolAt? (input : Json) (key : String) : Option Bool :=
  match input.at? key with
  | some (.bool value) => some value
  | _ => none

/-- The truth value under a key, or false. -/
def boolAt (input : Json) (key : String) : Bool :=
  (input.boolAt? key).getD false

/-- The integer under a key, or zero. -/
def intAt (input : Json) (key : String) : Int :=
  ((input.at? key).map asInt).getD 0

def itemsAt (input : Json) (key : String) : List Json :=
  ((input.at? key).map asItems).getD []

def membersAt (input : Json) (key : String) : List (String × Json) :=
  ((input.at? key).map asMembers).getD []

/-- The value under a key, or an empty object. -/
def objectAt (input : Json) (key : String) : Json :=
  (input.at? key).getD (.object [])

def textsAt (input : Json) (key : String) : List String :=
  (input.itemsAt key).map asText

/-- The texts of the members of the object under a key. -/
def textMapAt (input : Json) (key : String) : List (String × String) :=
  (input.membersAt key).map fun (name, value) => (name, value.asText)

def textPairsAt (input : Json) (key : String) : List (String × String) :=
  (input.itemsAt key).map fun
    | .list [first, second] => (first.asText, second.asText)
    | _ => ("", "")

/-- A number as a double; anything else is zero. -/
def asDouble : Json → Double
  | .number digits => (Double.read digits).toOption.getD (Double.zero false)
  | _ => Double.zero false

def texts (values : List String) : Json :=
  .list (values.map .text)

def textPairs (pairs : List (String × String)) : Json :=
  .list (pairs.map fun (first, second) => texts [first, second])

def textMap (pairs : List (String × String)) : Json :=
  .object (pairs.map fun (name, value) => (name, .text value))

end SelectGraph.Json
