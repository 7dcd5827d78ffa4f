import SelectGraph.GraphQL.Document
import SelectGraph.Literal.Basic

/-!
# Literals from written values

A written value may contain variables. One that has no value becomes null inside a list and
takes its field away inside an object; at the top the whole argument is then absent.
-/

namespace SelectGraph

abbrev Environment := List (String × Literal)

namespace Literal

inductive ValueError where
  | integer (digits : String)
  | float (digits : String) (cause : Double.ReadError)
  deriving DecidableEq

def ValueError.message : ValueError → String
  | .integer digits => "invalid integer literal " ++ digits ++ ": invalid integer " ++ digits
  | .float digits cause => "invalid float literal " ++ digits ++ ": " ++ cause.message digits

mutual

/-- The literal of a written value; `none` is a variable that has no value. -/
def ofValue (env : Environment) : GraphQL.Value → Except ValueError (Option Literal)
  | .variable name _ => .ok (env.lookup name.value)
  | .int digits _ =>
    match ofDigits? digits with
    | some value => .ok (some value)
    | none => .error (.integer digits)
  | .float digits _ =>
    match Double.read digits with
    | .ok value => .ok (some (.float value))
    | .error cause => .error (.float digits cause)
  | .string content _ => .ok (some (.text content))
  | .boolean value _ => .ok (some (.bool value))
  | .enum name _ => .ok (some (.enum name))
  | .list items _ => (ofItems env items).map fun items => some (.list items)
  | .object fields _ => (ofFields env fields).map fun fields => some (.object fields)

def ofItems (env : Environment) : List GraphQL.Value → Except ValueError (List Literal)
  | [] => .ok []
  | item :: items => do
      let first ← ofValue env item
      let others ← ofItems env items
      return first.getD .null :: others

def ofFields (env : Environment) :
    List (GraphQL.Name × GraphQL.Value) → Except ValueError (List (String × Literal))
  | [] => .ok []
  | (name, value) :: fields => do
      let first? ← ofValue env value
      let others ← ofFields env fields
      match first? with
      | some first => return (name.value, first) :: others
      | none => return others

end

end Literal

end SelectGraph
