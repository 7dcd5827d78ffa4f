import SelectGraph.GraphQL.Printer
import SelectGraph.Schema.Basic

/-!
# Faults of a request

What can be wrong with a request that is well formed, with the places to point at. Every fault has
one wording.
-/

namespace SelectGraph.Validation

/-! ## Suggestions for unknown names

A name that is not known is likely a misspelling of a known one. Known names are suggested when few
edits separate them from what was written, nearest first. -/

/-- The next row of the table of edit distances: `above` holds the distances to the prefixes of the
other word, `diagonal` and `left` the entries before the first of them. -/
def distanceRow (byte : UInt8) : (other : List UInt8) → (diagonal left : Nat) → (above : List Nat) → List Nat
  | [], _, _, _ => []
  | _, _, _, [] => []
  | first :: other, diagonal, left, entry :: above =>
    let cost := if byte = first then 0 else 1
    let found := min (min (entry + 1) (left + 1)) (diagonal + cost)
    found :: distanceRow byte other entry found above

/-- The distances from a word to every prefix of another one, given those of the letters read. -/
def distanceTable (other : List UInt8) : (word : List UInt8) → (row : List Nat) → List Nat
  | [], row => row
  | byte :: word, row =>
    let start := row.headD 0
    distanceTable other word ((start + 1) :: distanceRow byte other start (start + 1) row.tail)

/-- The least number of bytes to insert, delete or replace that turns one text into another. -/
def editDistance (left right : String) : Nat :=
  let other := right.toUTF8.toList
  (distanceTable other left.toUTF8.toList (List.range (other.length + 1))).getLastD 0

/-- How many edits may separate a suggestion from what was written. -/
def threshold (written candidate : String) : Nat :=
  max (max (written.utf8ByteSize / 2) (candidate.utf8ByteSize / 2)) 1

/-- The candidates close to what was written, nearest first. -/
def suggestions (written : String) (candidates : List String) : List String :=
  let close := candidates.filterMap fun candidate =>
    let distance := editDistance written candidate
    if distance ≤ threshold written candidate then some (distance, candidate) else none
  (close.mergeSort fun a b => decide (a.1 ≤ b.1)).map Prod.snd

def maxSuggestions : Nat := 5

/-- Quoted names joined by commas and "or". -/
def alternatives (names : List String) : String :=
  let quoted := (names.take maxSuggestions).map fun name => "\"" ++ name ++ "\""
  match quoted with
  | [] => ""
  | [only] => only
  | [first, second] => first ++ " or " ++ second
  | many => Text.join ", " many.dropLast ++ ", or " ++ many.getLastD ""

/-- The sentence that offers suggestions, with a blank before it; empty without any. -/
def offer (names : List String) : String :=
  if names.isEmpty then "" else " Did you mean " ++ alternatives names ++ "?"

inductive Mismatch where
  | missing (type : String)
  | wrongType (type value : String)
  | notObject (type : String)
  | unknownField (field : String)
  | inField (field : String) (cause : Mismatch)
  | inElement (number : Nat) (cause : Mismatch)
  deriving DecidableEq

def Mismatch.message : Mismatch → String
  | .missing type => "Expected \"" ++ type ++ "!\", found null."
  | .wrongType type value => "Expected type \"" ++ type ++ "\", found " ++ value ++ "."
  | .notObject type => "Expected \"" ++ type ++ "\", found not an object."
  | .unknownField field => "In field \"" ++ field ++ "\": Unknown field."
  | .inField field cause => "In field \"" ++ field ++ "\": " ++ cause.message
  | .inElement number cause => "In element #" ++ toString number ++ ": " ++ cause.message

inductive Reason where
  | fields (left right : String)
  | arguments
  | types (left right : String)
  | subfields (reasons : List (String × Reason))

mutual

def Reason.message : Reason → String
  | .fields left right => left ++ " and " ++ right ++ " are different fields"
  | .arguments => "they have differing arguments"
  | .types left right => "they return conflicting types " ++ left ++ " and " ++ right
  | .subfields reasons => Text.join " and " (Reason.messages reasons)

def Reason.messages : List (String × Reason) → List String
  | [] => []
  | (name, reason) :: reasons =>
    ("subfields \"" ++ name ++ "\" conflict because " ++ reason.message) :: Reason.messages reasons

end

/-- What is wrong with a request. An operation without a name has the empty name. -/
inductive Problem where
  | argumentValue (arg value : String) (mismatches : List Mismatch)
  | defaultOfRequired (name type inner : String)
  | defaultValue (name value : String) (mismatches : List Mismatch)
  | unknownField (field type : String) (suggestions : List String)
  | inlineCondition (type : String)
  | fragmentCondition (frag type : String)
  | unknownArgument (arg field type : String) (suggestions : List String)
  | unknownDirectiveArgument (arg directive : String) (suggestions : List String)
  | unknownDirective (directive : String)
  | misplacedDirective (directive location : String)
  | unknownFragment (frag : String)
  | unknownType (type : String) (suggestions : List String)
  | anonymousNotAlone
  | undefinedVariable (name op : String)
  | unusedVariable (name op : String)
  | unusedFragment (frag : String)
  | conflict (responseName : String) (reason : Reason)
  | inlineMismatch (parent type : String)
  | spreadMismatch (frag parent type : String)
  | missingArgument (field arg type : String)
  | missingDirectiveArgument (directive arg type : String)
  | leafSelection (field type : String)
  | noSelection (field type : String)
  | repeatedArgument (name : String)
  | repeatedFragment (name : String)
  | repeatedInputField (name : String)
  | repeatedOperation (name : String)
  | repeatedVariable (name : String)
  | outputVariable (name type : String)
  | variablePosition (name type expected : String)

def mismatchLines (mismatches : List Mismatch) : String :=
  String.join (mismatches.map fun mismatch => "\n" ++ mismatch.message)

def ofOperation (word op : String) : String :=
  if op = "" then "." else " " ++ word ++ " operation \"" ++ op ++ "\"."

def Problem.message : Problem → String
  | .argumentValue arg value mismatches =>
    "Argument \"" ++ arg ++ "\" has invalid value " ++ value ++ "." ++ mismatchLines mismatches
  | .defaultOfRequired name type inner =>
    "Variable \"$" ++ name ++ "\" of type \"" ++ type ++
      "\" is required and will not use the default value. Perhaps you meant to use type \"" ++
      inner ++ "\"."
  | .defaultValue name value mismatches =>
    "Variable \"$" ++ name ++ "\" has invalid default value: " ++ value ++ "." ++
      mismatchLines mismatches
  | .unknownField field type suggestions =>
    "Cannot query field \"" ++ field ++ "\" on type \"" ++ type ++ "\"." ++ offer suggestions
  | .inlineCondition type => "Fragment cannot condition on non composite type \"" ++ type ++ "\"."
  | .fragmentCondition frag type =>
    "Fragment \"" ++ frag ++ "\" cannot condition on non composite type \"" ++ type ++ "\"."
  | .unknownArgument arg field type suggestions =>
    "Unknown argument \"" ++ arg ++ "\" on field \"" ++ field ++ "\" of type \"" ++ type ++
      "\"." ++ offer suggestions
  | .unknownDirectiveArgument arg directive suggestions =>
    "Unknown argument \"" ++ arg ++ "\" on directive \"@" ++ directive ++ "\"." ++
      offer suggestions
  | .unknownDirective directive => "Unknown directive \"" ++ directive ++ "\"."
  | .misplacedDirective directive location =>
    "Directive \"" ++ directive ++ "\" may not be used on " ++ location ++ "."
  | .unknownFragment frag => "Unknown fragment \"" ++ frag ++ "\"."
  | .unknownType type suggestions => "Unknown type \"" ++ type ++ "\"." ++ offer suggestions
  | .anonymousNotAlone => "This anonymous operation must be the only defined operation."
  | .undefinedVariable name op =>
    "Variable \"$" ++ name ++ "\" is not defined" ++ ofOperation "by" op
  | .unusedVariable name op =>
    "Variable \"$" ++ name ++ "\" is never used" ++ ofOperation "in" op
  | .unusedFragment frag => "Fragment \"" ++ frag ++ "\" is never used."
  | .conflict responseName reason =>
    "Fields \"" ++ responseName ++ "\" conflict because " ++ reason.message ++
      ". Use different aliases on the fields to fetch both if this was intentional."
  | .inlineMismatch parent type =>
    "Fragment cannot be spread here as objects of type \"" ++ parent ++
      "\" can never be of type \"" ++ type ++ "\"."
  | .spreadMismatch frag parent type =>
    "Fragment \"" ++ frag ++ "\" cannot be spread here as objects of type \"" ++ parent ++
      "\" can never be of type \"" ++ type ++ "\"."
  | .missingArgument field arg type =>
    "Field \"" ++ field ++ "\" argument \"" ++ arg ++ "\" of type \"" ++ type ++
      "\" is required but not provided."
  | .missingDirectiveArgument directive arg type =>
    "Directive \"@" ++ directive ++ "\" argument \"" ++ arg ++ "\" of type \"" ++ type ++
      "\" is required but not provided."
  | .leafSelection field type =>
    "Field \"" ++ field ++ "\" of type \"" ++ type ++ "\" must not have a sub selection."
  | .noSelection field type =>
    "Field \"" ++ field ++ "\" of type \"" ++ type ++ "\" must have a sub selection."
  | .repeatedArgument name => "There can be only one argument named \"" ++ name ++ "\"."
  | .repeatedFragment name => "There can only be one fragment named \"" ++ name ++ "\"."
  | .repeatedInputField name => "There can be only one input field named \"" ++ name ++ "\"."
  | .repeatedOperation name => "There can only be one operation named \"" ++ name ++ "\"."
  | .repeatedVariable name => "There can only be one variable named \"" ++ name ++ "\"."
  | .outputVariable name type =>
    "Variable \"$" ++ name ++ "\" cannot be non-input type \"" ++ type ++ "\"."
  | .variablePosition name type expected =>
    "Variable \"$" ++ name ++ "\" of type \"" ++ type ++ "\" used in position expecting type \"" ++
      expected ++ "\"."

structure Fault where
  problem : Problem
  positions : List Nat

end SelectGraph.Validation
