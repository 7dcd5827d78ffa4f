import SelectGraph.Json.Reader
import SelectGraph.Number.Double

/-!
# JSON documents

Values with numbers kept as written and object members in the order of the text, and the
two ways the program writes them: compact, and with two spaces of indentation per level.
-/

namespace SelectGraph

/-- A JSON value. Numbers are kept as written and members in the order of the text. -/
inductive Json where
  | null
  | bool (value : Bool)
  | number (digits : String)
  | text (value : String)
  | list (items : List Json)
  | object (members : List (String × Json))

namespace Json

/-- The reader of plain JSON values; a fault carries no further detail. -/
def plainAlgebra : Algebra Json Unit where
  null := .null
  bool := .bool
  text := .text
  number digits := .ok (.number digits)
  list := .list
  object := .object
  syntaxError := ()

/-- The deepest nesting of arrays and objects a document may have. -/
def maxDepth : Nat := 10000

/-- The deepest nesting reached while reading tokens, from a given level. -/
def nesting (level : Nat) : List Token → Nat
  | [] => level
  | token :: rest =>
    let next := match token with
      | .openBrace | .openBracket => level + 1
      | .closeBrace | .closeBracket => level - 1
      | _ => level
    max level (nesting next rest)

def parse? (source : String) : Option Json :=
  let all := tokens source
  match readValue plainAlgebra all with
  | .ok (value, []) => if nesting 0 all ≤ maxDepth then some value else none
  | _ => none

def isValid (source : String) : Bool :=
  (parse? source).isSome

/-- The character inside a written string. Besides what JSON requires, the characters `<`, `>`
and `&` and the two line separators are escaped when the text may end up in a page. -/
def escapeChar (forPage : Bool) (c : Char) : List Char :=
  match c with
  | '"' => ['\\', '"']
  | '\\' => ['\\', '\\']
  | '\n' => ['\\', 'n']
  | '\r' => ['\\', 'r']
  | '\t' => ['\\', 't']
  | c =>
    if c.toNat = 8 then ['\\', 'b']
    else if c.toNat = 12 then ['\\', 'f']
    else if c.toNat < 0x20 || c.toNat = 0x2028 || c.toNat = 0x2029 ||
        (forPage && (c = '<' || c = '>' || c = '&')) then
      '\\' :: 'u' :: Text.hexDigits 4 c.toNat
    else [c]

/-- A written string, escaped for use in a page. -/
def quote (value : String) : String :=
  String.ofList ('"' :: value.toList.flatMap (escapeChar true) ++ ['"'])

mutual

def compact : Json → String
  | .null => "null"
  | .bool true => "true"
  | .bool false => "false"
  | .number digits => digits
  | .text value => quote value
  | .list items => "[" ++ ",".intercalate (compactItems items) ++ "]"
  | .object members => "\x7b" ++ ",".intercalate (compactMembers members) ++ "\x7d"

def compactItems : List Json → List String
  | [] => []
  | item :: items => compact item :: compactItems items

def compactMembers : List (String × Json) → List String
  | [] => []
  | (key, value) :: members => (quote key ++ ":" ++ compact value) :: compactMembers members

end

def indentation (unit : String) (level : Nat) : String :=
  String.join (List.replicate level unit)

mutual

/-- The text of a value with one item or member on a line. -/
def pretty (unit : String) (level : Nat) : Json → String
  | .list [] => "[]"
  | .list items =>
    "[\n" ++ ",\n".intercalate (prettyItems unit (level + 1) items) ++ "\n" ++ indentation unit level ++ "]"
  | .object [] => "\x7b\x7d"
  | .object members =>
    "\x7b\n" ++ ",\n".intercalate (prettyMembers unit (level + 1) members) ++ "\n" ++
      indentation unit level ++ "\x7d"
  | value => compact value

def prettyItems (unit : String) (level : Nat) : List Json → List String
  | [] => []
  | item :: items => (indentation unit level ++ pretty unit level item) :: prettyItems unit level items

def prettyMembers (unit : String) (level : Nat) : List (String × Json) → List String
  | [] => []
  | (key, value) :: members =>
    (indentation unit level ++ quote key ++ ": " ++ pretty unit level value) :: prettyMembers unit level members

end

/-- The member of an object with a given key; of several the last. -/
def member? (key : String) : Json → Option Json
  | .object members => (members.reverse.find? fun entry => entry.1 == key).map (·.2)
  | _ => none

def ofInt (value : Int) : Json := .number (toString value)

def ofNat (value : Nat) : Json := .number (toString value)

def ofDouble (value : Double) : Json := .number value.toJsonText

end Json

end SelectGraph
