import SelectGraph.GraphQL.Document
import SelectGraph.Text.Quoted

/-!
# Writing documents

The one text of a request that does not depend on blanks, commas and comments. Parts that are
empty leave no separator behind.
-/

namespace SelectGraph.GraphQL

/-- Join the texts that are not empty. -/
def joinParts (separator : String) (parts : List String) : String :=
  separator.intercalate (parts.filter (· != ""))

/-- Put a text between two others, unless it is empty. -/
def wrapPart (opening text close : String) : String :=
  if text = "" then "" else opening ++ text ++ close

/-- Indent every line but the first by two spaces. -/
def indentLines (text : String) : String :=
  String.ofList (text.toList.flatMap fun c => if c = '\n' then ['\n', ' ', ' '] else [c])

def printBlock (lines : List String) : String :=
  if lines.isEmpty then "\x7b\x7d"
  else indentLines ("\x7b\n" ++ joinParts "\n" lines) ++ "\n\x7d"

mutual

def Value.print : Value → String
  | .variable name _ => "$" ++ name.value
  | .int digits _ => digits
  | .float digits _ => digits
  | .string content _ => Text.quote content
  | .boolean value _ => if value then "true" else "false"
  | .enum name _ => name
  | .list items _ => "[" ++ joinParts ", " (Value.printItems items) ++ "]"
  | .object fields _ => "\x7b" ++ joinParts ", " (Value.printFields fields) ++ "\x7d"

def Value.printItems : List Value → List String
  | [] => []
  | item :: items => Value.print item :: Value.printItems items

def Value.printFields : List (Name × Value) → List String
  | [] => []
  | (name, value) :: fields => (name.value ++ ": " ++ Value.print value) :: Value.printFields fields

end

def TypeRef.print : TypeRef → String
  | .missing => ""
  | .named name => name.value
  | .list item _ => "[" ++ item.print ++ "]"
  | .nonNull item _ => item.print ++ "!"

def Argument.print (arg : Argument) : String :=
  arg.name.value ++ ": " ++ arg.value.print

def printArguments (args : List Argument) : String :=
  wrapPart "(" (joinParts ", " (args.map Argument.print)) ")"

def Directive.print (directive : Directive) : String :=
  "@" ++ directive.name.value ++ printArguments directive.arguments

def printDirectives (dirs : List Directive) : String :=
  joinParts " " (dirs.map Directive.print)

mutual

def Selection.print : Selection → String
  | .field responseName? name args dirs sels _ _ =>
    let responseName := match responseName? with
      | some name => name.value
      | none => ""
    let inner := match sels with
      | [] => ""
      | first :: others => printBlock (Selection.print first :: Selection.printAll others)
    joinParts " " [wrapPart "" responseName ": " ++ name.value ++ printArguments args,
      printDirectives dirs, inner]
  | .spread name dirs _ =>
    "..." ++ name.value ++ wrapPart " " (printDirectives dirs) ""
  | .inline condition? dirs sels _ _ =>
    let condition := match condition? with
      | some name => "on " ++ name.value
      | none => ""
    joinParts " " ["...", condition, printDirectives dirs,
      printBlock (Selection.printAll sels)]

def Selection.printAll : List Selection → List String
  | [] => []
  | sel :: sels => Selection.print sel :: Selection.printAll sels

end

def VariableDefinition.print (decl : VariableDefinition) : String :=
  let default := match decl.default? with
    | some value => value.print
    | none => ""
  "$" ++ decl.name.value ++ ": " ++ decl.type.print ++ wrapPart " = " default ""

def Operation.print (op : Operation) : String :=
  let name := match op.name? with
    | some name => name.value
    | none => ""
  let declared := wrapPart "(" (joinParts ", " (op.variableDefinitions.map VariableDefinition.print)) ")"
  let dirs := printDirectives op.directives
  let block := printBlock (Selection.printAll op.selections)
  if name = "" ∧ dirs = "" ∧ declared = "" ∧ op.kind = .query then block
  else joinParts " " [op.kind.word, joinParts "" [name, declared], dirs, block]

def Fragment.print (frag : Fragment) : String :=
  joinParts " " ["fragment", frag.name.value, "on", frag.condition.value,
    printDirectives frag.directives, printBlock (Selection.printAll frag.selections)]

/-- The text of a request: definitions with an empty line between them. -/
def printRequest (op : Operation) (frags : List Fragment) : String :=
  joinParts "\n\n" (op.print :: frags.map Fragment.print) ++ "\n"

end SelectGraph.GraphQL
