import SelectGraph.Schema.Basic

/-!
# Selection trees

What a request asks for, after fragments, directives and variables have been dealt with. A relation
is a selection of rows of a table; an attribute is a column of them. A connection is a relation
whose rows are wrapped in edges and described by page information.
-/

namespace SelectGraph.Tree

/-- One selection of page information, by the response names of its parts. -/
structure PageInfo where
  responseName : String
  hasNext : List String
  endCursor : List String
  type : String
  typeNames : List String
  deriving DecidableEq

structure Connection where
  edges : String
  node : String
  cursors : List String
  totals : List String
  pages : List PageInfo
  type : String
  typeNames : List String
  edgeType : String
  edgeTypeNames : List String
  deriving DecidableEq, Inhabited

namespace Connection

/-- Whether some page information shows the cursor of the last row. -/
def wantsEndCursor (conn : Connection) : Bool :=
  conn.pages.any fun page => !page.endCursor.isEmpty

/-- Whether the cursor of any row is shown. -/
def wantsCursor (connection : Connection) : Bool :=
  !connection.cursors.isEmpty || connection.wantsEndCursor

/-- Whether some page information says if more rows follow. -/
def wantsHasNext (conn : Connection) : Bool :=
  conn.pages.any fun page => !page.hasNext.isEmpty

end Connection

/-- A relation without its children. `alias` is its name in statements, unique in a request. For a
connection the target is the type of the nodes. -/
structure Head where
  field : String
  responseName : String
  aliasName : String
  target : FieldType
  arguments : List (String × Literal)
  connection? : Option Connection
  deriving Inhabited

/-- The value of an argument; of several with one name the first. -/
def Head.argument? (head : Head) (name : String) : Option Literal :=
  Literal.get? head.arguments name

/-- A node of a selection tree. -/
inductive Node where
  | attribute (field responseName : String)
  | relation (head : Head) (children : List Node)
  deriving Inhabited

def Node.responseName : Node → String
  | .attribute _ responseName => responseName
  | .relation head _ => head.responseName

structure Root where
  head : Head
  children : List Node
  deriving Inhabited

end SelectGraph.Tree
