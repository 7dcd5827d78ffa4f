import SelectGraph.Sql.Query

/-!
# Statement text

A query is first written as a sequence of pieces and only then as text. A client value is a
piece of its own that reads `?`, so the text of a statement and its arguments come from the
same sequence.
-/

namespace SelectGraph.Sql

/-! ## Quoting

Identifiers stand between backticks and texts between single quotes. A delimiter inside is
written twice; in texts a backslash is written twice as well, since it starts an escape. -/

/-- Characters with each occurrence of a mark written twice. -/
def doubled (mark : Char) (chars : List Char) : List Char :=
  chars.flatMap fun c => if c = mark then [mark, mark] else [c]

def quoteIdentifier (name : String) : String :=
  String.ofList ('\x60' :: doubled '\x60' name.toList ++ ['\x60'])

def qualify (source col : String) : String :=
  quoteIdentifier source ++ "." ++ quoteIdentifier col

def quoteText (value : String) : String :=
  String.ofList ('\'' :: doubled '\'' (doubled '\\' value.toList) ++ ['\''])

/-! ## Statement text -/

inductive Piece where
  | code (text : String)
  | name (identifier : String)
  | text (value : String)
  | argument (value : Literal)

def Piece.sql : Piece → String
  | .code words => words
  | .name identifier => quoteIdentifier identifier
  | .text value => quoteText value
  | .argument _ => "?"

def Piece.argument? : Piece → Option Literal
  | .argument value => some value
  | _ => none

def sqlText (pieces : List Piece) : String :=
  String.join (pieces.map Piece.sql)

/-- The arguments of a sequence of pieces, in the order of their placeholders. -/
def arguments (pieces : List Piece) : List Literal :=
  pieces.filterMap Piece.argument?

/-- Sequences one after the other with a separator between them. -/
def separated (separator : String) : List (List Piece) → List Piece
  | [] => []
  | [part] => part
  | part :: parts => part ++ .code separator :: separated separator parts

def Direction.word : Direction → String
  | .ascending => "ASC"
  | .descending => "DESC"

def ColumnRef.pieces (ref : ColumnRef) : List Piece :=
  [.name ref.source, .code ".", .name ref.column]

def OrderTerm.pieces (term : OrderTerm) : List Piece :=
  let col := match term.source with
    | some source => ColumnRef.pieces ⟨source, term.column⟩
    | none => [.name term.column]
  col ++ [.code (" " ++ term.direction.word)]

def orderPieces (order : List OrderTerm) : List Piece :=
  separated ", " (order.map OrderTerm.pieces)

def Source.pieces : Source → List Piece
  | .table name aliasName => [.name name, .code " AS ", .name aliasName]
  | .rows name => [.name name]

def comparison (col : ColumnRef) (rel : String) (value : Literal) : List Piece :=
  col.pieces ++ [.code (" " ++ rel ++ " "), .argument value]

mutual

def Expr.pieces : Expr → List Piece
  | .column ref => ref.pieces
  | .bare name => [.name name]
  | .text value => [.text value]
  | .one => [.code "1"]
  | .countRows => [.code "COUNT(*)"]
  | .countWindow => [.code "COUNT(*) OVER ()"]
  | .rowNumber order =>
    .code "ROW_NUMBER() OVER (ORDER BY " :: orderPieces order ++ [.code ")"]
  | .object members =>
    .code "JSON_OBJECT(" :: separated ", " (memberPieces members) ++ [.code ")"]
  | .arrayOf item =>
    .code "COALESCE(JSON_ARRAYAGG(" :: Expr.pieces item ++ [.code "), JSON_ARRAY())"]
  | .asText value => .code "CAST(" :: Expr.pieces value ++ [.code " AS CHAR)"]
  | .never => [.code "CAST('false' AS JSON)"]
  | .anyRow query =>
    .code "CAST(IF(EXISTS(" :: Query.pieces query ++ [.code "), 'true', 'false') AS JSON)"]
  | .exceeds col bound =>
    .code "CAST(IF(MAX(" :: col.pieces ++
      [.code ") > ", .argument bound, .code ", 'true', 'false') AS JSON)"]
  | .subquery query => .code "(" :: Query.pieces query ++ [.code ")"]
  | .grouped value => .code "(" :: Expr.pieces value ++ [.code ")"]

def memberPieces : List (String × Expr) → List (List Piece)
  | [] => []
  | (key, value) :: members =>
    (.text key :: .code ", " :: Expr.pieces value) :: memberPieces members

def Predicate.pieces : Predicate → List Piece
  | .isNull col => col.pieces ++ [.code " IS NULL"]
  | .isNotNull col => col.pieces ++ [.code " IS NOT NULL"]
  | .equals col value => comparison col "=" value
  | .lessThan col value => comparison col "<" value
  | .greaterThan col value => comparison col ">" value
  | .oneOf _ [] => [.code "(1=0)"]
  | .oneOf col values =>
    col.pieces ++ .code " IN (" ::
      separated "," (values.map fun value => [.argument value]) ++ [.code ")"]
  | .joined pairs =>
    separated " AND " (pairs.map fun pair => pair.1.pieces ++ .code " = " :: pair.2.pieces)
  | .existsRow query => .code "EXISTS (" :: Query.pieces query ++ [.code ")"]
  | .all [] => [.code "(1=1)"]
  | .all parts => .code "(" :: separated " AND " (predicatePieces parts) ++ [.code ")"]
  | .any [] => [.code "(1=0)"]
  | .any parts => .code "(" :: separated " OR " (predicatePieces parts) ++ [.code ")"]

def predicatePieces : List Predicate → List (List Piece)
  | [] => []
  | part :: parts => Predicate.pieces part :: predicatePieces parts

def columnPieces : List (Expr × Option String) → List (List Piece)
  | [] => []
  | (value, alias?) :: cols =>
    let aliasName := match alias? with
      | some aliasName => [.code " AS ", .name aliasName]
      | none => []
    (Expr.pieces value ++ aliasName) :: columnPieces cols

def Query.pieces : Query → List Piece
  | .select decl cols source conds order limit =>
    let front := match decl with
      | some (name, body) =>
        .code "WITH " :: .name name :: .code " AS (" :: Query.pieces body ++ [.code ") "]
      | none => []
    let filter := match conds with
      | [] => []
      | conditions => .code " WHERE " :: separated " AND " (predicatePieces conds)
    let ordering := match order with
      | some order => .code " ORDER BY " :: orderPieces order
      | none => []
    let bound := match limit with
      | some limit => [.code (" LIMIT " ++ toString limit)]
      | none => []
    front ++ .code "SELECT " :: separated ", " (columnPieces cols) ++
      .code " FROM " :: source.pieces ++ filter ++ ordering ++ bound

end

/-- A statement ready to be sent: its text and its arguments. -/
structure Rendered where
  sql : String
  arguments : List Literal

def render (pieces : List Piece) : Rendered :=
  ⟨sqlText pieces, arguments pieces⟩

def Query.render (query : Query) : Rendered :=
  Sql.render query.pieces

/-- The text and the arguments of a condition on its own. -/
def Predicate.render (pred : Predicate) : Rendered :=
  Sql.render pred.pieces

end SelectGraph.Sql
