import SelectGraph.Tree.Basic
import SelectGraph.Tree.Collect

/-!
# Building selection trees

Fields with subfields become relations, or connections when they select edges; all other fields are
attributes. Relations are numbered in the order in which they are met, and the number makes
their names in statements unique.
-/

namespace SelectGraph.Tree

open GraphQL (Argument Document Operation Selection)

/-- What a build works with. -/
structure Context where
  schema : Schema
  document : Document
  environment : Environment

/-- A step of a build; the state is the number of relations named so far. -/
abbrev Builder := StateT Nat (Except BuildError)

namespace Builder

def fail {α : Type} (message : String) : Builder α :=
  throw (.unresolved message)

def fieldType (ctx : Context) (parent field : String) : Builder FieldType :=
  match ctx.schema.fieldType parent field with
  | .ok found => return found
  | .error error => throw (.resolution error)

def fieldsOf (ctx : Context) (sels : List Selection) : Builder (List Field) :=
  StateT.lift (collect ctx.document ctx.environment sels)

/-- The length in bytes to which a field name is cut in a statement name. -/
def maxStem : Nat := 40

def nextAlias (field : String) : Builder String := do
  let number := (← get) + 1
  set number
  return String.ofList (field.toList.take maxStem) ++ "-" ++ toString number

def givenArguments (ctx : Context) (field : String) :
    List Argument → Builder (List (String × Literal))
  | [] => return []
  | arg :: args => do
      match Literal.ofValue ctx.environment arg.value with
      | .error error => fail ("argument " ++ arg.name.value ++ " of " ++ field ++ ": " ++ error.message)
      | .ok found => do
          let others ← givenArguments ctx field args
          match found with
          | some value => return (arg.name.value, value) :: others
          | none => return others

/-- The arguments of a field: those given, then the defaults of those that are not. -/
def arguments (ctx : Context) (parent field : String) (given : List Argument) :
    Builder (List (String × Literal)) := do
  let found ← givenArguments ctx field given
  let defaults := (ctx.schema.argumentDefaults parent field).filter fun entry =>
    !(found.any fun known => known.1 == entry.1)
  return found ++ defaults

def addName (names : List String) (name : String) : List String :=
  if names.contains name then names else names ++ [name]

/-- The parts of a connection found so far: the node is not known until it is met. -/
structure Parts where
  connection : Connection
  edgesSeen : Bool
  node? : Option (Field × String)

def Parts.none : Parts :=
  ⟨{ edges := "", node := "", cursors := [], totals := [], pages := [], type := "", typeNames := [],
     edgeType := "", edgeTypeNames := [] }, false, .none⟩

def edgeField (ctx : Context) (rel edgeType : String) (parts : Parts) (field : Field) :
    Builder Parts := do
  let conn := parts.connection
  match field.name with
  | "node" =>
    if parts.node?.isSome then fail ("connection " ++ rel ++ " selects node more than once")
    let found ← fieldType ctx edgeType "node"
    return { parts with
      node? := some (field, found.type)
      connection := { conn with node := field.responseName } }
  | "cursor" =>
    return { parts with
      connection := { conn with cursors := addName conn.cursors field.responseName } }
  | "__typename" =>
    return { parts with
      connection := { conn with
        edgeType
        edgeTypeNames := addName conn.edgeTypeNames field.responseName } }
  | name => fail ("unsupported field " ++ name ++ " in edges of " ++ rel)

def pageField (ctx : Context) (rel connectionType : String) (page : PageInfo) (field : Field) :
    Builder PageInfo := do
  match field.name with
  | "hasNextPage" => return { page with hasNext := addName page.hasNext field.responseName }
  | "endCursor" => return { page with endCursor := addName page.endCursor field.responseName }
  | "__typename" =>
    let found ← fieldType ctx connectionType "pageInfo"
    return { page with
      type := found.type
      typeNames := addName page.typeNames field.responseName }
  | name => fail ("unsupported field " ++ name ++ " in pageInfo of " ++ rel)

def connectionField (ctx : Context) (rel connectionType : String) (parts : Parts)
    (field : Field) : Builder Parts := do
  let conn := parts.connection
  match field.name with
  | "edges" =>
    if parts.edgesSeen then fail ("connection " ++ rel ++ " selects edges more than once")
    let found ← fieldType ctx connectionType "edges"
    let inner ← fieldsOf ctx field.selections
    let started := { parts with
      edgesSeen := true
      connection := { conn with edges := field.responseName } }
    inner.foldlM (edgeField ctx rel found.type) started
  | "totalCount" =>
    return { parts with
      connection := { conn with totals := addName conn.totals field.responseName } }
  | "__typename" =>
    return { parts with
      connection := { conn with
        type := connectionType
        typeNames := addName conn.typeNames field.responseName } }
  | "pageInfo" =>
    let inner ← fieldsOf ctx field.selections
    let page ← inner.foldlM (pageField ctx rel connectionType)
      ⟨field.responseName, [], [], "", []⟩
    return { parts with connection := { conn with pages := conn.pages ++ [page] } }
  | name => fail ("unsupported field " ++ name ++ " on connection " ++ rel)

def connection (ctx : Context) (rel connectionType : String) (fields : List Field) :
    Builder (Connection × List Selection × String) := do
  let parts ← fields.foldlM (connectionField ctx rel connectionType) Parts.none
  match parts.node? with
  | none => fail ("edges of connection " ++ rel ++ " must select node")
  | some (node, nodeType) => return (parts.connection, node.selections, nodeType)

def isAttribute (field : Field) : Bool :=
  field.name == "__typename" || field.selections.isEmpty

def nodesWith (build : Field → Builder Node) : List Field → Builder (List Node)
  | [] => return []
  | field :: fields => do
      let node ← build field
      let nodes ← nodesWith build fields
      return node :: nodes

def relation (context : Context) : (fuel : Nat) → (parent : String) → Field → Builder Root
  | 0, _, _ => throw .unfinished
  | fuel + 1, parent, field => do
      let node (type : String) (inner : Field) : Builder Node := do
        if isAttribute inner then return .attribute inner.name inner.responseName
        else
          let found ← relation context fuel type inner
          return .relation found.head found.children
      let found ← fieldType context parent field.name
      let given ← arguments context parent field.name field.arguments
      let aliasName ← nextAlias field.name
      let fields ← fieldsOf context field.selections
      if fields.any fun inner => inner.name == "edges" then
        let (connection, selections, nodeType) ← connection context field.name found.type fields
        let inner ← fieldsOf context selections
        let children ← nodesWith (node nodeType) inner
        return ⟨{ field := field.name, responseName := field.responseName, aliasName,
                  target := ⟨nodeType, true⟩, arguments := given, connection? := some connection },
          children⟩
      else
        let children ← nodesWith (node found.type) fields
        return ⟨{ field := field.name, responseName := field.responseName, aliasName, target := found,
                  arguments := given, connection? := none }, children⟩

/-- Build the relation of a field at the top of a request. -/
def root (context : Context) (fuel : Nat) (field : Field) : Builder Root := do
  if field.selections.isEmpty then fail ("root field " ++ field.name ++ " must select subfields")
  if field.name = "__typename" then fail ("root field " ++ field.name ++ " is not a relation")
  relation context fuel context.schema.queryType field

end Builder

/-- A bound on how deeply relations nest, unless fragments lead back to themselves for ever: after as
many levels some selections have been met twice on one type. -/
def Context.depthBound (ctx : Context) : Nat :=
  (ctx.document.selectionCount + 1) * (ctx.schema.types.length + 1) + 1

/-- The relations a selection set asks for, in its order. -/
def build (ctx : Context) (sels : List Selection) : Except BuildError (List Root) := do
  let fields ← collect ctx.document ctx.environment sels
  let (roots, _) ← (fields.mapM (Builder.root ctx ctx.depthBound)).run 0
  return roots

/-- The variables of an operation: those supplied, and the defaults of those that are not. -/
def completeVariables (op : Operation) (supplied : Environment) :
    Except ResolutionError Environment :=
  op.variableDefinitions.foldlM (fun env decl =>
    let name := decl.name.value
    match env.lookup name, decl.default? with
    | none, some value =>
      match Literal.ofValue [] value with
      | .error error => .error ⟨"default of $" ++ name ++ ": " ++ error.message⟩
      | .ok (some found) => .ok (env ++ [(name, found)])
      | .ok none => .ok env
    | _, _ => .ok env) supplied

end SelectGraph.Tree
