import SelectGraph.Proofs.Tree.Keys

/-!
# Trees that differ in response names

Two trees that differ in response names only have the same relations and columns in the same places.
This fixes how a value of the first becomes one of the second: its keys are renamed in the objects
that the tree describes, and nowhere inside the values of columns.
-/

namespace SelectGraph

open List

/-! ## Changes of keys -/

/-- How something written in a statement changes with its keys: which keys its text exchanges, in
order, and how its JSON values correspond. -/
structure Change where
  keys : List (String × String)
  values : Json → Json → Prop

/-- How a member of an object is renamed: its key, the new key, and what becomes of its value. -/
structure MemberChange extends Change where
  key : String
  renamed : String

/-- A member whose value is written elsewhere. -/
def MemberChange.read (member : MemberChange) : MemberChange := { member with keys := [] }

/-- Members with renamed keys and values that correspond, one by one. -/
inductive MembersRekeyed :
    List MemberChange → List (String × Json) → List (String × Json) → Prop
  | nil : MembersRekeyed [] [] []
  | cons {member : MemberChange} {members : List MemberChange} {value other : Json}
      {values others : List (String × Json)} (first : member.values value other)
      (rest : MembersRekeyed members values others) :
      MembersRekeyed (member :: members) ((member.key, value) :: values)
        ((member.renamed, other) :: others)

/-- Objects whose members are renamed one by one. -/
inductive Json.Rekeyed (members : List MemberChange) : Json → Json → Prop
  | object {values others : List (String × Json)} (each : MembersRekeyed members values others) :
      Rekeyed members (.object values) (.object others)

/-- Lists whose items correspond one by one. -/
inductive Json.Itemwise (related : Json → Json → Prop) : Json → Json → Prop
  | list {items others : List Json} (each : List.Forall₂ related items others) :
      Itemwise related (.list items) (.list others)

/-- Values that correspond, or null in place of both. -/
def Json.OrNull (related : Json → Json → Prop) (value other : Json) : Prop :=
  related value other ∨ value = .null ∧ other = .null

namespace Change

/-- Nothing is renamed. -/
def none : Change := ⟨[], Eq⟩

/-- In an object each key is written before those inside its value. -/
def object (members : List MemberChange) : Change where
  keys := members.flatMap fun member => (member.key, member.renamed) :: member.keys
  values := Json.Rekeyed members

def list (item : Change) : Change where
  keys := item.keys
  values := Json.Itemwise item.values

/-- The keys of inner relations are written before those of the value of a relation. -/
def after (value : Change) (inner : List MemberChange) : Change :=
  { value with keys := inner.flatMap (·.keys) ++ value.keys }

def orNull (value : Change) : Change := { value with values := Json.OrNull value.values }

end Change

/-- One value under other names. -/
def plainChanges (names others : List String) : List MemberChange :=
  zipWith (fun key renamed => { Change.none with key, renamed }) names others

namespace Tree

/-! ## Trees of one shape -/

/-- Page information with as many names for each part. -/
structure PageInfo.Renames (page other : PageInfo) : Prop where
  hasNext : page.hasNext.length = other.hasNext.length
  endCursor : page.endCursor.length = other.endCursor.length
  type : page.type = other.type
  typeNames : page.typeNames.length = other.typeNames.length

/-- Connections with as many names for each part. -/
structure Connection.Renames (conn other : Connection) : Prop where
  cursors : conn.cursors.length = other.cursors.length
  totals : conn.totals.length = other.totals.length
  pages : List.Forall₂ PageInfo.Renames conn.pages other.pages
  type : conn.type = other.type
  typeNames : conn.typeNames.length = other.typeNames.length
  edgeType : conn.edgeType = other.edgeType
  edgeTypeNames : conn.edgeTypeNames.length = other.edgeTypeNames.length

/-- Relations that differ in response names only. -/
inductive Head.Renames (head : Head) : Head → Prop
  | intro {responseName : String} {connection? : Option Connection}
      (connections : Option.Rel Connection.Renames head.connection? connection?) :
      Head.Renames head { head with responseName, connection? }

mutual

/-- Nodes that differ in response names only. -/
def Node.Renames : Node → Node → Prop
  | .attribute field _, .attribute other _ => field = other
  | .relation head children, .relation other others =>
    head.Renames other ∧ nodesRename children others
  | .attribute _ _, .relation _ _ => False
  | .relation _ _, .attribute _ _ => False

def nodesRename : List Node → List Node → Prop
  | [], [] => True
  | node :: nodes, other :: others => node.Renames other ∧ nodesRename nodes others
  | [], _ :: _ => False
  | _ :: _, [] => False

end

def Root.Renames (root other : Root) : Prop :=
  root.head.Renames other.head ∧ nodesRename root.children other.children

/-! ## How values are renamed -/

def PageInfo.change (page other : PageInfo) : MemberChange :=
  { Change.object (plainChanges page.hasNext other.hasNext ++
      plainChanges page.endCursor other.endCursor ++
      plainChanges page.typeNames other.typeNames) with
    key := page.responseName, renamed := other.responseName }

/-- How an edge is renamed, given how the object of its node is. -/
def Connection.edgeChange (conn other : Connection) (node : Change) : Change :=
  .object ({ node with key := conn.node, renamed := other.node } ::
    plainChanges conn.cursors other.cursors ++
      plainChanges conn.edgeTypeNames other.edgeTypeNames)

/-- How a connection is renamed, given how the objects of its nodes are. -/
def Connection.change (conn other : Connection) (node : Change) : Change :=
  .object ({ (conn.edgeChange other node).list with key := conn.edges, renamed := other.edges } ::
    plainChanges conn.totals other.totals ++
      zipWith PageInfo.change conn.pages other.pages ++
      plainChanges conn.typeNames other.typeNames)

/-- How the value of a relation is renamed, given how the members of its rows are. -/
def Head.change (head other : Head) (children : List MemberChange) : Change :=
  let row := Change.object (children.map MemberChange.read)
  match head.connection?, other.connection? with
  | some conn, some otherConn => conn.change otherConn row
  | _, _ => if head.target.isList then row.list else row

mutual

/-- How a node is renamed. The values of columns stay as they are. -/
def Node.change : Node → Node → Change
  | .relation head children, .relation other others =>
    let inner := nodeChanges children others
    ((head.change other inner).after inner).orNull
  | _, _ => .none

/-- How the members of a row are renamed. -/
def nodeChanges : List Node → List Node → List MemberChange
  | node :: nodes, other :: others =>
    { node.change other with key := node.responseName, renamed := other.responseName } ::
      nodeChanges nodes others
  | _, _ => []

end

/-- How a tree is renamed. -/
def Root.change (root other : Root) : Change :=
  let inner := nodeChanges root.children other.children
  (root.head.change other.head inner).after inner

/-! ## What the names decide -/

theorem isEmpty_eq {names others : List String} (same : names.length = others.length) :
    names.isEmpty = others.isEmpty := by
  rw [Bool.eq_iff_iff, isEmpty_iff_length_eq_zero, isEmpty_iff_length_eq_zero, same]

theorem any_names_eq {pages others : List PageInfo}
    (renames : List.Forall₂ PageInfo.Renames pages others) (names : PageInfo → List String)
    (same : ∀ {page other : PageInfo}, page.Renames other →
      (names page).length = (names other).length) :
    pages.any (fun page => !(names page).isEmpty) =
      others.any fun page => !(names page).isEmpty := by
  induction renames with
  | nil => rfl
  | cons first _ ih => rw [any_cons, any_cons, ih, isEmpty_eq (same first)]

namespace Connection.Renames

variable {conn other : Connection} (renames : conn.Renames other)

include renames

theorem wantsEndCursor : conn.wantsEndCursor = other.wantsEndCursor :=
  any_names_eq renames.pages _ fun page => page.endCursor

theorem wantsHasNext : conn.wantsHasNext = other.wantsHasNext :=
  any_names_eq renames.pages _ fun page => page.hasNext

theorem wantsCursor : conn.wantsCursor = other.wantsCursor := by
  rw [Connection.wantsCursor, Connection.wantsCursor, renames.wantsEndCursor,
    isEmpty_eq renames.cursors]

end Connection.Renames

end Tree

end SelectGraph
