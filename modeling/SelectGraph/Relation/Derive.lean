import SelectGraph.Catalog.Junction
import SelectGraph.Relation.Basic

/-!
# Relations of a catalog

Every foreign key gives a relation to the row it references and one back, and every junction
table gives a relation in each direction. Declared relations are laid over those derived.
-/

namespace SelectGraph

/-- The columns of a foreign key, each with the column it references. -/
def Constraint.pairs (constraint : Constraint) : List (String × String) :=
  constraint.columns.zip constraint.referenced

/-- The relation from the rows of a table to those that a foreign key references. -/
def Constraint.toOne (table : Table) (constraint : Constraint) : Relation :=
  { name := Naming.toOneName constraint.columns
    left := table.name
    right := constraint.table
    strategy := if table.name == constraint.table then .self else .direct
    pairs := constraint.pairs
    through? := none }

/-- The relation back from referenced rows to the rows of a table with a foreign key to them. -/
def Constraint.toMany (names : Naming) (table : Table) (constraint : Constraint) : Relation :=
  let onlyKey := (table.constraints.countP fun other => other.table == constraint.table) == 1
  { name := names.toManyName table.name constraint.columns onlyKey
    left := constraint.table
    right := table.name
    strategy := if table.name == constraint.table then .self else .reverse
    pairs := constraint.pairs.map Prod.swap
    through? := none }

def Junction.relation (names : Naming) (table : String) (source target : JunctionSide) : Relation :=
  { name := names.throughName target.table
    left := source.table
    right := target.table
    strategy := .junction
    pairs := []
    through? := some
      { table
        left := source.referenced.zip source.columns
        right := target.referenced.zip target.columns } }

def Catalog.derivedRelations (catalog : Catalog) (names : Naming) : List Relation :=
  (catalog.tables.flatMap fun table => table.constraints.flatMap fun constraint =>
      [constraint.toOne table, constraint.toMany names table]) ++
    catalog.junctions.flatMap fun junction =>
      [Junction.relation names junction.table junction.left junction.right,
        Junction.relation names junction.table junction.right junction.left]

def Registry.registerAll (catalog : Catalog) (registry : Registry) :
    List Relation → Except Relation.Invalid Registry
  | [] => .ok registry
  | rel :: rels => do
      rel.check catalog
      let registry ← registry.register rel
      registry.registerAll catalog rels

/-- The registry of a catalog: the relations it implies, if wanted, and the declared ones over them. -/
def Registry.build (catalog : Catalog) (names : Naming) (derive : Bool) (declared : List Relation) :
    Except Relation.Invalid Registry :=
  let derived := if derive then catalog.derivedRelations names else []
  Registry.empty.registerAll catalog (derived ++ declared)

end SelectGraph
