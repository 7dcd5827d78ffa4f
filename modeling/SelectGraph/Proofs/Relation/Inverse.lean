import SelectGraph.Proofs.Catalog.Junctions
import SelectGraph.Proofs.Plan.Conditions
import SelectGraph.Proofs.Relation.Grouping

/-!
# Inverse relations

The relations that a catalog implies come in pairs: that of a foreign key with the one back, and the
two directions of a junction.  In each pair, one relation leads from a row to another exactly when
the other leads back.
-/

namespace SelectGraph

open List

open Plan (agree relates relation_decides)
open Sql (Domain Row Scope Store)
open Sql.Predicate (Decides)

variable {cols others : List String} {catalog : Catalog} {junction : Junction}
  {rel : Relation} {domain : Domain} {store : Store} {a b : Row domain}

/-! ## Equal values -/

/-- Two columns are equal and neither of them is null. -/
def Matches (a b : Option domain.Value) : Prop :=
  ∃ x y, a = some x ∧ b = some y ∧ domain.compare x y = .eq

theorem agree_eq_true {a b : Option domain.Value} : agree a b = true ↔ Matches a b := by
  cases a <;> cases b <;> simp [agree, Matches]

theorem Matches.symm {a b : Option domain.Value} (same : Matches a b) : Matches b a := by
  obtain ⟨x, y, rfl, rfl, equal⟩ := same
  exact ⟨y, x, rfl, rfl, Std.OrientedCmp.eq_symm equal⟩

/-- Columns of one row match columns of another, position by position. -/
def Aligned (a b : Row domain) (cols others : List String) : Prop :=
  List.Forall₂ (fun col other => Matches (a col) (b other)) cols others

theorem Aligned.symm (aligned : Aligned a b cols others) : Aligned b a others cols :=
  List.Forall₂.flip (aligned.imp fun _ _ => Matches.symm)

theorem aligned_comm : Aligned a b cols others ↔ Aligned b a others cols :=
  ⟨Aligned.symm, Aligned.symm⟩

theorem aligned_iff_zip (paired : cols.length = others.length) :
    Aligned a b cols others ↔
      (cols.zip others).all (fun pair => agree (a pair.1) (b pair.2)) = true := by
  rw [Aligned, forall₂_iff_zip, all_eq_true]
  simp [paired, agree_eq_true]

/-! ## Constraints and junctions -/

/-- A side of a junction has as many columns as it references. -/
def JunctionSide.Paired (side : JunctionSide) : Prop :=
  side.columns.length = side.referenced.length

namespace Junction

variable {table : Table}

/-- A junction stands for a table with two foreign keys, which are its sides in one order or the
other. -/
def Joins (junction : Junction) (table : Table) : Prop :=
  junction.table = table.name ∧ ∃ first second, table.constraints = [first, second] ∧
    ((junction.left = side first ∧ junction.right = side second) ∨
      (junction.left = side second ∧ junction.right = side first))

theorem ofTable?_joins (found : ofTable? catalog table = some junction) : junction.Joins table := by
  obtain ⟨left, right, connects, rfl⟩ := ofTable?_eq_some_iff.mp found
  rcases perm_pair.mp connects.constraints with constraints | constraints
  · exact ⟨rfl, left, right, constraints, .inl ⟨rfl, rfl⟩⟩
  · exact ⟨rfl, right, left, constraints, .inr ⟨rfl, rfl⟩⟩

theorem Joins.paired (joins : junction.Joins table) :
    junction.left.Paired ∧ junction.right.Paired := by
  obtain ⟨-, first, second, constraints, sides⟩ := joins
  have paired : ∀ constraint ∈ [first, second], constraint.Paired := by
    rw [← constraints]
    exact fun constraint mem => Table.constraints_paired mem
  have pairedFirst := paired first (by simp)
  have pairedSecond := paired second (by simp)
  rcases sides with ⟨left, right⟩ | ⟨left, right⟩
  · rw [left, right]
    exact ⟨pairedFirst, pairedSecond⟩
  · rw [left, right]
    exact ⟨pairedSecond, pairedFirst⟩

end Junction

theorem Catalog.junctions_joins (mem : junction ∈ catalog.junctions) :
    ∃ table ∈ catalog.tables, junction.Joins table := by
  obtain ⟨table, memTable, classified⟩ := junctions_ofTable? mem
  exact ⟨table, memTable, Junction.ofTable?_joins classified⟩

/-! ## Relations between rows -/

/-- Two tables stand for two rows, under names that the name of a junction does not hide. -/
structure Meets (scope : Scope domain) (left right : TableRef) (a b : Row domain) : Prop where
  bindsLeft : scope.Binds left.aliasName a
  bindsRight : scope.Binds right.aliasName b
  apart : left.aliasName ≠ Relation.junctionAlias right

namespace Relation

variable {fact : Row store → Row store → Prop}

def Holds (store : Store) (rel : Relation) (scope : Scope store)
    (left right : TableRef) : Prop :=
  (rel.predicate left right).eval store scope = .ok (some true)

/-- The condition of a relation decides a fact of every two rows. -/
def Leads (store : Store) (rel : Relation)
    (fact : Row store → Row store → Prop) : Prop :=
  ∀ (scope : Scope store) (left right : TableRef) (a b : Row store),
    Meets scope left right a b → Decides store scope (rel.predicate left right) (fact a b)

theorem leads_iff (means : ∀ a b, relates store rel a b = true ↔ fact a b) :
    rel.Leads store fact := by
  intro scope left right a b meets
  exact (relation_decides rel meets.bindsLeft meets.bindsRight meets.apart).iff (means a b)

theorem Leads.holds_iff (leads : rel.Leads store fact) {scope : Scope store}
    {left right : TableRef} {a b : Row store} (meets : Meets scope left right a b) :
    rel.Holds store scope left right ↔ fact a b := by
  obtain ⟨truth, evaluated, decided⟩ := leads scope left right a b meets
  rw [Holds, evaluated, Except.ok.injEq, decided]

/-- A relation leads back where another leads, wherever the two are evaluated. -/
structure Inverse (store : Store) (rel back : Relation) : Prop where
  left : back.left = rel.right
  right : back.right = rel.left
  holds : ∀ (scope scope' : Scope store) (left right left' right' : TableRef)
    (a b : Row store), Meets scope left right a b → Meets scope' left' right' b a →
    (rel.Holds store scope left right ↔ back.Holds store scope' left' right')

theorem Inverse.of_leads {back : Relation} (left : back.left = rel.right)
    (right : back.right = rel.left) (leads : rel.Leads store fact)
    (leadsBack : back.Leads store fun b a => fact a b) : Inverse store rel back := by
  refine ⟨left, right, ?_⟩
  intro scope scope' leftRef rightRef leftRef' rightRef' a b meets meetsBack
  rw [leads.holds_iff meets, leadsBack.holds_iff meetsBack]

end Relation

namespace Constraint

variable {table : Table} {constraint : Constraint}

theorem toOne_leads (paired : constraint.Paired) :
    (constraint.toOne table).Leads store
      fun a b => Aligned a b constraint.columns constraint.referenced := by
  refine Relation.leads_iff fun a b => ?_
  rw [aligned_iff_zip paired]
  by_cases self : table.name == constraint.table <;> simp [relates, toOne, self, pairs]

theorem toMany_leads (names : Naming) (paired : constraint.Paired) :
    (constraint.toMany names table).Leads store
      fun b a => Aligned a b constraint.columns constraint.referenced := by
  refine Relation.leads_iff fun b a => ?_
  rw [aligned_comm, aligned_iff_zip paired.symm, ← zip_swap]
  by_cases self : table.name == constraint.table <;> simp [relates, toMany, self, pairs]

theorem toOne_inverse (names : Naming) (paired : constraint.Paired) :
    Relation.Inverse store (constraint.toOne table) (constraint.toMany names table) :=
  .of_leads rfl rfl (toOne_leads paired) (toMany_leads names paired)

end Constraint

namespace Junction

/-- A row of a junction table matches two rows in the columns of its two sides. -/
def Links (source target : JunctionSide) (middle a b : Row domain) : Prop :=
  Aligned middle a source.columns source.referenced ∧
    Aligned middle b target.columns target.referenced

theorem relation_leads (names : Naming) (table : String) {source target : JunctionSide}
    (pairedSource : source.Paired) (pairedTarget : target.Paired) :
    (Junction.relation names table source target).Leads store
      fun a b => ∃ middle ∈ store.rows table, Links source target middle a b := by
  refine Relation.leads_iff fun a b => ?_
  simp only [relates, Junction.relation, any_eq_true, Bool.and_eq_true, Links,
    aligned_iff_zip pairedSource, aligned_iff_zip pairedTarget]
  simp only [← zip_swap source.columns, ← zip_swap target.columns, all_map]
  rfl

theorem relation_inverse (names : Naming) (table : String) {left right : JunctionSide}
    (pairedLeft : left.Paired) (pairedRight : right.Paired) :
    Relation.Inverse store (Junction.relation names table left right)
      (Junction.relation names table right left) := by
  refine .of_leads rfl rfl (relation_leads names table pairedLeft pairedRight) ?_
  simpa only [Links, and_comm] using relation_leads names table pairedRight pairedLeft

end Junction

/-! ## Pairs of relations -/

namespace Catalog

variable {names : Naming}

/-- For each foreign key, the relation to the row it references and the one back. -/
def keyPairs (catalog : Catalog) (names : Naming) : List (Relation × Relation) :=
  catalog.tables.flatMap fun table => table.constraints.map fun constraint =>
    (constraint.toOne table, constraint.toMany names table)

/-- For each junction, the relation from its left side to its right side and the one back. -/
def junctionPairs (catalog : Catalog) (names : Naming) : List (Relation × Relation) :=
  catalog.junctions.map fun junction =>
    (Junction.relation names junction.table junction.left junction.right,
      Junction.relation names junction.table junction.right junction.left)

theorem derivedRelations_eq (catalog : Catalog) (names : Naming) :
    catalog.derivedRelations names =
      (catalog.keyPairs names ++ catalog.junctionPairs names).flatMap fun pair =>
        [pair.1, pair.2] := by
  simp only [derivedRelations, keyPairs, junctionPairs, flatMap_append, flatMap_assoc,
    flatMap_map]

theorem keyPairs_inverse {pair : Relation × Relation} (mem : pair ∈ catalog.keyPairs names) :
    Relation.Inverse store pair.1 pair.2 := by
  obtain ⟨table, -, memPair⟩ := mem_flatMap.mp mem
  obtain ⟨constraint, memConstraint, rfl⟩ := mem_map.mp memPair
  exact Constraint.toOne_inverse names (Table.constraints_paired memConstraint)

theorem junctionPairs_inverse {pair : Relation × Relation}
    (mem : pair ∈ catalog.junctionPairs names) : Relation.Inverse store pair.1 pair.2 := by
  obtain ⟨junction, memJunction, rfl⟩ := mem_map.mp mem
  obtain ⟨table, -, joins⟩ := junctions_joins memJunction
  exact Junction.relation_inverse names junction.table joins.paired.1 joins.paired.2

/-- The relations of a catalog are those of its foreign keys and its junctions, each followed by its
inverse. That of a foreign key leads to the rows whose referenced columns match its own, and that of
a junction to the rows that some row of the junction table links. -/
theorem derived_relations_inverse (catalog : Catalog) (names : Naming) (store : Store) :
    catalog.derivedRelations names =
      (catalog.keyPairs names ++ catalog.junctionPairs names).flatMap (fun pair =>
        [pair.1, pair.2]) ∧
    (∀ pair ∈ catalog.keyPairs names ++ catalog.junctionPairs names,
      Relation.Inverse store pair.1 pair.2) ∧
    (∀ table ∈ catalog.tables,
      (table.constraints.flatMap Constraint.pairs).Perm (table.foreignKeys.map ForeignKey.pair) ∧
      ∀ constraint ∈ table.constraints, constraint.Paired ∧
        (constraint.toOne table).Leads store fun a b =>
          Aligned a b constraint.columns constraint.referenced) ∧
    ∀ junction ∈ catalog.junctions, (∃ table ∈ catalog.tables, junction.Joins table) ∧
      junction.left.Paired ∧ junction.right.Paired ∧
      (Junction.relation names junction.table junction.left junction.right).Leads store fun a b =>
        ∃ middle ∈ store.rows junction.table,
          Junction.Links junction.left junction.right middle a b := by
  refine ⟨derivedRelations_eq catalog names, ?_, ?_, ?_⟩
  · intro pair mem
    rcases List.mem_append.mp mem with key | junction
    · exact keyPairs_inverse key
    · exact junctionPairs_inverse junction
  · intro table _
    refine ⟨table.constraints_pairs, ?_⟩
    intro constraint mem
    have paired := Table.constraints_paired mem
    exact ⟨paired, Constraint.toOne_leads paired⟩
  · intro junction mem
    obtain ⟨table, memTable, joins⟩ := junctions_joins mem
    obtain ⟨pairedLeft, pairedRight⟩ := joins.paired
    exact ⟨⟨table, memTable, joins⟩, pairedLeft, pairedRight,
      Junction.relation_leads names junction.table pairedLeft pairedRight⟩

/-- Students who take courses; a course has a key of two columns. -/
def courseCatalog : Catalog :=
  { tables := [
      ⟨"course", [⟨"dept", "int", false⟩, ⟨"number", "int", false⟩], ["dept", "number"], [], []⟩,
      ⟨"student", [⟨"id", "int", false⟩], ["id"], [], []⟩,
      ⟨"enrolment", [⟨"student", "int", false⟩, ⟨"dept", "int", false⟩, ⟨"number", "int", false⟩],
        ["student", "dept", "number"],
        [⟨"student", "student", "id", "by_student", 1⟩,
          ⟨"number", "course", "number", "in_course", 2⟩,
          ⟨"dept", "course", "dept", "in_course", 1⟩], []⟩]
    typeTables := [] }

/-- The junction of courses and students. The columns of the key of a course are in their order. -/
def enrolmentJunction : Junction :=
  ⟨"enrolment", ⟨["dept", "number"], "course", ["dept", "number"]⟩,
    ⟨["student"], "student", ["id"]⟩, []⟩

theorem enrolmentJunction_mem : enrolmentJunction ∈ courseCatalog.junctions := by
  decide_cbv

/-- One student in one course, and an enrolment without a course number. -/
def courseStore : Store :=
  .ofIntegers fun table =>
    if table = "enrolment" then
      [Sql.integerRow [("student", 7), ("dept", 2)],
        Sql.integerRow [("student", 7), ("dept", 1), ("number", 101)]]
    else []

/-- A scope in which a course and a student stand for rows. -/
def courseScope (dept number student : Int) : Scope courseStore.toDomain :=
  ⟨[("c", .ofRow (Sql.integerRow [("dept", dept), ("number", number)])),
    ("s", .ofRow (Sql.integerRow [("id", student)]))], []⟩

theorem derived_relations_inverse_course :
    let forward := Junction.relation .default "enrolment" enrolmentJunction.left
      enrolmentJunction.right
    let back := Junction.relation .default "enrolment" enrolmentJunction.right
      enrolmentJunction.left
    (forward, back) ∈ courseCatalog.junctionPairs .default ∧
    forward.Holds courseStore (courseScope 1 101 7) ⟨"course", "c"⟩ ⟨"student", "s"⟩ ∧
    back.Holds courseStore (courseScope 1 101 7) ⟨"student", "s"⟩ ⟨"course", "c"⟩ ∧
    ¬ forward.Holds courseStore (courseScope 2 0 7) ⟨"course", "c"⟩ ⟨"student", "s"⟩ := by
  intro forward back
  have mem : (forward, back) ∈ courseCatalog.junctionPairs .default :=
    List.mem_map_of_mem enrolmentJunction_mem
  obtain ⟨-, inverse, -, junctions⟩ :=
    derived_relations_inverse courseCatalog .default courseStore
  obtain ⟨-, -, -, leads⟩ := junctions enrolmentJunction enrolmentJunction_mem
  have meets : ∀ dept number, Meets (courseScope dept number 7) ⟨"course", "c"⟩ ⟨"student", "s"⟩
      (Sql.integerRow [("dept", dept), ("number", number)]) (Sql.integerRow [("id", 7)]) :=
    fun dept number => ⟨rfl, rfl, by decide⟩
  have meetsBack : Meets (courseScope 1 101 7) ⟨"student", "s"⟩ ⟨"course", "c"⟩
      (Sql.integerRow [("id", 7)]) (Sql.integerRow [("dept", 1), ("number", 101)]) :=
    ⟨rfl, rfl, by decide⟩
  have holds : forward.Holds courseStore (courseScope 1 101 7) ⟨"course", "c"⟩ ⟨"student", "s"⟩ := by
    refine (leads.holds_iff (meets 1 101)).mpr ⟨_, List.mem_cons_of_mem _ List.mem_cons_self, ?_⟩
    exact ⟨.cons ⟨_, _, rfl, rfl, rfl⟩ (.cons ⟨_, _, rfl, rfl, rfl⟩ .nil),
      .cons ⟨_, _, rfl, rfl, rfl⟩ .nil⟩
  refine ⟨mem, holds, ?_, ?_⟩
  · exact ((inverse _ (List.mem_append_right _ mem)).holds _ _ _ _ _ _ _ _ (meets 1 101)
      meetsBack).mp holds
  · intro related
    obtain ⟨middle, memMiddle, aligned, -⟩ := (leads.holds_iff (meets 2 0)).mp related
    obtain ⟨dept, rest⟩ := List.forall₂_cons.mp aligned
    obtain ⟨number, -⟩ := List.forall₂_cons.mp rest
    -- The first enrolment has no number, the second is in another department.
    rcases List.mem_cons.mp memMiddle with rfl | memOther
    · obtain ⟨_, _, found, -⟩ := number
      cases found
    · cases List.mem_singleton.mp memOther
      obtain ⟨_, _, found, foundOther, same⟩ := dept
      cases found
      cases foundOther
      cases same

end Catalog

end SelectGraph
