import SelectGraph.Proofs.Relation.Check

/-!
# Which tables are junctions

A table is a junction by the names it gives for its keys, letter by letter.  Columns and tables are
otherwise looked up without regard to case, so that a junction can have keys of nullable columns.
-/

namespace SelectGraph

open List

variable {catalog : Catalog} {table : Table} {junction : Junction}

namespace Table

def foreignColumns (table : Table) : List String :=
  table.constraints.flatMap Constraint.columns

/-- The primary key and the unique indexes. -/
def uniqueKeys (table : Table) : List (List String) :=
  table.primaryKey :: (table.indexes.filter TableIndex.unique).map TableIndex.columns

/-- The foreign keys of a table reference tables, no column that they name may be null, and some key
holds all their names. -/
@[mk_iff]
structure Admits (catalog : Catalog) (table : Table) : Prop where
  known : ∀ constraint ∈ table.constraints, (catalog.table? constraint.table).isSome = true
  required : ∀ column ∈ table.columns, column.name ∈ table.foreignColumns → column.nullable = false
  covered : ∃ key ∈ table.uniqueKeys, ∀ name ∈ table.foreignColumns, name ∈ key

/-- A table connects two others: it has two foreign keys, to tables of different names. -/
structure Connects (catalog : Catalog) (table : Table) (left right : Constraint) : Prop extends
    table.Admits catalog where
  constraints : table.constraints.Perm [left, right]
  ordered : left.table < right.table

/-- The junction of two foreign keys of a table, with the columns that no foreign key names. -/
def asJunction (table : Table) (left right : Constraint) : Junction :=
  ⟨table.name, Junction.side left, Junction.side right,
    table.columnNames.filter fun name => !table.foreignColumns.contains name⟩

end Table

namespace Junction

/-- What is found for a table with two foreign keys. -/
theorem ofTable?_pair {first second : Constraint} (constraints : table.constraints = [first, second]) :
    ofTable? catalog table = some junction ↔
      (first.table ≠ second.table ∧ table.Admits catalog) ∧
      junction = if second.table < first.table then table.asJunction second first
        else table.asJunction first second := by
  have columns : first.columns ++ second.columns = table.foreignColumns := by
    simp [Table.foreignColumns, constraints]
  have covers : isCovered table table.foreignColumns = true ↔
      ∃ key ∈ table.uniqueKeys, ∀ name ∈ table.foreignColumns, name ∈ key := by
    simp [isCovered, Table.uniqueKeys, and_assoc]
  rw [ofTable?, constraints]
  dsimp only
  rw [columns]
  split
  · rename_i unfit
    refine iff_of_false nofun fun fits => ?_
    obtain ⟨⟨apart, known, required, covered⟩, -⟩ := fits
    rw [constraints] at known
    simp [apart, covers.mpr covered] at unfit
    grind
  · rename_i fit
    have fits : first.table ≠ second.table ∧ table.Admits catalog := by
      simpa [Table.admits_iff, constraints, covers, and_assoc, Option.isSome_iff_ne_none] using fit
    split
    · exact ⟨fun same => ⟨fits, (Option.some.inj same).symm⟩, fun same => congrArg some same.2.symm⟩
    · exact ⟨fun same => ⟨fits, (Option.some.inj same).symm⟩, fun same => congrArg some same.2.symm⟩

/-- The table of a junction connects two others, of which the one whose name comes first is on the
left. -/
theorem ofTable?_eq_some_iff :
    ofTable? catalog table = some junction ↔
      ∃ left right, table.Connects catalog left right ∧ junction = table.asJunction left right := by
  constructor
  · intro found
    obtain ⟨first, second, constraints⟩ : ∃ first second, table.constraints = [first, second] := by
      rw [ofTable?] at found
      split at found
      · exact ⟨_, _, by assumption⟩
      · cases found
    obtain ⟨⟨apart, admits⟩, rfl⟩ := (ofTable?_pair constraints).mp found
    split
    · rename_i before
      exact ⟨second, first, ⟨admits, perm_pair.mpr (.inr constraints), before⟩, rfl⟩
    · rename_i before
      exact ⟨first, second, ⟨admits, perm_pair.mpr (.inl constraints),
        lt_of_le_of_ne (not_lt.mp before) apart⟩, rfl⟩
  · rintro ⟨left, right, ⟨admits, constraints, ordered⟩, rfl⟩
    rcases perm_pair.mp constraints with constraints | constraints
    · exact (ofTable?_pair constraints).mpr ⟨⟨ordered.ne, admits⟩, (if_neg ordered.not_gt).symm⟩
    · exact (ofTable?_pair constraints).mpr ⟨⟨ordered.ne', admits⟩, (if_pos ordered).symm⟩

theorem ofTable?_table (found : ofTable? catalog table = some junction) :
    junction.table = table.name := by
  obtain ⟨left, right, -, rfl⟩ := ofTable?_eq_some_iff.mp found
  rfl

end Junction

namespace Catalog

theorem junctions_ofTable? (mem : junction ∈ catalog.junctions) :
    ∃ table ∈ catalog.tables, Junction.ofTable? catalog table = some junction := by
  rw [junctions, mem_mergeSort] at mem
  obtain ⟨⟨_, position⟩, kept, rfl⟩ := mem_map.mp mem
  have found := fst_mem_of_mem_zipIdx (mem_of_mem_filter kept)
  exact mem_filterMap.mp found

/-- The junction of a table is in the catalog, as no other table has its name. -/
theorem mem_junctions (consistent : catalog.Consistent) (mem : table ∈ catalog.tables)
    (found : Junction.ofTable? catalog table = some junction) : junction ∈ catalog.junctions := by
  have apart : (catalog.tables.filterMap (Junction.ofTable? catalog)).Pairwise fun junction later =>
      junction.table ≠ later.table := by
    refine pairwise_filterMap.mpr ((pairwise_map.mp consistent.distinct).imp ?_)
    intro table other differ junction found later foundLater
    rwa [Junction.ofTable?_table found, Junction.ofTable?_table foundLater]
  obtain ⟨before, later, split⟩ := append_of_mem (mem_filterMap.mpr ⟨table, mem, found⟩)
  rw [split, pairwise_append, pairwise_cons] at apart
  have rest : (before ++ junction :: later).drop (before.length + 1) = later := by simp
  rw [junctions, mem_mergeSort, split]
  refine mem_map.mpr ⟨(junction, before.length), mem_filter.mpr ⟨?_, ?_⟩, rfl⟩
  · simp [zipIdx_append]
  · dsimp only
    rw [rest, Bool.not_eq_true', any_eq_false]
    intro other memOther same
    exact apart.2.1.1 other memOther (beq_iff_eq.mp same).symm

/-- A catalog has a junction for a table just if the table has two foreign keys, to tables of different
names, no column that they name may be null, and the primary key or a unique index holds all their
names.  The table whose name comes first is on the left.  The attributes are the columns that no foreign
key names, and without these the junction is pure. -/
theorem junctions_classified {text : String} {catalog : Catalog} (parsed : parse text = .ok catalog)
    {table : Table} (mem : table ∈ catalog.tables) :
    (∀ junction, junction ∈ catalog.junctions ∧ junction.table = table.name ↔
      ∃ left right, table.Connects catalog left right ∧ junction = table.asJunction left right) ∧
    ∀ junction ∈ catalog.junctions, junction.table = table.name →
      (junction.isPure = true ↔
        ∀ name ∈ table.columnNames, ∃ constraint ∈ table.constraints, name ∈ constraint.columns) := by
  have consistent := parse_consistent parsed
  have classified (junction : Junction) : junction ∈ catalog.junctions ∧
      junction.table = table.name ↔
        ∃ left right, table.Connects catalog left right ∧ junction = table.asJunction left right := by
    rw [← Junction.ofTable?_eq_some_iff]
    constructor
    · rintro ⟨memJunction, named⟩
      obtain ⟨other, memOther, found⟩ := junctions_ofTable? memJunction
      rw [Junction.ofTable?_table found] at named
      rwa [List.inj_on_of_nodup_map consistent.distinct memOther mem named] at found
    · exact fun found => ⟨mem_junctions consistent mem found, Junction.ofTable?_table found⟩
  refine ⟨classified, fun junction memJunction named => ?_⟩
  obtain ⟨left, right, -, rfl⟩ := (classified junction).mp ⟨memJunction, named⟩
  simp [Junction.isPure, Table.asJunction, Table.foreignColumns]

/-- Actors and films, and roles with a foreign key that is written in capitals. -/
def roleText : String :=
  "tables:
- {name: actor, columns: [{name: id}]}
- {name: film, columns: [{name: id}]}
- {name: role, columns: [{name: film, nullable: true}, {name: actor}], primary_key: [FILM, actor],
   foreign_keys: [{column: FILM, references: film, referenced_column: id},
    {column: actor, references: actor, referenced_column: id}]}
"

def roleTable : Table :=
  ⟨"role", [⟨"film", "", true⟩, ⟨"actor", "", false⟩], ["FILM", "actor"],
    [⟨"FILM", "film", "id", "", 0⟩, ⟨"actor", "actor", "id", "", 0⟩], []⟩

def roleCatalog : Catalog :=
  ⟨[⟨"actor", [⟨"id", "", false⟩], [], [], []⟩, ⟨"film", [⟨"id", "", false⟩], [], [], []⟩, roleTable], []⟩

def roleJunction : Junction :=
  ⟨"role", ⟨["actor"], "actor", ["id"]⟩, ⟨["FILM"], "film", ["id"]⟩, ["film"]⟩

theorem roleText_parse : parse roleText = .ok roleCatalog := by
  rw [parse, readDocument, Yaml.parse, Yaml.tokens]
  set_option maxRecDepth 4000 in
    rw [show roleText.toList = _ from String.toList_ofList]
  decide +kernel

theorem roleJunction_mem : roleJunction ∈ roleCatalog.junctions := by
  decide_cbv

theorem junctions_classified_role :
    parse roleText = .ok roleCatalog ∧ roleTable ∈ roleCatalog.tables ∧
      ∃ left right, roleTable.Connects roleCatalog left right ∧
        roleJunction = roleTable.asJunction left right := by
  have mem : roleTable ∈ roleCatalog.tables := by decide
  exact ⟨roleText_parse, mem,
    ((junctions_classified roleText_parse mem).1 roleJunction).mp ⟨roleJunction_mem, rfl⟩⟩

/-- A table is a junction although a column of its foreign keys may be null, and is an attribute. -/
theorem nullable_junction :
    parse roleText = .ok roleCatalog ∧ roleJunction ∈ roleCatalog.junctions ∧
      roleJunction.table = roleTable.name ∧ "FILM" ∈ roleTable.foreignColumns ∧
      roleTable.column? "FILM" = some ⟨"film", "", true⟩ ∧ "film" ∈ roleJunction.attributes :=
  ⟨roleText_parse, roleJunction_mem, rfl, by decide_cbv, by decide_cbv, by decide⟩

end Catalog

end SelectGraph
