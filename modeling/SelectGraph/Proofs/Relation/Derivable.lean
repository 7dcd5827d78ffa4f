import SelectGraph.Proofs.Relation.Registered

/-!
# Catalogs whose relations can be derived

The relations that a catalog implies are checked like declared ones.  They pass exactly where every
foreign key leads to columns of a table of the catalog and the names made of it are not empty.
-/

namespace SelectGraph

open List

variable {catalog : Catalog} {names : Naming} {table : Table} {constraint : Constraint}

namespace Relation

variable {rel : Relation}

theorem PairsKnown.swap {first second : Table} {pairs : List (String × String)}
    (known : PairsKnown first second pairs) : PairsKnown second first (pairs.map Prod.swap) := by
  intro pair mem
  obtain ⟨original, memOriginal, rfl⟩ := mem_map.mp mem
  exact (known original memOriginal).symm

/-- Whether a relation may be registered. -/
def Accepted (catalog : Catalog) (rel : Relation) : Prop :=
  rel.check catalog = .ok () ∧ rel.validate = .ok ()

def Spelled (rel : Relation) : Prop :=
  rel.name ≠ "" ∧ rel.left ≠ "" ∧ rel.right ≠ ""

theorem Accepted.spelled (accepted : rel.Accepted catalog) : rel.Spelled := by
  by_contra unspelled
  have unnamed : rel.name = "" ∨ rel.left = "" ∨ rel.right = "" := by
    simpa [Spelled, imp_iff_not_or, or_assoc] using unspelled
  have valid := accepted.right
  simp [validate, unnamed] at valid

/-- A relation that joins its tables by columns of both. -/
structure Joins (rel : Relation) : Prop where
  pairs : rel.pairs ≠ []
  through : rel.through? = none
  strategy : rel.strategy = .direct ∨ rel.strategy = .reverse ∨
    rel.strategy = .self ∧ rel.left = rel.right

theorem Joins.accepted_iff (joins : rel.Joins) :
    rel.Accepted catalog ↔
      (∃ left right, catalog.table? rel.left = some left ∧
        catalog.table? rel.right = some right ∧ PairsKnown left right rel.pairs) ∧
          rel.Spelled := by
  constructor
  · intro accepted
    obtain ⟨left, right, known⟩ := check_eq_ok_iff.mp accepted.left
    exact ⟨⟨left, right, known.foundLeft, known.foundRight, known.pairs⟩, accepted.spelled⟩
  · rintro ⟨⟨left, right, foundLeft, foundRight, known⟩, spelled⟩
    refine ⟨check_eq_ok_iff.mpr ⟨left, right, foundLeft, foundRight, known, ?_⟩, ?_⟩
    · simp [joins.through]
    · obtain ⟨name, left, right⟩ := spelled
      rcases joins.strategy with direct | reverse | ⟨self, same⟩
      · simp [validate, name, left, right, direct, joins.pairs]
      · simp [validate, name, left, right, reverse, joins.pairs]
      · simp [validate, name, right, self, same, joins.pairs]

end Relation

namespace Constraint

theorem pairs_ne_nil (mem : constraint ∈ table.constraints) : constraint.pairs ≠ [] := by
  obtain ⟨runs, cut, grouped⟩ := table.exists_runs
  rw [grouped] at mem
  obtain ⟨run, memRun, rfl⟩ := mem_map.mp mem
  obtain ⟨key, keys, filled⟩ := exists_cons_of_ne_nil (cut.filled run memRun)
  simp [pairs, ofKeys, filled]

theorem toOne_joins (mem : constraint ∈ table.constraints) : (constraint.toOne table).Joins := by
  refine ⟨pairs_ne_nil mem, rfl, ?_⟩
  by_cases same : table.name = constraint.table <;> simp [toOne, same]

theorem toMany_joins (mem : constraint ∈ table.constraints) :
    (constraint.toMany names table).Joins := by
  refine ⟨by simpa [toMany] using pairs_ne_nil mem, rfl, ?_⟩
  by_cases same : table.name = constraint.table <;> simp [toMany, same]

/-- A foreign key leads from columns of its table to columns of another one. -/
def Leads (catalog : Catalog) (table : Table) (constraint : Constraint) : Prop :=
  ∃ own target, catalog.table? table.name = some own ∧
    catalog.table? constraint.table = some target ∧
      Relation.PairsKnown own target constraint.pairs

/-- A foreign key leads to another table, and the relation in either direction has a name. -/
structure Derivable (catalog : Catalog) (names : Naming) (table : Table) (constraint : Constraint) :
    Prop where
  leads : constraint.Leads catalog table
  spelled : table.name ≠ "" ∧ constraint.table ≠ ""
  toOne : Naming.toOneName constraint.columns ≠ ""
  toMany : (constraint.toMany names table).name ≠ ""

theorem derivable_iff (mem : constraint ∈ table.constraints) :
    constraint.Derivable catalog names table ↔ (constraint.toOne table).Accepted catalog ∧
      (constraint.toMany names table).Accepted catalog := by
  rw [(toOne_joins mem).accepted_iff, (toMany_joins mem).accepted_iff]
  constructor
  · rintro ⟨⟨own, target, foundOwn, foundTarget, known⟩, ⟨named, targetNamed⟩, toOne, toMany⟩
    exact ⟨⟨⟨own, target, foundOwn, foundTarget, known⟩, toOne, named, targetNamed⟩,
      ⟨target, own, foundTarget, foundOwn, known.swap⟩, toMany, targetNamed, named⟩
  · rintro ⟨⟨leads, toOne, named, targetNamed⟩, -, toMany, -⟩
    exact ⟨leads, ⟨named, targetNamed⟩, toOne, toMany⟩

theorem columns_of_keys (mem : constraint ∈ table.constraints) {col : String}
    (memColumn : col ∈ constraint.columns) : ∃ key ∈ table.foreignKeys, key.column = col := by
  obtain ⟨runs, cut, grouped⟩ := table.exists_runs
  rw [grouped] at mem
  obtain ⟨run, memRun, rfl⟩ := mem_map.mp mem
  obtain ⟨key, memKey, rfl⟩ := mem_map.mp memColumn
  exact ⟨key, cut.keys_perm.mem_iff.mp (mem_flatMap.mpr ⟨run, memRun, memKey⟩), rfl⟩

/-- In a checked catalog it only remains that the referenced columns are there. -/
theorem leads_iff_of_check (checked : catalog.check = .ok ()) (memTable : table ∈ catalog.tables)
    (mem : constraint ∈ table.constraints) :
    constraint.Leads catalog table ↔ ∃ target ∈ catalog.tables, target.name = constraint.table ∧
      ∀ col ∈ constraint.referenced, (target.column? col).isSome = true := by
  obtain ⟨distinct, keys⟩ := Catalog.check_tables checked
  have own := findNamed?_name distinct memTable
  have cols : ∀ col ∈ constraint.columns, (table.column? col).isSome = true := by
    intro col memColumn
    obtain ⟨key, memKey, rfl⟩ := columns_of_keys mem memColumn
    exact (Catalog.checkKeys_ok (keys table memTable).2).2 key memKey
  have paired := Table.constraints_paired mem
  constructor
  · rintro ⟨found, target, foundOwn, foundTarget, known⟩
    refine ⟨target, (findNamed?_eq_some foundTarget).1,
      (findNamed?_name_eq_iff foundTarget).mpr (Catalog.check_constraints checked memTable mem), ?_⟩
    intro col memColumn
    rw [← map_snd_zip paired.ge] at memColumn
    obtain ⟨pair, memPair, rfl⟩ := mem_map.mp memColumn
    exact (known pair memPair).2
  · rintro ⟨target, memTarget, named, known⟩
    refine ⟨table, target, own, named ▸ findNamed?_name distinct memTarget, ?_⟩
    rintro ⟨col, referenced⟩ memPair
    exact ⟨cols _ (of_mem_zip memPair).1, known _ (of_mem_zip memPair).2⟩

end Constraint

/-- The relations of a junction pass where its foreign keys lead to tables and the name is not
empty. -/
theorem Junction.relation_accepted {first second : Constraint} (memFirst : first ∈ table.constraints)
    (memSecond : second ∈ table.constraints) (firstLeads : first.Leads catalog table)
    (secondLeads : second.Leads catalog table)
    (spelled : (relation names table.name (side first) (side second)).Spelled)
    (named : table.name ≠ "") :
    (relation names table.name (side first) (side second)).Accepted catalog := by
  obtain ⟨own, left, foundOwn, foundLeft, leftKnown⟩ := firstLeads
  obtain ⟨own', right, foundOwn', foundRight, rightKnown⟩ := secondLeads
  cases foundOwn.symm.trans foundOwn'
  have swapped (constraint : Constraint) :
      constraint.referenced.zip constraint.columns = constraint.pairs.map Prod.swap :=
    (zip_swap _ _).symm
  constructor
  · refine Relation.check_eq_ok_iff.mpr ⟨left, right, foundLeft, foundRight, ?_, ?_⟩
    · exact forall_mem_nil _
    · rintro through ⟨⟩
      exact ⟨own, foundOwn, swapped first ▸ leftKnown.swap, swapped second ▸ rightKnown.swap⟩
  · obtain ⟨name, left, right⟩ := spelled
    simp only [relation, side, swapped] at name left right ⊢
    simp [Relation.validate, name, left, right, named, Constraint.pairs_ne_nil memFirst,
      Constraint.pairs_ne_nil memSecond]

namespace Registry

/-- The relations that a catalog implies can be registered exactly if every foreign key leads to
columns of a table of the catalog and no name made of it is empty.  A checked catalog may still lack
columns that foreign keys reference. -/
theorem derivation_succeeds_iff (catalog : Catalog) (names : Naming) :
    ((∃ registry, Registry.build catalog names true [] = .ok registry) ↔
        (∀ table ∈ catalog.tables, ∀ constraint ∈ table.constraints,
          constraint.Derivable catalog names table) ∧
          ∀ junction ∈ catalog.junctions, names.throughName junction.left.table ≠ "" ∧
            names.throughName junction.right.table ≠ "") ∧
      (catalog.check = .ok () → ∀ table ∈ catalog.tables, ∀ constraint ∈ table.constraints,
        (constraint.Leads catalog table ↔ ∃ target ∈ catalog.tables, target.name = constraint.table ∧
          ∀ column ∈ constraint.referenced, (target.column? column).isSome = true)) := by
  refine ⟨?_, fun checked table memTable constraint mem =>
    Constraint.leads_iff_of_check checked memTable mem⟩
  have given : Registry.build catalog names true [] =
      Registry.empty.registerAll catalog (catalog.derivedRelations names) := by
    rw [Registry.build, if_pos rfl, append_nil]
  rw [given, registerAll_eq_ok_iff]
  constructor
  · intro accepted
    constructor
    · intro table memTable constraint mem
      refine (Constraint.derivable_iff mem).mpr ⟨accepted _ ?_, accepted _ ?_⟩
      · exact Catalog.mem_derivedRelations_iff.mpr (.toOne memTable mem)
      · exact Catalog.mem_derivedRelations_iff.mpr (.toMany memTable mem)
    · intro junction mem
      have named {source target : JunctionSide} (relates : junction.Relates source target) :
          names.throughName target.table ≠ "" :=
        (Relation.Accepted.spelled (accepted _
          (Catalog.mem_derivedRelations_iff.mpr (.through mem relates)))).1
      exact ⟨named (.inr ⟨rfl, rfl⟩), named (.inl ⟨rfl, rfl⟩)⟩
  · rintro ⟨derivable, named⟩ relation mem
    cases Catalog.mem_derivedRelations_iff.mp mem with
    | toOne memTable memKey =>
      exact ((Constraint.derivable_iff memKey).mp (derivable _ memTable _ memKey)).1
    | toMany memTable memKey =>
      exact ((Constraint.derivable_iff memKey).mp (derivable _ memTable _ memKey)).2
    | @through junction memJunction source target relates =>
      have throughNamed : names.throughName target.table ≠ "" := by
        rcases relates with ⟨-, rfl⟩ | ⟨-, rfl⟩
        · exact (named junction memJunction).2
        · exact (named junction memJunction).1
      obtain ⟨table, memTable, joined, first, second, memFirst, memSecond, rfl, rfl⟩ :=
        relates.keys memJunction
      have leftSound := derivable table memTable first memFirst
      have rightSound := derivable table memTable second memSecond
      rw [joined]
      exact Junction.relation_accepted memFirst memSecond leftSound.leads rightSound.leads
        ⟨throughNamed, leftSound.spelled.2, rightSound.spelled.2⟩ leftSound.spelled.1

/-- A film whose language is referenced by a column that languages do not have. -/
def strayTable : Table :=
  { filmTable with foreignKeys := [⟨"language_id", "language", "code", "", 0⟩] }

def strayCatalog : Catalog := ⟨[strayTable, languageTable], []⟩

def strayConstraint : Constraint := ⟨"", "language", ["language_id"], ["code"]⟩

theorem derivation_succeeds_iff_stray : strayCatalog.check = .ok () ∧
    ¬ ∃ registry, Registry.build strayCatalog .default true [] = .ok registry := by
  obtain ⟨succeeds, leads⟩ := derivation_succeeds_iff strayCatalog .default
  have checked : strayCatalog.check = .ok () := by decide +kernel
  have mem : strayConstraint ∈ strayTable.constraints := by decide +kernel
  have memTable : strayTable ∈ strayCatalog.tables := mem_cons_self
  refine ⟨checked, fun built => ?_⟩
  have sound := (succeeds.mp built).1 strayTable memTable strayConstraint mem
  obtain ⟨target, memTarget, named, known⟩ := (leads checked _ memTable _ mem).mp sound.leads
  have unknown : ∀ table ∈ strayCatalog.tables, table.name = "language" →
      (table.column? "code").isSome = false := by
    decide +kernel
  have found : (target.column? "code").isSome = true := known "code" List.mem_cons_self
  rw [unknown target memTarget named] at found
  cases found

end Registry

end SelectGraph
